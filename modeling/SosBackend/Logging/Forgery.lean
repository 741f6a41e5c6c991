import SosBackend.Logging.Vector

/-!
# Chat lines inside other texts

A call that prints a text with a line break prints a line that begins with a part of the
text. Where that part has the header of a chat message, Vector takes it for one. Since a
header has no comma, a text holds such a line if and only if one of its fields does.
-/

namespace SosBackend

namespace Logging

/-- After the first line break there is a line that Vector takes for a chat message. -/
def forges (v : Vrl) (cs : List Char) : Bool :=
  (lines cs).tail.any fun line => v.isChatMessage ⟨line, none⟩

section lines

theorem head_lines_isPrefix {line cs : List Char} (h : line ∈ (lines cs).head?) : line <+: cs := by
  induction cs generalizing line with
  | nil =>
      obtain rfl := Option.some.inj h
      exact List.prefix_rfl
  | cons c cs ih =>
      rw [lines_cons] at h
      split at h
      · obtain rfl := Option.some.inj h
        exact List.nil_prefix
      · rw [List.head?_modifyHead] at h
        obtain ⟨line, hline, rfl⟩ := Option.map_eq_some_iff.1 h
        exact List.cons_prefix_cons.2 ⟨rfl, ih hline⟩

/-- A line after the first one stands behind a line break. -/
theorem tail_lines_isInfix {line cs : List Char} (h : line ∈ (lines cs).tail) :
    '\n' :: line <:+: cs := by
  induction cs with
  | nil => exact absurd h List.not_mem_nil
  | cons c cs ih =>
      rw [lines_cons] at h
      split at h
      · next hc =>
          obtain rfl := beq_iff_eq.1 hc
          rw [List.tail_cons] at h
          obtain ⟨first, rest, hlines⟩ := exists_lines cs
          rw [hlines] at h
          rcases List.mem_cons.1 h with rfl | h
          · have hhead : line ∈ (lines cs).head? := by
              rw [hlines]
              rfl
            exact (List.cons_prefix_cons.2 ⟨rfl, head_lines_isPrefix hhead⟩).isInfix
          · refine (ih ?_).trans (List.suffix_cons _ _).isInfix
            rw [hlines]
            exact h
      · rw [List.tail_modifyHead] at h
        exact (ih h).trans (List.suffix_cons _ _).isInfix

theorem newline_not_mem_line {line cs : List Char} (h : line ∈ lines cs) : '\n' ∉ line := by
  induction cs generalizing line with
  | nil =>
      obtain rfl := List.mem_singleton.1 h
      exact List.not_mem_nil
  | cons c cs ih =>
      rw [lines_cons] at h
      split at h
      · rcases List.mem_cons.1 h with rfl | h
        · exact List.not_mem_nil
        · exact ih h
      · next hc =>
          obtain ⟨first, rest, hlines⟩ := exists_lines cs
          rw [hlines] at ih
          rw [hlines, List.modifyHead_cons] at h
          rcases List.mem_cons.1 h with rfl | h
          · rw [List.mem_cons, not_or]
            exact ⟨fun heq => hc (beq_iff_eq.2 heq.symm), ih List.mem_cons_self⟩
          · exact ih (List.mem_cons_of_mem _ h)

end lines

/-- A text forges a line where it has a chat header behind a line break. -/
theorem forges_iff {v : Vrl} {cs : List Char} : forges v cs = true ↔
    ∃ h : Header v, h.IsChat ∧ '\n' ∉ h.text ∧ '\n' :: h.text <:+: cs := by
  rw [forges, List.any_eq_true]
  constructor
  · rintro ⟨line, hline, hchat⟩
    obtain ⟨h, hh, hstart⟩ := isChatMessage_iff.1 hchat
    have hnewline : '\n' ∉ h.text := fun hmem =>
      newline_not_mem_line (List.mem_of_mem_tail hline) (hstart.subset hmem)
    exact ⟨h, hh, hnewline,
      (List.cons_prefix_cons.2 ⟨rfl, hstart⟩).isInfix.trans (tail_lines_isInfix hline)⟩
  · rintro ⟨h, hh, hnewline, xs, ys, rfl⟩
    have hlines : lines (xs ++ '\n' :: h.text ++ ys) =
        lines xs ++ (lines ys).modifyHead (h.text ++ ·) := by
      rw [List.append_assoc, List.cons_append, ← lines_append hnewline]
      exact lines_append_newline _ _
    obtain ⟨first, rest, hfirst⟩ := exists_lines ys
    refine ⟨h.text ++ first, ?_, isChatMessage_iff.2 ⟨h, hh, List.prefix_append _ _⟩⟩
    obtain ⟨before, others, hbefore⟩ := exists_lines xs
    rw [hlines, hfirst, hbefore]
    exact List.mem_append_right _ List.mem_cons_self

/-- A piece of a text without the separator is a piece of what stands on one side of it. -/
theorem infix_append_cons_iff {α : Type*} {l xs ys : List α} {c : α} (h : c ∉ l) :
    l <:+: xs ++ c :: ys ↔ l <:+: xs ∨ l <:+: ys := by
  have hnil : ∀ {l' : List α}, l' <+: c :: ys → (∀ a ∈ l', a ∈ l) → l' = [] := by
    intro l' hstart hsub
    cases l' with
    | nil => rfl
    | cons a l' =>
        obtain ⟨rfl, -⟩ := List.cons_prefix_cons.1 hstart
        exact absurd (hsub a List.mem_cons_self) h
  constructor
  · intro hpiece
    rcases List.infix_append_iff_ne_nil.1 hpiece with hxs | hys | ⟨l₁, l₂, -, hne, rfl, -, hl₂⟩
    · exact Or.inl hxs
    · rcases List.infix_cons_iff.1 hys with hstart | hys
      · rw [hnil hstart fun a ha => ha]
        exact Or.inl List.nil_infix
      · exact Or.inr hys
    · exact absurd (hnil hl₂ fun a ha => List.mem_append_right _ ha) hne
  · rintro (hxs | hys)
    · exact List.infix_append_of_infix_left hxs
    · exact List.infix_append_of_infix_right (hys.trans (List.suffix_cons _ _).isInfix)

section forges

variable {v : Vrl} {xs ys : List Char}

theorem forges_of_newline_not_mem (h : '\n' ∉ xs) : forges v xs = false := by
  rw [forges, lines_eq_singleton_iff.2 h]
  rfl

theorem forges_append (h : '\n' ∉ xs) : forges v (xs ++ ys) = forges v ys := by
  rw [forges, lines_append h, List.tail_modifyHead]
  rfl

/-- A comma keeps apart what is before it and what is after it. -/
theorem forges_comma : forges v (xs ++ ',' :: ys) = (forges v xs || forges v ys) := by
  rw [Bool.eq_iff_iff, Bool.or_eq_true, forges_iff, forges_iff, forges_iff]
  have hsplit : ∀ h : Header v, '\n' :: h.text <:+: xs ++ ',' :: ys ↔
      '\n' :: h.text <:+: xs ∨ '\n' :: h.text <:+: ys := by
    intro h
    refine infix_append_cons_iff ?_
    rw [List.mem_cons, not_or]
    exact ⟨by decide, h.comma_not_mem⟩
  simp only [hsplit, and_or_left, exists_or]

theorem forges_nil : forges v [] = false :=
  forges_of_newline_not_mem List.not_mem_nil

theorem forges_cons_comma : forges v (',' :: ys) = forges v ys := by
  rw [← List.nil_append (',' :: ys), forges_comma, forges_nil, Bool.false_or]

end forges

namespace LogCall

variable {v : Vrl} {call : LogCall}

/-- The names of the fields are in one line, and the message is. -/
structure Plain (call : LogCall) : Prop where
  message : '\n' ∉ call.message.toList
  names : ∀ x ∈ call.fields, '\n' ∉ x.1.toList

theorem forges_flatMap_field {fields : List (String × String)}
    (h : ∀ x ∈ fields, '\n' ∉ x.1.toList) :
    forges v (fields.flatMap field) = fields.any fun x => forges v x.2.toList := by
  induction fields with
  | nil => rfl
  | cons x fields ih =>
      obtain ⟨hx, hfields⟩ := List.forall_mem_cons.1 h
      have hname : '\n' ∉ ' ' :: (x.1.toList ++ ['=']) := by simp [hx]
      have hvalue : ∀ cs, forges v (' ' :: (x.1.toList ++ '=' :: cs)) = forges v cs := by
        intro cs
        have heq : ' ' :: (x.1.toList ++ '=' :: cs) = ' ' :: (x.1.toList ++ ['=']) ++ cs := by
          simp
        rw [heq, forges_append hname]
      -- what follows a field is nothing, or begins with a comma
      have hrest : forges v (x.2.toList ++ fields.flatMap field) =
          (forges v x.2.toList || forges v (fields.flatMap field)) := by
        cases fields with
        | nil => rw [List.flatMap_nil, List.append_nil, forges_nil, Bool.or_false]
        | cons y fields =>
            rw [List.flatMap_cons, field, List.cons_append, forges_comma, forges_cons_comma]
      have hfield : field x ++ fields.flatMap field =
          ',' :: ' ' :: (x.1.toList ++ '=' :: (x.2.toList ++ fields.flatMap field)) := by
        simp [field]
      rw [List.flatMap_cons, hfield, forges_cons_comma, hvalue, hrest, ih hfields,
        List.any_cons]

/-- What a call prints after its first line forges a chat line if and only if one of its
fields does. -/
theorem forges_body (h : call.Plain) :
    forges v call.body = call.fields.any fun x => forges v x.2.toList := by
  rw [body, forges_append h.message, forges_flatMap_field h.names]

/-- Where no field forges a line, only the first line of a call can be a chat line, and
it is one under its own category alone. -/
theorem of_isChatMessage (hplain : call.Plain)
    (hfields : ∀ x ∈ call.fields, forges v x.2.toList = false) {t : SystemTime}
    {line : List Char} (hline : line ∈ lines (call.print t)) {service : Option String}
    (hchat : v.isChatMessage ⟨line, service⟩ = true) :
    call.category = .message ∧ (lines (call.print t)).head? = some line := by
  obtain ⟨first, rest, hbody⟩ := exists_lines call.body
  rw [print_eq_start, lines_append (call.newline_not_mem_start t), hbody,
    List.modifyHead_cons] at hline ⊢
  rcases List.mem_cons.1 hline with rfl | hrest
  · refine ⟨?_, rfl⟩
    rw [← call.header_text v t, isChatMessage_header] at hchat
    have hname : call.category.name = "Chat:Message" := String.ofList_toList.symm.trans hchat.2
    cases hcategory : call.category with
    | message => rfl
    | _ =>
        rw [hcategory] at hname
        exact absurd hname (by decide)
  · have hnone : v.isChatMessage ⟨line, none⟩ = true := by
      rw [isChatMessage_iff] at hchat ⊢
      exact hchat
    have hforges : forges v call.body = true := by
      rw [forges, hbody]
      exact List.any_eq_true.2 ⟨line, hrest, hnone⟩
    rw [forges_body hplain, List.any_eq_true] at hforges
    obtain ⟨x, hx, hvalue⟩ := hforges
    rw [hfields x hx] at hvalue
    exact absurd hvalue Bool.false_ne_true

end LogCall

end Logging

end SosBackend
