import Mathlib.Data.List.TakeWhile

/-!
# Regular expressions with groups

The regular expressions that lines are parsed with: a symbol of a class, a greedy
repetition of one, sequences and named groups. `all` lists the ways to match the
beginning of an input in the order in which a backtracking matcher tries them, and
`first` is the one that counts. `Reads` says what an expression reads, whatever the
order; `First` picks out a match that is found without going back.
-/

namespace SosBackend

inductive Regex (α : Type*)
  | empty
  | one (p : α → Bool)
  | many (p : α → Bool)
  | seq (r s : Regex α)
  | group (name : String) (r : Regex α)

namespace Regex

variable {α : Type*}

/-- A match of the beginning of an input: what is read, what is left, and what the
groups have read. -/
structure Match (α : Type*) where
  text : List α
  rest : List α
  captures : List (String × List α)

/-- The ways to read symbols of a class, the longest first. -/
def splits (p : α → Bool) : List α → List (List α × List α)
  | [] => [([], [])]
  | a :: as =>
      if p a then (splits p as).map (fun x => (a :: x.1, x.2)) ++ [([], a :: as)]
      else [([], a :: as)]

/-- The matches of the beginning of an input, the preferred one first. -/
def all : Regex α → List α → List (Match α)
  | empty, as => [⟨[], as, []⟩]
  | one _, [] => []
  | one p, a :: as => if p a then [⟨[a], as, []⟩] else []
  | many p, as => (splits p as).map fun x => ⟨x.1, x.2, []⟩
  | seq r s, as => (r.all as).flatMap fun m =>
      (s.all m.rest).map fun n => ⟨m.text ++ n.text, n.rest, m.captures ++ n.captures⟩
  | group name r, as => (r.all as).map fun m =>
      { m with captures := m.captures ++ [(name, m.text)] }

def first (r : Regex α) (as : List α) : Option (Match α) :=
  (r.all as).head?

def Match.capture (m : Match α) (name : String) : List α :=
  (m.captures.lookup name).getD []

/-- One or more symbols of a class. -/
def plus (p : α → Bool) : Regex α :=
  seq (one p) (many p)

/-- One expression after the other. -/
def concat (rs : List (Regex α)) : Regex α :=
  rs.foldr seq empty

/-- The symbols of a list. -/
def lit [BEq α] (as : List α) : Regex α :=
  concat (as.map fun a => one fun b => b == a)

/-!
## What an expression reads
-/

/-- The expression reads the text, and its groups the captures. -/
inductive Reads : Regex α → List α → List (String × List α) → Prop
  | empty : Reads empty [] []
  | one {p : α → Bool} {a : α} (h : p a = true) : Reads (one p) [a] []
  | many {p : α → Bool} {as : List α} (h : ∀ a ∈ as, p a = true) : Reads (many p) as []
  | seq {r s : Regex α} {as bs : List α} {c d : List (String × List α)} :
      Reads r as c → Reads s bs d → Reads (seq r s) (as ++ bs) (c ++ d)
  | group {name : String} {r : Regex α} {as : List α} {c : List (String × List α)} :
      Reads r as c → Reads (group name r) as (c ++ [(name, as)])

theorem of_mem_splits {p : α → Bool} {as : List α} {x : List α × List α}
    (h : x ∈ splits p as) : as = x.1 ++ x.2 ∧ ∀ a ∈ x.1, p a = true := by
  induction as generalizing x with
  | nil =>
      obtain rfl := List.mem_singleton.1 h
      exact ⟨rfl, fun a ha => absurd ha List.not_mem_nil⟩
  | cons a as ih =>
      unfold splits at h
      split at h
      · next ha =>
          rcases List.mem_append.1 h with h | h
          · obtain ⟨y, hy, rfl⟩ := List.mem_map.1 h
            obtain ⟨heq, hall⟩ := ih hy
            exact ⟨congrArg (a :: ·) heq, List.forall_mem_cons.2 ⟨ha, hall⟩⟩
          · obtain rfl := List.mem_singleton.1 h
            exact ⟨rfl, fun b hb => absurd hb List.not_mem_nil⟩
      · obtain rfl := List.mem_singleton.1 h
        exact ⟨rfl, fun b hb => absurd hb List.not_mem_nil⟩

/-- Every match splits the input and reads its first part. -/
theorem reads_of_mem {r : Regex α} {as : List α} {m : Match α} (h : m ∈ r.all as) :
    as = m.text ++ m.rest ∧ Reads r m.text m.captures := by
  induction r generalizing as m with
  | empty =>
      obtain rfl := List.mem_singleton.1 h
      exact ⟨rfl, Reads.empty⟩
  | one p =>
      cases as with
      | nil => exact absurd h List.not_mem_nil
      | cons a as =>
          unfold all at h
          split at h
          · next ha =>
              obtain rfl := List.mem_singleton.1 h
              exact ⟨rfl, Reads.one ha⟩
          · exact absurd h List.not_mem_nil
  | many p =>
      obtain ⟨x, hx, rfl⟩ := List.mem_map.1 h
      obtain ⟨heq, hall⟩ := of_mem_splits hx
      exact ⟨heq, Reads.many hall⟩
  | seq r s ihr ihs =>
      obtain ⟨m, hm, h⟩ := List.mem_flatMap.1 h
      obtain ⟨n, hn, rfl⟩ := List.mem_map.1 h
      obtain ⟨heq, hr⟩ := ihr hm
      obtain ⟨hrest, hs⟩ := ihs hn
      refine ⟨?_, Reads.seq hr hs⟩
      rw [heq, hrest, List.append_assoc]
  | group name r ih =>
      obtain ⟨m, hm, rfl⟩ := List.mem_map.1 h
      obtain ⟨heq, hr⟩ := ih hm
      exact ⟨heq, Reads.group hr⟩

theorem reads_of_first {r : Regex α} {as : List α} {m : Match α} (h : r.first as = some m) :
    as = m.text ++ m.rest ∧ Reads r m.text m.captures :=
  reads_of_mem (List.mem_of_head? h)

theorem Reads.concat_cons {r : Regex α} {rs : List (Regex α)} {as : List α}
    {c : List (String × List α)} (h : Reads (concat (r :: rs)) as c) :
    ∃ as₁ c₁ as₂ c₂, Reads r as₁ c₁ ∧ Reads (concat rs) as₂ c₂ ∧ as = as₁ ++ as₂ ∧
      c = c₁ ++ c₂ := by
  cases h with
  | seq hr hs => exact ⟨_, _, _, _, hr, hs, rfl, rfl⟩

theorem Reads.concat_nil {as : List α} {c : List (String × List α)}
    (h : Reads (concat []) as c) : as = [] ∧ c = [] := by
  cases h
  exact ⟨rfl, rfl⟩

theorem Reads.nil : Reads (concat ([] : List (Regex α))) [] [] :=
  Reads.empty

theorem Reads.cons {r : Regex α} {rs : List (Regex α)} {as bs : List α}
    {c d : List (String × List α)} (hr : Reads r as c) (hrs : Reads (concat rs) bs d) :
    Reads (concat (r :: rs)) (as ++ bs) (c ++ d) :=
  Reads.seq hr hrs

theorem reads_replicate {p : α → Bool} {as : List α} (h : ∀ a ∈ as, p a = true) :
    Reads (concat (List.replicate as.length (one p))) as [] := by
  induction as with
  | nil => exact Reads.empty
  | cons a as ih =>
      obtain ⟨ha, has⟩ := List.forall_mem_cons.1 h
      exact Reads.cons (Reads.one ha) (ih has)

theorem reads_lit [BEq α] [LawfulBEq α] (as : List α) : Reads (lit as) as [] := by
  induction as with
  | nil => exact Reads.empty
  | cons a as ih =>
      have hone : Reads (one fun b => b == a) [a] [] := Reads.one (beq_self_eq_true a)
      exact Reads.cons hone ih

theorem Reads.of_plus {p : α → Bool} {as : List α} {c : List (String × List α)}
    (h : Reads (plus p) as c) : (∀ a ∈ as, p a = true) ∧ as ≠ [] ∧ c = [] := by
  cases h with
  | seq hone hmany =>
      cases hone with
      | one ha =>
          cases hmany with
          | many hall => exact ⟨List.forall_mem_cons.2 ⟨ha, hall⟩, List.cons_ne_nil _ _, rfl⟩

theorem Reads.of_many {p : α → Bool} {as : List α} {c : List (String × List α)}
    (h : Reads (Regex.many p) as c) : (∀ a ∈ as, p a = true) ∧ c = [] := by
  cases h with
  | many hall => exact ⟨hall, rfl⟩

theorem Reads.of_lit [BEq α] [LawfulBEq α] {bs as : List α} {c : List (String × List α)}
    (h : Reads (lit bs) as c) : as = bs ∧ c = [] := by
  induction bs generalizing as c with
  | nil => exact Reads.concat_nil h
  | cons b bs ih =>
      obtain ⟨as₁, c₁, as₂, c₂, hone, hrest, rfl, rfl⟩ := Reads.concat_cons h
      obtain ⟨rfl, rfl⟩ := ih hrest
      cases hone with
      | one hb => exact ⟨congrArg (· :: as₂) (beq_iff_eq.1 hb), rfl⟩

theorem Reads.of_group {name : String} {r : Regex α} {as : List α}
    {c : List (String × List α)} (h : Reads (Regex.group name r) as c) :
    ∃ d, Reads r as d ∧ c = d ++ [(name, as)] := by
  cases h with
  | group hr => exact ⟨_, hr, rfl⟩

/-- A label, a group, and what follows. -/
theorem Reads.labelled [BEq α] [LawfulBEq α] {label : List α} {name : String} {r : Regex α}
    {rs : List (Regex α)} {as : List α} {c : List (String × List α)}
    (h : Reads (concat (Regex.lit label :: Regex.group name r :: rs)) as c) :
    ∃ as₁ c₁ as₂ c₂, Reads r as₁ c₁ ∧ Reads (concat rs) as₂ c₂ ∧
      c = c₁ ++ (name, as₁) :: c₂ := by
  obtain ⟨_, _, _, _, hlabel, hrest, -, rfl⟩ := h.concat_cons
  obtain ⟨-, rfl⟩ := hlabel.of_lit
  obtain ⟨as₁, _, as₂, c₂, hgroup, hrs, -, rfl⟩ := hrest.concat_cons
  obtain ⟨c₁, hr, rfl⟩ := hgroup.of_group
  refine ⟨as₁, c₁, as₂, c₂, hr, hrs, ?_⟩
  rw [List.nil_append, List.append_assoc, List.singleton_append]

/-- The symbols that an expression may read. -/
def symbols : Regex α → α → Bool
  | empty, _ => false
  | one p, a => p a
  | many p, a => p a
  | seq r s, a => r.symbols a || s.symbols a
  | group _ r, a => r.symbols a

theorem Reads.symbols {r : Regex α} {as : List α} {c : List (String × List α)}
    (h : Reads r as c) : ∀ a ∈ as, r.symbols a = true := by
  induction h with
  | empty => exact fun a ha => absurd ha List.not_mem_nil
  | one hp =>
      intro a ha
      rw [List.mem_singleton.1 ha]
      exact hp
  | many hall => exact hall
  | seq _ _ ihr ihs =>
      intro a ha
      rcases List.mem_append.1 ha with ha | ha
      · exact Bool.or_eq_true_iff.2 (Or.inl (ihr a ha))
      · exact Bool.or_eq_true_iff.2 (Or.inr (ihs a ha))
  | group _ ih => exact ih

/-!
## Matches that are found without going back
-/

/-- Before the rest, the text is what the expression matches first. -/
def First (r : Regex α) (text rest : List α) (captures : List (String × List α)) : Prop :=
  r.first (text ++ rest) = some ⟨text, rest, captures⟩

namespace First

variable {r s : Regex α} {text text' rest : List α} {c d : List (String × List α)}

theorem one {p : α → Bool} {a : α} (h : p a = true) (rest : List α) :
    First (Regex.one p) [a] rest [] := by
  rw [First, first, List.singleton_append, all, if_pos h]
  rfl

theorem splits_head {p : α → Bool} (hall : ∀ a ∈ text, p a = true)
    (hrest : ∀ a ∈ rest.head?, p a = false) :
    (splits p (text ++ rest)).head? = some (text, rest) := by
  induction text with
  | nil =>
      cases rest with
      | nil => rfl
      | cons a rest =>
          have ha : p a = false := hrest a rfl
          rw [List.nil_append, splits, ha, if_neg Bool.false_ne_true]
          rfl
  | cons a text ih =>
      obtain ⟨ha, hall⟩ := List.forall_mem_cons.1 hall
      rw [List.cons_append, splits, if_pos ha, List.head?_append, List.head?_map, ih hall]
      rfl

/-- A repetition reads all that it can. -/
theorem many {p : α → Bool} (hall : ∀ a ∈ text, p a = true)
    (hrest : ∀ a ∈ rest.head?, p a = false) : First (Regex.many p) text rest [] := by
  rw [First, first, all, List.head?_map, splits_head hall hrest]
  rfl

theorem many_takeWhile (p : α → Bool) (as : List α) :
    First (Regex.many p) (as.takeWhile p) (as.dropWhile p) [] := by
  refine many (fun a => List.mem_takeWhile_imp) fun a ha => ?_
  have hnot := List.head?_dropWhile_not p as
  rw [Option.mem_def.1 ha] at hnot
  exact hnot

theorem seq (hr : First r text (text' ++ rest) c) (hs : First s text' rest d) :
    First (Regex.seq r s) (text ++ text') rest (c ++ d) := by
  obtain ⟨ms, hms⟩ := List.head?_eq_some_iff.1 hr
  obtain ⟨ns, hns⟩ := List.head?_eq_some_iff.1 hs
  rw [First, first, List.append_assoc, all, hms, List.flatMap_cons, List.head?_append,
    hns]
  rfl

theorem group (name : String) (hr : First r text rest c) :
    First (Regex.group name r) text rest (c ++ [(name, text)]) := by
  rw [First] at hr ⊢
  rw [first, all, List.head?_map]
  rw [first] at hr
  rw [hr]
  rfl

theorem plus {p : α → Bool} (hne : text ≠ []) (hall : ∀ a ∈ text, p a = true)
    (hrest : ∀ a ∈ rest.head?, p a = false) : First (Regex.plus p) text rest [] := by
  cases text with
  | nil => exact absurd rfl hne
  | cons a text =>
      obtain ⟨ha, hall⟩ := List.forall_mem_cons.1 hall
      exact seq (one ha (text ++ rest)) (many hall hrest)

theorem nil (rest : List α) : First (concat []) [] rest [] :=
  rfl

theorem cons {rs : List (Regex α)} (hr : First r text (text' ++ rest) c)
    (hs : First (concat rs) text' rest d) :
    First (concat (r :: rs)) (text ++ text') rest (c ++ d) :=
  seq hr hs

theorem lit [BEq α] [LawfulBEq α] (text rest : List α) : First (Regex.lit text) text rest [] := by
  induction text with
  | nil => exact nil rest
  | cons a text ih => exact cons (one (beq_self_eq_true a) (text ++ rest)) ih

theorem labelled [BEq α] [LawfulBEq α] (label : List α) (name : String)
    {rs : List (Regex α)} (hr : First r text (text' ++ rest) [])
    (hs : First (concat rs) text' rest d) :
    First (concat (Regex.lit label :: Regex.group name r :: rs)) (label ++ (text ++ text')) rest
      ((name, text) :: d) :=
  cons (lit label _) (cons (group name hr) hs)

end First

/-- Without repetitions and groups there is one way to read a text. -/
def Rigid : Regex α → Prop
  | empty => True
  | one _ => True
  | many _ => False
  | seq r s => r.Rigid ∧ s.Rigid
  | group _ _ => False

theorem rigid_concat {rs : List (Regex α)} (h : ∀ r ∈ rs, r.Rigid) : (concat rs).Rigid := by
  induction rs with
  | nil => trivial
  | cons r rs ih =>
      obtain ⟨hr, hrs⟩ := List.forall_mem_cons.1 h
      exact ⟨hr, ih hrs⟩

theorem rigid_lit [BEq α] (as : List α) : (lit as).Rigid := by
  refine rigid_concat fun r hr => ?_
  obtain ⟨a, -, rfl⟩ := List.mem_map.1 hr
  trivial

theorem Reads.first_of_rigid {r : Regex α} {as : List α} {c : List (String × List α)}
    (h : Reads r as c) (hr : r.Rigid) : c = [] ∧ ∀ rest, First r as rest [] := by
  induction h with
  | empty => exact ⟨rfl, fun rest => rfl⟩
  | one hp => exact ⟨rfl, First.one hp⟩
  | many _ => exact False.elim hr
  | seq _ _ ihr ihs =>
      obtain ⟨rfl, hfirst⟩ := ihr hr.1
      obtain ⟨rfl, hfirst'⟩ := ihs hr.2
      exact ⟨rfl, fun rest => First.seq (hfirst _) (hfirst' rest)⟩
  | group _ _ => exact False.elim hr

end Regex

end SosBackend
