import Mathlib.Data.List.Basic
import Mathlib.Data.List.Induction

/-!
# Lists that grow at their end

`Appends P l l'` says that `l'` is `l` with elements behind it that all satisfy
`P`. It is what a handler may do to an outbox: the relation is reflexive and
transitive, so the outbox of a composition is that of its parts. `lastOf f l` is
the last thing that `l` says, where `f` is what an element says, if anything.
-/

namespace SosBackend

variable {α : Type*}

def Appends (P : α → Prop) (l l' : List α) : Prop :=
  ∃ out, l' = l ++ out ∧ ∀ a ∈ out, P a

namespace Appends

variable {P Q : α → Prop} {l l' l'' : List α}

theorem refl (l : List α) : Appends P l l :=
  ⟨[], (List.append_nil l).symm, fun _ ha => absurd ha List.not_mem_nil⟩

theorem of_eq (h : l' = l) : Appends P l l' := by
  rw [h]
  exact refl l

theorem push {a : α} (ha : P a) : Appends P l (l ++ [a]) :=
  ⟨[a], rfl, fun _ hb => by
    rw [List.mem_singleton.1 hb]
    exact ha⟩

theorem trans (h : Appends P l l') (h' : Appends P l' l'') : Appends P l l'' := by
  obtain ⟨out, hout, hP⟩ := h
  obtain ⟨out', hout', hP'⟩ := h'
  refine ⟨out ++ out', ?_, ?_⟩
  · rw [hout', hout, List.append_assoc]
  · intro a ha
    rcases List.mem_append.1 ha with ha | ha
    · exact hP a ha
    · exact hP' a ha

theorem mono (h : Appends P l l') (hPQ : ∀ a, P a → Q a) : Appends Q l l' := by
  obtain ⟨out, hout, hP⟩ := h
  exact ⟨out, hout, fun a ha => hPQ a (hP a ha)⟩

/-- An element of the longer list is an old one, or satisfies `P`. -/
theorem mem (h : Appends P l l') {a : α} (ha : a ∈ l') : a ∈ l ∨ P a := by
  obtain ⟨out, rfl, hP⟩ := h
  exact (List.mem_append.1 ha).imp id (hP a)

/-- Nothing is taken away. -/
theorem subset (h : Appends P l l') {a : α} (ha : a ∈ l) : a ∈ l' := by
  obtain ⟨out, rfl, -⟩ := h
  exact List.mem_append_left out ha

/-- What has been appended. -/
theorem mem_drop (h : Appends P l l') {a : α} (ha : a ∈ l'.drop l.length) : P a := by
  obtain ⟨out, rfl, hP⟩ := h
  rw [List.drop_left] at ha
  exact hP a ha

end Appends

/-!
## Lists with more in between
-/

/-- The first list is the second one with elements in between that all satisfy `P`. -/
inductive Inserted (P : α → Prop) : List α → List α → Prop
  | nil : Inserted P [] []
  | both {l l' : List α} (a : α) : Inserted P l l' → Inserted P (l ++ [a]) (l' ++ [a])
  | extra {l l' : List α} {a : α} : P a → Inserted P l l' → Inserted P (l ++ [a]) l'

namespace Inserted

variable {P : α → Prop} {l l' : List α}

theorem eq_of_forall (h : Inserted P l l') (hP : ∀ a, ¬ P a) : l = l' := by
  induction h with
  | nil => rfl
  | both a _ ih => rw [ih]
  | extra ha _ _ => exact absurd ha (hP _)

end Inserted

/-- Both lists have grown since they were `base` and `base'`, the first one with more in
between. -/
def Outgrows (P : α → Prop) (base base' l l' : List α) : Prop :=
  ∃ out out', l = base ++ out ∧ l' = base' ++ out' ∧ Inserted P out out'

namespace Outgrows

variable {P : α → Prop} {base base' l l' : List α}

theorem start (P : α → Prop) (base base' : List α) : Outgrows P base base' base base' :=
  ⟨[], [], (List.append_nil _).symm, (List.append_nil _).symm, Inserted.nil⟩

theorem both (h : Outgrows P base base' l l') (a : α) :
    Outgrows P base base' (l ++ [a]) (l' ++ [a]) := by
  obtain ⟨out, out', rfl, rfl, hout⟩ := h
  exact ⟨out ++ [a], out' ++ [a], List.append_assoc _ _ _, List.append_assoc _ _ _, hout.both a⟩

theorem extra (h : Outgrows P base base' l l') {a : α} (ha : P a) :
    Outgrows P base base' (l ++ [a]) l' := by
  obtain ⟨out, out', rfl, rfl, hout⟩ := h
  exact ⟨out ++ [a], out', List.append_assoc _ _ _, rfl, hout.extra ha⟩

theorem drop (h : Outgrows P base base' l l') :
    Inserted P (l.drop base.length) (l'.drop base'.length) := by
  obtain ⟨out, out', rfl, rfl, hout⟩ := h
  rw [List.drop_left, List.drop_left]
  exact hout

end Outgrows

/-!
## The last thing said
-/

variable {β : Type*}

def lastOf (f : α → Option β) (l : List α) : Option β :=
  (l.filterMap f).getLast?

theorem lastOf_append_singleton (f : α → Option β) (l : List α) (a : α) :
    lastOf f (l ++ [a]) = (f a).or (lastOf f l) := by
  unfold lastOf
  rw [List.filterMap_append]
  cases ha : f a with
  | none => simp [ha]
  | some b => simp [ha]

/-- Where everything that is appended says `b` or nothing, the last thing said is
`b` or what it was. -/
theorem Appends.lastOf_eq_or {f : α → Option β} {l l' : List α} {b : β}
    (h : Appends (fun a => ∀ c, f a = some c → c = b) l l') :
    lastOf f l' = lastOf f l ∨ lastOf f l' = some b := by
  obtain ⟨out, rfl, hout⟩ := h
  induction out using List.reverseRecOn with
  | nil => exact Or.inl (by rw [List.append_nil])
  | append_singleton out a ih =>
      rw [← List.append_assoc, lastOf_append_singleton]
      cases ha : f a with
      | none => exact ih fun c hc => hout c (List.mem_append_left _ hc)
      | some c =>
          obtain rfl := hout a (List.mem_append_right _ (List.mem_singleton_self a)) c ha
          exact Or.inr rfl

/-- Where nothing that is appended says anything, the last thing said stays. -/
theorem Appends.lastOf_eq {f : α → Option β} {l l' : List α}
    (h : Appends (fun a => f a = none) l l') : lastOf f l' = lastOf f l := by
  obtain ⟨out, rfl, hout⟩ := h
  unfold lastOf
  rw [List.filterMap_append, List.filterMap_eq_nil_iff.2 hout, List.append_nil]

end SosBackend
