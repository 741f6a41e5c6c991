import Mathlib.Data.List.AList
import Mathlib.Data.Set.Insert
import Mathlib.Order.BooleanAlgebra.Set

/-!
# Hash maps and hash sets as association lists

`std::unordered_map` is an association list with distinct keys, its iteration
order the order of the list, and `std::unordered_set` a map to `Unit`. Lookups
after each operation are equations in every key; maps are compared through
their lookups, also in size.
-/

namespace SosBackend

/-- `std::unordered_map`. -/
abbrev UnorderedMap (κ α : Type*) := AList fun _ : κ => α

/-- `std::unordered_set`. -/
abbrev UnorderedSet (κ : Type*) := UnorderedMap κ Unit

namespace UnorderedMap

variable {κ α : Type*}

/-- The map without entries. -/
def empty : UnorderedMap κ α := ∅

instance : Inhabited (UnorderedMap κ α) := ⟨empty⟩

/-- The number of entries. -/
def size (m : UnorderedMap κ α) : ℕ := m.entries.length

/-- The keys, in iteration order. -/
def keyList (m : UnorderedMap κ α) : List κ := m.keys

/-- The values, in iteration order. -/
def values (m : UnorderedMap κ α) : List α := m.entries.map Sigma.snd

theorem size_eq_length_keyList (m : UnorderedMap κ α) : m.size = m.keyList.length :=
  (List.length_map _).symm

theorem nodup_keyList (m : UnorderedMap κ α) : m.keyList.Nodup :=
  m.keys_nodup

variable [DecidableEq κ]

/-- The value stored under a key. -/
def find? (m : UnorderedMap κ α) (k : κ) : Option α := AList.lookup k m

/-- Whether a key has a value. -/
def contains (m : UnorderedMap κ α) (k : κ) : Bool := (m.find? k).isSome

/-- `m[k] = a`. -/
def insert (m : UnorderedMap κ α) (k : κ) (a : α) : UnorderedMap κ α :=
  AList.insert k a m

def erase (m : UnorderedMap κ α) (k : κ) : UnorderedMap κ α := AList.erase k m

/-- Change the value stored under a key, in its place. -/
def modify (m : UnorderedMap κ α) (k : κ) (f : α → α) : UnorderedMap κ α :=
  match m.find? k with
  | none => m
  | some a => AList.replace k (f a) m

@[simp] theorem find?_empty (k : κ) : (empty : UnorderedMap κ α).find? k = none :=
  rfl

theorem contains_iff {m : UnorderedMap κ α} {k : κ} :
    m.contains k = true ↔ ∃ a, m.find? k = some a :=
  Option.isSome_iff_exists

theorem contains_eq_false_iff {m : UnorderedMap κ α} {k : κ} :
    m.contains k = false ↔ m.find? k = none := by
  rw [contains, Option.isSome_eq_false_iff, Option.isNone_iff_eq_none]

theorem mem_keyList {m : UnorderedMap κ α} {k : κ} :
    k ∈ m.keyList ↔ (m.find? k).isSome :=
  AList.lookup_isSome.symm

theorem mem_values {m : UnorderedMap κ α} {a : α} :
    a ∈ m.values ↔ ∃ k, m.find? k = some a := by
  simp only [values, List.mem_map]
  refine ⟨?_, ?_⟩
  · rintro ⟨⟨k, b⟩, hb, rfl⟩
    exact ⟨k, AList.mem_lookup_iff.2 hb⟩
  · rintro ⟨k, hk⟩
    exact ⟨⟨k, a⟩, AList.mem_lookup_iff.1 hk, rfl⟩

/-- Values that know their key repeat no key. -/
theorem map_values_eq_keyList {m : UnorderedMap κ α} {f : α → κ}
    (h : ∀ k a, m.find? k = some a → f a = k) : m.values.map f = m.keyList := by
  rw [values, List.map_map]
  apply List.map_congr_left
  intro entry hentry
  exact h entry.1 entry.2 (AList.mem_lookup_iff.2 hentry)

/-!
## Lookups
-/

theorem find?_insert (m : UnorderedMap κ α) (k : κ) (a : α) (x : κ) :
    (m.insert k a).find? x = if x = k then some a else m.find? x := by
  rw [find?, insert]
  by_cases h : x = k
  · rw [if_pos h, h, AList.lookup_insert]
  · rw [if_neg h, AList.lookup_insert_ne h, find?]

theorem find?_erase (m : UnorderedMap κ α) (k x : κ) :
    (m.erase k).find? x = if x = k then none else m.find? x := by
  rw [find?, erase]
  by_cases h : x = k
  · rw [if_pos h, h, AList.lookup_erase]
  · rw [if_neg h, AList.lookup_erase_ne h, find?]

theorem dlookup_cons (c : κ) (b : α) (l : List (Sigma fun _ : κ => α)) (x : κ) :
    List.dlookup x (⟨c, b⟩ :: l) = if x = c then some b else l.dlookup x := by
  by_cases h : x = c
  · subst h
    rw [if_pos rfl]
    exact List.dlookup_cons_eq (β := fun _ => α) l x b
  · rw [if_neg h]
    exact List.dlookup_cons_ne (β := fun _ => α) l ⟨c, b⟩ h

theorem dlookup_kreplace (k : κ) (a : α) (l : List (Sigma fun _ : κ => α)) (x : κ) :
    (l.kreplace k a).dlookup x =
      if x = k then (l.dlookup k).map fun _ => a else l.dlookup x := by
  induction l with
  | nil => simp [List.kreplace]
  | cons e l ih =>
      obtain ⟨c, b⟩ := e
      by_cases hc : k = c
      · have hcons : (⟨c, b⟩ :: l : List (Sigma fun _ : κ => α)).kreplace k a =
            ⟨k, a⟩ :: l := List.lookmap_cons_some _ _ (if_pos hc)
        rw [hcons, dlookup_cons, dlookup_cons, dlookup_cons, if_pos hc, ← hc]
        by_cases hx : x = k
        · simp [hx]
        · simp [hx]
      · have hcons : (⟨c, b⟩ :: l : List (Sigma fun _ : κ => α)).kreplace k a =
            ⟨c, b⟩ :: l.kreplace k a := List.lookmap_cons_none _ _ (if_neg hc)
        rw [hcons, dlookup_cons, dlookup_cons, dlookup_cons, if_neg hc, ih]
        by_cases hx : x = c
        · have hk : ¬ x = k := fun h => hc (h.symm.trans hx)
          rw [if_pos hx, if_neg hk, if_pos hx]
        · rw [if_neg hx, if_neg hx]

theorem find?_modify (m : UnorderedMap κ α) (k : κ) (f : α → α) (x : κ) :
    (m.modify k f).find? x = if x = k then (m.find? k).map f else m.find? x := by
  unfold modify
  cases h : m.find? k with
  | none =>
      by_cases hx : x = k
      · rw [if_pos hx, hx, h, Option.map_none]
      · rw [if_neg hx]
  | some a =>
      refine (dlookup_kreplace k (f a) m.entries x).trans ?_
      change (if x = k then (m.find? k).map fun _ => f a else m.find? x) = _
      rw [h, Option.map_some, Option.map_some]

/-!
## Sizes
-/

/-- A map with no key outside a list has at most as many entries. -/
theorem size_le_length {m : UnorderedMap κ α} {ks : List κ}
    (h : ∀ x, (m.find? x).isSome → x ∈ ks) : m.size ≤ ks.length := by
  rw [size_eq_length_keyList]
  exact (List.subperm_of_subset m.nodup_keyList fun x hx =>
    h x (mem_keyList.1 hx)).length_le

end UnorderedMap

namespace UnorderedSet

variable {κ : Type*} [DecidableEq κ]

/-- `s.insert(k)`. -/
def insert (s : UnorderedSet κ) (k : κ) : UnorderedSet κ := UnorderedMap.insert s k ()

/-- `s.erase(k)`. -/
def erase (s : UnorderedSet κ) (k : κ) : UnorderedSet κ := UnorderedMap.erase s k

/-- The elements as a set. -/
def toSet (s : UnorderedSet κ) : Set κ := {k | s.contains k = true}

theorem mem_toSet {s : UnorderedSet κ} {k : κ} : k ∈ s.toSet ↔ s.contains k = true :=
  Iff.rfl

theorem contains_insert (s : UnorderedSet κ) (k x : κ) :
    (s.insert k).contains x = (decide (x = k) || s.contains x) := by
  rw [UnorderedMap.contains, insert, UnorderedMap.find?_insert]
  by_cases h : x = k
  · simp [h]
  · simp [h, UnorderedMap.contains]

theorem contains_erase (s : UnorderedSet κ) (k x : κ) :
    (s.erase k).contains x = (!decide (x = k) && s.contains x) := by
  rw [UnorderedMap.contains, erase, UnorderedMap.find?_erase]
  by_cases h : x = k
  · simp [h]
  · simp [h, UnorderedMap.contains]

@[simp] theorem toSet_empty : toSet (UnorderedMap.empty : UnorderedSet κ) = ∅ := by
  ext x
  simp [mem_toSet, UnorderedMap.contains]

theorem toSet_insert (s : UnorderedSet κ) (k : κ) :
    (s.insert k).toSet = Insert.insert k s.toSet := by
  ext x
  simp [mem_toSet, contains_insert]

theorem toSet_erase (s : UnorderedSet κ) (k : κ) :
    (s.erase k).toSet = s.toSet \ {k} := by
  ext x
  simp [mem_toSet, contains_erase, and_comm]

theorem toSet_eq_empty {s : UnorderedSet κ} (h : s.size = 0) :
    s.toSet = ∅ := by
  ext x
  have hnil : s.keyList = [] :=
    List.length_eq_zero_iff.1 ((UnorderedMap.size_eq_length_keyList s).symm.trans h)
  have hx : x ∉ s.keyList := by simp [hnil]
  rw [UnorderedMap.mem_keyList] at hx
  simp [mem_toSet, UnorderedMap.contains, hx]

end UnorderedSet

end SosBackend
