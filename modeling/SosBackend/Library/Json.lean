import Mathlib.Data.List.Basic

/-!
# JSON documents

Documents as a C++ program holds them: integers are machine words with or without a sign,
and an object is a map from its keys, written as a list. The floating-point numbers are left
open.
-/

namespace SosBackend

inductive Json (δ : Type)
  | null
  | boolean (b : Bool)
  | integer (n : Int64)
  | unsigned (n : UInt64)
  | float (x : δ)
  | string (s : String)
  | array (elements : List (Json δ))
  | object (members : List (String × Json δ))

namespace Json

variable {δ : Type}

/-- The member of an object under a key. Other documents have no members. -/
def find? : Json δ → String → Option (Json δ)
  | object members, key => members.lookup key
  | _, _ => none

/-- Assigns to a member. Null becomes an object first; on every other document that is not
an object there is an exception. -/
def assign (data : Json δ) (key : String) (value : Json δ) : Option (Json δ) :=
  match data with
  | null => some (object [(key, value)])
  | object members => some (object ((key, value) :: members.filter fun m => m.1 != key))
  | _ => none

theorem lookup_filter_ne {key k : String} (hk : k ≠ key) (members : List (String × Json δ)) :
    (members.filter fun m => m.1 != key).lookup k = members.lookup k := by
  induction members with
  | nil => rfl
  | cons m members ih =>
      obtain ⟨k', value⟩ := m
      by_cases hm : k' = key
      · have hkey : (k == k') = false := by simpa [hm] using hk
        rw [List.filter_cons_of_neg (by simpa using hm), ih, List.lookup_cons, hkey]
      · rw [List.filter_cons_of_pos (by simpa using hm), List.lookup_cons, List.lookup_cons, ih]

theorem find?_assign_self {key : String} {value data data' : Json δ}
    (h : data.assign key value = some data') : data'.find? key = some value := by
  cases data with
  | null => cases h; simp [find?]
  | object members => cases h; simp [find?]
  | _ => cases h

theorem find?_assign_of_ne {key k : String} {value data data' : Json δ} (hk : k ≠ key)
    (h : data.assign key value = some data') : data'.find? k = data.find? k := by
  have hkey : (k == key) = false := by simpa using hk
  cases data with
  | null => cases h; simp [find?, List.lookup_cons, hkey]
  | object members =>
      cases h
      simp [find?, List.lookup_cons, hkey, lookup_filter_ne hk]
  | _ => cases h

end Json

end SosBackend
