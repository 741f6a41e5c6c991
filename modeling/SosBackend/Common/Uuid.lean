import Mathlib.Data.String.Basic
import Mathlib.Data.Nat.Notation

/-!
# Identifiers

`generateUuid` formats four random numbers as a UUID of version 4. The random numbers are
its parameters here.
-/

namespace SosBackend

/-- `%0wx`, of a number that has no more than `w` digits. -/
def hexDigits : ℕ → ℕ → List Char
  | 0, _ => []
  | w + 1, n => hexDigits w (n / 16) ++ [Nat.digitChar (n % 16)]

/-- `generateUuid` on what it draws. -/
def generateUuid (data₀ data₁ data₂ data₃ : UInt32) : String :=
  -- version 4, variant 10
  let data₁ := (data₁ &&& 0xFFFF0FFF) ||| 0x00004000
  let data₂ := (data₂ &&& 0x3FFFFFFF) ||| 0x80000000
  -- `snprintf` into 37 bytes, the last of them the terminator
  String.ofList ((hexDigits 8 data₀.toNat ++ '-' :: hexDigits 4 (data₁ >>> 16).toNat ++
    '-' :: hexDigits 4 (data₁ &&& 0xFFFF).toNat ++ '-' :: hexDigits 4 (data₂ >>> 16).toNat ++
    '-' :: hexDigits 4 (data₂ &&& 0xFFFF).toNat ++ hexDigits 8 data₃.toNat).take 36)

theorem utf8Size_digitChar : ∀ n < 16, (Nat.digitChar n).utf8Size = 1 := by
  decide

@[simp] theorem length_hexDigits (w n : ℕ) : (hexDigits w n).length = w := by
  induction w generalizing n with
  | zero => rfl
  | succ w ih => simp [hexDigits, ih]

@[simp] theorem utf8Len_hexDigits (w n : ℕ) : String.utf8Len (hexDigits w n) = w := by
  induction w generalizing n with
  | zero => rfl
  | succ w ih =>
      have hdigit := utf8Size_digitChar (n % 16) (Nat.mod_lt n (by decide))
      simp [hexDigits, ih, hdigit]

theorem utf8Len_replicate (n : ℕ) (c : Char) :
    String.utf8Len (List.replicate n c) = n * c.utf8Size := by
  induction n with
  | zero => simp
  | succ n ih => simp [List.replicate_succ, ih, Nat.succ_mul]

/-- Nothing is cut off. -/
theorem utf8ByteSize_generateUuid (data₀ data₁ data₂ data₃ : UInt32) :
    (generateUuid data₀ data₁ data₂ data₃).utf8ByteSize = 36 := by
  have hdash : '-'.utf8Size = 1 := rfl
  rw [generateUuid, String.utf8ByteSize_ofList, List.take_of_length_le]
  · simp [hdash]
  · simp

end SosBackend
