import Mathlib.Algebra.BigOperators.Group.List.Basic
import Mathlib.Algebra.GroupWithZero.Nat

/-!
# The proto3 wire format

A serialised message is its fields one after the other. A field is a tag, the varint of
its number and wire type, and a value: a varint, or a length and so many bytes. A field
that holds its default is left out, unless it is a message. `encode` writes fields, and the
size lemmas count the bytes of each kind of field.
-/

namespace SosBackend

namespace Proto3

/-!
## Varints
-/

/-- A number in base 128, the low digits first, in `k + 1` bytes at most. -/
def varintBytes : ℕ → ℕ → List UInt8
  | 0, n => [UInt8.ofNat n]
  | k + 1, n =>
      if n < 128 then [UInt8.ofNat n]
      else UInt8.ofNat (n % 128 + 128) :: varintBytes k (n / 128)

/-- The varint of a 64-bit number has ten bytes at most. -/
def varint (n : ℕ) : List UInt8 :=
  varintBytes 9 n

def varintSize (n : ℕ) : ℕ :=
  (varint n).length

theorem length_varintBytes_mono (k : ℕ) {n m : ℕ} (h : n ≤ m) :
    (varintBytes k n).length ≤ (varintBytes k m).length := by
  induction k generalizing n m with
  | zero => simp [varintBytes]
  | succ k ih =>
      simp only [varintBytes]
      split
      · split
        · simp
        · simp
      · next hn =>
          have hm : ¬ m < 128 := by omega
          rw [if_neg hm, List.length_cons, List.length_cons]
          exact Nat.succ_le_succ (ih (Nat.div_le_div_right h))

theorem varintSize_mono {n m : ℕ} (h : n ≤ m) : varintSize n ≤ varintSize m :=
  length_varintBytes_mono 9 h

theorem varintSize_pos (n : ℕ) : 0 < varintSize n := by
  have hzero : varintSize 0 = 1 := by decide
  have hle := varintSize_mono (Nat.zero_le n)
  omega

theorem varintSize_of_lt {n : ℕ} (h : n < 128) : varintSize n = 1 := by
  simp [varintSize, varint, varintBytes, h]

theorem varintSize_of_lt_two_pow {n : ℕ} (h : n < 2 ^ 21) : varintSize n ≤ 3 := by
  have hlast : varintSize (2 ^ 21 - 1) = 3 := by decide
  rw [← hlast]
  apply varintSize_mono
  omega

theorem varintSize_of_two_pow_le {n : ℕ} (h : 2 ^ 14 ≤ n) : 3 ≤ varintSize n := by
  have hfirst : varintSize (2 ^ 14) = 3 := by decide
  rw [← hfirst]
  exact varintSize_mono h

/-- Behind a length, `n` bytes fit into `b + 3` where the length takes three bytes. -/
theorem varintSize_add_le_iff {n b : ℕ} (hb : 2 ^ 14 ≤ b) (hb' : b < 2 ^ 21) :
    varintSize n + n ≤ b + 3 ↔ n ≤ b := by
  constructor
  · intro h
    by_contra hlt
    have hsize : 3 ≤ varintSize n := varintSize_of_two_pow_le (by omega)
    omega
  · intro h
    have hsize : varintSize n ≤ 3 := varintSize_of_lt_two_pow (by omega)
    omega

/-!
## Fields
-/

inductive Value
  | varint (n : ℕ)
  | bytes (b : List UInt8)
deriving DecidableEq, Repr

structure Field where
  number : ℕ
  value : Value
deriving DecidableEq, Repr

/-- The tag holds the number of the field and the wire type, 0 or 2. -/
def Field.encode : Field → List UInt8
  | ⟨number, .varint n⟩ => Proto3.varint (8 * number) ++ Proto3.varint n
  | ⟨number, .bytes b⟩ => Proto3.varint (8 * number + 2) ++ Proto3.varint b.length ++ b

def encode (fields : List Field) : List UInt8 :=
  fields.flatMap Field.encode

/-- `string`, and nothing for the empty one. -/
def string (number : ℕ) (s : String) : List Field :=
  if s = "" then [] else [⟨number, .bytes s.toUTF8.data.toList⟩]

/-- `uint32`, `uint64` and enumerations, and nothing for zero. -/
def uint (number n : ℕ) : List Field :=
  if n = 0 then [] else [⟨number, .varint n⟩]

/-- `bool`, and nothing for `false`. -/
def flag (number : ℕ) (b : Bool) : List Field :=
  uint number b.toNat

/-- A field that is a message is there even where the message is empty. -/
def message (number : ℕ) (fields : List Field) : List Field :=
  [⟨number, .bytes (encode fields)⟩]

def repeated (number : ℕ) (messages : List (List Field)) : List Field :=
  messages.flatMap (message number)

/-!
## Sizes
-/

def size (fields : List Field) : ℕ :=
  (encode fields).length

/-- The bytes of a string in a field with a tag of one byte. -/
def stringSize (s : String) : ℕ :=
  if s = "" then 0 else 1 + varintSize s.utf8ByteSize + s.utf8ByteSize

/-- The bytes of a number in a field with a tag of one byte. -/
def uintSize (n : ℕ) : ℕ :=
  if n = 0 then 0 else 1 + varintSize n

@[simp] theorem size_append (fields fields' : List Field) :
    size (fields ++ fields') = size fields + size fields' := by
  simp [size, encode]

theorem size_string {number : ℕ} (h : number < 16) (s : String) :
    size (string number s) = stringSize s := by
  unfold string stringSize
  split
  · rfl
  · have htag : (varint (8 * number + 2)).length = 1 := varintSize_of_lt (by omega)
    simp [size, encode, Field.encode, htag, varintSize, Nat.add_assoc]

theorem size_uint {number : ℕ} (h : number < 16) (n : ℕ) :
    size (uint number n) = uintSize n := by
  unfold uint uintSize
  split
  · rfl
  · have htag : (varint (8 * number)).length = 1 := varintSize_of_lt (by omega)
    simp [size, encode, Field.encode, htag, varintSize]

theorem size_message (number : ℕ) (fields : List Field) :
    size (message number fields) =
      varintSize (8 * number + 2) + (varintSize (size fields) + size fields) := by
  simp [size, message, encode, Field.encode, varintSize]

/-- Where the length takes three bytes, a bound on a message is one on its fields. -/
theorem size_message_le_iff (number : ℕ) (fields : List Field) {b : ℕ} (hb : 2 ^ 14 ≤ b)
    (hb' : b < 2 ^ 21) :
    size (message number fields) ≤ varintSize (8 * number + 2) + (b + 3) ↔ size fields ≤ b := by
  rw [size_message, Nat.add_le_add_iff_left]
  exact varintSize_add_le_iff hb hb'

theorem size_repeated (number : ℕ) (messages : List (List Field)) :
    size (repeated number messages) =
      (messages.map fun fields => size (message number fields)).sum := by
  induction messages with
  | nil => rfl
  | cons fields messages ih =>
      have hcons : repeated number (fields :: messages) =
          message number fields ++ repeated number messages := rfl
      rw [hcons, size_append, ih, List.map_cons, List.sum_cons]

end Proto3

end SosBackend
