import Mathlib.Data.Fintype.Card
import Mathlib.Data.Fintype.Prod
import Mathlib.Tactic.FinCases
import SosBackend.Common.Uuid

/-!
# The form of an identifier

A UUID of version 4 has 36 characters, and the bits of the draws that are not set to the
version and the variant can be read off it. The text before `snprintf` cuts it off is
`formatUuid`, with `%0wx` as it prints any number.
-/

namespace SosBackend

/-- `%0wx`: at least `w` digits. -/
def printHex (w n : ℕ) : List Char :=
  List.replicate (w - (Nat.toDigits 16 n).length) '0' ++ Nat.toDigits 16 n

/-- `data[1]` with the version. -/
def withVersion (data₁ : UInt32) : UInt32 :=
  (data₁ &&& 0xFFFF0FFF) ||| 0x00004000

/-- `data[2]` with the variant. -/
def withVariant (data₂ : UInt32) : UInt32 :=
  (data₂ &&& 0x3FFFFFFF) ||| 0x80000000

/-- What `snprintf` has to write. -/
def formatUuid (data₀ data₁ data₂ data₃ : UInt32) : List Char :=
  printHex 8 data₀.toNat ++ '-' :: printHex 4 (withVersion data₁ >>> 16).toNat ++
    '-' :: printHex 4 (withVersion data₁ &&& 0xFFFF).toNat ++
    '-' :: printHex 4 (withVariant data₂ >>> 16).toNat ++
    '-' :: printHex 4 (withVariant data₂ &&& 0xFFFF).toNat ++ printHex 8 data₃.toNat

/-!
## Digits
-/

/-- A number that fits is printed in `w` digits. -/
theorem printHex_eq_hexDigits {w n : ℕ} (hw : 0 < w) (h : n < 16 ^ w) :
    printHex w n = hexDigits w n := by
  induction w generalizing n with
  | zero => cases hw
  | succ w ih =>
      by_cases hn : n < 16
      · have hzero : ∀ w, hexDigits w 0 = List.replicate w '0' := by
          intro w
          induction w with
          | zero => rfl
          | succ w ih =>
              rw [hexDigits, Nat.zero_div, ih, List.replicate_succ']
              rfl
        rw [printHex, Nat.toDigits_of_lt_base hn, hexDigits, Nat.div_eq_of_lt hn, hzero,
          Nat.mod_eq_of_lt hn]
        rfl
      · have hpos : 0 < w := by
          rcases Nat.eq_zero_or_pos w with rfl | hpos
          · exact absurd h hn
          · exact hpos
        have hdiv : n / 16 < 16 ^ w := by
          rw [Nat.pow_succ] at h
          exact Nat.div_lt_of_lt_mul (by omega)
        have hdigits : Nat.toDigits 16 n = Nat.toDigits 16 (n / 16) ++ [Nat.digitChar (n % 16)] :=
          Nat.toDigits_of_base_le (by decide) (Nat.le_of_not_lt hn)
        rw [hexDigits, ← ih hpos hdiv, printHex, printHex, hdigits, List.length_append,
          List.length_singleton, Nat.add_sub_add_right, List.append_assoc]

/-- The digits of a number tell it. -/
theorem hexDigits_inj {w m n : ℕ} (hm : m < 16 ^ w) (hn : n < 16 ^ w) :
    hexDigits w m = hexDigits w n ↔ m = n := by
  refine ⟨?_, fun h => by rw [h]⟩
  induction w generalizing m n with
  | zero =>
      intro _
      rw [Nat.lt_one_iff.1 hm, Nat.lt_one_iff.1 hn]
  | succ w ih =>
      intro h
      rw [Nat.pow_succ] at hm hn
      have hdigit : ∀ a < 16, ∀ b < 16, Nat.digitChar a = Nat.digitChar b → a = b := by decide
      obtain ⟨hinit, hlast⟩ := List.append_inj' h rfl
      have hdiv := ih (Nat.div_lt_of_lt_mul (by omega)) (Nat.div_lt_of_lt_mul (by omega)) hinit
      have hmod := hdigit _ (Nat.mod_lt m (by decide)) _ (Nat.mod_lt n (by decide))
        (List.singleton_inj.1 hlast)
      omega

/-- The digits that `%x` prints. -/
def hexAlphabet : List Char := "0123456789abcdef".toList

theorem digitChar_mem_hexAlphabet : ∀ d < 16, Nat.digitChar d ∈ hexAlphabet := by
  decide

theorem mem_hexAlphabet_of_mem {w n : ℕ} {c : Char} (h : c ∈ hexDigits w n) :
    c ∈ hexAlphabet := by
  induction w generalizing n with
  | zero => cases h
  | succ w ih =>
      rw [hexDigits, List.mem_append, List.mem_singleton] at h
      rcases h with h | rfl
      · exact ih h
      · exact digitChar_mem_hexAlphabet _ (Nat.mod_lt n (by decide))

/-- The first digit is the most significant one. -/
theorem hexDigits_succ_eq_cons (w n : ℕ) :
    hexDigits (w + 1) n = Nat.digitChar (n / 16 ^ w % 16) :: hexDigits w n := by
  induction w generalizing n with
  | zero =>
      rw [hexDigits, Nat.pow_zero, Nat.div_one]
      rfl
  | succ w ih =>
      rw [hexDigits, ih, Nat.div_div_eq_div_mul, ← Nat.pow_succ', hexDigits]
      rfl

/-!
## The fields of an identifier
-/

theorem toNat_withVersion_shiftRight (data₁ : UInt32) :
    (withVersion data₁ >>> 16).toNat = data₁.toNat / 65536 := by
  have hlt := data₁.toNat_lt
  have hmask : data₁.toNat / 65536 &&& 65535 = data₁.toNat / 65536 % 65536 :=
    Nat.and_two_pow_sub_one_eq_mod _ 16
  have hshift : (withVersion data₁ >>> 16).toNat =
      (data₁.toNat &&& 0xFFFF0FFF ||| 0x00004000) >>> 16 := rfl
  rw [hshift, Nat.shiftRight_or_distrib, Nat.shiftRight_and_distrib, Nat.shiftRight_eq_div_pow]
  simp only [Nat.reducePow, Nat.reduceShiftRight, Nat.or_zero]
  rw [hmask]
  omega

theorem toNat_withVersion_and (data₁ : UInt32) :
    (withVersion data₁ &&& 0xFFFF).toNat = 16384 + data₁.toNat % 4096 := by
  have hmask : data₁.toNat &&& 4095 = data₁.toNat % 4096 :=
    Nat.and_two_pow_sub_one_eq_mod _ 12
  have hand : (withVersion data₁ &&& 0xFFFF).toNat =
      (data₁.toNat &&& 0xFFFF0FFF ||| 0x00004000) &&& 0xFFFF := rfl
  rw [hand, Nat.and_or_distrib_right, Nat.and_assoc]
  have hor := Nat.two_pow_add_eq_or_of_lt (i := 14) (b := data₁.toNat % 4096) (by omega) 1
  simp only [Nat.reduceAnd, hmask]
  rw [Nat.or_comm]
  exact hor.symm

theorem toNat_withVariant_shiftRight (data₂ : UInt32) :
    (withVariant data₂ >>> 16).toNat = 32768 + data₂.toNat / 65536 % 16384 := by
  have hmask : data₂.toNat / 65536 &&& 16383 = data₂.toNat / 65536 % 16384 :=
    Nat.and_two_pow_sub_one_eq_mod _ 14
  have hshift : (withVariant data₂ >>> 16).toNat =
      (data₂.toNat &&& 0x3FFFFFFF ||| 0x80000000) >>> 16 := rfl
  rw [hshift, Nat.shiftRight_or_distrib, Nat.shiftRight_and_distrib, Nat.shiftRight_eq_div_pow]
  have hor := Nat.two_pow_add_eq_or_of_lt (i := 15) (b := data₂.toNat / 65536 % 16384)
    (by omega) 1
  simp only [Nat.reducePow, Nat.reduceShiftRight, hmask]
  rw [Nat.or_comm]
  exact hor.symm

theorem toNat_withVariant_and (data₂ : UInt32) :
    (withVariant data₂ &&& 0xFFFF).toNat = data₂.toNat % 65536 := by
  have hmask : data₂.toNat &&& 65535 = data₂.toNat % 65536 :=
    Nat.and_two_pow_sub_one_eq_mod _ 16
  have hand : (withVariant data₂ &&& 0xFFFF).toNat =
      (data₂.toNat &&& 0x3FFFFFFF ||| 0x80000000) &&& 0xFFFF := rfl
  rw [hand, Nat.and_or_distrib_right, Nat.and_assoc]
  simp only [Nat.reduceAnd, hmask, Nat.or_zero]

/-- The text of an identifier, field by field. -/
theorem formatUuid_eq (data₀ data₁ data₂ data₃ : UInt32) :
    formatUuid data₀ data₁ data₂ data₃ = hexDigits 8 data₀.toNat ++
      '-' :: hexDigits 4 (data₁.toNat / 65536) ++
      '-' :: hexDigits 4 (16384 + data₁.toNat % 4096) ++
      '-' :: hexDigits 4 (32768 + data₂.toNat / 65536 % 16384) ++
      '-' :: hexDigits 4 (data₂.toNat % 65536) ++ hexDigits 8 data₃.toNat := by
  have h₀ := data₀.toNat_lt
  have h₁ := data₁.toNat_lt
  have h₃ := data₃.toNat_lt
  rw [formatUuid, toNat_withVersion_shiftRight, toNat_withVersion_and,
    toNat_withVariant_shiftRight, toNat_withVariant_and]
  simp only [printHex_eq_hexDigits (w := 8) (n := data₀.toNat) (by decide) (by omega),
    printHex_eq_hexDigits (w := 4) (n := data₁.toNat / 65536) (by decide) (by omega),
    printHex_eq_hexDigits (w := 4) (n := 16384 + data₁.toNat % 4096) (by decide) (by omega),
    printHex_eq_hexDigits (w := 4) (n := 32768 + data₂.toNat / 65536 % 16384) (by decide)
      (by omega),
    printHex_eq_hexDigits (w := 4) (n := data₂.toNat % 65536) (by decide) (by omega),
    printHex_eq_hexDigits (w := 8) (n := data₃.toNat) (by decide) (by omega)]

/-!
## Well-formed identifiers
-/

/-- What may stand at a position of a UUID of version 4. -/
def uuidSymbol (i : ℕ) : List Char :=
  if i = 8 ∨ i = 13 ∨ i = 18 ∨ i = 23 then ['-']
  else if i = 14 then ['4']
  else if i = 19 then ['8', '9', 'a', 'b']
  else hexAlphabet

/-- A UUID of version 4. -/
structure IsUuid (cs : List Char) : Prop where
  length : cs.length = 36
  symbol : ∀ i (h : i < cs.length), cs[i] ∈ uuidSymbol i
  hyphen : ∀ i (h : i < cs.length), cs[i] = '-' ↔ i = 8 ∨ i = 13 ∨ i = 18 ∨ i = 23

theorem forall₂_hexDigits (w n : ℕ) :
    List.Forall₂ (· ∈ ·) (hexDigits w n) (List.replicate w hexAlphabet) := by
  rw [List.forall₂_iff_zip]
  refine ⟨by rw [length_hexDigits, List.length_replicate], fun hmem => ?_⟩
  obtain ⟨hc, hl⟩ := List.of_mem_zip hmem
  rw [List.eq_of_mem_replicate hl]
  exact mem_hexAlphabet_of_mem hc

theorem digitChar_version (n : ℕ) (h : n < 4096) :
    Nat.digitChar ((16384 + n) / 16 ^ 3 % 16) ∈ ['4'] := by
  have hdigit : (16384 + n) / 16 ^ 3 % 16 = 4 := by omega
  rw [hdigit]
  decide

theorem digitChar_variant (n : ℕ) (h : n < 16384) :
    Nat.digitChar ((32768 + n) / 16 ^ 3 % 16) ∈ ['8', '9', 'a', 'b'] := by
  have hdigit : ∀ d < 12, 8 ≤ d → Nat.digitChar d ∈ ['8', '9', 'a', 'b'] := by decide
  exact hdigit _ (by omega) (by omega)

theorem forall₂_formatUuid (data₀ data₁ data₂ data₃ : UInt32) :
    List.Forall₂ (· ∈ ·) (formatUuid data₀ data₁ data₂ data₃)
      ((List.range 36).map uuidSymbol) := by
  have hdash : '-' ∈ ['-'] := List.mem_singleton_self _
  have hpattern : (List.range 36).map uuidSymbol = List.replicate 8 hexAlphabet ++
      ['-'] :: List.replicate 4 hexAlphabet ++
      ['-'] :: ['4'] :: List.replicate 3 hexAlphabet ++
      ['-'] :: ['8', '9', 'a', 'b'] :: List.replicate 3 hexAlphabet ++
      ['-'] :: List.replicate 4 hexAlphabet ++ List.replicate 8 hexAlphabet := rfl
  rw [formatUuid_eq, hpattern, hexDigits_succ_eq_cons 3 (16384 + _),
    hexDigits_succ_eq_cons 3 (32768 + _)]
  have hversion := digitChar_version (data₁.toNat % 4096) (Nat.mod_lt _ (by decide))
  have hvariant := digitChar_variant (data₂.toNat / 65536 % 16384) (Nat.mod_lt _ (by decide))
  have h₀ := forall₂_hexDigits 8 data₀.toNat
  have h₁ := List.rel_append h₀ (List.Forall₂.cons hdash
    (forall₂_hexDigits 4 (data₁.toNat / 65536)))
  have h₂ := List.rel_append h₁ (List.Forall₂.cons hdash (List.Forall₂.cons hversion
    (forall₂_hexDigits 3 (16384 + data₁.toNat % 4096))))
  have h₃ := List.rel_append h₂ (List.Forall₂.cons hdash (List.Forall₂.cons hvariant
    (forall₂_hexDigits 3 (32768 + data₂.toNat / 65536 % 16384))))
  have h₄ := List.rel_append h₃ (List.Forall₂.cons hdash
    (forall₂_hexDigits 4 (data₂.toNat % 65536)))
  exact List.rel_append h₄ (forall₂_hexDigits 8 data₃.toNat)

/-- The text of an identifier is a UUID, so `snprintf` cuts nothing off. -/
theorem isUuid_formatUuid (data₀ data₁ data₂ data₃ : UInt32) :
    IsUuid (formatUuid data₀ data₁ data₂ data₃) := by
  have hall := forall₂_formatUuid data₀ data₁ data₂ data₃
  have hlength : (formatUuid data₀ data₁ data₂ data₃).length = 36 := by
    rw [hall.length_eq, List.length_map, List.length_range]
  have hsymbol : ∀ i (h : i < (formatUuid data₀ data₁ data₂ data₃).length),
      (formatUuid data₀ data₁ data₂ data₃)[i] ∈ uuidSymbol i := by
    intro i h
    have hget := hall.get h (by rw [← hall.length_eq]; exact h)
    simpa using hget
  refine ⟨hlength, hsymbol, fun i h => ?_⟩
  have hmem := hsymbol i h
  constructor
  · intro hdash
    rw [hdash, uuidSymbol] at hmem
    by_contra hi
    rw [if_neg hi] at hmem
    split at hmem
    · exact absurd hmem (by decide)
    · split at hmem
      · exact absurd hmem (by decide)
      · exact absurd hmem (by decide)
  · intro hi
    rw [uuidSymbol, if_pos hi] at hmem
    exact List.mem_singleton.1 hmem

theorem toList_generateUuid (data₀ data₁ data₂ data₃ : UInt32) :
    (generateUuid data₀ data₁ data₂ data₃).toList = formatUuid data₀ data₁ data₂ data₃ := by
  have hcut : generateUuid data₀ data₁ data₂ data₃ = String.ofList ((hexDigits 8 data₀.toNat ++
      '-' :: hexDigits 4 (withVersion data₁ >>> 16).toNat ++
      '-' :: hexDigits 4 (withVersion data₁ &&& 0xFFFF).toNat ++
      '-' :: hexDigits 4 (withVariant data₂ >>> 16).toNat ++
      '-' :: hexDigits 4 (withVariant data₂ &&& 0xFFFF).toNat ++
      hexDigits 8 data₃.toNat).take 36) := rfl
  rw [hcut, toNat_withVersion_shiftRight, toNat_withVersion_and, toNat_withVariant_shiftRight,
    toNat_withVariant_and, ← formatUuid_eq, String.toList_ofList, List.take_of_length_le]
  exact (isUuid_formatUuid data₀ data₁ data₂ data₃).length.le

/-!
## The bits that remain
-/

/-- A bit of the draws that is not overwritten by the version or the variant. -/
def isFreeBit (word : Fin 4) (bit : Fin 32) : Bool :=
  !(word == 1 && 12 ≤ bit.val && bit.val < 16) && !(word == 2 && 30 ≤ bit.val)

/-- `generateUuid` on four draws. -/
def uuidOf (data : Fin 4 → UInt32) : String :=
  generateUuid (data 0) (data 1) (data 2) (data 3)

/-- Two texts are the same where the fields are. -/
theorem formatUuid_inj {c₀ c₁ c₂ c₃ d₀ d₁ d₂ d₃ : UInt32} :
    formatUuid c₀ c₁ c₂ c₃ = formatUuid d₀ d₁ d₂ d₃ ↔
      c₀.toNat = d₀.toNat ∧ c₁.toNat / 65536 = d₁.toNat / 65536 ∧
      c₁.toNat % 4096 = d₁.toNat % 4096 ∧ c₂.toNat % 1073741824 = d₂.toNat % 1073741824 ∧
      c₃.toNat = d₃.toNat := by
  have hc₀ := c₀.toNat_lt
  have hc₁ := c₁.toNat_lt
  have hc₃ := c₃.toNat_lt
  have hd₀ := d₀.toNat_lt
  have hd₁ := d₁.toNat_lt
  have hd₃ := d₃.toNat_lt
  have hinj : ∀ {w m n : ℕ} {k l : List Char}, m < 16 ^ w → n < 16 ^ w →
      (hexDigits w m ++ k = hexDigits w n ++ l ↔ m = n ∧ k = l) := by
    intro w m n k l hm hn
    rw [← hexDigits_inj hm hn]
    constructor
    · intro h
      exact List.append_inj h (by rw [length_hexDigits, length_hexDigits])
    · intro h
      rw [h.1, h.2]
  rw [formatUuid_eq, formatUuid_eq]
  simp only [List.append_assoc, List.cons_append]
  rw [hinj (by omega) (by omega), List.cons_inj_right, hinj (by omega) (by omega),
    List.cons_inj_right, hinj (by omega) (by omega), List.cons_inj_right,
    hinj (by omega) (by omega), List.cons_inj_right, hinj (by omega) (by omega),
    hexDigits_inj (by omega) (by omega)]
  omega

/-- A field of a number is told by its bits. -/
theorem field_eq_iff {m n a b : ℕ} : m / 2 ^ a % 2 ^ b = n / 2 ^ a % 2 ^ b ↔
    ∀ i, a ≤ i → i < a + b → m.testBit i = n.testBit i := by
  have hbit : ∀ m j, (m / 2 ^ a % 2 ^ b).testBit j = (decide (j < b) && m.testBit (j + a)) := by
    intro m j
    rw [Nat.testBit_mod_two_pow, Nat.testBit_div_two_pow]
  constructor
  · intro h i ha hb
    have hi := congrArg (fun k => Nat.testBit k (i - a)) h
    simp only [hbit, decide_eq_true (show i - a < b by omega), Bool.true_and,
      Nat.sub_add_cancel ha] at hi
    exact hi
  · intro h
    refine Nat.eq_of_testBit_eq fun j => ?_
    rw [hbit, hbit]
    by_cases hj : j < b
    · rw [h (j + a) (by omega) (by omega)]
    · rw [decide_eq_false hj, Bool.false_and, Bool.false_and]

/-- Two draws give the same identifier where they agree on the bits that are free. -/
theorem uuidOf_inj {c d : Fin 4 → UInt32} : uuidOf c = uuidOf d ↔
    ∀ word bit, isFreeBit word bit = true →
      (c word).toNat.testBit bit = (d word).toNat.testBit bit := by
  have hword : ∀ (x y : UInt32), x.toNat = y.toNat ↔
      ∀ i, 0 ≤ i → i < 0 + 32 → x.toNat.testBit i = y.toNat.testBit i := by
    intro x y
    have hx := x.toNat_lt
    have hy := y.toNat_lt
    rw [← field_eq_iff]
    omega
  have hhigh : (c 1).toNat / 65536 = (d 1).toNat / 65536 ↔
      ∀ i, 16 ≤ i → i < 16 + 16 → (c 1).toNat.testBit i = (d 1).toNat.testBit i := by
    have hc := (c 1).toNat_lt
    have hd := (d 1).toNat_lt
    rw [← field_eq_iff]
    omega
  have hlow : (c 1).toNat % 4096 = (d 1).toNat % 4096 ↔
      ∀ i, 0 ≤ i → i < 0 + 12 → (c 1).toNat.testBit i = (d 1).toNat.testBit i := by
    rw [← field_eq_iff]
    omega
  have hvariant : (c 2).toNat % 1073741824 = (d 2).toNat % 1073741824 ↔
      ∀ i, 0 ≤ i → i < 0 + 30 → (c 2).toNat.testBit i = (d 2).toNat.testBit i := by
    rw [← field_eq_iff]
    omega
  have htext : uuidOf c = uuidOf d ↔ formatUuid (c 0) (c 1) (c 2) (c 3) =
      formatUuid (d 0) (d 1) (d 2) (d 3) := by
    rw [← toList_generateUuid, ← toList_generateUuid]
    exact String.toList_inj.symm
  rw [htext, formatUuid_inj, hword (c 0), hhigh, hlow, hvariant, hword (c 3)]
  constructor
  · rintro ⟨h₀, hhigh, hlow, hvariant, h₃⟩ word bit hfree
    have hbit := bit.isLt
    fin_cases word
    · exact h₀ bit (Nat.zero_le _) (by omega)
    · by_cases hge : 16 ≤ bit.val
      · exact hhigh bit hge (by omega)
      · refine hlow bit (Nat.zero_le _) ?_
        by_contra hlt
        simp [isFreeBit] at hfree
        omega
    · refine hvariant bit (Nat.zero_le _) ?_
      by_contra hlt
      simp [isFreeBit] at hfree
      omega
    · exact h₃ bit (Nat.zero_le _) (by omega)
  · intro h
    refine ⟨fun i _ hi => h 0 ⟨i, by omega⟩ rfl, fun i hmin hi => h 1 ⟨i, by omega⟩ ?_,
      fun i _ hi => h 1 ⟨i, by omega⟩ ?_, fun i _ hi => h 2 ⟨i, by omega⟩ ?_,
      fun i _ hi => h 3 ⟨i, by omega⟩ rfl⟩
    · simp [isFreeBit]
      omega
    · simp [isFreeBit]
      omega
    · simp [isFreeBit]
      omega

/-- An identifier is a UUID that nothing has been cut off, and it keeps every bit of the
draws that is free, which are 122 of the 128. -/
theorem generateUuid_keeps_randomness :
    (∀ data, IsUuid (uuidOf data).toList ∧
      (uuidOf data).toList = formatUuid (data 0) (data 1) (data 2) (data 3)) ∧
    (∀ c d, uuidOf c = uuidOf d ↔ ∀ word bit, isFreeBit word bit = true →
      (c word).toNat.testBit bit = (d word).toNat.testBit bit) ∧
    (Finset.univ.filter fun b : Fin 4 × Fin 32 => isFreeBit b.1 b.2 = true).card = 122 := by
  refine ⟨fun data => ?_, fun c d => uuidOf_inj, by decide +kernel⟩
  have htext : (uuidOf data).toList = formatUuid (data 0) (data 1) (data 2) (data 3) :=
    toList_generateUuid _ _ _ _
  refine ⟨?_, htext⟩
  rw [htext]
  exact isUuid_formatUuid _ _ _ _

end SosBackend
