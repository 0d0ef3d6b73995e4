import Mathlib
import Stencil.Value
import Stencil.Proofs.Number.Whole

/-!
# Numbers taken for integers

What a double stands for is said by its bits alone, as a rational number. A number is taken for the
64-bit integer that is its value, if there is one, and no other number is taken for an integer but
`2 ^ 63`: the limits are compared as doubles, the upper one is rounded up to that, and it is then
taken for the largest integer.
-/

namespace Stencil

set_option autoImplicit false

namespace Binary64

/-- The number that a finite double stands for by its sign, exponent and fraction. With the least
exponent there is no one before the binary point. -/
inductive Denotes : Binary64 → ℚ → Prop
  | subnormal (negative : Bool) {f : Nat} (hf : f < 2 ^ 52) :
      Denotes (ofFields negative 0 f)
        ((if negative then -1 else 1) * (f / 2 ^ 52) * 2 ^ (-1022 : ℤ))
  | normal (negative : Bool) {e f : Nat} (hlow : 0 < e) (hhigh : e < 2047) (hf : f < 2 ^ 52) :
      Denotes (ofFields negative e f)
        ((if negative then -1 else 1) * (1 + f / 2 ^ 52) * 2 ^ ((e : ℤ) - 1023))

section Value

variable {x : Binary64} {q : ℚ} {n : ℤ}

theorem toRat_eq (x : Binary64) :
    x.toRat = (if x.isNegative then -1 else 1) * x.significand * 2 ^ x.exponent := by
  have hmagnitude : (if 0 ≤ x.exponent then ((x.significand <<< x.exponent.toNat : Nat) : ℚ)
      else mkRat x.significand (1 <<< (-x.exponent).toNat)) = x.significand * 2 ^ x.exponent := by
    split
    · rename_i h
      obtain ⟨k, hk⟩ := Int.eq_ofNat_of_zero_le h
      simp [hk, Nat.shiftLeft_eq]
    · rename_i h
      obtain ⟨k, hk⟩ := Int.eq_ofNat_of_zero_le (a := -x.exponent) (by omega)
      have hexponent : x.exponent = -k := by omega
      simp [hexponent, Rat.mkRat_eq_div, Nat.one_shiftLeft, div_eq_mul_inv]
  unfold toRat
  simp only [hmagnitude]
  split <;> ring

/-- A double is made up of its three fields. -/
theorem eq_ofFields (x : Binary64) : x = ofFields x.isNegative x.exponentField x.fraction := by
  have hbits := x.bits.toNat_lt
  have hexponent : x.exponentField < 2048 := Nat.mod_lt _ (by decide)
  have hfraction : x.fraction < 2 ^ 52 := Nat.mod_lt _ (by decide)
  have hnat : (ofFields x.isNegative x.exponentField x.fraction).bits.toNat = _ :=
    toNat_ofFields hexponent hfraction
  have hsame : x.bits = (ofFields x.isNegative x.exponentField x.fraction).bits := by
    apply UInt64.toNat_inj.mp
    -- sign, exponent and fraction are the word's digits for the steps `2 ^ 63` and `2 ^ 52`
    rw [hnat, isNegative, exponentField, fraction, Nat.testBit_eq_decide_div_mod_eq,
      Nat.shiftRight_eq_div_pow, Nat.one_shiftLeft]
    simp only [decide_eq_true_eq]
    split <;> omega
  exact congrArg Binary64.mk hsame

theorem Denotes.value_eq (h : x.Denotes q) : x.isFinite = true ∧ x.toRat = q := by
  have htwo : (2 : ℚ) ≠ 0 := by norm_num
  cases h with
  | @subnormal negative f hf =>
    have hfield : (ofFields negative 0 f).exponentField = 0 :=
      exponentField_ofFields (by decide) hf
    constructor
    · rw [isFinite, hfield]
      rfl
    · have hscale : (2 : ℚ) ^ (-1074 : ℤ) = 2 ^ (-1022 : ℤ) / 2 ^ 52 := by
        rw [← zpow_natCast, ← zpow_sub₀ htwo]
        rfl
      rw [toRat_eq, isNegative_ofFields (by decide) hf, significand, exponent, hfield, if_pos rfl,
        if_pos rfl, fraction_ofFields (by decide) hf, hscale]
      ring
  | @normal negative e f hlow hhigh hf =>
    have hfield : (ofFields negative e f).exponentField = e :=
      exponentField_ofFields (by omega) hf
    have hne : e ≠ 0 := by omega
    constructor
    · rw [isFinite, hfield]
      exact decide_eq_true (by omega)
    · have hscale : (2 : ℚ) ^ ((e : ℤ) - 1075) = 2 ^ ((e : ℤ) - 1023) / 2 ^ 52 := by
        rw [← zpow_natCast, ← zpow_sub₀ htwo]
        congr 1
        push_cast
        omega
      rw [toRat_eq, isNegative_ofFields (by omega) hf, significand, exponent, hfield, if_neg hne,
        if_neg hne, fraction_ofFields (by omega) hf, hscale, Nat.one_shiftLeft]
      push_cast
      ring

theorem denotes_toRat (h : x.isFinite = true) : x.Denotes x.toRat := by
  have hexponent : x.exponentField < 2048 := Nat.mod_lt _ (by decide)
  have hfraction : x.fraction < 2 ^ 52 := Nat.mod_lt _ (by decide)
  have hfinite : x.exponentField ≠ 2047 := of_decide_eq_true h
  have hdenotes : ∃ q, x.Denotes q := by
    rw [eq_ofFields x]
    by_cases hzero : x.exponentField = 0
    · rw [hzero]
      exact ⟨_, .subnormal x.isNegative hfraction⟩
    · exact ⟨_, .normal x.isNegative (by omega) (by omega) hfraction⟩
  obtain ⟨q, hq⟩ := hdenotes
  exact hq.value_eq.2 ▸ hq

theorem denotes_iff : x.Denotes q ↔ x.isFinite = true ∧ x.toRat = q := by
  constructor
  · exact Denotes.value_eq
  · rintro ⟨hfinite, rfl⟩
    exact denotes_toRat hfinite

theorem denotes_intCast_iff : x.Denotes n ↔ x.IsWhole n := by
  rw [denotes_iff]
  exact ⟨fun ⟨hfinite, hvalue⟩ => ⟨hfinite, hvalue⟩, fun h => ⟨h.finite, h.value⟩⟩

theorem toInt?_eq_some_iff : x.toInt? = some n ↔ x.IsWhole n := by
  unfold toInt?
  constructor
  · intro h
    split at h
    · rename_i hwhole
      cases h
      exact ⟨hwhole.1, (Rat.den_eq_one_iff _).mp hwhole.2 |>.symm⟩
    · cases h
  · intro h
    have hden : x.toRat.den = 1 := by rw [h.value, Rat.den_intCast]
    rw [if_pos ⟨h.finite, hden⟩, h.value, Rat.num_intCast]

/-- The limits of 64-bit integers as doubles: only the lower one is exact. -/
theorem isWhole_minValue : (ofInt64 Int64.minValue).IsWhole (-2 ^ 63) :=
  ⟨by decide +kernel, by decide +kernel⟩

theorem isWhole_maxValue : (ofInt64 Int64.maxValue).IsWhole (2 ^ 63) :=
  ⟨by decide +kernel, by decide +kernel⟩

end Value

end Binary64

namespace Number

/-- The value of a number that stands for one: an infinity or a NaN does not. -/
inductive Denotes : Number → ℚ → Prop
  | integer (n : Int64) : Denotes (.integer n) n.toInt
  | float {x : Binary64} {q : ℚ} (h : x.Denotes q) : Denotes (.float x) q

variable {x : Binary64} {a : Number} {i : Int64}

/-- A double is compared with the limits as doubles, and what is beyond the largest integer is taken
for that. -/
theorem toInt64?_float_eq_some_iff :
    (float x).toInt64? = some i ↔ ∃ n : ℤ, x.IsWhole n ∧
      (Binary64.ofInt64 Int64.minValue).toRat ≤ n ∧ n ≤ (Binary64.ofInt64 Int64.maxValue).toRat ∧
        i.toInt = min n Int64.maxValue.toInt := by
  rw [Binary64.isWhole_minValue.value, Binary64.isWhole_maxValue.value]
  simp only [Int.cast_le]
  have hmin : Int64.minValue.toInt = -2 ^ 63 := by decide
  have hmax : Int64.maxValue.toInt = 2 ^ 63 - 1 := by decide
  unfold toInt64?
  simp only [hmin, hmax]
  constructor
  · intro h
    split at h
    · rename_i n hn
      split at h
      · rename_i hrange
        cases h
        refine ⟨n, Binary64.toInt?_eq_some_iff.mp hn, hrange.1, by omega, ?_⟩
        exact Int64.toInt_ofInt_of_le (by omega) (by omega)
      · cases h
    · cases h
  · rintro ⟨n, hn, hlow, hhigh, hi⟩
    rw [Binary64.toInt?_eq_some_iff.mpr hn]
    simp only
    rw [if_pos ⟨hlow, by omega⟩, ← hi, Int64.ofInt_toInt]

theorem denotes_integer_iff {n : Int64} {k : ℤ} : (integer n).Denotes k ↔ n.toInt = k := by
  constructor
  · intro h
    generalize hq : (k : ℚ) = q at h
    cases h
    exact (Int.cast_injective hq).symm
  · rintro rfl
    exact .integer n

theorem denotes_float_iff {k : ℤ} : (float x).Denotes k ↔ x.IsWhole k := by
  rw [← Binary64.denotes_intCast_iff]
  constructor
  · intro h
    cases h with
    | float h => exact h
  · exact .float

theorem toInt64?_eq_some_iff :
    a.toInt64? = some i ↔ a.Denotes i.toInt ∨ a.Denotes (2 ^ 63 : ℤ) ∧ i = Int64.maxValue := by
  have hmax : Int64.maxValue.toInt = 2 ^ 63 - 1 := by decide
  have hlow := i.le_toInt
  have hhigh := i.toInt_lt
  cases a with
  | integer n =>
    have hn := n.toInt_lt
    rw [denotes_integer_iff, denotes_integer_iff, toInt64?, Option.some_inj, ← Int64.toInt_inj]
    omega
  | float x =>
    rw [denotes_float_iff, denotes_float_iff, toInt64?_float_eq_some_iff,
      Binary64.isWhole_minValue.value, Binary64.isWhole_maxValue.value, ← Int64.toInt_inj, hmax]
    simp only [Int.cast_le]
    constructor
    · rintro ⟨n, hn, -, hle, hi⟩
      -- only the upper limit is rounded, so only there does the range let a number too many in
      obtain hlt | rfl : n < 2 ^ 63 ∨ n = 2 ^ 63 := by omega
      · left
        obtain rfl : i.toInt = n := by omega
        exact hn
      · exact .inr ⟨hn, by omega⟩
    · rintro (hn | ⟨hn, hi⟩)
      · exact ⟨i.toInt, hn, by omega, by omega, by omega⟩
      · exact ⟨2 ^ 63, hn, by omega, by omega, by omega⟩
  | _ =>
    simp only [toInt64?, reduceCtorEq, false_iff]
    rintro (h | ⟨h, -⟩) <;> cases h

end Number

theorem Value.toNumber?_eq_some_iff {v : Value} {a : Number} :
    v.toNumber? = some a ↔ v = .number a := by
  cases v <;> simp [toNumber?]

/-- A number is taken for an integer if and only if that is its value, except that `2 ^ 63`, which
has none of 64 bits, is taken for the largest one. So is every whole number from `-2 ^ 63` to
`2 ^ 63`, and no other, and a value if and only if it is a number that is. -/
theorem toInt64?_exact (a : Number) :
    (∀ i : Int64, a.toInt64? = some i ↔
      a.Denotes i.toInt ∨ a.Denotes (2 ^ 63 : ℤ) ∧ i = Int64.maxValue) ∧
    (a.toInt64?.isSome = true ↔ ∃ n : ℤ, a.Denotes n ∧ -2 ^ 63 ≤ n ∧ n ≤ 2 ^ 63) ∧
    ∀ (v : Value) (i : Int64), v.toInt64? = some i ↔ ∃ b, v = .number b ∧
      (b.Denotes i.toInt ∨ b.Denotes (2 ^ 63 : ℤ) ∧ i = Int64.maxValue) := by
  refine ⟨fun i => Number.toInt64?_eq_some_iff, ?_, ?_⟩
  · rw [Option.isSome_iff_exists]
    constructor
    · rintro ⟨i, hi⟩
      have hlow := i.le_toInt
      have hhigh := i.toInt_lt
      obtain h | ⟨h, -⟩ := Number.toInt64?_eq_some_iff.mp hi
      · exact ⟨i.toInt, h, by omega, by omega⟩
      · exact ⟨2 ^ 63, h, by omega, by omega⟩
    · rintro ⟨n, hn, hlow, hhigh⟩
      obtain hlt | rfl : n < 2 ^ 63 ∨ n = 2 ^ 63 := by omega
      · have hround : (Int64.ofInt n).toInt = n := Int64.toInt_ofInt_of_le hlow (by omega)
        exact ⟨.ofInt n, Number.toInt64?_eq_some_iff.mpr (.inl (hround.symm ▸ hn))⟩
      · exact ⟨_, Number.toInt64?_eq_some_iff.mpr (.inr ⟨hn, rfl⟩)⟩
  · intro v i
    simp only [Value.toInt64?, Option.bind_eq_some_iff, Value.toNumber?_eq_some_iff,
      Number.toInt64?_eq_some_iff]

/-- The double `2 ^ 63` is one more than the largest integer, and is taken for it. -/
theorem toInt64?_above_largest :
    let x : Binary64 := ⟨0x43E0000000000000⟩
    (Number.float x).toInt64? = some Int64.maxValue ∧ (Number.float x).Denotes (2 ^ 63 : ℤ) ∧
      ¬ (Number.float x).Denotes Int64.maxValue.toInt := by
  intro x
  have hwhole : x.IsWhole (2 ^ 63) := ⟨by decide +kernel, by decide +kernel⟩
  refine ⟨by decide +kernel, Number.denotes_float_iff.mpr hwhole, ?_⟩
  intro h
  have hsame := hwhole.value.symm.trans (Number.denotes_float_iff.mp h).value
  exact absurd (Int.cast_injective hsame) (by decide)

end Stencil
