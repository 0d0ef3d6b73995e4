import Mathlib
import Stencil.Number

/-!
# Whole numbers as doubles

The nearest double to a 64-bit integer is a whole number. Up to `2 ^ 53` it is the integer itself,
and from there on it stays at least as far from zero.
-/

namespace Stencil

set_option autoImplicit false

namespace Binary64

/-- The double is a finite one, with the value `n`. -/
structure IsWhole (x : Binary64) (n : Int) : Prop where
  finite : x.isFinite = true
  value : x.toRat = n

/-- Of an integer up to `2 ^ 53` it is the integer, of any other it is no nearer to zero than that.
-/
structure Nearest (n k : Int) : Prop where
  exact : n.natAbs ≤ 2 ^ 53 → k = n
  above : 2 ^ 53 ≤ n → 2 ^ 53 ≤ k
  below : n ≤ -2 ^ 53 → k ≤ -2 ^ 53

section Fields

variable {negative : Bool} {e f : Nat}

theorem toNat_ofFields (he : e < 2048) (hf : f < 2 ^ 52) :
    (ofFields negative e f).bits.toNat = (if negative then 2 ^ 63 else 0) + e * 2 ^ 52 + f := by
  have hlt : (if negative then 2 ^ 63 else 0) + e * 2 ^ 52 + f < 2 ^ 64 := by
    split <;> omega
  simp only [ofFields, Nat.shiftLeft_eq, UInt64.toNat_ofNat']
  exact Nat.mod_eq_of_lt hlt

theorem isNegative_ofFields (he : e < 2048) (hf : f < 2 ^ 52) :
    (ofFields negative e f).isNegative = negative := by
  rw [isNegative, toNat_ofFields he hf, Nat.testBit_eq_decide_div_mod_eq]
  cases negative <;> simp <;> omega

theorem exponentField_ofFields (he : e < 2048) (hf : f < 2 ^ 52) :
    (ofFields negative e f).exponentField = e := by
  rw [exponentField, toNat_ofFields he hf, Nat.shiftRight_eq_div_pow]
  cases negative <;> simp <;> omega

theorem fraction_ofFields (he : e < 2048) (hf : f < 2 ^ 52) :
    (ofFields negative e f).fraction = f := by
  rw [fraction, toNat_ofFields he hf, Nat.one_shiftLeft]
  cases negative <;> simp <;> omega

end Fields

/-- The number with that magnitude, negative or not. -/
def signed (negative : Bool) (n : Nat) : Int := if negative then -n else n

theorem toRat_eq_signed {x : Binary64} {n : Nat}
    (h : (if 0 ≤ x.exponent then ((x.significand <<< x.exponent.toNat : Nat) : Rat)
      else mkRat x.significand (1 <<< (-x.exponent).toNat)) = (n : Int)) :
    x.toRat = signed x.isNegative n := by
  unfold toRat signed
  simp only [h]
  split
  · exact (Rat.intCast_neg _).symm
  · rfl

section Normal

variable {negative : Bool} {m k n : Nat} {e : Int}

/-- A finite double by its sign, its significand and its exponent. -/
structure Normal (negative : Bool) (m : Nat) (e : Int) (x : Binary64) : Prop where
  finite : x.isFinite = true
  sign : x.isNegative = negative
  significand : x.significand = m
  exponent : x.exponent = e

theorem normal_ofNormal (hlow : 2 ^ 52 ≤ m) (hhigh : m < 2 ^ 53) (he : -1075 < e) (he' : e < 972) :
    Normal negative m e (ofNormal negative m e) := by
  have hfield : (e + 1075).toNat < 2048 := by omega
  have hfraction : m - 2 ^ 52 < 2 ^ 52 := by omega
  have hne : (e + 1075).toNat ≠ 0 := by omega
  have hfinite : (e + 1075).toNat ≠ 2047 := by omega
  unfold ofNormal
  rw [Nat.one_shiftLeft]
  constructor
  · rw [isFinite, exponentField_ofFields hfield hfraction]
    exact decide_eq_true hfinite
  · exact isNegative_ofFields hfield hfraction
  · rw [significand, exponentField_ofFields hfield hfraction, if_neg hne,
      fraction_ofFields hfield hfraction, Nat.one_shiftLeft]
    omega
  · rw [exponent, exponentField_ofFields hfield hfraction, if_neg hne]
    omega

theorem Normal.isWhole {x : Binary64} (h : Normal negative m e x)
    (hvalue : (if 0 ≤ e then ((m <<< e.toNat : Nat) : Rat) else mkRat m (1 <<< (-e).toNat)) =
      (n : Int)) : x.IsWhole (signed negative n) := by
  obtain ⟨hfinite, rfl, rfl, rfl⟩ := h
  exact ⟨hfinite, toRat_eq_signed hvalue⟩

theorem isWhole_ofNormal (hlow : 2 ^ 52 ≤ m) (hhigh : m < 2 ^ 53) (hk : k < 972) :
    (ofNormal negative m k).IsWhole (signed negative (m * 2 ^ k)) := by
  apply (normal_ofNormal hlow hhigh (by omega) (by omega)).isWhole (n := m * 2 ^ k)
  rw [if_pos (Int.natCast_nonneg k), Int.toNat_natCast, Nat.shiftLeft_eq]
  rfl

theorem isWhole_ofNormal_exact (hm : n * 2 ^ k = m) (hlow : 2 ^ 52 ≤ m) (hhigh : m < 2 ^ 53)
    (hk : k < 1075) : (ofNormal negative m (-k)).IsWhole (signed negative n) := by
  apply (normal_ofNormal hlow hhigh (by omega) (by omega)).isWhole
  rw [← hm, Int.neg_neg, Int.toNat_natCast, Nat.one_shiftLeft]
  split
  · obtain rfl : k = 0 := by omega
    have hunscaled : (n * 2 ^ 0) <<< (-((0 : Nat) : Int)).toNat = n := by simp
    rw [hunscaled, Rat.intCast_natCast]
  · have hpow : 2 ^ k ≠ 0 := Nat.ne_of_gt (Nat.two_pow_pos k)
    have hcancel := Rat.mkRat_mul_right (n := n) (d := 1) hpow
    rw [Nat.one_mul, ← Int.natCast_mul] at hcancel
    rw [hcancel, Rat.mkRat_one]

end Normal

section Rounding

variable {negative : Bool} {n k : Nat}

theorem roundShift_bounds : n / 2 ^ k ≤ roundShift n k ∧ roundShift n k ≤ n / 2 ^ k + 1 := by
  unfold roundShift
  rw [Nat.shiftRight_eq_div_pow]
  simp only
  split <;> omega

theorem isWhole_ofMagnitude_zero : (ofMagnitude negative 0).IsWhole 0 := by
  cases negative <;> exact ⟨by decide, by decide⟩

theorem isWhole_ofMagnitude_exact (hn : n ≠ 0) (hsmall : n < 2 ^ 53) :
    (ofMagnitude negative n).IsWhole (signed negative n) := by
  have hlog : n.log2 < 53 := (Nat.log2_lt hn).mpr hsmall
  have hlow := Nat.mul_le_mul_right (2 ^ (52 - n.log2)) (Nat.log2_self_le hn)
  have hhigh := Nat.mul_lt_mul_of_pos_right (Nat.lt_log2_self (n := n))
    (Nat.two_pow_pos (52 - n.log2))
  rw [← Nat.pow_add] at hlow hhigh
  have hsum : n.log2 + (52 - n.log2) = 52 := by omega
  have hsum' : n.log2 + 1 + (52 - n.log2) = 53 := by omega
  rw [hsum] at hlow
  rw [hsum'] at hhigh
  have hexponent : (n.log2 : Int) - 52 = -((52 - n.log2 : Nat) : Int) := by omega
  rw [ofMagnitude, if_neg hn, if_pos (by omega), Nat.shiftLeft_eq, hexponent]
  exact isWhole_ofNormal_exact rfl hlow hhigh (by omega)

theorem le_log2 (hlarge : 2 ^ 53 ≤ n) : 53 ≤ n.log2 := by
  have hnot := mt (Nat.log2_lt (by omega)).mp (Nat.not_lt.mpr hlarge)
  omega

theorem div_log2_bounds (hlarge : 2 ^ 53 ≤ n) :
    2 ^ 52 ≤ n / 2 ^ (n.log2 - 52) ∧ n / 2 ^ (n.log2 - 52) < 2 ^ 53 := by
  have hlog := le_log2 hlarge
  have hsum : 52 + (n.log2 - 52) = n.log2 := by omega
  have hsum' : 53 + (n.log2 - 52) = n.log2 + 1 := by omega
  constructor
  · rw [Nat.le_div_iff_mul_le (Nat.two_pow_pos _), ← Nat.pow_add, hsum]
    exact Nat.log2_self_le (by omega)
  · rw [Nat.div_lt_iff_lt_mul (Nat.two_pow_pos _), ← Nat.pow_add, hsum']
    exact Nat.lt_log2_self

theorem roundNat_eq : roundNat n = roundShift n (n.log2 - 52) * 2 ^ (n.log2 - 52) :=
  Nat.shiftLeft_eq ..

theorem roundNat_of_le (hsmall : n ≤ 2 ^ 53) : roundNat n = n := by
  by_cases hmost : n = 2 ^ 53
  · rw [hmost]
    decide
  · have hlog : n.log2 - 52 = 0 := by
      by_cases hzero : n = 0
      · rw [hzero]
        decide
      · have hlt := (Nat.log2_lt (k := 53) hzero).mpr (by omega)
        omega
    rw [roundNat_eq, hlog, roundShift]
    simp [Nat.mod_one]

theorem le_roundNat (hlarge : 2 ^ 53 ≤ n) : 2 ^ 53 ≤ roundNat n := by
  have hlog := le_log2 hlarge
  have hround := Nat.le_trans (div_log2_bounds hlarge).1 (roundShift_bounds (n := n)).1
  have hfactor : 2 ^ 1 ≤ 2 ^ (n.log2 - 52) := Nat.pow_le_pow_right (by decide) (by omega)
  rw [roundNat_eq]
  exact Nat.mul_le_mul hround hfactor

theorem isWhole_ofMagnitude_rounded (hlarge : 2 ^ 53 ≤ n) (hn : n < 2 ^ 64) :
    (ofMagnitude negative n).IsWhole (signed negative (roundNat n)) := by
  have hne : n ≠ 0 := by omega
  have hlog := le_log2 hlarge
  have hlog' : n.log2 < 64 := (Nat.log2_lt hne).mpr hn
  obtain ⟨hlow, hhigh⟩ := div_log2_bounds hlarge
  obtain ⟨hround, hround'⟩ := roundShift_bounds (n := n) (k := n.log2 - 52)
  rw [ofMagnitude, if_neg hne, if_neg (by omega), roundNat_eq]
  simp only [Nat.one_shiftLeft]
  split
  · rename_i hcarry
    have hvalue : 2 ^ 53 * 2 ^ (n.log2 - 52) = 2 ^ 52 * 2 ^ (n.log2 - 52 + 1) := by
      rw [Nat.pow_succ 2 (n.log2 - 52)]
      omega
    rw [hcarry, hvalue]
    have hshift : n.log2 - 52 + 1 < 972 := by omega
    exact isWhole_ofNormal (Nat.le_refl _) (by decide) hshift
  · exact isWhole_ofNormal (by omega) (by omega) (by omega)

theorem isWhole_ofMagnitude (hn : n < 2 ^ 64) :
    (ofMagnitude negative n).IsWhole (signed negative (roundNat n)) := by
  by_cases hlarge : 2 ^ 53 ≤ n
  · exact isWhole_ofMagnitude_rounded hlarge hn
  · rw [roundNat_of_le (by omega)]
    by_cases hzero : n = 0
    · subst hzero
      cases negative <;> exact isWhole_ofMagnitude_zero
    · exact isWhole_ofMagnitude_exact hzero (by omega)

/-- The nearest double to a 64-bit integer. -/
theorem exists_isWhole_ofInt64 (n : Int64) : ∃ k, (ofInt64 n).IsWhole k ∧ Nearest n.toInt k := by
  have hlow := n.le_toInt
  have hhigh := n.toInt_lt
  have hmagnitude : n.toInt.natAbs < 2 ^ 64 := by omega
  have hexact := roundNat_of_le (n := n.toInt.natAbs)
  have hfar := le_roundNat (n := n.toInt.natAbs)
  generalize hk : roundNat n.toInt.natAbs = k at hexact hfar
  have hsigned : signed (n.toInt < 0) k = if n.toInt < 0 then -(k : Int) else k := by
    simp [signed]
  refine ⟨_, isWhole_ofMagnitude hmagnitude, ?_⟩
  rw [hk, hsigned]
  constructor <;> intro h <;> split <;> omega

end Rounding

end Binary64

end Stencil
