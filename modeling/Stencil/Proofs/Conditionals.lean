import Mathlib
import Stencil.Formatter.Conditional
import Stencil.Standard
import Stencil.Proofs.Choices
import Stencil.Proofs.Number.Whole

/-!
# Which section a number picks

A 64-bit integer is compared as the nearest double, and so is the number of the last section, which
makes no difference until there are more sections than doubles can count. Of an integer of any size
only the sign counts: a positive one is taken for more than any number of sections.
-/

namespace Stencil

set_option autoImplicit false

namespace Formatter

/-- The section of an integer: one and other; up to zero, one and more; negative, zero, one and
more; from five on the section of that number, the last for what is negative or too large. -/
def integerSection (n : Int) (count : Nat) : Nat :=
  match count with
  | 2 => if n = 1 then 0 else 1
  | 3 => if n ≤ 0 then 0 else if n = 1 then 1 else 2
  | 4 => if n < 0 then 0 else if n = 0 then 1 else if n = 1 then 2 else 3
  | _ => if n < 0 ∨ (count : Int) - 1 < n then count - 1 else n.toNat

/-- The last section, as far as doubles count the sections one by one. -/
def topSection (count : Nat) : Nat := min (Binary64.roundNat (count - 1)) (count - 1)

/-- The section of an integer of any size: its own if it is not positive, and else the last one. -/
def bigIntSection (n : Int) (count : Nat) : Nat :=
  if n ≤ 0 then integerSection n count else topSection count

section Sections

variable {n k : Int} {count : Nat}

theorem finite_lt (n m : Int) : (Extended.finite n).lt m = decide (n < m) :=
  decide_eq_decide.mpr Rat.intCast_lt_intCast

theorem finite_le (n m : Int) : (Extended.finite n).le m = decide (n ≤ m) :=
  decide_eq_decide.mpr Rat.intCast_le_intCast

theorem finite_eq (n m : Int) : (Extended.finite n).eq m = decide (n = m) := by
  have hiff : ((n : Rat) == m) = true ↔ n = m := beq_iff_eq.trans Rat.intCast_inj
  exact Bool.eq_iff_iff.mpr (hiff.trans decide_eq_true_iff.symm)

theorem topSection_eq (hfew : count ≤ 2 ^ 53 + 1) : topSection count = count - 1 := by
  rw [topSection, Binary64.roundNat_of_le (by omega), Nat.min_self]

/-- The last section is rounded to no less than any number that doubles count to. -/
theorem min_roundNat (hfew : count ≤ 2 ^ 53 + 1 ∨ n ≤ 2 ^ 53) :
    min (min n.toNat (Binary64.roundNat (count - 1))) (count - 1) = min n.toNat (count - 1) := by
  by_cases hsmall : count - 1 ≤ 2 ^ 53
  · rw [Binary64.roundNat_of_le hsmall]
    omega
  · have hround := Binary64.le_roundNat (n := count - 1) (by omega)
    omega

theorem countedSection_finite (hfew : count ≤ 2 ^ 53 + 1 ∨ n ≤ 2 ^ 53) :
    min (countedSection (.finite n) (count - 1)) (count - 1) =
      if n < 0 ∨ (count : Int) - 1 < n then count - 1 else n.toNat := by
  have hnegative : (n : Rat) < 0 ↔ n < 0 := Rat.intCast_lt_intCast (b := 0)
  have hround := min_roundNat hfew
  simp only [countedSection, hnegative, Rat.floor_intCast]
  split <;> split <;> omega

theorem integerSection_lt (n : Int) (hcount : 2 ≤ count) : integerSection n count < count := by
  unfold integerSection
  split <;> grind

theorem numberSection_finite (hcount : 2 ≤ count) (hfew : count ≤ 2 ^ 53 + 1 ∨ n ≤ 2 ^ 53) :
    min (numberSection (.finite n) count) (count - 1) = integerSection n count := by
  have hlt := integerSection_lt n hcount
  have hone := finite_eq n 1
  have hzero := finite_eq n 0
  have hnegative := finite_lt n 0
  have hnone := finite_le n 0
  have hmore := finite_le n 1
  rw [Rat.intCast_one] at hone hmore
  rw [Rat.intCast_zero] at hzero hnegative hnone
  match count with
  | 2 =>
    have hsection : numberSection (.finite n) 2 = integerSection n 2 := by
      simp only [numberSection, integerSection, hone, decide_eq_true_eq]
    omega
  | 3 =>
    have hsection : numberSection (.finite n) 3 = integerSection n 3 := by
      simp only [numberSection, integerSection, hnone, hmore, decide_eq_true_eq]
      grind
    omega
  | 4 =>
    have hsection : numberSection (.finite n) 4 = integerSection n 4 := by
      simp only [numberSection, integerSection, hnegative, hzero, hmore, decide_eq_true_eq]
      grind
    omega
  | more + 5 => exact countedSection_finite hfew

/-- Of what is larger than all numbers, the section is the last that doubles count to. -/
theorem numberSection_infinity (hcount : 2 ≤ count) :
    min (numberSection .infinity count) (count - 1) = topSection count := by
  match count with
  | 2 | 3 | 4 => rfl
  | more + 5 => rfl

theorem numberSection_negInfinity (hcount : 2 ≤ count) (hn : n < 0) :
    min (numberSection .negInfinity count) (count - 1) = integerSection n count := by
  have hnone : n ≤ 0 := Int.le_of_lt hn
  have hone : n ≠ 1 := by omega
  match count with
  | 2 => simp [numberSection, Extended.eq, integerSection, hone]
  | 3 => simp [numberSection, Extended.le, integerSection, hnone]
  | 4 => simp [numberSection, Extended.lt, integerSection, hn]
  | more + 5 => simp [numberSection, countedSection, integerSection, hn]

theorem chosenSection_bigInt (now : Instant) (n : Int) (hcount : 2 ≤ count) :
    chosenSection now (.bigInt n) count = bigIntSection n count := by
  have hsign : chosenSection now (.bigInt n) count =
      min (numberSection (signOf n) count) (count - 1) := rfl
  rw [hsign]
  unfold signOf bigIntSection
  split
  · rename_i hn
    rw [if_pos (Int.le_of_lt hn)]
    exact numberSection_negInfinity hcount hn
  · split
    · rename_i hn
      rw [hn, if_pos (Int.le_refl 0)]
      exact numberSection_finite hcount (.inr (by decide))
    · rw [if_neg (by omega)]
      exact numberSection_infinity hcount

theorem integerSection_nearest (h : Binary64.Nearest n k) (hcount : 2 ≤ count)
    (hfew : count ≤ 2 ^ 53 + 1 ∨ n ≤ 2 ^ 53) : integerSection k count = integerSection n count := by
  obtain ⟨hexact, habove, hbelow⟩ := h
  by_cases hsmall : n.natAbs ≤ 2 ^ 53
  · rw [hexact hsmall]
  -- From here on the integer and its double are both out of the range of the sections.
  unfold integerSection
  split <;> grind

/-- With the last section for a positive integer, one misses its own among few sections, and so does
each that counts one before the last. -/
theorem bigIntSection_eq_iff (n : Int) (hcount : 2 ≤ count) (hfew : count ≤ 2 ^ 53 + 1) :
    bigIntSection n count = integerSection n count ↔
      ¬(n = 1 ∧ count ≤ 4) ∧ ¬(0 < n ∧ n < count - 1 ∧ 5 ≤ count) := by
  rw [bigIntSection, topSection_eq hfew]
  unfold integerSection
  split <;> grind

theorem chosenSection_integer (now : Instant) (n : Int64) (hcount : 2 ≤ count)
    (hfew : count ≤ 2 ^ 53 + 1 ∨ n.toInt ≤ 2 ^ 53) :
    chosenSection now (.number (.integer n)) count = integerSection n.toInt count := by
  obtain ⟨k, hwhole, hnearest⟩ := Binary64.exists_isWhole_ofInt64 n
  have hplace : Extended.ofDouble? (Number.integer n).toDouble = some (.finite k) := by
    have hfinite : (Binary64.ofInt64 n).isFinite = true := hwhole.finite
    simp [Extended.ofDouble?, Number.toDouble, Binary64.isNaN, Binary64.isInfinite, hfinite,
      hwhole.value]
  have hfew' : count ≤ 2 ^ 53 + 1 ∨ k ≤ 2 ^ 53 := by
    obtain ⟨hexact, -, hbelow⟩ := hnearest
    omega
  rw [chosenSection, wantedSection, hplace]
  · exact (numberSection_finite hcount hfew').trans (integerSection_nearest hnearest hcount hfew)
  · simp

end Sections

end Formatter

/-- The conditional formatter renders the section with that number, and there is one. -/
def Request.Picks (r : Request) (f : Format) (i : Nat) : Prop :=
  ∃ g, (f.split sectionMark).toList[i]? = some g ∧
    Formatter.conditional.format r = Script.render g r.value >>= fun _ => pure true

theorem Formatter.picks_chosenSection {r : Request} {f : Format} (hformat : r.format? = some f)
    (hcount : 2 ≤ (f.split sectionMark).count) :
    r.Picks f (chosenSection r.now r.value (f.split sectionMark).count) := by
  have hchosen : chosenSection r.now r.value (f.split sectionMark).count <
      (f.split sectionMark).count := by
    unfold chosenSection
    omega
  refine ⟨_, Sections.getElem?_toList hchosen, ?_⟩
  unfold conditional
  simp only [hformat]
  rw [if_neg (by omega), if_neg (by omega)]

/-- Among two sections or more a 64-bit integer picks that of its number, as long as there are no
more sections than doubles count one by one, or it is no larger than they do. An integer of any size
picks its own section too if it is not positive, and else the last one that doubles count to: of as
many as they count one by one that is its own but if it is one, or counts a section before the
last. -/
theorem conditional_picks {r : Request} {f : Format} (hformat : r.format? = some f)
    (hcount : 2 ≤ (f.split sectionMark).count) :
    let count := (f.split sectionMark).count
    (∀ n : Int64, r.value = .number (.integer n) → count ≤ 2 ^ 53 + 1 ∨ n.toInt ≤ 2 ^ 53 →
      r.Picks f (Formatter.integerSection n.toInt count)) ∧
    (∀ n : Int, r.value = .bigInt n →
      r.Picks f (Formatter.bigIntSection n count) ∧
      (count ≤ 2 ^ 53 + 1 →
        (Formatter.bigIntSection n count = Formatter.integerSection n count ↔
          ¬(n = 1 ∧ count ≤ 4) ∧ ¬(0 < n ∧ n < count - 1 ∧ 5 ≤ count)))) := by
  intro count
  have hpicks : r.Picks f (Formatter.chosenSection r.now r.value count) :=
    Formatter.picks_chosenSection hformat hcount
  constructor
  · intro n hvalue hfew
    rw [hvalue, Formatter.chosenSection_integer r.now n hcount hfew] at hpicks
    exact hpicks
  · intro n hvalue
    rw [hvalue, Formatter.chosenSection_bigInt r.now n hcount] at hpicks
    exact ⟨hpicks, Formatter.bigIntSection_eq_iff n hcount⟩

/-- Of five sections the integer 2 picks the third; as an integer of any size it picks the last. -/
theorem conditional_picks_five :
    let f : Format := ⟨3, 1, [.literal ⟨3, "a|b|c|d|e", .text⟩]⟩
    let p : Placeholder :=
      ⟨0, 1, "{0:a|b|c|d|e}", [⟨0, 1, 1, 2, "", "0"⟩], 0, ⟨3, 3, ""⟩, none, some f⟩
    let r (v : Value) := ((Engine.standard ⟨0, 0⟩).call none ⟨{}, ⟨0, 0, [.placeholder p]⟩, []⟩
      [v]).request p v
    2 ≤ (f.split sectionMark).count ∧ (r (.number (.integer 2))).Picks f 2 ∧
      (r (.bigInt 2)).Picks f 4 := by
  intro f p r
  have hcount : (f.split sectionMark).count = 5 := by decide +kernel
  have htwo : 2 ≤ (f.split sectionMark).count := by omega
  obtain ⟨hinteger, -⟩ := conditional_picks (r := r (.number (.integer 2))) (f := f) rfl htwo
  obtain ⟨-, hbigInt⟩ := conditional_picks (r := r (.bigInt 2)) (f := f) rfl htwo
  rw [hcount] at hinteger hbigInt
  exact ⟨htwo, hinteger 2 rfl (.inl (by decide)), (hbigInt 2 rfl).1⟩

/-- A one is not taken for one where it is an integer of any size. Among more sections than doubles
count one by one, a 64-bit integer may pick the section before its own, and one of any size the
section before the last. -/
theorem bigInt_one_picks_other :
    Formatter.chosenSection ⟨0, 0⟩ (.bigInt 1) 2 = 1 ∧
      Formatter.chosenSection ⟨0, 0⟩ (.number (.integer 1)) 2 = 0 ∧
      (Standard.format ⟨0, 0⟩ {} "{0:one|other}" [.bigInt 1]).toOption = some "other" ∧
      (Standard.format ⟨0, 0⟩ {} "{0:one|other}" [.number (.integer 1)]).toOption = some "one" ∧
      Formatter.chosenSection ⟨0, 0⟩ (.number (.integer 9007199254740993)) 9007199254740995 =
        9007199254740992 ∧
      Formatter.integerSection 9007199254740993 9007199254740995 = 9007199254740993 ∧
      Formatter.chosenSection ⟨0, 0⟩ (.bigInt 9007199254740993) 9007199254740994 =
        9007199254740992 := by
  refine ⟨by decide, by decide +kernel, by decide +kernel, by decide +kernel, by decide +kernel,
    by decide +kernel, by decide +kernel⟩

end Stencil
