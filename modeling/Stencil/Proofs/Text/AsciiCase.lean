import Stencil.Text.Matching

/-!
# The case of ASCII letters

To put the ASCII letters of a text into lower case first makes no difference to its lower-case form.
So texts that agree letter by letter have the same lower-case form, and without regard to case names
agree where their lower-case forms do.
-/

namespace Stencil

set_option autoImplicit false

section Characters

theorem cased_later : ∀ s ∈ CharSet.cased.stretches.drop 2, 128 ≤ s.1 := by
  decide +kernel

theorem caseIgnorable_later : ∀ s ∈ CharSet.caseIgnorable.stretches.drop 5, 128 ≤ s.1 := by
  decide +kernel

/-- For ASCII characters only the stretches among them matter. -/
theorem CharSet.contains_ascii {s : CharSet} {n : Nat} (h : ∀ t ∈ s.stretches.drop n, 128 ≤ t.1)
    {c : Char} (hc : c.toNat < 128) :
    s.contains c = CharSet.contains ⟨s.stretches.take n⟩ c := by
  have hlater : (s.stretches.drop n).any (fun t => t.1 ≤ c.toNat && c.toNat ≤ t.2) = false := by
    rw [List.any_eq_false]
    intro t ht
    have hfirst := h t ht
    simp only [Bool.and_eq_true, decide_eq_true_eq]
    omega
  rw [contains, ← List.take_append_drop n s.stretches, List.any_append, hlater, Bool.or_false]
  simp [contains]

theorem ascii_toLower : ∀ n : Fin 128, (Char.ofNat n).toLower.toNat < 128 ∧
    CharSet.contains ⟨CharSet.cased.stretches.take 2⟩ (Char.ofNat n).toLower =
      CharSet.contains ⟨CharSet.cased.stretches.take 2⟩ (Char.ofNat n) ∧
    CharSet.contains ⟨CharSet.caseIgnorable.stretches.take 5⟩ (Char.ofNat n).toLower =
      CharSet.contains ⟨CharSet.caseIgnorable.stretches.take 5⟩ (Char.ofNat n) ∧
    (Char.ofNat n).toLower.toLower = (Char.ofNat n).toLower := by
  decide +kernel

theorem toLower_of_not_ascii {c : Char} (h : ¬c.toNat < 128) : c.toLower = c := by
  refine dif_neg fun hupper => ?_
  have hle : c.toNat ≤ 90 := UInt32.le_iff_toNat_le.mp hupper.2
  omega

/-- A character that is put into lower case is cased and ignored as it was, and has the lower-case
form that it had. -/
theorem toLower_alike (c : Char) : isCased c.toLower = isCased c ∧
    isCaseIgnorable c.toLower = isCaseIgnorable c ∧ lowercaseChar c.toLower = lowercaseChar c ∧
    (c.toLower = 'Σ' ↔ c = 'Σ') := by
  by_cases h : c.toNat < 128
  · obtain ⟨hlower, hcased, hignorable, htwice⟩ := ascii_toLower ⟨c.toNat, h⟩
    simp only [Char.ofNat_toNat] at hlower hcased hignorable htwice
    have hsigma {ch : Char} (hch : ch.toNat < 128) : ch ≠ 'Σ' := by
      rintro rfl
      contradiction
    refine ⟨?_, ?_, ?_, by simp only [hsigma hlower, hsigma h]⟩
    · rw [isCased, isCased, CharSet.contains_ascii cased_later hlower, hcased,
        CharSet.contains_ascii cased_later h]
    · rw [isCaseIgnorable, isCaseIgnorable, CharSet.contains_ascii caseIgnorable_later hlower,
        hignorable, CharSet.contains_ascii caseIgnorable_later h]
    · rw [lowercaseChar_eq_toLower hlower, lowercaseChar_eq_toLower h, htwice]
  · rw [toLower_of_not_ascii h]
    simp

end Characters

section Texts

theorem leadsToCased_map_toLower (cs : List Char) :
    leadsToCased (cs.map Char.toLower) = leadsToCased cs := by
  have hignorable : isCaseIgnorable ∘ Char.toLower = isCaseIgnorable :=
    funext fun c => (toLower_alike c).2.1
  rw [leadsToCased, leadsToCased, List.dropWhile_map, hignorable]
  cases cs.dropWhile isCaseIgnorable with
  | nil => rfl
  | cons c later => exact (toLower_alike c).1

theorem sigmaIsFinal_map_toLower (before after : List Char) :
    sigmaIsFinal (before.map Char.toLower) (after.map Char.toLower) =
      sigmaIsFinal before after := by
  simp only [sigmaIsFinal, leadsToCased_map_toLower]

theorem lowercaseAfter_map_toLower (before cs : List Char) :
    lowercaseAfter (before.map Char.toLower) (cs.map Char.toLower) = lowercaseAfter before cs := by
  induction cs generalizing before with
  | nil => rfl
  | cons c cs ih =>
    have hlater := ih (c :: before)
    rw [List.map_cons] at hlater ⊢
    obtain ⟨-, -, hform, hsigma⟩ := toLower_alike c
    simp only [lowercaseAfter, hlater, hsigma, hform, sigmaIsFinal_map_toLower]

variable {a b : String}

theorem lowercased_eq_of_equalAsciiCase (h : equalAsciiCase a b = true) :
    lowercased a = lowercased b := by
  have hmap (s : String) : lowercase (s.toList.map Char.toLower) = lowercased s :=
    lowercaseAfter_map_toLower [] s.toList
  rw [← hmap a, ← hmap b, beq_iff_eq.mp h]

theorem agrees_insensitive_iff :
    CaseSensitivity.insensitive.agrees a b = true ↔ lowercased a = lowercased b := by
  rw [CaseSensitivity.agrees, Bool.or_eq_true, beq_iff_eq]
  exact ⟨fun h => h.elim lowercased_eq_of_equalAsciiCase id, .inr⟩

/-- Names that agree with the same name agree with each other. -/
theorem CaseSensitivity.agrees_of_agrees {s : CaseSensitivity} {own own' name : String}
    (h : s.agrees own name = true) (h' : s.agrees own' name = true) : s.agrees own own' = true := by
  cases s with
  | sensitive => exact beq_iff_eq.mpr ((beq_iff_eq.mp h).trans (beq_iff_eq.mp h').symm)
  | insensitive =>
    rw [agrees_insensitive_iff] at h h' ⊢
    exact h.trans h'.symm

end Texts

end Stencil
