import Stencil.Proofs.Reading.Parts
import Stencil.Proofs.Template.Recast
import Stencil.Template.Written

/-!
# How parts are written

What the parts of a placeholder are written as spells them, and how a tree is written depends on
nothing that is dropped with its places.
-/

namespace Stencil

set_option autoImplicit false

section Digits

theorem digitChar_digitValue {c : Char} (hc : c.isDigit = true) :
    digitValue c < 10 ∧ Nat.digitChar (digitValue c) = c := by
  have hbounds : 48 ≤ c.toNat ∧ c.toNat ≤ 57 := by
    simpa [Char.isDigit_iff_toNat] using hc
  have hlt : digitValue c < 10 := by
    have hvalue : digitValue c = c.toNat - 48 := rfl
    omega
  refine ⟨hlt, Char.toNat_inj.mp ((Nat.toNat_digitChar_of_lt_ten hlt).trans ?_)⟩
  exact Nat.add_sub_of_le hbounds.1

theorem digitsValue_toDigits (n : Nat) : digitsValue (Nat.toDigits 10 n) = n :=
  Nat.ofDigitChars_ten_toDigits

theorem toDigits_foldl {digits : List Char} (hdecimal : digits.all Char.isDigit) {n : Nat}
    (hn : 0 < n) :
    Nat.toDigits 10 (digits.foldl (fun n c => 10 * n + digitValue c) n) =
      Nat.toDigits 10 n ++ digits := by
  induction digits generalizing n with
  | nil => simp
  | cons c digits ih =>
    simp only [List.all_cons, Bool.and_eq_true] at hdecimal
    obtain ⟨hlt, hchar⟩ := digitChar_digitValue hdecimal.1
    have hsplit := Nat.toDigits_append_toDigits (b := 10) (by decide) hn hlt
    rw [Nat.toDigits_of_lt_base hlt, hchar] at hsplit
    rw [List.foldl_cons, ih hdecimal.2 (by omega), ← hsplit]
    simp

/-- Digits that do not begin with a zero are those that their value is written with. -/
theorem toDigits_digitsValue {digits : List Char} (hdecimal : digits.all Char.isDigit)
    (hne : digits ≠ []) (hhead : digits.head? ≠ some '0') :
    Nat.toDigits 10 (digitsValue digits) = digits := by
  cases digits with
  | nil => exact absurd rfl hne
  | cons c digits =>
    simp only [List.all_cons, Bool.and_eq_true] at hdecimal
    obtain ⟨hlt, hchar⟩ := digitChar_digitValue hdecimal.1
    have hpos : 0 < digitValue c := by
      apply Nat.pos_of_ne_zero
      intro hzero
      rw [hzero] at hchar
      exact hhead (by rw [← hchar]; rfl)
    have hfold := toDigits_foldl hdecimal.2 hpos
    rw [Nat.toDigits_of_lt_base hlt, hchar] at hfold
    simpa [digitsValue] using hfold

/-- Digits are at least as many as their value is written with. -/
theorem length_toDigits_digitsValue_le {digits : List Char} (hdecimal : digits.all Char.isDigit)
    (hne : digits ≠ []) : (Nat.toDigits 10 (digitsValue digits)).length ≤ digits.length := by
  induction digits with
  | nil => exact absurd rfl hne
  | cons c digits ih =>
    by_cases hzero : c = '0'
    · subst hzero
      have hvalue : digitsValue ('0' :: digits) = digitsValue digits := rfl
      rw [hvalue]
      simp only [List.all_cons, Bool.and_eq_true] at hdecimal
      cases digits with
      | nil => exact Nat.le_refl _
      | cons b digits => exact Nat.le_succ_of_le (ih hdecimal.2 (List.cons_ne_nil b digits))
    · have hhead : (c :: digits).head? ≠ some '0' := by
        rw [List.head?_cons]
        exact fun h => hzero (Option.some.inj h)
      apply Nat.le_of_eq
      rw [toDigits_digitsValue hdecimal hne hhead]

end Digits

section Parts

variable {d : Dialect}

theorem pathText_selectorsFrom (index position : Nat) (first : String) (later : List String) :
    Placeholder.pathText (selectorsFrom d index position (first :: later)) =
      d.markBefore index ++ d.pathMark.toString.intercalate (first :: later) := by
  induction later generalizing index position first with
  | nil => simp [selectorsFrom, Placeholder.pathText, Selector.marked, Selector.placed]
  | cons second later ih =>
    have hmark : d.markBefore (index + 1) = d.pathMark.toString := rfl
    have hrest := ih (index + 1) (Selector.placed d index position first).stop second
    rw [Placeholder.pathText, hmark] at hrest
    rw [selectorsFrom, Placeholder.pathText, List.map_cons, String.join_cons, hrest,
      String.intercalate_cons_cons]
    simp only [Selector.marked, Selector.placed, String.append_assoc]

/-- Selectors written one behind the other, each with its mark, are the path they were read from. -/
theorem PathText.toList_pathText {text : List Char} {path : List String}
    (h : PathText d text path) (position : Nat) :
    (Placeholder.pathText (selectorsFrom d 0 position path)).toList = text := by
  have hmark : d.markBefore 0 = "" := rfl
  obtain ⟨first, later, rfl, rfl, -⟩ := h.exists_selectors
  rw [List.map_cons, pathText_selectorsFrom, hmark, String.empty_append]
  simp [Function.comp_def]

theorem toList_alignmentText (a : Int) :
    (Placeholder.alignmentText d a).toList =
      if a = 0 then []
      else d.alignmentMark :: (signText (decide (a < 0)) ++ Nat.toDigits 10 a.natAbs) := by
  unfold Placeholder.alignmentText
  split
  · rfl
  · by_cases ha : 0 ≤ a
    · have hneg : ¬ a < 0 := by omega
      have habs : a.toNat = a.natAbs := by omega
      simp [Int.repr_eq_if, ha, hneg, signText, habs]
    · have hneg : a < 0 := by omega
      have habs : (-a).toNat = a.natAbs := by omega
      simp [Int.repr_eq_if, ha, hneg, signText, habs]

theorem signedValue_toDigits (a : Int) :
    signedValue (decide (a < 0)) (Nat.toDigits 10 a.natAbs) = a := by
  rw [signedValue, digitsValue_toDigits]
  by_cases ha : a < 0
  · simp only [ha, decide_true, if_true]
    omega
  · simp only [ha, decide_false, Bool.false_eq_true, if_false]
    omega

/-- An alignment that was read is written as text that is read as the same alignment. -/
theorem AlignmentText.alignmentText {text : List Char} {a : Int} (h : AlignmentText d text a) :
    AlignmentText d (Placeholder.alignmentText d a).toList a := by
  rw [toList_alignmentText]
  by_cases ha : a = 0
  · subst ha
    exact .absent
  · rw [if_neg ha]
    have hallowed : d.allowsAlignment a = true := by
      cases h with
      | absent => exact absurd rfl ha
      | written _ _ _ _ allowed => exact allowed
    have hvalue := signedValue_toDigits a
    rw [← hvalue] at hallowed
    have hdecimal : (Nat.toDigits 10 a.natAbs).all Char.isDigit = true :=
      List.all_eq_true.mpr fun c hc => Nat.isDigit_of_mem_toDigits (by decide) (by decide) hc
    have hwritten := AlignmentText.written (decide (a < 0)) (Nat.toDigits 10 a.natAbs)
      Nat.toDigits_ne_nil hdecimal hallowed
    rwa [hvalue] at hwritten

/-- Neither zero nor with zeros in front. -/
def CanonicalAlignment (text : List Char) : Prop :=
  ((text.drop 1).dropWhile (· == '-')).head? ≠ some '0'

theorem head?_of_canonical {negative : Bool} {digits : List Char} (nonempty : digits ≠ [])
    (decimal : digits.all Char.isDigit)
    (hcanonical : CanonicalAlignment (d.alignmentMark :: (signText negative ++ digits))) :
    digits.head? ≠ some '0' := by
  have hminus : digits.dropWhile (· == '-') = digits := by
    have hhead := head_digits nonempty decimal []
    cases digits with
    | nil => rfl
    | cons c digits =>
      have hc : c ≠ '-' := by simpa using hhead
      simp [hc]
  unfold CanonicalAlignment at hcanonical
  cases negative with
  | false => simpa [signText, hminus] using hcanonical
  | true => simpa [signText, hminus] using hcanonical

/-- A sign is written for a negative value only, and the digits are those of the value. -/
theorem toList_alignmentText_signedValue {negative : Bool} {digits : List Char}
    (hpos : digitsValue digits ≠ 0) :
    (Placeholder.alignmentText d (signedValue negative digits)).toList =
      d.alignmentMark :: (signText negative ++ Nat.toDigits 10 (digitsValue digits)) := by
  have hne : signedValue negative digits ≠ 0 := by
    cases negative <;> simpa [signedValue] using hpos
  have hneg : decide (signedValue negative digits < 0) = negative := by
    cases negative with
    | false => simp [signedValue]
    | true =>
      simp only [signedValue, if_true, decide_eq_true_eq]
      omega
  have habs : (signedValue negative digits).natAbs = digitsValue digits := by
    cases negative <;> simp [signedValue]
  rw [toList_alignmentText, if_neg hne, hneg, habs]

theorem AlignmentText.eq_of_canonical {text : List Char} {a : Int} (h : AlignmentText d text a)
    (hcanonical : CanonicalAlignment text) : (Placeholder.alignmentText d a).toList = text := by
  cases h with
  | absent => rfl
  | written negative digits nonempty decimal allowed =>
    have hhead := head?_of_canonical nonempty decimal hcanonical
    have hdigits := toDigits_digitsValue decimal nonempty hhead
    have hpos : digitsValue digits ≠ 0 := by
      intro hzero
      rw [hzero, Nat.toDigits_zero] at hdigits
      exact hhead (by rw [← hdigits]; rfl)
    rw [toList_alignmentText_signedValue hpos, hdigits]

/-- An alignment is never written longer than it was spelled. -/
theorem AlignmentText.length_le {text : List Char} {a : Int} (h : AlignmentText d text a) :
    (Placeholder.alignmentText d a).toList.length ≤ text.length := by
  cases h with
  | absent => exact Nat.le_refl _
  | written negative digits nonempty decimal allowed =>
    by_cases hzero : digitsValue digits = 0
    · have ha : signedValue negative digits = 0 := by
        cases negative <;> simp [signedValue, hzero]
      rw [toList_alignmentText, if_pos ha]
      exact Nat.zero_le _
    · have hlength := length_toDigits_digitsValue_le decimal nonempty
      rw [toList_alignmentText_signedValue hzero]
      simp only [List.length_cons, List.length_append]
      omega

end Parts

section Trees

variable {d : Dialect}

@[simp] theorem writtenPieces_nil : writtenPieces d [] = "" := by
  simp [writtenPieces]

@[simp] theorem writtenPieces_cons (p : Piece) (ps : List Piece) :
    writtenPieces d (p :: ps) = p.written d ++ writtenPieces d ps := by
  simp [writtenPieces]

theorem toList_writtenPieces_piecesFrom (run : Run) (start : Nat) :
    (writtenPieces d (run.piecesFrom start)).toList =
      run.lead ++ (writtenPieces d run.pieces).toList := by
  unfold Run.piecesFrom
  cases run.lead <;> simp [Piece.written]

mutual

/-- Dropping places does not change how a tree is written. -/
theorem Format.written_dropPlaces (d : Dialect) :
    (f : Format) → (f.recast dropPlaces).written d = f.written d
  | ⟨_, _, pieces⟩ => by
    simp only [Format.recast, Format.written]
    exact writtenPieces_dropPlaces d pieces
termination_by structural f => f

theorem writtenPieces_dropPlaces (d : Dialect) :
    (ps : List Piece) → writtenPieces d (recastPieces dropPlaces ps) = writtenPieces d ps
  | [] => by simp [recastPieces]
  | p :: ps => by
    obtain ⟨q, hq, hwritten⟩ := Piece.written_dropPlaces d p
    rw [recastPieces, hq, List.singleton_append, writtenPieces_cons, writtenPieces_cons, hwritten,
      writtenPieces_dropPlaces d ps]
termination_by structural ps => ps

theorem Piece.written_dropPlaces (d : Dialect) :
    (p : Piece) → ∃ q, p.recast dropPlaces = [q] ∧ q.written d = p.written d
  | .literal _ => ⟨_, rfl, rfl⟩
  | .placeholder p => ⟨_, rfl, Placeholder.written_dropPlaces d p⟩
termination_by structural p => p

theorem Placeholder.written_dropPlaces (d : Dialect) :
    (p : Placeholder) → (p.recast dropPlaces).written d = p.written d
  | ⟨_, _, _, selectors, _, _, optionsAt, format⟩ => by
    have hpath : Placeholder.pathText (selectors.map (Selector.recast dropPlaces)) =
        Placeholder.pathText selectors := by
      rw [Placeholder.pathText, List.map_map]
      rfl
    have hoptions : (optionsAt.map (Excerpt.recast dropPlaces)).map Excerpt.text =
        optionsAt.map Excerpt.text := by
      cases optionsAt <;> rfl
    simp only [Placeholder.recast, Placeholder.written]
    rw [writtenNested_dropPlaces d format, hpath, hoptions]
    rfl
termination_by structural p => p

theorem writtenNested_dropPlaces (d : Dialect) :
    (f : Option Format) → writtenNested d (recastNested dropPlaces f) = writtenNested d f
  | none => by simp [recastNested]
  | some f => by
    simp only [recastNested, writtenNested]
    rw [Format.written_dropPlaces d f]
termination_by structural f => f

end

end Trees

end Stencil
