import Stencil.Proofs.Reading.Placeholder

/-!
# The usual delimiters

What the delimiters that a dialect has unless it says otherwise are apart from: each other, letters
and digits, and the characters of names.
-/

namespace Stencil

set_option autoImplicit false

structure Dialect.UsualDelimiters (d : Dialect) : Prop where
  opening : d.opening = '{'
  closing : d.closing = '}'
  pathMark : d.pathMark = '.'
  alignmentMark : d.alignmentMark = ','
  formatMark : d.formatMark = ':'
  optionsOpening : d.optionsOpening = '('
  optionsClosing : d.optionsClosing = ')'

def delimiters : List Char := ['{', '}', '.', ',', ':', '(', ')']

variable {d : Dialect}

theorem isNameChar_of_mem_delimiters : ∀ c ∈ delimiters, isNameChar c = false := by
  have hascii : ∀ c ∈ delimiters, c.toNat < 128 ∧ c.isAlphanum = false ∧ c ≠ '_' := by
    simp [delimiters]
  intro c hc
  obtain ⟨hlt, halphanum, hne⟩ := hascii c hc
  rw [isNameChar, isAlphanumeric_eq_isAlphanum hlt]
  simp [halphanum, hne]

theorem isSelectorChar_of_not_mem {c : Char} (hc : c ∈ delimiters)
    (hextra : c ∉ d.selectorExtras) : d.isSelectorChar c = false := by
  have hname := isNameChar_of_mem_delimiters c hc
  simp only [isNameChar, Bool.or_eq_false_iff] at hname
  simp [Dialect.isSelectorChar, hname.1, hname.2, hextra]

theorem Dialect.UsualDelimiters.endsPathAt (hd : d.UsualDelimiters) {c : Char} (cs : List Char)
    (hc : c = d.alignmentMark ∨ c = d.formatMark ∨ c = d.closing)
    (hselector : d.isSelectorChar c = false) : d.EndsPathAt (c :: cs) := by
  refine ⟨c, cs, rfl, hselector, ?_, by simpa [Dialect.endsPath, or_assoc] using hc⟩
  rw [hd.alignmentMark, hd.formatMark, hd.closing] at hc
  rw [hd.pathMark]
  rcases hc with rfl | rfl | rfl <;> decide

theorem Dialect.UsualDelimiters.endsAlignmentAt (hd : d.UsualDelimiters) (alignText : List Char)
    {c : Char} (cs : List Char) (hc : c = d.formatMark ∨ c = d.closing) :
    d.EndsAlignmentAt alignText (c :: cs) := by
  have hdigit : c.isDigit = false ∧ c ≠ d.alignmentMark := by
    rw [hd.formatMark, hd.closing] at hc
    rw [hd.alignmentMark]
    rcases hc with rfl | rfl <;> decide
  unfold Dialect.EndsAlignmentAt
  split
  · simpa using hdigit.2
  · exact ⟨c, cs, rfl, hdigit.1, hc⟩

theorem Dialect.isBrace_of_text {nested : Bool} {c : Char} {next : Option Char}
    (h : d.role nested c next = .text) : d.isBrace c = false := by
  unfold role at h
  repeat' split at h
  all_goals simp_all [isBrace]

theorem Dialect.charLiterals_of_role {nested : Bool} {c : Char} {next : Option Char}
    (h : d.role nested c next = .charLiteral) : d.charLiterals = true ∧ c = escapeMark := by
  unfold role at h
  repeat' split at h
  all_goals simp_all

theorem Dialect.closing_of_doubledBrace {nested : Bool} {c : Char} {next : Option Char}
    (h : d.role nested c next = .doubledBrace) :
    c = d.opening ∨ c = d.closing ∧ nested = false := by
  unfold role at h
  repeat' split at h
  all_goals simp_all

theorem takeWhile_append_cons {q : Char → Bool} {c : Char} (hc : q c = false)
    (cs rest : List Char) : (cs ++ c :: rest).takeWhile q = cs.takeWhile q := by
  induction cs with
  | nil => simp [hc]
  | cons b cs ih => cases hb : q b <;> simp [hb, ih]

theorem head?_dropWhile_append_cons {q : Char → Bool} {c : Char} (hc : q c = false)
    (cs rest : List Char) :
    ((cs ++ c :: rest).dropWhile q).head? = (cs.dropWhile q).head?.or (some c) := by
  induction cs with
  | nil => simp [hc]
  | cons b cs ih => cases hb : q b <;> simp [hb, ih]

/-- Whether the text behind a format mark begins with a name does not depend on what comes behind
the first character that no name has. -/
theorem Dialect.startsWithName_append_cons {c : Char} (hc : isNameChar c = false)
    (cs rest : List Char) :
    d.startsWithName (cs ++ c :: rest) = d.startsWithName (cs ++ [c]) := by
  simp only [startsWithName, takeWhile_append_cons hc, head?_dropWhile_append_cons hc]

end Stencil
