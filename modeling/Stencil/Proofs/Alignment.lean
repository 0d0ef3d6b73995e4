import Stencil.Proofs.MatchingBrace
import Stencil.Proofs.Recovery
import Stencil.Proofs.Render.Steps

/-!
# Alignments from the template to the output

An alignment may be written with any number of digits; what counts is its value, which has to be
one of 32 bits and no wider than the dialect allows. Rendered text is padded to just that width,
and what stands in the place of a failed placeholder is not padded at all.
-/

namespace Stencil

set_option autoImplicit false

/-! ## Alignments that are written -/

/-- What stands behind the opening brace of a placeholder with an alignment: a path, the mark,
decimal digits with or without a minus sign before them, and the text behind the number, which
begins with a format mark or the closing brace. -/
structure WrittenAlignment (d : Dialect) where
  pathText : List Char
  path : List String
  isPath : PathText d pathText path
  ended : d.isSelectorChar d.alignmentMark = false ∧ d.alignmentMark ≠ d.pathMark
  negative : Bool
  digits : List Char
  nonempty : digits ≠ []
  decimal : digits.all Char.isDigit
  next : Char
  behind : List Char
  stops : next.isDigit = false ∧ (next = d.formatMark ∨ next = d.closing)

namespace WrittenAlignment

variable {d : Dialect} (w : WrittenAlignment d)

def number : List Char := signText w.negative ++ w.digits

def rest : List Char := w.next :: w.behind

/-- All of the text behind the opening brace. -/
def text : List Char := w.pathText ++ d.alignmentMark :: (w.number ++ w.rest)

def value : Int :=
  if w.negative then -(Nat.ofDigitChars 10 w.digits 0 : Int) else Nat.ofDigitChars 10 w.digits 0

/-- The value is one of 32 bits and no wider than the dialect allows. -/
def Fits : Prop :=
  -2147483648 ≤ w.value ∧ w.value ≤ 2147483647 ∧ w.value.natAbs ≤ d.maxAlignment

/-- The selectors of the path, for a placeholder that begins at `position`. -/
def selectors (position : Nat) : List Selector :=
  selectorsFrom d 0 (position + d.opening.utf8Size) w.path

/-- The byte of the first character of the number, for a placeholder that begins at `position`. -/
def numberStart (position : Nat) : Nat :=
  position + utf8Width (d.opening :: (w.pathText ++ [d.alignmentMark]))

/-- The issue of a number that does not fit. -/
def issue (position : Nat) : Issue := ⟨w.numberStart position, .alignmentOutOfRange⟩

theorem value_eq : w.value = signedValue w.negative w.digits := rfl

theorem fits_iff : w.Fits ↔ d.allowsAlignment w.value = true := by
  have hmin : Int32.minValue.toInt = -2147483648 := rfl
  have hmax : Int32.maxValue.toInt = 2147483647 := rfl
  simp only [Fits, Dialect.allowsAlignment, hmin, hmax, Bool.and_eq_true, decide_eq_true_eq,
    and_assoc]

end WrittenAlignment

/-! ## Reading them -/

section Reading

variable {d : Dialect}

/-- A number that is not allowed is refused at its first character, whatever comes behind it. -/
theorem readAlignmentNumber_refused {negative : Bool} {digits : List Char} (nonempty : digits ≠ [])
    (decimal : digits.all Char.isDigit)
    (refused : d.allowsAlignment (signedValue negative digits) = false) {c : Char}
    (hc : c.isDigit = false) (position : Nat) (rest : List Char) :
    readAlignmentNumber d position (signText negative ++ digits ++ c :: rest) =
      .error (.at position .alignmentOutOfRange) := by
  have hsplit := span_append decimal (c :: rest) (by simp [hc])
  cases negative with
  | false =>
    have hhead := head_digits nonempty decimal (c :: rest)
    simp only [signedValue, Bool.false_eq_true, if_false] at refused
    simp only [signText, Bool.false_eq_true, if_false, List.nil_append]
    simp only [readAlignmentNumber, hhead, Bool.false_eq_true, if_false, hsplit, nonempty, refused,
      Bool.not_false, if_true]
  | true =>
    simp only [signedValue, if_true] at refused
    simp [readAlignmentNumber, signText, hsplit, nonempty, refused]

namespace WrittenAlignment

variable (w : WrittenAlignment d)

theorem readPath_eq (position : Nat) :
    readPath d (position + d.opening.utf8Size) w.text = .ok (w.selectors position,
      ⟨position + d.opening.utf8Size + utf8Width w.pathText,
        d.alignmentMark :: (w.number ++ w.rest)⟩) := by
  apply readPath_eq_ok_iff.mpr
  refine ⟨w.pathText, w.path, _, rfl, rfl, w.isPath, rfl, ?_⟩
  exact ⟨d.alignmentMark, _, rfl, w.ended.1, w.ended.2, by simp [Dialect.endsPath]⟩

theorem readAlignment_of_fits (h : w.Fits) (position : Nat) :
    readAlignment d ⟨position, d.alignmentMark :: (w.number ++ w.rest)⟩ = .ok (w.value,
      ⟨position + utf8Width (d.alignmentMark :: w.number), w.rest⟩) := by
  have hallowed := w.fits_iff.mp h
  rw [value_eq] at hallowed
  have hnumber := readAlignmentNumber_append w.nonempty w.decimal hallowed w.stops.1 w.stops.2
    (position + d.alignmentMark.utf8Size) w.behind
  simpa [readAlignment, number, rest, value_eq, Nat.add_assoc] using hnumber

theorem readAlignment_of_not_fits (h : ¬ w.Fits) (position : Nat) :
    readAlignment d ⟨position, d.alignmentMark :: (w.number ++ w.rest)⟩ =
      .error (.at (position + d.alignmentMark.utf8Size) .alignmentOutOfRange) := by
  have hrefused : d.allowsAlignment (signedValue w.negative w.digits) = false := by
    rw [← value_eq]
    exact Bool.eq_false_iff.mpr fun hallowed => h (w.fits_iff.mpr hallowed)
  have hnumber := readAlignmentNumber_refused w.nonempty w.decimal hrefused w.stops.1
    (position + d.alignmentMark.utf8Size) w.behind
  simpa [readAlignment, number, rest] using hnumber

variable (depth : Nat) (readBody : Nat → List Char → Reading Run) (position : Nat)

/-- With an alignment that fits, the reading goes on behind the number. -/
theorem readPlaceholder_of_fits (h : w.Fits) :
    readPlaceholder d depth readBody position w.text =
      readOptionalSpecification d depth readBody
        ⟨w.numberStart position + utf8Width w.number, w.rest⟩ >>= fun spec =>
          assemblePlaceholder d depth position w.text (w.selectors position) w.value spec := by
  have hstop : position + d.opening.utf8Size + utf8Width w.pathText +
      utf8Width (d.alignmentMark :: w.number) = w.numberStart position + utf8Width w.number := by
    simp [numberStart, Nat.add_assoc]
  simp only [readPlaceholder_eq, readPath_eq, readAlignment_of_fits w h, hstop,
    Reading.ofExcept_eq, Reading.ok_bind, List.nil_append]

theorem readPlaceholder_of_not_fits (h : ¬ w.Fits) :
    readPlaceholder d depth readBody position w.text =
      ⟨[], .error (.malformed (w.issue position))⟩ := by
  have hstart : position + d.opening.utf8Size + utf8Width w.pathText + d.alignmentMark.utf8Size =
      w.numberStart position := by
    simp [numberStart, Nat.add_assoc]
  simp only [readPlaceholder_eq, readPath_eq, readAlignment_of_not_fits w h, hstart,
    Reading.ofExcept_eq, Reading.ok_bind, Reading.error_bind, List.nil_append]
  rfl

/-- What is read is a placeholder with the selectors and the alignment that are written. -/
theorem alignment_of_readPlaceholder {p : Placeholder} {issues : List Issue}
    (h : readPlaceholder d depth readBody position w.text = ⟨issues, .ok p⟩) :
    w.Fits ∧ p.selectors = w.selectors position ∧ p.alignment = w.value := by
  by_cases hfits : w.Fits
  · rw [w.readPlaceholder_of_fits depth readBody position hfits] at h
    obtain ⟨spec, before, after, -, hassemble, -⟩ := Reading.bind_eq_ok_iff.mp h
    unfold assemblePlaceholder at hassemble
    split at hassemble
    · cases hassemble
      exact ⟨hfits, rfl, rfl⟩
    · cases hassemble
  · rw [w.readPlaceholder_of_not_fits depth readBody position hfits] at h
    cases h

end WrittenAlignment

theorem Dialect.role_text_of_plain {c : Char} (hbrace : d.isBrace c = false)
    (hescape : d.isEscape c = false) (nested : Bool) (next : Option Char) :
    d.role nested c next = .text := by
  simp only [isBrace, Bool.or_eq_false_iff] at hbrace
  have hliteral := (Bool.or_eq_false_iff.mp hescape).2
  simp [role, escapesBrace_of_not_escape hescape, hliteral, hbrace.1, hbrace.2]

/-- What ends the reading behind a text without braces and escapes ends that of the whole. -/
theorem readPieces_plain (nested : Bool)
    (readPlaceholder : Nat → List Char → Reading Placeholder) {front : List Char}
    (hplain : ∀ c ∈ front, d.isBrace c = false ∧ d.isEscape c = false) (position : Nat)
    (cs : List Char) :
    ∃ g : Run → Run, readPieces d nested readPlaceholder 0 position (front ++ cs) =
      readPieces d nested readPlaceholder 0 (position + utf8Width front) cs >>= fun run =>
        pure (g run) := by
  induction front generalizing position with
  | nil => exact ⟨id, (bind_pure _).symm⟩
  | cons c front ih =>
    obtain ⟨hbrace, hescape⟩ := hplain c List.mem_cons_self
    obtain ⟨g, hrest⟩ := ih (fun b hb => hplain b (List.mem_cons_of_mem c hb))
      (position + c.utf8Size)
    have hrole := Dialect.role_text_of_plain hbrace hescape nested (front ++ cs).head?
    refine ⟨fun run => (g run).prependText [c], ?_⟩
    rw [List.cons_append, readPieces_text hrole, hrest, utf8Width_cons, Nat.add_assoc]
    simp only [bind_assoc, pure_bind]

namespace WrittenAlignment

variable (w : WrittenAlignment d)

/-- The reading of a template with a number that does not fit in it, behind a text without braces
and escapes. -/
theorem parseReading_of_not_fits (h : ¬ w.Fits) (hdepth : 0 < d.maxDepth) {front : List Char}
    (hplain : ∀ c ∈ front, d.isBrace c = false ∧ d.isEscape c = false)
    (hopens : d.role false d.opening w.text.head? = .opening) :
    ∃ next : Issue → Reading Run,
      parseReading d (String.ofList (front ++ d.opening :: w.text)) =
        d.tolerate (.malformed (w.issue (utf8Width front))) >>= next := by
  obtain ⟨levels, hlevels⟩ : ∃ levels, d.maxDepth = levels + 1 :=
    ⟨d.maxDepth - 1, by omega⟩
  obtain ⟨g, hfront⟩ := readPieces_plain false (readPlaceholderWithin d d.maxDepth 1) hplain 0
    (d.opening :: w.text)
  obtain ⟨body, behind, htext, hregion⟩ := exists_region hopens
  have hread : readPlaceholderWithin d d.maxDepth 1 (utf8Width front) (body ++ behind) =
      ⟨[], .error (.malformed (w.issue (utf8Width front)))⟩ := by
    rw [hlevels, ← htext]
    exact w.readPlaceholder_of_not_fits 1 _ _ h
  rw [htext] at hopens hregion
  have hfault := readPieces_fault hopens hread hregion
  -- The reading goes on behind the region of the placeholder, if the dialect lets it.
  let next (issue : Issue) : Reading Run := do
    let run ← readPieces d false (readPlaceholderWithin d d.maxDepth 1) 0
      (utf8Width front + d.opening.utf8Size + utf8Width body) behind
    pure (g (run.prependMalformed d (utf8Width front) (d.opening :: body) issue))
  refine ⟨next, ?_⟩
  rw [parseReading, String.toList_ofList, hfront, Nat.zero_add, htext, hfault]
  simp only [List.nil_append, bind_assoc, pure_bind, next]

/-- The issue of the number ends the reading of the template, or is the first on record. -/
theorem parse_of_not_fits (h : ¬ w.Fits) (hdepth : 0 < d.maxDepth) {front : List Char}
    (hplain : ∀ c ∈ front, d.isBrace c = false ∧ d.isEscape c = false)
    (hopens : d.role false d.opening w.text.head? = .opening) {text : String}
    (htext : text = String.ofList (front ++ d.opening :: w.text)) :
    (d.onMalformed = .fail →
      Template.parse d text = .error (.ofIssue text (w.issue (utf8Width front)))) ∧
    (d.onMalformed ≠ .fail →
      (∃ position max, Template.parse d text = .error (.tooDeep position max)) ∨
        ∃ t, Template.parse d text = .ok t ∧
          t.issues.head? = some (w.issue (utf8Width front))) := by
  obtain ⟨next, hread⟩ := w.parseReading_of_not_fits h hdepth hplain hopens
  rw [← htext] at hread
  constructor
  · intro haction
    have hrecovers : d.recovers = false := by simp [Dialect.recovers, haction]
    simp only [Dialect.tolerate, hrecovers, Bool.false_eq_true, if_false, Reading.fail_eq,
      Reading.error_bind] at hread
    exact parse_of_error hread
  · intro haction
    have hrecovers : d.recovers = true := by simpa [Dialect.recovers] using haction
    -- Whatever comes behind, only a format that nests too deep can still end the reading.
    have hsettled : (parseReading d text).Settled := settled_readPieces hrecovers _ 0 0 _
    simp only [Dialect.tolerate, hrecovers, if_true, Reading.ok_bind] at hread
    rcases hout : (next (w.issue (utf8Width front))).outcome with fault | run
    · rw [hout] at hread
      cases fault with
      | malformed found => exact absurd (by rw [hread]) (hsettled found)
      | tooDeep position => exact .inl ⟨position, _, parse_of_error hread⟩
    · rw [hout] at hread
      exact .inr ⟨_, parse_of_ok hread, rfl⟩

end WrittenAlignment

end Reading

/-! ## Padding -/

section Padding

/-- `text` is `bare` padded with spaces to the width of the alignment, on the right for a negative
one and on the left for a positive one. -/
structure Aligned (a : Int) (bare text : String) : Prop where
  width : text.length = max bare.length a.natAbs
  left : a ≤ 0 → ∃ padding, text = bare ++ padding ∧ ∀ c ∈ padding.toList, c = ' '
  right : 0 ≤ a → ∃ padding, text = padding ++ bare ∧ ∀ c ∈ padding.toList, c = ' '

theorem aligned_align (a : Int) (bare : String) : Aligned a bare (align a bare) := by
  have hspaces : ∀ c ∈ (String.ofList (List.replicate (a.natAbs - bare.length) ' ')).toList,
      c = ' ' := by
    intro c hc
    rw [String.toList_ofList] at hc
    exact List.eq_of_mem_replicate hc
  constructor
  · unfold align
    split
    all_goals
      simp only [String.length_append, String.length_ofList, List.length_replicate]
      omega
  · intro ha
    by_cases hneg : a < 0
    · exact ⟨_, if_pos hneg, hspaces⟩
    · refine ⟨"", ?_, by simp⟩
      obtain rfl : a = 0 := by omega
      simp [align]
  · intro ha
    exact ⟨_, if_neg (Int.not_lt.mpr ha), hspaces⟩

/-- What a placeholder adds to a draft. Text that was written without a failure is aligned; what
replaces a failed placeholder is not; a placeholder that ends the render adds nothing. -/
structure Call.RendersAligned (c : Call) (nest : Format → Value → RenderM Unit) (s : Scope)
    (p : Placeholder) (a : Int) : Prop where
  written : ∀ before after : Draft,
    Draft.through { before with out := "" } (c.attempt nest s p) = (.ok (), after) →
      ∃ text, Aligned a after.out text ∧
        before.through (c.renderPlaceholder nest s p) =
          (.ok (), { after with out := before.out ++ text })
  replaced : ∀ (before after : Draft) (e : Error),
    Draft.through { before with out := "" } (c.attempt nest s p) = (.error e, after) →
      after.aborting = false → e.isRecoverable = true → c.settings.onFailure ≠ .fail →
        before.through (c.renderPlaceholder nest s p) =
          (.ok (), { after.record p e with
            out := before.out ++ c.settings.onFailure.replacement p e })
  ended : ∀ (before after : Draft) (e : Error),
    Draft.through { before with out := "" } (c.attempt nest s p) = (.error e, after) →
      after.aborting = true ∨ e.isRecoverable = false ∨ c.settings.onFailure = .fail →
        ∃ last, before.through (c.renderPlaceholder nest s p) = (.error e, last) ∧
          last.out = before.out

theorem Call.rendersAligned (c : Call) (nest : Format → Value → RenderM Unit) (s : Scope)
    (p : Placeholder) : c.RendersAligned nest s p p.alignment := by
  constructor
  · intro before after h
    refine ⟨align p.alignment after.out, aligned_align _ _, ?_⟩
    rw [c.through_renderPlaceholder nest s p h, conclude, through_modify, Draft.write]
  · intro before after e h haborting hrecoverable haction
    rw [c.through_renderPlaceholder nest s p h, conclude, through_handleFailure,
      if_neg (by simp [haborting, hrecoverable]), through_recordFailure _ p e haction]
    rfl
  · intro before after e h hends
    rw [c.through_renderPlaceholder nest s p h, conclude, through_handleFailure]
    by_cases hup : after.aborting = true ∨ e.isRecoverable = false
    · rw [if_pos (by simpa using hup)]
      exact ⟨_, rfl, rfl⟩
    · have haction : c.settings.onFailure = .fail := by
        rcases hends with h | h | h
        · exact absurd (.inl h) hup
        · exact absurd (.inr h) hup
        · exact h
      rw [if_neg (by simpa using hup), haction, through_recordFailure_fail]
      exact ⟨_, rfl, rfl⟩

end Padding

/-- The alignment of a placeholder is taken if its value fits and refused at the first character of
the number if it does not. A placeholder that was read has just that alignment, and what it is
rendered as is as wide as the wider of its bare text and the alignment; what replaces it when it
fails is left as it is. -/
theorem alignment_exact {d : Dialect} (w : WrittenAlignment d) :
    (∀ position,
      (w.Fits → readAlignment d ⟨position, d.alignmentMark :: (w.number ++ w.rest)⟩ =
        .ok (w.value, ⟨position + utf8Width (d.alignmentMark :: w.number), w.rest⟩)) ∧
      (¬ w.Fits → readAlignment d ⟨position, d.alignmentMark :: (w.number ++ w.rest)⟩ =
        .error (.at (position + d.alignmentMark.utf8Size) .alignmentOutOfRange))) ∧
    (∀ levels depth position,
      (w.Fits → readPlaceholderWithin d (levels + 1) depth position w.text =
        readOptionalSpecification d depth (readNestedWithin d levels depth)
          ⟨w.numberStart position + utf8Width w.number, w.rest⟩ >>= fun spec =>
            assemblePlaceholder d depth position w.text (w.selectors position) w.value spec) ∧
      (¬ w.Fits → readPlaceholderWithin d (levels + 1) depth position w.text =
        ⟨[], .error (.malformed (w.issue position))⟩)) ∧
    (∀ position, (w.issue position).position = w.numberStart position ∧
      (w.issue position).message = "Alignment out of range") ∧
    (∀ front text, text = String.ofList (front ++ d.opening :: w.text) →
      (∀ c ∈ front, d.isBrace c = false ∧ d.isEscape c = false) →
      d.role false d.opening w.text.head? = .opening → 0 < d.maxDepth → ¬ w.Fits →
        (d.onMalformed = .fail →
          Template.parse d text = .error (.ofIssue text (w.issue (utf8Width front)))) ∧
        (d.onMalformed ≠ .fail →
          (∃ position max, Template.parse d text = .error (.tooDeep position max)) ∨
            ∃ t, Template.parse d text = .ok t ∧
              t.issues.head? = some (w.issue (utf8Width front)))) ∧
    (∀ levels depth position issues p,
      readPlaceholderWithin d levels depth position w.text = ⟨issues, .ok p⟩ →
        w.Fits ∧ p.alignment = w.value ∧
          ∀ (c : Call) (nest : Format → Value → RenderM Unit) (s : Scope),
            c.RendersAligned nest s p w.value) := by
  refine ⟨?_, ?_, fun position => ⟨rfl, rfl⟩, ?_, ?_⟩
  · intro position
    exact ⟨fun h => w.readAlignment_of_fits h position,
      fun h => w.readAlignment_of_not_fits h position⟩
  · intro levels depth position
    exact ⟨w.readPlaceholder_of_fits depth _ position,
      w.readPlaceholder_of_not_fits depth _ position⟩
  · intro front text htext hplain hopens hdepth hfits
    exact w.parse_of_not_fits hfits hdepth hplain hopens htext
  · intro levels depth position issues p h
    obtain ⟨outer, rfl⟩ : ∃ outer, levels = outer + 1 := by
      obtain ⟨outer, -, -, hlevels, -⟩ := readPlaceholderWithin_eq_ok_iff.mp h
      exact ⟨outer, hlevels⟩
    obtain ⟨hfits, -, halignment⟩ := w.alignment_of_readPlaceholder depth _ position h
    refine ⟨hfits, halignment, ?_⟩
    intro c nest s
    rw [← halignment]
    exact c.rendersAligned nest s p

/-- The least number of 32 bits, with a zero before its digits, as the alignment of `a`. -/
def leastAlignment (limit : Nat) : WrittenAlignment { maxAlignment := limit } where
  pathText := ['a']
  path := ["a"]
  isPath := by
    refine .selectors ['a'] [] ?_ (by simp)
    simpa [Dialect.isSelectorChar] using (by decide : isAlphanumeric 'a' = true)
  ended := ⟨isSelectorChar_of_not_mem (by simp [delimiters]) (by simp), by simp⟩
  negative := true
  digits := "02147483648".toList
  nonempty := by decide
  decimal := by decide
  next := '}'
  behind := []
  stops := ⟨rfl, .inr rfl⟩

theorem fits_leastAlignment {limit : Nat} : (leastAlignment limit).Fits ↔ 2147483648 ≤ limit := by
  have hvalue : (leastAlignment limit).value = -2147483648 := rfl
  simp only [WrittenAlignment.Fits, hvalue]
  omega

/-- The least number of 32 bits is taken where it is within the limit. One less allowed, and it is
refused behind the five bytes before its sign. -/
theorem alignment_exact_least :
    readAlignment { maxAlignment := 2147483648 } ⟨2, ",-02147483648\x7d".toList⟩ =
        .ok (-2147483648, ⟨15, ['}']⟩) ∧
      Template.parse { maxAlignment := 2147483647 } "é{a,-02147483648}" =
        .error (.ofIssue "é{a,-02147483648}" ⟨5, .alignmentOutOfRange⟩) := by
  obtain ⟨htaken, -⟩ := alignment_exact (leastAlignment 2147483648)
  obtain ⟨-, -, -, hrefused, -⟩ := alignment_exact (leastAlignment 2147483647)
  constructor
  · apply (htaken 2).1
    exact fits_leastAlignment.mpr (by omega)
  · have hplain : ∀ c ∈ ['é'], Dialect.isBrace { maxAlignment := 2147483647 } c = false ∧
        Dialect.isEscape { maxAlignment := 2147483647 } c = false := by
      simp [Dialect.isBrace, Dialect.isEscape, escapeMark]
    apply (hrefused ['é'] "é{a,-02147483648}" rfl hplain rfl (by simp) ?_).1
    · rfl
    · rw [fits_leastAlignment]
      omega

end Stencil
