import Stencil.Proofs.Reading.Parts
import Stencil.Proofs.Reading.Pieces

/-!
# Placeholders read part by part

A placeholder is read exactly when its text is a path, an alignment and a specification one after
the other with a closing brace behind them; the tree keeps what each part says.
-/

namespace Stencil

set_option autoImplicit false

/-- A name that a formatter may answer to in the dialect. -/
structure FormatterName (d : Dialect) (name : List Char) : Prop where
  nonempty : name ≠ []
  chars : ∀ c ∈ name, isNameChar c = true
  accepted : d.acceptsName (String.ofList name) = true

/-- Whether the text behind a format mark begins with the name of a formatter: one that is accepted
and has options or another mark behind it. -/
def Dialect.startsWithName (d : Dialect) (cs : List Char) : Bool :=
  let name := cs.takeWhile isNameChar
  name ≠ [] && d.acceptsName (String.ofList name) &&
    (cs.dropWhile isNameChar).head?.any fun c => c == d.optionsOpening || c == d.formatMark

namespace Specification

def name (spec : Specification) : String := spec.nameAt.text

def options (spec : Specification) : Option String := spec.optionsAt.map Excerpt.text

end Specification

/-- `SpecificationRead d depth readBody position text rest spec issues`: behind the alignment,
`text` is read as `spec` and `rest` is left over. -/
inductive SpecificationRead (d : Dialect) (depth : Nat)
    (readBody : Nat → List Char → Reading Run) :
    Nat → List Char → List Char → Specification → List Issue → Prop
  | absent {position : Nat} {rest : List Char} (hmark : rest.head? ≠ some d.formatMark) :
      SpecificationRead d depth readBody position [] rest
        { nameAt := .ofList position [], stop := ⟨position, rest⟩ } []
  | format {position : Nat} {text rest : List Char} {run : Run} {issues : List Issue}
      (hname : d.startsWithName (text ++ rest) = false)
      (hbody : readBody (position + d.formatMark.utf8Size) (text ++ rest) = ⟨issues, .ok run⟩)
      (hstop : run.stop = ⟨position + d.formatMark.utf8Size + utf8Width text, rest⟩) :
      SpecificationRead d depth readBody position (d.formatMark :: text) rest
        { nameAt := .ofList (position + d.formatMark.utf8Size) []
          format := some (run.toFormat (position + d.formatMark.utf8Size) depth)
          stop := run.stop } issues
  | named {position start : Nat} {name text rest : List Char} {run : Run} {issues : List Issue}
      (hname : FormatterName d name) (hmark : isNameChar d.formatMark = false)
      (hdistinct : d.formatMark ≠ d.optionsOpening)
      (hstart : start = position + utf8Width (d.formatMark :: name ++ [d.formatMark]))
      (hbody : readBody start (text ++ rest) = ⟨issues, .ok run⟩)
      (hstop : run.stop = ⟨start + utf8Width text, rest⟩) :
      SpecificationRead d depth readBody position
        (d.formatMark :: name ++ [d.formatMark] ++ text) rest
        { nameAt := .ofList (position + d.formatMark.utf8Size) name
          format := some (run.toFormat start depth)
          stop := run.stop } issues
  | options {position : Nat} {name options rest : List Char} {stop : Cursor}
      (hname : FormatterName d name) (hopening : isNameChar d.optionsOpening = false)
      (hoptions : readOptions d false 0 (options ++ d.optionsClosing :: rest) =
        some (options, rest))
      (hend : rest.head? = some d.closing) (hdistinct : d.closing ≠ d.formatMark)
      (hstop : stop = ⟨position + utf8Width (d.formatMark :: name ++ d.optionsOpening :: options ++
        [d.optionsClosing]), rest⟩) :
      SpecificationRead d depth readBody position
        (d.formatMark :: name ++ d.optionsOpening :: options ++ [d.optionsClosing]) rest
        { nameAt := .ofList (position + d.formatMark.utf8Size) name
          optionsAt := some (.ofList (position + d.formatMark.utf8Size + utf8Width name +
            d.optionsOpening.utf8Size) options)
          stop } []
  | optionsFormat {position start : Nat} {name options text rest : List Char} {run : Run}
      {issues : List Issue} (hname : FormatterName d name)
      (hopening : isNameChar d.optionsOpening = false)
      (hoptions : readOptions d false 0 (options ++ d.optionsClosing :: d.formatMark ::
        (text ++ rest)) = some (options, d.formatMark :: (text ++ rest)))
      (hstart : start = position + utf8Width (d.formatMark :: name ++ d.optionsOpening :: options ++
        [d.optionsClosing, d.formatMark]))
      (hbody : readBody start (text ++ rest) = ⟨issues, .ok run⟩)
      (hstop : run.stop = ⟨start + utf8Width text, rest⟩) :
      SpecificationRead d depth readBody position
        (d.formatMark :: name ++ d.optionsOpening :: options ++ [d.optionsClosing, d.formatMark] ++
          text) rest
        { nameAt := .ofList (position + d.formatMark.utf8Size) name
          optionsAt := some (.ofList (position + d.formatMark.utf8Size + utf8Width name +
            d.optionsOpening.utf8Size) options)
          format := some (run.toFormat start depth)
          stop := run.stop } issues

/-- A body is a stretch of the text it is read from. -/
def TakesText (readBody : Nat → List Char → Reading Run) : Prop :=
  ∀ {position cs issues run}, readBody position cs = ⟨issues, .ok run⟩ →
    ∃ text rest, cs = text ++ rest ∧ run.stop = ⟨position + utf8Width text, rest⟩

section Specification

variable {d : Dialect} {depth : Nat} {readBody : Nat → List Char → Reading Run}
  {position : Nat} {text rest : List Char} {spec : Specification} {issues : List Issue}

theorem SpecificationRead.stop_eq
    (h : SpecificationRead d depth readBody position text rest spec issues) :
    spec.stop = ⟨position + utf8Width text, rest⟩ := by
  cases h with
  | absent _ => rfl
  | format _ _ hstop => simp [hstop, Nat.add_assoc]
  | named _ _ _ hstart _ hstop => simp [hstop, hstart, Nat.add_assoc]
  | options _ _ _ _ _ hstop => rw [hstop]
  | optionsFormat _ _ _ hstart _ hstop => simp [hstop, hstart, Nat.add_assoc]

/-- What may stand behind an alignment: nothing, or a mark and what it introduces. -/
def readOptionalSpecification (d : Dialect) (depth : Nat)
    (readBody : Nat → List Char → Reading Run) (here : Cursor) : Reading Specification :=
  if here.rest.head? = some d.formatMark then
    readSpecification d depth readBody
      ⟨here.position + d.formatMark.utf8Size, here.rest.drop 1⟩
  else .ok { nameAt := .ofList here.position [], stop := here }

theorem readOptionalSpecification_mark (cs : List Char) :
    readOptionalSpecification d depth readBody ⟨position, d.formatMark :: cs⟩ =
      readSpecification d depth readBody ⟨position + d.formatMark.utf8Size, cs⟩ := by
  simp [readOptionalSpecification]

theorem readSpecification_unnamed {cs : List Char} (hname : d.startsWithName cs = false) :
    readSpecification d depth readBody ⟨position, cs⟩ =
      readSpecification.unnamed depth readBody ⟨position, cs⟩ := by
  unfold readSpecification
  simp only
  split
  · rfl
  · rename_i c rest hrest
    simp only [Dialect.startsWithName, hrest, List.head?_cons, Option.any_some] at hname
    split
    · rename_i h
      simp_all
    · split
      · rename_i h
        simp_all
      · rfl

theorem FormatterName.span {name : List Char} (hname : FormatterName d name) {c : Char}
    (hc : isNameChar c = false) (cs : List Char) :
    (name ++ c :: cs).takeWhile isNameChar = name ∧
      (name ++ c :: cs).dropWhile isNameChar = c :: cs :=
  span_append (List.all_eq_true.mpr hname.chars) (c :: cs) (by simp [hc])

theorem startsWithName_iff {cs : List Char} :
    d.startsWithName cs = true ↔ ∃ name c after, cs = name ++ c :: after ∧ FormatterName d name ∧
      isNameChar c = false ∧ (c = d.optionsOpening ∨ c = d.formatMark) := by
  constructor
  · intro h
    simp only [Dialect.startsWithName, Bool.and_eq_true, decide_eq_true_eq] at h
    obtain ⟨⟨hne, haccepted⟩, hnext⟩ := h
    have hspan := List.takeWhile_append_dropWhile (p := isNameChar) (l := cs)
    have hnot := List.head?_dropWhile_not isNameChar cs
    cases hrest : cs.dropWhile isNameChar with
    | nil => simp [hrest] at hnext
    | cons c after =>
      rw [hrest] at hspan hnot hnext
      exact ⟨cs.takeWhile isNameChar, c, after, hspan.symm,
        ⟨hne, fun c hc => List.all_eq_true.mp List.all_takeWhile c hc, haccepted⟩,
        by simpa using hnot, by simpa using hnext⟩
  · rintro ⟨name, c, after, rfl, hname, hc, hnext⟩
    obtain ⟨htake, hdrop⟩ := hname.span hc after
    simpa [Dialect.startsWithName, htake, hdrop, hname.nonempty, hname.accepted] using hnext

theorem readSpecification_named {name cs : List Char} (hname : FormatterName d name)
    (hmark : isNameChar d.formatMark = false) (hdistinct : d.formatMark ≠ d.optionsOpening) :
    readSpecification d depth readBody ⟨position, name ++ d.formatMark :: cs⟩ =
      readNested depth readBody ⟨position + utf8Width name + d.formatMark.utf8Size, cs⟩ >>=
        fun (format, stop) => pure
          { nameAt := .ofList position name, format := some format, stop } := by
  obtain ⟨htake, hdrop⟩ := hname.span hmark cs
  simp [readSpecification, htake, hdrop, hname.nonempty, hname.accepted, hdistinct]

theorem readSpecification_options {name options cs after : List Char}
    (hname : FormatterName d name) (hopening : isNameChar d.optionsOpening = false)
    (hoptions : readOptions d false 0 cs = some (options, after)) :
    readSpecification d depth readBody ⟨position, name ++ d.optionsOpening :: cs⟩ =
      readAfterOptions d depth readBody ⟨position + utf8Width name + d.optionsOpening.utf8Size +
        utf8Width options + d.optionsClosing.utf8Size, after⟩ >>=
        fun (format, stop) => pure
          { nameAt := .ofList position name
            optionsAt := some (.ofList (position + utf8Width name + d.optionsOpening.utf8Size)
              options)
            format
            stop } := by
  obtain ⟨htake, hdrop⟩ := hname.span hopening cs
  simp [readSpecification, htake, hdrop, hname.nonempty, hname.accepted, hoptions]

theorem readNested_eq_ok_iff {here stop : Cursor} {format : Format} :
    readNested depth readBody here = ⟨issues, .ok (format, stop)⟩ ↔ ∃ run,
      readBody here.position here.rest = ⟨issues, .ok run⟩ ∧
        format = run.toFormat here.position depth ∧ stop = run.stop := by
  rw [readNested, Reading.bind_pure_eq_ok_iff]
  simp only [Prod.mk.injEq, eq_comm]

theorem SpecificationRead.of_readAfterOptions (htakes : TakesText readBody)
    {name options behind : List Char} (hname : FormatterName d name)
    (hopening : isNameChar d.optionsOpening = false)
    (hoptions : readOptions d false 0 (options ++ d.optionsClosing :: behind) =
      some (options, behind)) {start : Nat} {format : Option Format} {stop : Cursor}
    (hstart : start = position + utf8Width (d.formatMark :: name ++ d.optionsOpening :: options ++
      [d.optionsClosing]))
    (h : readAfterOptions d depth readBody ⟨start, behind⟩ = ⟨issues, .ok (format, stop)⟩) :
    ∃ text rest, d.formatMark :: name ++ d.optionsOpening :: options ++ d.optionsClosing :: behind =
        text ++ rest ∧
      SpecificationRead d depth readBody position text rest
        { nameAt := .ofList (position + d.formatMark.utf8Size) name
          optionsAt := some (.ofList (position + d.formatMark.utf8Size + utf8Width name +
            d.optionsOpening.utf8Size) options)
          format
          stop } issues := by
  cases behind with
  | nil => simp [readAfterOptions] at h
  | cons b behind =>
    simp only [readAfterOptions] at h
    split at h
    · rename_i hb
      have hb : b = d.formatMark := by simpa using hb
      subst hb
      obtain ⟨⟨f, stop'⟩, hnested, heq⟩ := Reading.bind_pure_eq_ok_iff.mp h
      obtain ⟨run, hbody, rfl, rfl⟩ := readNested_eq_ok_iff.mp hnested
      cases heq
      obtain ⟨text, rest, rfl, hstop⟩ := htakes hbody
      refine ⟨d.formatMark :: name ++ d.optionsOpening :: options ++
        [d.optionsClosing, d.formatMark] ++ text, rest, by simp, ?_⟩
      exact .optionsFormat hname hopening hoptions (by simp [hstart, Nat.add_assoc]) hbody hstop
    · rename_i hb
      split at h
      · rename_i hc
        have hc : b = d.closing := by simpa using hc
        subst hc
        cases h
        refine ⟨d.formatMark :: name ++ d.optionsOpening :: options ++ [d.optionsClosing],
          d.closing :: behind, by simp, ?_⟩
        exact .options hname hopening hoptions rfl (by simpa using hb) (by rw [hstart])
      · cases h

/-- A specification that is read is spelled by one of the rules. -/
theorem SpecificationRead.of_read (htakes : TakesText readBody) {cs : List Char}
    (h : readOptionalSpecification d depth readBody ⟨position, cs⟩ = ⟨issues, .ok spec⟩) :
    ∃ text rest, cs = text ++ rest ∧
      SpecificationRead d depth readBody position text rest spec issues := by
  by_cases hmark : cs.head? = some d.formatMark
  · obtain ⟨cs, rfl⟩ := List.head?_eq_some_iff.mp hmark
    rw [readOptionalSpecification_mark] at h
    cases hname : d.startsWithName cs with
    | false =>
      rw [readSpecification_unnamed hname, readSpecification.unnamed] at h
      obtain ⟨⟨format, stop⟩, hnested, rfl⟩ := Reading.bind_pure_eq_ok_iff.mp h
      obtain ⟨run, hbody, rfl, rfl⟩ := readNested_eq_ok_iff.mp hnested
      obtain ⟨text, rest, rfl, hstop⟩ := htakes hbody
      exact ⟨d.formatMark :: text, rest, rfl, .format hname hbody hstop⟩
    | true =>
      obtain ⟨name, c, after, rfl, hformatter, hc, hnext⟩ := startsWithName_iff.mp hname
      by_cases hopening : c = d.optionsOpening
      · subst hopening
        cases hoptions : readOptions d false 0 after with
        | none =>
          obtain ⟨htake, hdrop⟩ := hformatter.span hc after
          simp [readSpecification, htake, hdrop, hformatter.nonempty, hformatter.accepted,
            hoptions] at h
        | some found =>
          rcases found with ⟨options, behind⟩
          obtain ⟨rfl, hall⟩ := readOptions_eq_some hoptions
          rw [readSpecification_options hformatter hc hoptions] at h
          obtain ⟨⟨format, stop⟩, hafter, rfl⟩ := Reading.bind_pure_eq_ok_iff.mp h
          have hstart : position + d.formatMark.utf8Size + utf8Width name +
              d.optionsOpening.utf8Size + utf8Width options + d.optionsClosing.utf8Size =
              position + utf8Width (d.formatMark :: name ++ d.optionsOpening :: options ++
                [d.optionsClosing]) := by simp [Nat.add_assoc]
          obtain ⟨text, rest, htext, hspec⟩ := SpecificationRead.of_readAfterOptions htakes
            hformatter hc hoptions hstart hafter
          exact ⟨text, rest, by simpa using htext, hspec⟩
      · obtain rfl : c = d.formatMark := by simpa [hopening] using hnext
        rw [readSpecification_named hformatter hc hopening] at h
        obtain ⟨⟨format, stop⟩, hnested, rfl⟩ := Reading.bind_pure_eq_ok_iff.mp h
        obtain ⟨run, hbody, rfl, rfl⟩ := readNested_eq_ok_iff.mp hnested
        obtain ⟨text, rest, rfl, hstop⟩ := htakes hbody
        refine ⟨d.formatMark :: name ++ [d.formatMark] ++ text, rest, by simp, ?_⟩
        exact .named hformatter hc hopening (by simp [Nat.add_assoc]) hbody hstop
  · simp only [readOptionalSpecification, hmark, if_false, Reading.ok_eq] at h
    cases h
    exact ⟨[], cs, rfl, .absent hmark⟩

/-- A specification that a rule spells is read. -/
theorem SpecificationRead.read_eq
    (h : SpecificationRead d depth readBody position text rest spec issues) :
    readOptionalSpecification d depth readBody ⟨position, text ++ rest⟩ = ⟨issues, .ok spec⟩ := by
  cases h with
  | absent hmark => simp [readOptionalSpecification, hmark]
  | format hname hbody hstop =>
    rw [List.cons_append, readOptionalSpecification_mark, readSpecification_unnamed hname]
    simp [readSpecification.unnamed, readNested, hbody]
  | @named start name text _ run _ hname hmark hdistinct hstart hbody hstop =>
    have hposition : position + d.formatMark.utf8Size + utf8Width name + d.formatMark.utf8Size =
        start := by simp [hstart, Nat.add_assoc]
    simp only [List.cons_append, List.append_assoc, List.nil_append]
    rw [readOptionalSpecification_mark, readSpecification_named hname hmark hdistinct, hposition]
    simp [readNested, hbody]
  | @options name options _ stop hname hopening hoptions hend hdistinct hstop =>
    obtain ⟨behind, rfl⟩ := List.head?_eq_some_iff.mp hend
    simp only [List.cons_append, List.append_assoc, List.nil_append]
    rw [readOptionalSpecification_mark, readSpecification_options hname hopening hoptions]
    simp [readAfterOptions, hdistinct, hstop, Nat.add_assoc]
  | @optionsFormat start name options text _ run _ hname hopening hoptions hstart hbody hstop =>
    have hposition : position + d.formatMark.utf8Size + utf8Width name +
        d.optionsOpening.utf8Size + utf8Width options + d.optionsClosing.utf8Size +
        d.formatMark.utf8Size = start := by simp [hstart, Nat.add_assoc]
    simp only [List.cons_append, List.append_assoc, List.nil_append]
    rw [readOptionalSpecification_mark, readSpecification_options hname hopening hoptions]
    simp [readAfterOptions, readNested, hposition, hbody]

end Specification

section Placeholder

/-- `PlaceholderRead d depth readBody position body rest p issues`: behind an opening brace at
`position`, `body` is read as the rest of `p` and `rest` is left over. -/
inductive PlaceholderRead (d : Dialect) (depth : Nat)
    (readBody : Nat → List Char → Reading Run) :
    Nat → List Char → List Char → Placeholder → List Issue → Prop
  | intro {position : Nat} {pathText alignText specText rest : List Char} {path : List String}
      {alignment : Int} {spec : Specification} {issues : List Issue}
      (hpath : PathText d pathText path)
      (hpathEnd : d.EndsPathAt (alignText ++ (specText ++ d.closing :: rest)))
      (halign : AlignmentText d alignText alignment)
      (halignEnd : d.EndsAlignmentAt alignText (specText ++ d.closing :: rest))
      (hspec : SpecificationRead d depth readBody
        (position + d.opening.utf8Size + utf8Width pathText + utf8Width alignText) specText
        (d.closing :: rest) spec issues) :
      PlaceholderRead d depth readBody position (pathText ++ alignText ++ specText ++ [d.closing])
        rest
        { start := position
          depth
          raw := String.ofList
            (d.opening :: (pathText ++ alignText ++ specText ++ [d.closing]))
          selectors := selectorsFrom d 0 (position + d.opening.utf8Size) path
          alignment
          nameAt := spec.nameAt
          optionsAt := spec.optionsAt
          format := spec.format } issues

variable {d : Dialect} {depth : Nat} {readBody : Nat → List Char → Reading Run}
  {position : Nat} {p : Placeholder} {issues : List Issue}

/-- What a placeholder keeps of its parts, with `rest` of its text `cs` left over. -/
def assemblePlaceholder (d : Dialect) (depth position : Nat) (cs : List Char)
    (selectors : List Selector) (alignment : Int) (spec : Specification) :
    Reading Placeholder :=
  if spec.stop.rest.head? = some d.closing then
    pure
      { start := position
        depth
        raw := String.ofList (d.opening :: cs.take (cs.length - spec.stop.rest.length + 1))
        selectors
        alignment
        nameAt := spec.nameAt
        optionsAt := spec.optionsAt
        format := spec.format }
  else .fail (.at spec.stop.position .missingClosing)

theorem readPlaceholder_eq (cs : List Char) :
    readPlaceholder d depth readBody position cs =
      .ofExcept (readPath d (position + d.opening.utf8Size) cs) >>= fun path =>
        .ofExcept (readAlignment d path.2) >>= fun alignment =>
          readOptionalSpecification d depth readBody alignment.2 >>= fun spec =>
            assemblePlaceholder d depth position cs path.1 alignment.1 spec := by
  simp only [readPlaceholder, Reading.ofExcept_eq]
  rcases readPath d (position + d.opening.utf8Size) cs with fault | ⟨path, here⟩
  · rfl
  · simp only [Reading.ok_bind]
    rcases readAlignment d here with fault | ⟨alignment, here⟩
    · rfl
    · simp only [Reading.ok_bind, readOptionalSpecification]
      split <;> rfl

theorem take_to_closing (body : List Char) (c : Char) (rest : List Char) :
    (body ++ c :: rest).take ((body ++ c :: rest).length - (c :: rest).length + 1) =
      body ++ [c] := by
  have hlength : (body ++ c :: rest).length - (c :: rest).length + 1 = (body ++ [c]).length := by
    simp
  rw [hlength, show body ++ c :: rest = body ++ [c] ++ rest by simp, List.take_left]

theorem PlaceholderRead.read_eq {body rest : List Char}
    (h : PlaceholderRead d depth readBody position body rest p issues) :
    readPlaceholder d depth readBody position (body ++ rest) = ⟨issues, .ok p⟩ := by
  cases h with
  | @intro pathText alignText specText _ path alignment spec _ hpath hpathEnd halign halignEnd
      hspec =>
    have hreadPath : readPath d (position + d.opening.utf8Size)
        (pathText ++ (alignText ++ (specText ++ d.closing :: rest))) =
          .ok (selectorsFrom d 0 (position + d.opening.utf8Size) path, _) :=
      readPath_eq_ok_iff.mpr ⟨_, _, _, rfl, rfl, hpath, rfl, hpathEnd⟩
    have hreadAlign : readAlignment d ⟨position + d.opening.utf8Size + utf8Width pathText,
        alignText ++ (specText ++ d.closing :: rest)⟩ = .ok (alignment, _) :=
      readAlignment_eq_ok_iff.mpr ⟨_, _, rfl, rfl, halign, halignEnd⟩
    have hassoc : pathText ++ alignText ++ specText ++ [d.closing] ++ rest =
        pathText ++ (alignText ++ (specText ++ d.closing :: rest)) := by simp
    have htake := take_to_closing (pathText ++ alignText ++ specText) d.closing rest
    rw [List.append_assoc, List.append_assoc] at htake
    rw [hassoc, readPlaceholder_eq, hreadPath, Reading.ofExcept_eq, Reading.ok_bind, hreadAlign,
      Reading.ofExcept_eq, Reading.ok_bind, hspec.read_eq, Reading.ok_bind, assemblePlaceholder,
      hspec.stop_eq]
    simp only [List.head?_cons, if_true, htake, Reading.pure_eq, List.nil_append, List.append_nil]

theorem PlaceholderRead.of_read (htakes : TakesText readBody) {cs : List Char}
    (h : readPlaceholder d depth readBody position cs = ⟨issues, .ok p⟩) :
    ∃ body rest, cs = body ++ rest ∧
      PlaceholderRead d depth readBody position body rest p issues := by
  rw [readPlaceholder_eq] at h
  obtain ⟨⟨selectors, afterPath⟩, first, second, hpath, hrest, rfl⟩ := Reading.bind_eq_ok_iff.mp h
  obtain ⟨⟨alignment, afterAlign⟩, third, fourth, halign, hrest', rfl⟩ :=
    Reading.bind_eq_ok_iff.mp hrest
  obtain ⟨spec, fifth, sixth, hspec, hassemble, rfl⟩ := Reading.bind_eq_ok_iff.mp hrest'
  obtain ⟨rfl, hreadPath⟩ := (Reading.mk.injEq ..).mp hpath
  obtain ⟨rfl, hreadAlign⟩ := (Reading.mk.injEq ..).mp halign
  obtain ⟨pathText, path, behind, rfl, rfl, hpathText, rfl, hpathEnd⟩ :=
    readPath_eq_ok_iff.mp hreadPath
  obtain ⟨alignText, behind, rfl, rfl, halignText, halignEnd⟩ :=
    readAlignment_eq_ok_iff.mp hreadAlign
  obtain ⟨specText, behind, rfl, hspecRead⟩ := SpecificationRead.of_read htakes hspec
  rw [assemblePlaceholder, hspecRead.stop_eq] at hassemble
  split at hassemble
  · rename_i hclosing
    obtain ⟨rest, rfl⟩ := List.head?_eq_some_iff.mp hclosing
    refine ⟨pathText ++ alignText ++ specText ++ [d.closing], rest, by simp, ?_⟩
    have htake := take_to_closing (pathText ++ alignText ++ specText) d.closing rest
    rw [List.append_assoc, List.append_assoc] at htake
    rw [htake] at hassemble
    cases hassemble
    simpa using PlaceholderRead.intro hpathText hpathEnd halignText halignEnd hspecRead
  · cases hassemble

theorem PlaceholderRead.start_eq {body rest : List Char}
    (h : PlaceholderRead d depth readBody position body rest p issues) : p.start = position := by
  cases h with
  | intro => rfl

theorem PlaceholderRead.depth_eq {body rest : List Char}
    (h : PlaceholderRead d depth readBody position body rest p issues) : p.depth = depth := by
  cases h with
  | intro => rfl

theorem PlaceholderRead.raw_eq {body rest : List Char}
    (h : PlaceholderRead d depth readBody position body rest p issues) :
    p.raw = String.ofList (d.opening :: body) := by
  cases h with
  | intro => rfl

/-- The text of a nested format is a stretch of the text of its placeholder. -/
theorem PlaceholderRead.nested {body rest : List Char} {f : Format}
    (h : PlaceholderRead d depth readBody position body rest p issues)
    (hformat : p.format = some f) : ∃ before inner after run, body = before ++ inner ++ after ∧
      f = run.toFormat (position + utf8Width (d.opening :: before)) depth ∧
      readBody (position + utf8Width (d.opening :: before)) (inner ++ (after ++ rest)) =
        ⟨issues, .ok run⟩ := by
  cases h with
  | @intro pathText alignText specText _ path alignment spec _ _ _ _ _ hspec =>
    cases hspec with
    | absent _ => cases hformat
    | options _ _ _ _ _ _ => cases hformat
    | @format text _ run _ _ hbody _ =>
      cases hformat
      refine ⟨pathText ++ alignText ++ [d.formatMark], text, [d.closing], run, by simp, ?_, ?_⟩
      · simp [Nat.add_assoc]
      · simpa [Nat.add_assoc] using hbody
    | @named start name text _ run _ _ _ _ hstart hbody _ =>
      cases hformat
      refine ⟨pathText ++ alignText ++ (d.formatMark :: name ++ [d.formatMark]), text, [d.closing],
        run, by simp, ?_, ?_⟩
      · simp [hstart, Nat.add_assoc]
      · simpa [hstart, Nat.add_assoc] using hbody
    | @optionsFormat start name options text _ run _ _ _ _ hstart hbody _ =>
      cases hformat
      refine ⟨pathText ++ alignText ++ (d.formatMark :: name ++ d.optionsOpening :: options ++
        [d.optionsClosing, d.formatMark]), text, [d.closing], run, by simp, ?_, ?_⟩
      · simp [hstart, Nat.add_assoc]
      · simpa [hstart, Nat.add_assoc] using hbody

end Placeholder

section Levels

variable {d : Dialect} {nested : Bool} {levels depth position : Nat} {cs : List Char}
  {issues : List Issue}

theorem takesText_readPieces {readPlaceholder : Nat → List Char → Reading Placeholder}
    (hkeeps : KeepsText d readPlaceholder) : TakesText (readPieces d nested readPlaceholder 0) := by
  intro position cs issues run h
  obtain ⟨text, rest, rfl, hread⟩ := PiecesRead.of_readPieces hkeeps cs.length (Nat.le_refl _) h
  exact ⟨text, rest, rfl, hread.stop_eq⟩

theorem keepsText_readPlaceholderWithin (levels depth : Nat) :
    KeepsText d (readPlaceholderWithin d levels depth) := by
  induction levels generalizing depth with
  | zero =>
    intro position cs issues p h
    cases h
  | succ levels ih =>
    intro position cs issues p h
    obtain ⟨body, rest, rfl, hread⟩ :=
      PlaceholderRead.of_read (takesText_readPieces (ih (depth + 1))) h
    exact ⟨hread.start_eq, body, rest, rfl, hread.raw_eq⟩

/-- The reader of the formats nested in placeholders of the given depth. -/
abbrev readNestedWithin (d : Dialect) (levels depth : Nat) : Nat → List Char → Reading Run :=
  readPieces d true (readPlaceholderWithin d levels (depth + 1)) 0

theorem levels_induction {motive : Nat → Prop}
    (step : ∀ levels, (∀ outer, levels = outer + 1 → motive outer) → motive levels)
    (levels : Nat) : motive levels := by
  induction levels with
  | zero =>
    apply step
    intro outer houter
    omega
  | succ levels ih =>
    apply step
    intro outer houter
    obtain rfl : levels = outer := by omega
    exact ih

theorem readPlaceholderWithin_eq_ok_iff {p : Placeholder} :
    readPlaceholderWithin d levels depth position cs = ⟨issues, .ok p⟩ ↔
      ∃ outer body rest, levels = outer + 1 ∧ cs = body ++ rest ∧
        PlaceholderRead d depth (readNestedWithin d outer depth) position body rest p issues := by
  constructor
  · intro h
    cases levels with
    | zero => cases h
    | succ outer =>
      obtain ⟨body, rest, rfl, hread⟩ := PlaceholderRead.of_read
        (takesText_readPieces (keepsText_readPlaceholderWithin outer (depth + 1))) h
      exact ⟨outer, body, rest, rfl, rfl, hread⟩
  · rintro ⟨outer, body, rest, rfl, rfl, hread⟩
    exact hread.read_eq

/-- A placeholder says by its text how much of what is behind its opening brace it was read from. -/
theorem placeholderRead_of_readPlaceholderWithin {p : Placeholder} {body rest : List Char}
    (hread : readPlaceholderWithin d levels depth position (body ++ rest) = ⟨issues, .ok p⟩)
    (hraw : p.raw = String.ofList (d.opening :: body)) :
    ∃ outer, levels = outer + 1 ∧
      PlaceholderRead d depth (readNestedWithin d outer depth) position body rest p issues := by
  obtain ⟨outer, body', rest', hlevels, htext, h⟩ := readPlaceholderWithin_eq_ok_iff.mp hread
  have hbody : d.opening :: body = d.opening :: body' :=
    String.ofList_inj.mp (hraw.symm.trans h.raw_eq)
  cases hbody
  obtain rfl := List.append_cancel_left htext
  exact ⟨outer, hlevels, h⟩

theorem readPieces_eq_ok_iff {run : Run} :
    readPieces d nested (readPlaceholderWithin d levels depth) 0 position cs = ⟨issues, .ok run⟩ ↔
      ∃ text rest, cs = text ++ rest ∧
        PiecesRead d nested (readPlaceholderWithin d levels depth) position text rest run
          issues := by
  constructor
  · exact PiecesRead.of_readPieces (keepsText_readPlaceholderWithin levels depth) cs.length
      (Nat.le_refl _)
  · rintro ⟨text, rest, rfl, hread⟩
    exact hread.readPieces_eq

theorem piecesRead_of_readNestedWithin {start : Nat} {text rest : List Char} {run : Run}
    (hread : readNestedWithin d levels depth start (text ++ rest) = ⟨issues, .ok run⟩)
    (hstop : run.stop = ⟨start + utf8Width text, rest⟩) :
    PiecesRead d true (readPlaceholderWithin d levels (depth + 1)) start text rest run issues := by
  obtain ⟨inner, behind, htext, hpieces⟩ := readPieces_eq_ok_iff.mp hread
  have hbehind : behind = rest := by
    have hstops := hpieces.stop_eq.symm.trans hstop
    exact congrArg Cursor.rest hstops
  subst hbehind
  obtain rfl := List.append_cancel_right htext
  exact hpieces

theorem Dialect.EndsFormatAt.eq_nil {rest : List Char} (h : d.EndsFormatAt false rest) :
    rest = [] := by
  obtain rfl | ⟨c, cs, rfl, hrole⟩ := h
  · rfl
  · exact absurd (closing_of_stop hrole).2 (by simp)

theorem PiecesRead.endsFormatAt {readPlaceholder : Nat → List Char → Reading Placeholder}
    {text rest : List Char} {run : Run}
    (h : PiecesRead d nested readPlaceholder position text rest run issues) :
    d.EndsFormatAt nested rest := by
  induction h with
  | done hend => exact hend
  | _ => assumption

/-- A template is read when its whole text is spelled by the rules for pieces. -/
theorem parse_eq_ok_iff {text : String} {t : Template} :
    Template.parse d text = .ok t ↔ ∃ run issues, t = ⟨d, run.toFormat 0 0, issues⟩ ∧
      PiecesRead d false (readPlaceholderWithin d d.maxDepth 1) 0 text.toList [] run issues := by
  constructor
  · intro h
    rcases hread : readPieces d false (readPlaceholderWithin d d.maxDepth 1) 0 0 text.toList with
      ⟨issues, fault | run⟩
    · simp [Template.parse, hread] at h
    · simp only [Template.parse, hread, Except.ok.injEq] at h
      obtain ⟨inner, rest, htext, hpieces⟩ := readPieces_eq_ok_iff.mp hread
      have hrest := hpieces.endsFormatAt.eq_nil
      subst hrest
      rw [List.append_nil] at htext
      subst htext
      exact ⟨run, issues, h.symm, hpieces⟩
  · rintro ⟨run, issues, rfl, hpieces⟩
    have hread := hpieces.readPieces_eq
    rw [List.append_nil] at hread
    simp [Template.parse, hread]

theorem exists_parse_of_any {text : String} {q : Template → Bool}
    (h : (Template.parse d text).toOption.any q = true) :
    ∃ t, Template.parse d text = .ok t ∧ q t = true := by
  cases hread : Template.parse d text with
  | error e =>
    rw [hread] at h
    cases h
  | ok t =>
    rw [hread] at h
    exact ⟨t, rfl, h⟩

end Levels

end Stencil
