import Stencil.Proofs.Reading.Delimiters
import Stencil.Proofs.Template.Recast

/-!
# The grammar of templates

The templates of a dialect that doubles its braces, and the tree of each, given by rules that know
nothing of readers and of the text behind a part. Reading a template accepts exactly what the rules
derive and finds the tree they give it, but for where literal text is cut.
-/

namespace Stencil

set_option autoImplicit false

/-- The usual delimiters, none of them a selector character; braces are doubled, a backslash is a
character like any other, and nothing malformed is put up with. -/
structure Dialect.IsPlain (d : Dialect) : Prop where
  usual : d.UsualDelimiters
  extras : ∀ c ∈ delimiters, c ∉ d.selectorExtras
  escape : d.escape = none
  charLiterals : d.charLiterals = false
  onMalformed : d.onMalformed = .fail

mutual

/-- `FormatDerives d depth position text ps`: at byte `position`, `text` is a format that is nested
in `depth` placeholders and has the pieces `ps`, with literal text cut into its characters. -/
inductive FormatDerives (d : Dialect) : Nat → Nat → List Char → List Piece → Prop
  | empty {depth position : Nat} : FormatDerives d depth position [] []
  | character {depth position : Nat} {c : Char} {text : List Char} {ps : List Piece}
      (hc : d.isBrace c = false)
      (hrest : FormatDerives d depth (position + c.utf8Size) text ps) :
      FormatDerives d depth position (c :: text)
        (.literal ⟨position, String.ofList [c], .text⟩ :: ps)
  | doubledOpening {depth position : Nat} {text : List Char} {ps : List Piece}
      (hrest : FormatDerives d depth (position + d.opening.utf8Size + d.opening.utf8Size)
        text ps) :
      FormatDerives d depth position (d.opening :: d.opening :: text)
        (.literal ⟨position, String.ofList [d.opening], .text⟩ ::
          .literal ⟨position + d.opening.utf8Size, String.ofList [d.opening],
            .elided .doubledBrace⟩ :: ps)
  /-- Inside a placeholder a closing brace ends the format, doubled or not. -/
  | doubledClosing {position : Nat} {text : List Char} {ps : List Piece}
      (hrest : FormatDerives d 0 (position + d.closing.utf8Size + d.closing.utf8Size) text ps) :
      FormatDerives d 0 position (d.closing :: d.closing :: text)
        (.literal ⟨position, String.ofList [d.closing], .text⟩ ::
          .literal ⟨position + d.closing.utf8Size, String.ofList [d.closing],
            .elided .doubledBrace⟩ :: ps)
  | placeholder {depth position : Nat} {body text : List Char} {p : Placeholder}
      {ps : List Piece} (hplaceholder : PlaceholderDerives d (depth + 1) position body p)
      (hrest : FormatDerives d depth (position + utf8Width body) text ps) :
      FormatDerives d depth position (body ++ text) (.placeholder p :: ps)

inductive PlaceholderDerives (d : Dialect) : Nat → Nat → List Char → Placeholder → Prop
  | intro {depth position : Nat} {pathText alignText specText : List Char} {path : List String}
      {alignment : Int} {nameAt : Excerpt} {optionsAt : Option Excerpt} {format : Option Format}
      (hdepth : depth ≤ d.maxDepth) (hpath : PathText d pathText path)
      (halign : AlignmentText d alignText alignment)
      (hspec : SpecificationDerives d depth
        (position + utf8Width (d.opening :: (pathText ++ alignText))) specText nameAt optionsAt
        format) :
      PlaceholderDerives d depth position
        (d.opening :: (pathText ++ alignText ++ specText ++ [d.closing]))
        { start := position
          depth
          raw := String.ofList (d.opening :: (pathText ++ alignText ++ specText ++ [d.closing]))
          selectors := selectorsFrom d 0 (position + d.opening.utf8Size) path
          alignment
          nameAt
          optionsAt
          format }

/-- What may stand between the alignment of a placeholder and its closing brace. -/
inductive SpecificationDerives (d : Dialect) : Nat → Nat → List Char →
    Excerpt → Option Excerpt → Option Format → Prop
  | absent {depth position : Nat} :
      SpecificationDerives d depth position [] (.ofList position []) none none
  | format {depth position start : Nat} {text : List Char} {ps : List Piece}
      (hname : d.startsWithName (text ++ [d.closing]) = false)
      (hstart : start = position + utf8Width [d.formatMark])
      (hbody : FormatDerives d depth start text ps) :
      SpecificationDerives d depth position (d.formatMark :: text) (.ofList start []) none
        (some ⟨start, depth, ps⟩)
  | named {depth position start : Nat} {name text : List Char} {ps : List Piece}
      (hname : FormatterName d name)
      (hstart : start = position + utf8Width (d.formatMark :: name ++ [d.formatMark]))
      (hbody : FormatDerives d depth start text ps) :
      SpecificationDerives d depth position (d.formatMark :: name ++ [d.formatMark] ++ text)
        (.ofList (position + d.formatMark.utf8Size) name) none (some ⟨start, depth, ps⟩)
  | options {depth position : Nat} {name options : List Char} (hname : FormatterName d name)
      (hoptions : OptionsText d options) :
      SpecificationDerives d depth position
        (d.formatMark :: name ++ d.optionsOpening :: options ++ [d.optionsClosing])
        (.ofList (position + d.formatMark.utf8Size) name)
        (some (.ofList (position + d.formatMark.utf8Size + utf8Width name +
          d.optionsOpening.utf8Size) options))
        none
  | optionsFormat {depth position start : Nat} {name options text : List Char} {ps : List Piece}
      (hname : FormatterName d name) (hoptions : OptionsText d options)
      (hstart : start = position + utf8Width (d.formatMark :: name ++ d.optionsOpening :: options ++
        [d.optionsClosing, d.formatMark]))
      (hbody : FormatDerives d depth start text ps) :
      SpecificationDerives d depth position
        (d.formatMark :: name ++ d.optionsOpening :: options ++ [d.optionsClosing, d.formatMark] ++
          text)
        (.ofList (position + d.formatMark.utf8Size) name)
        (some (.ofList (position + d.formatMark.utf8Size + utf8Width name +
          d.optionsOpening.utf8Size) options))
        (some ⟨start, depth, ps⟩)

end

/-- The whole of `text` is a format at no depth, with the tree `f`. -/
def Derives (d : Dialect) (text : String) (f : Format) : Prop :=
  ∃ ps, FormatDerives d 0 0 text.toList ps ∧ f = ⟨0, 0, ps⟩

section Plain

variable {d : Dialect}

theorem Dialect.IsPlain.escapesBrace (hd : d.IsPlain) (c : Char) (next : Option Char) :
    d.escapesBrace c next = false := by
  simp [Dialect.escapesBrace, hd.escape, hd.charLiterals]

theorem Dialect.IsPlain.doubles (hd : d.IsPlain) : d.doubles = true := by
  simp [Dialect.doubles, hd.escape]

theorem Dialect.IsPlain.not_recovers (hd : d.IsPlain) : d.recovers = false := by
  simp [Dialect.recovers, hd.onMalformed]

theorem Dialect.IsPlain.isSelectorChar (hd : d.IsPlain) {c : Char} (hc : c ∈ delimiters) :
    d.isSelectorChar c = false :=
  isSelectorChar_of_not_mem hc (hd.extras c hc)

theorem Dialect.IsPlain.readOptions_eq_some_iff (hd : d.IsPlain) {cs options after : List Char} :
    readOptions d false 0 cs = some (options, after) ↔
      cs = options ++ d.optionsClosing :: after ∧ OptionsText d options := by
  apply Stencil.readOptions_eq_some_iff
  · rw [hd.usual.optionsOpening]
    decide
  · rw [hd.usual.optionsClosing]
    decide
  · rw [hd.usual.optionsClosing, hd.usual.optionsOpening]
    decide

theorem Dialect.IsPlain.closing_isNameChar (hd : d.IsPlain) : isNameChar d.closing = false := by
  rw [hd.usual.closing]
  exact isNameChar_of_mem_delimiters _ (by decide)

theorem Dialect.IsPlain.closing_ne_opening (hd : d.IsPlain) : d.closing ≠ d.opening := by
  rw [hd.usual.closing, hd.usual.opening]
  decide

theorem Dialect.IsPlain.role_text (hd : d.IsPlain) {nested : Bool} {c : Char}
    (hc : d.isBrace c = false) (next : Option Char) : d.role nested c next = .text := by
  simp only [Dialect.isBrace, Bool.or_eq_false_iff] at hc
  simp [Dialect.role, hd.escapesBrace, hd.charLiterals, hc.1, hc.2]

theorem Dialect.IsPlain.role_doubledOpening (hd : d.IsPlain) (nested : Bool) :
    d.role nested d.opening (some d.opening) = .doubledBrace := by
  simp [Dialect.role, hd.escapesBrace, hd.charLiterals, hd.doubles]

theorem Dialect.IsPlain.role_doubledClosing (hd : d.IsPlain) :
    d.role false d.closing (some d.closing) = .doubledBrace := by
  simp [Dialect.role, hd.escapesBrace, hd.charLiterals, hd.doubles, hd.closing_ne_opening]

theorem Dialect.IsPlain.role_opening (hd : d.IsPlain) (nested : Bool) {next : Option Char}
    (hnext : next ≠ some d.opening) : d.role nested d.opening next = .opening := by
  simp [Dialect.role, hd.escapesBrace, hd.charLiterals, hnext]

theorem Dialect.IsPlain.endsFormatAt (hd : d.IsPlain) (rest : List Char) :
    d.EndsFormatAt true (d.closing :: rest) := by
  refine .inr ⟨d.closing, rest, rfl, ?_⟩
  simp [Dialect.role, hd.escapesBrace, hd.charLiterals, hd.closing_ne_opening]

theorem Dialect.IsPlain.endsPathAt (hd : d.IsPlain) {c : Char} (cs : List Char)
    (hc : c = d.alignmentMark ∨ c = d.formatMark ∨ c = d.closing) : d.EndsPathAt (c :: cs) := by
  refine hd.usual.endsPathAt cs hc (hd.isSelectorChar ?_)
  rw [hd.usual.alignmentMark, hd.usual.formatMark, hd.usual.closing] at hc
  rcases hc with rfl | rfl | rfl <;> decide

end Plain

section Soundness

variable {d : Dialect} {levels depth position : Nat} {text rest : List Char}

/-- Reading within `levels` yields what the rules derive. -/
def ReadsDerived (d : Dialect) (levels : Nat) : Prop :=
  ∀ {depth position text rest run issues}, levels + depth = d.maxDepth →
    PiecesRead d (decide (depth ≠ 0)) (readPlaceholderWithin d levels (depth + 1)) position text
      rest run issues →
    FormatDerives d depth position text (recastPieces splitText (run.piecesFrom position))

theorem SpecificationRead.derives (hd : d.IsPlain) (hlevels : levels + depth = d.maxDepth)
    (hdepth : depth ≠ 0) (hnested : ReadsDerived d levels) {spec : Specification}
    {issues : List Issue} (h : SpecificationRead d depth (readNestedWithin d levels depth) position
      text (d.closing :: rest) spec issues) :
    SpecificationDerives d depth position text spec.nameAt spec.optionsAt
      (recastNested splitText spec.format) := by
  have hbody : ∀ {start : Nat} {text : List Char} {run : Run} {issues : List Issue},
      readNestedWithin d levels depth start (text ++ d.closing :: rest) = ⟨issues, .ok run⟩ →
      run.stop = ⟨start + utf8Width text, d.closing :: rest⟩ →
      FormatDerives d depth start text (recastPieces splitText (run.piecesFrom start)) := by
    intro start text run issues hread hstop
    have hpieces := piecesRead_of_readNestedWithin hread hstop
    have hnest : decide (depth ≠ 0) = true := by simpa using hdepth
    rw [← hnest] at hpieces
    exact hnested hlevels hpieces
  cases h with
  | absent _ => exact .absent
  | format hname hread hstop =>
    refine .format ?_ rfl (hbody hread hstop)
    rw [← Dialect.startsWithName_append_cons hd.closing_isNameChar _ rest]
    exact hname
  | named hname _ _ hstart hread hstop => exact .named hname hstart (hbody hread hstop)
  | options hname _ hoptions _ _ _ =>
    exact .options hname (hd.readOptions_eq_some_iff.mp hoptions).2
  | optionsFormat hname _ hoptions hstart hread hstop =>
    exact .optionsFormat hname (hd.readOptions_eq_some_iff.mp hoptions).2 hstart
      (hbody hread hstop)

theorem PlaceholderRead.derives (hd : d.IsPlain) (hlevels : levels + depth = d.maxDepth)
    (hdepth : depth ≠ 0) (hnested : ReadsDerived d levels) {p : Placeholder}
    {issues : List Issue} {body : List Char}
    (h : PlaceholderRead d depth (readNestedWithin d levels depth) position body rest p issues) :
    PlaceholderDerives d depth position (d.opening :: body) (p.recast splitText) := by
  rw [Placeholder.recast_splitText]
  cases h with
  | intro hpath _ halign _ hspec =>
    refine .intro (by omega) hpath halign ?_
    have hderives := hspec.derives hd hlevels hdepth hnested
    simpa [Nat.add_assoc] using hderives

theorem PiecesRead.derives (hd : d.IsPlain) (hlevels : levels + depth = d.maxDepth)
    (hnested : ∀ outer, levels = outer + 1 → ReadsDerived d outer) {run : Run}
    {issues : List Issue} (h : PiecesRead d (decide (depth ≠ 0))
      (readPlaceholderWithin d levels (depth + 1)) position text rest run issues) :
    FormatDerives d depth position text (recastPieces splitText (run.piecesFrom position)) := by
  induction h with
  | done _ => exact .empty
  | text hrole _ ih =>
    rw [recast_prependText splitText_splits]
    exact .character (Dialect.isBrace_of_text hrole) (by simpa [characterPieces] using ih)
  | braceEscape hrole _ _ =>
    rw [Dialect.role_eq_braceEscape_iff, hd.escapesBrace] at hrole
    cases hrole
  | charLiteral hrole _ _ _ =>
    have hliterals := (Dialect.charLiterals_of_role hrole).1
    rw [hd.charLiterals] at hliterals
    cases hliterals
  | doubledBrace hrole _ ih =>
    rw [recast_prependText splitText_splits, recast_prependLiteral]
    rcases Dialect.closing_of_doubledBrace hrole with rfl | ⟨rfl, hroot⟩
    · exact .doubledOpening (by simpa using ih)
    · have hzero : depth = 0 := by simpa using hroot
      subst hzero
      exact .doubledClosing (by simpa using ih)
  | placeholder _ hread hstart hraw _ ih =>
    obtain ⟨outer, rfl, hplaceholder⟩ := placeholderRead_of_readPlaceholderWithin hread hraw
    have hderives := hplaceholder.derives hd (by omega) (by omega) (hnested outer rfl)
    rw [recast_prependPlaceholder]
    rw [Placeholder.stop, hstart, hraw, utf8ByteSize_ofList] at ih
    rw [Placeholder.stop, hstart, hraw, utf8ByteSize_ofList]
    exact .placeholder hderives ih
  | malformed hrecovers _ _ _ _ _ =>
    rw [hd.not_recovers] at hrecovers
    cases hrecovers
  | unmatched hrecovers _ _ _ =>
    rw [hd.not_recovers] at hrecovers
    cases hrecovers

theorem readsDerived (hd : d.IsPlain) (levels : Nat) : ReadsDerived d levels := by
  induction levels using levels_induction with
  | step levels ih =>
    intro depth position text rest run issues hlevels h
    exact h.derives hd hlevels ih

end Soundness

section Completeness

variable {d : Dialect} {levels depth position : Nat} {text rest : List Char} {ps : List Piece}
  {p : Placeholder}

theorem PathText.head_mem {pathText : List Char} {path : List String}
    (h : PathText d pathText path) {c : Char} (hc : c ∈ pathText.head?) :
    d.isSelectorChar c = true := by
  cases h with
  | current => cases hc
  | selectors first later chars _ =>
    obtain ⟨hne, hfirst⟩ := chars first List.mem_cons_self
    cases first with
    | nil => exact absurd rfl hne
    | cons b first =>
      rw [List.intercalate_cons_cons_left, List.head?_cons, Option.mem_some] at hc
      exact hc ▸ hfirst b List.mem_cons_self

theorem AlignmentText.head_mem {alignText : List Char} {alignment : Int}
    (h : AlignmentText d alignText alignment) {c : Char} (hc : c ∈ alignText.head?) :
    c = d.alignmentMark := by
  cases h with
  | absent => cases hc
  | written negative digits _ _ _ => exact (Option.mem_some.mp hc).symm

theorem SpecificationDerives.head_mem {specText : List Char} {nameAt : Excerpt}
    {optionsAt : Option Excerpt} {format : Option Format}
    (h : SpecificationDerives d depth position specText nameAt optionsAt format) {c : Char}
    (hc : c ∈ specText.head?) : c = d.formatMark := by
  cases h with
  | absent => cases hc
  | _ => exact (Option.mem_some.mp hc).symm

/-- What stands behind the alignment begins with the format mark or is the closing brace. -/
theorem SpecificationDerives.exists_cons {specText : List Char} {nameAt : Excerpt}
    {optionsAt : Option Excerpt} {format : Option Format}
    (h : SpecificationDerives d depth position specText nameAt optionsAt format)
    (rest : List Char) :
    ∃ c cs, specText ++ d.closing :: rest = c :: cs ∧ (c = d.formatMark ∨ c = d.closing) := by
  cases hspec : specText with
  | nil => exact ⟨d.closing, rest, rfl, .inr rfl⟩
  | cons c cs =>
    refine ⟨c, cs ++ d.closing :: rest, rfl, .inl (h.head_mem ?_)⟩
    rw [hspec]
    rfl

theorem PlaceholderDerives.depth_le (h : PlaceholderDerives d depth position text p) :
    depth ≤ d.maxDepth := by
  cases h with
  | intro hdepth _ _ _ => exact hdepth

/-- Behind the path of a placeholder comes what may end it. -/
theorem SpecificationDerives.ends (hd : d.IsPlain) {alignText specText : List Char}
    {alignment : Int} {nameAt : Excerpt} {optionsAt : Option Excerpt} {format : Option Format}
    (halign : AlignmentText d alignText alignment)
    (h : SpecificationDerives d depth position specText nameAt optionsAt format)
    (rest : List Char) :
    d.EndsPathAt (alignText ++ (specText ++ d.closing :: rest)) ∧
      d.EndsAlignmentAt alignText (specText ++ d.closing :: rest) := by
  obtain ⟨c, cs, hcs, hc⟩ := h.exists_cons rest
  rw [hcs]
  refine ⟨?_, hd.usual.endsAlignmentAt alignText cs hc⟩
  cases halignText : alignText with
  | nil => exact hd.endsPathAt cs (.inr hc)
  | cons b bs =>
    have hb : b = d.alignmentMark := halign.head_mem (by rw [halignText]; rfl)
    exact hd.endsPathAt _ (.inl hb)

/-- A placeholder is not mistaken for a doubled brace. -/
theorem PathText.head?_ne_opening (hd : d.IsPlain) {pathText rest : List Char}
    {path : List String} (hpath : PathText d pathText path) (hrest : d.EndsPathAt rest) :
    (pathText ++ rest).head? ≠ some d.opening := by
  intro hhead
  cases hpathText : pathText with
  | nil =>
    obtain ⟨c, cs, rfl, -, -, hends⟩ := hrest
    rw [hpathText, List.nil_append, List.head?_cons, Option.some.injEq] at hhead
    subst hhead
    simp [Dialect.endsPath, hd.usual.opening, hd.usual.alignmentMark, hd.usual.formatMark,
      hd.usual.closing] at hends
  | cons b bs =>
    have hb := hpath.head_mem (c := b) (by rw [hpathText]; rfl)
    rw [hpathText, List.cons_append, List.head?_cons, Option.some.injEq] at hhead
    have hopening : d.isSelectorChar d.opening = false := by
      apply hd.isSelectorChar
      rw [hd.usual.opening]
      decide
    rw [hhead, hopening] at hb
    cases hb

theorem PiecesRead.readNestedWithin_eq {run : Run} (h : PiecesRead d (decide (depth ≠ 0))
    (readPlaceholderWithin d levels (depth + 1)) position text (d.closing :: rest) run [])
    (hdepth : depth ≠ 0) :
    readNestedWithin d levels depth position (text ++ d.closing :: rest) = ⟨[], .ok run⟩ := by
  have hread := h.readPieces_eq
  simpa [hdepth] using hread

mutual

theorem FormatDerives.read (hd : d.IsPlain) {levels depth position : Nat} {text rest : List Char}
    {ps : List Piece} (h : FormatDerives d depth position text ps)
    (hlevels : levels + depth = d.maxDepth)
    (hend : d.EndsFormatAt (decide (depth ≠ 0)) rest) :
    ∃ run, PiecesRead d (decide (depth ≠ 0)) (readPlaceholderWithin d levels (depth + 1)) position
      text rest run [] ∧ recastPieces splitText (run.piecesFrom position) = ps := by
  cases h with
  | empty => exact ⟨_, .done hend, rfl⟩
  | @character _ _ c text _ hc hrest =>
    obtain ⟨run, hrun, rfl⟩ := hrest.read hd hlevels hend
    refine ⟨run.prependText [c], .text (hd.role_text hc _) hrun, ?_⟩
    rw [recast_prependText splitText_splits]
    simp [characterPieces]
  | doubledOpening hrest =>
    obtain ⟨run, hrun, rfl⟩ := hrest.read hd hlevels hend
    refine ⟨_, .doubledBrace (hd.role_doubledOpening _) hrun, ?_⟩
    rw [recast_prependText splitText_splits, recast_prependLiteral]
    simp [characterPieces, splitText, Literal.isText]
  | doubledClosing hrest =>
    obtain ⟨run, hrun, rfl⟩ := hrest.read hd hlevels hend
    refine ⟨_, .doubledBrace hd.role_doubledClosing hrun, ?_⟩
    rw [recast_prependText splitText_splits, recast_prependLiteral]
    simp [characterPieces, splitText, Literal.isText]
  | @placeholder _ _ body text p ps hplaceholder hrest =>
    have hdepth := hplaceholder.depth_le
    obtain ⟨outer, rfl⟩ : ∃ outer, levels = outer + 1 := ⟨levels - 1, by omega⟩
    obtain ⟨inner, q, rfl, hhead, hread, rfl⟩ :=
      hplaceholder.read hd (show outer + (depth + 1) = d.maxDepth by omega) (by omega)
        (text ++ rest)
    have hstop : q.stop = position + utf8Width (d.opening :: inner) := by
      rw [Placeholder.stop, hread.start_eq, hread.raw_eq, utf8ByteSize_ofList]
    obtain ⟨run, hrun, rfl⟩ := hrest.read hd hlevels hend
    refine ⟨run.prependPlaceholder q, ?_, ?_⟩
    · exact .placeholder (hd.role_opening _ hhead)
        (readPlaceholderWithin_eq_ok_iff.mpr ⟨outer, inner, text ++ rest, rfl, rfl, hread⟩)
        hread.start_eq hread.raw_eq (hstop ▸ hrun)
    · rw [recast_prependPlaceholder, hstop]

theorem PlaceholderDerives.read (hd : d.IsPlain) {levels depth position : Nat} {text : List Char}
    {p : Placeholder} (h : PlaceholderDerives d depth position text p)
    (hlevels : levels + depth = d.maxDepth) (hdepth : depth ≠ 0) (rest : List Char) :
    ∃ body q, text = d.opening :: body ∧ (body ++ rest).head? ≠ some d.opening ∧
      PlaceholderRead d depth (readNestedWithin d levels depth) position body rest q [] ∧
      q.recast splitText = p := by
  cases h with
  | @intro _ _ pathText alignText specText path alignment nameAt optionsAt format hmax hpath
      halign hspec =>
    obtain ⟨hpathEnd, halignEnd⟩ := SpecificationDerives.ends hd halign hspec rest
    obtain ⟨spec, hread, rfl, rfl, rfl⟩ := hspec.read hd hlevels hdepth rest
    have hread' : SpecificationRead d depth (readNestedWithin d levels depth)
        (position + d.opening.utf8Size + utf8Width pathText + utf8Width alignText) specText
        (d.closing :: rest) spec [] := by
      simpa [Nat.add_assoc] using hread
    refine ⟨pathText ++ alignText ++ specText ++ [d.closing], _, rfl, ?_,
      .intro hpath hpathEnd halign halignEnd hread', ?_⟩
    · simpa using PathText.head?_ne_opening hd hpath hpathEnd
    · rw [Placeholder.recast_splitText]

theorem SpecificationDerives.read (hd : d.IsPlain) {levels depth position : Nat}
    {text : List Char} {nameAt : Excerpt} {optionsAt : Option Excerpt} {format : Option Format}
    (h : SpecificationDerives d depth position text nameAt optionsAt format)
    (hlevels : levels + depth = d.maxDepth) (hdepth : depth ≠ 0) (rest : List Char) :
    ∃ spec, SpecificationRead d depth (readNestedWithin d levels depth) position text
        (d.closing :: rest) spec [] ∧
      spec.nameAt = nameAt ∧ spec.optionsAt = optionsAt ∧
      recastNested splitText spec.format = format := by
  have hend : d.EndsFormatAt (decide (depth ≠ 0)) (d.closing :: rest) := by
    simpa [hdepth] using hd.endsFormatAt rest
  cases h with
  | absent =>
    refine ⟨_, .absent ?_, rfl, rfl, rfl⟩
    simp [hd.usual.closing, hd.usual.formatMark]
  | format hname hstart hbody =>
    obtain ⟨run, hrun, rfl⟩ := hbody.read hd hlevels hend
    subst hstart
    refine ⟨_, .format ?_ (hrun.readNestedWithin_eq hdepth) hrun.stop_eq, rfl, rfl, rfl⟩
    rw [Dialect.startsWithName_append_cons hd.closing_isNameChar]
    exact hname
  | named hname hstart hbody =>
    obtain ⟨run, hrun, rfl⟩ := hbody.read hd hlevels hend
    refine ⟨_, .named hname ?_ ?_ hstart (hrun.readNestedWithin_eq hdepth) hrun.stop_eq, rfl, rfl,
      rfl⟩
    · rw [hd.usual.formatMark]
      exact isNameChar_of_mem_delimiters _ (by decide)
    · rw [hd.usual.formatMark, hd.usual.optionsOpening]
      decide
  | options hname hoptions =>
    refine ⟨_, .options hname ?_ (hd.readOptions_eq_some_iff.mpr ⟨rfl, hoptions⟩) rfl ?_ rfl, rfl,
      rfl, rfl⟩
    · rw [hd.usual.optionsOpening]
      exact isNameChar_of_mem_delimiters _ (by decide)
    · rw [hd.usual.closing, hd.usual.formatMark]
      decide
  | @optionsFormat _ _ start name options text ps hname hoptions hstart hbody =>
    obtain ⟨run, hrun, rfl⟩ := hbody.read hd hlevels hend
    refine ⟨_, .optionsFormat hname ?_ (hd.readOptions_eq_some_iff.mpr ⟨rfl, hoptions⟩) hstart
      (hrun.readNestedWithin_eq hdepth) hrun.stop_eq, rfl, rfl, rfl⟩
    rw [hd.usual.optionsOpening]
    exact isNameChar_of_mem_delimiters _ (by decide)

end

end Completeness

/-- A plain dialect reads exactly the templates that the grammar derives, as the trees that it
derives for them. -/
theorem parse_iff_derives {d : Dialect} (hd : d.IsPlain) (text : String) (f : Format) :
    (∃ t, Template.parse d text = .ok t ∧ t.format.recast splitText = f) ↔ Derives d text f := by
  constructor
  · rintro ⟨t, hparse, rfl⟩
    obtain ⟨run, issues, rfl, hread⟩ := parse_eq_ok_iff.mp hparse
    exact ⟨_, readsDerived hd d.maxDepth rfl hread, rfl⟩
  · rintro ⟨ps, hderives, rfl⟩
    obtain ⟨run, hread, rfl⟩ := hderives.read hd rfl (.inl rfl)
    exact ⟨_, parse_eq_ok_iff.mpr ⟨run, [], rfl, hread⟩, rfl⟩

/-- Doubled braces, a name with options, a format nested in a nested format, and a name that the
dialect does not accept. -/
theorem parse_iff_derives_nested :
    Dialect.IsPlain { selectorExtras := ['-'], formatterNames := some ["choose"], maxDepth := 2 } ∧
      ∃ f, Derives
        { selectorExtras := ['-'], formatterNames := some ["choose"], maxDepth := 2 }
        "{{{a.b-c,-07:choose(x(y)|z):{d}|{}}}}{e:list:f}" f := by
  have hplain : Dialect.IsPlain
      { selectorExtras := ['-'], formatterNames := some ["choose"], maxDepth := 2 } :=
    ⟨⟨rfl, rfl, rfl, rfl, rfl, rfl, rfl⟩, by simp [delimiters], rfl, rfl, rfl⟩
  have hany : (Template.parse
      { selectorExtras := ['-'], formatterNames := some ["choose"], maxDepth := 2 }
      "{{{a.b-c,-07:choose(x(y)|z):{d}|{}}}}{e:list:f}").toOption.any (fun _ => true) = true := by
    decide +kernel
  obtain ⟨t, hread, -⟩ := exists_parse_of_any hany
  exact ⟨hplain, _, (parse_iff_derives hplain _ _).mp ⟨t, hread, rfl⟩⟩

end Stencil
