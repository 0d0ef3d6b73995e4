import Stencil.Proofs.Reading.Written

/-!
# Reading what was written

A template written out is read as the same tree but for places exactly if leaving out its alignments
of zero makes no other difference. Where all alignments are spelled as they are written, what is
written is the text that was read.
-/

namespace Stencil

set_option autoImplicit false

section Canonical

variable {d : Dialect} {levels depth position : Nat} {text rest : List Char}

/-- The alignment is absent, or neither zero nor spelled with zeros in front. -/
def Placeholder.Canonical (d : Dialect) (p : Placeholder) : Prop :=
  CanonicalAlignment (p.alignmentRaw d)

/-- What is read within `levels` is written as it was, where all alignments are canonical. -/
def WrittenAsRead (d : Dialect) (levels : Nat) : Prop :=
  ∀ {nested depth position text rest run issues},
    PiecesRead d nested (readPlaceholderWithin d levels depth) position text rest run issues →
    issues = [] → run.Every (Placeholder.Canonical d) → run.written d = text

theorem SpecificationRead.written_eq (hnested : WrittenAsRead d levels) {spec : Specification}
    (h : SpecificationRead d depth (readNestedWithin d levels depth) position text rest spec [])
    (hevery : ∀ f, spec.format = some f → f.Every (Placeholder.Canonical d)) :
    spec.written d = text := by
  rcases h.written_cases with ⟨-, hwritten⟩ |
    ⟨front, inner, start, run, rfl, hwritten, hformat, hread⟩
  · exact hwritten
  · have hinner := hnested hread rfl (Run.every_toFormat.mp (hevery _ hformat))
    rw [hwritten, hinner]

theorem PlaceholderRead.written_eq (hd : d.UsualDelimiters) (hnested : WrittenAsRead d levels)
    {body : List Char} {p : Placeholder}
    (h : PlaceholderRead d depth (readNestedWithin d levels depth) position body rest p [])
    (hevery : p.Every (Placeholder.Canonical d)) :
    (p.written d).toList = d.opening :: body := by
  cases h with
  | intro hpath _ halign _ hspec =>
    have hcanonical := hevery.1
    rw [Placeholder.Canonical, alignmentRaw_eq hd hpath halign hspec rfl] at hcanonical
    · rw [toList_written_placeholder hpath, halign.eq_of_canonical hcanonical,
        hspec.written_eq hnested hevery.2]
    · rfl

theorem PiecesRead.written_eq (hd : d.UsualDelimiters) {nested : Bool} {run : Run}
    {issues : List Issue} (hnested : ∀ outer, levels = outer + 1 → WrittenAsRead d outer)
    (h : PiecesRead d nested (readPlaceholderWithin d levels depth) position text rest run issues)
    (hissues : issues = []) (hevery : run.Every (Placeholder.Canonical d)) :
    run.written d = text := by
  induction h with
  | done _ => rfl
  | text _ _ ih =>
    have hinner := ih hissues (Run.every_prependText.mp hevery)
    simp [hinner]
  | braceEscape _ _ ih =>
    rw [Run.every_prependLiteral, Run.every_prependText] at hevery
    have hinner := ih hissues hevery
    simp [hinner]
  | charLiteral _ _ _ ih =>
    have hinner := ih hissues (Run.every_prependLiteral.mp hevery)
    simp [hinner]
  | doubledBrace _ _ ih =>
    rw [Run.every_prependText, Run.every_prependLiteral] at hevery
    have hinner := ih hissues hevery
    simp [hinner]
  | placeholder _ hread _ hraw _ ih =>
    obtain ⟨rfl, rfl⟩ := List.append_eq_nil_iff.mp hissues
    obtain ⟨hp, hrun⟩ := Run.every_prependPlaceholder.mp hevery
    obtain ⟨outer, rfl, hplaceholder⟩ := placeholderRead_of_readPlaceholderWithin hread hraw
    have hinner := ih rfl hrun
    have hwritten := hplaceholder.written_eq hd (hnested outer rfl) hp
    simp [hinner, hwritten]
  | malformed => simp at hissues
  | unmatched => cases hissues

theorem writtenAsRead (hd : d.UsualDelimiters) (levels : Nat) : WrittenAsRead d levels := by
  induction levels using levels_induction with
  | step levels ih =>
    intro nested depth position text rest run issues h
    exact h.written_eq hd ih

end Canonical

section Rereading

variable {d : Dialect} {levels depth position : Nat} {text rest rest' : List Char}

/-- If the alignment is zero, it may be left out: what comes behind it ends the path, and an opening
brace that is left alone with it does not escape it. -/
def Placeholder.Rewritable (d : Dialect) (p : Placeholder) : Prop :=
  p.alignment = 0 →
    d.isSelectorChar (d.behindAlignment p.name p.format) = false ∧
      (p.path = [""] →
        d.escapesBrace d.opening (some (d.behindAlignment p.name p.format)) = false)

/-- What is read within `levels` is read as the same from the text that it is written as. -/
def WrittenReads (d : Dialect) (levels : Nat) : Prop :=
  ∀ {nested depth position text rest run issues},
    PiecesRead d nested (readPlaceholderWithin d levels depth) position text rest run issues →
    issues = [] → run.Every (Placeholder.Rewritable d) →
    ∀ position' {rest'}, SameFront d rest rest' → d.EndsFormatAt nested rest' →
      SameFront d (text ++ rest) (run.written d ++ rest') ∧ ∃ run',
        PiecesRead d nested (readPlaceholderWithin d levels depth) position' (run.written d) rest'
          run' [] ∧ run.SameParts run'

theorem selectorsFrom_dropPlaces (index position position' : Nat) (path : List String) :
    (selectorsFrom d index position path).map (Selector.recast dropPlaces) =
      (selectorsFrom d index position' path).map (Selector.recast dropPlaces) := by
  induction path generalizing index position position' with
  | nil => rfl
  | cons text later ih =>
    rw [selectorsFrom, selectorsFrom, List.map_cons, List.map_cons, ih]
    rfl

theorem SpecificationRead.reread (hd : d.UsualDelimiters) (hnested : WrittenReads d levels)
    {spec : Specification} (h : SpecificationRead d depth (readNestedWithin d levels depth) position
      text (d.closing :: rest) spec [])
    (hevery : ∀ f, spec.format = some f → f.Every (Placeholder.Rewritable d)) (position' : Nat)
    (hrest : SameFront d rest rest') :
    ∃ spec', SpecificationRead d depth (readNestedWithin d levels depth) position' (spec.written d)
        (d.closing :: rest') spec' [] ∧
      spec'.nameAt.recast dropPlaces = spec.nameAt.recast dropPlaces ∧
      spec'.optionsAt.map (Excerpt.recast dropPlaces) =
        spec.optionsAt.map (Excerpt.recast dropPlaces) ∧
      recastNested dropPlaces spec'.format = recastNested dropPlaces spec.format := by
  have hbody : ∀ {start : Nat} {inner : List Char} {run : Run},
      readNestedWithin d levels depth start (inner ++ d.closing :: rest) = ⟨[], .ok run⟩ →
      run.stop = ⟨start + utf8Width inner, d.closing :: rest⟩ →
      run.Every (Placeholder.Rewritable d) → ∀ start',
      SameFront d (inner ++ d.closing :: rest) (run.written d ++ d.closing :: rest') ∧ ∃ run',
        readNestedWithin d levels depth start' (run.written d ++ d.closing :: rest') =
          ⟨[], .ok run'⟩ ∧
        run'.stop = ⟨start' + utf8Width (run.written d), d.closing :: rest'⟩ ∧
        run.SameParts run' := by
    intro start inner run hread hstop hrewritable start'
    have hpieces := piecesRead_of_readNestedWithin hread hstop
    have hclosing : d.isBrace d.closing = true := by simp [Dialect.isBrace]
    obtain ⟨hfront, run', hrun', hparts⟩ := hnested hpieces rfl hrewritable start'
      (.brace hclosing rest rest') (hpieces.endsFormatAt.of_sameFront hrest)
    exact ⟨hfront, run', hrun'.readPieces_eq, hrun'.stop_eq, hparts⟩
  cases h with
  | absent hmark => exact ⟨_, .absent hmark, rfl, rfl, rfl⟩
  | @format inner _ run _ hname hread hstop =>
    obtain ⟨hfront, run', hread', hstop', hparts⟩ := hbody hread hstop
      (Run.every_toFormat.mp (hevery _ rfl))
      (position' + d.formatMark.utf8Size)
    rw [← hfront.startsWithName hd] at hname
    have hwritten : Specification.written d ⟨.ofList (position + d.formatMark.utf8Size) [], none,
        some (run.toFormat (position + d.formatMark.utf8Size) depth), run.stop⟩ =
          d.formatMark :: run.written d := by
      simp [Specification.written, Specification.name, Placeholder.nameText, writtenNested]
    rw [hwritten]
    refine ⟨_, .format hname hread' hstop', rfl, rfl, ?_⟩
    exact congrArg some (hparts.toFormat _ _ depth)
  | @named start name inner _ run _ hname hmark hdistinct hstart hread hstop =>
    obtain ⟨-, run', hread', hstop', hparts⟩ := hbody hread hstop
      (Run.every_toFormat.mp (hevery _ rfl))
      (position' + utf8Width (d.formatMark :: name ++ [d.formatMark]))
    have hwritten : Specification.written d ⟨.ofList (position + d.formatMark.utf8Size) name, none,
        some (run.toFormat start depth), run.stop⟩ =
          d.formatMark :: name ++ [d.formatMark] ++ run.written d := by
      simp [Specification.written, Specification.name, Specification.options,
        Placeholder.nameText, Placeholder.optionsGroup, writtenNested, hname.nonempty]
    rw [hwritten]
    refine ⟨_, .named hname hmark hdistinct rfl hread' hstop', rfl, rfl, ?_⟩
    exact congrArg some (hparts.toFormat _ _ depth)
  | @options name options _ stop hname hopening hoptions hend hdistinct hstop =>
    have hwritten : Specification.written d ⟨.ofList (position + d.formatMark.utf8Size) name,
        some (.ofList (position + d.formatMark.utf8Size + utf8Width name +
          d.optionsOpening.utf8Size) options), none, stop⟩ =
          d.formatMark :: name ++ d.optionsOpening :: options ++ [d.optionsClosing] := by
      simp [Specification.written, Specification.name, Specification.options,
        Placeholder.nameText, Placeholder.optionsGroup, writtenNested, hname.nonempty]
    rw [hwritten]
    exact ⟨_, .options hname hopening ((readOptions_eq_some hoptions).2 _) rfl hdistinct rfl, rfl,
      rfl, rfl⟩
  | @optionsFormat start name options inner _ run _ hname hopening hoptions hstart hread hstop =>
    obtain ⟨-, run', hread', hstop', hparts⟩ := hbody hread hstop
      (Run.every_toFormat.mp (hevery _ rfl))
      (position' + utf8Width (d.formatMark :: name ++ d.optionsOpening :: options ++
        [d.optionsClosing, d.formatMark]))
    have hwritten : Specification.written d ⟨.ofList (position + d.formatMark.utf8Size) name,
        some (.ofList (position + d.formatMark.utf8Size + utf8Width name +
          d.optionsOpening.utf8Size) options), some (run.toFormat start depth), run.stop⟩ =
          d.formatMark :: name ++ d.optionsOpening :: options ++
            [d.optionsClosing, d.formatMark] ++ run.written d := by
      simp [Specification.written, Specification.name, Specification.options,
        Placeholder.nameText, Placeholder.optionsGroup, writtenNested, hname.nonempty]
    rw [hwritten]
    refine ⟨_, .optionsFormat hname hopening ((readOptions_eq_some hoptions).2 _) rfl hread' hstop',
      rfl, rfl, ?_⟩
    exact congrArg some (hparts.toFormat _ _ depth)

/-- What is written behind a path still ends it. Where it does not begin as it did, an alignment of
zero was left out. -/
theorem ends_written (hd : d.UsualDelimiters) {alignText tail tail' : List Char} {alignment : Int}
    (halign : AlignmentText d alignText alignment) (hend : d.EndsPathAt (alignText ++ tail))
    {c : Char} (hc : c = d.formatMark ∨ c = d.closing)
    (hselector : alignment = 0 → d.isSelectorChar c = false) (hhead : tail'.head? = some c) :
    d.EndsPathAt ((Placeholder.alignmentText d alignment).toList ++ tail') ∧
      d.EndsAlignmentAt (Placeholder.alignmentText d alignment).toList tail' ∧
      (((Placeholder.alignmentText d alignment).toList ++ tail').head? =
          (alignText ++ tail).head? ∨
        alignment = 0 ∧
          ((Placeholder.alignmentText d alignment).toList ++ tail').head? = some c) := by
  obtain ⟨cs, rfl⟩ := List.head?_eq_some_iff.mp hhead
  have halignEnd := hd.endsAlignmentAt (Placeholder.alignmentText d alignment).toList cs hc
  by_cases ha : alignment = 0
  · have hwritten : (Placeholder.alignmentText d alignment).toList = [] := by
      rw [toList_alignmentText, if_pos ha]
    rw [hwritten] at halignEnd ⊢
    exact ⟨hd.endsPathAt cs (.inr hc) (hselector ha), halignEnd, .inr ⟨ha, rfl⟩⟩
  · have hwritten : (Placeholder.alignmentText d alignment).toList.head? =
        some d.alignmentMark := by
      rw [toList_alignmentText, if_neg ha]
      rfl
    obtain ⟨digits, rfl⟩ : ∃ digits, alignText = d.alignmentMark :: digits := by
      cases halign with
      | absent => exact absurd rfl ha
      | written _ _ _ _ _ => exact ⟨_, rfl⟩
    obtain ⟨digits', hdigits'⟩ := List.head?_eq_some_iff.mp hwritten
    rw [hdigits'] at halignEnd ⊢
    exact ⟨hend.of_head? rfl, halignEnd, .inl rfl⟩

theorem PlaceholderRead.reread (hd : d.UsualDelimiters) (hnested : WrittenReads d levels)
    {body : List Char} {p : Placeholder}
    (h : PlaceholderRead d depth (readNestedWithin d levels depth) position body rest p [])
    (hevery : p.Every (Placeholder.Rewritable d)) (position' : Nat)
    (hrest : SameFront d rest rest') :
    ∃ body' q, (p.written d).toList = d.opening :: body' ∧
      PlaceholderRead d depth (readNestedWithin d levels depth) position' body' rest' q [] ∧
      q.recast dropPlaces = p.recast dropPlaces ∧
      ((body' ++ rest').head? = (body ++ rest).head? ∨
        d.escapesBrace d.opening (body' ++ rest').head? = false ∧
          (body' ++ rest').head? ≠ some d.opening) := by
  cases h with
  | @intro pathText alignText specText _ path alignment spec _ hpath hpathEnd halign _ hspec =>
    have hrewritable := hevery.1
    obtain ⟨spec', hspec', hname, hoptions, hformat⟩ := hspec.reread hd hnested hevery.2
      (position' + d.opening.utf8Size + utf8Width pathText +
        utf8Width (Placeholder.alignmentText d alignment).toList) hrest
    have hc := d.behindAlignment_eq spec.name spec.format
    obtain ⟨hpathEnd', halignEnd', hfirst⟩ := ends_written hd halign hpathEnd hc
      (fun hzero => (hrewritable hzero).1) (hspec.head?_eq rest').2
    refine ⟨pathText ++ (Placeholder.alignmentText d alignment).toList ++ spec.written d ++
      [d.closing], _, toList_written_placeholder hpath,
      .intro hpath hpathEnd' halign.alignmentText halignEnd' hspec', ?_, ?_⟩
    · have hselectors := selectorsFrom_dropPlaces (d := d) 0 (position' + d.opening.utf8Size)
        (position + d.opening.utf8Size) path
      simp only [Placeholder.recast, hname, hoptions, hformat, hselectors]
      rfl
    · cases pathText with
      | nil =>
        simp only [List.nil_append, List.append_assoc, List.cons_append]
        rcases hfirst with hsame | ⟨hzero, hfirst⟩
        · exact .inl hsame
        · rw [hfirst]
          have hempty : path = [""] := hpath.eq_nil_iff.mp rfl
          refine .inr ⟨(hrewritable hzero).2 ((selectorsFrom_text _ _ _).trans hempty), ?_⟩
          rw [hd.formatMark, hd.closing] at hc
          rw [hd.opening]
          rcases hc with hc | hc <;> simp [hc]
      | cons b pathText => exact .inl rfl

theorem Dialect.role_opening_of (hd : d.UsualDelimiters) {nested : Bool} {next next' : Option Char}
    (hrole : d.role nested d.opening next = .opening)
    (h : next' = next ∨ d.escapesBrace d.opening next' = false ∧ next' ≠ some d.opening) :
    d.role nested d.opening next' = .opening := by
  rcases h with rfl | ⟨hescape, hnext⟩
  · exact hrole
  · have hmark : d.opening ≠ escapeMark := by
      rw [hd.opening]
      decide
    simp [role, hescape, hmark, hnext]

theorem PiecesRead.reread (hd : d.UsualDelimiters) {nested : Bool} {run : Run}
    {issues : List Issue} (hnested : ∀ outer, levels = outer + 1 → WrittenReads d outer)
    (h : PiecesRead d nested (readPlaceholderWithin d levels depth) position text rest run issues)
    (hissues : issues = []) (hevery : run.Every (Placeholder.Rewritable d)) (position' : Nat)
    (hrest : SameFront d rest rest') (hend : d.EndsFormatAt nested rest') :
    SameFront d (text ++ rest) (run.written d ++ rest') ∧ ∃ run',
      PiecesRead d nested (readPlaceholderWithin d levels depth) position' (run.written d) rest'
        run' [] ∧ run.SameParts run' := by
  -- What a character begins may depend on those behind it, which are read again before it is.
  induction h generalizing position' with
  | done _ => exact ⟨hrest, _, .done hend, rfl, rfl⟩
  | @text _ c _ _ _ _ hrole _ ih =>
    rw [Run.every_prependText] at hevery
    obtain ⟨hfront, run', hrun', hparts⟩ := ih hissues hevery (position' + c.utf8Size) hrest
    rw [Run.written_prependText]
    rw [← hfront.head?_eq] at hrole
    exact ⟨hfront.append [c], _, .text hrole hrun', hparts.prependText [c]⟩
  | @braceEscape _ c b _ _ _ _ hrole _ ih =>
    rw [Run.every_prependLiteral, Run.every_prependText] at hevery
    obtain ⟨hfront, run', hrun', hparts⟩ := ih hissues hevery
      (position' + c.utf8Size + b.utf8Size) hrest
    rw [Run.written_prependLiteral, Run.written_prependText]
    exact ⟨hfront.append [c, b], _, .braceEscape hrole hrun',
      (hparts.prependText [b]).prependLiteral _ _ [c] _⟩
  | @charLiteral _ c body inner rest run _ hrole hbody _ ih =>
    obtain ⟨hfront, run', hrun', hparts⟩ := ih hissues (Run.every_prependLiteral.mp hevery)
      (position' + c.utf8Size + utf8Width body) hrest
    rw [Run.written_prependLiteral]
    have hfront' := hfront.append body
    rw [← hfront'.head?_eq] at hrole
    rw [← hfront'.extent_eq hd] at hbody
    refine ⟨?_, _, .charLiteral hrole hbody hrun', hparts.prependLiteral _ _ (c :: body) _⟩
    simpa using hfront.append (c :: body)
  | @doubledBrace _ c _ _ _ _ hrole _ ih =>
    rw [Run.every_prependText, Run.every_prependLiteral] at hevery
    obtain ⟨hfront, run', hrun', hparts⟩ := ih hissues hevery
      (position' + c.utf8Size + c.utf8Size) hrest
    rw [Run.written_prependText, Run.written_prependLiteral]
    exact ⟨hfront.append [c, c], _, .doubledBrace hrole hrun',
      (hparts.prependLiteral _ _ [c] _).prependText [c]⟩
  | @placeholder _ body inner rest p run _ _ hrole hread _ hraw _ ih =>
    obtain ⟨rfl, rfl⟩ := List.append_eq_nil_iff.mp hissues
    obtain ⟨hp, hrun⟩ := Run.every_prependPlaceholder.mp hevery
    obtain ⟨outer, rfl, hplaceholder⟩ := placeholderRead_of_readPlaceholderWithin hread hraw
    -- The new length of `p` is known only once it is read, and what is behind it only then.
    have hfront : SameFront d (inner ++ rest) (run.written d ++ rest') :=
      (ih rfl hrun position' hrest).1
    obtain ⟨body', q, hwritten, hreread, hparts, hhead⟩ :=
      hplaceholder.reread hd (hnested outer rfl) hp position' hfront
    obtain ⟨-, run', hrun', hrunParts⟩ := ih rfl hrun q.stop hrest
    rw [Run.written_prependPlaceholder, hwritten]
    have hopening : d.isBrace d.opening = true := by simp [Dialect.isBrace]
    refine ⟨?_, _, .placeholder (Dialect.role_opening_of hd hrole hhead)
      (readPlaceholderWithin_eq_ok_iff.mpr ⟨outer, body', _, rfl, rfl, hreread⟩)
      hreread.start_eq hreread.raw_eq hrun', hrunParts.prependPlaceholder hparts⟩
    simpa using
      SameFront.brace hopening (body ++ (inner ++ rest)) (body' ++ (run.written d ++ rest'))
  | malformed => simp at hissues
  | unmatched => cases hissues

theorem writtenReads (hd : d.UsualDelimiters) (levels : Nat) : WrittenReads d levels := by
  induction levels using levels_induction with
  | step levels ih =>
    intro nested depth position text rest run issues h hissues hevery position' rest' hrest hend
    exact h.reread hd ih hissues hevery position' hrest hend

end Rereading

section LeavingOut

variable {d : Dialect} {levels depth position : Nat} {text rest : List Char}

/-- What is read within `levels` is never written longer than it was. If it is not written shorter
either, no alignment of zero was left out, and what the text had in its place may stand there. -/
def WrittenNoLonger (d : Dialect) (levels : Nat) : Prop :=
  ∀ {nested depth position text rest run issues},
    PiecesRead d nested (readPlaceholderWithin d levels depth) position text rest run issues →
    issues = [] → (run.written d).length ≤ text.length ∧
      ((run.written d).length = text.length → run.Every (Placeholder.Rewritable d))

theorem SpecificationRead.length_written_le (hnested : WrittenNoLonger d levels)
    {spec : Specification}
    (h : SpecificationRead d depth (readNestedWithin d levels depth) position text rest spec []) :
    (spec.written d).length ≤ text.length ∧ ((spec.written d).length = text.length →
      ∀ f, spec.format = some f → f.Every (Placeholder.Rewritable d)) := by
  rcases h.written_cases with ⟨hnone, hwritten⟩ |
    ⟨front, inner, start, run, rfl, hwritten, hformat, hread⟩
  · rw [hwritten]
    refine ⟨Nat.le_refl _, fun _ f hf => ?_⟩
    rw [hnone] at hf
    cases hf
  · obtain ⟨hle, hevery⟩ := hnested hread rfl
    rw [hwritten, List.length_append, List.length_append]
    refine ⟨by omega, fun hlength f hf => ?_⟩
    rw [hformat] at hf
    cases hf
    exact Run.every_toFormat.mpr (hevery (by omega))

theorem PlaceholderRead.length_written_le (hnested : WrittenNoLonger d levels) {nested : Bool}
    {body : List Char} {p : Placeholder}
    (h : PlaceholderRead d depth (readNestedWithin d levels depth) position body rest p [])
    (hrole : d.role nested d.opening (body ++ rest).head? = .opening) :
    (p.written d).toList.length ≤ body.length + 1 ∧
      ((p.written d).toList.length = body.length + 1 → p.Every (Placeholder.Rewritable d)) := by
  cases h with
  | @intro pathText alignText specText _ path alignment spec _ hpath hpathEnd halign _ hspec =>
    have halignLength := halign.length_le
    obtain ⟨hspecLength, hspecEvery⟩ := hspec.length_written_le hnested
    rw [toList_written_placeholder hpath]
    simp only [List.length_cons, List.length_append, List.length_nil]
    refine ⟨by omega, fun hlength => ⟨fun hzero => ?_, hspecEvery (by omega)⟩⟩
    -- An alignment of zero is never written, so here none was read.
    have halignText : alignText = [] := by
      have hnone : (Placeholder.alignmentText d alignment).toList = [] := by
        rw [toList_alignmentText, if_pos hzero]
      apply List.eq_nil_of_length_eq_zero
      rw [hnone] at hlength
      simp only [List.length_nil] at hlength
      omega
    subst halignText
    have hhead := (hspec.head?_eq rest).1
    constructor
    · obtain ⟨c, cs, hcs, hc, -⟩ := hpathEnd
      rw [List.nil_append] at hcs
      rw [hcs] at hhead
      cases hhead
      exact hc
    · intro hempty
      rw [Placeholder.path, selectorsFrom_text] at hempty
      obtain rfl := hpath.eq_nil_iff.mpr hempty
      have hescape := Dialect.escapesBrace_of_opening hrole
      have hfirst : ([] ++ [] ++ specText ++ [d.closing] ++ rest).head? =
          some (d.behindAlignment spec.name spec.format) := by
        rw [← hhead]
        simp
      rwa [hfirst] at hescape

theorem PiecesRead.length_written_le {nested : Bool} {run : Run} {issues : List Issue}
    (hnested : ∀ outer, levels = outer + 1 → WrittenNoLonger d outer)
    (h : PiecesRead d nested (readPlaceholderWithin d levels depth) position text rest run issues)
    (hissues : issues = []) :
    (run.written d).length ≤ text.length ∧
      ((run.written d).length = text.length → run.Every (Placeholder.Rewritable d)) := by
  induction h with
  | done _ => exact ⟨Nat.le_refl _, fun _ p hp => by cases hp⟩
  | text _ _ ih =>
    obtain ⟨hle, hevery⟩ := ih hissues
    rw [Run.written_prependText, Run.every_prependText]
    simp only [List.length_append, List.length_cons, List.length_nil]
    exact ⟨by omega, fun hlength => hevery (by omega)⟩
  | braceEscape _ _ ih =>
    obtain ⟨hle, hevery⟩ := ih hissues
    rw [Run.written_prependLiteral, Run.written_prependText, Run.every_prependLiteral,
      Run.every_prependText]
    simp only [List.length_append, List.length_cons, List.length_nil]
    exact ⟨by omega, fun hlength => hevery (by omega)⟩
  | charLiteral _ _ _ ih =>
    obtain ⟨hle, hevery⟩ := ih hissues
    rw [Run.written_prependLiteral, Run.every_prependLiteral]
    simp only [List.length_append, List.length_cons]
    exact ⟨by omega, fun hlength => hevery (by omega)⟩
  | doubledBrace _ _ ih =>
    obtain ⟨hle, hevery⟩ := ih hissues
    rw [Run.written_prependText, Run.written_prependLiteral, Run.every_prependText,
      Run.every_prependLiteral]
    simp only [List.length_append, List.length_cons, List.length_nil]
    exact ⟨by omega, fun hlength => hevery (by omega)⟩
  | placeholder hrole hread _ hraw _ ih =>
    obtain ⟨rfl, rfl⟩ := List.append_eq_nil_iff.mp hissues
    obtain ⟨hle, hevery⟩ := ih rfl
    obtain ⟨outer, rfl, hplaceholder⟩ := placeholderRead_of_readPlaceholderWithin hread hraw
    obtain ⟨hpLe, hpEvery⟩ := hplaceholder.length_written_le (hnested outer rfl) hrole
    rw [Run.written_prependPlaceholder, Run.every_prependPlaceholder]
    simp only [List.length_append, List.length_cons]
    exact ⟨by omega, fun hlength => ⟨hpEvery (by omega), hevery (by omega)⟩⟩
  | malformed => simp at hissues
  | unmatched => cases hissues

theorem writtenNoLonger (d : Dialect) (levels : Nat) : WrittenNoLonger d levels := by
  induction levels using levels_induction with
  | step levels ih =>
    intro nested depth position text rest run issues h hissues
    exact h.length_written_le ih hissues

theorem Placeholder.Rewritable.of_recast {p q : Placeholder}
    (hpq : q.recast dropPlaces = p.recast dropPlaces) (h : p.Rewritable d) : q.Rewritable d := by
  have hpath := congrArg Placeholder.path hpq
  have halignment := congrArg Placeholder.alignment hpq
  have hname := congrArg Placeholder.name hpq
  have hformat := congrArg (fun p => p.format.isNone) hpq
  simp only [Placeholder.path_recast, Placeholder.alignment_recast, Placeholder.name_recast,
    Placeholder.format_recast, isNone_recastNested] at hpath halignment hname hformat
  simpa only [Placeholder.Rewritable, Dialect.behindAlignment, hpath, halignment, hname, hformat]
    using h

/-- With the delimiters of no selector, and no brace to escape another, all may be left out. -/
theorem Placeholder.rewritable (hd : d.UsualDelimiters) (hmark : d.formatMark ∉ d.selectorExtras)
    (hclosing : d.closing ∉ d.selectorExtras) (hescape : d.escape ≠ some d.opening)
    (p : Placeholder) : p.Rewritable d := by
  intro _
  constructor
  · rcases d.behindAlignment_eq p.name p.format with hc | hc
    · rw [hc]
      exact isSelectorChar_of_not_mem (by rw [hd.formatMark]; decide) hmark
    · rw [hc]
      exact isSelectorChar_of_not_mem (by rw [hd.closing]; decide) hclosing
  · intro _
    have hopening : d.opening ≠ escapeMark := by
      rw [hd.opening]
      decide
    simp [Dialect.escapesBrace, hescape, hopening]

end LeavingOut

section Templates

variable {d : Dialect} {text : String} {t : Template}

theorem Template.toList_written (run : Run) (issues : List Issue) :
    (Template.written ⟨d, run.toFormat 0 0, issues⟩).toList = run.written d := by
  simp [Template.written]

/-- A template without malformed parts is read from what it is written as, and as the same tree but
for places, exactly if all its alignments of zero may be left out. Where all its alignments are
canonical, it is written as it was read. -/
theorem parse_written (hd : d.UsualDelimiters) (h : Template.parse d text = .ok t)
    (hissues : t.issues = []) :
    (t.format.Every (Placeholder.Rewritable d) ↔ ∃ u, Template.parse d t.written = .ok u ∧
      u.issues = [] ∧ u.format.recast dropPlaces = t.format.recast dropPlaces ∧
        u.written = t.written) ∧
    (t.format.Every (Placeholder.Canonical d) → t.written = text) := by
  obtain ⟨run, issues, rfl, hread⟩ := parse_eq_ok_iff.mp h
  refine ⟨⟨fun hevery => ?_, ?_⟩, fun hevery => ?_⟩
  · obtain ⟨-, run', hrun', hparts⟩ := writtenReads hd d.maxDepth hread hissues
      (Run.every_toFormat.mp hevery) 0 (.inl rfl) (.inl rfl)
    rw [← Template.toList_written run issues] at hrun'
    refine ⟨_, parse_eq_ok_iff.mpr ⟨run', [], rfl, hrun'⟩, rfl, hparts.toFormat 0 0 0, ?_⟩
    simp only [Template.written]
    rw [← Format.written_dropPlaces, hparts.toFormat 0 0 0, Format.written_dropPlaces]
  · rintro ⟨u, hu, huIssues, hsame, hwritten⟩
    obtain ⟨run', issues', rfl, hread'⟩ := parse_eq_ok_iff.mp hu
    have hlength : (run'.written d).length = ((Template.written
        ⟨d, run.toFormat 0 0, issues⟩).toList).length := by
      rw [← hwritten, Template.toList_written]
    have hevery := (writtenNoLonger d d.maxDepth hread' huIssues).2 hlength
    apply Format.Every.of_recast (fun _ _ hpq => Placeholder.Rewritable.of_recast hpq) hsame.symm
    exact Run.every_toFormat.mpr hevery
  · rw [← String.toList_inj, Template.toList_written]
    exact writtenAsRead hd d.maxDepth hread hissues (Run.every_toFormat.mp hevery)

/-- Without `:` in selectors an alignment of zero may be left out, here at two depths. -/
theorem parse_written_nested :
    Dialect.UsualDelimiters { selectorExtras := ['-'], charLiterals := true } ∧
      ∃ t u, Template.parse { selectorExtras := ['-'], charLiterals := true }
          "{{{a-b,007:choose(x):{,0}|{c,-0:d}}}}\\n" = .ok t ∧ t.issues = [] ∧
        Template.parse { selectorExtras := ['-'], charLiterals := true } t.written = .ok u ∧
        u.issues = [] ∧ u.format.recast dropPlaces = t.format.recast dropPlaces := by
  have hd : Dialect.UsualDelimiters { selectorExtras := ['-'], charLiterals := true } :=
    ⟨rfl, rfl, rfl, rfl, rfl, rfl, rfl⟩
  have hany : (Template.parse { selectorExtras := ['-'], charLiterals := true }
      "{{{a-b,007:choose(x):{,0}|{c,-0:d}}}}\\n").toOption.any (·.issues.isEmpty) = true := by
    decide +kernel
  obtain ⟨t, hread, hempty⟩ := exists_parse_of_any hany
  have hissues : t.issues = [] := List.isEmpty_iff.mp hempty
  have hevery : t.format.Every (Placeholder.Rewritable _) := fun _ _ p _ =>
    p.rewritable hd (by decide) (by decide) (by decide)
  obtain ⟨u, hu, huIssues, hsame, -⟩ := (parse_written hd hread hissues).1.mp hevery
  exact ⟨hd, t, u, hread, hissues, hu, huIssues, hsame⟩

/-- Where `:` may stand in selectors, `{a,0:{b}}` is written `{a:{b}}`, which has no format. -/
theorem parse_written_selector_mark :
    ¬ ∀ (d : Dialect) (text : String) (t : Template), d.UsualDelimiters →
      Template.parse d text = .ok t → t.issues = [] →
      ∃ u, Template.parse d t.written = .ok u ∧ u.issues = [] ∧
        u.format.recast dropPlaces = t.format.recast dropPlaces ∧ u.written = t.written := by
  intro hclaim
  have hany : (Template.parse { selectorExtras := [':'] } "{a,0:{b}}").toOption.any (fun t =>
      t.issues.isEmpty && !(Template.parse { selectorExtras := [':'] } t.written).isOk) = true := by
    decide +kernel
  obtain ⟨t, hread, hfails⟩ := exists_parse_of_any hany
  rw [Bool.and_eq_true, List.isEmpty_iff] at hfails
  obtain ⟨u, hu, -⟩ := hclaim { selectorExtras := [':'] } "{a,0:{b}}" t
    ⟨rfl, rfl, rfl, rfl, rfl, rfl, rfl⟩ hread hfails.1
  rw [hu] at hfails
  cases hfails.2

end Templates

end Stencil
