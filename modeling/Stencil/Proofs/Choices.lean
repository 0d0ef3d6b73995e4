import Stencil.Proofs.Options
import Stencil.Proofs.Reading.Delimiters
import Stencil.Proofs.Render.Alone
import Stencil.Proofs.Render.Scripts
import Stencil.Proofs.Session.Reached

/-!
# Choosing among written options

Any texts can be written as the options of a placeholder, with a backslash before what has a meaning
there, and are the options that it chooses by. The value picks the section of the first option that
its text agrees with; where no section can be picked, the placeholder fails.
-/

namespace Stencil

set_option autoImplicit false

namespace Formatter

/-- What is not taken for itself in options. -/
def optionMarks : List Char := ['\\', '|', '(', ')', '{', '}', ':', ',']

def optionToken (c : Char) : List Char := if c ∈ optionMarks then ['\\', c] else [c]

def optionTokens (option : String) : List (List Char) := option.toList.map optionToken

/-- An option with a backslash before every character that has a meaning. -/
def writtenOption (option : String) : String :=
  String.ofList (option.toList.flatMap optionToken)

def writtenOptions (options : List String) : String :=
  "|".intercalate (options.map writtenOption)

def writtenTokens (options : List String) : List (List Char) :=
  [[sectionMark]].intercalate (options.map optionTokens)

/-- A token of written options: a character that is itself, or one behind a backslash. -/
def IsWrittenToken (token : List Char) : Prop :=
  (∃ c, c ≠ escapeMark ∧ c ≠ '(' ∧ c ≠ ')' ∧ token = [c]) ∨ ∃ c, c ≠ 'u' ∧ token = [escapeMark, c]

section Written

variable {options : List String} {option : String} {tokens : List (List Char)} {token : List Char}

theorem toList_writtenOption (option : String) :
    (writtenOption option).toList = (optionTokens option).flatten := by
  simp [writtenOption, optionTokens, List.flatMap_def]

theorem toList_writtenOptions (options : List String) :
    (writtenOptions options).toList = (writtenTokens options).flatten := by
  have hflatten := flatMap_intercalate id [sectionMark] (options.map optionTokens)
  rw [List.flatMap_id] at hflatten
  rw [writtenOptions, writtenTokens, hflatten, String.toList_intercalate, List.map_map,
    List.map_map]
  simp only [Function.comp_def, toList_writtenOption, List.flatMap_id]
  rfl

theorem mem_optionTokens (htoken : token ∈ optionTokens option) :
    (∃ c ∈ optionMarks, token = [escapeMark, c]) ∨ ∃ c, c ∉ optionMarks ∧ token = [c] := by
  obtain ⟨c, -, rfl⟩ := List.mem_map.mp htoken
  by_cases hc : c ∈ optionMarks
  · exact .inl ⟨c, hc, if_pos hc⟩
  · exact .inr ⟨c, hc, if_neg hc⟩

theorem isWrittenToken_of_mem (htoken : token ∈ writtenTokens options) : IsWrittenToken token := by
  rcases mem_intercalate htoken with rfl | ⟨l, hl, htoken⟩
  · exact .inl ⟨sectionMark, by decide, by decide, by decide, rfl⟩
  · obtain ⟨option, -, rfl⟩ := List.mem_map.mp hl
    rcases mem_optionTokens htoken with ⟨c, hc, rfl⟩ | ⟨c, hc, rfl⟩
    · have hu : ∀ c ∈ optionMarks, c ≠ 'u' := by simp [optionMarks]
      exact .inr ⟨c, hu c hc, rfl⟩
    · have hne (mark : Char) (hmark : mark ∈ optionMarks) : c ≠ mark := fun h => hc (h ▸ hmark)
      exact .inl ⟨c, hne _ (by decide), hne _ (by decide), hne _ (by decide), rfl⟩

theorem lexed_of_isWrittenToken (h : ∀ token ∈ tokens, IsWrittenToken token) :
    CharLiteral.Lexed tokens.flatten tokens := by
  induction tokens with
  | nil => exact .nil
  | cons token tokens ih =>
    have hlater := ih fun t ht => h t (List.mem_cons_of_mem _ ht)
    rcases h token List.mem_cons_self with ⟨c, hmark, -, -, rfl⟩ | ⟨c, hu, rfl⟩
    · exact .plain hmark hlater
    · exact .sequence (.sign hu) hlater

/-- Among written options no delimiter of options stands for itself. -/
theorem optionsText_of_isWrittenToken {d : Dialect} (hd : d.UsualDelimiters)
    (h : ∀ token ∈ tokens, IsWrittenToken token) : OptionsText d tokens.flatten := by
  induction tokens with
  | nil => exact .empty
  | cons token tokens ih =>
    have hlater := ih fun t ht => h t (List.mem_cons_of_mem _ ht)
    rcases h token List.mem_cons_self with ⟨c, hmark, hopening, hclosing, rfl⟩ | ⟨c, -, rfl⟩
    · exact .plain c hmark (hd.optionsOpening ▸ hopening) (hd.optionsClosing ▸ hclosing) hlater
    · exact .guarded c hlater

theorem resolved_optionToken (c : Char) : CharLiteral.resolved true (optionToken c) = [c] := by
  by_cases hc : c ∈ optionMarks
  · have hmarks : optionMarks.all (fun c => CharLiteral.resolved true ['\\', c] == [c]) = true := by
      decide
    rw [optionToken, if_pos hc]
    exact beq_iff_eq.mp (List.all_eq_true.mp hmarks c hc)
  · have hmark : c ≠ escapeMark := fun h => hc (h ▸ by decide)
    rw [optionToken, if_neg hc, CharLiteral.resolved, if_neg hmark]

theorem resolved_optionTokens (option : String) :
    (optionTokens option).flatMap (CharLiteral.resolved true) = option.toList := by
  simp [optionTokens, List.flatMap_map, resolved_optionToken]

/-- Options that were written are read back. -/
theorem splitOptions_writtenOptions (hoptions : options ≠ []) :
    splitOptions (writtenOptions options) = options := by
  have hlexed : CharLiteral.Lexed (writtenOptions options).toList (writtenTokens options) := by
    rw [toList_writtenOptions]
    exact lexed_of_isWrittenToken fun token => isWrittenToken_of_mem
  have hseparate : ∀ l ∈ options.map optionTokens, [sectionMark] ∉ l := by
    intro l hl hmem
    obtain ⟨option, -, rfl⟩ := List.mem_map.mp hl
    rcases mem_optionTokens hmem with ⟨c, -, heq⟩ | ⟨c, hc, heq⟩
    · cases heq
    · cases heq
      exact hc (by decide)
  rw [hlexed.splitOptions_eq, writtenTokens,
    List.splitOn_intercalate _ hseparate (by simpa using hoptions), List.map_map]
  simp [Function.comp_def, resolved_optionTokens]

end Written

end Formatter

section Reading

variable {d : Dialect}

/-- With `front` before it and a closing brace behind it, at the end of the template, `text` is read
as the format `f` nested in a placeholder that is in no other. -/
def ReadAsNested (d : Dialect) (front text : List Char) (f : Format) (issues : List Issue) : Prop :=
  ∃ levels run, d.maxDepth = levels + 1 ∧
    readNestedWithin d levels 1 (utf8Width front) (text ++ [d.closing]) = ⟨issues, .ok run⟩ ∧
      run.stop.rest = [d.closing] ∧ f = run.toFormat (utf8Width front) 1

/-- A text of which all is read as one placeholder is a template of that alone. -/
theorem parse_of_readPlaceholder (body : List Char) {p : Placeholder} {issues : List Issue}
    (hrole : d.role false d.opening body.head? = .opening)
    (hread : readPlaceholderWithin d d.maxDepth 1 0 body = ⟨issues, .ok p⟩) (hstart : p.start = 0)
    (hraw : p.raw = String.ofList (d.opening :: body)) :
    Template.parse d p.raw = .ok ⟨d, ⟨0, 0, [.placeholder p]⟩, issues⟩ := by
  have hpieces : PiecesRead d false (readPlaceholderWithin d d.maxDepth 1) 0
      (d.opening :: body ++ []) [] _ _ :=
    .placeholder (by simpa using hrole) (by simpa using hread) hstart hraw (.done (.inl rfl))
  rw [parse_eq_ok_iff]
  refine ⟨Run.prependPlaceholder p ⟨[], [], ⟨p.stop, []⟩⟩, issues, rfl, ?_⟩
  simpa [hraw] using hpieces

/-- A nested format can be read by evaluation. -/
theorem exists_readAsNested (front text : List Char) (check : Format → Bool) {levels : Nat}
    (hdepth : d.maxDepth = levels + 1)
    (h : (match readNestedWithin d levels 1 (utf8Width front) (text ++ [d.closing]) with
      | ⟨issues, .ok run⟩ => issues.isEmpty && run.stop.rest == [d.closing] &&
          check (run.toFormat (utf8Width front) 1)
      | ⟨_, .error _⟩ => false) = true) :
    ∃ f, ReadAsNested d front text f [] ∧ check f = true := by
  split at h
  · rename_i issues run hread
    simp only [Bool.and_eq_true, List.isEmpty_iff, beq_iff_eq] at h
    obtain ⟨⟨rfl, hstop⟩, hcheck⟩ := h
    exact ⟨_, ⟨levels, run, hdepth, hread, hstop, rfl⟩, hcheck⟩
  · cases h

namespace Choice

/-- A placeholder for the first argument that chooses among options, up to its sections. -/
def front (options : List String) : List Char :=
  ['{', '0'] ++
    (':' :: "choose".toList ++ '(' :: (Formatter.writtenOptions options).toList ++ [')', ':'])

def text (options : List String) (sections : List Char) : String :=
  String.ofList (front options ++ sections ++ ['}'])

/-- The options as they stand in the text, behind `{0:choose(`. -/
def writtenAt (options : List String) : Excerpt where
  start := 10
  stop := 10 + (Formatter.writtenOptions options).utf8ByteSize
  text := Formatter.writtenOptions options

def placeholder (options : List String) (sections : List Char) (f : Format) : Placeholder where
  start := 0
  depth := 1
  raw := text options sections
  selectors := [⟨0, 1, 1, 2, "", "0"⟩]
  alignment := 0
  nameAt := .ofList 3 "choose".toList
  optionsAt := some (writtenAt options)
  format := some f

variable {options : List String} {sections : List Char} {f : Format} {issues : List Issue}

theorem formatterName (haccepted : d.acceptsName "choose" = true) :
    FormatterName d "choose".toList :=
  ⟨by decide, List.all_eq_true.mp (by decide), haccepted⟩

theorem readOptions_writtenOptions (hd : d.UsualDelimiters) (options : List String)
    (rest : List Char) :
    readOptions d false 0 ((Formatter.writtenOptions options).toList ++ d.optionsClosing :: rest) =
      some ((Formatter.writtenOptions options).toList, rest) := by
  rw [readOptions_eq_some_iff (by rw [hd.optionsOpening]; decide)
    (by rw [hd.optionsClosing]; decide) (by rw [hd.optionsClosing, hd.optionsOpening]; decide)]
  refine ⟨rfl, ?_⟩
  rw [Formatter.toList_writtenOptions]
  exact Formatter.optionsText_of_isWrittenToken hd fun token => Formatter.isWrittenToken_of_mem

theorem specificationRead (hd : d.UsualDelimiters) (haccepted : d.acceptsName "choose" = true)
    {levels : Nat} {run : Run} {position : Nat} (hposition : position = utf8Width ['{', '0'])
    (hread : readNestedWithin d levels 1 (utf8Width (front options)) (sections ++ [d.closing]) =
      ⟨issues, .ok run⟩) (hstop : run.stop.rest = [d.closing]) :
    SpecificationRead d 1 (readNestedWithin d levels 1) position
      (d.formatMark :: "choose".toList ++ d.optionsOpening ::
        (Formatter.writtenOptions options).toList ++ [d.optionsClosing, d.formatMark] ++ sections)
      [d.closing]
      { nameAt := .ofList 3 "choose".toList
        optionsAt := some (writtenAt options)
        format := some (run.toFormat (utf8Width (front options)) 1)
        stop := run.stop } issues := by
  have hopening : isNameChar d.optionsOpening = false := by
    rw [hd.optionsOpening]
    exact isNameChar_of_mem_delimiters '(' (by decide)
  have hname : 3 = position + d.formatMark.utf8Size := by
    rw [hposition, hd.formatMark]
    rfl
  have hoptions : writtenAt options = .ofList (position + d.formatMark.utf8Size +
      utf8Width "choose".toList + d.optionsOpening.utf8Size)
      (Formatter.writtenOptions options).toList := by
    rw [← hname, hd.optionsOpening, Excerpt.ofList, utf8Width_toList (Formatter.writtenOptions _),
      String.ofList_toList]
    rfl
  rw [hoptions, hname]
  refine .optionsFormat (formatterName haccepted) hopening
    (readOptions_writtenOptions hd options _) ?_ hread ?_
  · rw [front, utf8Width_append, hposition, hd.formatMark, hd.optionsOpening, hd.optionsClosing]
  · obtain ⟨taken, rest, htext, hwhere⟩ :=
      takesText_readPieces (keepsText_readPlaceholderWithin levels 2) hread
    obtain rfl : rest = [d.closing] := by rw [← hstop, hwhere]
    rw [hwhere, List.append_cancel_right htext]

theorem placeholderRead (hd : d.UsualDelimiters) (hextras : ':' ∉ d.selectorExtras)
    (haccepted : d.acceptsName "choose" = true) {levels : Nat} {run : Run}
    (hread : readNestedWithin d levels 1 (utf8Width (front options)) (sections ++ [d.closing]) =
      ⟨issues, .ok run⟩) (hstop : run.stop.rest = [d.closing]) :
    PlaceholderRead d 1 (readNestedWithin d levels 1) 0 ((front options).tail ++ sections ++ ['}'])
      [] (placeholder options sections (run.toFormat (utf8Width (front options)) 1)) issues := by
  have hdigit : PathText d ['0'] ["0"] := by
    have hzero : isAlphanumeric '0' = true := by decide
    exact .selectors ['0'] [] (by simp [Dialect.isSelectorChar, hzero]) (by simp)
  have hmark : d.isSelectorChar d.formatMark = false := by
    rw [hd.formatMark]
    exact isSelectorChar_of_not_mem (by decide) hextras
  have hposition : 0 + d.opening.utf8Size + utf8Width ['0'] + utf8Width [] =
      utf8Width ['{', '0'] := by
    rw [hd.opening]
    rfl
  have hselectors : selectorsFrom d 0 (0 + d.opening.utf8Size) ["0"] =
      [⟨0, 1, 1, 2, "", "0"⟩] := by
    rw [hd.opening]
    rfl
  have hspec := specificationRead hd haccepted hposition hread hstop
  have hplaceholder := PlaceholderRead.intro hdigit (hd.endsPathAt _ (.inr (.inl rfl)) hmark)
    .absent (hd.endsAlignmentAt [] _ (.inl rfl)) hspec
  rw [hselectors] at hplaceholder
  simpa [placeholder, text, front, hd.opening, hd.closing, hd.formatMark, hd.optionsOpening,
    hd.optionsClosing] using hplaceholder

/-- Whatever the options are, the placeholder is read, and keeps them as they were written. -/
theorem parse_eq (hd : d.UsualDelimiters) (hextras : ':' ∉ d.selectorExtras)
    (haccepted : d.acceptsName "choose" = true)
    (hsections : ReadAsNested d (front options) sections f issues) :
    Template.parse d (text options sections) =
      .ok ⟨d, ⟨0, 0, [.placeholder (placeholder options sections f)]⟩, issues⟩ := by
  obtain ⟨levels, run, hlevels, hread, hstop, rfl⟩ := hsections
  have hplaceholder := (placeholderRead hd hextras haccepted hread hstop).read_eq
  have hmark : '{' ≠ escapeMark := by decide
  refine parse_of_readPlaceholder ((front options).tail ++ sections ++ ['}'])
    (p := placeholder options sections _) ?_ ?_ rfl ?_
  · simp [Dialect.role, Dialect.escapesBrace, Dialect.isBrace, front, hd.opening, hd.closing, hmark]
  · rw [hlevels, readPlaceholderWithin]
    simpa using hplaceholder
  · rw [hd.opening]
    rfl

end Choice

end Reading

section Choosing

theorem Sections.getElem?_toList {s : Sections} {i : Nat} (hi : i < s.count) :
    s.toList[i]? = some (s.pick i) := by
  cases i with
  | zero => simp [toList, pick]
  | succ i =>
    have hlater : i < s.later.length := Nat.succ_lt_succ_iff.mp hi
    simp [toList, pick, List.getLast?_take, hlater]

namespace Formatter

variable {s : CaseSensitivity} {options before after : List String} {option text : String}
  {count : Nat}

theorem choice?_first (hbefore : ∀ o ∈ before, s.agrees o text = false)
    (hoption : s.agrees option text = true) :
    choice? s (before ++ option :: after) count text = some before.length := by
  have hnone : before.findIdx? (s.agrees · text) = none := by
    simpa [List.findIdx?_eq_none_iff] using hbefore
  simp [choice?, List.findIdx?_append, List.findIdx?_cons, hnone, hoption]

theorem choice?_none (hnone : ∀ o ∈ options, s.agrees o text = false) :
    choice? s options count text =
      if options.length < count then some options.length else none := by
  have hfind : options.findIdx? (s.agrees · text) = none := by
    simpa [List.findIdx?_eq_none_iff] using hnone
  rw [choice?, hfind, Option.none_or]

theorem filter_builtIn_choose (s : CaseSensitivity) :
    builtIn.filter (·.answersTo s "choose") = [choose] := by
  have hanswers : ∀ s, list.answersTo s "choose" = false ∧
      conditional.answersTo s "choose" = false ∧ choose.answersTo s "choose" = true ∧
      default.answersTo s "choose" = false := by
    intro s
    cases s <;> decide
  obtain ⟨hlist, hconditional, hchoose, hdefault⟩ := hanswers s
  simp [builtIn, hlist, hconditional, hchoose, hdefault]

end Formatter

section Attempt

variable {c : Call} {p : Placeholder} {v : Value} {more : List Value}

theorem Call.resolve_first (hsources : c.sources = [.argument, .member])
    (hargs : c.args = v :: more) (hpath : p.path = ["0"]) : c.resolve c.root p = .ok v := by
  have hindex : index? "0" = some 0 := by decide
  have hcurrent : p.isCurrent = false := by
    rw [Placeholder.isCurrent, hpath]
    decide
  simp [resolve, hcurrent, hpath, resolveFirst, ask, query, hsources, hargs, root, Source.argument,
    hindex, resolveLater]

/-- Where the formatters of the library are all there are, choosing is left to one of them. -/
theorem Call.attempt_choose (hsources : c.sources = [.argument, .member])
    (hformatters : c.formatters = Formatter.builtIn) (hargs : c.args = v :: more)
    (hpath : p.path = ["0"]) (hname : p.name = "choose") (nest : Format → Value → RenderM Unit) :
    c.attempt nest c.root p = tryFormatters (fun f => (f.format (c.request p v)).run nest)
      (.unformatted p.raw (.noFormatter p.name)) [.choose] := by
  rw [attempt, resolve_first hsources hargs hpath]
  simp only [dispatch, hformatters, hname, Formatter.filter_builtIn_choose]

end Attempt

/-- Whether an option names a value. -/
def Call.optionAgrees (c : Call) (v : Value) (option : String) : Bool :=
  c.settings.caseSensitivity.agrees option (Formatter.comparedText v)

/-- What is rendered for the value `v` where a placeholder chooses among options for the sections of
a format, and is all of a template. -/
structure Choice.Outcome (c : Call) (p : Placeholder) (options : List String) (f : Format)
    (v : Value) (result : Except Error Rendered) : Prop where
  first : ∀ before option after, options = before ++ option :: after →
    (∀ o ∈ before, c.optionAgrees v o = false) → c.optionAgrees v option = true →
    (f.split sectionMark).count = options.length ∨
      (f.split sectionMark).count = options.length + 1 →
    ∃ g, (f.split sectionMark).toList[before.length]? = some g ∧ result = c.renderNested v g
  other : (∀ o ∈ options, c.optionAgrees v o = false) →
    (f.split sectionMark).count = options.length + 1 →
    ∃ g, (f.split sectionMark).toList[options.length]? = some g ∧ result = c.renderNested v g
  missing : (∀ o ∈ options, c.optionAgrees v o = false) →
    (f.split sectionMark).count = options.length →
    result = c.failed p (.unformatted p.raw (.noOption (Formatter.comparedText v)))
  miscounted : (f.split sectionMark).count ≠ options.length →
    (f.split sectionMark).count ≠ options.length + 1 →
    result = c.failed p (.unformatted p.raw
      (.sectionCount options.length (f.split sectionMark).count))

section Outcome

variable {c : Call} {p : Placeholder} {v : Value} {options : List String} {f : Format} {i : Nat}
  (hformat : p.format = some f) (hoptions : Formatter.splitOptions p.optionsRaw = options)
include hformat hoptions

theorem Formatter.choose_picked
    (hcount : (f.split sectionMark).count = options.length ∨
      (f.split sectionMark).count = options.length + 1)
    (hchoice : choice? c.settings.caseSensitivity options (f.split sectionMark).count
      (comparedText v) = some i) :
    choose.format (c.request p v) =
      Script.render ((f.split sectionMark).pick i) v >>= fun _ => pure true := by
  have hfits : ¬((f.split sectionMark).count ≠ options.length ∧
      (f.split sectionMark).count ≠ options.length + 1) := by omega
  simp only [choose, Request.format?, Call.request, hformat, hoptions, if_neg hfits, hchoice]

theorem Formatter.choose_missing (hcount : (f.split sectionMark).count = options.length)
    (hchoice : choice? c.settings.caseSensitivity options (f.split sectionMark).count
      (comparedText v) = none) :
    choose.format (c.request p v) = .fail (.unformatted p.raw (.noOption (comparedText v))) := by
  have hfits : ¬((f.split sectionMark).count ≠ options.length ∧
      (f.split sectionMark).count ≠ options.length + 1) := by omega
  simp only [choose, Request.format?, Request.unformatted, Call.request, hformat, hoptions,
    if_neg hfits, hchoice]

theorem Formatter.choose_miscounted (hcount : (f.split sectionMark).count ≠ options.length)
    (hcount' : (f.split sectionMark).count ≠ options.length + 1) :
    choose.format (c.request p v) = .fail (.unformatted p.raw
      (.sectionCount options.length (f.split sectionMark).count)) := by
  simp only [choose, Request.format?, Request.unformatted, Call.request, hformat, hoptions,
    if_pos (And.intro hcount hcount')]

variable {more : List Value} (hsources : c.sources = [.argument, .member])
  (hformatters : c.formatters = Formatter.builtIn) (hargs : c.args = v :: more)
  (hpath : p.path = ["0"]) (hname : p.name = "choose") (halignment : p.alignment = 0)
  (hpieces : c.template.format = ⟨0, 0, [.placeholder p]⟩)
  (hdepth : c.settings.dialect.maxDepth ≠ 0)
include hsources hformatters hargs hpath hname halignment hpieces hdepth

theorem Choice.outcome_render : Choice.Outcome c p options f v c.render := by
  have hattempt := Call.attempt_choose hsources hformatters hargs hpath hname
    (c.nestWithin c.settings.dialect.maxDepth c.root p)
  have hpicked : ∀ i, Formatter.choice? c.settings.caseSensitivity options
      (f.split sectionMark).count (Formatter.comparedText v) = some i →
      ((f.split sectionMark).count = options.length ∨
        (f.split sectionMark).count = options.length + 1) → i < (f.split sectionMark).count →
      ∃ g, (f.split sectionMark).toList[i]? = some g ∧ c.render = c.renderNested v g := by
    intro i hchoice hcount hi
    refine ⟨_, Sections.getElem?_toList hi, Call.render_of_nested hpieces halignment hdepth ?_⟩
    rw [hattempt]
    refine tryFormatters_single ?_ _
    rw [Formatter.choose_picked hformat hoptions hcount hchoice, Script.run_render]
  have hfailed : ∀ err, Formatter.choose.format (c.request p v) = .fail err →
      err.isRecoverable = true → c.render = c.failed p err := by
    intro err hfail hrecoverable
    refine Call.render_of_throw hpieces hrecoverable ?_
    rw [hattempt]
    exact tryFormatters_throw (by rw [hfail]; rfl) _
  refine ⟨?_, ?_, ?_, ?_⟩
  · rintro before option after rfl hbefore hoption hcount
    refine hpicked _ (Formatter.choice?_first hbefore hoption) hcount ?_
    simp at hcount
    omega
  · intro hnone hcount
    refine hpicked _ ?_ (.inr hcount) (by omega)
    rw [Formatter.choice?_none hnone, if_pos (by omega)]
  · intro hnone hcount
    refine hfailed _ (Formatter.choose_missing hformat hoptions hcount ?_) rfl
    rw [Formatter.choice?_none hnone, if_neg (by omega)]
  · intro hcount hcount'
    exact hfailed _ (Formatter.choose_miscounted hformat hoptions hcount hcount') rfl

end Outcome

end Choosing

section Engines

variable {e : Engine} {cache : Option Cache} {options : List String} {sections : List Char}
  {f : Format} {issues : List Issue}

theorem acceptsName_choose (he : e.Current) (hformatters : e.formatters = Formatter.builtIn)
    (hnames : ∀ names ∈ e.settings.dialect.formatterNames, "choose" ∈ names) :
    e.dialect.acceptsName "choose" = true := by
  have hagrees : CaseSensitivity.insensitive.agrees "choose" "choose" = true := by decide
  have haccepted : ∀ names, e.dialect.formatterNames = some names → "choose" ∈ names := by
    intro names hkept
    rw [he.dialect_eq, Engine.currentDialect] at hkept
    cases hset : e.settings.dialect.formatterNames with
    | none =>
      rw [hset, Option.none_or] at hkept
      rw [← Option.some.inj hkept, Engine.formatterNames, hformatters]
      decide
    | some set =>
      rw [hset, Option.some_or] at hkept
      exact Option.some.inj hkept ▸ hnames set hset
  unfold Dialect.acceptsName
  split
  · rfl
  · rename_i names hkept
    exact List.any_eq_true.mpr ⟨"choose", haccepted names hkept, hagrees⟩

/-- Any texts but none at all can be written as the options of a placeholder, which keeps them as
they were written and chooses by the texts themselves, whatever is in them. The format mark must not
count among the characters of selectors, and the name must be that of a formatter. -/
theorem format_choose (he : e.Reached cache) (hsources : e.sources = [.argument, .member])
    (hformatters : e.formatters = Formatter.builtIn) (hd : e.settings.dialect.UsualDelimiters)
    (hextras : ':' ∉ e.settings.dialect.selectorExtras)
    (hnames : ∀ names ∈ e.settings.dialect.formatterNames, "choose" ∈ names)
    (hoptions : options ≠ [])
    (hsections : ReadAsNested e.dialect (Choice.front options) sections f issues) (v : Value)
    (more : List Value) :
    ∃ t p, Template.parse e.dialect (Choice.text options sections) = .ok t ∧
      t.format.pieces = [.placeholder p] ∧ p.raw = Choice.text options sections ∧
      p.options = some (Formatter.writtenOptions options) ∧ p.format = some f ∧
      Formatter.splitOptions p.optionsRaw = options ∧
      Choice.Outcome (e.call (e.cached (e.parse cache (Choice.text options sections)).2) t
        (v :: more)) p options f v
        (e.format cache (Choice.text options sections) (v :: more)).1 := by
  obtain ⟨hcurrent, hsound⟩ := he.settled
  have hd' : e.dialect.UsualDelimiters := by
    rw [hcurrent.dialect_eq]
    exact ⟨hd.opening, hd.closing, hd.pathMark, hd.alignmentMark, hd.formatMark, hd.optionsOpening,
      hd.optionsClosing⟩
  have hextras' : ':' ∉ e.dialect.selectorExtras := by
    rw [hcurrent.dialect_eq]
    exact hextras
  have hdepth : e.settings.dialect.maxDepth ≠ 0 := by
    obtain ⟨levels, run, hlevels, -⟩ := hsections
    rw [← hcurrent.maxDepth_eq, hlevels]
    exact Nat.succ_ne_zero levels
  have hread := Choice.parse_eq hd' hextras' (acceptsName_choose hcurrent hformatters hnames)
    hsections
  have hsplit := Formatter.splitOptions_writtenOptions hoptions
  refine ⟨_, Choice.placeholder options sections f, hread, rfl, rfl, rfl, rfl, hsplit, ?_⟩
  rw [e.format_of_parse hsound hread, Engine.renderTemplate_eq]
  exact Choice.outcome_render rfl hsplit hsources hformatters rfl rfl rfl rfl rfl hdepth

/-- Options with a separator, with what looks like a character literal and with a parenthesis that
has no counterpart; the third is named, in another case, and its section is the value. -/
theorem format_choose_guarded :
    let e := (Engine.standard ⟨0, 0⟩).changeSettings fun s =>
      { s with caseSensitivity := .insensitive }
    let options := ["a|b", "\\u0041", "(x", "\\"]
    let sections := ['1', '|', '2', '|', '<', '{', '}', '>', '|', '4', '|', '5']
    e.Reached none ∧ e.settings.dialect.UsualDelimiters ∧
      ∃ f g t p, ReadAsNested e.dialect (Choice.front options) sections f [] ∧
        (f.split sectionMark).toList[2]? = some g ∧ g.raw = "<\x7b\x7d>" ∧
        Template.parse e.dialect (Choice.text options sections) = .ok t ∧
        t.format.pieces = [.placeholder p] ∧
        p.options = some "a\\|b|\\\\u0041|\\(x|\\\\" ∧
        Formatter.splitOptions p.optionsRaw = options ∧
        (e.format none (Choice.text options sections) [.string "(X"]).1 =
          (e.call none t [.string "(X"]).renderNested (.string "(X") g := by
  intro e options sections
  have he : e.Reached none := .of_kept_eq_none rfl
  have hd : e.settings.dialect.UsualDelimiters := ⟨rfl, rfl, rfl, rfl, rfl, rfl, rfl⟩
  have hdepth : e.dialect.maxDepth = 63 + 1 := rfl
  obtain ⟨f, hsections, hchecked⟩ := exists_readAsNested (Choice.front options) sections
    (fun f => (f.split sectionMark).toList.map Format.raw == ["1", "2", "<\x7b\x7d>", "4", "5"])
    hdepth (by decide +kernel)
  have hraws := beq_iff_eq.mp hchecked
  obtain ⟨t, p, hparse, hpieces, -, hraw, -, hsplit, houtcome⟩ := format_choose he rfl rfl hd
    (by decide) (by decide) (by decide) hsections (.string "(X") []
  have hcount : (f.split sectionMark).count = options.length + 1 := by
    have hlength := congrArg List.length hraws
    rwa [List.length_map] at hlength
  have hother : ∀ o ∈ ["a|b", "\\u0041"],
      CaseSensitivity.insensitive.agrees o (Formatter.comparedText (.string "(X")) = false := by
    decide
  have hnamed : CaseSensitivity.insensitive.agrees "(x" (Formatter.comparedText (.string "(X")) =
      true := by
    decide
  obtain ⟨g, hg, hresult⟩ := houtcome.first ["a|b", "\\u0041"] "(x" ["\\"] rfl hother hnamed
    (.inr hcount)
  simp only [List.length_cons, List.length_nil, Nat.zero_add, Nat.reduceAdd] at hg
  have hraw_g : g.raw = "<\x7b\x7d>" := by
    have hthird := congrArg (·[2]?) hraws
    simp only [List.getElem?_map, hg] at hthird
    exact Option.some.inj hthird
  refine ⟨he, hd, _, g, t, p, hsections, hg, hraw_g, hparse, hpieces, ?_, hsplit, hresult⟩
  rw [hraw]
  rfl

end Engines

end Stencil
