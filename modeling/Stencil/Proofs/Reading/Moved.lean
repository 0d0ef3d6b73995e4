import Stencil.Proofs.Reading.Written
import Stencil.Proofs.Template.Shift

/-!
# Reading on

Where braces are written by doubling them and in no other way, a text that is read without malformed
parts is read as the same tree wherever it stands and whatever comes behind it, and the reading goes
on with what comes behind.
-/

namespace Stencil

set_option autoImplicit false

/-- The usual delimiters, where no character escapes a brace or begins a character literal. -/
structure Dialect.OnlyDoubles (d : Dialect) : Prop where
  usual : d.UsualDelimiters
  escape : d.escape = none
  literals : d.charLiterals = false

/-- The second run is the first, moved `n` bytes, and behind it `next`; the first begins at a byte
that is the index, and ends at `stop`. -/
inductive Run.Joined (n stop : Nat) (next : Run) : Nat → Run → Run → Prop
  | done (c : Cursor) : Run.Joined n stop next stop ⟨[], [], c⟩ next
  | text {position : Nat} (front : List Char) {run run' : Run}
      (h : Run.Joined n stop next (position + utf8Width front) run run') :
      Run.Joined n stop next position (run.prependText front) (run'.prependText front)
  | literal {position : Nat} (front : List Char) (kind : LiteralKind) {run run' : Run}
      (h : Run.Joined n stop next (position + utf8Width front) run run') :
      Run.Joined n stop next position (run.prependLiteral position front kind)
        (run'.prependLiteral (position + n) front kind)
  | placeholder (p : Placeholder) {run run' : Run}
      (h : Run.Joined n stop next p.stop run run') :
      Run.Joined n stop next p.start (run.prependPlaceholder p)
        (run'.prependPlaceholder (p.shift n))

section Joined

variable {n stop position : Nat} {next run run' : Run}

theorem Run.piecesFrom_shift (hlead : run'.lead = run.lead)
    (hpieces : run'.pieces = run.pieces.map (Piece.shift n)) (start : Nat) :
    run'.piecesFrom (start + n) = (run.piecesFrom start).map (Piece.shift n) := by
  unfold Run.piecesFrom
  rw [hlead, hpieces]
  split <;> rfl

theorem Run.Joined.shift_eq {c : Cursor} (h : Run.Joined n stop ⟨[], [], c⟩ position run run') :
    run'.lead = run.lead ∧ run'.pieces = run.pieces.map (Piece.shift n) := by
  induction h with
  | done _ => exact ⟨rfl, rfl⟩
  | text front _ ih => exact ⟨by simp [Run.prependText, ih.1], ih.2⟩
  | @literal position front kind _ _ _ ih =>
    have hlater := Run.piecesFrom_shift ih.1 ih.2 (position + utf8Width front)
    rw [Nat.add_right_comm] at hlater
    exact ⟨rfl, by simp [Run.prependLiteral, hlater, Piece.shift]⟩
  | placeholder p _ ih =>
    have hlater := Run.piecesFrom_shift ih.1 ih.2 p.stop
    exact ⟨rfl, by simp [Run.prependPlaceholder, hlater, Piece.shift]⟩

theorem Run.Joined.toFormat_eq {c : Cursor}
    (h : Run.Joined n stop ⟨[], [], c⟩ position run run') (depth : Nat) :
    run'.toFormat (position + n) depth = (run.toFormat position depth).shift n := by
  obtain ⟨hlead, hpieces⟩ := h.shift_eq
  rw [Run.toFormat, Run.toFormat, Format.shift, Format.recast, recastPieces_shiftBy,
    Run.piecesFrom_shift hlead hpieces]
  rfl

/-- Where literal text was cut apart, the second run has the pieces of the first, moved, and behind
them those of what comes behind it. -/
theorem Run.Joined.characters_eq (h : Run.Joined n stop next position run run') :
    (run'.piecesFrom (position + n)).flatMap Piece.characters =
      ((run.piecesFrom position).flatMap Piece.characters).map (Piece.shift n) ++
        (next.piecesFrom (stop + n)).flatMap Piece.characters := by
  induction h with
  | done _ => rfl
  | @text position front run run' _ ih =>
    rw [characters_prependText, characters_prependText, Nat.add_right_comm, ih,
      characterPieces_shift, List.map_append, List.append_assoc]
  | @literal position front kind run run' _ ih =>
    rw [Nat.add_right_comm] at ih
    have hliteral := Piece.characters_shift (n := n)
      (.literal ⟨position, String.ofList front, kind⟩)
    simp only [Piece.shift] at hliteral
    simp only [Run.prependLiteral, Run.piecesFrom, List.isEmpty_nil, if_true] at ih ⊢
    simp only [List.flatMap_cons, List.map_append, List.append_assoc, hliteral, ih]
  | @placeholder p run run' _ ih =>
    simp only [Run.prependPlaceholder, Run.piecesFrom, List.isEmpty_nil, if_true,
      p.stop_shift] at ih ⊢
    simp only [List.flatMap_cons, List.map_append, List.append_assoc, ih]
    rfl

end Joined

section Moving

variable {d : Dialect} {levels depth position : Nat} {text rest : List Char}

theorem Dialect.OnlyDoubles.role_text (hd : d.OnlyDoubles) {nested : Bool} {c : Char}
    {next : Option Char} (h : d.role nested c next = .text) (next' : Option Char) :
    d.role nested c next' = .text := by
  have hbrace := Dialect.isBrace_of_text h
  simp only [Dialect.isBrace, Bool.or_eq_false_iff, beq_eq_false_iff_ne] at hbrace
  simp [Dialect.role, Dialect.escapesBrace, hd.escape, hd.literals, hbrace.1, hbrace.2]

/-- What is read within `levels` is read in the same way elsewhere and with another text behind it,
with which the reading goes on. -/
def ReadsOn (d : Dialect) (levels : Nat) : Prop :=
  ∀ {nested depth position text rest run issues},
    PiecesRead d nested (readPlaceholderWithin d levels depth) position text rest run issues →
    issues = [] → ∀ n {text' rest' next more},
      PiecesRead d nested (readPlaceholderWithin d levels depth) (position + utf8Width text + n)
        text' rest' next more →
      ∃ run', PiecesRead d nested (readPlaceholderWithin d levels depth) (position + n)
          (text ++ text') rest' run' more ∧
        Run.Joined n (position + utf8Width text) next position run run'

theorem Dialect.OnlyDoubles.role_closing (hd : d.OnlyDoubles) (next : Option Char) :
    d.role true d.closing next = .stop := by
  have hdistinct : d.closing ≠ d.opening := by
    rw [hd.usual.closing, hd.usual.opening]
    decide
  simp [Dialect.role, Dialect.escapesBrace, hd.escape, hd.literals, hdistinct]

/-- A format nested in a placeholder is read on from up to the brace that closes the placeholder. -/
theorem ReadsOn.readNestedWithin_eq (hnested : ReadsOn d levels) (hd : d.OnlyDoubles)
    {start start' n : Nat} {inner : List Char} {run : Run}
    (hread : readNestedWithin d levels depth start (inner ++ d.closing :: rest) = ⟨[], .ok run⟩)
    (hstop : run.stop = ⟨start + utf8Width inner, d.closing :: rest⟩) (hstart : start' = start + n)
    (rest' : List Char) :
    ∃ run', readNestedWithin d levels depth start' (inner ++ d.closing :: rest') =
        ⟨[], .ok run'⟩ ∧
      run'.stop = ⟨start' + utf8Width inner, d.closing :: rest'⟩ ∧
      run'.toFormat start' depth = (run.toFormat start depth).shift n := by
  subst hstart
  have hpieces := piecesRead_of_readNestedWithin hread hstop
  have hend : d.EndsFormatAt true (d.closing :: rest') :=
    .inr ⟨d.closing, rest', rfl, hd.role_closing _⟩
  obtain ⟨run', hrun', hjoined⟩ := hnested hpieces rfl n (.done hend)
  rw [List.append_nil] at hrun'
  exact ⟨run', hrun'.readPieces_eq, hrun'.stop_eq, hjoined.toFormat_eq depth⟩

theorem Excerpt.ofList_shift (n start : Nat) (cs : List Char) :
    Excerpt.ofList (start + n) cs = (Excerpt.ofList start cs).recast (shiftBy n) := by
  have hstop : start + n + utf8Width cs = start + utf8Width cs + n := Nat.add_right_comm _ _ _
  rw [Excerpt.ofList, hstop]
  rfl

theorem selectorsFrom_shift (n index position : Nat) (path : List String) :
    selectorsFrom d index (position + n) path =
      (selectorsFrom d index position path).map (Selector.recast (shiftBy n)) := by
  induction path generalizing index position with
  | nil => rfl
  | cons text later ih =>
    have hplaced : Selector.placed d index (position + n) text =
        (Selector.placed d index position text).recast (shiftBy n) := by
      simp only [Selector.placed, Selector.recast, shiftBy, Nat.add_right_comm _ n]
    have hlater := ih (index + 1) (Selector.placed d index position text).stop
    rw [selectorsFrom, selectorsFrom, List.map_cons, hplaced, ← hlater]
    rfl

theorem SpecificationRead.move (hd : d.OnlyDoubles) (hnested : ReadsOn d levels)
    {spec : Specification} (h : SpecificationRead d depth (readNestedWithin d levels depth) position
      text (d.closing :: rest) spec []) {n position' : Nat} (hposition : position' = position + n)
    (rest' : List Char) :
    ∃ spec', SpecificationRead d depth (readNestedWithin d levels depth) position' text
        (d.closing :: rest') spec' [] ∧ spec'.nameAt = spec.nameAt.recast (shiftBy n) ∧
      spec'.optionsAt = spec.optionsAt.map (Excerpt.recast (shiftBy n)) ∧
      spec'.format = spec.format.map (Format.shift n) := by
  have hbehind : position' + d.formatMark.utf8Size = position + d.formatMark.utf8Size + n := by
    omega
  have hname (name : List Char) : Excerpt.ofList (position' + d.formatMark.utf8Size) name =
      (Excerpt.ofList (position + d.formatMark.utf8Size) name).recast (shiftBy n) := by
    rw [hbehind, Excerpt.ofList_shift]
  have hgroup (name options : List Char) :
      Excerpt.ofList (position' + d.formatMark.utf8Size + utf8Width name +
          d.optionsOpening.utf8Size) options =
        (Excerpt.ofList (position + d.formatMark.utf8Size + utf8Width name +
          d.optionsOpening.utf8Size) options).recast (shiftBy n) := by
    rw [← Excerpt.ofList_shift]
    congr 1
    omega
  cases h with
  | absent hmark =>
    exact ⟨_, .absent hmark, hposition ▸ Excerpt.ofList_shift n position [], rfl, rfl⟩
  | @format inner _ run _ hunnamed hread hstop =>
    -- No name goes on past the closing brace, so none is found there that was not found before.
    have hclosing : isNameChar d.closing = false := by
      rw [hd.usual.closing]
      exact isNameChar_of_mem_delimiters _ (by decide)
    obtain ⟨run', hread', hstop', hformat⟩ :=
      hnested.readNestedWithin_eq hd hread hstop hbehind rest'
    rw [Dialect.startsWithName_append_cons hclosing,
      ← Dialect.startsWithName_append_cons hclosing inner rest'] at hunnamed
    exact ⟨_, .format hunnamed hread' hstop', hname [], rfl, congrArg some hformat⟩
  | @named start name inner _ run _ hformatter hmark hdistinct hstart hread hstop =>
    obtain ⟨run', hread', hstop', hformat⟩ := hnested.readNestedWithin_eq hd hread hstop rfl rest'
    exact ⟨_, .named hformatter hmark hdistinct (by omega) hread' hstop', hname name, rfl,
      congrArg some hformat⟩
  | @options name options _ _ hformatter hopening hoptions hend hdistinct hstop =>
    exact ⟨_, .options hformatter hopening ((readOptions_eq_some hoptions).2 _) rfl hdistinct rfl,
      hname name, congrArg some (hgroup name options), rfl⟩
  | @optionsFormat start name options inner _ run _ hformatter hopening hoptions hstart hread
      hstop =>
    obtain ⟨run', hread', hstop', hformat⟩ := hnested.readNestedWithin_eq hd hread hstop rfl rest'
    exact ⟨_, .optionsFormat hformatter hopening ((readOptions_eq_some hoptions).2 _) (by omega)
      hread' hstop', hname name, congrArg some (hgroup name options), congrArg some hformat⟩

theorem Dialect.EndsAlignmentAt.of_head? {cs ds : List Char} (hend : d.EndsAlignmentAt text cs)
    (hhead : ds.head? = cs.head?) : d.EndsAlignmentAt text ds := by
  unfold Dialect.EndsAlignmentAt at hend ⊢
  split at hend
  · rwa [if_pos ‹_›, hhead]
  · rw [if_neg ‹_›]
    obtain ⟨c, rest, rfl, hc⟩ := hend
    obtain ⟨rest', rfl⟩ := List.head?_eq_some_iff.mp (hhead.trans List.head?_cons)
    exact ⟨c, rest', rfl, hc⟩

theorem PlaceholderRead.move (hd : d.OnlyDoubles) (hnested : ReadsOn d levels) {body : List Char}
    {p : Placeholder}
    (h : PlaceholderRead d depth (readNestedWithin d levels depth) position body rest p [])
    (n : Nat) (rest' : List Char) :
    PlaceholderRead d depth (readNestedWithin d levels depth) (position + n) body rest' (p.shift n)
      [] := by
  cases h with
  | @intro pathText alignText specText _ path alignment spec _ hpath hpathEnd halign halignEnd
      hspec =>
    have hposition : position + n + d.opening.utf8Size + utf8Width pathText + utf8Width alignText =
        position + d.opening.utf8Size + utf8Width pathText + utf8Width alignText + n := by omega
    obtain ⟨spec', hspec', hname, hoptions, hformat⟩ := hspec.move hd hnested hposition rest'
    have hhead (front : List Char) :
        (front ++ d.closing :: rest').head? = (front ++ d.closing :: rest).head? := by
      cases front <;> rfl
    have hpathEnd' : d.EndsPathAt (alignText ++ (specText ++ d.closing :: rest')) :=
      hpathEnd.of_head? (by rw [← List.append_assoc, hhead, List.append_assoc])
    have hread := PlaceholderRead.intro hpath hpathEnd' halign (halignEnd.of_head? (hhead _)) hspec'
    rw [hname, hoptions, hformat, ← recastNested_shiftBy, Nat.add_right_comm,
      selectorsFrom_shift] at hread
    exact hread

theorem PlaceholderRead.ne_nil {body : List Char} {readBody : Nat → List Char → Reading Run}
    {p : Placeholder} {issues : List Issue}
    (h : PlaceholderRead d depth readBody position body rest p issues) : body ≠ [] := by
  cases h with
  | intro => simp

theorem PiecesRead.readsOn (hd : d.OnlyDoubles) {nested : Bool} {run : Run} {issues : List Issue}
    (hnested : ∀ outer, levels = outer + 1 → ReadsOn d outer)
    (h : PiecesRead d nested (readPlaceholderWithin d levels depth) position text rest run issues)
    (hissues : issues = []) (n : Nat) {text' rest' : List Char} {next : Run} {more : List Issue}
    (hnext : PiecesRead d nested (readPlaceholderWithin d levels depth)
      (position + utf8Width text + n) text' rest' next more) :
    ∃ run', PiecesRead d nested (readPlaceholderWithin d levels depth) (position + n)
        (text ++ text') rest' run' more ∧
      Run.Joined n (position + utf8Width text) next position run run' := by
  -- The reader looks one character ahead, but what it takes never depends on one it does not take.
  induction h with
  | done _ => exact ⟨next, hnext, .done _⟩
  | @text position c text _ _ _ hrole _ ih =>
    simp only [utf8Width_cons, ← Nat.add_assoc] at hnext ⊢
    obtain ⟨run', hrun', hjoined⟩ := ih hissues hnext
    rw [Nat.add_right_comm] at hrun'
    exact ⟨_, .text (hd.role_text hrole _) hrun', .text [c] hjoined⟩
  | braceEscape hrole _ _ =>
    have hescape := Dialect.role_eq_braceEscape_iff.mp hrole
    simp [Dialect.escapesBrace, hd.escape, hd.literals] at hescape
  | charLiteral hrole _ _ _ =>
    have hliterals := (Dialect.charLiterals_of_role hrole).1
    simp [hd.literals] at hliterals
  | @doubledBrace position c text _ _ _ hrole _ ih =>
    simp only [utf8Width_cons, ← Nat.add_assoc] at hnext ⊢
    obtain ⟨run', hrun', hjoined⟩ := ih hissues hnext
    have hmoved : position + c.utf8Size + n = position + n + c.utf8Size := Nat.add_right_comm _ _ _
    rw [Nat.add_right_comm, hmoved] at hrun'
    have hread := hrun'.doubledBrace hrole
    rw [← hmoved] at hread
    exact ⟨_, hread, .text [c] (.literal [c] _ hjoined)⟩
  | @placeholder position body inner rest p run _ _ hrole hread hstart hraw _ ih =>
    obtain ⟨rfl, rfl⟩ := List.append_eq_nil_iff.mp hissues
    obtain ⟨outer, rfl, hplaceholder⟩ := placeholderRead_of_readPlaceholderWithin hread hraw
    have hstop : position + utf8Width (d.opening :: body ++ inner) = p.stop + utf8Width inner := by
      rw [utf8Width_append, Placeholder.stop, hstart, hraw, utf8ByteSize_ofList, Nat.add_assoc]
    rw [hstop] at hnext ⊢
    obtain ⟨run', hrun', hjoined⟩ := ih rfl hnext
    have hmoved := hplaceholder.move hd (hnested outer rfl) n (inner ++ text' ++ rest')
    have hread' : readPlaceholderWithin d (outer + 1) depth (position + n)
        (body ++ (inner ++ text' ++ rest')) = ⟨[], .ok (p.shift n)⟩ := hmoved.read_eq
    have hhead : (body ++ (inner ++ text' ++ rest')).head? = (body ++ (inner ++ rest)).head? := by
      obtain ⟨c, cs, rfl⟩ := List.exists_cons_of_ne_nil hplaceholder.ne_nil
      rfl
    rw [← p.stop_shift] at hrun'
    have hpieces := PiecesRead.placeholder (hhead ▸ hrole) hread' (by simp [hstart])
      (by simp [hraw]) hrun'
    subst hstart
    exact ⟨_, by simpa using hpieces, .placeholder p hjoined⟩
  | malformed => simp at hissues
  | unmatched => cases hissues

theorem readsOn (hd : d.OnlyDoubles) (levels : Nat) : ReadsOn d levels := by
  induction levels using levels_induction with
  | step levels ih =>
    intro nested depth position text rest run issues h hissues n text' rest' next more hnext
    exact h.readsOn hd ih hissues n hnext

end Moving

end Stencil
