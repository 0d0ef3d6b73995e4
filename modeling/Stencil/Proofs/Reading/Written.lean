import Stencil.Proofs.Reading.Delimiters
import Stencil.Proofs.Reading.Nested
import Stencil.Proofs.Template.Written

/-!
# How what was read is written

What a run, a specification and a placeholder that were read are written as, and which placeholders
of a tree that is written and read again are held against each other.
-/

namespace Stencil

set_option autoImplicit false

section Front

variable {d : Dialect} {cs ds : List Char}

/-- Both texts are the same at least up to the first brace of either. -/
def SameFront (d : Dialect) (cs ds : List Char) : Prop :=
  cs = ds ∨ ∃ front c cs' ds', d.isBrace c = true ∧ cs = front ++ c :: cs' ∧ ds = front ++ c :: ds'

theorem SameFront.append (front : List Char) (h : SameFront d cs ds) :
    SameFront d (front ++ cs) (front ++ ds) := by
  rcases h with rfl | ⟨more, c, cs', ds', hc, rfl, rfl⟩
  · exact .inl rfl
  · exact .inr ⟨front ++ more, c, cs', ds', hc, by simp, by simp⟩

theorem SameFront.brace {c : Char} (hc : d.isBrace c = true) (cs ds : List Char) :
    SameFront d (c :: cs) (c :: ds) :=
  .inr ⟨[], c, cs, ds, hc, rfl, rfl⟩

theorem SameFront.head?_eq (h : SameFront d cs ds) : ds.head? = cs.head? := by
  rcases h with rfl | ⟨front, c, cs', ds', -, rfl, rfl⟩
  · rfl
  · cases front <;> rfl

theorem Dialect.UsualDelimiters.brace_eq (hd : d.UsualDelimiters) {c : Char}
    (hc : d.isBrace c = true) : c = '{' ∨ c = '}' := by
  simpa [isBrace, hd.opening, hd.closing] using hc

theorem SameFront.startsWithName (hd : d.UsualDelimiters) (h : SameFront d cs ds) :
    d.startsWithName ds = d.startsWithName cs := by
  rcases h with rfl | ⟨front, c, cs', ds', hc, rfl, rfl⟩
  · rfl
  · have hname : isNameChar c = false := by
      rcases hd.brace_eq hc with rfl | rfl <;> exact isNameChar_of_mem_delimiters _ (by decide)
    rw [Dialect.startsWithName_append_cons hname front cs',
      Dialect.startsWithName_append_cons hname front ds']

theorem SameFront.extent_eq (hd : d.UsualDelimiters) (h : SameFront d cs ds) :
    CharLiteral.extent ds = CharLiteral.extent cs := by
  rcases h with rfl | ⟨front, c, cs', ds', hc, rfl, rfl⟩
  · rfl
  · have hplain : c ≠ 'u' ∧ isHexDigit c = false := by
      rcases hd.brace_eq hc with rfl | rfl <;> decide
    cases front with
    | nil => simp [CharLiteral.extent, hplain.1]
    | cons b front =>
      have htake : ∀ rest, (((front ++ c :: rest).take 4).takeWhile isHexDigit).length =
          ((front.takeWhile isHexDigit).take 4).length := by
        intro rest
        rw [← List.take_takeWhile, takeWhile_append_cons hplain.2]
      simp only [List.cons_append, CharLiteral.extent, htake]

theorem Dialect.EndsFormatAt.of_sameFront {nested : Bool} {c : Char}
    (hend : d.EndsFormatAt nested (c :: cs)) (h : SameFront d cs ds) :
    d.EndsFormatAt nested (c :: ds) := by
  obtain hnil | ⟨b, rest, heq, hrole⟩ := hend
  · cases hnil
  · cases heq
    exact .inr ⟨c, ds, rfl, by rw [h.head?_eq, hrole]⟩

theorem Dialect.EndsPathAt.of_head? (hend : d.EndsPathAt cs) (hhead : ds.head? = cs.head?) :
    d.EndsPathAt ds := by
  obtain ⟨c, rest, rfl, hc⟩ := hend
  obtain ⟨rest', rfl⟩ := List.head?_eq_some_iff.mp (hhead.trans List.head?_cons)
  exact ⟨c, rest', rfl, hc⟩

end Front

section Written

variable {d : Dialect}

/-- The text that a run is written as. -/
def Run.written (d : Dialect) (run : Run) : List Char :=
  run.lead ++ (writtenPieces d run.pieces).toList

@[simp] theorem Run.written_prependText (front : List Char) (run : Run) :
    (run.prependText front).written d = front ++ run.written d := by
  simp [written, prependText]

@[simp] theorem Run.written_prependLiteral (start : Nat) (front : List Char) (kind : LiteralKind)
    (run : Run) : (run.prependLiteral start front kind).written d = front ++ run.written d := by
  simp [written, prependLiteral, toList_writtenPieces_piecesFrom, Piece.written]

@[simp] theorem Run.written_prependPlaceholder (p : Placeholder) (run : Run) :
    (run.prependPlaceholder p).written d = (p.written d).toList ++ run.written d := by
  simp [written, prependPlaceholder, toList_writtenPieces_piecesFrom, Piece.written]

@[simp] theorem Run.toList_written_toFormat (run : Run) (start depth : Nat) :
    ((run.toFormat start depth).written d).toList = run.written d := by
  simp [toFormat, Format.written, written, toList_writtenPieces_piecesFrom]

/-- The text that is written between the alignment of a placeholder and its closing brace. -/
def Specification.written (d : Dialect) (spec : Specification) : List Char :=
  (Placeholder.nameText d spec.name spec.options ++ writtenNested d spec.format).toList

/-- Both runs have the same pieces but for their places. -/
def Run.SameParts (run run' : Run) : Prop :=
  run'.lead = run.lead ∧ recastPieces dropPlaces run'.pieces = recastPieces dropPlaces run.pieces

variable {run run' : Run}

theorem Run.SameParts.piecesFrom (h : run.SameParts run') (start start' : Nat) :
    recastPieces dropPlaces (run'.piecesFrom start') =
      recastPieces dropPlaces (run.piecesFrom start) := by
  obtain ⟨hlead, hpieces⟩ := h
  unfold Run.piecesFrom
  rw [hlead]
  cases run.lead with
  | nil => exact hpieces
  | cons c cs =>
    simp only [List.isEmpty_cons, Bool.false_eq_true, if_false, recastPieces_cons, hpieces]
    rfl

theorem Run.SameParts.prependText (h : run.SameParts run') (front : List Char) :
    (run.prependText front).SameParts (run'.prependText front) :=
  ⟨congrArg (front ++ ·) h.1, h.2⟩

theorem Run.SameParts.prependLiteral (h : run.SameParts run') (start start' : Nat)
    (front : List Char) (kind : LiteralKind) :
    (run.prependLiteral start front kind).SameParts (run'.prependLiteral start' front kind) := by
  refine ⟨rfl, ?_⟩
  simp only [Run.prependLiteral, recastPieces_cons,
    h.piecesFrom (start + utf8Width front) (start' + utf8Width front)]
  rfl

theorem Run.SameParts.prependPlaceholder (h : run.SameParts run') {p q : Placeholder}
    (hpq : q.recast dropPlaces = p.recast dropPlaces) :
    (run.prependPlaceholder p).SameParts (run'.prependPlaceholder q) := by
  refine ⟨rfl, ?_⟩
  simp only [Run.prependPlaceholder, recastPieces_cons, Piece.recast, hpq,
    h.piecesFrom p.stop q.stop]

theorem Run.SameParts.toFormat (h : run.SameParts run') (start start' depth : Nat) :
    (run'.toFormat start' depth).recast dropPlaces =
      (run.toFormat start depth).recast dropPlaces := by
  simp only [Run.toFormat, Format.recast, h.piecesFrom start start']
  rfl

end Written

section Every

/-- All placeholders of a format, at any depth, satisfy `P`. -/
def Format.Every (P : Placeholder → Prop) (f : Format) : Prop :=
  ∀ g, f.Within g → ∀ p ∈ g.placeholders, P p

def Placeholder.Every (P : Placeholder → Prop) (p : Placeholder) : Prop :=
  P p ∧ ∀ f, p.format = some f → f.Every P

def Run.Every (P : Placeholder → Prop) (run : Run) : Prop :=
  ∀ p, Piece.placeholder p ∈ run.pieces → p.Every P

variable {P : Placeholder → Prop} {f g h : Format} {p : Placeholder} {run : Run}
  {start depth : Nat}

theorem Format.Within.of_nested (hp : p ∈ f.placeholders) (hformat : p.format = some g)
    (hwithin : g.Within h) : f.Within h := by
  induction hwithin with
  | self => exact .nested .self hp hformat
  | nested _ hq hnested ih => exact .nested ih hq hnested

theorem Format.Within.eq_or_nested (hwithin : f.Within h) :
    h = f ∨ ∃ p ∈ f.placeholders, ∃ g, p.format = some g ∧ g.Within h := by
  induction hwithin with
  | self => exact .inl rfl
  | nested _ hp hformat ih =>
    rcases ih with rfl | ⟨q, hq, k, hk, hwithin⟩
    · exact .inr ⟨_, hp, _, hformat, .self⟩
    · exact .inr ⟨q, hq, k, hk, .nested hwithin hp hformat⟩

theorem Format.every_iff : f.Every P ↔ ∀ p ∈ f.placeholders, p.Every P := by
  constructor
  · intro hevery p hp
    refine ⟨hevery f .self p hp, fun g hformat k hwithin q hq => ?_⟩
    exact hevery k (.of_nested hp hformat hwithin) q hq
  · intro hevery k hwithin q hq
    rcases hwithin.eq_or_nested with rfl | ⟨p, hp, g, hformat, hwithin⟩
    · exact (hevery q hq).1
    · exact (hevery p hp).2 g hformat k hwithin q hq

theorem Run.every_toFormat : (run.toFormat start depth).Every P ↔ run.Every P := by
  simp only [Format.every_iff, mem_placeholders, Run.toFormat, placeholder_mem_piecesFrom,
    Run.Every]

theorem Run.every_prependText {front : List Char} :
    (run.prependText front).Every P ↔ run.Every P :=
  Iff.rfl

theorem Run.every_prependLiteral {front : List Char} {kind : LiteralKind} :
    (run.prependLiteral start front kind).Every P ↔ run.Every P := by
  simp only [Run.Every, placeholder_mem_prependLiteral]

theorem Run.every_prependPlaceholder :
    (run.prependPlaceholder p).Every P ↔ p.Every P ∧ run.Every P := by
  simp only [Run.Every, Run.prependPlaceholder, List.mem_cons, Piece.placeholder.injEq,
    placeholder_mem_piecesFrom, forall_eq_or_imp]

theorem placeholder_mem_recastPieces {ps : List Piece} :
    Piece.placeholder p ∈ recastPieces dropPlaces ps ↔
      ∃ q, Piece.placeholder q ∈ ps ∧ q.recast dropPlaces = p := by
  induction ps with
  | nil => simp [recastPieces]
  | cons piece ps ih =>
    rw [recastPieces_cons, List.mem_append, ih]
    cases piece with
    | literal l => simp [Piece.recast, dropPlaces]
    | placeholder r =>
      constructor
      · rintro (heq | ⟨q, hq, rfl⟩)
        · cases List.mem_singleton.mp heq
          exact ⟨r, List.mem_cons_self, rfl⟩
        · exact ⟨q, List.mem_cons_of_mem _ hq, rfl⟩
      · rintro ⟨q, hq, rfl⟩
        rcases List.mem_cons.mp hq with heq | hq
        · cases heq
          exact .inl (List.mem_singleton.mpr rfl)
        · exact .inr ⟨q, hq, rfl⟩

theorem exists_placeholder_of_recast {q : Placeholder}
    (hfg : g.recast dropPlaces = f.recast dropPlaces) (hq : q ∈ g.placeholders) :
    ∃ p ∈ f.placeholders, q.recast dropPlaces = p.recast dropPlaces := by
  have hpieces := congrArg Format.pieces hfg
  rw [Format.pieces_recast, Format.pieces_recast] at hpieces
  have hmem := placeholder_mem_recastPieces.mpr ⟨q, mem_placeholders.mp hq, rfl⟩
  rw [hpieces] at hmem
  obtain ⟨p, hp, hpq⟩ := placeholder_mem_recastPieces.mp hmem
  exact ⟨p, mem_placeholders.mpr hp, hpq.symm⟩

/-- A format that is the same as `f` but for places has the same formats within it, but for
places. -/
theorem Format.Within.exists_recast (hfg : g.recast dropPlaces = f.recast dropPlaces)
    (hwithin : g.Within h) : ∃ k, f.Within k ∧ h.recast dropPlaces = k.recast dropPlaces := by
  induction hwithin with
  | self => exact ⟨f, .self, hfg⟩
  | @nested k inner q _ hq hformat ih =>
    obtain ⟨k', hk', hsame⟩ := ih
    obtain ⟨p, hp, hpq⟩ := exists_placeholder_of_recast hsame hq
    have hnested := congrArg Placeholder.format hpq
    rw [Placeholder.format_recast, Placeholder.format_recast, hformat] at hnested
    cases hinner : p.format with
    | none =>
      rw [hinner] at hnested
      cases hnested
    | some inner' =>
      rw [hinner] at hnested
      exact ⟨inner', .nested hk' hp hinner, Option.some.inj hnested⟩

theorem Format.Every.of_recast (hP : ∀ p q, q.recast dropPlaces = p.recast dropPlaces → P p → P q)
    (hfg : g.recast dropPlaces = f.recast dropPlaces) (hevery : f.Every P) : g.Every P := by
  intro h hwithin q hq
  obtain ⟨k, hk, hsame⟩ := hwithin.exists_recast hfg
  obtain ⟨p, hp, hpq⟩ := exists_placeholder_of_recast hsame hq
  exact hP p q hpq (hevery k hk p hp)

end Every

section Alignments

/-- How the alignment of a placeholder is spelled in the text that it was read from. -/
def Placeholder.alignmentRaw (d : Dialect) (p : Placeholder) : List Char :=
  (p.raw.toList.drop (1 + (Placeholder.pathText p.selectors).length)).takeWhile fun c =>
    c ≠ d.formatMark && c ≠ d.closing

/-- The character behind an alignment, where a formatter name and a format follow it. -/
def Dialect.behindAlignment (d : Dialect) (name : String) (format : Option Format) : Char :=
  if name = "" ∧ format.isNone = true then d.closing else d.formatMark

variable {d : Dialect} {levels depth position : Nat} {readBody : Nat → List Char → Reading Run}
  {text rest : List Char} {spec : Specification} {issues : List Issue} {p : Placeholder}

/-- What is behind an alignment is the format mark or the closing brace, as read and as written. -/
theorem SpecificationRead.head?_eq
    (h : SpecificationRead d depth readBody position text rest spec issues) (behind : List Char) :
    (text ++ d.closing :: behind).head? =
        some (d.behindAlignment spec.name spec.format) ∧
      (spec.written d ++ d.closing :: behind).head? =
        some (d.behindAlignment spec.name spec.format) := by
  unfold Dialect.behindAlignment Specification.written Placeholder.nameText Specification.name
    Specification.options
  cases h with
  | absent _ => simp [writtenNested]
  | format _ _ _ => simp [writtenNested]
  | named hformatter _ _ _ _ _ => simp [writtenNested, hformatter.nonempty]
  | options hformatter _ _ _ _ _ => simp [writtenNested, hformatter.nonempty]
  | optionsFormat hformatter _ _ _ _ _ => simp [writtenNested, hformatter.nonempty]

theorem Dialect.behindAlignment_eq (d : Dialect) (name : String) (format : Option Format) :
    d.behindAlignment name format = d.formatMark ∨ d.behindAlignment name format = d.closing := by
  unfold behindAlignment
  split
  · exact .inr rfl
  · exact .inl rfl

theorem AlignmentText.all_ne (hd : d.UsualDelimiters) {alignment : Int}
    (h : AlignmentText d text alignment) :
    text.all fun c => c ≠ d.formatMark && c ≠ d.closing := by
  have hdigits : ∀ c : Char, c.isDigit = true → c ≠ ':' ∧ c ≠ '}' := by
    intro c hc
    constructor <;> rintro rfl <;> exact absurd hc (by decide)
  rw [List.all_eq_true, hd.formatMark, hd.closing]
  intro c hc
  cases h with
  | absent => cases hc
  | written negative digits _ decimal _ =>
    rw [hd.alignmentMark] at hc
    rcases List.mem_cons.mp hc with rfl | hc
    · decide
    · rcases List.mem_append.mp hc with hc | hc
      · cases negative with
        | false => cases hc
        | true =>
          obtain rfl := List.mem_singleton.mp hc
          decide
      · simpa using hdigits c (List.all_eq_true.mp decimal c hc)

theorem alignmentRaw_eq (hd : d.UsualDelimiters) {pathText alignText specText behind : List Char}
    {path : List String} {start : Nat} {alignment : Int} (hpath : PathText d pathText path)
    (halign : AlignmentText d alignText alignment)
    (hspec : SpecificationRead d depth readBody position specText rest spec issues)
    (hp : p.selectors = selectorsFrom d 0 start path)
    (hraw : p.raw = String.ofList
      (d.opening :: (pathText ++ alignText ++ specText ++ d.closing :: behind))) :
    p.alignmentRaw d = alignText := by
  have hc := d.behindAlignment_eq spec.name spec.format
  obtain ⟨cs, hcs⟩ := List.head?_eq_some_iff.mp (hspec.head?_eq behind).1
  generalize d.behindAlignment spec.name spec.format = c at hc hcs
  have hlength : (Placeholder.pathText p.selectors).length = pathText.length := by
    rw [hp, ← String.length_toList, hpath.toList_pathText]
  have hdrop : p.raw.toList.drop (1 + (Placeholder.pathText p.selectors).length) =
      alignText ++ c :: cs := by
    rw [hraw, String.toList_ofList, hlength, Nat.add_comm, List.drop_succ_cons,
      List.append_assoc, List.append_assoc, List.drop_left, hcs]
  unfold Placeholder.alignmentRaw
  rw [hdrop]
  refine (span_append (halign.all_ne hd) (c :: cs) ?_).1
  rcases hc with rfl | rfl <;> simp

/-- What a specification is written as differs from its text in the nested format only. -/
theorem SpecificationRead.written_cases
    (h : SpecificationRead d depth (readNestedWithin d levels depth) position text rest spec
      issues) :
    spec.format = none ∧ spec.written d = text ∨ ∃ front inner start run,
      text = front ++ inner ∧ spec.written d = front ++ run.written d ∧
        spec.format = some (run.toFormat start depth) ∧
        PiecesRead d true (readPlaceholderWithin d levels (depth + 1)) start inner rest run
          issues := by
  unfold Specification.written Placeholder.nameText Specification.name Specification.options
  cases h with
  | absent _ => exact .inl ⟨rfl, by simp [writtenNested]⟩
  | format _ hread hstop =>
    refine .inr ⟨[d.formatMark], _, _, _, rfl, ?_, rfl,
      piecesRead_of_readNestedWithin hread hstop⟩
    simp [writtenNested]
  | @named _ name _ _ _ _ hname _ _ _ hread hstop =>
    refine .inr ⟨d.formatMark :: name ++ [d.formatMark], _, _, _, rfl, ?_, rfl,
      piecesRead_of_readNestedWithin hread hstop⟩
    simp [Placeholder.optionsGroup, writtenNested, hname.nonempty]
  | options hname _ _ _ _ _ =>
    refine .inl ⟨rfl, ?_⟩
    simp [Placeholder.optionsGroup, writtenNested, hname.nonempty]
  | @optionsFormat _ name options _ _ _ _ hname _ _ _ hread hstop =>
    refine .inr ⟨d.formatMark :: name ++ d.optionsOpening :: options ++
      [d.optionsClosing, d.formatMark], _, _, _, rfl, ?_, rfl,
      piecesRead_of_readNestedWithin hread hstop⟩
    simp [Placeholder.optionsGroup, writtenNested, hname.nonempty]

theorem toList_written_placeholder {start place : Nat} {raw : String} {path : List String}
    {alignment : Int} {pathText : List Char} (hpath : PathText d pathText path) :
    (Placeholder.written d ⟨start, depth, raw, selectorsFrom d 0 place path, alignment,
      spec.nameAt, spec.optionsAt, spec.format⟩).toList =
        d.opening :: (pathText ++ (Placeholder.alignmentText d alignment).toList ++
          spec.written d ++ [d.closing]) := by
  simp [Placeholder.written, hpath.toList_pathText, Specification.written, Specification.name,
    Specification.options]

end Alignments

end Stencil
