import Mathlib.Logic.ExistsUnique
import Stencil.Proofs.Reading.Nested
import Stencil.Proofs.Template.Spans

/-!
# The items of a format tile its text

The pieces of every format in a template that was read lie end to end and are its text. What of it
belongs to no item is a mark that makes a brace text, the second brace of a doubled pair, or a
malformed region that the dialect has nothing in the place of.
-/

namespace Stencil

set_option autoImplicit false

section Spelling

variable {position : Nat} {text : List Char} {run : Run}

/-- The pieces of a run lie end to end from `position` on, and are `text`. -/
def Run.Spells (position : Nat) (text : List Char) (run : Run) : Prop :=
  Consecutive (position + utf8Width run.lead) run.pieces ∧
    run.lead ++ piecesText run.pieces = text

theorem Run.Spells.piecesFrom (h : run.Spells position text) :
    Consecutive position (run.piecesFrom position) ∧
      piecesText (run.piecesFrom position) = text := by
  obtain ⟨hpieces, htext⟩ := h
  unfold Run.piecesFrom
  cases hlead : run.lead with
  | nil =>
    rw [hlead] at hpieces htext
    exact ⟨by simpa using hpieces, by simpa using htext⟩
  | cons c cs =>
    rw [hlead] at hpieces htext
    refine ⟨⟨rfl, by simp [Piece.raw], ?_⟩, by simpa [Piece.raw] using htext⟩
    rw [Piece.stop_eq]
    simpa [Piece.raw, Piece.start] using hpieces

theorem Run.Spells.prependText (front : List Char)
    (h : run.Spells (position + utf8Width front) text) :
    (run.prependText front).Spells position (front ++ text) := by
  obtain ⟨hpieces, rfl⟩ := h
  exact ⟨by simpa [Run.prependText, Nat.add_assoc] using hpieces, by simp [Run.prependText]⟩

theorem Run.Spells.prependLiteral {front : List Char} (hfront : front ≠ []) (kind : LiteralKind)
    (h : run.Spells (position + utf8Width front) text) :
    (run.prependLiteral position front kind).Spells position (front ++ text) := by
  obtain ⟨hpieces, htext⟩ := h.piecesFrom
  refine ⟨⟨rfl, by simpa [Piece.raw] using hfront, ?_⟩, ?_⟩
  · rw [Piece.stop_eq]
    simpa [Piece.raw, Piece.start] using hpieces
  · simp [Run.prependLiteral, Piece.raw, htext]

theorem Run.Spells.prependMalformed {d : Dialect} {front : List Char} (hfront : front ≠ [])
    (issue : Issue) (h : run.Spells (position + utf8Width front) text) :
    (run.prependMalformed d position front issue).Spells position (front ++ text) := by
  unfold Run.prependMalformed
  cases d.onMalformed with
  | fail => exact h.prependLiteral hfront _
  | message => exact h.prependLiteral hfront _
  | nothing => exact h.prependLiteral hfront _
  | asWritten =>
    obtain ⟨hpieces, htext⟩ := (h.prependText front).piecesFrom
    exact ⟨by simpa using hpieces, by simpa using htext⟩

theorem Run.Spells.prependPlaceholder {p : Placeholder} {front : List Char} (hfront : front ≠ [])
    (hstart : p.start = position) (hraw : p.raw = String.ofList front)
    (h : run.Spells p.stop text) : (run.prependPlaceholder p).Spells position (front ++ text) := by
  obtain ⟨hpieces, htext⟩ := h.piecesFrom
  refine ⟨⟨hstart, by simpa [Piece.raw, hraw] using hfront, ?_⟩, ?_⟩
  · simpa [Piece.stop] using hpieces
  · simp [Run.prependPlaceholder, Piece.raw, hraw, htext]

variable {d : Dialect} {nested : Bool} {readPlaceholder : Nat → List Char → Reading Placeholder}
  {rest : List Char} {issues : List Issue}

theorem PiecesRead.spells
    (h : PiecesRead d nested readPlaceholder position text rest run issues) :
    run.Spells position text := by
  induction h with
  | done _ => exact ⟨trivial, rfl⟩
  | text _ _ ih => exact Run.Spells.prependText [_] ih
  | @braceEscape position c b _ _ _ _ _ _ ih =>
    exact Run.Spells.prependLiteral (List.cons_ne_nil c []) _ (Run.Spells.prependText [b] ih)
  | @charLiteral position c body _ _ _ _ _ _ _ ih =>
    rw [Nat.add_assoc] at ih
    exact Run.Spells.prependLiteral (List.cons_ne_nil c body) _ ih
  | @doubledBrace position c _ _ _ _ _ _ ih =>
    exact Run.Spells.prependText [c]
      (Run.Spells.prependLiteral (List.cons_ne_nil c []) _ ih)
  | @placeholder position body _ _ p _ _ _ _ _ hstart hraw _ ih =>
    exact Run.Spells.prependPlaceholder (List.cons_ne_nil d.opening body) hstart hraw ih
  | @malformed position body _ _ _ _ _ _ _ _ _ _ _ ih =>
    rw [Nat.add_assoc] at ih
    exact Run.Spells.prependMalformed (List.cons_ne_nil d.opening body) _ ih
  | @unmatched position c _ _ _ _ _ _ _ ih =>
    exact Run.Spells.prependMalformed (List.cons_ne_nil c []) _ ih

end Spelling

section Gaps

/-- What a byte can be that belongs to no item of its format. -/
inductive Gap where
  | escapeCharacter
  /-- A backslash before a brace, where the escape character is another one or there is none. -/
  | backslash
  | secondBrace
  | malformed

/-- A piece of literal text begins with a brace at byte `start`. -/
def BraceTextAt (d : Dialect) (ps : List Piece) (start : Nat) : Prop :=
  ∃ l b, Piece.literal l ∈ ps ∧ l.start = start ∧ l.kind = .text ∧
    l.raw.toList.head? = some b ∧ d.isBrace b = true

variable {d : Dialect} {text : List Char} {nested : Bool}
  {readPlaceholder : Nat → List Char → Reading Placeholder}

/-- Text that is put aside with an issue on record: an opening brace that begins no placeholder, up
to the brace that closes it, or a closing brace that nothing was opened for. -/
inductive MalformedRegion (d : Dialect) (text : List Char) (nested : Bool)
    (readPlaceholder : Nat → List Char → Reading Placeholder) (issues : List Issue)
    (l : Literal) : Prop
  | opening {before body after : List Char} {own : List Issue} {issue : Issue}
      (htext : text = before ++ (d.opening :: body ++ after))
      (hstart : l.start = utf8Width before) (hraw : l.raw = String.ofList (d.opening :: body))
      (hread : readPlaceholder l.start (body ++ after) = ⟨own, .error (.malformed issue)⟩)
      (hregion : region d (d.opening :: (body ++ after)) = d.opening :: body)
      (hissue : issue ∈ issues) : MalformedRegion d text nested readPlaceholder issues l
  | closing {before after : List Char} (htext : text = before ++ d.closing :: after)
      (hstart : l.start = utf8Width before) (hraw : l.raw = String.ofList [d.closing])
      (hnested : nested = false) (hissue : ⟨l.start, .unmatchedClosing⟩ ∈ issues) :
      MalformedRegion d text nested readPlaceholder issues l

/-- What is said of a piece that stands for nothing by the kind of gap that it makes. -/
def Gap.Holds (d : Dialect) (text : List Char) (nested : Bool)
    (readPlaceholder : Nat → List Char → Reading Placeholder) (ps : List Piece)
    (issues : List Issue) (l : Literal) : Gap → Prop
  | escapeCharacter => l.kind = .elided .escapeMark ∧
      (∃ c, d.escape = some c ∧ l.raw = String.ofList [c]) ∧ BraceTextAt d ps l.stop
  | backslash => l.kind = .elided .escapeMark ∧ d.charLiterals = true ∧
      d.escape ≠ some escapeMark ∧ l.raw = String.ofList [escapeMark] ∧ BraceTextAt d ps l.stop
  | secondBrace => l.kind = .elided .doubledBrace ∧ d.escape = none ∧ ∃ before after c,
      d.isBrace c = true ∧ text = before ++ c :: c :: after ∧
      l.start = utf8Width (before ++ [c]) ∧ l.raw = String.ofList [c]
  | malformed => l.kind = .elided .malformed ∧ d.onMalformed = .nothing ∧
      MalformedRegion d text nested readPlaceholder issues l

def Gap.elision : Gap → Elision
  | escapeCharacter => .escapeMark
  | backslash => .escapeMark
  | secondBrace => .doubledBrace
  | malformed => .malformed

variable {ps qs : List Piece} {issues more : List Issue} {l : Literal} {g g' : Gap}

theorem Gap.Holds.kind_eq (h : g.Holds d text nested readPlaceholder ps issues l) :
    l.kind = .elided g.elision := by
  cases g <;> exact h.1

theorem Gap.Holds.not_both (h : escapeCharacter.Holds d text nested readPlaceholder ps issues l) :
    ¬ backslash.Holds d text nested readPlaceholder ps issues l := by
  rintro ⟨-, -, hne, hback, -⟩
  obtain ⟨-, ⟨c, hc, hraw⟩, -⟩ := h
  rw [hraw, String.ofList_inj, List.cons.injEq] at hback
  rw [hc, hback.1] at hne
  exact hne rfl

theorem Gap.Holds.unique (h : g.Holds d text nested readPlaceholder ps issues l)
    (h' : g'.Holds d text nested readPlaceholder ps issues l) : g = g' := by
  have hkind : g.elision = g'.elision := by
    have := h.kind_eq.symm.trans h'.kind_eq
    simpa using this
  cases g with
  | escapeCharacter =>
    cases g' with
    | escapeCharacter => rfl
    | backslash => exact absurd h' h.not_both
    | secondBrace => cases hkind
    | malformed => cases hkind
  | backslash =>
    cases g' with
    | escapeCharacter => exact absurd h h'.not_both
    | backslash => rfl
    | secondBrace => cases hkind
    | malformed => cases hkind
  | secondBrace => cases g' <;> first | rfl | cases hkind
  | malformed => cases g' <;> first | rfl | cases hkind

theorem Gap.Holds.mono (h : g.Holds d text nested readPlaceholder ps issues l)
    (hps : ps ⊆ qs) (hissues : issues ⊆ more) :
    g.Holds d text nested readPlaceholder qs more l := by
  have hbrace : BraceTextAt d ps l.stop → BraceTextAt d qs l.stop := by
    rintro ⟨next, b, hnext, hrest⟩
    exact ⟨next, b, hps hnext, hrest⟩
  cases g with
  | escapeCharacter =>
    obtain ⟨hkind, hmark, htext⟩ := h
    exact ⟨hkind, hmark, hbrace htext⟩
  | backslash =>
    obtain ⟨hkind, hliterals, hne, hmark, htext⟩ := h
    exact ⟨hkind, hliterals, hne, hmark, hbrace htext⟩
  | secondBrace => exact h
  | malformed =>
    obtain ⟨hkind, hnothing, hregion⟩ := h
    refine ⟨hkind, hnothing, ?_⟩
    cases hregion with
    | opening htext hstart hraw hread hregion hissue =>
      exact .opening htext hstart hraw hread hregion (hissues hissue)
    | closing htext hstart hraw hnested hissue =>
      exact .closing htext hstart hraw hnested (hissues hissue)

/-- Every piece of the run that stands for nothing is a gap of some kind. -/
def Run.Accounted (d : Dialect) (text : List Char) (nested : Bool)
    (readPlaceholder : Nat → List Char → Reading Placeholder) (issues : List Issue)
    (run : Run) : Prop :=
  ∀ l, Piece.literal l ∈ run.pieces → l.isElided = true →
    ∃ g : Gap, g.Holds d text nested readPlaceholder run.pieces issues l

variable {run : Run} {start : Nat}

theorem Run.Accounted.mono (h : run.Accounted d text nested readPlaceholder issues)
    (hissues : issues ⊆ more) : run.Accounted d text nested readPlaceholder more := by
  intro l hl helided
  obtain ⟨g, hg⟩ := h l hl helided
  exact ⟨g, hg.mono (List.Subset.refl _) hissues⟩

theorem Run.pieces_subset_piecesFrom (run : Run) (start : Nat) :
    run.pieces ⊆ run.piecesFrom start :=
  fun _ hq => Piece.mem_piecesFrom.mpr (.inr hq)

/-- A piece in front of a run that is accounted for is all that is left to account for. -/
theorem Run.Accounted.cons {q : Piece} (h : run.Accounted d text nested readPlaceholder issues)
    (hps : ps = q :: run.piecesFrom start)
    (hq : ∀ l, q = .literal l → l.isElided = true →
      ∃ g : Gap, g.Holds d text nested readPlaceholder ps issues l) (stop : Cursor) :
    Run.Accounted d text nested readPlaceholder issues ⟨[], ps, stop⟩ := by
  intro l hl helided
  have hmem : Piece.literal l ∈ q :: run.piecesFrom start := hps ▸ hl
  rcases List.mem_cons.mp hmem with heq | hl
  · exact hq l heq.symm helided
  · rcases Piece.mem_piecesFrom.mp hl with ⟨-, heq⟩ | hl
    · cases heq
      cases helided
    · obtain ⟨g, hg⟩ := h l hl helided
      refine ⟨g, hg.mono ?_ (List.Subset.refl _)⟩
      rw [hps]
      exact List.subset_cons_of_subset _ (run.pieces_subset_piecesFrom start)

theorem Run.Accounted.prependText {front : List Char}
    (h : run.Accounted d text nested readPlaceholder issues) :
    (run.prependText front).Accounted d text nested readPlaceholder issues := h

theorem Run.Accounted.prependItem {front : List Char} {kind : LiteralKind}
    (h : run.Accounted d text nested readPlaceholder issues)
    (hkind : ∀ why, kind ≠ .elided why) :
    (run.prependLiteral start front kind).Accounted d text nested readPlaceholder issues := by
  refine h.cons rfl ?_ run.stop
  rintro l heq helided
  cases heq
  cases kind with
  | elided why => exact absurd rfl (hkind why)
  | _ => cases helided

theorem Run.Accounted.prependElided {front : List Char} {why : Elision} (g : Gap)
    (h : run.Accounted d text nested readPlaceholder issues)
    (hg : g.Holds d text nested readPlaceholder
      (run.prependLiteral start front (.elided why)).pieces
      issues ⟨start, String.ofList front, .elided why⟩) :
    (run.prependLiteral start front (.elided why)).Accounted d text nested readPlaceholder
      issues := by
  refine h.cons rfl ?_ run.stop
  rintro l heq -
  cases heq
  exact ⟨g, hg⟩

theorem Run.Accounted.prependMalformed {front : List Char} {issue : Issue}
    (h : run.Accounted d text nested readPlaceholder issues) (hrecovers : d.recovers = true)
    (hregion : MalformedRegion d text nested readPlaceholder issues
      ⟨start, String.ofList front, .elided .malformed⟩) :
    (run.prependMalformed d start front issue).Accounted d text nested readPlaceholder issues := by
  unfold Run.prependMalformed
  cases hmalformed : d.onMalformed with
  | fail => simp [Dialect.recovers, hmalformed] at hrecovers
  | message => exact h.prependItem (by simp)
  | nothing => exact h.prependElided .malformed ⟨rfl, hmalformed, hregion⟩
  | asWritten =>
    intro l hl helided
    rcases Piece.mem_piecesFrom.mp hl with ⟨-, heq⟩ | hl
    · cases heq
      cases helided
    · obtain ⟨g, hg⟩ := h l hl helided
      exact ⟨g, hg.mono ((run.prependText front).pieces_subset_piecesFrom start)
        (List.Subset.refl _)⟩

/-- The literal text behind an escape begins with the brace that was escaped. -/
theorem braceTextAt_prependText {b : Char} (hb : d.isBrace b = true) (run : Run) (start : Nat)
    (q : Piece) : BraceTextAt d (q :: (run.prependText [b]).piecesFrom start) start := by
  refine ⟨⟨start, String.ofList (b :: run.lead), .text⟩, b, ?_, rfl, rfl, by simp, hb⟩
  simp [Run.piecesFrom, Run.prependText]

/-- Whatever a run has in the place of its text, no byte of it is lost without a reason. -/
theorem PiecesRead.accounted {position : Nat} {before inner rest : List Char}
    (h : PiecesRead d nested readPlaceholder position inner rest run issues)
    (htext : text = before ++ (inner ++ rest)) (hposition : position = utf8Width before) :
    run.Accounted d text nested readPlaceholder issues := by
  induction h generalizing before with
  | done _ =>
    intro l hl
    cases hl
  | @text position c inner rest run issues _ _ ih =>
    have hbefore : text = before ++ [c] ++ (inner ++ rest) := by simpa using htext
    exact (ih hbefore (by simp [hposition])).prependText
  | @braceEscape position c b inner rest run issues hrole _ ih =>
    have hbefore : text = before ++ [c, b] ++ (inner ++ rest) := by simpa using htext
    have hrun := ih hbefore (by simp [hposition, Nat.add_assoc])
    have hescape := Dialect.role_eq_braceEscape_iff.mp hrole
    simp only [Dialect.escapesBrace, Option.any_some, Bool.and_eq_true, Bool.or_eq_true,
      beq_iff_eq] at hescape
    obtain ⟨hmark, hb⟩ := hescape
    have hnext : BraceTextAt d ((run.prependText [b]).prependLiteral position [c]
        (.elided .escapeMark)).pieces
        (Literal.stop ⟨position, String.ofList [c], .elided .escapeMark⟩) := by
      rw [Literal.stop, utf8ByteSize_ofList]
      exact braceTextAt_prependText hb run _ _
    by_cases hc : d.escape = some c
    · exact hrun.prependText.prependElided .escapeCharacter ⟨rfl, ⟨c, hc, rfl⟩, hnext⟩
    · obtain ⟨hliterals, rfl⟩ := hmark.resolve_left hc
      exact hrun.prependText.prependElided .backslash ⟨rfl, hliterals, hc, rfl, hnext⟩
  | @charLiteral position c body inner rest run issues _ _ _ ih =>
    have hbefore : text = before ++ c :: body ++ (inner ++ rest) := by simpa using htext
    exact (ih hbefore (by simp [hposition, Nat.add_assoc])).prependItem (by simp)
  | @doubledBrace position c inner rest run issues hrole _ ih =>
    have hbefore : text = before ++ [c, c] ++ (inner ++ rest) := by simpa using htext
    have hrun := ih hbefore (by simp [hposition, Nat.add_assoc])
    obtain ⟨-, hc, hescape⟩ := Dialect.brace_of_doubledBrace hrole
    refine (hrun.prependElided .secondBrace ?_).prependText
    exact ⟨rfl, hescape, before, inner ++ rest, c, hc, htext, by simp [hposition], rfl⟩
  | @placeholder position body inner rest p run first second _ _ hstart hraw _ ih =>
    have hbefore : text = before ++ d.opening :: body ++ (inner ++ rest) := by simpa using htext
    have hstop : p.stop = utf8Width (before ++ d.opening :: body) := by
      rw [Placeholder.stop, hstart, hraw, utf8ByteSize_ofList, utf8Width_append, hposition]
    have hrun := (ih hbefore hstop).mono (List.subset_append_right first second)
    exact hrun.cons rfl (by rintro l heq; cases heq) run.stop
  | @malformed position body inner rest issue run first second hrecovers _ hread hregion _ ih =>
    have hbefore : text = before ++ d.opening :: body ++ (inner ++ rest) := by simpa using htext
    have hrun := ih hbefore (by simp [hposition, Nat.add_assoc])
    have hissues : second ⊆ first ++ issue :: second := fun i hi =>
      List.mem_append_right _ (List.mem_cons_of_mem _ hi)
    refine (hrun.mono hissues).prependMalformed hrecovers ?_
    exact .opening (by simpa using htext) hposition rfl hread hregion (by simp)
  | @unmatched position c inner rest run issues hrecovers hrole _ ih =>
    have hbefore : text = before ++ [c] ++ (inner ++ rest) := by simpa using htext
    have hrun := ih hbefore (by simp [hposition])
    obtain ⟨rfl, hnested⟩ := Dialect.closing_of_unmatched hrole
    refine (hrun.mono (List.subset_cons_self _ _)).prependMalformed hrecovers ?_
    exact .closing htext hposition rfl hnested (by simp)

/-- Why byte `b` belongs to no item of a format that stands in `text`. -/
def Gap.Explains (d : Dialect) (text : String) (issues : List Issue) (f : Format) (b : Nat)
    (g : Gap) : Prop :=
  ∃ l, Piece.literal l ∈ f.pieces ∧ (Piece.literal l).Covers b ∧
    g.Holds d text.toList (decide (f.depth ≠ 0))
      (readPlaceholderWithin d (d.maxDepth - f.depth) (f.depth + 1)) f.pieces issues l

end Gaps

section Tiling

/-- `part` is what stands in `text` from byte `start` on. -/
def StandsAt (text part : String) (start : Nat) : Prop :=
  ∃ before after, text = before ++ part ++ after ∧ before.utf8ByteSize = start

structure TilesText (d : Dialect) (text : String) (issues : List Issue) (f : Format) : Prop where
  stands : StandsAt text f.raw f.start
  item : ∀ q ∈ f.items, q.start < q.stop ∧ f.start ≤ q.start ∧ q.stop ≤ f.stop ∧
    StandsAt text q.raw q.start
  ordered : f.items.Pairwise fun p q => p.stop ≤ q.start
  gap : ∀ b, f.start ≤ b → b < f.stop → (∀ q ∈ f.items, ¬ q.Covers b) →
    ∃! g : Gap, g.Explains d text issues f b

variable {d : Dialect} {text : String} {issues : List Issue} {f : Format}

theorem standsAt_of_toList {part : String} {start : Nat} (before after : List Char)
    (htext : text.toList = before ++ (part.toList ++ after)) (hstart : utf8Width before = start) :
    StandsAt text part start := by
  refine ⟨String.ofList before, String.ofList after, ?_, ?_⟩
  · rw [← String.toList_inj]
    simp [htext]
  · rw [utf8ByteSize_ofList, hstart]

theorem Format.stop_eq (f : Format) : f.stop = f.start + utf8Width (piecesText f.pieces) := by
  rw [stop, ← toList_raw, utf8Width_toList]

theorem mem_items {q : Piece} : q ∈ f.items ↔ q ∈ f.pieces ∧ q.isElided = false := by
  simp [Format.items]

/-- A byte of consecutive pieces that no item covers is in a piece that stands for nothing. -/
theorem Consecutive.exists_elided {b : Nat} (h : Consecutive f.start f.pieces)
    (hstart : f.start ≤ b) (hstop : b < f.stop) (hitems : ∀ q ∈ f.items, ¬ q.Covers b) :
    ∃ l, Piece.literal l ∈ f.pieces ∧ l.isElided = true ∧ (Piece.literal l).Covers b := by
  obtain ⟨q, hq, hcovers⟩ := h.exists_covers hstart (f.stop_eq ▸ hstop)
  cases helided : q.isElided with
  | false => exact absurd hcovers (hitems q (mem_items.mpr ⟨hq, helided⟩))
  | true =>
    cases q with
    | literal l => exact ⟨l, hq, helided, hcovers⟩
    | placeholder p => cases helided

theorem Gap.Explains.unique {b : Nat} {g g' : Gap} (hpieces : Consecutive f.start f.pieces)
    (h : g.Explains d text issues f b) (h' : g'.Explains d text issues f b) : g = g' := by
  obtain ⟨l, hl, hcovers, hg⟩ := h
  obtain ⟨l', hl', hcovers', hg'⟩ := h'
  have heq := hpieces.eq_of_covers hl hl' hcovers hcovers'
  cases heq
  exact hg.unique hg'

theorem ReadAt.consecutive (h : ReadAt d text issues f) : Consecutive f.start f.pieces := by
  obtain ⟨levels, before, inner, after, run, own, -, -, -, hf, -, hread⟩ := h.reads
  rw [hf]
  exact hread.spells.piecesFrom.1

theorem ReadAt.standsAt (h : ReadAt d text issues f) : StandsAt text f.raw f.start := by
  obtain ⟨levels, before, inner, after, run, own, -, htext, hbefore, hf, -, hread⟩ := h.reads
  have hinner : f.raw.toList = inner := by
    rw [hf, Format.toList_raw]
    exact hread.spells.piecesFrom.2
  exact standsAt_of_toList before after (by rw [hinner, htext]) hbefore

theorem ReadAt.piece_standsAt (h : ReadAt d text issues f) {q : Piece} (hq : q ∈ f.pieces) :
    StandsAt text q.raw q.start := by
  obtain ⟨before, after, rfl, hbefore⟩ := h.standsAt
  obtain ⟨front, behind, hfront, hstart⟩ := h.consecutive.located hq
  refine standsAt_of_toList (before.toList ++ front) (behind ++ after.toList) ?_ ?_
  · simp [f.toList_raw, hfront]
  · simp [utf8Width_toList, hbefore, hstart]

theorem ReadAt.tilesText (h : ReadAt d text issues f) : TilesText d text issues f := by
  have hconsecutive := h.consecutive
  obtain ⟨levels, before, inner, after, run, own, hlevels, htext, hbefore, hf, hsub, hread⟩ :=
    h.reads
  have hpieces : f.pieces = run.piecesFrom f.start := by
    rw [hf]
    rfl
  have haccounted := (hread.accounted htext hbefore.symm).mono hsub
  refine ⟨h.standsAt, ?_, ?_, ?_⟩
  · intro q hq
    obtain ⟨hq, -⟩ := mem_items.mp hq
    exact ⟨Piece.start_lt_stop (hconsecutive.raw_ne hq), hconsecutive.le_start hq,
      f.stop_eq ▸ hconsecutive.stop_le hq, h.piece_standsAt hq⟩
  · exact hconsecutive.pairwise.sublist List.filter_sublist
  · intro b hstart hstop hitems
    obtain ⟨l, hl, helided, hcovers⟩ := hconsecutive.exists_elided hstart hstop hitems
    have hmem : Piece.literal l ∈ run.pieces := by
      rw [hpieces] at hl
      rcases Piece.mem_piecesFrom.mp hl with ⟨-, heq⟩ | hl
      · cases heq
        cases helided
      · exact hl
    obtain ⟨g, hg⟩ := haccounted l hmem helided
    have hdepth : d.maxDepth - f.depth = levels := by omega
    have hgap : g.Explains d text issues f b := by
      refine ⟨l, hl, hcovers, ?_⟩
      rw [hdepth, hpieces]
      exact hg.mono (run.pieces_subset_piecesFrom f.start) (List.Subset.refl _)
    exact ⟨g, hgap, fun g' hg' => hg'.unique hconsecutive hgap⟩

/-- A template that is read is kept whole: its format and the formats nested in it are tiled by
their items and by what may stand between them for a known reason. -/
theorem parse_tiles {t : Template} (h : Template.parse d text = .ok t) :
    t.format.start = 0 ∧ t.format.stop = text.utf8ByteSize ∧ t.format.raw = text ∧
      ∀ f, t.format.Within f → TilesText d text t.issues f ∧
        (d.onMalformed = .asWritten → ∀ b, ¬ Gap.malformed.Explains d text t.issues f b) := by
  obtain ⟨run, issues, rfl, hread⟩ := parse_eq_ok_iff.mp h
  have hraw : (run.toFormat 0 0).raw = text := by
    rw [← String.toList_inj, Format.toList_raw]
    exact hread.spells.piecesFrom.2
  refine ⟨rfl, ?_, hraw, fun f hf => ⟨?_, ?_⟩⟩
  · rw [Format.stop, hraw]
    exact Nat.zero_add _
  · exact (readAt_of_within h hf).tilesText
  · rintro hwritten b ⟨l, -, -, -, hnothing, -⟩
    rw [hwritten] at hnothing
    cases hnothing

/-- A doubled brace, a placeholder without its digits and a nested format next to each other. -/
theorem parse_tiles_recovered : ∃ t,
    Template.parse { onMalformed := .nothing } "x{{{a,}{b:{c}}}}" = .ok t ∧ t.format.stop = 16 ∧
      TilesText { onMalformed := .nothing } "x{{{a,}{b:{c}}}}" t.issues t.format := by
  have hany : (Template.parse { onMalformed := .nothing } "x{{{a,}{b:{c}}}}").toOption.any
      (fun _ => true) = true := by
    decide +kernel
  obtain ⟨t, hread, -⟩ := exists_parse_of_any hany
  obtain ⟨-, hstop, -, htiles⟩ := parse_tiles hread
  exact ⟨t, hread, hstop, (htiles _ .self).1⟩

end Tiling

end Stencil
