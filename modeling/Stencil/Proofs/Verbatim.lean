import Stencil.Proofs.Reading.Delimiters
import Stencil.Proofs.Recovery
import Stencil.Proofs.Render.Steps
import Stencil.Proofs.Session.Reached
import Stencil.Proofs.Template.Sections
import Stencil.Proofs.Tiling

/-!
# Templates that come back as they are

If malformed parts and failed placeholders are left as they were written, and no character of a
template has a meaning besides that of delimiters, an engine that can render nothing gives the
template back, with every placeholder on record.
-/

namespace Stencil

set_option autoImplicit false

/-- Nothing is escaped but behind `mark`, and what is malformed is kept as it was written. -/
structure Dialect.Verbatim (d : Dialect) (mark : Char) : Prop where
  escape : d.escape = some mark
  literals : d.charLiterals = false
  malformed : d.onMalformed = .asWritten

/-- All literals are text that stands for itself. -/
def PlainPieces (ps : List Piece) : Prop := ∀ l, Piece.literal l ∈ ps → l.kind = .text

section Reading

variable {d : Dialect} {mark : Char} {nested : Bool}
  {readPlaceholder : Nat → List Char → Reading Placeholder} {position : Nat}
  {text rest : List Char} {run : Run} {issues : List Issue}

theorem Dialect.Verbatim.eq_mark (hd : d.Verbatim mark) {c : Char} {next : Option Char}
    (hrole : d.role nested c next = .braceEscape) : c = mark := by
  have hescape := Dialect.role_eq_braceEscape_iff.mp hrole
  simp only [Dialect.escapesBrace, hd.escape, hd.literals, Bool.false_and, Bool.or_false,
    Bool.and_eq_true, beq_iff_eq, Option.some.injEq] at hescape
  exact hescape.1.symm

theorem PlainPieces.piecesFrom (h : PlainPieces run.pieces) (start : Nat) :
    PlainPieces (run.piecesFrom start) := by
  intro l hl
  rcases Piece.mem_piecesFrom.mp hl with ⟨-, heq⟩ | hl
  · cases heq
    rfl
  · exact h l hl

/-- No literal is read as anything but text where the escape character does not occur. -/
theorem PiecesRead.plainPieces (hd : d.Verbatim mark)
    (h : PiecesRead d nested readPlaceholder position text rest run issues) (hmark : mark ∉ text) :
    PlainPieces run.pieces := by
  have hwritten {r : Run} (hr : PlainPieces r.pieces) (start : Nat) (region : List Char)
      (issue : Issue) : PlainPieces (r.prependMalformed d start region issue).pieces := by
    simp only [Run.prependMalformed, hd.malformed]
    have hlonger : PlainPieces (r.prependText region).pieces := hr
    exact hlonger.piecesFrom start
  induction h with
  | done _ => exact fun l hl => by cases hl
  | text _ _ ih => exact ih fun h => hmark (List.mem_cons_of_mem _ h)
  | braceEscape hrole _ _ =>
    rw [hd.eq_mark hrole] at hmark
    exact absurd List.mem_cons_self hmark
  | charLiteral hrole _ _ _ =>
    have hliterals := (Dialect.charLiterals_of_role hrole).1
    rw [hd.literals] at hliterals
    cases hliterals
  | doubledBrace hrole _ _ =>
    have hescape := (Dialect.brace_of_doubledBrace hrole).2.2
    rw [hd.escape] at hescape
    cases hescape
  | @placeholder _ _ _ _ p _ _ _ _ _ _ _ _ ih =>
    intro l hl
    simp only [Run.prependPlaceholder, List.mem_cons, reduceCtorEq, false_or] at hl
    exact (ih fun h => hmark (List.mem_append_right _ h)).piecesFrom p.stop l hl
  | malformed _ _ _ _ _ ih =>
    exact hwritten (ih fun h => hmark (List.mem_append_right _ h)) _ _ _
  | unmatched _ _ _ ih => exact hwritten (ih fun h => hmark (List.mem_cons_of_mem _ h)) _ _ _

end Reading

section Rendering

variable {c : Call}

/-- A placeholder that nothing formats fails, and leaves the draft as it was. -/
theorem exists_error_of_attempt (hformatters : c.formatters = [])
    (nest : Format → Value → RenderM Unit) (s : Scope) (p : Placeholder) :
    ∃ err, err.isRecoverable = true ∧
      ∀ d : Draft, d.through (c.attempt nest s p) = (.error err, d) := by
  cases hresolved : c.resolve s p with
  | error selector =>
    refine ⟨.unresolved p.raw selector, rfl, fun d => ?_⟩
    simp only [Call.attempt, hresolved, through_throw]
  | ok v =>
    refine ⟨.unformatted p.raw (.noFormatter p.name), rfl, fun d => ?_⟩
    simp only [Call.attempt, hresolved, Call.dispatch, hformatters, List.filter_nil,
      tryFormatters, through_throw]

theorem through_renderPieces_plain (hformatters : c.formatters = [])
    (haction : c.settings.onFailure = .asWritten)
    (nest : Placeholder → Format → Value → RenderM Unit) (s : Scope) {ps : List Piece}
    (hplain : PlainPieces ps) (out : String) (failed : List Failure) :
    ∃ failures, Draft.through ⟨out, failed, false⟩ (c.renderPieces nest s ps) =
        (.ok (), ⟨out ++ String.join (ps.map Piece.raw), failed ++ failures, false⟩) ∧
      failures.map (fun f => (f.placeholder, f.position)) =
        (placeholdersIn ps).map fun p => (p.raw, p.start) := by
  induction ps generalizing out failed with
  | nil => exact ⟨[], by simp [Call.renderPieces], rfl⟩
  | cons piece ps ih =>
    have hlater : PlainPieces ps := fun l hl => hplain l (List.mem_cons_of_mem _ hl)
    cases piece with
    | literal l =>
      have hrendered : l.rendered = l.raw := by
        simp only [Literal.rendered, hplain l List.mem_cons_self]
      obtain ⟨failures, hrun, hfailures⟩ := ih hlater (out ++ l.raw) failed
      refine ⟨failures, ?_, hfailures⟩
      rw [Call.renderPieces, hrendered, through_bind_ok (through_modify _ _), Draft.write, hrun]
      simp [Piece.raw, String.append_assoc]
    | placeholder p =>
      obtain ⟨err, herr, hattempt⟩ := exists_error_of_attempt hformatters (nest p) s p
      have hplaceholder : Draft.through ⟨out, failed, false⟩ (c.renderPlaceholder (nest p) s p) =
          (.ok (), ⟨out ++ p.raw, failed ++ [⟨p.raw, p.start, err⟩], false⟩) := by
        rw [c.through_renderPlaceholder (nest p) s p (hattempt _), Call.conclude,
          through_handleFailure, haction, through_recordFailure _ p err (by decide), herr]
        rfl
      obtain ⟨failures, hrun, hfailures⟩ := ih hlater (out ++ p.raw) _
      refine ⟨⟨p.raw, p.start, err⟩ :: failures, ?_, ?_⟩
      · rw [Call.renderPieces, through_bind_ok hplaceholder, hrun]
        simp [Piece.raw, String.append_assoc]
      · simpa [placeholdersIn, Piece.placeholder?] using hfailures

end Rendering

section Engines

variable {e : Engine} {cache : Option Cache} {mark : Char} {text : String}

/-- Where everything malformed is kept, a template is read or nests too deep. -/
theorem parse_tooDeep_or_ok {d : Dialect} (hd : d.onMalformed = .asWritten) (text : String) :
    (∃ position max, Template.parse d text = .error (.tooDeep position max)) ∨
      ∃ t, Template.parse d text = .ok t := by
  have hsame : d.withAction .asWritten = d := by rw [Dialect.withAction, ← hd]
  have hkept : ErrorAction.asWritten ≠ .fail := by decide
  have hcases := @parse_alike d text .asWritten .asWritten hkept hkept
  rw [hsame] at hcases
  rcases hcases with ⟨position, max, hdeep, -⟩ | ⟨t, -, ht, -⟩
  · exact .inl ⟨position, max, hdeep⟩
  · exact .inr ⟨t, ht⟩

theorem parse_placeholders_pairwise {d : Dialect} {t : Template}
    (h : Template.parse d text = .ok t) :
    (t.format.placeholders.map Placeholder.start).Pairwise (· < ·) := by
  obtain ⟨run, issues, rfl, hread⟩ := parse_eq_ok_iff.mp h
  have hconsecutive := hread.spells.piecesFrom.1
  rw [List.pairwise_map, Format.placeholders, List.pairwise_filterMap]
  refine hconsecutive.pairwise.imp_of_mem ?_
  intro q r hq hr hqr p hp p' hp'
  have hlt := Piece.start_lt_stop (hconsecutive.raw_ne hq)
  cases q with
  | literal l => cases hp
  | placeholder q =>
    cases r with
    | literal l => cases hp'
    | placeholder r =>
      cases hp
      cases hp'
      exact Nat.lt_of_lt_of_le hlt hqr

/-- An engine without formatters, whatever its sources, gives a template back as it was written,
with a failure on record for each of its placeholders, or finds that it nests too deep. -/
theorem format_verbatim (he : e.Reached cache)
    (hformatters : e.formatters = []) (hdialect : e.settings.dialect.Verbatim mark)
    (haction : e.settings.onFailure = .asWritten) (hmark : mark ∉ text.toList)
    (args : List Value) :
    (∃ position max, (e.format cache text args).1 = .error (.tooDeep position max)) ∨
      ∃ t failures, (e.parse cache text).1 = .ok t ∧
        (e.format cache text args).1 = .ok ⟨text, failures⟩ ∧
        failures.map (fun f => (f.placeholder, f.position)) =
          t.template.format.placeholders.map (fun p => (p.raw, p.start)) ∧
        (failures.map Failure.position).Pairwise (· < ·) := by
  obtain ⟨hcurrent, hsound⟩ := he.settled
  have hd : e.dialect.Verbatim mark := by
    rw [hcurrent.dialect_eq]
    exact ⟨hdialect.escape, hdialect.literals, hdialect.malformed⟩
  rcases parse_tooDeep_or_ok hd.malformed text with ⟨position, max, hdeep⟩ | ⟨t, ht⟩
  · exact .inl ⟨position, max, by rw [e.format_eq_bind hsound, hdeep]; rfl⟩
  · right
    obtain ⟨shared, hshared, rfl⟩ := e.exists_shared_of_parse hsound ht
    have hplain : PlainPieces shared.template.format.pieces := by
      obtain ⟨run, issues, hrun, hread⟩ := parse_eq_ok_iff.mp ht
      rw [hrun]
      exact (hread.plainPieces hd hmark).piecesFrom 0
    have hraw : shared.template.format.raw = text := (parse_tiles ht).2.2.1
    let c := e.call (e.cached (e.parse cache text).2) shared.template args
    have hplain' : PlainPieces c.template.format.pieces := hplain
    obtain ⟨failures, hrun, hfailures⟩ := through_renderPieces_plain (c := c) hformatters haction
      (c.nestWithin c.settings.dialect.maxDepth c.root) c.root hplain' "" []
    have hrendered : c.render = .ok ⟨text, failures⟩ := by
      rw [Call.render_eq, Call.finished, Call.renderFormat_eq, hrun]
      simp [← hraw, Format.raw, Except.map, c, Engine.call]
    refine ⟨shared, failures, hshared, ?_, hfailures, ?_⟩
    · exact (e.format_of_parse hsound ht args).trans hrendered
    · have hpositions : failures.map Failure.position =
          shared.template.format.placeholders.map Placeholder.start := by
        have hsnd := congrArg (List.map Prod.snd) hfailures
        rwa [List.map_map, List.map_map] at hsnd
      rw [hpositions]
      exact parse_placeholders_pairwise ht

def idleEngine : Engine where
  settings := { dialect := { escape := some '$', onMalformed := .asWritten }
                onFailure := .asWritten }
  sources := [.argument, .member]
  now := ⟨0, 0⟩

/-- A brace too many at either end, a malformed placeholder, and two that nothing formats. -/
theorem format_verbatim_unbalanced :
    idleEngine.Reached none ∧ idleEngine.formatters = [] ∧
      idleEngine.settings.dialect.Verbatim '$' ∧ idleEngine.settings.onFailure = .asWritten ∧
      '$' ∉ "\x7d{a..b}{0:{b}}{}\x7b{}".toList ∧
      ∃ t failures, (idleEngine.parse none "\x7d{a..b}{0:{b}}{}\x7b{}").1 = .ok t ∧
        (idleEngine.format none "\x7d{a..b}{0:{b}}{}\x7b{}" [.null]).1 =
          .ok ⟨"\x7d{a..b}{0:{b}}{}\x7b{}", failures⟩ ∧
        failures.map Failure.position = [7, 14] := by
  have hreached : idleEngine.Reached none := .of_kept_eq_none rfl
  have hverbatim : idleEngine.settings.dialect.Verbatim '$' := ⟨rfl, rfl, rfl⟩
  have hmark : '$' ∉ "\x7d{a..b}{0:{b}}{}\x7b{}".toList := by decide
  have hpositions : (idleEngine.format none "\x7d{a..b}{0:{b}}{}\x7b{}" [.null]).1.toOption.map
      (fun r => r.failures.map Failure.position) = some [7, 14] := by
    decide +kernel
  refine ⟨hreached, rfl, hverbatim, rfl, hmark, ?_⟩
  rcases format_verbatim hreached rfl hverbatim rfl hmark [.null] with
    ⟨position, max, hdeep⟩ | ⟨t, failures, hread, hrendered, -, -⟩
  · rw [hdeep] at hpositions
    cases hpositions
  · rw [hrendered] at hpositions
    exact ⟨t, failures, hread, hrendered, Option.some.inj hpositions⟩

end Engines

end Stencil
