import Stencil.Engine

/-!
# Steps of a render

What each step of a render does to a draft, and how a fact about the rendering of one placeholder
becomes one about the rendering of a whole format: by the pieces of the format, and by the levels
that may still be opened.
-/

namespace Stencil

set_option autoImplicit false

/-- The outcome of a step on a draft, and the draft it leaves. -/
def Draft.through {α : Type} (d : Draft) (step : RenderM α) : Except Error α × Draft :=
  (step.run.run d).run

section Steps

variable {α β : Type} (d : Draft)

@[simp] theorem through_pure (a : α) : d.through (pure a) = (.ok a, d) := rfl

@[simp] theorem through_throw (e : Error) : d.through (throw e : RenderM α) = (.error e, d) := rfl

@[simp] theorem through_get : d.through get = (.ok d, d) := rfl

@[simp] theorem through_modify (g : Draft → Draft) : d.through (modify g) = (.ok (), g d) := rfl

theorem through_bind (step : RenderM α) (next : α → RenderM β) :
    d.through (step >>= next) =
      match d.through step with
      | (.ok a, d') => d'.through (next a)
      | (.error e, d') => (.error e, d') := by
  change (match d.through step with
    | (r, d') => (StateT.run (ExceptT.bindCont next r) d').run) = _
  rcases d.through step with ⟨e | a, d'⟩ <;> rfl

theorem through_bind_ok {d d' : Draft} {step : RenderM α} {a : α}
    (h : d.through step = (.ok a, d')) (next : α → RenderM β) :
    d.through (step >>= next) = d'.through (next a) := by
  rw [through_bind, h]

theorem through_bind_error {d d' : Draft} {step : RenderM α} {e : Error}
    (h : d.through step = (.error e, d')) (next : α → RenderM β) :
    d.through (step >>= next) = (.error e, d') := by
  rw [through_bind, h]

@[simp] theorem through_abandon (e : Error) :
    d.through (abandon e) = (.error e, { d with aborting := true }) := rfl

theorem through_onBlankPage (step : RenderM Unit) :
    d.through (onBlankPage step) =
      (.ok ((({ d with out := "" } : Draft).through step).2.out,
        (({ d with out := "" } : Draft).through step).1),
        { (({ d with out := "" } : Draft).through step).2 with out := d.out }) := rfl

/-- Steps that do the same to every draft are the same. -/
theorem step_ext {step step' : RenderM α} (h : ∀ d : Draft, d.through step = d.through step') :
    step = step' := funext h

end Steps

section Scripts

variable {α : Type} (d : Draft) (nest : Format → Value → RenderM Unit)

@[simp] theorem through_run_done (a : α) : d.through ((Script.done a).run nest) = (.ok a, d) := rfl

@[simp] theorem through_run_fail (e : Error) :
    d.through ((Script.fail e : Script α).run nest) = (.error e, d) := rfl

@[simp] theorem through_run_write (text : String) (next : Script α) :
    d.through ((Script.write text next).run nest) = (d.write text).through (next.run nest) := rfl

@[simp] theorem through_run_nested (f : Format) (v : Value)
    (next : Except Error Unit → Script α) :
    d.through ((Script.nested f v next).run nest) =
      (d.through (nest f v)).2.through ((next (d.through (nest f v)).1).run nest) := rfl

@[simp] theorem through_run_failures (next : List Failure → Script α) :
    d.through ((Script.failures next).run nest) = d.through ((next d.failures).run nest) := rfl

end Scripts

section Failing

variable (d : Draft) (p : Placeholder) (e : Error)

theorem Error.eq_tooDeep {e : Error} (h : e.isRecoverable = false) :
    ∃ position max, e = .tooDeep position max := by
  cases e with
  | tooDeep position max => exact ⟨position, max, rfl⟩
  | _ => cases h

/-- What stands in the place of a failed placeholder. -/
def ErrorAction.replacement (p : Placeholder) (e : Error) : ErrorAction → String
  | .fail | .nothing => ""
  | .message => e.message
  | .asWritten => p.raw

/-- With a failed placeholder on record. -/
def Draft.record (d : Draft) (p : Placeholder) (e : Error) : Draft :=
  { d with failures := d.failures ++ [⟨p.raw, p.start, e⟩] }

@[simp] theorem through_recordFailure_fail :
    d.through (recordFailure .fail p e) = (.error e, { d.record p e with aborting := true }) := rfl

theorem through_recordFailure {action : ErrorAction} (h : action ≠ .fail) :
    d.through (recordFailure action p e) =
      (.ok (), (d.record p e).write (action.replacement p e)) := by
  cases action with
  | fail => exact absurd rfl h
  | message => rfl
  | nothing => simp [recordFailure, Draft.record, Draft.write, ErrorAction.replacement]
  | asWritten => rfl

theorem through_handleFailure (action : ErrorAction) :
    d.through (handleFailure action p e) =
      if d.aborting || !e.isRecoverable then (.error e, { d with aborting := true })
      else d.through (recordFailure action p e) := by
  simp only [handleFailure, through_bind, through_get]
  split <;> rfl

end Failing

section Formatters

theorem tryFormatters_congr {run run' : Formatter → RenderM Bool} {fs : List Formatter}
    (h : ∀ f ∈ fs, run f = run' f) (none : Error) :
    tryFormatters run none fs = tryFormatters run' none fs := by
  induction fs with
  | nil => rfl
  | cons f fs ih =>
    have hlater := ih fun g hg => h g (List.mem_cons_of_mem f hg)
    simp only [tryFormatters, h f List.mem_cons_self, hlater]

variable {d d' : Draft} {run : Formatter → RenderM Bool} {f : Formatter}
  (none : Error) (fs : List Formatter)

theorem through_tryFormatters_handled (h : d.through (run f) = (.ok true, d')) :
    d.through (tryFormatters run none (f :: fs)) = (.ok (), d') := by
  simp [tryFormatters, through_bind, h]

theorem through_tryFormatters_declined (h : d.through (run f) = (.ok false, d')) :
    d.through (tryFormatters run none (f :: fs)) =
      (d'.rewind d.mark).through (tryFormatters run none fs) := by
  simp [tryFormatters, through_bind, h]

theorem through_tryFormatters_failed {e : Error} (h : d.through (run f) = (.error e, d')) :
    d.through (tryFormatters run none (f :: fs)) = (.error e, d') := by
  simp [tryFormatters, through_bind, h]

end Formatters

namespace Call

section Resolution

variable {c c' : Call} (hsources : c.sources = c'.sources) (hargs : c.args = c'.args)
  (hcase : c.settings.caseSensitivity = c'.settings.caseSensitivity)
include hsources hargs hcase

theorem ask_query_congr (selector : String) (i : Nat) (atRoot : Bool) (v : Value) :
    c.ask (c.query selector i atRoot v) = c'.ask (c'.query selector i atRoot v) := by
  simp only [ask, query, hsources, hargs, hcase]

theorem resolveFirst_congr (selector : String) (v : Value) (ws : List Value) :
    c.resolveFirst selector v ws = c'.resolveFirst selector v ws := by
  have hask := ask_query_congr hsources hargs hcase selector 0
  induction ws generalizing v with
  | nil => exact hask true v
  | cons w ws ih => simp only [resolveFirst, hask, ih]

theorem resolveLater_congr (v : Value) (i : Nat) (path : List String) :
    c.resolveLater v i path = c'.resolveLater v i path := by
  induction path generalizing v i with
  | nil => rfl
  | cons selector later ih =>
    simp only [resolveLater, ask_query_congr hsources hargs hcase selector i, ih]

/-- What a placeholder stands for depends on the sources, the arguments and the way names are
compared. -/
theorem resolve_congr (s : Scope) (p : Placeholder) : c.resolve s p = c'.resolve s p := by
  simp only [resolve, resolveFirst_congr hsources hargs hcase,
    resolveLater_congr hsources hargs hcase]

end Resolution

variable (c : Call) (nest : Format → Value → RenderM Unit) (s : Scope) (p : Placeholder)

/-- Looks a placeholder up and writes its value. -/
def attempt : RenderM Unit :=
  match c.resolve s p with
  | .ok v => c.dispatch nest p v
  | .error selector => throw (.unresolved p.raw selector)

/-- Puts what became of a placeholder into the draft. -/
def conclude (c : Call) (p : Placeholder) (text : String) : Except Error Unit → RenderM Unit
  | .ok () => modify (·.write (align p.alignment text))
  | .error e => handleFailure c.settings.onFailure p e

theorem renderPlaceholder_eq :
    c.renderPlaceholder nest s p =
      onBlankPage (c.attempt nest s p) >>= fun tried => c.conclude p tried.1 tried.2 := by
  unfold renderPlaceholder attempt
  congr 1

/-- A placeholder is tried on a page of its own, and concluded on the page before it. -/
theorem through_renderPlaceholder {d d' : Draft} {r : Except Error Unit}
    (h : Draft.through { d with out := "" } (c.attempt nest s p) = (r, d')) :
    d.through (c.renderPlaceholder nest s p) =
      ({ d' with out := d.out } : Draft).through (c.conclude p d'.out r) := by
  rw [renderPlaceholder_eq, through_bind_ok (through_onBlankPage d (c.attempt nest s p)), h]

/-- A placeholder that ends a render does so with the error of its own. -/
theorem eq_error_of_conclude {d d' : Draft} {text : String} {r : Except Error Unit} {e : Error}
    (h : d.through (c.conclude p text r) = (.error e, d')) : r = .error e := by
  cases r with
  | ok u => cases h
  | error e' =>
    rw [conclude, through_handleFailure] at h
    split at h
    · cases h
      rfl
    · by_cases haction : c.settings.onFailure = .fail
      · rw [haction, through_recordFailure_fail] at h
        cases h
        rfl
      · rw [through_recordFailure d p e' haction] at h
        cases h

/-- The renderer of the formats nested in a placeholder, where `levels` levels may be opened. -/
def nestWithin (levels : Nat) (s : Scope) (p : Placeholder) (f : Format) (v : Value) :
    RenderM Unit :=
  match levels with
  | 0 => abandon (.tooDeep p.start c.settings.dialect.maxDepth)
  | levels + 1 => c.renderFormat levels (s.enter v) f

/-- Carries a formatter out for a placeholder, where `levels` levels may be opened. -/
def formatWithin (levels : Nat) (s : Scope) (p : Placeholder) (v : Value) (f : Formatter) :
    RenderM Bool :=
  (f.format (c.request p v)).run (c.nestWithin levels s p)

/-- Where `levels` levels may be opened, nested formats are rendered by `nestWithin`. -/
theorem renderFormat_eq (levels : Nat) (f : Format) :
    c.renderFormat levels s f = c.renderPieces (c.nestWithin levels s) s f.pieces := by
  cases levels <;> rfl

/-- The scope that a template is rendered in. -/
def root : Scope := { value := c.args.head?.getD .null }

/-- How the rendering of the whole template ends, and the draft it leaves. -/
def finished : Except Error Unit × Draft :=
  ({} : Draft).through (c.renderFormat c.settings.dialect.maxDepth c.root c.template.format)

theorem render_eq :
    c.render = c.finished.1.map fun () => ⟨c.finished.2.out, c.finished.2.failures⟩ := rfl

end Call

/-- The call in which an engine renders a template. -/
def Engine.call (e : Engine) (cached : Option Nat) (t : Template) (args : List Value) : Call :=
  { e with template := t, args, cached, dialect := e.dialect }

theorem Engine.renderTemplate_eq (e : Engine) (cached : Option Nat) (t : Template)
    (args : List Value) : e.renderTemplate cached t args = (e.call cached t args).render := rfl

/-- When steps of two calls correspond, in such a way that the renderings of a placeholder do if
those of its nested formats do. -/
structure RenderSimulation (c c' : Call) where
  rel : RenderM Unit → RenderM Unit → Prop
  done : rel (pure ()) (pure ())
  write : ∀ text : String, rel (modify (·.write text)) (modify (·.write text))
  seq : ∀ {first first' second second' : RenderM Unit}, rel first first' → rel second second' →
    rel (first >>= fun _ => second) (first' >>= fun _ => second')
  tooDeep : ∀ p : Placeholder, rel (abandon (.tooDeep p.start c.settings.dialect.maxDepth))
    (abandon (.tooDeep p.start c'.settings.dialect.maxDepth))
  placeholder : ∀ {nest nest' : Format → Value → RenderM Unit} (s : Scope) (p : Placeholder),
    (∀ f v, rel (nest f v) (nest' f v)) →
    rel (c.renderPlaceholder nest s p) (c'.renderPlaceholder nest' s p)

namespace RenderSimulation

variable {c c' : Call} (sim : RenderSimulation c c')

theorem renderPieces {nest nest' : Placeholder → Format → Value → RenderM Unit} (s : Scope)
    (h : ∀ p f v, sim.rel (nest p f v) (nest' p f v)) (ps : List Piece) :
    sim.rel (c.renderPieces nest s ps) (c'.renderPieces nest' s ps) := by
  induction ps with
  | nil => exact sim.done
  | cons p ps ih =>
    cases p with
    | literal l => exact sim.seq (sim.write l.rendered) ih
    | placeholder p => exact sim.seq (sim.placeholder s p (h p)) ih

theorem renderFormat (levels : Nat) (s : Scope) (f : Format) :
    sim.rel (c.renderFormat levels s f) (c'.renderFormat levels s f) := by
  induction levels generalizing s f with
  | zero => exact sim.renderPieces s (fun p _ _ => sim.tooDeep p) f.pieces
  | succ levels ih => exact sim.renderPieces s (fun _ f' v => ih (s.enter v) f') f.pieces

theorem nestWithin (levels : Nat) (s : Scope) (p : Placeholder) (f : Format) (v : Value) :
    sim.rel (c.nestWithin levels s p f v) (c'.nestWithin levels s p f v) := by
  cases levels with
  | zero => exact sim.tooDeep p
  | succ levels => exact sim.renderFormat levels (s.enter v) f

end RenderSimulation

end Stencil
