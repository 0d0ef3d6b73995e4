import Stencil.Sample
import Stencil.Proofs.Reading.Placeholder
import Stencil.Proofs.Render.Growth
import Stencil.Proofs.Render.Scripts

/-!
# Failures that are contained

Unless failures are to end the call, a placeholder that fails is put on record and replaced, and the
render goes on. That holds as long as the call is not being abandoned, and only an error that is
never replaced makes it so. A formatter that takes such an error for a success leaves a call that is
being abandoned behind it, and then the next failure ends the call after all; so does its own, if it
makes a failure of another kind of such an error.
-/

namespace Stencil

set_option autoImplicit false

section Outcomes

variable {α : Type}

/-- If this is a success that `counts`, or a failure that can be replaced, the call goes on. -/
def Intact (counts : α → Prop) (d : Draft) : Except Error α → Prop
  | .ok a => counts a → d.aborting = false
  | .error e => e.isRecoverable = true → d.aborting = false

/-- A success after which the call goes on, or an error that is never replaced. -/
def Settled (d : Draft) : Except Error Unit → Prop
  | .ok () => d.aborting = false
  | .error e => e.isRecoverable = false

/-- No success, and no failure that can be replaced. -/
def Futile : Except Error Bool → Prop
  | .ok handled => handled = false
  | .error e => e.isRecoverable = false

theorem Futile.intact {r : Except Error Bool} (h : Futile r) (d : Draft) :
    Intact (· = true) d r := by
  cases r with
  | ok handled =>
    intro htrue
    exact absurd (htrue.symm.trans h) (by decide)
  | error e =>
    intro he
    exact absurd (he.symm.trans h) (by decide)

/-- What a step of a call that goes on is like, given how it may end. -/
def Sound (ends : Draft → Except Error α → Prop) (step : RenderM α) : Prop :=
  ∀ d : Draft, d.aborting = false → ends (d.through step).2 (d.through step).1

/-- The step fails only with an error that is never replaced. -/
abbrev Contained (step : RenderM Unit) : Prop := Sound Settled step

end Outcomes

section Scripts

variable {nest : Format → Value → RenderM Unit} {s : Script Bool}

theorem Script.GivesUp.futile (h : s.GivesUp) (d : Draft) :
    Futile (d.through (s.run nest)).1 := by
  induction s generalizing d with
  | done handled => exact h
  | fail e => exact h
  | write text next ih => exact ih h (d.write text)
  | nested f v next ih => exact ih _ (h _) _
  | failures next ih => exact ih _ (h _) d

theorem Script.Yields.sound (hnest : ∀ f v, Contained (nest f v)) (h : s.Yields) :
    Sound (Intact (· = true)) (s.run nest) := by
  induction s with
  | done handled => exact fun d hd _ => hd
  | fail e => exact fun d hd _ => hd
  | write text next ih => exact fun d hd => ih h (d.write text) hd
  | failures next ih => exact fun d hd => ih _ (h _) d hd
  | nested f v next ih =>
    intro d hd
    obtain ⟨hok, herror⟩ := h
    have hinner := hnest f v d hd
    rw [through_run_nested]
    rcases hr : d.through (nest f v) with ⟨e | u, d'⟩ <;> rw [hr] at hinner
    · exact (((herror e).2 hinner).futile d').intact _
    · exact ih _ hok d' hinner

theorem sound_tryFormatters {run : Formatter → RenderM Bool} {fs : List Formatter}
    (hrun : ∀ f ∈ fs, Sound (Intact (· = true)) (run f)) (none : Error) :
    Sound (Intact fun _ => True) (tryFormatters run none fs) := by
  induction fs with
  | nil => exact fun d hd _ => hd
  | cons f fs ih =>
    intro d hd
    have hfirst := hrun f List.mem_cons_self d hd
    rcases hr : d.through (run f) with ⟨e | handled, d'⟩ <;> rw [hr] at hfirst
    · rw [through_tryFormatters_failed none fs hr]
      exact hfirst
    · cases handled with
      | true =>
        rw [through_tryFormatters_handled none fs hr]
        exact fun _ => hfirst rfl
      | false =>
        rw [through_tryFormatters_declined none fs hr]
        exact ih (fun g hg => hrun g (List.mem_cons_of_mem _ hg)) (d'.rewind d.mark) hd

end Scripts

namespace Call

variable {c : Call} {nest : Format → Value → RenderM Unit}

theorem sound_attempt (hyields : ∀ f ∈ c.formatters, ∀ r, (f.format r).Yields)
    (hnest : ∀ f v, Contained (nest f v)) (s : Scope) (p : Placeholder) :
    Sound (Intact fun _ => True) (c.attempt nest s p) := by
  unfold attempt
  split
  · refine sound_tryFormatters (fun f hf => ?_) _
    exact (hyields f (List.mem_filter.mp hf).1 _).sound hnest
  · exact fun d hd _ => hd

variable (haction : c.settings.onFailure ≠ .fail)
include haction

/-- A placeholder that failed in a call that goes on is put on record and replaced. -/
theorem through_conclude_error {d : Draft} (hd : d.aborting = false) {e : Error}
    (he : e.isRecoverable = true) (p : Placeholder) (text : String) :
    d.through (c.conclude p text (.error e)) =
      (.ok (), (d.record p e).write (c.settings.onFailure.replacement p e)) := by
  rw [conclude, through_handleFailure, through_recordFailure d p e haction]
  simp [hd, he]

theorem settled_conclude {d : Draft} {r : Except Error Unit} (hr : Intact (fun _ => True) d r)
    (p : Placeholder) (text : String) :
    Settled (d.through (c.conclude p text r)).2 (d.through (c.conclude p text r)).1 := by
  cases r with
  | ok u => exact hr trivial
  | error e =>
    cases he : e.isRecoverable with
    | true =>
      rw [through_conclude_error haction (hr he) he]
      exact hr he
    | false =>
      rw [conclude, through_handleFailure, he]
      simp only [Bool.not_false, Bool.or_true, if_true]
      exact he

variable (hyields : ∀ f ∈ c.formatters, ∀ r, (f.format r).Yields)
include hyields

theorem contained_renderPlaceholder (hnest : ∀ f v, Contained (nest f v)) (s : Scope)
    (p : Placeholder) : Contained (c.renderPlaceholder nest s p) := by
  intro d hd
  have htried := sound_attempt hyields hnest s p { d with out := "" } hd
  rcases hr : Draft.through { d with out := "" } (c.attempt nest s p) with ⟨r, d'⟩
  rw [hr] at htried
  rw [c.through_renderPlaceholder nest s p hr]
  have hback : Intact (fun _ => True) { d' with out := d.out } r := by
    cases r <;> exact htried
  exact settled_conclude haction hback p d'.out

/-- Containment as a simulation of a call by itself. -/
def containment : RenderSimulation c c where
  rel step _ := Contained step
  done := fun d hd => hd
  write text := fun d hd => hd
  seq := by
    intro first _ second _ hfirst hsecond d hd
    have hcase := hfirst d hd
    rcases hr : d.through first with ⟨e | u, d'⟩ <;> rw [hr] at hcase
    · rw [through_bind_error hr]
      exact hcase
    · rw [through_bind_ok hr]
      exact hsecond d' hcase
  tooDeep p := fun d hd => rfl
  placeholder s p hnest := contained_renderPlaceholder haction hyields hnest s p

theorem contained_renderFormat (levels : Nat) (s : Scope) (f : Format) :
    Contained (c.renderFormat levels s f) :=
  (containment haction hyields).renderFormat levels s f

theorem contained_nestWithin (levels : Nat) (s : Scope) (p : Placeholder) (f : Format) (v : Value) :
    Contained (c.nestWithin levels s p f v) :=
  (containment haction hyields).nestWithin levels s p f v

theorem contained_renderPieces (levels : Nat) (s : Scope) (ps : List Piece) :
    Contained (c.renderPieces (c.nestWithin levels s) s ps) :=
  (containment haction hyields).renderPieces s
    ((containment haction hyields).nestWithin levels s) ps

/-- A placeholder whose value could not be written is put on record and replaced; what its attempt
wrote is lost, and the failures inside it stay. -/
theorem through_renderPlaceholder_failed {levels : Nat} {s : Scope} {p : Placeholder} {err : Error}
    {d d' : Draft} (hd : d.aborting = false)
    (htried : Draft.through { d with out := "" } (c.attempt (c.nestWithin levels s p) s p) =
      (.error err, d')) (herr : err.isRecoverable = true) :
    d.through (c.renderPlaceholder (c.nestWithin levels s p) s p) =
      (.ok (), ⟨d.out ++ c.settings.onFailure.replacement p err,
        d'.failures ++ [⟨p.raw, p.start, err⟩], false⟩) := by
  have hintact := sound_attempt hyields (contained_nestWithin haction hyields levels s p) s p
    { d with out := "" } hd
  rw [htried] at hintact
  have hgoes : d'.aborting = false := hintact herr
  rw [c.through_renderPlaceholder _ s p htried, through_conclude_error haction _ herr]
  · simp only [Draft.record, Draft.write, hgoes]
  · exact hgoes

theorem render_contained :
    (∃ r, c.render = .ok r) ∨ ∃ position max, c.render = .error (.tooDeep position max) := by
  have hsettled : Settled c.finished.2 c.finished.1 :=
    contained_renderFormat haction hyields _ c.root c.template.format {} rfl
  rw [render_eq]
  rcases hr : c.finished with ⟨e | u, d⟩ <;> rw [hr] at hsettled
  · obtain ⟨position, max, rfl⟩ := Error.eq_tooDeep hsettled
    exact .inr ⟨position, max, rfl⟩
  · exact .inl ⟨_, rfl⟩

end Call

/-- If failures are to be replaced, and every formatter declines or fails beyond replacement once a
nested format had to be given up, then no failure ends the call: it yields a text or the error that
is never replaced. The call goes on after whatever was rendered, and a placeholder that fails in a
call that goes on is put on record and replaced. That leaves out the formatters that take the error
of the nested format for a success, and those that fail in its stead with one that could be
replaced. -/
theorem renderTemplate_contained {e : Engine} (haction : e.settings.onFailure ≠ .fail)
    (hyields : ∀ f ∈ e.formatters, ∀ r, (f.format r).Yields) (cached : Option Nat) (t : Template)
    (args : List Value) :
    ((∃ r, e.renderTemplate cached t args = .ok r) ∨
      ∃ position max, e.renderTemplate cached t args = .error (.tooDeep position max)) ∧
    ∀ (levels : Nat) (s : Scope) (d : Draft), d.aborting = false →
      (∀ (ps : List Piece) (d' : Draft),
        d.through ((e.call cached t args).renderPieces ((e.call cached t args).nestWithin levels s)
          s ps) = (.ok (), d') → d'.aborting = false) ∧
      ∀ (p : Placeholder) (err : Error) (d' : Draft),
        Draft.through { d with out := "" }
          ((e.call cached t args).attempt ((e.call cached t args).nestWithin levels s p) s p) =
            (.error err, d') → err.isRecoverable = true →
        d.through ((e.call cached t args).renderPlaceholder
            ((e.call cached t args).nestWithin levels s p) s p) =
          (.ok (), ⟨d.out ++ e.settings.onFailure.replacement p err,
            d'.failures ++ [⟨p.raw, p.start, err⟩], false⟩) := by
  refine ⟨Call.render_contained (c := e.call cached t args) haction hyields, ?_⟩
  intro levels s d hd
  refine ⟨fun ps d' hps => ?_, fun p err d' htried herr =>
    Call.through_renderPlaceholder_failed haction hyields hd htried herr⟩
  have hsettled := Call.contained_renderPieces (c := e.call cached t args) haction hyields levels s
    ps d hd
  rw [hps] at hsettled
  exact hsettled

/-- Where the nested format had to be given up it declines. -/
theorem yields_fallback (r : Request) : (Formatter.fallback.format r).Yields := by
  change (r.tryNested.bind fun
    | .ok () => .done true
    | .error _ => .done false).Yields
  unfold Request.tryNested
  cases r.format? with
  | none => trivial
  | some f => exact ⟨trivial, fun e => ⟨trivial, fun _ => rfl⟩⟩

/-- Engines that open no nested format and leave failures out. -/
def shallowEngine (f : Formatter) : Engine where
  settings := { dialect := { maxDepth := 0 }, onFailure := .nothing }
  sources := [.argument, .member]
  formatters := [f]
  now := ⟨0, 0⟩

/-- A formatter that declines where no format may be opened leaves a failure like any other, and the
placeholder behind it is replaced too. -/
theorem renderTemplate_contained_fallback :
    ∃ t, Template.parse {} "{0:fallback:a}{b}" = .ok t ∧
      (shallowEngine .fallback).settings.onFailure ≠ .fail ∧
      (∀ f ∈ (shallowEngine .fallback).formatters, ∀ r, (f.format r).Yields) ∧
      ((∃ r, (shallowEngine .fallback).renderTemplate none t [.string "c"] = .ok r) ∨
        ∃ position max, (shallowEngine .fallback).renderTemplate none t [.string "c"] =
          .error (.tooDeep position max)) ∧
      ((shallowEngine .fallback).renderTemplate none t [.string "c"]).toOption.map
          (fun r => (r.output, r.failures.map (·.position))) = some ("", [0, 14]) := by
  have hany : (Template.parse {} "{0:fallback:a}{b}").toOption.any (fun t =>
      ((shallowEngine .fallback).renderTemplate none t [.string "c"]).toOption.map
        (fun r => (r.output, r.failures.map (·.position))) == some ("", [0, 14])) = true := by
    decide +kernel
  obtain ⟨t, hread, hrendered⟩ := exists_parse_of_any hany
  have haction : (shallowEngine .fallback).settings.onFailure ≠ .fail := by decide
  have hyields : ∀ f ∈ (shallowEngine .fallback).formatters, ∀ r, (f.format r).Yields := by
    intro f hf
    obtain rfl := List.mem_singleton.mp hf
    exact yields_fallback
  exact ⟨t, hread, haction, hyields, (renderTemplate_contained haction hyields none t _).1,
    beq_iff_eq.mp hrendered⟩

/-- A formatter that takes the error for a success leaves a call that is being abandoned, and the
next failure ends it although failures are left out. -/
theorem renderTemplate_swallowed :
    ¬ ∀ (e : Engine) (cached : Option Nat) (t : Template) (args : List Value),
      e.settings.onFailure ≠ .fail →
      (∃ r, e.renderTemplate cached t args = .ok r) ∨
        ∃ position max, e.renderTemplate cached t args = .error (.tooDeep position max) := by
  intro hclaim
  have hany : (Template.parse {} "{0:swallow:a}{b}").toOption.any (fun t =>
      match (shallowEngine .swallow).renderTemplate none t [.string "c"] with
      | .ok _ => false
      | .error err => err.isRecoverable) = true := by
    decide +kernel
  obtain ⟨t, -, hfails⟩ := exists_parse_of_any hany
  rcases hclaim (shallowEngine .swallow) none t [.string "c"] (by decide) with
    ⟨r, hr⟩ | ⟨position, max, hr⟩
  · rw [hr] at hfails
    cases hfails
  · rw [hr] at hfails
    cases hfails

end Stencil
