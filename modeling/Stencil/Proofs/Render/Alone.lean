import Stencil.Proofs.Render.Steps

/-!
# One placeholder as a whole template

What is rendered where a placeholder is all of a template: if it writes a nested format and nothing
else, what that format is rendered as, and if it fails, what the settings say. A nested format that
fails does so for good, so the placeholder around it does not put anything in its place.
-/

namespace Stencil

set_option autoImplicit false

section Formatters

variable {run : Formatter → RenderM Bool} {f : Formatter}

theorem tryFormatters_single {step : RenderM Unit} (h : run f = step >>= fun _ => pure true)
    (none : Error) : tryFormatters run none [f] = step := by
  refine step_ext fun d => ?_
  rcases hr : d.through step with ⟨err | u, d'⟩
  · refine through_tryFormatters_failed none [] ?_
    rw [h, through_bind_error hr]
  · refine through_tryFormatters_handled none [] ?_
    rw [h, through_bind_ok hr, through_pure]

theorem tryFormatters_throw {err : Error} (h : run f = throw err) (none : Error) :
    tryFormatters run none [f] = throw err := by
  refine step_ext fun d => ?_
  rw [through_throw]
  exact through_tryFormatters_failed none [] (by rw [h, through_throw])

theorem Script.run_render (nest : Format → Value → RenderM Unit) (g : Format) (v : Value) :
    (Script.render g v >>= fun _ => pure true).run nest = nest g v >>= fun _ => pure true := by
  obtain ⟨next, hrender, hok, herror⟩ : ∃ next : Except Error Unit → Script Bool,
      (Script.render g v >>= fun _ => pure true) = .nested g v next ∧
        next (.ok ()) = .done true ∧ ∀ err, next (.error err) = .fail err :=
    ⟨_, rfl, rfl, fun _ => rfl⟩
  refine step_ext fun d => ?_
  rw [hrender, through_run_nested, through_bind]
  rcases d.through (nest g v) with ⟨err | u, d'⟩
  · rw [herror, through_run_fail]
  · rw [hok, through_run_done]
    rfl

end Formatters

section Failing

/-- Whenever the step fails, the render is given up. -/
def Surrenders (step : RenderM Unit) : Prop :=
  ∀ (d d' : Draft) (err : Error), d.through step = (.error err, d') → d'.aborting = true

theorem Surrenders.bind {first second : RenderM Unit} (h : Surrenders first)
    (h' : Surrenders second) : Surrenders (first >>= fun _ => second) := by
  intro d d' err hrun
  rw [through_bind] at hrun
  rcases hfirst : d.through first with ⟨err' | u, d₁⟩ <;> rw [hfirst] at hrun
  · cases hrun
    exact h _ _ _ hfirst
  · exact h' _ _ _ hrun

namespace Call

variable (c : Call)

theorem surrenders_conclude (p : Placeholder) (text : String) (r : Except Error Unit) :
    Surrenders (c.conclude p text r) := by
  intro d d' err h
  cases r with
  | ok u => cases h
  | error err' =>
    rw [conclude, through_handleFailure] at h
    split at h
    · cases h
      rfl
    · by_cases haction : c.settings.onFailure = .fail
      · rw [haction, through_recordFailure_fail] at h
        cases h
        rfl
      · rw [through_recordFailure _ _ _ haction] at h
        cases h

/-- Giving up as a simulation of a call by itself. -/
def surrender : RenderSimulation c c where
  rel step _ := Surrenders step
  done := fun _ _ _ h => by cases h
  write _ := fun _ _ _ h => by cases h
  seq h h' := h.bind h'
  tooDeep _ := fun _ _ _ h => by
    cases h
    rfl
  placeholder s p _ := fun d d' err h => by
    rcases hr : Draft.through { d with out := "" } (c.attempt _ s p) with ⟨r, d₁⟩
    rw [c.through_renderPlaceholder _ s p hr] at h
    exact c.surrenders_conclude p d₁.out r _ _ _ h

theorem aborting_renderFormat {levels : Nat} {s : Scope} {f : Format} {d d' : Draft} {err : Error}
    (h : d.through (c.renderFormat levels s f) = (.error err, d')) : d'.aborting = true :=
  c.surrender.renderFormat levels s f d d' err h

/-- Renders a format in which `v` is in scope, within the root and one level down. -/
def renderNested (v : Value) (f : Format) : Except Error Rendered :=
  let (r, d) := ({} : Draft).through
    (c.renderFormat (c.settings.dialect.maxDepth - 1) (c.root.enter v) f)
  r.map fun () => ⟨d.out, d.failures⟩

/-- What becomes of a render when the placeholder fails that is all of the template. -/
def failed (p : Placeholder) (err : Error) : Except Error Rendered :=
  match c.settings.onFailure with
  | .fail => .error err
  | action => .ok ⟨action.replacement p err, [⟨p.raw, p.start, err⟩]⟩

variable {c} {p : Placeholder} {v : Value} {g : Format} {err : Error}

theorem finished_of_placeholder (h : c.template.format = ⟨0, 0, [.placeholder p]⟩) :
    c.finished = ({} : Draft).through
      (c.renderPlaceholder (c.nestWithin c.settings.dialect.maxDepth c.root p) c.root p) := by
  rw [finished, h, renderFormat_eq, renderPieces, renderPieces]
  simp

/-- A placeholder that is a nested format and nothing around it is rendered as that. -/
theorem render_of_nested (h : c.template.format = ⟨0, 0, [.placeholder p]⟩)
    (halignment : p.alignment = 0) (hdepth : c.settings.dialect.maxDepth ≠ 0)
    (hattempt : c.attempt (c.nestWithin c.settings.dialect.maxDepth c.root p) c.root p =
      c.nestWithin c.settings.dialect.maxDepth c.root p g v) :
    c.render = c.renderNested v g := by
  obtain ⟨levels, hlevels⟩ := Nat.exists_eq_succ_of_ne_zero hdepth
  have hnest : c.nestWithin c.settings.dialect.maxDepth c.root p g v =
      c.renderFormat (c.settings.dialect.maxDepth - 1) (c.root.enter v) g := by
    rw [hlevels]
    rfl
  rw [render_eq, finished_of_placeholder h, renderNested]
  rcases hr : ({} : Draft).through
    (c.renderFormat (c.settings.dialect.maxDepth - 1) (c.root.enter v) g) with ⟨r, d⟩
  have htried := hr
  rw [← hnest, ← hattempt] at htried
  rw [c.through_renderPlaceholder _ _ p htried]
  cases r with
  | error err =>
    -- The nested format has given the render up, so its error is not replaced a second time.
    rw [conclude, through_handleFailure]
    simp [c.aborting_renderFormat hr, Except.map]
  | ok u => simp [conclude, halignment, align, Draft.write, Except.map]

theorem render_of_throw (h : c.template.format = ⟨0, 0, [.placeholder p]⟩)
    (hrecoverable : err.isRecoverable = true)
    (hattempt : c.attempt (c.nestWithin c.settings.dialect.maxDepth c.root p) c.root p =
      throw err) :
    c.render = c.failed p err := by
  have htried : ({} : Draft).through
      (c.attempt (c.nestWithin c.settings.dialect.maxDepth c.root p) c.root p) =
        (.error err, {}) := by
    rw [hattempt, through_throw]
  rw [render_eq, finished_of_placeholder h, failed, c.through_renderPlaceholder _ _ p htried,
    conclude, through_handleFailure]
  cases haction : c.settings.onFailure with
  | fail => simp [hrecoverable, Except.map]
  | _ => simp [hrecoverable, through_recordFailure, Draft.write, Draft.record, Except.map]

end Call

end Failing

end Stencil
