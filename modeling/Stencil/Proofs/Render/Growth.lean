import Stencil.Proofs.Render.Steps

/-!
# Drafts only grow

Whatever is rendered adds text behind the text and failures behind the failures that were there, and
takes nothing away, however it ends. So going back to a mark in a draft restores the draft.
-/

namespace Stencil

set_option autoImplicit false

/-- The second draft is the first with something added, or abandoned or resumed. -/
def Draft.Extends (d d' : Draft) : Prop :=
  ∃ text more aborting, d' = ⟨d.out ++ text, d.failures ++ more, aborting⟩

namespace Draft.Extends

variable {d d' d'' : Draft}

theorem refl (d : Draft) : d.Extends d := ⟨"", [], d.aborting, by simp⟩

theorem trans (h : d.Extends d') (h' : d'.Extends d'') : d.Extends d'' := by
  obtain ⟨text, more, _, rfl⟩ := h
  obtain ⟨text', more', aborting, rfl⟩ := h'
  exact ⟨text ++ text', more ++ more', aborting, by simp [String.append_assoc]⟩

theorem rewind (h : d.Extends d') : d'.rewind d.mark = d := by
  obtain ⟨text, more, aborting, rfl⟩ := h
  exact d.rewind_mark text more aborting

theorem write (d : Draft) (text : String) : d.Extends (d.write text) :=
  ⟨text, [], d.aborting, by simp [Draft.write]⟩

theorem abandoned (d : Draft) (aborting : Bool) : d.Extends { d with aborting } :=
  ⟨"", [], aborting, by simp⟩

theorem record (d : Draft) (p : Placeholder) (e : Error) : d.Extends (d.record p e) :=
  ⟨"", [⟨p.raw, p.start, e⟩], d.aborting, by simp [Draft.record]⟩

/-- What was added on a page of its own leaves the page before it as it was. -/
theorem turnBack (h : Draft.Extends { d with out := "" } d') :
    d.Extends { d' with out := d.out } := by
  obtain ⟨text, more, aborting, rfl⟩ := h
  exact ⟨"", more, aborting, by simp⟩

end Draft.Extends

/-- The step only adds to a draft. -/
def Grows {α : Type} (step : RenderM α) : Prop := ∀ d : Draft, d.Extends (d.through step).2

section Steps

variable {α β : Type}

theorem grows_pure (a : α) : Grows (pure a) := Draft.Extends.refl

theorem grows_throw (e : Error) : Grows (throw e : RenderM α) := Draft.Extends.refl

theorem grows_abandon (e : Error) : Grows (abandon e) := fun d => .abandoned d true

theorem grows_write (text : String) : Grows (modify (·.write text)) := fun d => .write d text

theorem Grows.bind {step : RenderM α} {next : α → RenderM β} (h : Grows step)
    (hnext : ∀ a, Grows (next a)) : Grows (step >>= next) := by
  intro d
  have hfirst := h d
  rcases hr : d.through step with ⟨e | a, d'⟩ <;> rw [hr] at hfirst
  · rw [through_bind_error hr]
    exact hfirst
  · rw [through_bind_ok hr]
    exact hfirst.trans (hnext a d')

theorem grows_recordFailure (action : ErrorAction) (p : Placeholder) (e : Error) :
    Grows (recordFailure action p e) := by
  intro d
  by_cases haction : action = .fail
  · rw [haction, through_recordFailure_fail]
    exact (Draft.Extends.record d p e).trans (.abandoned _ true)
  · rw [through_recordFailure d p e haction]
    exact (Draft.Extends.record d p e).trans (.write _ _)

theorem grows_handleFailure (action : ErrorAction) (p : Placeholder) (e : Error) :
    Grows (handleFailure action p e) := by
  intro d
  rw [through_handleFailure]
  split
  · exact .abandoned d true
  · exact grows_recordFailure action p e d

variable {nest : Format → Value → RenderM Unit}

theorem Script.grows (hnest : ∀ f v, Grows (nest f v)) (s : Script α) : Grows (s.run nest) := by
  induction s with
  | done a => exact grows_pure a
  | fail e => exact grows_throw e
  | write text next ih => exact fun d => (Draft.Extends.write d text).trans (ih _)
  | nested f v next ih => exact fun d => (hnest f v d).trans (ih _ _)
  | failures next ih => exact fun d => ih d.failures d

/-- A formatter that declines leaves nothing behind. -/
theorem rewind_of_grows {run : Formatter → RenderM Bool} {f : Formatter} (hrun : Grows (run f))
    {d d' : Draft} {r : Except Error Bool} (h : d.through (run f) = (r, d')) :
    d'.rewind d.mark = d := by
  have hextends := hrun d
  rw [h] at hextends
  exact hextends.rewind

theorem grows_tryFormatters {run : Formatter → RenderM Bool} (hrun : ∀ f, Grows (run f))
    (none : Error) (fs : List Formatter) : Grows (tryFormatters run none fs) := by
  induction fs with
  | nil => exact grows_throw none
  | cons f fs ih =>
    intro d
    have hfirst := hrun f d
    rcases hr : d.through (run f) with ⟨e | handled, d'⟩ <;> rw [hr] at hfirst
    · rw [through_tryFormatters_failed none fs hr]
      exact hfirst
    · cases handled with
      | true =>
        rw [through_tryFormatters_handled none fs hr]
        exact hfirst
      | false =>
        rw [through_tryFormatters_declined none fs hr, rewind_of_grows (hrun f) hr]
        exact ih d

end Steps

namespace Call

variable (c : Call) {nest : Format → Value → RenderM Unit}

theorem grows_attempt (hnest : ∀ f v, Grows (nest f v)) (s : Scope) (p : Placeholder) :
    Grows (c.attempt nest s p) := by
  unfold attempt
  split
  · exact grows_tryFormatters (fun f => (f.format _).grows hnest) _ _
  · exact grows_throw _

theorem grows_conclude (p : Placeholder) (text : String) (r : Except Error Unit) :
    Grows (c.conclude p text r) := by
  cases r with
  | ok u => exact grows_write _
  | error e => exact grows_handleFailure _ p e

theorem grows_renderPlaceholder (hnest : ∀ f v, Grows (nest f v)) (s : Scope) (p : Placeholder) :
    Grows (c.renderPlaceholder nest s p) := by
  intro d
  have htried := c.grows_attempt hnest s p { d with out := "" }
  rcases hr : Draft.through { d with out := "" } (c.attempt nest s p) with ⟨r, d'⟩
  rw [hr] at htried
  rw [c.through_renderPlaceholder nest s p hr]
  exact htried.turnBack.trans (c.grows_conclude p d'.out r _)

/-- Growth as a simulation of a call by itself. -/
def growth : RenderSimulation c c where
  rel step _ := Grows step
  done := grows_pure ()
  write := grows_write
  seq h h' := h.bind fun _ => h'
  tooDeep _ := grows_abandon _
  placeholder s p hnest := c.grows_renderPlaceholder hnest s p

theorem grows_nestWithin (levels : Nat) (s : Scope) (p : Placeholder) (f : Format) (v : Value) :
    Grows (c.nestWithin levels s p f v) :=
  c.growth.nestWithin levels s p f v

end Call

end Stencil
