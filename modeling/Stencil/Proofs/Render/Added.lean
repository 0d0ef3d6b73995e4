import Stencil.Proofs.Render.Shifted

/-!
# What a step adds

What a nested format writes and which failures it records is the same wherever it is rendered, as
far as the formatters of the library go; so it can be told by rendering the format on a draft of its
own. A render that succeeds leaves a call behind it that goes on.
-/

namespace Stencil

set_option autoImplicit false

/-- The draft with what was added to it. -/
def Draft.add (d added : Draft) : Draft where
  out := d.out ++ added.out
  failures := d.failures ++ added.failures
  aborting := added.aborting

theorem Draft.behind_eq_add (d added : Draft) : d.behind 0 added = d.add added := by
  have hfailures : added.failures.map (Failure.shift 0) = added.failures := List.map_id _
  simp [behind, add, hfailures]

/-- Where a call goes on, it does so after the step if that succeeds. -/
def GoesWell {α : Type} (step : RenderM α) : Prop :=
  ∀ (d d' : Draft) (a : α), d.aborting = false → d.through step = (.ok a, d') →
    d'.aborting = false

section Steps

variable {α β : Type} {nest : Format → Value → RenderM Unit}

theorem goesWell_modify {g : Draft → Draft} (hg : ∀ d, (g d).aborting = d.aborting) :
    GoesWell (modify g) := by
  intro d d' a hd h
  cases h
  exact (hg d).trans hd

theorem goesWell_throw (e : Error) : GoesWell (throw e : RenderM α) := by
  intro d d' a hd h
  cases h

theorem GoesWell.bind {first : RenderM α} {next : α → RenderM β} (h : GoesWell first)
    (hnext : ∀ a, GoesWell (next a)) : GoesWell (first >>= next) := by
  intro d d' b hd hrun
  rcases hr : d.through first with ⟨e | a, d₁⟩
  · rw [through_bind_error hr] at hrun
    cases hrun
  · rw [through_bind_ok hr] at hrun
    exact hnext a d₁ d' b (h d d₁ a hd hr) hrun

/-- A script that fails as nested formats do succeeds only if they all do. -/
theorem Script.Direct.goesWell {allowed : α → Prop} {s : Script α} (h : s.Direct allowed)
    (hnest : ∀ f v, GoesWell (nest f v)) : GoesWell (s.run nest) := by
  induction s with
  | done a =>
    intro d d' b hd hrun
    cases hrun
    exact hd
  | fail e => exact goesWell_throw e
  | write text next ih => exact fun d d' b hd hrun => ih h (d.write text) d' b hd hrun
  | failures next ih => exact fun d d' b hd hrun => ih _ (h _) d d' b hd hrun
  | nested f v next ih =>
    intro d d' b hd hrun
    obtain ⟨hok, herror⟩ := h
    rw [through_run_nested] at hrun
    rcases hr : d.through (nest f v) with ⟨e | u, d₁⟩ <;> rw [hr] at hrun
    · rw [herror e] at hrun
      cases hrun
    · exact ih _ hok d₁ d' b (hnest f v d d₁ u hd hr) hrun

theorem goesWell_tryFormatters {run : Formatter → RenderM Bool} {fs : List Formatter}
    (hrun : ∀ f ∈ fs, GoesWell (run f)) (none : Error) : GoesWell (tryFormatters run none fs) := by
  induction fs with
  | nil => exact goesWell_throw none
  | cons f fs ih =>
    intro d d' u hd h
    have hfirst := hrun f List.mem_cons_self d
    have hlater := ih fun g hg => hrun g (List.mem_cons_of_mem f hg)
    rcases hr : d.through (run f) with ⟨e | handled, d₁⟩
    · rw [through_tryFormatters_failed none fs hr] at h
      cases h
    · cases handled with
      | true =>
        rw [through_tryFormatters_handled none fs hr] at h
        cases h
        exact hfirst _ true hd hr
      | false =>
        rw [through_tryFormatters_declined none fs hr] at h
        exact hlater (d₁.rewind d.mark) d' u hd h

end Steps

namespace Call

variable {c : Call}

/-- Nothing is put in the place of a placeholder in a call that is being abandoned. -/
theorem aborting_of_conclude {d d' : Draft} {p : Placeholder} {text : String}
    {r : Except Error Unit} {u : Unit} (hok : ∀ u, r = .ok u → d.aborting = false)
    (h : d.through (c.conclude p text r) = (.ok u, d')) : d'.aborting = false := by
  cases r with
  | ok u =>
    cases h
    exact hok u rfl
  | error e =>
    rw [conclude, through_handleFailure] at h
    split at h
    · cases h
    · rename_i hgoes
      by_cases haction : c.settings.onFailure = .fail
      · rw [haction, through_recordFailure_fail] at h
        cases h
      · rw [through_recordFailure d p e haction] at h
        cases h
        exact (Bool.or_eq_false_iff.mp (Bool.not_eq_true _ ▸ hgoes)).1

variable (hbuiltIn : ∀ f ∈ c.formatters, f ∈ Formatter.builtIn)
include hbuiltIn

theorem goesWell_attempt {nest : Format → Value → RenderM Unit}
    (hnest : ∀ f v, GoesWell (nest f v)) (s : Scope) (p : Placeholder) :
    GoesWell (c.attempt nest s p) := by
  unfold attempt
  split
  · refine goesWell_tryFormatters (fun f hf => ?_) _
    have hprompt := Formatter.prompt_of_mem_builtIn (hbuiltIn f (List.mem_filter.mp hf).1)
    rcases hprompt (c.request p _) with hdeclines | hdirect
    · intro d d' handled hd h
      rw [hdeclines] at h
      cases h
      exact hd
    · exact hdirect.goesWell hnest
  · exact goesWell_throw _

/-- Going well as a simulation of a call by itself. -/
def goingWell : RenderSimulation c c where
  rel step _ := GoesWell step
  done := fun d d' u hd h => by
    cases h
    exact hd
  write text := goesWell_modify fun d => rfl
  seq h h' := h.bind fun _ => h'
  tooDeep p := fun d d' u hd h => by cases h
  placeholder s p hnest := fun d d' u hd h => by
    rcases hr : Draft.through { d with out := "" } (c.attempt _ s p) with ⟨r, d₁⟩
    rw [c.through_renderPlaceholder _ s p hr] at h
    refine aborting_of_conclude (fun u hok => ?_) h
    subst hok
    exact goesWell_attempt hbuiltIn hnest s p { d with out := "" } d₁ u hd hr

theorem goesWell_nestWithin (levels : Nat) (s : Scope) (p : Placeholder) (f : Format) (v : Value) :
    GoesWell (c.nestWithin levels s p f v) :=
  (goingWell hbuiltIn).nestWithin levels s p f v

omit hbuiltIn in
/-- A nested format rendered on a draft of its own. -/
def alone (c : Call) (levels : Nat) (s : Scope) (p : Placeholder) (f : Format) (v : Value) :
    Except Error Unit × Draft :=
  ({} : Draft).through (c.nestWithin levels s p f v)

theorem through_nestWithin_alone {d : Draft} (hd : d.aborting = false) (levels : Nat) (s : Scope)
    (p : Placeholder) (f : Format) (v : Value) :
    d.through (c.nestWithin levels s p f v) =
      ((c.alone levels s p f v).1, d.add (c.alone levels s p f v).2) := by
  have hsame : c.SameMeans c := ⟨rfl, rfl, rfl, rfl, rfl⟩
  have hgoes := hsame.goesOn_nestWithin hbuiltIn levels s p f v (n := 0) d {}
  have hzero : Error.shift 0 = id := funext Error.shift_zero
  rw [Placeholder.shift_zero, Format.shift_zero, Draft.behind_empty hd, hzero] at hgoes
  have hresult : (c.alone levels s p f v).1.mapError id = (c.alone levels s p f v).1 := by
    cases (c.alone levels s p f v).1 <;> rfl
  rw [hgoes, Draft.behind_eq_add]
  exact congrArg (·, _) hresult

end Call

end Stencil
