import Stencil.Proofs.Containment

/-!
# Actions on failure

What is done about failures decides what is written in their place and nothing else. A call that the
first failure ends goes like any other up to that failure, which is then the first on record in all
of them: a failure inside a nested format goes up through the placeholders around it without being
recorded again. Calls that replace failures differ in their text only.
-/

namespace Stencil

set_option autoImplicit false

/-- The call with something else done about failures. -/
def Call.withAction (c : Call) (a : ErrorAction) : Call :=
  { c with settings := { c.settings with onFailure := a } }

theorem Call.attempt_withAction {c : Call} (hignores : ∀ f ∈ c.formatters, f.IgnoresAction)
    (a : ErrorAction) (nest : Format → Value → RenderM Unit) (s : Scope) (p : Placeholder) :
    (c.withAction a).attempt nest s p = c.attempt nest s p := by
  have hresolve : (c.withAction a).resolve s p = c.resolve s p := by
    apply resolve_congr <;> rfl
  unfold attempt
  rw [hresolve]
  cases c.resolve s p with
  | error selector => rfl
  | ok v =>
    refine tryFormatters_congr (fun f hf => ?_) _
    exact congrArg (Script.run nest) (hignores f (List.mem_filter.mp hf).1 (c.request p v) a)

/-! ## Up to the first failure -/

/-- How a step ends that the first failure ends, and one that goes on. Unless the first of them met
a failure they are the same. -/
inductive Parting {α : Type} (ends : Draft → Except Error α → Prop) :
    Except Error α × Draft → Except Error α × Draft → Prop
  | together {r : Except Error α} {d : Draft} (hnone : d.failures = []) (hends : ends d r) :
      Parting ends (r, d) (r, d)
  | parted {x : Failure} {d d' : Draft} {r : Except Error α}
      (hx : x.error.isRecoverable = true) (hone : d.failures = [x]) (hgiven : d.aborting = true)
      (hfirst : d'.failures.head? = some x) : Parting ends (.error x.error, d) (r, d')

/-- From a draft without failures the steps part at the first failure if at all. -/
def PartAt {α : Type} (ends : Draft → Except Error α → Prop) (step step' : RenderM α) : Prop :=
  ∀ d : Draft, d.failures = [] → d.aborting = false →
    Parting ends (d.through step) (d.through step')

theorem Draft.Extends.head?_failures {d d' : Draft} (h : d.Extends d') {x : Failure}
    (hx : d.failures.head? = some x) : d'.failures.head? = some x := by
  obtain ⟨text, more, aborting, rfl⟩ := h
  obtain ⟨later, hd⟩ := List.head?_eq_some_iff.mp hx
  rw [hd]
  rfl

/-- The script ends in nothing but what it may end in. -/
theorem Script.Direct.allowed_of_run {α : Type} {allowed : α → Prop} {s : Script α}
    (h : s.Direct allowed) {nest : Format → Value → RenderM Unit} {d d' : Draft} {a : α}
    (hrun : d.through (s.run nest) = (.ok a, d')) : allowed a := by
  induction s generalizing d with
  | done b =>
    cases hrun
    exact h
  | fail e => cases hrun
  | write text next ih => exact ih h hrun
  | failures next ih => exact ih _ (h _) hrun
  | nested f v next ih =>
    obtain ⟨hok, herror⟩ := h
    rw [through_run_nested] at hrun
    cases hr : (d.through (nest f v)).1 with
    | ok u =>
      rw [hr] at hrun
      exact ih _ hok hrun
    | error e =>
      rw [hr, herror e] at hrun
      cases hrun

section Parting

variable {nest nest' : Format → Value → RenderM Unit}
  (hnest : ∀ f v, PartAt Settled (nest f v) (nest' f v) ∧ Grows (nest' f v))
include hnest

theorem Script.Direct.partAt {α : Type} {allowed : α → Prop} {s : Script α}
    (h : s.Direct allowed) : PartAt (Intact fun _ => True) (s.run nest) (s.run nest') := by
  induction s with
  | done a => exact fun d hnone hgoes => .together hnone fun _ => hgoes
  | fail e => exact fun d hnone hgoes => .together hnone fun _ => hgoes
  | write text next ih => exact fun d hnone hgoes => ih h (d.write text) hnone hgoes
  | failures next ih => exact fun d hnone hgoes => ih _ (h _) d hnone hgoes
  | nested f v next ih =>
    intro d hnone hgoes
    obtain ⟨hok, herror⟩ := h
    have hinner := (hnest f v).1 d hnone hgoes
    rw [through_run_nested, through_run_nested]
    rcases hr : d.through (nest f v) with ⟨r, d₁⟩
    rcases hr' : d.through (nest' f v) with ⟨r', d₁'⟩
    rw [hr, hr'] at hinner
    cases hinner with
    | together hnone₁ hsettled =>
      cases r with
      | ok u => exact ih _ hok d₁ hnone₁ hsettled
      | error e =>
        rw [herror e]
        exact .together hnone₁ fun he => absurd (he.symm.trans hsettled) (by decide)
    | parted hx hone hgiven hfirst =>
      rw [herror]
      have hgrows := (next r').grows (fun g w => (hnest g w).2) d₁'
      exact .parted hx hone hgiven (hgrows.head?_failures hfirst)

theorem partAt_tryFormatters {fs : List Formatter} (hprompt : ∀ f ∈ fs, f.Prompt)
    (request : Request) (none : Error) :
    PartAt (Intact fun _ => True)
      (tryFormatters (fun f => (f.format request).run nest) none fs)
      (tryFormatters (fun f => (f.format request).run nest') none fs) := by
  induction fs with
  | nil => exact fun d hnone hgoes => .together hnone fun _ => hgoes
  | cons f fs ih =>
    intro d hnone hgoes
    rcases hprompt f List.mem_cons_self request with hdeclines | hdirect
    · -- Declining at once leaves the draft as it is, in both runs.
      have hrun : ∀ n : Format → Value → RenderM Unit,
          d.through ((f.format request).run n) = (.ok false, d) := fun n => by
        rw [hdeclines, through_run_done]
      rw [through_tryFormatters_declined none fs (hrun nest),
        through_tryFormatters_declined none fs (hrun nest'), (Draft.Extends.refl d).rewind]
      exact ih (fun g hg => hprompt g (List.mem_cons_of_mem f hg)) d hnone hgoes
    · have hcase := hdirect.partAt hnest d hnone hgoes
      rcases hr : d.through ((f.format request).run nest) with ⟨r, d₁⟩
      rcases hr' : d.through ((f.format request).run nest') with ⟨r', d₁'⟩
      rw [hr, hr'] at hcase
      cases hcase with
      | together hnone₁ hintact =>
        cases r with
        | ok handled =>
          obtain rfl : handled = true := hdirect.allowed_of_run hr
          rw [through_tryFormatters_handled none fs hr,
            through_tryFormatters_handled none fs hr']
          exact .together hnone₁ hintact
        | error e =>
          rw [through_tryFormatters_failed none fs hr, through_tryFormatters_failed none fs hr']
          exact .together hnone₁ hintact
      | parted hx hone hgiven hfirst =>
        rw [through_tryFormatters_failed none fs hr]
        cases r' with
        | ok handled =>
          obtain rfl : handled = true := hdirect.allowed_of_run hr'
          rw [through_tryFormatters_handled none fs hr']
          exact .parted hx hone hgiven hfirst
        | error e =>
          rw [through_tryFormatters_failed none fs hr']
          exact .parted hx hone hgiven hfirst

end Parting

namespace Call

section Parting

variable {c : Call} {a : ErrorAction} (ha : a ≠ .fail)

theorem partAt_attempt {nest nest' : Format → Value → RenderM Unit}
    (hprompt : ∀ f ∈ c.formatters, f.Prompt)
    (hnest : ∀ f v, PartAt Settled (nest f v) (nest' f v) ∧ Grows (nest' f v)) (s : Scope)
    (p : Placeholder) :
    PartAt (Intact fun _ => True) (c.attempt nest s p) (c.attempt nest' s p) := by
  unfold attempt
  split
  · exact partAt_tryFormatters hnest (fun f hf => hprompt f (List.mem_filter.mp hf).1) _ _
  · exact fun d hnone hgoes => .together hnone fun _ => hgoes

include ha

/-- The first failure is put on record either way; it ends only one of the calls. A failure that
ended a nested format is on record already, and is handed on. -/
theorem parting_conclude {r r' : Except Error Unit} {d d' : Draft}
    (h : Parting (Intact fun _ => True) (r, d) (r', d')) (p : Placeholder) (out : String) :
    Parting Settled
      (({ d with out := out } : Draft).through ((c.withAction .fail).conclude p d.out r))
      (({ d' with out := out } : Draft).through ((c.withAction a).conclude p d'.out r')) := by
  cases h with
  | together hnone hintact =>
    cases r with
    | ok u => exact .together hnone (hintact trivial)
    | error e =>
      simp only [conclude, through_handleFailure]
      cases he : e.isRecoverable with
      | false =>
        simp only [Bool.not_false, Bool.or_true, if_true]
        exact .together hnone he
      | true =>
        have hgoes : d.aborting = false := hintact he
        simp only [hgoes, Bool.not_true, Bool.or_false]
        change Parting Settled (Draft.through _ (recordFailure .fail p e))
          (Draft.through _ (recordFailure a p e))
        rw [through_recordFailure_fail, through_recordFailure _ p e ha]
        refine .parted (x := ⟨p.raw, p.start, e⟩) he ?_ rfl ?_
        · simp only [Draft.record, hnone, List.nil_append]
        · simp only [Draft.record, Draft.write, hnone, List.nil_append, List.head?_cons]
  | parted hx hone hgiven hfirst =>
    rw [conclude, through_handleFailure]
    simp only [hgiven, Bool.true_or, if_true]
    have hgrows := grows_conclude (c.withAction a) p d'.out r' { d' with out := out }
    exact .parted hx hone rfl (hgrows.head?_failures hfirst)

variable (hbuiltIn : ∀ f ∈ c.formatters, f ∈ Formatter.builtIn)
include hbuiltIn

theorem partAt_renderPlaceholder {nest nest' : Format → Value → RenderM Unit}
    (hnest : ∀ f v, PartAt Settled (nest f v) (nest' f v) ∧ Grows (nest' f v)) (s : Scope)
    (p : Placeholder) :
    PartAt Settled ((c.withAction .fail).renderPlaceholder nest s p)
      ((c.withAction a).renderPlaceholder nest' s p) := by
  intro d hnone hgoes
  have hignores : ∀ f ∈ c.formatters, f.IgnoresAction := fun f hf =>
    Formatter.ignoresAction_of_mem_builtIn (hbuiltIn f hf)
  have hcase := partAt_attempt (fun f hf => Formatter.prompt_of_mem_builtIn (hbuiltIn f hf)) hnest
    s p { d with out := "" } hnone hgoes
  rcases hr : Draft.through { d with out := "" } (c.attempt nest s p) with ⟨r, d₁⟩
  rcases hr' : Draft.through { d with out := "" } (c.attempt nest' s p) with ⟨r', d₁'⟩
  rw [hr, hr'] at hcase
  rw [← attempt_withAction hignores .fail] at hr
  rw [← attempt_withAction hignores a] at hr'
  rw [through_renderPlaceholder _ nest s p hr, through_renderPlaceholder _ nest' s p hr']
  exact parting_conclude ha hcase p d.out

/-- A call that the first failure ends and one that goes on. -/
def parting : RenderSimulation (c.withAction .fail) (c.withAction a) where
  rel step step' := PartAt Settled step step' ∧ Grows step'
  done := ⟨fun d hnone hgoes => .together hnone hgoes, grows_pure ()⟩
  write text := ⟨fun d hnone hgoes => .together hnone hgoes, grows_write text⟩
  seq := by
    rintro first first' second second' ⟨hfirst, hgrows⟩ ⟨hsecond, hgrows'⟩
    refine ⟨fun d hnone hgoes => ?_, hgrows.bind fun _ => hgrows'⟩
    have hcase := hfirst d hnone hgoes
    rcases hr : d.through first with ⟨r, d₁⟩
    rcases hr' : d.through first' with ⟨r', d₁'⟩
    rw [hr, hr'] at hcase
    cases hcase with
    | together hnone₁ hsettled =>
      cases r with
      | ok u =>
        rw [through_bind_ok hr, through_bind_ok hr']
        exact hsecond d₁ hnone₁ hsettled
      | error e =>
        rw [through_bind_error hr, through_bind_error hr']
        exact .together hnone₁ hsettled
    | parted hx hone hgiven hhead =>
      rw [through_bind_error hr]
      cases r' with
      | ok u =>
        rw [through_bind_ok hr']
        exact .parted hx hone hgiven ((hgrows' d₁').head?_failures hhead)
      | error e =>
        rw [through_bind_error hr']
        exact .parted hx hone hgiven hhead
  tooDeep p := ⟨fun d hnone hgoes => .together hnone rfl, grows_abandon _⟩
  placeholder s p hnest :=
    ⟨partAt_renderPlaceholder ha hbuiltIn hnest s p,
      grows_renderPlaceholder _ (fun f v => (hnest f v).2) s p⟩

theorem parting_finished :
    Parting Settled (c.withAction .fail).finished (c.withAction a).finished :=
  ((parting ha hbuiltIn).renderFormat c.settings.dialect.maxDepth c.root c.template.format).1 {}
    rfl rfl

end Parting

end Call

/-! ## Once failures are replaced -/

/-- The drafts differ in their text at most. -/
structure Draft.SameButText (d d' : Draft) : Prop where
  failures : d.failures = d'.failures
  aborting : d.aborting = d'.aborting

theorem Draft.SameButText.rewind {d d' before before' : Draft} (h : d.SameButText d')
    (hbefore : before.SameButText before') :
    (d.rewind before.mark).SameButText (d'.rewind before'.mark) where
  failures := by simp only [Draft.rewind, Draft.mark, h.failures, hbefore.failures]
  aborting := hbefore.aborting

/-- From drafts that differ in their text at most, the steps end alike and leave such drafts. -/
def RunAlike {α : Type} (step step' : RenderM α) : Prop :=
  ∀ d d' : Draft, d.SameButText d' →
    (d.through step).1 = (d'.through step').1 ∧
      (d.through step).2.SameButText (d'.through step').2

section Alike

variable {α : Type} {nest nest' : Format → Value → RenderM Unit}
  (hnest : ∀ f v, RunAlike (nest f v) (nest' f v))

theorem runAlike_throw (e : Error) : RunAlike (throw e : RenderM α) (throw e) :=
  fun _ _ h => ⟨rfl, h⟩

theorem runAlike_write (text text' : String) :
    RunAlike (modify (·.write text)) (modify (·.write text')) :=
  fun _ _ h => ⟨rfl, h.failures, h.aborting⟩

theorem RunAlike.seq {first first' second second' : RenderM Unit} (h : RunAlike first first')
    (hsecond : RunAlike second second') :
    RunAlike (first >>= fun _ => second) (first' >>= fun _ => second') := by
  intro d d' hd
  obtain ⟨hend, hleft⟩ := h d d' hd
  rcases hr : d.through first with ⟨r, d₁⟩
  rcases hr' : d'.through first' with ⟨r', d₁'⟩
  rw [hr, hr'] at hend hleft
  obtain rfl : r = r' := hend
  cases r with
  | ok u =>
    rw [through_bind_ok hr, through_bind_ok hr']
    exact hsecond d₁ d₁' hleft
  | error e =>
    rw [through_bind_error hr, through_bind_error hr']
    exact ⟨rfl, hleft⟩

include hnest

/-- A script is told what failed and never what was written. -/
theorem Script.runAlike (s : Script α) : RunAlike (s.run nest) (s.run nest') := by
  induction s with
  | done a => exact fun d d' h => ⟨rfl, h⟩
  | fail e => exact runAlike_throw e
  | write text next ih => exact fun d d' h => ih _ _ ⟨h.failures, h.aborting⟩
  | nested f v next ih =>
    intro d d' h
    obtain ⟨hend, hleft⟩ := hnest f v d d' h
    rw [through_run_nested, through_run_nested, hend]
    exact ih _ _ _ hleft
  | failures next ih =>
    intro d d' h
    rw [through_run_failures, through_run_failures, h.failures]
    exact ih _ _ _ h

theorem runAlike_tryFormatters (request : Request) (none : Error) (fs : List Formatter) :
    RunAlike (tryFormatters (fun f => (f.format request).run nest) none fs)
      (tryFormatters (fun f => (f.format request).run nest') none fs) := by
  induction fs with
  | nil => exact runAlike_throw none
  | cons f fs ih =>
    intro d d' hd
    obtain ⟨hend, hleft⟩ := (f.format request).runAlike hnest d d' hd
    rcases hr : d.through ((f.format request).run nest) with ⟨r, d₁⟩
    rcases hr' : d'.through ((f.format request).run nest') with ⟨r', d₁'⟩
    rw [hr, hr'] at hend hleft
    obtain rfl : r = r' := hend
    rcases r with e | handled
    · rw [through_tryFormatters_failed none fs hr, through_tryFormatters_failed none fs hr']
      exact ⟨rfl, hleft⟩
    · cases handled with
      | true =>
        rw [through_tryFormatters_handled none fs hr, through_tryFormatters_handled none fs hr']
        exact ⟨rfl, hleft⟩
      | false =>
        rw [through_tryFormatters_declined none fs hr, through_tryFormatters_declined none fs hr']
        exact ih _ _ (hleft.rewind hd)

end Alike

namespace Call

section Alike

variable {c : Call}

theorem runAlike_attempt {nest nest' : Format → Value → RenderM Unit}
    (hnest : ∀ f v, RunAlike (nest f v) (nest' f v)) (s : Scope) (p : Placeholder) :
    RunAlike (c.attempt nest s p) (c.attempt nest' s p) := by
  unfold attempt
  split
  · exact runAlike_tryFormatters hnest _ _ _
  · exact runAlike_throw _

variable {a b : ErrorAction} (ha : a ≠ .fail) (hb : b ≠ .fail)
include ha hb

theorem runAlike_recordFailure (p : Placeholder) (e : Error) :
    RunAlike (recordFailure a p e) (recordFailure b p e) := by
  intro d d' hd
  rw [through_recordFailure d p e ha, through_recordFailure d' p e hb]
  refine ⟨rfl, ?_, hd.aborting⟩
  simp only [Draft.record, Draft.write, hd.failures]

theorem runAlike_conclude (p : Placeholder) (text text' : String) (r : Except Error Unit) :
    RunAlike ((c.withAction a).conclude p text r) ((c.withAction b).conclude p text' r) := by
  cases r with
  | ok u => exact runAlike_write _ _
  | error e =>
    intro d d' hd
    simp only [conclude, through_handleFailure, ← hd.aborting]
    split
    · exact ⟨rfl, hd.failures, rfl⟩
    · exact runAlike_recordFailure ha hb p e d d' hd

variable (hignores : ∀ f ∈ c.formatters, f.IgnoresAction)
include hignores

theorem runAlike_renderPlaceholder {nest nest' : Format → Value → RenderM Unit}
    (hnest : ∀ f v, RunAlike (nest f v) (nest' f v)) (s : Scope) (p : Placeholder) :
    RunAlike ((c.withAction a).renderPlaceholder nest s p)
      ((c.withAction b).renderPlaceholder nest' s p) := by
  intro d d' hd
  have hblank : Draft.SameButText { d with out := "" } { d' with out := "" } :=
    ⟨hd.failures, hd.aborting⟩
  obtain ⟨hend, hleft⟩ := c.runAlike_attempt hnest s p _ _ hblank
  rcases hr : Draft.through { d with out := "" } (c.attempt nest s p) with ⟨r, d₁⟩
  rcases hr' : Draft.through { d' with out := "" } (c.attempt nest' s p) with ⟨r', d₁'⟩
  rw [hr, hr'] at hend hleft
  obtain rfl : r = r' := hend
  rw [← attempt_withAction hignores a] at hr
  rw [← attempt_withAction hignores b] at hr'
  rw [through_renderPlaceholder _ nest s p hr, through_renderPlaceholder _ nest' s p hr']
  exact runAlike_conclude ha hb p d₁.out d₁'.out r _ _ ⟨hleft.failures, hleft.aborting⟩

/-- Two calls that replace failures. -/
def alike : RenderSimulation (c.withAction a) (c.withAction b) where
  rel := RunAlike
  done := fun _ _ h => ⟨rfl, h⟩
  write text := runAlike_write text text
  seq h h' := h.seq h'
  tooDeep _ := fun _ _ h => ⟨rfl, h.failures, rfl⟩
  placeholder s p hnest := runAlike_renderPlaceholder ha hb hignores hnest s p

theorem alike_finished :
    (c.withAction a).finished.1 = (c.withAction b).finished.1 ∧
      (c.withAction a).finished.2.SameButText (c.withAction b).finished.2 :=
  (alike ha hb hignores).renderFormat c.settings.dialect.maxDepth c.root c.template.format {} {}
    ⟨rfl, rfl⟩

end Alike

section Outcomes

variable {c : Call} (hbuiltIn : ∀ f ∈ c.formatters, f ∈ Formatter.builtIn) {a b : ErrorAction}
  (ha : a ≠ .fail) (hb : b ≠ .fail)
include hbuiltIn ha

theorem render_withAction_contained : (∃ r, (c.withAction a).render = .ok r) ∨
    ∃ position max, (c.withAction a).render = .error (.tooDeep position max) :=
  render_contained ha fun f hf => (Formatter.prompt_of_mem_builtIn (hbuiltIn f hf)).yields

/-- A call that the first failure ends, beside one that replaces failures. -/
theorem render_cases :
    ((c.withAction a).render = (c.withAction .fail).render ∧
      ((∃ r, (c.withAction .fail).render = .ok r ∧ r.failures = []) ∨
        ∃ position max, (c.withAction .fail).render = .error (.tooDeep position max))) ∨
    ∃ x, (c.withAction .fail).finished.2.failures = [x] ∧ x.error.isRecoverable = true ∧
      (c.withAction .fail).render = .error x.error ∧
      ((∃ position max, (c.withAction a).render = .error (.tooDeep position max)) ∨
        ∃ r, (c.withAction a).render = .ok r ∧ r.failures.head? = some x) := by
  have hparting := parting_finished ha hbuiltIn
  have hcontained := render_withAction_contained hbuiltIn ha
  rw [render_eq] at hcontained
  rw [render_eq, render_eq]
  rcases hr : (c.withAction .fail).finished with ⟨r, d⟩
  rcases hr' : (c.withAction a).finished with ⟨r', d'⟩
  rw [hr, hr'] at hparting
  rw [hr'] at hcontained
  cases hparting with
  | together hnone hsettled =>
    refine .inl ⟨rfl, ?_⟩
    cases r with
    | ok u => exact .inl ⟨_, rfl, hnone⟩
    | error err =>
      obtain ⟨position, max, rfl⟩ := Error.eq_tooDeep hsettled
      exact .inr ⟨position, max, rfl⟩
  | parted hx hone hgiven hfirst =>
    refine .inr ⟨_, hone, hx, rfl, ?_⟩
    cases r' with
    | ok u => exact .inr ⟨_, rfl, hfirst⟩
    | error err =>
      rcases hcontained with ⟨out, hout⟩ | htooDeep
      · cases hout
      · exact .inl htooDeep

/-- Where no failure ends the call, there is nothing to replace. -/
theorem render_of_ok {r : Rendered} (hok : (c.withAction .fail).render = .ok r) :
    r.failures = [] ∧ (c.withAction a).render = .ok r := by
  rcases render_cases hbuiltIn ha with
    ⟨hsame, ⟨r', hr', hnone⟩ | ⟨position, max, hdeep⟩⟩ | ⟨x, -, -, hfails, -⟩
  · rw [hsame, hok]
    rw [hok] at hr'
    cases hr'
    exact ⟨hnone, rfl⟩
  · rw [hok] at hdeep
    cases hdeep
  · rw [hok] at hfails
    cases hfails

/-- The failure that ends the call is the first to be replaced. -/
theorem render_of_error {err : Error} (hfails : (c.withAction .fail).render = .error err)
    (herr : err.isRecoverable = true) :
    ∃ x, (c.withAction .fail).finished.2.failures = [x] ∧ x.error = err ∧
      ((∃ position max, (c.withAction a).render = .error (.tooDeep position max)) ∨
        ∃ r, (c.withAction a).render = .ok r ∧ r.failures.head? = some x) := by
  rcases render_cases hbuiltIn ha with
    ⟨-, ⟨r', hr', -⟩ | ⟨position, max, hdeep⟩⟩ | ⟨x, hone, -, hx, hother⟩
  · rw [hfails] at hr'
    cases hr'
  · rw [hfails] at hdeep
    cases hdeep
    cases herr
  · rw [hfails] at hx
    cases hx
    exact ⟨x, hone, rfl, hother⟩

theorem render_of_tooDeep {position max : Nat}
    (hdeep : (c.withAction .fail).render = .error (.tooDeep position max)) :
    (c.withAction a).render = .error (.tooDeep position max) := by
  rcases render_cases hbuiltIn ha with ⟨hsame, -⟩ | ⟨x, -, hx, hfails, -⟩
  · rw [hsame, hdeep]
  · rw [hdeep] at hfails
    rw [← Except.error.inj hfails] at hx
    cases hx

include hb

/-- Calls that replace failures end alike. -/
theorem render_alike :
    (∃ position max, (c.withAction a).render = .error (.tooDeep position max) ∧
      (c.withAction b).render = .error (.tooDeep position max)) ∨
    ∃ r r', (c.withAction a).render = .ok r ∧ (c.withAction b).render = .ok r' ∧
      r.failures = r'.failures := by
  obtain ⟨hend, hleft⟩ := alike_finished ha hb fun f hf =>
    Formatter.ignoresAction_of_mem_builtIn (hbuiltIn f hf)
  have hcontained := render_withAction_contained hbuiltIn ha
  rw [render_eq] at hcontained
  rw [render_eq, render_eq, ← hend]
  cases hr : (c.withAction a).finished.1 with
  | ok u => exact .inr ⟨_, _, rfl, rfl, hleft.failures⟩
  | error err =>
    rw [hr] at hcontained
    rcases hcontained with ⟨out, hout⟩ | ⟨position, max, htooDeep⟩
    · cases hout
    · cases htooDeep
      exact .inl ⟨position, max, rfl, rfl⟩

end Outcomes

end Call

/-- The engine with something else done about failures. -/
def Engine.withAction (e : Engine) (a : ErrorAction) : Engine :=
  e.changeSettings ({ · with onFailure := a })

theorem Engine.call_withAction (e : Engine) (a : ErrorAction) (cached : Option Nat) (t : Template)
    (args : List Value) : (e.withAction a).call cached t args =
      (e.discardDialect.call cached t args).withAction a := rfl

/-- What is done about failures changes only what is written for them, with the formatters of the
library. If a call that the first failure ends yields a text, there were no failures and any other
call yields the same. If it ends with a failure, that is the one on record, and any other call has
it as its first or cannot be finished. Nesting that is too deep for it is too deep for all. Two
calls that replace failures have the same on record, or are both too deep. -/
theorem renderTemplate_withAction {e : Engine}
    (hbuiltIn : ∀ f ∈ e.formatters, f ∈ Formatter.builtIn) (cached : Option Nat) (t : Template)
    (args : List Value) :
    (∀ (a : ErrorAction) (r : Rendered), a ≠ .fail →
      (e.withAction .fail).renderTemplate cached t args = .ok r →
      r.failures = [] ∧ (e.withAction a).renderTemplate cached t args = .ok r) ∧
    (∀ err : Error, (e.withAction .fail).renderTemplate cached t args = .error err →
      err.isRecoverable = true →
      ∃ x : Failure, ((e.withAction .fail).call cached t args).finished.2.failures = [x] ∧
        x.message = err.message ∧
        ∀ a : ErrorAction, a ≠ .fail →
          (∃ position max,
            (e.withAction a).renderTemplate cached t args = .error (.tooDeep position max)) ∨
          ∃ r, (e.withAction a).renderTemplate cached t args = .ok r ∧
            r.failures.head? = some x) ∧
    (∀ (a : ErrorAction) (position max : Nat), a ≠ .fail →
      (e.withAction .fail).renderTemplate cached t args = .error (.tooDeep position max) →
      (e.withAction a).renderTemplate cached t args = .error (.tooDeep position max)) ∧
    ∀ a b : ErrorAction, a ≠ .fail → b ≠ .fail →
      (∃ position max,
        (e.withAction a).renderTemplate cached t args = .error (.tooDeep position max) ∧
        (e.withAction b).renderTemplate cached t args = .error (.tooDeep position max)) ∨
      ∃ r r', (e.withAction a).renderTemplate cached t args = .ok r ∧
        (e.withAction b).renderTemplate cached t args = .ok r' ∧ r.failures = r'.failures := by
  simp only [Engine.renderTemplate_eq, Engine.call_withAction]
  have hformatters : ∀ f ∈ (e.discardDialect.call cached t args).formatters,
    f ∈ Formatter.builtIn := hbuiltIn
  generalize e.discardDialect.call cached t args = c at hformatters
  refine ⟨fun a r ha hok => Call.render_of_ok hformatters ha hok, fun err hfails herr => ?_,
    fun a position max ha hdeep => Call.render_of_tooDeep hformatters ha hdeep,
    fun a b ha hb => Call.render_alike hformatters ha hb⟩
  have hfirst := fun (a : ErrorAction) (ha : a ≠ .fail) =>
    Call.render_of_error hformatters ha hfails herr
  obtain ⟨x, hone, rfl, -⟩ := hfirst .nothing (by decide)
  refine ⟨x, hone, rfl, fun a ha => ?_⟩
  obtain ⟨y, hone', -, hother⟩ := hfirst a ha
  rw [hone] at hone'
  cases hone'
  exact hother

/-- A failure inside a choice, and another behind it that a call which the first one ends never
comes to. -/
theorem renderTemplate_withAction_choice :
    (∀ f ∈ (Engine.standard ⟨0, 0⟩).formatters, f ∈ Formatter.builtIn) ∧
    ∃ t err, Template.parse {} "{0:choose(a|b):-|<{x}>} {y}" = .ok t ∧
      ((Engine.standard ⟨0, 0⟩).withAction .fail).renderTemplate none t [.string "b"] =
        .error err ∧
      err.isRecoverable = true ∧
      (∃ x : Failure, (((Engine.standard ⟨0, 0⟩).withAction .fail).call none t
          [.string "b"]).finished.2.failures = [x] ∧ x.message = err.message) ∧
      (((Engine.standard ⟨0, 0⟩).withAction .asWritten).renderTemplate none t
          [.string "b"]).toOption.map (fun r => (r.output, r.failures.map (·.placeholder))) =
        some ("<{x}> {y}", ["{x}", "{y}"]) := by
  have hany : (Template.parse {} "{0:choose(a|b):-|<{x}>} {y}").toOption.any (fun t =>
      (match ((Engine.standard ⟨0, 0⟩).withAction .fail).renderTemplate none t [.string "b"] with
        | .ok _ => false
        | .error err => err.isRecoverable) &&
      (((Engine.standard ⟨0, 0⟩).withAction .asWritten).renderTemplate none t
          [.string "b"]).toOption.map (fun r => (r.output, r.failures.map (·.placeholder))) ==
        some ("<{x}> {y}", ["{x}", "{y}"])) = true := by
    decide +kernel
  obtain ⟨t, hread, hruns⟩ := exists_parse_of_any hany
  rw [Bool.and_eq_true, beq_iff_eq] at hruns
  obtain ⟨herr, hother⟩ := hruns
  cases hfails : ((Engine.standard ⟨0, 0⟩).withAction .fail).renderTemplate none t
    [.string "b"] with
  | ok r =>
    rw [hfails] at herr
    cases herr
  | error err =>
    rw [hfails] at herr
    obtain ⟨-, hfirst, -⟩ := renderTemplate_withAction (e := .standard ⟨0, 0⟩)
      (fun f hf => hf) none t [.string "b"]
    obtain ⟨x, hone, hmessage, -⟩ := hfirst err hfails herr
    exact ⟨fun f hf => hf, t, err, hread, hfails, herr, ⟨x, hone, hmessage⟩, hother⟩

end Stencil
