import Stencil.Proofs.Render.Parallel
import Stencil.Proofs.Render.Steps

/-!
# Rendering with a counter

The renderer as a recursion in which a nested format is entered at whatever depth the counter does
not forbid: the counter is raised where a nested format is entered and lowered where it is left. As
a formatter may render any format, such as the whole template once more, it is not plain that the
recursion ends. So it is cut off after a number of calls and yields nothing then; a rendering ends
if it yields something however high that number is from some number on. It does what the renderer
with levels does: where `n` nested formats are being rendered, `n` levels of the limit are used up.
-/

namespace Stencil

set_option autoImplicit false

/-- A moment of a render: the placeholders whose nested formats are being rendered, from the
innermost outwards, the counter, and what is left of the innermost format. -/
structure Visit where
  enclosing : List Placeholder
  depth : Nat
  left : List Piece

/-- The draft with the counter, and the moments that were passed. -/
structure Gauge where
  draft : Draft
  depth : Nat
  visits : List Visit

/-- A step of a render with a counter. It yields nothing where the recursion is cut off. -/
abbrev CountM := StateT Gauge Option

namespace CountM

def onDraft {α : Type} (step : RenderM α) : CountM (Except Error α) := fun g =>
  some ((g.draft.through step).1, { g with draft := (g.draft.through step).2 })

def getDraft : CountM Draft := return (← get).draft

def modifyDraft (change : Draft → Draft) : CountM Unit :=
  modify fun g => { g with draft := change g.draft }

def visit (enclosing : List Placeholder) (left : List Piece) : CountM Unit :=
  modify fun g => { g with visits := g.visits ++ [⟨enclosing, g.depth, left⟩] }

end CountM

open CountM

def Script.count (nest : Format → Value → CountM (Except Error Unit)) :
    Script Bool → CountM (Except Error Bool)
  | .done handled => return .ok handled
  | .fail e => return .error e
  | .write text next => do
    modifyDraft (·.write text)
    next.count nest
  | .nested f v next => do
    let r ← nest f v
    (next r).count nest
  | .failures next => do
    let d ← getDraft
    (next d.failures).count nest

namespace Call

def countFormatters (c : Call) (nest : Format → Value → CountM (Except Error Unit))
    (p : Placeholder) (v : Value) : List Formatter → CountM (Except Error Unit)
  | [] => return .error (.unformatted p.raw (.noFormatter p.name))
  | f :: fs => do
    let before ← getDraft
    match ← (f.format (c.request p v)).count nest with
    | .ok true => return .ok ()
    | .ok false => do
      modifyDraft (·.rewind before.mark)
      c.countFormatters nest p v fs
    | .error e => return .error e

def countAttempt (c : Call) (nest : Format → Value → CountM (Except Error Unit)) (s : Scope)
    (p : Placeholder) : CountM (Except Error Unit) :=
  match c.resolve s p with
  | .ok v => c.countFormatters nest p v
      (c.formatters.filter (·.answersTo c.settings.caseSensitivity p.name))
  | .error selector => return .error (.unresolved p.raw selector)

def countPlaceholder (c : Call) (nest : Format → Value → CountM (Except Error Unit)) (s : Scope)
    (p : Placeholder) : CountM (Except Error Unit) := do
  let before ← getDraft
  modifyDraft ({ · with out := "" })
  let r ← c.countAttempt nest s p
  let after ← getDraft
  modifyDraft ({ · with out := before.out })
  onDraft (c.conclude p after.out r)

def countPieces (c : Call) (nest : Placeholder → Format → Value → CountM (Except Error Unit))
    (enclosing : List Placeholder) (s : Scope) : List Piece → CountM (Except Error Unit)
  | [] => do
    visit enclosing []
    return .ok ()
  | .literal l :: ps => do
    visit enclosing (.literal l :: ps)
    modifyDraft (·.write l.rendered)
    c.countPieces nest enclosing s ps
  | .placeholder p :: ps => do
    visit enclosing (.placeholder p :: ps)
    match ← c.countPlaceholder (nest p) s p with
    | .ok () => c.countPieces nest enclosing s ps
    | .error e => return .error e

/-- Renders a format that is nested in `p`, unless the counter is at the limit. -/
def countNested (c : Call) : Nat → List Placeholder → Scope → Placeholder → Format → Value →
    CountM (Except Error Unit)
  | 0, _, _, _, _, _ => failure
  | bound + 1, enclosing, s, p, f, v => do
    let g ← get
    if c.settings.dialect.maxDepth ≤ g.depth then
      onDraft (abandon (.tooDeep p.start c.settings.dialect.maxDepth))
    else
      modify fun g => { g with depth := g.depth + 1 }
      let r ← c.countPieces (c.countNested bound (p :: enclosing) (s.enter v)) (p :: enclosing)
        (s.enter v) f.pieces
      modify fun g => { g with depth := g.depth - 1 }
      return r

/-- Renders the pieces of a format around which those of `enclosing` are being rendered. -/
def countWithin (c : Call) (bound : Nat) (enclosing : List Placeholder) (s : Scope)
    (ps : List Piece) :
    CountM (Except Error Unit) :=
  c.countPieces (c.countNested bound enclosing s) enclosing s ps

end Call

/-- From the draft `d` and the counter at `depth`, the step ends in `a` with the draft `d'` and the
counter where it was, and what it passes is as `visited` says. -/
def CountM.Ends {α : Type} (depth : Nat) (visited : Visit → Prop) (counted : CountM α) (d : Draft)
    (a : α) (d' : Draft) : Prop :=
  ∀ visits, ∃ more, counted.run ⟨d, depth, visits⟩ = some (a, ⟨d', depth, visits ++ more⟩) ∧
    ∀ v ∈ more, visited v

namespace CountM

variable {α β : Type} {depth : Nat} {visited : Visit → Prop} {d d' d'' : Draft}

theorem Ends.bind {counted : CountM α} {next : α → CountM β} {a : α} {b : β}
    (h : Ends depth visited counted d a d'') (hnext : Ends depth visited (next a) d'' b d') :
    Ends depth visited (counted >>= next) d b d' := by
  intro visits
  obtain ⟨more, hrun, hmore⟩ := h visits
  obtain ⟨more', hrun', hmore'⟩ := hnext (visits ++ more)
  refine ⟨more ++ more', ?_, fun v hv => (List.mem_append.mp hv).elim (hmore v) (hmore' v)⟩
  simp [hrun, hrun', List.append_assoc]

theorem Ends.mono {visited' : Visit → Prop} {counted : CountM α} {a : α}
    (h : Ends depth visited counted d a d') (himp : ∀ v, visited v → visited' v) :
    Ends depth visited' counted d a d' := by
  intro visits
  obtain ⟨more, hrun, hmore⟩ := h visits
  exact ⟨more, hrun, fun v hv => himp v (hmore v hv)⟩

theorem ends_pure (a : α) (d : Draft) : Ends depth visited (pure a) d a d :=
  fun visits => ⟨[], by simp, by simp⟩

theorem ends_getDraft (d : Draft) : Ends depth visited getDraft d d d :=
  fun visits => ⟨[], by simp [getDraft], by simp⟩

theorem ends_modifyDraft (change : Draft → Draft) (d : Draft) :
    Ends depth visited (modifyDraft change) d () (change d) :=
  fun visits => ⟨[], by rw [List.append_nil]; rfl, by simp⟩

@[simp] theorem run_onDraft (step : RenderM α) (g : Gauge) :
    (onDraft step).run g =
      some ((g.draft.through step).1, { g with draft := (g.draft.through step).2 }) := rfl

theorem ends_onDraft {step : RenderM α} {r : Except Error α} (h : d.through step = (r, d')) :
    Ends depth visited (onDraft step) d r d' := by
  refine fun visits => ⟨[], ?_, by simp⟩
  rw [run_onDraft, h, List.append_nil]

theorem ends_visit {enclosing : List Placeholder} {left : List Piece} (d : Draft)
    (h : visited ⟨enclosing, depth, left⟩) : Ends depth visited (visit enclosing left) d () d :=
  fun visits => ⟨[⟨enclosing, depth, left⟩], rfl, by simpa using h⟩

end CountM

/-- The counter is the number of nested formats that are being rendered, and within the limit. -/
structure Call.Gauged (c : Call) (v : Visit) : Prop where
  counted : v.depth = v.enclosing.length
  bounded : v.depth ≤ c.settings.dialect.maxDepth

/-- What is known of the pieces that are left at a depth, and of the errors that come up. -/
structure DepthBounds (c : Call) where
  fits : Nat → List Piece → Prop
  errors : Error → Prop
  later : ∀ {depth : Nat} {piece : Piece} {ps : List Piece}, fits depth (piece :: ps) →
    fits depth ps
  recoverable : ∀ e : Error, e.isRecoverable = true → errors e
  limit : ∀ {p : Placeholder} {ps : List Piece},
    fits c.settings.dialect.maxDepth (.placeholder p :: ps) →
      errors (.tooDeep p.start c.settings.dialect.maxDepth)
  scripts : ∀ {depth : Nat} {p : Placeholder} {ps : List Piece} {f : Formatter} (v : Value),
    fits depth (.placeholder p :: ps) → f ∈ c.formatters →
      (f.format (c.request p v)).Within (fun g => fits (depth + 1) g.pieces) errors

namespace DepthBounds

variable {c : Call} (bounds : DepthBounds c)

structure Allows (v : Visit) : Prop extends c.Gauged v where
  fits : bounds.fits v.depth v.left

/-- Where so many nested formats are being rendered, the counted step does what the other does. -/
def Tracks {α : Type} (enclosing : List Placeholder) (counted : CountM (Except Error α))
    (step : RenderM α) : Prop :=
  ∀ (d d' : Draft) (r : Except Error α), d.through step = (r, d') →
    CountM.Ends enclosing.length bounds.Allows counted d r d' ∧ ∀ e, r = .error e → bounds.errors e

variable {bounds} {enclosing : List Placeholder} {s : Scope} {p : Placeholder}
  {nest : Format → Value → RenderM Unit}

theorem tracks_throw {α : Type} {e : Error} (he : bounds.errors e) :
    bounds.Tracks enclosing (pure (.error e) : CountM (Except Error α)) (throw e) := by
  intro d d' r hr
  cases hr
  refine ⟨CountM.ends_pure _ d, ?_⟩
  rintro _ ⟨⟩
  exact he

theorem tracks_conclude (p : Placeholder) (text : String) {r : Except Error Unit}
    (hr : ∀ e, r = .error e → bounds.errors e) :
    bounds.Tracks enclosing (CountM.onDraft (c.conclude p text r)) (c.conclude p text r) := by
  intro d d' r' hr'
  refine ⟨CountM.ends_onDraft hr', ?_⟩
  rintro e rfl
  exact hr e (c.eq_error_of_conclude p hr')

section Nested

variable {opens : Format → Prop} {counted : Format → Value → CountM (Except Error Unit)}
  (hnest : ∀ f v, opens f → bounds.Tracks enclosing (counted f v) (nest f v))
include hnest

theorem tracks_script {script : Script Bool} (h : script.Within opens bounds.errors) :
    bounds.Tracks enclosing (script.count counted) (script.run nest) := by
  induction script with
  | done handled =>
    rintro d d' r ⟨⟩
    exact ⟨CountM.ends_pure _ d, by simp⟩
  | fail e => exact tracks_throw h
  | write text next ih =>
    intro d d' r hr
    obtain ⟨hends, herror⟩ := ih h (d.write text) d' r hr
    exact ⟨(CountM.ends_modifyDraft _ d).bind hends, herror⟩
  | nested f v next ih =>
    intro d d' r hr
    rcases hinner : d.through (nest f v) with ⟨r', d''⟩
    obtain ⟨hends, herror⟩ := hnest f v h.1 d d'' r' hinner
    rw [through_run_nested, hinner] at hr
    obtain ⟨hends', herror'⟩ := ih r' (h.2 r' herror) d'' d' r hr
    exact ⟨hends.bind hends', herror'⟩
  | failures next ih =>
    intro d d' r hr
    obtain ⟨hends, herror⟩ := ih d.failures (h d.failures) d d' r hr
    exact ⟨(CountM.ends_getDraft d).bind hends, herror⟩

theorem tracks_formatters {v : Value} {fs : List Formatter}
    (h : ∀ f ∈ fs, (f.format (c.request p v)).Within opens bounds.errors) :
    bounds.Tracks enclosing (c.countFormatters counted p v fs)
      (tryFormatters (fun f => (f.format (c.request p v)).run nest)
        (.unformatted p.raw (.noFormatter p.name)) fs) := by
  induction fs with
  | nil => exact tracks_throw (bounds.recoverable _ rfl)
  | cons f fs ih =>
    intro d d' r hr
    rcases hf : d.through ((f.format (c.request p v)).run nest) with ⟨e | handled, d''⟩
    all_goals
      obtain ⟨hends, herror⟩ := tracks_script hnest (h f List.mem_cons_self) d d'' _ hf
    · rw [through_tryFormatters_failed _ _ hf] at hr
      cases hr
      exact ⟨(CountM.ends_getDraft d).bind (hends.bind (CountM.ends_pure _ d')),
        by simpa using herror⟩
    · cases handled with
      | true =>
        rw [through_tryFormatters_handled _ _ hf] at hr
        cases hr
        exact ⟨(CountM.ends_getDraft d).bind (hends.bind (CountM.ends_pure _ d')), by simp⟩
      | false =>
        rw [through_tryFormatters_declined _ _ hf] at hr
        obtain ⟨hends', herror'⟩ := ih (fun g hg => h g (List.mem_cons_of_mem f hg)) _ d' r hr
        exact ⟨(CountM.ends_getDraft d).bind
          (hends.bind ((CountM.ends_modifyDraft _ d'').bind hends')), herror'⟩

theorem tracks_attempt
    (h : ∀ v, ∀ f ∈ c.formatters, (f.format (c.request p v)).Within opens bounds.errors) :
    bounds.Tracks enclosing (c.countAttempt counted s p) (c.attempt nest s p) := by
  unfold Call.countAttempt Call.attempt
  cases c.resolve s p with
  | ok v => exact tracks_formatters hnest fun f hf => h v f (List.mem_filter.mp hf).1
  | error selector => exact tracks_throw (bounds.recoverable _ rfl)

theorem tracks_placeholder
    (h : ∀ v, ∀ f ∈ c.formatters, (f.format (c.request p v)).Within opens bounds.errors) :
    bounds.Tracks enclosing (c.countPlaceholder counted s p) (c.renderPlaceholder nest s p) := by
  intro d d' r hr
  rcases htried : Draft.through { d with out := "" } (c.attempt nest s p) with ⟨r', d''⟩
  obtain ⟨hends, herror⟩ := tracks_attempt hnest h _ d'' r' htried
  rw [c.through_renderPlaceholder nest s p htried] at hr
  obtain ⟨hends', herror'⟩ := tracks_conclude p d''.out herror _ d' r hr
  exact ⟨(CountM.ends_getDraft d).bind <| (CountM.ends_modifyDraft _ d).bind <| hends.bind <|
    (CountM.ends_getDraft d'').bind <| (CountM.ends_modifyDraft _ d'').bind hends', herror'⟩

end Nested

variable {levels bound : Nat} {ps : List Piece}

/-- The renderer of nested formats does what the one with levels does, as far as the bounds say. -/
def TracksNested (enclosing : List Placeholder) (s : Scope) (bound levels : Nat) : Prop :=
  ∀ p ps f v, bounds.fits enclosing.length (.placeholder p :: ps) →
    bounds.fits (enclosing.length + 1) f.pieces →
    bounds.Tracks enclosing (c.countNested bound enclosing s p f v) (c.nestWithin levels s p f v)

theorem tracks_pieces (hnest : bounds.TracksNested enclosing s bound levels)
    (hbounded : enclosing.length ≤ c.settings.dialect.maxDepth)
    (h : bounds.fits enclosing.length ps) :
    bounds.Tracks enclosing (c.countWithin bound enclosing s ps)
      (c.renderPieces (c.nestWithin levels s) s ps) := by
  have hvisit : bounds.Allows ⟨enclosing, enclosing.length, ps⟩ := ⟨⟨rfl, hbounded⟩, h⟩
  induction ps with
  | nil =>
    rintro d d' r ⟨⟩
    exact ⟨(CountM.ends_visit d hvisit).bind (CountM.ends_pure _ d), by simp⟩
  | cons piece ps ih =>
    have hrest := bounds.later h
    have hlater := ih hrest ⟨⟨rfl, hbounded⟩, hrest⟩
    intro d d' r hr
    cases piece with
    | literal l =>
      obtain ⟨hends, herror⟩ := hlater (d.write l.rendered) d' r hr
      exact ⟨(CountM.ends_visit d hvisit).bind ((CountM.ends_modifyDraft _ d).bind hends), herror⟩
    | placeholder p =>
      have hfirst := tracks_placeholder (s := s) (fun f v hf => hnest p ps f v h hf)
        fun v f hf => bounds.scripts v h hf
      rw [Call.renderPieces] at hr
      rcases hp : d.through (c.renderPlaceholder (c.nestWithin levels s p) s p) with ⟨e | u, d''⟩
      all_goals obtain ⟨hends, herror⟩ := hfirst d d'' _ hp
      · rw [through_bind_error hp] at hr
        cases hr
        exact ⟨(CountM.ends_visit d hvisit).bind (hends.bind (CountM.ends_pure _ d')),
          by simpa using herror⟩
      · rw [through_bind_ok hp] at hr
        obtain ⟨hends', herror'⟩ := hlater d'' d' r hr
        exact ⟨(CountM.ends_visit d hvisit).bind (hends.bind hends'), herror'⟩

theorem tracksNested_limit (hlimit : enclosing.length = c.settings.dialect.maxDepth) (s : Scope)
    (bound : Nat) : bounds.TracksNested enclosing s (bound + 1) 0 := by
  rintro p ps f v h - d d' r ⟨⟩
  rw [hlimit] at h
  refine ⟨fun visits => ⟨[], ?_, by simp⟩, ?_⟩
  · rw [Call.countNested, List.append_nil]
    simp [hlimit]
  · rintro e ⟨⟩
    exact bounds.limit h

theorem tracks_nested {f : Format} {v : Value}
    (hroom : enclosing.length < c.settings.dialect.maxDepth)
    (h : bounds.Tracks (p :: enclosing) (c.countWithin bound (p :: enclosing) (s.enter v) f.pieces)
      (c.renderFormat levels (s.enter v) f)) :
    bounds.Tracks enclosing (c.countNested (bound + 1) enclosing s p f v)
      (c.nestWithin (levels + 1) s p f v) := by
  intro d d' r hr
  obtain ⟨hends, herror⟩ := h d d' r hr
  refine ⟨fun visits => ?_, herror⟩
  obtain ⟨more, hrun, hmore⟩ := hends visits
  rw [List.length_cons, Call.countWithin] at hrun
  refine ⟨more, ?_, hmore⟩
  rw [Call.countNested]
  simp [Nat.not_le.mpr hroom, hrun]

variable (bounds) in
/-- With the counter as far from the limit as there are levels, the renderers do the same. -/
theorem tracks_levels (hlevels : enclosing.length + levels = c.settings.dialect.maxDepth)
    (hbound : levels < bound) (s : Scope) :
    (∀ ps, bounds.fits enclosing.length ps →
      bounds.Tracks enclosing (c.countWithin bound enclosing s ps)
        (c.renderPieces (c.nestWithin levels s) s ps)) ∧
    bounds.TracksNested enclosing s bound levels := by
  induction levels generalizing enclosing s bound with
  | zero =>
    obtain ⟨bound, rfl⟩ := Nat.exists_eq_succ_of_ne_zero (Nat.ne_zero_of_lt hbound)
    have hnested := bounds.tracksNested_limit hlevels s bound
    exact ⟨fun ps h => tracks_pieces hnested (by omega) h, hnested⟩
  | succ levels ih =>
    obtain ⟨bound, rfl⟩ := Nat.exists_eq_succ_of_ne_zero (Nat.ne_zero_of_lt hbound)
    have hnested : bounds.TracksNested enclosing s (bound + 1) (levels + 1) := by
      intro p ps f v _ hf
      refine tracks_nested (by omega) ?_
      rw [Call.renderFormat_eq]
      exact (ih (by simp only [List.length_cons]; omega) (by omega) (s.enter v)).1 f.pieces hf
    exact ⟨fun ps h => tracks_pieces hnested (by omega) h, hnested⟩

end DepthBounds

end Stencil
