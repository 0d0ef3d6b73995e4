import Stencil.Proofs.Render.Claims
import Stencil.Proofs.Render.Parallel

/-!
# What a render complains of

An error that a render ends with, or that it records, comes from the placeholder it is about, or
from a nested format. So if each placeholder by itself only complains of what it may, the whole
render does.
-/

namespace Stencil

set_option autoImplicit false

/-- The step fails only as `allowed` says, and records nothing else. -/
def Reports {α : Type} (allowed : Error → Prop) (step : RenderM α) : Prop :=
  ∀ d : Draft, (∀ e, (d.through step).1 = .error e → allowed e) ∧
    ((∀ x ∈ d.failures, allowed x.error) → ∀ x ∈ (d.through step).2.failures, allowed x.error)

section Steps

variable {α β : Type} {allowed : Error → Prop}

theorem reports_pure (a : α) : Reports allowed (pure a) := fun _ => ⟨fun _ h => (by cases h), id⟩

theorem reports_throw {e : Error} (he : allowed e) : Reports allowed (throw e : RenderM α) :=
  fun _ => ⟨fun _ h => by cases h; exact he, id⟩

theorem reports_abandon {e : Error} (he : allowed e) : Reports allowed (abandon e) :=
  fun _ => ⟨fun _ h => by cases h; exact he, id⟩

theorem reports_write (text : String) : Reports allowed (modify (·.write text)) :=
  fun _ => ⟨fun _ h => (by cases h), id⟩

theorem Reports.bind {first : RenderM α} {next : α → RenderM β} (h : Reports allowed first)
    (hnext : ∀ a, Reports allowed (next a)) : Reports allowed (first >>= next) := by
  intro d
  obtain ⟨herror, hfailures⟩ := h d
  rcases hr : d.through first with ⟨e | a, d'⟩ <;> rw [hr] at herror hfailures
  · rw [through_bind_error hr]
    exact ⟨fun e' he => by cases he; exact herror e rfl, hfailures⟩
  · rw [through_bind_ok hr]
    exact ⟨(hnext a d').1, fun hd => (hnext a d').2 (hfailures hd)⟩

theorem reports_recordFailure (action : ErrorAction) (p : Placeholder) {e : Error}
    (he : allowed e) : Reports allowed (recordFailure action p e) := by
  intro d
  have hrecord (hd : ∀ x ∈ d.failures, allowed x.error) :
      ∀ x ∈ (d.record p e).failures, allowed x.error := by
    intro x hx
    rcases List.mem_append.mp hx with hx | hx
    · exact hd x hx
    · exact List.mem_singleton.mp hx ▸ he
  by_cases haction : action = .fail
  · rw [haction, through_recordFailure_fail]
    exact ⟨fun e' he' => by cases he'; exact he, hrecord⟩
  · rw [through_recordFailure d p e haction]
    exact ⟨fun e' he' => (by cases he'), hrecord⟩

theorem reports_handleFailure (action : ErrorAction) (p : Placeholder) {e : Error}
    (he : allowed e) : Reports allowed (handleFailure action p e) := by
  intro d
  rw [through_handleFailure]
  split
  · exact ⟨fun e' he' => by cases he'; exact he, id⟩
  · exact reports_recordFailure action p he d

theorem Script.Within.reports {opens : Format → Prop} {nest : Format → Value → RenderM Unit}
    (hnest : ∀ g v, opens g → Reports allowed (nest g v)) {s : Script α}
    (h : s.Within opens allowed) : Reports allowed (s.run nest) := by
  induction s with
  | done a => exact reports_pure a
  | fail e => exact reports_throw h
  | write text next ih => exact fun d => ih h (d.write text)
  | failures next ih => exact fun d => ih _ (h _) d
  | nested g v next ih =>
    intro d
    obtain ⟨hopens, hnext⟩ := h
    obtain ⟨herror, hfailures⟩ := hnest g v hopens d
    rw [through_run_nested]
    obtain ⟨herror', hfailures'⟩ :=
      ih _ (hnext (d.through (nest g v)).1 herror) (d.through (nest g v)).2
    exact ⟨herror', fun hd => hfailures' (hfailures hd)⟩

end Steps

section Formatters

variable {α β : Type} {opens : Format → Prop} {errors : Error → Prop}

theorem Script.Within.bind {s : Script α} {next : α → Script β} (h : s.Within opens errors)
    (hnext : ∀ a, (next a).Within opens errors) : (s >>= next).Within opens errors := by
  change (s.bind next).Within opens errors
  induction s with
  | done a => exact hnext a
  | fail e => exact h
  | write text rest ih => exact ih h
  | nested f v rest ih => exact ⟨h.1, fun r hr => ih r (h.2 r hr)⟩
  | failures rest ih => exact fun failed => ih failed (h failed)

theorem Script.within_render {f : Format} (h : opens f) (v : Value) :
    (render f v).Within opens errors := by
  refine ⟨h, fun r hr => ?_⟩
  cases r with
  | ok u => trivial
  | error e => exact hr e rfl

theorem Sections.pick_mem (s : Sections) (i : Nat) : s.pick i ∈ s.toList := by
  unfold pick
  cases hlast : (s.later.take i).getLast? with
  | none => exact List.mem_cons_self
  | some f =>
    exact List.mem_cons_of_mem _ (List.mem_of_mem_take (List.mem_of_getLast? hlast))

namespace Formatter

variable {s : Sections} {r : Request}

theorem spacer_mem {count i : Nat} {f : Format} (h : spacer s count i = some f) :
    f ∈ s.toList := by
  refine List.mem_cons_of_mem _ ?_
  unfold spacer at h
  grind [List.mem_of_getElem?, Option.or_eq_some_iff]

theorem within_renderItems (hopens : ∀ f ∈ s.toList, opens f) (count i : Nat) (vs : List Value) :
    (renderItems s count i vs).Within opens errors := by
  induction vs generalizing i with
  | nil => trivial
  | cons v vs ih =>
    have hitem : (Script.render s.first v >>= fun _ =>
        renderItems s count (i + 1) vs).Within opens errors :=
      (Script.within_render (hopens _ List.mem_cons_self) v).bind fun _ => ih (i + 1)
    unfold renderItems
    cases hspacer : spacer s count i with
    | none => exact hitem
    | some f => exact (Script.within_render (hopens f (spacer_mem hspacer)) v).bind fun _ => hitem

section Requests

variable
  (hopens : ∀ g, r.format? = some g → opens g ∧ ∀ g' ∈ (g.split sectionMark).toList, opens g')
include hopens

theorem within_list : (list.format r).Within opens errors := by
  unfold list
  simp only
  split
  · rename_i g _ hformat
    split
    · trivial
    · exact (within_renderItems (hopens g hformat).2 _ _ _).bind fun _ => trivial
  · trivial

theorem within_conditional : (conditional.format r).Within opens errors := by
  unfold conditional
  simp only
  split
  · trivial
  · rename_i g hformat
    have hsections := (hopens g hformat).2
    split
    · trivial
    · split
      · split
        · exact (Script.within_render (hsections _ List.mem_cons_self) _).bind fun _ => trivial
        · trivial
      · exact (Script.within_render (hsections _ (Sections.pick_mem _ _)) _).bind fun _ => trivial

variable (herrors : ∀ cause, (∀ name, cause ≠ .noFormatter name) → errors (r.unformatted cause))
include herrors

theorem within_choose : (choose.format r).Within opens errors := by
  unfold choose
  simp only
  split
  · exact herrors _ fun _ h => by cases h
  · rename_i g hformat
    have hsections := (hopens g hformat).2
    split
    · exact herrors _ fun _ h => by cases h
    · split
      · exact (Script.within_render (hsections _ (Sections.pick_mem _ _)) _).bind fun _ => trivial
      · exact herrors _ fun _ h => by cases h

theorem within_default : (default.format r).Within opens errors := by
  unfold default
  simp only
  split
  · trivial
  · rename_i g hformat
    split
    · trivial
    · split
      · unfold writeDate
        split
        · trivial
        · exact herrors _ fun _ h => by cases h
      · exact (Script.within_render (hopens g hformat).1 _).bind fun _ => trivial

/-- The formatters of the library complain of much, but not that there is no formatter. -/
theorem within_of_complaints {f : Formatter} (hf : f ∈ builtIn) :
    (f.format r).Within opens errors := by
  rcases mem_builtIn.mp hf with rfl | rfl | rfl | rfl
  · exact within_list hopens
  · exact within_conditional hopens
  · exact within_choose hopens herrors
  · exact within_default hopens herrors

end Requests

end Formatter

end Formatters

namespace Call

variable {c : Call} {allowed : Error → Prop} {nest : Format → Value → RenderM Unit} {s : Scope}
  {p : Placeholder} {v : Value}

theorem reports_dispatch (hnest : ∀ g v, Grows (nest g v))
    (hasked : ∀ f ∈ c.asked p, Reports allowed (c.carryOut nest p v f))
    (hnone : ∀ d, (∀ f ∈ c.asked p, c.DeclinedBy nest d p v f) →
      allowed (.unformatted p.raw (.noFormatter p.name))) :
    Reports allowed (c.dispatch nest p v) := by
  intro d
  by_cases hdeclined : ∀ f ∈ c.asked p, c.DeclinedBy nest d p v f
  · rw [through_dispatch_unclaimed hnest hdeclined]
    exact ⟨fun e he => by cases he; exact hnone d hdeclined, id⟩
  · obtain ⟨f, hclaimed⟩ := exists_claimedBy hdeclined
    obtain ⟨herror, hfailures⟩ := hasked f hclaimed.mem_asked d
    rcases hr : d.through (c.carryOut nest p v f) with ⟨r, d'⟩
    rw [hr] at herror hfailures
    rw [through_dispatch_claimed hnest hclaimed hr]
    refine ⟨fun e he => herror e ?_, hfailures⟩
    cases r with
    | ok handled => cases he
    | error e' =>
      cases he
      rfl

theorem reports_attempt (hvalue : ∀ v, Reports allowed (c.dispatch nest p v))
    (hselector : ∀ selector, allowed (.unresolved p.raw selector)) :
    Reports allowed (c.attempt nest s p) := by
  unfold attempt
  split
  · exact hvalue _
  · exact reports_throw (hselector _)

theorem reports_renderPlaceholder (h : Reports allowed (c.attempt nest s p)) :
    Reports allowed (c.renderPlaceholder nest s p) := by
  intro d
  obtain ⟨herror, hfailures⟩ := h { d with out := "" }
  rcases hr : Draft.through { d with out := "" } (c.attempt nest s p) with ⟨r, d'⟩
  rw [hr] at herror hfailures
  rw [c.through_renderPlaceholder nest s p hr]
  have hconclude : Reports allowed (c.conclude p d'.out r) := by
    cases r with
    | ok u => exact reports_write _
    | error e => exact reports_handleFailure _ p (herror e rfl)
  obtain ⟨herror', hfailures'⟩ := hconclude { d' with out := d.out }
  exact ⟨herror', fun hd => hfailures' (hfailures hd)⟩

theorem reports_renderPieces {nest : Placeholder → Format → Value → RenderM Unit} {ps : List Piece}
    (h : ∀ p, Piece.placeholder p ∈ ps → Reports allowed (c.attempt (nest p) s p)) :
    Reports allowed (c.renderPieces nest s ps) := by
  induction ps with
  | nil => exact reports_pure ()
  | cons piece ps ih =>
    have hlater := ih fun p hp => h p (List.mem_cons_of_mem _ hp)
    cases piece with
    | literal l => exact (reports_write l.rendered).bind fun _ => hlater
    | placeholder p =>
      exact (reports_renderPlaceholder (h p List.mem_cons_self)).bind fun _ => hlater

end Call

end Stencil
