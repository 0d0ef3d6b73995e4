import Stencil.Proofs.Render.Growth

/-!
# Who writes a placeholder

Of the formatters that answer to a placeholder, the first that does not decline writes it, and what
it does is all that is done: of those that declined before it nothing is left. Where all decline,
nothing is done at all, and the placeholder fails for want of a formatter.
-/

namespace Stencil

set_option autoImplicit false

namespace Call

variable (c : Call) (nest : Format → Value → RenderM Unit) (d : Draft) (p : Placeholder) (v : Value)

/-- The formatters that are asked, in order. -/
def asked : List Formatter := c.formatters.filter (·.answersTo c.settings.caseSensitivity p.name)

/-- Has a formatter write a value. -/
def carryOut (f : Formatter) : RenderM Bool := (f.format (c.request p v)).run nest

/-- The formatter declines to write the value on the draft. -/
def DeclinedBy (f : Formatter) : Prop := (d.through (c.carryOut nest p v f)).1 = .ok false

/-- Of the formatters that are asked, `f` is the first that does not decline. -/
def ClaimedBy (f : Formatter) : Prop :=
  ∃ before after, c.asked p = before ++ f :: after ∧
    (∀ g ∈ before, c.DeclinedBy nest d p v g) ∧ ¬c.DeclinedBy nest d p v f

variable {c nest d p v} {f g : Formatter}

theorem dispatch_eq : c.dispatch nest p v = tryFormatters (c.carryOut nest p v)
    (.unformatted p.raw (.noFormatter p.name)) (c.asked p) := rfl

theorem ClaimedBy.mem_asked (h : c.ClaimedBy nest d p v f) : f ∈ c.asked p := by
  obtain ⟨before, after, hasked, -⟩ := h
  rw [hasked]
  exact List.mem_append_right _ List.mem_cons_self

theorem ClaimedBy.unique (h : c.ClaimedBy nest d p v f) (h' : c.ClaimedBy nest d p v g) :
    f = g := by
  obtain ⟨before, after, hasked, hbefore, hf⟩ := h
  obtain ⟨before', after', hasked', hbefore', hg⟩ := h'
  rw [hasked] at hasked'
  -- Neither of the two is among those before the other, as these decline.
  rcases List.append_eq_append_iff.mp hasked' with ⟨more, rfl, hmore⟩ | ⟨more, rfl, hmore⟩
  · cases more with
    | nil => exact (List.cons.inj hmore).1
    | cons x more =>
      obtain rfl : f = x := (List.cons.inj hmore).1
      exact absurd (hbefore' f (List.mem_append_right _ List.mem_cons_self)) hf
  · cases more with
    | nil => exact (List.cons.inj hmore).1.symm
    | cons x more =>
      obtain rfl : g = x := (List.cons.inj hmore).1
      exact absurd (hbefore g (List.mem_append_right _ List.mem_cons_self)) hg

theorem exists_claimedBy (h : ¬∀ f ∈ c.asked p, c.DeclinedBy nest d p v f) :
    ∃ f, c.ClaimedBy nest d p v f := by
  unfold ClaimedBy
  generalize c.asked p = fs at h ⊢
  induction fs with
  | nil => exact absurd (fun f hf => by cases hf) h
  | cons f fs ih =>
    by_cases hf : c.DeclinedBy nest d p v f
    · have hlater : ¬∀ g ∈ fs, c.DeclinedBy nest d p v g := fun hfs =>
        h (List.forall_mem_cons.mpr ⟨hf, hfs⟩)
      obtain ⟨g, before, after, rfl, hbefore, hg⟩ := ih hlater
      exact ⟨g, f :: before, after, rfl, List.forall_mem_cons.mpr ⟨hf, hbefore⟩, hg⟩
    · exact ⟨f, [], fs, rfl, List.forall_mem_nil _, hf⟩

section Dispatch

variable (hnest : ∀ g v, Grows (nest g v))
include hnest

theorem grows_carryOut (f : Formatter) : Grows (c.carryOut nest p v f) := Script.grows hnest _

theorem through_tryFormatters_declined_all {before : List Formatter}
    (hbefore : ∀ g ∈ before, c.DeclinedBy nest d p v g) (none : Error) (later : List Formatter) :
    d.through (tryFormatters (c.carryOut nest p v) none (before ++ later)) =
      d.through (tryFormatters (c.carryOut nest p v) none later) := by
  induction before with
  | nil => rfl
  | cons g before ih =>
    obtain ⟨hg, hlater⟩ := List.forall_mem_cons.mp hbefore
    rcases hr : d.through (c.carryOut nest p v g) with ⟨r, d'⟩
    obtain rfl : r = .ok false := by
      rw [DeclinedBy, hr] at hg
      exact hg
    rw [List.cons_append, through_tryFormatters_declined none _ hr,
      rewind_of_grows (grows_carryOut hnest g) hr, ih hlater]

/-- What the formatter does that claims a placeholder is all that is done. -/
theorem through_dispatch_claimed (h : c.ClaimedBy nest d p v f) {r : Except Error Bool}
    {d' : Draft} (hr : d.through (c.carryOut nest p v f) = (r, d')) :
    d.through (c.dispatch nest p v) = (r.map fun _ => (), d') := by
  obtain ⟨before, after, hasked, hbefore, hf⟩ := h
  rw [dispatch_eq, hasked, through_tryFormatters_declined_all hnest hbefore]
  rw [DeclinedBy, hr] at hf
  cases r with
  | error e => exact through_tryFormatters_failed _ after hr
  | ok handled =>
    cases handled with
    | true => exact through_tryFormatters_handled _ after hr
    | false => exact absurd rfl hf

theorem through_dispatch_unclaimed (h : ∀ g ∈ c.asked p, c.DeclinedBy nest d p v g) :
    d.through (c.dispatch nest p v) =
      (.error (.unformatted p.raw (.noFormatter p.name)), d) := by
  have hall := through_tryFormatters_declined_all hnest h
    (.unformatted p.raw (.noFormatter p.name)) []
  rw [List.append_nil] at hall
  rw [dispatch_eq, hall]
  rfl

end Dispatch

end Call

end Stencil
