import Stencil.Reading

/-!
# Outcomes

When something that is put together from steps that may fail succeeds, and what a reading leaves on
record.
-/

namespace Stencil

set_option autoImplicit false

section Steps

variable {ε α β : Type} {r : Except ε α}

theorem exists_of_bind_eq_ok {f : α → Except ε β} {b : β} (h : (r >>= f) = .ok b) :
    ∃ a, r = .ok a ∧ f a = .ok b := by
  cases r with
  | error e => cases h
  | ok a => exact ⟨a, rfl, h⟩

theorem exists_of_map_eq_ok {g : α → β} {b : β} (h : r.map g = .ok b) :
    ∃ a, r = .ok a ∧ g a = b := by
  cases r with
  | error e => cases h
  | ok a => exact ⟨a, rfl, Except.ok.inj h⟩

theorem map_eq_error_iff {g : α → β} {e : ε} : r.map g = .error e ↔ r = .error e := by
  cases r <;> simp [Except.map]

end Steps

end Stencil

namespace Stencil.Reading

set_option autoImplicit false

variable {α β : Type} {issues : List Issue}

@[simp] theorem pure_eq (a : α) : (pure a : Reading α) = ⟨[], .ok a⟩ := rfl

@[simp] theorem ok_eq (a : α) : ok a = ⟨[], .ok a⟩ := rfl

@[simp] theorem fail_eq (fault : Fault) : (fail fault : Reading α) = ⟨[], .error fault⟩ := rfl

@[simp] theorem ofExcept_eq (e : Except Fault α) : ofExcept e = ⟨[], e⟩ := rfl

@[simp] theorem attempt_eq (r : Reading α) : r.attempt = ⟨r.issues, .ok r.outcome⟩ := rfl

@[simp] theorem ok_bind (a : α) (f : α → Reading β) :
    (⟨issues, .ok a⟩ : Reading α) >>= f = ⟨issues ++ (f a).issues, (f a).outcome⟩ := rfl

@[simp] theorem error_bind (fault : Fault) (f : α → Reading β) :
    (⟨issues, .error fault⟩ : Reading α) >>= f = ⟨issues, .error fault⟩ := rfl

theorem bind_eq_ok_iff {r : Reading α} {f : α → Reading β} {b : β} :
    r >>= f = ⟨issues, .ok b⟩ ↔ ∃ a before after,
      r = ⟨before, .ok a⟩ ∧ f a = ⟨after, .ok b⟩ ∧ issues = before ++ after := by
  rcases r with ⟨before, fault | a⟩
  · simp
  · constructor
    · intro h
      simp only [ok_bind, mk.injEq] at h
      exact ⟨a, before, (f a).issues, rfl, by rw [← h.2], h.1.symm⟩
    · rintro ⟨a', before', after, hr, hf, rfl⟩
      cases hr
      simp [hf]

theorem bind_pure_eq_ok_iff {r : Reading α} {g : α → β} {b : β} :
    (r >>= fun a => pure (g a)) = ⟨issues, .ok b⟩ ↔ ∃ a, r = ⟨issues, .ok a⟩ ∧ g a = b := by
  rw [bind_eq_ok_iff]
  constructor
  · rintro ⟨a, before, after, rfl, hg, rfl⟩
    cases hg
    exact ⟨a, by simp, rfl⟩
  · rintro ⟨a, rfl, rfl⟩
    exact ⟨a, issues, [], rfl, rfl, by simp⟩

end Stencil.Reading

namespace Stencil

set_option autoImplicit false

/-- A fault is put right exactly when the dialect recovers and the limit on nesting is kept. -/
theorem Dialect.tolerate_eq_ok_iff (d : Dialect) (fault : Fault) (issues : List Issue)
    (issue : Issue) :
    d.tolerate fault = ⟨issues, .ok issue⟩ ↔
      d.recovers = true ∧ fault = .malformed issue ∧ issues = [issue] := by
  cases fault with
  | tooDeep position => simp [tolerate]
  | malformed found =>
    cases hr : d.recovers
    · simp [tolerate, hr]
    · simp only [tolerate, hr, if_true, Reading.mk.injEq, Except.ok.injEq, Fault.malformed.injEq,
        true_and]
      constructor
      · rintro ⟨rfl, rfl⟩
        exact ⟨rfl, rfl⟩
      · rintro ⟨rfl, rfl⟩
        exact ⟨rfl, rfl⟩

end Stencil
