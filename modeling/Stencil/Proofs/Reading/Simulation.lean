import Stencil.Proofs.Reading.Placeholder

/-!
# Simulations of readings

Two readers of placeholders whose nested formats are read alike are alike themselves, for any notion
of being alike that sequences of readings keep.
-/

namespace Stencil

set_option autoImplicit false

/-- When two readings correspond, given when their results do. -/
structure Simulation where
  rel : {α β : Type} → (α → β → Prop) → Reading α → Reading β → Prop
  ok : ∀ {α β : Type} {S : α → β → Prop} {a : α} {b : β}, S a b → rel S (pure a) (pure b)
  error : ∀ {α β : Type} {S : α → β → Prop} (fault : Fault),
    rel S (.fail fault : Reading α) (.fail fault : Reading β)
  bind : ∀ {α β γ δ : Type} {S : α → β → Prop} {T : γ → δ → Prop} {r : Reading α} {q : Reading β}
    {f : α → Reading γ} {g : β → Reading δ},
    rel S r q → (∀ a b, S a b → rel T (f a) (g b)) → rel T (r >>= f) (q >>= g)

structure Specification.Alike (S : Format → Format → Prop) (s u : Specification) : Prop where
  nameAt : s.nameAt = u.nameAt
  optionsAt : s.optionsAt = u.optionsAt
  format : Option.Rel S s.format u.format
  stop : s.stop = u.stop

structure Placeholder.Alike (S : Format → Format → Prop) (p q : Placeholder) : Prop where
  start : p.start = q.start
  depth : p.depth = q.depth
  raw : p.raw = q.raw
  selectors : p.selectors = q.selectors
  alignment : p.alignment = q.alignment
  nameAt : p.nameAt = q.nameAt
  optionsAt : p.optionsAt = q.optionsAt
  format : Option.Rel S p.format q.format

namespace Simulation

variable (sim : Simulation)

theorem map {α β γ δ : Type} {S : α → β → Prop} {T : γ → δ → Prop} {r : Reading α}
    {q : Reading β} {f : α → γ} {g : β → δ} (h : sim.rel S r q)
    (hmap : ∀ a b, S a b → T (f a) (g b)) :
    sim.rel T (r >>= fun a => pure (f a)) (q >>= fun b => pure (g b)) :=
  sim.bind h fun a b hab => sim.ok (hmap a b hab)

theorem mono {α β : Type} {S T : α → β → Prop} {r : Reading α} {q : Reading β}
    (h : sim.rel S r q) (hmono : ∀ a b, S a b → T a b) : sim.rel T r q := by
  have hmap := sim.map h hmono
  rwa [bind_pure, bind_pure] at hmap

theorem ofExcept {α : Type} (e : Except Fault α) :
    sim.rel Eq (Reading.ofExcept e) (Reading.ofExcept e) := by
  cases e with
  | error fault => exact sim.error fault
  | ok a => exact sim.ok rfl

section Placeholder

variable {d : Dialect} {depth : Nat} {S : Format → Format → Prop}
  {readBody readBody' : Nat → List Char → Reading Run} {R : Nat → Run → Run → Prop}

variable (hbody : ∀ position cs,
    sim.rel (R position) (readBody position cs) (readBody' position cs))
  (hrun : ∀ position run run', R position run run' →
    S (run.toFormat position depth) (run'.toFormat position depth) ∧ run.stop = run'.stop)

include hbody hrun

theorem readNested (here : Cursor) :
    sim.rel (fun a b => S a.1 b.1 ∧ a.2 = b.2) (Stencil.readNested depth readBody here)
      (Stencil.readNested depth readBody' here) :=
  sim.map (hbody here.position here.rest) fun run run' h => hrun here.position run run' h

theorem readAfterOptions (here : Cursor) :
    sim.rel (fun a b => Option.Rel S a.1 b.1 ∧ a.2 = b.2)
      (Stencil.readAfterOptions d depth readBody here)
      (Stencil.readAfterOptions d depth readBody' here) := by
  unfold Stencil.readAfterOptions
  cases here.rest with
  | nil => exact sim.error _
  | cons c cs =>
    by_cases hmark : (c == d.formatMark) = true
    · simp only [hmark, if_true]
      exact sim.map (sim.readNested hbody hrun _) fun _ _ h => ⟨.some h.1, h.2⟩
    · by_cases hclosing : (c == d.closing) = true
      · simp only [hmark, hclosing, if_true]
        exact sim.ok ⟨.none, rfl⟩
      · simp only [hmark, hclosing]
        exact sim.error _

theorem unnamed (here : Cursor) :
    sim.rel (Specification.Alike S) (readSpecification.unnamed depth readBody here)
      (readSpecification.unnamed depth readBody' here) :=
  sim.map (sim.readNested hbody hrun here) fun _ _ h => ⟨rfl, rfl, .some h.1, h.2⟩

theorem readSpecification (here : Cursor) :
    sim.rel (Specification.Alike S) (Stencil.readSpecification d depth readBody here)
      (Stencil.readSpecification d depth readBody' here) := by
  unfold Stencil.readSpecification
  simp only
  split
  · exact sim.unnamed hbody hrun here
  · split
    · split
      · exact sim.error _
      · exact sim.map (sim.readAfterOptions hbody hrun _) fun _ _ h => ⟨rfl, rfl, h.1, h.2⟩
    · split
      · exact sim.map (sim.readNested hbody hrun _) fun _ _ h => ⟨rfl, rfl, .some h.1, h.2⟩
      · exact sim.unnamed hbody hrun here

theorem readOptionalSpecification (here : Cursor) :
    sim.rel (Specification.Alike S) (Stencil.readOptionalSpecification d depth readBody here)
      (Stencil.readOptionalSpecification d depth readBody' here) := by
  unfold Stencil.readOptionalSpecification
  split
  · exact sim.readSpecification hbody hrun _
  · exact sim.ok ⟨rfl, rfl, .none, rfl⟩

theorem readPlaceholder (position : Nat) (cs : List Char) :
    sim.rel (Placeholder.Alike S) (Stencil.readPlaceholder d depth readBody position cs)
      (Stencil.readPlaceholder d depth readBody' position cs) := by
  rw [readPlaceholder_eq, readPlaceholder_eq]
  refine sim.bind (sim.ofExcept _) ?_
  rintro path _ rfl
  refine sim.bind (sim.ofExcept _) ?_
  rintro alignment _ rfl
  refine sim.bind (sim.readOptionalSpecification hbody hrun _) fun spec spec' h => ?_
  unfold assemblePlaceholder
  rw [h.stop]
  split
  · exact sim.ok ⟨rfl, rfl, rfl, rfl, rfl, h.nameAt, h.optionsAt, h.format⟩
  · exact sim.error _

end Placeholder

end Simulation

end Stencil
