import Stencil.Engine

/-!
# What scripts do with errors

A formatter is given the error of a nested format and may do with it what it likes. Here are the
kinds of scripts that matter to what becomes of a render, and the kind of the formatters of the
library: they decline at once or not at all, and hand on the error of a nested format as it is.
-/

namespace Stencil

set_option autoImplicit false

namespace Script

variable {α β : Type}

/-- The script comes to nothing: it declines, or fails with an error that is never replaced. -/
def GivesUp : Script Bool → Prop
  | .done handled => handled = false
  | .fail e => e.isRecoverable = false
  | .write _ next => next.GivesUp
  | .nested _ _ next => ∀ r, (next r).GivesUp
  | .failures next => ∀ failed, (next failed).GivesUp

/-- Once the render of a nested format had to be given up, the script comes to nothing: neither to a
success nor to a failure that could be replaced. -/
def Yields : Script Bool → Prop
  | .done _ => True
  | .fail _ => True
  | .write _ next => next.Yields
  | .nested _ _ next => (next (.ok ())).Yields ∧
      ∀ e, (next (.error e)).Yields ∧ (e.isRecoverable = false → (next (.error e)).GivesUp)
  | .failures next => ∀ failed, (next failed).Yields

/-- The script fails as a nested format does, and ends only in what `allowed` says. -/
def Direct (allowed : α → Prop) : Script α → Prop
  | .done a => allowed a
  | .fail _ => True
  | .write _ next => next.Direct allowed
  | .nested _ _ next => (next (.ok ())).Direct allowed ∧ ∀ e, next (.error e) = .fail e
  | .failures next => ∀ failed, (next failed).Direct allowed

theorem Direct.bind {allowed : α → Prop} {wanted : β → Prop} {s : Script α} {next : α → Script β}
    (h : s.Direct allowed) (hnext : ∀ a, allowed a → (next a).Direct wanted) :
    (s >>= next).Direct wanted := by
  change (s.bind next).Direct wanted
  induction s with
  | done a => exact hnext a h
  | fail e => trivial
  | write text rest ih => exact ih h
  | nested f v rest ih =>
    obtain ⟨hok, herror⟩ := h
    exact ⟨ih _ hok, fun e => congrArg (Script.bind · next) (herror e)⟩
  | failures rest ih => exact fun failed => ih failed (h failed)

theorem Direct.yields {s : Script Bool} (h : s.Direct (· = true)) : s.Yields := by
  induction s with
  | done handled => trivial
  | fail e => trivial
  | write text next ih => exact ih h
  | nested f v next ih =>
    obtain ⟨hok, herror⟩ := h
    refine ⟨ih _ hok, fun e => ?_⟩
    rw [herror e]
    exact ⟨trivial, id⟩
  | failures next ih => exact fun failed => ih failed (h failed)

theorem direct_render (f : Format) (v : Value) : (render f v).Direct fun _ => True :=
  ⟨trivial, fun _ => rfl⟩

end Script

namespace Formatter

/-- The formatter declines before it has done anything, or never. -/
def Prompt (f : Formatter) : Prop :=
  ∀ r, f.format r = .done false ∨ (f.format r).Direct (· = true)

theorem Prompt.yields {f : Formatter} (h : f.Prompt) (r : Request) : (f.format r).Yields := by
  rcases h r with hdeclines | hdirect
  · rw [hdeclines]
    trivial
  · exact hdirect.yields

/-- What the formatter does is the same whatever is done about failures. -/
def IgnoresAction (f : Formatter) : Prop :=
  ∀ (r : Request) (a : ErrorAction),
    f.format { r with settings := { r.settings with onFailure := a } } = f.format r

/-- The formatters of the library. -/
def builtIn : List Formatter := [.list, .conditional, .choose, .default]

theorem mem_builtIn {f : Formatter} :
    f ∈ builtIn ↔ f = list ∨ f = conditional ∨ f = choose ∨ f = default := by
  simp [builtIn]

theorem direct_renderItems (s : Sections) (count i : Nat) (vs : List Value) :
    (renderItems s count i vs).Direct fun _ => True := by
  induction vs generalizing i with
  | nil => trivial
  | cons v vs ih =>
    unfold renderItems
    have hitem := (Script.direct_render s.first v).bind fun _ _ => ih (i + 1)
    cases spacer s count i with
    | none => exact hitem
    | some f => exact (Script.direct_render f v).bind fun _ _ => hitem

theorem prompt_list : list.Prompt := by
  intro r
  unfold list
  simp only
  split
  · split
    · exact .inl rfl
    · exact .inr ((direct_renderItems _ _ _ _).bind fun _ _ => rfl)
  · exact .inl rfl

theorem prompt_conditional : conditional.Prompt := by
  intro r
  unfold conditional
  simp only
  split
  · exact .inl rfl
  · split
    · exact .inl rfl
    · right
      split
      · split
        · exact (Script.direct_render _ _).bind fun _ _ => rfl
        · exact rfl
      · exact (Script.direct_render _ _).bind fun _ _ => rfl

theorem direct_choose (r : Request) : (choose.format r).Direct (· = true) := by
  unfold choose
  simp only
  split
  · trivial
  · split
    · trivial
    · split
      · exact (Script.direct_render _ _).bind fun _ _ => rfl
      · trivial

theorem direct_default (r : Request) : (default.format r).Direct (· = true) := by
  unfold default
  simp only
  split
  · exact rfl
  · split
    · exact rfl
    · split
      · unfold writeDate
        split
        · exact rfl
        · trivial
      · exact (Script.direct_render _ _).bind fun _ _ => rfl

theorem prompt_of_mem_builtIn {f : Formatter} (h : f ∈ builtIn) : f.Prompt := by
  rcases mem_builtIn.mp h with rfl | rfl | rfl | rfl
  · exact prompt_list
  · exact prompt_conditional
  · exact fun r => .inr (direct_choose r)
  · exact fun r => .inr (direct_default r)

theorem ignoresAction_of_mem_builtIn {f : Formatter} (h : f ∈ builtIn) : f.IgnoresAction := by
  rcases mem_builtIn.mp h with rfl | rfl | rfl | rfl <;> exact fun _ _ => rfl

end Formatter

end Stencil
