import Stencil.Proofs.Render.Steps

/-!
# Where a path leads

The first selector of a path is looked up in the values in scope, from the innermost outwards, and
each later one in the value before; of the sources the first that has an answer gives it. The search
never goes back: once a selector has an answer no other is tried for it, so the first selector that
leads nowhere is the one that is complained of. It makes no difference to the value whether sources
hand over what is there or something made for the purpose.
-/

namespace Stencil

set_option autoImplicit false

/-- The values in scope by their levels, from the innermost, level 0, to the root. -/
def Scope.chain (s : Scope) : List Value := s.value :: s.outer

namespace Call

/-- Of the sources in order, the first that has an answer gives `v`. -/
def Answers (c : Call) (q : Query) (v : Value) : Prop :=
  ∃ before source after, c.sources = before ++ source :: after ∧ source.resolve q = some v ∧
    ∀ passed ∈ before, passed.resolve q = none

def Unanswered (c : Call) (q : Query) : Prop := ∀ source ∈ c.sources, source.resolve q = none

/-- What the sources are asked where the first selector of a path is looked up in `v`, the value at
level `i`. -/
def queryAt (c : Call) (s : Scope) (selector : String) (i : Nat) (v : Value) : Query :=
  c.query selector 0 (i = s.outer.length) v

/-- Level `i` is the innermost that has an answer for the selector, and the answer is `w`. -/
structure FoundAt (c : Call) (s : Scope) (selector : String) (i : Nat) (w : Value) : Prop where
  found : ∃ v, s.chain[i]? = some v ∧ c.Answers (c.queryAt s selector i v) w
  inner : ∀ j v, j < i → s.chain[j]? = some v → c.Unanswered (c.queryAt s selector j v)

/-- From the value `v`, with `i` selectors behind it, the rest of a path leads to a value or comes
to a selector that leads nowhere. -/
inductive Leads (c : Call) : Value → Nat → List String → Except String Value → Prop
  | arrived (v : Value) (i : Nat) : Leads c v i [] (.ok v)
  | onward {v w : Value} {i : Nat} {selector : String} {later : List String}
      {r : Except String Value} (h : c.Answers (c.query selector i false v) w)
      (hlater : Leads c w (i + 1) later r) : Leads c v i (selector :: later) r
  | stuck {v : Value} {i : Nat} {selector : String} {later : List String}
      (h : c.Unanswered (c.query selector i false v)) :
      Leads c v i (selector :: later) (.error selector)

/-- What a path stands for in a scope: a value, or the selector that leads nowhere. -/
inductive StandsFor (c : Call) (s : Scope) : List String → Except String Value → Prop
  | current {path : List String} (h : path = [] ∨ path = [""]) : StandsFor c s path (.ok s.value)
  | found {selector : String} {later : List String} {i : Nat} {w : Value}
      {r : Except String Value} (hnamed : selector :: later ≠ [""])
      (h : c.FoundAt s selector i w) (hlater : c.Leads w 1 later r) :
      StandsFor c s (selector :: later) r
  | nowhere {selector : String} {later : List String} (hnamed : selector :: later ≠ [""])
      (h : ∀ i v, s.chain[i]? = some v → c.Unanswered (c.queryAt s selector i v)) :
      StandsFor c s (selector :: later) (.error selector)

section Search

variable {c : Call} {q : Query} {selector : String} {v w : Value} {ws : List Value}

theorem ask_eq_some_iff : c.ask q = some v ↔ c.Answers q v := List.findSome?_eq_some_iff

theorem ask_eq_none_iff : c.ask q = none ↔ c.Unanswered q := List.findSome?_eq_none_iff

theorem queryAt_root : c.queryAt ⟨v, []⟩ selector 0 w = c.query selector 0 true w := rfl

theorem queryAt_inner : c.queryAt ⟨v, w :: ws⟩ selector 0 v = c.query selector 0 false v := rfl

/-- Seen from one level further in, every level has a number one higher. -/
theorem queryAt_succ (i : Nat) (u : Value) :
    c.queryAt ⟨v, w :: ws⟩ selector (i + 1) u = c.queryAt ⟨w, ws⟩ selector i u := by
  simp [queryAt]

theorem resolveFirst_eq_none_iff : c.resolveFirst selector v ws = none ↔
    ∀ i u, (Scope.mk v ws).chain[i]? = some u →
      c.Unanswered (c.queryAt ⟨v, ws⟩ selector i u) := by
  induction ws generalizing v with
  | nil =>
    rw [resolveFirst, ask_eq_none_iff, ← queryAt_root]
    constructor
    · intro h i u hu
      cases i with
      | zero => exact Option.some.inj hu ▸ h
      | succ i => cases hu
    · exact fun h => h 0 v rfl
  | cons w ws ih =>
    rw [resolveFirst, Option.or_eq_none_iff, ask_eq_none_iff, ih, ← queryAt_inner]
    constructor
    · rintro ⟨hinner, houter⟩ i u hu
      cases i with
      | zero => exact Option.some.inj hu ▸ hinner
      | succ i =>
        rw [queryAt_succ]
        exact houter i u hu
    · intro h
      refine ⟨h 0 v rfl, fun i u hu => ?_⟩
      rw [← queryAt_succ]
      exact h (i + 1) u hu

theorem foundAt_zero_iff :
    c.FoundAt ⟨v, ws⟩ selector 0 w ↔ c.Answers (c.queryAt ⟨v, ws⟩ selector 0 v) w := by
  constructor
  · rintro ⟨⟨u, hu, hw⟩, -⟩
    obtain rfl : v = u := Option.some.inj hu
    exact hw
  · exact fun h => ⟨⟨v, rfl, h⟩, fun j u hj => absurd hj (Nat.not_lt_zero j)⟩

theorem foundAt_succ_iff {i : Nat} {u : Value} : c.FoundAt ⟨v, w :: ws⟩ selector (i + 1) u ↔
    c.Unanswered (c.query selector 0 false v) ∧ c.FoundAt ⟨w, ws⟩ selector i u := by
  constructor
  · rintro ⟨⟨x, hx, hu⟩, hinner⟩
    rw [queryAt_succ] at hu
    refine ⟨hinner 0 v i.succ_pos rfl, ⟨x, hx, hu⟩, fun j y hj hy => ?_⟩
    rw [← queryAt_succ]
    exact hinner (j + 1) y (Nat.succ_lt_succ hj) hy
  · rintro ⟨hnone, ⟨x, hx, hu⟩, hinner⟩
    refine ⟨⟨x, hx, queryAt_succ i x ▸ hu⟩, fun j y hj hy => ?_⟩
    cases j with
    | zero => exact Option.some.inj hy ▸ hnone
    | succ j =>
      rw [queryAt_succ]
      exact hinner j y (Nat.lt_of_succ_lt_succ hj) hy

theorem resolveFirst_eq_some_iff :
    c.resolveFirst selector v ws = some w ↔ ∃ i, c.FoundAt ⟨v, ws⟩ selector i w := by
  induction ws generalizing v with
  | nil =>
    rw [resolveFirst, ask_eq_some_iff, ← queryAt_root, ← foundAt_zero_iff]
    constructor
    · exact fun h => ⟨0, h⟩
    · rintro ⟨i, h⟩
      cases i with
      | zero => exact h
      | succ i =>
        obtain ⟨u, hu, -⟩ := h.found
        cases hu
  | cons x ws ih =>
    rw [resolveFirst, Option.or_eq_some_iff, ask_eq_some_iff, ask_eq_none_iff, ih,
      ← queryAt_inner, ← foundAt_zero_iff]
    constructor
    · rintro (h | ⟨hnone, i, h⟩)
      · exact ⟨0, h⟩
      · exact ⟨i + 1, foundAt_succ_iff.mpr ⟨hnone, h⟩⟩
    · rintro ⟨i, h⟩
      cases i with
      | zero => exact .inl h
      | succ i =>
        obtain ⟨hnone, houter⟩ := foundAt_succ_iff.mp h
        exact .inr ⟨hnone, i, houter⟩

theorem leads_resolveLater (v : Value) (i : Nat) (path : List String) :
    c.Leads v i path (c.resolveLater v i path) := by
  induction path generalizing v i with
  | nil => exact .arrived v i
  | cons selector later ih =>
    rw [resolveLater]
    cases hask : c.ask (c.query selector i false v) with
    | none => exact .stuck (ask_eq_none_iff.mp hask)
    | some w => exact .onward (ask_eq_some_iff.mp hask) (ih w (i + 1))

theorem Leads.resolveLater_eq {i : Nat} {path : List String} {r : Except String Value}
    (h : c.Leads v i path r) : c.resolveLater v i path = r := by
  induction h with
  | arrived => rfl
  | onward h _ ih =>
    rw [resolveLater, ask_eq_some_iff.mpr h]
    exact ih
  | stuck h => rw [resolveLater, ask_eq_none_iff.mpr h]

variable {s : Scope} {p : Placeholder}

theorem resolve_current (h : p.path = [] ∨ p.path = [""]) : c.resolve s p = .ok s.value := by
  unfold resolve Placeholder.isCurrent
  rcases h with h | h <;> simp [h]

theorem resolve_named {later : List String} (hpath : p.path = selector :: later)
    (hnamed : selector :: later ≠ [""]) :
    c.resolve s p = match c.resolveFirst selector s.value s.outer with
      | some v => c.resolveLater v 1 later
      | none => .error selector := by
  rw [resolve, Placeholder.isCurrent, hpath]
  exact if_neg fun hcurrent => hnamed (beq_iff_eq.mp hcurrent)

theorem standsFor_resolve (s : Scope) (p : Placeholder) :
    c.StandsFor s p.path (c.resolve s p) := by
  by_cases hcurrent : p.path = [] ∨ p.path = [""]
  · rw [resolve_current hcurrent]
    exact .current hcurrent
  · obtain ⟨hpath, hnamed⟩ := not_or.mp hcurrent
    obtain ⟨selector, later, hcons⟩ := List.exists_cons_of_ne_nil hpath
    rw [hcons] at hnamed
    rw [resolve_named hcons hnamed, hcons]
    cases hfirst : c.resolveFirst selector s.value s.outer with
    | none => exact .nowhere hnamed (resolveFirst_eq_none_iff.mp hfirst)
    | some v =>
      obtain ⟨i, hfound⟩ := resolveFirst_eq_some_iff.mp hfirst
      exact .found hnamed hfound (leads_resolveLater v 1 later)

theorem StandsFor.resolve_eq {r : Except String Value} (h : c.StandsFor s p.path r) :
    c.resolve s p = r := by
  generalize hpath : p.path = path at h
  cases h with
  | current hcurrent => exact resolve_current (hpath ▸ hcurrent)
  | found hnamed hfound hlater =>
    rw [resolve_named hpath hnamed, resolveFirst_eq_some_iff.mpr ⟨_, hfound⟩]
    exact hlater.resolveLater_eq
  | nowhere hnamed hnone =>
    rw [resolve_named hpath hnamed, resolveFirst_eq_none_iff.mpr hnone]

end Search

end Call

/-- How a source hands over what it found: lent, as a part of what is there, or made for the
purpose. -/
inductive Handover where
  | lent (v : Value)
  | made (v : Value)

def Handover.value : Handover → Value
  | lent v => v
  | made v => v

/-- A source that says how it hands over what it finds. -/
structure Giver where
  give : Query → Option Handover

def Giver.toSource (g : Giver) : Source where
  resolve q := (g.give q).map Handover.value

namespace Call

section Handing

variable (c : Call) (givers : List Giver)

def giveFirst (selector : String) (v : Value) : List Value → Option Handover
  | [] => givers.findSome? (·.give (c.query selector 0 true v))
  | w :: ws => (givers.findSome? (·.give (c.query selector 0 false v))).or
      (giveFirst selector w ws)

/-- What is found in a value that was made is a part of that, so it is kept as one that was made. -/
def giveLater : Handover → Nat → List String → Except String Handover
  | h, _, [] => .ok h
  | .lent v, i, selector :: later =>
    match givers.findSome? (·.give (c.query selector i false v)) with
    | some h => giveLater h (i + 1) later
    | none => .error selector
  | .made v, i, selector :: later =>
    match givers.findSome? (·.give (c.query selector i false v)) with
    | some h => giveLater (.made h.value) (i + 1) later
    | none => .error selector

/-- Looks a placeholder up and keeps account of what was lent and what was made. -/
def handOver (s : Scope) (p : Placeholder) : Except String Handover :=
  if p.isCurrent then .ok (.lent s.value)
  else
    match p.path with
    | [] => .ok (.lent s.value)
    | selector :: later =>
      match c.giveFirst givers selector s.value s.outer with
      | some h => c.giveLater givers h 1 later
      | none => .error selector

variable {c givers} (hsources : c.sources = givers.map Giver.toSource)
include hsources

theorem value_findSome (q : Query) :
    (givers.findSome? (·.give q)).map Handover.value = c.ask q := by
  rw [ask, hsources, List.findSome?_map, List.map_findSome?]
  rfl

theorem value_giveFirst (selector : String) (v : Value) (ws : List Value) :
    (c.giveFirst givers selector v ws).map Handover.value = c.resolveFirst selector v ws := by
  induction ws generalizing v with
  | nil => exact value_findSome hsources _
  | cons w ws ih =>
    rw [giveFirst, resolveFirst, Option.map_or, value_findSome hsources, ih]

theorem value_giveLater (h : Handover) (i : Nat) (path : List String) :
    (c.giveLater givers h i path).map Handover.value = c.resolveLater h.value i path := by
  induction path generalizing h i with
  | nil => cases h <;> rfl
  | cons selector later ih =>
    have hask (v : Value) := value_findSome hsources (c.query selector i false v)
    cases h with
    | lent v =>
      rw [giveLater, resolveLater, Handover.value, ← hask]
      cases givers.findSome? (·.give (c.query selector i false v)) with
      | none => rfl
      | some h => exact ih h (i + 1)
    | made v =>
      rw [giveLater, resolveLater, Handover.value, ← hask]
      cases givers.findSome? (·.give (c.query selector i false v)) with
      | none => rfl
      | some h => exact ih (.made h.value) (i + 1)

theorem value_handOver (s : Scope) (p : Placeholder) :
    (c.handOver givers s p).map Handover.value = c.resolve s p := by
  unfold handOver resolve
  split
  · rfl
  · cases p.path with
    | nil => rfl
    | cons selector later =>
      simp only [← value_giveFirst hsources]
      cases c.giveFirst givers selector s.value s.outer with
      | none => rfl
      | some h => exact value_giveLater hsources h 1 later

end Handing

end Call

/-- A placeholder stands for one thing in each scope. If that is a value, the value is written; if
it is a selector that leads nowhere, the placeholder fails with the complaint about it. Sources may
hand over what they find in whatever way. -/
theorem resolve_iff_standsFor (c : Call) (s : Scope) (p : Placeholder) :
    (∀ r, c.resolve s p = r ↔ c.StandsFor s p.path r) ∧
    (∀ nest v, c.StandsFor s p.path (.ok v) → c.attempt nest s p = c.dispatch nest p v) ∧
    (∀ nest selector, c.StandsFor s p.path (.error selector) →
      c.attempt nest s p = throw (.unresolved p.raw selector)) ∧
    ∀ givers, c.sources = givers.map Giver.toSource →
      (c.handOver givers s p).map Handover.value = c.resolve s p := by
  refine ⟨fun r => ⟨?_, Call.StandsFor.resolve_eq⟩, fun nest v h => ?_, fun nest selector h => ?_,
    fun givers hsources => Call.value_handOver hsources s p⟩
  · rintro rfl
    exact Call.standsFor_resolve s p
  · rw [Call.attempt, h.resolve_eq]
  · rw [Call.attempt, h.resolve_eq]

/-- The inner scope has an `a`, so what that lacks is not made up for by the root, from which the
whole path leads to a value. -/
theorem resolve_iff_standsFor_shadowed :
    let root : Value := .object [("a", .object [("b", .bool true)])]
    let inner : Value := .object [("a", .object [])]
    let e : Engine := { Engine.standard ⟨0, 0⟩ with sources := [.member, .argument] }
    let c := e.call none ⟨{}, ⟨0, 0, []⟩, []⟩ [root]
    let p : Placeholder := 
      ⟨0, 1, "{a.b}", [⟨0, 1, 1, 2, "", "a"⟩, ⟨1, 2, 3, 4, ".", "b"⟩], 0, ⟨4, 4, ""⟩, none, none⟩
    let givers : List Giver := [⟨fun q => (Source.member.resolve q).map .made⟩,
      ⟨fun q => (Source.argument.resolve q).map .lent⟩]
    c.StandsFor ⟨root, []⟩ p.path (.ok (.bool true)) ∧
      (∀ nest, c.attempt nest ⟨root, []⟩ p = c.dispatch nest p (.bool true)) ∧
      c.StandsFor ⟨inner, [root]⟩ p.path (.error "b") ∧
      (∀ nest, c.attempt nest ⟨inner, [root]⟩ p = throw (.unresolved "{a.b}" "b")) ∧
      c.sources = givers.map Giver.toSource ∧
      (c.handOver givers ⟨root, []⟩ p).map Handover.value = .ok (.bool true) := by
  intro root inner e c p givers
  obtain ⟨houter, hwritten, -, hhanded⟩ := resolve_iff_standsFor c ⟨root, []⟩ p
  obtain ⟨hinner, -, hfailed, -⟩ := resolve_iff_standsFor c ⟨inner, [root]⟩ p
  have hsources : c.sources = givers.map Giver.toSource := by
    have hvalues (o : Option Value) : (o.map Handover.lent).map Handover.value = o ∧
        (o.map Handover.made).map Handover.value = o := by
      cases o <;> exact ⟨rfl, rfl⟩
    simp only [givers, List.map_cons, List.map_nil, Giver.toSource, hvalues]
    rfl
  have hvalue : c.resolve ⟨root, []⟩ p = .ok (.bool true) := rfl
  have hnowhere : c.resolve ⟨inner, [root]⟩ p = .error "b" := rfl
  have hleads := (houter _).mp hvalue
  have hstops := (hinner _).mp hnowhere
  exact ⟨hleads, fun nest => hwritten nest _ hleads, hstops, fun nest => hfailed nest _ hstops,
    hsources, (hhanded givers hsources).trans hvalue⟩

end Stencil
