import Stencil.Proofs.Render.Steps
import Stencil.Proofs.WellFormed

/-!
# Values without members in scope

A placeholder that names what it stands for is looked up in the values in scope, from the innermost
outwards. The sources of the library find nothing in a value without members, so it makes no
difference where among the scopes there is one, as long as nothing asks for that value itself.
-/

namespace Stencil

set_option autoImplicit false

/-- The values in which there is nothing to be named or counted. -/
inductive Value.Memberless : Value → Prop
  | null : Memberless .null
  | bool (b : Bool) : Memberless (.bool b)
  | number (n : Number) : Memberless (.number n)
  | date (t : Instant) : Memberless (.date t)
  | bigInt (n : Int) : Memberless (.bigInt n)

section Lookup

variable {c : Call} {s s' : Scope} {v : Value}

/-- Whatever is looked up is the same from both scopes. -/
def Call.SameLookup (c : Call) (s s' : Scope) : Prop :=
  ∀ selector, c.resolveFirst selector s.value s.outer = c.resolveFirst selector s'.value s'.outer

/-- Scopes that are the same to every lookup stay so behind a common one. -/
theorem Call.SameLookup.enter (h : c.SameLookup s s') (v : Value) :
    c.SameLookup (s.enter v) (s'.enter v) := by
  intro selector
  simp only [Scope.enter, resolveFirst, h selector]

theorem member_memberless (hv : v.Memberless) {q : Query} (hq : q.current = v) :
    Source.member.resolve q = none := by
  cases hv <;> simp [Source.member, Source.member?, Source.size?, hq]

theorem ask_memberless (hsources : ∀ source ∈ c.sources, source = .argument ∨ source = .member)
    (hv : v.Memberless) (selector : String) (i : Nat) :
    c.ask (c.query selector i false v) = none := by
  rw [Call.ask, List.findSome?_eq_none_iff]
  intro source hsource
  obtain rfl | rfl := hsources source hsource
  · rfl
  · exact member_memberless hv rfl

theorem sameLookup_memberless
    (hsources : ∀ source ∈ c.sources, source = .argument ∨ source = .member)
    (hv : v.Memberless) (s : Scope) : c.SameLookup (s.enter v) s := by
  intro selector
  rw [Scope.enter, Call.resolveFirst, ask_memberless hsources hv, Option.none_or]

/-- Whether the placeholder says what it stands for, rather than standing for the value in scope. -/
def Placeholder.Names (p : Placeholder) : Prop := p.path ≠ [] ∧ p.path ≠ [""]

theorem Call.SameLookup.resolve_eq (h : c.SameLookup s s') {p : Placeholder}
    (hp : s.value = s'.value ∨ p.Names) : c.resolve s p = c.resolve s' p := by
  unfold resolve
  by_cases hcurrent : p.isCurrent = true
  · obtain hvalue | hnames := hp
    · rw [if_pos hcurrent, if_pos hcurrent, hvalue]
    · exact absurd (beq_iff_eq.mp hcurrent) hnames.2
  · rw [if_neg hcurrent, if_neg hcurrent]
    cases hpath : p.path with
    | nil =>
      obtain hvalue | hnames := hp
      · simp only [hvalue]
      · exact absurd hpath hnames.1
    | cons selector later => simp only [h selector]

end Lookup

section Rendering

variable {c : Call} {s s' : Scope}

theorem renderPieces_congr {nest nest' : Placeholder → Format → Value → RenderM Unit}
    (hnest : nest = nest') {ps : List Piece}
    (h : ∀ p, Piece.placeholder p ∈ ps → c.resolve s p = c.resolve s' p) :
    c.renderPieces nest s ps = c.renderPieces nest' s' ps := by
  subst hnest
  induction ps with
  | nil => rfl
  | cons q ps ih =>
    have hlater := ih fun p hp => h p (List.mem_cons_of_mem _ hp)
    cases q with
    | literal l => simp only [Call.renderPieces, hlater]
    | placeholder p =>
      simp only [Call.renderPieces, Call.renderPlaceholder, h p List.mem_cons_self, hlater]

/-- How a format is rendered depends on its scopes only by what is looked up in them and, where it
has placeholders for it, by the value in scope. Nested formats get a scope of their own, so theirs
may ask for that value. -/
theorem renderFormat_congr (levels : Nat) {f : Format} (h : c.SameLookup s s')
    (hf : s.value = s'.value ∨ ∀ p ∈ f.placeholders, p.Names) :
    c.renderFormat levels s f = c.renderFormat levels s' f := by
  have hresolve (p : Placeholder) (hp : Piece.placeholder p ∈ f.pieces) :
      c.resolve s p = c.resolve s' p :=
    h.resolve_eq (hf.imp_right fun hnames => hnames p (mem_placeholders.mpr hp))
  induction levels generalizing s s' f with
  | zero => exact renderPieces_congr rfl hresolve
  | succ levels ih =>
    refine renderPieces_congr ?_ hresolve
    funext p g v
    -- Both scopes of a nested format have `v` in front, so nothing is asked of its placeholders.
    have hinner := h.enter v
    exact ih hinner (.inl rfl) fun q _ => hinner.resolve_eq (.inl rfl)

end Rendering

/-- With the sources of the library, a value without members may be put in front of the scopes: a
format of which no placeholder of its own asks for that value is rendered all the same, with the
same text, failures and error. In a template that was read these are the formats without an empty
path of their own; the formats nested in them may have any. -/
theorem renderFormat_enter_memberless {c : Call}
    (hsources : ∀ source ∈ c.sources, source = .argument ∨ source = .member) {v : Value}
    (hv : v.Memberless) (s : Scope) :
    (∀ f : Format, (∀ p ∈ f.placeholders, p.path ≠ [] ∧ p.path ≠ [""]) → ∀ levels (draft : Draft),
      draft.through (c.renderFormat levels (s.enter v) f) =
        draft.through (c.renderFormat levels s f)) ∧
    ∀ (d : Dialect) (text : String) (t : Template) (f : Format), Template.parse d text = .ok t →
      t.format.Within f → (∀ p ∈ f.placeholders, p.path ≠ [""]) → ∀ levels (draft : Draft),
      draft.through (c.renderFormat levels (s.enter v) f) =
        draft.through (c.renderFormat levels s f) := by
  have hlookup := sameLookup_memberless hsources hv s
  refine ⟨fun f hf levels draft => ?_, fun d text t f hread hwithin hf levels draft => ?_⟩
  · rw [renderFormat_congr levels hlookup (.inr hf)]
  · have hwellFormed := (readAt_of_within hread hwithin).wellFormed
    have hnames (p : Placeholder) (hp : p ∈ f.placeholders) : p.Names :=
      ⟨(hwellFormed.placeholders p hp).path_ne_nil, hf p hp⟩
    rw [renderFormat_congr levels hlookup (.inr hnames)]

/-- Behind `true`, a member is found in the object that was in scope before, and the format nested
in its placeholder may still ask for it. -/
theorem renderFormat_enter_true :
    let root : Scope := { value := .object [("a", .string "x"), ("b", .string "y")] }
    ∃ t, Template.parse {} "{a}{b:{}{a}}" = .ok t ∧
      let c := (Engine.standard ⟨0, 0⟩).call none t [root.value]
      (({} : Draft).through (c.renderFormat 2 (root.enter (.bool true)) t.format)).2.out = "xyx" ∧
      ∀ (draft : Draft), draft.through (c.renderFormat 2 (root.enter (.bool true)) t.format) =
        draft.through (c.renderFormat 2 root t.format) := by
  intro root
  have hany : (Template.parse {} "{a}{b:{}{a}}").toOption.any (fun t =>
      t.format.placeholders.map Placeholder.path = [["a"], ["b"]] &&
      (({} : Draft).through (((Engine.standard ⟨0, 0⟩).call none t [root.value]).renderFormat 2
        (root.enter (.bool true)) t.format)).2.out = "xyx") = true := by
    decide +kernel
  obtain ⟨t, hread, hholds⟩ := exists_parse_of_any hany
  simp only [Bool.and_eq_true, decide_eq_true_eq] at hholds
  have hnames : ∀ p ∈ t.format.placeholders, p.path ≠ [""] := by
    intro p hp
    have hpath : p.path ∈ [["a"], ["b"]] := hholds.1 ▸ List.mem_map_of_mem hp
    rintro heq
    simp [heq] at hpath
  refine ⟨t, hread, hholds.2, fun draft => ?_⟩
  exact (renderFormat_enter_memberless (by simp [Engine.call, Engine.standard]) (.bool true) root).2
    {} _ t t.format hread .self hnames 2 draft

end Stencil
