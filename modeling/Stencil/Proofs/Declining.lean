import Stencil.Sample
import Stencil.Proofs.Render.Growth

/-!
# Formatters that decline

A formatter that declines is taken back in full: the draft is the one that it was given, so the
formatters after it are tried as if it had never been there. Therefore one that always declines
may be put anywhere among the others without a difference.
-/

namespace Stencil

set_option autoImplicit false

/-- Whatever becomes of what it does on the way, the script ends by declining. -/
def Script.Declines : Script Bool → Prop
  | .done handled => handled = false
  | .fail _ => False
  | .write _ next => next.Declines
  | .nested _ _ next => ∀ r, (next r).Declines
  | .failures next => ∀ failed, (next failed).Declines

theorem Script.Declines.through_run {s : Script Bool} (h : s.Declines)
    (nest : Format → Value → RenderM Unit) (d : Draft) :
    ∃ d', d.through (s.run nest) = (.ok false, d') := by
  induction s generalizing d with
  | done handled =>
    obtain rfl : handled = false := h
    exact ⟨d, rfl⟩
  | fail e => exact h.elim
  | write text next ih => exact ih h (d.write text)
  | nested f v next ih => exact ih _ (h _) _
  | failures next ih => exact ih _ (h _) d

section Formatters

variable {run : Formatter → RenderM Bool} {f : Formatter}

/-- After a formatter that declined the draft is as it was before. -/
theorem through_tryFormatters_rewound (hgrows : Grows (run f)) {d d' : Draft}
    (h : d.through (run f) = (.ok false, d')) (none : Error) (fs : List Formatter) :
    d.through (tryFormatters run none (f :: fs)) = d.through (tryFormatters run none fs) := by
  rw [through_tryFormatters_declined none fs h, rewind_of_grows hgrows h]

theorem tryFormatters_insert (hgrows : ∀ g, Grows (run g))
    (hdeclines : ∀ d : Draft, ∃ d', d.through (run f) = (.ok false, d')) (none : Error)
    (before after : List Formatter) :
    tryFormatters run none (before ++ f :: after) = tryFormatters run none (before ++ after) := by
  induction before with
  | nil =>
    refine step_ext fun d => ?_
    obtain ⟨d', hd'⟩ := hdeclines d
    exact through_tryFormatters_rewound (hgrows f) hd' none after
  | cons g before ih => simp only [List.cons_append, tryFormatters, ih]

end Formatters

/-- The call with other formatters. -/
def Call.withFormatters (c : Call) (fs : List Formatter) : Call := { c with formatters := fs }

def Engine.withFormatters (e : Engine) (fs : List Formatter) : Engine := { e with formatters := fs }

namespace Call

variable {f : Formatter} (hf : ∀ r, (f.format r).Declines) (c : Call)
  (before after : List Formatter)
include hf

theorem dispatch_insert {nest : Format → Value → RenderM Unit} (hnest : ∀ g v, Grows (nest g v))
    (p : Placeholder) (v : Value) :
    (c.withFormatters (before ++ f :: after)).dispatch nest p v =
      (c.withFormatters (before ++ after)).dispatch nest p v := by
  simp only [dispatch, withFormatters, List.filter_append, List.filter_cons]
  split
  · exact tryFormatters_insert (fun g => (g.format _).grows hnest)
      (fun d => (hf _).through_run nest d) _ _ _
  · rfl

/-- With and without a formatter that declines every step is the same. -/
def insertion : RenderSimulation (c.withFormatters (before ++ f :: after))
    (c.withFormatters (before ++ after)) where
  rel step step' := step = step' ∧ Grows step
  done := ⟨rfl, grows_pure ()⟩
  write text := ⟨rfl, grows_write text⟩
  seq := by
    rintro first _ second _ ⟨rfl, hfirst⟩ ⟨rfl, hsecond⟩
    exact ⟨rfl, hfirst.bind fun _ => hsecond⟩
  tooDeep _ := ⟨rfl, grows_abandon _⟩
  placeholder := by
    intro nest nest' s p h
    obtain rfl : nest = nest' := funext fun g => funext fun v => (h g v).1
    have hgrows : ∀ g v, Grows (nest g v) := fun g v => (h g v).2
    have hattempt : (c.withFormatters (before ++ f :: after)).attempt nest s p =
        (c.withFormatters (before ++ after)).attempt nest s p := by
      have hresolve : (c.withFormatters (before ++ f :: after)).resolve s p =
          (c.withFormatters (before ++ after)).resolve s p := by
        apply resolve_congr <;> rfl
      simp only [attempt, hresolve, dispatch_insert hf c before after hgrows]
    refine ⟨?_, grows_renderPlaceholder _ hgrows s p⟩
    rw [renderPlaceholder_eq, renderPlaceholder_eq, hattempt]
    rfl

theorem render_insert : (c.withFormatters (before ++ f :: after)).render =
    (c.withFormatters (before ++ after)).render := by
  have hfinished : (c.withFormatters (before ++ f :: after)).finished =
      (c.withFormatters (before ++ after)).finished :=
    congrArg (({} : Draft).through ·)
      ((insertion hf c before after).renderFormat c.settings.dialect.maxDepth c.root
        c.template.format).1
  rw [render_eq, render_eq, hfinished]

end Call

namespace Engine

variable (e : Engine) {f : Formatter} (hf : ∀ r, (f.format r).Declines)
  (before after : List Formatter)

theorem dialect_withFormatters (fs gs : List Formatter)
    (hnames : e.settings.dialect.formatterNames ≠ none) :
    (e.withFormatters fs).dialect = (e.withFormatters gs).dialect := by
  obtain ⟨names, hnames⟩ := Option.ne_none_iff_exists'.mp hnames
  simp [dialect, currentDialect, withFormatters, hnames]

include hf

theorem renderTemplate_insert (hnames : e.settings.dialect.formatterNames ≠ none)
    (cached : Option Nat) (t : Template) (args : List Value) :
    (e.withFormatters (before ++ f :: after)).renderTemplate cached t args =
      (e.withFormatters (before ++ after)).renderTemplate cached t args := by
  have hcall : (e.withFormatters (before ++ f :: after)).call cached t args =
      ((e.withFormatters (before ++ after)).call cached t args).withFormatters
        (before ++ f :: after) := by
    unfold call
    rw [e.dialect_withFormatters (before ++ f :: after) (before ++ after) hnames]
    rfl
  rw [renderTemplate_eq, renderTemplate_eq, hcall, Call.render_insert hf]
  rfl

theorem format_insert (hnames : e.settings.dialect.formatterNames ≠ none) (cache : Option Cache)
    (text : String) (args : List Value) :
    (e.withFormatters (before ++ f :: after)).format cache text args =
      (e.withFormatters (before ++ after)).format cache text args := by
  have hparse : (e.withFormatters (before ++ f :: after)).parse cache text =
      (e.withFormatters (before ++ after)).parse cache text := by
    unfold parse
    rw [e.dialect_withFormatters (before ++ f :: after) (before ++ after) hnames]
    rfl
  unfold format
  rw [hparse]
  simp only [e.renderTemplate_insert hf before after hnames]
  rfl

end Engine

/-- Without a trace of a formatter that always declines, whatever it wrote, rendered and got back
before. Where the names of formatters are given, so that templates are read alike, an engine with it
gives the same text, failures or error as one without it. Any formatter that declines once has its
draft put back, output, failures and whether the call is being abandoned, and the formatters after
it are tried on that draft with as many levels left. -/
theorem format_insert_declining (e : Engine) (before after : List Formatter) {f : Formatter}
    (hf : ∀ r, (f.format r).Declines) (hnames : e.settings.dialect.formatterNames ≠ none) :
    (∀ cache text args, (e.withFormatters (before ++ f :: after)).format cache text args =
      (e.withFormatters (before ++ after)).format cache text args) ∧
    ∀ (c : Call) (levels : Nat) (s : Scope) (p : Placeholder) (v : Value) (g : Formatter)
      (d d' : Draft), d.through (c.formatWithin levels s p v g) = (.ok false, d') →
      d'.rewind d.mark = d ∧ ∀ unhandled gs,
        d.through (tryFormatters (c.formatWithin levels s p v) unhandled (g :: gs)) =
          d.through (tryFormatters (c.formatWithin levels s p v) unhandled gs) := by
  refine ⟨e.format_insert hf before after hnames, fun c levels s p v g d d' hdeclined => ?_⟩
  have hgrows : Grows (c.formatWithin levels s p v g) :=
    (g.format _).grows fun h w => c.grows_nestWithin levels s p h w
  refine ⟨rewind_of_grows hgrows hdeclined, fun unhandled gs => ?_⟩
  exact through_tryFormatters_rewound hgrows hdeclined unhandled gs

/-- Renders the nested format of every choice, keeps nothing of it and declines. -/
theorem declines_soft (r : Request) : (Formatter.soft.format r).Declines := by
  change (r.tryNested.bind fun _ => .done false).Declines
  unfold Request.tryNested
  cases r.format? with
  | none => rfl
  | some f => exact fun _ => rfl

/-- An engine with the names of formatters given, where messages take the place of failures. -/
def namedEngine : Engine where
  settings := { dialect := { formatterNames := some ["choose"] }, onFailure := .message }
  sources := [.argument, .member]
  now := ⟨0, 0⟩

/-- A choice that is rendered in vain before it is made, with a failure inside, and text in front of
a number that is taken back. -/
theorem format_insert_declining_choice :
    (∀ r, (Formatter.soft.format r).Declines) ∧
    namedEngine.settings.dialect.formatterNames ≠ none ∧
    (namedEngine.withFormatters [.list, .soft, .choose]).format none
        "{0:choose(a|b):<{x}>|[{x}]}" [.string "b"] =
      (namedEngine.withFormatters [.list, .choose]).format none
        "{0:choose(a|b):<{x}>|[{x}]}" [.string "b"] ∧
    ((namedEngine.withFormatters [.list, .soft, .choose]).format none
        "{0:choose(a|b):<{x}>|[{x}]}" [.string "b"]).1.toOption.map
          (fun r => (r.output, r.failures.length)) =
      some ("[Could not evaluate the selector \"x\" of placeholder \x7bx\x7d]", 1) ∧
    ∃ d d' : Draft, d.out = "5 is " ∧ d'.out = "5 is partial output" ∧ d'.rewind d.mark = d := by
  obtain ⟨hformat, hdeclined⟩ := format_insert_declining namedEngine [.list] [.choose] declines_soft
    (by decide)
  let c : Call := { namedEngine with
    template := ⟨{}, ⟨0, 0, []⟩, []⟩, args := [], cached := none, dialect := {} }
  let p : Placeholder :=
    ⟨0, 1, "\x7b\x7d", [⟨0, 1, 1, 1, "", ""⟩], 0, ⟨1, 1, ""⟩, none, none⟩
  have hpartial := hdeclined c 1 c.root p (.number .nan) .partialOutput { out := "5 is " }
    { out := "5 is partial output" } rfl
  exact ⟨declines_soft, by decide, hformat none _ _, by decide +kernel, _, _, rfl, rfl, hpartial.1⟩

end Stencil
