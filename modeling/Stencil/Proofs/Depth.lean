import Stencil.Sample
import Stencil.Proofs.Reading.Nested
import Stencil.Proofs.Render.Counting
import Stencil.Proofs.Session.Reached
import Stencil.Proofs.Template.Sections

/-!
# The limit on nested formats

A template is read with no more formats in each other than the limit allows, and rendered with a
counter against the same limit. Rendering ends whatever the formatters do, and the formatters of the
library do not get to the limit with what could be read.
-/

namespace Stencil

set_option autoImplicit false

/-- The placeholder has the depth that it has where `n` placeholders are around it, fewer than the
limit, and likewise those in it. -/
inductive Placeholder.Layered (limit : Nat) : Nat → Placeholder → Prop
  | intro {n : Nat} {p : Placeholder} (hdepth : p.depth = n + 1) (hlimit : n < limit)
      (hnested : ∀ f, p.format = some f →
        ∀ q ∈ f.placeholders, Placeholder.Layered limit (n + 1) q) :
      Placeholder.Layered limit n p

def Format.Layered (limit n : Nat) (f : Format) : Prop := ∀ p ∈ f.placeholders, p.Layered limit n

section Reading

variable {d : Dialect}

theorem layered_of_read {levels n position : Nat} {cs : List Char} {issues : List Issue}
    {p : Placeholder} (hlevels : n + levels = d.maxDepth)
    (h : readPlaceholderWithin d levels (n + 1) position cs = ⟨issues, .ok p⟩) :
    p.Layered d.maxDepth n := by
  induction levels generalizing n position cs issues p with
  | zero => cases h
  | succ levels ih =>
    obtain ⟨outer, body, rest, houter, rfl, hread⟩ := readPlaceholderWithin_eq_ok_iff.mp h
    obtain rfl : levels = outer := by omega
    refine .intro hread.depth_eq (by omega) fun f hf q hq => ?_
    obtain ⟨before, inner, after, run, -, rfl, hbody⟩ := hread.nested hf
    obtain ⟨text, rest', -, hpieces⟩ := readPieces_eq_ok_iff.mp hbody
    have hmem : Piece.placeholder q ∈ run.pieces :=
      placeholder_mem_piecesFrom.mp (mem_placeholders.mp hq)
    obtain ⟨_, _, _, _, -, -, -, -, hreadq⟩ := hpieces.placeholderAt hmem
    exact ih (by omega) hreadq

theorem layered_of_parse {text : String} {t : Template} (h : Template.parse d text = .ok t) :
    t.format.Layered d.maxDepth 0 := by
  intro p hp
  obtain ⟨run, issues, rfl, hread⟩ := parse_eq_ok_iff.mp h
  have hmem : Piece.placeholder p ∈ run.pieces :=
    placeholder_mem_piecesFrom.mp (mem_placeholders.mp hp)
  obtain ⟨_, _, _, _, -, -, -, -, hreadp⟩ := hread.placeholderAt hmem
  exact layered_of_read (Nat.zero_add _) hreadp

end Reading

section Bounds

theorem Script.within_any {α : Type} (s : Script α) :
    s.Within (fun _ => True) (fun _ => True) := by
  induction s with
  | done a => trivial
  | fail e => trivial
  | write text next ih => exact ih
  | nested f v next ih => exact ⟨trivial, fun r _ => ih r⟩
  | failures next ih => exact fun failed => ih failed

/-- No bounds but the counter's own. -/
def DepthBounds.any (c : Call) : DepthBounds c where
  fits _ _ := True
  errors _ := True
  later _ := trivial
  recoverable _ _ := trivial
  limit _ := trivial
  scripts _ _ _ := (Formatter.format _ _).within_any

theorem Format.Layered.split {limit n : Nat} {f g : Format} {separator : Char}
    (h : f.Layered limit n) (hg : g ∈ (f.split separator).toList) : g.Layered limit n :=
  fun p hp => h p (placeholders_subset_of_mem_split hg hp)

theorem Formatter.within_of_mem_builtIn {f : Formatter} (hf : f ∈ builtIn) (r : Request)
    {opens : Format → Prop}
    (h : ∀ g ∈ r.format?, opens g ∧ ∀ g' ∈ (g.split sectionMark).toList, opens g') :
    (f.format r).Within opens (·.isRecoverable = true) := by
  have halike : r.Alike (.within opens (·.isRecoverable = true) fun _ he => he) r := by
    refine ⟨rfl, rfl, rfl, rfl, rfl, rfl, ?_⟩
    cases hformat : r.format? with
    | none => exact .none
    | some g =>
      obtain ⟨hwhole, hsections⟩ := h g hformat
      refine .some ⟨⟨rfl, hwhole⟩, ⟨⟨rfl, hsections _ List.mem_cons_self⟩, fun i => ?_, rfl⟩, rfl,
        rfl, rfl⟩
      cases hlater : (g.split sectionMark).later[i]? with
      | none => exact .none
      | some g' =>
        exact .some ⟨rfl, hsections g' (List.mem_cons_of_mem _ (List.mem_of_getElem? hlater))⟩
  exact (alike_of_mem_builtIn halike hf).within

/-- The formatters of the library keep to what is layered. -/
def DepthBounds.layered (c : Call) (hbuiltIn : ∀ f ∈ c.formatters, f ∈ Formatter.builtIn) :
    DepthBounds c where
  fits n ps := ∀ p, Piece.placeholder p ∈ ps → p.Layered c.settings.dialect.maxDepth n
  errors e := e.isRecoverable = true
  later h p hp := h p (List.mem_cons_of_mem _ hp)
  recoverable _ he := he
  limit h := by
    cases h _ List.mem_cons_self with
    | intro _ hlimit _ => exact absurd hlimit (Nat.lt_irrefl _)
  scripts {n p ps f} v h hf := by
    have hp := h p List.mem_cons_self
    have hformat : ∀ g ∈ (c.request p v).format?,
        g.Layered c.settings.dialect.maxDepth (n + 1) := by
      cases hp with
      | intro _ _ hnested => exact hnested
    have hopens (g : Format) (hg : g.Layered c.settings.dialect.maxDepth (n + 1)) :
        ∀ q, Piece.placeholder q ∈ g.pieces → q.Layered c.settings.dialect.maxDepth (n + 1) :=
      fun q hq => hg q (mem_placeholders.mpr hq)
    exact Formatter.within_of_mem_builtIn (hbuiltIn f hf) (c.request p v) fun g hg =>
      ⟨hopens g (hformat g hg), fun g' hg' => hopens g' ((hformat g hg).split hg')⟩

end Bounds

section Calls

variable {e : Engine} {cache : Option Cache}

theorem ends_gauged (c : Call) {enclosing : List Placeholder} {bound : Nat}
    (h : enclosing.length ≤ c.settings.dialect.maxDepth)
    (hbound : c.settings.dialect.maxDepth - enclosing.length < bound) (s : Scope) (d : Draft) :
    let levels := c.settings.dialect.maxDepth - enclosing.length
    (∀ ps, CountM.Ends enclosing.length c.Gauged (c.countWithin bound enclosing s ps) d
      (d.through (c.renderPieces (c.nestWithin levels s) s ps)).1
      (d.through (c.renderPieces (c.nestWithin levels s) s ps)).2) ∧
    ∀ p f v, CountM.Ends enclosing.length c.Gauged (c.countNested bound enclosing s p f v) d
      (d.through (c.nestWithin levels s p f v)).1 (d.through (c.nestWithin levels s p f v)).2 := by
  intro levels
  obtain ⟨hpieces, hnested⟩ :=
    (DepthBounds.any c).tracks_levels (Nat.add_sub_cancel' h) hbound s
  exact ⟨fun ps => (hpieces ps trivial _ _ _ rfl).1.mono fun _ hv => hv.toGauged,
    fun p f v => (hnested p [] f v trivial trivial _ _ _ rfl).1.mono fun _ hv => hv.toGauged⟩

theorem ends_layered (c : Call) (hbuiltIn : ∀ f ∈ c.formatters, f ∈ Formatter.builtIn)
    (h : c.template.format.Layered c.settings.dialect.maxDepth 0) {bound : Nat}
    (hbound : c.settings.dialect.maxDepth < bound) :
    CountM.Ends 0 (DepthBounds.layered c hbuiltIn).Allows
      (c.countWithin bound [] c.root c.template.format.pieces) {} c.finished.1 c.finished.2 ∧
    ∀ err, c.finished.1 = .error err → err.isRecoverable = true := by
  have hroom : ([] : List Placeholder).length + c.settings.dialect.maxDepth =
      c.settings.dialect.maxDepth := Nat.zero_add _
  have htracks := ((DepthBounds.layered c hbuiltIn).tracks_levels hroom hbound c.root).1
    c.template.format.pieces fun p hp => h p (mem_placeholders.mpr hp)
  rw [← Call.renderFormat_eq] at htracks
  exact htracks {} _ _ rfl

/-- The formatters of the library render what is no deeper than the limit. -/
theorem recoverable_of_finished {c : Call} (hbuiltIn : ∀ f ∈ c.formatters, f ∈ Formatter.builtIn)
    (h : c.template.format.Layered c.settings.dialect.maxDepth 0) {err : Error}
    (herr : c.finished.1 = .error err) : err.isRecoverable = true :=
  (ends_layered c hbuiltIn h (Nat.lt_succ_self _)).2 err herr

theorem Engine.layered_of_parse (he : e.Reached cache) {text : String} {t : Shared}
    (h : (e.parse cache text).1 = .ok t) :
    t.template.format.Layered e.settings.dialect.maxDepth 0 := by
  obtain ⟨hcurrent, hsound⟩ := he.settled
  rw [← hcurrent.maxDepth_eq]
  exact Stencil.layered_of_parse (e.template_of_parse hsound h)

end Calls

/-- With the formatters of the library, the counter is one less than the depth of a placeholder
while the placeholder is rendered, and what an engine could read it does not find too deep. With any
formatters, the counter is the number of nested formats that are being rendered and within the
limit; every rendering ends and leaves the counter as it was, whether or not it fails; and at the
limit a nested format is refused. -/
theorem render_within_limit :
    (∀ (e : Engine) (cache : Option Cache) (text : String) (args : List Value) (t : Shared),
      e.Reached cache → (∀ f ∈ e.formatters, f ∈ Formatter.builtIn) →
      (e.parse cache text).1 = .ok t →
      let c := e.call (e.cached (e.parse cache text).2) t.template args
      (∀ bound > c.settings.dialect.maxDepth, ∃ visits,
        (c.countWithin bound [] c.root t.template.format.pieces).run ⟨{}, 0, []⟩ =
          some (c.finished.1, ⟨c.finished.2, 0, visits⟩) ∧
        ∀ v ∈ visits, ∀ p later, v.left = .placeholder p :: later → v.depth + 1 = p.depth) ∧
      (e.format cache text args).1 = c.render ∧
      ∀ position max, (e.format cache text args).1 ≠ .error (.tooDeep position max)) ∧
    ∀ (c : Call) (enclosing : List Placeholder) (s : Scope) (d : Draft) (bound : Nat),
      enclosing.length ≤ c.settings.dialect.maxDepth →
      c.settings.dialect.maxDepth - enclosing.length < bound →
      let levels := c.settings.dialect.maxDepth - enclosing.length
      (∀ ps, CountM.Ends enclosing.length c.Gauged (c.countWithin bound enclosing s ps) d
        (d.through (c.renderPieces (c.nestWithin levels s) s ps)).1
        (d.through (c.renderPieces (c.nestWithin levels s) s ps)).2) ∧
      ∀ p f v,
        CountM.Ends enclosing.length c.Gauged (c.countNested bound enclosing s p f v) d
          (d.through (c.nestWithin levels s p f v)).1
          (d.through (c.nestWithin levels s p f v)).2 ∧
        (enclosing.length = c.settings.dialect.maxDepth →
          (d.through (c.nestWithin levels s p f v)).1 =
            .error (.tooDeep p.start c.settings.dialect.maxDepth)) := by
  constructor
  · intro e cache text args t he hbuiltIn hread c
    have hlayered := Engine.layered_of_parse he hread
    have hformat : (e.format cache text args).1 = c.render := by
      simp only [Engine.format, hread, Except.bind]
      rfl
    refine ⟨fun bound hbound => ?_, hformat, fun position max hdeep => ?_⟩
    · obtain ⟨visits, hrun, hvisits⟩ := (ends_layered c hbuiltIn hlayered hbound).1 []
      refine ⟨visits, hrun, fun v hv p later hleft => ?_⟩
      have hfits := (hvisits v hv).fits
      rw [hleft] at hfits
      cases hfits p List.mem_cons_self with
      | intro hdepth _ _ => exact hdepth.symm
    · rw [hformat, Call.render_eq] at hdeep
      cases hfinished : c.finished.1 with
      | ok u =>
        rw [hfinished] at hdeep
        cases hdeep
      | error err =>
        rw [hfinished] at hdeep
        cases hdeep
        exact absurd (recoverable_of_finished hbuiltIn hlayered hfinished)
          (by simp [Error.isRecoverable])
  · intro c enclosing s d bound h hbound levels
    obtain ⟨hpieces, hnested⟩ := ends_gauged c h hbound s d
    refine ⟨hpieces, fun p f v => ⟨hnested p f v, fun hlimit => ?_⟩⟩
    have hnone : levels = 0 := by omega
    rw [hnone]
    rfl

/-- The engine of the library with a limit of two. -/
def twofoldEngine : Engine :=
  { Engine.standard ⟨0, 0⟩ with settings := { dialect := { maxDepth := 2 } } }

/-- An engine that renders the whole template within itself, with a limit of one. -/
def recursiveEngine : Engine where
  settings := { dialect := { maxDepth := 1 } }
  sources := [.argument]
  formatters := [.recurse]
  now := ⟨0, 0⟩

/-- A template that is as deep as the limit allows, and a placeholder whose nested format would be
one too many. -/
theorem render_within_limit_reached :
    (∃ t : Shared, (twofoldEngine.parse none "{0:<{0}>}").1 = .ok t ∧ twofoldEngine.Reached none ∧
      (∀ f ∈ twofoldEngine.formatters, f ∈ Formatter.builtIn) ∧
      (∀ position max,
        (twofoldEngine.format none "{0:<{0}>}" [.string "a"]).1 ≠ .error (.tooDeep position max)) ∧
      (twofoldEngine.format none "{0:<{0}>}" [.string "a"]).1.toOption.map Rendered.output =
        some "<a>") ∧
    ∃ (c : Call) (p : Placeholder), c = recursiveEngine.call none ⟨{}, ⟨0, 0, [.placeholder p]⟩, []⟩
        [.null] ∧
      [p].length ≤ c.settings.dialect.maxDepth ∧
      c.settings.dialect.maxDepth - [p].length < 1 ∧ [p].length = c.settings.dialect.maxDepth ∧
      CountM.Ends 1 c.Gauged (c.countNested 1 [p] c.root p c.template.format .null) {}
        (.error (.tooDeep 0 1)) { aborting := true } := by
  have hany : (twofoldEngine.parse none "{0:<{0}>}").1.isOk = true := by decide +kernel
  obtain ⟨t, hread⟩ : ∃ t, (twofoldEngine.parse none "{0:<{0}>}").1 = .ok t := by
    cases hparse : (twofoldEngine.parse none "{0:<{0}>}").1 with
    | error e =>
      rw [hparse] at hany
      cases hany
    | ok t => exact ⟨t, rfl⟩
  have hreached : twofoldEngine.Reached none := .of_kept_eq_none rfl
  have hbuiltIn : ∀ f ∈ twofoldEngine.formatters, f ∈ Formatter.builtIn := fun f hf => hf
  refine ⟨⟨t, hread, hreached, hbuiltIn, ?_, by decide +kernel⟩, ?_⟩
  · exact (render_within_limit.1 twofoldEngine none _ [.string "a"] t hreached hbuiltIn hread).2.2
  · let p : Placeholder := 
      ⟨0, 1, "{0:recurse:}", [⟨0, 1, 1, 2, "", "0"⟩], 0, ⟨3, 10, "recurse"⟩, none, none⟩
    let c := recursiveEngine.call none ⟨{}, ⟨0, 0, [.placeholder p]⟩, []⟩ [.null]
    have hlimit : [p].length = c.settings.dialect.maxDepth := rfl
    have hbound : c.settings.dialect.maxDepth - [p].length < 1 := Nat.one_pos
    exact ⟨c, p, rfl, hlimit.le, hbound, hlimit,
      ((render_within_limit.2 c [p] c.root {} 1 hlimit.le hbound).2 p c.template.format .null).1⟩

end Stencil
