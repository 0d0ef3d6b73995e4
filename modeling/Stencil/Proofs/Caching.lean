import Stencil.Sample
import Stencil.Proofs.Render.Steps
import Stencil.Proofs.Session.Reached

/-!
# Caches are not noticed

A session with a cache answers like one in which every template is read anew, but for the identity
of trees, unless a formatter asks how much the cache holds. The cache holds as many templates as
were read through it since it was cleared, up to its limit, and goes on handing out the trees that
it holds.
-/

namespace Stencil

set_option autoImplicit false

/-- What the formatter does is the same whatever the cache holds. -/
def Formatter.IgnoresCache (f : Formatter) : Prop :=
  ∀ (r : Request) (n : Option Nat), f.format { r with cached := n } = f.format r

namespace Call

def withCached (c : Call) (n : Option Nat) : Call := { c with cached := n }

variable {c : Call} (hignores : ∀ f ∈ c.formatters, f.IgnoresCache)
include hignores

theorem attempt_withCached (n : Option Nat) (nest : Format → Value → RenderM Unit) (s : Scope)
    (p : Placeholder) : (c.withCached n).attempt nest s p = c.attempt nest s p := by
  have hresolve : (c.withCached n).resolve s p = c.resolve s p := by
    apply resolve_congr <;> rfl
  unfold attempt
  rw [hresolve]
  cases c.resolve s p with
  | error selector => rfl
  | ok v =>
    refine tryFormatters_congr (fun f hf => ?_) _
    exact congrArg (Script.run nest) (hignores f (List.mem_filter.mp hf).1 (c.request p v) n)

def cacheBlindness (n : Option Nat) : RenderSimulation (c.withCached n) c where
  rel := Eq
  done := rfl
  write _ := rfl
  seq := by
    rintro first _ second _ rfl rfl
    rfl
  tooDeep _ := rfl
  placeholder := by
    intro nest nest' s p h
    obtain rfl : nest = nest' := funext fun f => funext fun v => h f v
    rw [renderPlaceholder_eq, renderPlaceholder_eq, attempt_withCached hignores]
    rfl

theorem render_withCached (n : Option Nat) : (c.withCached n).render = c.render := by
  have hfinished : (c.withCached n).finished = c.finished :=
    congrArg (({} : Draft).through ·)
      ((cacheBlindness hignores n).renderFormat c.settings.dialect.maxDepth c.root
        c.template.format)
  rw [render_eq, render_eq, hfinished]

end Call

/-- Without the tree, the identity of which is all that a cache changes. -/
def Reply.Agrees : Reply → Reply → Prop
  | .parsed r, .parsed r' => r.map Shared.template = r'.map Shared.template
  | .size _, .size _ => True
  | .description _, .description _ => True
  | r, r' => r = r'

/-- The engine when it reads all templates itself. -/
def Engine.uncached (e : Engine) : Engine := { e with usesCache := false }

namespace Session

def uncached (s : Session) : Session := ⟨s.engines.map Engine.uncached, none⟩

/-- A step where there is no cache: whoever would read through it reads anew. -/
def stepUncached (s : Session) : SessionStep → Reply × Session
  | .engine index step => s.step (.engine index step)
  | .parse d text => (.parsed ((Template.parse d text).map (⟨·, none⟩)), s)
  | .clearCache => (.done, s)

def runUncached (s : Session) : List SessionStep → List Reply
  | [] => []
  | step :: steps => (s.stepUncached step).1 :: (s.stepUncached step).2.runUncached steps

end Session

def SessionStep.formatters : SessionStep → List Formatter
  | .engine _ (.addFormatter f) => [f]
  | _ => []

section Engines

variable {e : Engine} {cache : Option Cache} (hsound : ∀ c ∈ cache, c.Sound)
include hsound

variable (hignores : ∀ f ∈ e.formatters, f.IgnoresCache)
include hignores

omit hsound in
theorem Engine.renderTemplate_cached (cached : Option Nat) (t : Template) (args : List Value) :
    e.renderTemplate cached t args = e.renderTemplate none t args :=
  Call.render_withCached (c := e.call none t args) hignores cached

theorem Engine.format_eq (text : String) (args : List Value) :
    (e.format cache text args).1 =
      (Template.parse e.dialect text).bind fun t => e.renderTemplate none t args := by
  rw [e.format_eq_bind hsound]
  exact congrArg _ (funext fun t => e.renderTemplate_cached hignores _ t args)

theorem Engine.step_uncached (step : EngineStep) :
    Reply.Agrees (e.step cache step).1 (e.uncached.step none step).1 ∧
      (e.step cache step).2.1.uncached = (e.uncached.step none step).2.1 := by
  have hnone : ∀ c ∈ (none : Option Cache), c.Sound := by simp
  have hformat (text : String) (args : List Value) :
      (e.format cache text args).1 = (e.uncached.format none text args).1 := by
    rw [Engine.format_eq hsound hignores, Engine.format_eq (e := e.uncached) hnone hignores]
    rfl
  cases step with
  | format text args => exact ⟨congrArg Reply.rendered (hformat text args), rfl⟩
  | formatToText text args sink =>
    simp only [Engine.step, hformat text args]
    exact ⟨rfl, rfl⟩
  | formatToBytes text args sink =>
    simp only [Engine.step, hformat text args]
    exact ⟨rfl, rfl⟩
  | formatParsed d text args =>
    refine ⟨congrArg Reply.rendered (congrArg _ (funext fun t => ?_)), rfl⟩
    exact (e.renderTemplate_cached hignores (e.cached cache) t args)
  | parse text =>
    refine ⟨?_, rfl⟩
    change (e.parse cache text).1.map Shared.template =
      (e.uncached.parse none text).1.map Shared.template
    rw [Engine.template_parse hsound, Engine.template_parse (e := e.uncached) hnone]
    rfl
  | cacheSize => exact ⟨trivial, rfl⟩
  | describe => exact ⟨trivial, rfl⟩
  | _ => exact ⟨rfl, rfl⟩

end Engines

namespace Session

variable {s : Session} {known : Finset CacheKey}

def IgnoresCache (s : Session) : Prop := ∀ e ∈ s.engines, ∀ f ∈ e.formatters, f.IgnoresCache

theorem formatters_step (e : Engine) (cache : Option Cache) (index : Nat) (step : EngineStep) :
    (e.step cache step).2.1.formatters =
      e.formatters ++ (SessionStep.engine index step).formatters := by
  cases step with
  | addFormatter f => rfl
  | _ => exact (List.append_nil _).symm

theorem IgnoresCache.step (h : s.IgnoresCache) {step : SessionStep}
    (hstep : ∀ f ∈ step.formatters, f.IgnoresCache) : (s.step step).2.IgnoresCache := by
  cases step with
  | clearCache => exact h
  | parse d text =>
    simp only [Session.step]
    split <;> exact h
  | engine index step =>
    simp only [Session.step]
    split
    · exact h
    · rename_i e he
      intro e' he' f hf
      rcases List.mem_or_eq_of_mem_set he' with he' | rfl
      · exact h e' he' f hf
      · rw [formatters_step e s.cache index step] at hf
        rcases List.mem_append.mp hf with hf | hf
        · exact h e (List.mem_of_getElem? he) f hf
        · exact hstep f hf

/-- A step answers as it does without a cache, and what is left is the same but for the cache. -/
theorem step_uncached (hkeeps : s.Keeps known) (hignores : s.IgnoresCache) (step : SessionStep)
    (hcache : s.cache ≠ none) :
    Reply.Agrees (s.step step).1 (s.uncached.stepUncached step).1 ∧
      (s.step step).2.uncached = (s.uncached.stepUncached step).2 := by
  obtain ⟨c, hc⟩ := Option.ne_none_iff_exists'.mp hcache
  have hsound : ∀ c ∈ s.cache, c.Sound := fun c hc => (hkeeps c hc).1
  cases step with
  | clearCache => exact ⟨rfl, rfl⟩
  | parse d text =>
    simp only [Session.step, hc, stepUncached]
    refine ⟨?_, rfl⟩
    change (c.getOrParse d text).1.map Shared.template = _
    rw [Cache.template_getOrParse (hsound c hc)]
    cases Template.parse d text <;> rfl
  | engine index step =>
    simp only [stepUncached, Session.step, uncached, List.getElem?_map]
    cases he : s.engines[index]? with
    | none => exact ⟨rfl, rfl⟩
    | some e =>
      obtain ⟨hreply, hengine⟩ := Engine.step_uncached (e := e) hsound
        (hignores e (List.mem_of_getElem? he)) step
      have hnone : (e.uncached.step none step).2.2 = none := Engine.step_cache _ _ _
      refine ⟨hreply, ?_⟩
      simp only [Option.map_some, List.map_set, hengine, hnone]

theorem run_uncached (hkeeps : s.Keeps known) (hignores : s.IgnoresCache) (hcache : s.cache ≠ none)
    {steps : List SessionStep}
    (hsteps : ∀ step ∈ steps, ∀ f ∈ step.formatters, f.IgnoresCache) :
    List.Forall₂ Reply.Agrees ((s.run steps).map Prod.fst) (s.uncached.runUncached steps) := by
  induction steps generalizing s known with
  | nil => exact .nil
  | cons step steps ih =>
    obtain ⟨hreply, hrest⟩ := step_uncached hkeeps hignores step hcache
    have hcache' : (s.step step).2.cache ≠ none := by
      obtain ⟨c, hc⟩ := Option.ne_none_iff_exists'.mp hcache
      obtain ⟨c', hc', -⟩ := exists_cache_after hc [step]
      exact Option.ne_none_iff_exists'.mpr ⟨c', hc'⟩
    have hlater := ih (hkeeps.step step)
      (hignores.step (hsteps step List.mem_cons_self)) hcache'
      fun step' hstep' => hsteps step' (List.mem_cons_of_mem _ hstep')
    rw [hrest] at hlater
    exact .cons hreply hlater

end Session

/-- A cache that is shared by engines and by whoever reads through it directly changes no answer but
the identity of trees, unless a formatter asks about it. After any steps it holds as many templates
as there are keys that were read through it since it was cleared, or as many as its limit allows.
What cannot be read leaves it as it was. What it holds under a key, it hands out for that key until
it is cleared, as one and the same tree: no other tree ever has its stamp. -/
theorem run_cached (engines : List Engine) (limit : Option Nat) (steps : List SessionStep) :
    let s : Session := ⟨engines, some { limit }⟩
    ((∀ e ∈ engines, ∀ f ∈ e.formatters, f.IgnoresCache) →
      (∀ step ∈ steps, ∀ f ∈ step.formatters, f.IgnoresCache) →
      List.Forall₂ Reply.Agrees ((s.run steps).map Prod.fst) (s.uncached.runUncached steps)) ∧
    ∃ c, (s.after steps).cache = some c ∧
      c.size = limit.elim (s.keysRead ∅ steps).card (min (s.keysRead ∅ steps).card) ∧
      (∀ (step : SessionStep) (d : Dialect) (text : String) (err : Error),
        (s.after steps).lookup? step = some (d, text) → Template.parse d text = .error err →
        ((s.after steps).step step).2.cache = some c) ∧
      ∀ (d : Dialect) (text : String) (entry : CacheEntry), c.find? d text = some entry →
        ∀ more : List SessionStep, ∃ c', (s.after (steps ++ more)).cache = some c' ∧
          (∀ entry' ∈ c'.entries, entry'.stamp = entry.stamp → entry' = entry) ∧
          ((∀ step ∈ more, step ≠ .clearCache) →
            c'.getOrParse d text = (.ok ⟨entry.template, some entry.stamp⟩, c') ∧
            ∀ e : Engine, e.usesCache = true → e.dialect = d →
              e.parse (some c') text = (.ok ⟨entry.template, some entry.stamp⟩, some c')) := by
  intro s
  have hbegins : s.Keeps ∅ := by
    intro c hc
    obtain rfl : ({ limit } : Cache) = c := Option.some.inj hc
    exact ⟨.of_entries_eq_nil rfl, .of_entries_eq_nil rfl⟩
  obtain ⟨c, hc, -, hlimit⟩ := Session.exists_cache_after (s := s) rfl steps
  obtain ⟨hsound, hkeeps⟩ := hbegins.after steps c hc
  refine ⟨fun hengines hsteps => Session.run_uncached hbegins hengines (by simp [s]) hsteps, c, hc,
    ?_, ?_, ?_⟩
  · rw [hkeeps.size_eq hsound, hlimit]
  · intro step d text err hlookup herr
    have hstep : step ≠ .clearCache := by
      rintro rfl
      cases hlookup
    rw [Session.step_cache hstep, hlookup, hc, Option.map_some, Cache.afterLookup_failed herr]
  · intro d text entry hentry more
    rw [Session.after_append]
    obtain ⟨c', hc', hprecedes, -⟩ := Session.exists_cache_after hc more
    refine ⟨c', hc', fun entry' hentry' hstamp => ?_, fun hmore => ?_⟩
    · exact (hprecedes.eq_of_stamp hsound (Cache.mem_of_find? hentry).1 hentry' hstamp.symm).symm
    · obtain ⟨c'', hc'', hkept⟩ := Session.find?_after hc hentry hmore
      obtain rfl : c' = c'' := Option.some.inj (hc'.symm.trans hc'')
      have hread := Cache.getOrParse_kept hkept
      refine ⟨hread, fun e huses hd => ?_⟩
      subst hd
      simp only [Engine.parse, huses, hread]

/-- Two engines of different dialects, both with the cache. -/
def sharingEngines : List Engine :=
  [{ Engine.standard ⟨0, 0⟩ with usesCache := true },
    { settings := { dialect := { opening := '<', closing := '>' } }
      sources := [.argument], formatters := [.shout], usesCache := true, now := ⟨0, 0⟩ }]

/-- A template that both engines read, one that is read after a formatter was added, one that cannot
be read, and one that is read directly. -/
def sharingSteps : List SessionStep :=
  [.engine 0 (.format "{0}<0>" [.bool true]), .engine 1 (.parse "{0}<0>"),
    .engine 1 (.addFormatter .decline), .engine 1 (.parse "{0}<0>"), .engine 0 (.parse "\x7b0"),
    .engine 0 (.parse "{0}<0>"), .parse {} "{0}<0>"]

/-- A cache for two templates, in a session that reads one text as four. -/
theorem run_cached_sharing :
    (∀ e ∈ sharingEngines, ∀ f ∈ e.formatters, f.IgnoresCache) ∧
    (∀ step ∈ sharingSteps, ∀ f ∈ step.formatters, f.IgnoresCache) ∧
    List.Forall₂ Reply.Agrees
      (((⟨sharingEngines, some { limit := some 2 }⟩ : Session).run sharingSteps).map Prod.fst)
      ((⟨sharingEngines, some { limit := some 2 }⟩ : Session).uncached.runUncached sharingSteps) ∧
    ((⟨sharingEngines, some { limit := some 2 }⟩ : Session).keysRead ∅ sharingSteps).card = 4 ∧
    ((⟨sharingEngines, some { limit := some 2 }⟩ : Session).after sharingSteps).cache.map
      Cache.size = some 2 := by
  have hengines : ∀ e ∈ sharingEngines, ∀ f ∈ e.formatters, f.IgnoresCache := by
    simp only [sharingEngines, Engine.standard, List.forall_mem_cons]
    exact ⟨⟨fun _ _ => rfl, fun _ _ => rfl, fun _ _ => rfl, fun _ _ => rfl, by simp⟩,
      ⟨fun _ _ => rfl, by simp⟩, by simp⟩
  have hsteps : ∀ step ∈ sharingSteps, ∀ f ∈ step.formatters, f.IgnoresCache := by
    simp only [sharingSteps, SessionStep.formatters, List.forall_mem_cons]
    simp [Formatter.IgnoresCache, Formatter.decline, Request.nested, Request.format?]
  obtain ⟨hreplies, c, hc, hsize, -⟩ := run_cached sharingEngines (some 2) sharingSteps
  have hcard : ((⟨sharingEngines, some { limit := some 2 }⟩ : Session).keysRead ∅
      sharingSteps).card = 4 := by
    decide +kernel
  refine ⟨hengines, hsteps, hreplies hengines hsteps, hcard, ?_⟩
  rw [hc, Option.map_some, hsize, hcard]
  rfl

end Stencil
