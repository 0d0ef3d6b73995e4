import Stencil.Proofs.Session.Kept

/-!
# Engines in use

An engine that is used in a session, whatever was done in it before, reads templates in the dialect
of its present settings and formatters, and through a cache that is sound.
-/

namespace Stencil

set_option autoImplicit false

/-- If the engine keeps a dialect, it is the one that it would work out now. -/
def Engine.Current (e : Engine) : Prop := ∀ d ∈ e.kept, d = e.currentDialect

namespace Session

structure Settled (s : Session) : Prop where
  engines : ∀ e ∈ s.engines, e.Current
  cache : ∀ c ∈ s.cache, c.Sound

/-- Nothing was done yet: no dialect was worked out, and nothing is in the cache. -/
structure Fresh (s : Session) : Prop where
  engines : ∀ e ∈ s.engines, e.kept = none
  cache : ∀ c ∈ s.cache, c.entries = []

end Session

/-- The engine is one of a session that has come to where `cache` is its cache. -/
def Engine.Reached (e : Engine) (cache : Option Cache) : Prop :=
  ∃ (s : Session) (steps : List SessionStep),
    s.Fresh ∧ e ∈ (s.after steps).engines ∧ (s.after steps).cache = cache

namespace Engine

variable {e : Engine}

theorem Current.of_kept_eq_none (h : e.kept = none) : e.Current := by
  intro d hd
  rw [h] at hd
  cases hd

theorem Current.dialect_eq (h : e.Current) : e.dialect = e.currentDialect := by
  unfold dialect
  cases hkept : e.kept with
  | none => rfl
  | some d => exact h d hkept

theorem Current.keepDialect (h : e.Current) : e.keepDialect.Current := by
  intro d hd
  obtain rfl : e.dialect = d := Option.some.inj hd
  exact h.dialect_eq

theorem Current.step (h : e.Current) (cache : Option Cache) (step : EngineStep) :
    (e.step cache step).2.1.Current := by
  cases step with
  | changeSettings change => exact .of_kept_eq_none rfl
  | addSource s => exact h
  | addFormatter f => exact .of_kept_eq_none rfl
  | formatParsed d text args => exact h
  | settings => exact h
  | cacheSize => exact h
  | describe => exact h
  | _ => exact h.keepDialect

theorem Current.maxDepth_eq (h : e.Current) : e.dialect.maxDepth = e.settings.dialect.maxDepth := by
  rw [h.dialect_eq]
  rfl

end Engine

namespace Session

variable {s : Session}

theorem Fresh.settled (h : s.Fresh) : s.Settled where
  engines e he := .of_kept_eq_none (h.engines e he)
  cache c hc := .of_entries_eq_nil (h.cache c hc)

theorem Settled.step (h : s.Settled) (step : SessionStep) : (s.step step).2.Settled where
  engines := by
    cases step with
    | clearCache => exact h.engines
    | parse d text =>
      simp only [Session.step]
      split <;> exact h.engines
    | engine index step =>
      simp only [Session.step]
      split
      · exact h.engines
      · rename_i e he
        intro e' he'
        rcases List.mem_or_eq_of_mem_set he' with he' | rfl
        · exact h.engines e' he'
        · exact (h.engines e (List.mem_of_getElem? he)).step s.cache step
  cache := by
    by_cases hclear : step = .clearCache
    · subst hclear
      intro c' hc'
      obtain ⟨c, -, rfl⟩ := Option.mem_map.mp hc'
      exact .of_entries_eq_nil rfl
    · intro c' hc'
      rw [step_cache hclear] at hc'
      obtain ⟨c, hc, rfl⟩ := Option.mem_map.mp hc'
      exact (h.cache c hc).afterLookup _

theorem Settled.after (h : s.Settled) (steps : List SessionStep) : (s.after steps).Settled := by
  induction steps generalizing s with
  | nil => exact h
  | cons step steps ih => exact ih (h.step step)

end Session

theorem Cache.template_getOrParse {c : Cache} (hc : c.Sound) (d : Dialect) (text : String) :
    (c.getOrParse d text).1.map Shared.template = Template.parse d text := by
  cases hfind : c.find? d text with
  | some entry =>
    obtain ⟨hentry, hkey⟩ := mem_of_find? hfind
    have hparsed := hc.parsed entry hentry
    cases hkey
    rw [getOrParse_kept hfind, hparsed]
    rfl
  | none =>
    simp only [getOrParse, hfind]
    cases Template.parse d text with
    | error err => rfl
    | ok t => cases c.isFull <;> rfl

namespace Engine

variable {e : Engine} {cache : Option Cache}

theorem template_parse (hsound : ∀ c ∈ cache, c.Sound) (text : String) :
    (e.parse cache text).1.map Shared.template = Template.parse e.dialect text := by
  have hanew : ((Template.parse e.dialect text).map (⟨·, none⟩ : Template → Shared)).map
      Shared.template = Template.parse e.dialect text := by
    cases Template.parse e.dialect text <;> rfl
  cases huses : e.usesCache with
  | false => simpa [Engine.parse, huses] using hanew
  | true =>
    cases cache with
    | none => simpa [Engine.parse, huses] using hanew
    | some c =>
      simp only [Engine.parse, huses]
      exact Cache.template_getOrParse (hsound c rfl) e.dialect text

theorem template_of_parse (hsound : ∀ c ∈ cache, c.Sound) {text : String} {t : Shared}
    (h : (e.parse cache text).1 = .ok t) : Template.parse e.dialect text = .ok t.template := by
  rw [← e.template_parse hsound, h]
  rfl

theorem exists_shared_of_parse (hsound : ∀ c ∈ cache, c.Sound) {text : String} {t : Template}
    (h : Template.parse e.dialect text = .ok t) :
    ∃ s, (e.parse cache text).1 = .ok s ∧ s.template = t := by
  have hread := e.template_parse hsound text
  rw [h] at hread
  cases hparse : (e.parse cache text).1 with
  | error err =>
    rw [hparse] at hread
    cases hread
  | ok s =>
    rw [hparse] at hread
    exact ⟨s, rfl, Except.ok.inj hread⟩

theorem Reached.settled (h : e.Reached cache) : e.Current ∧ ∀ c ∈ cache, c.Sound := by
  obtain ⟨s, steps, hfresh, he, rfl⟩ := h
  have hsettled := hfresh.settled.after steps
  exact ⟨hsettled.engines e he, hsettled.cache⟩

/-- A new engine is in use by itself, without a cache. -/
theorem Reached.of_kept_eq_none (h : e.kept = none) : e.Reached none := by
  refine ⟨⟨[e], none⟩, [], ⟨fun e' he' => ?_, by simp⟩, List.mem_singleton_self _, rfl⟩
  obtain rfl := List.mem_singleton.mp he'
  exact h

/-- An engine in use renders what its text is read as in the dialect it stands for. -/
theorem format_eq_bind (hsound : ∀ c ∈ cache, c.Sound) (text : String) (args : List Value) :
    (e.format cache text args).1 = (Template.parse e.dialect text).bind fun t =>
      e.renderTemplate (e.cached (e.parse cache text).2) t args := by
  have hformat : (e.format cache text args).1 = (e.parse cache text).1.bind fun s =>
      e.renderTemplate (e.cached (e.parse cache text).2) s.template args := rfl
  rw [hformat, ← e.template_parse hsound text]
  cases (e.parse cache text).1 <;> rfl

theorem format_of_parse (hsound : ∀ c ∈ cache, c.Sound) {text : String} {t : Template}
    (h : Template.parse e.dialect text = .ok t) (args : List Value) :
    (e.format cache text args).1 = e.renderTemplate (e.cached (e.parse cache text).2) t args := by
  rw [e.format_eq_bind hsound, h]
  rfl

end Engine

end Stencil
