import Mathlib.Data.Finset.Insert
import Stencil.Session

/-!
# The course of a session

Where a session stands after some of its steps, and what a step looks up in the cache: nothing, or
the template that it reads under the dialect of whoever reads it. The cache changes by such lookups
and by being cleared, and in no other way.
-/

namespace Stencil

set_option autoImplicit false

/-- What a template is kept by. -/
abbrev CacheKey := Dialect × String

def CacheEntry.key (e : CacheEntry) : CacheKey := (e.dialect, e.text)

def Cache.afterLookup (c : Cache) : Option CacheKey → Cache
  | none => c
  | some (d, text) => (c.getOrParse d text).2

def EngineStep.template? : EngineStep → Option String
  | .format text _ | .formatToText text _ _ | .formatToBytes text _ _ | .parse text => some text
  | _ => none

/-- What the engine looks up in the cache in the step. -/
def Engine.lookup? (e : Engine) (step : EngineStep) : Option CacheKey :=
  if e.usesCache then step.template?.map (e.dialect, ·) else none

namespace Session

def after (s : Session) (steps : List SessionStep) : Session :=
  steps.foldl (fun s step => (s.step step).2) s

def lookup? (s : Session) : SessionStep → Option CacheKey
  | .engine index step => s.engines[index]?.bind (·.lookup? step)
  | .parse d text => some (d, text)
  | .clearCache => none

/-- With what was looked up in the step and could be read, or nothing if the cache was cleared. -/
def keysAfter (s : Session) (known : Finset CacheKey) : SessionStep → Finset CacheKey
  | .clearCache => ∅
  | step =>
    match s.lookup? step with
    | none => known
    | some (d, text) => if (Template.parse d text).isOk then insert (d, text) known else known

/-- The keys of the templates that were read through the cache since it was last cleared, given
those from before the steps. -/
def keysRead (s : Session) (known : Finset CacheKey) : List SessionStep → Finset CacheKey
  | [] => known
  | step :: steps => (s.step step).2.keysRead (s.keysAfter known step) steps

end Session

section Lookups

variable {e : Engine} {s : Session}

theorem Engine.parse_cache (e : Engine) (cache : Option Cache) (text : String) :
    (e.parse cache text).2 =
      cache.map (·.afterLookup (if e.usesCache then some (e.dialect, text) else none)) := by
  cases hcache : e.usesCache with
  | false => cases cache <;> simp [Engine.parse, hcache, Cache.afterLookup]
  | true => cases cache <;> simp [Engine.parse, hcache, Cache.afterLookup]

/-- A step of an engine does nothing to the cache but look up what it reads. -/
theorem Engine.step_cache (e : Engine) (cache : Option Cache) (step : EngineStep) :
    (e.step cache step).2.2 = cache.map (·.afterLookup (e.lookup? step)) := by
  have hidle : cache.map (·.afterLookup none) = cache := Option.map_id'
  have hread (text : String) (hstep : step.template? = some text) :
      (e.parse cache text).2 = cache.map (·.afterLookup (e.lookup? step)) := by
    rw [Engine.parse_cache, Engine.lookup?, hstep]
    rfl
  cases step with
  | format text args => exact hread text rfl
  | formatToText text args sink => exact hread text rfl
  | formatToBytes text args sink => exact hread text rfl
  | parse text => exact hread text rfl
  | _ =>
    simp only [Engine.lookup?, EngineStep.template?, Option.map_none, ite_self, hidle]
    rfl

theorem Session.step_cache {step : SessionStep} (hstep : step ≠ .clearCache) :
    (s.step step).2.cache = s.cache.map (·.afterLookup (s.lookup? step)) := by
  cases step with
  | clearCache => exact absurd rfl hstep
  | parse d text =>
    simp only [Session.step, Session.lookup?]
    cases hcache : s.cache with
    | none => exact hcache
    | some c => rfl
  | engine index step =>
    simp only [Session.step, Session.lookup?]
    cases s.engines[index]? with
    | none => exact Option.map_id'.symm
    | some e => exact e.step_cache s.cache step

theorem Session.keysAfter_eq {step : SessionStep} (hstep : step ≠ .clearCache)
    (known : Finset CacheKey) :
    s.keysAfter known step =
      match s.lookup? step with
      | none => known
      | some (d, text) =>
        if (Template.parse d text).isOk then insert (d, text) known else known := by
  cases step with
  | clearCache => exact absurd rfl hstep
  | _ => rfl

@[simp] theorem Session.after_nil (s : Session) : s.after [] = s := rfl

@[simp] theorem Session.after_cons (s : Session) (step : SessionStep)
    (steps : List SessionStep) : s.after (step :: steps) = (s.step step).2.after steps := rfl

theorem Session.after_append (s : Session) (steps more : List SessionStep) :
    s.after (steps ++ more) = (s.after steps).after more :=
  List.foldl_append

end Lookups

end Stencil
