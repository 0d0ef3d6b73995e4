import Stencil.Cache
import Stencil.Render
import Stencil.Formatter.List
import Stencil.Formatter.Conditional
import Stencil.Formatter.Choose
import Stencil.Formatter.Default

/-!
# Engines

An engine is the settings, sources and formatters that templates are rendered with. The dialect
that it reads templates in is that of the settings, restricted to the names of its formatters; it
is worked out once and kept until the settings or the formatters change.
-/

namespace Stencil

set_option autoImplicit false

structure Engine where
  settings : Settings := {}
  sources : List Source := []
  formatters : List Formatter := []
  /-- Whether templates are read through the cache. -/
  usesCache : Bool := false
  /-- The moment that dates are compared with. -/
  now : Instant
  /-- The dialect as it was last worked out. -/
  kept : Option Dialect := none
  /-- How many times the kept dialect was discarded. -/
  revision : Nat := 0

namespace Engine

/-- With the sources and formatters of the library. -/
def standard (now : Instant) : Engine where
  sources := [.argument, .member]
  formatters := [.list, .conditional, .choose, .default]
  now := now

def discardDialect (e : Engine) : Engine := { e with kept := none, revision := e.revision + 1 }

def addSource (e : Engine) (s : Source) : Engine := { e with sources := e.sources ++ [s] }

def addFormatter (e : Engine) (f : Formatter) : Engine :=
  { e with formatters := e.formatters ++ [f] }.discardDialect

def changeSettings (e : Engine) (change : Settings → Settings) : Engine :=
  { e with settings := change e.settings }.discardDialect

/-- The names that may be given to a formatter in a template. -/
def formatterNames (e : Engine) : List String :=
  (e.formatters.flatMap Formatter.names).filter (· ≠ "")

/-- The dialect of the settings, with the names of the formatters if it leaves the names open. -/
def currentDialect (e : Engine) : Dialect :=
  let d := e.settings.dialect
  { d with formatterNames := d.formatterNames.or (some e.formatterNames) }

/-- The kept dialect, or else the current one. -/
def dialect (e : Engine) : Dialect := e.kept.getD e.currentDialect

def keepDialect (e : Engine) : Engine := { e with kept := some e.dialect }

/-- Reads a template, through the cache if the engine uses one. -/
def parse (e : Engine) (cache : Option Cache) (text : String) :
    Except Error Shared × Option Cache :=
  match e.usesCache, cache with
  | true, some c =>
    let (r, c) := c.getOrParse e.dialect text
    (r, some c)
  | _, _ => ((Template.parse e.dialect text).map (⟨·, none⟩), cache)

/-- The size of the cache that the engine uses. -/
def cached (e : Engine) (cache : Option Cache) : Option Nat :=
  if e.usesCache then cache.map Cache.size else none

/-- Renders a template that was read before. -/
def renderTemplate (e : Engine) (cached : Option Nat) (t : Template) (args : List Value) :
    Except Error Rendered :=
  Call.render { e with template := t, args, cached, dialect := e.dialect }

/-- Reads a template and renders it. -/
def format (e : Engine) (cache : Option Cache) (text : String) (args : List Value) :
    Except Error Rendered × Option Cache :=
  let (r, cache) := e.parse cache text
  (r.bind fun s => e.renderTemplate (e.cached cache) s.template args, cache)

end Engine

/-- Writes the output of a render to a sink. Without an output the sink is left alone. -/
def Rendered.writeTo {σ : Type} (write : String → σ → Except String σ) (sink : σ)
    (r : Except Error Rendered) : Except Error (List Failure) × σ :=
  match r with
  | .error e => (.error e, sink)
  | .ok rendered =>
    match write rendered.output sink with
    | .ok sink => (.ok rendered.failures, sink)
    | .error message => (.error (.io message), sink)

end Stencil
