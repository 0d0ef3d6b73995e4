import Stencil.Engine
import Stencil.Engine.Description
import Stencil.Sink

/-!
# Sessions

Several engines and one cache, used one call after the other. Engines that use the cache share it
with each other and with whoever reads templates from it directly.
-/

namespace Stencil

set_option autoImplicit false

structure Session where
  engines : List Engine
  cache : Option Cache

inductive EngineStep where
  | changeSettings (change : Settings → Settings)
  | addSource (s : Source)
  | addFormatter (f : Formatter)
  | format (text : String) (args : List Value)
  /-- Renders a template that is read apart from the engine, in a dialect of its own. -/
  | formatParsed (d : Dialect) (text : String) (args : List Value)
  | formatToText (text : String) (args : List Value) (sink : TextSink)
  | formatToBytes (text : String) (args : List Value) (sink : ByteSink)
  | parse (text : String)
  | dialect
  | settings
  | cacheSize
  | describe

inductive SessionStep where
  | engine (index : Nat) (step : EngineStep)
  | parse (d : Dialect) (text : String)
  | clearCache

inductive Reply where
  | done
  | rendered (r : Except Error Rendered)
  | wroteText (r : Except Error (List Failure)) (sink : TextSink)
  | wroteBytes (r : Except Error (List Failure)) (sink : ByteSink)
  | parsed (r : Except Error Shared)
  /-- Two answers of one engine are one shared dialect if their revisions are the same. -/
  | dialect (d : Dialect) (revision : Nat)
  | settings (s : Settings)
  | size (n : Option Nat)
  | description (text : String)

/-- What an engine answers, and the engine and the cache afterwards. -/
def Engine.step (e : Engine) (cache : Option Cache) :
    EngineStep → Reply × Engine × Option Cache
  | .changeSettings change => (.done, e.changeSettings change, cache)
  | .addSource s => (.done, e.addSource s, cache)
  | .addFormatter f => (.done, e.addFormatter f, cache)
  | .format text args =>
    let (r, cache) := e.format cache text args
    (.rendered r, e.keepDialect, cache)
  | .formatParsed d text args =>
    (.rendered ((Template.parse d text).bind fun t => e.renderTemplate (e.cached cache) t args),
      e, cache)
  | .formatToText text args sink =>
    let (r, cache) := e.format cache text args
    let (r, sink) := Rendered.writeTo TextSink.write sink r
    (.wroteText r sink, e.keepDialect, cache)
  | .formatToBytes text args sink =>
    let (r, cache) := e.format cache text args
    let (r, sink) := Rendered.writeTo ByteSink.write sink r
    (.wroteBytes r sink, e.keepDialect, cache)
  | .parse text =>
    let (r, cache) := e.parse cache text
    (.parsed r, e.keepDialect, cache)
  | .dialect => (.dialect e.dialect e.revision, e.keepDialect, cache)
  | .settings => (.settings e.settings, e, cache)
  | .cacheSize => (.size (e.cached cache), e, cache)
  | .describe => (.description e.description, e, cache)

namespace Session

/-- Nothing is done by an engine that is not there. -/
def step (s : Session) : SessionStep → Reply × Session
  | .engine index step =>
    match s.engines[index]? with
    | none => (.done, s)
    | some e =>
      let (reply, e, cache) := e.step s.cache step
      (reply, ⟨s.engines.set index e, cache⟩)
  | .parse d text =>
    match s.cache with
    | none => (.done, s)
    | some c =>
      let (r, c) := c.getOrParse d text
      (.parsed r, { s with cache := some c })
  | .clearCache => (.done, { s with cache := s.cache.map Cache.clear })

/-- The replies to a list of steps, each with the session after it. -/
def run (s : Session) : List SessionStep → List (Reply × Session)
  | [] => []
  | step :: steps =>
    let (reply, s) := s.step step
    (reply, s) :: s.run steps

end Session

end Stencil
