import Stencil.Formatter
import Stencil.Source

/-!
# Rendering

Literal text is copied; a placeholder is resolved through the sources and written by the first
formatter that does not decline. Output and failures only grow, except that a formatter which
declines is rolled back to where it began. A failed placeholder is recorded and replaced, unless
the render is being abandoned; then the error goes up through everything that does not catch it.

A nested format is rendered by a renderer with one level less, so rendering ends whatever the
formatters do.
-/

namespace Stencil

set_option autoImplicit false

/-- A render under way: the text of the placeholder at hand, the failures of the whole call, and
whether the call is being abandoned. -/
structure Draft where
  out : String := ""
  failures : List Failure := []
  aborting : Bool := false

/-- How far a draft had come. -/
structure Mark where
  written : Nat
  failed : Nat
  aborting : Bool

namespace Draft

def mark (d : Draft) : Mark := ⟨d.out.length, d.failures.length, d.aborting⟩

def write (text : String) (d : Draft) : Draft := { d with out := d.out ++ text }

/-- Drops what was added since the mark. -/
def rewind (m : Mark) (d : Draft) : Draft where
  out := String.ofList (d.out.toList.take m.written)
  failures := d.failures.take m.failed
  aborting := m.aborting

/-- Whatever was only added to a draft, rewinding takes it away again. -/
theorem rewind_mark (d : Draft) (text : String) (more : List Failure) (aborting : Bool) :
    rewind d.mark ⟨d.out ++ text, d.failures ++ more, aborting⟩ = d := by
  have h : (d.out.toList ++ text.toList).take d.out.length = d.out.toList := by
    rw [← String.length_toList, List.take_left]
  simp [rewind, mark, h]

end Draft

/-- A step of a render. What it wrote and recorded stays even if it fails. -/
abbrev RenderM := ExceptT Error (StateM Draft)

/-- What an engine renders with. -/
structure Equipment where
  settings : Settings
  sources : List Source
  formatters : List Formatter
  /-- The dialect that templates are read in, with the names of the formatters. -/
  dialect : Dialect
  cached : Option Nat
  now : Instant

/-- A call: what is rendered, with which arguments and by what means. -/
structure Call extends Equipment where
  template : Template
  args : List Value

/-- The values in scope, from the innermost outwards; the last of all is the root. -/
structure Scope where
  value : Value
  outer : List Value := []

def Scope.enter (s : Scope) (v : Value) : Scope := ⟨v, s.value :: s.outer⟩

namespace Call

def query (c : Call) (selector : String) (index : Nat) (atRoot : Bool) (current : Value) : Query :=
  { current, selector, index, atRoot, args := c.args
    caseSensitivity := c.settings.caseSensitivity }

/-- The answer of the first source that has one. -/
def ask (c : Call) (q : Query) : Option Value := c.sources.findSome? (·.resolve q)

/-- Looks a selector up in a value, then in each value around it. -/
def resolveFirst (c : Call) (selector : String) (v : Value) : List Value → Option Value
  | [] => c.ask (c.query selector 0 true v)
  | w :: ws => (c.ask (c.query selector 0 false v)).or (c.resolveFirst selector w ws)

/-- Looks selector after selector up in the value before. Fails with the first that leads nowhere.
-/
def resolveLater (c : Call) (v : Value) : Nat → List String → Except String Value
  | _, [] => .ok v
  | i, selector :: later =>
    match c.ask (c.query selector i false v) with
    | some w => c.resolveLater w (i + 1) later
    | none => .error selector

/-- The value that a placeholder stands for, or the selector that leads nowhere. -/
def resolve (c : Call) (s : Scope) (p : Placeholder) : Except String Value :=
  if p.isCurrent then .ok s.value
  else
    match p.path with
    | [] => .ok s.value
    | selector :: later =>
      match c.resolveFirst selector s.value s.outer with
      | some v => c.resolveLater v 1 later
      | none => .error selector

def request (c : Call) (p : Placeholder) (v : Value) : Request :=
  { value := v, placeholder := p, template := c.template, args := c.args, settings := c.settings
    dialect := c.dialect, cached := c.cached, now := c.now }

end Call

/-- Carries a script out, rendering nested formats with `nest`. -/
def Script.run {α : Type} (nest : Format → Value → RenderM Unit) : Script α → RenderM α
  | .done a => pure a
  | .fail e => throw e
  | .write text next => do
    modify (·.write text)
    next.run nest
  | .nested format value next => do
    let r ← ExceptT.lift (nest format value).run
    (next r).run nest
  | .failures next => do
    let d ← get
    (next d.failures).run nest

/-- Tries formatters until one does not decline. -/
def tryFormatters (run : Formatter → RenderM Bool) (none : Error) : List Formatter → RenderM Unit
  | [] => throw none
  | f :: fs => do
    let before ← get
    if ← run f then pure ()
    else
      modify (·.rewind before.mark)
      tryFormatters run none fs

/-- Runs a step on an empty page and yields its text and outcome; the text before it is left
alone. -/
def onBlankPage (step : RenderM Unit) : RenderM (String × Except Error Unit) := do
  let before ← get
  set { before with out := "" }
  let r ← ExceptT.lift step.run
  let after ← get
  set { after with out := before.out }
  return (after.out, r)

/-- Pads to a width in characters: to the left of the text for a positive alignment, to the right
of it for a negative one. -/
def align (alignment : Int) (text : String) : String :=
  let padding := String.ofList (List.replicate (alignment.natAbs - text.length) ' ')
  if alignment < 0 then text ++ padding else padding ++ text

/-- Gives the render up: from now on no failure is replaced. -/
def abandon (e : Error) : RenderM Unit := do
  modify ({ · with aborting := true })
  throw e

/-- Records a failed placeholder and puts in its place what the settings say. -/
def recordFailure (action : ErrorAction) (p : Placeholder) (e : Error) : RenderM Unit := do
  modify fun d => { d with failures := d.failures ++ [⟨p.raw, p.start, e⟩] }
  match action with
  | .fail => abandon e
  | .message => modify (·.write e.message)
  | .nothing => pure ()
  | .asWritten => modify (·.write p.raw)

def handleFailure (action : ErrorAction) (p : Placeholder) (e : Error) : RenderM Unit := do
  let d ← get
  if d.aborting || !e.isRecoverable then abandon e else recordFailure action p e

namespace Call

/-- Writes a resolved value with the first formatter that answers to the placeholder and handles
it. -/
def dispatch (c : Call) (nest : Format → Value → RenderM Unit) (p : Placeholder) (v : Value) :
    RenderM Unit :=
  let willing := c.formatters.filter (·.answersTo c.settings.caseSensitivity p.name)
  tryFormatters (fun f => (f.format (c.request p v)).run nest)
    (.unformatted p.raw (.noFormatter p.name)) willing

def renderPlaceholder (c : Call) (nest : Format → Value → RenderM Unit) (s : Scope)
    (p : Placeholder) : RenderM Unit := do
  let (text, r) ← onBlankPage <|
    match c.resolve s p with
    | .ok v => c.dispatch nest p v
    | .error selector => throw (.unresolved p.raw selector)
  match r with
  | .ok () => modify (·.write (align p.alignment text))
  | .error e => handleFailure c.settings.onFailure p e

def renderPieces (c : Call) (nest : Placeholder → Format → Value → RenderM Unit) (s : Scope) :
    List Piece → RenderM Unit
  | [] => pure ()
  | .literal l :: ps => do
    modify (·.write l.rendered)
    c.renderPieces nest s ps
  | .placeholder p :: ps => do
    c.renderPlaceholder (nest p) s p
    c.renderPieces nest s ps

/-- Renders a format with `levels` levels of nested formats at most. -/
def renderFormat (c : Call) : Nat → Scope → Format → RenderM Unit
  | 0, s, f =>
    c.renderPieces (fun p _ _ => abandon (.tooDeep p.start c.settings.dialect.maxDepth)) s f.pieces
  | levels + 1, s, f =>
    c.renderPieces (fun _ f' v => c.renderFormat levels (s.enter v) f') s f.pieces

end Call

/-- The output of a call and the failures that were replaced in it. -/
structure Rendered where
  output : String
  failures : List Failure

/-- Renders a template. The first argument is the root scope. -/
def Call.render (c : Call) : Except Error Rendered :=
  let root : Scope := { value := c.args.head?.getD .null }
  let (r, d) := (c.renderFormat c.settings.dialect.maxDepth root c.template.format).run.run {}
  r.map fun () => ⟨d.out, d.failures⟩

end Stencil
