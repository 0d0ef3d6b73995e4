import Stencil.Engine

/-!
# Sample extensions

Sources and formatters that a user of the library might write, small enough to be read at a
glance. Some of the formatters misbehave on purpose: they fail, decline after having written, or
carry on after an error.
-/

namespace Stencil

set_option autoImplicit false

def upperCased (s : String) : String := s.map Char.toUpper

namespace Source

/-- `Upper` of a text is the text in capitals. -/
def upper : Source where
  resolve q :=
    match q.current with
    | .string s => if q.agrees "Upper" then some (.string (upperCased s)) else none
    | _ => none

/-- A selector that begins with `G` names a member of the last argument. -/
def global : Source where
  resolve q :=
    match q.selector.toList, q.args.getLast? with
    | 'G' :: name, some (.object members) => Members.get? members (String.ofList name)
    | _, _ => none

def own : Source where
  resolve q := if q.selector = "own" then some q.current else none

/-- `_info` is a text about the query. -/
def info : Source where
  resolve q :=
    if q.selector = "_info" then
      some (.string ("i" ++ toString q.index ++ " root=" ++ describeFlag q.atRoot ++
        " args=" ++ toString q.args.length ++
        " nocase=" ++ describeFlag (q.caseSensitivity = .insensitive) ++
        " cur=" ++ q.current.text))
    else none
where
  describeFlag (b : Bool) : String := if b then "true" else "false"

end Source

/-- Renders the nested format, if there is one, and hands on whether it failed. -/
def Request.tryNested (r : Request) : Script (Except Error Unit) :=
  match r.format? with
  | some f => Script.tryRender f r.value
  | none => return .ok ()

/-- Renders the nested format, if there is one, and fails as it does. -/
def Request.nested (r : Request) : Script Unit :=
  match r.format? with
  | some f => Script.render f r.value
  | none => return ()

namespace Formatter

def failing : Formatter where
  names := [""]
  format _ := .fail (.custom "ERROR!")

/-- Writes before it declines numbers. -/
def partialOutput : Formatter where
  names := ["", "partial"]
  format r := do
    Script.put "partial output"
    return !r.value.isNumber

/-- Renders and then declines. -/
def decline : Formatter where
  names := ["", "decline"]
  format r := do
    r.nested
    return false

/-- Takes a failure for a success. -/
def swallow : Formatter where
  names := ["swallow"]
  format r := do
    match ← r.tryNested with
    | .ok () => Script.put "."
    | .error _ => Script.put "!"
    return true

/-- Declines where the nested format fails. -/
def fallback : Formatter where
  names := ["fallback", "swallow"]
  format r := do
    match ← r.tryNested with
    | .ok () => return true
    | .error _ => return false

/-- Renders, forgets any failure and declines. -/
def soft : Formatter where
  names := ["soft", "shout", "probe", "choose"]
  format r := do
    let _ ← r.tryNested
    return false

/-- Renders the whole template within itself. -/
def recurse : Formatter where
  names := ["recurse"]
  format r := do
    Script.put "<"
    Script.render r.template.format r.value
    return true

/-- The nested format, or else the text of the value. -/
def once (r : Request) : Script Unit :=
  match r.format? with
  | some f => Script.render f r.value
  | none => Script.put r.value.text

def times (r : Request) : Nat → Script Unit
  | 0 => return ()
  | 1 => once r
  | n + 1 => do
    once r
    Script.put " "
    times r n

/-- Repeats as often as the options say. -/
def repeated : Formatter where
  names := ["repeat"]
  format r :=
    match unsigned? 256 r.placeholder.optionsText with
    | none => return false
    | some n => do
      times r n
      return true

def shout : Formatter where
  names := ["shout", "Größe"]
  format r := do
    Script.put (upperCased r.value.text)
    return true

/-- Writes what it was given. -/
def probe : Formatter where
  names := ["probe"]
  format r := do
    let failures ← Script.failureCount
    let cached := match r.cached with
      | some n => toString n
      | none => "none"
    let nocase := if r.settings.caseSensitivity = .insensitive then "true" else "false"
    Script.put ("name=" ++ r.name ++ " opts=" ++ r.placeholder.optionsText ++
      " align=" ++ toString r.placeholder.alignment ++ " raw=" ++ r.placeholder.raw ++
      " failures=" ++ toString failures ++ " args=" ++ toString r.args.length ++
      " root=" ++ r.template.raw ++ " cached=" ++ cached ++ " nocase=" ++ nocase ++
      " names=" ++ toString ((r.dialect.formatterNames.map List.length).getD 0))
    return true

/-- The error that the options name. -/
def raisedError (r : Request) : Error :=
  let raw := r.placeholder.raw
  match r.placeholder.optionsText with
  | "formatting" => .unformatted raw (.other "raised")
  | "resolution" => .unresolved raw "sel"
  | "nesting" => .tooDeep 3 9
  | "io" => .io "disk"
  | "unsupported" => .unsupported (.other "thing")
  | "parsing" => .ofIssue raw ⟨1, .other "raised"⟩
  | other => .custom other

/-- Writes and then fails. -/
def raise : Formatter where
  names := ["raise"]
  format r := do
    Script.put "lost"
    .fail (raisedError r)

end Formatter

end Stencil
