import Stencil.Settings
import Stencil.Text.Digits
import Stencil.Value.Members

/-!
# Sources

A source finds the value that a selector names within another value, or passes. The two sources here
read the arguments of a call by number and the members of values.
-/

namespace Stencil

set_option autoImplicit false

/-- What a source is asked: a selector of a path, the value to look in, and the call it belongs
to. -/
structure Query where
  current : Value
  selector : String
  /-- The place of the selector in its path. -/
  index : Nat
  /-- Whether `current` is the outermost scope. -/
  atRoot : Bool
  args : List Value
  caseSensitivity : CaseSensitivity

def Query.agrees (q : Query) (name : String) : Bool := q.caseSensitivity.agrees name q.selector

structure Source where
  resolve : Query → Option Value

/-- A selector as a number to count by. -/
def index? (selector : String) : Option Nat := unsigned? UInt64.size selector

namespace Source

/-- The arguments of the call, by number; in the outermost scope only. -/
def argument : Source where
  resolve q := if q.atRoot then (index? q.selector).bind (q.args[·]?) else none

def size? : Value → Option Nat
  | .array items => some items.length
  | .object members => some members.length
  | .string s => some s.length
  | _ => none

/-- A member of an object by name, an item of an array or a character of a text by number. -/
def member? (q : Query) : Option Value :=
  match q.current with
  | .object members =>
    match q.caseSensitivity with
    | .insensitive => Members.getIgnoringCase? members q.selector
    | .sensitive => Members.get? members q.selector
  | .array items => (index? q.selector).bind (items[·]?)
  | .string s => ((index? q.selector).bind (s.toList[·]?)).map Value.ofChar
  | _ => none

/-- Members, and the size of whatever has members; a member of that name comes first. -/
def member : Source where
  resolve q := (member? q).or <|
    if q.agrees "Count" || q.agrees "Length" then (size? q.current).map Value.ofNat else none

end Source

end Stencil
