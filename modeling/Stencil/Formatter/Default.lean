import Stencil.Formatter
import Stencil.Instant.Pattern

/-!
# The default formatter

It writes the text of the value, or renders the nested format with the value as its scope. The
nested format of a date, if it is all literal text, is a date pattern.
-/

namespace Stencil

set_option autoImplicit false

namespace Formatter

/-- What the literals of a format are rendered as. -/
def literalText (f : Format) : String :=
  String.join <| f.pieces.map fun
    | .literal l => l.rendered
    | .placeholder _ => ""

def writeDate (r : Request) (t : Instant) (f : Format) : Script Bool :=
  match t.format? (literalText f) with
  | some text => do
    Script.put text
    return true
  | none => .fail (r.unformatted (.datePattern (literalText f)))

def writeValue (v : Value) : Script Bool := do
  Script.put v.text
  return true

def default : Formatter where
  names := ["default", "d", ""]
  format r :=
    match r.format? with
    | none => writeValue r.value
    | some f =>
      if f.items.isEmpty then writeValue r.value
      else
        match r.value, f.isLiteral with
        | .date t, true => writeDate r t f
        | v, _ => do
          Script.render f v
          return true

end Formatter

end Stencil
