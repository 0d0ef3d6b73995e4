import Stencil.Datum
import Stencil.Engine

/-!
# One call

Templates rendered with the sources and formatters of the library, without a cache, in one call:
against arguments, or against typed data that is taken over as the only argument.
-/

namespace Stencil

set_option autoImplicit false

namespace Standard

/-- Renders a template against arguments, the first of which is the root scope. -/
def format (now : Instant) (settings : Settings) (text : String) (args : List Value) :
    Except Error String :=
  let e := (Engine.standard now).changeSettings fun _ => settings
  (e.format none text args).1.map Rendered.output

/-- Renders a template against typed data. Data that cannot be taken over is found out before the
template is read. -/
def formatData (now : Instant) (text : String) (d : Datum) : Except Error String := do
  let v ← d.toValue
  format now {} text [v]

end Standard

end Stencil
