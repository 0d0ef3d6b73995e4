import Stencil.Settings
import Stencil.Text.Escape

/-!
# Formatter options

Options end at the closing delimiter that matches the one before them. A character after a
backslash is no delimiter.
-/

namespace Stencil

set_option autoImplicit false

/-- The options and the text after their closing delimiter, if there is one. -/
def readOptions (d : Dialect) (escaped : Bool) (depth : Nat) :
    List Char → Option (List Char × List Char)
  | [] => none
  | c :: cs =>
    let withC (r : Option (List Char × List Char)) := r.map fun (options, rest) =>
      (c :: options, rest)
    if escaped then withC (readOptions d false depth cs)
    else if c == escapeMark then withC (readOptions d true depth cs)
    else if c == d.optionsOpening then withC (readOptions d false (depth + 1) cs)
    else if c == d.optionsClosing then
      match depth with
      | 0 => some ([], cs)
      | outer + 1 => withC (readOptions d false outer cs)
    else withC (readOptions d false depth cs)

end Stencil
