import Stencil.Settings
import Stencil.Text.Escape

/-!
# Malformed regions

What is put aside in place of a malformed placeholder: the text from its opening brace to the
brace that closes it, found by counting braces. Without such a brace it is the rest of the
template.
-/

namespace Stencil

set_option autoImplicit false

/-- Whether `c` makes the brace after it plain text. -/
def Dialect.escapesBrace (d : Dialect) (c : Char) (next : Option Char) : Bool :=
  (d.escape == some c || d.charLiterals && c == escapeMark) && next.any d.isBrace

def regionFrom (d : Dialect) (escaped : Bool) (depth : Nat) : List Char → List Char
  | [] => []
  | c :: cs =>
    if escaped then c :: regionFrom d false depth cs
    else if d.escapesBrace c cs.head? then c :: regionFrom d true depth cs
    else if c == d.opening then c :: regionFrom d false (depth + 1) cs
    else if c == d.closing then
      if depth ≤ 1 then [c] else c :: regionFrom d false (depth - 1) cs
    else c :: regionFrom d false depth cs

/-- The region that begins with the first of the characters. -/
def region (d : Dialect) (cs : List Char) : List Char := regionFrom d false 0 cs

theorem regionFrom_prefix (d : Dialect) (escaped : Bool) (depth : Nat) (cs : List Char) :
    regionFrom d escaped depth cs <+: cs := by
  fun_induction regionFrom d escaped depth cs <;> simp_all

end Stencil
