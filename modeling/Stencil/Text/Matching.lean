import Stencil.Text.Lowercase

/-!
# Comparing names

Names are compared exactly or without regard to case. Without regard to case two names agree when
their lower-case forms do; names of ASCII letters are compared letter by letter first.
-/

namespace Stencil

set_option autoImplicit false

inductive CaseSensitivity where
  | sensitive
  | insensitive
deriving DecidableEq

def lowercased (s : String) : List Char := lowercase s.toList

/-- Equality up to the case of ASCII letters. -/
def equalAsciiCase (a b : String) : Bool :=
  a.toList.map Char.toLower == b.toList.map Char.toLower

namespace CaseSensitivity

def agrees (s : CaseSensitivity) (a b : String) : Bool :=
  match s with
  | sensitive => a == b
  | insensitive => equalAsciiCase a b || lowercased a == lowercased b

end CaseSensitivity

end Stencil
