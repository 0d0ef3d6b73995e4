/-!
# Reading digits

Natural numbers from decimal digits. There is no limit to the digits, only to the value.
-/

namespace Stencil

set_option autoImplicit false

def digitValue (c : Char) : Nat := c.toNat - '0'.toNat

def digitsValue (digits : List Char) : Nat := digits.foldl (fun n c => 10 * n + digitValue c) 0

/-- A number below `limit`: digits, perhaps with a plus sign before them. -/
def unsigned? (limit : Nat) (s : String) : Option Nat :=
  let digits := if s.toList.head? = some '+' then s.toList.drop 1 else s.toList
  if digits ≠ [] ∧ digits.all Char.isDigit ∧ digitsValue digits < limit then
    some (digitsValue digits)
  else none

end Stencil
