import Stencil.Datum

/-!
# Values as typed data

A value presents itself as typed data too. Dates and big integers become text on the way, and a
double that is no number on the line is classified when it is taken over again.
-/

namespace Stencil

set_option autoImplicit false

namespace Value

mutual

def toDatum : Value → Datum
  | .null => .unit
  | .bool b => .bool b
  | .number (.integer n) => .int ⟨true, 64⟩ n.toInt
  | .number n => .double n.toDouble
  | .string s => .string s
  | .array items => .sequence (itemsToData items)
  | .object members => .map (membersToData members)
  | .date t => .string t.text
  | .bigInt n => .string (toString n)
termination_by structural v => v

def itemsToData : List Value → List Datum
  | [] => []
  | v :: vs => v.toDatum :: itemsToData vs
termination_by structural vs => vs

def membersToData : List (String × Value) → List (Datum × Datum)
  | [] => []
  | (k, v) :: ms => (.string k, v.toDatum) :: membersToData ms
termination_by structural ms => ms

end

/-- The value as it is taken over when it presents itself as data. -/
def serialized (v : Value) : Except Error Value := v.toDatum.toValue

end Value

end Stencil
