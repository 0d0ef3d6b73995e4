import Stencil.Number.Shortest

/-!
# Numbers

A number of a data context is a 64-bit integer, a double, or one of the three values that a computed
double is classified as when it is no number on the line. A double taken over as it stands may still
hold such a value; it is then written differently.
-/

namespace Stencil

set_option autoImplicit false

inductive Number where
  | integer (n : Int64)
  | float (x : Binary64)
  | infinity
  | negInfinity
  | nan

namespace Number

def ofDouble (x : Binary64) : Number :=
  if x.isNaN then .nan
  else if x.isInfinite then if x.isNegative then .negInfinity else .infinity
  else .float x

def toDouble : Number → Binary64
  | .integer n => .ofInt64 n
  | .float x => x
  | .infinity => .infinity
  | .negInfinity => .negInfinity
  | .nan => .nan

def isInteger : Number → Bool
  | .integer _ => true
  | _ => false

def isSpecial : Number → Bool
  | .infinity | .negInfinity | .nan => true
  | _ => false

/-- The integer a number holds. The doubles range up to and including `2 ^ 63`, which is taken for
the largest integer. -/
def toInt64? : Number → Option Int64
  | .integer n => some n
  | .float x =>
    match x.toInt? with
    | some n =>
      if Int64.minValue.toInt ≤ n ∧ n ≤ Int64.maxValue.toInt + 1 then
        some (Int64.ofInt (min n Int64.maxValue.toInt))
      else none
    | none => none
  | _ => none

/-- Numbers of different kinds are never the same, and a double NaN is not the same as itself. -/
def same : Number → Number → Bool
  | .integer m, .integer n => m == n
  | .float x, .float y => x.sameValue y
  | .infinity, .infinity | .negInfinity, .negInfinity | .nan, .nan => true
  | _, _ => false

def text : Number → String
  | .integer n => toString n.toInt
  | .float x => x.text
  | .infinity => "Infinity"
  | .negInfinity => "-Infinity"
  | .nan => "NaN"

end Number

/-- A number as a place on the line that includes both ends. -/
inductive Extended where
  | negInfinity
  | finite (q : Rat)
  | infinity

namespace Extended

/-- A NaN has no place on the line. -/
def ofDouble? (x : Binary64) : Option Extended :=
  if x.isNaN then none
  else if x.isInfinite then some (if x.isNegative then .negInfinity else .infinity)
  else some (.finite x.toRat)

def lt (a : Extended) (n : Rat) : Bool :=
  match a with
  | .negInfinity => true
  | .finite q => q < n
  | .infinity => false

def le (a : Extended) (n : Rat) : Bool :=
  match a with
  | .negInfinity => true
  | .finite q => q ≤ n
  | .infinity => false

def eq (a : Extended) (n : Rat) : Bool :=
  match a with
  | .finite q => q == n
  | _ => false

end Extended

end Stencil
