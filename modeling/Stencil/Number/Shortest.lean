import Stencil.Number.Binary64

/-!
# The shortest decimal of a double

Of the decimals that read back as a given double, the one with the fewest digits, and of those the
nearest; between two equally near ones the larger in magnitude. The search walks from coarse grids
of decimals to finer ones and looks at the two neighbours of the value on each, in exact integers.
-/

namespace Stencil

set_option autoImplicit false

/-- The number `coefficient * 10 ^ exponent`. -/
structure Decimal where
  coefficient : Nat
  exponent : Int
deriving DecidableEq

namespace Shortest

/-- A magnitude and the ends of the interval that rounds to it, in units of `2 ^ unit`. -/
structure Interval where
  low : Nat
  value : Nat
  high : Nat
  unit : Int
  /-- Whether the ends themselves round to the magnitude. -/
  closed : Bool

/-- Below a power of two the neighbouring double is only half as far away as above it. -/
def Interval.ofDouble (x : Binary64) : Interval :=
  let value := 4 * x.significand
  { low := value - (if x.fraction = 0 ∧ 1 < x.exponentField then 1 else 2)
    value := value
    high := value + 2
    unit := x.exponent - 2
    closed := x.significand % 2 = 0 }

/-- The multiple of `10 ^ grid` to report, if the interval holds one. -/
def onGrid (i : Interval) (grid : Int) : Option Nat :=
  let scale := Nat.pow 10 (-grid).toNat <<< i.unit.toNat
  let step := Nat.pow 10 grid.toNat <<< (-i.unit).toNat
  let inside (c : Nat) : Bool :=
    if i.closed then i.low * scale ≤ c * step && c * step ≤ i.high * scale
    else i.low * scale < c * step && c * step < i.high * scale
  let below := i.value * scale / step
  let remainder := i.value * scale % step
  match inside below, inside (below + 1) with
  | true, true => some (if 2 * remainder < step then below else below + 1)
  | true, false => some below
  | false, true => some (below + 1)
  | false, false => none

/-- Tries `tries` grids, each ten times finer than the one before. -/
def search (i : Interval) : Nat → Int → Option Decimal
  | 0, _ => none
  | tries + 1, grid =>
    match onGrid i grid with
    | some c => some ⟨c, grid⟩
    | none => search i tries (grid - 1)

/-- A power of ten that exceeds the value, from the length of its binary form. -/
def coarsest (x : Binary64) : Int :=
  ((x.significand.log2 : Int) + x.exponent + 1) * 30103 / 100000 + 1

end Shortest

/-- Nothing for a zero. Seventeen digits always suffice to read back, so the tries do not run out.
-/
def Binary64.shortest? (x : Binary64) : Option Decimal :=
  if x.significand = 0 then none
  else Shortest.search (Shortest.Interval.ofDouble x) 20 (Shortest.coarsest x)

namespace Decimal

def digits (d : Decimal) : List Char := Nat.toDigits 10 d.coefficient

/-- Digits with the point where it belongs and no exponent. -/
def positional (d : Decimal) : List Char :=
  let ds := d.digits
  if 0 ≤ d.exponent then ds ++ List.replicate d.exponent.toNat '0'
  else
    let places := (-d.exponent).toNat
    if places < ds.length then
      ds.take (ds.length - places) ++ ['.'] ++ ds.drop (ds.length - places)
    else ['0', '.'] ++ List.replicate (places - ds.length) '0' ++ ds

/-- The power of ten of the first digit. -/
def magnitude (d : Decimal) : Int := d.digits.length - 1 + d.exponent

/-- One digit before the point, the rest after it, and the power of ten. -/
def scientific (d : Decimal) : List Char :=
  let ds := d.digits
  let rest := ds.drop 1
  ds.take 1 ++ (if rest = [] then [] else '.' :: rest) ++ 'e' :: (toString d.magnitude).toList

end Decimal

namespace Binary64

def sign (x : Binary64) : List Char := if x.isNegative then ['-'] else []

/-- The text of a number in a template: never an exponent, and no point in a whole number. -/
def text (x : Binary64) : String :=
  if x.isNaN then "NaN"
  else if x.isInfinite then String.ofList (x.sign ++ ['i', 'n', 'f'])
  else
    match x.shortest? with
    | some d => String.ofList (x.sign ++ d.positional)
    | none => String.ofList (x.sign ++ ['0'])

def withPoint (cs : List Char) : List Char :=
  if cs.contains '.' then cs else cs ++ ['.', '0']

/-- The text of a finite number that keeps a point even when it is whole. -/
def pointText (x : Binary64) : String :=
  if x.isFinite then String.ofList (withPoint x.text.toList) else x.text

/-- The text of a number in a diagnostic: a point is kept, and from `10 ^ 16` on as well as below
`10 ^ -4` an exponent is used. -/
def diagnosticText (x : Binary64) : String :=
  match x.isFinite, x.shortest? with
  | true, some d =>
    if 16 ≤ d.magnitude ∨ d.magnitude < -4 then String.ofList (x.sign ++ d.scientific)
    else x.pointText
  | _, _ => x.pointText

end Binary64

end Stencil
