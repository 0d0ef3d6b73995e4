/-!
# Double-precision numbers

A double is its 64 bits: a sign, eleven bits of exponent and 52 of fraction. All of its meaning is
read off these fields with exact integers, so nothing here depends on the floating-point unit.
-/

namespace Stencil

set_option autoImplicit false

structure Binary64 where
  bits : UInt64
deriving DecidableEq

namespace Binary64

def isNegative (x : Binary64) : Bool := x.bits.toNat.testBit 63

def exponentField (x : Binary64) : Nat := (x.bits.toNat >>> 52) % 2048

def fraction (x : Binary64) : Nat := x.bits.toNat % (1 <<< 52)

def isFinite (x : Binary64) : Bool := x.exponentField ≠ 2047

def isNaN (x : Binary64) : Bool := !x.isFinite && x.fraction ≠ 0

def isInfinite (x : Binary64) : Bool := !x.isFinite && x.fraction = 0

/-- The magnitude of a finite double is `significand * 2 ^ exponent`. -/
def significand (x : Binary64) : Nat :=
  if x.exponentField = 0 then x.fraction else (1 <<< 52) + x.fraction

def exponent (x : Binary64) : Int :=
  if x.exponentField = 0 then -1074 else (x.exponentField : Int) - 1075

def isZero (x : Binary64) : Bool := x.isFinite && x.significand = 0

def ofFields (negative : Bool) (exponentField fraction : Nat) : Binary64 :=
  ⟨UInt64.ofNat ((if negative then 1 <<< 63 else 0) + (exponentField <<< 52) + fraction)⟩

def nan : Binary64 := ofFields false 2047 (1 <<< 51)

def infinity : Binary64 := ofFields false 2047 0

def negInfinity : Binary64 := ofFields true 2047 0

/-- The exact value, of a finite double. -/
def toRat (x : Binary64) : Rat :=
  let magnitude : Rat :=
    if 0 ≤ x.exponent then ((x.significand <<< x.exponent.toNat : Nat) : Rat)
    else mkRat x.significand (1 <<< (-x.exponent).toNat)
  if x.isNegative then -magnitude else magnitude

/-- The value, if it is finite and whole. -/
def toInt? (x : Binary64) : Option Int :=
  if x.isFinite ∧ x.toRat.den = 1 then some x.toRat.num else none

/-- Equality of values: the zeros are equal whatever their signs, and a NaN equals nothing. -/
def sameValue (x y : Binary64) : Bool :=
  !x.isNaN && !y.isNaN && (x == y || (x.isZero && y.isZero))

/-- The double with the magnitude `m * 2 ^ e`, for `m` of exactly 53 bits. -/
def ofNormal (negative : Bool) (m : Nat) (e : Int) : Binary64 :=
  ofFields negative (e + 1075).toNat (m - (1 <<< 52))

/-- `n / 2 ^ k` to the nearest whole number, a half to the even one. -/
def roundShift (n k : Nat) : Nat :=
  let q := n >>> k
  let twice := 2 * (n % (1 <<< k))
  if 1 <<< k < twice ∨ (twice = 1 <<< k ∧ q % 2 = 1) then q + 1 else q

/-- The nearest double to a natural number below `2 ^ 1000`. -/
def ofMagnitude (negative : Bool) (n : Nat) : Binary64 :=
  if n = 0 then ofFields negative 0 0
  else if n.log2 ≤ 52 then ofNormal negative (n <<< (52 - n.log2)) ((n.log2 : Int) - 52)
  else
    let shift := n.log2 - 52
    let m := roundShift n shift
    if m = 1 <<< 53 then ofNormal negative (1 <<< 52) (shift + 1) else ofNormal negative m shift

/-- The value of the nearest double to a natural number that is not too large for one. -/
def roundNat (n : Nat) : Nat :=
  let shift := n.log2 - 52
  roundShift n shift <<< shift

/-- The nearest double to a 64-bit integer. -/
def ofInt64 (n : Int64) : Binary64 := ofMagnitude (n.toInt < 0) n.toInt.natAbs

/-- The double with the value of a single-precision number, given by its 32 bits. -/
def ofSingle (bits : UInt32) : Binary64 :=
  let negative := bits.toNat.testBit 31
  let exponent := (bits.toNat >>> 23) % 256
  let fraction := bits.toNat % (1 <<< 23)
  if exponent = 255 then ofFields negative 2047 (fraction <<< 29)
  else if exponent ≠ 0 then ofFields negative (exponent + 896) (fraction <<< 29)
  else if fraction = 0 then ofFields negative 0 0
  else ofNormal negative (fraction <<< (52 - fraction.log2)) ((fraction.log2 : Int) - 201)

end Binary64

end Stencil
