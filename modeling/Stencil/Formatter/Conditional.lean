import Stencil.Formatter

/-!
# Conditionals

The value picks one section of the nested format. Numbers are sorted into as many classes as there
are sections: one and other; up to zero, up to one and more; the same with the negative ones
apart; from five sections on a number counts them.
-/

namespace Stencil

set_option autoImplicit false

namespace Formatter

/-- Of five sections or more: the whole part of the number, the last section for what is negative or
too large. The number of the last one is rounded to a double before it is compared. -/
def countedSection (n : Extended) (last : Nat) : Nat :=
  match n with
  | .negInfinity => last
  | .infinity => Binary64.roundNat last
  | .finite q => if q < 0 then last else min q.floor.toNat (Binary64.roundNat last)

def numberSection (n : Extended) (count : Nat) : Nat :=
  match count with
  | 2 => if n.eq 1 then 0 else 1
  | 3 => if n.le 0 then 0 else if n.le 1 then 1 else 2
  | 4 => if n.lt 0 then 0 else if n.eq 0 then 1 else if n.le 1 then 2 else 3
  | _ => countedSection n (count - 1)

def signOf (n : Int) : Extended :=
  if n < 0 then .negInfinity else if n = 0 then .finite 0 else .infinity

/-- The section for a value, before it is limited to the sections there are. A double that is no
number compares like one above all others. -/
def wantedSection (now : Instant) (v : Value) (count : Nat) : Nat :=
  match v with
  | .null | .number .nan => count - 1
  | .number n => numberSection ((Extended.ofDouble? n.toDouble).getD .infinity) count
  | .bigInt n => numberSection (signOf n) count
  | .bool b => if b then 0 else 1
  | .string s => if s.isEmpty then 1 else 0
  | .array items => if items.isEmpty then 1 else 0
  | .date t => if t.isAfter now then 1 else 0
  | .object _ => 0

def chosenSection (now : Instant) (v : Value) (count : Nat) : Nat :=
  min (wantedSection now v count) (count - 1)

/-- Where no formatter is named it takes a format with two sections or more. A single section is
rendered for truthy values. -/
def conditional : Formatter where
  names := ["conditional", "cond", ""]
  format r :=
    match r.format? with
    | none => return false
    | some f =>
      let s := f.split sectionMark
      if r.name = "" ∧ s.count < 2 then return false
      else if s.count = 1 then do
        if r.value.truthy then Script.render s.first r.value
        return true
      else do
        Script.render (s.pick (chosenSection r.now r.value s.count)) r.value
        return true

end Formatter

end Stencil
