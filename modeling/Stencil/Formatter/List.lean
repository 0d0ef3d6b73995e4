import Stencil.Formatter

/-!
# Lists

Every item of an array is rendered through the first section of the nested format, and between
items the sections after it serve as spacers: the usual one, the one before the last item, and the
one between the items of a pair. A spacer that is missing is the one before it.
-/

namespace Stencil

set_option autoImplicit false

namespace Formatter

/-- The spacer before item `i` of `count`, if `i` is not the first. -/
def spacer (s : Sections) (count i : Nat) : Option Format :=
  let usual := s.later[0]?
  let last := (s.later[1]?).or usual
  let pair := (s.later[2]?).or last
  if i = 0 then none
  else if count = 2 then pair
  else if i + 1 = count then last
  else usual

/-- Renders items `i`, `i + 1`, … of `count`. -/
def renderItems (s : Sections) (count : Nat) : Nat → List Value → Script Unit
  | _, [] => pure ()
  | i, v :: vs => do
    match spacer s count i with
    | some f => Script.render f v
    | none => pure ()
    Script.render s.first v
    renderItems s count (i + 1) vs

/-- Where no formatter is named it takes an array with two sections or more. -/
def list : Formatter where
  names := ["list", "l", ""]
  format r :=
    match r.value, r.format? with
    | .array items, some f =>
      let s := f.split sectionMark
      if r.name = "" ∧ s.count < 2 then return false
      else do
        renderItems s items.length 0 items
        return true
    | _, _ => return false

end Formatter

end Stencil
