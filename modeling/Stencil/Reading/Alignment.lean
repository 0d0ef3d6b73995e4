import Stencil.Reading
import Stencil.Text.Digits

/-!
# Alignments

An alignment is a decimal number, perhaps with a minus sign, of any length; only its value is
limited.
-/

namespace Stencil

set_option autoImplicit false

/-- Whether an alignment is within 32 bits and no wider than the dialect allows. -/
def Dialect.allowsAlignment (d : Dialect) (a : Int) : Bool :=
  Int32.minValue.toInt ≤ a && a ≤ Int32.maxValue.toInt && a.natAbs ≤ d.maxAlignment

/-- Reads the number after the alignment mark. -/
def readAlignmentNumber (d : Dialect) (position : Nat) (cs : List Char) :
    Except Fault (Int × Cursor) :=
  let negative := cs.head? == some '-'
  let afterSign := if negative then cs.drop 1 else cs
  let digits := afterSign.takeWhile Char.isDigit
  let rest := afterSign.dropWhile Char.isDigit
  let digitsStart := if negative then position + 1 else position
  let stop := digitsStart + utf8Width digits
  let value : Int := if negative then -(digitsValue digits : Int) else digitsValue digits
  if digits = [] then .error (.at digitsStart .missingAlignmentDigits)
  else if !d.allowsAlignment value then .error (.at position .alignmentOutOfRange)
  else
    match rest with
    | [] => .error (.at stop .missingClosing)
    | c :: _ =>
      if c == d.formatMark || c == d.closing then .ok (value, ⟨stop, rest⟩)
      else .error (.at stop .charAfterAlignment)

/-- The alignment is 0 where none is written. -/
def readAlignment (d : Dialect) (here : Cursor) : Except Fault (Int × Cursor) :=
  if here.rest.head? = some d.alignmentMark then
    readAlignmentNumber d (here.position + d.alignmentMark.utf8Size) (here.rest.drop 1)
  else .ok (0, here)

end Stencil
