import Stencil.Value
import Stencil.Text.Quoted

/-!
# Values in diagnostics

A message that complains about a value shows its structure: the kind at every level, and texts
between quotes.
-/

namespace Stencil

set_option autoImplicit false

def Number.diagnostic : Number → String
  | .integer n => "Integer(" ++ toString n.toInt ++ ")"
  | .float x => "Float(" ++ x.diagnosticText ++ ")"
  | .infinity => "Infinity"
  | .negInfinity => "NegativeInfinity"
  | .nan => "NaN"

namespace Value

mutual

def diagnostic : Value → String
  | .null => "Null"
  | .bool b => "Bool(" ++ (if b then "true" else "false") ++ ")"
  | .number n => "Number(" ++ n.diagnostic ++ ")"
  | .string s => "String(" ++ quotedString s ++ ")"
  | .array items => "Array([" ++ itemsDiagnostic items ++ "])"
  | .object members => "Object(ValueMap(\x7b" ++ membersDiagnostic members ++ "\x7d))"
  | .date t => "Date(" ++ t.textInZone "Z" ++ ")"
  | .bigInt n => "BigInt(" ++ toString n ++ ")"
termination_by structural v => v

def itemsDiagnostic : List Value → String
  | [] => ""
  | [v] => v.diagnostic
  | v :: vs => v.diagnostic ++ ", " ++ itemsDiagnostic vs
termination_by structural vs => vs

def membersDiagnostic : List (String × Value) → String
  | [] => ""
  | [(k, v)] => quotedString k ++ ": " ++ v.diagnostic
  | (k, v) :: ms => quotedString k ++ ": " ++ v.diagnostic ++ ", " ++ membersDiagnostic ms
termination_by structural ms => ms

end

end Value

end Stencil
