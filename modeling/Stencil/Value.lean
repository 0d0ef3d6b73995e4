import Stencil.Number
import Stencil.Instant

/-!
# Values

The data that a template is rendered against. The members of an object are a list of pairs in the
order of their first insertion, each key once.
-/

namespace Stencil

set_option autoImplicit false

inductive Value where
  | null
  | bool (b : Bool)
  | number (n : Number)
  | string (s : String)
  | array (items : List Value)
  | object (members : List (String × Value))
  | date (t : Instant)
  | bigInt (n : Int)

namespace Value

/-- An integer of any size: a number if 64 bits hold it. -/
def ofInt (n : Int) : Value :=
  if Int64.minValue.toInt ≤ n ∧ n ≤ Int64.maxValue.toInt then .number (.integer (Int64.ofInt n))
  else .bigInt n

def ofNat (n : Nat) : Value := ofInt n

def ofDouble (x : Binary64) : Value := .number (.ofDouble x)

def ofChar (c : Char) : Value := .string c.toString

def isNull : Value → Bool
  | .null => true
  | _ => false

def isBool : Value → Bool
  | .bool _ => true
  | _ => false

def isNumber : Value → Bool
  | .number _ => true
  | _ => false

def isString : Value → Bool
  | .string _ => true
  | _ => false

def isArray : Value → Bool
  | .array _ => true
  | _ => false

def isObject : Value → Bool
  | .object _ => true
  | _ => false

def isDate : Value → Bool
  | .date _ => true
  | _ => false

def toBool? : Value → Option Bool
  | .bool b => some b
  | _ => none

def toString? : Value → Option String
  | .string s => some s
  | _ => none

def toNumber? : Value → Option Number
  | .number n => some n
  | _ => none

def toInt64? (v : Value) : Option Int64 := v.toNumber?.bind Number.toInt64?

def toList? : Value → Option (List Value)
  | .array items => some items
  | _ => none

def members? : Value → Option (List (String × Value))
  | .object members => some members
  | _ => none

def toInstant? : Value → Option Instant
  | .date t => some t
  | _ => none

def toBigInt? : Value → Option Int
  | .bigInt n => some n
  | _ => none

/-- False for what is null, false, zero, the classified NaN or empty. -/
def truthy : Value → Bool
  | .null => false
  | .bool b => b
  | .number .nan => false
  | .number n => !n.toDouble.isZero
  | .string s => !s.isEmpty
  | .array items => !items.isEmpty
  | .object members => !members.isEmpty
  | .date _ => true
  | .bigInt n => n ≠ 0

mutual

/-- What a value looks like in the output. -/
def text : Value → String
  | .null => ""
  | .bool b => if b then "true" else "false"
  | .number n => n.text
  | .string s => s
  | .array items => itemsText items
  | .object members => "\x7b" ++ membersText members ++ "\x7d"
  | .date t => t.text
  | .bigInt n => toString n
termination_by structural v => v

def itemsText : List Value → String
  | [] => ""
  | [v] => v.text
  | v :: vs => v.text ++ ", " ++ itemsText vs
termination_by structural vs => vs

def membersText : List (String × Value) → String
  | [] => ""
  | [(k, v)] => k ++ ": " ++ v.text
  | (k, v) :: ms => k ++ ": " ++ v.text ++ ", " ++ membersText ms
termination_by structural ms => ms

end

end Value

end Stencil
