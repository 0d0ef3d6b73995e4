import Stencil.Error
import Stencil.Value.Members

/-!
# Typed data

The shapes that a program's own data can have, as a self-describing stream of them would present
them: integers of many widths, two sizes of floating-point numbers, options, sequences, maps,
structures and variants. Any of it can be taken over as a value.
-/

namespace Stencil

set_option autoImplicit false

structure IntWidth where
  signed : Bool
  bits : Nat

inductive Datum where
  | bool (b : Bool)
  | int (width : IntWidth) (n : Int)
  | single (bits : UInt32)
  | double (x : Binary64)
  | char (c : Char)
  | string (s : String)
  | bytes (bs : List UInt8)
  | none
  | some (d : Datum)
  | unit
  | unitVariant (name : String)
  | newtype (d : Datum)
  | newtypeVariant (name : String) (d : Datum)
  | sequence (items : List Datum)
  | sequenceVariant (name : String) (items : List Datum)
  | map (entries : List (Datum × Datum))
  | fields (entries : List (String × Datum))
  | fieldsVariant (name : String) (entries : List (String × Datum))
  /-- Keys (`true`) and values (`false`) of a map in whatever order they come. -/
  | looseMap (parts : List (Bool × Datum))
  /-- Data that cannot be had, and the complaint. -/
  | failing (message : String)

namespace Datum

/-- An object with the name of a variant as its only key. -/
def tagged (name : String) (v : Value) : Value := .object [(name, v)]

/-- The name of a member, from whatever the key of a map is taken over as. -/
def keyName : Value → Except Error String
  | .string s => .ok s
  | .number n => .ok n.text
  | .bool b => .ok (if b then "true" else "false")
  | .bigInt n => .ok (toString n)
  | v => .error (.unsupported (.key v))

mutual

/-- Takes typed data over as a value. -/
def toValue : Datum → Except Error Value
  | .bool b => .ok (.bool b)
  | .int _ n => .ok (.ofInt n)
  | .single bits => .ok (.ofDouble (.ofSingle bits))
  | .double x => .ok (.ofDouble x)
  | .char c => .ok (.ofChar c)
  | .string s => .ok (.string s)
  | .bytes bs => .ok (.array (bs.map fun b => .ofNat b.toNat))
  | .none => .ok .null
  | .some d => d.toValue
  | .unit => .ok .null
  | .unitVariant name => .ok (.string name)
  | .newtype d => d.toValue
  | .newtypeVariant name d => d.toValue.map (tagged name)
  | .sequence items => (toItems items).map .array
  | .sequenceVariant name items => (toItems items).map fun vs => tagged name (.array vs)
  | .map entries => (toMembers [] entries).map .object
  | .fields entries => (toFields [] entries).map .object
  | .fieldsVariant name entries => (toFields [] entries).map fun ms => tagged name (.object ms)
  | .looseMap parts => (toLooseMembers [] Option.none parts).map .object
  | .failing message => .error (.custom message)
termination_by structural d => d

def toItems : List Datum → Except Error (List Value)
  | [] => .ok []
  | d :: ds => do
    let v ← d.toValue
    return v :: (← toItems ds)
termination_by structural ds => ds

/-- Adds entries one by one to the members so far. -/
def toMembers (ms : Members) : List (Datum × Datum) → Except Error Members
  | [] => .ok ms
  | (k, d) :: es => do
    let key ← keyName (← k.toValue)
    let v ← d.toValue
    toMembers (Members.insert ms key v) es
termination_by structural es => es

def toFields (ms : Members) : List (String × Datum) → Except Error Members
  | [] => .ok ms
  | (name, d) :: fs => do
    let v ← d.toValue
    toFields (Members.insert ms name v) fs
termination_by structural fs => fs

/-- A key waits for the value after it, and another key takes its place; a value needs a key that
waits. -/
def toLooseMembers (ms : Members) (waiting : Option String) :
    List (Bool × Datum) → Except Error Members
  | [] => .ok ms
  | (true, d) :: ps => do
    let key ← keyName (← d.toValue)
    toLooseMembers ms (Option.some key) ps
  | (false, d) :: ps =>
    match waiting with
    | Option.some key => do
      let v ← d.toValue
      toLooseMembers (Members.insert ms key v) Option.none ps
    | Option.none => .error (.custom "serialize_value called without serialize_key")
termination_by structural ps => ps

end

end Datum

end Stencil
