import Stencil.Datum

/-!
# Reading typed data

The other way from typed data to a value: the data presents itself piece by piece, and the reader
takes what it can. It takes fewer shapes than conversion does, and keys have to be texts.
-/

namespace Stencil

set_option autoImplicit false

/-- What a reader was ready to take. -/
inductive Wanted where
  | value
  | key

def Wanted.text : Wanted → String
  | value => "any data context value"
  | key => "a string"

inductive Mismatch where
  /-- Data of a shape that is not taken. -/
  | shape (found : Datum) (wanted : Wanted)
  /-- Data of the right shape that is no text. -/
  | content (found : Datum) (wanted : Wanted)
  | complaint (message : String)

namespace Datum

/-- How a message names a piece of data. -/
def shape : Datum → String
  | .bool b => "boolean `" ++ (if b then "true" else "false") ++ "`"
  | .int width n =>
    "integer `" ++ toString n ++ "`" ++
      (if width.bits ≤ 64 then "" else if width.signed then " as i128" else " as u128")
  | .single bits => "floating point `" ++ (Binary64.ofSingle bits).pointText ++ "`"
  | .double x => "floating point `" ++ x.pointText ++ "`"
  | .char c => "character `" ++ c.toString ++ "`"
  | .string s => "string " ++ quotedString s
  | .bytes _ => "byte array"
  | .none | .some _ => "Option value"
  | .unit => "unit value"
  | .newtype _ => "newtype struct"
  | .sequence _ => "sequence"
  | .map _ | .fields _ | .looseMap _ => "map"
  | .unitVariant _ | .newtypeVariant .. | .sequenceVariant .. | .fieldsVariant .. => "enum"
  | .failing message => message

/-- Reads the key of a map. -/
def readKey (d : Datum) : Except Mismatch String :=
  match d with
  | .string s => .ok s
  | .char c => .ok c.toString
  | .bytes bs =>
    match String.fromUTF8? ⟨bs.toArray⟩ with
    | Option.some s => .ok s
    | Option.none => .error (.content d .key)
  | .failing message => .error (.complaint message)
  | _ => .error (.shape d .key)

mutual

/-- Reads typed data as a value. -/
def read : Datum → Except Mismatch Value
  | .bool b => .ok (.bool b)
  | .int _ n => .ok (.ofInt n)
  | .single bits => .ok (.ofDouble (.ofSingle bits))
  | .double x => .ok (.ofDouble x)
  | .char c => .ok (.ofChar c)
  | .string s => .ok (.string s)
  | .none => .ok .null
  | .some d => d.read
  | .unit => .ok .null
  | .sequence items => (readItems items).map .array
  | .map entries => (readMembers [] entries).map .object
  | .fields entries => (readFields [] entries).map .object
  | .failing message => .error (.complaint message)
  | d => .error (.shape d .value)
termination_by structural d => d

def readItems : List Datum → Except Mismatch (List Value)
  | [] => .ok []
  | d :: ds => do
    let v ← d.read
    return v :: (← readItems ds)
termination_by structural ds => ds

def readMembers (ms : Members) : List (Datum × Datum) → Except Mismatch Members
  | [] => .ok ms
  | (k, d) :: es => do
    let key ← k.readKey
    let v ← d.read
    readMembers (Members.insert ms key v) es
termination_by structural es => es

def readFields (ms : Members) : List (String × Datum) → Except Mismatch Members
  | [] => .ok ms
  | (name, d) :: fs => do
    let v ← d.read
    readFields (Members.insert ms name v) fs
termination_by structural fs => fs

end

end Datum

def Mismatch.message : Mismatch → String
  | shape found wanted => "invalid type: " ++ found.shape ++ ", expected " ++ wanted.text
  | content found wanted => "invalid value: " ++ found.shape ++ ", expected " ++ wanted.text
  | complaint message => message

end Stencil
