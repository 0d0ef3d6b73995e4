/-!
# Character literals

A backslash and what follows it may stand for one character: `\n` for a line break, `\u00A9` for a
copyright sign, `\{` for a brace. The extent of a sequence depends on its spelling alone; whether it
means anything is a second question, and one that means nothing is kept as written.
-/

namespace Stencil

set_option autoImplicit false

def escapeMark : Char := '\\'

def isHexDigit (c : Char) : Bool :=
  c.isDigit || ('a' ≤ c && c ≤ 'f') || ('A' ≤ c && c ≤ 'F')

def hexDigitValue (c : Char) : Nat :=
  if c.isDigit then c.toNat - '0'.toNat
  else if c.toNat < 'a'.toNat then c.toNat - 'A'.toNat + 10
  else c.toNat - 'a'.toNat + 10

namespace CharLiteral

/-- How many of the characters after a backslash belong to its sequence. -/
def extent : List Char → Nat
  | [] => 0
  | c :: cs => if c = 'u' then 1 + ((cs.take 4).takeWhile isHexDigit).length else 1

def ofHex (digits : List Char) : Option Char :=
  let n := digits.foldl (fun n c => 16 * n + hexDigitValue c) 0
  if digits.length = 4 ∧ n.isValidChar then some (Char.ofNat n) else none

def single (c : Char) : Option Char :=
  match c with
  | 'n' => some '\n'
  | 't' => some '\t'
  | 'r' => some '\r'
  | '0' => some '\x00'
  | 'a' => some '\x07'
  | 'b' => some '\x08'
  | 'f' => some '\x0c'
  | 'v' => some '\x0b'
  | '\\' | '\'' | '"' | '{' | '}' => some c
  | _ => none

/-- The delimiters that may be escaped inside the options of a placeholder. -/
def isOptionMark (c : Char) : Bool :=
  ['(', ')', '{', '}', ':', ',', '|'].contains c

/-- The character that a backslash followed by `body` stands for. -/
def meaning (inOptions : Bool) : List Char → Option Char
  | [] => none
  | c :: digits =>
    if c = 'u' then ofHex digits
    else (single c).or (if inOptions && isOptionMark c then some c else none)

/-- What a backslash followed by `body` is replaced by. -/
def replacement (inOptions : Bool) (body : List Char) : List Char :=
  match meaning inOptions body with
  | some c => [c]
  | none => escapeMark :: body

/-- Replaces every sequence after the first `skip` characters, which belong to a sequence already
dealt with. -/
def unescapeAfter (inOptions : Bool) : Nat → List Char → List Char
  | _, [] => []
  | skip + 1, _ :: cs => unescapeAfter inOptions skip cs
  | 0, c :: cs =>
    if c = escapeMark then
      let n := extent cs
      replacement inOptions (cs.take n) ++ unescapeAfter inOptions n cs
    else c :: unescapeAfter inOptions 0 cs

theorem unescapeAfter_eq_drop (inOptions : Bool) (skip : Nat) (cs : List Char) :
    unescapeAfter inOptions skip cs = unescapeAfter inOptions 0 (cs.drop skip) := by
  induction cs generalizing skip with
  | nil => simp [unescapeAfter]
  | cons c cs ih =>
    cases skip with
    | zero => rfl
    | succ n => simp only [unescapeAfter, List.drop_succ_cons, ih n]

end CharLiteral

/-- Replaces the character literals of a text; inside options the delimiters may be escaped too. -/
def unescape (inOptions : Bool) (s : String) : String :=
  String.ofList (CharLiteral.unescapeAfter inOptions 0 s.toList)

end Stencil
