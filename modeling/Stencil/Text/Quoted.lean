import Stencil.Text.Printable

/-!
# Quoted text

A diagnostic shows a text between quotes, with everything unreadable in it escaped: the quote
itself, the backslash, the usual controls by a letter, and by code point whatever is not printable
or would attach itself to the quote before it.
-/

namespace Stencil

set_option autoImplicit false

def escapeByCodePoint (c : Char) : List Char :=
  ['\\', 'u', '{'] ++ Nat.toDigits 16 c.toNat ++ ['}']

def quotedChar (quote c : Char) : List Char :=
  if c = '\x00' then ['\\', '0']
  else if c = '\t' then ['\\', 't']
  else if c = '\r' then ['\\', 'r']
  else if c = '\n' then ['\\', 'n']
  else if c = '\\' ∨ c = quote then ['\\', c]
  else if isAttached c then escapeByCodePoint c
  else if isPrintable c then [c]
  else escapeByCodePoint c

def quotedString (s : String) : String :=
  String.ofList (['"'] ++ s.toList.flatMap (quotedChar '"') ++ ['"'])

def quotedLetter (c : Char) : String :=
  String.ofList (['\''] ++ quotedChar '\'' c ++ ['\''])

end Stencil
