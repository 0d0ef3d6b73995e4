import Stencil.Text.Alphanumeric
import Stencil.Text.Matching

/-!
# Settings

A dialect says how templates are spelled and how far they may go; the settings add how names are
compared and what becomes of a placeholder that cannot be rendered.
-/

namespace Stencil

set_option autoImplicit false

/-- What takes the place of a part that cannot be used. -/
inductive ErrorAction where
  /-- Nothing does: the whole call fails. -/
  | fail
  | message
  | nothing
  /-- The text of the part as it stands in the template. -/
  | asWritten
deriving DecidableEq

structure Dialect where
  opening : Char := '{'
  closing : Char := '}'
  pathMark : Char := '.'
  alignmentMark : Char := ','
  formatMark : Char := ':'
  optionsOpening : Char := '('
  optionsClosing : Char := ')'
  /-- With an escape character, a brace after it is text and doubled braces are nothing special. -/
  escape : Option Char := none
  /-- Accepted in selectors besides letters, numbers and `_`. -/
  selectorExtras : List Char := []
  /-- Whether a backslash in literal text begins a character literal. -/
  charLiterals : Bool := false
  onMalformed : ErrorAction := .fail
  maxDepth : Nat := 64
  maxAlignment : Nat := 4096
  /-- Without a list of names, every name is taken for the name of a formatter. -/
  formatterNames : Option (List String) := none
deriving DecidableEq

namespace Dialect

def isBrace (d : Dialect) (c : Char) : Bool := c == d.opening || c == d.closing

/-- Whether a brace is written by doubling it. -/
def doubles (d : Dialect) : Bool := d.escape.isNone

def isSelectorChar (d : Dialect) (c : Char) : Bool :=
  isAlphanumeric c || c == '_' || d.selectorExtras.contains c

/-- Whether a selector path may end before `c`. -/
def endsPath (d : Dialect) (c : Char) : Bool :=
  c == d.alignmentMark || c == d.formatMark || c == d.closing

/-- Case does not matter here; which formatter answers to the name is settled when rendering. -/
def acceptsName (d : Dialect) (name : String) : Bool :=
  match d.formatterNames with
  | none => true
  | some names => names.any (CaseSensitivity.insensitive.agrees · name)

/-- Whether malformed parts are replaced rather than failing the whole template. -/
def recovers (d : Dialect) : Bool := d.onMalformed ≠ .fail

end Dialect

/-- The characters of a formatter name. -/
def isNameChar (c : Char) : Bool := isAlphanumeric c || c == '_'

structure Settings where
  dialect : Dialect := {}
  caseSensitivity : CaseSensitivity := .sensitive
  onFailure : ErrorAction := .fail
deriving DecidableEq

end Stencil
