import Stencil.Settings
import Stencil.Text.Escape
import Stencil.Text.Width

/-!
# Templates

A template is read into a tree: pieces of literal text and placeholders in turn, and a placeholder
may hold a format of its own. Every piece keeps the text it was read from, the ones that stand for
nothing included, so the pieces of a format laid end to end are its text.
-/

namespace Stencil

set_option autoImplicit false

/-- Why a stretch of text is kept in the tree but stands for nothing. -/
inductive Elision where
  /-- The escape in front of a brace. -/
  | escapeMark
  /-- The second brace of a doubled pair. -/
  | doubledBrace
  | malformed

inductive LiteralKind where
  /-- The text itself. -/
  | text
  | charLiteral
  /-- A message in the place of a malformed part. -/
  | diagnostic (message : String)
  | elided (why : Elision)

structure Literal where
  start : Nat
  raw : String
  kind : LiteralKind

/-- A stretch of the template: the bytes at which it begins and ends, and what is written there. -/
structure Excerpt where
  start : Nat
  stop : Nat
  text : String
deriving DecidableEq

/-- What is written from byte `start` on. -/
def Excerpt.ofList (start : Nat) (cs : List Char) : Excerpt where
  start := start
  stop := start + utf8Width cs
  text := String.ofList cs

@[simp] theorem Excerpt.text_ofList (start : Nat) (cs : List Char) :
    (Excerpt.ofList start cs).text = String.ofList cs := rfl

/-- One name of a path. -/
structure Selector where
  /-- The number of the selector in its path, from 0. -/
  index : Nat
  /-- Where the mark before the selector begins or, if there is none, the selector itself. -/
  markStart : Nat
  start : Nat
  stop : Nat
  /-- Empty before the first selector. -/
  mark : String
  text : String
deriving DecidableEq

mutual

inductive Piece where
  | literal (l : Literal)
  | placeholder (p : Placeholder)

/-- For `{Items.Length,-10:choose(1|2):one|two}` the selectors are `Items` and `Length`, the
alignment is -10, the name `choose`, the options are `1|2` and the format is `one|two`. -/
structure Placeholder where
  /-- The byte of the template at which the placeholder begins. -/
  start : Nat
  depth : Nat
  raw : String
  /-- Never empty; a single empty selector stands for the value in scope. -/
  selectors : List Selector
  alignment : Int
  /-- Empty if no formatter is named. -/
  nameAt : Excerpt
  optionsAt : Option Excerpt
  format : Option Format

/-- The depth is 0 for a whole template, and that of its placeholder for a nested format. -/
structure Format where
  start : Nat
  depth : Nat
  pieces : List Piece

end

namespace Literal

def stop (l : Literal) : Nat := l.start + l.raw.utf8ByteSize

def isElided (l : Literal) : Bool :=
  match l.kind with
  | .elided _ => true
  | _ => false

/-- What the literal is rendered as. -/
def rendered (l : Literal) : String :=
  match l.kind with
  | .text => l.raw
  | .charLiteral => unescape false l.raw
  | .diagnostic message => message
  | .elided _ => ""

end Literal

namespace Piece

def raw : Piece → String
  | literal l => l.raw
  | placeholder p => p.raw

def isLiteral : Piece → Bool
  | literal _ => true
  | placeholder _ => false

/-- Whether the piece stands for nothing. -/
def isElided : Piece → Bool
  | literal l => l.isElided
  | placeholder _ => false

def placeholder? : Piece → Option Placeholder
  | literal _ => none
  | placeholder p => some p

end Piece

namespace Selector

/-- The selector with the mark before it. -/
def marked (s : Selector) : String := s.mark ++ s.text

def isEmpty (s : Selector) : Bool := s.start == s.stop

end Selector

namespace Placeholder

def stop (p : Placeholder) : Nat := p.start + p.raw.utf8ByteSize

def path (p : Placeholder) : List String := p.selectors.map Selector.text

def name (p : Placeholder) : String := p.nameAt.text

def options (p : Placeholder) : Option String := p.optionsAt.map Excerpt.text

def optionsRaw (p : Placeholder) : String := p.options.getD ""

/-- The options with their escapes resolved. -/
def optionsText (p : Placeholder) : String := unescape true p.optionsRaw

/-- Whether the placeholder stands for the value in scope. -/
def isCurrent (p : Placeholder) : Bool := p.path == [""]

end Placeholder

namespace Format

def raw (f : Format) : String := String.join (f.pieces.map Piece.raw)

def stop (f : Format) : Nat := f.start + f.raw.utf8ByteSize

/-- The pieces that stand for something. -/
def items (f : Format) : List Piece := f.pieces.filter (!·.isElided)

def placeholders (f : Format) : List Placeholder := f.pieces.filterMap Piece.placeholder?

def isLiteral (f : Format) : Bool := f.pieces.all Piece.isLiteral

/-- The nested format that a path leads to, where each number picks a placeholder, from 0. -/
def nested? (f : Format) : List Nat → Option Format
  | [] => some f
  | n :: path =>
    match f.placeholders[n]? with
    | none => none
    | some p => p.format.bind (·.nested? path)

end Format

/-- What is wrong with a malformed part. -/
inductive Malformation where
  | missingClosing
  | unmatchedClosing
  | emptySelector
  | trailingPathMark
  | invalidSelectorChar
  | missingAlignmentDigits
  | alignmentOutOfRange
  | charAfterAlignment
  | unterminatedOptions
  | charAfterOptions
  /-- A complaint of an extension. -/
  | other (message : String)
deriving DecidableEq

def Malformation.message : Malformation → String
  | missingClosing => "Unexpected end of input, missing closing brace"
  | unmatchedClosing => "Unmatched closing brace"
  | emptySelector => "Empty selector"
  | trailingPathMark => "Trailing selector operator"
  | invalidSelectorChar => "Invalid character in selector"
  | missingAlignmentDigits => "Invalid alignment, expected digits"
  | alignmentOutOfRange => "Alignment out of range"
  | charAfterAlignment => "Invalid character after alignment"
  | unterminatedOptions => "Unterminated formatter options"
  | charAfterOptions =>
    "Expected a format or the end of the placeholder after formatter options"
  | other message => message

/-- A malformation and the byte at which it was noticed. -/
structure Issue where
  position : Nat
  cause : Malformation
deriving DecidableEq

def Issue.message (i : Issue) : String := i.cause.message

def Issue.text (i : Issue) : String :=
  "Parse error at position " ++ toString i.position ++ ": " ++ i.message

structure Template where
  dialect : Dialect
  format : Format
  /-- The malformed parts that were replaced, in the order in which they were noticed. -/
  issues : List Issue := []

namespace Template

def raw (t : Template) : String := t.format.raw

end Template

end Stencil
