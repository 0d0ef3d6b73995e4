import Stencil.Reading.Selectors
import Stencil.Reading.Alignment
import Stencil.Reading.Options
import Stencil.Reading.Region

/-!
# Reading a template

A format is read piece by piece, and every placeholder in it by a reader that allows one level of
nesting less. The text that runs on from one character to the next is gathered from the right: a
run of pieces begins with the text that joins whatever text stands before it.
-/

namespace Stencil

set_option autoImplicit false

/-- What a character of literal text is, given the character after it. -/
inductive Role where
  | text
  /-- An escape that makes the brace after it text. -/
  | braceEscape
  | charLiteral
  /-- The first brace of a doubled pair. -/
  | doubledBrace
  | opening
  | unmatchedClosing
  /-- The end of a nested format. -/
  | stop
deriving DecidableEq

def Dialect.role (d : Dialect) (nested : Bool) (c : Char) (next : Option Char) : Role :=
  if d.escapesBrace c next then .braceEscape
  else if d.charLiterals && c == escapeMark then .charLiteral
  else if c == d.opening then
    if d.doubles && next == some c then .doubledBrace else .opening
  else if c == d.closing then
    if nested then .stop
    else if d.doubles && next == some c then .doubledBrace else .unmatchedClosing
  else .text

/-- Pieces read from some place on: first the text that begins there, then the other pieces, and
where the reading stopped. -/
structure Run where
  lead : List Char
  pieces : List Piece
  stop : Cursor

namespace Run

/-- All pieces of a run that begins at byte `start`. -/
def piecesFrom (r : Run) (start : Nat) : List Piece :=
  if r.lead.isEmpty then r.pieces
  else .literal ⟨start, String.ofList r.lead, .text⟩ :: r.pieces

def toFormat (r : Run) (start depth : Nat) : Format := ⟨start, depth, r.piecesFrom start⟩

def prependText (text : List Char) (r : Run) : Run := { r with lead := text ++ r.lead }

def prependLiteral (start : Nat) (text : List Char) (kind : LiteralKind) (r : Run) : Run where
  lead := []
  pieces := .literal ⟨start, String.ofList text, kind⟩ :: r.piecesFrom (start + utf8Width text)
  stop := r.stop

def prependPlaceholder (p : Placeholder) (r : Run) : Run where
  lead := []
  pieces := .placeholder p :: r.piecesFrom p.stop
  stop := r.stop

/-- Puts a malformed region, or what the dialect has in its place, before a run. -/
def prependMalformed (d : Dialect) (start : Nat) (region : List Char) (issue : Issue) (r : Run) :
    Run :=
  match d.onMalformed with
  | .asWritten => { r with lead := [], pieces := (r.prependText region).piecesFrom start }
  | .message => r.prependLiteral start region (.diagnostic issue.text)
  | .nothing | .fail => r.prependLiteral start region (.elided .malformed)

end Run

/-- Reads pieces up to the end of the text or, in a nested format, to a closing brace. The first
`skip` characters belong to a piece already read. -/
def readPieces (d : Dialect) (nested : Bool)
    (readPlaceholder : Nat → List Char → Reading Placeholder) :
    Nat → Nat → List Char → Reading Run
  | _, position, [] => .ok ⟨[], [], ⟨position, []⟩⟩
  | skip + 1, position, c :: cs =>
    readPieces d nested readPlaceholder skip (position + c.utf8Size) cs
  | 0, position, c :: cs =>
    let after (n : Nat) := readPieces d nested readPlaceholder n (position + c.utf8Size) cs
    match d.role nested c cs.head? with
    | .text => return (← after 0).prependText [c]
    | .stop => return ⟨[], [], ⟨position, c :: cs⟩⟩
    | .braceEscape =>
      return ((← after 1).prependText (cs.take 1)).prependLiteral position [c]
        (.elided .escapeMark)
    | .charLiteral =>
      let n := CharLiteral.extent cs
      return (← after n).prependLiteral position (c :: cs.take n) .charLiteral
    | .doubledBrace =>
      return ((← after 1).prependLiteral (position + c.utf8Size) (cs.take 1)
        (.elided .doubledBrace)).prependText [c]
    | .opening => do
      match ← (readPlaceholder position cs).attempt with
      | .ok p => return (← after (p.raw.length - 1)).prependPlaceholder p
      | .error fault =>
        let issue ← d.tolerate fault
        let malformed := region d (c :: cs)
        return (← after (malformed.length - 1)).prependMalformed d position malformed issue
    | .unmatchedClosing => do
      let issue ← d.tolerate (.at position .unmatchedClosing)
      return (← after 0).prependMalformed d position [c] issue

/-- Skipped characters only move the place at which the reading goes on. -/
theorem readPieces_skip (d : Dialect) (nested : Bool)
    (readPlaceholder : Nat → List Char → Reading Placeholder) (skip position : Nat)
    (cs : List Char) :
    readPieces d nested readPlaceholder skip position cs =
      readPieces d nested readPlaceholder 0 (position + utf8Width (cs.take skip))
        (cs.drop skip) := by
  induction cs generalizing skip position with
  | nil => simp [readPieces]
  | cons c cs ih =>
    cases skip with
    | zero => simp
    | succ n =>
      rw [readPieces, ih]
      simp [Nat.add_assoc]

/-- What a placeholder says after its format mark. -/
structure Specification where
  /-- An empty stretch if no formatter is named. -/
  nameAt : Excerpt
  optionsAt : Option Excerpt := none
  format : Option Format := none
  stop : Cursor

/-- Reads a nested format of the given depth. -/
def readNested (depth : Nat) (readBody : Nat → List Char → Reading Run) (here : Cursor) :
    Reading (Format × Cursor) := do
  let r ← readBody here.position here.rest
  return (r.toFormat here.position depth, r.stop)

/-- Reads what follows the options of a formatter: nothing, or a format behind a mark. -/
def readAfterOptions (d : Dialect) (depth : Nat) (readBody : Nat → List Char → Reading Run)
    (here : Cursor) : Reading (Option Format × Cursor) :=
  match here.rest with
  | [] => .fail (.at here.position .missingClosing)
  | c :: cs =>
    if c == d.formatMark then do
      let (format, stop) ← readNested depth readBody ⟨here.position + c.utf8Size, cs⟩
      return (some format, stop)
    else if c == d.closing then return (none, here)
    else .fail (.at here.position .charAfterOptions)

/-- Reads what follows the format mark. The name of a formatter counts as one only if it is accepted
and options or another mark come after it; otherwise it is the beginning of the nested format. -/
def readSpecification (d : Dialect) (depth : Nat) (readBody : Nat → List Char → Reading Run)
    (here : Cursor) : Reading Specification :=
  let name := here.rest.takeWhile isNameChar
  let rest := here.rest.dropWhile isNameChar
  let nameStop := here.position + utf8Width name
  let named := name ≠ [] && d.acceptsName (String.ofList name)
  match rest with
  | [] => unnamed
  | c :: cs =>
    if named && c == d.optionsOpening then
      match readOptions d false 0 cs with
      | none => .fail (.at nameStop .unterminatedOptions)
      | some (options, after) => do
        let stop := nameStop + c.utf8Size + utf8Width options + d.optionsClosing.utf8Size
        let (format, stop) ← readAfterOptions d depth readBody ⟨stop, after⟩
        return {
          nameAt := .ofList here.position name
          optionsAt := some (.ofList (nameStop + c.utf8Size) options)
          format
          stop }
    else if named && c == d.formatMark then do
      let (format, stop) ← readNested depth readBody ⟨nameStop + c.utf8Size, cs⟩
      return { nameAt := .ofList here.position name, format := some format, stop }
    else unnamed
where
  unnamed : Reading Specification := do
    let (format, stop) ← readNested depth readBody here
    return { nameAt := .ofList here.position [], format := some format, stop }

/-- Reads a placeholder of the given depth whose opening brace is at `position` and before `cs`. -/
def readPlaceholder (d : Dialect) (depth : Nat) (readBody : Nat → List Char → Reading Run)
    (position : Nat) (cs : List Char) : Reading Placeholder := do
  let (selectors, here) ← .ofExcept (readPath d (position + d.opening.utf8Size) cs)
  let (alignment, here) ← .ofExcept (readAlignment d here)
  let spec ←
    if here.rest.head? = some d.formatMark then
      readSpecification d depth readBody
        ⟨here.position + d.formatMark.utf8Size, here.rest.drop 1⟩
    else .ok { nameAt := .ofList here.position [], stop := here }
  if spec.stop.rest.head? = some d.closing then
    return {
      start := position
      depth
      raw := String.ofList (d.opening :: cs.take (cs.length - spec.stop.rest.length + 1))
      selectors
      alignment
      nameAt := spec.nameAt
      optionsAt := spec.optionsAt
      format := spec.format }
  else .fail (.at spec.stop.position .missingClosing)

/-- Reads a placeholder of the given depth, of which `levels` more levels may be opened. -/
def readPlaceholderWithin (d : Dialect) : Nat → Nat → Nat → List Char → Reading Placeholder
  | 0, _, position, _ => .fail (.tooDeep position)
  | levels + 1, depth, position, cs =>
    readPlaceholder d depth (readPieces d true (readPlaceholderWithin d levels (depth + 1)) 0)
      position cs

/-- Reads a template in a dialect. -/
def Template.parse (d : Dialect) (text : String) : Except Error Template :=
  let reading := readPieces d false (readPlaceholderWithin d d.maxDepth 1) 0 0 text.toList
  match reading.outcome with
  | .ok run => .ok ⟨d, run.toFormat 0 0, reading.issues⟩
  | .error fault => .error (fault.toError d text)

end Stencil
