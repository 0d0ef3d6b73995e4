import Stencil.Template

/-!
# Sections

A format is cut into sections at a separator in its own literal text. Placeholders, character
literals and whatever else is not plain text stay whole, so the sections with separators between
them are the format again.
-/

namespace Stencil

set_option autoImplicit false

/-- At least one section; those after the first each follow a separator. -/
structure Sections where
  first : Format
  later : List Format

namespace Sections

def toList (s : Sections) : List Format := s.first :: s.later

def count (s : Sections) : Nat := s.later.length + 1

/-- The section with that number, from 0, or the last one. -/
def pick (s : Sections) (i : Nat) : Format := (s.later.take i).getLast?.getD s.first

end Sections

/-- Pieces up to a separator, and for each separator where the pieces after it begin. -/
structure Cut where
  first : List Piece
  later : List (Nat × List Piece)

/-- The text before the first separator, and for each separator the text after it. -/
def cutText (separator : Char) (start : Nat) : List Char → List Char × List (Nat × List Char)
  | [] => ([], [])
  | c :: cs =>
    let next := start + c.utf8Size
    let (text, later) := cutText separator next cs
    if c == separator then ([], (next, text) :: later) else (c :: text, later)

def textPieces (start : Nat) (text : List Char) : List Piece :=
  if text.isEmpty then [] else [.literal ⟨start, String.ofList text, .text⟩]

/-- Puts the parts of a cut text before what comes after the text. -/
def Cut.prependTexts (after : Cut) (start : Nat) (text : List Char) :
    List (Nat × List Char) → Cut
  | [] => { after with first := textPieces start text ++ after.first }
  | (next, text') :: later =>
    let rest := after.prependTexts next text' later
    ⟨textPieces start text, (next, rest.first) :: rest.later⟩

def Cut.prepend (separator : Char) (after : Cut) : Piece → Cut
  | .literal ⟨start, raw, .text⟩ =>
    let (text, later) := cutText separator start raw.toList
    after.prependTexts start text later
  | p => { after with first := p :: after.first }

def cutPieces (separator : Char) : List Piece → Cut
  | [] => ⟨[], []⟩
  | p :: ps => (cutPieces separator ps).prepend separator p

/-- The sections of a format that a separator in its own text delimits. -/
def Format.split (f : Format) (separator : Char) : Sections :=
  let cut := cutPieces separator f.pieces
  { first := { f with pieces := cut.first }
    later := cut.later.map fun (start, pieces) => { f with start, pieces } }

end Stencil
