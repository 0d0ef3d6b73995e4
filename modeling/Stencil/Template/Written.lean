import Stencil.Template

/-!
# Templates written out

A tree written back as a template. Literal text is copied, escapes and all, and a placeholder is put
together from its parts, so only the spelling of alignments can differ from what was read.
-/

namespace Stencil

set_option autoImplicit false

namespace Placeholder

/-- The path as it stands behind the opening brace. -/
def pathText (selectors : List Selector) : String := String.join (selectors.map Selector.marked)

def alignmentText (d : Dialect) (alignment : Int) : String :=
  if alignment = 0 then "" else d.alignmentMark.toString ++ toString alignment

def optionsGroup (d : Dialect) (options : Option String) : String :=
  match options with
  | none => ""
  | some o => d.optionsOpening.toString ++ o ++ d.optionsClosing.toString

def nameText (d : Dialect) (name : String) (options : Option String) : String :=
  if name = "" then "" else d.formatMark.toString ++ name ++ optionsGroup d options

end Placeholder

mutual

def Format.written (d : Dialect) : Format → String
  | ⟨_, _, pieces⟩ => writtenPieces d pieces
termination_by structural f => f

def writtenPieces (d : Dialect) : List Piece → String
  | [] => ""
  | p :: ps => p.written d ++ writtenPieces d ps
termination_by structural ps => ps

def Piece.written (d : Dialect) : Piece → String
  | .literal l => l.raw
  | .placeholder p => p.written d
termination_by structural p => p

def Placeholder.written (d : Dialect) : Placeholder → String
  | ⟨_, _, _, selectors, alignment, nameAt, optionsAt, format⟩ =>
    d.opening.toString ++ Placeholder.pathText selectors ++
      Placeholder.alignmentText d alignment ++
      Placeholder.nameText d nameAt.text (optionsAt.map Excerpt.text) ++ writtenNested d format ++
      d.closing.toString
termination_by structural p => p

def writtenNested (d : Dialect) : Option Format → String
  | none => ""
  | some f => d.formatMark.toString ++ f.written d
termination_by structural f => f

end

def Template.written (t : Template) : String := t.format.written t.dialect

end Stencil
