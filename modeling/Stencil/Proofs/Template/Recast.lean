import Stencil.Reading.Format

/-!
# Trees recast

What two trees have in common is said by recasting both: literals are replaced and places rewritten
at every depth, while what paths, alignments, names and options say stays as it is.
-/

namespace Stencil

set_option autoImplicit false

structure Recasting where
  literal : Literal → List Piece
  place : Nat → Nat
  /-- Applied to the text that a placeholder was read from. -/
  raw : String → String

def Excerpt.recast (r : Recasting) (e : Excerpt) : Excerpt :=
  { e with start := r.place e.start, stop := r.place e.stop }

def Selector.recast (r : Recasting) (s : Selector) : Selector :=
  { s with markStart := r.place s.markStart, start := r.place s.start, stop := r.place s.stop }

mutual

def Format.recast (r : Recasting) : Format → Format
  | ⟨start, depth, pieces⟩ => ⟨r.place start, depth, recastPieces r pieces⟩
termination_by structural f => f

def recastPieces (r : Recasting) : List Piece → List Piece
  | [] => []
  | p :: ps => p.recast r ++ recastPieces r ps
termination_by structural ps => ps

def Piece.recast (r : Recasting) : Piece → List Piece
  | .literal l => r.literal l
  | .placeholder p => [.placeholder (p.recast r)]
termination_by structural p => p

def Placeholder.recast (r : Recasting) : Placeholder → Placeholder
  | ⟨start, depth, raw, selectors, alignment, nameAt, optionsAt, format⟩ =>
    ⟨r.place start, depth, r.raw raw, selectors.map (Selector.recast r), alignment,
      nameAt.recast r, optionsAt.map (Excerpt.recast r), recastNested r format⟩
termination_by structural p => p

def recastNested (r : Recasting) : Option Format → Option Format
  | none => none
  | some f => some (f.recast r)
termination_by structural f => f

end

/-- Literal text cut into its characters. -/
def characterPieces : Nat → List Char → List Piece
  | _, [] => []
  | start, c :: cs =>
    .literal ⟨start, String.ofList [c], .text⟩ :: characterPieces (start + c.utf8Size) cs

def Literal.isText (l : Literal) : Bool :=
  match l.kind with
  | .text => true
  | _ => false

/-- Literal text is cut into its characters, so it no longer matters where it was cut before. -/
def splitText : Recasting where
  literal l := if l.isText then characterPieces l.start l.raw.toList else [.literal l]
  place := id
  raw := id

/-- Every literal is taken for plain text and cut into its characters. -/
def splitLiterals : Recasting where
  literal l := characterPieces l.start l.raw.toList
  place := id
  raw := id

/-- The places of things in the template, and the texts that placeholders were read from, are
dropped. -/
def dropPlaces : Recasting where
  literal l := [.literal { l with start := 0 }]
  place _ := 0
  raw _ := ""

section Fields

variable (r : Recasting) (f : Format) (p : Placeholder)

@[simp] theorem Format.pieces_recast : (f.recast r).pieces = recastPieces r f.pieces := by
  cases f
  rfl

@[simp] theorem Placeholder.selectors_recast :
    (p.recast r).selectors = p.selectors.map (Selector.recast r) := by
  cases p
  rfl

@[simp] theorem Placeholder.path_recast : (p.recast r).path = p.path := by
  rw [path, selectors_recast, List.map_map]
  rfl

@[simp] theorem Placeholder.alignment_recast : (p.recast r).alignment = p.alignment := by
  cases p
  rfl

@[simp] theorem Placeholder.name_recast : (p.recast r).name = p.name := by
  cases p
  rfl

@[simp] theorem Placeholder.options_recast : (p.recast r).options = p.options := by
  obtain ⟨_, _, _, _, _, _, optionsAt, _⟩ := p
  cases optionsAt <;> rfl

@[simp] theorem Placeholder.format_recast :
    (p.recast r).format = recastNested r p.format := by
  cases p
  rfl

theorem Placeholder.recast_splitText :
    p.recast splitText = { p with format := recastNested splitText p.format } := by
  have hselectors : p.selectors.map (Selector.recast splitText) = p.selectors := List.map_id _
  have hoptions : p.optionsAt.map (Excerpt.recast splitText) = p.optionsAt :=
    congrFun Option.map_id _
  obtain ⟨start, depth, raw, selectors, alignment, nameAt, optionsAt, format⟩ := p
  simp only at hselectors hoptions
  rw [recast, hselectors, hoptions]
  rfl

@[simp] theorem isNone_recastNested (f : Option Format) :
    (recastNested r f).isNone = f.isNone := by
  cases f <;> rfl

end Fields

section Runs

variable {r : Recasting} {run : Run} {start : Nat}

theorem recastPieces_cons (p : Piece) (ps : List Piece) :
    recastPieces r (p :: ps) = p.recast r ++ recastPieces r ps := by
  simp [recastPieces]

theorem characterPieces_append (start : Nat) (cs ds : List Char) :
    characterPieces start (cs ++ ds) =
      characterPieces start cs ++ characterPieces (start + utf8Width cs) ds := by
  induction cs generalizing start with
  | nil => simp [characterPieces]
  | cons c cs ih => simp [characterPieces, ih, Nat.add_assoc]

def Recasting.SplitsText (r : Recasting) : Prop :=
  ∀ start cs, r.literal ⟨start, String.ofList cs, .text⟩ = characterPieces start cs

theorem splitText_splits : splitText.SplitsText := by
  intro start cs
  simp [splitText, Literal.isText]

theorem splitLiterals_splits : splitLiterals.SplitsText := by
  intro start cs
  simp [splitLiterals]

theorem recast_piecesFrom (hr : r.SplitsText) :
    recastPieces r (run.piecesFrom start) =
      characterPieces start run.lead ++ recastPieces r run.pieces := by
  unfold Run.piecesFrom
  cases run.lead with
  | nil => rfl
  | cons c cs =>
    simp only [List.isEmpty_cons, Bool.false_eq_true, if_false, recastPieces_cons, Piece.recast,
      hr start (c :: cs)]

theorem recast_prependText (hr : r.SplitsText) (front : List Char) :
    recastPieces r ((run.prependText front).piecesFrom start) =
      characterPieces start front ++
        recastPieces r (run.piecesFrom (start + utf8Width front)) := by
  rw [recast_piecesFrom hr, recast_piecesFrom hr, Run.prependText, characterPieces_append,
    List.append_assoc]

theorem recast_prependLiteral (front : List Char) (kind : LiteralKind) (s : Nat) :
    recastPieces r ((run.prependLiteral start front kind).piecesFrom s) =
      r.literal ⟨start, String.ofList front, kind⟩ ++
        recastPieces r (run.piecesFrom (start + utf8Width front)) := by
  simp [Run.prependLiteral, Run.piecesFrom, recastPieces_cons, Piece.recast]

theorem recast_prependPlaceholder (p : Placeholder) (s : Nat) :
    recastPieces r ((run.prependPlaceholder p).piecesFrom s) =
      .placeholder (p.recast r) :: recastPieces r (run.piecesFrom p.stop) := by
  simp [Run.prependPlaceholder, Run.piecesFrom, recastPieces_cons, Piece.recast]

end Runs

end Stencil
