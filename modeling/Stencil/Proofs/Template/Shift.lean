import Stencil.Template.Sections
import Stencil.Proofs.Template.Recast

/-!
# Trees moved

A tree that stands `n` bytes further on in its template, every place in it `n` more and all else the
same. Moving goes together with whatever is done with a tree apart from its places.
-/

namespace Stencil

set_option autoImplicit false

def shiftBy (n : Nat) : Recasting where
  literal l := [.literal { l with start := l.start + n }]
  place := (· + n)
  raw := id

def Placeholder.shift (n : Nat) (p : Placeholder) : Placeholder := p.recast (shiftBy n)

def Format.shift (n : Nat) (f : Format) : Format := f.recast (shiftBy n)

def Piece.shift (n : Nat) : Piece → Piece
  | .literal l => .literal { l with start := l.start + n }
  | .placeholder p => .placeholder (p.shift n)

section Fields

variable (n : Nat) (p : Placeholder) (f : Format) (piece : Piece)

theorem recastPieces_shiftBy (ps : List Piece) :
    recastPieces (shiftBy n) ps = ps.map (Piece.shift n) := by
  induction ps with
  | nil => rfl
  | cons piece ps ih =>
    rw [recastPieces_cons, ih]
    cases piece <;> rfl

@[simp] theorem Format.pieces_shift : (f.shift n).pieces = f.pieces.map (Piece.shift n) := by
  rw [shift, pieces_recast, recastPieces_shiftBy]

@[simp] theorem Placeholder.start_shift : (p.shift n).start = p.start + n := by
  cases p
  rfl

@[simp] theorem Placeholder.raw_shift : (p.shift n).raw = p.raw := by
  cases p
  rfl

@[simp] theorem Placeholder.path_shift : (p.shift n).path = p.path := p.path_recast _

@[simp] theorem Placeholder.alignment_shift : (p.shift n).alignment = p.alignment :=
  p.alignment_recast _

@[simp] theorem Placeholder.name_shift : (p.shift n).name = p.name := p.name_recast _

@[simp] theorem Placeholder.options_shift : (p.shift n).options = p.options :=
  p.options_recast _

theorem recastNested_shiftBy (f : Option Format) :
    recastNested (shiftBy n) f = f.map (Format.shift n) := by
  cases f <;> rfl

@[simp] theorem Placeholder.format_shift : (p.shift n).format = p.format.map (Format.shift n) := by
  rw [shift, format_recast, recastNested_shiftBy]

@[simp] theorem Placeholder.stop_shift : (p.shift n).stop = p.stop + n := by
  simp only [stop, start_shift, raw_shift]
  omega

@[simp] theorem Piece.isElided_shift : (piece.shift n).isElided = piece.isElided := by
  cases piece <;> rfl

@[simp] theorem Piece.isLiteral_shift : (piece.shift n).isLiteral = piece.isLiteral := by
  cases piece <;> rfl

theorem Format.isLiteral_shift : (f.shift n).isLiteral = f.isLiteral := by
  simp [isLiteral, List.all_map, Function.comp_def]

theorem Format.items_shift : (f.shift n).items = f.items.map (Piece.shift n) := by
  simp [items, List.filter_map, Function.comp_def]

end Fields

section Zero

mutual

theorem Format.shift_zero : (f : Format) → f.shift 0 = f
  | ⟨start, depth, pieces⟩ => congrArg (Format.mk start depth) (recastPieces_zero pieces)
termination_by structural f => f

theorem recastPieces_zero : (ps : List Piece) → recastPieces (shiftBy 0) ps = ps
  | [] => rfl
  | p :: ps => by
    rw [recastPieces_cons, Piece.recast_zero p, recastPieces_zero ps, List.singleton_append]
termination_by structural ps => ps

theorem Piece.recast_zero : (p : Piece) → p.recast (shiftBy 0) = [p]
  | .literal _ => rfl
  | .placeholder p => congrArg (fun q => [Piece.placeholder q]) (Placeholder.shift_zero p)
termination_by structural p => p

theorem Placeholder.shift_zero : (p : Placeholder) → p.shift 0 = p
  | ⟨start, depth, raw, selectors, alignment, nameAt, optionsAt, format⟩ => by
    have hselectors : selectors.map (Selector.recast (shiftBy 0)) = selectors :=
      List.map_id selectors
    have hoptions : optionsAt.map (Excerpt.recast (shiftBy 0)) = optionsAt := by
      cases optionsAt <;> rfl
    have hformat := recastNested_zero format
    rw [Placeholder.shift, Placeholder.recast, hselectors, hoptions, hformat]
    rfl
termination_by structural p => p

theorem recastNested_zero : (f : Option Format) → recastNested (shiftBy 0) f = f
  | none => rfl
  | some f => congrArg some (Format.shift_zero f)
termination_by structural f => f

end

theorem Piece.shift_zero : Piece.shift 0 = id := by
  funext p
  cases p with
  | literal l => rfl
  | placeholder p => exact congrArg Piece.placeholder p.shift_zero

end Zero

section Characters

variable {n : Nat}

/-- Literal text is cut into its characters, so it no longer matters where it was cut before; what
is nested in a placeholder stays as it is. -/
def Piece.characters : Piece → List Piece
  | .literal l => splitText.literal l
  | .placeholder p => [.placeholder p]

theorem characterPieces_shift (start : Nat) (cs : List Char) :
    characterPieces (start + n) cs = (characterPieces start cs).map (Piece.shift n) := by
  induction cs generalizing start with
  | nil => rfl
  | cons c cs ih =>
    have hlater := ih (start + c.utf8Size)
    rw [Nat.add_right_comm] at hlater
    simp [characterPieces, hlater, Piece.shift]

theorem Piece.characters_shift (piece : Piece) :
    (piece.shift n).characters = piece.characters.map (Piece.shift n) := by
  cases piece with
  | placeholder p => rfl
  | literal l =>
    obtain ⟨start, raw, kind⟩ := l
    cases kind with
    | text => exact characterPieces_shift start raw.toList
    | _ => rfl

theorem flatMap_characters_shift (ps : List Piece) :
    (ps.map (Piece.shift n)).flatMap Piece.characters =
      (ps.flatMap Piece.characters).map (Piece.shift n) := by
  rw [List.flatMap_map, List.map_flatMap]
  exact congrArg ps.flatMap (funext Piece.characters_shift)

theorem characterPieces_not_elided (start : Nat) (cs : List Char) :
    ∀ piece ∈ characterPieces start cs, piece.isElided = false := by
  induction cs generalizing start with
  | nil => simp [characterPieces]
  | cons c cs ih =>
    intro piece hpiece
    rcases List.mem_cons.mp hpiece with rfl | hlater
    · rfl
    · exact ih _ piece hlater

theorem Piece.isElided_of_mem_characters {piece part : Piece} (h : part ∈ piece.characters) :
    part.isElided = piece.isElided := by
  cases piece with
  | placeholder p => rw [List.mem_singleton.mp h]
  | literal l =>
    obtain ⟨start, raw, kind⟩ := l
    cases kind with
    | text => exact characterPieces_not_elided start raw.toList part h
    | _ => rw [List.mem_singleton.mp h]

/-- What stands for something is the same, whether it is looked for among the pieces or among their
characters. -/
theorem flatMap_characters_items (ps : List Piece) :
    (ps.filter (!·.isElided)).flatMap Piece.characters =
      (ps.flatMap Piece.characters).filter (!·.isElided) := by
  induction ps with
  | nil => rfl
  | cons piece ps ih =>
    rw [List.flatMap_cons, List.filter_append, ← ih]
    cases helided : piece.isElided with
    | true =>
      have hnone : piece.characters.filter (!·.isElided) = [] := by
        rw [List.filter_eq_nil_iff]
        intro part hpart
        simp [Piece.isElided_of_mem_characters hpart, helided]
      rw [hnone, List.filter_cons_of_neg (by simp [helided]), List.nil_append]
    | false =>
      have hall : piece.characters.filter (!·.isElided) = piece.characters := by
        rw [List.filter_eq_self]
        intro part hpart
        simp [Piece.isElided_of_mem_characters hpart, helided]
      rw [hall, List.filter_cons_of_pos (by simp [helided]), List.flatMap_cons]

theorem characters_piecesFrom (run : Run) (start : Nat) :
    (run.piecesFrom start).flatMap Piece.characters =
      characterPieces start run.lead ++ run.pieces.flatMap Piece.characters := by
  unfold Run.piecesFrom
  cases run.lead with
  | nil => rfl
  | cons c cs =>
    rw [← splitText_splits start (c :: cs)]
    rfl

theorem characters_prependText (run : Run) (front : List Char) (start : Nat) :
    ((run.prependText front).piecesFrom start).flatMap Piece.characters =
      characterPieces start front ++
        (run.piecesFrom (start + utf8Width front)).flatMap Piece.characters := by
  rw [characters_piecesFrom, characters_piecesFrom, Run.prependText, characterPieces_append,
    List.append_assoc]

end Characters

section Sections

variable {n : Nat} {separator : Char}

def shiftTexts (n : Nat) (later : List (Nat × List Char)) : List (Nat × List Char) :=
  later.map fun part => (part.1 + n, part.2)

def Cut.shift (n : Nat) (c : Cut) : Cut where
  first := c.first.map (Piece.shift n)
  later := c.later.map fun part => (part.1 + n, part.2.map (Piece.shift n))

theorem cutText_shift (start : Nat) (cs : List Char) :
    cutText separator (start + n) cs =
      ((cutText separator start cs).1, shiftTexts n (cutText separator start cs).2) := by
  induction cs generalizing start with
  | nil => rfl
  | cons c cs ih =>
    have hnext : start + n + c.utf8Size = start + c.utf8Size + n := Nat.add_right_comm _ _ _
    simp only [cutText, hnext, ih]
    split <;> rfl

theorem textPieces_shift (start : Nat) (text : List Char) :
    textPieces (start + n) text = (textPieces start text).map (Piece.shift n) := by
  unfold textPieces
  split <;> rfl

theorem prependTexts_shift (after : Cut) (start : Nat) (text : List Char)
    (later : List (Nat × List Char)) :
    (after.shift n).prependTexts (start + n) text (shiftTexts n later) =
      (after.prependTexts start text later).shift n := by
  induction later generalizing start text with
  | nil => simp [Cut.prependTexts, Cut.shift, shiftTexts, textPieces_shift]
  | cons part later ih =>
    have hrest := ih part.1 part.2
    simp only [shiftTexts, List.map_cons] at hrest ⊢
    simp only [Cut.prependTexts, hrest]
    simp [Cut.shift, textPieces_shift]

theorem cutPieces_shift (ps : List Piece) :
    cutPieces separator (ps.map (Piece.shift n)) = (cutPieces separator ps).shift n := by
  induction ps with
  | nil => rfl
  | cons piece ps ih =>
    rw [List.map_cons, cutPieces, cutPieces, ih]
    cases piece with
    | placeholder p => rfl
    | literal l =>
      obtain ⟨start, raw, kind⟩ := l
      cases kind with
      | text =>
        simp only [Piece.shift, Cut.prepend, cutText_shift]
        exact prependTexts_shift _ start _ _
      | charLiteral => rfl
      | diagnostic message => rfl
      | elided why => rfl

/-- The sections of a tree that was moved are its sections, moved. -/
theorem Format.split_shift (f : Format) :
    (f.shift n).split separator =
      ⟨(f.split separator).first.shift n, (f.split separator).later.map (Format.shift n)⟩ := by
  have hpieces (start : Nat) (depth : Nat) (ps : List Piece) :
      (⟨start + n, depth, ps.map (Piece.shift n)⟩ : Format) =
        Format.shift n ⟨start, depth, ps⟩ := by
    rw [Format.shift, Format.recast, recastPieces_shiftBy]
    rfl
  obtain ⟨start, depth, ps⟩ := f
  rw [← hpieces]
  simp only [Format.split, cutPieces_shift, Cut.shift, List.map_map, ← hpieces, Function.comp_def]

end Sections

end Stencil
