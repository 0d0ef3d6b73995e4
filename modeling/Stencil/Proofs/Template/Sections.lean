import Stencil.Proofs.Template.Shift
import Stencil.Proofs.Template.Spans
import Stencil.Proofs.Text.Joined

/-!
# What is in a section

Cutting a format at a separator takes it apart where plain text has that character, and nowhere
else: the characters of its sections are its characters, with the separators missing in between, and
whatever is no plain text stays whole.
-/

namespace Stencil

set_option autoImplicit false

def placeholdersIn (ps : List Piece) : List Placeholder := ps.filterMap Piece.placeholder?

/-- The text of a piece that is plain text. -/
def Piece.ownText : Piece → List Char
  | .literal ⟨_, raw, .text⟩ => raw.toList
  | _ => []

/-- The piece, unless it is plain text. -/
def Piece.other : Piece → List Piece
  | .literal ⟨_, _, .text⟩ => []
  | p => [p]

/-- The plain text of a format itself, without that of nested formats. -/
def Format.ownText (f : Format) : List Char := f.pieces.flatMap Piece.ownText

/-- The placeholders, character literals and whatever else is no plain text. -/
def Format.others (f : Format) : List Piece := f.pieces.flatMap Piece.other

/-- All plain text among the pieces is without the separator, and there is some text to it. -/
def ClearOf (separator : Char) (ps : List Piece) : Prop :=
  ∀ start raw, Piece.literal ⟨start, raw, .text⟩ ∈ ps → raw ≠ "" ∧ separator ∉ raw.toList

section Characters

variable {start : Nat} {ps qs : List Piece}

/-- What can be told of plain text by its characters can be told of pieces by theirs. -/
theorem flatMap_characters {β : Type} {φ : Piece → List β} (ψ : Char → List β)
    (htext : ∀ start cs, φ (.literal ⟨start, String.ofList cs, .text⟩) = cs.flatMap ψ)
    (ps : List Piece) : (ps.flatMap Piece.characters).flatMap φ = ps.flatMap φ := by
  have hcharacters : ∀ start cs, (characterPieces start cs).flatMap φ = cs.flatMap ψ := by
    intro start cs
    induction cs generalizing start with
    | nil => rfl
    | cons c cs ih =>
      rw [characterPieces, List.flatMap_cons, List.flatMap_cons, htext, ih, List.flatMap_singleton]
  rw [List.flatMap_assoc]
  congr 1
  funext p
  cases p with
  | placeholder p => simp [Piece.characters]
  | literal l =>
    obtain ⟨start, raw, kind⟩ := l
    cases kind with
    | text =>
      have hraw := htext start raw.toList
      rw [String.ofList_toList] at hraw
      rw [hraw]
      exact hcharacters start raw.toList
    | _ => simp [Piece.characters, splitText, Literal.isText]

theorem piecesText_characters (ps : List Piece) :
    piecesText (ps.flatMap Piece.characters) = piecesText ps :=
  flatMap_characters (fun c => [c]) (by simp [Piece.raw]) ps

theorem consecutive_append : Consecutive start (ps ++ qs) ↔
    Consecutive start ps ∧ Consecutive (start + utf8Width (piecesText ps)) qs := by
  induction ps generalizing start with
  | nil => simp [Consecutive]
  | cons p ps ih =>
    simp only [List.cons_append, Consecutive, ih, piecesText_cons, utf8Width_append, and_assoc]
    refine and_congr_right fun hstart => ?_
    rw [p.stop_eq, hstart, Nat.add_assoc]

theorem consecutive_characterPieces {position : Nat} {cs : List Char} (hcs : cs ≠ []) :
    Consecutive start (characterPieces position cs) ↔ position = start := by
  induction cs generalizing start position with
  | nil => exact absurd rfl hcs
  | cons c cs ih =>
    have hstop : Piece.stop (.literal ⟨position, String.ofList [c], .text⟩) =
        position + c.utf8Size := by
      rw [Piece.stop_eq]
      simp [Piece.start, Piece.raw]
    rw [characterPieces, Consecutive, hstop]
    cases cs with
    | nil => simp [characterPieces, Consecutive, Piece.start, Piece.raw]
    | cons c' cs => simp [ih (List.cons_ne_nil _ _), Piece.start, Piece.raw]

theorem consecutive_characters (hps : ∀ start, Piece.literal ⟨start, "", .text⟩ ∉ ps) :
    Consecutive start (ps.flatMap Piece.characters) ↔ Consecutive start ps := by
  induction ps generalizing start with
  | nil => rfl
  | cons p ps ih =>
    have hlater : Consecutive p.stop (ps.flatMap Piece.characters) ↔ Consecutive p.stop ps :=
      ih fun start hmem => hps start (List.mem_cons_of_mem p hmem)
    have htext : piecesText p.characters = p.raw.toList := by
      simpa using piecesText_characters [p]
    have hsingle : Consecutive start p.characters ↔ p.start = start ∧ p.raw ≠ "" := by
      cases p with
      | placeholder p => simp [Piece.characters, Consecutive]
      | literal l =>
        obtain ⟨position, raw, kind⟩ := l
        cases kind with
        | text =>
          have hraw : raw ≠ "" := fun h => hps position (h ▸ List.mem_cons_self)
          have hcharacters : Piece.characters (.literal ⟨position, raw, .text⟩) =
              characterPieces position raw.toList := rfl
          rw [hcharacters, consecutive_characterPieces (by simpa using hraw)]
          simp [Piece.start, Piece.raw, hraw]
        | _ => simp [Piece.characters, splitText, Literal.isText, Consecutive]
    rw [List.flatMap_cons, consecutive_append, hsingle, htext, Consecutive, and_assoc]
    refine and_congr_right fun hstart => and_congr_right fun _ => ?_
    rw [← hlater, p.stop_eq, hstart]

end Characters

section Cutting

variable {separator : Char}

/-- `TextCut separator start cs text later`: of the text `cs`, which begins at byte `start`, `text`
comes before the first separator, and `later` between the others. -/
inductive TextCut (separator : Char) :
    Nat → List Char → List Char → List (Nat × List Char) → Prop
  | last {start : Nat} {text : List Char} (hclear : separator ∉ text) :
      TextCut separator start text text []
  | next {start : Nat} {cs text text' : List Char} {later : List (Nat × List Char)}
      (hclear : separator ∉ text)
      (hrest : TextCut separator (start + utf8Width text + separator.utf8Size) cs text' later) :
      TextCut separator start (text ++ separator :: cs) text
        ((start + utf8Width text + separator.utf8Size, text') :: later)

theorem cutText_textCut (separator : Char) (start : Nat) (cs : List Char) :
    TextCut separator start cs (cutText separator start cs).1 (cutText separator start cs).2 := by
  induction cs generalizing start with
  | nil => exact .last (by simp)
  | cons c cs ih =>
    have hrest := ih (start + c.utf8Size)
    rw [cutText]
    generalize cutText separator (start + c.utf8Size) cs = cut at hrest
    obtain ⟨text, later⟩ := cut
    dsimp only at hrest ⊢
    by_cases hc : c = separator
    · subst hc
      simpa using @TextCut.next c start cs [] text later (by simp) hrest
    · simp only [beq_iff_eq, hc, if_false]
      cases hrest with
      | last hclear => exact .last (by simp [Ne.symm hc, hclear])
      | @next _ cs text text' later hclear hrest =>
        have hwidth : start + c.utf8Size + utf8Width text = start + utf8Width (c :: text) := by
          rw [utf8Width_cons, Nat.add_assoc]
        rw [hwidth] at hrest ⊢
        exact @TextCut.next _ _ _ (c :: text) _ _ (by simp [Ne.symm hc, hclear]) hrest

/-- `IsCut separator cs parts`: the parts, each with the byte at which it begins, have between them
the characters `cs`, apart from the separators that stand between one part and the next. -/
inductive IsCut (separator : Char) : List Piece → List (Nat × List Piece) → Prop
  | last {start : Nat} {ps : List Piece} (hclear : ClearOf separator ps) :
      IsCut separator (ps.flatMap Piece.characters) [(start, ps)]
  | next {start position : Nat} {ps qs cs : List Piece} {later : List (Nat × List Piece)}
      (hclear : ClearOf separator ps)
      (hrest : IsCut separator cs ((position + separator.utf8Size, qs) :: later)) :
      IsCut separator
        (ps.flatMap Piece.characters ++
          .literal ⟨position, String.ofList [separator], .text⟩ :: cs)
        ((start, ps) :: (position + separator.utf8Size, qs) :: later)

theorem ClearOf.append {ps qs : List Piece} (hps : ClearOf separator ps)
    (hqs : ClearOf separator qs) : ClearOf separator (ps ++ qs) := by
  intro start raw hmem
  exact (List.mem_append.mp hmem).elim (hps start raw) (hqs start raw)

theorem IsCut.prepend {front cs ps : List Piece} {start : Nat} {later : List (Nat × List Piece)}
    (hfront : ClearOf separator front) (h : IsCut separator cs ((start, ps) :: later))
    (start' : Nat) :
    IsCut separator (front.flatMap Piece.characters ++ cs) ((start', front ++ ps) :: later) := by
  cases h with
  | last hclear =>
    rw [← List.flatMap_append]
    exact .last (hfront.append hclear)
  | next hclear hrest =>
    rw [← List.append_assoc, ← List.flatMap_append]
    exact .next (hfront.append hclear) hrest

theorem clearOf_textPieces {text : List Char} (h : separator ∉ text) (start : Nat) :
    ClearOf separator (textPieces start text) := by
  intro position raw hmem
  unfold textPieces at hmem
  split at hmem
  · cases hmem
  · rename_i hne
    cases List.mem_singleton.mp hmem
    exact ⟨by simpa using hne, by simpa using h⟩

theorem characters_textPieces (start : Nat) (text : List Char) :
    (textPieces start text).flatMap Piece.characters = characterPieces start text := by
  unfold textPieces
  cases text with
  | nil => rfl
  | cons c cs => simp [Piece.characters, splitText, Literal.isText]

def Cut.parts (c : Cut) (start : Nat) : List (Nat × List Piece) := (start, c.first) :: c.later

theorem TextCut.prependTexts {start position start' : Nat} {text text' : List Char}
    {later : List (Nat × List Char)} {after : Cut} {cs : List Piece}
    (h : TextCut separator start text text' later)
    (hafter : IsCut separator cs (after.parts position)) :
    IsCut separator (characterPieces start text ++ cs)
      ((after.prependTexts start text' later).parts start') := by
  induction h generalizing start' with
  | last hclear =>
    rw [← characters_textPieces]
    exact hafter.prepend (clearOf_textPieces hclear _) _
  | @next start cs' text text' later hclear _ ih =>
    rw [characterPieces_append, characterPieces, ← characters_textPieces start text,
      List.append_assoc, List.cons_append]
    exact .next (clearOf_textPieces hclear start) ih

theorem cutPieces_isCut (separator : Char) (start : Nat) (ps : List Piece) :
    IsCut separator (ps.flatMap Piece.characters) ((cutPieces separator ps).parts start) := by
  induction ps generalizing start with
  | nil => exact .last fun _ _ hmem => by cases hmem
  | cons p ps ih =>
    have hwhole (hp : ClearOf separator [p]) : IsCut separator ([p].flatMap Piece.characters ++
        ps.flatMap Piece.characters) ((start, p :: (cutPieces separator ps).first) ::
          (cutPieces separator ps).later) :=
      (ih start).prepend hp start
    rw [List.flatMap_singleton] at hwhole
    rw [List.flatMap_cons]
    cases p with
    | placeholder p => exact hwhole fun _ _ hmem => by cases List.mem_singleton.mp hmem
    | literal l =>
      obtain ⟨position, raw, kind⟩ := l
      cases kind with
      | text => exact (cutText_textCut separator position raw.toList).prependTexts (ih start)
      | _ => exact hwhole fun _ _ hmem => by cases List.mem_singleton.mp hmem

/-- Where no plain text has the separator there is nothing to cut. -/
theorem cutPieces_of_clear {ps : List Piece} (h : ClearOf separator ps) :
    cutPieces separator ps = ⟨ps, []⟩ := by
  induction ps with
  | nil => rfl
  | cons p ps ih =>
    rw [cutPieces, ih fun start raw hmem => h start raw (List.mem_cons_of_mem p hmem)]
    cases p with
    | placeholder p => rfl
    | literal l =>
      obtain ⟨position, raw, kind⟩ := l
      cases kind with
      | text =>
        obtain ⟨hraw, hclear⟩ := h position raw List.mem_cons_self
        have huncut : cutText separator position raw.toList = (raw.toList, []) := by
          have hcut := cutText_textCut separator position raw.toList
          generalize cutText separator position raw.toList = cut at hcut
          obtain ⟨text, later⟩ := cut
          dsimp only at hcut
          generalize hcs : raw.toList = cs at hcut hclear
          cases hcut with
          | last _ => rfl
          | next _ _ => exact absurd (List.mem_append_right _ List.mem_cons_self) hclear
        simp [Cut.prepend, huncut, Cut.prependTexts, textPieces, hraw]
      | _ => rfl

/-- The section of a format with the pieces of a part. -/
def Format.part (f : Format) (part : Nat × List Piece) : Format :=
  { f with start := part.1, pieces := part.2 }

theorem Format.toList_split (f : Format) : (f.split separator).toList =
    ((cutPieces separator f.pieces).parts f.start).map f.part := rfl

section Parts

variable {cs : List Piece} {parts : List (Nat × List Piece)}

theorem IsCut.clear (h : IsCut separator cs parts) :
    ∀ part ∈ parts, ClearOf separator part.2 := by
  induction h with
  | last hclear => simpa using hclear
  | next hclear _ ih => exact List.forall_mem_cons.mpr ⟨hclear, ih⟩

theorem IsCut.flatMap_eq {β : Type} {φ : Piece → List β} {ψ : Char → List β}
    (htext : ∀ start cs, φ (.literal ⟨start, String.ofList cs, .text⟩) = cs.flatMap ψ)
    (h : IsCut separator cs parts) :
    (ψ separator).intercalate (parts.map fun part => part.2.flatMap φ) = cs.flatMap φ := by
  induction h with
  | last _ => simp [flatMap_characters ψ htext]
  | @next start position ps qs cs later _ _ ih =>
    have hseparator : φ (.literal ⟨position, String.ofList [separator], .text⟩) = ψ separator := by
      simpa using htext position [separator]
    simp only [List.map_cons] at ih ⊢
    rw [List.intercalate_cons_cons, ih, List.flatMap_append, List.flatMap_cons,
      flatMap_characters ψ htext, hseparator, List.append_assoc]

end Parts

/-- What can be told of plain text by its characters is the same of the sections with the separator
in between as of the format. -/
theorem Format.flatMap_split (separator : Char) {β : Type} {φ : Piece → List β}
    (ψ : Char → List β)
    (htext : ∀ start cs, φ (.literal ⟨start, String.ofList cs, .text⟩) = cs.flatMap ψ)
    (f : Format) :
    (ψ separator).intercalate ((f.split separator).toList.map fun g => g.pieces.flatMap φ) =
      f.pieces.flatMap φ := by
  have hcut := (cutPieces_isCut separator f.start f.pieces).flatMap_eq htext
  rw [flatMap_characters ψ htext] at hcut
  rw [f.toList_split, List.map_map]
  exact hcut

theorem Format.clearOf_of_mem_split {f g : Format} (hg : g ∈ (f.split separator).toList) :
    ClearOf separator g.pieces := by
  rw [f.toList_split] at hg
  obtain ⟨part, hpart, rfl⟩ := List.mem_map.mp hg
  exact (cutPieces_isCut separator f.start f.pieces).clear part hpart

theorem Format.others_split (separator : Char) (f : Format) :
    (f.split separator).toList.flatMap Format.others = f.others := by
  have htext (start : Nat) (cs : List Char) :
      Piece.other (.literal ⟨start, String.ofList cs, .text⟩) = cs.flatMap fun _ => [] := by
    simp [Piece.other]
  have hothers := f.flatMap_split separator (fun _ => []) htext
  rwa [nil_intercalate, ← List.flatMap_def] at hothers

theorem placeholder_mem_others {f : Format} {p : Placeholder} :
    Piece.placeholder p ∈ f.others ↔ p ∈ f.placeholders := by
  simp only [Format.others, Format.placeholders, List.mem_flatMap, List.mem_filterMap]
  refine exists_congr fun q => and_congr_right fun _ => ?_
  cases q with
  | placeholder q => simp [Piece.other, Piece.placeholder?, eq_comm]
  | literal l =>
    obtain ⟨start, raw, kind⟩ := l
    cases kind <;> simp [Piece.other, Piece.placeholder?]

/-- A placeholder of a section is one of the format. -/
theorem placeholders_subset_of_mem_split {f g : Format} (hg : g ∈ (f.split separator).toList) :
    g.placeholders ⊆ f.placeholders := by
  intro p hp
  rw [← placeholder_mem_others] at hp ⊢
  rw [← f.others_split separator]
  exact List.mem_flatMap.mpr ⟨g, hg, hp⟩

end Cutting

end Stencil
