import Stencil.Proofs.Render.Shifted
import Stencil.Proofs.Template.Sections
import Stencil.Proofs.WellFormed

/-!
# Sections are all of a format

Cutting a format into sections loses nothing but the separators: with them in between, the sections
have the text of the format, are written as it is and rendered as it is, and each stands where it
says in the template. Sections have no separators left to be cut at.
-/

namespace Stencil

set_option autoImplicit false

/-- A format in the tree of a template, a section of one, or a section of a section. -/
inductive Format.PartOf (root : Format) : Format → Prop
  | within {f : Format} (h : root.Within f) : Format.PartOf root f
  | cut {f g : Format} {separator : Char} (h : Format.PartOf root f)
      (hg : g ∈ (f.split separator).toList) : Format.PartOf root g

/-- From byte `start` on, the formats begin `width` bytes behind one another. -/
def SpacedFrom (width : Nat) : Nat → List Format → Prop
  | _, [] => True
  | start, g :: gs => g.start = start ∧ SpacedFrom width (g.stop + width) gs

/-- Renders formats in the same scope, with the separator written in between. -/
def Call.renderSections (c : Call) (levels : Nat) (s : Scope) (separator : Char) :
    List Format → RenderM Unit
  | [] => pure ()
  | [g] => c.renderFormat levels s g
  | g :: gs => do
    c.renderFormat levels s g
    modify (·.write separator.toString)
    c.renderSections levels s separator gs

section Places

variable {separator : Char} {text : String}

theorem IsCut.spaced {cs : List Piece} {parts : List (Nat × List Piece)}
    (h : IsCut separator cs parts) (f : Format) {start : Nat} (hcs : Consecutive start cs)
    (hhead : ∀ part ∈ parts.head?, part.1 = start) :
    SpacedFrom separator.utf8Size start (parts.map f.part) ∧
      ∀ part ∈ parts, Consecutive part.1 part.2 := by
  induction h generalizing start with
  | @last start' ps hclear =>
    obtain rfl : start' = start := hhead _ rfl
    have hps := (consecutive_characters fun s hmem => (hclear s "" hmem).1 rfl).mp hcs
    exact ⟨⟨rfl, trivial⟩, by simpa using hps⟩
  | @next start' position ps qs cs later hclear _ ih =>
    obtain rfl : start' = start := hhead _ rfl
    obtain ⟨hfront, hposition, -, hrest⟩ := consecutive_append.mp hcs
    have hps := (consecutive_characters fun s hmem => (hclear s "" hmem).1 rfl).mp hfront
    rw [piecesText_characters] at hposition
    have hstop : (f.part (start', ps)).stop = position := by
      rw [Format.stop_eq]
      exact hposition.symm
    have hnext : Piece.stop (.literal ⟨position, String.ofList [separator], .text⟩) =
        position + separator.utf8Size := by
      rw [Piece.stop_eq]
      simp [Piece.start, Piece.raw]
    rw [hnext] at hrest
    obtain ⟨hspaced, hall⟩ := ih hrest (by simp)
    refine ⟨⟨rfl, ?_⟩, List.forall_mem_cons.mpr ⟨hps, hall⟩⟩
    rw [hstop]
    exact hspaced

theorem Format.split_spaced {f : Format} (h : Consecutive f.start f.pieces) (separator : Char) :
    SpacedFrom separator.utf8Size f.start (f.split separator).toList ∧
      ∀ g ∈ (f.split separator).toList, Consecutive g.start g.pieces := by
  have hcut := cutPieces_isCut separator f.start f.pieces
  have hcharacters : Consecutive f.start (f.pieces.flatMap Piece.characters) := by
    rw [consecutive_characters fun start hmem => h.raw_ne hmem rfl]
    exact h
  obtain ⟨hspaced, hall⟩ := hcut.spaced f hcharacters (by simp [Cut.parts])
  rw [f.toList_split]
  exact ⟨hspaced, fun g hg => by
    obtain ⟨part, hpart, rfl⟩ := List.mem_map.mp hg
    exact hall part hpart⟩

/-- Formats that are spaced by a separator, and stand in a text with it in between, each stand where
they begin. -/
theorem SpacedFrom.standsAt {gs : List Format} {start : Nat}
    (h : SpacedFrom separator.utf8Size start gs)
    (htext : StandsAt text (separator.toString.intercalate (gs.map Format.raw)) start) :
    ∀ g ∈ gs, StandsAt text g.raw g.start := by
  induction gs generalizing start with
  | nil => simp
  | cons g gs ih =>
    obtain ⟨hstart, hlater⟩ := h
    subst hstart
    cases gs with
    | nil => simpa using htext
    | cons g' gs =>
      rw [List.map_cons, List.map_cons, String.intercalate_cons_cons] at htext
      have hwidth : g.start + (g.raw ++ separator.toString).utf8ByteSize =
          g.stop + separator.utf8Size := by
        rw [String.utf8ByteSize_append, ← Nat.add_assoc]
        simp [Format.stop]
      have hbehind := htext.right
      rw [hwidth] at hbehind
      refine List.forall_mem_cons.mpr ⟨?_, ih hlater hbehind⟩
      rw [String.append_assoc] at htext
      exact htext.left

end Places

section Texts

variable {d : Dialect}

/-- A text that a format has by its pieces, plain text for itself, is that of its sections with the
separator in between. -/
theorem Format.intercalate_split (F : Format → String) {φ : Piece → List Char}
    (hF : ∀ g, (F g).toList = g.pieces.flatMap φ)
    (htext : ∀ start cs, φ (.literal ⟨start, String.ofList cs, .text⟩) = cs) (separator : Char)
    (f : Format) :
    separator.toString.intercalate ((f.split separator).toList.map F) = F f := by
  have hsplit := f.flatMap_split separator (fun c => [c]) (by simpa using htext)
  rw [← String.toList_inj, String.toList_intercalate, List.map_map, hF, ← hsplit]
  simp [Function.comp_def, hF]

theorem Format.toList_written (f : Format) :
    (f.written d).toList = f.pieces.flatMap fun p => (p.written d).toList := by
  obtain ⟨start, depth, ps⟩ := f
  rw [Format.written]
  induction ps with
  | nil => simp
  | cons p ps ih => simp [ih]

end Texts

section Rendering

variable {separator : Char}

theorem IsCut.renderSections_eq {cs : List Piece} {parts : List (Nat × List Piece)}
    (h : IsCut separator cs parts) (f : Format) (c : Call) (levels : Nat) (s : Scope) :
    c.renderSections levels s separator (parts.map f.part) =
      c.renderPieces (c.nestWithin levels s) s cs := by
  induction h with
  | last _ =>
    rw [Call.renderPieces_characters]
    exact c.renderFormat_eq s levels _
  | @next start position ps qs cs later _ _ ih =>
    have hseparator : Literal.rendered ⟨position, String.ofList [separator], .text⟩ =
        separator.toString := by simp [Literal.rendered]
    simp only [List.map_cons] at ih ⊢
    rw [Call.renderSections, ih, Call.renderPieces_append, Call.renderPieces_characters,
      Call.renderPieces, hseparator, Call.renderFormat_eq]
    · rfl
    · simp

end Rendering

/-- What the sections of a format are, taken together and one by one. -/
structure Sections.Partition (d : Dialect) (text : String) (separator : Char) (f : Format)
    (s : Sections) : Prop where
  raw : separator.toString.intercalate (s.toList.map Format.raw) = f.raw
  written : separator.toString.intercalate (s.toList.map (Format.written d)) = f.written d
  spaced : SpacedFrom separator.utf8Size f.start s.toList
  stands : ∀ g ∈ s.toList, StandsAt text g.raw g.start ∧ g.depth = f.depth
  clear : ∀ g ∈ s.toList, separator ∉ g.ownText
  again : ∀ g ∈ s.toList, g.split separator = ⟨g, []⟩
  count : s.count = f.ownText.count separator + 1
  /-- Placeholders, character literals and messages, whole and in order. -/
  others : s.toList.flatMap Format.others = f.others
  rendered : ∀ (c : Call) (levels : Nat) (scope : Scope),
    c.renderSections levels scope separator s.toList = c.renderFormat levels scope f

section Partition

variable {d : Dialect} {text : String} {separator : Char} {f g : Format}

theorem Format.not_mem_ownText_of_mem_split (hg : g ∈ (f.split separator).toList) :
    separator ∉ g.ownText := by
  intro hmem
  obtain ⟨p, hp, hseparator⟩ := List.mem_flatMap.mp hmem
  cases p with
  | placeholder p => cases hseparator
  | literal l =>
    obtain ⟨start, raw, kind⟩ := l
    cases kind with
    | text => exact (Format.clearOf_of_mem_split hg start raw hp).2 hseparator
    | _ => cases hseparator

/-- There is one section more than separators in plain text. -/
theorem Format.count_split (f : Format) :
    (f.split separator).count = f.ownText.count separator + 1 := by
  have htext (start : Nat) (cs : List Char) :
      Piece.ownText (.literal ⟨start, String.ofList cs, .text⟩) = cs.flatMap fun c => [c] := by
    simp [Piece.ownText]
  have hjoin := f.flatMap_split separator (fun c => [c]) htext
  have hsplit : f.ownText.splitOn separator =
      (f.split separator).toList.map Format.ownText := by
    rw [Format.ownText, ← hjoin]
    refine List.splitOn_intercalate separator (fun l hl => ?_) (by simp [Sections.toList])
    obtain ⟨g, hg, rfl⟩ := List.mem_map.mp hl
    exact not_mem_ownText_of_mem_split hg
  have hlength := length_splitOn separator f.ownText
  rw [hsplit, List.length_map] at hlength
  exact hlength

theorem Format.split_of_mem_split (hg : g ∈ (f.split separator).toList) :
    g.split separator = ⟨g, []⟩ := by
  rw [Format.split, cutPieces_of_clear (Format.clearOf_of_mem_split hg)]
  cases g
  rfl

theorem Format.partition_split (hpieces : Consecutive f.start f.pieces)
    (hstands : StandsAt text f.raw f.start) (d : Dialect) (separator : Char) :
    (f.split separator).Partition d text separator f := by
  obtain ⟨hspaced, -⟩ := Format.split_spaced hpieces separator
  have hraw := Format.intercalate_split Format.raw Format.toList_raw (by simp [Piece.raw])
    separator f
  refine ⟨hraw, ?_, hspaced, fun g hg => ⟨?_, ?_⟩, fun g => not_mem_ownText_of_mem_split,
    fun g => split_of_mem_split, f.count_split, f.others_split separator, fun c levels scope => ?_⟩
  · exact Format.intercalate_split _ Format.toList_written (by simp [Piece.written]) separator f
  · exact hspaced.standsAt (hraw ▸ hstands) g hg
  · rw [f.toList_split] at hg
    obtain ⟨part, -, rfl⟩ := List.mem_map.mp hg
    rfl
  · rw [f.toList_split, (cutPieces_isCut separator f.start f.pieces).renderSections_eq,
      Call.renderPieces_characters, Call.renderFormat_eq]

/-- Of a template that was read, the sections of every format, and the sections of those, are all of
the format, separators apart. -/
theorem split_partition {t : Template} (h : Template.parse d text = .ok t)
    (hf : t.format.PartOf f) (separator : Char) :
    (f.split separator).Partition d text separator f := by
  have hplaced : Consecutive f.start f.pieces ∧ StandsAt text f.raw f.start := by
    induction hf with
    | within hwithin =>
      have hread := readAt_of_within h hwithin
      exact ⟨hread.consecutive, hread.standsAt⟩
    | @cut f g separator _ hg ih =>
      obtain ⟨hpieces, hstands⟩ := ih
      exact ⟨(Format.split_spaced hpieces separator).2 g hg,
        ((Format.partition_split hpieces hstands d separator).stands g hg).1⟩
  exact Format.partition_split hplaced.1 hplaced.2 d separator

/-- A section of a nested format, with a separator of the outer cut inside a placeholder, cut once
more at another separator. -/
theorem split_partition_section : ∃ t g,
    Template.parse {} "{0:a,b|{x:y|z},c|}" = .ok t ∧ t.format.PartOf g ∧ g.raw = "{x:y|z},c" ∧
      (g.split ',').count = 2 ∧
      (g.split ',').Partition {} "{0:a,b|{x:y|z},c|}" ',' g := by
  let picked (t : Template) := (t.format.placeholders[0]?.bind Placeholder.format).bind fun f =>
    (f.split '|').toList[1]?
  have hany : (Template.parse {} "{0:a,b|{x:y|z},c|}").toOption.any (fun t => (picked t).any
      fun g => g.raw == "{x:y|z},c" && (g.split ',').count == 2) = true := by
    decide +kernel
  obtain ⟨t, hread, hpicked⟩ := exists_parse_of_any hany
  obtain ⟨g, hg, hchecked⟩ := (Option.any_eq_true ..).mp hpicked
  obtain ⟨f, hf, hsection⟩ := Option.bind_eq_some_iff.mp hg
  obtain ⟨p, hp, hformat⟩ := Option.bind_eq_some_iff.mp hf
  have hpart : t.format.PartOf g :=
    .cut (.within (.nested .self (List.mem_of_getElem? hp) hformat)) (List.mem_of_getElem? hsection)
  simp only [Bool.and_eq_true, beq_iff_eq] at hchecked
  exact ⟨t, g, hread, hpart, hchecked.1, hchecked.2, split_partition hread hpart ','⟩

end Partition

end Stencil
