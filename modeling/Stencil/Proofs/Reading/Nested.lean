import Stencil.Proofs.Reading.Placeholder

/-!
# Nested formats where they stand

Every format in the tree of a template was read from a stretch of its text, by the same rules and
with one level of nesting less for each placeholder around it.
-/

namespace Stencil

set_option autoImplicit false

/-- The format itself, and the formats nested in its placeholders at any depth. -/
inductive Format.Within (root : Format) : Format → Prop
  | self : Format.Within root root
  | nested {f g : Format} {p : Placeholder} (outer : Format.Within root f)
      (hp : p ∈ f.placeholders) (hformat : p.format = some g) : Format.Within root g

/-- A stretch of `text` is read as `f`, with issues that are all on record. -/
structure ReadAt (d : Dialect) (text : String) (record : List Issue) (f : Format) : Prop where
  reads : ∃ levels before inner after run issues, levels + f.depth = d.maxDepth ∧
    text.toList = before ++ (inner ++ after) ∧ utf8Width before = f.start ∧
    f = run.toFormat f.start f.depth ∧ issues ⊆ record ∧
    PiecesRead d (decide (f.depth ≠ 0)) (readPlaceholderWithin d levels (f.depth + 1)) f.start
      inner after run issues

section Placeholders

theorem Piece.mem_piecesFrom {q : Piece} {run : Run} {start : Nat} :
    q ∈ run.piecesFrom start ↔
      run.lead ≠ [] ∧ q = .literal ⟨start, String.ofList run.lead, .text⟩ ∨ q ∈ run.pieces := by
  unfold Run.piecesFrom
  cases run.lead <;> simp

theorem mem_placeholders {p : Placeholder} {f : Format} :
    p ∈ f.placeholders ↔ Piece.placeholder p ∈ f.pieces := by
  simp only [Format.placeholders, List.mem_filterMap]
  constructor
  · rintro ⟨q, hq, heq⟩
    cases q with
    | literal l => cases heq
    | placeholder p' =>
      cases heq
      exact hq
  · intro hp
    exact ⟨_, hp, rfl⟩

theorem placeholder_mem_piecesFrom {p : Placeholder} {run : Run} {start : Nat} :
    Piece.placeholder p ∈ run.piecesFrom start ↔ Piece.placeholder p ∈ run.pieces := by
  simp [Piece.mem_piecesFrom]

theorem placeholder_mem_prependLiteral {p : Placeholder} {run : Run} {start : Nat}
    {text : List Char} {kind : LiteralKind} :
    Piece.placeholder p ∈ (run.prependLiteral start text kind).pieces ↔
      Piece.placeholder p ∈ run.pieces := by
  simp [Run.prependLiteral, placeholder_mem_piecesFrom]

theorem placeholder_mem_prependMalformed {p : Placeholder} {d : Dialect} {run : Run} {start : Nat}
    {text : List Char} {issue : Issue} :
    Piece.placeholder p ∈ (run.prependMalformed d start text issue).pieces ↔
      Piece.placeholder p ∈ run.pieces := by
  unfold Run.prependMalformed
  cases d.onMalformed <;>
    simp [placeholder_mem_prependLiteral, placeholder_mem_piecesFrom, Run.prependText]

/-- Somewhere in `text`, of which `rest` is what comes behind it, `p` is read, with issues that are
all among `issues`. -/
def PlaceholderAt (d : Dialect) (readPlaceholder : Nat → List Char → Reading Placeholder)
    (position : Nat) (text rest : List Char) (issues : List Issue) (p : Placeholder) : Prop :=
  ∃ before body after own, text = before ++ (d.opening :: body ++ after) ∧ own ⊆ issues ∧
    p.start = position + utf8Width before ∧ p.raw = String.ofList (d.opening :: body) ∧
    readPlaceholder p.start (body ++ (after ++ rest)) = ⟨own, .ok p⟩

variable {d : Dialect} {nested : Bool} {readPlaceholder : Nat → List Char → Reading Placeholder}
  {position : Nat} {text rest : List Char} {run : Run} {issues more : List Issue}
  {p : Placeholder}

theorem PlaceholderAt.shift (front : List Char)
    (h : PlaceholderAt d readPlaceholder (position + utf8Width front) text rest issues p)
    (hmore : issues ⊆ more) :
    PlaceholderAt d readPlaceholder position (front ++ text) rest more p := by
  obtain ⟨before, body, after, own, rfl, hown, hstart, hraw, hread⟩ := h
  refine ⟨front ++ before, body, after, own, by simp, fun i hi => hmore (hown hi), ?_, hraw, hread⟩
  simpa [Nat.add_assoc] using hstart

/-- Every placeholder of a run was read from a stretch of its text. -/
theorem PiecesRead.placeholderAt
    (h : PiecesRead d nested readPlaceholder position text rest run issues)
    (hp : Piece.placeholder p ∈ run.pieces) :
    PlaceholderAt d readPlaceholder position text rest issues p := by
  induction h with
  | done _ => cases hp
  | @text position c _ _ _ _ _ _ ih => exact (ih hp).shift [c] (List.Subset.refl _)
  | @braceEscape position c b _ _ run _ _ _ ih =>
    have hmem : Piece.placeholder p ∈ (run.prependText [b]).pieces :=
      placeholder_mem_prependLiteral.mp hp
    have hinner := ih hmem
    rw [Nat.add_assoc] at hinner
    exact hinner.shift [c, b] (List.Subset.refl _)
  | @charLiteral position c body _ _ _ _ _ _ _ ih =>
    have hinner := ih (placeholder_mem_prependLiteral.mp hp)
    rw [Nat.add_assoc] at hinner
    exact hinner.shift (c :: body) (List.Subset.refl _)
  | @doubledBrace position c _ _ _ _ _ _ ih =>
    have hinner := ih (placeholder_mem_prependLiteral.mp hp)
    rw [Nat.add_assoc] at hinner
    exact hinner.shift [c, c] (List.Subset.refl _)
  | @placeholder position body text rest q run before after _ hread hstart hraw _ ih =>
    simp only [Run.prependPlaceholder, List.mem_cons, placeholder_mem_piecesFrom] at hp
    rcases hp with heq | hp
    · cases heq
      exact ⟨[], body, text, before, rfl, List.subset_append_left _ _, hstart, hraw, hstart ▸ hread⟩
    · have hinner := ih hp
      rw [Placeholder.stop, hstart, hraw, utf8ByteSize_ofList] at hinner
      exact hinner.shift (d.opening :: body) (List.subset_append_right _ _)
  | @malformed position body text rest issue run before after _ _ _ _ _ ih =>
    have hinner := ih (placeholder_mem_prependMalformed.mp hp)
    rw [Nat.add_assoc] at hinner
    refine hinner.shift (d.opening :: body) fun i hi => ?_
    exact List.mem_append_right _ (List.mem_cons_of_mem _ hi)
  | @unmatched position c _ _ _ _ _ _ _ ih =>
    exact (ih (placeholder_mem_prependMalformed.mp hp)).shift [c] (List.subset_cons_self _ _)

end Placeholders

section Within

variable {d : Dialect} {text : String} {record : List Issue} {f g : Format} {p : Placeholder}

theorem ReadAt.nested (h : ReadAt d text record f) (hp : p ∈ f.placeholders)
    (hformat : p.format = some g) : ReadAt d text record g := by
  obtain ⟨levels, before, inner, after, run, issues, hlevels, htext, hbefore, hf, hsub, hread⟩ :=
    h.reads
  have hpieces : Piece.placeholder p ∈ run.pieces := by
    rw [mem_placeholders, hf] at hp
    exact placeholder_mem_piecesFrom.mp hp
  obtain ⟨front, body, behind, own, rfl, hown, hstart, -, hplaceholder⟩ :=
    hread.placeholderAt hpieces
  obtain ⟨outer, body', rest, rfl, hbody, hread'⟩ := readPlaceholderWithin_eq_ok_iff.mp hplaceholder
  obtain ⟨lead, inner', tail, run', rfl, rfl, hnested⟩ := hread'.nested hformat
  obtain ⟨text', rest', hinner, hpiecesRead⟩ := readPieces_eq_ok_iff.mp hnested
  refine ⟨outer, before ++ front ++ d.opening :: lead, text', rest', run', own, ?_, ?_, ?_, rfl,
    fun i hi => hsub (hown hi), by simpa [Run.toFormat] using hpiecesRead⟩
  · simp only [Run.toFormat]
    omega
  · simp [htext, ← hinner, hbody]
  · simp [Run.toFormat, hbefore, hstart, Nat.add_assoc]

/-- Every format of a template that was read is the reading of a stretch of its text. -/
theorem readAt_of_within {t : Template} (h : Template.parse d text = .ok t)
    (hf : t.format.Within f) : ReadAt d text t.issues f := by
  induction hf with
  | self =>
    obtain ⟨run, issues, rfl, hread⟩ := parse_eq_ok_iff.mp h
    exact ⟨d.maxDepth, [], text.toList, [], run, issues, rfl, by simp, rfl, rfl,
      List.Subset.refl _, hread⟩
  | nested _ hp hformat ih => exact ih.nested hp hformat

end Within

end Stencil
