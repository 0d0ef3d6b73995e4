import Stencil.Proofs.Template.Written
import Stencil.Proofs.Tiling

/-!
# Well-formed trees

Whatever the delimiters of a dialect are and whatever was put aside on the way, a tree keeps to the
dialect, and each place that it notes down is where a character of the template begins or ends: the
bytes between two places that belong together are the text that is noted down with them.
-/

namespace Stencil

set_option autoImplicit false

section Excerpts

/-- The excerpt is what stands in `text` between its two ends. -/
structure Excerpt.SliceOf (text : String) (e : Excerpt) : Prop where
  ordered : e.start ≤ e.stop
  start_valid : (String.Pos.Raw.mk e.start).IsValid text
  stop_valid : (String.Pos.Raw.mk e.stop).IsValid text
  bytes_eq : text.toByteArray.extract e.start e.stop = e.text.toByteArray

/-- The excerpt is a stretch of `cs`, which begins at byte `start` of the template. -/
def Excerpt.CutFrom (start : Nat) (cs : List Char) (e : Excerpt) : Prop :=
  ∃ before part after, cs = before ++ part ++ after ∧ e = .ofList (start + utf8Width before) part

variable {text front part behind : String} {start place : Nat} {cs : List Char} {e : Excerpt}

theorem StandsAt.left (h : StandsAt text (part ++ behind) start) : StandsAt text part start := by
  obtain ⟨before, after, rfl, rfl⟩ := h
  exact ⟨before, behind ++ after, by simp [String.append_assoc], rfl⟩

theorem StandsAt.right (h : StandsAt text (front ++ part) start) :
    StandsAt text part (start + front.utf8ByteSize) := by
  obtain ⟨before, after, rfl, rfl⟩ := h
  exact ⟨before ++ front, after, by simp [String.append_assoc], by simp⟩

/-- What stands in a text begins and ends where one of its characters does. -/
theorem StandsAt.isValid (h : StandsAt text part start) :
    (String.Pos.Raw.mk start).IsValid text ∧
      (String.Pos.Raw.mk (start + part.utf8ByteSize)).IsValid text := by
  obtain ⟨before, after, rfl, rfl⟩ := h
  simp only [String.Pos.Raw.isValid_iff_exists_append]
  refine ⟨⟨before, part ++ after, String.append_assoc, rfl⟩, before ++ part, after, rfl, ?_⟩
  exact String.Pos.Raw.ext String.utf8ByteSize_append.symm

/-- What stands in a text is the slice of it from the first byte to the last. -/
theorem StandsAt.sliceOf (h : StandsAt text e.text e.start)
    (hstop : e.stop = e.start + e.text.utf8ByteSize) : e.SliceOf text := by
  obtain ⟨hstartValid, hstopValid⟩ := h.isValid
  obtain ⟨before, after, rfl, hstart⟩ := h
  have hcut := ByteArray.extract_append_size_add (a := before.toByteArray)
    (b := e.text.toByteArray ++ after.toByteArray) (i := 0) (j := e.text.toByteArray.size)
  rw [Nat.add_zero, ByteArray.extract_append_eq_left rfl] at hcut
  refine ⟨by omega, hstartValid, hstop ▸ hstopValid, ?_⟩
  rw [hstop, ← hstart]
  simpa [String.append_assoc] using hcut

/-- An excerpt is as long as its text. -/
theorem Excerpt.SliceOf.stop_eq (h : e.SliceOf text) : e.stop = e.start + e.text.utf8ByteSize := by
  have hlength := congrArg ByteArray.size h.bytes_eq
  rw [ByteArray.size_extract, String.size_toByteArray, String.size_toByteArray] at hlength
  have hstop : e.stop ≤ text.utf8ByteSize := h.stop_valid.le_rawEndPos
  have hordered := h.ordered
  omega

theorem Excerpt.CutFrom.of_ofList {part : List Char} (before after : List Char)
    (hplace : place = start + utf8Width before) (hcs : cs = before ++ part ++ after) :
    (Excerpt.ofList place part).CutFrom start cs :=
  ⟨before, part, after, hcs, by rw [hplace]⟩

/-- What is cut from a part of a text is cut from the text. -/
theorem Excerpt.CutFrom.within (h : e.CutFrom place cs) (before after : List Char)
    (hplace : place = start + utf8Width before) : e.CutFrom start (before ++ cs ++ after) := by
  obtain ⟨front, part, behind, rfl, rfl⟩ := h
  exact .of_ofList (before ++ front) (behind ++ after) (by simp [hplace, Nat.add_assoc]) (by simp)

theorem Excerpt.CutFrom.bounds (h : e.CutFrom start cs) :
    start ≤ e.start ∧ e.start ≤ e.stop ∧ e.stop ≤ start + utf8Width cs := by
  obtain ⟨front, part, behind, rfl, rfl⟩ := h
  simp only [ofList, utf8Width_append]
  omega

theorem Excerpt.CutFrom.text_eq_empty (h : e.CutFrom start cs) (he : e.start = e.stop) :
    e.text = "" := by
  obtain ⟨front, part, behind, rfl, rfl⟩ := h
  simp only [ofList] at he
  have hpart : part = [] := (utf8Width_eq_zero_iff part).mp (by omega)
  rw [hpart]
  rfl

theorem Excerpt.CutFrom.sliceOf (h : e.CutFrom start cs)
    (hstands : StandsAt text (String.ofList cs) start) : e.SliceOf text := by
  obtain ⟨front, part, behind, rfl, rfl⟩ := h
  rw [String.ofList_append, String.ofList_append] at hstands
  refine StandsAt.sliceOf ?_ ?_
  · simpa [ofList, utf8ByteSize_ofList] using hstands.left.right
  · simp [ofList, utf8ByteSize_ofList]

end Excerpts

section Selectors

namespace Selector

/-- The selector without the mark before it. -/
def excerpt (s : Selector) : Excerpt := ⟨s.start, s.stop, s.text⟩

def markedExcerpt (s : Selector) : Excerpt := ⟨s.markStart, s.stop, s.marked⟩

/-- From byte `position` on, each selector with its mark begins where the one before it ends. -/
def EndToEnd (d : Dialect) : Nat → List Selector → Prop
  | _, [] => True
  | position, s :: later =>
    s.markStart = position ∧ s.mark = d.markBefore s.index ∧ EndToEnd d s.stop later

end Selector

variable {d : Dialect} {path : List String} {s : Selector}

theorem selectorsFrom_index (index position : Nat) :
    (selectorsFrom d index position path).map Selector.index = List.range' index path.length := by
  induction path generalizing index position with
  | nil => rfl
  | cons text later ih =>
    rw [selectorsFrom, List.map_cons, ih, List.length_cons, List.range'_succ]
    rfl

@[simp] theorem length_selectorsFrom (index position : Nat) :
    (selectorsFrom d index position path).length = path.length := by
  rw [← List.length_map (f := Selector.text), selectorsFrom_text]

theorem selectorsFrom_endToEnd (index position : Nat) :
    Selector.EndToEnd d position (selectorsFrom d index position path) := by
  induction path generalizing index position with
  | nil => trivial
  | cons text later ih => exact ⟨rfl, rfl, ih (index + 1) _⟩

theorem Selector.excerpt_placed (index position : Nat) (text : String) :
    (Selector.placed d index position text).excerpt =
      .ofList (position + utf8Width (d.markBefore index).toList) text.toList := by
  simp [excerpt, placed, Excerpt.ofList, utf8Width_toList]

theorem Selector.markedExcerpt_placed (index position : Nat) (text : String) :
    (Selector.placed d index position text).markedExcerpt =
      .ofList position ((d.markBefore index).toList ++ text.toList) := by
  simp [markedExcerpt, marked, placed, Excerpt.ofList, utf8Width_toList, Nat.add_assoc]

/-- Of the text that selectors are laid end to end in, each is a stretch, with its mark and
without. -/
theorem selectorsFrom_cut {index position : Nat} (hs : s ∈ selectorsFrom d index position path) :
    ∀ e ∈ [s.markedExcerpt, s.excerpt], e.CutFrom position
      (Placeholder.pathText (selectorsFrom d index position path)).toList := by
  induction path generalizing index position with
  | nil => cases hs
  | cons text later ih =>
    let next := (Selector.placed d index position text).stop
    have hpath : (Placeholder.pathText (selectorsFrom d index position (text :: later))).toList =
        (d.markBefore index).toList ++ text.toList ++
          (Placeholder.pathText (selectorsFrom d (index + 1) next later)).toList := by
      rw [selectorsFrom, Placeholder.pathText, List.map_cons, String.join_cons,
        String.toList_append, Selector.marked, String.toList_append]
      rfl
    rw [hpath]
    rcases List.mem_cons.mp hs with rfl | hs
    · simp only [List.forall_mem_cons, Selector.markedExcerpt_placed, Selector.excerpt_placed]
      exact ⟨.of_ofList [] _ rfl rfl, .of_ofList (d.markBefore index).toList _ rfl rfl, by simp⟩
    · intro e he
      have hstop : (Selector.placed d index position text).stop =
          position + utf8Width ((d.markBefore index).toList ++ text.toList) := by
        simp [Selector.placed, utf8Width_toList, Nat.add_assoc]
      have hlater := (ih hs e he).within _ [] hstop
      rwa [List.append_nil] at hlater

end Selectors

section Parts

def Format.excerpt (f : Format) : Excerpt := ⟨f.start, f.stop, f.raw⟩

/-- The name, the options and the nested format of a placeholder, as far as there are any. Where no
formatter is named, an empty name stands before the nested format. -/
def partsOf (nameAt : Excerpt) (optionsAt : Option Excerpt) (format : Option Format) :
    List Excerpt :=
  nameAt :: (optionsAt.toList ++ (format.map Format.excerpt).toList)

/-- What a specification says is cut from its text, one thing behind the other, and what it names
may be named. -/
structure Specification.LaidOut (d : Dialect) (depth position : Nat) (text : List Char)
    (spec : Specification) : Prop where
  cut : ∀ e ∈ partsOf spec.nameAt spec.optionsAt spec.format, e.CutFrom position text
  ordered : (partsOf spec.nameAt spec.optionsAt spec.format).Pairwise
    fun e later => e.stop ≤ later.start
  format_depth : ∀ f ∈ spec.format, f.depth = depth
  named : spec.name ≠ "" → d.acceptsName spec.name = true ∧
    (spec.options.isSome = true ∨ spec.format.isSome = true)
  options_named : spec.options.isSome = true → spec.name ≠ ""

variable {d : Dialect} {levels depth position : Nat} {inner rest : List Char} {issues : List Issue}
  {spec : Specification}

theorem excerpt_toFormat_of_readNestedWithin {run : Run}
    (hread : readNestedWithin d levels depth position (inner ++ rest) = ⟨issues, .ok run⟩)
    (hstop : run.stop = ⟨position + utf8Width inner, rest⟩) :
    (run.toFormat position depth).excerpt = .ofList position inner := by
  have hraw : (run.toFormat position depth).raw = String.ofList inner := by
    rw [← String.toList_inj, Format.toList_raw, String.toList_ofList]
    exact (piecesRead_of_readNestedWithin hread hstop).spells.piecesFrom.2
  rw [Format.excerpt, Format.stop, hraw, utf8ByteSize_ofList]
  rfl

theorem SpecificationRead.laidOut
    (h : SpecificationRead d depth (readNestedWithin d levels depth) position inner rest spec
      issues) : spec.LaidOut d depth position inner := by
  cases h with
  | absent _ =>
    refine ⟨?_, ?_, by simp, by simp [Specification.name], by simp [Specification.options]⟩
    · simp only [partsOf, Option.toList_none, Option.map_none, List.append_nil,
        List.forall_mem_singleton]
      exact .of_ofList [] [] rfl rfl
    · simp [partsOf]
  | @format text _ run _ _ hbody hstop =>
    have hnested := excerpt_toFormat_of_readNestedWithin hbody hstop
    refine ⟨?_, ?_, by simp [Run.toFormat], by simp [Specification.name],
      by simp [Specification.options]⟩
    · simp only [partsOf, Option.toList_none, Option.map_some, hnested, Option.toList_some,
        List.nil_append, List.forall_mem_cons]
      exact ⟨.of_ofList [d.formatMark] text rfl rfl, .of_ofList [d.formatMark] [] rfl (by simp),
        by simp⟩
    · simp [partsOf, hnested, Excerpt.ofList]
  | @named start name text _ run _ hname _ _ hstart hbody hstop =>
    have hnested := excerpt_toFormat_of_readNestedWithin hbody hstop
    refine ⟨?_, ?_, by simp [Run.toFormat], fun _ => ⟨hname.accepted, .inr rfl⟩,
      by simp [Specification.options]⟩
    · simp only [partsOf, Option.toList_none, Option.map_some, hnested, Option.toList_some,
        List.nil_append, List.forall_mem_cons]
      exact ⟨.of_ofList [d.formatMark] (d.formatMark :: text) rfl (by simp),
        .of_ofList (d.formatMark :: name ++ [d.formatMark]) [] hstart (by simp), by simp⟩
    · have hlater : start = position + d.formatMark.utf8Size + utf8Width name +
          d.formatMark.utf8Size := by simp [hstart, Nat.add_assoc]
      simp only [partsOf, Option.toList_none, Option.map_some, hnested, Option.toList_some,
        List.nil_append, List.pairwise_pair, Excerpt.ofList]
      omega
  | @options name options _ stop hname _ _ _ _ _ =>
    have hne : String.ofList name ≠ "" := by simpa using hname.nonempty
    refine ⟨?_, ?_, by simp, fun _ => ⟨hname.accepted, .inl rfl⟩, fun _ => hne⟩
    · simp only [partsOf, Option.toList_some, Option.map_none, Option.toList_none,
        List.append_nil, List.forall_mem_cons]
      exact ⟨.of_ofList [d.formatMark] (d.optionsOpening :: options ++ [d.optionsClosing]) rfl
          (by simp),
        .of_ofList (d.formatMark :: name ++ [d.optionsOpening]) [d.optionsClosing]
          (by simp [Nat.add_assoc]) (by simp), by simp⟩
    · simp [partsOf, Excerpt.ofList]
  | @optionsFormat start name options text _ run _ hname _ _ hstart hbody hstop =>
    have hnested := excerpt_toFormat_of_readNestedWithin hbody hstop
    have hne : String.ofList name ≠ "" := by simpa using hname.nonempty
    refine ⟨?_, ?_, by simp [Run.toFormat], fun _ => ⟨hname.accepted, .inl rfl⟩, fun _ => hne⟩
    · simp only [partsOf, Option.toList_some, Option.map_some, hnested, List.cons_append,
        List.nil_append, List.forall_mem_cons]
      exact ⟨.of_ofList [d.formatMark] (d.optionsOpening :: options ++
            [d.optionsClosing, d.formatMark] ++ text) rfl (by simp),
        .of_ofList (d.formatMark :: name ++ [d.optionsOpening])
          ([d.optionsClosing, d.formatMark] ++ text) (by simp [Nat.add_assoc]) (by simp),
        .of_ofList (d.formatMark :: name ++ d.optionsOpening :: options ++
          [d.optionsClosing, d.formatMark]) [] hstart (by simp), by simp⟩
    · have hlater : start = position + d.formatMark.utf8Size + utf8Width name +
          d.optionsOpening.utf8Size + utf8Width options + d.optionsClosing.utf8Size +
          d.formatMark.utf8Size := by simp [hstart, Nat.add_assoc]
      simp [partsOf, hnested, Excerpt.ofList]
      omega

end Parts

theorem mem_partsOf_of_format {nameAt : Excerpt} {optionsAt : Option Excerpt}
    {format : Option Format} {f : Format} (hf : f ∈ format) :
    f.excerpt ∈ partsOf nameAt optionsAt format := by
  obtain rfl : format = some f := hf
  simp [partsOf]

namespace Placeholder

def parts (p : Placeholder) : List Excerpt := partsOf p.nameAt p.optionsAt p.format

/-- All that a placeholder notes down the place of: itself, its selectors, each with its mark and
without, and its parts. -/
def excerpts (p : Placeholder) : List Excerpt :=
  ⟨p.start, p.stop, p.raw⟩ ::
    ((p.selectors.flatMap fun s => [s.markedExcerpt, s.excerpt]) ++ p.parts)

/-- What a placeholder of a template says of itself is so, where its format has the depth
`depth`. -/
structure WellFormed (d : Dialect) (text : String) (depth : Nat) (p : Placeholder) : Prop where
  depth_eq : p.depth = depth + 1
  depth_le : p.depth ≤ d.maxDepth
  braced : ∃ inner, p.raw = d.opening.toString ++ inner ++ d.closing.toString
  selectors_ne_nil : p.selectors ≠ []
  selector_index : p.selectors.map Selector.index = List.range p.selectors.length
  selector_alone : ∀ s ∈ p.selectors, s.isEmpty = true → p.selectors = [s]
  selectors_endToEnd : Selector.EndToEnd d (p.start + d.opening.utf8Size) p.selectors
  selectors_before : ∀ s ∈ p.selectors, s.stop ≤ p.nameAt.start
  alignment_le : p.alignment.natAbs ≤ d.maxAlignment
  named : p.name ≠ "" → d.acceptsName p.name = true ∧
    (p.options.isSome = true ∨ p.format.isSome = true)
  options_named : p.options.isSome = true → p.name ≠ ""
  nested : ∀ f ∈ p.format, f.depth = p.depth ∧ p.start < f.start ∧ f.stop < p.stop
  parts_inside : ∀ e ∈ p.parts, p.start < e.start ∧ e.stop < p.stop
  parts_ordered : p.parts.Pairwise fun e later => e.stop ≤ later.start
  slices : ∀ e ∈ p.excerpts, e.SliceOf text

end Placeholder

def Piece.excerpt (q : Piece) : Excerpt := ⟨q.start, q.stop, q.raw⟩

/-- Everything in a format stands where it says, and its placeholders are well formed. -/
structure Format.WellFormed (d : Dialect) (text : String) (f : Format) : Prop where
  slice : f.excerpt.SliceOf text
  piece_slice : ∀ q ∈ f.pieces, q.excerpt.SliceOf text
  placeholders : ∀ p ∈ f.placeholders, p.WellFormed d text f.depth

section Reading

variable {d : Dialect} {levels depth position : Nat} {text : String} {body rest : List Char}
  {issues record : List Issue} {p : Placeholder} {f : Format} {s : Selector}

theorem AlignmentText.natAbs_le {text : List Char} {a : Int} (h : AlignmentText d text a) :
    a.natAbs ≤ d.maxAlignment := by
  cases h with
  | absent => exact Nat.zero_le _
  | written negative digits _ _ allowed =>
    simp only [Dialect.allowsAlignment, Bool.and_eq_true, decide_eq_true_eq] at allowed
    exact allowed.2

theorem Placeholder.WellFormed.path_ne_nil (h : p.WellFormed d text depth) : p.path ≠ [] :=
  fun hpath => h.selectors_ne_nil (List.map_eq_nil_iff.mp hpath)

/-- The value in scope is meant just where the only selector ends where it begins. -/
theorem Placeholder.WellFormed.isCurrent_iff (h : p.WellFormed d text depth) :
    p.isCurrent = true ↔ ∃ s, p.selectors = [s] ∧ s.isEmpty = true := by
  have hempty : ∀ s ∈ p.selectors, (s.isEmpty = true ↔ s.text = "") := by
    intro s hs
    have hmem : s.excerpt ∈ p.excerpts := by
      refine List.mem_cons_of_mem _ (List.mem_append_left _ ?_)
      exact List.mem_flatMap.mpr ⟨s, hs, by simp⟩
    have hstop : s.stop = s.start + s.text.utf8ByteSize := (h.slices _ hmem).stop_eq
    rw [Selector.isEmpty, beq_iff_eq, ← String.utf8ByteSize_eq_zero_iff]
    omega
  rw [isCurrent, beq_iff_eq, path, List.map_eq_singleton_iff]
  constructor
  · rintro ⟨s, hs, htext⟩
    exact ⟨s, hs, (hempty s (hs ▸ List.mem_singleton_self s)).mpr htext⟩
  · rintro ⟨s, hs, hsame⟩
    exact ⟨s, hs, (hempty s (hs ▸ List.mem_singleton_self s)).mp hsame⟩
/-- Only a path of a single selector has an empty one. -/
theorem PathText.selectors_eq {pathText : List Char} {path : List String}
    (h : PathText d pathText path) (hs : s ∈ selectorsFrom d 0 position path)
    (hempty : s.isEmpty = true) :
    selectorsFrom d 0 position path = [s] := by
  have hcut := selectorsFrom_cut hs s.excerpt (by simp)
  have htext : s.text = "" := hcut.text_eq_empty (beq_iff_eq.mp hempty)
  have hmem : "" ∈ path := by
    rw [← selectorsFrom_text (d := d) 0 position path, ← htext]
    exact List.mem_map_of_mem hs
  rw [h.eq_of_empty_mem hmem] at hs ⊢
  rw [List.mem_singleton.mp hs]
  rfl

/-- The selectors of a placeholder are cut from the text behind its opening brace, and what follows
them from the text behind those. -/
theorem PlaceholderRead.cut
    (h : PlaceholderRead d depth (readNestedWithin d levels depth) position body rest p issues) :
    ∃ front back, body = front ++ back ++ [d.closing] ∧
      (∀ s ∈ p.selectors, ∀ e ∈ [s.markedExcerpt, s.excerpt],
        e.CutFrom (position + d.opening.utf8Size) front) ∧
      ∀ e ∈ p.parts, e.CutFrom (position + utf8Width (d.opening :: front)) back := by
  cases h with
  | @intro pathText alignText specText _ path alignment spec _ hpath _ _ _ hspec =>
    refine ⟨pathText, alignText ++ specText, by simp, fun s hs e he => ?_, fun e he => ?_⟩
    · have hcut := selectorsFrom_cut hs e he
      rwa [hpath.toList_pathText] at hcut
    · have hcut := (hspec.laidOut.cut e he).within alignText [] rfl
      rw [List.append_nil] at hcut
      simpa [Nat.add_assoc] using hcut

/-- What stands behind the path of a placeholder lies between it and the closing brace. -/
theorem PlaceholderRead.inside
    (h : PlaceholderRead d depth (readNestedWithin d levels depth) position body rest p issues) :
    (∀ e ∈ p.parts, p.start < e.start ∧ e.stop < p.stop) ∧
      ∀ s ∈ p.selectors, s.stop ≤ p.nameAt.start := by
  obtain ⟨front, back, hbody, hselectors, hparts⟩ := h.cut
  have hopening := d.opening.utf8Size_pos
  have hclosing := d.closing.utf8Size_pos
  have hstart := h.start_eq
  have hstop : p.stop = position + d.opening.utf8Size + utf8Width front + utf8Width back +
      d.closing.utf8Size := by
    rw [Placeholder.stop, hstart, h.raw_eq, hbody, utf8ByteSize_ofList]
    simp [Nat.add_assoc]
  simp only [utf8Width_cons] at hparts
  refine ⟨fun e he => ?_, fun s hs => ?_⟩
  · have hbounds := (hparts e he).bounds
    omega
  · have hname := (hparts p.nameAt List.mem_cons_self).bounds.1
    have hselector : s.stop ≤ position + d.opening.utf8Size + utf8Width front :=
      (hselectors s hs s.excerpt (by simp)).bounds.2.2
    omega

theorem PlaceholderRead.slices
    (h : PlaceholderRead d depth (readNestedWithin d levels depth) position body rest p issues)
    (hp : StandsAt text p.raw p.start) : ∀ e ∈ p.excerpts, e.SliceOf text := by
  obtain ⟨front, back, hbody, hselectors, hparts⟩ := h.cut
  have hstands : StandsAt text (String.ofList (d.opening :: body)) position := by
    rw [← h.raw_eq, ← h.start_eq]
    exact hp
  intro e he
  rcases List.mem_cons.mp he with rfl | he
  · exact StandsAt.sliceOf hp rfl
  · rcases List.mem_append.mp he with he | he
    · obtain ⟨s, hs, he⟩ := List.mem_flatMap.mp he
      have hcut := (hselectors s hs e he).within [d.opening] (back ++ [d.closing]) rfl
      exact Excerpt.CutFrom.sliceOf (by simpa [hbody] using hcut) hstands
    · have hcut := (hparts e he).within (d.opening :: front) [d.closing] rfl
      exact Excerpt.CutFrom.sliceOf (by simpa [hbody] using hcut) hstands

theorem PlaceholderRead.wellFormed
    (h : PlaceholderRead d (depth + 1) (readNestedWithin d levels (depth + 1)) position body rest p
      issues) (hdepth : depth + 1 ≤ d.maxDepth) (hp : StandsAt text p.raw p.start) :
    p.WellFormed d text depth := by
  obtain ⟨hinside, hbefore⟩ := h.inside
  have hslices := h.slices hp
  cases h with
  | @intro pathText alignText specText _ path alignment spec _ hpath _ halign _ hspec =>
    obtain ⟨-, hordered, hformat, hnamed, hoptions⟩ := hspec.laidOut
    have hselectors : (selectorsFrom d 0 (position + d.opening.utf8Size) path).length ≠ 0 := by
      simpa using hpath.ne_nil
    have hbraced : String.ofList (d.opening :: (pathText ++ alignText ++ specText ++ [d.closing])) =
        d.opening.toString ++ String.ofList (pathText ++ alignText ++ specText) ++
          d.closing.toString := by
      rw [← String.toList_inj]
      simp
    exact
      { depth_eq := rfl
        depth_le := hdepth
        braced := ⟨_, hbraced⟩
        selectors_ne_nil := List.ne_nil_of_length_pos (Nat.pos_of_ne_zero hselectors)
        selector_index := by
          rw [selectorsFrom_index, length_selectorsFrom, List.range_eq_range']
        selector_alone := fun s hs hempty => hpath.selectors_eq hs hempty
        selectors_endToEnd := selectorsFrom_endToEnd 0 _
        selectors_before := hbefore
        alignment_le := halign.natAbs_le
        named := hnamed
        options_named := hoptions
        nested := fun f hf => ⟨hformat f hf, hinside f.excerpt (mem_partsOf_of_format hf)⟩
        parts_inside := hinside
        parts_ordered := hordered
        slices := hslices }

theorem ReadAt.wellFormed (h : ReadAt d text record f) : f.WellFormed d text := by
  refine ⟨StandsAt.sliceOf h.standsAt rfl, fun q hq => ?_, fun p hp => ?_⟩
  · apply StandsAt.sliceOf (h.piece_standsAt hq)
    exact q.stop_eq.trans (congrArg _ (utf8Width_toList _))
  · obtain ⟨levels, before, inner, after, run, issues, hlevels, -, -, hf, -, hread⟩ := h.reads
    have hpiece := mem_placeholders.mp hp
    have hrun : Piece.placeholder p ∈ run.pieces := by
      rw [hf] at hpiece
      exact placeholder_mem_piecesFrom.mp hpiece
    obtain ⟨front, body, behind, own, -, -, -, -, hplaceholder⟩ := hread.placeholderAt hrun
    obtain ⟨outer, body', rest, rfl, -, hplaceholder⟩ :=
      readPlaceholderWithin_eq_ok_iff.mp hplaceholder
    exact hplaceholder.wellFormed (by omega) (h.piece_standsAt hpiece)

end Reading

/-- Every tree is well formed in the text it was read from, whatever the characters of the dialect
are and whatever it has in the place of malformed parts. -/
theorem parse_wellFormed {d : Dialect} {text : String} {t : Template}
    (h : Template.parse d text = .ok t) :
    t.format.depth = 0 ∧ ∀ f, t.format.Within f → f.WellFormed d text := by
  refine ⟨?_, fun f hf => (readAt_of_within h hf).wellFormed⟩
  obtain ⟨run, issues, rfl, -⟩ := parse_eq_ok_iff.mp h
  rfl

/-- Delimiters of two bytes, an alignment with a zero in front, and a placeholder put aside. -/
theorem parse_wellFormed_recovered :
    let d : Dialect := { opening := '«', closing := '»', onMalformed := .message }
    ∃ t p, Template.parse d "ä«b.é,-07:choose(x|y):«a,»«»|z»" = .ok t ∧
      t.format.placeholders = [p] ∧
      p.selectors = [⟨0, 4, 4, 5, "", "b"⟩, ⟨1, 5, 6, 8, ".", "é"⟩] ∧
      p.nameAt = ⟨13, 19, "choose"⟩ ∧ p.optionsAt = some ⟨20, 23, "x|y"⟩ ∧
      p.WellFormed d "ä«b.é,-07:choose(x|y):«a,»«»|z»" 0 := by
  intro d
  have hany : (Template.parse d "ä«b.é,-07:choose(x|y):«a,»«»|z»").toOption.any (fun t =>
      t.format.placeholders.map (fun p => (p.selectors, p.nameAt, p.optionsAt)) =
        [([⟨0, 4, 4, 5, "", "b"⟩, ⟨1, 5, 6, 8, ".", "é"⟩], ⟨13, 19, "choose"⟩,
          some ⟨20, 23, "x|y"⟩)]) = true := by
    decide +kernel
  obtain ⟨t, hread, hkept⟩ := exists_parse_of_any hany
  obtain ⟨hdepth, hwellFormed⟩ := parse_wellFormed hread
  obtain ⟨p, hp, hfields⟩ := List.map_eq_singleton_iff.mp (of_decide_eq_true hkept)
  obtain ⟨hselectors, hname, hoptions⟩ := by simpa only [Prod.mk.injEq] using hfields
  have hmem : p ∈ t.format.placeholders := hp ▸ List.mem_singleton_self p
  exact ⟨t, p, hread, hp, hselectors, hname, hoptions,
    hdepth ▸ (hwellFormed _ .self).placeholders p hmem⟩

end Stencil
