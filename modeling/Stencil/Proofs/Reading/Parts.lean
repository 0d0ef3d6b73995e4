import Stencil.Proofs.Outcome
import Stencil.Reading.Alignment
import Stencil.Reading.Options
import Stencil.Reading.Selectors

/-!
# Spellings of the parts of a placeholder

How paths, alignments and options are spelled, and that their readers take exactly such a spelling
and nothing of the text behind it.
-/

namespace Stencil

set_option autoImplicit false

section Path

/-- What a path may be followed by: the text there begins another part of the placeholder. -/
def Dialect.EndsPathAt (d : Dialect) (rest : List Char) : Prop :=
  ∃ c cs, rest = c :: cs ∧ d.isSelectorChar c = false ∧ c ≠ d.pathMark ∧ d.endsPath c = true

/-- Nothing at all, or runs of selector characters with a mark between them. -/
inductive PathText (d : Dialect) : List Char → List String → Prop
  | current : PathText d [] [""]
  | selectors (first : List Char) (later : List (List Char))
      (chars : ∀ s ∈ first :: later, s ≠ [] ∧ ∀ c ∈ s, d.isSelectorChar c = true)
      (marked : later ≠ [] → d.isSelectorChar d.pathMark = false) :
      PathText d ([d.pathMark].intercalate (first :: later))
        ((first :: later).map String.ofList)

variable {d : Dialect}

theorem PathText.eq_nil_iff {text : List Char} {path : List String} (h : PathText d text path) :
    text = [] ↔ path = [""] := by
  cases h with
  | current => simp
  | selectors first later chars _ =>
    obtain ⟨hne, -⟩ := chars first List.mem_cons_self
    cases first with
    | nil => exact absurd rfl hne
    | cons c first =>
      rw [List.intercalate_cons_cons_left]
      simp

theorem PathText.ne_nil {text : List Char} {path : List String} (h : PathText d text path) :
    path ≠ [] := by
  cases h <;> simp

/-- Only a path of a single selector has an empty one. -/
theorem PathText.eq_of_empty_mem {text : List Char} {path : List String}
    (h : PathText d text path) (hmem : "" ∈ path) : path = [""] := by
  cases h with
  | current => rfl
  | selectors first later chars _ =>
    obtain ⟨s, hs, hempty⟩ := List.mem_map.mp hmem
    exact absurd (by simpa using hempty) (chars s hs).1

theorem PathText.exists_selectors {text : List Char} {path : List String}
    (h : PathText d text path) : ∃ first later, text = [d.pathMark].intercalate (first :: later) ∧
      path = (first :: later).map String.ofList ∧ (∀ c ∈ first, d.isSelectorChar c = true) ∧
      (∀ s ∈ later, s ≠ [] ∧ ∀ c ∈ s, d.isSelectorChar c = true) ∧
      (later ≠ [] → d.isSelectorChar d.pathMark = false) ∧ (first = [] → later = []) := by
  cases h with
  | current => exact ⟨[], [], by simp⟩
  | selectors first later chars marked =>
    obtain ⟨hfirst, hlater⟩ := List.forall_mem_cons.mp chars
    exact ⟨first, later, rfl, rfl, hfirst.2, hlater, marked, fun hempty => absurd hempty hfirst.1⟩

/-- What stands before a selector: the mark of a path, except before the first one. -/
def Dialect.markBefore (d : Dialect) (index : Nat) : String :=
  if index = 0 then "" else d.pathMark.toString

/-- A selector of which the mark, if any, is at byte `position`. -/
def Selector.placed (d : Dialect) (index position : Nat) (text : String) : Selector where
  index := index
  markStart := position
  start := position + (d.markBefore index).utf8ByteSize
  stop := position + (d.markBefore index).utf8ByteSize + text.utf8ByteSize
  mark := d.markBefore index
  text := text

/-- The selectors of a path from number `index` on, laid end to end from byte `position` on. -/
def selectorsFrom (d : Dialect) : Nat → Nat → List String → List Selector
  | _, _, [] => []
  | index, position, text :: later =>
    let s := Selector.placed d index position text
    s :: selectorsFrom d (index + 1) s.stop later

@[simp] theorem selectorsFrom_text (index position : Nat) (path : List String) :
    (selectorsFrom d index position path).map Selector.text = path := by
  induction path generalizing index position with
  | nil => rfl
  | cons text later ih =>
    rw [selectorsFrom, List.map_cons, ih]
    rfl

theorem selectorsFrom_later (index position : Nat) (text : List Char) (later : List String) :
    selectorsFrom d (index + 1) position (String.ofList text :: later) =
      ⟨index + 1, position, position + d.pathMark.utf8Size,
        position + d.pathMark.utf8Size + utf8Width text, d.pathMark.toString,
        String.ofList text⟩ ::
      selectorsFrom d (index + 2) (position + d.pathMark.utf8Size + utf8Width text) later := by
  have hmark : d.markBefore (index + 1) = d.pathMark.toString := rfl
  simp [selectorsFrom, Selector.placed, hmark, utf8ByteSize_ofList]

theorem selectorsFrom_first (position : Nat) (text : List Char) (later : List String) :
    selectorsFrom d 0 position (String.ofList text :: later) =
      ⟨0, position, position, position + utf8Width text, "", String.ofList text⟩ ::
      selectorsFrom d 1 (position + utf8Width text) later := by
  have hmark : d.markBefore 0 = "" := rfl
  simp [selectorsFrom, Selector.placed, hmark, utf8ByteSize_ofList]

/-- From byte `position` on, inside the selector with that head, `r` is read off the rest of the
selector, the texts `later` with a mark before each, and then `rest`, where the path ends. -/
structure SelectorsRead (d : Dialect) (head : SelectorHead) (position : Nat) (r : PathRun)
    (later : List (List Char)) (rest : List Char) : Prop where
  currentStop_eq : r.currentStop = position + utf8Width r.current
  later_eq : r.later = selectorsFrom d (head.index + 1) r.currentStop (later.map String.ofList)
  stop_eq : r.stop =
    ⟨position + utf8Width ([d.pathMark].intercalate (r.current :: later)), rest⟩
  ends : d.EndsPathAt rest
  current_chars : ∀ c ∈ r.current, d.isSelectorChar c = true
  later_chars : ∀ s ∈ later, s ≠ [] ∧ ∀ c ∈ s, d.isSelectorChar c = true
  marked : later ≠ [] → d.isSelectorChar d.pathMark = false
  nonempty : r.current = [] → head.start ≠ position ∨ head.index = 0 ∧ later = []

variable {head : SelectorHead} {r : PathRun} {rest : List Char}

theorem SelectorsRead.char {later : List (List Char)} {position : Nat} {c : Char}
    (hc : d.isSelectorChar c = true)
    (h : SelectorsRead d head (position + c.utf8Size) r later rest) :
    SelectorsRead d head position { r with current := c :: r.current } later rest where
  currentStop_eq := by simp [h.currentStop_eq, Nat.add_assoc]
  later_eq := h.later_eq
  stop_eq := by simp [h.stop_eq, List.intercalate_cons_cons_left, Nat.add_assoc]
  ends := h.ends
  current_chars := List.forall_mem_cons.mpr ⟨hc, h.current_chars⟩
  later_chars := h.later_chars
  marked := h.marked
  nonempty := by simp

theorem SelectorsRead.mark {later : List (List Char)} {position : Nat}
    (hm : d.isSelectorChar d.pathMark = false) (hstart : head.start ≠ position)
    (h : SelectorsRead d (head.following d.pathMark position) (position + d.pathMark.utf8Size) r
      later rest) :
    SelectorsRead d head position
      { current := []
        currentStop := position
        later := (head.following d.pathMark position).selector r.currentStop r.current :: r.later
        stop := r.stop } (r.current :: later) rest where
  currentStop_eq := by simp
  later_eq := by
    rw [h.later_eq, h.currentStop_eq, List.map_cons, selectorsFrom_later]
    rfl
  stop_eq := by simp [h.stop_eq, List.intercalate_cons_cons, Nat.add_assoc]
  ends := h.ends
  current_chars := by simp
  later_chars := by
    have hne : r.current ≠ [] := fun hempty => by
      simpa [SelectorHead.following] using h.nonempty hempty
    exact List.forall_mem_cons.mpr ⟨⟨hne, h.current_chars⟩, h.later_chars⟩
  marked := fun _ => hm
  nonempty := fun _ => .inl hstart

theorem readSelectors_eq_ok {cs : List Char} {position : Nat} (hhead : head.start ≤ position)
    (h : readSelectors d head position cs = .ok r) :
    ∃ later rest, cs = [d.pathMark].intercalate (r.current :: later) ++ rest ∧
      SelectorsRead d head position r later rest := by
  induction cs generalizing head position r with
  | nil => simp [readSelectors] at h
  | cons c cs ih =>
    simp only [readSelectors] at h
    split at h
    · rename_i hc
      obtain ⟨q, hr, rfl⟩ := exists_of_map_eq_ok h
      obtain ⟨later, rest, hcs, hq⟩ := ih (by omega) hr
      exact ⟨later, rest, by simp [hcs, List.intercalate_cons_cons_left], hq.char hc⟩
    · rename_i hc
      split at h
      · rename_i hm
        obtain rfl : c = d.pathMark := by simpa using hm
        split at h
        · cases h
        · rename_i hstart
          obtain ⟨q, hr, rfl⟩ := exists_of_map_eq_ok h
          obtain ⟨later, rest, hcs, hq⟩ := ih (Nat.le_refl _) hr
          exact ⟨q.current :: later, rest, by simp [hcs, List.intercalate_cons_cons],
            hq.mark (by simpa using hc) hstart⟩
      · rename_i hm
        split at h
        · rename_i he
          split at h
          · cases h
          · rename_i hstart
            cases h
            refine ⟨[], c :: cs, by simp, by simp, rfl, by simp, ?_, by simp, by simp, by simp, ?_⟩
            · exact ⟨c, cs, rfl, by simpa using hc, by simpa using hm, he⟩
            · intro _
              by_cases hs : head.start = position
              · exact .inr ⟨by simpa [hs] using hstart, rfl⟩
              · exact .inl hs
        · cases h

/-- The characters of a selector are taken whatever comes behind them. -/
theorem readSelectors_chars {current : List Char}
    (hcur : ∀ c ∈ current, d.isSelectorChar c = true) (position : Nat) (cs : List Char) :
    readSelectors d head position (current ++ cs) =
      (readSelectors d head (position + utf8Width current) cs).map fun r =>
        { r with current := current ++ r.current } := by
  induction current generalizing position with
  | nil => cases h : readSelectors d head position cs <;> simp [h, Except.map]
  | cons c current ih =>
    rw [List.cons_append, readSelectors, if_pos (hcur c List.mem_cons_self),
      ih (fun c hc => hcur c (List.mem_cons_of_mem _ hc)), utf8Width_cons, Nat.add_assoc]
    cases readSelectors d head (position + (c.utf8Size + utf8Width current)) cs <;> rfl

/-- A selector ends the path where something else begins. -/
theorem readSelectors_end {current : List Char} {position : Nat}
    (hcur : ∀ c ∈ current, d.isSelectorChar c = true) (hend : d.EndsPathAt rest)
    (hstart : ¬(head.start = position + utf8Width current ∧ head.index ≠ 0)) :
    readSelectors d head position (current ++ rest) =
      .ok ⟨current, position + utf8Width current, [], ⟨position + utf8Width current, rest⟩⟩ := by
  obtain ⟨c, cs, rfl, hc, hm, he⟩ := hend
  rw [readSelectors_chars hcur, readSelectors]
  simp [hc, hm, he, hstart, Except.map]

/-- Behind a mark another selector is read. -/
theorem readSelectors_mark {current : List Char} {position : Nat}
    (hcur : ∀ c ∈ current, d.isSelectorChar c = true) (hm : d.isSelectorChar d.pathMark = false)
    (hstart : head.start ≠ position + utf8Width current) (cs : List Char) :
    let following := head.following d.pathMark (position + utf8Width current)
    readSelectors d head position (current ++ d.pathMark :: cs) =
      (readSelectors d following following.start cs).map fun r =>
        { current
          currentStop := position + utf8Width current
          later := following.selector r.currentStop r.current :: r.later
          stop := r.stop } := by
  intro following
  rw [readSelectors_chars hcur, readSelectors]
  simp only [hm, hstart, Bool.false_eq_true, beq_self_eq_true, if_false, if_true]
  change ((readSelectors d following following.start cs).map _).map _ = _
  cases readSelectors d following following.start cs <;> simp [Except.map, following]

theorem SelectorsRead.start_ne {later : List (List Char)} {position : Nat}
    (h : SelectorsRead d head position r later rest) (hhead : head.start ≤ position)
    (hlater : later ≠ [] ∨ head.index ≠ 0) : head.start ≠ position + utf8Width r.current := by
  by_cases hempty : r.current = []
  · rcases h.nonempty hempty with hne | ⟨hindex, rfl⟩
    · simpa [hempty] using hne
    · simp [hindex] at hlater
  · have hpos : utf8Width r.current ≠ 0 := fun hzero => hempty ((utf8Width_eq_zero_iff _).mp hzero)
    omega

theorem SelectorsRead.eq_mk {later : List (List Char)} {position : Nat}
    (h : SelectorsRead d head position r later rest) :
    r = ⟨r.current, position + utf8Width r.current,
      selectorsFrom d (head.index + 1) (position + utf8Width r.current) (later.map String.ofList),
      ⟨position + utf8Width ([d.pathMark].intercalate (r.current :: later)), rest⟩⟩ := by
  rw [PathRun.mk.injEq, ← h.currentStop_eq]
  exact ⟨rfl, rfl, h.later_eq, h.stop_eq⟩

theorem SelectorsRead.read_eq {later : List (List Char)} {position : Nat}
    (hhead : head.start ≤ position) (h : SelectorsRead d head position r later rest) :
    readSelectors d head position ([d.pathMark].intercalate (r.current :: later) ++ rest) =
      .ok r := by
  induction later generalizing head position r with
  | nil =>
    have hstart : ¬(head.start = position + utf8Width r.current ∧ head.index ≠ 0) :=
      fun hboth => h.start_ne hhead (.inr hboth.2) hboth.1
    rw [List.intercalate_singleton, readSelectors_end h.current_chars h.ends hstart]
    exact congrArg Except.ok (by simpa [selectorsFrom] using h.eq_mk.symm)
  | cons s later ih =>
    have hm : d.isSelectorChar d.pathMark = false := h.marked (List.cons_ne_nil _ _)
    obtain ⟨hs, hlater⟩ := List.forall_mem_cons.mp h.later_chars
    have hstart := h.start_ne hhead (.inl (List.cons_ne_nil _ _))
    let following := head.following d.pathMark (position + utf8Width r.current)
    let stop := following.start + utf8Width s
    have hnext : SelectorsRead d following following.start
        ⟨s, stop, selectorsFrom d (following.index + 1) stop (later.map String.ofList), r.stop⟩
        later rest :=
      { currentStop_eq := rfl
        later_eq := rfl
        stop_eq := by
          rw [h.stop_eq, List.intercalate_cons_cons]
          simp [following, SelectorHead.following, Nat.add_assoc]
        ends := h.ends
        current_chars := hs.2
        later_chars := hlater
        marked := fun _ => hm
        nonempty := fun hempty => absurd hempty hs.1 }
    have hr := h.eq_mk
    rw [List.map_cons, selectorsFrom_later, ← h.stop_eq] at hr
    rw [List.intercalate_cons_cons, List.append_assoc, List.append_assoc, List.singleton_append,
      readSelectors_mark h.current_chars hm hstart, ih (Nat.le_refl _) hnext]
    exact congrArg Except.ok hr.symm

theorem readPath_eq_ok_iff {position : Nat} {cs : List Char} {selectors : List Selector}
    {here : Cursor} :
    readPath d position cs = .ok (selectors, here) ↔ ∃ text path rest,
      cs = text ++ rest ∧ here = ⟨position + utf8Width text, rest⟩ ∧ PathText d text path ∧
        selectors = selectorsFrom d 0 position path ∧ d.EndsPathAt rest := by
  constructor
  · intro h
    obtain ⟨r, hr, hkept⟩ := exists_of_map_eq_ok h
    obtain ⟨rfl, rfl⟩ := Prod.mk.inj hkept
    obtain ⟨later, rest, hcs, hread⟩ := readSelectors_eq_ok (Nat.le_refl _) hr
    refine ⟨_, (r.current :: later).map String.ofList, rest, hcs, hread.stop_eq, ?_, ?_,
      hread.ends⟩
    · by_cases hc : r.current = []
      · have hl : later = [] := by simpa using hread.nonempty hc
        simpa [hc, hl] using PathText.current
      · exact .selectors r.current later
          (List.forall_mem_cons.mpr ⟨⟨hc, hread.current_chars⟩, hread.later_chars⟩) hread.marked
    · rw [List.map_cons, selectorsFrom_first, hread.later_eq, hread.currentStop_eq]
      rfl
  · rintro ⟨text, path, rest, rfl, rfl, htext, rfl, hend⟩
    obtain ⟨first, later, rfl, rfl, hfirst, hlater, hmark, halone⟩ := htext.exists_selectors
    let stop := position + utf8Width first
    have hread : SelectorsRead d ⟨0, position, position, ""⟩ position
        ⟨first, stop, selectorsFrom d 1 stop (later.map String.ofList),
          ⟨position + utf8Width ([d.pathMark].intercalate (first :: later)), rest⟩⟩ later rest :=
      { currentStop_eq := rfl
        later_eq := rfl
        stop_eq := rfl
        ends := hend
        current_chars := hfirst
        later_chars := hlater
        marked := hmark
        nonempty := fun hempty => .inr ⟨rfl, halone hempty⟩ }
    rw [readPath, hread.read_eq (Nat.le_refl _), List.map_cons, selectorsFrom_first]
    rfl

end Path

section Alignment

def signText (negative : Bool) : List Char := if negative then ['-'] else []

def signedValue (negative : Bool) (digits : List Char) : Int :=
  if negative then -(digitsValue digits : Int) else digitsValue digits

/-- Nothing at all, or decimal digits behind the mark, perhaps with a minus sign before them. -/
inductive AlignmentText (d : Dialect) : List Char → Int → Prop
  | absent : AlignmentText d [] 0
  | written (negative : Bool) (digits : List Char) (nonempty : digits ≠ [])
      (decimal : digits.all Char.isDigit)
      (allowed : d.allowsAlignment (signedValue negative digits) = true) :
      AlignmentText d (d.alignmentMark :: (signText negative ++ digits))
        (signedValue negative digits)

/-- What an alignment may be followed by, given how it is spelled. -/
def Dialect.EndsAlignmentAt (d : Dialect) (text rest : List Char) : Prop :=
  if text = [] then rest.head? ≠ some d.alignmentMark
  else ∃ c cs, rest = c :: cs ∧ c.isDigit = false ∧ (c = d.formatMark ∨ c = d.closing)

variable {d : Dialect}

theorem span_append {p : Char → Bool} {taken : List Char} (htaken : taken.all p)
    (rest : List Char) (hrest : ∀ c ∈ rest.head?, p c = false) :
    (taken ++ rest).takeWhile p = taken ∧ (taken ++ rest).dropWhile p = rest := by
  have hall : ∀ c ∈ taken, p c = true := List.all_eq_true.mp htaken
  rw [List.takeWhile_append_of_pos hall, List.dropWhile_append_of_pos hall]
  cases rest with
  | nil => simp
  | cons c cs => simp [hrest c rfl]

theorem head_digits {digits : List Char} (nonempty : digits ≠ [])
    (decimal : digits.all Char.isDigit) (rest : List Char) :
    ((digits ++ rest).head? == some '-') = false := by
  cases digits with
  | nil => exact absurd rfl nonempty
  | cons c digits =>
    have hc : c.isDigit = true := List.all_eq_true.mp decimal c List.mem_cons_self
    have hne : c ≠ '-' := fun h => by
      rw [h] at hc
      exact absurd hc (by decide)
    simpa using hne

theorem readAlignmentNumber_append {negative : Bool} {digits : List Char}
    (nonempty : digits ≠ []) (decimal : digits.all Char.isDigit)
    (allowed : d.allowsAlignment (signedValue negative digits) = true) {c : Char}
    (hc : c.isDigit = false) (hend : c = d.formatMark ∨ c = d.closing) (position : Nat)
    (rest : List Char) :
    readAlignmentNumber d position (signText negative ++ digits ++ c :: rest) =
      .ok (signedValue negative digits,
        ⟨position + utf8Width (signText negative ++ digits), c :: rest⟩) := by
  have hsplit := span_append decimal (c :: rest) (by simp [hc])
  have hmark : (c == d.formatMark || c == d.closing) = true := by simpa using hend
  cases negative with
  | false =>
    have hhead := head_digits nonempty decimal (c :: rest)
    simp only [signedValue, Bool.false_eq_true, if_false] at allowed
    simp only [signText, signedValue, Bool.false_eq_true, if_false, List.nil_append]
    simp only [readAlignmentNumber, hhead, Bool.false_eq_true, if_false, hsplit, nonempty, allowed,
      hmark, Bool.not_true, if_true]
  | true =>
    have hwidth : '-'.utf8Size = 1 := rfl
    simp only [signedValue, if_true] at allowed
    simp [readAlignmentNumber, signText, signedValue, hsplit, nonempty, allowed, hmark, hwidth,
      Nat.add_assoc]

theorem readAlignmentNumber_eq_ok {position : Nat} {cs : List Char} {a : Int} {here : Cursor}
    (h : readAlignmentNumber d position cs = .ok (a, here)) :
    ∃ negative digits c rest, digits ≠ [] ∧ digits.all Char.isDigit ∧
      d.allowsAlignment (signedValue negative digits) = true ∧
      cs = signText negative ++ digits ++ c :: rest ∧ c.isDigit = false ∧
      (c = d.formatMark ∨ c = d.closing) := by
  obtain ⟨negative, hneg⟩ : ∃ b, (cs.head? == some '-') = b := ⟨_, rfl⟩
  obtain ⟨afterSign, hafter⟩ : ∃ l, (if negative = true then cs.drop 1 else cs) = l := ⟨_, rfl⟩
  have hcs : cs = signText negative ++ afterSign := by
    subst hneg hafter
    cases cs with
    | nil => simp [signText]
    | cons c cs => by_cases hc : c = '-' <;> simp [signText, hc]
  have hspan := List.takeWhile_append_dropWhile (p := Char.isDigit) (l := afterSign)
  have hnot := List.head?_dropWhile_not Char.isDigit afterSign
  have hvalue : (if negative = true then -(digitsValue (afterSign.takeWhile Char.isDigit) : Int)
      else digitsValue (afterSign.takeWhile Char.isDigit)) =
        signedValue negative (afterSign.takeWhile Char.isDigit) := rfl
  simp only [readAlignmentNumber, hneg, hafter, hvalue] at h
  split at h
  · cases h
  · rename_i hsome
    split at h
    · cases h
    · rename_i hallowed
      split at h
      · cases h
      · rename_i c rest hrest
        split at h
        · rename_i hend
          rw [hrest] at hspan hnot
          refine ⟨negative, afterSign.takeWhile Char.isDigit, c, rest, hsome, List.all_takeWhile,
            by simpa using hallowed, ?_, by simpa using hnot, by simpa using hend⟩
          rw [List.append_assoc, hspan, hcs]
        · cases h

theorem readAlignment_eq_ok_iff {position : Nat} {cs : List Char} {a : Int} {here : Cursor} :
    readAlignment d ⟨position, cs⟩ = .ok (a, here) ↔ ∃ text rest, cs = text ++ rest ∧
      here = ⟨position + utf8Width text, rest⟩ ∧ AlignmentText d text a ∧
      d.EndsAlignmentAt text rest := by
  constructor
  · intro h
    simp only [readAlignment] at h
    split at h
    · rename_i hmark
      obtain ⟨cs', rfl⟩ : ∃ cs', cs = d.alignmentMark :: cs' := by
        cases cs with
        | nil => cases hmark
        | cons c cs => exact ⟨cs, by simpa using hmark⟩
      obtain ⟨negative, digits, c, rest, hsome, hdec, hallowed, hcs, hc, hend⟩ :=
        readAlignmentNumber_eq_ok h
      simp only [List.drop_succ_cons, List.drop_zero] at hcs
      subst hcs
      simp only [List.drop_succ_cons, List.drop_zero,
        readAlignmentNumber_append hsome hdec hallowed hc hend, Except.ok.injEq,
        Prod.mk.injEq] at h
      obtain ⟨rfl, rfl⟩ := h
      refine ⟨_, c :: rest, rfl, ?_, .written negative digits hsome hdec hallowed, ?_⟩
      · simp [Nat.add_assoc]
      · simp [Dialect.EndsAlignmentAt, hc, hend]
    · rename_i hmark
      cases h
      exact ⟨[], cs, rfl, rfl, .absent, hmark⟩
  · rintro ⟨text, rest, rfl, rfl, htext, hend⟩
    cases htext with
    | absent =>
      have hmark : rest.head? ≠ some d.alignmentMark := by
        simpa [Dialect.EndsAlignmentAt] using hend
      simp [readAlignment, hmark]
    | written negative digits nonempty decimal allowed =>
      simp only [Dialect.EndsAlignmentAt, reduceCtorEq, if_false] at hend
      obtain ⟨c, cs, rfl, hc, hmark⟩ := hend
      have hnumber := readAlignmentNumber_append nonempty decimal allowed hc hmark
        (position + d.alignmentMark.utf8Size) cs
      simpa [readAlignment, Nat.add_assoc] using hnumber

end Alignment

section Options

/-- Text in which the delimiters of options match; a backslash guards the character after it. -/
inductive OptionsText (d : Dialect) : List Char → Prop
  | empty : OptionsText d []
  | plain {cs : List Char} (c : Char) (mark : c ≠ escapeMark) (opening : c ≠ d.optionsOpening)
      (closing : c ≠ d.optionsClosing) (rest : OptionsText d cs) : OptionsText d (c :: cs)
  | guarded {cs : List Char} (c : Char) (rest : OptionsText d cs) :
      OptionsText d (escapeMark :: c :: cs)
  | group {inner cs : List Char} (body : OptionsText d inner) (rest : OptionsText d cs) :
      OptionsText d (d.optionsOpening :: inner ++ d.optionsClosing :: cs)

variable {d : Dialect}

/-- Puts a character before options that were read. -/
def withOption (c : Char) : Option (List Char × List Char) → Option (List Char × List Char) :=
  Option.map fun (options, rest) => (c :: options, rest)

theorem withOption_eq_some_iff {c : Char} {r : Option (List Char × List Char)}
    {options after : List Char} :
    withOption c r = some (options, after) ↔
      ∃ tail, options = c :: tail ∧ r = some (tail, after) := by
  cases r with
  | none => simp [withOption]
  | some found =>
    rcases found with ⟨tail, rest⟩
    simp only [withOption, Option.map_some, Option.some.injEq, Prod.mk.injEq]
    constructor
    · rintro ⟨rfl, rfl⟩
      exact ⟨tail, rfl, rfl, rfl⟩
    · rintro ⟨_, rfl, rfl, rfl⟩
      exact ⟨rfl, rfl⟩

theorem readOptions_guarded (depth : Nat) (c : Char) (cs : List Char) :
    readOptions d true depth (c :: cs) = withOption c (readOptions d false depth cs) := by
  simp [readOptions, withOption]

theorem readOptions_escapeMark (depth : Nat) (cs : List Char) :
    readOptions d false depth (escapeMark :: cs) =
      withOption escapeMark (readOptions d true depth cs) := by
  simp [readOptions, withOption]

theorem readOptions_opening (hm : d.optionsOpening ≠ escapeMark) (depth : Nat) (cs : List Char) :
    readOptions d false depth (d.optionsOpening :: cs) =
      withOption d.optionsOpening (readOptions d false (depth + 1) cs) := by
  simp [readOptions, withOption, hm]

theorem readOptions_closing (hm : d.optionsClosing ≠ escapeMark)
    (ho : d.optionsClosing ≠ d.optionsOpening) (outer : Nat) (cs : List Char) :
    readOptions d false (outer + 1) (d.optionsClosing :: cs) =
      withOption d.optionsClosing (readOptions d false outer cs) := by
  simp [readOptions, withOption, hm, ho]

theorem readOptions_end (hm : d.optionsClosing ≠ escapeMark)
    (ho : d.optionsClosing ≠ d.optionsOpening) (cs : List Char) :
    readOptions d false 0 (d.optionsClosing :: cs) = some ([], cs) := by
  simp [readOptions, hm, ho]

theorem readOptions_plain {c : Char} (hm : c ≠ escapeMark) (ho : c ≠ d.optionsOpening)
    (hc : c ≠ d.optionsClosing) (depth : Nat) (cs : List Char) :
    readOptions d false depth (c :: cs) = withOption c (readOptions d false depth cs) := by
  simp [readOptions, withOption, hm, ho, hc]

/-- Whatever comes behind the closing delimiter, the options before it are read the same. -/
theorem readOptions_eq_some {cs : List Char} {escaped : Bool} {depth : Nat}
    {options after : List Char} (h : readOptions d escaped depth cs = some (options, after)) :
    cs = options ++ d.optionsClosing :: after ∧ ∀ rest,
      readOptions d escaped depth (options ++ d.optionsClosing :: rest) = some (options, rest) := by
  induction cs generalizing escaped depth options with
  | nil => simp [readOptions] at h
  | cons c cs ih =>
    have step : ∀ escaped' depth', (∀ cs', readOptions d escaped depth (c :: cs') =
        withOption c (readOptions d escaped' depth' cs')) →
        c :: cs = options ++ d.optionsClosing :: after ∧ ∀ rest,
          readOptions d escaped depth (options ++ d.optionsClosing :: rest) =
            some (options, rest) := by
      intro escaped' depth' hstep
      rw [hstep] at h
      obtain ⟨tail, rfl, hrest⟩ := withOption_eq_some_iff.mp h
      obtain ⟨rfl, hall⟩ := ih hrest
      exact ⟨rfl, fun rest => by rw [List.cons_append, hstep, hall rest]; rfl⟩
    cases escaped with
    | true => exact step false depth (readOptions_guarded depth c)
    | false =>
      by_cases hm : c = escapeMark
      · subst hm
        exact step true depth (readOptions_escapeMark depth)
      by_cases ho : c = d.optionsOpening
      · subst ho
        exact step false (depth + 1) (readOptions_opening hm depth)
      by_cases hc : c = d.optionsClosing
      · subst hc
        cases depth with
        | succ outer => exact step false outer (readOptions_closing hm ho outer)
        | zero =>
          rw [readOptions_end hm ho] at h
          cases h
          exact ⟨rfl, readOptions_end hm ho⟩
      · exact step false depth (readOptions_plain hm ho hc depth)

/-- Balanced text up to the delimiter that closes the innermost group, and what is read from there
on for the groups around it. -/
def ClosesGroup (d : Dialect) (cs : List Char) (depth : Nat) (options after : List Char) : Prop :=
  ∃ text rest, cs = text ++ d.optionsClosing :: rest ∧ OptionsText d text ∧
    match depth with
    | 0 => options = text ∧ after = rest
    | outer + 1 => ∃ tail, options = text ++ d.optionsClosing :: tail ∧
        readOptions d false outer rest = some (tail, after)

variable (hopening : d.optionsOpening ≠ escapeMark) (hclosing : d.optionsClosing ≠ escapeMark)
  (hdistinct : d.optionsClosing ≠ d.optionsOpening)
include hopening hclosing hdistinct

theorem OptionsText.readOptions_append {text : List Char} (h : OptionsText d text) (depth : Nat)
    (cs : List Char) :
    readOptions d false depth (text ++ cs) =
      (readOptions d false depth cs).map fun (options, rest) => (text ++ options, rest) := by
  induction h generalizing depth cs with
  | empty => simp
  | plain c mark opening closing _ ih =>
    rw [List.cons_append, readOptions_plain mark opening closing, ih]
    simp [withOption, Function.comp_def]
  | guarded c _ ih =>
    rw [List.cons_append, List.cons_append, readOptions_escapeMark, readOptions_guarded, ih]
    simp [withOption, Function.comp_def]
  | group _ _ ihbody ihrest =>
    rw [List.cons_append, List.cons_append, readOptions_opening hopening, List.append_assoc, ihbody,
      List.cons_append, readOptions_closing hclosing hdistinct, ihrest]
    simp [withOption, Function.comp_def]

theorem closesGroup_of_readOptions (n : Nat) : ∀ {cs : List Char} {depth : Nat}
    {options after : List Char}, cs.length ≤ n →
    readOptions d false depth cs = some (options, after) →
    ClosesGroup d cs depth options after := by
  induction n with
  | zero =>
    intro cs depth options after hn h
    rw [List.length_eq_zero_iff.mp (Nat.le_zero.mp hn)] at h
    simp [readOptions] at h
  | succ n ih =>
    intro cs depth options after hn h
    -- A balanced stretch in front of a shorter text only lengthens what is found there.
    have step : ∀ stretch cs' tail, cs = stretch ++ cs' → cs'.length ≤ n →
        options = stretch ++ tail → readOptions d false depth cs' = some (tail, after) →
        (∀ {text}, OptionsText d text → OptionsText d (stretch ++ text)) →
        ClosesGroup d cs depth options after := by
      intro stretch cs' tail hcs hlen hopt hread hbal
      obtain ⟨text, rest, rfl, htext, hdepth⟩ := ih hlen hread
      refine ⟨stretch ++ text, rest, by rw [hcs, List.append_assoc], hbal htext, ?_⟩
      cases depth with
      | zero => exact ⟨by rw [hopt, hdepth.1], hdepth.2⟩
      | succ outer =>
        obtain ⟨tail', rfl, hrest⟩ := hdepth
        exact ⟨tail', by rw [hopt, List.append_assoc], hrest⟩
    cases cs with
    | nil => simp [readOptions] at h
    | cons c cs =>
      have hlen : cs.length ≤ n := by simpa using hn
      by_cases hm : c = escapeMark
      · subst hm
        rw [readOptions_escapeMark] at h
        obtain ⟨tail, rfl, hmarked⟩ := withOption_eq_some_iff.mp h
        cases cs with
        | nil => simp [readOptions] at hmarked
        | cons c cs =>
          rw [readOptions_guarded] at hmarked
          obtain ⟨tail, rfl, hread⟩ := withOption_eq_some_iff.mp hmarked
          exact step [escapeMark, c] cs tail rfl (by simp at hlen; omega) rfl hread (.guarded c)
      by_cases ho : c = d.optionsOpening
      · subst ho
        rw [readOptions_opening hopening] at h
        obtain ⟨tail, rfl, hread⟩ := withOption_eq_some_iff.mp h
        obtain ⟨inner, rest, rfl, hinner, tail, rfl, hrest⟩ := ih hlen hread
        refine step (d.optionsOpening :: inner ++ [d.optionsClosing]) rest tail (by simp)
          (by simp at hlen; omega) (by simp) hrest fun htext => ?_
        simpa using OptionsText.group hinner htext
      by_cases hc : c = d.optionsClosing
      · subst hc
        refine ⟨[], cs, rfl, .empty, ?_⟩
        cases depth with
        | zero =>
          rw [readOptions_end hclosing hdistinct] at h
          cases h
          exact ⟨rfl, rfl⟩
        | succ outer =>
          rw [readOptions_closing hclosing hdistinct] at h
          obtain ⟨tail, rfl, hread⟩ := withOption_eq_some_iff.mp h
          exact ⟨tail, rfl, hread⟩
      · rw [readOptions_plain hm ho hc] at h
        obtain ⟨tail, rfl, hread⟩ := withOption_eq_some_iff.mp h
        exact step [c] cs tail rfl hlen rfl hread (.plain c hm ho hc)

theorem readOptions_eq_some_iff {cs options after : List Char} :
    readOptions d false 0 cs = some (options, after) ↔
      cs = options ++ d.optionsClosing :: after ∧ OptionsText d options := by
  constructor
  · intro h
    obtain ⟨text, rest, rfl, htext, rfl, rfl⟩ :=
      closesGroup_of_readOptions hopening hclosing hdistinct cs.length (Nat.le_refl _) h
    exact ⟨rfl, htext⟩
  · rintro ⟨rfl, htext⟩
    rw [htext.readOptions_append hopening hclosing hdistinct, readOptions_end hclosing hdistinct]
    simp

end Options

end Stencil
