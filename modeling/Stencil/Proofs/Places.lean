import Stencil.Proofs.Reading.Placeholder

/-!
# Where faults are found

Whatever goes wrong while a template is read is noticed at the beginning of a character or at the
end of the text, and never before the placeholder it is about. The caret of an error stands under
that place, in the line that holds it.
-/

namespace Stencil

set_option autoImplicit false

/-! ## The line of a place -/

section Line

/-- Under the line of `text` that holds byte `position` there is a caret, with a space before it for
each character that the line has before that byte. -/
def Caret.PointsAt (text : String) (position : Nat) (c : Caret) : Prop :=
  ∃ above before after below : String,
    text = above ++ before ++ after ++ below ∧ (above ++ before).utf8ByteSize = position ∧
    (above = "" ∨ above.toList.getLast? = some '\n') ∧
    (below = "" ∨ below.toList.head? = some '\n') ∧
    '\n' ∉ before.toList ∧ '\n' ∉ after.toList ∧
    c.text = "\n" ++ (before ++ after) ++ "\n" ++
      String.ofList (List.replicate before.length ' ') ++ "^"

theorem Caret.splitAtByte_append (before after : List Char) :
    splitAtByte (utf8Width before) (before ++ after) = (before, after) := by
  induction before with
  | nil => simp [splitAtByte]
  | cons c before ih =>
    have hpos := c.utf8Size_pos
    obtain ⟨n, hn⟩ : ∃ n, c.utf8Size + utf8Width before = n + 1 :=
      ⟨_, (Nat.succ_pred (by omega)).symm⟩
    have hrest : n + 1 - c.utf8Size = utf8Width before := by omega
    rw [utf8Width_cons, hn, List.cons_append, splitAtByte, hrest, ih]
    simp

/-- Up to the first newline there is none, and there it is unless the text ends before. -/
theorem newline_cut (cs : List Char) :
    '\n' ∉ cs.takeWhile (· ≠ '\n') ∧
      (cs.dropWhile (· ≠ '\n') = [] ∨ (cs.dropWhile (· ≠ '\n')).head? = some '\n') := by
  constructor
  · intro hmem
    have hall := List.all_eq_true.mp (List.all_takeWhile (p := (· ≠ '\n')) (l := cs)) _ hmem
    simp at hall
  · have hhead := List.head?_dropWhile_not (· ≠ '\n') cs
    cases hrest : cs.dropWhile (· ≠ '\n') with
    | nil => exact .inl rfl
    | cons c rest =>
      rw [hrest] at hhead
      exact .inr (by simpa using hhead)

theorem Caret.locate_pointsAt {text : String} {position : Nat}
    (h : (String.Pos.Raw.mk position).IsValid text) :
    (locate text position).PointsAt text position := by
  obtain ⟨front, rest, rfl, hfront⟩ := String.Pos.Raw.isValid_iff_exists_append.mp h
  obtain rfl : position = utf8Width front.toList := by
    rw [utf8Width_toList]
    exact congrArg String.Pos.Raw.byteIdx hfront
  generalize hbefore' : front.toList = before
  generalize hafter' : rest.toList = after
  -- backwards from the place, the line begins behind the first newline
  obtain ⟨hhead, habove⟩ := newline_cut before.reverse
  obtain ⟨htail, hbelow⟩ := newline_cut after
  have hbefore : (before.reverse.dropWhile (· ≠ '\n')).reverse ++
      (before.reverse.takeWhile (· ≠ '\n')).reverse = before := by
    rw [← List.reverse_append, List.takeWhile_append_dropWhile, List.reverse_reverse]
  have hafter := List.takeWhile_append_dropWhile (p := (· ≠ '\n')) (l := after)
  refine ⟨String.ofList (before.reverse.dropWhile (· ≠ '\n')).reverse,
    String.ofList (before.reverse.takeWhile (· ≠ '\n')).reverse,
    String.ofList (after.takeWhile (· ≠ '\n')), String.ofList (after.dropWhile (· ≠ '\n')),
    ?_, ?_, ?_, ?_, ?_, ?_, ?_⟩
  · rw [← String.toList_inj]
    simp only [String.toList_append, String.toList_ofList, hbefore, List.append_assoc, hafter,
      hbefore', hafter']
  · rw [← String.ofList_append, hbefore, utf8ByteSize_ofList]
  · rw [String.toList_ofList, List.getLast?_reverse]
    exact habove.imp (fun h => by rw [h]; rfl) id
  · rw [String.toList_ofList]
    exact hbelow.imp (fun h => by rw [h]) id
  · simpa using hhead
  · simpa using htail
  · simp only [Caret.text, locate, String.toList_append, hbefore', hafter', splitAtByte_append,
      String.ofList_append, String.length_ofList]

end Line

/-! ## What a reading leaves -/

section Leaving

/-- What is left on record is of the one kind, and what ends the reading, if it fails, of the other.
-/
structure Reading.Leaves {α : Type} (I : Issue → Prop) (F : Fault → Prop) (r : Reading α) :
    Prop where
  issue : ∀ i ∈ r.issues, I i
  fault : ∀ f, r.outcome = .error f → F f

variable {α β : Type} {I J : Issue → Prop} {F G : Fault → Prop} {r : Reading α}

theorem Reading.leaves_ok (a : α) : Leaves I F ⟨[], .ok a⟩ := ⟨by simp, by simp⟩

theorem Reading.leaves_error {f : Fault} (h : F f) : Leaves I F (⟨[], .error f⟩ : Reading α) where
  issue := by simp
  fault := by
    rintro g heq
    cases heq
    exact h

theorem Reading.Leaves.bind {f : α → Reading β} (h : r.Leaves I F)
    (hcont : ∀ a, r.outcome = .ok a → (f a).Leaves I F) : (r >>= f).Leaves I F := by
  rcases r with ⟨issues, fault | a⟩
  · exact ⟨h.issue, fun g hg => h.fault g (by simpa using hg)⟩
  · obtain ⟨hissue, hfault⟩ := hcont a rfl
    refine ⟨fun i hi => ?_, hfault⟩
    rcases List.mem_append.mp hi with hi | hi
    · exact h.issue i hi
    · exact hissue i hi

theorem Reading.Leaves.map {f : α → β} (h : r.Leaves I F) :
    (r >>= fun a => pure (f a)).Leaves I F :=
  h.bind fun _ _ => leaves_ok _

theorem Reading.Leaves.mono (h : r.Leaves I F) (hI : ∀ i, I i → J i) (hF : ∀ f, F f → G f) :
    r.Leaves J G :=
  ⟨fun i hi => hI i (h.issue i hi), fun f hf => hF f (h.fault f hf)⟩

theorem Reading.leaves_ofExcept {e : Except Fault α} (h : ∀ f, e = .error f → F f) :
    (ofExcept e).Leaves I F :=
  ⟨by simp, h⟩

/-- A fault is handed on or put on record as it is. -/
theorem Dialect.leaves_tolerate (d : Dialect) {f : Fault} (h : F f) :
    (d.tolerate f).Leaves (fun i => F (.malformed i)) F := by
  cases f with
  | tooDeep position => exact Reading.leaves_error h
  | malformed issue =>
    simp only [tolerate]
    split
    · refine ⟨fun i hi => ?_, by simp⟩
      rw [List.mem_singleton.mp hi]
      exact h
    · exact Reading.leaves_error h

end Leaving

/-! ## Places of faults -/

def Fault.position : Fault → Nat
  | malformed issue => issue.position
  | tooDeep position => position

/-- A place in `text` that is not before byte `start`. -/
structure Cursor.From (text : List Char) (start : Nat) (here : Cursor) : Prop where
  le : start ≤ here.position
  rest : ∃ before, text = before ++ here.rest ∧ utf8Width before = here.position

/-- A fault is noticed at a place in `text` that is not before byte `start`. -/
def Fault.From (text : List Char) (start : Nat) (f : Fault) : Prop :=
  ∃ rest, Cursor.From text start ⟨f.position, rest⟩

section Places

variable {text cs front rest : List Char} {start position other : Nat} {c : Char}

theorem Cursor.From.skip (h : Cursor.From text start ⟨position, front ++ rest⟩) :
    Cursor.From text start ⟨position + utf8Width front, rest⟩ := by
  obtain ⟨hle, before, htext, hbefore⟩ := h
  refine ⟨Nat.le_trans hle (Nat.le_add_right _ _), before ++ front, ?_, ?_⟩
  · rw [htext, List.append_assoc]
  · rw [utf8Width_append, hbefore]

theorem Cursor.From.next (h : Cursor.From text start ⟨position, c :: cs⟩) :
    Cursor.From text start ⟨position + c.utf8Size, cs⟩ := by
  have hsplit : Cursor.From text start ⟨position, [c] ++ cs⟩ := h
  exact hsplit.skip

theorem Cursor.From.mono {here : Cursor} (h : here.From text start) (hle : other ≤ start) :
    here.From text other :=
  ⟨Nat.le_trans hle h.le, h.rest⟩

theorem Cursor.From.fault (h : Cursor.From text start ⟨position, rest⟩) (cause : Malformation) :
    (Fault.at position cause).From text start :=
  ⟨rest, h⟩

theorem Fault.From.mono {f : Fault} (h : f.From text start) (hle : other ≤ start) :
    f.From text other :=
  h.imp fun _ hplace => hplace.mono hle

/-- The place of a fault is where a character of the text begins, or its end. -/
theorem Fault.From.isValid {text : String} {f : Fault} (h : f.From text.toList start) :
    (String.Pos.Raw.mk f.position).IsValid text := by
  obtain ⟨rest, -, before, htext, hbefore⟩ := h
  rw [String.Pos.Raw.isValid_iff_exists_append]
  refine ⟨String.ofList before, String.ofList rest, ?_, ?_⟩
  · rw [← String.toList_inj, htext]
    simp
  · refine String.Pos.Raw.ext ?_
    exact (hbefore.symm.trans (utf8ByteSize_ofList before).symm)

end Places

/-! ## Faults of the readers -/

section Parts

variable {d : Dialect} {text cs : List Char} {start position : Nat} {f : Fault}

theorem readSelectors_from {head : SelectorHead} (hat : Cursor.From text start ⟨position, cs⟩)
    (h : readSelectors d head position cs = .error f) : f.From text start := by
  induction cs generalizing head position with
  | nil =>
    cases h
    exact hat.fault _
  | cons c cs ih =>
    simp only [readSelectors] at h
    split at h
    · exact ih hat.next (map_eq_error_iff.mp h)
    · split at h
      · split at h
        · cases h
          exact hat.fault _
        · exact ih hat.next (map_eq_error_iff.mp h)
      · split at h
        · split at h
          · cases h
            exact hat.fault _
          · cases h
        · cases h
          exact hat.fault _

theorem readPath_from (hat : Cursor.From text start ⟨position, cs⟩)
    (h : readPath d position cs = .error f) : f.From text start :=
  readSelectors_from hat (map_eq_error_iff.mp h)

/-- Of a number, the place is its sign or first digit, behind its sign, or behind its digits. -/
theorem readAlignmentNumber_from (hat : Cursor.From text start ⟨position, cs⟩)
    (h : readAlignmentNumber d position cs = .error f) : f.From text start := by
  -- the reader's own values are named first: each fault is at a place given by one of them
  obtain ⟨negative, hnegative⟩ : ∃ b, (cs.head? == some '-') = b := ⟨_, rfl⟩
  obtain ⟨afterSign, hafter⟩ : ∃ l, (if negative = true then cs.drop 1 else cs) = l := ⟨_, rfl⟩
  obtain ⟨digitsStart, hstart⟩ : ∃ n, (if negative = true then position + 1 else position) = n :=
    ⟨_, rfl⟩
  have hdigits : Cursor.From text start ⟨digitsStart, afterSign⟩ := by
    subst hnegative hafter hstart
    split
    · rename_i hsign
      obtain ⟨cs, rfl⟩ := List.head?_eq_some_iff.mp (beq_iff_eq.mp hsign)
      exact hat.next
    · exact hat
  have hspan := List.takeWhile_append_dropWhile (p := Char.isDigit) (l := afterSign)
  have hstop : Cursor.From text start ⟨digitsStart + utf8Width (afterSign.takeWhile Char.isDigit),
      afterSign.dropWhile Char.isDigit⟩ := by
    rw [← hspan] at hdigits
    exact hdigits.skip
  have hvalue : (if negative = true then -(digitsValue (afterSign.takeWhile Char.isDigit) : Int)
      else digitsValue (afterSign.takeWhile Char.isDigit)) =
        signedValue negative (afterSign.takeWhile Char.isDigit) := rfl
  simp only [readAlignmentNumber, hnegative, hafter, hstart, hvalue] at h
  split at h
  · cases h
    exact hdigits.fault _
  · split at h
    · cases h
      exact hat.fault _
    · split at h
      · cases h
        exact hstop.fault _
      · split at h
        · cases h
        · cases h
          exact hstop.fault _

theorem readAlignment_from (hat : Cursor.From text start ⟨position, cs⟩)
    (h : readAlignment d ⟨position, cs⟩ = .error f) : f.From text start := by
  simp only [readAlignment] at h
  split at h
  · rename_i hmark
    obtain ⟨cs, rfl⟩ := List.head?_eq_some_iff.mp hmark
    exact readAlignmentNumber_from hat.next h
  · cases h

end Parts

section Placeholder

variable {d : Dialect} {text cs : List Char} {start position depth : Nat} {I : Issue → Prop}
  {readBody : Nat → List Char → Reading Run} {here : Cursor}

variable (hbody : ∀ {p cs}, Cursor.From text start ⟨p, cs⟩ →
  (readBody p cs).Leaves I (Fault.From text start))

include hbody

theorem leaves_readNested (hat : here.From text start) :
    (readNested depth readBody here).Leaves I (Fault.From text start) :=
  (@hbody here.position here.rest hat).map

theorem leaves_readAfterOptions (hat : Cursor.From text start ⟨position, cs⟩) :
    (readAfterOptions d depth readBody ⟨position, cs⟩).Leaves I (Fault.From text start) := by
  cases cs with
  | nil => exact Reading.leaves_error (hat.fault _)
  | cons c cs =>
    simp only [readAfterOptions]
    split
    · exact (leaves_readNested hbody hat.next).map
    · split
      · exact Reading.leaves_ok _
      · exact Reading.leaves_error (hat.fault _)

theorem leaves_readSpecification (hat : Cursor.From text start ⟨position, cs⟩) :
    (readSpecification d depth readBody ⟨position, cs⟩).Leaves I (Fault.From text start) := by
  have hunnamed : (readSpecification.unnamed depth readBody ⟨position, cs⟩).Leaves I
      (Fault.From text start) := (leaves_readNested hbody hat).map
  have hname : Cursor.From text start
      ⟨position + utf8Width (cs.takeWhile isNameChar), cs.dropWhile isNameChar⟩ := by
    apply Cursor.From.skip
    rwa [List.takeWhile_append_dropWhile]
  simp only [readSpecification]
  split
  · exact hunnamed
  · rename_i c rest hrest
    rw [hrest] at hname
    split
    · split
      · exact Reading.leaves_error (hname.fault _)
      · rename_i options after hoptions
        obtain ⟨rfl, -⟩ := readOptions_eq_some hoptions
        exact (leaves_readAfterOptions hbody hname.next.skip.next).map
    · split
      · exact (leaves_readNested hbody hname.next).map
      · exact hunnamed

theorem leaves_readOptionalSpecification (hat : Cursor.From text start ⟨position, cs⟩) :
    (readOptionalSpecification d depth readBody ⟨position, cs⟩).Leaves I
      (Fault.From text start) := by
  simp only [readOptionalSpecification]
  split
  · rename_i hmark
    obtain ⟨cs, rfl⟩ := List.head?_eq_some_iff.mp hmark
    exact leaves_readSpecification hbody hat.next
  · exact Reading.leaves_ok _

/-- Whatever is wrong with the spelling of a placeholder is noticed at its opening brace or behind
it. -/
theorem leaves_readPlaceholder (htakes : TakesText readBody)
    (hat : Cursor.From text start ⟨position, d.opening :: cs⟩) :
    (readPlaceholder d depth readBody position cs).Leaves I (Fault.From text start) := by
  rw [readPlaceholder_eq]
  refine (Reading.leaves_ofExcept fun f => readPath_from hat.next).bind ?_
  rintro ⟨selectors, afterPath⟩ hpath
  obtain ⟨pathText, path, behind, rfl, rfl, -, -, -⟩ := readPath_eq_ok_iff.mp hpath
  refine (Reading.leaves_ofExcept fun f => readAlignment_from hat.next.skip).bind ?_
  rintro ⟨alignment, afterAlignment⟩ halignment
  obtain ⟨alignText, behind, rfl, rfl, -, -⟩ := readAlignment_eq_ok_iff.mp halignment
  refine (leaves_readOptionalSpecification hbody hat.next.skip.skip).bind ?_
  intro spec hspec
  obtain ⟨specText, behind, rfl, hread⟩ := SpecificationRead.of_read htakes
    (congrArg (Reading.mk (readOptionalSpecification d depth readBody _).issues) hspec)
  unfold assemblePlaceholder
  split
  · exact Reading.leaves_ok _
  · rw [hread.stop_eq]
    exact Reading.leaves_error (hat.next.skip.skip.skip.fault _)

end Placeholder

/-! ## What a fault is about -/

/-- In a format of some depth there is an opening brace at byte `start` of the text, but for that
reason no placeholder. -/
def Dialect.FailsAt (d : Dialect) (text : List Char) (start : Nat) (f : Fault) : Prop :=
  ∃ before cs levels depth issues, text = before ++ d.opening :: cs ∧ utf8Width before = start ∧
    levels + depth = d.maxDepth ∧
    readPlaceholderWithin d levels (depth + 1) start cs = ⟨issues, .error f⟩

/-- A fault is about a closing brace that nothing was opened for, or about a placeholder. -/
inductive Fault.About (d : Dialect) (text : List Char) : Fault → Prop
  | closing {before after : List Char} (htext : text = before ++ d.closing :: after) :
      About d text (.at (utf8Width before) .unmatchedClosing)
  | placeholder {start : Nat} {f : Fault} (h : d.FailsAt text start f) : About d text f

/-- The fault has a place in the text that is not before byte `start`, and something it is about. -/
structure Fault.Located (d : Dialect) (text : List Char) (start : Nat) (f : Fault) : Prop where
  place : f.From text start
  about : f.About d text

section Pieces

variable {d : Dialect} {nested : Bool} {text cs : List Char} {start position levels depth : Nat}
  {f : Fault}

/-- What is said of the faults of placeholders and of unmatched closing braces goes for all that a
reading of pieces leaves. -/
theorem leaves_readPieces {G : Fault → Prop}
    {readPlaceholder : Nat → List Char → Reading Placeholder}
    (hplaceholder : ∀ {p cs}, Cursor.From text start ⟨p, d.opening :: cs⟩ →
      (readPlaceholder p cs).Leaves (fun i => G (.malformed i)) G)
    (hclosing : ∀ {p cs}, Cursor.From text start ⟨p, d.closing :: cs⟩ →
      G (.at p .unmatchedClosing))
    (skip : Nat) (hat : Cursor.From text start ⟨position, cs⟩) :
    (readPieces d nested readPlaceholder skip position cs).Leaves
      (fun i => G (.malformed i)) G := by
  induction cs generalizing skip position with
  | nil => cases skip <;> exact Reading.leaves_ok _
  | cons c cs ih =>
    cases skip with
    | succ n => exact ih n hat.next
    | zero =>
      simp only [readPieces]
      cases hrole : d.role nested c cs.head? with
      | text => exact (ih 0 hat.next).map
      | stop => exact Reading.leaves_ok _
      | braceEscape => exact (ih 1 hat.next).map
      | charLiteral => exact (ih _ hat.next).map
      | doubledBrace => exact (ih 1 hat.next).map
      | unmatchedClosing =>
        obtain ⟨rfl, -⟩ := Dialect.closing_of_unmatched hrole
        exact (d.leaves_tolerate (hclosing hat)).bind fun _ _ => (ih 0 hat.next).map
      | opening =>
        obtain rfl := Dialect.opening_of_role hrole
        obtain ⟨hissue, hfault⟩ := hplaceholder hat
        refine Reading.Leaves.bind ⟨hissue, by simp⟩ fun outcome houtcome => ?_
        cases outcome with
        | ok p => exact (ih _ hat.next).map
        | error f =>
          have hf : G f := hfault f (by simpa using houtcome)
          exact (d.leaves_tolerate hf).bind fun _ _ => (ih _ hat.next).map

/-- What is said of the placeholders of one depth goes for the formats that they stand in. -/
theorem leaves_readPieces_within
    (hplaceholder : ∀ {start position cs},
      Cursor.From text start ⟨position, d.opening :: cs⟩ →
        (readPlaceholderWithin d levels (depth + 1) position cs).Leaves
          (fun i => (Fault.malformed i).Located d text start) (Fault.From text position))
    (hlevels : levels + depth = d.maxDepth) (hat : Cursor.From text start ⟨position, cs⟩) :
    (readPieces d nested (readPlaceholderWithin d levels (depth + 1)) 0 position cs).Leaves
      (fun i => (Fault.malformed i).Located d text start) (Fault.Located d text start) := by
  refine leaves_readPieces (G := Fault.Located d text start) ?_ ?_ 0 hat
  · intro position cs hopening
    obtain ⟨hissue, hfault⟩ := hplaceholder hopening
    refine ⟨hissue, fun f hf => ⟨(hfault f hf).mono hopening.le, ?_⟩⟩
    obtain ⟨before, htext, hbefore⟩ := hopening.rest
    exact .placeholder ⟨before, cs, levels, depth, _, htext, hbefore, hlevels,
      congrArg (Reading.mk _) hf⟩
  · intro position cs hclosing
    obtain ⟨before, htext, rfl⟩ := hclosing.rest
    exact ⟨hclosing.fault _, .closing htext⟩

/-- A placeholder fails at its opening brace or behind it. -/
theorem leaves_readPlaceholderWithin (hlevels : levels + depth = d.maxDepth)
    (hat : Cursor.From text start ⟨position, d.opening :: cs⟩) :
    (readPlaceholderWithin d levels (depth + 1) position cs).Leaves
      (fun i => (Fault.malformed i).Located d text start) (Fault.From text position) := by
  have hself : Cursor.From text position ⟨position, d.opening :: cs⟩ := ⟨Nat.le_refl _, hat.rest⟩
  induction levels generalizing depth start position cs with
  | zero => exact Reading.leaves_error ⟨_, hself⟩
  | succ levels ih =>
    have hlevels' : levels + (depth + 1) = d.maxDepth := by omega
    -- the nested format lies behind this brace, so whatever fails in it does not fail before
    refine leaves_readPlaceholder (fun hbody => ?_)
      (takesText_readPieces (keepsText_readPlaceholderWithin levels (depth + 1 + 1))) hself
    have hplaceholders {start position : Nat} {cs : List Char}
        (hopening : Cursor.From text start ⟨position, d.opening :: cs⟩) :=
      ih hlevels' hopening ⟨Nat.le_refl _, hopening.rest⟩
    exact (leaves_readPieces_within hplaceholders hlevels' hbody).mono
      (fun i hi => ⟨hi.place.mono hat.le, hi.about⟩) fun f hf => hf.place

end Pieces

/-! ## Places in a template -/

/-- A fault has its place at the beginning of a character of the text or at its end, is about
something, and comes no earlier than any placeholder that it is about. -/
structure Fault.Placed (d : Dialect) (text : String) (f : Fault) : Prop where
  boundary : (String.Pos.Raw.mk f.position).IsValid text
  le_size : f.position ≤ text.utf8ByteSize
  about : f.About d text.toList
  behind : ∀ start, d.FailsAt text.toList start f → start ≤ f.position

section Templates

variable {d : Dialect} {text : String} {f : Fault}

theorem Dialect.FailsAt.le_position {text : List Char} {start : Nat} (h : d.FailsAt text start f) :
    start ≤ f.position := by
  obtain ⟨before, cs, levels, depth, issues, htext, hbefore, hlevels, hread⟩ := h
  have hat : Cursor.From text 0 ⟨start, d.opening :: cs⟩ := ⟨Nat.zero_le _, before, htext, hbefore⟩
  obtain ⟨rest, hplace⟩ := (leaves_readPlaceholderWithin hlevels hat).fault f (by rw [hread])
  exact hplace.le

theorem Fault.Located.placed (h : f.Located d text.toList 0) : f.Placed d text where
  boundary := h.place.isValid
  le_size := h.place.isValid.le_rawEndPos
  about := h.about
  behind _ hfails := hfails.le_position

/-- The reading of a template leaves nothing without a place. -/
theorem leaves_template (d : Dialect) (text : String) :
    (readPieces d false (readPlaceholderWithin d d.maxDepth 1) 0 0 text.toList).Leaves
      (fun i => (Fault.malformed i).Placed d text) (Fault.Placed d text) := by
  have hat : Cursor.From text.toList 0 ⟨0, text.toList⟩ := ⟨Nat.le_refl _, [], rfl, rfl⟩
  exact (leaves_readPieces_within (leaves_readPlaceholderWithin rfl) rfl hat).mono
    (fun _ h => h.placed) fun _ h => h.placed

/-- Every error of a template and every issue on record has a place in the text, which is not before
the placeholder that it is about. Where the error shows a line, it is the one that holds the place,
with a caret below. -/
theorem parse_places (d : Dialect) (text : String) :
    (∀ issue caret, Template.parse d text = .error (.malformed issue caret) →
      (Fault.malformed issue).Placed d text ∧ caret.PointsAt text issue.position) ∧
    (∀ position max, Template.parse d text = .error (.tooDeep position max) →
      (Fault.tooDeep position).Placed d text) ∧
    ∀ t, Template.parse d text = .ok t → ∀ i ∈ t.issues, (Fault.malformed i).Placed d text := by
  have hleaves := leaves_template d text
  unfold Template.parse
  simp only
  generalize readPieces d false (readPlaceholderWithin d d.maxDepth 1) 0 0 text.toList = reading
    at hleaves
  obtain ⟨issues, fault | run⟩ := reading
  · have hplaced := hleaves.fault fault rfl
    cases fault with
    | malformed found =>
      refine ⟨?_, by simp [Fault.toError, Error.ofIssue], by simp⟩
      rintro issue caret heq
      cases heq
      exact ⟨hplaced, Caret.locate_pointsAt hplaced.boundary⟩
    | tooDeep place =>
      refine ⟨by simp [Fault.toError], ?_, by simp⟩
      rintro position max heq
      cases heq
      exact hplaced
  · refine ⟨by simp, by simp, ?_⟩
    rintro t heq
    cases heq
    exact hleaves.issue

set_option maxRecDepth 4000 in
/-- In the second line, behind characters of two bytes, and inside another placeholder. -/
theorem parse_places_secondLine :
    let text := "é\n\x7ba:{ü..c}\n\x7d"
    (∃ issue caret, Template.parse {} text = .error (.malformed issue caret) ∧
      issue = ⟨10, .emptySelector⟩ ∧ caret.text = "\n\x7ba:{ü..c}\n      ^" ∧
      (Fault.malformed issue).Placed {} text ∧ caret.PointsAt text issue.position) ∧
    (∃ max, Template.parse { maxDepth := 1 } text = .error (.tooDeep 6 max) ∧
      (Fault.tooDeep 6).Placed { maxDepth := 1 } text) ∧
    ∃ t, Template.parse { onMalformed := .nothing } text = .ok t ∧ t.issues ≠ [] ∧
      ∀ i ∈ t.issues, (Fault.malformed i).Placed { onMalformed := .nothing } text := by
  intro text
  refine ⟨?_, ?_, ?_⟩
  · have hread : Template.parse {} "é\n\x7ba:{ü..c}\n\x7d" =
        .error (.malformed ⟨10, .emptySelector⟩ ⟨"\x7ba:{ü..c}", 6⟩) := by
      rfl
    obtain ⟨herror, -, -⟩ := parse_places {} text
    exact ⟨_, _, hread, rfl, by decide +kernel, herror _ _ hread⟩
  · have hread : Template.parse { maxDepth := 1 } "é\n\x7ba:{ü..c}\n\x7d" =
        .error (.tooDeep 6 1) := by
      rfl
    obtain ⟨-, htooDeep, -⟩ := parse_places { maxDepth := 1 } text
    exact ⟨1, hread, htooDeep _ _ hread⟩
  · have hany : (Template.parse { onMalformed := .nothing } text).toOption.any
        (fun t => !t.issues.isEmpty) = true := by
      decide +kernel
    obtain ⟨t, hread, hissues⟩ := exists_parse_of_any hany
    obtain ⟨-, -, hplaced⟩ := parse_places { onMalformed := .nothing } text
    exact ⟨t, hread, by simpa using hissues, hplaced t hread⟩

end Templates

end Stencil
