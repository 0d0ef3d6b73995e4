import Stencil.Proofs.Reading.Written
import Stencil.Proofs.Tiling

/-!
# The brace that ends a malformed region

A malformed region ends at a brace that is found by counting, whereas a placeholder ends where its
parts do. The two are the same brace as long as every brace that the reader takes for text is one
that counting leaves out too. That fails for braces in options, for doubled braces in a nested
format, and behind a character literal that ends in a character that escapes; and where a brace, or
what escapes one, may stand in a path.
-/

namespace Stencil

set_option autoImplicit false

/-! ## Counting past a text -/

section Counting

variable {d : Dialect} {text rest : List Char} {c b : Char}

/-- Whether the character makes a brace behind it text. -/
def Dialect.isEscape (d : Dialect) (c : Char) : Bool :=
  d.escape == some c || d.charLiterals && c == escapeMark

theorem Dialect.escapesBrace_eq (next : Option Char) :
    d.escapesBrace c next = (d.isEscape c && next.any d.isBrace) := rfl

theorem Dialect.escapesBrace_of_not_brace (h : d.isBrace b = false) :
    d.escapesBrace c (some b) = false := by
  rw [escapesBrace_eq, Option.any_some, h, Bool.and_false]

theorem Dialect.escapesBrace_of_not_escape (h : d.isEscape c = false) (next : Option Char) :
    d.escapesBrace c next = false := by
  rw [escapesBrace_eq, h, Bool.false_and]

theorem Dialect.escapesBrace_of_role {nested : Bool} {next : Option Char} {r : Role}
    (hrole : d.role nested c next = r) (hr : r ≠ .braceEscape) :
    d.escapesBrace c next = false := by
  cases hescape : d.escapesBrace c next with
  | false => rfl
  | true => exact absurd (hrole.symm.trans (role_eq_braceEscape_iff.mpr hescape)) hr

/-- Counting goes past a text in which there is no brace, unless it escapes the one behind it. -/
theorem regionFrom_append (hplain : ∀ c ∈ text, d.isBrace c = false)
    (hlast : ∀ c ∈ text.getLast?, d.escapesBrace c rest.head? = false) (depth : Nat) :
    regionFrom d false depth (text ++ rest) = text ++ regionFrom d false depth rest := by
  induction text with
  | nil => rfl
  | cons c text ih =>
    have hescape : d.escapesBrace c (text ++ rest).head? = false := by
      cases text with
      | nil => exact hlast c rfl
      | cons b text => exact Dialect.escapesBrace_of_not_brace (hplain b (by simp))
    have hinner := ih (fun b hb => hplain b (List.mem_cons_of_mem c hb)) fun b hb => by
      apply hlast
      rw [List.getLast?_cons, Option.mem_def.mp hb]
      rfl
    have hc : (c == d.opening) = false ∧ (c == d.closing) = false := by
      simpa [Dialect.isBrace] using hplain c List.mem_cons_self
    rw [List.cons_append, regionFrom, hescape, hc.1, hc.2, hinner]
    rfl

theorem regionFrom_escaped (h : d.escapesBrace c (some b) = true) (depth : Nat)
    (cs : List Char) :
    regionFrom d false depth (c :: b :: cs) = c :: b :: regionFrom d false depth cs := by
  simp only [regionFrom, List.head?_cons, h, Bool.false_eq_true, if_false, if_true]

theorem regionFrom_opening {cs : List Char} (h : d.escapesBrace d.opening cs.head? = false)
    (depth : Nat) :
    regionFrom d false depth (d.opening :: cs) =
      d.opening :: regionFrom d false (depth + 1) cs := by
  simp [regionFrom, h]

/-- The outermost brace ends the count. -/
theorem regionFrom_closing {cs : List Char} (h : d.escapesBrace d.closing cs.head? = false)
    (hdistinct : d.closing ≠ d.opening) (depth : Nat) :
    regionFrom d false (depth + 1) (d.closing :: cs) =
      d.closing :: if depth = 0 then [] else regionFrom d false depth cs := by
  cases depth <;> simp [regionFrom, h, hdistinct]

end Counting

/-! ## What counting gets right -/

/-- The usual delimiters, where no brace can stand in a selector, and what escapes a brace can
neither stand in a selector nor be a delimiter. -/
structure Dialect.BracesApart (d : Dialect) : Prop where
  usual : d.UsualDelimiters
  braces : ∀ c, d.isBrace c = true → d.isSelectorChar c = false
  escapes : ∀ c, d.isEscape c = true → d.isSelectorChar c = false ∧ c ∉ delimiters

/-- Whether counting gets the literal right where `next` is behind it: it is not the second brace of
a doubled pair, and no character literal that would escape a brace there. -/
def Literal.countsRight (d : Dialect) (next : Option Char) (l : Literal) : Bool :=
  match l.kind with
  | .elided .doubledBrace => false
  | .charLiteral => l.raw.toList.getLast?.all fun c => !d.escapesBrace c next
  | _ => true

mutual

def Format.countsRight (d : Dialect) : Format → Bool
  | ⟨_, _, pieces⟩ => piecesCountRight d pieces
termination_by structural f => f

/-- Whether counting gets the pieces right where a closing brace is behind them. -/
def piecesCountRight (d : Dialect) : List Piece → Bool
  | [] => true
  | p :: ps => p.countsRight d (piecesText ps ++ [d.closing]).head? && piecesCountRight d ps
termination_by structural ps => ps

def Piece.countsRight (d : Dialect) (next : Option Char) : Piece → Bool
  | .literal l => l.countsRight d next
  | .placeholder p => p.countsRight d
termination_by structural p => p

/-- Whether no brace is in the options, and none in the nested format is miscounted. -/
def Placeholder.countsRight (d : Dialect) : Placeholder → Bool
  | ⟨_, _, _, _, _, _, optionsAt, format⟩ =>
    optionsAt.all (fun o => o.text.toList.all (!d.isBrace ·)) && nestedCountsRight d format
termination_by structural p => p

def nestedCountsRight (d : Dialect) : Option Format → Bool
  | none => true
  | some f => f.countsRight d
termination_by structural f => f

end

section CountsRight

variable {d : Dialect} {run : Run}

theorem Placeholder.countsRight_eq (p : Placeholder) :
    p.countsRight d =
      (p.options.all (fun o => o.toList.all (!d.isBrace ·)) && nestedCountsRight d p.format) := by
  obtain ⟨_, _, _, _, _, _, optionsAt, _⟩ := p
  cases optionsAt <;> rfl

theorem piecesCountRight_cons (p : Piece) (ps : List Piece) :
    piecesCountRight d (p :: ps) =
      (p.countsRight d (piecesText ps ++ [d.closing]).head? && piecesCountRight d ps) := by
  simp only [piecesCountRight]

@[simp] theorem piecesCountRight_piecesFrom (start : Nat) :
    piecesCountRight d (run.piecesFrom start) = piecesCountRight d run.pieces := by
  unfold Run.piecesFrom
  split
  · rfl
  · simp only [piecesCountRight_cons, Piece.countsRight, Literal.countsRight, Bool.true_and]

@[simp] theorem Run.countsRight_toFormat (start depth : Nat) :
    (run.toFormat start depth).countsRight d = piecesCountRight d run.pieces := by
  rw [toFormat, Format.countsRight, piecesCountRight_piecesFrom]

@[simp] theorem piecesCountRight_prependText (text : List Char) :
    piecesCountRight d (run.prependText text).pieces = piecesCountRight d run.pieces := rfl

@[simp] theorem piecesCountRight_prependLiteral (start : Nat) (text : List Char)
    (kind : LiteralKind) :
    piecesCountRight d (run.prependLiteral start text kind).pieces =
      ((⟨start, String.ofList text, kind⟩ : Literal).countsRight d
        (piecesText (run.piecesFrom (start + utf8Width text)) ++ [d.closing]).head? &&
        piecesCountRight d run.pieces) := by
  rw [Run.prependLiteral, piecesCountRight_cons, Piece.countsRight, piecesCountRight_piecesFrom]

@[simp] theorem piecesCountRight_prependPlaceholder (p : Placeholder) :
    piecesCountRight d (run.prependPlaceholder p).pieces =
      (p.countsRight d && piecesCountRight d run.pieces) := by
  rw [Run.prependPlaceholder, piecesCountRight_cons, Piece.countsRight,
    piecesCountRight_piecesFrom]

end CountsRight

/-- A text that counting goes past whatever comes behind it. -/
structure PlainText (d : Dialect) (text : List Char) : Prop where
  unbraced : ∀ c ∈ text, d.isBrace c = false
  unescaping : ∀ c ∈ text.getLast?, d.isEscape c = false

section Plain

variable {d : Dialect} {text text' : List Char}

theorem PlainText.regionFrom_append (h : PlainText d text) (depth : Nat) (rest : List Char) :
    regionFrom d false depth (text ++ rest) = text ++ regionFrom d false depth rest :=
  Stencil.regionFrom_append h.unbraced
    (fun c hc => Dialect.escapesBrace_of_not_escape (h.unescaping c hc) _) depth

theorem PlainText.nil : PlainText d [] := ⟨by simp, by simp⟩

theorem PlainText.append (h : PlainText d text) (h' : PlainText d text') :
    PlainText d (text ++ text') where
  unbraced c hc := by
    rcases List.mem_append.mp hc with hc | hc
    · exact h.unbraced c hc
    · exact h'.unbraced c hc
  unescaping c hc := by
    rw [List.getLast?_append] at hc
    cases hlast : text'.getLast? with
    | none =>
      rw [hlast] at hc
      exact h.unescaping c hc
    | some b =>
      rw [hlast] at hc
      exact h'.unescaping c (hlast.trans hc)

/-- Only the last of the characters may escape the brace behind them. -/
theorem PlainText.behind (hplain : ∀ c ∈ text, d.isBrace c = false) (hne : text' ≠ [])
    (h : PlainText d text') : PlainText d (text ++ text') where
  unbraced c hc := by
    rcases List.mem_append.mp hc with hc | hc
    · exact hplain c hc
    · exact h.unbraced c hc
  unescaping c hc := by
    have hlast := List.getLast?_eq_some_getLast hne
    rw [List.getLast?_append, hlast] at hc
    exact h.unescaping c (hlast.trans hc)

theorem Dialect.isSelectorChar_of_isDigit (d : Dialect) {c : Char} (hc : c.isDigit = true) :
    d.isSelectorChar c = true := by
  have hlt : c.toNat < 128 := by
    simp only [Char.isDigit, Bool.and_eq_true, decide_eq_true_eq, UInt32.le_iff_toNat_le] at hc
    exact Nat.lt_of_le_of_lt hc.2 (by decide)
  simp [Dialect.isSelectorChar, isAlphanumeric_eq_isAlphanum hlt, Char.isAlphanum, hc]

variable (hd : d.BracesApart)
include hd

theorem Dialect.BracesApart.not_isEscape {c : Char} (hc : c ∈ delimiters) :
    d.isEscape c = false := by
  cases h : d.isEscape c with
  | false => rfl
  | true => exact absurd hc (hd.escapes c h).2

theorem Dialect.BracesApart.mem_delimiters {c : Char} (hc : d.isBrace c = true) :
    c ∈ delimiters := by
  rcases hd.usual.brace_eq hc with rfl | rfl <;> decide

/-- A brace does not escape another. -/
theorem Dialect.BracesApart.not_escapesBrace {c : Char} (hc : d.isBrace c = true)
    (next : Option Char) : d.escapesBrace c next = false :=
  Dialect.escapesBrace_of_not_escape (hd.not_isEscape (hd.mem_delimiters hc)) next

theorem Dialect.BracesApart.not_isBrace {c : Char} (hc : d.isSelectorChar c = true) :
    d.isBrace c = false := by
  cases h : d.isBrace c with
  | false => rfl
  | true => rw [hd.braces c h] at hc; cases hc

/-- Selector characters have no part in braces. -/
theorem Dialect.BracesApart.plainText (hchars : ∀ c ∈ text, d.isSelectorChar c = true) :
    PlainText d text where
  unbraced c hc := hd.not_isBrace (hchars c hc)
  unescaping c hc := by
    cases h : d.isEscape c with
    | false => rfl
    | true =>
      have hselector := hchars c (List.mem_of_getLast? hc)
      rw [(hd.escapes c h).1] at hselector
      cases hselector

/-- The delimiters other than braces. -/
theorem Dialect.BracesApart.not_isBrace_mark {c : Char}
    (hc : c ∈ ['.', ',', ':', '(', ')', '-', escapeMark]) : d.isBrace c = false := by
  have hall : ∀ c ∈ ['.', ',', ':', '(', ')', '-', escapeMark],
      (c == '{' || c == '}') = false := by simp [escapeMark]
  rw [Dialect.isBrace, hd.usual.opening, hd.usual.closing]
  exact hall c hc

theorem Dialect.BracesApart.plainText_concat {c : Char} (hc : c ∈ ['.', ',', ':', '(', ')'])
    (hplain : ∀ c ∈ text, d.isBrace c = false) : PlainText d (text ++ [c]) := by
  have hall : ∀ c ∈ ['.', ',', ':', '(', ')'],
      c ∈ delimiters ∧ c ∈ ['.', ',', ':', '(', ')', '-', escapeMark] := by simp [delimiters]
  have hmark := hall c hc
  refine .behind hplain (by simp) ⟨fun b hb => ?_, fun b hb => ?_⟩
  · rw [List.mem_singleton.mp hb]
    exact hd.not_isBrace_mark hmark.2
  · cases hb
    exact hd.not_isEscape hmark.1

theorem plainText_intercalate {first : List Char} {later : List (List Char)}
    (chars : ∀ s ∈ first :: later, ∀ c ∈ s, d.isSelectorChar c = true) :
    PlainText d ([d.pathMark].intercalate (first :: later)) := by
  induction later generalizing first with
  | nil =>
    rw [List.intercalate_singleton]
    exact hd.plainText (chars first List.mem_cons_self)
  | cons second later ih =>
    have hfirst := hd.plainText (chars first List.mem_cons_self)
    have hmarked : PlainText d (first ++ [d.pathMark]) :=
      hd.plainText_concat (by simp [hd.usual.pathMark]) hfirst.unbraced
    rw [List.intercalate_cons_cons]
    exact hmarked.append (ih fun s hs => chars s (List.mem_cons_of_mem first hs))

theorem PathText.plainText {path : List String} (h : PathText d text path) : PlainText d text := by
  cases h with
  | current => exact .nil
  | selectors first later chars _ => exact plainText_intercalate hd fun s hs => (chars s hs).2

theorem AlignmentText.plainText {a : Int} (h : AlignmentText d text a) : PlainText d text := by
  cases h with
  | absent => exact .nil
  | written negative digits nonempty decimal _ =>
    have hdigits : PlainText d digits := hd.plainText fun c hc =>
      d.isSelectorChar_of_isDigit (List.all_eq_true.mp decimal c hc)
    rw [← List.cons_append]
    refine .behind (fun c hc => ?_) nonempty hdigits
    rcases List.mem_cons.mp hc with rfl | hc
    · exact hd.not_isBrace_mark (by simp [hd.usual.alignmentMark])
    · exact hd.not_isBrace_mark (by cases negative <;> simp_all [signText])

end Plain

/-! ## Counting past a nested format -/

section Pieces

variable {d : Dialect} {run : Run}

/-- Behind the first character of a sequence there are only hexadecimal digits. -/
theorem CharLiteral.isHexDigit_of_extent {b : Char} {body behind : List Char}
    (h : extent (b :: body ++ behind) = (b :: body).length) :
    ∀ c ∈ body, isHexDigit c = true := by
  simp only [List.cons_append, extent, List.length_cons] at h
  split at h
  · have hprefix : ((body ++ behind).take 4).takeWhile isHexDigit <+: body ++ behind :=
      (List.takeWhile_prefix _).trans (List.take_prefix _ _)
    have hbody : ((body ++ behind).take 4).takeWhile isHexDigit = body := by
      rw [List.prefix_iff_eq_take.mp hprefix]
      have hlength : (((body ++ behind).take 4).takeWhile isHexDigit).length = body.length := by
        omega
      rw [hlength, List.take_left]
    intro c hc
    rw [← hbody] at hc
    exact List.all_eq_true.mp List.all_takeWhile c hc
  · obtain rfl : body = [] := List.length_eq_zero_iff.mp (by omega)
    simp

/-- A character literal holds no brace: a brace behind the backslash would have been escaped. -/
theorem charLiteral_unbraced (hd : d.BracesApart) {nested : Bool} {c : Char}
    {body behind : List Char} (hrole : d.role nested c (body ++ behind).head? = .charLiteral)
    (hbody : CharLiteral.extent (body ++ behind) = body.length) :
    ∀ b ∈ c :: body, d.isBrace b = false := by
  obtain ⟨hliterals, rfl⟩ := Dialect.charLiterals_of_role hrole
  intro b hb
  rcases List.mem_cons.mp hb with rfl | hb
  · exact hd.not_isBrace_mark (by simp)
  · cases body with
    | nil => cases hb
    | cons first body =>
      rcases List.mem_cons.mp hb with rfl | hb
      · have hescape := Dialect.escapesBrace_of_role hrole (by decide)
        simpa [Dialect.escapesBrace, hliterals] using hescape
      · have hhex := CharLiteral.isHexDigit_of_extent hbody b hb
        cases hbrace : d.isBrace b with
        | false => rfl
        | true =>
          rcases hd.usual.brace_eq hbrace with rfl | rfl <;> exact absurd hhex (by decide)

/-- Where a placeholder is read, counting its braces goes past it. -/
def PastPlaceholders (d : Dialect) (readPlaceholder : Nat → List Char → Reading Placeholder) :
    Prop :=
  ∀ {position : Nat} {body rest : List Char} {p : Placeholder},
    readPlaceholder position (body ++ rest) = ⟨[], .ok p⟩ →
    p.raw = String.ofList (d.opening :: body) → p.countsRight d = true → ∀ depth,
    regionFrom d false (depth + 1) (d.opening :: body ++ rest) =
      d.opening :: body ++ regionFrom d false (depth + 1) rest

theorem PiecesRead.regionFrom_append (hd : d.BracesApart)
    {readPlaceholder : Nat → List Char → Reading Placeholder}
    (hpast : PastPlaceholders d readPlaceholder) {position : Nat} {text rest : List Char}
    {issues : List Issue}
    (h : PiecesRead d true readPlaceholder position text rest run issues)
    (hissues : issues = []) (hrest : rest.head? = some d.closing)
    (hcounts : piecesCountRight d run.pieces = true) (depth : Nat) :
    regionFrom d false (depth + 1) (text ++ rest) =
      text ++ regionFrom d false (depth + 1) rest := by
  induction h with
  | done _ => rfl
  | @text position c text rest run _ hrole _ ih =>
    have hescape := Dialect.escapesBrace_of_role hrole (by decide)
    have hfirst : regionFrom d false (depth + 1) ([c] ++ (text ++ rest)) =
        [c] ++ regionFrom d false (depth + 1) (text ++ rest) :=
      Stencil.regionFrom_append (by simpa using Dialect.isBrace_of_text hrole)
        (by simpa using hescape) (depth + 1)
    rw [ih hissues hrest hcounts] at hfirst
    exact hfirst
  | braceEscape hrole _ ih =>
    rw [piecesCountRight_prependLiteral, Bool.and_eq_true] at hcounts
    rw [List.cons_append, List.cons_append,
      regionFrom_escaped (Dialect.role_eq_braceEscape_iff.mp hrole), ih hissues hrest hcounts.2]
    rfl
  | @charLiteral position c body text rest run _ hrole hbody hrun ih =>
    have hspelled : piecesText (run.piecesFrom (position + utf8Width (c :: body))) = text := by
      have hspells := hrun.spells.piecesFrom.2
      rw [Nat.add_assoc] at hspells
      exact hspells
    have hhead : (text ++ [d.closing]).head? = (text ++ rest).head? := by
      obtain ⟨behind, rfl⟩ := List.head?_eq_some_iff.mp hrest
      cases text <;> rfl
    rw [piecesCountRight_prependLiteral, hspelled, hhead, Bool.and_eq_true] at hcounts
    have hlast : ∀ b ∈ (c :: body).getLast?, d.escapesBrace b (text ++ rest).head? = false := by
      intro b hb
      have hcounted := hcounts.1
      rw [Literal.countsRight, String.toList_ofList, Option.mem_def.mp hb, Option.all_some]
        at hcounted
      simpa using hcounted
    rw [List.append_assoc, Stencil.regionFrom_append (charLiteral_unbraced hd hrole hbody) hlast,
      ih hissues hrest hcounts.2, List.append_assoc]
  | doubledBrace _ _ _ =>
    rw [piecesCountRight_prependText, piecesCountRight_prependLiteral] at hcounts
    cases hcounts
  | placeholder _ hread _ hraw _ ih =>
    obtain ⟨rfl, rfl⟩ := List.append_eq_nil_iff.mp hissues
    rw [piecesCountRight_prependPlaceholder, Bool.and_eq_true] at hcounts
    rw [List.append_assoc, hpast hread hraw hcounts.1 depth, ih rfl hrest hcounts.2,
      List.append_assoc]
  | malformed _ _ _ _ _ _ => simp at hissues
  | unmatched _ _ _ _ => cases hissues

end Pieces

/-! ## Counting past a placeholder -/

section Placeholder

variable {d : Dialect} (hd : d.BracesApart) {depth levels position : Nat}
include hd

theorem FormatterName.unbraced {name : List Char} (hname : FormatterName d name) :
    ∀ c ∈ name, d.isBrace c = false := by
  intro c hc
  cases hbrace : d.isBrace c with
  | false => rfl
  | true =>
    have hdelimiter := isNameChar_of_mem_delimiters c (hd.mem_delimiters hbrace)
    rw [hname.chars c hc] at hdelimiter
    cases hdelimiter

/-- A formatter with options is plain text. -/
theorem FormatterName.plainText {name options : List Char} (hname : FormatterName d name)
    (hoptions : ∀ c ∈ options, d.isBrace c = false) :
    PlainText d (d.formatMark :: name ++ d.optionsOpening :: options ++ [d.optionsClosing]) := by
  refine hd.plainText_concat (by simp [hd.usual.optionsClosing]) fun c hc => ?_
  simp only [List.cons_append, List.mem_cons, List.mem_append] at hc
  rcases hc with rfl | hc | rfl | hc
  · exact hd.not_isBrace_mark (by simp [hd.usual.formatMark])
  · exact hname.unbraced hd c hc
  · exact hd.not_isBrace_mark (by simp [hd.usual.optionsOpening])
  · exact hoptions c hc

/-- What stands before the nested format is plain text, and so is all of it without one. -/
theorem SpecificationRead.exists_front {readBody : Nat → List Char → Reading Run}
    {text rest : List Char} {spec : Specification} {issues : List Issue}
    (h : SpecificationRead d depth readBody position text rest spec issues)
    (hoptions : ∀ o, spec.options = some o → ∀ c ∈ o.toList, d.isBrace c = false) :
    PlainText d text ∨ ∃ front inner start run, text = front ++ inner ∧ PlainText d front ∧
      spec.format = some (run.toFormat start depth) ∧
      readBody start (inner ++ rest) = ⟨issues, .ok run⟩ ∧
      run.stop = ⟨start + utf8Width inner, rest⟩ := by
  have hmark : d.formatMark ∈ ['.', ',', ':', '(', ')'] := by simp [hd.usual.formatMark]
  cases h with
  | absent _ => exact .inl .nil
  | @format text _ run _ _ hbody hstop =>
    have hfront : PlainText d ([] ++ [d.formatMark]) := hd.plainText_concat hmark (by simp)
    exact .inr ⟨[d.formatMark], text, _, run, rfl, hfront, rfl, hbody, hstop⟩
  | @named start name text _ run _ hname _ _ _ hbody hstop =>
    have hfront : PlainText d (d.formatMark :: name ++ [d.formatMark]) := by
      refine hd.plainText_concat hmark fun c hc => ?_
      rcases List.mem_cons.mp hc with rfl | hc
      · exact hd.not_isBrace_mark (by simp [hd.usual.formatMark])
      · exact hname.unbraced hd c hc
    exact .inr ⟨_, text, _, run, rfl, hfront, rfl, hbody, hstop⟩
  | options hname _ _ _ _ _ =>
    exact .inl (hname.plainText hd (by simpa using hoptions _ rfl))
  | @optionsFormat start name options text _ run _ hname _ _ _ hbody hstop =>
    have hcall := hname.plainText hd (by simpa using hoptions _ rfl)
    have hfront : PlainText d (d.formatMark :: name ++ d.optionsOpening :: options ++
        [d.optionsClosing, d.formatMark]) := by
      have hmarked := hd.plainText_concat hmark hcall.unbraced
      rw [List.append_assoc _ [d.optionsClosing]] at hmarked
      exact hmarked
    exact .inr ⟨_, text, _, run, rfl, hfront, rfl, hbody, hstop⟩

theorem SpecificationRead.regionFrom_append
    (hpast : PastPlaceholders d (readPlaceholderWithin d levels (depth + 1)))
    {text rest : List Char} {spec : Specification}
    (h : SpecificationRead d depth (readNestedWithin d levels depth) position text rest spec [])
    (hrest : rest.head? = some d.closing)
    (hoptions : ∀ o, spec.options = some o → ∀ c ∈ o.toList, d.isBrace c = false)
    (hnested : nestedCountsRight d spec.format = true) (count : Nat) :
    regionFrom d false (count + 1) (text ++ rest) =
      text ++ regionFrom d false (count + 1) rest := by
  rcases h.exists_front hd hoptions with
    hplain | ⟨front, inner, start, run, rfl, hfront, hformat, hbody, hstop⟩
  · exact hplain.regionFrom_append _ _
  · have hpieces := piecesRead_of_readNestedWithin hbody hstop
    have hcounts : piecesCountRight d run.pieces = true := by
      simpa only [hformat, nestedCountsRight, Run.countsRight_toFormat] using hnested
    have hinner := hpieces.regionFrom_append hd hpast rfl hrest hcounts count
    rw [List.append_assoc, hfront.regionFrom_append, hinner, List.append_assoc]

/-- Counting from within a placeholder goes past its nested format and ends with its closing
brace, or goes on for the placeholders around it. -/
theorem PlaceholderRead.regionFrom_eq (levels : Nat) :
    ∀ {depth position : Nat} {body rest : List Char} {p : Placeholder},
      PlaceholderRead d depth (readNestedWithin d levels depth) position body rest p [] →
      p.countsRight d = true → ∀ count,
      regionFrom d false (count + 1) (body ++ rest) =
        body ++ if count = 0 then [] else regionFrom d false count rest := by
  have hclosing : d.isBrace d.closing = true := by simp [Dialect.isBrace]
  have hopening : d.isBrace d.opening = true := by simp [Dialect.isBrace]
  have hdistinct : d.closing ≠ d.opening := by
    rw [hd.usual.closing, hd.usual.opening]
    decide
  induction levels using levels_induction with
  | step levels ih =>
    intro depth position body rest p h hp count
    have hpast : PastPlaceholders d (readPlaceholderWithin d levels (depth + 1)) := by
      intro position' body' rest' q hread hraw hq count'
      obtain ⟨outer, hlevels, hinner⟩ := placeholderRead_of_readPlaceholderWithin hread hraw
      rw [List.cons_append, regionFrom_opening (hd.not_escapesBrace hopening _),
        ih outer hlevels hinner hq, if_neg (Nat.succ_ne_zero count')]
      rfl
    cases h with
    | @intro pathText alignText specText _ path alignment spec _ hpath _ halign _ hspec =>
      rw [Placeholder.countsRight_eq, Bool.and_eq_true] at hp
      obtain ⟨hbraces, hnested⟩ := hp
      have hoptions : ∀ o, spec.options = some o → ∀ c ∈ o.toList, d.isBrace c = false := by
        intro o ho
        have hsame : spec.optionsAt.map Excerpt.text = some o := ho
        simpa [Placeholder.options, hsame] using hbraces
      have hlead := (hpath.plainText hd).append (halign.plainText hd)
      have hassoc : pathText ++ alignText ++ specText ++ [d.closing] ++ rest =
          pathText ++ alignText ++ (specText ++ d.closing :: rest) := by simp
      rw [hassoc, hlead.regionFrom_append, hspec.regionFrom_append hd hpast rfl hoptions hnested,
        regionFrom_closing (hd.not_escapesBrace hclosing _) hdistinct]
      simp

end Placeholder

/-- Whether something is read without an issue, and `q` is true of it. -/
def Reading.cleanlyAny {α : Type} (q : α → Bool) (r : Reading α) : Bool :=
  r.issues.isEmpty && r.outcome.toOption.any q

theorem Reading.exists_ok_of_cleanlyAny {α : Type} {q : α → Bool} {r : Reading α}
    (h : r.cleanlyAny q = true) : ∃ a, r = ⟨[], .ok a⟩ ∧ q a = true := by
  obtain ⟨issues, outcome⟩ := r
  rw [cleanlyAny, Bool.and_eq_true, List.isEmpty_iff] at h
  obtain ⟨rfl, hq⟩ := h
  cases outcome with
  | error fault => cases hq
  | ok a => exact ⟨a, rfl, hq⟩

/-- A region that begins where a placeholder can be read ends where the placeholder does, if the
braces in the placeholder are counted right and the settings keep braces apart: with a brace among
the characters of selectors it is counted in the path, and with an escape that is one of them, or a
delimiter, the brace that ends the placeholder is skipped, as in `{a:}` where `:` escapes. -/
theorem region_eq_raw {d : Dialect} (hd : d.BracesApart) {levels depth position : Nat}
    {cs : List Char} {p : Placeholder}
    (hread : readPlaceholderWithin d levels depth position cs = ⟨[], .ok p⟩)
    (hp : p.countsRight d = true) : region d (d.opening :: cs) = p.raw.toList := by
  obtain ⟨outer, body, rest, -, rfl, hplaceholder⟩ := readPlaceholderWithin_eq_ok_iff.mp hread
  have hopening : d.isBrace d.opening = true := by simp [Dialect.isBrace]
  rw [region, regionFrom_opening (hd.not_escapesBrace hopening _),
    hplaceholder.regionFrom_eq hd outer hp 0, hplaceholder.raw_eq, String.toList_ofList]
  simp

/-- An escape in options, character literals, nested formats and an escaped brace, which are all
counted right, and a placeholder behind the region. -/
theorem region_eq_raw_nested :
    Dialect.BracesApart { charLiterals := true } ∧
    ∃ p, readPlaceholderWithin { charLiterals := true } 3 1 0
        "a,7:choose(x\\|y):\\n{b:{c}}|\\\\-\\\x7d\x7d {d}".toList = ⟨[], .ok p⟩ ∧
      p.countsRight { charLiterals := true } = true ∧
      region { charLiterals := true }
        "\x7ba,7:choose(x\\|y):\\n{b:{c}}|\\\\-\\\x7d\x7d {d}".toList = p.raw.toList := by
  have hapart : Dialect.BracesApart { charLiterals := true } := by
    refine ⟨⟨rfl, rfl, rfl, rfl, rfl, rfl, rfl⟩, fun c hc => ?_, fun c hc => ?_⟩
    · have hbrace : c = '{' ∨ c = '}' := by simpa [Dialect.isBrace] using hc
      rcases hbrace with rfl | rfl <;> decide +kernel
    · have hmark : c = escapeMark := by simpa [Dialect.isEscape] using hc
      subst hmark
      decide +kernel
  have hany : (readPlaceholderWithin { charLiterals := true } 3 1 0
      "a,7:choose(x\\|y):\\n{b:{c}}|\\\\-\\\x7d\x7d {d}".toList).cleanlyAny
        (Placeholder.countsRight { charLiterals := true }) = true := by
    decide +kernel
  obtain ⟨p, hread, hcounts⟩ := Reading.exists_ok_of_cleanlyAny hany
  exact ⟨hapart, p, hread, hcounts, region_eq_raw hapart hread hcounts⟩

/-- The doubled brace in the format of `{0:{{}` is one brace of text, and two that are counted. -/
theorem region_doubledBrace :
    ¬ ∀ (d : Dialect) (levels depth position : Nat) (cs : List Char) (p : Placeholder),
      d.UsualDelimiters → readPlaceholderWithin d levels depth position cs = ⟨[], .ok p⟩ →
      region d (d.opening :: cs) = p.raw.toList := by
  intro hclaim
  have hany : (readPlaceholderWithin {} 1 1 0 "0:\x7b\x7b\x7d {c}".toList).cleanlyAny (fun p =>
      region {} "\x7b0:\x7b\x7b\x7d {c}".toList != p.raw.toList) = true := by
    decide +kernel
  obtain ⟨p, hread, hdiffers⟩ := Reading.exists_ok_of_cleanlyAny hany
  have hsame := hclaim {} 1 1 0 _ p ⟨rfl, rfl, rfl, rfl, rfl, rfl, rfl⟩ hread
  exact absurd hsame (bne_iff_ne.mp hdiffers)

end Stencil
