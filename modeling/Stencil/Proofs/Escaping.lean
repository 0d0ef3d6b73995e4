import Stencil.Proofs.Reading.Delimiters
import Stencil.Proofs.Reading.Nested
import Stencil.Proofs.Render.Steps
import Stencil.Proofs.Session.Reached

/-!
# Escaped texts

Every text can be written as a template that is rendered as that text and nothing else: with its
braces doubled, with a mark before each of them, or with a backslash before each and any character
spelled by a character literal, as the dialect has it. Neither the sources and formatters nor the
arguments matter, for such a template has no placeholders.
-/

namespace Stencil

set_option autoImplicit false

namespace Escaping

def isBrace (c : Char) : Bool := c == '{' || c == '}'

/-- With every brace twice. -/
def doubled (text : List Char) : List Char :=
  text.flatMap fun c => if isBrace c then [c, c] else [c]

/-- With a mark before every brace. -/
def marked (mark : Char) (text : List Char) : List Char :=
  text.flatMap fun c => if isBrace c then [mark, c] else [c]

/-- The characters that have a sign of their own to stand for them behind a backslash. -/
def signs : List (Char × Char) :=
  [('\n', 'n'), ('\t', 't'), ('\r', 'r'), ('\x00', '0'), ('\x07', 'a'), ('\x08', 'b'),
    ('\x0c', 'f'), ('\x0b', 'v'), ('\'', '\''), ('"', '"')]

/-- A digit for a number below 16, in either case. -/
def HexDigit (n : Nat) (c : Char) : Prop := n < 16 ∧ (c = n.digitChar ∨ c = n.digitChar.toUpper)

/-- How a character may be spelled where a backslash begins a character literal. -/
inductive CharSpelling : Char → List Char → Prop
  | brace {c : Char} (hc : isBrace c = true) : CharSpelling c ['\\', c]
  | backslash : CharSpelling '\\' ['\\', '\\']
  | itself {c : Char} (hbrace : isBrace c = false) (hmark : c ≠ '\\') : CharSpelling c [c]
  | sign {c sign : Char} (h : (c, sign) ∈ signs) : CharSpelling c ['\\', sign]
  | code {c h₃ h₂ h₁ h₀ : Char} {n₃ n₂ n₁ n₀ : Nat}
      (hcode : c.toNat = 16 * (16 * (16 * n₃ + n₂) + n₁) + n₀) (hn₃ : HexDigit n₃ h₃)
      (hn₂ : HexDigit n₂ h₂) (hn₁ : HexDigit n₁ h₁) (hn₀ : HexDigit n₀ h₀) :
      CharSpelling c ['\\', 'u', h₃, h₂, h₁, h₀]

/-- A spelling of every character of a text, one behind the other. -/
inductive Spelling : List Char → List Char → Prop
  | nil : Spelling [] []
  | cons {c : Char} {front text spelled : List Char} (hc : CharSpelling c front)
      (htext : Spelling text spelled) : Spelling (c :: text) (front ++ spelled)

end Escaping

section Literals

theorem hexDigit_value {n : Nat} {c : Char} (h : Escaping.HexDigit n c) :
    isHexDigit c = true ∧ hexDigitValue c = n := by
  have hall : ∀ n < 16, (isHexDigit n.digitChar = true ∧ hexDigitValue n.digitChar = n) ∧
      isHexDigit n.digitChar.toUpper = true ∧ hexDigitValue n.digitChar.toUpper = n := by
    decide
  obtain ⟨hlt, rfl | rfl⟩ := h
  · exact (hall n hlt).1
  · exact (hall n hlt).2

/-- Behind a backslash `body` stands for `c`, whatever comes behind it. -/
structure CharLiteral.StandsFor (body : List Char) (c : Char) : Prop where
  extent : ∀ rest, CharLiteral.extent (body ++ rest) = body.length
  meaning : CharLiteral.meaning false body = some c
  unbraced : ∀ b ∈ body.head?, Escaping.isBrace b = false

theorem CharLiteral.StandsFor.unescape_eq {body : List Char} {c : Char}
    (h : CharLiteral.StandsFor body c) :
    unescape false (String.ofList (escapeMark :: body)) = String.ofList [c] := by
  have hextent : CharLiteral.extent body = body.length := by simpa using h.extent []
  have hbody : CharLiteral.unescapeAfter false body.length body = [] := by
    rw [CharLiteral.unescapeAfter_eq_drop, List.drop_length]
    rfl
  simp [unescape, CharLiteral.unescapeAfter, hextent, CharLiteral.replacement, h.meaning, hbody]

theorem CharLiteral.standsFor_sign {c sign : Char}
    (h : (c, sign) ∈ ('\\', '\\') :: Escaping.signs) :
    CharLiteral.StandsFor [sign] c := by
  have hall : ∀ p ∈ ('\\', '\\') :: Escaping.signs, p.2 ≠ 'u' ∧
      CharLiteral.single p.2 = some p.1 ∧ Escaping.isBrace p.2 = false := by
    decide
  obtain ⟨hu, hsingle, hbrace⟩ := hall _ h
  refine ⟨fun rest => ?_, ?_, by simpa using hbrace⟩
  · simp [CharLiteral.extent, hu]
  · simp [CharLiteral.meaning, hu, hsingle]

theorem CharLiteral.standsFor_code {c h₃ h₂ h₁ h₀ : Char} {n₃ n₂ n₁ n₀ : Nat}
    (hcode : c.toNat = 16 * (16 * (16 * n₃ + n₂) + n₁) + n₀)
    (hn₃ : Escaping.HexDigit n₃ h₃) (hn₂ : Escaping.HexDigit n₂ h₂)
    (hn₁ : Escaping.HexDigit n₁ h₁) (hn₀ : Escaping.HexDigit n₀ h₀) :
    CharLiteral.StandsFor ['u', h₃, h₂, h₁, h₀] c := by
  obtain ⟨hex₃, hv₃⟩ := hexDigit_value hn₃
  obtain ⟨hex₂, hv₂⟩ := hexDigit_value hn₂
  obtain ⟨hex₁, hv₁⟩ := hexDigit_value hn₁
  obtain ⟨hex₀, hv₀⟩ := hexDigit_value hn₀
  refine ⟨fun rest => ?_, ?_, by simp [Escaping.isBrace]⟩
  · simp [CharLiteral.extent, hex₃, hex₂, hex₁, hex₀]
  · have hvalue : 16 * (16 * (16 * n₃ + n₂) + n₁) + n₀ = c.toNat := by omega
    have hvalid : c.toNat.isValidChar := c.valid
    simp [CharLiteral.meaning, CharLiteral.ofHex, hv₃, hv₂, hv₁, hv₀, ← hcode, hvalid]

end Literals

section Reading

/-- The text that the literals of a run are rendered as. -/
def Run.rendered (run : Run) : List Char :=
  run.lead ++ (Formatter.literalText ⟨0, 0, run.pieces⟩).toList

variable (run : Run) (start depth : Nat) (front : List Char) (kind : LiteralKind)

theorem literalText_toFormat :
    (Formatter.literalText (run.toFormat start depth)).toList = run.rendered := by
  unfold Run.toFormat Run.rendered Run.piecesFrom
  cases run.lead with
  | nil => rfl
  | cons c cs => simp [Formatter.literalText, Literal.rendered]

@[simp] theorem Run.rendered_prependText :
    (run.prependText front).rendered = front ++ run.rendered := by
  simp [rendered, prependText]

@[simp] theorem Run.rendered_prependLiteral :
    (run.prependLiteral start front kind).rendered =
      (Literal.rendered ⟨start, String.ofList front, kind⟩).toList ++ run.rendered := by
  rw [← literalText_toFormat run (start + utf8Width front) 0]
  simp [rendered, prependLiteral, Formatter.literalText, Run.toFormat]

variable {run}

theorem isLiteral_piecesFrom (h : ∀ q ∈ run.pieces, q.isLiteral = true) :
    ∀ q ∈ run.piecesFrom start, q.isLiteral = true := by
  intro q hq
  rcases Piece.mem_piecesFrom.mp hq with ⟨-, rfl⟩ | hq
  · rfl
  · exact h q hq

theorem isLiteral_toFormat (h : ∀ q ∈ run.pieces, q.isLiteral = true) :
    (run.toFormat start depth).isLiteral = true :=
  List.all_eq_true.mpr (isLiteral_piecesFrom start h)

theorem isLiteral_prependLiteral (h : ∀ q ∈ run.pieces, q.isLiteral = true) :
    ∀ q ∈ (run.prependLiteral start front kind).pieces, q.isLiteral = true :=
  List.forall_mem_cons.mpr ⟨rfl, isLiteral_piecesFrom _ h⟩

/-- Wherever `spelled` stands, it is read as literals that are rendered as `text`. -/
def ReadAsText (d : Dialect) (spelled text : List Char) : Prop :=
  ∀ position, ∃ run,
    PiecesRead d false (readPlaceholderWithin d d.maxDepth 1) position spelled [] run [] ∧
      (∀ q ∈ run.pieces, q.isLiteral = true) ∧ run.rendered = text

variable {d : Dialect} {spelled content : List Char}

theorem readAsText_nil : ReadAsText d [] [] :=
  fun _ => ⟨_, .done (.inl rfl), by simp, rfl⟩

theorem ReadAsText.text {c : Char} (hrole : d.role false c spelled.head? = .text)
    (h : ReadAsText d spelled content) : ReadAsText d (c :: spelled) (c :: content) := by
  intro position
  obtain ⟨run, hread, hliteral, rfl⟩ := h (position + c.utf8Size)
  exact ⟨_, .text (by simpa using hrole) hread, hliteral, by simp⟩

theorem ReadAsText.braceEscape {c b : Char} (hrole : d.role false c (some b) = .braceEscape)
    (h : ReadAsText d spelled content) : ReadAsText d (c :: b :: spelled) (b :: content) := by
  intro position
  obtain ⟨run, hread, hliteral, rfl⟩ := h (position + c.utf8Size + b.utf8Size)
  refine ⟨_, .braceEscape hrole hread, isLiteral_prependLiteral _ _ _ hliteral, ?_⟩
  simp [Literal.rendered]

theorem ReadAsText.doubledBrace {c : Char} (hrole : d.role false c (some c) = .doubledBrace)
    (h : ReadAsText d spelled content) : ReadAsText d (c :: c :: spelled) (c :: content) := by
  intro position
  obtain ⟨run, hread, hliteral, rfl⟩ := h (position + c.utf8Size + c.utf8Size)
  refine ⟨_, .doubledBrace hrole hread, isLiteral_prependLiteral _ _ _ hliteral, ?_⟩
  simp [Literal.rendered]

theorem ReadAsText.charLiteral {c : Char} {body : List Char}
    (hrole : d.role false escapeMark (body ++ spelled).head? = .charLiteral)
    (hbody : CharLiteral.StandsFor body c) (h : ReadAsText d spelled content) :
    ReadAsText d (escapeMark :: body ++ spelled) (c :: content) := by
  intro position
  obtain ⟨run, hread, hliteral, rfl⟩ := h (position + escapeMark.utf8Size + utf8Width body)
  refine ⟨_, .charLiteral (by simpa using hrole) (by simpa using hbody.extent spelled) hread,
    isLiteral_prependLiteral _ _ _ hliteral, ?_⟩
  rw [Run.rendered_prependLiteral, Literal.rendered, hbody.unescape_eq]
  simp

end Reading

section Spelling

variable {d : Dialect}

structure Dialect.UsualBraces (d : Dialect) : Prop where
  opening : d.opening = '{'
  closing : d.closing = '}'

theorem Dialect.UsualBraces.isBrace_eq (hd : d.UsualBraces) (c : Char) :
    d.isBrace c = Escaping.isBrace c := by
  rw [isBrace, hd.opening, hd.closing, Escaping.isBrace]

/-- What is neither a brace nor an escape before one is text, or begins a character literal. -/
theorem Dialect.UsualBraces.role_text (hd : d.UsualBraces) {c : Char} {next : Option Char}
    (hc : Escaping.isBrace c = false) (hescape : d.escapesBrace c next = false)
    (hliteral : d.charLiterals = true → c ≠ escapeMark) : d.role false c next = .text := by
  rw [← hd.isBrace_eq] at hc
  simp only [isBrace, Bool.or_eq_false_iff, beq_eq_false_iff_ne] at hc
  have hmark : (d.charLiterals && c == escapeMark) = false := by
    cases hl : d.charLiterals with
    | false => rfl
    | true => simpa using hliteral hl
  simp [role, hescape, hmark, hc.1, hc.2]

theorem readAsText_doubled (hd : d.UsualBraces) (hescape : d.escape = none)
    (hliterals : d.charLiterals = false) (text : List Char) :
    ReadAsText d (Escaping.doubled text) text := by
  have hnothing : ∀ c next, d.escapesBrace c next = false := by
    simp [Dialect.escapesBrace, hescape, hliterals]
  induction text with
  | nil => exact readAsText_nil
  | cons c text ih =>
    cases hc : Escaping.isBrace c with
    | false =>
      have hrole : d.role false c (Escaping.doubled text).head? = .text :=
        hd.role_text hc (hnothing _ _) (by simp [hliterals])
      simpa [Escaping.doubled, hc] using ih.text hrole
    | true =>
      have hrole : d.role false c (some c) = .doubledBrace := by
        have hbrace := (hd.isBrace_eq c).trans hc
        simp only [Dialect.isBrace, Bool.or_eq_true] at hbrace
        rcases hbrace with h | h <;>
          simp [Dialect.role, hnothing, hliterals, h, Dialect.doubles, hescape]
      simpa [Escaping.doubled, hc] using ih.doubledBrace hrole

theorem head?_marked {mark : Char} (hmark : Escaping.isBrace mark = false) (text : List Char) :
    (Escaping.marked mark text).head?.any Escaping.isBrace = false := by
  cases text with
  | nil => rfl
  | cons c text =>
    cases hc : Escaping.isBrace c with
    | false => simp [Escaping.marked, hc]
    | true => simp [Escaping.marked, hc, hmark]

theorem readAsText_marked (hd : d.UsualBraces) {mark : Char} (hescape : d.escape = some mark)
    (hmark : Escaping.isBrace mark = false) (hliterals : d.charLiterals = false)
    (text : List Char) : ReadAsText d (Escaping.marked mark text) text := by
  have hany (next : Option Char) : next.any d.isBrace = next.any Escaping.isBrace := by
    cases next with
    | none => rfl
    | some c => exact hd.isBrace_eq c
  induction text with
  | nil => exact readAsText_nil
  | cons c text ih =>
    cases hc : Escaping.isBrace c with
    | false =>
      -- The text itself may hold the mark; behind it no brace stands unmarked.
      have hnothing : d.escapesBrace c (Escaping.marked mark text).head? = false := by
        rw [Dialect.escapesBrace, hany, head?_marked hmark, Bool.and_false]
      have hrole := hd.role_text hc hnothing (by simp [hliterals])
      simpa [Escaping.marked, hc] using ih.text hrole
    | true =>
      have hrole : d.role false mark (some c) = .braceEscape := by
        rw [Dialect.role_eq_braceEscape_iff, Dialect.escapesBrace, hany]
        simp [hescape, hc]
      simpa [Escaping.marked, hc] using ih.braceEscape hrole

theorem ReadAsText.standsFor (hd : d.UsualBraces) (hescape : d.escape = none)
    (hliterals : d.charLiterals = true) {body spelled text : List Char} {c : Char}
    (hbody : CharLiteral.StandsFor body c) (h : ReadAsText d spelled text) :
    ReadAsText d (escapeMark :: body ++ spelled) (c :: text) := by
  cases body with
  | nil => cases hbody.meaning
  | cons b body =>
    have hb : d.isBrace b = false := (hd.isBrace_eq b).trans (hbody.unbraced b rfl)
    refine h.charLiteral ?_ hbody
    simp [Dialect.role, Dialect.escapesBrace, hescape, hliterals, hb]

theorem readAsText_spelling (hd : d.UsualBraces) (hescape : d.escape = none)
    (hliterals : d.charLiterals = true) {text spelled : List Char}
    (h : Escaping.Spelling text spelled) : ReadAsText d spelled text := by
  induction h with
  | nil => exact readAsText_nil
  | @cons c front text spelled hc _ ih =>
    cases hc with
    | brace hbrace =>
      have hrole : d.role false escapeMark (some c) = .braceEscape := by
        rw [Dialect.role_eq_braceEscape_iff]
        simp [Dialect.escapesBrace, hliterals, (hd.isBrace_eq c).trans hbrace]
      exact ih.braceEscape hrole
    | itself hbrace hmark =>
      refine ih.text (hd.role_text hbrace ?_ fun _ => hmark)
      have hne : (c == escapeMark) = false := by simpa [escapeMark] using hmark
      simp [Dialect.escapesBrace, hescape, hne]
    | backslash =>
      exact ih.standsFor hd hescape hliterals (CharLiteral.standsFor_sign List.mem_cons_self)
    | sign h =>
      exact ih.standsFor hd hescape hliterals
        (CharLiteral.standsFor_sign (List.mem_cons_of_mem _ h))
    | code hcode hn₃ hn₂ hn₁ hn₀ =>
      exact ih.standsFor hd hescape hliterals (CharLiteral.standsFor_code hcode hn₃ hn₂ hn₁ hn₀)

end Spelling

section Rendering

/-- Literals are rendered whatever the call. -/
theorem through_renderPieces_literals (c : Call)
    (nest : Placeholder → Format → Value → RenderM Unit) (s : Scope) {f : Format}
    (h : f.isLiteral = true) (d : Draft) :
    d.through (c.renderPieces nest s f.pieces) = (.ok (), d.write (Formatter.literalText f)) := by
  obtain ⟨start, depth, ps⟩ := f
  simp only [Format.isLiteral, List.all_eq_true] at h
  induction ps generalizing d with
  | nil => simp [Call.renderPieces, Formatter.literalText, Draft.write]
  | cons q ps ih =>
    have hlater (d : Draft) := ih d fun q hq => h q (List.mem_cons_of_mem _ hq)
    cases q with
    | placeholder p => exact absurd (h _ List.mem_cons_self) (by simp [Piece.isLiteral])
    | literal l =>
      rw [Call.renderPieces, through_bind_ok (through_modify _ _), hlater]
      simp [Formatter.literalText, Draft.write, String.append_assoc]

variable {e : Engine} {cache : Option Cache}

theorem format_of_readAsText (he : e.Reached cache) {spelled text : String}
    (h : ReadAsText e.dialect spelled.toList text.toList) (args : List Value) :
    (e.format cache spelled args).1 = .ok ⟨text, []⟩ := by
  obtain ⟨run, hread, hliteral, hrendered⟩ := h 0
  have hparse : Template.parse e.dialect spelled = .ok ⟨e.dialect, run.toFormat 0 0, []⟩ :=
    parse_eq_ok_iff.mpr ⟨run, [], rfl, hread⟩
  have htext : Formatter.literalText (run.toFormat 0 0) = text := by
    rw [← String.toList_inj, literalText_toFormat, hrendered]
  rw [e.format_of_parse he.settled.2 hparse, Engine.renderTemplate_eq, Call.render_eq,
    Call.finished, Call.renderFormat_eq]
  simp only [Engine.call]
  rw [through_renderPieces_literals _ _ _ (isLiteral_toFormat 0 0 hliteral), htext]
  simp [Draft.write, Except.map]

end Rendering

/-- A text with its braces escaped is rendered as the text, with no failures, by every engine that
reads the usual braces: with the braces doubled, if that is how they are written; with the escape
character before them, whatever else the text holds, if there is one; with a backslash before them
and any spelling of the other characters, where a backslash begins a character literal. -/
theorem format_escaped {e : Engine} {cache : Option Cache} (he : e.Reached cache)
    (hopening : e.settings.dialect.opening = '{') (hclosing : e.settings.dialect.closing = '}')
    (text : List Char) (args : List Value) :
    (e.settings.dialect.escape = none → e.settings.dialect.charLiterals = false →
      (e.format cache (String.ofList (Escaping.doubled text)) args).1 =
        .ok ⟨String.ofList text, []⟩) ∧
    (∀ mark, mark ≠ '{' → mark ≠ '}' → e.settings.dialect.escape = some mark →
      e.settings.dialect.charLiterals = false →
      (e.format cache (String.ofList (Escaping.marked mark text)) args).1 =
        .ok ⟨String.ofList text, []⟩) ∧
    (e.settings.dialect.escape = none → e.settings.dialect.charLiterals = true →
      ∀ spelled, Escaping.Spelling text spelled →
        (e.format cache (String.ofList spelled) args).1 = .ok ⟨String.ofList text, []⟩) := by
  have hdialect := he.settled.1.dialect_eq
  have hd : e.dialect.UsualBraces := by
    rw [hdialect]
    exact ⟨hopening, hclosing⟩
  have hescape : e.dialect.escape = e.settings.dialect.escape := by
    rw [hdialect]
    rfl
  have hliterals : e.dialect.charLiterals = e.settings.dialect.charLiterals := by
    rw [hdialect]
    rfl
  rw [← hescape, ← hliterals]
  have hformat {spelled : List Char} (h : ReadAsText e.dialect spelled text) :
      (e.format cache (String.ofList spelled) args).1 = .ok ⟨String.ofList text, []⟩ :=
    format_of_readAsText he (by simpa using h) args
  refine ⟨fun hnone hoff => ?_, fun mark hmark hmark' hsome hoff => ?_,
    fun hnone hon spelled hspelled => ?_⟩
  · exact hformat (readAsText_doubled hd hnone hoff text)
  · have hunbraced : Escaping.isBrace mark = false := by simp [Escaping.isBrace, hmark, hmark']
    exact hformat (readAsText_marked hd hsome hunbraced hoff text)
  · exact hformat (readAsText_spelling hd hnone hon hspelled)

/-- Escapes in a row: doubled braces next to each other; a brace with the mark in front of it, which
is then followed by a marked brace; a backslash before a brace, and a hexadecimal digit behind the
four of a character. -/
theorem format_escaped_adjacent :
    let e (d : Dialect) := (Engine.standard ⟨0, 0⟩).changeSettings fun _ => { dialect := d }
    ((e {}).format none "\x7b\x7b\x7d\x7d\x7d\x7d" [.null]).1 = .ok ⟨"\x7b\x7d\x7d", []⟩ ∧
    ((e { escape := some '!' }).format none "!!!\x7b!!\x7d" [.null]).1 =
      .ok ⟨"!!\x7b!\x7d", []⟩ ∧
    ((e { charLiterals := true }).format none "\\\\\\\x7b\\u0041f\\n" [.null]).1 =
      .ok ⟨"\\\x7bAf\n", []⟩ := by
  have hdoubled : Escaping.doubled ['{', '}', '}'] = ['{', '{', '}', '}', '}', '}'] := by decide
  have hmarked : Escaping.marked '!' ['!', '!', '{', '!', '}'] =
      ['!', '!', '!', '{', '!', '!', '}'] := by decide
  have hcode : Escaping.CharSpelling 'A' ['\\', 'u', '0', '0', '4', '1'] := by
    have hdigit : Escaping.HexDigit 0 '0' ∧ Escaping.HexDigit 4 '4' ∧ Escaping.HexDigit 1 '1' := by
      simp only [Escaping.HexDigit]
      decide
    exact .code (by decide) hdigit.1 hdigit.1 hdigit.2.1 hdigit.2.2
  have hspelling : Escaping.Spelling ['\\', '{', 'A', 'f', '\n']
      (['\\', '\\'] ++ (['\\', '{'] ++ (['\\', 'u', '0', '0', '4', '1'] ++
        (['f'] ++ (['\\', 'n'] ++ []))))) :=
    .cons .backslash (.cons (.brace rfl) (.cons hcode (.cons (.itself rfl (by decide))
      (.cons (.sign (by decide)) .nil))))
  intro e
  refine ⟨?_, ?_, ?_⟩
  · have h := (format_escaped (e := e {}) (.of_kept_eq_none rfl) rfl rfl ['{', '}', '}']
      [.null]).1 rfl rfl
    rwa [hdoubled] at h
  · have h := (format_escaped (e := e { escape := some '!' }) (.of_kept_eq_none rfl) rfl rfl
      ['!', '!', '{', '!', '}'] [.null]).2.1 '!' (by decide) (by decide) rfl rfl
    rwa [hmarked] at h
  · exact (format_escaped (e := e { charLiterals := true }) (.of_kept_eq_none rfl) rfl rfl
      ['\\', '{', 'A', 'f', '\n'] [.null]).2.2 rfl rfl _ hspelling

end Stencil
