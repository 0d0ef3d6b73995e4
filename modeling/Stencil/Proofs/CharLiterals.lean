import Stencil.Proofs.Escaping
import Stencil.Proofs.Text.Sequences

/-!
# Character literals read one by one

A reader that begins character literals at a backslash cuts a text into the same sequences that
resolving its escapes does, and where no brace stands outside of them that is all there is to read.
-/

namespace Stencil

set_option autoImplicit false

namespace CharLiteral

/-- Whether a token is a sequence of its own in a template, where a backslash before a brace only
makes the brace text. -/
def isLiteral (token : List Char) : Bool :=
  token.head? == some escapeMark && !token.any Escaping.isBrace

/-- The character literals among tokens, each with the byte at which it begins. -/
def literalsFrom : Nat → List (List Char) → List (Nat × List Char)
  | _, [] => []
  | position, token :: tokens =>
    let later := literalsFrom (position + utf8Width token) tokens
    if isLiteral token then (position, token) :: later else later

end CharLiteral

/-- Where a character literal begins, and how it is spelled. -/
def Piece.charLiteral? : Piece → Option (Nat × List Char)
  | .literal ⟨start, raw, .charLiteral⟩ => some (start, raw.toList)
  | _ => none

def charLiteralsIn (ps : List Piece) : List (Nat × List Char) := ps.filterMap Piece.charLiteral?

section Runs

variable (run : Run) (start : Nat) (front : List Char)

@[simp] theorem charLiteralsIn_piecesFrom :
    charLiteralsIn (run.piecesFrom start) = charLiteralsIn run.pieces := by
  unfold Run.piecesFrom
  split <;> rfl

@[simp] theorem charLiteralsIn_prependText :
    charLiteralsIn (run.prependText front).pieces = charLiteralsIn run.pieces := rfl

@[simp] theorem charLiteralsIn_prependLiteral :
    charLiteralsIn (run.prependLiteral start front .charLiteral).pieces =
      (start, front) :: charLiteralsIn run.pieces := by
  rw [← charLiteralsIn_piecesFrom run (start + utf8Width front)]
  simp [Run.prependLiteral, charLiteralsIn, Piece.charLiteral?]

@[simp] theorem charLiteralsIn_prependElided (why : Elision) :
    charLiteralsIn (run.prependLiteral start front (.elided why)).pieces =
      charLiteralsIn run.pieces := by
  rw [← charLiteralsIn_piecesFrom run (start + utf8Width front)]
  rfl

end Runs

section Sequences

variable {body rest : List Char}

theorem CharLiteral.SequenceBody.rendered_eq (h : SequenceBody body rest) (start : Nat) :
    (Literal.rendered ⟨start, String.ofList (escapeMark :: body), .charLiteral⟩).toList =
      replacement false body := by
  have hsequence := unescapeAfter_sequence false (h.of_head? (.inl rfl))
  rw [List.append_nil] at hsequence
  simp [Literal.rendered, toList_unescape, hsequence, unescapeAfter]

/-- Of the sequences only those of a brace have a brace in them. -/
theorem CharLiteral.SequenceBody.brace_cases (h : SequenceBody body rest) :
    (∃ b, body = [b] ∧ Escaping.isBrace b = true) ∨ body.any Escaping.isBrace = false := by
  have hhex : ∀ c, isHexDigit c = true → Escaping.isBrace c = false := by
    intro c hc
    cases hbrace : Escaping.isBrace c with
    | false => rfl
    | true =>
      obtain rfl | rfl : c = '{' ∨ c = '}' := by simpa [Escaping.isBrace] using hbrace
      all_goals exact absurd hc (by decide)
  cases h with
  | trailing => exact .inr rfl
  | @sign c _ hc =>
    cases hbrace : Escaping.isBrace c with
    | true => exact .inl ⟨c, rfl, hbrace⟩
    | false => exact .inr (by simpa using hbrace)
  | @code digits _ hdigits =>
    have hu : Escaping.isBrace 'u' = false := rfl
    refine .inr (List.any_eq_false.mpr fun c hc => ?_)
    rcases List.mem_cons.mp hc with rfl | hc
    · simp [hu]
    · simp [hhex c (hdigits.all c hc)]

theorem CharLiteral.replacement_brace {b : Char} (hb : Escaping.isBrace b = true) :
    replacement false [b] = [b] := by
  obtain rfl | rfl : b = '{' ∨ b = '}' := by simpa [Escaping.isBrace] using hb
  all_goals rfl

end Sequences

section Reading

/-- Wherever `text` stands, it is read as literals that are rendered as its tokens resolved, with
the character literals where the tokens are. -/
def ReadAsTokens (d : Dialect) (text : List Char) (tokens : List (List Char)) : Prop :=
  ∀ position, ∃ run,
    PiecesRead d false (readPlaceholderWithin d d.maxDepth 1) position text [] run [] ∧
      (∀ q ∈ run.pieces, q.isLiteral = true) ∧
      charLiteralsIn run.pieces = CharLiteral.literalsFrom position tokens ∧
      run.rendered = tokens.flatMap (CharLiteral.resolved false)

variable {d : Dialect} {text : List Char} {tokens : List (List Char)}

/-- A text whose first token is no lone brace does not begin with a brace. -/
theorem CharLiteral.Lexed.head?_not_brace (h : Lexed text tokens)
    (hbraces : ∀ token ∈ tokens, token ≠ ['{'] ∧ token ≠ ['}']) :
    ∀ c ∈ text.head?, Escaping.isBrace c = false := by
  cases h with
  | nil => simp
  | @plain c _ _ hc _ =>
    intro c' hc'
    cases hc'
    simpa [Escaping.isBrace] using hbraces [c] List.mem_cons_self
  | sequence _ _ =>
    intro c hc
    cases hc
    rfl

theorem ReadAsTokens.plain (hd : d.UsualBraces) {c : Char} (hmark : c ≠ escapeMark)
    (hbrace : Escaping.isBrace c = false) (hnext : ∀ b ∈ text.head?, Escaping.isBrace b = false)
    (h : ReadAsTokens d text tokens) : ReadAsTokens d (c :: text) ([c] :: tokens) := by
  have hescape : d.escapesBrace c text.head? = false := by
    cases hhead : text.head? with
    | none => simp [Dialect.escapesBrace]
    | some b => simp [Dialect.escapesBrace, hd.isBrace_eq, hnext b hhead]
  intro position
  obtain ⟨run, hread, hliteral, hwhere, hrendered⟩ := h (position + c.utf8Size)
  refine ⟨run.prependText [c], .text ?_ hread, hliteral, ?_, ?_⟩
  · rw [List.append_nil]
    exact hd.role_text hbrace hescape fun _ => hmark
  · have hliteral : CharLiteral.isLiteral [c] = false := by simp [CharLiteral.isLiteral, hmark]
    simp [hwhere, CharLiteral.literalsFrom, hliteral]
  · simp [hrendered, CharLiteral.resolved, hmark]

theorem ReadAsTokens.brace (hd : d.UsualBraces) (hliterals : d.charLiterals = true) {b : Char}
    (hb : Escaping.isBrace b = true) (h : ReadAsTokens d text tokens) :
    ReadAsTokens d (escapeMark :: b :: text) ([escapeMark, b] :: tokens) := by
  have hrole : d.role false escapeMark (some b) = .braceEscape := by
    rw [Dialect.role_eq_braceEscape_iff]
    simp [Dialect.escapesBrace, hliterals, hd.isBrace_eq, hb]
  intro position
  obtain ⟨run, hread, hliteral, hwhere, hrendered⟩ :=
    h (position + escapeMark.utf8Size + b.utf8Size)
  refine ⟨_, .braceEscape hrole hread, isLiteral_prependLiteral _ _ _ hliteral, ?_, ?_⟩
  · simp [hwhere, CharLiteral.literalsFrom, CharLiteral.isLiteral, hb, Nat.add_assoc]
  · simp [hrendered, CharLiteral.resolved, CharLiteral.replacement_brace hb, Literal.rendered]

theorem ReadAsTokens.sequence (hd : d.UsualBraces) (hliterals : d.charLiterals = true)
    {body : List Char} (hbody : CharLiteral.SequenceBody body text)
    (hbrace : body.any Escaping.isBrace = false) (h : ReadAsTokens d text tokens) :
    ReadAsTokens d (escapeMark :: (body ++ text)) ((escapeMark :: body) :: tokens) := by
  have hescape : d.escapesBrace escapeMark (body ++ text).head? = false := by
    cases hbody with
    | trailing => simp [Dialect.escapesBrace]
    | sign _ => simpa [Dialect.escapesBrace, hd.isBrace_eq, hliterals] using hbrace
    | code _ => simp [Dialect.escapesBrace, hd.isBrace_eq, Escaping.isBrace]
  have hrole : d.role false escapeMark (body ++ text).head? = .charLiteral := by
    rw [Dialect.role, hescape]
    simp [hliterals]
  intro position
  obtain ⟨run, hread, hliteral, hwhere, hrendered⟩ :=
    h (position + escapeMark.utf8Size + utf8Width body)
  refine ⟨_, .charLiteral (by simpa using hrole) (by simpa using hbody.extent_eq) hread,
    isLiteral_prependLiteral _ _ _ hliteral, ?_, ?_⟩
  · have hmark : Escaping.isBrace escapeMark = false := rfl
    simp [hwhere, CharLiteral.literalsFrom, CharLiteral.isLiteral, hmark, hbrace, Nat.add_assoc]
  · rw [Run.rendered_prependLiteral, hbody.rendered_eq, hrendered]
    simp [CharLiteral.resolved]

theorem CharLiteral.Lexed.readAsTokens (hd : d.UsualBraces) (hliterals : d.charLiterals = true)
    (h : Lexed text tokens) (hbraces : ∀ token ∈ tokens, token ≠ ['{'] ∧ token ≠ ['}']) :
    ReadAsTokens d text tokens := by
  induction h with
  | nil => exact fun _ => ⟨_, .done (.inl rfl), by simp, rfl, rfl⟩
  | @plain c cs tokens hmark hrest ih =>
    have hlater : ∀ token ∈ tokens, token ≠ ['{'] ∧ token ≠ ['}'] :=
      fun token htoken => hbraces token (List.mem_cons_of_mem _ htoken)
    have hbrace : Escaping.isBrace c = false := by
      simpa [Escaping.isBrace] using hbraces [c] List.mem_cons_self
    exact (ih hlater).plain hd hmark hbrace (hrest.head?_not_brace hlater)
  | @sequence body cs tokens hbody _ ih =>
    have hrest := ih fun token htoken => hbraces token (List.mem_cons_of_mem _ htoken)
    -- Before a brace the reader takes the backslash for an escape and not for a character literal.
    rcases hbody.brace_cases with ⟨b, rfl, hb⟩ | hbrace
    · exact hrest.brace hd hliterals hb
    · exact hrest.sequence hd hliterals hbody hbrace

/-- A text in which every brace belongs to a sequence is read as literals alone. Each character
literal is one sequence of the text, in its place and in order, and every engine renders the whole
as the text with its escapes resolved, those included that mean nothing. -/
theorem parse_charLiterals (hopening : d.opening = '{') (hclosing : d.closing = '}')
    (hliterals : d.charLiterals = true) {text : String}
    (h : CharLiteral.Lexed text.toList tokens)
    (hbraces : ∀ token ∈ tokens, token ≠ ['{'] ∧ token ≠ ['}']) :
    ∃ t, Template.parse d text = .ok t ∧ t.issues = [] ∧ t.format.isLiteral = true ∧
      charLiteralsIn t.format.pieces = CharLiteral.literalsFrom 0 tokens ∧
      ∀ (e : Engine) (cached : Option Nat) (args : List Value),
        e.renderTemplate cached t args = .ok ⟨unescape false text, []⟩ := by
  obtain ⟨run, hread, hliteral, hwhere, hrendered⟩ :=
    h.readAsTokens ⟨hopening, hclosing⟩ hliterals hbraces 0
  refine ⟨_, parse_eq_ok_iff.mpr ⟨run, [], rfl, hread⟩, rfl, isLiteral_toFormat 0 0 hliteral,
    ?_, fun e cached args => ?_⟩
  · exact (charLiteralsIn_piecesFrom run 0).trans hwhere
  · have htext : Formatter.literalText (run.toFormat 0 0) = unescape false text := by
      rw [← String.toList_inj, literalText_toFormat, toList_unescape, h.unescapeAfter_eq, hrendered]
    rw [Engine.renderTemplate_eq, Call.render_eq, Call.finished, Call.renderFormat_eq]
    simp only [Engine.call]
    rw [through_renderPieces_literals _ _ _ (isLiteral_toFormat 0 0 hliteral), htext]
    simp [Draft.write, Except.map]

/-- Two backslashes before an escaped brace, a code that is cut short by a letter, a surrogate, and
a backslash at the end; the escape character of the dialect has nothing to do. -/
theorem parse_charLiterals_incomplete :
    let tokens := [['\\', '\\'], ['\\', '{'], ['\\', 'u', '0', '0'], ['x'],
      ['\\', 'u', 'd', '8', '0', '0'], ['\\', 'q'], ['\\']]
    CharLiteral.Lexed "\\\\\\\x7b\\u00x\\ud800\\q\\".toList tokens ∧
      (∀ token ∈ tokens, token ≠ ['{'] ∧ token ≠ ['}']) ∧
      ∃ t, Template.parse { charLiterals := true, escape := some 'x' }
          "\\\\\\\x7b\\u00x\\ud800\\q\\" = .ok t ∧
        t.format.isLiteral = true ∧
        charLiteralsIn t.format.pieces = [(0, ['\\', '\\']), (4, ['\\', 'u', '0', '0']),
          (9, ['\\', 'u', 'd', '8', '0', '0']), (15, ['\\', 'q']), (17, ['\\'])] ∧
        (Engine.standard ⟨0, 0⟩).renderTemplate none t [] =
          .ok ⟨"\\\x7b\\u00x\\ud800\\q\\", []⟩ := by
  intro tokens
  have hcut : CharLiteral.Lexed tokens.flatten tokens :=
    @CharLiteral.Lexed.sequence ['\\'] _ _ (.sign (by decide)) <|
      @CharLiteral.Lexed.sequence ['{'] _ _ (.sign (by decide)) <|
      @CharLiteral.Lexed.sequence ['u', '0', '0'] _ _
        (.code ⟨by simp [isHexDigit], .inr ⟨by decide, by simp [isHexDigit]⟩⟩) <|
      .plain (by decide) <|
      @CharLiteral.Lexed.sequence ['u', 'd', '8', '0', '0'] _ _
        (.code ⟨by simp [isHexDigit], .inl rfl⟩) <|
      @CharLiteral.Lexed.sequence ['q'] _ _ (.sign (by decide)) <|
      @CharLiteral.Lexed.sequence [] _ _ .trailing .nil
  have hlexed : CharLiteral.Lexed "\\\\\\\x7b\\u00x\\ud800\\q\\".toList tokens := hcut
  have hbraces : ∀ token ∈ tokens, token ≠ ['{'] ∧ token ≠ ['}'] := by decide
  obtain ⟨t, hread, -, hliteral, hwhere, hrendered⟩ :=
    parse_charLiterals (d := { charLiterals := true, escape := some 'x' }) rfl rfl rfl hlexed
      hbraces
  refine ⟨hlexed, hbraces, t, hread, hliteral, ?_, ?_⟩
  · rw [hwhere]
    decide
  · rw [hrendered]
    rfl

end Reading

end Stencil
