import Stencil.Text.Escape

/-!
# Texts cut into sequences

Read from left to right, a text is plain characters and sequences that a backslash begins. How far a
sequence goes is said here without the scanner that finds it: each is as long as its spelling
allows.
-/

namespace Stencil

set_option autoImplicit false

namespace CharLiteral

/-- Before `rest`, `run` is all that has the property, or the `n` characters that count of it. -/
structure LongestRun (p : Char → Bool) (n : Nat) (run rest : List Char) : Prop where
  all : ∀ c ∈ run, p c = true
  longest : run.length = n ∨ run.length < n ∧ ∀ c ∈ rest.head?, p c = false

/-- Behind a backslash, with `rest` after it, `body` is what belongs to the sequence: nothing at the
end of the text, a character that is no `u`, or a `u` with as many hexadecimal digits as there are,
up to four. -/
inductive SequenceBody : List Char → List Char → Prop
  | trailing : SequenceBody [] []
  | sign {c : Char} {rest : List Char} (hc : c ≠ 'u') : SequenceBody [c] rest
  | code {digits rest : List Char} (hdigits : LongestRun isHexDigit 4 digits rest) :
      SequenceBody ('u' :: digits) rest

/-- From left to right `text` is cut into plain characters and sequences. -/
inductive Lexed : List Char → List (List Char) → Prop
  | nil : Lexed [] []
  | plain {c : Char} {cs : List Char} {tokens : List (List Char)} (hc : c ≠ escapeMark)
      (hrest : Lexed cs tokens) : Lexed (c :: cs) ([c] :: tokens)
  | sequence {body cs : List Char} {tokens : List (List Char)} (hbody : SequenceBody body cs)
      (hrest : Lexed cs tokens) :
      Lexed (escapeMark :: (body ++ cs)) ((escapeMark :: body) :: tokens)

/-- What a token stands for. -/
def resolved (inOptions : Bool) : List Char → List Char
  | [] => []
  | c :: body => if c = escapeMark then replacement inOptions body else c :: body

section Sequences

variable {p : Char → Bool} {n : Nat} {run body rest rest' : List Char}

theorem LongestRun.takeWhile_eq (h : LongestRun p n run rest) :
    ((run ++ rest).take n).takeWhile p = run := by
  rcases h.longest with rfl | ⟨hlt, hrest⟩
  · have htaken : (run ++ []).takeWhile p = run ++ [].takeWhile p :=
      List.takeWhile_append_of_pos h.all
    rw [List.take_left]
    simpa using htaken
  · rw [List.take_append, List.take_of_length_le (Nat.le_of_lt hlt),
      List.takeWhile_append_of_pos h.all]
    obtain ⟨k, hk⟩ : ∃ k, n - run.length = k + 1 := ⟨n - run.length - 1, by omega⟩
    cases rest with
    | nil => simp
    | cons c cs => simp [hk, hrest c rfl]

theorem exists_longestRun (p : Char → Bool) (n : Nat) (cs : List Char) :
    ∃ run rest, cs = run ++ rest ∧ LongestRun p n run rest := by
  induction n generalizing cs with
  | zero => exact ⟨[], cs, rfl, by simp, .inl rfl⟩
  | succ n ih =>
    cases cs with
    | nil => exact ⟨[], [], rfl, by simp, .inr ⟨Nat.succ_pos n, by simp⟩⟩
    | cons c cs =>
      cases hc : p c with
      | false => exact ⟨[], c :: cs, rfl, by simp, .inr ⟨Nat.succ_pos n, by simpa using hc⟩⟩
      | true =>
        obtain ⟨run, rest, rfl, hall, hlongest⟩ := ih cs
        refine ⟨c :: run, rest, rfl, List.forall_mem_cons.mpr ⟨hc, hall⟩, ?_⟩
        simpa using hlongest

/-- The scanner takes exactly what belongs to a sequence. -/
theorem SequenceBody.extent_eq (h : SequenceBody body rest) :
    extent (body ++ rest) = body.length := by
  cases h with
  | trailing => rfl
  | sign hc => simp [extent, hc]
  | code hdigits =>
    rw [List.cons_append, extent, if_pos rfl, hdigits.takeWhile_eq, List.length_cons, Nat.add_comm]

theorem exists_sequenceBody (cs : List Char) :
    ∃ body rest, cs = body ++ rest ∧ SequenceBody body rest := by
  cases cs with
  | nil => exact ⟨[], [], rfl, .trailing⟩
  | cons c cs =>
    by_cases hc : c = 'u'
    · obtain ⟨digits, rest, rfl, hdigits⟩ := exists_longestRun isHexDigit 4 cs
      exact ⟨c :: digits, rest, rfl, hc ▸ .code hdigits⟩
    · exact ⟨[c], cs, rfl, .sign hc⟩

/-- Whether something belongs to a sequence depends on no more than one character behind it. -/
theorem SequenceBody.of_head? (h : SequenceBody body rest)
    (hhead : rest' = [] ∨ rest'.head? = rest.head?) : SequenceBody body rest' := by
  cases h with
  | trailing =>
    have hnil : rest' = [] := by simpa using hhead
    rw [hnil]
    exact .trailing
  | sign hc => exact .sign hc
  | code hdigits =>
    refine .code ⟨hdigits.all, hdigits.longest.imp_right fun ⟨hlt, hnext⟩ => ⟨hlt, ?_⟩⟩
    rcases hhead with rfl | hhead
    · simp
    · rwa [hhead]

end Sequences

section Lexing

variable {text : List Char} {tokens tokens' : List (List Char)}

theorem Lexed.flatten_eq (h : Lexed text tokens) : tokens.flatten = text := by
  induction h with
  | nil => rfl
  | plain _ _ ih => simp [ih]
  | sequence _ _ ih => simp [ih]

theorem exists_lexed (n : Nat) :
    ∀ text : List Char, text.length ≤ n → ∃ tokens, Lexed text tokens := by
  induction n with
  | zero =>
    intro text hn
    rw [List.length_eq_zero_iff.mp (Nat.le_zero.mp hn)]
    exact ⟨[], .nil⟩
  | succ n ih =>
    intro text hn
    cases text with
    | nil => exact ⟨[], .nil⟩
    | cons c cs =>
      by_cases hc : c = escapeMark
      · subst hc
        obtain ⟨body, rest, rfl, hbody⟩ := exists_sequenceBody cs
        obtain ⟨tokens, hrest⟩ := ih rest (by simp at hn; omega)
        exact ⟨_, .sequence hbody hrest⟩
      · obtain ⟨tokens, hrest⟩ := ih cs (by simpa using hn)
        exact ⟨_, .plain hc hrest⟩

theorem Lexed.unique (h : Lexed text tokens) (h' : Lexed text tokens') : tokens = tokens' := by
  induction h generalizing tokens' with
  | nil =>
    cases h'
    rfl
  | plain hc _ ih =>
    cases h' with
    | plain _ hrest => rw [ih hrest]
    | sequence _ _ => exact absurd rfl hc
  | @sequence body cs tokens hbody _ ih =>
    generalize htext : escapeMark :: (body ++ cs) = text at h'
    cases h' with
    | nil => cases htext
    | plain hc _ => exact absurd (List.cons.inj htext).1.symm hc
    | @sequence body' cs' tokens' hbody' hrest' =>
      have hcut : body ++ cs = body' ++ cs' := (List.cons.inj htext).2
      have hlength : body.length = body'.length := by
        rw [← hbody.extent_eq, hcut, hbody'.extent_eq]
      obtain ⟨rfl, rfl⟩ := List.append_inj hcut hlength
      rw [ih hrest']

/-- There is exactly one way to cut a text into tokens. -/
theorem exists_lexed_iff (text : List Char) :
    ∃ tokens, ∀ other, Lexed text other ↔ other = tokens := by
  obtain ⟨tokens, h⟩ := exists_lexed text.length text (Nat.le_refl _)
  refine ⟨tokens, fun other => ⟨fun hother => hother.unique h, ?_⟩⟩
  rintro rfl
  exact h

theorem unescapeAfter_sequence (inOptions : Bool) {body rest : List Char}
    (h : SequenceBody body rest) :
    unescapeAfter inOptions 0 (escapeMark :: (body ++ rest)) =
      replacement inOptions body ++ unescapeAfter inOptions 0 rest := by
  simp [unescapeAfter, h.extent_eq, unescapeAfter_eq_drop inOptions body.length]

/-- A text with its sequences replaced is what its tokens stand for, end to end. -/
theorem Lexed.unescapeAfter_eq (inOptions : Bool) (h : Lexed text tokens) :
    unescapeAfter inOptions 0 text = tokens.flatMap (resolved inOptions) := by
  induction h with
  | nil => rfl
  | plain hc _ ih => simp [unescapeAfter, resolved, hc, ih]
  | sequence hbody _ ih =>
    rw [unescapeAfter_sequence inOptions hbody, ih]
    simp [resolved]

end Lexing

end CharLiteral

theorem toList_unescape (inOptions : Bool) (s : String) :
    (unescape inOptions s).toList = CharLiteral.unescapeAfter inOptions 0 s.toList := by
  simp [unescape]

end Stencil
