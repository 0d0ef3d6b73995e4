import Stencil.Reading.Format
import Stencil.Proofs.Outcome

/-!
# Pieces read one after the other

One rule for each thing that can stand next in the text of a format. The rules describe exactly the
runs that the reader of pieces yields, together with the text they take and the issues they leave
on record, so whatever all rules keep holds of every reading.
-/

namespace Stencil

set_option autoImplicit false

section Role

variable {d : Dialect} {nested : Bool} {c : Char} {next : Option Char}

/-- Where the reading of a format ends: at the end of the text or before the brace that closes the
format. -/
def Dialect.EndsFormatAt (d : Dialect) (nested : Bool) (rest : List Char) : Prop :=
  rest = [] ∨ ∃ c cs, rest = c :: cs ∧ d.role nested c cs.head? = .stop

theorem Dialect.role_eq_braceEscape_iff :
    d.role nested c next = .braceEscape ↔ d.escapesBrace c next = true := by
  unfold role
  split
  · simpa
  · rename_i h
    simp only [h, Bool.false_eq_true, iff_false]
    repeat' split
    all_goals simp

theorem Dialect.exists_brace_of_braceEscape (h : d.role nested c next = .braceEscape) :
    ∃ b, next = some b ∧ d.isBrace b = true := by
  have hescape := role_eq_braceEscape_iff.mp h
  simp only [escapesBrace, Bool.and_eq_true, Option.any_eq_true_iff_get] at hescape
  obtain ⟨-, hsome, hbrace⟩ := hescape
  exact ⟨_, (Option.some_get hsome).symm, hbrace⟩

theorem Dialect.opening_of_role (h : d.role nested c next = .opening) : c = d.opening := by
  unfold role at h
  repeat' split at h
  all_goals simp_all

theorem Dialect.escapesBrace_of_opening (hrole : d.role nested d.opening next = .opening) :
    d.escapesBrace d.opening next = false := by
  cases hescape : d.escapesBrace d.opening next with
  | false => rfl
  | true => simp [role, hescape] at hrole

theorem Dialect.brace_of_doubledBrace (h : d.role nested c next = .doubledBrace) :
    next = some c ∧ d.isBrace c = true ∧ d.escape = none := by
  unfold role at h
  repeat' split at h
  all_goals simp_all [isBrace, doubles]

theorem Dialect.closing_of_unmatched (h : d.role nested c next = .unmatchedClosing) :
    c = d.closing ∧ nested = false := by
  unfold role at h
  repeat' split at h
  all_goals simp_all

theorem Dialect.closing_of_stop (h : d.role nested c next = .stop) :
    c = d.closing ∧ nested = true := by
  unfold role at h
  repeat' split at h
  all_goals simp_all

end Role

/-- `PiecesRead d nested readPlaceholder position text rest run issues`: from byte `position` on,
`text` is read as `run` and `rest` is left over. -/
inductive PiecesRead (d : Dialect) (nested : Bool)
    (readPlaceholder : Nat → List Char → Reading Placeholder) :
    Nat → List Char → List Char → Run → List Issue → Prop
  | done {position : Nat} {rest : List Char} (hend : d.EndsFormatAt nested rest) :
      PiecesRead d nested readPlaceholder position [] rest ⟨[], [], ⟨position, rest⟩⟩ []
  | text {position : Nat} {c : Char} {text rest : List Char} {run : Run} {issues : List Issue}
      (hrole : d.role nested c (text ++ rest).head? = .text)
      (hrun : PiecesRead d nested readPlaceholder (position + c.utf8Size) text rest run issues) :
      PiecesRead d nested readPlaceholder position (c :: text) rest (run.prependText [c]) issues
  | braceEscape {position : Nat} {c b : Char} {text rest : List Char} {run : Run}
      {issues : List Issue} (hrole : d.role nested c (some b) = .braceEscape)
      (hrun : PiecesRead d nested readPlaceholder (position + c.utf8Size + b.utf8Size) text rest
        run issues) :
      PiecesRead d nested readPlaceholder position (c :: b :: text) rest
        ((run.prependText [b]).prependLiteral position [c] (.elided .escapeMark)) issues
  | charLiteral {position : Nat} {c : Char} {body text rest : List Char} {run : Run}
      {issues : List Issue}
      (hrole : d.role nested c (body ++ (text ++ rest)).head? = .charLiteral)
      (hbody : CharLiteral.extent (body ++ (text ++ rest)) = body.length)
      (hrun : PiecesRead d nested readPlaceholder (position + c.utf8Size + utf8Width body) text rest
        run issues) :
      PiecesRead d nested readPlaceholder position (c :: body ++ text) rest
        (run.prependLiteral position (c :: body) .charLiteral) issues
  | doubledBrace {position : Nat} {c : Char} {text rest : List Char} {run : Run}
      {issues : List Issue} (hrole : d.role nested c (some c) = .doubledBrace)
      (hrun : PiecesRead d nested readPlaceholder (position + c.utf8Size + c.utf8Size) text rest
        run issues) :
      PiecesRead d nested readPlaceholder position (c :: c :: text) rest
        ((run.prependLiteral (position + c.utf8Size) [c] (.elided .doubledBrace)).prependText [c])
        issues
  | placeholder {position : Nat} {body text rest : List Char} {p : Placeholder} {run : Run}
      {before after : List Issue}
      (hrole : d.role nested d.opening (body ++ (text ++ rest)).head? = .opening)
      (hread : readPlaceholder position (body ++ (text ++ rest)) = ⟨before, .ok p⟩)
      (hstart : p.start = position) (hraw : p.raw = String.ofList (d.opening :: body))
      (hrun : PiecesRead d nested readPlaceholder p.stop text rest run after) :
      PiecesRead d nested readPlaceholder position (d.opening :: body ++ text) rest
        (run.prependPlaceholder p) (before ++ after)
  | malformed {position : Nat} {body text rest : List Char} {issue : Issue} {run : Run}
      {before after : List Issue} (hrecovers : d.recovers = true)
      (hrole : d.role nested d.opening (body ++ (text ++ rest)).head? = .opening)
      (hread : readPlaceholder position (body ++ (text ++ rest)) =
        ⟨before, .error (.malformed issue)⟩)
      (hregion : region d (d.opening :: (body ++ (text ++ rest))) = d.opening :: body)
      (hrun : PiecesRead d nested readPlaceholder (position + d.opening.utf8Size + utf8Width body)
        text rest run after) :
      PiecesRead d nested readPlaceholder position (d.opening :: body ++ text) rest
        (run.prependMalformed d position (d.opening :: body) issue) (before ++ issue :: after)
  | unmatched {position : Nat} {c : Char} {text rest : List Char} {run : Run}
      {issues : List Issue} (hrecovers : d.recovers = true)
      (hrole : d.role nested c (text ++ rest).head? = .unmatchedClosing)
      (hrun : PiecesRead d nested readPlaceholder (position + c.utf8Size) text rest run issues) :
      PiecesRead d nested readPlaceholder position (c :: text) rest
        (run.prependMalformed d position [c] ⟨position, .unmatchedClosing⟩)
        (⟨position, .unmatchedClosing⟩ :: issues)

section Reader

variable {d : Dialect} {nested : Bool} {readPlaceholder : Nat → List Char → Reading Placeholder}
  {position : Nat} {c : Char} {cs : List Char}

theorem readPieces_append (body : List Char) :
    readPieces d nested readPlaceholder body.length position (body ++ cs) =
      readPieces d nested readPlaceholder 0 (position + utf8Width body) cs := by
  rw [readPieces_skip, List.take_left, List.drop_left]

theorem readPieces_end {rest : List Char} (hend : d.EndsFormatAt nested rest) :
    readPieces d nested readPlaceholder 0 position rest = ⟨[], .ok ⟨[], [], ⟨position, rest⟩⟩⟩ := by
  obtain rfl | ⟨c, cs, rfl, hrole⟩ := hend
  · rfl
  · simp only [readPieces, hrole, Reading.pure_eq]

theorem readPieces_text (hrole : d.role nested c cs.head? = .text) :
    readPieces d nested readPlaceholder 0 position (c :: cs) =
      readPieces d nested readPlaceholder 0 (position + c.utf8Size) cs >>= fun run =>
        pure (run.prependText [c]) := by
  simp only [readPieces, hrole]

theorem readPieces_braceEscape {b : Char} (hrole : d.role nested c (some b) = .braceEscape) :
    readPieces d nested readPlaceholder 0 position (c :: b :: cs) =
      readPieces d nested readPlaceholder 0 (position + c.utf8Size + b.utf8Size) cs >>= fun run =>
        pure ((run.prependText [b]).prependLiteral position [c] (.elided .escapeMark)) := by
  simp only [readPieces, List.head?_cons, hrole, List.take_succ_cons, List.take_zero]

theorem readPieces_charLiteral {body : List Char}
    (hrole : d.role nested c (body ++ cs).head? = .charLiteral)
    (hbody : CharLiteral.extent (body ++ cs) = body.length) :
    readPieces d nested readPlaceholder 0 position (c :: (body ++ cs)) =
      readPieces d nested readPlaceholder 0 (position + c.utf8Size + utf8Width body) cs >>=
        fun run => pure (run.prependLiteral position (c :: body) .charLiteral) := by
  simp only [readPieces, hrole, hbody, readPieces_append, List.take_left]

theorem readPieces_doubledBrace (hrole : d.role nested c (some c) = .doubledBrace) :
    readPieces d nested readPlaceholder 0 position (c :: c :: cs) =
      readPieces d nested readPlaceholder 0 (position + c.utf8Size + c.utf8Size) cs >>= fun run =>
        pure ((run.prependLiteral (position + c.utf8Size) [c]
          (.elided .doubledBrace)).prependText [c]) := by
  simp only [readPieces, List.head?_cons, hrole, List.take_succ_cons, List.take_zero]

theorem readPieces_placeholder {body : List Char} {before : List Issue} {p : Placeholder}
    (hrole : d.role nested d.opening (body ++ cs).head? = .opening)
    (hread : readPlaceholder position (body ++ cs) = ⟨before, .ok p⟩)
    (hstart : p.start = position) (hraw : p.raw = String.ofList (d.opening :: body)) :
    readPieces d nested readPlaceholder 0 position (d.opening :: (body ++ cs)) =
      (⟨before, .ok p⟩ : Reading Placeholder) >>= fun p =>
        readPieces d nested readPlaceholder 0 p.stop cs >>= fun run =>
          pure (run.prependPlaceholder p) := by
  have hstop : position + d.opening.utf8Size + utf8Width body = p.stop := by
    rw [Placeholder.stop, hstart, hraw, utf8ByteSize_ofList, utf8Width_cons, Nat.add_assoc]
  have hlength : p.raw.length - 1 = body.length := by simp [hraw]
  simp only [readPieces, hrole, hread, Reading.attempt_eq, Reading.ok_bind, hlength,
    readPieces_append, hstop]

/-- A fault ends the reading, or is put on record with its region in the place of a piece. -/
theorem readPieces_fault {body : List Char} {before : List Issue} {fault : Fault}
    (hrole : d.role nested d.opening (body ++ cs).head? = .opening)
    (hread : readPlaceholder position (body ++ cs) = ⟨before, .error fault⟩)
    (hregion : region d (d.opening :: (body ++ cs)) = d.opening :: body) :
    readPieces d nested readPlaceholder 0 position (d.opening :: (body ++ cs)) =
      (⟨before ++ (d.tolerate fault).issues, (d.tolerate fault).outcome⟩ : Reading Issue) >>=
        fun issue =>
          readPieces d nested readPlaceholder 0 (position + d.opening.utf8Size + utf8Width body) cs
            >>= fun run => pure (run.prependMalformed d position (d.opening :: body) issue) := by
  have hlength : (d.opening :: body).length - 1 = body.length := by simp
  simp only [readPieces, hrole, hread, Reading.attempt_eq, Reading.ok_bind, hregion, hlength,
    readPieces_append]
  rcases d.tolerate fault with ⟨more, fault' | issue⟩
  · rfl
  · simp only [Reading.ok_bind, List.append_assoc]

theorem readPieces_unmatched (hrole : d.role nested c cs.head? = .unmatchedClosing) :
    readPieces d nested readPlaceholder 0 position (c :: cs) =
      d.tolerate (.at position .unmatchedClosing) >>= fun issue =>
        readPieces d nested readPlaceholder 0 (position + c.utf8Size) cs >>= fun run =>
          pure (run.prependMalformed d position [c] issue) := by
  simp only [readPieces, hrole]

variable {text rest : List Char} {run : Run} {issues : List Issue}

/-- What the rules describe is what the reader yields. -/
theorem PiecesRead.readPieces_eq
    (h : PiecesRead d nested readPlaceholder position text rest run issues) :
    readPieces d nested readPlaceholder 0 position (text ++ rest) = ⟨issues, .ok run⟩ := by
  induction h with
  | done hend => exact readPieces_end hend
  | text hrole _ ih =>
    rw [List.cons_append, readPieces_text hrole, ih]
    simp
  | braceEscape hrole _ ih =>
    rw [List.cons_append, List.cons_append, readPieces_braceEscape hrole, ih]
    simp
  | charLiteral hrole hbody _ ih =>
    rw [List.append_assoc, List.cons_append, readPieces_charLiteral hrole hbody, ih]
    simp
  | doubledBrace hrole _ ih =>
    rw [List.cons_append, List.cons_append, readPieces_doubledBrace hrole, ih]
    simp
  | placeholder hrole hread hstart hraw _ ih =>
    rw [List.append_assoc, List.cons_append, readPieces_placeholder hrole hread hstart hraw,
      Reading.ok_bind, ih]
    simp
  | malformed hrecovers hrole hread hregion _ ih =>
    rw [List.append_assoc, List.cons_append, readPieces_fault hrole hread hregion,
      (Dialect.tolerate_eq_ok_iff _ _ _ _).mpr ⟨hrecovers, rfl, rfl⟩, Reading.ok_bind, ih]
    simp
  | @unmatched position c text rest run issues hrecovers hrole _ ih =>
    have htolerate : d.tolerate (.at position .unmatchedClosing) =
        ⟨[⟨position, .unmatchedClosing⟩], .ok ⟨position, .unmatchedClosing⟩⟩ :=
      (d.tolerate_eq_ok_iff _ _ _).mpr ⟨hrecovers, rfl, rfl⟩
    rw [List.cons_append, readPieces_unmatched hrole, htolerate, Reading.ok_bind, ih]
    simp

theorem CharLiteral.extent_le_length (cs : List Char) : extent cs ≤ cs.length := by
  cases cs with
  | nil => simp [extent]
  | cons c cs =>
    have hdigits := (List.takeWhile_sublist isHexDigit (l := cs.take 4)).length_le
    simp only [extent, List.length_cons]
    split
    · have := List.length_take_le' 4 cs
      omega
    · omega

theorem CharLiteral.exists_extent (cs : List Char) :
    ∃ body after, cs = body ++ after ∧ extent (body ++ after) = body.length := by
  refine ⟨cs.take (extent cs), cs.drop (extent cs), (List.take_append_drop _ _).symm, ?_⟩
  rw [List.take_append_drop, List.length_take_of_le (extent_le_length cs)]

theorem exists_region (hrole : d.role nested d.opening cs.head? = .opening) :
    ∃ body rest, cs = body ++ rest ∧ region d (d.opening :: cs) = d.opening :: body := by
  have hescape : d.escapesBrace d.opening cs.head? = false := by
    cases h : d.escapesBrace d.opening cs.head? with
    | false => rfl
    | true =>
      rw [Dialect.role_eq_braceEscape_iff.mpr h] at hrole
      cases hrole
  obtain ⟨rest, hrest⟩ := regionFrom_prefix d false 1 cs
  refine ⟨regionFrom d false 1 cs, rest, hrest.symm, ?_⟩
  simp [region, regionFrom, hescape]

@[simp] theorem Run.prependMalformed_stop (position : Nat) (text : List Char) (issue : Issue)
    (run : Run) : (run.prependMalformed d position text issue).stop = run.stop := by
  unfold prependMalformed
  cases d.onMalformed <;> rfl

theorem PiecesRead.stop_eq
    (h : PiecesRead d nested readPlaceholder position text rest run issues) :
    run.stop = ⟨position + utf8Width text, rest⟩ := by
  induction h with
  | done _ => rfl
  | placeholder _ _ hstart hraw _ ih =>
    simp only [Run.prependPlaceholder, ih, Placeholder.stop, hstart, hraw, utf8ByteSize_ofList]
    simp [Nat.add_assoc]
  | _ => simp_all [Run.prependText, Run.prependLiteral, Nat.add_assoc]

/-- A placeholder begins where it was looked for and keeps the text it was read from. -/
def KeepsText (d : Dialect) (readPlaceholder : Nat → List Char → Reading Placeholder) : Prop :=
  ∀ {position cs issues p}, readPlaceholder position cs = ⟨issues, .ok p⟩ →
    p.start = position ∧ ∃ body rest, cs = body ++ rest ∧
      p.raw = String.ofList (d.opening :: body)

/-- What the reader yields is what the rules describe. -/
theorem PiecesRead.of_readPieces (hkeeps : KeepsText d readPlaceholder) (n : Nat) :
    ∀ {position cs run issues}, cs.length ≤ n →
      readPieces d nested readPlaceholder 0 position cs = ⟨issues, .ok run⟩ →
      ∃ text rest, cs = text ++ rest ∧
        PiecesRead d nested readPlaceholder position text rest run issues := by
  induction n with
  | zero =>
    intro position cs run issues hn h
    have hnil : cs = [] := List.length_eq_zero_iff.mp (Nat.le_zero.mp hn)
    subst hnil
    cases h
    exact ⟨[], [], rfl, .done (.inl rfl)⟩
  | succ n ih =>
    intro position cs run issues hn h
    cases cs with
    | nil =>
      cases h
      exact ⟨[], [], rfl, .done (.inl rfl)⟩
    | cons c cs =>
      have hlength : cs.length ≤ n := by simpa using hn
      cases hrole : d.role nested c cs.head? with
      | text =>
        rw [readPieces_text hrole] at h
        obtain ⟨inner, hinner, rfl⟩ := Reading.bind_pure_eq_ok_iff.mp h
        obtain ⟨text, rest, rfl, hrun⟩ := ih hlength hinner
        exact ⟨c :: text, rest, rfl, .text hrole hrun⟩
      | stop =>
        have hend : d.EndsFormatAt nested (c :: cs) := .inr ⟨c, cs, rfl, hrole⟩
        rw [readPieces_end hend] at h
        cases h
        exact ⟨[], c :: cs, rfl, .done hend⟩
      | braceEscape =>
        obtain ⟨b, hb, -⟩ := Dialect.exists_brace_of_braceEscape hrole
        obtain ⟨cs, rfl⟩ := List.head?_eq_some_iff.mp hb
        rw [readPieces_braceEscape hrole] at h
        obtain ⟨inner, hinner, rfl⟩ := Reading.bind_pure_eq_ok_iff.mp h
        obtain ⟨text, rest, rfl, hrun⟩ := ih (by simp at hlength; omega) hinner
        exact ⟨c :: b :: text, rest, rfl, .braceEscape hrole hrun⟩
      | charLiteral =>
        obtain ⟨body, after, rfl, hafter⟩ := CharLiteral.exists_extent cs
        rw [readPieces_charLiteral hrole hafter] at h
        obtain ⟨inner, hinner, rfl⟩ := Reading.bind_pure_eq_ok_iff.mp h
        obtain ⟨text, rest, rfl, hrun⟩ := ih (by simp at hlength; omega) hinner
        exact ⟨c :: body ++ text, rest, by simp, .charLiteral hrole hafter hrun⟩
      | doubledBrace =>
        obtain ⟨hb, -, -⟩ := Dialect.brace_of_doubledBrace hrole
        obtain ⟨cs, rfl⟩ := List.head?_eq_some_iff.mp hb
        rw [readPieces_doubledBrace hrole] at h
        obtain ⟨inner, hinner, rfl⟩ := Reading.bind_pure_eq_ok_iff.mp h
        obtain ⟨text, rest, rfl, hrun⟩ := ih (by simp at hlength; omega) hinner
        exact ⟨c :: c :: text, rest, rfl, .doubledBrace hrole hrun⟩
      | opening =>
        have hc := Dialect.opening_of_role hrole
        subst hc
        rcases hread : readPlaceholder position cs with ⟨before, fault | p⟩
        · obtain ⟨body, after, rfl, hregion⟩ := exists_region hrole
          rw [readPieces_fault hrole hread hregion] at h
          obtain ⟨issue, first, second, htolerate, hgo, rfl⟩ := Reading.bind_eq_ok_iff.mp h
          obtain ⟨inner, hinner, rfl⟩ := Reading.bind_pure_eq_ok_iff.mp hgo
          obtain ⟨hfirst, houtcome⟩ := (Reading.mk.injEq ..).mp htolerate
          obtain ⟨hrecovers, rfl, hissues⟩ := (d.tolerate_eq_ok_iff fault
            (d.tolerate fault).issues issue).mp (by rw [← houtcome])
          rw [hissues] at hfirst
          obtain ⟨text, rest, rfl, hrun⟩ := ih (by simp at hlength; omega) hinner
          refine ⟨d.opening :: body ++ text, rest, by simp, ?_⟩
          simpa [← hfirst] using PiecesRead.malformed hrecovers hrole hread hregion hrun
        · obtain ⟨hstart, body, after, rfl, hraw⟩ := hkeeps hread
          rw [readPieces_placeholder hrole hread hstart hraw] at h
          obtain ⟨p', first, second, hp, hgo, rfl⟩ := Reading.bind_eq_ok_iff.mp h
          cases hp
          obtain ⟨inner, hinner, rfl⟩ := Reading.bind_pure_eq_ok_iff.mp hgo
          obtain ⟨text, rest, rfl, hrun⟩ := ih (by simp at hlength; omega) hinner
          exact ⟨d.opening :: body ++ text, rest, by simp,
            .placeholder hrole hread hstart hraw hrun⟩
      | unmatchedClosing =>
        rw [readPieces_unmatched hrole] at h
        obtain ⟨issue, first, second, htolerate, hgo, rfl⟩ := Reading.bind_eq_ok_iff.mp h
        obtain ⟨hrecovers, hissue, rfl⟩ := (Dialect.tolerate_eq_ok_iff _ _ _ _).mp htolerate
        cases hissue
        obtain ⟨inner, hinner, rfl⟩ := Reading.bind_pure_eq_ok_iff.mp hgo
        obtain ⟨text, rest, rfl, hrun⟩ := ih hlength hinner
        exact ⟨c :: text, rest, rfl, .unmatched hrecovers hrole hrun⟩

end Reader

end Stencil
