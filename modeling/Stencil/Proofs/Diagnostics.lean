import Mathlib.Data.List.Forall2
import Stencil.Proofs.Reading.Nested

/-!
# Issues on record and messages in the tree

Where messages are put in the place of malformed parts, every message of the tree has its issue on
record, in the same order. But a placeholder that fails takes back only what was read of it, not
what its reading had put on record by then: those issues stay, and have no message.
-/

namespace Stencil

set_option autoImplicit false

/-! ## The messages of a tree -/

def Literal.isDiagnostic (l : Literal) : Bool :=
  match l.kind with
  | .diagnostic _ => true
  | _ => false

mutual

/-- The messages in a format, in the order of the text, with those of nested formats. -/
def Format.diagnostics : Format → List Literal
  | ⟨_, _, pieces⟩ => diagnosticsOf pieces
termination_by structural f => f

def diagnosticsOf : List Piece → List Literal
  | [] => []
  | p :: ps => p.diagnostics ++ diagnosticsOf ps
termination_by structural ps => ps

def Piece.diagnostics : Piece → List Literal
  | .literal l => if l.isDiagnostic then [l] else []
  | .placeholder p => p.diagnostics
termination_by structural p => p

def Placeholder.diagnostics : Placeholder → List Literal
  | ⟨_, _, _, _, _, _, _, format⟩ => nestedDiagnostics format
termination_by structural p => p

def nestedDiagnostics : Option Format → List Literal
  | none => []
  | some f => f.diagnostics
termination_by structural f => f

end

section Messages

variable {run : Run} {start : Nat}

theorem Placeholder.diagnostics_eq (p : Placeholder) :
    p.diagnostics = nestedDiagnostics p.format := by
  cases p
  rfl

theorem diagnosticsOf_cons (p : Piece) (ps : List Piece) :
    diagnosticsOf (p :: ps) = p.diagnostics ++ diagnosticsOf ps := by
  simp only [diagnosticsOf]

@[simp] theorem diagnosticsOf_piecesFrom :
    diagnosticsOf (run.piecesFrom start) = diagnosticsOf run.pieces := by
  unfold Run.piecesFrom
  split
  · rfl
  · simp only [diagnosticsOf_cons, Piece.diagnostics, Literal.isDiagnostic, Bool.false_eq_true,
      if_false, List.nil_append]

@[simp] theorem Run.diagnostics_toFormat (depth : Nat) :
    (run.toFormat start depth).diagnostics = diagnosticsOf run.pieces := by
  rw [toFormat, Format.diagnostics, diagnosticsOf_piecesFrom]

@[simp] theorem diagnosticsOf_prependText (text : List Char) :
    diagnosticsOf (run.prependText text).pieces = diagnosticsOf run.pieces := rfl

@[simp] theorem diagnosticsOf_prependLiteral (text : List Char) (kind : LiteralKind) :
    diagnosticsOf (run.prependLiteral start text kind).pieces =
      (Piece.literal ⟨start, String.ofList text, kind⟩).diagnostics ++
        diagnosticsOf run.pieces := by
  rw [Run.prependLiteral, diagnosticsOf_cons, diagnosticsOf_piecesFrom]

@[simp] theorem diagnosticsOf_prependPlaceholder (p : Placeholder) :
    diagnosticsOf (run.prependPlaceholder p).pieces =
      p.diagnostics ++ diagnosticsOf run.pieces := by
  rw [Run.prependPlaceholder, diagnosticsOf_cons, diagnosticsOf_piecesFrom, Piece.diagnostics]

theorem diagnosticsOf_prependMalformed {d : Dialect} (hd : d.onMalformed = .message)
    (text : List Char) (issue : Issue) :
    diagnosticsOf (run.prependMalformed d start text issue).pieces =
      ⟨start, String.ofList text, .diagnostic issue.text⟩ :: diagnosticsOf run.pieces := by
  simp only [Run.prependMalformed, hd, diagnosticsOf_prependLiteral, Piece.diagnostics,
    Literal.isDiagnostic, if_true, List.singleton_append]

end Messages

/-! ## What a message stands for -/

/-- What was wrong with a malformed part, and what was on record from its reading when that was
noticed. -/
structure Replacement where
  lost : List Issue
  issue : Issue

/-- What the reading of a malformed part puts on record. -/
def Replacement.record (r : Replacement) : List Issue := r.lost ++ [r.issue]

/-- A message in the place of a closing brace that nothing was opened for, or of the region of a
placeholder that cannot be read. -/
inductive Replacement.ShownBy (d : Dialect) (text : List Char) : Replacement → Literal → Prop
  | closing {before after : List Char} {issue : Issue} (htext : text = before ++ d.closing :: after)
      (hissue : issue = ⟨utf8Width before, .unmatchedClosing⟩) :
      ShownBy d text ⟨[], issue⟩
        ⟨utf8Width before, String.ofList [d.closing], .diagnostic issue.text⟩
  | placeholder {before body after : List Char} {levels depth : Nat} {lost : List Issue}
      {issue : Issue} (htext : text = before ++ (d.opening :: body ++ after))
      (hlevels : levels + depth = d.maxDepth)
      (hread : readPlaceholderWithin d levels (depth + 1) (utf8Width before) (body ++ after) =
        ⟨lost, .error (.malformed issue)⟩)
      (hregion : region d (d.opening :: (body ++ after)) = d.opening :: body) :
      ShownBy d text ⟨lost, issue⟩
        ⟨utf8Width before, String.ofList (d.opening :: body), .diagnostic issue.text⟩

/-- The messages stand one by one for replacements, whose records together are the issues. -/
def Accounts (d : Dialect) (text : List Char) (issues : List Issue) (messages : List Literal) :
    Prop :=
  ∃ rs, List.Forall₂ (Replacement.ShownBy d text) rs messages ∧
    issues = rs.flatMap Replacement.record

section Accounting

variable {d : Dialect} {text : List Char} {issues more : List Issue}
  {messages others : List Literal} {rs : List Replacement} {r : Replacement} {l : Literal}

theorem accounts_nil : Accounts d text [] [] := ⟨[], .nil, rfl⟩

theorem Accounts.append (h : Accounts d text issues messages) (h' : Accounts d text more others) :
    Accounts d text (issues ++ more) (messages ++ others) := by
  obtain ⟨rs, hrs, rfl⟩ := h
  obtain ⟨rs', hrs', rfl⟩ := h'
  exact ⟨rs ++ rs', List.rel_append hrs hrs', by rw [List.flatMap_append]⟩

theorem Accounts.cons (hr : r.ShownBy d text l) (h : Accounts d text issues messages) :
    Accounts d text (r.lost ++ r.issue :: issues) (l :: messages) := by
  obtain ⟨rs, hrs, rfl⟩ := h
  exact ⟨r :: rs, .cons hr hrs, by simp [Replacement.record]⟩

end Accounting

/-! ## The record of a reading -/

section Readings

variable {d : Dialect} {text : List Char}

/-- Only the format nested in a placeholder leaves issues on record. -/
theorem PlaceholderRead.issues_eq_nil {depth position : Nat} {body rest : List Char}
    {readBody : Nat → List Char → Reading Run} {p : Placeholder} {issues : List Issue}
    (h : PlaceholderRead d depth readBody position body rest p issues) (hformat : p.format = none) :
    issues = [] := by
  cases h with
  | intro _ _ _ _ hspec =>
    cases hspec with
    | absent _ => rfl
    | options _ _ _ _ _ _ => rfl
    | format _ _ _ => cases hformat
    | named _ _ _ _ _ _ => cases hformat
    | optionsFormat _ _ _ _ _ _ => cases hformat

/-- Placeholders that are read at some depth of the text account for their issues. -/
def PlaceholdersAccount (d : Dialect) (text : List Char) (levels depth : Nat) : Prop :=
  ∀ {before cs issues p}, text = before ++ d.opening :: cs →
    readPlaceholderWithin d levels (depth + 1) (utf8Width before) cs = ⟨issues, .ok p⟩ →
      Accounts d text issues p.diagnostics

/-- The pieces of a run account for its issues if the placeholders among them do. What a placeholder
that fails had left on record goes to the message in its place. -/
theorem PiecesRead.accounts {nested : Bool} {levels depth position : Nat}
    {before inner rest : List Char} {run : Run} {issues : List Issue}
    (h : PiecesRead d nested (readPlaceholderWithin d levels (depth + 1)) position inner rest run
      issues)
    (hd : d.onMalformed = .message) (hlevels : levels + depth = d.maxDepth)
    (hplaceholders : PlaceholdersAccount d text levels depth)
    (htext : text = before ++ (inner ++ rest)) (hposition : position = utf8Width before) :
    Accounts d text issues (diagnosticsOf run.pieces) := by
  induction h generalizing before with
  | done _ => exact accounts_nil
  | @text position c inner rest run issues _ _ ih =>
    have hbefore : text = before ++ [c] ++ (inner ++ rest) := by simpa using htext
    simpa using ih hbefore (by simp [hposition])
  | @braceEscape position c b inner rest run issues _ _ ih =>
    have hbefore : text = before ++ [c, b] ++ (inner ++ rest) := by simpa using htext
    simpa [Piece.diagnostics, Literal.isDiagnostic]
      using ih hbefore (by simp [hposition, Nat.add_assoc])
  | @charLiteral position c body inner rest run issues _ _ _ ih =>
    have hbefore : text = before ++ c :: body ++ (inner ++ rest) := by simpa using htext
    simpa [Piece.diagnostics, Literal.isDiagnostic]
      using ih hbefore (by simp [hposition, Nat.add_assoc])
  | @doubledBrace position c inner rest run issues _ _ ih =>
    have hbefore : text = before ++ [c, c] ++ (inner ++ rest) := by simpa using htext
    simpa [Piece.diagnostics, Literal.isDiagnostic]
      using ih hbefore (by simp [hposition, Nat.add_assoc])
  | @placeholder position body inner rest p run first second _ hread hstart hraw _ ih =>
    subst hposition
    have hbefore : text = before ++ d.opening :: body ++ (inner ++ rest) := by simpa using htext
    have hstop : p.stop = utf8Width (before ++ d.opening :: body) := by
      rw [Placeholder.stop, hstart, hraw, utf8ByteSize_ofList, utf8Width_append]
    -- the issues of a placeholder come before those of the text behind it, as its messages do
    have hplaceholder := hplaceholders (by simpa using htext) hread
    simpa using hplaceholder.append (ih hbefore hstop)
  | @malformed position body inner rest issue run first second _ _ hread hregion _ ih =>
    subst hposition
    have hbefore : text = before ++ d.opening :: body ++ (inner ++ rest) := by simpa using htext
    have hrun := ih hbefore (by simp [Nat.add_assoc])
    rw [diagnosticsOf_prependMalformed hd]
    exact hrun.cons (.placeholder (by simpa using htext) hlevels hread hregion)
  | @unmatched position c inner rest run issues _ hrole _ ih =>
    subst hposition
    have hbefore : text = before ++ [c] ++ (inner ++ rest) := by simpa using htext
    have hrun := ih hbefore (by simp)
    obtain ⟨rfl, -⟩ := Dialect.closing_of_unmatched hrole
    rw [diagnosticsOf_prependMalformed hd]
    exact hrun.cons (.closing htext rfl)

/-- A placeholder accounts for its issues because the format nested in it does, with one level of
nesting less. -/
theorem placeholdersAccount (hd : d.onMalformed = .message) {levels depth : Nat}
    (hlevels : levels + depth = d.maxDepth) : PlaceholdersAccount d text levels depth := by
  induction levels using levels_induction generalizing depth with
  | step levels ih =>
    intro before cs issues p htext hread
    obtain ⟨outer, body, rest, rfl, rfl, hplaceholder⟩ := readPlaceholderWithin_eq_ok_iff.mp hread
    rw [p.diagnostics_eq]
    cases hformat : p.format with
    | none =>
      rw [hplaceholder.issues_eq_nil hformat]
      exact accounts_nil
    | some f =>
      obtain ⟨lead, inner, tail, run, rfl, rfl, hnested⟩ := hplaceholder.nested hformat
      obtain ⟨stretch, behind, hstretch, hpieces⟩ := readPieces_eq_ok_iff.mp hnested
      have hlevels' : outer + (depth + 1) = d.maxDepth := by omega
      have hbefore : text = before ++ d.opening :: lead ++ (stretch ++ behind) := by
        simp [htext, ← hstretch]
      rw [nestedDiagnostics, Run.diagnostics_toFormat]
      exact hpieces.accounts hd hlevels' (ih outer rfl hlevels') hbefore (by simp)

/-- The messages of a template that was read account for all issues on record. -/
theorem accounts_of_parse {text : String} {t : Template} (hd : d.onMalformed = .message)
    (h : Template.parse d text = .ok t) :
    Accounts d text.toList t.issues t.format.diagnostics := by
  obtain ⟨run, issues, rfl, hread⟩ := parse_eq_ok_iff.mp h
  have htext : text.toList = [] ++ (text.toList ++ []) := by simp
  rw [Run.diagnostics_toFormat]
  exact hread.accounts hd rfl (placeholdersAccount hd rfl) htext rfl

end Readings

/-! ## Texts -/

section Texts

variable {d : Dialect} {text : List Char} {rs : List Replacement} {messages : List Literal}

theorem Replacement.ShownBy.rendered_eq {r : Replacement} {l : Literal}
    (h : r.ShownBy d text l) : l.rendered = r.issue.text := by
  cases h <;> rfl

theorem rendered_eq_of_shownBy (h : List.Forall₂ (Replacement.ShownBy d text) rs messages) :
    messages.map Literal.rendered = rs.map fun r => r.issue.text := by
  induction h with
  | nil => rfl
  | cons hr _ ih => simp only [List.map_cons, hr.rendered_eq, ih]

theorem issues_sublist_record (rs : List Replacement) :
    List.Sublist (rs.map Replacement.issue) (rs.flatMap Replacement.record) := by
  induction rs with
  | nil => exact List.Sublist.slnil
  | cons r rs ih =>
    have hself : List.Sublist [r.issue] r.record := List.sublist_append_right _ _
    simpa using hself.append ih

/-- A record is no longer than the list of what was replaced only where nothing was lost. -/
theorem lost_eq_nil_of_length_le (h : (rs.flatMap Replacement.record).length ≤ rs.length) :
    ∀ r ∈ rs, r.lost = [] := by
  induction rs with
  | nil => simp
  | cons r rs ih =>
    have hle := (issues_sublist_record rs).length_le
    rw [List.length_map] at hle
    rw [List.flatMap_cons, List.length_append, List.length_cons] at h
    have hrecord : r.record.length = r.lost.length + 1 := List.length_append
    have hlost : r.lost.length = 0 := by omega
    exact List.forall_mem_cons.mpr ⟨List.length_eq_zero_iff.mp hlost, ih (by omega)⟩

theorem record_eq_of_lost (h : ∀ r ∈ rs, r.lost = []) :
    rs.flatMap Replacement.record = rs.map Replacement.issue := by
  induction rs with
  | nil => rfl
  | cons r rs ih =>
    obtain ⟨hr, hrs⟩ := List.forall_mem_cons.mp h
    simp [Replacement.record, hr, ih hrs]

/-- Where messages are put in the place of malformed parts, the messages of the tree are, one by one
and in order, those of the issues that the parts they stand for were put aside with. What else is on
record was left behind by the reading of such parts, so that the record is what the tree says
exactly if no part that was put aside had left an issue by then. -/
theorem issues_of_messages {d : Dialect} {text : String} {t : Template}
    (hd : d.onMalformed = .message) (h : Template.parse d text = .ok t) :
    ∃ rs, List.Forall₂ (Replacement.ShownBy d text.toList) rs t.format.diagnostics ∧
      t.issues = rs.flatMap Replacement.record ∧
      t.format.diagnostics.map Literal.rendered = rs.map (fun r => r.issue.text) ∧
      List.Sublist (t.format.diagnostics.map Literal.rendered) (t.issues.map Issue.text) ∧
      (t.issues.map Issue.text = t.format.diagnostics.map Literal.rendered ↔
        ∀ r ∈ rs, r.lost = []) := by
  obtain ⟨rs, hshown, hissues⟩ := accounts_of_parse hd h
  have hrendered := rendered_eq_of_shownBy hshown
  refine ⟨rs, hshown, hissues, hrendered, ?_, ?_⟩
  · have hsub := (issues_sublist_record rs).map Issue.text
    rw [List.map_map] at hsub
    rw [hrendered, hissues]
    exact hsub
  · constructor
    · intro heq
      have hlength := congrArg List.length heq
      rw [List.length_map, List.length_map, ← hshown.length_eq] at hlength
      exact lost_eq_nil_of_length_le (hissues ▸ Nat.le_of_eq hlength)
    · intro hlost
      rw [hrendered, hissues, record_eq_of_lost hlost, List.map_map]
      rfl

/-- A malformed placeholder inside one that is read, and another one inside one that is not. -/
theorem issues_of_messages_nested :
    ∃ t, Template.parse { onMalformed := .message } "{a:{b..c}}\x7bd:{e..f}" = .ok t ∧
      t.issues = [⟨6, .emptySelector⟩, ⟨16, .emptySelector⟩, ⟨19, .missingClosing⟩] ∧
      ∃ rs, List.Forall₂
          (Replacement.ShownBy { onMalformed := .message } "{a:{b..c}}\x7bd:{e..f}".toList) rs
          t.format.diagnostics ∧
        t.issues = rs.flatMap Replacement.record ∧ rs.length = 2 ∧ ∃ r ∈ rs, r.lost ≠ [] := by
  have hany : (Template.parse { onMalformed := .message } "{a:{b..c}}\x7bd:{e..f}").toOption.any
      (fun t => decide (t.format.diagnostics.length = 2 ∧
        t.issues = [⟨6, .emptySelector⟩, ⟨16, .emptySelector⟩, ⟨19, .missingClosing⟩])) = true := by
    decide +kernel
  obtain ⟨t, hread, hfound⟩ := exists_parse_of_any hany
  obtain ⟨hlength, hissues⟩ := of_decide_eq_true hfound
  obtain ⟨rs, hshown, hrecord, -, -, hlost⟩ := issues_of_messages rfl hread
  refine ⟨t, hread, hissues, rs, hshown, hrecord, hshown.length_eq.trans hlength, ?_⟩
  by_contra hnone
  have htexts := congrArg List.length (hlost.mpr fun r hr => by
    by_contra hr'
    exact hnone ⟨r, hr, hr'⟩)
  simp [hissues, hlength] at htexts

/-- The region of the outer placeholder has taken the place of the inner one, whose issue is still
on record. -/
theorem issues_of_messages_dropped :
    ∃ t, Template.parse { onMalformed := .message } "\x7ba:{b..c}" = .ok t ∧
      t.issues.map Issue.text =
        ["Parse error at position 6: Empty selector",
          "Parse error at position 9: Unexpected end of input, missing closing brace"] ∧
      t.format.diagnostics.map Literal.rendered =
        ["Parse error at position 9: Unexpected end of input, missing closing brace"] := by
  have hany : (Template.parse { onMalformed := .message } "\x7ba:{b..c}").toOption.any
      (fun t => decide (t.issues.map Issue.text =
          ["Parse error at position 6: Empty selector",
            "Parse error at position 9: Unexpected end of input, missing closing brace"] ∧
        t.format.diagnostics.map Literal.rendered =
          ["Parse error at position 9: Unexpected end of input, missing closing brace"])) =
      true := by
    decide +kernel
  obtain ⟨t, hread, hfound⟩ := exists_parse_of_any hany
  exact ⟨t, hread, of_decide_eq_true hfound⟩

end Texts

end Stencil
