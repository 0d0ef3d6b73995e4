import Stencil.Proofs.Reading.Simulation
import Stencil.Proofs.Template.Recast

/-!
# What is done about malformed parts

The readings of one template by dialects that differ only in what they put in the place of a
malformed part. Failing at the first one or not makes no other difference up to there, and the
others differ in literal text alone.
-/

namespace Stencil

set_option autoImplicit false

/-- The dialect with another way to deal with malformed parts. -/
def Dialect.withAction (d : Dialect) (a : ErrorAction) : Dialect := { d with onMalformed := a }

section Spelling

variable (d : Dialect) (a : ErrorAction)

theorem readSelectors_withAction (head : SelectorHead) (position : Nat) (cs : List Char) :
    readSelectors (d.withAction a) head position cs = readSelectors d head position cs := by
  induction cs generalizing head position with
  | nil => rfl
  | cons c cs ih =>
    simp only [readSelectors, ih]
    rfl

theorem readOptions_withAction (escaped : Bool) (depth : Nat) (cs : List Char) :
    readOptions (d.withAction a) escaped depth cs = readOptions d escaped depth cs := by
  induction cs generalizing escaped depth with
  | nil => rfl
  | cons c cs ih =>
    cases depth <;> simp only [readOptions, ih] <;> rfl

theorem regionFrom_withAction (escaped : Bool) (depth : Nat) (cs : List Char) :
    regionFrom (d.withAction a) escaped depth cs = regionFrom d escaped depth cs := by
  induction cs generalizing escaped depth with
  | nil => rfl
  | cons c cs ih =>
    simp only [regionFrom, ih]
    rfl

theorem region_withAction (cs : List Char) : region (d.withAction a) cs = region d cs :=
  regionFrom_withAction d a false 0 cs

theorem readPlaceholder_withAction (depth : Nat) (readBody : Nat → List Char → Reading Run) :
    readPlaceholder (d.withAction a) depth readBody = readPlaceholder d depth readBody := by
  have hpath : readPath (d.withAction a) = readPath d := by
    funext position cs
    simp only [readPath, readSelectors_withAction]
  have hoptions : readOptions (d.withAction a) = readOptions d := by
    funext escaped depth cs
    exact readOptions_withAction d a escaped depth cs
  have hspec : readSpecification (d.withAction a) = readSpecification d := by
    funext depth readBody here
    unfold readSpecification
    rw [hoptions]
    rfl
  funext position cs
  unfold readPlaceholder
  rw [hpath, hspec]
  rfl

end Spelling

section Failing

variable {α β : Type} {d : Dialect} {a : ErrorAction} {nested : Bool}

/-- The second reading does what the first does, or goes on with an issue on record where the first
fails. -/
inductive Reading.Lenient (S : α → β → Prop) : Reading α → Reading β → Prop
  | ok {x : α} {y : β} (h : S x y) : Lenient S ⟨[], .ok x⟩ ⟨[], .ok y⟩
  | error (fault : Fault) : Lenient S ⟨[], .error fault⟩ ⟨[], .error fault⟩
  | recovered (issue : Issue) (issues : List Issue) (outcome : Except Fault β) :
      Lenient S ⟨[], .error (.malformed issue)⟩ ⟨issue :: issues, outcome⟩

theorem Reading.Lenient.bind {γ δ : Type} {S : α → β → Prop} {T : γ → δ → Prop} {r : Reading α}
    {q : Reading β} {f : α → Reading γ} {g : β → Reading δ} (h : Lenient S r q)
    (hcont : ∀ x y, S x y → Lenient T (f x) (g y)) : Lenient T (r >>= f) (q >>= g) := by
  cases h with
  | ok hxy => exact hcont _ _ hxy
  | error fault => exact .error fault
  | recovered issue issues outcome =>
    cases outcome with
    | error fault => exact .recovered issue issues (.error fault)
    | ok y => exact .recovered issue (issues ++ (g y).issues) (g y).outcome

def lenience : Simulation where
  rel := Reading.Lenient
  ok := .ok
  error := .error
  bind := .bind

theorem Placeholder.Alike.eq {p q : Placeholder} (h : Alike Eq p q) : p = q := by
  have hformat : p.format = q.format := by
    have hrel := h.format
    revert hrel
    generalize p.format = f
    generalize q.format = g
    rintro (⟨rfl⟩ | _) <;> rfl
  rcases p with ⟨start, depth, raw, path, alignment, name, options, format⟩
  rcases q with ⟨start', depth', raw', path', alignment', name', options', format'⟩
  obtain ⟨rfl, rfl, rfl, rfl, rfl, rfl, rfl, -⟩ := h
  cases hformat
  rfl

theorem Dialect.recovers_withAction (ha : a ≠ .fail) : (d.withAction a).recovers = true := by
  simp [recovers, withAction, ha]

theorem Dialect.tolerate_fail (fault : Fault) :
    (d.withAction .fail).tolerate fault = ⟨[], .error fault⟩ := by
  cases fault <;> rfl

theorem Dialect.tolerate_malformed (ha : a ≠ .fail) (issue : Issue) :
    (d.withAction a).tolerate (.malformed issue) = ⟨[issue], .ok issue⟩ := by
  simp [tolerate, recovers_withAction ha]

/-- A fault ends the failing reading; where it is put on record instead, the other goes on. -/
theorem Reading.Lenient.tolerate (ha : a ≠ .fail) {fault : Fault} {S : α → β → Prop}
    {f : Issue → Reading α} {g : Issue → Reading β} :
    Lenient S ((d.withAction .fail).tolerate fault >>= f)
      ((d.withAction a).tolerate fault >>= g) := by
  rw [Dialect.tolerate_fail]
  cases fault with
  | tooDeep position => exact .error _
  | malformed issue =>
    rw [Dialect.tolerate_malformed ha]
    exact .recovered issue (g issue).issues (g issue).outcome

theorem lenient_readPieces (ha : a ≠ .fail)
    {readPlaceholder readPlaceholder' : Nat → List Char → Reading Placeholder}
    (h : ∀ position cs, Reading.Lenient Eq (readPlaceholder position cs)
      (readPlaceholder' position cs)) (skip position : Nat) (cs : List Char) :
    Reading.Lenient Eq (readPieces (d.withAction .fail) nested readPlaceholder skip position cs)
      (readPieces (d.withAction a) nested readPlaceholder' skip position cs) := by
  induction cs generalizing skip position with
  | nil => cases skip <;> exact .ok rfl
  | cons c cs ih =>
    cases skip with
    | succ n => exact ih n _
    | zero =>
      have hrole : ∀ b, (d.withAction b).role nested c cs.head? = d.role nested c cs.head? :=
        fun _ => rfl
      simp only [readPieces, hrole]
      cases d.role nested c cs.head? with
      | text => exact lenience.map (ih 0 _) fun _ _ heq => by rw [heq]
      | stop => exact .ok rfl
      | braceEscape => exact lenience.map (ih 1 _) fun _ _ heq => by rw [heq]
      | charLiteral => exact lenience.map (ih _ _) fun _ _ heq => by rw [heq]
      | doubledBrace => exact lenience.map (ih 1 _) fun _ _ heq => by rw [heq]
      | unmatchedClosing => exact .tolerate ha
      | opening =>
        have hplaceholder := h position cs
        revert hplaceholder
        generalize readPlaceholder position cs = r
        generalize readPlaceholder' position cs = q
        intro hplaceholder
        cases hplaceholder with
        | ok heq =>
          subst heq
          exact lenience.map (ih _ _) fun _ _ heq => by rw [heq]
        | error fault => exact .tolerate ha
        | recovered issue issues outcome => exact .recovered issue _ _

theorem lenient_readPlaceholderWithin (ha : a ≠ .fail) (levels depth position : Nat)
    (cs : List Char) :
    Reading.Lenient Eq (readPlaceholderWithin (d.withAction .fail) levels depth position cs)
      (readPlaceholderWithin (d.withAction a) levels depth position cs) := by
  induction levels generalizing depth position cs with
  | zero => exact .error _
  | succ levels ih =>
    simp only [readPlaceholderWithin, readPlaceholder_withAction]
    refine lenience.mono (lenience.readPlaceholder (S := Eq) (R := fun _ => Eq) ?_ ?_ position cs)
      fun _ _ h => h.eq
    · exact lenient_readPieces ha (ih (depth + 1)) 0
    · intro position run run' heq
      rw [heq]
      exact ⟨rfl, rfl⟩

end Failing

section Settled

variable {α β : Type} {d : Dialect} {nested : Bool}

/-- The reading does not end with a malformed part. -/
def Reading.Settled (r : Reading α) : Prop := ∀ issue, r.outcome ≠ .error (.malformed issue)

theorem Reading.settled_ok (issues : List Issue) (x : α) : Settled ⟨issues, .ok x⟩ := by
  rintro issue ⟨⟩

theorem Reading.Settled.bind {r : Reading α} {f : α → Reading β} (h : r.Settled)
    (hcont : ∀ x, (f x).Settled) : (r >>= f).Settled := by
  rcases r with ⟨issues, fault | x⟩
  · intro issue heq
    exact h issue (by simpa using heq)
  · exact hcont x

theorem settled_readPieces (hrecovers : d.recovers = true)
    (readPlaceholder : Nat → List Char → Reading Placeholder) (skip position : Nat)
    (cs : List Char) : (readPieces d nested readPlaceholder skip position cs).Settled := by
  have htolerate : ∀ fault, (d.tolerate fault).Settled := by
    intro fault issue
    cases fault <;> simp [Dialect.tolerate, hrecovers]
  induction cs generalizing skip position with
  | nil => cases skip <;> exact Reading.settled_ok _ _
  | cons c cs ih =>
    cases skip with
    | succ n => exact ih n _
    | zero =>
      simp only [readPieces]
      cases d.role nested c cs.head? with
      | text => exact (ih 0 _).bind fun _ => Reading.settled_ok _ _
      | stop => exact Reading.settled_ok _ _
      | braceEscape => exact (ih 1 _).bind fun _ => Reading.settled_ok _ _
      | charLiteral => exact (ih _ _).bind fun _ => Reading.settled_ok _ _
      | doubledBrace => exact (ih 1 _).bind fun _ => Reading.settled_ok _ _
      | unmatchedClosing =>
        exact (htolerate _).bind fun _ => (ih 0 _).bind fun _ => Reading.settled_ok _ _
      | opening =>
        refine (Reading.settled_ok _ _).bind fun outcome => ?_
        cases outcome with
        | ok p => exact (ih _ _).bind fun _ => Reading.settled_ok _ _
        | error fault =>
          exact (htolerate fault).bind fun _ => (ih _ _).bind fun _ => Reading.settled_ok _ _

end Settled

section Replacing

variable {α β : Type} {d : Dialect} {a b : ErrorAction} {nested : Bool}

/-- Both readings leave the same issues on record and end alike. -/
inductive Reading.Alike (S : α → β → Prop) : Reading α → Reading β → Prop
  | ok (issues : List Issue) {x : α} {y : β} (h : S x y) :
      Alike S ⟨issues, .ok x⟩ ⟨issues, .ok y⟩
  | error (issues : List Issue) (fault : Fault) :
      Alike S ⟨issues, .error fault⟩ ⟨issues, .error fault⟩

theorem Reading.Alike.bind {γ δ : Type} {S : α → β → Prop} {T : γ → δ → Prop} {r : Reading α}
    {q : Reading β} {f : α → Reading γ} {g : β → Reading δ} (h : Alike S r q)
    (hcont : ∀ x y, S x y → Alike T (f x) (g y)) : Alike T (r >>= f) (q >>= g) := by
  cases h with
  | error issues fault => exact .error issues fault
  | @ok issues x y hxy =>
    have hrest := hcont x y hxy
    rw [ok_bind, ok_bind]
    revert hrest
    generalize f x = r'
    generalize g y = q'
    rintro (⟨more, h⟩ | ⟨more, fault⟩)
    · exact .ok (issues ++ more) h
    · exact .error (issues ++ more) fault

def likeness : Simulation where
  rel := Reading.Alike
  ok := .ok []
  error := .error []
  bind := .bind

/-- Both runs are spelled alike from byte `start` on, with the same placeholders. -/
def Run.SpelledAlike (start : Nat) (run run' : Run) : Prop :=
  recastPieces splitLiterals (run.piecesFrom start) =
    recastPieces splitLiterals (run'.piecesFrom start) ∧ run.stop = run'.stop

theorem recast_prependMalformed (run : Run) (start : Nat) (region : List Char) (issue : Issue) :
    recastPieces splitLiterals ((run.prependMalformed d start region issue).piecesFrom start) =
      characterPieces start region ++
        recastPieces splitLiterals (run.piecesFrom (start + utf8Width region)) := by
  have hliteral : ∀ kind, recastPieces splitLiterals
      ((run.prependLiteral start region kind).piecesFrom start) =
        characterPieces start region ++
          recastPieces splitLiterals (run.piecesFrom (start + utf8Width region)) := by
    intro kind
    rw [recast_prependLiteral]
    simp [splitLiterals]
  unfold Run.prependMalformed
  cases d.onMalformed with
  | fail => exact hliteral _
  | message => exact hliteral _
  | nothing => exact hliteral _
  | asWritten => exact recast_prependText splitLiterals_splits region

variable {start : Nat} {run run' : Run}

theorem Run.SpelledAlike.prependText (front : List Char)
    (h : SpelledAlike (start + utf8Width front) run run') :
    SpelledAlike start (run.prependText front) (run'.prependText front) := by
  obtain ⟨hpieces, hstop⟩ := h
  refine ⟨?_, hstop⟩
  rw [recast_prependText splitLiterals_splits, recast_prependText splitLiterals_splits, hpieces]

theorem Run.SpelledAlike.prependLiteral (front : List Char) (kind : LiteralKind)
    (h : SpelledAlike (start + utf8Width front) run run') :
    SpelledAlike start (run.prependLiteral start front kind)
      (run'.prependLiteral start front kind) := by
  obtain ⟨hpieces, hstop⟩ := h
  refine ⟨?_, hstop⟩
  rw [recast_prependLiteral, recast_prependLiteral, hpieces]

theorem Run.SpelledAlike.prependMalformed {d d' : Dialect} (region : List Char) (issue : Issue)
    (h : SpelledAlike (start + utf8Width region) run run') :
    SpelledAlike start (run.prependMalformed d start region issue)
      (run'.prependMalformed d' start region issue) := by
  obtain ⟨hpieces, hstop⟩ := h
  refine ⟨?_, by simpa using hstop⟩
  rw [recast_prependMalformed, recast_prependMalformed, hpieces]

/-- What two placeholders have in common beyond their texts and places. -/
def Placeholder.SpelledAlike (p q : Placeholder) : Prop :=
  p.recast splitLiterals = q.recast splitLiterals

theorem Placeholder.SpelledAlike.start_eq {p q : Placeholder} (h : p.SpelledAlike q) :
    p.start = q.start ∧ p.raw = q.raw := by
  rcases p with ⟨⟩
  rcases q with ⟨⟩
  simp only [SpelledAlike, Placeholder.recast, Placeholder.mk.injEq] at h
  exact ⟨h.1, h.2.2.1⟩

theorem Run.SpelledAlike.prependPlaceholder {p q : Placeholder} (hpq : p.SpelledAlike q)
    (h : SpelledAlike p.stop run run') (s : Nat) :
    SpelledAlike s (run.prependPlaceholder p) (run'.prependPlaceholder q) := by
  obtain ⟨hpieces, hstop⟩ := h
  obtain ⟨hstart, hraw⟩ := hpq.start_eq
  have hend : p.stop = q.stop := by rw [Placeholder.stop, Placeholder.stop, hstart, hraw]
  refine ⟨?_, hstop⟩
  rw [recast_prependPlaceholder, recast_prependPlaceholder, hpieces, hend, hpq]

theorem alike_readPieces (ha : a ≠ .fail) (hb : b ≠ .fail)
    {readPlaceholder readPlaceholder' : Nat → List Char → Reading Placeholder}
    (hkeeps : KeepsText d readPlaceholder)
    (h : ∀ position cs, Reading.Alike Placeholder.SpelledAlike (readPlaceholder position cs)
      (readPlaceholder' position cs)) (n : Nat) : ∀ {position cs}, cs.length ≤ n →
    Reading.Alike (Run.SpelledAlike position)
      (readPieces (d.withAction a) nested readPlaceholder 0 position cs)
      (readPieces (d.withAction b) nested readPlaceholder' 0 position cs) := by
  induction n with
  | zero =>
    intro position cs hn
    rw [List.length_eq_zero_iff.mp (Nat.le_zero.mp hn)]
    exact .ok [] ⟨rfl, rfl⟩
  | succ n ih =>
    intro position cs hn
    cases cs with
    | nil => exact .ok [] ⟨rfl, rfl⟩
    | cons c cs =>
      have hlength : cs.length ≤ n := by simpa using hn
      cases hc : d.role nested c cs.head? with
      | text =>
        rw [readPieces_text (d := d.withAction a) hc, readPieces_text (d := d.withAction b) hc]
        exact likeness.map (ih hlength) fun _ _ h => h.prependText [c]
      | stop =>
        rw [readPieces_end (d := d.withAction a) (.inr ⟨c, cs, rfl, hc⟩),
          readPieces_end (d := d.withAction b) (.inr ⟨c, cs, rfl, hc⟩)]
        exact .ok [] ⟨rfl, rfl⟩
      | braceEscape =>
        obtain ⟨e, he, -⟩ := Dialect.exists_brace_of_braceEscape hc
        obtain ⟨cs, rfl⟩ := List.head?_eq_some_iff.mp he
        rw [readPieces_braceEscape (d := d.withAction a) hc,
          readPieces_braceEscape (d := d.withAction b) hc]
        refine likeness.map (ih (by simp at hlength; omega)) fun run run' h => ?_
        exact Run.SpelledAlike.prependLiteral [c] _ (h.prependText [e])
      | charLiteral =>
        obtain ⟨body, after, rfl, hafter⟩ := CharLiteral.exists_extent cs
        rw [readPieces_charLiteral (d := d.withAction a) hc hafter,
          readPieces_charLiteral (d := d.withAction b) hc hafter]
        refine likeness.map (ih (by simp at hlength; omega)) fun run run' h => ?_
        rw [Nat.add_assoc] at h
        exact Run.SpelledAlike.prependLiteral (c :: body) _ h
      | doubledBrace =>
        obtain ⟨hnext, -, -⟩ := Dialect.brace_of_doubledBrace hc
        obtain ⟨cs, rfl⟩ := List.head?_eq_some_iff.mp hnext
        rw [readPieces_doubledBrace (d := d.withAction a) hc,
          readPieces_doubledBrace (d := d.withAction b) hc]
        refine likeness.map (ih (by simp at hlength; omega)) fun run run' h => ?_
        exact Run.SpelledAlike.prependText [c] (Run.SpelledAlike.prependLiteral [c] _ h)
      | unmatchedClosing =>
        rw [readPieces_unmatched (d := d.withAction a) hc,
          readPieces_unmatched (d := d.withAction b) hc, Fault.at, Dialect.tolerate_malformed ha,
          Dialect.tolerate_malformed hb]
        refine likeness.bind (.ok _ rfl) ?_
        intro issue issue' heq
        rw [← heq]
        exact likeness.map (ih hlength) fun _ _ h => h.prependMalformed [c] issue
      | opening =>
        obtain rfl := Dialect.opening_of_role hc
        have hplaceholder := h position cs
        generalize hread : readPlaceholder position cs = r at hplaceholder
        generalize hread' : readPlaceholder' position cs = q at hplaceholder
        cases hplaceholder with
        | @ok before p p' hp =>
          obtain ⟨hstart, body, after, rfl, hraw⟩ := hkeeps hread
          have hstart' : p'.start = position := hp.start_eq.1 ▸ hstart
          have hraw' : p'.raw = String.ofList (d.opening :: body) := hp.start_eq.2 ▸ hraw
          have hleft : readPieces (d.withAction a) nested readPlaceholder 0 position
              (d.opening :: (body ++ after)) = _ :=
            readPieces_placeholder (d := d.withAction a) hc hread hstart hraw
          have hright : readPieces (d.withAction b) nested readPlaceholder' 0 position
              (d.opening :: (body ++ after)) = _ :=
            readPieces_placeholder (d := d.withAction b) hc hread' hstart' hraw'
          rw [hleft, hright]
          refine likeness.bind (.ok before hp) fun x y hxy => ?_
          have hstop : y.stop = x.stop := by
            rw [Placeholder.stop, Placeholder.stop, hxy.start_eq.1, hxy.start_eq.2]
          rw [hstop]
          exact likeness.map (ih (by simp at hlength; omega)) fun _ _ h =>
            h.prependPlaceholder hxy position
        | error before fault =>
          obtain ⟨body, after, rfl, hregion⟩ := exists_region hc
          have hleft : readPieces (d.withAction a) nested readPlaceholder 0 position
              (d.opening :: (body ++ after)) = _ :=
            readPieces_fault (d := d.withAction a) hc hread
              ((region_withAction d a _).trans hregion)
          have hright : readPieces (d.withAction b) nested readPlaceholder' 0 position
              (d.opening :: (body ++ after)) = _ :=
            readPieces_fault (d := d.withAction b) hc hread'
              ((region_withAction d b _).trans hregion)
          rw [hleft, hright]
          cases fault with
          | tooDeep place => exact .error _ _
          | malformed issue =>
            rw [Dialect.tolerate_malformed ha, Dialect.tolerate_malformed hb]
            refine likeness.bind (.ok _ rfl) ?_
            intro found found' heq
            rw [← heq]
            refine likeness.map (ih (by simp at hlength; omega)) fun run run' h => ?_
            rw [Nat.add_assoc] at h
            exact Run.SpelledAlike.prependMalformed (d.opening :: body) found h

theorem Placeholder.Alike.spelledAlike {p q : Placeholder}
    (h : Alike (fun f g => f.recast splitLiterals = g.recast splitLiterals) p q) :
    p.SpelledAlike q := by
  have hformat : recastNested splitLiterals p.format = recastNested splitLiterals q.format := by
    have hrel := h.format
    revert hrel
    generalize p.format = f
    generalize q.format = g
    rintro (hfg | _)
    · simp only [recastNested, hfg]
    · rfl
  rcases p with ⟨⟩
  rcases q with ⟨⟩
  obtain ⟨rfl, rfl, rfl, rfl, rfl, rfl, rfl, -⟩ := h
  simp only [SpelledAlike, Placeholder.recast, hformat]

theorem Run.SpelledAlike.toFormat (depth : Nat) (h : SpelledAlike start run run') :
    (run.toFormat start depth).recast splitLiterals =
      (run'.toFormat start depth).recast splitLiterals := by
  simp only [Run.toFormat, Format.recast, h.1]

theorem alike_readPlaceholderWithin (ha : a ≠ .fail) (hb : b ≠ .fail)
    (levels depth position : Nat) (cs : List Char) :
    Reading.Alike Placeholder.SpelledAlike
      (readPlaceholderWithin (d.withAction a) levels depth position cs)
      (readPlaceholderWithin (d.withAction b) levels depth position cs) := by
  induction levels generalizing depth position cs with
  | zero => exact .error [] _
  | succ levels ih =>
    simp only [readPlaceholderWithin, readPlaceholder_withAction]
    refine likeness.mono (likeness.readPlaceholder
      (S := fun f g => f.recast splitLiterals = g.recast splitLiterals)
      (R := Run.SpelledAlike) ?_ ?_ position cs) fun _ _ h => h.spelledAlike
    · intro position cs
      exact alike_readPieces (d := d) ha hb
        (keepsText_readPlaceholderWithin (d := d.withAction a) levels (depth + 1))
        (ih (depth + 1)) cs.length (Nat.le_refl _)
    · intro position run run' h
      exact ⟨h.toFormat depth, h.2⟩

end Replacing

section Templates

variable {d : Dialect} {text : String} {a b : ErrorAction} {issues : List Issue}

/-- The reading that a template is parsed by. -/
def parseReading (d : Dialect) (text : String) : Reading Run :=
  readPieces d false (readPlaceholderWithin d d.maxDepth 1) 0 0 text.toList

theorem parse_of_ok {run : Run} (h : parseReading d text = ⟨issues, .ok run⟩) :
    Template.parse d text = .ok ⟨d, run.toFormat 0 0, issues⟩ := by
  unfold parseReading at h
  simp only [Template.parse, h]

theorem parse_of_error {fault : Fault} (h : parseReading d text = ⟨issues, .error fault⟩) :
    Template.parse d text = .error (fault.toError d text) := by
  unfold parseReading at h
  simp only [Template.parse, h]

theorem parseReading_lenient (d : Dialect) (text : String) (ha : a ≠ .fail) :
    (∃ run, parseReading (d.withAction .fail) text = ⟨[], .ok run⟩ ∧
      parseReading (d.withAction a) text = ⟨[], .ok run⟩) ∨
    (∃ fault, parseReading (d.withAction .fail) text = ⟨[], .error fault⟩ ∧
      parseReading (d.withAction a) text = ⟨[], .error fault⟩) ∨
    ∃ issue issues outcome,
      parseReading (d.withAction .fail) text = ⟨[], .error (.malformed issue)⟩ ∧
        parseReading (d.withAction a) text = ⟨issue :: issues, outcome⟩ := by
  have hlenient : Reading.Lenient Eq (parseReading (d.withAction .fail) text)
      (parseReading (d.withAction a) text) :=
    lenient_readPieces ha (lenient_readPlaceholderWithin ha d.maxDepth 1) 0 0 text.toList
  generalize parseReading (d.withAction .fail) text = r at hlenient
  generalize parseReading (d.withAction a) text = q at hlenient
  cases hlenient with
  | @ok run run' heq =>
    rw [← heq]
    exact .inl ⟨run, rfl, rfl⟩
  | error fault => exact .inr (.inl ⟨fault, rfl, rfl⟩)
  | recovered issue issues outcome => exact .inr (.inr ⟨issue, issues, outcome, rfl, rfl⟩)

theorem alike_parseReading (d : Dialect) (text : String) (ha : a ≠ .fail) (hb : b ≠ .fail) :
    Reading.Alike (Run.SpelledAlike 0) (parseReading (d.withAction a) text)
      (parseReading (d.withAction b) text) :=
  alike_readPieces (d := d) ha hb
    (keepsText_readPlaceholderWithin (d := d.withAction a) d.maxDepth 1)
    (alike_readPlaceholderWithin ha hb d.maxDepth 1) _ (Nat.le_refl _)

theorem parse_fail_iff (ha : a ≠ .fail) (f : Format) :
    (∃ t, Template.parse (d.withAction .fail) text = .ok t ∧ t.format = f) ↔
      ∃ t, Template.parse (d.withAction a) text = .ok t ∧ t.issues = [] ∧ t.format = f := by
  rcases parseReading_lenient d text ha with ⟨run, hfail, hgo⟩ | ⟨fault, hfail, hgo⟩ |
    ⟨issue, issues, outcome, hfail, hgo⟩
  · rw [parse_of_ok hfail, parse_of_ok hgo]
    constructor
    · rintro ⟨t, heq, rfl⟩
      cases heq
      exact ⟨_, rfl, rfl, rfl⟩
    · rintro ⟨t, heq, -, rfl⟩
      cases heq
      exact ⟨_, rfl, rfl⟩
  · rw [parse_of_error hfail, parse_of_error hgo]
    simp
  · rw [parse_of_error hfail]
    constructor
    · rintro ⟨t, heq, -⟩
      cases heq
    · rintro ⟨t, heq, hissues, -⟩
      cases outcome with
      | error fault =>
        rw [parse_of_error hgo] at heq
        cases heq
      | ok run =>
        rw [parse_of_ok hgo] at heq
        cases heq
        cases hissues

/-- With the action that fails, nothing is put right, so there is nothing to put on record. -/
theorem parse_fail_issues {t : Template}
    (h : Template.parse (d.withAction .fail) text = .ok t) : t.issues = [] := by
  rcases parseReading_lenient d text (a := .nothing) (by decide) with
    ⟨run, hfail, -⟩ | ⟨fault, hfail, -⟩ | ⟨issue, issues, outcome, hfail, -⟩
  · rw [parse_of_ok hfail] at h
    cases h
    rfl
  · rw [parse_of_error hfail] at h
    cases h
  · rw [parse_of_error hfail] at h
    cases h

/-- A template that nests too deep for one way to deal with malformed parts is too deep for all if
it is for the one that fails. -/
theorem parse_tooDeep {position max : Nat}
    (h : Template.parse (d.withAction .fail) text = .error (.tooDeep position max))
    (a : ErrorAction) :
    Template.parse (d.withAction a) text = .error (.tooDeep position max) := by
  by_cases ha : a = .fail
  · rw [ha, h]
  · rcases parseReading_lenient d text ha with ⟨run, hfail, hgo⟩ | ⟨fault, hfail, hgo⟩ |
      ⟨issue, issues, outcome, hfail, hgo⟩
    · rw [parse_of_ok hfail] at h
      cases h
    · rw [parse_of_error hfail] at h
      rw [parse_of_error hgo, ← h]
      cases fault <;> rfl
    · rw [parse_of_error hfail] at h
      cases h

theorem parse_ne_malformed (ha : a ≠ .fail) (issue : Issue) (caret : Caret) :
    Template.parse (d.withAction a) text ≠ .error (.malformed issue caret) := by
  have hsettled : (parseReading (d.withAction a) text).Settled :=
    settled_readPieces (Dialect.recovers_withAction ha) _ 0 0 text.toList
  intro h
  rcases hread : parseReading (d.withAction a) text with ⟨issues, fault | run⟩
  · rw [parse_of_error hread] at h
    cases fault with
    | malformed found => exact hsettled found (by rw [hread])
    | tooDeep position => cases h
  · rw [parse_of_ok hread] at h
    cases h

theorem parse_first_issue (ha : a ≠ .fail) {issue : Issue} {caret : Caret}
    (h : Template.parse (d.withAction .fail) text = .error (.malformed issue caret)) :
    (∃ position max,
      Template.parse (d.withAction a) text = .error (.tooDeep position max)) ∨
      ∃ t, Template.parse (d.withAction a) text = .ok t ∧ t.issues.head? = some issue := by
  rcases parseReading_lenient d text ha with ⟨run, hfail, hgo⟩ | ⟨fault, hfail, hgo⟩ |
    ⟨found, issues, outcome, hfail, hgo⟩
  · rw [parse_of_ok hfail] at h
    cases h
  · cases fault with
    | malformed found =>
      exact absurd (parse_of_error hgo) (parse_ne_malformed ha found _)
    | tooDeep position =>
      rw [parse_of_error hfail] at h
      cases h
  · rw [parse_of_error hfail] at h
    cases h
    rcases outcome with fault | run
    · cases fault with
      | malformed found => exact absurd (parse_of_error hgo) (parse_ne_malformed ha found _)
      | tooDeep position => exact .inl ⟨position, _, parse_of_error hgo⟩
    · exact .inr ⟨_, parse_of_ok hgo, rfl⟩

theorem parse_alike (ha : a ≠ .fail) (hb : b ≠ .fail) :
    (∃ position max,
      Template.parse (d.withAction a) text = .error (.tooDeep position max) ∧
        Template.parse (d.withAction b) text = .error (.tooDeep position max)) ∨
      ∃ t u, Template.parse (d.withAction a) text = .ok t ∧
        Template.parse (d.withAction b) text = .ok u ∧ t.issues = u.issues ∧
          t.format.recast splitLiterals = u.format.recast splitLiterals := by
  have halike := alike_parseReading d text ha hb
  generalize hfirst : parseReading (d.withAction a) text = r at halike
  generalize hsecond : parseReading (d.withAction b) text = q at halike
  cases halike with
  | ok issues h =>
    exact .inr ⟨_, _, parse_of_ok hfirst, parse_of_ok hsecond, rfl, h.toFormat 0⟩
  | error issues fault =>
    cases fault with
    | malformed found => exact absurd (parse_of_error hfirst) (parse_ne_malformed ha found _)
    | tooDeep position =>
      exact .inl ⟨position, _, parse_of_error hfirst, parse_of_error hsecond⟩

/-- What is done about malformed parts makes a difference in their place alone. Failing is what
happens just where another action would put an issue on record, the first of which is the one that
failed, or where a template nests too deep; where it does not happen, no issue is on record. Other
actions leave the same issues and the same placeholders; only literals differ. -/
theorem parse_withAction (d : Dialect) (text : String) {a : ErrorAction} (ha : a ≠ .fail) :
    (∀ f, (∃ t, Template.parse (d.withAction .fail) text = .ok t ∧ t.format = f) ↔
      ∃ t, Template.parse (d.withAction a) text = .ok t ∧ t.issues = [] ∧ t.format = f) ∧
    (∀ t, Template.parse (d.withAction .fail) text = .ok t → t.issues = []) ∧
    (∀ position max,
      Template.parse (d.withAction .fail) text = .error (.tooDeep position max) →
        Template.parse (d.withAction a) text = .error (.tooDeep position max)) ∧
    (∀ issue caret,
      Template.parse (d.withAction .fail) text = .error (.malformed issue caret) →
        (∃ position max,
          Template.parse (d.withAction a) text = .error (.tooDeep position max)) ∨
        ∃ t, Template.parse (d.withAction a) text = .ok t ∧ t.issues.head? = some issue) ∧
    (∀ issue caret, Template.parse (d.withAction a) text ≠ .error (.malformed issue caret)) ∧
    ∀ b, b ≠ .fail →
      (∃ position max,
        Template.parse (d.withAction a) text = .error (.tooDeep position max) ∧
          Template.parse (d.withAction b) text = .error (.tooDeep position max)) ∨
      ∃ t u, Template.parse (d.withAction a) text = .ok t ∧
        Template.parse (d.withAction b) text = .ok u ∧ t.issues = u.issues ∧
          t.format.recast splitLiterals = u.format.recast splitLiterals := by
  refine ⟨parse_fail_iff ha, fun t h => parse_fail_issues h, ?_, ?_, parse_ne_malformed ha,
    fun b hb => parse_alike ha hb⟩
  · intro position max h
    exact parse_tooDeep h a
  · intro issue caret h
    exact parse_first_issue ha h

/-- A malformed placeholder inside another, and one that is malformed itself. -/
theorem parse_withAction_nothing_message :
    ErrorAction.nothing ≠ .fail ∧ ErrorAction.message ≠ .fail ∧
      ∃ t u, Template.parse (Dialect.withAction {} .nothing) "x{a:{b,}{c}}{d..e}" = .ok t ∧
        Template.parse (Dialect.withAction {} .message) "x{a:{b,}{c}}{d..e}" = .ok u ∧
        t.issues = u.issues ∧
        t.format.recast splitLiterals = u.format.recast splitLiterals := by
  have hok : (Template.parse (Dialect.withAction {} .nothing)
      "x{a:{b,}{c}}{d..e}").isOk = true := by
    decide +kernel
  refine ⟨by decide, by decide, ?_⟩
  obtain ⟨-, -, -, -, -, halike⟩ :=
    parse_withAction {} "x{a:{b,}{c}}{d..e}" (a := .nothing) (by decide)
  rcases halike .message (by decide) with ⟨position, max, hdeep, -⟩ | hread
  · rw [hdeep] at hok
    cases hok
  · exact hread

end Templates

end Stencil
