import Stencil.Proofs.Reading.Moved
import Stencil.Proofs.Render.Growth
import Stencil.Proofs.Render.Parallel

/-!
# Rendering further on

A tree that stands further on in a template is rendered behind what was rendered before it as it is
by itself: the text and the failures are put behind those that were there, the failures at places
further on. Where literal text is cut apart makes no difference.
-/

namespace Stencil

set_option autoImplicit false

def Error.shift (n : Nat) : Error → Error
  | .tooDeep position max => .tooDeep (position + n) max
  | e => e

def Failure.shift (n : Nat) (x : Failure) : Failure := { x with position := x.position + n }

/-- The draft behind another one, with all places `n` bytes further on. -/
def Draft.behind (before : Draft) (n : Nat) (d : Draft) : Draft where
  out := before.out ++ d.out
  failures := before.failures ++ d.failures.map (Failure.shift n)
  aborting := d.aborting

/-- The step does behind a draft what the other one does by itself. -/
def GoesOn {α : Type} (n : Nat) (step step' : RenderM α) : Prop :=
  ∀ before d : Draft, (before.behind n d).through step' =
    ((d.through step).1.mapError (Error.shift n), before.behind n (d.through step).2)

/-- What corresponds stands `n` bytes further on. -/
def Likeness.shift (n : Nat) : Likeness where
  formats f f' := f' = f.shift n
  errors e e' := e' = e.shift n
  failures _ _ := True
  recoverable e he := by
    cases e with
    | tooDeep position max => cases he
    | _ => rfl

section Places

variable {n : Nat}

@[simp] theorem Error.shift_of_recoverable {e : Error} (h : e.isRecoverable = true) :
    e.shift n = e := ((Likeness.shift n).recoverable e h).symm

@[simp] theorem Error.isRecoverable_shift (e : Error) :
    (e.shift n).isRecoverable = e.isRecoverable := by
  cases e <;> rfl

theorem Error.shift_zero (e : Error) : e.shift 0 = e := by
  cases e <;> rfl

theorem Draft.behind_zero (d : Draft) : ({} : Draft).behind 0 d = d := by
  have hfailures : d.failures.map (Failure.shift 0) = d.failures := List.map_id _
  simp [behind, hfailures]

theorem Draft.behind_empty {d : Draft} (h : d.aborting = false) : d.behind n {} = d := by
  simp [behind, ← h]

theorem Format.alike_shift (f : Format) : f.Alike (.shift n) (f.shift n) where
  whole := rfl
  sections := by
    rw [Format.split_shift]
    refine ⟨rfl, fun i => ?_, by simp⟩
    rw [List.getElem?_map]
    cases (f.split sectionMark).later[i]? with
    | none => exact .none
    | some g => exact .some rfl
  empty := by simp [Format.items_shift]
  literal := f.isLiteral_shift n |>.symm
  text := by
    rw [Formatter.literalText, Formatter.literalText, Format.pieces_shift, List.map_map]
    congr 2
    funext piece
    cases piece <;> rfl

end Places

section Steps

variable {n : Nat} {α β : Type}

theorem goesOn_pure (a : α) : GoesOn n (pure a) (pure a) := fun _ _ => rfl

theorem goesOn_throw (e : Error) : GoesOn n (throw e : RenderM α) (throw (e.shift n)) :=
  fun _ _ => rfl

theorem goesOn_abandon (e : Error) : GoesOn n (abandon e) (abandon (e.shift n)) := fun _ _ => rfl

theorem Draft.behind_write (before d : Draft) (text : String) :
    (before.behind n d).write text = before.behind n (d.write text) := by
  simp [behind, write, String.append_assoc]

theorem goesOn_write (text : String) :
    GoesOn n (modify (·.write text)) (modify (·.write text)) := by
  intro before d
  exact congrArg (Except.ok (), ·) (before.behind_write d text)

theorem GoesOn.seq {first first' : RenderM α} {second second' : RenderM β}
    (h : GoesOn n first first') (h' : GoesOn n second second') :
    GoesOn n (first >>= fun _ => second) (first' >>= fun _ => second') := by
  intro before d
  have hfirst := h before d
  rcases hr : d.through first with ⟨e | a, d'⟩ <;> rw [hr] at hfirst
  · rw [through_bind_error hfirst, through_bind_error hr]
    rfl
  · rw [through_bind_ok hfirst, through_bind_ok hr, h']

theorem Draft.behind_record (before d : Draft) (p : Placeholder) (e : Error) :
    (before.behind n d).record (p.shift n) e = before.behind n (d.record p e) := by
  simp [behind, record, Failure.shift]

theorem goesOn_recordFailure (action : ErrorAction) (p : Placeholder) {e : Error}
    (he : e.isRecoverable = true) :
    GoesOn n (recordFailure action p e) (recordFailure action (p.shift n) e) := by
  intro before d
  have hrecord := before.behind_record d p e (n := n)
  by_cases haction : action = .fail
  · rw [haction, through_recordFailure_fail, through_recordFailure_fail, hrecord]
    change (Except.error e, _) = (Except.error (e.shift n), _)
    rw [Error.shift_of_recoverable he]
    rfl
  · have hreplacement : action.replacement (p.shift n) e = action.replacement p e := by
      cases action <;> simp [ErrorAction.replacement]
    rw [through_recordFailure _ _ _ haction, through_recordFailure _ _ _ haction, hrecord,
      hreplacement]
    exact goesOn_write _ before (d.record p e)

theorem goesOn_handleFailure (action : ErrorAction) (p : Placeholder) (e : Error) :
    GoesOn n (handleFailure action p e) (handleFailure action (p.shift n) (e.shift n)) := by
  intro before d
  have haborting : (before.behind n d).aborting = d.aborting := rfl
  rw [through_handleFailure, through_handleFailure, haborting, e.isRecoverable_shift]
  split
  · rfl
  · rename_i hgoes
    have he : e.isRecoverable = true := by simp_all
    rw [Error.shift_of_recoverable he]
    exact goesOn_recordFailure action p he before d

variable {nest nest' : Format → Value → RenderM Unit}
  (hnest : ∀ f v, GoesOn n (nest f v) (nest' (f.shift n) v))
include hnest

theorem Script.Alike.goesOn {s s' : Script α} (h : s.Alike (.shift n) s') :
    GoesOn n (s.run nest) (s'.run nest') := by
  induction h with
  | done a => exact goesOn_pure a
  | fail h =>
    rw [h]
    exact goesOn_throw _
  | write text _ ih => exact (goesOn_write text).seq ih
  | @nested f f' v next next' hformat _ _ ihok iherror =>
    cases hformat
    intro before d
    have hinner := hnest f v before d
    rw [through_run_nested, through_run_nested, hinner]
    cases (d.through (nest f v)).1 with
    | ok u => exact ihok before _
    | error e => exact iherror e _ rfl before _
  | failures _ ih => exact fun before d => ih _ _ trivial before d

omit hnest in
theorem goesOn_tryFormatters {run run' : Formatter → RenderM Bool} {fs : List Formatter}
    (hrun : ∀ f ∈ fs, GoesOn n (run f) (run' f)) (hgrows : ∀ f, Grows (run f))
    (hgrows' : ∀ f, Grows (run' f)) (none : Error) :
    GoesOn n (tryFormatters run none fs) (tryFormatters run' (none.shift n) fs) := by
  induction fs with
  | nil => exact goesOn_throw none
  | cons f fs ih =>
    intro before d
    have hfirst := hrun f List.mem_cons_self before d
    rcases hr : d.through (run f) with ⟨e | handled, d'⟩ <;> rw [hr] at hfirst
    · rw [through_tryFormatters_failed _ fs hfirst, through_tryFormatters_failed _ fs hr]
      rfl
    · cases handled with
      | true =>
        rw [through_tryFormatters_handled _ fs hfirst, through_tryFormatters_handled _ fs hr]
        rfl
      | false =>
        -- Drafts only grow, so both are back where they were when the formatter began.
        rw [through_tryFormatters_declined _ fs hfirst, through_tryFormatters_declined _ fs hr,
          rewind_of_grows (hgrows' f) hfirst, rewind_of_grows (hgrows f) hr]
        exact ih (fun g hg => hrun g (List.mem_cons_of_mem f hg)) before d

end Steps

/-- Calls that differ in their template, and in what the cache holds, at most. -/
structure Call.SameMeans (c c' : Call) : Prop where
  settings : c'.settings = c.settings
  sources : c'.sources = c.sources
  formatters : c'.formatters = c.formatters
  now : c'.now = c.now
  args : c'.args = c.args

namespace Call

variable {c c' : Call} {n : Nat} (hmeans : c.SameMeans c')
include hmeans

theorem SameMeans.resolve_shift (s : Scope) (p : Placeholder) :
    c'.resolve s (p.shift n) = c.resolve s p := by
  have hsame : c'.resolve s (p.shift n) = c'.resolve s p := by
    simp only [resolve, Placeholder.isCurrent, p.path_shift]
    rfl
  rw [hsame]
  exact resolve_congr hmeans.sources hmeans.args (by rw [hmeans.settings]) s p

theorem SameMeans.alike_request (p : Placeholder) (v : Value) :
    (c.request p v).Alike (.shift n) (c'.request (p.shift n) v) where
  value := rfl
  raw := (p.raw_shift n).symm
  name := (p.name_shift n).symm
  options := (p.options_shift n).symm
  settings := hmeans.settings.symm
  now := hmeans.now.symm
  format := by
    change Option.Rel _ p.format (p.shift n).format
    rw [p.format_shift]
    cases p.format with
    | none => exact .none
    | some f => exact .some f.alike_shift

theorem SameMeans.goesOn_conclude (p : Placeholder) (text : String) (r : Except Error Unit) :
    GoesOn n (c.conclude p text r)
      (c'.conclude (p.shift n) text (r.mapError (Error.shift n))) := by
  cases r with
  | ok u =>
    change GoesOn n (modify _) (modify _)
    rw [p.alignment_shift]
    exact goesOn_write _
  | error e =>
    change GoesOn n (handleFailure _ _ _) (handleFailure _ _ _)
    rw [hmeans.settings]
    exact goesOn_handleFailure _ p e

variable (hbuiltIn : ∀ f ∈ c.formatters, f ∈ Formatter.builtIn)
include hbuiltIn

section Placeholders

variable {nest nest' : Format → Value → RenderM Unit} (hgrows : ∀ f v, Grows (nest f v))
  (hgrows' : ∀ f v, Grows (nest' f v))
  (hnest : ∀ f v, GoesOn n (nest f v) (nest' (f.shift n) v))
include hgrows hgrows' hnest

theorem SameMeans.goesOn_attempt (s : Scope) (p : Placeholder) :
    GoesOn n (c.attempt nest s p) (c'.attempt nest' s (p.shift n)) := by
  unfold attempt
  rw [hmeans.resolve_shift]
  cases c.resolve s p with
  | error selector =>
    rw [p.raw_shift]
    exact goesOn_throw _
  | ok v =>
    simp only [dispatch, hmeans.formatters, hmeans.settings, p.name_shift, p.raw_shift]
    refine goesOn_tryFormatters (fun f hf => ?_) (fun f => (f.format _).grows hgrows)
      (fun f => (f.format _).grows hgrows') (.unformatted p.raw (.noFormatter p.name))
    have hmem := hbuiltIn f (List.mem_filter.mp hf).1
    exact (Formatter.alike_of_mem_builtIn (hmeans.alike_request p v) hmem).goesOn hnest

theorem SameMeans.goesOn_renderPlaceholder (s : Scope) (p : Placeholder) :
    GoesOn n (c.renderPlaceholder nest s p) (c'.renderPlaceholder nest' s (p.shift n)) := by
  intro before d
  have htried := hmeans.goesOn_attempt hbuiltIn hgrows hgrows' hnest s p
    { before with out := "" } { d with out := "" }
  rcases hr : Draft.through { d with out := "" } (c.attempt nest s p) with ⟨r, d'⟩
  rw [hr] at htried
  have hblank : Draft.behind { before with out := "" } n { d with out := "" } =
      { before.behind n d with out := "" } := by simp [Draft.behind]
  have hconcluded := hmeans.goesOn_conclude (n := n) p d'.out r before { d' with out := d.out }
  rw [hblank] at htried
  rw [c.through_renderPlaceholder nest s p hr, c'.through_renderPlaceholder nest' s _ htried]
  simpa [Draft.behind] using hconcluded

end Placeholders

theorem SameMeans.goesOn_renderPieces {nest nest' : Placeholder → Format → Value → RenderM Unit}
    (hgrows : ∀ p f v, Grows (nest p f v)) (hgrows' : ∀ p f v, Grows (nest' p f v))
    (hnest : ∀ p f v, GoesOn n (nest p f v) (nest' (p.shift n) (f.shift n) v)) (s : Scope)
    (ps : List Piece) :
    GoesOn n (c.renderPieces nest s ps) (c'.renderPieces nest' s (ps.map (Piece.shift n))) := by
  induction ps with
  | nil => exact goesOn_pure ()
  | cons piece ps ih =>
    cases piece with
    | literal l => exact (goesOn_write l.rendered).seq ih
    | placeholder p =>
      exact (hmeans.goesOn_renderPlaceholder hbuiltIn (hgrows p) (hgrows' _) (hnest p) s p).seq ih

theorem SameMeans.goesOn_nestWithin (levels : Nat) (s : Scope) (p : Placeholder) (f : Format)
    (v : Value) :
    GoesOn n (c.nestWithin levels s p f v)
      (c'.nestWithin levels s (p.shift n) (f.shift n) v) := by
  induction levels generalizing s p f v with
  | zero =>
    simp only [nestWithin, p.start_shift, hmeans.settings]
    exact goesOn_abandon _
  | succ levels ih =>
    simp only [nestWithin, renderFormat_eq, f.pieces_shift]
    exact hmeans.goesOn_renderPieces hbuiltIn (grows_nestWithin c levels _)
      (grows_nestWithin c' levels _) (ih (s.enter v)) _ _

theorem SameMeans.goesOn_renderWithin (levels : Nat) (s : Scope) (ps : List Piece) :
    GoesOn n (c.renderPieces (c.nestWithin levels s) s ps)
      (c'.renderPieces (c'.nestWithin levels s) s (ps.map (Piece.shift n))) :=
  hmeans.goesOn_renderPieces hbuiltIn (grows_nestWithin c levels s) (grows_nestWithin c' levels s)
    (hmeans.goesOn_nestWithin hbuiltIn levels s) s ps

end Call

section Pieces

variable (c : Call) (nest : Placeholder → Format → Value → RenderM Unit) (s : Scope)

theorem Call.renderPieces_append (ps qs : List Piece) :
    c.renderPieces nest s (ps ++ qs) =
      c.renderPieces nest s ps >>= fun _ => c.renderPieces nest s qs := by
  induction ps with
  | nil => rfl
  | cons piece ps ih =>
    cases piece <;> simp only [List.cons_append, renderPieces, ih, bind_assoc]

theorem through_renderPieces_characters (start : Nat) (cs : List Char) (d : Draft) :
    d.through (c.renderPieces nest s (characterPieces start cs)) =
      (.ok (), d.write (String.ofList cs)) := by
  induction cs generalizing start d with
  | nil => simp [characterPieces, Call.renderPieces, Draft.write]
  | cons ch cs ih =>
    have htext : String.ofList (ch :: cs) = String.ofList [ch] ++ String.ofList cs := by
      rw [← String.ofList_append, List.singleton_append]
    rw [characterPieces, Call.renderPieces, through_bind_ok (through_modify _ _), ih, htext]
    simp only [Draft.write, Literal.rendered, String.append_assoc]

/-- It makes no difference where literal text is cut apart. -/
theorem Call.renderPieces_characters (ps : List Piece) :
    c.renderPieces nest s (ps.flatMap Piece.characters) = c.renderPieces nest s ps := by
  induction ps with
  | nil => rfl
  | cons piece ps ih =>
    rw [List.flatMap_cons, renderPieces_append, ih]
    cases piece with
    | placeholder p => simp only [Piece.characters, renderPieces, bind_assoc, pure_bind]
    | literal l =>
      obtain ⟨start, raw, kind⟩ := l
      cases kind with
      | text =>
        refine step_ext fun d => ?_
        have hcharacters := through_renderPieces_characters c nest s start raw.toList d
        rw [String.ofList_toList] at hcharacters
        rw [Piece.characters, splitText, Call.renderPieces, through_bind_ok (through_modify _ _)]
        exact through_bind_ok hcharacters _
      | _ => rfl

end Pieces

end Stencil
