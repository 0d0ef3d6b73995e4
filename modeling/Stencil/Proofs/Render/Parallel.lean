import Stencil.Proofs.Render.Scripts

/-!
# Scripts side by side

Two scripts that do the same step by step, but for the formats that they render and the errors that
they are given or end in, which need only correspond. The formatters of the library do so for
requests that differ no more than that.
-/

namespace Stencil

set_option autoImplicit false

structure Likeness where
  formats : Format → Format → Prop
  errors : Error → Error → Prop
  failures : List Failure → List Failure → Prop
  /-- An error that does not come from the limit on nested formats corresponds to itself. -/
  recoverable : ∀ e : Error, e.isRecoverable = true → errors e e

inductive Script.Alike (like : Likeness) {α : Type} : Script α → Script α → Prop
  | done (a : α) : Script.Alike like (.done a) (.done a)
  | fail {e e' : Error} (h : like.errors e e') : Script.Alike like (.fail e) (.fail e')
  | write (text : String) {next next' : Script α} (h : Script.Alike like next next') :
      Script.Alike like (.write text next) (.write text next')
  | nested {f f' : Format} (v : Value) {next next' : Except Error Unit → Script α}
      (hformat : like.formats f f') (hok : Script.Alike like (next (.ok ())) (next' (.ok ())))
      (herror : ∀ e e', like.errors e e' →
        Script.Alike like (next (.error e)) (next' (.error e'))) :
      Script.Alike like (.nested f v next) (.nested f' v next')
  | failures {next next' : List Failure → Script α}
      (h : ∀ failed failed', like.failures failed failed' →
        Script.Alike like (next failed) (next' failed')) :
      Script.Alike like (.failures next) (.failures next')

structure Sections.Alike (like : Likeness) (s s' : Sections) : Prop where
  first : like.formats s.first s'.first
  later : ∀ i : Nat, Option.Rel like.formats s.later[i]? s'.later[i]?
  length : s.later.length = s'.later.length

/-- A script that renders only what `opens` says, and fails as `errors` says if nested formats do.
-/
def Script.Within {α : Type} (opens : Format → Prop) (errors : Error → Prop) : Script α → Prop
  | .done _ => True
  | .fail e => errors e
  | .write _ next => next.Within opens errors
  | .nested f _ next => opens f ∧ ∀ r : Except Error Unit, (∀ e, r = .error e → errors e) →
      (next r).Within opens errors
  | .failures next => ∀ failed, (next failed).Within opens errors

/-- What corresponds is the same, and is as `opens` and `errors` say. -/
def Likeness.within (opens : Format → Prop) (errors : Error → Prop)
    (recoverable : ∀ e : Error, e.isRecoverable = true → errors e) : Likeness where
  formats f f' := f = f' ∧ opens f
  errors e e' := e = e' ∧ errors e
  failures := Eq
  recoverable e he := ⟨rfl, recoverable e he⟩

/-- Nested formats that the formatters of the library do the same with. -/
structure Format.Alike (like : Likeness) (f f' : Format) : Prop where
  whole : like.formats f f'
  sections : (f.split sectionMark).Alike like (f'.split sectionMark)
  empty : f.items.isEmpty = f'.items.isEmpty
  literal : f.isLiteral = f'.isLiteral
  text : Formatter.literalText f = Formatter.literalText f'

/-- Requests that differ for the formatters of the library in the nested format at most. -/
structure Request.Alike (like : Likeness) (r r' : Request) : Prop where
  value : r.value = r'.value
  raw : r.placeholder.raw = r'.placeholder.raw
  name : r.placeholder.name = r'.placeholder.name
  options : r.placeholder.options = r'.placeholder.options
  settings : r.settings = r'.settings
  now : r.now = r'.now
  format : Option.Rel (Format.Alike like) r.format? r'.format?

section Parts

variable {like : Likeness} {α β : Type} {f f' : Format} {r r' : Request}

theorem Script.Alike.bind {s s' : Script α} {next next' : α → Script β} (h : s.Alike like s')
    (hnext : ∀ a, (next a).Alike like (next' a)) : (s >>= next).Alike like (s' >>= next') := by
  change (s.bind next).Alike like (s'.bind next')
  induction h with
  | done a => exact hnext a
  | fail h => exact .fail h
  | write text _ ih => exact .write text ih
  | nested v hformat _ _ ihok iherror => exact .nested v hformat ihok iherror
  | failures _ ih => exact .failures ih

theorem Script.Alike.within {opens : Format → Prop} {errors : Error → Prop}
    {recoverable : ∀ e : Error, e.isRecoverable = true → errors e} {s s' : Script α}
    (h : s.Alike (.within opens errors recoverable) s') : s.Within opens errors := by
  induction h with
  | done a => trivial
  | fail h => exact h.2
  | write text _ ih => exact ih
  | nested v hformat _ _ ihok iherror =>
    refine ⟨hformat.2, fun r hr => ?_⟩
    cases r with
    | ok u => exact ihok
    | error e => exact iherror e e ⟨rfl, hr e rfl⟩
  | failures _ ih => exact fun failed => ih failed failed rfl

theorem Script.Alike.ite {c : Prop} [Decidable c] {s s' t t' : Script α} (hs : s.Alike like s')
    (ht : t.Alike like t') : (if c then s else t).Alike like (if c then s' else t') := by
  split
  · exact hs
  · exact ht

theorem Script.alike_render (h : like.formats f f') (v : Value) :
    (render f v).Alike like (render f' v) :=
  .nested v h (.done ()) fun _ _ he => .fail he

theorem Request.Alike.unformatted (h : r.Alike like r') (cause : FormattingCause) :
    (Script.fail (r.unformatted cause) : Script Bool).Alike like
      (.fail (r'.unformatted cause)) := by
  have hsame : r.unformatted cause = r'.unformatted cause := by
    rw [Request.unformatted, Request.unformatted, h.raw]
  rw [hsame]
  exact .fail (like.recoverable _ rfl)

theorem rel_cases {R : Format → Format → Prop} {o o' : Option Format} (h : Option.Rel R o o') :
    (o = none ∧ o' = none) ∨ ∃ f f', o = some f ∧ o' = some f' ∧ R f f' := by
  rcases h with hf | -
  · exact .inr ⟨_, _, rfl, rfl, hf⟩
  · exact .inl ⟨rfl, rfl⟩

theorem rel_or {o o' p p' : Option Format} (h : Option.Rel like.formats o o')
    (h' : Option.Rel like.formats p p') : Option.Rel like.formats (o.or p) (o'.or p') := by
  rcases h with hf | -
  · exact .some hf
  · exact h'

variable {s s' : Sections}

theorem Sections.Alike.count (h : s.Alike like s') : s.count = s'.count :=
  congrArg (· + 1) h.length

theorem Sections.Alike.pick (h : s.Alike like s') (i : Nat) :
    like.formats (s.pick i) (s'.pick i) := by
  have hlast : Option.Rel like.formats (s.later.take i).getLast? (s'.later.take i).getLast? := by
    rw [List.getLast?_take, List.getLast?_take, List.getLast?_eq_getElem?,
      List.getLast?_eq_getElem?, ← h.length]
    split
    · exact .none
    · exact rel_or (h.later _) (h.later _)
  unfold Sections.pick
  rcases rel_cases hlast with ⟨hnone, hnone'⟩ | ⟨f, f', hsome, hsome', hf⟩
  · rw [hnone, hnone']
    exact h.first
  · rw [hsome, hsome']
    exact hf

end Parts

namespace Formatter

variable {like : Likeness} {f : Formatter} {r r' : Request} {s s' : Sections}

theorem rel_spacer (h : s.Alike like s') (count i : Nat) :
    Option.Rel like.formats (spacer s count i) (spacer s' count i) := by
  have hlast := rel_or (h.later 1) (h.later 0)
  unfold spacer
  split
  · exact .none
  · split
    · exact rel_or (h.later 2) hlast
    · split
      · exact hlast
      · exact h.later 0

theorem alike_renderItems (h : s.Alike like s') (count i : Nat) (vs : List Value) :
    (renderItems s count i vs).Alike like (renderItems s' count i vs) := by
  induction vs generalizing i with
  | nil => exact .done ()
  | cons v vs ih =>
    have hitem := (Script.alike_render h.first v).bind fun _ => ih (i + 1)
    unfold renderItems
    rcases rel_cases (rel_spacer h count i) with ⟨hnone, hnone'⟩ | ⟨f, f', hsome, hsome', hf⟩
    · rw [hnone, hnone']
      exact hitem
    · rw [hsome, hsome']
      exact (Script.alike_render hf v).bind fun _ => hitem

variable (h : r.Alike like r')
include h

theorem alike_list : (list.format r).Alike like (list.format r') := by
  simp only [list, Request.name, ← h.value, ← h.name]
  rcases rel_cases h.format with ⟨hnone, hnone'⟩ | ⟨f, f', hsome, hsome', hf⟩
  · rw [hnone, hnone']
    cases r.value <;> exact .done false
  · rw [hsome, hsome']
    cases r.value with
    | array items =>
      simp only [← hf.sections.count]
      exact .ite (.done false) ((alike_renderItems hf.sections _ _ _).bind fun _ => .done true)
    | _ => exact .done false

theorem alike_conditional : (conditional.format r).Alike like (conditional.format r') := by
  simp only [conditional, Request.name, ← h.value, ← h.name, ← h.now]
  rcases rel_cases h.format with ⟨hnone, hnone'⟩ | ⟨f, f', hsome, hsome', hf⟩
  · rw [hnone, hnone']
    exact .done false
  · rw [hsome, hsome']
    simp only [← hf.sections.count]
    refine .ite (.done false) (.ite (.ite ?truthy ?falsy) ?several)
    case truthy => exact (Script.alike_render hf.sections.first _).bind fun _ => .done true
    case falsy => exact .done true
    case several => exact (Script.alike_render (hf.sections.pick _) _).bind fun _ => .done true

theorem alike_choose : (choose.format r).Alike like (choose.format r') := by
  simp only [choose, Placeholder.optionsRaw, ← h.value, ← h.options, ← h.settings]
  rcases rel_cases h.format with ⟨hnone, hnone'⟩ | ⟨f, f', hsome, hsome', hf⟩
  · rw [hnone, hnone']
    exact h.unformatted _
  · rw [hsome, hsome']
    simp only [← hf.sections.count]
    refine .ite (h.unformatted _) ?_
    cases choice? _ _ _ _ with
    | some i => exact (Script.alike_render (hf.sections.pick i) _).bind fun _ => .done true
    | none => exact h.unformatted _

theorem alike_writeDate {g g' : Format} (hg : g.Alike like g') (t : Instant) :
    (writeDate r t g).Alike like (writeDate r' t g') := by
  unfold writeDate
  rw [← hg.text]
  split
  · exact .write _ (.done true)
  · exact h.unformatted _

omit h in
theorem alike_writeValue (v : Value) : (writeValue v).Alike like (writeValue v) :=
  .write _ (.done true)

theorem alike_default : (default.format r).Alike like (default.format r') := by
  simp only [default, ← h.value]
  rcases rel_cases h.format with ⟨hnone, hnone'⟩ | ⟨f, f', hsome, hsome', hf⟩
  · rw [hnone, hnone']
    exact alike_writeValue r.value
  · rw [hsome, hsome']
    simp only [← hf.empty, ← hf.literal]
    split
    · exact alike_writeValue r.value
    · split
      · exact alike_writeDate h hf _
      · exact (Script.alike_render hf.whole _).bind fun _ => .done true

/-- What the formatters of the library do depends on the request no more than that. -/
theorem alike_of_mem_builtIn (hf : f ∈ builtIn) : (f.format r).Alike like (f.format r') := by
  rcases mem_builtIn.mp hf with rfl | rfl | rfl | rfl
  · exact alike_list h
  · exact alike_conditional h
  · exact alike_choose h
  · exact alike_default h

end Formatter

end Stencil
