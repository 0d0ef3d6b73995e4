import Stencil.Sample
import Stencil.Proofs.Depth
import Stencil.Proofs.FailureActions
import Stencil.Proofs.Recovery
import Stencil.Proofs.Render.Shifted

/-!
# Texts laid end to end

Where braces are written by doubling them and in no other way, two texts that are templates are one
laid end to end. It is made of what both are made of, and it is rendered as both are.
-/

namespace Stencil

set_option autoImplicit false

section Reading

variable {d : Dialect} {text text₁ text₂ : String} {t t₁ t₂ : Template}

theorem issues_of_parse (hd : d.onMalformed = .fail) (h : Template.parse d text = .ok t) :
    t.issues = [] := by
  have hsame : d.withAction .fail = d := by rw [Dialect.withAction, ← hd]
  have hcases := parseReading_lenient (a := .nothing) d text (by decide)
  rw [hsame] at hcases
  rcases hcases with ⟨run, hread, -⟩ | ⟨fault, hread, -⟩ | ⟨issue, issues, outcome, hread, -⟩
  · rw [parse_of_ok hread] at h
    cases h
    rfl
  · rw [parse_of_error hread] at h
    cases h
  · rw [parse_of_error hread] at h
    cases h

/-- The pieces are those of the first followed by those of the second, `n` bytes further on, up to
where literal text is cut apart. -/
def Format.Joins (n : Nat) (f f₁ f₂ : Format) : Prop :=
  f.pieces.flatMap Piece.characters = (f₁.pieces ++ (f₂.shift n).pieces).flatMap Piece.characters

theorem Format.Joins.items {n : Nat} {f f₁ f₂ : Format} (h : f.Joins n f₁ f₂) :
    f.items.flatMap Piece.characters =
      (f₁.items ++ (f₂.shift n).items).flatMap Piece.characters := by
  have hitems (g : Format) : g.items = g.pieces.filter (!·.isElided) := rfl
  rw [Format.Joins] at h
  rw [List.flatMap_append, hitems, hitems, hitems, flatMap_characters_items,
    flatMap_characters_items, flatMap_characters_items, ← List.filter_append, h,
    List.flatMap_append]

/-- Nothing in a text that is a template depends on where the text ends. -/
theorem parse_joined (hd : d.OnlyDoubles) (h₁ : Template.parse d text₁ = .ok t₁)
    (h₂ : Template.parse d text₂ = .ok t₂) (hissues₁ : t₁.issues = []) (hissues₂ : t₂.issues = []) :
    ∃ f, Template.parse d (text₁ ++ text₂) = .ok ⟨d, f, []⟩ ∧
      f.Joins text₁.utf8ByteSize t₁.format t₂.format := by
  obtain ⟨run₁, issues₁, rfl, hread₁⟩ := parse_eq_ok_iff.mp h₁
  obtain ⟨run₂, issues₂, rfl, hread₂⟩ := parse_eq_ok_iff.mp h₂
  have hwidth : utf8Width text₁.toList = text₁.utf8ByteSize := by
    rw [← utf8ByteSize_ofList, String.ofList_toList]
  -- First the second text is read behind the first, then the first with all of that behind it.
  obtain ⟨next, hnext, hmoved⟩ := readsOn hd _ hread₂ hissues₂ (utf8Width text₁.toList)
    (.done (.inl rfl))
  rw [List.append_nil, Nat.zero_add] at hnext
  obtain ⟨run, hread, hjoined⟩ := readsOn hd _ hread₁ hissues₁ 0 (by simpa using hnext)
  rw [← String.toList_append] at hread
  refine ⟨run.toFormat 0 0, parse_eq_ok_iff.mpr ⟨run, [], rfl, hread⟩, ?_⟩
  have hsecond := hmoved.characters_eq
  have hall := hjoined.characters_eq
  have hnothing : ∀ c : Cursor, ∀ start, (⟨[], [], c⟩ : Run).piecesFrom start = [] :=
    fun _ _ => rfl
  simp only [Nat.zero_add, Nat.add_zero] at hsecond hall
  rw [hnothing, List.flatMap_nil, List.append_nil] at hsecond
  rw [Piece.shift_zero, List.map_id, hsecond] at hall
  rw [Format.Joins, List.flatMap_append, Format.pieces_shift, flatMap_characters_shift, ← hwidth]
  exact hall

end Reading

/-- The output of the second behind that of the first, and its failures `n` bytes further on. -/
def Rendered.followedBy (n : Nat) (r₁ r₂ : Rendered) : Rendered where
  output := r₁.output ++ r₂.output
  failures := r₁.failures ++ r₂.failures.map (Failure.shift n)

namespace Call

variable {c c₁ c₂ : Call} {n : Nat}

/-- After a render that was completed no call is being abandoned. -/
theorem aborting_finished (hbuiltIn : ∀ f ∈ c.formatters, f ∈ Formatter.builtIn)
    (h : c.finished.1 = .ok ()) : c.finished.2.aborting = false := by
  by_cases haction : c.settings.onFailure = .fail
  · -- The first failure would have ended the call, so there was none.
    have hsame : c.withAction .fail = c := by rw [withAction, ← haction]
    have hparting := parting_finished (a := .nothing) (by decide) hbuiltIn
    rw [hsame] at hparting
    rcases hr : c.finished with ⟨r, d⟩
    generalize (c.withAction .nothing).finished = other at hparting
    rw [hr] at h hparting
    cases hparting with
    | together _ hsettled =>
      cases h
      exact hsettled
    | parted => cases h
  · have hsettled : Settled c.finished.2 c.finished.1 :=
      contained_renderFormat haction
        (fun f hf => (Formatter.prompt_of_mem_builtIn (hbuiltIn f hf)).yields) _ c.root
        c.template.format {} rfl
    rwa [h] at hsettled

theorem SameMeans.through_renderPieces (hmeans : c₁.SameMeans c)
    (hbuiltIn : ∀ f ∈ c.formatters, f ∈ Formatter.builtIn) (before : Draft) :
    (before.behind n {}).through
        (c.renderPieces (c.nestWithin c.settings.dialect.maxDepth c.root) c.root
          (c₁.template.format.shift n).pieces) =
      (c₁.finished.1.mapError (Error.shift n), before.behind n c₁.finished.2) := by
  have hroot : c.root = c₁.root := by rw [root, root, hmeans.args]
  rw [hmeans.formatters] at hbuiltIn
  rw [finished, renderFormat_eq, hmeans.settings, hroot, Format.pieces_shift]
  exact hmeans.goesOn_renderWithin hbuiltIn _ _ _ before {}

/-- The call in which the pieces of two others are rendered does what the first does, and behind it
what the second does. -/
theorem finished_joined (hbuiltIn : ∀ f ∈ c.formatters, f ∈ Formatter.builtIn)
    (h₁ : c₁.SameMeans c) (h₂ : c₂.SameMeans c)
    (hjoins : c.template.format.Joins n c₁.template.format c₂.template.format) :
    c.finished = match c₁.finished with
      | (.error e, d) => (.error e, d)
      | (.ok _, d) => (c₂.finished.1.mapError (Error.shift n), d.behind n c₂.finished.2) := by
  have hfirst := h₁.through_renderPieces (n := 0) hbuiltIn {}
  have hsecond := h₂.through_renderPieces (n := n) hbuiltIn
  have hzero (r : Except Error Unit) : r.mapError (Error.shift 0) = r := by
    cases r with
    | ok u => rfl
    | error e => exact congrArg Except.error e.shift_zero
  rw [Format.shift_zero, Draft.behind_zero, Draft.behind_zero, hzero] at hfirst
  rw [finished, renderFormat_eq, ← renderPieces_characters, hjoins, renderPieces_characters,
    renderPieces_append]
  have haborting := aborting_finished (c := c₁) (h₁.formatters ▸ hbuiltIn)
  rcases hr : c₁.finished with ⟨e | u, d⟩ <;> rw [hr] at hfirst haborting
  · exact through_bind_error hfirst _
  · have hrest := hsecond d
    rw [Draft.behind_empty (haborting rfl)] at hrest
    rw [through_bind_ok hfirst, hrest]

theorem render_joined (hbuiltIn : ∀ f ∈ c.formatters, f ∈ Formatter.builtIn)
    (h₁ : c₁.SameMeans c) (h₂ : c₂.SameMeans c)
    (hjoins : c.template.format.Joins n c₁.template.format c₂.template.format)
    (hrecoverable : ∀ err, c₂.finished.1 = .error err → err.isRecoverable = true) :
    c.render = c₁.render.bind fun r₁ => c₂.render.map (r₁.followedBy n) := by
  rw [render_eq, render_eq, render_eq, finished_joined hbuiltIn h₁ h₂ hjoins]
  rcases c₁.finished with ⟨e | u, d⟩
  · rfl
  · rcases hr : c₂.finished with ⟨e | u, d'⟩
    · have he := hrecoverable e (by rw [hr])
      change Except.error (e.shift n) = Except.error e
      rw [Error.shift_of_recoverable he]
    · rfl

theorem exists_render (hbuiltIn : ∀ f ∈ c.formatters, f ∈ Formatter.builtIn)
    (hlayered : c.template.format.Layered c.settings.dialect.maxDepth 0)
    (haction : c.settings.onFailure ≠ .fail) : ∃ r, c.render = .ok r := by
  rcases render_contained haction fun f hf =>
    (Formatter.prompt_of_mem_builtIn (hbuiltIn f hf)).yields with hok | ⟨position, max, hdeep⟩
  · exact hok
  · rw [render_eq] at hdeep
    cases hr : c.finished.1 with
    | ok u =>
      rw [hr] at hdeep
      cases hdeep
    | error err =>
      have herr := recoverable_of_finished hbuiltIn hlayered hr
      rw [hr] at hdeep
      cases hdeep
      cases herr

end Call

theorem Engine.Reached.onlyDoubles {e : Engine} {cache : Option Cache} (he : e.Reached cache)
    (hd : e.settings.dialect.OnlyDoubles) : e.dialect.OnlyDoubles := by
  rw [he.settled.1.dialect_eq]
  exact ⟨⟨hd.usual.opening, hd.usual.closing, hd.usual.pathMark, hd.usual.alignmentMark,
    hd.usual.formatMark, hd.usual.optionsOpening, hd.usual.optionsClosing⟩, hd.escape, hd.literals⟩

/-- Where braces are doubled, nothing else escapes them, and malformed parts end the reading, texts
that can be read can be read laid end to end, as what the first is read as and, further on, what the
second is read as. The formatters of the library render them as they render the first and then the
second; the first of them to fail, if failures end the call, ends it with its error. -/
theorem format_append :
    (∀ (d : Dialect) (text₁ text₂ : String) (t₁ t₂ : Template), d.OnlyDoubles →
      d.onMalformed = .fail → Template.parse d text₁ = .ok t₁ → Template.parse d text₂ = .ok t₂ →
      ∃ t, Template.parse d (text₁ ++ text₂) = .ok t ∧ t.issues = [] ∧
        t.format.Joins text₁.utf8ByteSize t₁.format t₂.format ∧
        t.format.items.flatMap Piece.characters =
          (t₁.format.items ++ (t₂.format.shift text₁.utf8ByteSize).items).flatMap
            Piece.characters) ∧
    ∀ (e : Engine) (cache : Option Cache) (text₁ text₂ : String) (t₁ t₂ : Shared)
      (args : List Value), e.Reached cache → (∀ f ∈ e.formatters, f ∈ Formatter.builtIn) →
      e.settings.dialect.OnlyDoubles → e.settings.dialect.onMalformed = .fail →
      (e.parse cache text₁).1 = .ok t₁ → (e.parse cache text₂).1 = .ok t₂ →
      (e.format cache (text₁ ++ text₂) args).1 =
        ((e.format cache text₁ args).1.bind fun r₁ =>
          (e.format cache text₂ args).1.map (r₁.followedBy text₁.utf8ByteSize)) ∧
      (e.settings.onFailure ≠ .fail → ∃ r₁ r₂, (e.format cache text₁ args).1 = .ok r₁ ∧
        (e.format cache text₂ args).1 = .ok r₂) := by
  constructor
  · intro d text₁ text₂ t₁ t₂ hd hfail h₁ h₂
    obtain ⟨f, hread, hjoins⟩ := parse_joined hd h₁ h₂ (issues_of_parse hfail h₁)
      (issues_of_parse hfail h₂)
    exact ⟨⟨d, f, []⟩, hread, rfl, hjoins, hjoins.items⟩
  · intro e cache text₁ text₂ t₁ t₂ args he hbuiltIn hd hfail h₁ h₂
    obtain ⟨hcurrent, hsound⟩ := he.settled
    have hfail' : e.dialect.onMalformed = .fail := by
      rw [hcurrent.dialect_eq]
      exact hfail
    have hread₁ := e.template_of_parse hsound h₁
    have hread₂ := e.template_of_parse hsound h₂
    obtain ⟨f, hread, hjoins⟩ := parse_joined (he.onlyDoubles hd) hread₁ hread₂
      (issues_of_parse hfail' hread₁) (issues_of_parse hfail' hread₂)
    rw [e.format_of_parse hsound hread₁, e.format_of_parse hsound hread₂,
      e.format_of_parse hsound hread]
    constructor
    · refine Call.render_joined hbuiltIn ⟨rfl, rfl, rfl, rfl, rfl⟩ ⟨rfl, rfl, rfl, rfl, rfl⟩ hjoins
        fun err herr => ?_
      exact recoverable_of_finished hbuiltIn (Engine.layered_of_parse he h₂) herr
    · intro haction
      obtain ⟨r₁, hr₁⟩ := Call.exists_render
        (c := e.call (e.cached (e.parse cache text₁).2) t₁.template args) hbuiltIn
        (Engine.layered_of_parse he h₁) haction
      obtain ⟨r₂, hr₂⟩ := Call.exists_render
        (c := e.call (e.cached (e.parse cache text₂).2) t₂.template args) hbuiltIn
        (Engine.layered_of_parse he h₂) haction
      exact ⟨r₁, r₂, hr₁, hr₂⟩

def leavingEngine : Engine :=
  { Engine.standard ⟨0, 0⟩ with settings := { onFailure := .asWritten } }

/-- Braces that meet at the seam, and a failure on either side of it. -/
theorem format_append_seam :
    ∃ t₁ t₂ : Shared, leavingEngine.Reached none ∧
      (∀ f ∈ leavingEngine.formatters, f ∈ Formatter.builtIn) ∧
      leavingEngine.settings.dialect.OnlyDoubles ∧
      leavingEngine.settings.dialect.onMalformed = .fail ∧
      leavingEngine.settings.onFailure ≠ .fail ∧
      (leavingEngine.parse none "{a}\x7b\x7b").1 = .ok t₁ ∧
      (leavingEngine.parse none "{0}{b}").1 = .ok t₂ ∧
      (∃ t, Template.parse leavingEngine.dialect ("{a}\x7b\x7b" ++ "{0}{b}") = .ok t ∧
        t.format.Joins 5 t₁.template.format t₂.template.format) ∧
      (∃ r₁ r₂, (leavingEngine.format none "{a}\x7b\x7b" [.string "x"]).1 = .ok r₁ ∧
        (leavingEngine.format none "{0}{b}" [.string "x"]).1 = .ok r₂) ∧
      (leavingEngine.format none ("{a}\x7b\x7b" ++ "{0}{b}") [.string "x"]).1.toOption.map
        (fun r => (r.output, r.failures.map Failure.position)) = some ("{a}\x7bx{b}", [0, 8]) := by
  have hreached : leavingEngine.Reached none := .of_kept_eq_none rfl
  have hbuiltIn : ∀ f ∈ leavingEngine.formatters, f ∈ Formatter.builtIn := fun f hf => hf
  have hd : leavingEngine.settings.dialect.OnlyDoubles :=
    ⟨⟨rfl, rfl, rfl, rfl, rfl, rfl, rfl⟩, rfl, rfl⟩
  have haction : leavingEngine.settings.onFailure ≠ .fail := by decide
  have hread (text : String) (h : (Template.parse leavingEngine.dialect text).toOption.any
      (fun _ => true) = true) : ∃ t, (leavingEngine.parse none text).1 = .ok t ∧
        Template.parse leavingEngine.dialect text = .ok t.template := by
    obtain ⟨t, ht, -⟩ := exists_parse_of_any h
    obtain ⟨shared, hshared, rfl⟩ := leavingEngine.exists_shared_of_parse hreached.settled.2 ht
    exact ⟨shared, hshared, ht⟩
  obtain ⟨t₁, h₁, hparse₁⟩ := hread "{a}\x7b\x7b" (by decide +kernel)
  obtain ⟨t₂, h₂, hparse₂⟩ := hread "{0}{b}" (by decide +kernel)
  obtain ⟨t, ht, -, hjoins, -⟩ := format_append.1 _ _ _ _ _ (hreached.onlyDoubles hd) rfl hparse₁
    hparse₂
  obtain ⟨hformat, hrendered⟩ := format_append.2 leavingEngine none _ _ t₁ t₂ [.string "x"] hreached
    hbuiltIn hd rfl h₁ h₂
  refine ⟨t₁, t₂, hreached, hbuiltIn, hd, rfl, haction, h₁, h₂, ⟨t, ht, hjoins⟩,
    hrendered haction, ?_⟩
  rw [hformat]
  decide +kernel

end Stencil
