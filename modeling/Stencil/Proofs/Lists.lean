import Stencil.Proofs.Choices
import Stencil.Proofs.Dispatch
import Stencil.Proofs.Render.Added

/-!
# What a list is rendered as

The items of an array are rendered one after the other through the first section, and before each
but the first a spacer with that item as its scope, if there is one. Only the first four sections
are ever rendered. What all of these write, end to end, is the text of the placeholder before it is
aligned, and the failures in it are recorded in that order.
-/

namespace Stencil

set_option autoImplicit false

namespace Formatter

/-- The section before item `i` of `n`, if any, where the sections are `q`. -/
def spacing (q : List Format) (n i : Nat) : Option Format :=
  if i = 0 then none
  else if n = 2 then q[3]?.or (q[2]?.or q[1]?)
  else if i + 1 = n then q[2]?.or q[1]?
  else q[1]?

/-- What is rendered for item `i` of `n`. -/
def turn (q : List Format) (n i : Nat) : List Format := (spacing q n i).toList ++ q[0]?.toList

/-- What is rendered for all items in order, each section with the value it is rendered for. -/
def turns (q : List Format) (items : List Value) : List (Format × Value) :=
  items.zipIdx.flatMap fun (v, i) => (turn q items.length i).map (·, v)

section Sections

variable {q : List Format} {n i : Nat} {f : Format}

theorem spacer_eq_spacing (s : Sections) (n i : Nat) : spacer s n i = spacing s.toList n i := rfl

theorem mem_take_of_getElem? {k : Nat} (h : q[i]? = some f) (hi : i < k) : f ∈ q.take k :=
  List.mem_of_getElem? (by rw [List.getElem?_take, if_pos hi, h])

theorem spacing_mem (h : spacing q n i = some f) : f ∈ q.take 4 := by
  unfold spacing at h
  grind [mem_take_of_getElem?, Option.or_eq_some_iff]

theorem turns_mem {items : List Value} {job : Format × Value} (h : job ∈ turns q items) :
    job.1 ∈ q.take 4 ∧ job.2 ∈ items := by
  obtain ⟨⟨v, i⟩, hv, hjob⟩ := List.mem_flatMap.mp h
  obtain ⟨f, hf, rfl⟩ := List.mem_map.mp hjob
  refine ⟨?_, List.fst_mem_of_mem_zipIdx hv⟩
  rcases List.mem_append.mp hf with hf | hf
  · exact spacing_mem (Option.mem_toList.mp hf)
  · exact mem_take_of_getElem? (Option.mem_toList.mp hf) (by decide)

end Sections

end Formatter

/-- Rendering formats one after the other succeeds and adds `parts` to the draft, one for each. -/
inductive InTurn (nest : Format → Value → RenderM Unit) :
    Draft → List (Format × Value) → List Draft → Draft → Prop
  | done (d : Draft) : InTurn nest d [] [] d
  | next {d d' part : Draft} {f : Format} {v : Value} {jobs : List (Format × Value)}
      {parts : List Draft} (h : d.through (nest f v) = (.ok (), d.add part))
      (hlater : InTurn nest (d.add part) jobs parts d') :
      InTurn nest d ((f, v) :: jobs) (part :: parts) d'

section Rendering

variable {nest : Format → Value → RenderM Unit} {d d' : Draft} {jobs later : List (Format × Value)}
  {parts : List Draft}

theorem InTurn.out_eq (h : InTurn nest d jobs parts d') :
    d'.out = d.out ++ String.join (parts.map Draft.out) := by
  induction h with
  | done d => simp
  | next _ _ ih => rw [ih]; simp [Draft.add, String.append_assoc]

theorem InTurn.failures_eq (h : InTurn nest d jobs parts d') :
    d'.failures = d.failures ++ parts.flatMap Draft.failures := by
  induction h with
  | done d => simp
  | next _ _ ih => rw [ih]; simp [Draft.add]

theorem InTurn.of_append (h : InTurn nest d (jobs ++ later) parts d') :
    ∃ parts₁ d₁ parts₂, InTurn nest d jobs parts₁ d₁ ∧ InTurn nest d₁ later parts₂ d' ∧
      parts = parts₁ ++ parts₂ := by
  induction jobs generalizing d parts with
  | nil => exact ⟨[], d, parts, .done d, h, rfl⟩
  | cons job jobs ih =>
    cases h with
    | next hfirst hrest =>
      obtain ⟨parts₁, d₁, parts₂, h₁, h₂, rfl⟩ := ih hrest
      exact ⟨_ :: parts₁, d₁, parts₂, .next hfirst h₁, h₂, rfl⟩

theorem through_render_bind {α : Type} {f : Format} {v : Value} {next : Unit → Script α}
    (h : d.through (nest f v) = (.ok (), d')) :
    d.through ((Script.render f v >>= next).run nest) = d'.through ((next ()).run nest) := by
  change d.through ((Script.nested f v _).run nest) = _
  rw [through_run_nested, h]
  rfl

theorem Formatter.through_renderItems {α : Type} {s : Sections} {n i : Nat} {items : List Value}
    (h : InTurn nest d
      ((items.zipIdx i).flatMap fun (v, i) => (turn s.toList n i).map (·, v)) parts d')
    (next : Unit → Script α) :
    d.through ((renderItems s n i items >>= next).run nest) = d'.through ((next ()).run nest) := by
  induction items generalizing i d parts with
  | nil =>
    cases h
    rfl
  | cons v items ih =>
    rw [List.zipIdx_cons, List.flatMap_cons] at h
    obtain ⟨parts₁, d₁, parts₂, hturn, hlater, -⟩ := h.of_append
    have hrest (spaced : Draft) (hitem : spaced.through (nest s.first v) = (.ok (), d₁)) :
        spaced.through ((Script.render s.first v >>= fun _ => renderItems s n (i + 1) items >>=
          next).run nest) = d'.through ((next ()).run nest) := by
      rw [through_render_bind hitem]
      exact ih hlater
    change InTurn nest d (((spacing s.toList n i).toList ++ [s.first]).map (·, v)) parts₁ d₁
      at hturn
    unfold renderItems
    rw [spacer_eq_spacing]
    cases hspacing : spacing s.toList n i with
    | none =>
      rw [hspacing] at hturn
      cases hturn with
      | next hitem hdone =>
        cases hdone
        simpa using hrest d hitem
    | some f =>
      rw [hspacing] at hturn
      cases hturn with
      | next hspacer hdone =>
        cases hdone with
        | next hitem hdone =>
          cases hdone
          simp only [bind_assoc]
          rw [through_render_bind hspacer]
          exact hrest _ hitem

theorem Formatter.list_format_eq {r : Request} {f : Format} {items : List Value}
    (hvalue : r.value = .array items) (hformat : r.format? = some f)
    (hclaims : list.format r ≠ .done false) :
    list.format r =
      renderItems (f.split sectionMark) items.length 0 items >>= fun _ => pure true := by
  unfold list at hclaims ⊢
  simp only [hvalue, hformat] at hclaims ⊢
  split at hclaims
  · exact absurd rfl hclaims
  · rename_i hcount
    rw [if_neg hcount]

end Rendering

namespace Call

section Placeholder

variable {c : Call} {nest : Format → Value → RenderM Unit} {s : Scope} {p : Placeholder}
  {f : Format} {items : List Value} {d d' : Draft} {parts : List Draft}

theorem through_renderPlaceholder_list (hgrows : ∀ g v, Grows (nest g v))
    (hresolve : c.resolve s p = .ok (.array items)) (hformat : p.format = some f)
    (hclaimed : c.ClaimedBy nest { d with out := "" } p (.array items) .list)
    (h : InTurn nest { d with out := "" }
      (Formatter.turns (f.split sectionMark).toList items) parts d') :
    d.through (c.renderPlaceholder nest s p) =
      (.ok (), ⟨d.out ++ align p.alignment (String.join (parts.map Draft.out)),
        d.failures ++ parts.flatMap Draft.failures, d'.aborting⟩) := by
  have hclaims : Formatter.list.format (c.request p (.array items)) ≠ .done false := by
    obtain ⟨before, after, -, -, hnot⟩ := hclaimed
    intro hdeclines
    apply hnot
    exact (declinedBy_iff (Formatter.mem_builtIn.mpr (.inl rfl))).mpr hdeclines
  have hlist : Draft.through { d with out := "" } (c.carryOut nest p (.array items) .list) =
      (.ok true, d') := by
    rw [carryOut, Formatter.list_format_eq (r := c.request p (.array items)) rfl hformat hclaims]
    exact Formatter.through_renderItems h _
  have hattempt : Draft.through { d with out := "" } (c.attempt nest s p) = (.ok (), d') := by
    rw [attempt, hresolve]
    exact through_dispatch_claimed hgrows hclaimed hlist
  rw [c.through_renderPlaceholder nest s p hattempt, conclude, through_modify, h.out_eq]
  simp [Draft.write, h.failures_eq]

/-- With the formatters of the library, what is rendered in turn adds what it does alone. -/
theorem inTurn_alone (hbuiltIn : ∀ g ∈ c.formatters, g ∈ Formatter.builtIn) {levels : Nat}
    {jobs : List (Format × Value)} (hd : d.aborting = false)
    (hok : ∀ job ∈ jobs, (c.alone levels s p job.1 job.2).1 = .ok ()) :
    ∃ d', d'.aborting = false ∧ InTurn (c.nestWithin levels s p) d jobs
      (jobs.map fun job => (c.alone levels s p job.1 job.2).2) d' := by
  induction jobs generalizing d with
  | nil => exact ⟨d, hd, .done d⟩
  | cons job jobs ih =>
    obtain ⟨hfirst, hlater⟩ := List.forall_mem_cons.mp hok
    have hstep := through_nestWithin_alone hbuiltIn hd levels s p job.1 job.2
    rw [hfirst] at hstep
    have hgoes := goesWell_nestWithin hbuiltIn levels s p job.1 job.2 d _ () hd hstep
    obtain ⟨d', hd', hrest⟩ := ih hgoes hlater
    exact ⟨d', hd', .next hstep hrest⟩

end Placeholder

end Call

/-- The text of a placeholder that is rendered as a list is what is rendered for its items in turn,
end to end: the first section for each item, and before it, but for the first item, the spacer for
its place. The failures that are replaced in it are recorded in the same order. -/
theorem renderPlaceholder_list {c : Call} {levels : Nat} {s : Scope} {p : Placeholder} {f : Format}
    {items : List Value} {d : Draft} (hresolve : c.resolve s p = .ok (.array items))
    (hformat : p.format = some f)
    (hclaimed : c.ClaimedBy (c.nestWithin levels s p) { d with out := "" } p (.array items) .list) :
    let sections := (f.split sectionMark).toList
    let jobs := Formatter.turns sections items
    (∀ job ∈ jobs, job.1 ∈ sections.take 4 ∧ job.2 ∈ items) ∧
    (∀ parts d', InTurn (c.nestWithin levels s p) { d with out := "" } jobs parts d' →
      d.through (c.renderPlaceholder (c.nestWithin levels s p) s p) =
        (.ok (), ⟨d.out ++ align p.alignment (String.join (parts.map Draft.out)),
          d.failures ++ parts.flatMap Draft.failures, d'.aborting⟩)) ∧
    ((∀ g ∈ c.formatters, g ∈ Formatter.builtIn) → d.aborting = false →
      (∀ job ∈ jobs, (c.alone levels s p job.1 job.2).1 = .ok ()) →
      d.through (c.renderPlaceholder (c.nestWithin levels s p) s p) =
        (.ok (), ⟨d.out ++ align p.alignment
            (String.join (jobs.map fun job => (c.alone levels s p job.1 job.2).2.out)),
          d.failures ++ jobs.flatMap fun job => (c.alone levels s p job.1 job.2).2.failures,
          false⟩)) := by
  intro sections jobs
  have hgrows := c.grows_nestWithin levels s p
  refine ⟨fun job => Formatter.turns_mem, fun parts d' h =>
    Call.through_renderPlaceholder_list hgrows hresolve hformat hclaimed h, ?_⟩
  intro hbuiltIn hd hok
  obtain ⟨d', hd', h⟩ := Call.inTurn_alone hbuiltIn (d := { d with out := "" }) hd hok
  rw [Call.through_renderPlaceholder_list hgrows hresolve hformat hclaimed h, hd', List.map_map,
    List.flatMap_map]
  rfl

/-- Three items, the second of which has no `x`: its placeholder is left out and put on record, and
the spacers before and behind it are written all the same. -/
theorem renderPlaceholder_list_three :
    let e := (Engine.standard ⟨0, 0⟩).changeSettings fun s => { s with onFailure := .nothing }
    let items := [.object [("x", .number (.integer 1))], .bool true,
      .object [("x", .number (.integer 3))]]
    let c (t : Template) := e.call none t [.array items]
    ∃ t p f parts d', Template.parse e.dialect "{0,12:{x}|, | and |+|-}" = .ok t ∧
      t.format.placeholders = [p] ∧ p.format = some f ∧
      (c t).resolve (c t).root p = .ok (.array items) ∧
      (c t).ClaimedBy ((c t).nestWithin 5 (c t).root p) {} p (.array items) .list ∧
      (∀ job ∈ Formatter.turns (f.split sectionMark).toList items,
        job.1 ∈ (f.split sectionMark).toList.take 4 ∧ job.2 ∈ items) ∧
      InTurn ((c t).nestWithin 5 (c t).root p) {}
        (Formatter.turns (f.split sectionMark).toList items) parts d' ∧
      ({} : Draft).through
          ((c t).renderPlaceholder ((c t).nestWithin 5 (c t).root p) (c t).root p) =
        (.ok (), ⟨"" ++ align 12 (String.join (parts.map Draft.out)),
          [] ++ parts.flatMap Draft.failures, d'.aborting⟩) ∧
      (({} : Draft).through
        ((c t).renderPlaceholder ((c t).nestWithin 5 (c t).root p) (c t).root p)).2.out =
          "   1,  and 3" := by
  intro e items c
  have hany : (Template.parse e.dialect "{0,12:{x}|, | and |+|-}").toOption.any (fun t =>
      t.format.placeholders.map (fun p => (p.path, p.name, p.alignment)) == [(["0"], "", 12)] &&
      t.format.placeholders.all fun p => p.format.any fun f =>
        let jobs := Formatter.turns (f.split sectionMark).toList items
        (f.split sectionMark).count == 5 &&
        (jobs.all fun job => ((c t).alone 5 (c t).root p job.1 job.2).1.toOption == some ()) &&
        align 12 (String.join (jobs.map fun job =>
          ((c t).alone 5 (c t).root p job.1 job.2).2.out)) == "   1,  and 3") = true := by
    decide +kernel
  obtain ⟨t, hparse, hchecked⟩ := exists_parse_of_any hany
  rw [Bool.and_eq_true, beq_iff_eq] at hchecked
  obtain ⟨hfields, hchecked⟩ := hchecked
  obtain ⟨p, _, hplaceholders, hfirst, hnil⟩ := List.map_eq_cons_iff.mp hfields
  obtain rfl := List.map_eq_nil_iff.mp hnil
  simp only [Prod.mk.injEq] at hfirst
  obtain ⟨hpath, hname, halignment⟩ := hfirst
  rw [hplaceholders, List.all_cons, List.all_nil, Bool.and_true, Option.any_eq_true] at hchecked
  obtain ⟨f, hformat, hchecked⟩ := hchecked
  simp only [Bool.and_eq_true, beq_iff_eq, List.all_eq_true] at hchecked
  obtain ⟨⟨hcount, hok⟩, htext⟩ := hchecked
  have hresolve : (c t).resolve (c t).root p = .ok (.array items) :=
    Call.resolve_first rfl rfl hpath
  have hsections : p.sectionCount = 5 := by
    rw [Placeholder.sectionCount, hformat]
    exact hcount
  have hclaimed : (c t).ClaimedBy ((c t).nestWithin 5 (c t).root p) {} p (.array items) .list := by
    have hunnamed : (c t).ClaimedBy ((c t).nestWithin 5 (c t).root p) {} p (.array items)
        (Formatter.unnamed (.array items) p.sectionCount) := Call.claimedBy_unnamed rfl hname
    rwa [hsections] at hunnamed
  have hbuiltIn : ∀ g ∈ (c t).formatters, g ∈ Formatter.builtIn := fun g hg => hg
  have hrendered : ∀ job ∈ Formatter.turns (f.split sectionMark).toList items,
      ((c t).alone 5 (c t).root p job.1 job.2).1 = .ok () := by
    intro job hjob
    have hjob := hok job hjob
    cases hr : ((c t).alone 5 (c t).root p job.1 job.2).1 with
    | ok u => rfl
    | error err =>
      rw [hr] at hjob
      cases hjob
  obtain ⟨d', -, hturn⟩ := Call.inTurn_alone (d := {}) hbuiltIn rfl hrendered
  obtain ⟨hmem, hinTurn, halone⟩ := renderPlaceholder_list (d := {}) hresolve hformat hclaimed
  have hthrough := hinTurn _ _ hturn
  have houtcome := halone hbuiltIn rfl hrendered
  rw [halignment] at hthrough houtcome
  refine ⟨t, p, f, _, d', hparse, hplaceholders, hformat, hresolve, hclaimed, hmem, hturn,
    hthrough, ?_⟩
  rw [houtcome, htext]
  rfl

end Stencil
