import Stencil.Proofs.FailureActions
import Stencil.Proofs.Reading.Written
import Stencil.Proofs.Render.Reports
import Stencil.Proofs.Template.Sections
import Stencil.Proofs.Text.AsciiCase
import Stencil.Proofs.WellFormed

/-!
# Which formatter takes a value

Of the formatters of the library one at most answers to a name, and it may decline. Where no name is
given three of them are asked, the last of which never declines. So a value is left unwritten only
under a name, and only if the name is that of no formatter, or the formatter of that name cannot do
with the value or needs sections that are missing.
-/

namespace Stencil

set_option autoImplicit false

/-- The number of sections of the nested format; none if there is no such format. -/
def Placeholder.sectionCount (p : Placeholder) : Nat :=
  match p.format with
  | none => 0
  | some f => (f.split sectionMark).count

namespace Formatter

/-- The formatter that takes a value where none is named. -/
def unnamed (v : Value) (sections : Nat) : Formatter :=
  if 2 ≤ sections then if v.isArray then list else conditional else default

section Declining

variable {r : Request}

theorem Direct.ne_declined {s : Script Bool} (h : s.Direct (· = true)) : s ≠ .done false := by
  rintro rfl
  cases h

theorem list_declines_iff : list.format r = .done false ↔
    r.value.isArray = false ∨ r.format? = none ∨ r.name = "" ∧ r.placeholder.sectionCount < 2 := by
  unfold list
  simp only
  split
  · rename_i items f hvalue hformat
    have hcount : r.placeholder.sectionCount = (f.split sectionMark).count := by
      rw [Placeholder.sectionCount, show r.placeholder.format = some f from hformat]
    rw [hvalue, hformat, hcount]
    split
    · rename_i h
      exact iff_of_true rfl (.inr (.inr h))
    · rename_i h
      refine iff_of_false ?_ (by simpa [Value.isArray] using h)
      exact Direct.ne_declined ((direct_renderItems _ _ _ _).bind fun _ _ => rfl)
  · rename_i hother
    refine iff_of_true rfl ?_
    cases hformat : r.format? with
    | none => exact .inr (.inl rfl)
    | some f =>
      left
      cases hvalue : r.value with
      | array items => exact absurd hformat (hother items f hvalue)
      | _ => rfl

theorem conditional_declines_iff : conditional.format r = .done false ↔
    r.format? = none ∨ r.name = "" ∧ r.placeholder.sectionCount < 2 := by
  unfold conditional
  simp only
  split
  · rename_i hformat
    exact iff_of_true rfl (.inl hformat)
  · rename_i f hformat
    have hcount : r.placeholder.sectionCount = (f.split sectionMark).count := by
      rw [Placeholder.sectionCount, show r.placeholder.format = some f from hformat]
    rw [hformat, hcount]
    split
    · rename_i h
      exact iff_of_true rfl (.inr h)
    · rename_i h
      refine iff_of_false (Direct.ne_declined ?_) (by simpa using h)
      split
      · split
        · exact (Script.direct_render _ _).bind fun _ _ => rfl
        · exact rfl
      · exact (Script.direct_render _ _).bind fun _ _ => rfl

end Declining

section Names

variable {f : Formatter} {s : CaseSensitivity} {name : String}

theorem answersTo_iff (hname : name ≠ "") :
    f.answersTo s name = true ↔ ∃ own ∈ f.names, own ≠ "" ∧ s.agrees own name = true := by
  simp [answersTo, hname]

/-- No name of one formatter of the library agrees with a name of another. -/
theorem names_apart (s : CaseSensitivity) : builtIn.Pairwise fun f g =>
    ∀ own ∈ f.names, ∀ own' ∈ g.names, own ≠ "" → own' ≠ "" → s.agrees own own' = false := by
  cases s <;> decide

theorem filter_builtIn_named (s : CaseSensitivity) (hname : name ≠ "") :
    builtIn.filter (·.answersTo s name) = [] ∨
      ∃ f ∈ builtIn, builtIn.filter (·.answersTo s name) = [f] := by
  have hnone : (builtIn.filter (·.answersTo s name)).Pairwise fun _ _ => False := by
    refine ((names_apart s).filter (·.answersTo s name)).imp_of_mem fun {f g} hf hg hapart => ?_
    obtain ⟨own, hown, hne, hagrees⟩ := (answersTo_iff hname).mp (List.mem_filter.mp hf).2
    obtain ⟨own', hown', hne', hagrees'⟩ := (answersTo_iff hname).mp (List.mem_filter.mp hg).2
    have hdiffer := hapart own hown own' hown' hne hne'
    rw [CaseSensitivity.agrees_of_agrees hagrees hagrees'] at hdiffer
    cases hdiffer
  have hsub : builtIn.filter (·.answersTo s name) ⊆ builtIn := List.filter_sublist.subset
  generalize builtIn.filter (·.answersTo s name) = fs at hnone hsub
  match fs with
  | [] => exact .inl rfl
  | [f] => exact .inr ⟨f, hsub List.mem_cons_self, rfl⟩
  | f :: g :: fs => exact ((List.pairwise_cons.mp hnone).1 g List.mem_cons_self).elim

theorem filter_builtIn_unnamed (s : CaseSensitivity) :
    builtIn.filter (·.answersTo s "") = [list, conditional, default] := rfl

end Names

end Formatter

namespace Call

/-- The placeholder has a name, under which no formatter of the library takes the value. -/
def Untaken (c : Call) (p : Placeholder) (v : Value) : Prop :=
  p.name ≠ "" ∧
    ((∀ f ∈ Formatter.builtIn, f.answersTo c.settings.caseSensitivity p.name = false) ∨
      Formatter.list.answersTo c.settings.caseSensitivity p.name = true ∧
        (v.isArray = false ∨ p.format = none) ∨
      Formatter.conditional.answersTo c.settings.caseSensitivity p.name = true ∧ p.format = none)

section Claims

variable {c : Call} {nest : Format → Value → RenderM Unit} {d : Draft} {p : Placeholder} {v : Value}
  {f : Formatter}

theorem declinedBy_iff (hf : f ∈ Formatter.builtIn) :
    c.DeclinedBy nest d p v f ↔ f.format (c.request p v) = .done false := by
  constructor
  · intro h
    rcases hr : d.through (c.carryOut nest p v f) with ⟨r, d'⟩
    rw [DeclinedBy, hr] at h
    obtain rfl : r = .ok false := h
    rcases Formatter.prompt_of_mem_builtIn hf (c.request p v) with hdeclines | hdirect
    · exact hdeclines
    · cases hdirect.allowed_of_run hr
  · intro h
    rw [DeclinedBy, carryOut, h]
    rfl

theorem declinedBy_list_iff : c.DeclinedBy nest d p v .list ↔
    v.isArray = false ∨ p.format = none ∨ p.name = "" ∧ p.sectionCount < 2 :=
  (declinedBy_iff (Formatter.mem_builtIn.mpr (.inl rfl))).trans Formatter.list_declines_iff

theorem declinedBy_conditional_iff :
    c.DeclinedBy nest d p v .conditional ↔ p.format = none ∨ p.name = "" ∧ p.sectionCount < 2 :=
  (declinedBy_iff (Formatter.mem_builtIn.mpr (.inr (.inl rfl)))).trans
    Formatter.conditional_declines_iff

theorem not_declinedBy_choose : ¬c.DeclinedBy nest d p v .choose := by
  rw [declinedBy_iff (Formatter.mem_builtIn.mpr (.inr (.inr (.inl rfl))))]
  exact Formatter.Direct.ne_declined (Formatter.direct_choose _)

theorem not_declinedBy_default : ¬c.DeclinedBy nest d p v .default := by
  rw [declinedBy_iff (Formatter.mem_builtIn.mpr (.inr (.inr (.inr rfl))))]
  exact Formatter.Direct.ne_declined (Formatter.direct_default _)

variable (hformatters : c.formatters = Formatter.builtIn)
include hformatters

theorem asked_unnamed (hname : p.name = "") : c.asked p = [.list, .conditional, .default] := by
  rw [asked, hformatters, hname, Formatter.filter_builtIn_unnamed]

theorem asked_named (hname : p.name ≠ "") :
    c.asked p = [] ∨ ∃ f ∈ Formatter.builtIn, c.asked p = [f] := by
  rw [asked, hformatters]
  exact Formatter.filter_builtIn_named _ hname

theorem eq_of_mem_asked {g : Formatter} (hname : p.name ≠ "") (hf : f ∈ c.asked p)
    (hg : g ∈ c.asked p) : f = g := by
  rcases asked_named hformatters hname with hnone | ⟨taker, -, hone⟩
  · rw [hnone] at hf
    cases hf
  · rw [hone, List.mem_singleton] at hf hg
    rw [hf, hg]

theorem mem_asked_iff : f ∈ c.asked p ↔
    f ∈ Formatter.builtIn ∧ f.answersTo c.settings.caseSensitivity p.name = true := by
  rw [asked, hformatters, List.mem_filter]

theorem claimedBy_unnamed (hname : p.name = "") :
    c.ClaimedBy nest d p v (Formatter.unnamed v p.sectionCount) := by
  have hasked := asked_unnamed hformatters hname
  have hnone : p.format = none → p.sectionCount < 2 := by
    intro h
    simp [Placeholder.sectionCount, h]
  have hlist : c.DeclinedBy nest d p v .list ↔ v.isArray = false ∨ p.sectionCount < 2 := by
    rw [declinedBy_list_iff]
    grind
  have hconditional : c.DeclinedBy nest d p v .conditional ↔ p.sectionCount < 2 := by
    rw [declinedBy_conditional_iff]
    grind
  unfold Formatter.unnamed
  split
  · rename_i hcount
    split
    · rename_i harray
      refine ⟨[], _, hasked, List.forall_mem_nil _, ?_⟩
      rw [hlist, harray, not_or]
      exact ⟨by decide, by omega⟩
    · rename_i harray
      refine ⟨[.list], _, hasked, List.forall_mem_singleton.mpr ?_, ?_⟩
      · exact hlist.mpr (.inl (Bool.not_eq_true _ ▸ harray))
      · rw [hconditional]
        omega
  · rename_i hcount
    have hfew := Nat.lt_of_not_le hcount
    refine ⟨[.list, .conditional], _, hasked, ?_, not_declinedBy_default⟩
    simp only [List.forall_mem_cons, hlist, hconditional]
    exact ⟨.inr hfew, hfew, List.forall_mem_nil _⟩

theorem declined_all_iff :
    (∀ f ∈ c.asked p, c.DeclinedBy nest d p v f) ↔ c.Untaken p v := by
  by_cases hname : p.name = ""
  · refine iff_of_false (fun hall => ?_) fun h => h.1 hname
    have hmem : Formatter.default ∈ c.asked p := by simp [asked_unnamed hformatters hname]
    exact not_declinedBy_default (hall _ hmem)
  have hlist : c.DeclinedBy nest d p v .list ↔ v.isArray = false ∨ p.format = none := by
    simp [declinedBy_list_iff, hname]
  have hconditional : c.DeclinedBy nest d p v .conditional ↔ p.format = none := by
    simp [declinedBy_conditional_iff, hname]
  constructor
  · intro hall
    refine ⟨hname, ?_⟩
    rcases asked_named hformatters hname with hnone | ⟨f, hf, hone⟩
    · left
      intro f hf
      have hnot : ¬f ∈ c.asked p := by simp [hnone]
      simpa [mem_asked_iff hformatters, hf] using hnot
    · right
      have hmem : f ∈ c.asked p := by simp [hone]
      have hanswers := ((mem_asked_iff hformatters).mp hmem).2
      have hdeclined := hall f hmem
      rcases Formatter.mem_builtIn.mp hf with rfl | rfl | rfl | rfl
      · exact .inl ⟨hanswers, hlist.mp hdeclined⟩
      · exact .inr ⟨hanswers, hconditional.mp hdeclined⟩
      · exact absurd hdeclined not_declinedBy_choose
      · exact absurd hdeclined not_declinedBy_default
  · rintro ⟨-, hcases⟩ f hf
    rcases hcases with hnone | ⟨hanswers, hcannot⟩ | ⟨hanswers, hformat⟩
    · obtain ⟨hmem, hanswers⟩ := (mem_asked_iff hformatters).mp hf
      rw [hnone f hmem] at hanswers
      cases hanswers
    · have hmem : Formatter.list ∈ Formatter.builtIn := Formatter.mem_builtIn.mpr (.inl rfl)
      have hlisted := (mem_asked_iff hformatters).mpr ⟨hmem, hanswers⟩
      exact eq_of_mem_asked hformatters hname hlisted hf ▸ hlist.mpr hcannot
    · have hmem : Formatter.conditional ∈ Formatter.builtIn :=
        Formatter.mem_builtIn.mpr (.inr (.inl rfl))
      have hlisted := (mem_asked_iff hformatters).mpr ⟨hmem, hanswers⟩
      exact eq_of_mem_asked hformatters hname hlisted hf ▸ hconditional.mpr hformat

end Claims

end Call

/-- If the error is that no formatter takes a value, `blamed` holds of the placeholder's text and
name. -/
def Error.Blames (blamed : String → String → Prop) (e : Error) : Prop :=
  ∀ raw name, e = .unformatted raw (.noFormatter name) → blamed raw name

section Nesting

variable {P : Placeholder → Prop} {f g : Format} {p : Placeholder} {separator : Char}

theorem Format.Every.split (h : f.Every P) (hg : g ∈ (f.split separator).toList) : g.Every P :=
  Format.every_iff.mpr fun p hp =>
    Format.every_iff.mp h p (placeholders_subset_of_mem_split hg hp)

theorem Format.Every.nested (h : f.Every P) (hp : p ∈ f.placeholders)
    (hformat : p.format = some g) : g.Every P :=
  (Format.every_iff.mp h p hp).2 g hformat

/-- The formats that are nested in a placeholder at any depth lie between its braces. -/
theorem inside_of_within {d : Dialect} {text : String} {t : Template}
    (h : Template.parse d text = .ok t) (hf : t.format.Within f) (hp : p ∈ f.placeholders)
    (hformat : p.format = some g) {k : Format} (hk : g.Within k) :
    t.format.Within k ∧ p.start < k.start ∧ k.stop < p.stop := by
  induction hk with
  | self =>
    have hformed := (readAt_of_within h hf).wellFormed.placeholders p hp
    obtain ⟨-, hstart, hstop⟩ := hformed.nested g hformat
    exact ⟨.nested hf hp hformat, hstart, hstop⟩
  | @nested k l q _ hq hnested ih =>
    obtain ⟨hwithin, hstart, hstop⟩ := ih
    have hread := readAt_of_within h hwithin
    obtain ⟨-, hstart', hstop'⟩ := (hread.wellFormed.placeholders q hq).nested l hnested
    have hle : k.start ≤ q.start := hread.consecutive.le_start (mem_placeholders.mp hq)
    have hle' : q.stop ≤ k.stop := k.stop_eq ▸ hread.consecutive.stop_le (mem_placeholders.mp hq)
    exact ⟨.nested hwithin hq hnested, by omega, by omega⟩

/-- The placeholders in a placeholder are shorter than it. -/
theorem every_shorter {d : Dialect} {text : String} {t : Template}
    (h : Template.parse d text = .ok t) (hf : t.format.Within f) (hp : p ∈ f.placeholders)
    (hformat : p.format = some g) : g.Every (·.raw.utf8ByteSize < p.raw.utf8ByteSize) := by
  intro k hk q hq
  obtain ⟨hwithin, hstart, hstop⟩ := inside_of_within h hf hp hformat hk
  have hread := readAt_of_within h hwithin
  have hle : k.start ≤ q.start := hread.consecutive.le_start (mem_placeholders.mp hq)
  have hle' : q.stop ≤ k.stop := k.stop_eq ▸ hread.consecutive.stop_le (mem_placeholders.mp hq)
  unfold Placeholder.stop at hstop hle'
  omega

end Nesting

section Reporting

variable {c : Call} {blamed : String → String → Prop} {s : Scope} {p : Placeholder} {v : Value}
  {nest : Format → Value → RenderM Unit}

/-- If no formatter takes the value, that can be blamed on the placeholder. -/
def Call.Blamable (c : Call) (blamed : String → String → Prop) (p : Placeholder) : Prop :=
  ∀ v, c.Untaken p v → blamed p.raw p.name

namespace Call

variable (hformatters : c.formatters = Formatter.builtIn)
include hformatters

theorem reports_carryOut
    (hnest : ∀ g v, g.Every (c.Blamable blamed) → Reports (Error.Blames blamed) (nest g v))
    (hnested : ∀ g, p.format = some g → g.Every (c.Blamable blamed)) {f : Formatter}
    (hf : f ∈ c.asked p) : Reports (Error.Blames blamed) (c.carryOut nest p v f) := by
  have hbuiltIn := ((mem_asked_iff hformatters).mp hf).1
  refine (Formatter.within_of_complaints (fun g hformat => ?_) ?_ hbuiltIn).reports hnest
  · have hg := hnested g hformat
    exact ⟨hg, fun g' hg' => hg.split hg'⟩
  · rintro cause hcause raw name heq
    cases heq
    exact absurd rfl (hcause name)

theorem reports_builtIn {nest : Placeholder → Format → Value → RenderM Unit}
    (hgrows : ∀ p g v, Grows (nest p g v))
    (hnest : ∀ p g v, g.Every (c.Blamable blamed) → Reports (Error.Blames blamed) (nest p g v))
    {f : Format} (hf : f.Every (c.Blamable blamed)) :
    Reports (Error.Blames blamed) (c.renderPieces nest s f.pieces) := by
  refine reports_renderPieces fun p hp => ?_
  have hmem := mem_placeholders.mpr hp
  refine reports_attempt (fun v => ?_) fun selector raw name h => by cases h
  refine reports_dispatch (hgrows p) (fun g hg => ?_) fun d hdeclined => ?_
  · exact reports_carryOut hformatters (hnest p) (fun g hformat => hf.nested hmem hformat) hg
  · rintro raw name heq
    cases heq
    exact hf f .self p hmem v ((declined_all_iff hformatters).mp hdeclined)

theorem reports_nestWithin (levels : Nat) (s : Scope) (p : Placeholder) {g : Format} (v : Value)
    (hg : g.Every (c.Blamable blamed)) :
    Reports (Error.Blames blamed) (c.nestWithin levels s p g v) := by
  induction levels generalizing s p g v with
  | zero => exact reports_abandon fun raw name h => by cases h
  | succ levels ih =>
    rw [nestWithin, renderFormat_eq]
    exact reports_builtIn hformatters (fun p g v => c.grows_nestWithin levels _ p g v)
      (fun p g v hg => ih _ p v hg) hg

theorem reports_renderFormat (levels : Nat) (s : Scope) {f : Format}
    (hf : f.Every (c.Blamable blamed)) :
    Reports (Error.Blames blamed) (c.renderFormat levels s f) := by
  rw [renderFormat_eq]
  exact reports_builtIn hformatters (fun p g v => c.grows_nestWithin levels s p g v)
    (fun p g v hg => reports_nestWithin hformatters levels s p v hg) hf

end Call

end Reporting

/-- The error that a render ends with, or one that it recorded and replaced. -/
def Call.Reported (c : Call) (e : Error) : Prop :=
  c.render = .error e ∨ ∃ rendered, c.render = .ok rendered ∧ ∃ x ∈ rendered.failures, x.error = e

theorem Call.blames_of_reported {c : Call} {blamed : String → String → Prop} {e : Error}
    (hformatters : c.formatters = Formatter.builtIn)
    (hblamable : c.template.format.Every (c.Blamable blamed)) (h : c.Reported e) :
    e.Blames blamed := by
  obtain ⟨herror, hfailures⟩ := reports_renderFormat hformatters c.settings.dialect.maxDepth
    c.root hblamable {}
  change ∀ e, c.finished.1 = .error e → e.Blames blamed at herror
  have hrecorded : ∀ x ∈ c.finished.2.failures, x.error.Blames blamed :=
    hfailures fun x hx => by cases hx
  rw [Reported, render_eq] at h
  rcases hr : c.finished.1 with e' | u <;> rw [hr] at h
  · rcases h with h | ⟨rendered, h, -⟩
    · cases h
      exact herror e hr
    · cases h
  · rcases h with h | ⟨rendered, h, x, hx, rfl⟩
    · cases h
    · cases h
      exact hrecorded x hx

/-- A placeholder that was read fails for want of a formatter just if none takes the value: what is
nested in it may fail likewise, but is shorter, so its failure is another. -/
theorem Call.dispatch_error_iff {c : Call} (hformatters : c.formatters = Formatter.builtIn)
    {dialect : Dialect} {text : String} {t : Template} {f : Format} {p : Placeholder}
    (hparse : Template.parse dialect text = .ok t) (hwithin : t.format.Within f)
    (hp : p ∈ f.placeholders) (levels : Nat) (s : Scope) (v : Value) (d : Draft) :
    (d.through (c.dispatch (c.nestWithin levels s p) p v)).1 =
      .error (.unformatted p.raw (.noFormatter p.name)) ↔ c.Untaken p v := by
  have hgrows := c.grows_nestWithin levels s p
  have hdeclined_iff : (∀ f ∈ c.asked p, c.DeclinedBy (c.nestWithin levels s p) d p v f) ↔
      c.Untaken p v := declined_all_iff hformatters
  rw [← hdeclined_iff]
  constructor
  · intro herror
    refine Classical.byContradiction fun htaken => ?_
    obtain ⟨g, hclaimed⟩ := exists_claimedBy htaken
    have hshorter : Reports (Error.Blames fun raw _ => raw.utf8ByteSize < p.raw.utf8ByteSize)
        (c.carryOut (c.nestWithin levels s p) p v g) :=
      reports_carryOut hformatters
        (fun g v hg => reports_nestWithin hformatters levels s p v hg)
        (fun g hformat k hk q hq _ _ => every_shorter hparse hwithin hp hformat k hk q hq)
        hclaimed.mem_asked
    have hblames := (hshorter d).1
    rcases hr : d.through (c.carryOut (c.nestWithin levels s p) p v g) with ⟨r, d'⟩
    rw [through_dispatch_claimed hgrows hclaimed hr] at herror
    rw [hr] at hblames
    cases r with
    | ok handled => cases herror
    | error e =>
      cases herror
      exact Nat.lt_irrefl _ (hblames _ rfl p.raw p.name rfl)
  · intro hdeclined
    rw [through_dispatch_unclaimed hgrows hdeclined]

/-- Without a name one formatter takes the value, and the value and the sections decide which, so a
render never complains that there is none for want of a name. Under a name a value is left unwritten
just if no formatter answers to the name, or the one that does takes only arrays, or it needs
sections and there are none. -/
theorem dispatch_builtIn {c : Call} (hformatters : c.formatters = Formatter.builtIn) :
    (∀ nest d p v f, p.name = "" →
      (c.ClaimedBy nest d p v f ↔ f = Formatter.unnamed v p.sectionCount)) ∧
    (∀ raw name, c.Reported (.unformatted raw (.noFormatter name)) → name ≠ "" ∧
      ∃ f p v, c.template.format.Within f ∧ p ∈ f.placeholders ∧ p.raw = raw ∧ p.name = name ∧
        c.Untaken p v) ∧
    ∀ (dialect : Dialect) (text : String) (t : Template) (f : Format) (p : Placeholder),
      Template.parse dialect text = .ok t → t.format.Within f → p ∈ f.placeholders →
      ∀ (levels : Nat) (s : Scope) (v : Value) (d : Draft),
        (d.through (c.dispatch (c.nestWithin levels s p) p v)).1 =
          .error (.unformatted p.raw (.noFormatter p.name)) ↔ c.Untaken p v := by
  refine ⟨fun nest d p v f hname => ?unnamed, fun raw name hreported => ?reported,
    fun _ _ _ _ _ hparse hwithin hp => Call.dispatch_error_iff hformatters hparse hwithin hp⟩
  case unnamed =>
    have hclaimed : c.ClaimedBy nest d p v _ := Call.claimedBy_unnamed hformatters hname
    exact ⟨fun h => h.unique hclaimed, fun h => h ▸ hclaimed⟩
  case reported =>
    let blamed (raw name : String) : Prop := ∃ f p v, c.template.format.Within f ∧
      p ∈ f.placeholders ∧ p.raw = raw ∧ p.name = name ∧ c.Untaken p v
    have hblamable : c.template.format.Every (c.Blamable blamed) :=
      fun f hwithin p hp v huntaken => ⟨f, p, v, hwithin, hp, rfl, rfl, huntaken⟩
    obtain ⟨f, p, v, hwithin, hp, hraw, rfl, huntaken⟩ :=
      Call.blames_of_reported hformatters hblamable hreported raw name rfl
    exact ⟨huntaken.1, f, p, v, hwithin, hp, hraw, rfl, huntaken⟩

/-- The text and the name of the placeholder, if the error is that no formatter takes its value. -/
def Error.untaken? : Error → Option (String × String)
  | unformatted raw (.noFormatter name) => some (raw, name)
  | _ => none

theorem Error.eq_of_untaken? {e : Error} {raw name : String} (h : e.untaken? = some (raw, name)) :
    e = .unformatted raw (.noFormatter name) := by
  unfold untaken? at h
  split at h
  · cases h
    rfl
  · cases h

/-- The first placeholder has no name and two sections, so its array is a list. The name of the
second is accepted in capitals, but answered to by no formatter. -/
theorem dispatch_builtIn_capitals :
    let e := Engine.standard ⟨0, 0⟩
    let text := "{0:a|b}{0:LIST:x}"
    ∃ t p q, Template.parse e.dialect text = .ok t ∧ p.name = "" ∧ q.name = "LIST" ∧
      t.format.placeholders = [p, q] ∧
      let c := e.call none t [.array []]
      (∀ nest d f, c.ClaimedBy nest d p (.array []) f ↔ f = .list) ∧
      c.Reported (.unformatted q.raw (.noFormatter "LIST")) ∧
      (∃ f p v, t.format.Within f ∧ p ∈ f.placeholders ∧ p.raw = q.raw ∧ p.name = "LIST" ∧
        c.Untaken p v) ∧
      c.Untaken q (.array []) ∧
      ∀ (levels : Nat) (s : Scope) (d : Draft),
        (d.through (c.dispatch (c.nestWithin levels s q) q (.array []))).1 =
          .error (.unformatted q.raw (.noFormatter "LIST")) := by
  intro e text
  have hany : (Template.parse e.dialect text).toOption.any (fun t =>
      t.format.placeholders.map (fun p => (p.raw, p.name, p.sectionCount)) ==
          [("{0:a|b}", "", 2), ("{0:LIST:x}", "LIST", 1)] &&
        match (e.call none t [.array []]).render with
        | .ok _ => false
        | .error err => err.untaken? == some ("{0:LIST:x}", "LIST")) = true := by
    decide +kernel
  have hanswers : ∀ f ∈ Formatter.builtIn,
      f.answersTo e.settings.caseSensitivity "LIST" = false := by
    simp only [Formatter.builtIn, List.forall_mem_cons]
    decide
  obtain ⟨t, hparse, hchecked⟩ := exists_parse_of_any hany
  rw [Bool.and_eq_true, beq_iff_eq] at hchecked
  obtain ⟨hfields, hfails⟩ := hchecked
  obtain ⟨p, _, hplaceholders, hfirst, hrest⟩ := List.map_eq_cons_iff.mp hfields
  obtain ⟨q, _, rfl, hsecond, hnil⟩ := List.map_eq_cons_iff.mp hrest
  obtain rfl := List.map_eq_nil_iff.mp hnil
  simp only [Prod.mk.injEq] at hfirst hsecond
  obtain ⟨-, hunnamed, hsections⟩ := hfirst
  obtain ⟨hraw, hnamed, -⟩ := hsecond
  obtain ⟨hclaimed, hblamed, hfailed⟩ := dispatch_builtIn (c := e.call none t [.array []]) rfl
  have hreported : (e.call none t [.array []]).Reported
      (.unformatted q.raw (.noFormatter "LIST")) := by
    rw [hraw]
    left
    cases hrender : (e.call none t [.array []]).render with
    | ok r =>
      rw [hrender] at hfails
      cases hfails
    | error err =>
      rw [hrender] at hfails
      rw [Error.eq_of_untaken? (beq_iff_eq.mp hfails)]
  have huntaken : (e.call none t [.array []]).Untaken q (.array []) := by
    refine ⟨by simp [hnamed], .inl ?_⟩
    rw [hnamed]
    exact hanswers
  refine ⟨t, p, q, hparse, hunnamed, hnamed, hplaceholders, fun nest d f => ?_, hreported,
    (hblamed _ _ hreported).2, huntaken, fun levels s d => ?_⟩
  · rw [hclaimed nest d p _ f hunnamed, hsections]
    rfl
  · have hq : q ∈ t.format.placeholders := by simp [hplaceholders]
    have herror := (hfailed _ _ _ _ _ hparse .self hq levels s (.array []) d).mpr huntaken
    rwa [hnamed] at herror

end Stencil
