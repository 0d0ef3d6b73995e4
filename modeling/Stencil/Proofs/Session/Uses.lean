import Stencil.Proofs.Session.Reached
import Stencil.Proofs.WellFormed
import Stencil.Sample

/-!
# The uses of an engine

The dialect of an engine is worked out when it is asked for and kept until the settings or the
formatters change. In whatever order an engine is changed and used, and whatever cache it is given
on the way, what it answers, reads and renders with is the dialect of the settings and formatters
that it has by then.
-/

namespace Stencil

set_option autoImplicit false

/-- What can be done with an engine. -/
inductive EngineUse where
  | step (step : EngineStep)
  /-- From now on templates are read through `c`, with whatever others have read through it. -/
  | withCache (c : Cache)

namespace EngineUse

/-- Whether the use may change the settings or the formatters. -/
def changes : EngineUse → Bool
  | .step (.changeSettings _) | .step (.addFormatter _) => true
  | _ => false

def settingsAfter (s : Settings) : EngineUse → Settings
  | .step (.changeSettings change) => change s
  | _ => s

def formattersAfter (fs : List Formatter) : EngineUse → List Formatter
  | .step (.addFormatter f) => fs ++ [f]
  | _ => fs

/-- A cache that comes from elsewhere has nothing in it but what was read. -/
def Sound : EngineUse → Prop
  | .withCache c => c.Sound
  | .step _ => True

end EngineUse

/-- The dialect of the settings, in which only the formatters may be named if it leaves the names
open. -/
def Settings.dialectWith (s : Settings) (fs : List Formatter) : Dialect :=
  match s.dialect.formatterNames with
  | some _ => s.dialect
  | none => { s.dialect with
      formatterNames := some ((fs.flatMap Formatter.names).filter (· ≠ "")) }

/-- An engine, and the cache that it has for templates. -/
structure EngineInUse where
  engine : Engine
  cache : Option Cache

namespace EngineInUse

def use (u : EngineInUse) : EngineUse → Reply × EngineInUse
  | .step step =>
    let (reply, e, cache) := u.engine.step u.cache step
    (reply, ⟨e, cache⟩)
  | .withCache c => (.done, ⟨{ u.engine with usesCache := true }, some c⟩)

def reply (u : EngineInUse) (use : EngineUse) : Reply := (u.use use).1

def after (u : EngineInUse) (uses : List EngineUse) : EngineInUse :=
  uses.foldl (fun u use => (u.use use).2) u

/-- No stale dialect is kept, and the cache has nothing in it but what was read. -/
structure Settled (u : EngineInUse) : Prop where
  current : u.engine.Current
  sound : ∀ c ∈ u.cache, c.Sound

section Steps

variable (u : EngineInUse) (next : EngineUse)

theorem settings_use :
    (u.use next).2.engine.settings = next.settingsAfter u.engine.settings := by
  rcases next with step | c
  · cases step <;> rfl
  · rfl

theorem formatters_use :
    (u.use next).2.engine.formatters = next.formattersAfter u.engine.formatters := by
  rcases next with step | c
  · cases step <;> rfl
  · rfl

theorem revision_use :
    (u.use next).2.engine.revision = u.engine.revision + if next.changes then 1 else 0 := by
  rcases next with step | c
  · cases step <;> rfl
  · rfl

variable {u next}

/-- A dialect that is kept is put back by every use but those that may change it. -/
theorem kept_use {d : Dialect} (hkept : u.engine.kept = some d) (h : next.changes = false) :
    (u.use next).2.engine.kept = some d := by
  have hput : u.engine.keepDialect.kept = some d := by
    simp [Engine.keepDialect, Engine.dialect, hkept]
  rcases next with step | c
  · cases step with
    | changeSettings change => cases h
    | addFormatter f => cases h
    | addSource s => exact hkept
    | formatParsed d text args => exact hkept
    | settings => exact hkept
    | cacheSize => exact hkept
    | describe => exact hkept
    | _ => exact hput
  · exact hkept

theorem Settled.use (h : u.Settled) (hnext : next.Sound) : (u.use next).2.Settled := by
  rcases next with step | c
  · refine ⟨h.current.step u.cache step, fun c' hc' => ?_⟩
    have hcache : (u.use (.step step)).2.cache = _ := u.engine.step_cache u.cache step
    rw [hcache] at hc'
    obtain ⟨c, hc, rfl⟩ := Option.mem_map.mp hc'
    exact (h.sound c hc).afterLookup _
  · refine ⟨h.current, fun c' hc' => ?_⟩
    obtain rfl : c = c' := Option.some.inj hc'
    exact hnext

end Steps

section Runs

variable (u : EngineInUse) (uses : List EngineUse)

/-- What every use changes in a way of its own has gone through all of these after a run. -/
theorem view_after {α : Type} {view : Engine → α} {change : α → EngineUse → α}
    (h : ∀ u next, view (use u next).2.engine = change (view u.engine) next) :
    view (u.after uses).engine = uses.foldl change (view u.engine) := by
  induction uses generalizing u with
  | nil => rfl
  | cons next uses ih =>
    rw [List.foldl_cons, ← h, ← ih]
    rfl

theorem settings_after :
    (u.after uses).engine.settings = uses.foldl EngineUse.settingsAfter u.engine.settings :=
  view_after u uses settings_use

theorem formatters_after :
    (u.after uses).engine.formatters =
      uses.foldl EngineUse.formattersAfter u.engine.formatters :=
  view_after u uses formatters_use

/-- A kept dialect is discarded by every use that may change it, and by no other. -/
theorem revision_after :
    (u.after uses).engine.revision = u.engine.revision + uses.countP EngineUse.changes := by
  induction uses generalizing u with
  | nil => rfl
  | cons next uses ih =>
    have hlater := ih (u.use next).2
    rw [revision_use] at hlater
    rw [List.countP_cons, after, List.foldl_cons, ← after, hlater]
    omega

variable {u uses}

theorem Settled.after (h : u.Settled) (huses : ∀ next ∈ uses, next.Sound) :
    (u.after uses).Settled := by
  induction uses generalizing u with
  | nil => exact h
  | cons next uses ih =>
    exact ih (h.use (huses next List.mem_cons_self)) fun later hmem =>
      huses later (List.mem_cons_of_mem next hmem)

theorem Settled.dialect_eq (h : u.Settled) :
    u.engine.dialect = u.engine.settings.dialectWith u.engine.formatters := by
  rw [h.current.dialect_eq, Settings.dialectWith, Engine.currentDialect]
  cases hnames : u.engine.settings.dialect.formatterNames with
  | none => rfl
  | some names =>
    simp only [Option.some_or]
    rw [← hnames]

theorem Settled.dialect_after (h : u.Settled) (huses : ∀ next ∈ uses, next.Sound) :
    (u.after uses).engine.dialect =
      (uses.foldl EngineUse.settingsAfter u.engine.settings).dialectWith
        (uses.foldl EngineUse.formattersAfter u.engine.formatters) := by
  rw [(h.after huses).dialect_eq, settings_after, formatters_after]

theorem kept_after {d : Dialect} (hkept : u.engine.kept = some d)
    (huses : ∀ next ∈ uses, next.changes = false) : (u.after uses).engine.kept = some d := by
  induction uses generalizing u with
  | nil => exact hkept
  | cons next uses ih =>
    exact ih (kept_use hkept (huses next List.mem_cons_self)) fun later hmem =>
      huses later (List.mem_cons_of_mem next hmem)

end Runs

end EngineInUse

/-- A name that is accepted because it is the name of a formatter is one that a formatter answers
to, if case does not matter to either. -/
theorem exists_answersTo {s : Settings} {fs : List Formatter} {name : String}
    (hopen : s.dialect.formatterNames = none) (hname : name ≠ "")
    (haccepted : (s.dialectWith fs).acceptsName name = true) :
    ∃ f ∈ fs, f.answersTo .insensitive name = true := by
  simp only [Settings.dialectWith, hopen, Dialect.acceptsName, List.any_eq_true,
    List.mem_filter, List.mem_flatMap] at haccepted
  obtain ⟨own, ⟨⟨f, hf, hown⟩, hne⟩, hagrees⟩ := haccepted
  refine ⟨f, hf, ?_⟩
  rw [Formatter.answersTo, if_neg hname, List.any_eq_true]
  exact ⟨own, hown, by rw [hne, hagrees, Bool.and_self]⟩

/-- Through whatever changes, uses and caches an engine has gone, what it answers and reads
templates in is the dialect of its settings with the names of its formatters, all as they are by
then. What it answered is kept and answered again exactly until the settings or the formatters may
have changed. Without regard to case, every formatter that is named in what the engine reads is one
that it has. -/
theorem dialect_of_uses {e : Engine} (hkept : e.kept = none) {cache : Option Cache}
    (hcache : ∀ c ∈ cache, c.Sound) {uses : List EngineUse} (huses : ∀ next ∈ uses, next.Sound) :
    let u := EngineInUse.after ⟨e, cache⟩ uses
    let settings := uses.foldl EngineUse.settingsAfter e.settings
    let formatters := uses.foldl EngineUse.formattersAfter e.formatters
    let d := settings.dialectWith formatters
    u.reply (.step .settings) = .settings settings ∧
    u.reply (.step .dialect) = .dialect d u.engine.revision ∧
    (∀ more,
      let later := u.after (.step .dialect :: more)
      ((∀ next ∈ more, next.changes = false) → later.engine.kept = some d ∧
        later.reply (.step .dialect) = u.reply (.step .dialect)) ∧
      (later.engine.revision = u.engine.revision → ∀ next ∈ more, next.changes = false)) ∧
    (∀ text, ∃ r, u.reply (.step (.parse text)) = .parsed r ∧
      r.map Shared.template = Template.parse d text) ∧
    (∀ text args, u.reply (.step (.format text args)) =
      .rendered ((Template.parse d text).bind fun t =>
        u.engine.renderTemplate (u.engine.cached (u.engine.parse u.cache text).2) t args)) ∧
    (settings.caseSensitivity = .insensitive → settings.dialect.formatterNames = none →
      ∀ text (r : Shared), u.reply (.step (.parse text)) = .parsed (.ok r) →
        ∀ f, r.template.format.Within f → ∀ p ∈ f.placeholders, p.name ≠ "" →
          ∃ g ∈ formatters, g.answersTo settings.caseSensitivity p.name = true) := by
  have hstart : EngineInUse.Settled ⟨e, cache⟩ := ⟨.of_kept_eq_none hkept, hcache⟩
  intro u settings formatters d
  have hsettled : u.Settled := hstart.after huses
  have hsettings : u.engine.settings = settings := EngineInUse.settings_after _ uses
  have hdialect : u.engine.dialect = d := hstart.dialect_after huses
  have hparse (text : String) :
      (u.engine.parse u.cache text).1.map Shared.template = Template.parse d text := by
    rw [u.engine.template_parse hsettled.sound, hdialect]
  refine ⟨congrArg Reply.settings hsettings, congrArg (Reply.dialect · u.engine.revision) hdialect,
    fun more => ?_, fun text => ⟨_, rfl, hparse text⟩, fun text args => ?_, ?_⟩
  · intro later
    have hasked : (u.use (.step .dialect)).2.engine.kept = some d := congrArg some hdialect
    have hrevision : later.engine.revision =
        u.engine.revision + more.countP EngineUse.changes :=
      EngineInUse.revision_after (u.use (.step .dialect)).2 more
    refine ⟨fun hunchanging => ?_, fun hsame => ?_⟩
    · have hlater : later.engine.kept = some d :=
        EngineInUse.kept_after (u := (u.use _).2) hasked hunchanging
      have hcount : more.countP EngineUse.changes = 0 := by
        simpa using hunchanging
      rw [hcount, Nat.add_zero] at hrevision
      refine ⟨hlater, congrArg₂ Reply.dialect ?_ hrevision⟩
      rw [hdialect, Engine.dialect, hlater, Option.getD_some]
    · have hcount : more.countP EngineUse.changes = 0 := by omega
      simpa using hcount
  · have hformat := u.engine.format_eq_bind hsettled.sound text args
    rw [hdialect] at hformat
    exact congrArg Reply.rendered hformat
  · intro hcase hopen text r hreply f hwithin p hp hname
    have hread : Template.parse d text = .ok r.template := by
      have hparsed : (u.engine.parse u.cache text).1 = .ok r := Reply.parsed.inj hreply
      rw [← hparse text, hparsed]
      rfl
    have hwellFormed := (readAt_of_within hread hwithin).wellFormed.placeholders p hp
    rw [hcase]
    exact exists_answersTo hopen hname (hwellFormed.named hname).1

/-- Settings and formatters that change after the dialect was asked for, with a cache in between. -/
theorem dialect_of_uses_changed :
    let uses : List EngineUse := [.step .dialect,
      .step (.changeSettings fun _ =>
        { caseSensitivity := .insensitive, dialect := { opening := '<', closing := '>' } }),
      .withCache {}, .step (.parse "<0:c(1):x|y>"), .step (.addFormatter .decline)]
    let u := EngineInUse.after ⟨Engine.standard ⟨0, 0⟩, none⟩ uses
    let names := ["list", "l", "conditional", "cond", "choose", "c", "default", "d", "decline"]
    let d : Dialect := { opening := '<', closing := '>', formatterNames := some names }
    u.reply (.step .dialect) = .dialect d 2 ∧
      ∃ r, u.reply (.step (.parse "<0:DECLINE:<>>")) = .parsed (.ok r) ∧
        ∃ p ∈ r.template.format.placeholders, p.name = "DECLINE" ∧
          ∃ g ∈ u.engine.formatters, g.answersTo .insensitive p.name = true := by
  intro uses u names d
  have hsound : ∀ next ∈ uses, next.Sound := by
    simpa [uses, EngineUse.Sound] using Cache.Sound.of_entries_eq_nil rfl
  have hcache : ∀ c ∈ (none : Option Cache), c.Sound := by simp
  obtain ⟨-, hdialect, -, hparse, -, hnamed⟩ := dialect_of_uses (e := Engine.standard ⟨0, 0⟩) rfl
    hcache hsound
  have hd : (uses.foldl EngineUse.settingsAfter (Engine.standard ⟨0, 0⟩).settings).dialectWith
      (uses.foldl EngineUse.formattersAfter (Engine.standard ⟨0, 0⟩).formatters) = d := by
    decide +kernel
  have hrevision : u.engine.revision = 2 := EngineInUse.revision_after _ uses
  refine ⟨hdialect.trans (congrArg₂ Reply.dialect hd hrevision), ?_⟩
  have hany : (Template.parse d "<0:DECLINE:<>>").toOption.any (fun t =>
      t.format.placeholders.map Placeholder.name = ["DECLINE"]) = true := by
    decide +kernel
  obtain ⟨t, hread, hholds⟩ := exists_parse_of_any hany
  obtain ⟨r, hreply, hr⟩ := hparse "<0:DECLINE:<>>"
  replace hr := hr.trans ((congrArg (Template.parse · _) hd).trans hread)
  cases r with
  | error err => cases hr
  | ok shared =>
    obtain rfl : shared.template = t := Except.ok.inj hr
    obtain ⟨p, hp, hname⟩ := List.map_eq_singleton_iff.mp (of_decide_eq_true hholds)
    have hmem : p ∈ shared.template.format.placeholders := hp ▸ List.mem_singleton_self p
    have hne : p.name ≠ "" := by simp [hname]
    obtain ⟨g, hg, hanswers⟩ := hnamed rfl rfl _ shared hreply _ .self p hmem hne
    have hformatters : u.engine.formatters = _ := EngineInUse.formatters_after _ uses
    exact ⟨shared, hreply, p, hmem, hname, g, hformatters ▸ hg, hanswers⟩

end Stencil
