import Mathlib.Data.Finset.Card
import Stencil.Proofs.Session.Course

/-!
# What a cache keeps

Every entry is what its text is read as in its dialect, no key is kept twice, and no stamp is given
to two trees. A cache with room keeps all that was read through it, so the number of entries is the
number of keys read as far as the limit goes.
-/

namespace Stencil

set_option autoImplicit false

namespace Cache

/-- Entries are readings of their texts, under keys and stamps of their own. -/
structure Sound (c : Cache) : Prop where
  parsed : ∀ e ∈ c.entries, Template.parse e.dialect e.text = .ok e.template
  keys : (c.entries.map CacheEntry.key).Nodup
  stamps : (c.entries.map CacheEntry.stamp).Nodup
  issued : ∀ e ∈ c.entries, e.stamp < c.issued

/-- The cache keeps nothing that is not among the keys, and all of them while it has room. -/
structure Keeps (c : Cache) (known : Finset CacheKey) : Prop where
  among : ∀ e ∈ c.entries, e.key ∈ known
  bounded : ∀ limit ∈ c.limit, c.size ≤ limit
  complete : c.isFull = false → ∀ k ∈ known, ∃ e ∈ c.entries, e.key = k

/-- What is kept in the second cache was kept in the first, or has a stamp that the first has never
handed out. -/
structure Precedes (c c' : Cache) : Prop where
  issued : c.issued ≤ c'.issued
  entries : ∀ e ∈ c'.entries, e ∈ c.entries ∨ c.issued ≤ e.stamp

variable {c c' c'' : Cache} {d : Dialect} {text : String} {entry : CacheEntry}

section Lookup

theorem find?_eq_none : c.find? d text = none ↔ ∀ e ∈ c.entries, e.key ≠ (d, text) := by
  simp [find?, CacheEntry.key]

theorem mem_of_find? (h : c.find? d text = some entry) :
    entry ∈ c.entries ∧ entry.key = (d, text) := by
  have hkey := List.find?_some h
  simp only [decide_eq_true_eq] at hkey
  exact ⟨List.mem_of_find?_eq_some h, Prod.ext hkey.1 hkey.2⟩

theorem getOrParse_kept (h : c.find? d text = some entry) :
    c.getOrParse d text = (.ok ⟨entry.template, some entry.stamp⟩, c) := by
  simp [getOrParse, h]

/-- What a lookup does to a cache: it adds what was read under a key of which nothing is kept, if
there is room. -/
theorem afterLookup_cases (c : Cache) (d : Dialect) (text : String) :
    c.afterLookup (some (d, text)) = c ∧
      (∀ t, Template.parse d text = .ok t →
        (∃ e ∈ c.entries, e.key = (d, text)) ∨ c.isFull = true) ∨
    ∃ t, c.afterLookup (some (d, text)) = c.insert d text t ∧ Template.parse d text = .ok t ∧
      (∀ e ∈ c.entries, e.key ≠ (d, text)) ∧ c.isFull = false := by
  simp only [afterLookup, getOrParse]
  cases hfind : c.find? d text with
  | some e =>
    obtain ⟨he, hkey⟩ := mem_of_find? hfind
    exact .inl ⟨rfl, fun _ _ => .inl ⟨e, he, hkey⟩⟩
  | none =>
    cases hparse : Template.parse d text with
    | error err => exact .inl ⟨rfl, fun t ht => absurd ht (by simp)⟩
    | ok t =>
      cases hfull : c.isFull with
      | true => exact .inl ⟨rfl, fun _ _ => .inr rfl⟩
      | false => exact .inr ⟨t, rfl, rfl, find?_eq_none.mp hfind, rfl⟩

theorem afterLookup_failed {err : Error} (h : Template.parse d text = .error err) :
    c.afterLookup (some (d, text)) = c := by
  rcases c.afterLookup_cases d text with ⟨hsame, -⟩ | ⟨t, -, ht, -⟩
  · exact hsame
  · rw [h] at ht
    cases ht

theorem find?_afterLookup (h : c.find? d text = some entry) (key : Option CacheKey) :
    (c.afterLookup key).find? d text = some entry := by
  rcases key with - | ⟨d', text'⟩
  · exact h
  · rcases c.afterLookup_cases d' text' with ⟨hsame, -⟩ | ⟨t, hinsert, -⟩
    · rw [hsame, h]
    · rw [hinsert, find?, insert, List.find?_append]
      exact Option.or_eq_some_iff.mpr (.inl h)

@[simp] theorem limit_afterLookup (c : Cache) (key : Option CacheKey) :
    (c.afterLookup key).limit = c.limit := by
  rcases key with - | ⟨d, text⟩
  · rfl
  · rcases c.afterLookup_cases d text with ⟨hsame, -⟩ | ⟨t, hinsert, -⟩
    · rw [hsame]
    · rw [hinsert, insert]

end Lookup

section Invariants

theorem Sound.of_entries_eq_nil (h : c.entries = []) : c.Sound where
  parsed := by simp [h]
  keys := by simp [h]
  stamps := by simp [h]
  issued := by simp [h]

theorem Sound.insert (h : c.Sound) {t : Template} (ht : Template.parse d text = .ok t)
    (hnew : ∀ e ∈ c.entries, e.key ≠ (d, text)) : (c.insert d text t).Sound where
  parsed := by
    intro e he
    rcases List.mem_append.mp he with he | he
    · exact h.parsed e he
    · obtain rfl := List.mem_singleton.mp he
      exact ht
  keys := by
    simp only [Cache.insert, List.map_append, List.map_cons, List.map_nil]
    refine List.nodup_append'.mpr ⟨h.keys, List.nodup_singleton _, ?_⟩
    simpa [CacheEntry.key] using hnew
  stamps := by
    simp only [Cache.insert, List.map_append, List.map_cons, List.map_nil]
    refine List.nodup_append'.mpr ⟨h.stamps, List.nodup_singleton _, ?_⟩
    simpa using fun e he => (h.issued e he).ne
  issued := by
    intro e he
    rcases List.mem_append.mp he with he | he
    · exact Nat.lt_succ_of_lt (h.issued e he)
    · obtain rfl := List.mem_singleton.mp he
      exact Nat.lt_succ_self _

theorem Sound.afterLookup (h : c.Sound) (key : Option CacheKey) : (c.afterLookup key).Sound := by
  rcases key with - | ⟨d, text⟩
  · exact h
  · rcases c.afterLookup_cases d text with ⟨hsame, -⟩ | ⟨t, hinsert, ht, hnew, -⟩
    · rw [hsame]
      exact h
    · rw [hinsert]
      exact h.insert ht hnew

theorem Sound.eq_of_stamp (h : c.Sound) {e e' : CacheEntry} (he : e ∈ c.entries)
    (he' : e' ∈ c.entries) (hstamp : e.stamp = e'.stamp) : e = e' :=
  List.inj_on_of_nodup_map h.stamps he he' hstamp

theorem Keeps.of_entries_eq_nil (h : c.entries = []) : c.Keeps ∅ where
  among := by simp [h]
  bounded := by simp [h, size]
  complete := by simp

theorem Keeps.afterLookup {known : Finset CacheKey} (h : c.Keeps known) (d : Dialect)
    (text : String) : (c.afterLookup (some (d, text))).Keeps
      (if (Template.parse d text).isOk then Insert.insert (d, text) known else known) := by
  rcases c.afterLookup_cases d text with ⟨hsame, hkept⟩ | ⟨t, hinsert, ht, hnew, hroom⟩
  · rw [hsame]
    cases hparse : Template.parse d text with
    | error err => exact h
    | ok t =>
      refine ⟨fun e he => Finset.mem_insert_of_mem (h.among e he), h.bounded, fun hroom k hk => ?_⟩
      rcases Finset.mem_insert.mp hk with rfl | hk
      · rcases hkept t hparse with hentry | hfull
        · exact hentry
        · rw [hroom] at hfull
          cases hfull
      · exact h.complete hroom k hk
  · rw [hinsert, ht]
    have hsize : (c.insert d text t).size = c.size + 1 := by simp [Cache.insert, size]
    refine ⟨fun e he => ?_, fun limit hlimit => ?_, fun _ k hk => ?_⟩
    · rcases List.mem_append.mp he with he | he
      · exact Finset.mem_insert_of_mem (h.among e he)
      · obtain rfl := List.mem_singleton.mp he
        exact Finset.mem_insert_self _ _
    · have hlimit' : c.limit = some limit := hlimit
      simp only [isFull, hlimit', Option.any_some, decide_eq_false_iff_not] at hroom
      omega
    · rcases Finset.mem_insert.mp hk with rfl | hk
      · exact ⟨_, List.mem_append_right _ (List.mem_singleton_self _), rfl⟩
      · obtain ⟨e, he, hkey⟩ := h.complete hroom k hk
        exact ⟨e, List.mem_append_left _ he, hkey⟩

theorem Keeps.size_eq {known : Finset CacheKey} (h : c.Keeps known) (hsound : c.Sound) :
    c.size = c.limit.elim known.card (min known.card) := by
  have hcard : (c.entries.map CacheEntry.key).toFinset.card = c.size := by
    rw [List.toFinset_card_of_nodup hsound.keys, List.length_map]
    rfl
  have hsubset : (c.entries.map CacheEntry.key).toFinset ⊆ known := by
    intro k hk
    obtain ⟨e, he, rfl⟩ := List.mem_map.mp (List.mem_toFinset.mp hk)
    exact h.among e he
  have hle : c.size ≤ known.card := hcard ▸ Finset.card_le_card hsubset
  have hge : c.isFull = false → known.card ≤ c.size := by
    intro hroom
    rw [← hcard]
    refine Finset.card_le_card fun k hk => ?_
    obtain ⟨e, he, rfl⟩ := h.complete hroom k hk
    exact List.mem_toFinset.mpr (List.mem_map_of_mem he)
  have hbounded := h.bounded
  simp only [isFull] at hge
  cases hlimit : c.limit with
  | none =>
    rw [hlimit] at hge
    exact Nat.le_antisymm hle (hge rfl)
  | some limit =>
    rw [hlimit] at hge hbounded
    have hsize := hbounded limit rfl
    simp only [Option.any_some, decide_eq_false_iff_not] at hge
    simp only [Option.elim_some]
    omega

theorem Precedes.refl (c : Cache) : c.Precedes c := ⟨Nat.le_refl _, fun _ he => .inl he⟩

theorem Precedes.trans (h : c.Precedes c') (h' : c'.Precedes c'') : c.Precedes c'' := by
  refine ⟨h.issued.trans h'.issued, fun e he => ?_⟩
  rcases h'.entries e he with he | hstamp
  · exact h.entries e he
  · exact .inr (h.issued.trans hstamp)

theorem Precedes.clear (c : Cache) : c.Precedes c.clear :=
  ⟨Nat.le_refl _, by simp [Cache.clear]⟩

theorem Precedes.afterLookup (c : Cache) (key : Option CacheKey) :
    c.Precedes (c.afterLookup key) := by
  rcases key with - | ⟨d, text⟩
  · exact .refl c
  · rcases c.afterLookup_cases d text with ⟨hsame, -⟩ | ⟨t, hinsert, -⟩
    · rw [hsame]
      exact .refl c
    · rw [hinsert]
      refine ⟨Nat.le_succ _, fun e he => ?_⟩
      rcases List.mem_append.mp he with he | he
      · exact .inl he
      · obtain rfl := List.mem_singleton.mp he
        exact .inr (Nat.le_refl _)

/-- A stamp belongs to one tree for good. -/
theorem Precedes.eq_of_stamp (h : c.Precedes c') (hsound : c.Sound) {e e' : CacheEntry}
    (he : e ∈ c.entries) (he' : e' ∈ c'.entries) (hstamp : e.stamp = e'.stamp) : e = e' := by
  rcases h.entries e' he' with he' | hlater
  · exact hsound.eq_of_stamp he he' hstamp
  · have hissued := hsound.issued e he
    omega

end Invariants

end Cache

namespace Session

variable {s : Session} {c : Cache} {known : Finset CacheKey}

/-- The cache of a session is sound, and keeps what it can of the keys. -/
def Keeps (s : Session) (known : Finset CacheKey) : Prop :=
  ∀ c ∈ s.cache, c.Sound ∧ c.Keeps known

theorem Keeps.step (h : s.Keeps known) (step : SessionStep) :
    (s.step step).2.Keeps (s.keysAfter known step) := by
  by_cases hclear : step = .clearCache
  · subst hclear
    intro c' hc'
    obtain ⟨c, -, rfl⟩ := Option.mem_map.mp hc'
    exact ⟨.of_entries_eq_nil rfl, .of_entries_eq_nil rfl⟩
  · intro c' hc'
    rw [step_cache hclear] at hc'
    obtain ⟨c, hc, rfl⟩ := Option.mem_map.mp hc'
    obtain ⟨hsound, hkeeps⟩ := h c hc
    rw [keysAfter_eq hclear]
    refine ⟨hsound.afterLookup _, ?_⟩
    rcases s.lookup? step with - | ⟨d, text⟩
    · exact hkeeps
    · exact hkeeps.afterLookup d text

theorem Keeps.after (h : s.Keeps known) (steps : List SessionStep) :
    (s.after steps).Keeps (s.keysRead known steps) := by
  induction steps generalizing s known with
  | nil => exact h
  | cons step steps ih => exact ih (h.step step)

theorem exists_cache_after (h : s.cache = some c) (steps : List SessionStep) :
    ∃ c', (s.after steps).cache = some c' ∧ c.Precedes c' ∧ c'.limit = c.limit := by
  induction steps generalizing s c with
  | nil => exact ⟨c, h, .refl c, rfl⟩
  | cons step steps ih =>
    have hstep : ∃ c', (s.step step).2.cache = some c' ∧ c.Precedes c' ∧ c'.limit = c.limit := by
      by_cases hclear : step = .clearCache
      · subst hclear
        exact ⟨c.clear, by simp [Session.step, h], .clear c, rfl⟩
      · exact ⟨c.afterLookup (s.lookup? step), by simp [step_cache hclear, h], .afterLookup c _,
          c.limit_afterLookup _⟩
    obtain ⟨c', hc', hprecedes, hlimit⟩ := hstep
    obtain ⟨c'', hc'', hprecedes', hlimit'⟩ := ih hc'
    exact ⟨c'', hc'', hprecedes.trans hprecedes', hlimit'.trans hlimit⟩

/-- Until the cache is cleared, what it keeps under a key stays the same. -/
theorem find?_after {d : Dialect} {text : String} {entry : CacheEntry} (h : s.cache = some c)
    (hentry : c.find? d text = some entry) {steps : List SessionStep}
    (hsteps : ∀ step ∈ steps, step ≠ .clearCache) :
    ∃ c', (s.after steps).cache = some c' ∧ c'.find? d text = some entry := by
  induction steps generalizing s c with
  | nil => exact ⟨c, h, hentry⟩
  | cons step steps ih =>
    have hclear := hsteps step List.mem_cons_self
    refine ih (c := c.afterLookup (s.lookup? step)) ?_ (Cache.find?_afterLookup hentry _)
      fun step' hstep' => hsteps step' (List.mem_cons_of_mem _ hstep')
    simp [step_cache hclear, h]

end Session

end Stencil
