import Stencil.Datum.OfValue
import Stencil.Proofs.Outcome

/-!
# Values that are taken over from values

A value that presents itself as data and is taken over again comes back the same, but for what data
cannot tell apart: dates and big integers come back as their text, and a double that is not finite
as what it is classified as.
-/

namespace Stencil

set_option autoImplicit false

/-- With a double that is not finite classified. -/
def Number.classified : Number → Number
  | .float x =>
    if x.isFinite then .float x
    else if x.isNaN then .nan
    else if x.isNegative then .negInfinity
    else .infinity
  | n => n

/-- A key that is not there yet is put at the end. -/
theorem Members.insert_of_not_mem {ms : Members} {key : String} (h : key ∉ keys ms) (v : Value) :
    insert ms key v = ms ++ [(key, v)] := by
  induction ms with
  | nil => rfl
  | cons m ms ih =>
    simp only [keys, List.map_cons, List.mem_cons, not_or] at ih h
    rw [insert, if_neg (Ne.symm h.1), ih h.2, List.cons_append]

theorem Members.mem_insert {ms : Members} {key : String} {v : Value} {m : String × Value}
    (h : m ∈ insert ms key v) : m = (key, v) ∨ m ∈ ms := by
  induction ms with
  | nil => exact .inl (List.mem_singleton.mp h)
  | cons m' ms ih =>
    unfold insert at h
    split at h
    · rcases List.mem_cons.mp h with rfl | hlater
      · exact .inl rfl
      · exact .inr (List.mem_cons_of_mem m' hlater)
    · rcases List.mem_cons.mp h with rfl | hlater
      · exact .inr List.mem_cons_self
      · exact (ih hlater).imp_right (List.mem_cons_of_mem m')

namespace Value

mutual

/-- With the text of dates and big integers in their place and all numbers classified. -/
def normalized : Value → Value
  | .number n => .number n.classified
  | .array items => .array (normalizedItems items)
  | .object members => .object (normalizedMembers members)
  | .date t => .string t.text
  | .bigInt n => .string (toString n)
  | v => v
termination_by structural v => v

def normalizedItems : List Value → List Value
  | [] => []
  | v :: vs => v.normalized :: normalizedItems vs
termination_by structural vs => vs

def normalizedMembers : List (String × Value) → List (String × Value)
  | [] => []
  | (k, v) :: ms => (k, v.normalized) :: normalizedMembers ms
termination_by structural ms => ms

end

/-- Holds of a value and of every value inside it. -/
inductive Throughout (q : Value → Prop) : Value → Prop
  | scalar {v : Value} (own : q v) (notArray : v.isArray = false) (notObject : v.isObject = false) :
      Throughout q v
  | array {items : List Value} (own : q (.array items)) (inner : ∀ v ∈ items, Throughout q v) :
      Throughout q (.array items)
  | object {members : List (String × Value)} (own : q (.object members))
      (inner : ∀ m ∈ members, Throughout q m.2) : Throughout q (.object members)

/-- No key stands twice. -/
def HasKeysOnce : Value → Prop
  | .object members => (Members.keys members).Nodup
  | _ => True

/-- Neither a date nor a big integer nor a double that is not finite. -/
def IsNormal : Value → Prop
  | .number (.float x) => x.isFinite = true
  | .date _ | .bigInt _ => False
  | _ => True

/-- Not an infinite double, unless it is classified. -/
def IsBounded : Value → Prop
  | .number (.float x) => x.isInfinite = false
  | _ => True

/-! ## Taking a value over -/

theorem normalizedItems_eq (items : List Value) : normalizedItems items = items.map normalized := by
  induction items with
  | nil => rfl
  | cons v vs ih => rw [normalizedItems, ih, List.map_cons]

theorem normalizedMembers_eq (ms : List (String × Value)) :
    normalizedMembers ms = ms.map fun m => (m.1, m.2.normalized) := by
  induction ms with
  | nil => rfl
  | cons m ms ih => rw [normalizedMembers, ih, List.map_cons]

theorem keys_normalizedMembers (ms : List (String × Value)) :
    Members.keys (normalizedMembers ms) = Members.keys ms := by
  simp [normalizedMembers_eq, Members.keys, Function.comp_def]

theorem ofInt_toInt (n : Int64) : ofInt n.toInt = .number (.integer n) := by
  have hfits : Int64.minValue.toInt ≤ n.toInt ∧ n.toInt ≤ Int64.maxValue.toInt :=
    ⟨Int64.minValue_le_toInt n, Int64.toInt_le n⟩
  rw [ofInt, if_pos hfits, Int64.ofInt_toInt]

theorem ofDouble_eq (x : Binary64) : Number.ofDouble x = (Number.float x).classified := by
  cases hfinite : x.isFinite with
  | true => simp [Number.ofDouble, Number.classified, Binary64.isNaN, Binary64.isInfinite, hfinite]
  | false =>
    have hspecial : x.isNaN = false → x.isInfinite = true := by
      simp [Binary64.isNaN, Binary64.isInfinite, hfinite]
    cases hnan : x.isNaN with
    | true => simp [Number.ofDouble, Number.classified, hfinite, hnan]
    | false => simp [Number.ofDouble, Number.classified, hfinite, hnan, hspecial hnan]

theorem serialized_number (n : Number) :
    (Value.number n).serialized = .ok (.number n.classified) := by
  cases n with
  | integer n => exact congrArg Except.ok (ofInt_toInt n)
  | float x => exact congrArg (Except.ok ∘ Value.number) (ofDouble_eq x)
  | infinity => rfl
  | negInfinity => rfl
  | nan => rfl

/-- What the items come back as is put together in their order. -/
theorem toItems_itemsToData {items : List Value}
    (h : ∀ v ∈ items, v.serialized = .ok v.normalized) :
    Datum.toItems (itemsToData items) = .ok (normalizedItems items) := by
  induction items with
  | nil => rfl
  | cons v vs ih =>
    have hv : v.toDatum.toValue = .ok v.normalized := h v List.mem_cons_self
    have hvs := ih fun w hw => h w (List.mem_cons_of_mem v hw)
    rw [itemsToData, Datum.toItems, hv, hvs]
    rfl

/-- Members come back in their order if no key stands twice. -/
theorem toMembers_membersToData {members : List (String × Value)}
    (h : ∀ m ∈ members, m.2.serialized = .ok m.2.normalized) (before : Members)
    (hkeys : (Members.keys (before ++ members)).Nodup) :
    Datum.toMembers before (membersToData members) =
      .ok (before ++ normalizedMembers members) := by
  induction members generalizing before with
  | nil => simp [membersToData, Datum.toMembers, normalizedMembers]
  | cons m ms ih =>
    obtain ⟨key, v⟩ := m
    have hv : v.toDatum.toValue = .ok v.normalized := h (key, v) List.mem_cons_self
    have hnew : key ∉ Members.keys before := by
      intro hold
      rw [Members.keys, List.map_append, List.nodup_append] at hkeys
      exact hkeys.2.2 key hold key (by simp) rfl
    have hlater : (Members.keys (before ++ [(key, v.normalized)] ++ ms)).Nodup := by
      simpa [Members.keys] using hkeys
    have hms := ih (fun w hw => h w (List.mem_cons_of_mem _ hw)) _ hlater
    -- A key that comes from a value is a text already, so it is the name as it stands.
    have hstep : Datum.toMembers before (membersToData ((key, v) :: ms)) =
        v.toDatum.toValue.bind fun w =>
          Datum.toMembers (Members.insert before key w) (membersToData ms) := rfl
    rw [hstep, hv, Except.bind, Members.insert_of_not_mem hnew, hms, normalizedMembers,
      List.append_assoc, List.singleton_append]

theorem serialized_eq {v : Value} (h : v.Throughout HasKeysOnce) :
    v.serialized = .ok v.normalized := by
  induction h with
  | @scalar v own notArray notObject =>
    cases v with
    | number n => exact serialized_number n
    | array items => cases notArray
    | object members => cases notObject
    | _ => rfl
  | array own inner ih =>
    have hitems := toItems_itemsToData ih
    rw [serialized, toDatum, Datum.toValue, hitems]
    rfl
  | object own inner ih =>
    have hmembers := toMembers_membersToData ih [] own
    rw [serialized, toDatum, Datum.toValue, hmembers]
    rfl

/-! ## Values that were taken over from data -/

/-- Members that are apart stay so when one more is put in. -/
theorem keysOnce_insert {ms : Members} (h : (object ms).Throughout HasKeysOnce) (key : String)
    {v : Value} (hv : v.Throughout HasKeysOnce) :
    (object (Members.insert ms key v)).Throughout HasKeysOnce := by
  cases h with
  | scalar own notArray notObject => cases notObject
  | object own inner =>
    apply Throughout.object (Members.nodup_keys_insert own key v)
    intro m hm
    rcases Members.mem_insert hm with rfl | hm
    · exact hv
    · exact inner m hm

theorem keysOnce_empty : (object []).Throughout HasKeysOnce :=
  .object List.nodup_nil (by simp)

theorem keysOnce_tagged (name : String) {v : Value} (h : v.Throughout HasKeysOnce) :
    (Datum.tagged name v).Throughout HasKeysOnce :=
  keysOnce_insert keysOnce_empty name h

theorem keysOnce_ofInt (n : Int) : (ofInt n).Throughout HasKeysOnce := by
  unfold ofInt
  split
  · exact .scalar trivial rfl rfl
  · exact .scalar trivial rfl rfl

mutual

/-- Data of every shape becomes a value with its keys apart, since members are put in one by one. -/
theorem keysOnce_toValue : (d : Datum) → (v : Value) → d.toValue = .ok v →
    v.Throughout HasKeysOnce
  | .bool _, _, rfl | .single _, _, rfl | .double _, _, rfl | .char _, _, rfl
  | .string _, _, rfl | .none, _, rfl | .unit, _, rfl | .unitVariant _, _, rfl =>
    .scalar trivial rfl rfl
  | .int _ n, _, rfl => keysOnce_ofInt n
  | .bytes _, _, rfl => .array trivial (by
      intro v hv
      obtain ⟨b, -, rfl⟩ := List.mem_map.mp hv
      exact keysOnce_ofInt b.toNat)
  | .some d, v, h | .newtype d, v, h => keysOnce_toValue d v h
  | .newtypeVariant name d, _, h => by
    obtain ⟨v, hv, rfl⟩ := exists_of_map_eq_ok h
    exact keysOnce_tagged name (keysOnce_toValue d v hv)
  | .sequence items, _, h => by
    obtain ⟨vs, hvs, rfl⟩ := exists_of_map_eq_ok h
    exact .array trivial (keysOnce_toItems items vs hvs)
  | .sequenceVariant name items, _, h => by
    obtain ⟨vs, hvs, rfl⟩ := exists_of_map_eq_ok h
    exact keysOnce_tagged name (.array trivial (keysOnce_toItems items vs hvs))
  | .map entries, _, h => by
    obtain ⟨ms, hms, rfl⟩ := exists_of_map_eq_ok h
    exact keysOnce_toMembers entries [] ms keysOnce_empty hms
  | .fields entries, _, h => by
    obtain ⟨ms, hms, rfl⟩ := exists_of_map_eq_ok h
    exact keysOnce_toFields entries [] ms keysOnce_empty hms
  | .fieldsVariant name entries, _, h => by
    obtain ⟨ms, hms, rfl⟩ := exists_of_map_eq_ok h
    exact keysOnce_tagged name (keysOnce_toFields entries [] ms keysOnce_empty hms)
  | .looseMap parts, _, h => by
    obtain ⟨ms, hms, rfl⟩ := exists_of_map_eq_ok h
    exact keysOnce_toLooseMembers parts [] none ms keysOnce_empty hms
termination_by structural d => d

theorem keysOnce_toItems : (items : List Datum) → (vs : List Value) →
    Datum.toItems items = .ok vs → ∀ v ∈ vs, v.Throughout HasKeysOnce
  | [], _, rfl => by simp
  | d :: ds, _, h => by
    obtain ⟨v, hv, hrest⟩ := exists_of_bind_eq_ok h
    obtain ⟨vs, hvs, hdone⟩ := exists_of_bind_eq_ok hrest
    obtain rfl := Except.ok.inj hdone
    exact List.forall_mem_cons.mpr ⟨keysOnce_toValue d v hv, keysOnce_toItems ds vs hvs⟩
termination_by structural items => items

theorem keysOnce_toMembers : (entries : List (Datum × Datum)) → (before after : Members) →
    (object before).Throughout HasKeysOnce → Datum.toMembers before entries = .ok after →
      (object after).Throughout HasKeysOnce
  | [], _, _, hbefore, rfl => hbefore
  | (k, d) :: es, before, after, hbefore, h => by
    obtain ⟨kv, -, hrest⟩ := exists_of_bind_eq_ok h
    obtain ⟨key, -, hrest⟩ := exists_of_bind_eq_ok hrest
    obtain ⟨v, hv, hrest⟩ := exists_of_bind_eq_ok hrest
    exact keysOnce_toMembers es _ after (keysOnce_insert hbefore key (keysOnce_toValue d v hv))
      hrest
termination_by structural entries => entries

theorem keysOnce_toFields : (entries : List (String × Datum)) → (before after : Members) →
    (object before).Throughout HasKeysOnce → Datum.toFields before entries = .ok after →
      (object after).Throughout HasKeysOnce
  | [], _, _, hbefore, rfl => hbefore
  | (name, d) :: fs, before, after, hbefore, h => by
    obtain ⟨v, hv, hrest⟩ := exists_of_bind_eq_ok h
    exact keysOnce_toFields fs _ after (keysOnce_insert hbefore name (keysOnce_toValue d v hv))
      hrest
termination_by structural entries => entries

theorem keysOnce_toLooseMembers : (parts : List (Bool × Datum)) → (before : Members) →
    (waiting : Option String) → (after : Members) → (object before).Throughout HasKeysOnce →
      Datum.toLooseMembers before waiting parts = .ok after →
        (object after).Throughout HasKeysOnce
  | [], _, _, _, hbefore, rfl => hbefore
  | (true, d) :: ps, before, waiting, after, hbefore, h => by
    obtain ⟨kv, -, hrest⟩ := exists_of_bind_eq_ok h
    obtain ⟨key, -, hrest⟩ := exists_of_bind_eq_ok hrest
    exact keysOnce_toLooseMembers ps before (some key) after hbefore hrest
  | (false, d) :: ps, before, some key, after, hbefore, h => by
    obtain ⟨v, hv, hrest⟩ := exists_of_bind_eq_ok h
    exact keysOnce_toLooseMembers ps _ none after
      (keysOnce_insert hbefore key (keysOnce_toValue d v hv)) hrest
termination_by structural parts => parts

end

/-- So whatever was taken over from data comes back, as its normal form. -/
theorem serialized_of_toValue {d : Datum} {v : Value} (h : d.toValue = .ok v) :
    v.serialized = .ok v.normalized :=
  serialized_eq (keysOnce_toValue d v h)

/-! ## What comes back -/

theorem isNormal_classified (n : Number) : IsNormal (.number n.classified) := by
  cases n with
  | float x =>
    simp only [Number.classified]
    split
    · assumption
    · repeat' split
      all_goals trivial
  | _ => trivial

theorem throughout_normalizedItems {q : Value → Prop} {items : List Value}
    (h : ∀ v ∈ items, v.normalized.Throughout q) : ∀ w ∈ normalizedItems items, w.Throughout q := by
  rw [normalizedItems_eq]
  intro w hw
  obtain ⟨v, hv, rfl⟩ := List.mem_map.mp hw
  exact h v hv

theorem throughout_normalizedMembers {q : Value → Prop} {members : List (String × Value)}
    (h : ∀ m ∈ members, m.2.normalized.Throughout q) :
    ∀ m ∈ normalizedMembers members, m.2.Throughout q := by
  rw [normalizedMembers_eq]
  intro w hw
  obtain ⟨m, hm, rfl⟩ := List.mem_map.mp hw
  exact h m hm

/-- A normal form is normal, and its keys are those of the value. -/
theorem normalized_throughout {v : Value} (h : v.Throughout HasKeysOnce) :
    v.normalized.Throughout HasKeysOnce ∧ v.normalized.Throughout IsNormal := by
  induction h with
  | @scalar v own notArray notObject =>
    cases v with
    | number n => exact ⟨.scalar trivial rfl rfl, .scalar (isNormal_classified n) rfl rfl⟩
    | array items => cases notArray
    | object members => cases notObject
    | _ => exact ⟨.scalar trivial rfl rfl, .scalar trivial rfl rfl⟩
  | array own inner ih =>
    constructor
    · apply Throughout.array trivial
      exact throughout_normalizedItems fun v hv => (ih v hv).1
    · apply Throughout.array trivial
      exact throughout_normalizedItems fun v hv => (ih v hv).2
  | @object members own inner ih =>
    constructor
    · have hkeys : HasKeysOnce (.object (normalizedMembers members)) := by
        rw [HasKeysOnce, keys_normalizedMembers]
        exact own
      apply Throughout.object hkeys
      exact throughout_normalizedMembers fun m hm => (ih m hm).1
    · apply Throughout.object trivial
      exact throughout_normalizedMembers fun m hm => (ih m hm).2

/-- Just the values without dates, big integers and doubles that are not finite are left alone. -/
theorem normalized_eq_self_iff {v : Value} (h : v.Throughout HasKeysOnce) :
    v.normalized = v ↔ v.Throughout IsNormal := by
  constructor
  · intro heq
    rw [← heq]
    exact (normalized_throughout h).2
  · intro hnormal
    -- What is normal is left alone whatever its keys are, so those are no part of the induction.
    clear h
    induction hnormal with
    | @scalar v own notArray notObject =>
      cases v with
      | number n =>
        cases n with
        | float x =>
          have hfinite : x.isFinite = true := own
          rw [normalized, Number.classified, if_pos hfinite]
        | _ => rfl
      | array items => cases notArray
      | object members => cases notObject
      | date t => exact absurd own id
      | bigInt n => exact absurd own id
      | _ => rfl
    | @array items own inner ih =>
      rw [normalized, normalizedItems_eq, List.map_congr_left ih, List.map_id']
    | @object members own inner ih =>
      have hmembers : ∀ m ∈ members, (m.1, m.2.normalized) = m := by
        intro m hm
        rw [ih m hm]
      rw [normalized, normalizedMembers_eq, List.map_congr_left hmembers, List.map_id']

/-! ## The text of what comes back -/

theorem text_classified {n : Number} (h : IsBounded (.number n)) : n.classified.text = n.text := by
  cases n with
  | float x =>
    have hbounded : x.isInfinite = false := h
    cases hfinite : x.isFinite with
    | true => rw [Number.classified, if_pos hfinite]
    | false =>
      have hnan : x.isNaN = true := by
        simpa [Binary64.isNaN, Binary64.isInfinite, hfinite] using hbounded
      simp [Number.classified, hfinite, hnan, Number.text, Binary64.text]
  | _ => rfl

theorem itemsText_normalizedItems {items : List Value}
    (h : ∀ v ∈ items, v.normalized.text = v.text) :
    itemsText (normalizedItems items) = itemsText items := by
  induction items with
  | nil => rfl
  | cons v vs ih =>
    have hv := h v List.mem_cons_self
    have hvs := ih fun w hw => h w (List.mem_cons_of_mem v hw)
    cases vs with
    | nil => exact hv
    | cons w vs =>
      simp only [normalizedItems, itemsText] at hvs ⊢
      rw [hv, hvs]

theorem membersText_normalizedMembers {members : List (String × Value)}
    (h : ∀ m ∈ members, m.2.normalized.text = m.2.text) :
    membersText (normalizedMembers members) = membersText members := by
  induction members with
  | nil => rfl
  | cons m ms ih =>
    have hm := h m List.mem_cons_self
    have hms := ih fun w hw => h w (List.mem_cons_of_mem m hw)
    cases ms with
    | nil => simp only [normalizedMembers, membersText, hm]
    | cons w ms =>
      simp only [normalizedMembers, membersText] at hms ⊢
      rw [hm, hms]

theorem text_normalized {v : Value} (h : v.Throughout IsBounded) : v.normalized.text = v.text := by
  induction h with
  | @scalar v own notArray notObject =>
    cases v with
    | number n => exact text_classified own
    | array items => cases notArray
    | object members => cases notObject
    | _ => rfl
  | array own inner ih =>
    rw [normalized, text, text, itemsText_normalizedItems ih]
  | object own inner ih =>
    rw [normalized, text, text, membersText_normalizedMembers ih]

/-- A value always comes back from data, as its normal form: the same again if it goes round once
more, unchanged if there is nothing in it that data cannot tell apart, and with the same text if no
infinite double is in it that is not classified. -/
theorem serialized_normalizes {v : Value} (hkeys : v.Throughout HasKeysOnce) :
    v.serialized = .ok v.normalized ∧
    (v.serialized >>= serialized) = v.serialized ∧
    (v.serialized = .ok v ↔ v.Throughout IsNormal) ∧
    (v.Throughout IsBounded → ∃ w, v.serialized = .ok w ∧ w.text = v.text) := by
  have hserialized := serialized_eq hkeys
  obtain ⟨hkeys', hnormal⟩ := normalized_throughout hkeys
  refine ⟨hserialized, ?_, ?_, ?_⟩
  · calc (v.serialized >>= serialized)
        = v.normalized.serialized := by rw [hserialized]; rfl
      _ = .ok v.normalized.normalized := serialized_eq hkeys'
      _ = .ok v.normalized := by rw [(normalized_eq_self_iff hkeys').mpr hnormal]
      _ = v.serialized := hserialized.symm
  · rw [hserialized, Except.ok.injEq]
    exact normalized_eq_self_iff hkeys
  · intro hbounded
    exact ⟨v.normalized, hserialized, text_normalized hbounded⟩

def mixedValue : Value :=
  .object [("b", .array [.bigInt (-7), .number (.float .negInfinity)]), ("a", .date ⟨0, 0⟩)]

/-- A big integer and an infinite double in an array, before a date. -/
theorem serialized_normalizes_mixed :
    mixedValue.Throughout HasKeysOnce ∧ mixedValue.serialized = .ok (.object
      [("b", .array [.string "-7", .number .negInfinity]),
        ("a", .string "1970-01-01T00:00:00+00:00")]) := by
  have hkeys : mixedValue.Throughout HasKeysOnce := by
    have hitems :
        Throughout HasKeysOnce (.array [.bigInt (-7), .number (.float .negInfinity)]) := by
      refine .array trivial ?_
      simp only [List.forall_mem_cons]
      exact ⟨.scalar trivial rfl rfl, .scalar trivial rfl rfl, by simp⟩
    refine .object (by simp [HasKeysOnce, Members.keys]) ?_
    simp only [List.forall_mem_cons]
    exact ⟨hitems, .scalar trivial rfl rfl, by simp⟩
  exact ⟨hkeys, (serialized_normalizes hkeys).1⟩

end Value

end Stencil
