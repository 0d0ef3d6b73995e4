import Mathlib.Data.List.Induction
import Stencil.Proofs.Text.AsciiCase
import Stencil.Value.Members

/-!
# Names without regard to case

Two names agree without regard to case just when their lower-case forms are the same, however they
are compared; so agreeing is an equivalence, and to look a name up among members is to look for the
first that was put in of those that agree with it.
-/

namespace Stencil

set_option autoImplicit false

theorem equivalence_agrees :
    Equivalence fun a b => CaseSensitivity.insensitive.agrees a b = true where
  refl _ := agrees_insensitive_iff.mpr rfl
  symm h := agrees_insensitive_iff.mpr (agrees_insensitive_iff.mp h).symm
  trans h h' := agrees_insensitive_iff.mpr
    ((agrees_insensitive_iff.mp h).trans (agrees_insensitive_iff.mp h'))

namespace Members

/-- The value that was given last to a name. -/
def lastGiven? (pairs : List (String × Value)) (name : String) : Option Value :=
  (pairs.reverse.find? (·.1 == name)).map (·.2)

/-- The name given first of those that agree with the key. -/
def firstAgreeing? (pairs : List (String × Value)) (key : String) : Option String :=
  (keys pairs).find? (CaseSensitivity.insensitive.agrees · key)

section Given

variable (pairs : List (String × Value)) (m : String × Value)

theorem ofList_concat : ofList (pairs ++ [m]) = insert (ofList pairs) m.1 m.2 := by
  simp only [ofList, List.foldl_append, List.foldl_cons, List.foldl_nil]

theorem lastGiven?_concat (name : String) :
    lastGiven? (pairs ++ [m]) name = if name = m.1 then some m.2 else lastGiven? pairs name := by
  rw [lastGiven?, List.reverse_concat, List.find?_cons]
  by_cases h : m.1 = name
  · simp [h]
  · have hname : (m.1 == name) = false := by simpa using h
    simp [hname, Ne.symm h, lastGiven?]

/-- What is kept under a name is what it was given last. -/
theorem get?_ofList (name : String) : get? (ofList pairs) name = lastGiven? pairs name := by
  induction pairs using List.reverseRecOn with
  | nil => rfl
  | append_singleton pairs m ih => rw [ofList_concat, get?_insert, lastGiven?_concat, ih]

theorem lastGiven?_eq_none_iff (name : String) :
    lastGiven? pairs name = none ↔ name ∉ keys pairs := by
  rw [lastGiven?, Option.map_eq_none_iff, List.find?_eq_none, keys, List.mem_map]
  constructor
  · rintro h ⟨m, hm, rfl⟩
    exact h m (List.mem_reverse.mpr hm) (beq_self_eq_true m.1)
  · intro h m hm hname
    exact h ⟨m, List.mem_reverse.mp hm, beq_iff_eq.mp hname⟩

theorem isSome_lastGiven? {name : String} (h : name ∈ keys pairs) :
    (lastGiven? pairs name).isSome := by
  rw [Option.isSome_iff_ne_none]
  intro hnone
  exact (lastGiven?_eq_none_iff pairs name).mp hnone h

/-- Names are kept in the order in which they were given for the first time. -/
theorem find?_keys_ofList (q : String → Bool) :
    (keys (ofList pairs)).find? q = (keys pairs).find? q := by
  induction pairs using List.reverseRecOn with
  | nil => rfl
  | append_singleton pairs m ih =>
    have hkeys : keys (pairs ++ [m]) = keys pairs ++ [m.1] := by simp [keys]
    rw [ofList_concat, keys_insert, hkeys, List.find?_append, ← ih]
    split
    · rename_i hold
      -- The name is in its place already, so if it were found now it would have been before.
      cases hfound : (keys (ofList pairs)).find? q with
      | some name => rfl
      | none =>
        have hrefused := List.find?_eq_none.mp hfound m.1 hold
        simp [hrefused]
    · rw [List.find?_append]

end Given

/-- The first member with a name of some kind has the value that is kept under the first name of
that kind. -/
theorem find?_name (ms : Members) (q : String → Bool) :
    (ms.find? (q ·.1)).map (·.2) = ((keys ms).find? q).bind (get? ms) := by
  induction ms with
  | nil => rfl
  | cons m ms ih =>
    simp only [keys, List.map_cons, List.find?_cons] at ih ⊢
    cases hq : q m.1 with
    | true => simp [get?]
    | false =>
      rw [ih]
      cases hfound : (ms.map (·.1)).find? q with
      | none => rfl
      | some name =>
        have hne : m.1 ≠ name := by
          intro h
          have hname := List.find?_some hfound
          rw [← h, hq] at hname
          cases hname
        simp [get?, hne]

/-- Lookup compares names as everything else does. -/
theorem getIgnoringCase?_eq (ms : Members) (key : String) :
    getIgnoringCase? ms key = (get? ms key).or
      (((keys ms).find? (CaseSensitivity.insensitive.agrees · key)).bind (get? ms)) := by
  have hsame (name : String) : (lowercased name == lowercased key) =
      CaseSensitivity.insensitive.agrees name key := by
    rw [Bool.eq_iff_iff, agrees_insensitive_iff, beq_iff_eq]
  rw [getIgnoringCase?, ← find?_name]
  simp only [hsame]

theorem getIgnoringCase?_ofList (pairs : List (String × Value)) (key : String) :
    getIgnoringCase? (ofList pairs) key =
      (lastGiven? pairs key).or ((firstAgreeing? pairs key).bind (lastGiven? pairs)) := by
  rw [getIgnoringCase?_eq, get?_ofList, find?_keys_ofList, funext (get?_ofList pairs),
    firstAgreeing?]

theorem getIgnoringCase?_ofList_eq_none_iff (pairs : List (String × Value)) (key : String) :
    getIgnoringCase? (ofList pairs) key = none ↔
      ∀ name ∈ keys pairs, CaseSensitivity.insensitive.agrees name key = false := by
  rw [getIgnoringCase?_ofList, Option.or_eq_none_iff, lastGiven?_eq_none_iff]
  constructor
  · rintro ⟨-, hnone⟩
    cases hfound : firstAgreeing? pairs key with
    | none => simpa [firstAgreeing?] using hfound
    | some name =>
      rw [hfound, Option.bind_some, lastGiven?_eq_none_iff] at hnone
      exact absurd (List.mem_of_find?_eq_some hfound) hnone
  · intro h
    have hnone : firstAgreeing? pairs key = none := by simpa [firstAgreeing?] using h
    refine ⟨?_, by rw [hnone]; rfl⟩
    intro hmem
    have hrefl := equivalence_agrees.refl key
    rw [h key hmem] at hrefl
    cases hrefl

end Members

/-- Names that are compared without regard to case agree if and only if their lower-case forms are
the same, which ASCII letters need not be lowered one by one to see, so agreeing is an equivalence.
Members that were put in one after the other are found by it: a key has the value it was given last
itself, or else that of the first name put in that agrees with it; there is none just when no name
agrees. -/
theorem ignoringCase_consistent :
    (∀ a b, CaseSensitivity.insensitive.agrees a b = true ↔ lowercased a = lowercased b) ∧
    (∀ a b, equalAsciiCase a b = true → lowercased a = lowercased b) ∧
    (Equivalence fun a b => CaseSensitivity.insensitive.agrees a b = true) ∧
    ∀ (pairs : List (String × Value)) (key : String),
      (key ∈ Members.keys pairs →
        Members.getIgnoringCase? (.ofList pairs) key = Members.lastGiven? pairs key ∧
          (Members.lastGiven? pairs key).isSome) ∧
      (∀ name, key ∉ Members.keys pairs → Members.firstAgreeing? pairs key = some name →
        Members.getIgnoringCase? (.ofList pairs) key = Members.lastGiven? pairs name ∧
          (Members.lastGiven? pairs name).isSome) ∧
      (Members.getIgnoringCase? (.ofList pairs) key = none ↔
        ∀ name ∈ Members.keys pairs, CaseSensitivity.insensitive.agrees name key = false) := by
  refine ⟨fun a b => agrees_insensitive_iff, fun a b => lowercased_eq_of_equalAsciiCase,
    equivalence_agrees, ?_⟩
  intro pairs key
  refine ⟨?_, ?_, Members.getIgnoringCase?_ofList_eq_none_iff pairs key⟩
  · intro hmem
    have hsome := Members.isSome_lastGiven? pairs hmem
    obtain ⟨v, hv⟩ := Option.isSome_iff_exists.mp hsome
    refine ⟨?_, hsome⟩
    rw [Members.getIgnoringCase?_ofList, hv, Option.some_or]
  · intro name hnew hfirst
    have hnone := (Members.lastGiven?_eq_none_iff pairs key).mpr hnew
    rw [Members.getIgnoringCase?_ofList, hnone, hfirst, Option.none_or, Option.bind_some]
    exact ⟨rfl, Members.isSome_lastGiven? pairs (List.mem_of_find?_eq_some hfirst)⟩

end Stencil
