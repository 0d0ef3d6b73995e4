import Stencil.Value
import Stencil.Text.Matching

/-!
# Members of an object

Lookup and insertion on the list of pairs that an object is. A key that is inserted again keeps its
place and takes the new value.
-/

namespace Stencil

set_option autoImplicit false

abbrev Members := List (String × Value)

namespace Members

def get? (ms : Members) (key : String) : Option Value :=
  (ms.find? (·.1 == key)).map (·.2)

def contains (ms : Members) (key : String) : Bool := ms.any (·.1 == key)

/-- The member of that very name, or else the first whose name agrees up to case. -/
def getIgnoringCase? (ms : Members) (key : String) : Option Value :=
  (get? ms key).or ((ms.find? (lowercased ·.1 == lowercased key)).map (·.2))

def insert (ms : Members) (key : String) (value : Value) : Members :=
  match ms with
  | [] => [(key, value)]
  | m :: ms => if m.1 = key then (key, value) :: ms else m :: insert ms key value

def ofList (pairs : List (String × Value)) : Members :=
  pairs.foldl (fun ms m => insert ms m.1 m.2) []

/-- The members in the order of their names. -/
def sortedByKey (ms : Members) : Members := ms.mergeSort fun a b => a.1 ≤ b.1

def keys (ms : Members) : List String := ms.map (·.1)

def values (ms : Members) : List Value := ms.map (·.2)

theorem contains_iff (ms : Members) (key : String) :
    contains ms key ↔ key ∈ keys ms := by
  simp [contains, keys, List.any_eq_true]

@[simp] theorem keys_insert (ms : Members) (key : String) (value : Value) :
    keys (insert ms key value) = if key ∈ keys ms then keys ms else keys ms ++ [key] := by
  induction ms with
  | nil => rfl
  | cons m ms ih =>
    simp only [keys, List.map_cons, List.mem_cons] at ih ⊢
    unfold insert
    by_cases h : m.1 = key
    · simp [h]
    · simp only [h, if_false, List.map_cons, ih, Ne.symm h, false_or]
      split
      · simp [*]
      · simp [*]

theorem get?_insert (ms : Members) (key key' : String) (value : Value) :
    get? (insert ms key value) key' = if key' = key then some value else get? ms key' := by
  induction ms with
  | nil =>
    by_cases h : key' = key
    · simp [insert, get?, h]
    · simp [insert, get?, h, Ne.symm h]
  | cons m ms ih =>
    simp only [get?] at ih ⊢
    unfold insert
    by_cases h : m.1 = key
    · by_cases h' : key' = key
      · simp [h, h']
      · simp [h, h', Ne.symm h']
    · by_cases h' : m.1 = key'
      · have : key' ≠ key := h' ▸ h
        simp [h', this]
      · simp [h, h', ih]

theorem nodup_keys_insert {ms : Members} (h : (keys ms).Nodup) (key : String) (value : Value) :
    (keys (insert ms key value)).Nodup := by
  rw [keys_insert]
  split
  · exact h
  · rename_i new
    refine List.nodup_append.2 ⟨h, by simp, fun a ha b hb => ?_⟩
    rw [List.mem_singleton.1 hb]
    exact fun same => new (same ▸ ha)

end Members

namespace Value

mutual

/-- Whether two values are the same. Members may stand in any order; values of different kinds never
are the same, and a double NaN is not the same as itself. -/
def same : Value → Value → Bool
  | .null, .null => true
  | .bool a, .bool b => a == b
  | .number a, .number b => a.same b
  | .string a, .string b => a == b
  | .array a, .array b => sameItems a b
  | .object a, .object b => a.length == b.length && sameMembers a b
  | .date a, .date b => a == b
  | .bigInt a, .bigInt b => a == b
  | _, _ => false
termination_by structural v => v

def sameItems : List Value → List Value → Bool
  | [], [] => true
  | v :: vs, w :: ws => v.same w && sameItems vs ws
  | _, _ => false
termination_by structural vs => vs

/-- Whether each of the members has an equal among the others. -/
def sameMembers : List (String × Value) → Members → Bool
  | [], _ => true
  | (k, v) :: ms, others =>
    (match Members.get? others k with
      | some w => v.same w
      | none => false) && sameMembers ms others
termination_by structural ms => ms

end

end Value

end Stencil
