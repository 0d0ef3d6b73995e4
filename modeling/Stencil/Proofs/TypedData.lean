import Stencil.Datum.Read

/-!
# Two ways from typed data to values

Data can be converted to a value, or be read as one. Where both take the shapes it is made of, they
yield the same value, with the members of every object in the same order.
-/

namespace Stencil

set_option autoImplicit false

namespace IntWidth

/-- The bits that are left for the magnitude. -/
def magnitudeBits (w : IntWidth) : Nat := if w.signed then w.bits - 1 else w.bits

/-- What the magnitude of an integer of the width stays below, or reaches if it is negative. -/
def limit (w : IntWidth) : Nat := 1 <<< w.magnitudeBits

/-- Whether the integer is one of the width. -/
def Holds (w : IntWidth) (n : Int) : Prop :=
  (if w.signed then -(w.limit : Int) else 0) ≤ n ∧ n < w.limit

/-- An integer of the width as a value. A narrow one is a number without further ado; whether 64
bits hold a wider one has to be tried. -/
def convert (w : IntWidth) (n : Int) : Value :=
  if w.magnitudeBits ≤ 63 then .number (.integer (Int64.ofInt n)) else .ofInt n

/-- The next width that a reader of integers of 64 bits and more has a method for. -/
def widened (w : IntWidth) : IntWidth := { w with bits := max w.bits 64 }

theorem limit_le_limit {w w' : IntWidth} (h : w.magnitudeBits ≤ w'.magnitudeBits) :
    w.limit ≤ w'.limit := by
  rw [limit, limit, Nat.one_shiftLeft, Nat.one_shiftLeft]
  exact Nat.pow_le_pow_right (by omega) h

theorem magnitudeBits_le_widened (w : IntWidth) : w.magnitudeBits ≤ w.widened.magnitudeBits := by
  obtain ⟨signed, bits⟩ := w
  cases signed with
  | false =>
    change bits ≤ max bits 64
    omega
  | true =>
    change bits - 1 ≤ max bits 64 - 1
    omega

variable {w : IntWidth} {n : Int}

theorem Holds.fits (h : w.Holds n) (hnarrow : w.magnitudeBits ≤ 63) :
    Int64.minValue.toInt ≤ n ∧ n ≤ Int64.maxValue.toInt := by
  have hmin : Int64.minValue.toInt = -9223372036854775808 := rfl
  have hmax : Int64.maxValue.toInt = 9223372036854775807 := rfl
  have hwidest : limit ⟨true, 64⟩ = 9223372036854775808 := rfl
  have hlimit : w.limit ≤ limit ⟨true, 64⟩ := limit_le_limit hnarrow
  rw [hwidest] at hlimit
  obtain ⟨hleast, hmost⟩ := h
  rw [hmin, hmax]
  split at hleast
  all_goals omega

theorem Holds.widened (h : w.Holds n) : w.widened.Holds n := by
  have hlimit := limit_le_limit w.magnitudeBits_le_widened
  have hsigned : w.widened.signed = w.signed := rfl
  obtain ⟨hleast, hmost⟩ := h
  refine ⟨?_, by omega⟩
  by_cases hs : w.signed = true
  · rw [if_pos hs] at hleast
    rw [hsigned, if_pos hs]
    omega
  · rw [if_neg hs] at hleast
    rw [hsigned, if_neg hs]
    exact hleast

/-- On the integers of a width the conversion of the width is the one of all integers. -/
theorem convert_eq (h : w.Holds n) : w.convert n = .ofInt n := by
  unfold convert
  split
  · rename_i hnarrow
    rw [Value.ofInt, if_pos (h.fits hnarrow)]
  · rfl

end IntWidth

namespace Datum

mutual

/-- The data as a reader meets it that has no methods of its own for narrow integers, small
floating-point numbers and characters, so that they are forwarded to the next wider one. -/
def forwarded : Datum → Datum
  | .int width n => .int width.widened n
  | .single bits => .double (.ofSingle bits)
  | .char c => .string c.toString
  | .some d => .some d.forwarded
  | .sequence items => .sequence (forwardedItems items)
  | .map entries => .map (forwardedEntries entries)
  | d => d
termination_by structural d => d

def forwardedItems : List Datum → List Datum
  | [] => []
  | d :: ds => d.forwarded :: forwardedItems ds
termination_by structural ds => ds

def forwardedEntries : List (Datum × Datum) → List (Datum × Datum)
  | [] => []
  | (k, d) :: es => (k.forwarded, d.forwarded) :: forwardedEntries es
termination_by structural es => es

end

def IsText : Datum → Prop
  | .string _ | .char _ => True
  | _ => False

/-- Data of the shapes that are both converted and read. -/
inductive Plain : Datum → Prop
  | unit : Plain .unit
  | none : Plain .none
  | some {d : Datum} (inner : Plain d) : Plain (.some d)
  | bool (b : Bool) : Plain (.bool b)
  | int {width : IntWidth} {n : Int} (holds : width.Holds n) : Plain (.int width n)
  | single (bits : UInt32) : Plain (.single bits)
  | double (x : Binary64) : Plain (.double x)
  | char (c : Char) : Plain (.char c)
  | string (s : String) : Plain (.string s)
  | sequence {items : List Datum} (inner : ∀ d ∈ items, Plain d) : Plain (.sequence items)
  | map {entries : List (Datum × Datum)} (keys : ∀ e ∈ entries, e.1.IsText)
      (values : ∀ e ∈ entries, Plain e.2) : Plain (.map entries)

/-- What the data is converted to and what it is read as, however it is forwarded. -/
structure Yields (d : Datum) (v : Value) : Prop where
  converted : d.toValue = .ok v
  read : d.read = .ok v
  forwarded : d.forwarded.read = .ok v

theorem yields_items {items : List Datum} (h : ∀ d ∈ items, ∃ v, d.Yields v) :
    ∃ vs, toItems items = .ok vs ∧ readItems items = .ok vs ∧
      readItems (forwardedItems items) = .ok vs := by
  induction items with
  | nil => exact ⟨[], rfl, rfl, rfl⟩
  | cons d ds ih =>
    obtain ⟨v, hv⟩ := h d List.mem_cons_self
    obtain ⟨vs, hconverted, hread, hforwarded⟩ := ih fun d' hd => h d' (List.mem_cons_of_mem d hd)
    refine ⟨v :: vs, ?_, ?_, ?_⟩
    · rw [toItems, hv.converted, hconverted]
      rfl
    · rw [readItems, hv.read, hread]
      rfl
    · rw [forwardedItems, readItems, hv.forwarded, hforwarded]
      rfl

/-- A text is the same key for the reader as for the converter. -/
theorem IsText.exists_key {k : Datum} (h : k.IsText) :
    ∃ key, k.toValue = .ok (.string key) ∧ k.readKey = .ok key ∧
      k.forwarded.readKey = .ok key := by
  cases k with
  | string s => exact ⟨s, rfl, rfl, rfl⟩
  | char c => exact ⟨c.toString, rfl, rfl, rfl⟩
  | _ => exact absurd h id

/-- Entries are put in one after the other, so a key that comes again keeps its place either way. -/
theorem yields_entries {entries : List (Datum × Datum)} (hkeys : ∀ e ∈ entries, e.1.IsText)
    (hvalues : ∀ e ∈ entries, ∃ v, e.2.Yields v) (before : Members) :
    ∃ ms, toMembers before entries = .ok ms ∧ readMembers before entries = .ok ms ∧
      readMembers before (forwardedEntries entries) = .ok ms := by
  induction entries generalizing before with
  | nil => exact ⟨before, rfl, rfl, rfl⟩
  | cons e es ih =>
    obtain ⟨k, d⟩ := e
    obtain ⟨key, hkey, hreadKey, hforwardedKey⟩ := (hkeys (k, d) List.mem_cons_self).exists_key
    obtain ⟨v, hv⟩ := hvalues (k, d) List.mem_cons_self
    obtain ⟨ms, hconverted, hread, hforwarded⟩ :=
      ih (fun e he => hkeys e (List.mem_cons_of_mem _ he))
        (fun e he => hvalues e (List.mem_cons_of_mem _ he)) (Members.insert before key v)
    refine ⟨ms, ?_, ?_, ?_⟩
    · rw [toMembers, hkey, hv.converted]
      exact hconverted
    · rw [readMembers, hreadKey, hv.read]
      exact hread
    · rw [forwardedEntries, readMembers, hforwardedKey, hv.forwarded]
      exact hforwarded

theorem Plain.exists_yields {d : Datum} (h : d.Plain) : ∃ v, d.Yields v := by
  induction h with
  | unit => exact ⟨.null, rfl, rfl, rfl⟩
  | none => exact ⟨.null, rfl, rfl, rfl⟩
  | some inner ih =>
    obtain ⟨v, hv⟩ := ih
    exact ⟨v, hv.converted, hv.read, hv.forwarded⟩
  | bool b => exact ⟨.bool b, rfl, rfl, rfl⟩
  | @int width n holds => exact ⟨.ofInt n, rfl, rfl, rfl⟩
  | single bits => exact ⟨.ofDouble (.ofSingle bits), rfl, rfl, rfl⟩
  | double x => exact ⟨.ofDouble x, rfl, rfl, rfl⟩
  | char c => exact ⟨.ofChar c, rfl, rfl, rfl⟩
  | string s => exact ⟨.string s, rfl, rfl, rfl⟩
  | sequence inner ih =>
    obtain ⟨vs, hconverted, hread, hforwarded⟩ := yields_items ih
    refine ⟨.array vs, ?_, ?_, ?_⟩
    · rw [toValue, hconverted]
      rfl
    · rw [Datum.read, hread]
      rfl
    · rw [Datum.forwarded, Datum.read, hforwarded]
      rfl
  | map keys values ih =>
    obtain ⟨ms, hconverted, hread, hforwarded⟩ := yields_entries keys ih []
    refine ⟨.object ms, ?_, ?_, ?_⟩
    · rw [toValue, hconverted]
      rfl
    · rw [Datum.read, hread]
      rfl
    · rw [Datum.forwarded, Datum.read, hforwarded]
      rfl

/-- Data of the shapes that both ways take becomes the same value either way, with the same order of
members, and also if all that is narrow in it is forwarded to wider methods. The integers of every
width are converted as that width is, before they are forwarded and after. -/
theorem read_agrees_toValue :
    (∀ d : Datum, d.Plain →
      ∃ v, d.toValue = .ok v ∧ d.read = .ok v ∧ d.forwarded.read = .ok v) ∧
    ∀ (width : IntWidth) (n : Int), width.Holds n →
      (Datum.int width n).toValue = .ok (width.convert n) ∧
        (Datum.int width n).forwarded.read = .ok (width.widened.convert n) := by
  constructor
  · intro d h
    obtain ⟨v, hv⟩ := h.exists_yields
    exact ⟨v, hv.converted, hv.read, hv.forwarded⟩
  · intro width n hn
    rw [IntWidth.convert_eq hn, IntWidth.convert_eq hn.widened]
    exact ⟨rfl, rfl⟩

/-- The largest numbers of 64 bits with and without a sign, and a key that comes twice. -/
def mixedData : Datum :=
  .map [(.char 'k', .bool true),
    (.string "a", .some (.sequence [.int ⟨false, 64⟩ 18446744073709551615,
      .int ⟨true, 128⟩ 9223372036854775807, .none])),
    (.string "k", .char 'x')]

/-- The key that comes twice keeps its place and takes the later value. -/
theorem read_agrees_toValue_mixed :
    mixedData.Plain ∧ mixedData.read = .ok (.object [("k", .string "x"),
      ("a", .array [.bigInt 18446744073709551615, .number (.integer 9223372036854775807),
        .null])]) := by
  have hplain : mixedData.Plain := by
    have hitems : Plain (.sequence [.int ⟨false, 64⟩ 18446744073709551615,
        .int ⟨true, 128⟩ 9223372036854775807, .none]) := by
      apply Plain.sequence
      simp only [List.forall_mem_cons]
      exact ⟨.int ⟨by decide, by decide⟩, .int ⟨by decide, by decide⟩, .none, by simp⟩
    apply Plain.map
    · simp [IsText]
    · simp only [List.forall_mem_cons]
      exact ⟨.bool true, .some hitems, .char 'x', by simp⟩
  obtain ⟨v, hconverted, hread, -⟩ := read_agrees_toValue.1 mixedData hplain
  -- What the data is converted to is computed, and what it is read as is the same.
  cases hconverted
  exact ⟨hplain, hread⟩

end Datum

end Stencil
