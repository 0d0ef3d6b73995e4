/-!
# Lists joined by separators

What the parts of a list are to the whole when a separator stands between them.
-/

namespace Stencil

set_option autoImplicit false

section Joined

variable {α β : Type}

theorem flatMap_intercalate (f : α → List β) (x : α) (ls : List (List α)) :
    ([x].intercalate ls).flatMap f = (f x).intercalate (ls.map (List.flatMap f)) := by
  induction ls with
  | nil => rfl
  | cons l ls ih =>
    cases ls with
    | nil => simp
    | cons l' ls => simpa [List.intercalate_cons_cons] using ih

theorem nil_intercalate (ls : List (List α)) : [].intercalate ls = ls.flatten := by
  induction ls with
  | nil => rfl
  | cons l ls ih =>
    cases ls with
    | nil => simp
    | cons l' ls => simpa [List.intercalate_cons_cons] using ih

theorem mem_intercalate {x y : α} {ls : List (List α)} (h : y ∈ [x].intercalate ls) :
    y = x ∨ ∃ l ∈ ls, y ∈ l := by
  induction ls with
  | nil => cases h
  | cons l ls ih =>
    cases ls with
    | nil => exact .inr ⟨l, List.mem_cons_self, by simpa using h⟩
    | cons l' ls =>
      simp only [List.intercalate_cons_cons, List.mem_append, List.mem_singleton] at h
      rcases h with (hl | rfl) | hlater
      · exact .inr ⟨l, List.mem_cons_self, hl⟩
      · exact .inl rfl
      · exact (ih hlater).imp_right fun ⟨m, hm, hy⟩ => ⟨m, List.mem_cons_of_mem l hm, hy⟩

variable [BEq α] {x y : α} {xs part first : List α} {later : List (List α)}

theorem length_splitOn (x : α) (xs : List α) : (xs.splitOn x).length = xs.count x + 1 := by
  induction xs with
  | nil => rfl
  | cons y ys ih =>
    rw [List.splitOn_cons_eq_if_modifyHead, List.count_cons]
    split <;> simp [ih]

/-- Of what a list is cut into, only the first part goes on over one more entry before it. -/
theorem mem_splitOn_cons [LawfulBEq α] (hne : y ≠ x) (h : part ∈ (y :: xs).splitOn x) :
    part ∈ xs.splitOn x ∨
      ∃ first later, xs.splitOn x = first :: later ∧ part = y :: first := by
  rw [List.splitOn_cons_eq_if_modifyHead, if_neg (by simpa using hne)] at h
  cases hsplit : xs.splitOn x with
  | nil => exact absurd hsplit (List.splitOn_ne_nil x xs)
  | cons first later =>
    rw [hsplit, List.modifyHead_cons] at h
    rcases List.mem_cons.mp h with rfl | hlater
    · exact .inr ⟨first, later, rfl, rfl⟩
    · exact .inl (List.mem_cons_of_mem first hlater)

theorem eq_append_of_splitOn [LawfulBEq α] (h : xs.splitOn x = first :: later) :
    xs = first ∨ ∃ more, xs = first ++ x :: more := by
  have hjoin : [x].intercalate (xs.splitOn x) = xs := List.intercalate_splitOn x
  rw [h] at hjoin
  cases later with
  | nil => exact .inl (by simpa using hjoin.symm)
  | cons next later =>
    rw [List.intercalate_cons_cons] at hjoin
    exact .inr ⟨[x].intercalate (next :: later), by simpa using hjoin.symm⟩

end Joined

end Stencil
