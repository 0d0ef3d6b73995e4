import Stencil.Template

/-!
# Pieces end to end

Pieces that stand one behind the other cover every byte from the first to the last of them exactly
once.
-/

namespace Stencil

set_option autoImplicit false

def Piece.start : Piece → Nat
  | literal l => l.start
  | placeholder p => p.start

def Piece.stop : Piece → Nat
  | literal l => l.stop
  | placeholder p => p.stop

/-- Whether byte `b` of the template belongs to the piece. -/
def Piece.Covers (p : Piece) (b : Nat) : Prop := p.start ≤ b ∧ b < p.stop

/-- The text of pieces end to end. -/
def piecesText (ps : List Piece) : List Char := ps.flatMap fun p => p.raw.toList

/-- The pieces follow one another from byte `start` on, and none is empty. -/
def Consecutive : Nat → List Piece → Prop
  | _, [] => True
  | start, p :: ps => p.start = start ∧ p.raw ≠ "" ∧ Consecutive p.stop ps

theorem Piece.stop_eq (p : Piece) : p.stop = p.start + utf8Width p.raw.toList := by
  cases p <;> simp [stop, start, raw, Literal.stop, Placeholder.stop, utf8Width_toList]

theorem Piece.start_lt_stop {p : Piece} (hp : p.raw ≠ "") : p.start < p.stop := by
  have hwidth : utf8Width p.raw.toList ≠ 0 := by
    rw [Ne, utf8Width_eq_zero_iff]
    simpa using hp
  rw [p.stop_eq]
  omega

@[simp] theorem piecesText_nil : piecesText [] = [] := rfl

@[simp] theorem piecesText_cons (p : Piece) (ps : List Piece) :
    piecesText (p :: ps) = p.raw.toList ++ piecesText ps := by
  simp [piecesText]

theorem Format.toList_raw (f : Format) : f.raw.toList = piecesText f.pieces := by
  rcases f with ⟨start, depth, pieces⟩
  simp only [raw]
  induction pieces with
  | nil => rfl
  | cons p ps ih => simp [ih]

section Consecutive

variable {start b : Nat} {p q : Piece} {ps : List Piece}

theorem Consecutive.raw_ne (h : Consecutive start ps) (hp : p ∈ ps) : p.raw ≠ "" := by
  induction ps generalizing start with
  | nil => cases hp
  | cons q ps ih =>
    obtain ⟨-, hne, hrest⟩ := h
    rcases List.mem_cons.mp hp with rfl | hp
    · exact hne
    · exact ih hrest hp

/-- A piece begins where the text of the pieces before it ends. -/
theorem Consecutive.located (h : Consecutive start ps) (hp : p ∈ ps) :
    ∃ before after, piecesText ps = before ++ (p.raw.toList ++ after) ∧
      p.start = start + utf8Width before := by
  induction ps generalizing start with
  | nil => cases hp
  | cons q ps ih =>
    obtain ⟨hstart, -, hrest⟩ := h
    rcases List.mem_cons.mp hp with rfl | hp
    · exact ⟨[], piecesText ps, by simp, by simpa using hstart⟩
    · obtain ⟨before, after, htext, hp'⟩ := ih hrest hp
      refine ⟨q.raw.toList ++ before, after, by simp [htext], ?_⟩
      rw [hp', q.stop_eq, hstart, utf8Width_append, Nat.add_assoc]

theorem Consecutive.le_start (h : Consecutive start ps) (hp : p ∈ ps) : start ≤ p.start := by
  obtain ⟨before, after, -, hstart⟩ := h.located hp
  omega

theorem Consecutive.stop_le (h : Consecutive start ps) (hp : p ∈ ps) :
    p.stop ≤ start + utf8Width (piecesText ps) := by
  obtain ⟨before, after, htext, hstart⟩ := h.located hp
  rw [p.stop_eq, htext, hstart]
  simp only [utf8Width_append]
  omega

theorem Consecutive.pairwise (h : Consecutive start ps) :
    ps.Pairwise fun p q => p.stop ≤ q.start := by
  induction ps generalizing start with
  | nil => exact .nil
  | cons p ps ih =>
    obtain ⟨-, -, hrest⟩ := h
    exact .cons (fun q hq => hrest.le_start hq) (ih hrest)

theorem Consecutive.exists_covers (h : Consecutive start ps) (hb : start ≤ b)
    (hstop : b < start + utf8Width (piecesText ps)) : ∃ p ∈ ps, p.Covers b := by
  induction ps generalizing start with
  | nil =>
    simp only [piecesText_nil, utf8Width_nil] at hstop
    omega
  | cons p ps ih =>
    obtain ⟨hp, -, hrest⟩ := h
    by_cases hcovers : b < p.stop
    · exact ⟨p, List.mem_cons_self, by omega, hcovers⟩
    · have hend := p.stop_eq
      rw [piecesText_cons, utf8Width_append] at hstop
      obtain ⟨q, hq, hqb⟩ := ih hrest (by omega) (by omega)
      exact ⟨q, List.mem_cons_of_mem _ hq, hqb⟩

theorem Consecutive.eq_of_covers (h : Consecutive start ps) (hp : p ∈ ps) (hq : q ∈ ps)
    (hpb : p.Covers b) (hqb : q.Covers b) : p = q := by
  induction ps generalizing start with
  | nil => cases hp
  | cons r ps ih =>
    obtain ⟨-, -, hrest⟩ := h
    obtain ⟨hp1, hp2⟩ := hpb
    obtain ⟨hq1, hq2⟩ := hqb
    rcases List.mem_cons.mp hp with rfl | hp' <;> rcases List.mem_cons.mp hq with rfl | hq'
    · rfl
    · have := hrest.le_start hq'
      omega
    · have := hrest.le_start hp'
      omega
    · exact ih hrest hp' hq'

end Consecutive

end Stencil
