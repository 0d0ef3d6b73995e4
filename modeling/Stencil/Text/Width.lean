/-!
# Widths in bytes

Positions in a template count bytes of its UTF-8 form, while the text itself is read character by
character. `utf8Width` is the bridge between the two.
-/

namespace Stencil

set_option autoImplicit false

def utf8Width : List Char → Nat
  | [] => 0
  | c :: cs => c.utf8Size + utf8Width cs

@[simp] theorem utf8Width_nil : utf8Width [] = 0 := rfl

@[simp] theorem utf8Width_cons (c : Char) (cs : List Char) :
    utf8Width (c :: cs) = c.utf8Size + utf8Width cs := rfl

@[simp] theorem utf8Width_append (a b : List Char) :
    utf8Width (a ++ b) = utf8Width a + utf8Width b := by
  induction a with
  | nil => simp
  | cons c a ih => simp [ih, Nat.add_assoc]

theorem utf8ByteSize_ofList (cs : List Char) : (String.ofList cs).utf8ByteSize = utf8Width cs := by
  induction cs with
  | nil => simp
  | cons c cs ih =>
    rw [show c :: cs = [c] ++ cs from rfl, String.ofList_append, String.utf8ByteSize_append, ih,
      utf8Width_append]
    simp

theorem utf8Width_toList (s : String) : utf8Width s.toList = s.utf8ByteSize := by
  rw [← utf8ByteSize_ofList, String.ofList_toList]

theorem utf8Width_eq_zero_iff (cs : List Char) : utf8Width cs = 0 ↔ cs = [] := by
  cases cs with
  | nil => simp
  | cons c cs =>
    have := c.utf8Size_pos
    simp only [utf8Width_cons, reduceCtorEq, iff_false]
    omega

end Stencil
