import Stencil.Error

/-!
# Readings

A template is read from left to right. A reader is given the rest of the text and the byte at
which it begins; it yields a result, or a fault. Issues that were met and put right on the way
stay on record either way.
-/

namespace Stencil

set_option autoImplicit false

/-- A place in a template: the byte it is at, and the text from there on. -/
structure Cursor where
  position : Nat
  rest : List Char

/-- What ends a reading. -/
inductive Fault where
  | malformed (issue : Issue)
  | tooDeep (position : Nat)

def Fault.at (position : Nat) (cause : Malformation) : Fault := .malformed ⟨position, cause⟩

def Fault.toError (d : Dialect) (text : String) : Fault → Error
  | .malformed issue => .ofIssue text issue
  | .tooDeep position => .tooDeep position d.maxDepth

structure Reading (α : Type) where
  issues : List Issue
  outcome : Except Fault α

namespace Reading

variable {α β : Type}

def ok (a : α) : Reading α := ⟨[], .ok a⟩

def fail (fault : Fault) : Reading α := ⟨[], .error fault⟩

def bind (r : Reading α) (f : α → Reading β) : Reading β :=
  match r.outcome with
  | .error fault => ⟨r.issues, .error fault⟩
  | .ok a => ⟨r.issues ++ (f a).issues, (f a).outcome⟩

instance : Monad Reading where
  pure := ok
  bind := bind

instance : LawfulMonad Reading :=
  .mk' Reading
    (fun r => by rcases r with ⟨issues, fault | a⟩ <;> simp [Functor.map, bind, ok])
    (fun a f => by simp [Bind.bind, Pure.pure, bind, ok])
    (fun r f g => by
      rcases r with ⟨issues, fault | a⟩
      · rfl
      · rcases h : f a with ⟨more, fault | b⟩ <;> simp [Bind.bind, bind, h])

def ofExcept (e : Except Fault α) : Reading α := ⟨[], e⟩

/-- Goes on whether or not the reading succeeded. -/
def attempt (r : Reading α) : Reading (Except Fault α) := ⟨r.issues, .ok r.outcome⟩

end Reading

/-- Records what was wrong if the dialect lets it be replaced. -/
def Dialect.tolerate (d : Dialect) : Fault → Reading Issue
  | .malformed issue => if d.recovers then ⟨[issue], .ok issue⟩ else .fail (.malformed issue)
  | .tooDeep position => .fail (.tooDeep position)

end Stencil
