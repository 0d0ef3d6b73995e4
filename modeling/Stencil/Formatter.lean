import Stencil.Error
import Stencil.Template.Sections

/-!
# Formatters

A formatter writes the value of a placeholder, or declines and leaves it to the next. What it does
is a script: text to write and nested formats to render, one step after the other. The script sees
whether a nested format failed and may go on all the same; it never touches the output itself.
-/

namespace Stencil

set_option autoImplicit false

/-- A placeholder that could not be rendered. -/
structure Failure where
  /-- The text of the placeholder. -/
  placeholder : String
  position : Nat
  error : Error

def Failure.message (f : Failure) : String := f.error.message

inductive Script (α : Type) where
  | done (a : α)
  | fail (e : Error)
  | write (text : String) (next : Script α)
  /-- Renders a format with a value as the innermost scope. -/
  | nested (format : Format) (value : Value) (next : Except Error Unit → Script α)
  /-- Asks which placeholders have failed so far. -/
  | failures (next : List Failure → Script α)

namespace Script

variable {α β : Type}

def bind : Script α → (α → Script β) → Script β
  | done a, f => f a
  | fail e, _ => .fail e
  | write text next, f => .write text (next.bind f)
  | nested format value next, f => .nested format value fun r => (next r).bind f
  | failures next, f => .failures fun failed => (next failed).bind f

instance : Monad Script where
  pure := done
  bind := bind

theorem bind_done (s : Script α) : s.bind done = s := by
  induction s with
  | done | fail => rfl
  | write text next ih => simp only [bind, ih]
  | nested format value next ih => simp only [bind, ih]
  | failures next ih => simp only [bind, ih]

theorem bind_bind {γ : Type} (s : Script α) (f : α → Script β) (g : β → Script γ) :
    (s.bind f).bind g = s.bind fun a => (f a).bind g := by
  induction s with
  | done | fail => rfl
  | write text next ih => simp only [bind, ih]
  | nested format value next ih => simp only [bind, ih]
  | failures next ih => simp only [bind, ih]

instance : LawfulMonad Script := .mk' Script bind_done (fun _ _ => rfl) bind_bind

def put (text : String) : Script Unit := .write text (.done ())

/-- Renders a format and hands on whether it failed. -/
def tryRender (format : Format) (value : Value) : Script (Except Error Unit) :=
  .nested format value .done

/-- Renders a format and fails as it does. -/
def render (format : Format) (value : Value) : Script Unit :=
  .nested format value fun
    | .ok _ => .done ()
    | .error e => .fail e

def failureCount : Script Nat := .failures fun failed => .done failed.length

end Script

/-- What a formatter is given: the value, its placeholder, and the call it belongs to. -/
structure Request where
  value : Value
  placeholder : Placeholder
  template : Template
  args : List Value
  settings : Settings
  /-- The dialect that the engine at hand reads templates in. -/
  dialect : Dialect
  /-- How many templates are kept in the cache, if there is one. -/
  cached : Option Nat
  /-- The moment that dates are compared with. -/
  now : Instant

namespace Request

def name (r : Request) : String := r.placeholder.name

def format? (r : Request) : Option Format := r.placeholder.format

def unformatted (r : Request) (cause : FormattingCause) : Error :=
  .unformatted r.placeholder.raw cause

end Request

structure Formatter where
  /-- With the empty name a formatter takes part where a placeholder names none. -/
  names : List String
  /-- False if the formatter declines. -/
  format : Request → Script Bool

/-- Whether a formatter is asked when a placeholder names `name`. -/
def Formatter.answersTo (f : Formatter) (s : CaseSensitivity) (name : String) : Bool :=
  if name = "" then f.names.contains ""
  else f.names.any fun own => own ≠ "" && s.agrees own name

/-- What separates the sections of a nested format. -/
def sectionMark : Char := '|'

end Stencil
