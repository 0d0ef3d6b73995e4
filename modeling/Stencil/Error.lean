import Stencil.Template
import Stencil.Value.Diagnostic

/-!
# Errors

Everything that can go wrong while a template is read or rendered or data is taken over, by cause;
the wording is in one function a type. An error about the spelling of a template shows the line
and points at the place.
-/

namespace Stencil

set_option autoImplicit false

/-- The line of a text that holds a position, and how many characters of it come before. -/
structure Caret where
  line : String
  column : Nat
deriving DecidableEq

namespace Caret

/-- The characters that begin before byte `n`, and the others. -/
def splitAtByte : Nat → List Char → List Char × List Char
  | 0, cs => ([], cs)
  | _, [] => ([], [])
  | n, c :: cs =>
    let (before, after) := splitAtByte (n - c.utf8Size) cs
    (c :: before, after)

def locate (text : String) (position : Nat) : Caret :=
  let (before, after) := splitAtByte position text.toList
  let head := (before.reverse.takeWhile (· ≠ '\n')).reverse
  ⟨String.ofList (head ++ after.takeWhile (· ≠ '\n')), head.length⟩

def text (c : Caret) : String :=
  "\n" ++ c.line ++ "\n" ++ String.ofList (List.replicate c.column ' ') ++ "^"

end Caret

/-- Why a resolved value could not be written. -/
inductive FormattingCause where
  | noFormatter (name : String)
  | missingFormat
  | sectionCount (options sections : Nat)
  | noOption (text : String)
  | datePattern (pattern : String)
  /-- A complaint of an extension. -/
  | other (message : String)
deriving DecidableEq

def FormattingCause.message : FormattingCause → String
  | noFormatter name =>
    if name = "" then "No formatter could handle the value"
    else "No formatter named \"" ++ name ++ "\" could handle the value"
  | missingFormat => "choose requires a nested format"
  | sectionCount options sections =>
    "choose has " ++ toString options ++ " options but " ++ toString sections ++
      " sections; expected as many sections, or one more for the default"
  | noOption text => "no option matches \"" ++ text ++ "\" and there is no default"
  | datePattern pattern => "invalid date format \"" ++ pattern ++ "\""
  | other message => message

/-- What cannot be taken over as data. -/
inductive Unsupported where
  | key (found : Value)
  | other (message : String)

def Unsupported.message : Unsupported → String
  | key found => "map key must be a string or scalar, found " ++ found.diagnostic
  | other message => message

inductive Error where
  | malformed (issue : Issue) (caret : Caret)
  | tooDeep (position max : Nat)
  | unresolved (placeholder selector : String)
  | unformatted (placeholder : String) (cause : FormattingCause)
  | unsupported (what : Unsupported)
  | io (message : String)
  | custom (message : String)

namespace Error

def ofIssue (text : String) (issue : Issue) : Error :=
  .malformed issue (.locate text issue.position)

def message : Error → String
  | malformed issue caret => issue.text ++ caret.text
  | tooDeep position max =>
    "Nesting depth exceeds the maximum of " ++ toString max ++ " at position " ++
      toString position
  | unresolved placeholder selector =>
    "Could not evaluate the selector \"" ++ selector ++ "\" of placeholder " ++ placeholder
  | unformatted placeholder cause =>
    "Could not format placeholder " ++ placeholder ++ ": " ++ cause.message
  | unsupported what => "Unsupported type: " ++ what.message
  | io message => "IO error: " ++ message
  | custom message => message

def position? : Error → Option Nat
  | malformed issue _ => some issue.position
  | tooDeep position _ => some position
  | _ => none

/-- Whether an error action may put something in the place of the failed part. -/
def isRecoverable : Error → Bool
  | tooDeep .. => false
  | _ => true

end Error

end Stencil
