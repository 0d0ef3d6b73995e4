import Stencil.Reading

/-!
# Selector paths

A path is a run of selectors with a mark between them, or nothing at all. It ends before the first
character that introduces another part of the placeholder.
-/

namespace Stencil

set_option autoImplicit false

/-- What is known of a selector before its first character is read. -/
structure SelectorHead where
  index : Nat
  markStart : Nat
  start : Nat
  mark : String

def SelectorHead.selector (head : SelectorHead) (stop : Nat) (text : List Char) : Selector where
  index := head.index
  markStart := head.markStart
  start := head.start
  stop := stop
  mark := head.mark
  text := String.ofList text

/-- The head of the selector behind a mark at byte `position`. -/
def SelectorHead.following (head : SelectorHead) (mark : Char) (position : Nat) :
    SelectorHead where
  index := head.index + 1
  markStart := position
  start := position + mark.utf8Size
  mark := mark.toString

/-- The rest of the selector at hand and where it ends, the selectors after it, and where the path
ended. -/
structure PathRun where
  current : List Char
  currentStop : Nat
  later : List Selector
  stop : Cursor

def readSelectors (d : Dialect) (head : SelectorHead) (position : Nat) :
    List Char → Except Fault PathRun
  | [] => .error (.at position .missingClosing)
  | c :: cs =>
    let next := position + c.utf8Size
    if d.isSelectorChar c then
      (readSelectors d head next cs).map fun r => { r with current := c :: r.current }
    else if c == d.pathMark then
      if head.start = position then .error (.at position .emptySelector)
      else
        let following := head.following c position
        (readSelectors d following next cs).map fun r =>
          { r with
            current := []
            currentStop := position
            later := following.selector r.currentStop r.current :: r.later }
    else if d.endsPath c then
      if head.start = position ∧ head.index ≠ 0 then .error (.at position .trailingPathMark)
      else .ok ⟨[], position, [], ⟨position, c :: cs⟩⟩
    else .error (.at position .invalidSelectorChar)

def readPath (d : Dialect) (position : Nat) (cs : List Char) :
    Except Fault (List Selector × Cursor) :=
  let first : SelectorHead := ⟨0, position, position, ""⟩
  (readSelectors d first position cs).map fun r =>
    (first.selector r.currentStop r.current :: r.later, r.stop)

end Stencil
