import Stencil.Formatter

/-!
# Choices

The options of the placeholder are compared with the text of the value, and the first that agrees
picks the section of the same number. One section more than options is for values that no option
names.
-/

namespace Stencil

set_option autoImplicit false

namespace Formatter

/-- The options as written: the text before the first separator and the texts after each. A
separator in an escape sequence separates nothing; the first `skip` characters belong to a
sequence. -/
def splitOptionsAfter : Nat → List Char → List Char × List (List Char)
  | _, [] => ([], [])
  | skip + 1, c :: cs =>
    let (text, later) := splitOptionsAfter skip cs
    (c :: text, later)
  | 0, c :: cs =>
    if c = escapeMark then
      let (text, later) := splitOptionsAfter (CharLiteral.extent cs) cs
      (c :: text, later)
    else
      let (text, later) := splitOptionsAfter 0 cs
      if c = sectionMark then ([], text :: later) else (c :: text, later)

/-- The options, their escapes resolved. -/
def splitOptions (raw : String) : List String :=
  let (text, later) := splitOptionsAfter 0 raw.toList
  (text :: later).map fun cs => unescape true (String.ofList cs)

/-- The text that options are compared with. -/
def comparedText : Value → String
  | .null => "null"
  | v => v.text

/-- The section for a value; `count` is the number of sections. -/
def choice? (s : CaseSensitivity) (options : List String) (count : Nat) (text : String) :
    Option Nat :=
  (options.findIdx? (s.agrees · text)).or
    (if options.length < count then some options.length else none)

def choose : Formatter where
  names := ["choose", "c"]
  format r :=
    match r.format? with
    | none => .fail (r.unformatted .missingFormat)
    | some f =>
      let options := splitOptions r.placeholder.optionsRaw
      let s := f.split sectionMark
      if s.count ≠ options.length ∧ s.count ≠ options.length + 1 then
        .fail (r.unformatted (.sectionCount options.length s.count))
      else
        let text := comparedText r.value
        match choice? r.settings.caseSensitivity options s.count text with
        | some i => do
          Script.render (s.pick i) r.value
          return true
        | none => .fail (r.unformatted (.noOption text))

end Formatter

end Stencil
