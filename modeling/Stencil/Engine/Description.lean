import Stencil.Engine
import Stencil.Text.Quoted

/-!
# The description of an engine

One line that shows the settings of an engine, how many sources it has and the names of its
formatters.
-/

namespace Stencil

set_option autoImplicit false

def bracketed (items : List String) : String := "[" ++ ", ".intercalate items ++ "]"

/-- A name and its fields between braces. -/
def record (name : String) (fields : List (String × String)) : String :=
  name ++ " \x7b " ++ ", ".intercalate (fields.map fun (k, v) => k ++ ": " ++ v) ++ " \x7d"

def optional {α : Type} (describe : α → String) : Option α → String
  | none => "None"
  | some a => "Some(" ++ describe a ++ ")"

def describeBool (b : Bool) : String := if b then "true" else "false"

def ErrorAction.description : ErrorAction → String
  | fail => "ThrowError"
  | message => "OutputErrorInResult"
  | nothing => "Ignore"
  | asWritten => "MaintainTokens"

def CaseSensitivity.description : CaseSensitivity → String
  | sensitive => "CaseSensitive"
  | insensitive => "CaseInsensitive"

def Dialect.description (d : Dialect) : String :=
  record "ParserSettings" [
    ("placeholder_begin", quotedLetter d.opening),
    ("placeholder_end", quotedLetter d.closing),
    ("selector_operator", quotedLetter d.pathMark),
    ("alignment_operator", quotedLetter d.alignmentMark),
    ("formatter_name_separator", quotedLetter d.formatMark),
    ("formatter_options_begin", quotedLetter d.optionsOpening),
    ("formatter_options_end", quotedLetter d.optionsClosing),
    ("alternative_escape_char", optional quotedLetter d.escape),
    ("extra_selector_chars", bracketed (d.selectorExtras.map quotedLetter)),
    ("convert_char_literals", describeBool d.charLiterals),
    ("parse_error_action", d.onMalformed.description),
    ("max_nesting_depth", toString d.maxDepth),
    ("max_alignment", toString d.maxAlignment),
    ("formatter_names",
      optional (fun names => bracketed (names.map quotedString)) d.formatterNames)]

def Settings.description (s : Settings) : String :=
  record "Settings" [
    ("parser", s.dialect.description),
    ("case_sensitivity", s.caseSensitivity.description),
    ("format_error_action", s.onFailure.description)]

def Engine.description (e : Engine) : String :=
  record "SmartFormatter" [
    ("settings", e.settings.description),
    ("sources", toString e.sources.length),
    ("formatters", bracketed (e.formatters.map fun f => bracketed (f.names.map quotedString))),
    ("cache", describeBool e.usesCache)]

end Stencil
