import Stencil.Instant

/-!
# Date patterns

A pattern is text in which a percent sign and a letter stand for a part of a date, as in `%d.%m.%Y`.
A percent sign that begins nothing known spoils the whole pattern.
-/

namespace Stencil

set_option autoImplicit false

namespace Pattern

inductive Padding where
  | zeros
  | spaces
  | nothing

/-- The parts of a date that are numbers. -/
inductive Field where
  | year | century | yearOfCentury
  | isoYear | isoYearOfCentury | isoWeek
  | quarter | month | day | dayOfYear
  | weekFromSunday | weekFromMonday
  | weekdayFromSunday | weekdayFromMonday
  | hour | hour12 | minute | second | nanosecond
  | timestamp

inductive Part where
  | text (s : String)
  | number (field : Field) (padding : Padding)
  | monthName (long : Bool)
  | weekdayName (long : Bool)
  | halfOfDay (upper : Bool)
  /-- As many digits of the second's fraction as it needs. -/
  | fraction
  | fractionDigits (digits : Nat) (point : Bool)
  | complete

/-- Numbers and their usual padding, by letter. -/
def numberField (c : Char) : Option (Field × Padding) :=
  match c with
  | 'C' => some (.century, .zeros)
  | 'G' => some (.isoYear, .zeros)
  | 'H' => some (.hour, .zeros)
  | 'I' => some (.hour12, .zeros)
  | 'M' => some (.minute, .zeros)
  | 'S' => some (.second, .zeros)
  | 'U' => some (.weekFromSunday, .zeros)
  | 'V' => some (.isoWeek, .zeros)
  | 'W' => some (.weekFromMonday, .zeros)
  | 'Y' => some (.year, .zeros)
  | 'd' => some (.day, .zeros)
  | 'e' => some (.day, .spaces)
  | 'f' => some (.nanosecond, .zeros)
  | 'g' => some (.isoYearOfCentury, .zeros)
  | 'j' => some (.dayOfYear, .zeros)
  | 'k' => some (.hour, .spaces)
  | 'l' => some (.hour12, .spaces)
  | 'm' => some (.month, .zeros)
  | 'q' => some (.quarter, .nothing)
  | 's' => some (.timestamp, .nothing)
  | 'u' => some (.weekdayFromMonday, .nothing)
  | 'w' => some (.weekdayFromSunday, .nothing)
  | 'y' => some (.yearOfCentury, .zeros)
  | _ => none

def padded (f : Field) : Part := .number f .zeros

def dayMonthYear : List Part :=
  [padded .month, .text "/", padded .day, .text "/", padded .yearOfCentury]

def clock : List Part := [padded .hour, .text ":", padded .minute, .text ":", padded .second]

/-- What a percent sign and a single letter stand for. -/
def letter (c : Char) : Option (List Part) :=
  match c with
  | '%' => some [.text "%"]
  | 'n' => some [.text "\n"]
  | 't' => some [.text "\t"]
  | 'A' => some [.weekdayName true]
  | 'a' => some [.weekdayName false]
  | 'B' => some [.monthName true]
  | 'b' | 'h' => some [.monthName false]
  | 'P' => some [.halfOfDay false]
  | 'p' => some [.halfOfDay true]
  | 'Z' => some [.text "UTC"]
  | 'z' => some [.text "+0000"]
  | '+' => some [.complete]
  | 'D' | 'x' => some dayMonthYear
  | 'T' | 'X' => some clock
  | 'R' => some [padded .hour, .text ":", padded .minute]
  | 'F' => some [padded .year, .text "-", padded .month, .text "-", padded .day]
  | 'r' => some [padded .hour12, .text ":", padded .minute, .text ":", padded .second, .text " ",
      .halfOfDay true]
  | 'v' => some [.number .day .spaces, .text "-", .monthName false, .text "-", padded .year]
  | 'c' => some ([.weekdayName false, .text " ", .monthName false, .text " ",
      .number .day .spaces, .text " "] ++ clock ++ [.text " ", padded .year])
  | _ => (numberField c).map fun (f, p) => [.number f p]

/-- A number with a padding of its own choice. -/
def repadded (p : Padding) (c : Char) : Option (List Part) :=
  (numberField c).map fun (f, _) => [.number f p]

def parts : List Char → Option (List Part)
  | [] => some []
  | '%' :: '-' :: c :: cs => return (← repadded .nothing c) ++ (← parts cs)
  | '%' :: '0' :: c :: cs => return (← repadded .zeros c) ++ (← parts cs)
  | '%' :: '_' :: c :: cs => return (← repadded .spaces c) ++ (← parts cs)
  | '%' :: ':' :: ':' :: ':' :: 'z' :: cs => return .text "+00" :: (← parts cs)
  | '%' :: ':' :: ':' :: 'z' :: cs => return .text "+00:00:00" :: (← parts cs)
  | '%' :: ':' :: 'z' :: cs => return .text "+00:00" :: (← parts cs)
  | '%' :: '.' :: 'f' :: cs => return .fraction :: (← parts cs)
  | '%' :: '.' :: '3' :: 'f' :: cs => return .fractionDigits 3 true :: (← parts cs)
  | '%' :: '.' :: '6' :: 'f' :: cs => return .fractionDigits 6 true :: (← parts cs)
  | '%' :: '.' :: '9' :: 'f' :: cs => return .fractionDigits 9 true :: (← parts cs)
  | '%' :: '3' :: 'f' :: cs => return .fractionDigits 3 false :: (← parts cs)
  | '%' :: '6' :: 'f' :: cs => return .fractionDigits 6 false :: (← parts cs)
  | '%' :: '9' :: 'f' :: cs => return .fractionDigits 9 false :: (← parts cs)
  | '%' :: c :: cs => return (← letter c) ++ (← parts cs)
  | ['%'] => none
  | c :: cs => return .text c.toString :: (← parts cs)

def monthNames : List String :=
  ["January", "February", "March", "April", "May", "June", "July", "August", "September",
    "October", "November", "December"]

def weekdayNames : List String :=
  ["Monday", "Tuesday", "Wednesday", "Thursday", "Friday", "Saturday", "Sunday"]

def name (names : List String) (long : Bool) (index : Nat) : String :=
  let whole := (names[index]?).getD ""
  if long then whole else String.ofList (whole.toList.take 3)

/-- A number of one byte in two places. The place of the tens goes on past the digits when the
number has more than two. -/
def twoPlaces (p : Padding) (n : Nat) : String :=
  let ones := [Char.ofNat ('0'.toNat + n % 10)]
  if n / 10 = 0 then
    match p with
    | .zeros => String.ofList ('0' :: ones)
    | .spaces => String.ofList (' ' :: ones)
    | .nothing => String.ofList ones
  else String.ofList (Char.ofNat ('0'.toNat + n / 10) :: ones)

/-- A number in at least `width` places, a sign included; zeros stand behind the sign and spaces
before it. -/
def places (p : Padding) (width : Nat) (signed : Bool) (n : Int) : String :=
  let sign : List Char := if n < 0 then ['-'] else if signed then ['+'] else []
  let digits := Nat.toDigits 10 n.natAbs
  let missing := width - (sign.length + digits.length)
  match p with
  | .zeros => String.ofList (sign ++ List.replicate missing '0' ++ digits)
  | .spaces => String.ofList (List.replicate missing ' ' ++ sign ++ digits)
  | .nothing => String.ofList (sign ++ digits)

/-- A year that has not four digits is written with its sign in a place of its own. -/
def yearPlaces (p : Padding) (year : Int) : String :=
  if 0 ≤ year ∧ year ≤ 9999 then places p 4 false year else places p 5 true year

def onTwelve (hour : Nat) : Nat := if hour % 12 = 0 then 12 else hour % 12

def fieldText (t : Instant) (p : Padding) : Field → String
  | .year => yearPlaces p t.date.year
  | .century => twoPlaces p (t.date.year / 100 % 256).toNat
  | .yearOfCentury => twoPlaces p (t.date.year % 100).toNat
  | .isoYear => yearPlaces p t.isoYear
  | .isoYearOfCentury => twoPlaces p (t.isoYear % 100).toNat
  | .isoWeek => twoPlaces p t.isoWeek
  | .quarter => toString ((t.date.month - 1) / 3 + 1)
  | .month => twoPlaces p t.date.month
  | .day => twoPlaces p t.date.day
  | .dayOfYear => places p 3 false t.date.dayOfYear
  | .weekFromSunday => twoPlaces p (t.weekOfYear 6)
  | .weekFromMonday => twoPlaces p (t.weekOfYear 0)
  | .weekdayFromSunday => toString ((t.weekday + 1) % 7)
  | .weekdayFromMonday => toString (t.weekday + 1)
  | .hour => twoPlaces p t.hour
  | .hour12 => twoPlaces p (onTwelve t.hour)
  | .minute => twoPlaces p t.minute
  | .second => twoPlaces p t.second
  | .nanosecond => places p 9 false t.nanosecond
  | .timestamp => places p 9 false t.seconds

def partText (t : Instant) : Part → String
  | .text s => s
  | .number f p => fieldText t p f
  | .monthName long => name monthNames long (t.date.month - 1)
  | .weekdayName long => name weekdayNames long t.weekday
  | .halfOfDay upper =>
    if t.hour < 12 then (if upper then "AM" else "am") else (if upper then "PM" else "pm")
  | .fraction => Instant.fractionText t.nanosecond
  | .fractionDigits digits point =>
    (if point then "." else "") ++
      Instant.zeroPadded digits (t.nanosecond / Nat.pow 10 (9 - digits))
  | .complete => t.text

end Pattern

/-- The date written after a pattern, if every percent sign of the pattern begins something known.
-/
def Instant.format? (t : Instant) (pattern : String) : Option String :=
  (Pattern.parts pattern.toList).map fun ps => String.join (ps.map (Pattern.partText t))

end Stencil
