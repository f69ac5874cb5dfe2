import LedBoard.Text.Decimal
import LedBoard.Time.Moment

/-!
# Patterns of time

A pattern says how a moment is written. A percent sign in it starts a conversion, which stands
for a part of the moment; all else stands for itself. A number is filled up to its width, with
zeros or with blanks as its conversion says, unless a sign between the percent sign and the
letter says otherwise: `-` for not at all, `0` for zeros and `_` for blanks. A percent sign that
starts no conversion makes the pattern unreadable.

No conversion starts another, so at most one of them fits.

* `Pattern.ofText?`: reads a pattern;
* `Pattern.write`: writes a moment.
-/

namespace LedBoard.Time

/-- The parts of a moment that are numbers. -/
inductive Quantity
  | century
  | year
  | yearOfCentury
  | quarter
  | month
  | day
  | ordinal
  /-- The year to which the week belongs. -/
  | weekYear
  | weekYearOfCentury
  | week
  /-- How many Sundays there were in the year. -/
  | sundays
  /-- How many Mondays there were in the year. -/
  | mondays
  /-- The day of the week, Monday being 1 and Sunday 7. -/
  | weekday
  /-- How many days ago Sunday was. -/
  | daysFromSunday
  | hour
  /-- The hour of one half of the day, 12 being the first. -/
  | hourOfHalf
  | minute
  | second
  | nanosecond
  /-- The seconds since the year 1970 began in universal time. -/
  | timestamp
  deriving DecidableEq, Repr

namespace Quantity

/-- The number of digits to which the quantity is filled up. -/
def width : Quantity → Nat
  | .year | .weekYear => 4
  | .quarter | .weekday | .daysFromSunday => 1
  | .ordinal => 3
  | .nanosecond | .timestamp => 9
  | _ => 2

/-- The quantity at a moment. -/
def value (m : Moment) : Quantity → Nat
  | .century => m.date.year / 100
  | .year => m.date.year
  | .yearOfCentury => m.date.year % 100
  | .quarter => (m.date.month + 2) / 3
  | .month => m.date.month
  | .day => m.date.day
  | .ordinal => m.date.ordinal
  | .weekYear => m.date.thursday.year
  | .weekYearOfCentury => m.date.thursday.year % 100
  | .week => (m.date.thursday.ordinal + 6) / 7
  | .sundays => (m.date.ordinal + 6 - (m.date.weekday + 1) % 7) / 7
  | .mondays => (m.date.ordinal + 6 - m.date.weekday) / 7
  | .weekday => m.date.weekday + 1
  | .daysFromSunday => (m.date.weekday + 1) % 7
  | .hour => m.hour
  | .hourOfHalf => (m.hour + 11) % 12 + 1
  | .minute => m.minute
  | .second => m.second
  | .nanosecond => m.nanosecond
  | .timestamp => m.seconds

end Quantity

/-- How much of the offset of a clock is written. -/
inductive OffsetParts
  | hours
  | minutes
  | seconds
  deriving DecidableEq, Repr

/-- A piece of a pattern. -/
inductive Piece
  | character (c : Char)
  /-- A number, filled up with a character, or not at all. -/
  | number (q : Quantity) (fill : Option Char)
  /-- The name of the day of the week, or its first three letters. -/
  | weekday (inFull : Bool)
  /-- The name of the month, or its first three letters. -/
  | month (inFull : Bool)
  /-- The half of the day. -/
  | half (before after : String)
  /-- The fraction of the second, without a point. -/
  | fraction (digits : Nat)
  /-- The fraction of the second behind a point, in the fewest of three, six and nine digits that
      hold it; nothing if there is no fraction. -/
  | exactFraction
  /-- The offset of the clock, the numbers in it parted by a text. -/
  | offset (parts : OffsetParts) (separator : String)
  deriving DecidableEq, Repr

/-- A readable pattern. -/
abbrev Pattern := List Piece

namespace Piece

/-- The names of the days of the week. -/
def weekdays : List String :=
  ["Monday", "Tuesday", "Wednesday", "Thursday", "Friday", "Saturday", "Sunday"]

/-- The names of the months. -/
def months : List String :=
  ["January", "February", "March", "April", "May", "June", "July", "August", "September",
    "October", "November", "December"]

/-- The name at a place of a list, in full or its first three letters. -/
def nameAt (names : List String) (place : Nat) (inFull : Bool) : String :=
  let name := names.getD place ""
  if inFull then name else String.ofList (name.toList.take 3)

/-- The first digits of the nanoseconds. -/
def writeFraction (nanosecond digits : Nat) : String :=
  String.ofList ((Text.filled '0' 9 nanosecond).toList.take digits)

/-- The fraction of the second with its point. -/
def writeExactFraction (nanosecond : Nat) : String :=
  if nanosecond = 0 then ""
  else "." ++ writeFraction nanosecond
    (if nanosecond % 1000000 = 0 then 3 else if nanosecond % 1000 = 0 then 6 else 9)

/-- The offset of a clock; where seconds are not written it is rounded to minutes. -/
def writeOffset (offset : Int) (parts : OffsetParts) (separator : String) : String :=
  let ahead := offset.natAbs
  let two := Text.filled '0' 2
  (if offset < 0 then "-" else "+") ++
    match parts with
    | .hours => two (ahead / 3600)
    | .minutes =>
      let minutes := (ahead + 30) / 60
      two (minutes / 60) ++ separator ++ two (minutes % 60)
    | .seconds =>
      two (ahead / 3600) ++ separator ++ two (ahead / 60 % 60) ++ separator ++ two (ahead % 60)

/-- The text of a piece at a moment. -/
def write (m : Moment) : Piece → String
  | .character c => String.singleton c
  | .number q (some fill) => Text.filled fill q.width (q.value m)
  | .number q none => Text.decimalNat (q.value m)
  | .weekday inFull => nameAt weekdays m.date.weekday inFull
  | .month inFull => nameAt months (m.date.month - 1) inFull
  | .half before after => if m.hour < 12 then before else after
  | .fraction digits => writeFraction m.nanosecond digits
  | .exactFraction => writeExactFraction m.nanosecond
  | .offset parts separator => writeOffset m.offset parts separator

end Piece

/-! ## Conversions -/

/-- A conversion: what stands behind its percent sign, and what it stands for. -/
abbrev Conversion := String × List Piece

/-- The letters of the quantities, with what fills them up. -/
def quantities : List (String × Quantity × Option Char) :=
  [("C", .century, some '0'), ("Y", .year, some '0'), ("y", .yearOfCentury, some '0'),
    ("q", .quarter, none), ("m", .month, some '0'), ("d", .day, some '0'), ("e", .day, some ' '),
    ("j", .ordinal, some '0'), ("G", .weekYear, some '0'), ("g", .weekYearOfCentury, some '0'),
    ("V", .week, some '0'), ("U", .sundays, some '0'), ("W", .mondays, some '0'),
    ("u", .weekday, none), ("w", .daysFromSunday, none), ("H", .hour, some '0'),
    ("k", .hour, some ' '), ("I", .hourOfHalf, some '0'), ("l", .hourOfHalf, some ' '),
    ("M", .minute, some '0'), ("S", .second, some '0'), ("f", .nanosecond, some '0'),
    ("s", .timestamp, none)]

/-- The conversions to numbers: each with no sign and with every sign. -/
def numberConversions : List Conversion :=
  quantities.flatMap fun (letter, q, fill) =>
    [(letter, [.number q fill]), ("-" ++ letter, [.number q none]),
      ("0" ++ letter, [.number q (some '0')]), ("_" ++ letter, [.number q (some ' ')])]

/-- The conversions to texts. -/
def textConversions : List Conversion :=
  [("a", [.weekday false]), ("A", [.weekday true]), ("b", [.month false]), ("h", [.month false]),
    ("B", [.month true]), ("p", [.half "AM" "PM"]), ("P", [.half "am" "pm"]),
    ("3f", [.fraction 3]), ("6f", [.fraction 6]), ("9f", [.fraction 9]), (".f", [.exactFraction]),
    (".3f", [.character '.', .fraction 3]), (".6f", [.character '.', .fraction 6]),
    (".9f", [.character '.', .fraction 9]), ("z", [.offset .minutes ""]),
    (":z", [.offset .minutes ":"]), ("Z", [.offset .minutes ":"]), ("::z", [.offset .seconds ":"]),
    (":::z", [.offset .hours ""]), ("n", [.character '\n']), ("t", [.character '\t']),
    ("%", [.character '%'])]

/-- The conversions that stand for a pattern. -/
def shorthands : List (String × String) :=
  [("D", "%m/%d/%y"), ("x", "%m/%d/%y"), ("F", "%Y-%m-%d"), ("v", "%e-%b-%Y"), ("R", "%H:%M"),
    ("T", "%H:%M:%S"), ("X", "%H:%M:%S"), ("r", "%I:%M:%S %p"), ("c", "%a %b %e %H:%M:%S %Y"),
    ("+", "%Y-%m-%dT%H:%M:%S%.f%:z")]

/-- Reads a pattern in which the listed conversions can occur, less its first `skip` characters. -/
def readPieces (conversions : List Conversion) : (skip : Nat) → List Char → Option Pattern
  | _, [] => some []
  | skip + 1, _ :: r => readPieces conversions skip r
  | 0, '%' :: r => do
    let (name, pieces) ← conversions.find? fun (name, _) => name.toList.isPrefixOf r
    return pieces ++ (← readPieces conversions name.length r)
  | 0, c :: r => do return .character c :: (← readPieces conversions 0 r)

/-- The conversions. -/
def conversions : List Conversion :=
  let simple := numberConversions ++ textConversions
  simple ++ shorthands.filterMap fun (name, pattern) =>
    (readPieces simple 0 pattern.toList).map (name, ·)

namespace Pattern

/-- Reads a pattern. -/
def ofText? (s : String) : Option Pattern := readPieces conversions 0 s.toList

/-- Writes a moment. -/
def write (p : Pattern) (m : Moment) : String := Text.joined "" (p.map (Piece.write m))

end Pattern

end LedBoard.Time
