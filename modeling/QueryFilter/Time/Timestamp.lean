import QueryFilter.Failure
import QueryFilter.Time.Calendar

/-!
# Timestamps

A `Timestamp` is a number of milliseconds since the beginning of 1970 in universal time.
`Timestamp.parse` reads a date, a date with a time of day, or a date with a time of day and an
offset from universal time; `Timestamp.render` writes the last of these forms.
-/

namespace QueryFilter

/-- Milliseconds since the beginning of 1970 in universal time. -/
structure Timestamp where
  millis : Int64
  deriving DecidableEq

namespace Timestamp

/-- The milliseconds of a day. -/
def dayMillis : Int := 86400000

/-- The order of two timestamps. -/
def compare (a b : Timestamp) : Ordering := Ord.compare a.millis.toInt b.millis.toInt

/-- The first timestamp is not later than the second. -/
def notAfter (a b : Timestamp) : Bool := a.millis.toInt ≤ b.millis.toInt

/-- The beginning of a day. -/
def ofDate (d : Date) : Timestamp := ⟨.ofInt (d.dayNumber * dayMillis)⟩

/-- The last millisecond that is not after the given microsecond. -/
def ofMicros (micros : Int) : Timestamp := ⟨.ofInt (micros / 1000)⟩

/-! ### Reading -/

/-- Reads the digits at the beginning of a text, at least one and at most `most`. -/
def digits? (most : Nat) (t : Text) : Option (Nat × Text) :=
  let digits := (t.take most).takeWhile Char.isDigit
  if digits.isEmpty then none
  else some (Nat.ofDigitChars 10 digits 0, t.drop digits.length)

/-- Reads a field of at most two digits; blanks before it are skipped. -/
def field? (t : Text) : Option (Nat × Text) := digits? 2 t.trimStart

/-- Reads a year: at most four digits, or any number of them after a sign; blanks before it are
skipped. -/
def year? (t : Text) : Option (Int × Text) :=
  match t.trimStart with
  | '-' :: rest => (digits? rest.length rest).map fun (n, r) => (-(n : Int), r)
  | '+' :: rest => (digits? rest.length rest).map fun (n, r) => ((n : Int), r)
  | rest => (digits? 4 rest).map fun (n, r) => ((n : Int), r)

/-- Reads a fixed character. -/
def char? (c : Char) : Text → Option Text
  | [] => none
  | d :: rest => if d = c then some rest else none

/-- The dates that can be read. -/
def inRange (d : Date) : Bool := -262143 ≤ d.year && d.year ≤ 262142 && d.isValid

/-- Reads a date as year, month and day, joined by hyphens. -/
def date? (t : Text) : Option (Date × Text) := do
  let (year, t) ← year? t
  let t ← char? '-' t
  let (month, t) ← field? t
  let t ← char? '-' t
  let (day, t) ← field? t
  let d : Date := ⟨year, month, day⟩
  if inRange d then some (d, t) else none

/-- The milliseconds that the digits after a decimal point mean. -/
def fractionMillis (digits : Text) : Nat :=
  Nat.ofDigitChars 10 ((digits ++ ['0', '0', '0']).take 3) 0

/-- Reads an optional fraction of a second, as milliseconds; what is smaller is dropped. -/
def fraction? (t : Text) : Option (Nat × Text) :=
  match t with
  | '.' :: rest =>
    let digits := rest.takeWhile Char.isDigit
    if digits.isEmpty then none
    else some (fractionMillis digits, rest.drop digits.length)
  | _ => some (0, t)

/-- A time of day exists, a sixtieth second being allowed for. -/
def isTimeOfDay (hour minute second : Nat) : Bool := hour < 24 && minute < 60 && second ≤ 60

/-- The milliseconds of a time of day. -/
def timeMillis (hour minute second millis : Nat) : Int :=
  ((hour * 60 + minute) * 60 + second) * 1000 + millis

/-- Reads a time of day with an optional fraction. -/
def time? (t : Text) : Option (Int × Text) := do
  let (hour, t) ← field? t
  let t ← char? ':' t
  let (minute, t) ← field? t
  let t ← char? ':' t
  let (second, t) ← field? t
  let (millis, t) ← fraction? t
  if isTimeOfDay hour minute second then some (timeMillis hour minute second millis, t) else none

/-- Reads exactly `count` digits. -/
def fixed? (count : Nat) (t : Text) : Option (Nat × Text) :=
  let digits := t.take count
  if digits.length = count ∧ digits.all Char.isDigit then
    some (Nat.ofDigitChars 10 digits 0, t.drop count)
  else none

/-- Reads one of several characters. -/
def oneOf? (choices : List Char) : Text → Option (Char × Text)
  | [] => none
  | c :: rest => if choices.contains c then some (c, rest) else none

/-- Reads an offset from universal time, as minutes. -/
def offset? (t : Text) : Option (Int × Text) :=
  match t with
  | 'Z' :: rest | 'z' :: rest => some (0, rest)
  | _ => do
    let (sign, t) ← oneOf? ['+', '-', '\u2212'] t
    let (hours, t) ← fixed? 2 t
    let t ← char? ':' t
    let (minutes, t) ← fixed? 2 t
    let total : Int := 60 * hours + minutes
    if hours < 24 ∧ minutes < 60 then some (if sign = '+' then total else -total, t) else none

/-- Reads a date, a time of day and an offset with a fixed number of digits in each field. -/
def offsetTime? (t : Text) : Option (Int × Text) := do
  let (year, t) ← fixed? 4 t
  let t ← char? '-' t
  let (month, t) ← fixed? 2 t
  let t ← char? '-' t
  let (day, t) ← fixed? 2 t
  let (_, t) ← oneOf? ['T', 't', ' '] t
  let (hour, t) ← fixed? 2 t
  let t ← char? ':' t
  let (minute, t) ← fixed? 2 t
  let t ← char? ':' t
  let (second, t) ← fixed? 2 t
  let (millis, t) ← fraction? t
  let (offset, t) ← offset? t
  let d : Date := ⟨year, month, day⟩
  if d.isValid && isTimeOfDay hour minute second then
    some (d.dayNumber * dayMillis + timeMillis hour minute second millis - offset * 60000, t)
  else none

/-- A reading of the whole text, as milliseconds. -/
def whole? : Option (Int × Text) → Option Int
  | some (millis, []) => some millis
  | _ => none

/-- A date alone means its beginning. -/
def dateMillis? (t : Text) : Option Int :=
  whole? ((date? t).map fun (d, rest) => (d.dayNumber * dayMillis, rest))

/-- A date with a time of day, in universal time. -/
def dateTimeMillis? (t : Text) : Option Int :=
  whole? do
    let (d, t) ← date? t
    let t ← char? 'T' t
    let (millis, t) ← time? t
    some (d.dayNumber * dayMillis + millis, t)

/-- Reads the literal of a date comparison. -/
def parse (literal : Text) : Except Failure Timestamp :=
  let t := literal.trim
  match dateMillis? t <|> dateTimeMillis? t <|> whole? (offsetTime? t) with
  | some millis => .ok ⟨.ofInt millis⟩
  | none => .error (.invalidDate t)

/-! ### Writing -/

/-- The decimal digits of a number, with zeros in front up to a width. -/
def padded (width n : Nat) : Text :=
  let digits := Nat.toDigits 10 n
  List.replicate (width - digits.length) '0' ++ digits

/-- A year has four digits, and a sign before them unless it lies between 0 and 9999. -/
def renderYear (year : Int) : Text :=
  if year < 0 then '-' :: padded 4 year.natAbs
  else if 9999 < year then '+' :: padded 4 year.natAbs
  else padded 4 year.natAbs

/-- A date as year, month and day, joined by hyphens. -/
def renderDate (d : Date) : Text :=
  renderYear d.year ++ ['-'] ++ padded 2 d.month ++ ['-'] ++ padded 2 d.day

/-- The timestamps from the beginning of the year `-262143` to the end of the year `262142` have
a date. -/
def hasDate (t : Timestamp) : Bool :=
  -8334601228800000 ≤ t.millis.toInt && t.millis.toInt ≤ 8210266876799999

/-- A time of day in milliseconds, to the millisecond. -/
def renderTime (millis : Nat) : Text :=
  padded 2 (millis / 3600000) ++ [':'] ++ padded 2 (millis / 60000 % 60) ++ [':']
    ++ padded 2 (millis / 1000 % 60) ++ ['.'] ++ padded 3 (millis % 1000)

/-- A timestamp as date and time of day in universal time, or as its milliseconds when it has no
date. -/
def render (t : Timestamp) : Text :=
  let n := t.millis.toInt
  if t.hasDate then
    renderDate (Date.ofDayNumber (n / dayMillis)) ++ ['T'] ++ renderTime (n % dayMillis).toNat
      ++ ['Z']
  else (if n < 0 then ['-'] else []) ++ Nat.toDigits 10 n.natAbs ++ ['m', 's']

end Timestamp

end QueryFilter
