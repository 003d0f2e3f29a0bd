/-!
Calendar dates and timestamps.

A `Date` is a day of the proleptic Gregorian calendar, years 1 to 9999. A
`Timestamp` is a date with a time of day to the microsecond and, when it
names its zone, an offset from UTC in whole minutes, strictly less than a day
either way. `Date.make` and `Timestamp.make` check their fields in the order
the calendar is read (year, month, day, then hour, minute, second) and say
which one is out of range.

Both have two texts: the ISO form (`2001-12-14 21:59:43.100000-05:00`) and
the constructor form that literals show
(`datetime.date(2001, 12, 14)`).
-/

namespace ChatSession

structure Date where
  year : Nat
  month : Nat
  day : Nat
deriving Repr, DecidableEq, Inhabited

/-- A date and time of day, with an offset from UTC in minutes if the zone is named. -/
structure Timestamp where
  date : Date
  hour : Nat
  minute : Nat
  second : Nat
  micro : Nat
  offset : Option Int
deriving Repr, DecidableEq, Inhabited

namespace Date

/-- Leap years: every fourth, except centuries not divisible by 400. -/
def isLeap (y : Nat) : Bool := y % 4 == 0 && (y % 100 != 0 || y % 400 == 0)

def daysIn (y m : Nat) : Nat :=
  match m with
  | 2 => if isLeap y then 29 else 28
  | 4 | 6 | 9 | 11 => 30
  | _ => 31

/-- A date from its fields, or why they name no day. -/
def make (y m d : Nat) : Except String Date :=
  if y < 1 || y > 9999 then .error ("year " ++ toString y ++ " is out of range")
  else if m < 1 || m > 12 then .error "month must be in 1..12"
  else if d < 1 || d > daysIn y m then .error "day is out of range for month"
  else .ok ⟨y, m, d⟩

/-- Decimal digits of `n`, padded with zeros to `width`. -/
def padded (width n : Nat) : String :=
  let ds := Nat.toDigits 10 n
  String.ofList (List.replicate (width - ds.length) '0' ++ ds)

/-- Days from the start of year 1 to the start of the date. -/
def ordinal (d : Date) : Nat :=
  let y := d.year - 1
  let before := (List.range (d.month - 1)).foldl (fun acc i => acc + daysIn d.year (i + 1)) 0
  365 * y + y / 4 - y / 100 + y / 400 + before + (d.day - 1)

/-- The ISO text: `2001-01-01`. -/
def iso (d : Date) : String :=
  padded 4 d.year ++ "-" ++ padded 2 d.month ++ "-" ++ padded 2 d.day

/-- The constructor text: `datetime.date(2001, 1, 1)`. -/
def literal (d : Date) : String :=
  "datetime.date(" ++ toString d.year ++ ", " ++ toString d.month ++ ", " ++
    toString d.day ++ ")"

example : (make 2000 2 29).toOption = some ⟨2000, 2, 29⟩ := by decide
example : (make 1900 2 29).toOption = none := by decide

end Date

namespace Timestamp

def dayMinutes : Int := 1440

/-- A span of time as days, seconds within the day and microseconds, the way
a time difference is shown: `datetime.timedelta(days=-1, seconds=68400)`. -/
def spanLiteral (totalSeconds : Int) : String :=
  let days := totalSeconds / 86400
  let seconds := totalSeconds % 86400
  let parts := (if days != 0 then ["days=" ++ toString days] else []) ++
    (if seconds != 0 then ["seconds=" ++ toString seconds] else [])
  if parts.isEmpty then "datetime.timedelta(0)"
  else "datetime.timedelta(" ++ ", ".intercalate parts ++ ")"

/-- Why an offset of so many minutes names no zone. -/
def offsetProblem (minutes : Int) : String :=
  "offset must be a timedelta strictly between -timedelta(hours=24) and " ++
    "timedelta(hours=24), not " ++ spanLiteral (60 * minutes) ++ "."

/-- A zone offset in minutes, or why it names no zone. -/
def checkOffset (minutes : Int) : Except String Int :=
  if -dayMinutes < minutes && minutes < dayMinutes then .ok minutes
  else .error (offsetProblem minutes)

/-- A timestamp from its fields, or why they name no time. -/
def make (d : Date) (h m s micro : Nat) (offset : Option Int) : Except String Timestamp :=
  if h > 23 then .error "hour must be in 0..23"
  else if m > 59 then .error "minute must be in 0..59"
  else if s > 59 then .error "second must be in 0..59"
  else if micro > 999999 then .error "microsecond must be in 0..999999"
  else .ok ⟨d, h, m, s, micro, offset⟩

/-- The offset as text: `+05:30`, `-05:00`. -/
def offsetText (minutes : Int) : String :=
  let sign := if minutes < 0 then "-" else "+"
  let a := minutes.natAbs
  sign ++ Date.padded 2 (a / 60) ++ ":" ++ Date.padded 2 (a % 60)

/-- The ISO text with a space between date and time:
`2001-12-14 21:59:43.100000-05:00`; microseconds only when there are any. -/
def iso (t : Timestamp) : String :=
  t.date.iso ++ " " ++ Date.padded 2 t.hour ++ ":" ++ Date.padded 2 t.minute ++ ":" ++
    Date.padded 2 t.second ++
    (if t.micro != 0 then "." ++ Date.padded 6 t.micro else "") ++
    (match t.offset with
     | some o => offsetText o
     | none => "")

def zoneLiteral (minutes : Int) : String :=
  if minutes == 0 then "datetime.timezone.utc"
  else "datetime.timezone(" ++ spanLiteral (60 * minutes) ++ ")"

/-- The constructor text; trailing zero seconds and microseconds are left out. -/
def literal (t : Timestamp) : String :=
  let d := t.date
  let fields := [d.year, d.month, d.day, t.hour, t.minute] ++
    (if t.micro != 0 then [t.second, t.micro] else if t.second != 0 then [t.second] else [])
  "datetime.datetime(" ++ ", ".intercalate (fields.map toString) ++
    (match t.offset with
     | some o => ", tzinfo=" ++ zoneLiteral o
     | none => "") ++ ")"

/-- The moment in microseconds since the start of year 1, UTC, for
timestamps that name their zone. -/
def instant (t : Timestamp) : Int :=
  let wall : Int := ((t.date.ordinal * 24 + t.hour) * 60 + t.minute) * 60 + t.second
  (wall - 60 * t.offset.getD 0) * 1000000 + t.micro

/-- Two timestamps are equal when both are naive and alike, or both name a
zone and stand for the same moment. -/
def same (a b : Timestamp) : Bool :=
  match a.offset, b.offset with
  | none, none => a == b
  | some _, some _ => a.instant == b.instant
  | _, _ => false

example : (⟨⟨2001, 12, 14⟩, 21, 59, 43, 100000, some (-300)⟩ : Timestamp).iso =
    "2001-12-14 21:59:43.100000-05:00" := by decide

end Timestamp

end ChatSession
