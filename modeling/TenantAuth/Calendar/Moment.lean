/-!
# Calendar times and moments

Seconds since the epoch written as a UTC date and time, and the dates and times of documents
with their texts, equality and order.
-/

/-! ## Calendar times

Seconds since the epoch as a UTC date and time in the proleptic Gregorian calendar, written
`YYYY-MM-DDTHH:MM:SSZ`. Only the years 1 to 9999 can be written; other times have no such
form.

The date comes from the day count by the era method: days are shifted to start on
1 March 0000, split into eras of 400 years (146097 days each), and within an era into years
of 365 days corrected for leap days; months are counted from March so that the leap day
falls last.
-/

namespace TenantAuth

namespace Timestamp

/-- The civil date of a day count since 1970-01-01: year, month and day. -/
def civil (days : Int) : Int × Nat × Nat :=
  let z := days + 719468
  let era := z / 146097
  let doe := (z % 146097).toNat
  let yoe := (doe - doe / 1460 + doe / 36524 - doe / 146096) / 365
  let doy := doe - (365 * yoe + yoe / 4 - yoe / 100)
  let mp := (5 * doy + 2) / 153
  let day := doy - (153 * mp + 2) / 5 + 1
  let month := if mp < 10 then mp + 3 else mp - 9
  let year := (yoe : Int) + era * 400
  (if month ≤ 2 then year + 1 else year, month, day)

/-- A number written with at least a given count of digits. -/
def padded (width : Nat) (n : Nat) : String :=
  let s := toString n
  String.ofList (List.replicate (width - s.length) '0') ++ s

/-- The UTC time of seconds since the epoch, if its year can be written. -/
def isoUtc? (seconds : Int) : Option String :=
  let (year, month, day) := civil (seconds / 86400)
  let t := (seconds % 86400).toNat
  if year < 1 || year > 9999 then none
  else some (padded 4 year.toNat ++ "-" ++ padded 2 month ++ "-" ++ padded 2 day ++ "T" ++
    padded 2 (t / 3600) ++ ":" ++ padded 2 (t / 60 % 60) ++ ":" ++ padded 2 (t % 60) ++ "Z")

example : isoUtc? 1700086400 = some "2023-11-15T22:13:20Z" := by decide
example : isoUtc? 0 = some "1970-01-01T00:00:00Z" := by decide

end Timestamp

end TenantAuth

/-! ## Calendar moments

A moment is a date of the proleptic Gregorian calendar, or a date with a time of day down to
the microsecond and, when the time names its zone, an offset from UTC in minutes. Moments are
what timestamps in documents stand for.

* A moment is *valid* when its offset is strictly less than a day either way, its year is 1
  to 9999, its month 1 to 12, its day within its month (29 February only in leap years), its
  hour 0 to 23 and its minute and second 0 to 59. `Moment.complaint?` names the first field
  out of range in that order.
* Its text is `YYYY-MM-DD`, then for a time ` HH:MM:SS`, six digits of microseconds when
  there are any, and the offset as `+HH:MM` or `-HH:MM`.
* Its unambiguous text names the constructor and its fields; a time drops a zero microsecond,
  and then a zero second, from the end.
* Two moments are equal when both are dates with equal fields, both are times without an
  offset with equal fields, or both are times with offsets naming the same instant.
* Moments are ordered only among dates, among times without offsets, and among times with
  offsets, each by its `position`.
-/

namespace TenantAuth

/-- A time of day, with its offset from UTC when it names one. -/
structure TimeOfDay where
  /-- The hour. -/
  hour : Nat
  /-- The minute. -/
  minute : Nat
  /-- The second. -/
  second : Nat
  /-- The microsecond. -/
  micro : Nat := 0
  /-- Minutes east of UTC, when the time names its zone. -/
  offset : Option Int := none
deriving DecidableEq, Repr

/-- A calendar date, or a date and a time of day. -/
structure Moment where
  /-- The year. -/
  year : Nat
  /-- The month, counted from 1. -/
  month : Nat
  /-- The day of the month, counted from 1. -/
  day : Nat
  /-- The time of day; none for a plain date. -/
  time : Option TimeOfDay := none
deriving DecidableEq, Repr

namespace Moment

/-- Leap years: every fourth year, except centuries not divisible by 400. -/
def isLeap (year : Nat) : Bool :=
  year % 4 == 0 && (year % 100 != 0 || year % 400 == 0)

/-- The number of days of a month of a year. -/
def daysInMonth (year month : Nat) : Nat :=
  match month with
  | 2 => if isLeap year then 29 else 28
  | 4 | 6 | 9 | 11 => 30
  | _ => 31

/-- The day count since 1970-01-01 of a civil date, by the era method that
`Timestamp.civil` inverts. -/
def dayNumber (year month day : Nat) : Int :=
  let y : Int := if month ≤ 2 then (year : Int) - 1 else year
  let era := y / 400
  let yoe := y - era * 400
  let mp : Int := if month > 2 then (month : Int) - 3 else (month : Int) + 9
  let doy := (153 * mp + 2) / 5 + (day : Int) - 1
  let doe := yoe * 365 + yoe / 4 - yoe / 100 + doy
  era * 146097 + doe - 719468

/-- A span of minutes as a duration shows it: whole days, rounded down, then the seconds
left over, each only when it is not zero. -/
def durationRepr (minutes : Int) : String :=
  let seconds := minutes * 60
  let days := seconds / 86400
  let rest := seconds % 86400
  let parts := (if days != 0 then ["days=" ++ toString days] else []) ++
    (if rest != 0 then ["seconds=" ++ toString rest] else [])
  "datetime.timedelta(" ++ (if parts.isEmpty then "0" else ", ".intercalate parts) ++ ")"

/-- Whether an offset in minutes is strictly less than a day either way. -/
def offsetFits (minutes : Int) : Bool :=
  -1440 < minutes && minutes < 1440

/-- The complaint about the first field of a moment that is out of range, if any. -/
def complaint? (m : Moment) : Option String :=
  let offsetBad : Option String := do
    let t ← m.time
    let o ← t.offset
    if offsetFits o then none
    else some ("offset must be a timedelta strictly between -timedelta(hours=24) and " ++
      "timedelta(hours=24), not " ++ durationRepr o ++ ".")
  let dateBad : Option String :=
    if m.year < 1 || m.year > 9999 then some ("year " ++ toString m.year ++ " is out of range")
    else if m.month < 1 || m.month > 12 then some "month must be in 1..12"
    else if m.day < 1 || m.day > daysInMonth m.year m.month then
      some "day is out of range for month"
    else none
  let timeBad : Option String := do
    let t ← m.time
    if t.hour > 23 then some "hour must be in 0..23"
    else if t.minute > 59 then some "minute must be in 0..59"
    else if t.second > 59 then some "second must be in 0..59"
    else if t.micro > 999999 then some "microsecond must be in 0..999999"
    else none
  offsetBad <|> dateBad <|> timeBad

/-- An offset as text: its sign, then hours and minutes. -/
def offsetText (minutes : Int) : String :=
  let sign := if minutes < 0 then "-" else "+"
  let n := minutes.natAbs
  sign ++ Timestamp.padded 2 (n / 60) ++ ":" ++ Timestamp.padded 2 (n % 60)

/-- The text of a moment. -/
def text (m : Moment) : String :=
  let date := Timestamp.padded 4 m.year ++ "-" ++ Timestamp.padded 2 m.month ++ "-" ++
    Timestamp.padded 2 m.day
  match m.time with
  | none => date
  | some t =>
    date ++ " " ++ Timestamp.padded 2 t.hour ++ ":" ++ Timestamp.padded 2 t.minute ++ ":" ++
      Timestamp.padded 2 t.second ++
      (if t.micro != 0 then "." ++ Timestamp.padded 6 t.micro else "") ++
      (match t.offset with
        | some o => offsetText o
        | none => "")

/-- The unambiguous text of a moment. -/
def repr (m : Moment) : String :=
  match m.time with
  | none =>
    "datetime.date(" ++ ", ".intercalate ([m.year, m.month, m.day].map toString) ++ ")"
  | some t =>
    let fields := [m.year, m.month, m.day, t.hour, t.minute, t.second, t.micro]
    let fields :=
      if t.micro != 0 then fields else if t.second != 0 then fields.take 6 else fields.take 5
    let zone := match t.offset with
      | none => ""
      | some 0 => ", tzinfo=datetime.timezone.utc"
      | some o => ", tzinfo=datetime.timezone(" ++ durationRepr o ++ ")"
    "datetime.datetime(" ++ ", ".intercalate (fields.map toString) ++ zone ++ ")"

/-- The instant of a time with an offset, in microseconds since the epoch. -/
def instant (m : Moment) (t : TimeOfDay) (offset : Int) : Int :=
  let minutes := dayNumber m.year m.month m.day * 1440 + (t.hour * 60 + t.minute : Nat) - offset
  (minutes * 60 + t.second) * 1000000 + t.micro

/-- Whether two moments are equal: dates by their fields, times without offsets by their
fields, and times with offsets by the instant they name. -/
def sameAs (a b : Moment) : Bool :=
  match a.time, b.time with
  | none, none => a.year == b.year && a.month == b.month && a.day == b.day
  | some s, some t =>
    match s.offset, t.offset with
    | none, none => a == b
    | some o, some p => a.instant s o == b.instant t p
    | _, _ => false
  | _, _ => false

/-- The kind of a moment: 0 for a date, 1 for a time without an offset and 2 for a time with
one. Only moments of one kind are ordered. -/
def kind (m : Moment) : Nat :=
  match m.time with
  | none => 0
  | some t => if t.offset.isSome then 2 else 1

/-- Where a moment stands on the time line of its kind: the day number of a date, and the
instant of a time, read as UTC when it names no offset. Moments of one kind come in the
order of their positions. -/
def position (m : Moment) : Int :=
  match m.time with
  | none => dayNumber m.year m.month m.day
  | some t => m.instant t (t.offset.getD 0)

example : daysInMonth 2024 2 = 29 ∧ daysInMonth 1900 2 = 28 ∧ daysInMonth 2000 2 = 29 := by
  decide
example : dayNumber 1970 1 1 = 0 ∧ dayNumber 2023 11 15 = 19676 := by decide
example : durationRepr (-60) = "datetime.timedelta(days=-1, seconds=82800)" := by decide
example : repr ⟨2001, 12, 14, some ⟨21, 59, 0, 0, none⟩⟩ = "datetime.datetime(2001, 12, 14, 21, 59)" := by
  decide
example : text ⟨2001, 12, 14, some ⟨21, 59, 43, 100000, some (-300)⟩⟩ =
    "2001-12-14 21:59:43.100000-05:00" := by decide

theorem sameAs_dates (a b : Moment) (ha : a.time = none) (hb : b.time = none) :
    a.sameAs b = (a.year == b.year && a.month == b.month && a.day == b.day) := by
  simp [sameAs, ha, hb]

end Moment

end TenantAuth
