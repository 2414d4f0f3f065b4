/-!
# Dates and moments

Calendar dates of the years 1 to 9999 and moments on them, with a microsecond fraction and an
optional offset from universal time in minutes. `Date.check` and `Moment.check` name the first field
that is out of range.
-/

namespace AccessPolicy

/-- A calendar date. -/
structure Date where
  /-- The year. -/
  year : Nat
  /-- The month, from 1. -/
  month : Nat
  /-- The day of the month, from 1. -/
  day : Nat
deriving DecidableEq, Repr, Inhabited

/-- A date with a time of day. -/
structure Moment where
  /-- The date. -/
  date : Date
  /-- The hour. -/
  hour : Nat
  /-- The minute. -/
  minute : Nat
  /-- The second. -/
  second : Nat
  /-- The microsecond. -/
  micro : Nat
  /-- The offset from universal time in minutes, where one is given. -/
  offset : Option Int
deriving DecidableEq, Repr, Inhabited

/-- What can be out of range in a date or a moment. -/
inductive CalendarError where
  /-- The year is not between 1 and 9999. -/
  | year (n : Nat)
  /-- The month is not between 1 and 12. -/
  | month
  /-- The month has no such day. -/
  | day
  /-- The hour is not between 0 and 23. -/
  | hour
  /-- The minute is not between 0 and 59. -/
  | minute
  /-- The second is not between 0 and 59. -/
  | second
  /-- The offset is a day or more. -/
  | offset (minutes : Int)
deriving DecidableEq, Repr

/-- Whether a year has a leap day. -/
def isLeap (year : Nat) : Bool := year % 4 = 0 ∧ (year % 100 ≠ 0 ∨ year % 400 = 0)

/-- The number of days of a month. -/
def daysIn (year month : Nat) : Nat :=
  if month = 2 then (if isLeap year then 29 else 28)
  else if month ∈ [4, 6, 9, 11] then 30 else 31

/-- A number in decimal, padded with zeros to at least `size` digits. -/
def padded (size n : Nat) : String :=
  let digits := Nat.toDigits 10 n
  String.ofList (List.replicate (size - digits.length) '0' ++ digits)

namespace Date

/-- The first field that is out of range. -/
def check (d : Date) : Option CalendarError :=
  if d.year < 1 ∨ 9999 < d.year then some (.year d.year)
  else if d.month < 1 ∨ 12 < d.month then some .month
  else if d.day < 1 ∨ daysIn d.year d.month < d.day then some .day
  else none

/-- The date as `YYYY-MM-DD`. -/
def text (d : Date) : String := padded 4 d.year ++ "-" ++ padded 2 d.month ++ "-" ++ padded 2 d.day

/-- The number of days since the first day of the year 1. -/
def ordinal (d : Date) : Nat :=
  let y := d.year - 1
  let before := (List.range (d.month - 1)).foldl (fun days m => days + daysIn d.year (m + 1)) 0
  y * 365 + y / 4 - y / 100 + y / 400 + before + (d.day - 1)

/-- The date as a constructor term. -/
def term (d : Date) : String :=
  "datetime.date(" ++ ", ".intercalate ([d.year, d.month, d.day].map toString) ++ ")"

end Date

namespace Moment

/-- The first field that is out of range; the offset is looked at before the date. -/
def check (t : Moment) : Option CalendarError :=
  match t.offset with
  | some o => if 1440 ≤ o.natAbs then some (.offset o) else time
  | none => time
where
  /-- The first field of date and time of day that is out of range. -/
  time : Option CalendarError :=
    match t.date.check with
    | some e => some e
    | none =>
      if 23 < t.hour then some .hour
      else if 59 < t.minute then some .minute
      else if 59 < t.second then some .second
      else none

/-- The offset as `+HH:MM`, or nothing. -/
def offsetText (t : Moment) : String :=
  match t.offset with
  | none => ""
  | some o =>
    (if o < 0 then "-" else "+") ++ padded 2 (o.natAbs / 60) ++ ":" ++ padded 2 (o.natAbs % 60)

/-- The moment as `YYYY-MM-DD`, a separator, `HH:MM:SS`, the fraction if there is one, and the
offset. -/
def text (separator : String) (t : Moment) : String :=
  t.date.text ++ separator ++ padded 2 t.hour ++ ":" ++ padded 2 t.minute ++ ":"
    ++ padded 2 t.second ++ (if t.micro = 0 then "" else "." ++ padded 6 t.micro) ++ t.offsetText

/-- A span of minutes as a constructor term, days first. -/
def spanTerm (minutes : Int) : String :=
  let seconds := minutes * 60
  let days := seconds.fdiv 86400
  let rest := seconds.fmod 86400
  let parts := (if days = 0 then [] else ["days=" ++ toString days])
    ++ (if rest = 0 then [] else ["seconds=" ++ toString rest])
  "datetime.timedelta(" ++ ", ".intercalate parts ++ ")"

/-- The moment as a constructor term. Seconds and microseconds are left out when they and all that
follow are zero. -/
def term (t : Moment) : String :=
  let fields := [t.date.year, t.date.month, t.date.day, t.hour, t.minute]
    ++ (if t.second = 0 ∧ t.micro = 0 then [] else [t.second])
    ++ (if t.micro = 0 then [] else [t.micro])
  let zone := match t.offset with
    | none => []
    | some o =>
      if o = 0 then ["tzinfo=datetime.timezone.utc"]
      else ["tzinfo=datetime.timezone(" ++ spanTerm o ++ ")"]
  "datetime.datetime(" ++ ", ".intercalate (fields.map toString ++ zone) ++ ")"

/-- Microseconds since the start of the year 1, offset not applied. -/
def instant (t : Moment) : Int :=
  (((t.date.ordinal * 24 + t.hour) * 60 + t.minute) * 60 + t.second) * 1000000 + t.micro

/-- Two moments are the same when both have no offset and agree, or both have one and fall on the
same instant. -/
def same (a b : Moment) : Bool :=
  match a.offset, b.offset with
  | none, none => a.instant == b.instant
  | some x, some y => a.instant - x * 60000000 == b.instant - y * 60000000
  | _, _ => false

end Moment

end AccessPolicy
