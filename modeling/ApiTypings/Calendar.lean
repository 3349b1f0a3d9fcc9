/-!
# Dates and times

Days of the calendar and times of day, with the two ways in which they are
written: as text, and as the expression that makes them.
-/

namespace ApiTypings

/-- A day of the calendar. -/
structure Date where
  year : Nat
  month : Nat
  day : Nat
  deriving DecidableEq, Repr

/-- A time of day. -/
structure Clock where
  hour : Nat
  minute : Nat
  second : Nat
  microsecond : Nat := 0
  deriving DecidableEq, Repr

/-- A day, a time of day, or both. With both there may be an offset: the minutes
by which clocks are ahead of universal time. -/
inductive Moment
  | date (date : Date)
  | time (clock : Clock)
  | dateTime (date : Date) (clock : Clock) (offset : Option Int)
  deriving DecidableEq, Repr

/-- A number with leading zeros up to a width. -/
def padded (width number : Nat) : String :=
  let digits := Nat.toDigits 10 number
  String.ofList (List.replicate (width - digits.length) '0' ++ digits)

/-- Why there is no such moment. -/
inductive CalendarProblem
  | year (year : Nat)
  | month
  | day
  | hour
  | minute
  | second
  | offset (minutes : Int)
  deriving DecidableEq, Repr

/-- A span of minutes as the expression that makes it: whole days, rounded down,
and the seconds that are left. -/
def spanExpression (minutes : Int) : String :=
  let days := minutes.fdiv 1440
  let seconds := minutes.fmod 1440 * 60
  let parts :=
    (if days = 0 then [] else ["days=" ++ toString days]) ++
      (if seconds = 0 then [] else ["seconds=" ++ toString seconds])
  "datetime.timedelta(" ++ (if parts.isEmpty then "0" else ", ".intercalate parts) ++ ")"

/-- The wording of a problem. -/
def CalendarProblem.message : CalendarProblem → String
  | .year number => "year " ++ toString number ++ " is out of range"
  | .month => "month must be in 1..12"
  | .day => "day is out of range for month"
  | .hour => "hour must be in 0..23"
  | .minute => "minute must be in 0..59"
  | .second => "second must be in 0..59"
  | .offset span =>
      "offset must be a timedelta strictly between -timedelta(hours=24) and " ++
        "timedelta(hours=24), not " ++ spanExpression span ++ "."

namespace Date

/-- How many days a month has. -/
def daysInMonth (year month : Nat) : Nat :=
  if month = 2 then
    if year % 4 = 0 ∧ (year % 100 ≠ 0 ∨ year % 400 = 0) then 29 else 28
  else if [4, 6, 9, 11].contains month then 30
  else 31

/-- What is wrong with a date, if anything is. -/
def problem? (date : Date) : Option CalendarProblem :=
  if date.year = 0 ∨ 9999 < date.year then some (.year date.year)
  else if date.month = 0 ∨ 12 < date.month then some .month
  else if date.day = 0 ∨ daysInMonth date.year date.month < date.day then some .day
  else none

/-- A date as text. -/
def text (date : Date) : String :=
  padded 4 date.year ++ "-" ++ padded 2 date.month ++ "-" ++ padded 2 date.day

/-- The numbers of a date. -/
def parts (date : Date) : List String :=
  [date.year, date.month, date.day].map fun number => toString number

end Date

namespace Clock

/-- What is wrong with a time of day, if anything is. -/
def problem? (clock : Clock) : Option CalendarProblem :=
  if 23 < clock.hour then some .hour
  else if 59 < clock.minute then some .minute
  else if 59 < clock.second then some .second
  else none

/-- A time of day as text. -/
def text (clock : Clock) : String :=
  padded 2 clock.hour ++ ":" ++ padded 2 clock.minute ++ ":" ++ padded 2 clock.second ++
    if clock.microsecond = 0 then "" else "." ++ padded 6 clock.microsecond

/-- The numbers of a time of day; zeros at the end are left out but for the
minute. -/
def parts (clock : Clock) : List String :=
  let numbers :=
    if clock.microsecond ≠ 0 then
      [clock.hour, clock.minute, clock.second, clock.microsecond]
    else if clock.second ≠ 0 then [clock.hour, clock.minute, clock.second]
    else [clock.hour, clock.minute]
  numbers.map fun number => toString number

end Clock

/-- An offset as text. -/
def offsetText (minutes : Int) : String :=
  let size := minutes.natAbs
  (if minutes < 0 then "-" else "+") ++ padded 2 (size / 60) ++ ":" ++ padded 2 (size % 60)

/-- An offset as the expression that makes it. -/
def offsetExpression (minutes : Int) : String :=
  if minutes = 0 then "datetime.timezone.utc"
  else "datetime.timezone(" ++ spanExpression minutes ++ ")"

namespace Moment

/-- What is wrong with a moment, if anything is. The offset comes first. -/
def problem? : Moment → Option CalendarProblem
  | .date day => day.problem?
  | .time clock => clock.problem?
  | .dateTime day clock offset =>
      match offset.filter fun minutes => 1440 ≤ minutes.natAbs with
      | some minutes => some (.offset minutes)
      | none => day.problem?.or clock.problem?

/-- A moment as text. -/
def text : Moment → String
  | .date day => day.text
  | .time clock => clock.text
  | .dateTime day clock offset =>
      day.text ++ " " ++ clock.text ++ (offset.map offsetText).getD ""

/-- The name of the kind of a moment. -/
def kind : Moment → String
  | .date _ => "datetime.date"
  | .time _ => "datetime.time"
  | .dateTime .. => "datetime.datetime"

/-- A moment as the expression that makes it. -/
def expression (moment : Moment) : String :=
  let parts :=
    match moment with
    | .date day => day.parts
    | .time clock => clock.parts
    | .dateTime day clock offset =>
        day.parts ++ clock.parts ++
          offset.toList.map fun minutes => "tzinfo=" ++ offsetExpression minutes
  moment.kind ++ "(" ++ ", ".intercalate parts ++ ")"

end Moment

end ApiTypings
