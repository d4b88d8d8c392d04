import SchemaSheets.Decimal.Layout

/-!
# Dates and times of day

Calendar dates of the years 1 to 9999 in the Gregorian calendar, and times of
day to the microsecond with an optional distance from UTC in minutes.
-/

namespace SchemaSheets

structure Date where
  year : Nat
  month : Nat
  day : Nat
  deriving DecidableEq, Repr, Inhabited

/-- A date with a time of day; `offset` counts minutes east of UTC. -/
structure Timestamp where
  date : Date
  hour : Nat
  minute : Nat
  second : Nat
  microsecond : Nat
  offset : Option Int
  deriving DecidableEq, Repr, Inhabited

inductive CalendarFault where
  | year (n : Nat)
  | month
  | day
  | hour
  | minute
  | second
  /-- a distance from UTC of a day or more -/
  | offset (minutes : Int)
  deriving DecidableEq, Repr

namespace Date

def isLeap (year : Nat) : Bool := year % 4 == 0 && (year % 100 != 0 || year % 400 == 0)

/-- The days of a month; there are none in a month that does not exist. -/
def daysIn (year month : Nat) : Nat :=
  match month with
  | 2 => if isLeap year then 29 else 28
  | 4 | 6 | 9 | 11 => 30
  | 1 | 3 | 5 | 7 | 8 | 10 | 12 => 31
  | _ => 0

def fault? (d : Date) : Option CalendarFault :=
  if d.year = 0 ∨ 9999 < d.year then some (.year d.year)
  else if d.month = 0 ∨ 12 < d.month then some .month
  else if d.day = 0 ∨ daysIn d.year d.month < d.day then some .day
  else none

def daysBefore (year month : Nat) : Nat :=
  (List.range (month - 1)).foldl (fun n m => n + daysIn year (m + 1)) 0

def ordinal (d : Date) : Int :=
  let y := d.year - 1
  y * 365 + y / 4 - y / 100 + y / 400 + daysBefore d.year d.month + (d.day - 1)

def padded (width n : Nat) : String :=
  let digits := Decimal.digitsOf n
  String.ofList (List.replicate (width - digits.length) '0' ++ digits)

def isoText (d : Date) : String :=
  padded 4 d.year ++ "-" ++ padded 2 d.month ++ "-" ++ padded 2 d.day

end Date

namespace Timestamp

def fault? (t : Timestamp) : Option CalendarFault :=
  let farOff (minutes : Int) : Option CalendarFault :=
    if 24 * 60 ≤ minutes.natAbs then some (.offset minutes) else none
  (t.offset.bind farOff <|> t.date.fault?) <|>
    if 23 < t.hour then some .hour
    else if 59 < t.minute then some .minute
    else if 59 < t.second then some .second
    else none

def offsetText (minutes : Int) : String :=
  let size := minutes.natAbs
  (if minutes < 0 then "-" else "+") ++ Date.padded 2 (size / 60) ++ ":" ++ Date.padded 2 (size % 60)

def clockText (t : Timestamp) : String :=
  t.date.isoText ++ "T" ++ Date.padded 2 t.hour ++ ":" ++ Date.padded 2 t.minute ++ ":" ++
    Date.padded 2 t.second ++
    (if t.microsecond = 0 then "" else "." ++ Date.padded 6 t.microsecond)

def isoText (t : Timestamp) : String :=
  t.clockText ++ (t.offset.map offsetText).getD ""

def zuluText (t : Timestamp) : String :=
  t.clockText ++ match t.offset with
    | none => ""
    | some 0 => "Z"
    | some minutes => offsetText minutes

def instant (t : Timestamp) : Int :=
  (((t.date.ordinal * 24 + t.hour) * 60 + t.minute - t.offset.getD 0) * 60 + t.second) * 1000000 +
    t.microsecond

/-- Two times are the same instant; a time without a distance from UTC never equals one with. -/
def sameInstant (a b : Timestamp) : Bool :=
  a.offset.isSome == b.offset.isSome && a.instant == b.instant

end Timestamp

end SchemaSheets
