import ControlPlane.Text.Basic
/-!
Dates of HTTP headers, in the three forms that a receiver accepts, against the Gregorian calendar.
Each form is a list of parts read from left to right with nothing left over; case and width are
exact. The day has to exist between 1970 and 9999 and to fall on the weekday that is named.
-/
namespace ControlPlane.Calendar

def isLeap (year : Nat) : Bool := year % 4 = 0 && (year % 100 ≠ 0 || year % 400 = 0)

def monthLengths (year : Nat) : List Nat :=
  [31, if isLeap year then 29 else 28, 31, 30, 31, 30, 31, 31, 30, 31, 30, 31]

def monthLength (year month : Nat) : Nat :=
  if month = 0 then 0 else (monthLengths year)[month - 1]?.getD 0

def leapsBefore (year : Nat) : Nat := (year - 1) / 4 - (year - 1) / 100 + (year - 1) / 400

def daysBeforeYear (year : Nat) : Nat :=
  365 * (year - 1970) + (leapsBefore year - leapsBefore 1970)

def isDay (year month day : Nat) : Bool :=
  1970 ≤ year && 1 ≤ day && day ≤ monthLength year month

def daysBefore (year month day : Nat) : Nat :=
  daysBeforeYear year + ((monthLengths year).take (month - 1)).foldl (· + ·) 0 + (day - 1)

/-- The day of the week, Monday being zero. The first day of 1970 was a Thursday. -/
def weekday (days : Nat) : Nat := (days + 3) % 7

end ControlPlane.Calendar

namespace ControlPlane.HttpDate

structure Stamp where
  weekday : Nat := 0
  year : Nat := 0
  month : Nat := 0
  day : Nat := 0
  hour : Nat := 0
  minute : Nat := 0
  second : Nat := 0

/-- A part of a form. `skip` is one ASCII character, whichever. -/
inductive Part where
  | exactly (c : Char)
  | skip
  | shortWeekday
  | longWeekday
  | month
  | day
  | paddedDay
  | year
  | shortYear
  | hour
  | minute
  | second

def weekdays : List String :=
  ["Monday", "Tuesday", "Wednesday", "Thursday", "Friday", "Saturday", "Sunday"]

def months : List String :=
  ["Jan", "Feb", "Mar", "Apr", "May", "Jun", "Jul", "Aug", "Sep", "Oct", "Nov", "Dec"]

def afterName? : List Char → List Char → Option (List Char)
  | [], s => some s
  | c :: name, d :: s => if c = d then afterName? name s else none
  | _ :: _, [] => none

def named? (names : List (List Char)) (s : List Char) : Option (Nat × List Char) :=
  names.zipIdx.findSome? fun n => (afterName? n.1 s).map fun rest => (n.2, rest)

def number? (width : Nat) (s : List Char) : Option (Nat × List Char) :=
  let digits := s.take width
  if digits.length = width then (Text.natural? digits).map fun n => (n, s.drop width) else none

def Part.read (part : Part) (s : List Char) (t : Stamp) : Option (Stamp × List Char) :=
  match part with
  | .exactly c => (afterName? [c] s).map fun rest => (t, rest)
  | .skip =>
    (match s with
      | c :: rest => if c.toNat < 0x80 then some (t, rest) else none
      | [] => none)
  | .shortWeekday => (named? (weekdays.map fun n => n.toList.take 3) s).map fun (n, rest) =>
      ({ t with weekday := n }, rest)
  | .longWeekday => (named? (weekdays.map String.toList) s).map fun (n, rest) =>
      ({ t with weekday := n }, rest)
  | .month => (named? (months.map String.toList) s).map fun (n, rest) =>
      ({ t with month := n + 1 }, rest)
  | .day => (number? 2 s).map fun (n, rest) => ({ t with day := n }, rest)
  | .paddedDay =>
    (match s with
      | ' ' :: s => number? 1 s
      | s => number? 2 s).map fun (n, rest) => ({ t with day := n }, rest)
  | .year => (number? 4 s).map fun (n, rest) => ({ t with year := n }, rest)
  | .shortYear => (number? 2 s).map fun (n, rest) =>
      ({ t with year := if n < 70 then 2000 + n else 1900 + n }, rest)
  | .hour => (number? 2 s).map fun (n, rest) => ({ t with hour := n }, rest)
  | .minute => (number? 2 s).map fun (n, rest) => ({ t with minute := n }, rest)
  | .second => (number? 2 s).map fun (n, rest) => ({ t with second := n }, rest)

def readParts : List Part → List Char → Stamp → Option Stamp
  | [], s, t => if s.isEmpty then some t else none
  | part :: parts, s, t => (part.read s t).bind fun (t, rest) => readParts parts rest t

def clock : List Part := [.hour, .exactly ':', .minute, .exactly ':', .second]

def zone : List Part := [.exactly ' ', .exactly 'G', .exactly 'M', .exactly 'T']

/-- The form `Sun, 06 Nov 1994 08:49:37 GMT`. -/
def fixed : List Part :=
  [.shortWeekday, .exactly ',', .exactly ' ', .day, .exactly ' ', .month, .exactly ' ', .year,
    .exactly ' '] ++ clock ++ zone

/-- The form `Sunday, 06-Nov-94 08:49:37 GMT`. -/
def dashed : List Part :=
  [.longWeekday, .exactly ',', .exactly ' ', .day, .exactly '-', .month, .exactly '-', .shortYear,
    .skip] ++ clock ++ zone

/-- The form `Sun Nov  6 08:49:37 1994`. -/
def yearLast : List Part :=
  [.shortWeekday, .exactly ' ', .month, .exactly ' ', .paddedDay, .exactly ' '] ++ clock
    ++ [.exactly ' ', .year]

def Stamp.isValid (t : Stamp) : Bool :=
  t.second < 60 && t.minute < 60 && t.hour < 24 && t.year ≤ 9999
    && Calendar.isDay t.year t.month t.day
    && Calendar.weekday (Calendar.daysBefore t.year t.month t.day) = t.weekday

def Stamp.seconds (t : Stamp) : Nat :=
  Calendar.daysBefore t.year t.month t.day * 86400 + t.hour * 3600 + t.minute * 60 + t.second

def parse? (s : List Char) : Option Nat :=
  (([fixed, dashed, yearLast].findSome? fun parts => readParts parts s {}).filter
    Stamp.isValid).map Stamp.seconds

end ControlPlane.HttpDate
