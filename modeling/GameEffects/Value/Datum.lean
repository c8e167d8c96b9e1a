import GameEffects.Text.Basic

/-!
# Data

What documents hold besides numbers and texts: dates, points in time and bytes. The calendar has the
years 1 to 9999. A point in time is local, or it has an offset to universal time; data are compared
within their sort only, and points in time with an offset by universal time.
-/

namespace GameEffects

/-- Whether a year has a day more than others. -/
def isLeap (year : Nat) : Bool :=
  year % 4 == 0 && (year % 100 != 0 || year % 400 == 0)

/-- The number of days of a month. -/
def daysOf (year month : Nat) : Nat :=
  match month with
  | 2 => if isLeap year then 29 else 28
  | 4 | 6 | 9 | 11 => 30
  | _ => 31

/-- A day of the calendar. -/
structure Date where
  year : Nat
  month : Nat
  day : Nat
  year_mem : 1 ≤ year ∧ year ≤ 9999
  month_mem : 1 ≤ month ∧ month ≤ 12
  day_mem : 1 ≤ day ∧ day ≤ daysOf year month
  deriving DecidableEq

namespace Date

/-- The number of the days before the first of a month, from the year 1 on. -/
def daysBefore (year month : Nat) : Nat :=
  let years := year - 1
  -- One day more in every fourth year, but of the hundredth years in every fourth only.
  let whole := 365 * years + years / 4 - years / 100 + years / 400
  (List.range (month - 1)).foldl (fun days earlier => days + daysOf year (earlier + 1)) whole

/-- The number of a day, from the first day of the year 1 on. -/
def number (d : Date) : Nat :=
  daysBefore d.year d.month + d.day

example : number ⟨2000, 3, 1, by decide, by decide, by decide⟩ = 730180 := by decide

end Date

/-- An offset to universal time in minutes: less than a day. -/
abbrev Offset :=
  { minutes : Int // -1440 < minutes ∧ minutes < 1440 }

/-- A point in time, down to millionths of a second. It is local unless it has an offset. -/
structure Moment where
  date : Date
  hour : Fin 24
  minute : Fin 60
  second : Fin 60
  micro : Fin 1000000
  offset : Option Offset
  deriving DecidableEq

/-- The millionths of a second before a point in time; in universal time, if it has an offset. -/
def Moment.micros (m : Moment) : Int :=
  let minutes : Int := (m.date.number * 24 + m.hour) * 60 + m.minute
  let universal := minutes - (m.offset.map Subtype.val).getD 0
  (universal * 60 + m.second) * 1000000 + m.micro

/-- A datum that is neither a number nor a text. -/
inductive Datum
  | date (d : Date)
  | moment (m : Moment)
  | bytes (b : List UInt8)
  deriving DecidableEq

namespace Datum

/-- What a datum is compared by. Points in time with the same universal time are the same. -/
inductive Key
  | date (d : Date)
  | moment (universal : Bool) (micros : Int)
  | bytes (b : List UInt8)
  deriving DecidableEq

/-- The key of a datum. -/
def key : Datum → Key
  | .date d => .date d
  | .moment m => .moment m.offset.isSome m.micros
  | .bytes b => .bytes b

/-- Whether one key comes before another, if they can be compared. -/
def Key.lt? : Key → Key → Option Bool
  | .date a, .date b => some (decide (a.number < b.number))
  | .moment universal a, .moment universal' b =>
    if universal = universal' then some (decide (a < b)) else none
  | .bytes a, .bytes b => some (decide (a < b))
  | _, _ => none

/-- Whether a datum counts as nothing: only an empty sequence of bytes does. -/
def isVoid : Datum → Bool
  | .bytes b => b.isEmpty
  | _ => false

/-- The text that a datum is, if it is a sequence of ASCII bytes. -/
def ascii? : Datum → Option Text
  | .bytes b => if b.all (· < 0x80) then some (b.map fun byte => Char.ofNat byte.toNat) else none
  | _ => none

/-- What messages call the sort of a datum. -/
def sortName : Datum → Text
  | .date _ => "datetime.date".toList
  | .moment _ => "datetime.datetime".toList
  | .bytes _ => "bytes".toList

end Datum

end GameEffects
