import GameEffects.Value.Written

/-!
# Timestamps

The texts of dates and points in time: a date, and after a `T` or blanks a time, which may have a
fraction and an offset. The parts of such a text need not be those of a date or a time.
-/

namespace GameEffects.Yaml

/-- The time in the text of a point in time, with the digits of the fraction of a second and the
offset in minutes. -/
structure Timestamp.Time where
  hour : Nat
  minute : Nat
  second : Nat
  fraction : Text
  offset : Option Int

/-- The parts of the text of a date or a point in time. Month and day are their digits, as a date
without a time has to have two of each. -/
structure Timestamp where
  year : Nat
  month : Text
  day : Text
  time : Option Timestamp.Time

/-- Why a node with the type of a point in time is none: its text has another form, it has no text
of its own, or one of the parts is out of range. -/
inductive TimestampFault
  | form
  | noText
  | year (n : Nat)
  | month
  | day
  | hour
  | minute
  | second
  | offset (minutes : Int)
  deriving DecidableEq, Repr

/-- The message of a timestamp fault. -/
def TimestampFault.message : TimestampFault → Text
  | .form => Text.inApostrophes "NoneType".toList ++ " object has no attribute 'groupdict'".toList
  | .noText => "expected string or bytes-like object, got 'list'".toList
  | .year n => "year ".toList ++ Nat.toDigits 10 n ++ " is out of range".toList
  | .month => "month must be in 1..12".toList
  | .day => "day is out of range for month".toList
  | .hour => "hour must be in 0..23".toList
  | .minute => "minute must be in 0..59".toList
  | .second => "second must be in 0..59".toList
  | .offset minutes =>
    "offset must be a timedelta strictly between -timedelta(hours=24) and ".toList ++
      "timedelta(hours=24), not ".toList ++ spanText minutes ++ ['.']

namespace Timestamp

/-- The digits at the start of a text, at least `least` and no more than `most`, and what follows
them. -/
def takeDigits? (least most : Nat) (s : Text) : Option (Text × Text) :=
  let digits := (s.take most).takeWhile Char.isDigit
  if least ≤ digits.length then some (digits, s.drop digits.length) else none

/-- What follows a character, if the text starts with it. -/
def after? (c : Char) : Text → Option Text
  | [] => none
  | d :: rest => if d = c then some rest else none

/-- Whether a character stands between a date and a time or before an offset. -/
def isBlank (c : Char) : Bool :=
  c == ' ' || c == '\t'

/-- The number with the given decimal digits. -/
def number (digits : Text) : Nat :=
  digits.foldl (fun n c => 10 * n + (c.toNat - '0'.toNat)) 0

/-- The minutes of an offset that follows its sign. -/
def offsetOf? (s : Text) : Option Int := do
  let (hours, s) ← takeDigits? 1 2 s
  match s with
  | [] => some (60 * number hours)
  | _ =>
    let (minutes, s) ← takeDigits? 2 2 (← after? ':' s)
    if s.isEmpty then some (60 * number hours + number minutes) else none

/-- The offset at the end of a text: none, that of universal time, or one with a sign. -/
def zone? (s : Text) : Option (Option Int) :=
  if s.isEmpty then some none
  else
    -- Blanks may stand before an offset, but not at the end of a text without one.
    match s.dropWhile isBlank with
    | ['Z'] => some (some 0)
    | '+' :: rest => (offsetOf? rest).map some
    | '-' :: rest => (offsetOf? rest).map fun minutes => some (-minutes)
    | _ => none

/-- What follows the mark or the blanks between a date and a time. -/
def timeText? : Text → Option Text
  | [] => none
  | c :: rest =>
    if c = 'T' ∨ c = 't' then some rest
    else if isBlank c then some (rest.dropWhile isBlank)
    else none

/-- The time in a text that starts where the date ends. -/
def time? (s : Text) : Option Time := do
  let (hour, s) ← takeDigits? 1 2 (← timeText? s)
  let (minute, s) ← takeDigits? 2 2 (← after? ':' s)
  let (second, s) ← takeDigits? 2 2 (← after? ':' s)
  let (fraction, s) : Text × Text :=
    match s with
    | '.' :: rest => (rest.takeWhile Char.isDigit, rest.dropWhile Char.isDigit)
    | _ => ([], s)
  return ⟨number hour, number minute, number second, fraction, ← zone? s⟩

/-- The parts of a text, if it has the form of a date or a point in time. -/
def ofText? (s : Text) : Option Timestamp := do
  let (year, s) ← takeDigits? 4 4 s
  let (month, s) ← takeDigits? 1 2 (← after? '-' s)
  let (day, s) ← takeDigits? 1 2 (← after? '-' s)
  if s.isEmpty then some ⟨number year, month, day, none⟩
  else some ⟨number year, month, day, some (← time? s)⟩

/-- Whether a plain text is a date or a point in time. A date without a time has two digits for the
month and the day each. -/
def isPlain (s : Text) : Bool :=
  match ofText? s with
  | none => false
  | some t => t.time.isSome || (t.month.length == 2 && t.day.length == 2)

/-- The date of a year, a month and a day. -/
def dateOf (year month day : Nat) : Except TimestampFault Date :=
  if hyear : 1 ≤ year ∧ year ≤ 9999 then
    if hmonth : 1 ≤ month ∧ month ≤ 12 then
      if hday : 1 ≤ day ∧ day ≤ daysOf year month then .ok ⟨year, month, day, hyear, hmonth, hday⟩
      else .error .day
    else .error .month
  else .error (.year year)

/-- A number below a bound. -/
def below (bound : Nat) (fault : TimestampFault) (n : Nat) : Except TimestampFault (Fin bound) :=
  if h : n < bound then .ok ⟨n, h⟩ else .error fault

/-- An offset of so many minutes. -/
def zoneOf (minutes : Int) : Except TimestampFault Offset :=
  if h : -1440 < minutes ∧ minutes < 1440 then .ok ⟨minutes, h⟩ else .error (.offset minutes)

/-- The millionths of a second in the digits of a fraction, of which six count. -/
def microsOf (fraction : Text) : Fin 1000000 :=
  let digits := fraction.take 6
  let micros := number (digits ++ List.replicate (6 - digits.length) '0')
  ⟨micros % 1000000, Nat.mod_lt micros (by decide)⟩

/-- The date or the point in time that the parts of a text are. -/
def datum (t : Timestamp) : Except TimestampFault Datum :=
  let date := dateOf t.year (number t.month) (number t.day)
  match t.time with
  | none => date.map .date
  | some time => do
    -- An offset that is too great shows before a date that does not exist.
    let offset ←
      match time.offset with
      | none => pure none
      | some minutes => some <$> zoneOf minutes
    let date ← date
    let hour ← below 24 .hour time.hour
    let minute ← below 60 .minute time.minute
    let second ← below 60 .second time.second
    return .moment ⟨date, hour, minute, second, microsOf time.fraction, offset⟩

end Timestamp

/-- A text without the line feed at its end, if other characters precede it. -/
def withoutLastBreak (s : Text) : Text :=
  if 1 < s.length ∧ s.getLast? = some '\n' then s.dropLast else s

/-- The date or the point in time that a text stands for. A line feed at the end does not count. -/
def timestampValue (s : Text) : Except TimestampFault Datum :=
  match Timestamp.ofText? (withoutLastBreak s) with
  | none => .error .form
  | some t => t.datum

example : (timestampValue "2001-12-14t21:59:43.10-05:00".toList).map Datum.outerText =
    .ok "2001-12-14 21:59:43.100000-05:00".toList := by
  cbv

end GameEffects.Yaml
