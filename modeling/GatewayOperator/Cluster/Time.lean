/-
This file holds the times that the cluster writes into its objects. A time is a second of the
Gregorian calendar in the years 0 to 9999. It is written in its universal form, and is read from any
form with a date, a time of day and an offset: a fraction of a second is passed over, and the offset
is taken off.
-/

import GatewayOperator.Json.Codec

namespace GatewayOperator

/-! ### Numbers of two digits -/

namespace Decimal

/-- The digit of a number below ten. -/
def digit (number : Nat) : Char := Char.ofNat ('0'.toNat + number)

/-- The number of a digit. -/
def digit? (character : Char) : Option Nat :=
  if character.isDigit then some (character.toNat - '0'.toNat) else none

/-- The two digits of a number below a hundred. -/
def pair (number : Nat) : List Char := [digit (number / 10), digit (number % 10)]

/-- Reads two digits. -/
def readPair : List Char → Option (Nat × List Char)
  | tens :: ones :: text => do
    let high ← digit? tens
    let low ← digit? ones
    some (10 * high + low, text)
  | _ => none

theorem digit?_digit {number : Nat} (small : number < 10) :
    digit? (digit number) = some number := by
  have all : ∀ number : Fin 10, digit? (digit number) = some number.val := by decide
  exact all ⟨number, small⟩

/-- A number of two digits is read back, whatever follows. -/
theorem readPair_pair {number : Nat} (small : number < 100) (rest : List Char) :
    readPair (pair number ++ rest) = some (number, rest) := by
  have high : digit? (digit (number / 10)) = some (number / 10) := digit?_digit (by omega)
  have low : digit? (digit (number % 10)) = some (number % 10) := digit?_digit (by omega)
  simp only [readPair, pair, List.cons_append, List.nil_append, bind, high, low, Option.bind_some,
    Nat.div_add_mod]

end Decimal

/-! ### The calendar -/

namespace Calendar

/-- Whether a year has a day more. -/
def isLeapYear (year : Nat) : Bool := year % 4 = 0 ∧ (year % 100 ≠ 0 ∨ year % 400 = 0)

/-- The number of days of a month. -/
def daysIn (year month : Nat) : Nat :=
  if month = 2 then if isLeapYear year then 29 else 28
  else if month = 4 ∨ month = 6 ∨ month = 9 ∨ month = 11 then 30
  else 31

theorem daysIn_le (year month : Nat) : daysIn year month ≤ 31 := by
  unfold daysIn
  repeat' split
  all_goals decide

/-- There is such a day in the years 0 to 9999. -/
def IsDate (year month day : Nat) : Prop :=
  year < 10000 ∧ 0 < month ∧ month ≤ 12 ∧ 0 < day ∧ day ≤ daysIn year month

instance (year month day : Nat) : Decidable (IsDate year month day) :=
  inferInstanceAs (Decidable (_ ∧ _))

/-- There is such a second in a day. -/
def IsTimeOfDay (hour minute second : Nat) : Prop := hour < 24 ∧ minute < 60 ∧ second < 60

instance (hour minute second : Nat) : Decidable (IsTimeOfDay hour minute second) :=
  inferInstanceAs (Decidable (_ ∧ _))

/-- The year, month and day that follow. -/
def dayAfter (year month day : Nat) : Nat × Nat × Nat :=
  if day < daysIn year month then (year, month, day + 1)
  else if month < 12 then (year, month + 1, 1)
  else (year + 1, 1, 1)

/-- The year, month and day before; nothing before the year 0. -/
def dayBefore? (year month day : Nat) : Option (Nat × Nat × Nat) :=
  if 1 < day then some (year, month, day - 1)
  else if 1 < month then some (year, month - 1, daysIn year (month - 1))
  else if 0 < year then some (year - 1, 12, 31)
  else none

/-- Moves a day to where the minutes of the day are, counted from its start. They are on this day,
the day before or the day after. -/
def dayOf? (year month day : Nat) (minutes : Int) : Option (Nat × Nat × Nat) :=
  if minutes < 0 then dayBefore? year month day
  else if minutes < 24 * 60 then some (year, month, day)
  else some (dayAfter year month day)

end Calendar

/-- A second of the calendar, in universal time. -/
structure Time where
  year : Nat
  month : Nat
  day : Nat
  hour : Nat
  minute : Nat
  second : Nat
  isDate : Calendar.IsDate year month day
  isTime : Calendar.IsTimeOfDay hour minute second
  deriving DecidableEq

namespace Time

/-- The start of the year 1970. -/
def epoch : Time := ⟨1970, 1, 1, 0, 0, 0, by decide, by decide⟩

instance : Inhabited Time := ⟨epoch⟩

/-- The time of its numbers, if there is one. -/
def of? (year month day hour minute second : Nat) : Option Time :=
  if isDate : Calendar.IsDate year month day then
    if isTime : Calendar.IsTimeOfDay hour minute second then
      some ⟨year, month, day, hour, minute, second, isDate, isTime⟩
    else none
  else none

/-- The characters of a time. -/
def write (time : Time) : List Char :=
  Decimal.pair (time.year / 100) ++ (Decimal.pair (time.year % 100) ++
    '-' :: (Decimal.pair time.month ++ '-' :: (Decimal.pair time.day ++
    'T' :: (Decimal.pair time.hour ++ ':' :: (Decimal.pair time.minute ++
    ':' :: (Decimal.pair time.second ++ ['Z']))))))

/-- Reads a character that is one of the given ones. -/
def readMark (marks : List Char) : List Char → Option (List Char)
  | [] => none
  | character :: text => if character ∈ marks then some text else none

/-- Passes over a fraction of a second. -/
def readFraction : List Char → Option (List Char)
  | '.' :: character :: text =>
    if character.isDigit then some (text.dropWhile Char.isDigit) else none
  | '.' :: [] => none
  | text => some text

/-- Reads an offset from universal time, in minutes, up to the end of the text. -/
def readOffset : List Char → Option Int
  | [] => none
  | sign :: text =>
    if sign ∈ ['Z', 'z'] then if text = [] then some 0 else none
    else do
      let (hours, text) ← Decimal.readPair text
      let text ← readMark [':'] text
      let (minutes, text) ← Decimal.readPair text
      let offset : Int := 60 * hours + minutes
      if text = [] ∧ hours < 24 ∧ minutes < 60 then
        if sign = '+' then some offset else if sign = '-' then some (-offset) else none
      else none

/-- The time of a date and a time of day at an offset from universal time. A leap second counts as
the second before it. -/
def atOffset? (year month day hour minute second : Nat) (offset : Int) : Option Time := do
  -- The date and the time have to be right where they were written, whatever they come to.
  let given ← of? year month day hour minute (if second = 60 then 59 else second)
  let minutes : Int := 60 * given.hour + given.minute - offset
  let (year, month, day) ← Calendar.dayOf? given.year given.month given.day minutes
  let within := (minutes % (24 * 60)).toNat
  of? year month day (within / 60) (within % 60) given.second

/-- Reads a time from its characters. -/
def read? (text : List Char) : Option Time := do
  let (century, text) ← Decimal.readPair text
  let (year, text) ← Decimal.readPair text
  let text ← readMark ['-'] text
  let (month, text) ← Decimal.readPair text
  let text ← readMark ['-'] text
  let (day, text) ← Decimal.readPair text
  let text ← readMark ['T', 't', ' '] text
  let (hour, text) ← Decimal.readPair text
  let text ← readMark [':'] text
  let (minute, text) ← Decimal.readPair text
  let text ← readMark [':'] text
  let (second, text) ← Decimal.readPair text
  let text ← readFraction text
  let offset ← readOffset text
  atOffset? (100 * century + year) month day hour minute second offset

/-- The JSON form of a time. -/
def codec : Codec Time where
  write time := .string (String.ofList time.write)
  read
    | .string text =>
      match read? text.toList with
      | some time => .ok time
      | none => .error (.invalidValue (Json.string text).describe "a time")
    | found => .error (found.mismatch "a time")

/-! ### Reading back -/

theorem of?_self (time : Time) :
    of? time.year time.month time.day time.hour time.minute time.second = some time := by
  unfold of?
  rw [dif_pos time.isDate, dif_pos time.isTime]

/-- A time in universal form is the time that it says. -/
theorem atOffset?_zero (time : Time) :
    atOffset? time.year time.month time.day time.hour time.minute time.second 0 = some time := by
  obtain ⟨hour, minute, second⟩ := time.isTime
  have noLeap : (if time.second = 60 then 59 else time.second) = time.second :=
    if_neg (Nat.ne_of_lt second)
  have today : Calendar.dayOf? time.year time.month time.day
      (60 * time.hour + time.minute - 0 : Int) = some (time.year, time.month, time.day) := by
    unfold Calendar.dayOf?
    rw [if_neg (by omega), if_pos (by omega)]
  have within : ((60 * time.hour + time.minute - 0 : Int) % (24 * 60)).toNat =
      60 * time.hour + time.minute := by omega
  have hours : (60 * time.hour + time.minute) / 60 = time.hour := by omega
  have minutes : (60 * time.hour + time.minute) % 60 = time.minute := by omega
  simp only [atOffset?, noLeap, of?_self, bind, Option.bind_some, today, within, hours, minutes]

/-- A time is read back from its characters. -/
theorem read?_write (time : Time) : read? time.write = some time := by
  obtain ⟨year, -, month, -, day⟩ := time.isDate
  obtain ⟨hour, minute, second⟩ := time.isTime
  have longest := Calendar.daysIn_le time.year time.month
  have mark : ∀ {character : Char} {marks : List Char} (text : List Char),
      (character ∈ marks) = True → readMark marks (character :: text) = some text :=
    fun _ member => if_pos (of_eq_true member)
  have years : 100 * (time.year / 100) + time.year % 100 = time.year := Nat.div_add_mod _ _
  simp only [read?, write, bind, Option.bind_some,
    Decimal.readPair_pair (show time.year / 100 < 100 by omega),
    Decimal.readPair_pair (show time.year % 100 < 100 by omega),
    Decimal.readPair_pair (show time.month < 100 by omega),
    Decimal.readPair_pair (show time.day < 100 by omega),
    Decimal.readPair_pair (show time.hour < 100 by omega),
    Decimal.readPair_pair (show time.minute < 100 by omega),
    Decimal.readPair_pair (show time.second < 100 by omega), mark, List.mem_cons, true_or, years]
  exact time.atOffset?_zero

theorem codec_lawful : codec.Lawful where
  read_write time := by
    show (match read? (String.ofList time.write).toList with
      | some time => Except.ok time
      | none => _) = .ok time
    rw [String.toList_ofList, read?_write]
  write_ne_null _ := nofun

/-- A time with an offset is read as its universal form, across the end of the year. -/
example : read? "2025-12-31T23:30:00.25-01:00".toList = read? "2026-01-01T00:30:00Z".toList := by
  decide

end Time

end GatewayOperator
