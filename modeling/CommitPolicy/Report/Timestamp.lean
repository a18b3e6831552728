import CommitPolicy.Calendar
import CommitPolicy.Text.Letter

namespace CommitPolicy

open Calendar (daysInMonth isDate isHourMinute skip?)
open Decimal (digits? digitsValue padded)

structure Timestamp where
  year : Nat
  month : Nat
  day : Nat
  hour : Nat
  minute : Nat
  second : Nat
  nanosecond : Nat
  /-- Minutes ahead of universal time. -/
  offset : Int
  valid : year ≤ 9999 ∧ isDate year month day ∧ isHourMinute hour minute ∧ second ≤ 59 ∧
    nanosecond < 1_000_000_000 ∧ offset.natAbs < 24 * 60
deriving DecidableEq, Repr

namespace Timestamp

def epoch : Timestamp := ⟨1970, 1, 1, 0, 0, 0, 0, 0, by decide⟩

instance : Inhabited Timestamp := ⟨epoch⟩

def make? (year month day hour minute second nanosecond : Nat) (offset : Int) :
    Option Timestamp :=
  if h : year ≤ 9999 ∧ isDate year month day ∧ isHourMinute hour minute ∧ second ≤ 59 ∧
      nanosecond < 1_000_000_000 ∧ offset.natAbs < 24 * 60 then
    some ⟨year, month, day, hour, minute, second, nanosecond, offset, h⟩
  else none

def ofNanoseconds (n : Nat) : Timestamp :=
  let seconds := n / 1_000_000_000
  let (year, month, day) := Calendar.dateOfDay (seconds / 86400)
  let second := seconds % 86400
  (make? year month day (second / 3600) (second / 60 % 60) (second % 60) (n % 1_000_000_000) 0).getD epoch

/-- The minute that holds it is the last one of a month in universal time, so that a leap second
may follow. -/
def isLastMinuteOfMonth (t : Timestamp) : Bool :=
  let minute : Int := 60 * t.hour + t.minute - t.offset
  let last := daysInMonth t.year t.month
  if minute = 1439 then t.day = last
  else if minute = 1439 - 1440 then t.day = 1
  else minute = 1439 + 1440 && t.day + 1 = last

def fraction? : List Char → Option (Nat × List Char)
  | '.' :: cs =>
    let digits := cs.takeWhile Char.isDigit
    let kept := digits.take 9
    if digits.isEmpty then none
    else some (digitsValue kept * .pow 10 (9 - kept.length), cs.dropWhile Char.isDigit)
  | cs => some (0, cs)

def skipSeparator? : List Char → Option (List Char)
  | [] => none
  | c :: rest => if Text.isAscii c then some rest else none

/-- A leap second becomes the last nanosecond before it. -/
def ofChars? (cs : List Char) : Option Timestamp := do
  let ((year, month, day), cs) ← Calendar.date? cs
  let ((hour, minute), cs) ← Calendar.hourMinute? (← skipSeparator? cs)
  let (second, cs) ← digits? 2 (← skip? ':' cs)
  let (nanosecond, cs) ← fraction? cs
  let (offset, cs) ← Calendar.offset? cs
  if ¬ cs.isEmpty then none
  else if second = 60 then do
    let t ← make? year month day hour minute 59 999999999 offset
    if t.isLastMinuteOfMonth then some t else none
  else make? year month day hour minute second nanosecond offset

def ofText? (s : String) : Option Timestamp := ofChars? s.toList

def withoutTrailingZeros (digits : List Char) : List Char :=
  (digits.reverse.dropWhile (· == '0')).reverse

def formatFraction (nanosecond : Nat) : List Char :=
  if nanosecond = 0 then [] else '.' :: withoutTrailingZeros (padded 9 nanosecond)

def formatOffset (offset : Int) : List Char :=
  if offset = 0 then ['Z']
  else
    let minutes := offset.natAbs
    (if offset < 0 then '-' else '+') :: padded 2 (minutes / 60) ++ ':' :: padded 2 (minutes % 60)

def format (t : Timestamp) : String :=
  String.ofList (padded 4 t.year ++ '-' :: padded 2 t.month ++ '-' :: padded 2 t.day ++
    'T' :: padded 2 t.hour ++ ':' :: padded 2 t.minute ++ ':' :: padded 2 t.second ++
    formatFraction t.nanosecond ++ formatOffset t.offset)

end Timestamp

end CommitPolicy
