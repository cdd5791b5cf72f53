import TradeSpeech.Text.Digits

/-! Dates, times of day, and dates with a time: how they are read, and the one
spelling that each of them has. -/

namespace TradeSpeech.Toml

open Text (isDigit)

structure Date where
  year : Nat
  month : Nat
  day : Nat
  deriving DecidableEq, Repr

structure Time where
  hour : Nat
  minute : Nat
  second : Nat
  nanosecond : Nat
  deriving DecidableEq, Repr

inductive Zone
  /-- the common time of all places -/
  | common
  /-- the time of a place that is so many minutes ahead of the common time -/
  | ahead (minutes : Int)
  deriving DecidableEq, Repr

inductive Moment
  | date (day : Date)
  | time (clock : Time)
  | both (day : Date) (clock : Time) (zone : Option Zone)
  deriving DecidableEq, Repr

/-! ## Spelling -/

def padded (width number : Nat) : List Char :=
  let digits := Nat.toDigits 10 number
  List.replicate (width - digits.length) '0' ++ digits

def Date.spelling (date : Date) : List Char :=
  padded 4 date.year ++ '-' :: padded 2 date.month ++ '-' :: padded 2 date.day

def fractionSpelling (nanosecond : Nat) : List Char :=
  if nanosecond = 0 then []
  else '.' :: ((padded 9 nanosecond).reverse.dropWhile (· = '0')).reverse

def Time.spelling (time : Time) : List Char :=
  padded 2 time.hour ++ ':' :: padded 2 time.minute ++ ':' :: padded 2 time.second ++
    fractionSpelling time.nanosecond

def Zone.spelling : Zone → List Char
  | common => ['Z']
  | ahead minutes =>
    (if minutes < 0 then '-' else '+') ::
      padded 2 (minutes.natAbs / 60) ++ ':' :: padded 2 (minutes.natAbs % 60)

def Moment.spelling : Moment → List Char
  | date day => day.spelling
  | time clock => clock.spelling
  | both day clock zone =>
    day.spelling ++ 'T' :: clock.spelling ++
      match zone with
      | some zone => zone.spelling
      | none => []

def Moment.text (moment : Moment) : String :=
  String.ofList moment.spelling

/-! ## Reading -/

def twoDigits? : List Char → Option (Nat × List Char)
  | a :: b :: rest =>
    if isDigit a && isDigit b then some (TradeSpeech.numberOf [a, b], rest) else none
  | _ => none

def daysIn (year month : Nat) : Nat :=
  if month = 2 then
    if year % 4 = 0 && (year % 100 != 0 || year % 400 = 0) then 29 else 28
  else if month = 4 || month = 6 || month = 9 || month = 11 then 30
  else 31

def date? (text : List Char) : Option (Date × List Char) := do
  let (century, text) ← twoDigits? text
  let (decade, text) ← twoDigits? text
  let '-' :: text := text | none
  let (month, text) ← twoDigits? text
  let '-' :: text := text | none
  let (day, text) ← twoDigits? text
  let year := 100 * century + decade
  if 1 ≤ month && month ≤ 12 && 1 ≤ day && day ≤ daysIn year month then
    return (⟨year, month, day⟩, text)
  else none

/-- The nanoseconds that the digits of a fraction write; what is finer is cut
off. -/
def nanosecondsOf (digits : List Char) : Nat :=
  TradeSpeech.numberOf (digits.take 9) * Nat.pow 10 (9 - (digits.take 9).length)

def fraction? : List Char → Option (Nat × List Char)
  | '.' :: text =>
    match text.span isDigit with
    | ([], _) => none
    | (digits, rest) => some (nanosecondsOf digits, rest)
  | text => some (0, text)

/-- Seconds with a fraction at the start of a text, where there may be none. A
minute may have a sixty-first second. -/
def seconds? : List Char → Option (Nat × Nat × List Char)
  | ':' :: text => do
    let (second, text) ← twoDigits? text
    if 60 < second then none
    let (nanosecond, text) ← fraction? text
    return (second, nanosecond, text)
  | text => some (0, 0, text)

def time? (text : List Char) : Option (Time × List Char) := do
  let (hour, text) ← twoDigits? text
  let ':' :: text := text | none
  let (minute, text) ← twoDigits? text
  if 23 < hour || 59 < minute then none
  let (second, nanosecond, text) ← seconds? text
  return (⟨hour, minute, second, nanosecond⟩, text)

def zone? : List Char → Option (Option Zone)
  | [] => some none
  | ['Z'] | ['z'] => some (some .common)
  | sign :: text => do
    if sign != '+' && sign != '-' then none
    let (hours, text) ← twoDigits? text
    let ':' :: text := text | none
    let (minutes, []) ← twoDigits? text | none
    if 23 < hours || 59 < minutes then none
    let distance : Int := (60 * hours + minutes : Nat)
    return some (.ahead (if sign = '-' then -distance else distance))

def moment? (text : List Char) : Option Moment :=
  match date? text with
  | some (day, []) => some (.date day)
  | some (day, c :: text) =>
    if c = 'T' || c = 't' || c = ' ' then do
      let (clock, text) ← time? text
      return .both day clock (← zone? text)
    else none
  | none => do
    let (clock, []) ← time? text | none
    return .time clock

private def respelled (text : String) : Option String :=
  (moment? text.toList).map Moment.text

example : respelled "1979-05-27 07:32" = some "1979-05-27T07:32:00" := by decide +kernel

example : respelled "07:32:00.1000000009" = some "07:32:00.1" := by decide +kernel

example : respelled "1979-05-27t23:59:60.0-00:00" = some "1979-05-27T23:59:60+00:00" := by
  decide +kernel

example : respelled "1900-02-29" = none ∧ respelled "07:32Z" = none := by decide +kernel

end TradeSpeech.Toml
