import Provisioning.Number.Integer

/-!
Dates and times in TOML, and the one form they are shown in.
-/

namespace Provisioning.Toml

open Provisioning.Number

structure Date where
  year : Nat
  month : Nat
  day : Nat
  deriving DecidableEq, Repr

structure Time where
  hour : Nat
  minute : Nat
  second : Nat
  nanosecond : Nat
  deriving DecidableEq, Repr

inductive Offset where
  | zulu
  | minutes (east : Int)
  deriving DecidableEq, Repr

inductive Moment where
  | date (day : Date)
  | time (clock : Time)
  | full (day : Date) (clock : Time) (offset : Option Offset)
  deriving DecidableEq, Repr

def fixed? (size low high : Nat) (characters : List Char) : Option (Nat × List Char) :=
  let digits := characters.take size
  if digits.length = size ∧ digits.all Char.isDigit ∧
      low ≤ digitsValue digits ∧ digitsValue digits ≤ high then
    some (digitsValue digits, characters.drop size)
  else
    none

def after? (mark : Char) : List Char → Option (List Char)
  | character :: rest => if character = mark then some rest else none
  | [] => none

def isLeapYear (year : Nat) : Bool :=
  year % 4 == 0 && (year % 100 != 0 || year % 400 == 0)

def daysIn (year month : Nat) : Nat :=
  if month = 2 then if isLeapYear year then 29 else 28
  else if [4, 6, 9, 11].contains month then 30
  else 31

def date? (characters : List Char) : Option (Date × List Char) := do
  let (year, rest) ← fixed? 4 0 9999 characters
  let (month, rest) ← fixed? 2 1 12 (← after? '-' rest)
  let (day, rest) ← fixed? 2 1 (daysIn year month) (← after? '-' rest)
  return ({ year, month, day }, rest)

/-- The fraction of a second in nanoseconds, cut off after nine digits. -/
def fractionOfSecond? : List Char → Option (Nat × List Char)
  | '.' :: rest =>
      let digits := rest.takeWhile Char.isDigit
      if digits.isEmpty then
        none
      else
        let kept := digits.take 9
        some (digitsValue kept * Nat.pow 10 (9 - kept.length), rest.drop digits.length)
  | rest => some (0, rest)

/-- A minute may have a leap second. -/
def time? (characters : List Char) : Option (Time × List Char) := do
  let (hour, rest) ← fixed? 2 0 23 characters
  let (minute, rest) ← fixed? 2 0 59 (← after? ':' rest)
  let (second, rest) ← fixed? 2 0 60 (← after? ':' rest)
  let (nanosecond, rest) ← fractionOfSecond? rest
  return ({ hour, minute, second, nanosecond }, rest)

def offset? : List Char → Option (Option Offset × List Char)
  | 'Z' :: rest => some (some .zulu, rest)
  | 'z' :: rest => some (some .zulu, rest)
  | character :: rest =>
      if character = '+' ∨ character = '-' then do
        let (hours, rest) ← fixed? 2 0 23 rest
        let (minutes, rest) ← fixed? 2 0 59 (← after? ':' rest)
        let total : Int := hours * 60 + minutes
        return (some (.minutes (if character = '-' then -total else total)), rest)
      else
        some (none, character :: rest)
  | [] => some (none, [])

def isTimeMark (character : Char) : Bool :=
  character == 'T' || character == 't' || character == ' '

def startsTime (characters : List Char) : Bool :=
  match fixed? 2 0 23 characters with
  | some (_, ':' :: _) => true
  | _ => false

def startsDate (characters : List Char) : Bool :=
  match fixed? 4 0 9999 characters with
  | some (_, '-' :: _) => true
  | _ => false

def moment? (characters : List Char) : Option (Moment × List Char) :=
  if startsTime characters then
    (time? characters).map fun (time, rest) => (.time time, rest)
  else do
    let (date, rest) ← date? characters
    if rest.head?.any isTimeMark && startsTime (rest.drop 1) then
      let (time, rest) ← time? (rest.drop 1)
      let (offset, rest) ← offset? rest
      return (.full date time offset, rest)
    else
      return (.date date, rest)

def padded (size number : Nat) : String :=
  let digits := toString number
  String.ofList (List.replicate (size - digits.length) '0') ++ digits

def Date.text (date : Date) : String :=
  padded 4 date.year ++ "-" ++ padded 2 date.month ++ "-" ++ padded 2 date.day

def Time.text (time : Time) : String :=
  let clock := padded 2 time.hour ++ ":" ++ padded 2 time.minute ++ ":" ++ padded 2 time.second
  let fraction := (padded 9 time.nanosecond).toList.reverse.dropWhile (· == '0')
  if time.nanosecond = 0 then clock else clock ++ "." ++ String.ofList fraction.reverse

def Offset.text : Offset → String
  | .zulu => "Z"
  | .minutes east =>
      let size := east.natAbs
      (if east < 0 then "-" else "+") ++ padded 2 (size / 60) ++ ":" ++ padded 2 (size % 60)

def Moment.text : Moment → String
  | .date day => day.text
  | .time clock => clock.text
  | .full day clock offset =>
      day.text ++ "T" ++ clock.text ++ ((offset.map Offset.text).getD "")

end Provisioning.Toml
