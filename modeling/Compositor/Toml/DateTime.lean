import Compositor.Text.Parser

namespace Compositor.Toml

open Compositor.Parser

structure Date where
  year : Nat
  month : Nat
  day : Nat
deriving DecidableEq, Repr

structure Time where
  hour : Nat
  minute : Nat
  second : Nat
  /-- Digits of the fraction beyond the ninth are dropped. -/
  nanosecond : Nat := 0
deriving DecidableEq, Repr

inductive DateTime where
  | day (date : Date)
  | timeOfDay (time : Time)
  | atLocalTime (date : Date) (time : Time)
  /-- The offset is counted in minutes, to the east. -/
  | atOffset (date : Date) (time : Time) (minutes : Int)
deriving DecidableEq, Repr

def isLeapYear (year : Nat) : Bool := year % 4 = 0 && (year % 100 ≠ 0 || year % 400 = 0)

def daysOfMonth (year month : Nat) : Nat :=
  if month = 2 then if isLeapYear year then 29 else 28
  else if month ∈ [4, 6, 9, 11] then 30
  else 31

/-- A number of exactly `count` digits, between two bounds. -/
def bounded (count low high : Nat) : Parser Nat := do
  let digits ← (List.replicate count ()).mapM fun _ => satisfy Char.isDigit
  let n := Nat.ofDigitChars 10 digits 0
  if low ≤ n ∧ n ≤ high then return n else failure

def date : Parser Date := do
  let year ← bounded 4 0 9999 <* char '-'
  let month ← bounded 2 1 12 <* char '-'
  return ⟨year, month, ← bounded 2 1 (daysOfMonth year month)⟩

def fraction : Parser Nat := do
  let digits ← char '.' *> run1 Char.isDigit
  return Nat.ofDigitChars 10 ((digits ++ List.replicate 9 '0').take 9) 0

/-- A minute may have a leap second. -/
def time : Parser Time := do
  let hour ← bounded 2 0 23 <* char ':'
  let minute ← bounded 2 0 59 <* char ':'
  let second ← bounded 2 0 60
  return ⟨hour, minute, second, (← optional fraction).getD 0⟩

def offset : Parser Int := (char 'Z' <|> char 'z') *> pure 0 <|> do
  let negative ← char '-' *> pure true <|> char '+' *> pure false
  let hour ← bounded 2 0 23 <* char ':'
  let minutes := 60 * hour + (← bounded 2 0 59)
  return if negative then -minutes else minutes

/-- The time follows a date after a letter or a space. -/
def timeAfterDate : Parser Time := satisfy (fun c => c = 'T' || c = 't' || c = ' ') *> time

def dateTime : Parser DateTime := DateTime.timeOfDay <$> time <|> do
  let day ← date
  match ← optional timeAfterDate with
  | none => return .day day
  | some time =>
    match ← optional offset with
    | none => return .atLocalTime day time
    | some minutes => return .atOffset day time minutes

end Compositor.Toml
