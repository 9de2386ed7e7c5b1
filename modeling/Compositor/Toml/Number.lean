import Compositor.Toml.Quoted

namespace Compositor.Toml

open Compositor.Parser

/-- A decimal fraction as it is written, or one of the values without digits. -/
inductive Decimal where
  /-- The number `mantissa * 10 ^ exponent`, with its sign. -/
  | finite (negative : Bool) (mantissa : Nat) (exponent : Int)
  | infinite (negative : Bool)
  | notANumber
deriving DecidableEq, Repr

/--
Half a step above the largest number of 64-bit floating point, from which on numbers round to
infinity.
-/
def overflowBound : Nat := (Nat.pow 2 54 - 1) * Nat.pow 2 970

/--
Whether `mantissa * 10 ^ exponent` reaches `overflowBound`, which has 309 digits. Numbers with far
more or far fewer are decided by their length, so that powers stay as small as the text is long.
-/
def overflows (mantissa : Nat) (exponent : Int) : Bool :=
  let length : Int := (Nat.toDigits 10 mantissa).length + exponent
  if mantissa = 0 ∨ length < 300 then false
  else if 320 < length then true
  else overflowBound * Nat.pow 10 (-exponent).toNat ≤ mantissa * Nat.pow 10 exponent.toNat

/-- Digits of one base; a single underscore may stand between two of them. -/
def digits (p : Char → Bool) : Parser (List Char) := do
  let first ← satisfy p
  return first :: (← many (satisfy p <|> char '_' *> satisfy p))

/-- Whether a number is negative; the plus sign may be left out. -/
def sign : Parser Bool := char '-' *> pure true <|> char '+' *> pure false <|> pure false

def wholeDigits : Parser (List Char) := do
  let first ← satisfy Char.isDigit
  if first = '0' then return ['0']
  else return first :: (← many (satisfy Char.isDigit <|> char '_' *> satisfy Char.isDigit))

def decimalInteger : Parser Int := do
  let negative ← sign
  let n := Nat.ofDigitChars 10 (← wholeDigits) 0
  return if negative then -n else n

def basedInteger (letter : Char) (isDigit : Char → Bool) (value : List Char → Nat) :
    Parser Int := do
  literal ['0', letter]
  return value (← digits isDigit)

def integer : Parser Int := do
  let n ←
    basedInteger 'x' (fun c => (hexDigit? c).isSome) hexNumeral <|>
    basedInteger 'o' (fun c => '0' ≤ c && c ≤ '7') (Nat.ofDigitChars 8 · 0) <|>
    basedInteger 'b' (fun c => c = '0' || c = '1') (Nat.ofDigitChars 2 · 0) <|>
    decimalInteger
  if Int64.minValue.toInt ≤ n ∧ n ≤ Int64.maxValue.toInt then return n else failure

def exponent : Parser Int := do
  let _ ← char 'e' <|> char 'E'
  let negative ← sign
  let n := Nat.ofDigitChars 10 (← digits Char.isDigit) 0
  return if negative then -n else n

/-- A number with a fraction, an exponent or both; a positive one must not round to infinity. -/
def decimalFraction : Parser Decimal := do
  let negative ← sign
  let whole ← wholeDigits
  let fraction ← optional (char '.' *> digits Char.isDigit)
  let scale ← optional exponent
  if fraction.isNone && scale.isNone then failure
  let places := fraction.getD []
  let mantissa := Nat.ofDigitChars 10 (whole ++ places) 0
  let shift := scale.getD 0 - places.length
  if !negative && overflows mantissa shift then failure
  return .finite negative mantissa shift

def float : Parser Decimal := decimalFraction <|> do
  let negative ← sign
  literal "inf".toList *> pure (.infinite negative) <|> literal "nan".toList *> pure .notANumber

end Compositor.Toml
