namespace Compositor.CommandLine

inductive IntegerError where
  | empty
  | invalidDigit
  | tooLarge
  | tooSmall
  /-- The number is none that the flag admits. -/
  | outOfRange (n : Int)
deriving DecidableEq, Repr

def IntegerError.message : IntegerError → String
  | empty => "cannot parse integer from empty string"
  | invalidDigit => "invalid digit found in string"
  | tooLarge => "number too large to fit in target type"
  | tooSmall => "number too small to fit in target type"
  | outOfRange n => toString n ++ " is not in 0..=4294967295"

/-- Reads digits from the left; the first that is none or that leaves 64 bits decides. -/
def readDigits (negative : Bool) : Int → List Char → Except IntegerError Int
  | n, [] => .ok n
  | n, c :: rest =>
    if c.isDigit then
      let digit : Int := c.toNat - '0'.toNat
      let n := if negative then 10 * n - digit else 10 * n + digit
      if Int64.maxValue.toInt < n then .error .tooLarge
      else if n < Int64.minValue.toInt then .error .tooSmall
      else readDigits negative n rest
    else .error .invalidDigit

def readInteger (text : String) : Except IntegerError Int :=
  match text.toList with
  | [] => .error .empty
  | ['+'] | ['-'] => .error .invalidDigit
  | '+' :: digits => readDigits false 0 digits
  | '-' :: digits => readDigits true 0 digits
  | digits => readDigits false 0 digits

def readUInt32 (text : String) : Except IntegerError UInt32 := do
  let n ← readInteger text
  if 0 ≤ n ∧ n.toNat < UInt32.size then return .ofNat n.toNat else .error (.outOfRange n)

end Compositor.CommandLine
