import Compositor.Toml.Blank

namespace Compositor.Toml

open Compositor.Parser

def hexDigit? (c : Char) : Option Nat :=
  if '0' ≤ c ∧ c ≤ '9' then some (c.toNat - '0'.toNat)
  else if 'a' ≤ c ∧ c ≤ 'f' then some (c.toNat - 'a'.toNat + 10)
  else if 'A' ≤ c ∧ c ≤ 'F' then some (c.toNat - 'A'.toNat + 10)
  else none

def hexNumeral (digits : List Char) : Nat :=
  digits.foldl (fun n c => 16 * n + (hexDigit? c).getD 0) 0

/-- A character given by exactly `count` digits of its number; surrogates have no character. -/
def codePoint (count : Nat) : Parser Char := do
  let digits ← (List.replicate count ()).mapM fun _ => satisfy fun c => (hexDigit? c).isSome
  let n := hexNumeral digits
  if n.isValidChar then return Char.ofNat n else failure

def escape : Parser Char := do
  match ← char '\\' *> satisfy fun _ => true with
  | 'b' => return '\x08'
  | 't' => return '\t'
  | 'n' => return '\n'
  | 'f' => return '\x0c'
  | 'r' => return '\r'
  | '"' => return '"'
  | '\\' => return '\\'
  | 'u' => codePoint 4
  | 'U' => codePoint 8
  | _ => failure

/-- A character that stands for itself between double quotes. -/
def isPlain (c : Char) : Bool := isText c && c ≠ '"' && c ≠ '\\'

def isLiteral (c : Char) : Bool := isText c && c ≠ '\''

def basicString : Parser (List Char) := do
  let pieces ← char '"' *> many (run1 isPlain <|> ([·]) <$> escape) <* char '"'
  return pieces.flatten

def literalString : Parser (List Char) := char '\'' *> run isLiteral <* char '\''

/-- Quotes inside a string over several lines: one or two, but not three. -/
def innerQuotes (quote : Char) : Parser (List Char) := do
  let quotes ← run1 (· = quote)
  if quotes.length ≤ 2 then return quotes else failure

/-- The three closing quotes; up to two more before them belong to the string. -/
def closingQuotes (quote : Char) : Parser (List Char) := do
  let quotes ← run1 (· = quote)
  if 3 ≤ quotes.length ∧ quotes.length ≤ 5 then return quotes.drop 3 else failure

/-- A backslash at the end of a line drops it with all blanks and line ends that follow. -/
def lineContinuation : Parser (List Char) :=
  char '\\' *> blanks *> newline *> many (satisfy isBlank <|> newline) *> pure []

/-- Three quotes, pieces, three quotes; a line end right after the opening ones is dropped. -/
def multiline (quote : Char) (piece : Parser (List Char)) : Parser (List Char) := do
  literal [quote, quote, quote]
  let _ ← optional newline
  let pieces ← many piece
  return pieces.flatten ++ (← closingQuotes quote)

/-- Line ends count as line feeds. -/
def multilineBasic : Parser (List Char) :=
  multiline '"' (run1 isPlain <|> ([·]) <$> newline <|> lineContinuation <|> ([·]) <$> escape <|>
    innerQuotes '"')

def multilineLiteral : Parser (List Char) :=
  multiline '\'' (run1 isLiteral <|> ([·]) <$> newline <|> innerQuotes '\'')

def lineString : Parser String := String.ofList <$> (basicString <|> literalString)

def anyString : Parser String :=
  String.ofList <$> (multilineBasic <|> multilineLiteral <|> basicString <|> literalString)

end Compositor.Toml
