import Compositor.Toml.Quoted

namespace Compositor.Toml

open Compositor.Parser

/-- A path to an entry: the tables on the way to it and its name in the last of them. -/
structure Key where
  parents : List String := []
  name : String
deriving DecidableEq, Repr

namespace Key

def path (key : Key) : List String := key.parents ++ [key.name]

def ofPath? : List String → Option Key
  | [] => none
  | part :: rest => some ⟨(part :: rest).dropLast, (part :: rest).getLast (by simp)⟩

/-- A key has fewer parts than this. -/
def maxParts : Nat := 80

def isBare (c : Char) : Bool := c.isAlphanum || c = '_' || c = '-'

def part : Parser String := lineString <|> String.ofList <$> run1 isBare

/-- Blanks may stand around each part. -/
def parser : Parser Key := do
  let parts ← sepBy1 (blanks *> part <* blanks) (char '.')
  match ofPath? parts with
  | some key => if parts.length < maxParts then return key else failure
  | none => failure

end Key
end Compositor.Toml
