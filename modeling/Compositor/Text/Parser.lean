namespace Compositor

/-- What was read of a list of characters, with the characters that are left. -/
abbrev Parser := StateT (List Char) Option

namespace Parser

def satisfy (p : Char → Bool) : Parser Char
  | [] => none
  | c :: rest => if p c then some (c, rest) else none

def char (c : Char) : Parser Char := satisfy (· = c)

def literal : List Char → Parser Unit
  | [] => pure ()
  | c :: cs => char c *> literal cs

/-- The longest run of a class, which may be empty. -/
def run (p : Char → Bool) : Parser (List Char) := fun s => some (s.takeWhile p, s.dropWhile p)

/-- The longest run of a class, with at least one character. -/
def run1 (p : Char → Bool) : Parser (List Char) := do
  let first ← satisfy p
  return first :: (← run p)

def atEnd : Parser Unit
  | [] => some ((), [])
  | _ :: _ => none

/-- Repeats a parser while it succeeds, but at most so many times. -/
def upTo (p : Parser α) : Nat → Parser (List α)
  | 0, s => some ([], s)
  | n + 1, s =>
    match p s with
    | none => some ([], s)
    | some (a, rest) => (upTo p n rest).map fun (as, left) => (a :: as, left)

/-- Repeats a parser while it succeeds; each repetition takes at least one character. -/
def many (p : Parser α) : Parser (List α) := fun s => upTo p s.length s

def sepBy1 (item : Parser α) (separator : Parser β) : Parser (List α) := do
  let first ← item
  return first :: (← many (separator *> item))

def all (p : Parser α) (s : List Char) : Option α := ((p <* atEnd) s).map (·.1)

theorem upTo_of_none {p : Parser α} {s : List Char} (h : p s = none) (n : Nat) :
    upTo p n s = some ([], s) := by
  cases n with
  | zero => rfl
  | succ n => simp [upTo, h]

theorem many_of_none {p : Parser α} {s : List Char} (h : p s = none) :
    many p s = some ([], s) := upTo_of_none h s.length

end Parser
end Compositor
