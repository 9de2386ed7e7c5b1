import Compositor.Toml.Value

namespace Compositor.Toml

open Compositor.Parser

/-- How many brackets and braces stand inside each other at most. -/
def maxNesting : Nat := 79

def scalar : Parser Value :=
  .string <$> anyString <|>
  literal "true".toList *> pure (.boolean true) <|>
  literal "false".toList *> pure (.boolean false) <|>
  .dateTime <$> dateTime <|>
  .float <$> float <|>
  .integer <$> integer

/-- Items may stand on several lines, and a comma may follow the last one. -/
def array (item : Parser Value) : Parser (List Value) := do
  let _ ← char '[' *> gap
  let items ← optional (sepBy1 (item <* gap) (char ',' *> gap) <* optional (char ',') <* gap)
  let _ ← char ']'
  return items.getD []

def entry (value : Parser Value) : Parser (Key × Value) := do
  let key ← Key.parser <* char '=' <* blanks
  return (key, ← value)

/-- Entries stand on one line, and no comma follows the last one. -/
def inlineTable (value : Parser Value) : Parser (Table Value) := do
  let _ ← char '{'
  let entries ← optional (sepBy1 (entry value <* blanks) (char ','))
  let _ ← blanks *> char '}'
  Table.ofEntries? (entries.getD [])

/-- A value with at most `depth` brackets and braces inside each other. -/
def value : (depth : Nat) → Parser Value
  | 0 => scalar
  | depth + 1 =>
    scalar <|> .array <$> array (value depth) <|> .table <$> inlineTable (value depth)

end Compositor.Toml
