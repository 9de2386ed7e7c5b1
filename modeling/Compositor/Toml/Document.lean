import Compositor.Toml.Expression

namespace Compositor.Toml

open Compositor.Parser

inductive Statement where
  /-- The entries that follow belong to this table. -/
  | table (key : Key)
  /-- The entries that follow belong to a further table of this name. -/
  | element (key : Key)
  | entry (key : Key) (value : Value)

namespace Statement

def header : Parser Statement :=
  (do
    let _ ← literal ['[', '[']
    let key ← Key.parser <* literal [']', ']']
    return .element key) <|>
  (do
    let _ ← char '['
    let key ← Key.parser <* char ']'
    return .table key)

def parser : Parser Statement :=
  header <|> (fun (key, value) => .entry key value) <$> Toml.entry (value maxNesting)

end Statement

def line : Parser (Option Statement) :=
  blanks *> (some <$> Statement.parser <* restOfLine <|>
    optional comment *> newline *> pure none <|>
    comment *> atEnd *> pure none)

/-- A byte order mark may stand before the first line. -/
def statements : Parser (List Statement) := do
  let _ ← optional (char '\ufeff')
  let lines ← many line
  let _ ← blanks
  return lines.filterMap id

/-- A table under construction, with the path of the header that the next entries belong to. -/
structure Draft where
  root : Table Value := ⟨.header, []⟩
  current : List String := []

def Draft.add? (draft : Draft) : Statement → Option Draft
  | .table key => do return ⟨← draft.root.openTable? key, key.path⟩
  | .element key => do return ⟨← draft.root.openElement? key, key.path⟩
  | .entry key value => do
    let root ← draft.root.modify? .header (·.insert? key value) draft.current
    return { draft with root }

/-- The table that statements build, unless two of them contradict each other. -/
def Table.ofStatements? (statements : List Statement) : Option (Table Value) :=
  (statements.foldlM Draft.add? {}).map (·.root)

def parse? (text : String) : Option (Table Value) := do
  Table.ofStatements? (← all statements text.toList)

end Compositor.Toml
