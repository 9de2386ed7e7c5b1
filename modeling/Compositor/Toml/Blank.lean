import Compositor.Text.Parser

namespace Compositor.Toml

open Compositor.Parser

def isBlank (c : Char) : Bool := c = ' ' || c = '\t'

def blanks : Parser (List Char) := run isBlank

/-- A line feed, with or without a carriage return before it. -/
def newline : Parser Char := char '\n' <|> (char '\r' *> char '\n')

/-- A printing character or a tab; other control characters stand nowhere in a document. -/
def isText (c : Char) : Bool := c = '\t' || (' ' ≤ c && c ≠ '\x7f')

def comment : Parser (List Char) := char '#' *> run isText

/-- The end of a line or of the document. -/
def lineEnd : Parser Unit := newline *> pure () <|> atEnd

/-- What may follow a statement on its line. -/
def restOfLine : Parser Unit := blanks *> optional comment *> lineEnd

/-- Blanks, line ends and whole comments, in any number. -/
def gap : Parser Unit :=
  many (run1 isBlank *> pure () <|> newline *> pure () <|> comment *> newline *> pure ()) *> pure ()

end Compositor.Toml
