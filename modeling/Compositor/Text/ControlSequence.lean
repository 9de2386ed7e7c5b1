namespace Compositor.Text

def isPrinting (c : Char) : Bool := ' ' ≤ c && c ≠ '\x7f'

/-- Control characters that lay a text out: tab, line feed, form feed and carriage return. -/
def isLayout (c : Char) : Bool := c = '\t' || c = '\n' || c = '\x0c' || c = '\r'

/-- The kinds of control sequence, as far as they have been read. -/
inductive ControlSequence where
  | none
  /-- An escape character, which opens each of the others. -/
  | escape
  /-- Intermediates; a final character ends them. -/
  | intermediates
  /-- Parameters, as a colour has them; a letter ends them. -/
  | parameters
  /-- A command to the operating system, ended by a bell. -/
  | command
  | device
  | deviceParameters
  | deviceIntermediates
  /-- A string for another reader; a byte `9c` ends it, also one inside a character. -/
  | string
deriving DecidableEq, Repr

namespace ControlSequence

/-- A control character inside these takes effect at once. -/
def takesControls : ControlSequence → Bool
  | none | escape | intermediates | parameters => true
  | command | device | deviceParameters | deviceIntermediates | string => false

/-- Reads one character. An escape character opens another sequence, a cancel or substitute ends
it. -/
def next (sequence : ControlSequence) (c : Char) : ControlSequence :=
  if c = '\x1b' then escape
  else if c = '\x18' ∨ c = '\x1a' then none
  else match sequence with
  | none => none
  | escape =>
    if c = '[' then parameters
    else if c = ']' then command
    else if c = 'P' then device
    else if c = 'X' ∨ c = '^' ∨ c = '_' then string
    else if ' ' ≤ c ∧ c ≤ '/' then intermediates
    else if '0' ≤ c ∧ c ≤ '~' then none
    else escape
  | intermediates => if '0' ≤ c ∧ c ≤ '~' then none else intermediates
  | parameters => if '@' ≤ c ∧ c ≤ '~' then none else parameters
  | command => if c = '\x07' then none else command
  | device =>
    if '@' ≤ c ∧ c ≤ '~' then string
    else if ' ' ≤ c ∧ c ≤ '/' then deviceIntermediates
    else if '0' ≤ c ∧ c ≤ '?' then deviceParameters
    else device
  | deviceParameters =>
    if '<' ≤ c ∧ c ≤ '~' then string
    else if ' ' ≤ c ∧ c ≤ '/' then deviceIntermediates
    else deviceParameters
  | deviceIntermediates => if '0' ≤ c ∧ c ≤ '~' then string else deviceIntermediates
  | string => if 0x9c ∈ String.utf8EncodeChar c then none else string

/--
What is left of the characters after a part of a sequence. A layout character that takes effect
inside a sequence interrupts it: what follows is text again, up to the next control character.
-/
def strip (sequence : ControlSequence) (interrupted : Bool) : List Char → List Char
  | [] => []
  | c :: cs =>
    if isLayout c && sequence.takesControls then c :: strip sequence true cs
    else if isPrinting c && (interrupted || sequence = none) then
      c :: strip (if c < '\x80' then sequence else none) interrupted cs
    else strip (sequence.next c) false cs

end ControlSequence

/-- A text without control sequences and without control characters other than layout. -/
def withoutControls (text : String) : String :=
  String.ofList (ControlSequence.none.strip false text.toList)

end Compositor.Text
