import Compositor.Log.Level
import Compositor.Text.Pieces

namespace Compositor

/-- What is logged of the parts of a program whose names begin with a given text. -/
structure LogDirective where
  /-- Without a text, the directive is for all parts. -/
  start : Option String
  filter : LogFilter
deriving DecidableEq, Repr

namespace LogDirective

/-- White space of any script. -/
def isBlank (c : Char) : Bool :=
  ('\t' ≤ c && c ≤ '\r') || c = ' ' || c = '\u0085' || c = '\u00a0' || c = '\u1680' ||
    ('\u2000' ≤ c && c ≤ '\u200a') || c = '\u2028' || c = '\u2029' || c = '\u202f' ||
    c = '\u205f' || c = '\u3000'

def trim (text : List Char) : List Char :=
  ((text.dropWhile isBlank).reverse.dropWhile isBlank).reverse

/-- A level alone is for all parts, and a name alone lets everything of its parts through. -/
def ofText? (text : List Char) : Option LogDirective :=
  match Text.pieces (· = '=') text with
  | [name] =>
    match LogFilter.ofName? (String.ofList name) with
    | some filter => some ⟨none, filter⟩
    | none => some ⟨some (String.ofList name), some .trace⟩
  | [name, level] =>
    if (trim level).isEmpty then some ⟨some (String.ofList name), some .trace⟩
    else (LogFilter.ofName? (String.ofList (trim level))).map (⟨some (String.ofList name), ·⟩)
  | _ => none

/-- The directives between commas; those that are none are passed over. What follows a slash, a
pattern for the texts of entries, is not looked at; with a second slash, nothing is. -/
def ofRequest (request : String) : List LogDirective :=
  match Text.pieces (· = '/') request.toList with
  | [list] | [list, _] =>
    (((Text.pieces (· = ',') list).map trim).filter (!·.isEmpty)).filterMap ofText?
  | _ => []

def governs (part : String) (directive : LogDirective) : Bool :=
  match directive.start with
  | none => true
  | some start => start.toList.isPrefixOf part.toList

def weight (directive : LogDirective) : Nat := (directive.start.getD "").length

/-- The one with the longer text, and of two with texts of one length the later one. -/
def prevailing (first : Option LogDirective) (second : LogDirective) : LogDirective :=
  match first with
  | none => second
  | some first => if first.weight ≤ second.weight then second else first

end LogDirective

/-- What a request lets through of a part of the program: errors if it holds no directives, else
what the prevailing one of those for the part does, and nothing without one. -/
def LogFilter.ofRequest (request part : String) : LogFilter :=
  match LogDirective.ofRequest request with
  | [] => some .error
  | directives =>
    let prevailing := (directives.filter (LogDirective.governs part)).foldl
      (fun first second => some (LogDirective.prevailing first second)) none
    prevailing.bind (·.filter)

end Compositor
