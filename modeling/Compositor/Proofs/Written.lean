import Compositor.Proofs.Parsing
import Compositor.Toml.Document

namespace Compositor.Toml

open Compositor.Parser

/-- The written form of a value, where it has one of its own. -/
inductive Written : List Char → Value → Prop
  | boolean (b : Bool) : Written (toString b).toList (.boolean b)
  | string {cs : List Char} (hne : cs ≠ []) (hcs : ∀ c ∈ cs, isPlain c = true) :
    Written ('"' :: cs ++ ['"']) (.string (.ofList cs))
  | number {n : Nat} (hn : n ≤ Int64.maxValue.toInt) :
    Written (Nat.toDigits 10 n) (.integer n)

/-- A word that can be a key without quotes. -/
def IsWord (name : List Char) : Prop := name ≠ [] ∧ ∀ c ∈ name, Key.isBare c = true

/-- A line as it is printed, and the statement it makes. -/
inductive Printed : List Char → Option Statement → Prop
  | blank : Printed ['\n'] none
  | header {name : List Char} (hname : IsWord name) :
    Printed ('[' :: name ++ [']', '\n']) (some (.table ⟨[], .ofList name⟩))
  | entry {name text : List Char} {value : Value} (hname : IsWord name)
    (htext : Written text value) :
    Printed (name ++ [' ', '=', ' '] ++ text ++ ['\n']) (some (.entry ⟨[], .ofList name⟩ value))

variable {c : Char} {cs name text rest : List Char}

theorem anyString_eq_none (hdouble : c ≠ '"') (hsingle : c ≠ '\'') :
    anyString (c :: rest) = none := by
  simp [anyString, multilineBasic, multilineLiteral, multiline, basicString, literalString,
    literal_cons, hdouble, hsingle]

theorem scalar_boolean (b : Bool) (rest : List Char) :
    scalar ((toString b).toList ++ rest) = some (.boolean b, rest) := by
  cases b with
  | false =>
    change scalar ('f' :: 'a' :: 'l' :: 's' :: 'e' :: rest) = _
    have hstring : anyString ('f' :: 'a' :: 'l' :: 's' :: 'e' :: rest) = none :=
      anyString_eq_none (by decide) (by decide)
    simp [scalar, hstring, literal_cons, literal_nil]
  | true =>
    change scalar ('t' :: 'r' :: 'u' :: 'e' :: rest) = _
    have hstring : anyString ('t' :: 'r' :: 'u' :: 'e' :: rest) = none :=
      anyString_eq_none (by decide) (by decide)
    simp [scalar, hstring, literal_cons, literal_nil]

theorem basicString_plain (hcs : ∀ c ∈ cs, isPlain c = true) (hne : cs ≠ []) (rest : List Char) :
    basicString ('"' :: cs ++ '"' :: rest) = some (cs, rest) := by
  have hstop : Stops isPlain ('"' :: rest) := stops_cons.2 (by decide)
  have hescape : escape ('"' :: rest) = none := by simp [escape]
  have hrepeats : Repeats (run1 isPlain <|> ([·]) <$> escape) (cs ++ '"' :: rest) [cs]
      ('"' :: rest) := by
    refine .more (by simp [run1_append hne hcs hstop]) ?_ (.stop ?_)
    · have hlength := List.length_pos_iff.2 hne
      simp
      omega
    · simp [run1_eq_none hstop, hescape]
  simp [basicString, hrepeats.many_eq]

theorem scalar_string (hcs : ∀ c ∈ cs, isPlain c = true) (hne : cs ≠ []) (rest : List Char) :
    scalar ('"' :: cs ++ '"' :: rest) = some (.string (.ofList cs), rest) := by
  have hbasic := basicString_plain hcs hne rest
  obtain ⟨c, cs, rfl⟩ := List.exists_cons_of_ne_nil hne
  have hc : c ≠ '"' := by
    rintro rfl
    exact absurd (hcs _ List.mem_cons_self) (by decide)
  simp only [List.cons_append] at hbasic
  simp [scalar, anyString, multilineBasic, multilineLiteral, multiline, literal_cons, hc, hbasic]

theorem isDigit_of_mem_toDigits {n : Nat} (hc : c ∈ Nat.toDigits 10 n) : c.isDigit = true :=
  Nat.isDigit_of_mem_toDigits (by decide) (by decide) hc

theorem exists_toDigits_digit (n : Nat) :
    ∃ d ds, Nat.toDigits 10 n = d :: ds ∧ d.isDigit = true := by
  obtain ⟨d, ds, hds⟩ := List.exists_cons_of_ne_nil (Nat.toDigits_ne_nil (n := n) (b := 10))
  exact ⟨d, ds, hds, isDigit_of_mem_toDigits (by rw [hds]; exact List.mem_cons_self)⟩

theorem ne_of_isDigit (hc : c.isDigit = true) {d : Char} (hd : d.isDigit = false) : c ≠ d := by
  rintro rfl
  rw [hc] at hd
  cases hd

/-- The first digit of a number is a zero only if the number is. -/
theorem exists_toDigits_eq_cons {n : Nat} (hn : 0 < n) :
    ∃ c cs, Nat.toDigits 10 n = c :: cs ∧ c ≠ '0' := by
  induction n using Nat.strong_induction_on with
  | h n ih =>
    by_cases hlt : n < 10
    · refine ⟨n.digitChar, [], Nat.toDigits_of_lt_base hlt, ?_⟩
      have hzero : ∀ d < 10, d.digitChar = '0' → d = 0 := by decide
      intro hdigit
      have := hzero n hlt hdigit
      omega
    · obtain ⟨c, cs, hcs, hc⟩ := ih (n / 10) (by omega) (by omega)
      refine ⟨c, cs ++ [(n % 10).digitChar], ?_, hc⟩
      rw [Nat.toDigits_of_base_le (by decide) (by omega), hcs]
      rfl

theorem stops_newline : Stops Char.isDigit ('\n' :: rest) := stops_cons.2 (by decide)

/-- Digits to the end of the line are no part of a date: no other character follows them. -/
theorem bounded_char_eq_none (hcs : ∀ c ∈ cs, c.isDigit = true) (rest : List Char)
    (count low high : Nat) (hc : c.isDigit = false) (hne : c ≠ '\n') :
    (bounded count low high <* char c) (cs ++ '\n' :: rest) = none := by
  rw [seqLeft_apply]
  cases hbounded : bounded count low high (cs ++ '\n' :: rest) with
  | none => rfl
  | some result =>
    obtain ⟨n, after⟩ := result
    obtain ⟨⟨taken, left⟩, htaken, hcheck⟩ := Option.bind_eq_some_iff.1 hbounded
    obtain rfl : left = after := by
      dsimp only at hcheck
      split_ifs at hcheck
      · cases hcheck
        rfl
      · cases hcheck
    obtain ⟨hsplit, hall⟩ := eq_append_of_mapM_satisfy htaken
    cases left with
    | nil => rfl
    | cons d left =>
      have hdc : d ≠ c := by
        rintro rfl
        have hstops : Stops Char.isDigit (d :: left) := stops_cons.2 hc
        have hdrop := dropWhile_append_of_stops hall hstops
        rw [← hsplit, dropWhile_append_of_stops hcs stops_newline] at hdrop
        exact hne (List.cons_eq_cons.1 hdrop).1.symm
      simp [hdc]

theorem dateTime_eq_none (hcs : ∀ c ∈ cs, c.isDigit = true) :
    dateTime (cs ++ '\n' :: rest) = none := by
  have htime := bounded_char_eq_none hcs rest 2 0 23 (c := ':') (by decide) (by decide)
  have hdate := bounded_char_eq_none hcs rest 4 0 9999 (c := '-') (by decide) (by decide)
  simp only [dateTime, time, date, orElse_apply, map_apply, bind_apply, htime, hdate]
  rfl

theorem sign_digits {d : Char} (hd : d.isDigit = true) :
    sign (d :: rest) = some (false, d :: rest) := by
  have hminus : d ≠ '-' := by rintro rfl; cases hd
  have hplus : d ≠ '+' := by rintro rfl; cases hd
  simp [sign, hminus, hplus]

theorem wholeDigits_toDigits (n : Nat) (rest : List Char) :
    wholeDigits (Nat.toDigits 10 n ++ '\n' :: rest) = some (Nat.toDigits 10 n, '\n' :: rest) := by
  have hdigits : ∀ c ∈ Nat.toDigits 10 n, c.isDigit = true := fun _ => isDigit_of_mem_toDigits
  obtain rfl | hn := Nat.eq_zero_or_pos n
  · rfl
  · obtain ⟨c, cs, hcs, hc⟩ := exists_toDigits_eq_cons hn
    rw [hcs] at hdigits ⊢
    obtain ⟨hdigit, hdigits⟩ := List.forall_mem_cons.1 hdigits
    have hrepeats : Repeats (satisfy Char.isDigit <|> char '_' *> satisfy Char.isDigit)
        (cs ++ '\n' :: rest) cs ('\n' :: rest) := by
      apply repeats_of_forall
      · intro d hd after
        simp [hdigits d hd]
      · simp
    simp [wholeDigits, hdigit, hc, hrepeats.many_eq]

theorem float_eq_none (n : Nat) (rest : List Char) :
    float (Nat.toDigits 10 n ++ '\n' :: rest) = none := by
  have hwhole := wholeDigits_toDigits n rest
  obtain ⟨d, ds, hds, hd⟩ := exists_toDigits_digit n
  rw [hds, List.cons_append] at hwhole ⊢
  simp [float, decimalFraction, sign_digits hd, hwhole, exponent, literal_cons,
    ne_of_isDigit hd (d := 'i') (by decide), ne_of_isDigit hd (d := 'n') (by decide)]

/-- A number in base ten does not look like one in another base. -/
theorem basedInteger_eq_none (n : Nat) (rest : List Char) (letter : Char) (hletter : letter ≠ '\n')
    (p : Char → Bool) (value : List Char → Nat) :
    basedInteger letter p value (Nat.toDigits 10 n ++ '\n' :: rest) = none := by
  have hliteral : literal ['0', letter] (Nat.toDigits 10 n ++ '\n' :: rest) = none := by
    obtain rfl | hn := Nat.eq_zero_or_pos n
    · simp [literal_cons, Ne.symm hletter]
    · obtain ⟨c, cs, hcs, hc⟩ := exists_toDigits_eq_cons hn
      simp [hcs, literal_cons, hc]
  simp [basedInteger, hliteral]

theorem integer_toDigits {n : Nat} (hn : n ≤ Int64.maxValue.toInt) (rest : List Char) :
    integer (Nat.toDigits 10 n ++ '\n' :: rest) = some ((n : Int), '\n' :: rest) := by
  have hhex := basedInteger_eq_none n rest 'x' (by decide)
  have hoctal := basedInteger_eq_none n rest 'o' (by decide)
  have hbinary := basedInteger_eq_none n rest 'b' (by decide)
  have hvalue : Nat.ofDigitChars 10 (Nat.toDigits 10 n) 0 = n :=
    Nat.ofDigitChars_toDigits (by decide) (by decide)
  have hdecimal : decimalInteger (Nat.toDigits 10 n ++ '\n' :: rest) =
      some ((n : Int), '\n' :: rest) := by
    have hsign : sign (Nat.toDigits 10 n ++ '\n' :: rest) =
        some (false, Nat.toDigits 10 n ++ '\n' :: rest) := by
      obtain ⟨d, ds, hds, hd⟩ := exists_toDigits_digit n
      rw [hds]
      exact sign_digits hd
    simp [decimalInteger, hsign, wholeDigits_toDigits, hvalue]
  simp [integer, hhex, hoctal, hbinary, hdecimal, hn]

theorem scalar_number {n : Nat} (hn : n ≤ Int64.maxValue.toInt) (rest : List Char) :
    scalar (Nat.toDigits 10 n ++ '\n' :: rest) = some (.integer n, '\n' :: rest) := by
  have hdate : dateTime (Nat.toDigits 10 n ++ '\n' :: rest) = none :=
    dateTime_eq_none fun _ => isDigit_of_mem_toDigits
  have hfloat := float_eq_none n rest
  have hinteger := integer_toDigits hn rest
  obtain ⟨d, ds, hds, hd⟩ := exists_toDigits_digit n
  rw [hds, List.cons_append] at hdate hfloat hinteger ⊢
  have hstring : anyString (d :: (ds ++ '\n' :: rest)) = none :=
    anyString_eq_none (ne_of_isDigit hd (by decide)) (ne_of_isDigit hd (by decide))
  simp [scalar, hstring, hdate, hfloat, hinteger, literal_cons,
    ne_of_isDigit hd (d := 't') (by decide), ne_of_isDigit hd (d := 'f') (by decide)]

theorem Written.scalar_eq {value : Value} (h : Written text value) (rest : List Char) :
    scalar (text ++ '\n' :: rest) = some (value, '\n' :: rest) := by
  cases h with
  | boolean b => exact scalar_boolean b _
  | string hne hcs =>
    rw [List.append_assoc]
    exact scalar_string hcs hne _
  | number hn => exact scalar_number hn rest

theorem Written.value_eq {value : Value} (h : Written text value) (depth : Nat) (rest : List Char) :
    Toml.value depth (text ++ '\n' :: rest) = some (value, '\n' :: rest) := by
  cases depth with
  | zero => exact h.scalar_eq rest
  | succ depth => simp [Toml.value, h.scalar_eq rest]

theorem ne_of_isBare (hc : Key.isBare c = true) {d : Char} (hd : Key.isBare d = false) :
    c ≠ d := by
  rintro rfl
  rw [hc] at hd
  cases hd

theorem not_isBlank_of_isBare (hc : Key.isBare c = true) : isBlank c = false := by
  simp [isBlank, ne_of_isBare hc (d := ' ') (by decide), ne_of_isBare hc (d := '\t') (by decide)]

theorem IsWord.part_append (hname : IsWord name) (hrest : Stops Key.isBare rest) :
    Key.part (name ++ rest) = some (.ofList name, rest) := by
  obtain ⟨hne, hbare⟩ := hname
  have hrun := run1_append hne hbare hrest
  obtain ⟨c, cs, rfl⟩ := List.exists_cons_of_ne_nil hne
  have hc := hbare c List.mem_cons_self
  have hdouble : c ≠ '"' := ne_of_isBare hc (by decide)
  have hsingle : c ≠ '\'' := ne_of_isBare hc (by decide)
  rw [List.cons_append] at hrun ⊢
  simp [Key.part, lineString, basicString, literalString, hdouble, hsingle, hrun]

theorem blanks_of_stops (h : Stops isBlank rest) : blanks rest = some ([], rest) := run_of_stops h

theorem IsWord.parser_append (hname : IsWord name) (gap : List Char)
    (hgap : ∀ c ∈ gap, isBlank c = true) (hbare : Stops Key.isBare (gap ++ rest))
    (hblank : Stops isBlank rest) (hdot : char '.' rest = none) :
    Key.parser (name ++ gap ++ rest) = some (⟨[], .ofList name⟩, rest) := by
  have hstart : blanks (name ++ (gap ++ rest)) = some ([], name ++ (gap ++ rest)) := by
    apply blanks_of_stops
    obtain ⟨c, cs, rfl⟩ := List.exists_cons_of_ne_nil hname.1
    exact stops_cons.2 (not_isBlank_of_isBare (hname.2 c List.mem_cons_self))
  have hend : blanks (gap ++ rest) = some (gap, rest) := run_append hgap hblank
  have hitem : (blanks *> Key.part <* blanks) (name ++ (gap ++ rest)) =
      some (.ofList name, rest) := by
    simp [hstart, hname.part_append hbare, hend]
  have hmore : (char '.' *> (blanks *> Key.part <* blanks)) rest = none := by
    simp [hdot]
  rw [List.append_assoc]
  simp [Key.parser, sepBy1, hitem, many_of_none hmore, Key.ofPath?, Key.maxParts]

theorem restOfLine_newline (rest : List Char) : restOfLine ('\n' :: rest) = some ((), rest) := by
  have hblanks : blanks ('\n' :: rest) = some ([], '\n' :: rest) :=
    blanks_of_stops (stops_cons.2 (by decide))
  simp [restOfLine, hblanks, comment, lineEnd, newline]

theorem line_header (hname : IsWord name) (rest : List Char) :
    line ('[' :: name ++ [']', '\n'] ++ rest) = some (some (.table ⟨[], .ofList name⟩), rest) := by
  have hblanks (after : List Char) : blanks ('[' :: after) = some ([], '[' :: after) :=
    blanks_of_stops (stops_cons.2 (by decide))
  have hkey : Key.parser (name ++ ']' :: '\n' :: rest) =
      some (⟨[], .ofList name⟩, ']' :: '\n' :: rest) := by
    have hbare : Stops Key.isBare ([] ++ ']' :: '\n' :: rest) := stops_cons.2 (by decide)
    have hblank : Stops isBlank (']' :: '\n' :: rest) := stops_cons.2 (by decide)
    have hparser := hname.parser_append [] (by simp) hbare hblank (by simp)
    rwa [List.append_nil] at hparser
  obtain ⟨c, cs, rfl⟩ := List.exists_cons_of_ne_nil hname.1
  have hbracket : c ≠ '[' := ne_of_isBare (hname.2 c List.mem_cons_self) (by decide)
  rw [List.cons_append] at hkey
  simp [line, hblanks, Statement.parser, Statement.header, literal_cons, hbracket, hkey,
    restOfLine_newline]

theorem Written.stops_isBlank {value : Value} (h : Written text value) (rest : List Char) :
    Stops isBlank (text ++ rest) := by
  cases h with
  | boolean b => cases b <;> exact stops_cons.2 (by decide)
  | string hne hcs => exact stops_cons.2 (by decide)
  | @number n hn =>
    obtain ⟨d, ds, hds, hd⟩ := exists_toDigits_digit n
    rw [hds]
    apply stops_cons.2 (not_isBlank_of_isBare _)
    simp [Key.isBare, Char.isAlphanum, hd]

theorem header_word (hname : IsWord name) (rest : List Char) :
    Statement.header (name ++ rest) = none := by
  obtain ⟨c, cs, rfl⟩ := List.exists_cons_of_ne_nil hname.1
  have hbracket : c ≠ '[' := ne_of_isBare (hname.2 c List.mem_cons_self) (by decide)
  simp [Statement.header, literal_cons, hbracket]

theorem line_entry (hname : IsWord name) {value : Value} (htext : Written text value)
    (rest : List Char) :
    line (name ++ [' ', '=', ' '] ++ text ++ ['\n'] ++ rest) =
      some (some (.entry ⟨[], .ofList name⟩ value), rest) := by
  let after := ' ' :: text ++ '\n' :: rest
  have hblanks : ∀ c ∈ [' '], isBlank c = true := List.forall_mem_singleton.2 rfl
  have hkey : Key.parser (name ++ ' ' :: '=' :: after) =
      some (⟨[], .ofList name⟩, '=' :: after) := by
    have hbare : Stops Key.isBare ([' '] ++ '=' :: after) := stops_cons.2 (by decide)
    have hblank : Stops isBlank ('=' :: after) := stops_cons.2 (by decide)
    have hparser := hname.parser_append [' '] hblanks hbare hblank (by simp)
    rwa [List.append_assoc] at hparser
  have hgap : blanks ([' '] ++ (text ++ '\n' :: rest)) = some ([' '], text ++ '\n' :: rest) :=
    run_append hblanks (htext.stops_isBlank _)
  change blanks after = _ at hgap
  have hentry : Toml.entry (Toml.value maxNesting) (name ++ ' ' :: '=' :: after) =
      some ((⟨[], .ofList name⟩, value), '\n' :: rest) := by
    simp [Toml.entry, hkey, hgap, htext.value_eq]
  have hstart : blanks (name ++ ' ' :: '=' :: after) = some ([], name ++ ' ' :: '=' :: after) := by
    apply blanks_of_stops
    obtain ⟨c, cs, rfl⟩ := List.exists_cons_of_ne_nil hname.1
    exact stops_cons.2 (not_isBlank_of_isBare (hname.2 c List.mem_cons_self))
  have hheader := header_word hname (' ' :: '=' :: after)
  have htext : name ++ [' ', '=', ' '] ++ text ++ ['\n'] ++ rest = name ++ ' ' :: '=' :: after := by
    simp [after]
  rw [htext]
  simp [line, hstart, Statement.parser, hheader, hentry, restOfLine_newline]

theorem line_newline (rest : List Char) : line ('\n' :: rest) = some (none, rest) := by
  have hblanks : blanks ('\n' :: rest) = some ([], '\n' :: rest) :=
    blanks_of_stops (stops_cons.2 (by decide))
  have hkey : Key.parser ('\n' :: rest) = none := by
    have hpart : Key.part ('\n' :: rest) = none := by
      have hbare : Stops Key.isBare ('\n' :: rest) := stops_cons.2 (by decide)
      simp [Key.part, lineString, basicString, literalString, run1_eq_none hbare]
    simp [Key.parser, sepBy1, hblanks, hpart]
  simp [line, hblanks, Statement.parser, Statement.header, literal_cons, Toml.entry, hkey, comment,
    newline]

theorem line_nil : line [] = none := by
  decide

theorem Printed.line_eq {statement : Option Statement} (h : Printed text statement)
    (rest : List Char) : line (text ++ rest) = some (statement, rest) := by
  cases h with
  | blank => exact line_newline rest
  | header hname => exact line_header hname rest
  | entry hname htext => exact line_entry hname htext rest

theorem Printed.exists_eq_cons {statement : Option Statement} (h : Printed text statement) :
    ∃ c cs, text = c :: cs ∧ c ≠ '\ufeff' := by
  cases h with
  | blank => exact ⟨_, _, rfl, by decide⟩
  | header hname => exact ⟨_, _, rfl, by decide⟩
  | @entry name text value hname htext =>
    obtain ⟨c, cs, rfl⟩ := List.exists_cons_of_ne_nil hname.1
    exact ⟨c, _, rfl, ne_of_isBare (hname.2 c List.mem_cons_self) (by decide)⟩

theorem all_statements_of_printed {lines : List (String × Option Statement)}
    (h : ∀ line ∈ lines, Printed line.1.toList line.2) :
    all statements (lines.flatMap (·.1.toList)) = some (lines.filterMap Prod.snd) := by
  have hrepeats : Repeats line (lines.flatMap (·.1.toList)) (lines.map Prod.snd) [] := by
    induction lines with
    | nil => exact .stop line_nil
    | cons first lines ih =>
      obtain ⟨hfirst, hlines⟩ := List.forall_mem_cons.1 h
      obtain ⟨c, cs, htext, -⟩ := hfirst.exists_eq_cons
      have hmore := hfirst.line_eq (lines.flatMap (·.1.toList))
      rw [List.flatMap_cons]
      refine .more hmore ?_ (ih hlines)
      rw [htext, List.length_append, List.length_cons]
      omega
  have hmark : char '\ufeff' (lines.flatMap (·.1.toList)) = none := by
    cases lines with
    | nil => rfl
    | cons first lines =>
      obtain ⟨c, cs, htext, hc⟩ := (h first List.mem_cons_self).exists_eq_cons
      simp [htext, hc]
  have hblanks : blanks [] = some ([], []) := rfl
  simp [all, statements, hmark, hrepeats.many_eq, hblanks, atEnd]

/-- A line of a document with the statement that it makes. -/
abbrev Line := String × Option Statement

def headerLine (name : String) : Line := ("[" ++ name ++ "]\n", some (.table ⟨[], name⟩))

def entryLine (name text : String) (value : Value) : Line :=
  (name ++ " = " ++ text ++ "\n", some (.entry ⟨[], name⟩ value))

def booleanLine (name : String) (b : Bool) : Line := entryLine name (toString b) (.boolean b)

/-- Several lines as one text. -/
def textOf (lines : List Line) : String := lines.foldr (fun line text => line.1 ++ text) ""

theorem toList_textOf (lines : List Line) : (textOf lines).toList = lines.flatMap (·.1.toList) := by
  induction lines with
  | nil => rfl
  | cons line lines ih =>
    change (line.1 ++ textOf lines).toList = _
    rw [String.toList_append, ih, List.flatMap_cons]

theorem isWord_toList {name : String} (h : name ≠ "" ∧ name.toList.all Key.isBare = true) :
    IsWord name.toList :=
  ⟨by simpa using h.1, by simpa using h.2⟩

theorem printed_header {name : String} (hname : IsWord name.toList) :
    Printed (headerLine name).1.toList (headerLine name).2 := by
  have hprinted := Printed.header hname
  rw [String.ofList_toList] at hprinted
  simpa [headerLine] using hprinted

theorem printed_entry {name text : String} {value : Value} (hname : IsWord name.toList)
    (htext : Written text.toList value) :
    Printed (entryLine name text value).1.toList (entryLine name text value).2 := by
  have hprinted := Printed.entry hname htext
  rw [String.ofList_toList] at hprinted
  simpa [entryLine] using hprinted

theorem all_statements_textOf {lines : List Line}
    (h : ∀ line ∈ lines, Printed line.1.toList line.2) :
    all statements (textOf lines).toList = some (lines.filterMap Prod.snd) := by
  rw [toList_textOf, all_statements_of_printed h]

end Compositor.Toml
