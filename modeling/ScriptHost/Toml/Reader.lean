import ScriptHost.Toml.Value
import ScriptHost.Text.Escaped

/-!
# Reading TOML

A document is read line by line into a list of sections, which `Table.ofSections` then puts
together. A reader takes characters from the front and returns what they mean with the characters
behind them; a text that is not TOML is refused without saying where.

Line breaks of either kind are one character before reading starts, so that no reader sees a
carriage return that is part of one. Repetition is by `pieces`, which reads as long as each piece
takes at least one character; nesting is bounded by the depth that is left.
-/

namespace ScriptHost.Toml

/-- Takes characters from the front of a text. -/
abbrev Reader (α : Type) := List Char → Option (α × List Char)

/-- The deepest nesting of arrays and braces, and the longest dotted key. -/
def maxDepth : Nat := 79

/-- A text with every line break as a single character. -/
def unifyBreaks : List Char → List Char
  | '\r' :: '\n' :: cs => '\n' :: unifyBreaks cs
  | c :: cs => c :: unifyBreaks cs
  | [] => []

def isBlank (c : Char) : Bool := c = ' ' || c = '\t'

def isBareKey (c : Char) : Bool :=
  ('a' ≤ c && c ≤ 'z') || ('A' ≤ c && c ≤ 'Z') || Text.isDigit c || c = '_' || c = '-'

def skipBlank (cs : List Char) : List Char := cs.dropWhile isBlank

/-- A comment, if one starts here, up to the end of its line. -/
def skipComment : List Char → List Char
  | '#' :: cs => cs.dropWhile Text.isShown
  | cs => cs

def skipLines (cs : List Char) : List Char :=
  match skipComment (skipBlank cs) with
  | '\n' :: rest => if rest.length < cs.length then skipLines rest else rest
  | rest => rest
termination_by cs.length

/-- The end of a line: blanks, perhaps a comment, then a line break or the end of the text. -/
def lineEnd (cs : List Char) : Option (List Char) :=
  match skipComment (skipBlank cs) with
  | [] => some []
  | '\n' :: rest => some rest
  | _ => none

def expect (c : Char) : List Char → Option (List Char)
  | d :: cs => if d = c then some cs else none
  | [] => none

/-! ## Strings -/

/-- The string up to the closing single quote. -/
def literal (cs : List Char) : Option (List Char × List Char) :=
  let isInside (c : Char) : Bool := Text.isShown c && c ≠ '\''
  (expect '\'' (cs.dropWhile isInside)).map fun rest => (cs.takeWhile isInside, rest)

/-- How many of the characters in front are `q`. -/
def runLength (q : Char) (cs : List Char) : Nat := (cs.takeWhile (· = q)).length

/-- How many characters the break of a line within a string takes: blanks, the line break, and all
blanks and line breaks behind it. -/
def foldedLength? (cs : List Char) : Option Nat :=
  if (skipBlank cs).head? = some '\n' then
    some (cs.takeWhile fun c => isBlank c || c = '\n').length
  else none

/-- The string up to the closing triple double quotes. Of up to five quotes in a row the last three
close the string. -/
def basicLinesFrom (read : List Char) (cs : List Char) : Option (List Char × List Char) :=
  match cs with
  | [] => none
  | c :: rest =>
    if c = '"' then
      let n := min 5 (runLength '"' cs)
      if 3 ≤ n then some (read.reverse ++ List.replicate (n - 3) '"', cs.drop n)
      else basicLinesFrom ('"' :: read) rest
    else if c = '\\' then
      match foldedLength? rest with
      | some n => basicLinesFrom read (rest.drop n)
      | none =>
        match Text.escape? rest with
        | some (x, n) => basicLinesFrom (x :: read) (rest.drop n)
        | none => none
    else if Text.isShown c || c = '\n' then basicLinesFrom (c :: read) rest
    else none
termination_by cs.length

/-- The string up to the closing triple single quotes. -/
def literalLinesFrom (read : List Char) : List Char → Option (List Char × List Char)
  | [] => none
  | c :: rest =>
    if c = '\'' then
      let n := min 5 (runLength '\'' (c :: rest))
      if 3 ≤ n then some (read.reverse ++ List.replicate (n - 3) '\'', (c :: rest).drop n)
      else literalLinesFrom ('\'' :: read) rest
    else if Text.isShown c || c = '\n' then literalLinesFrom (c :: read) rest
    else none

/-- A line break right behind the opening quotes is no part of the string. -/
def dropBreak : List Char → List Char
  | '\n' :: cs => cs
  | cs => cs

def string? : List Char → Option (List Char × List Char)
  | '"' :: '"' :: '"' :: cs => basicLinesFrom [] (dropBreak cs)
  | '\'' :: '\'' :: '\'' :: cs => literalLinesFrom [] (dropBreak cs)
  | '"' :: cs => Text.stringFrom [] cs
  | '\'' :: cs => literal cs
  | _ => none

/-! ## Numbers -/

/-- Digits with single underscores between them, underscores left out. -/
def digitRun (isDigit : Char → Bool) : List Char → List Char × List Char
  | c :: cs =>
    if isDigit c then
      let (ds, rest) := digitRun isDigit cs
      (c :: ds, rest)
    else
      match c, cs with
      | '_', d :: cs =>
        if isDigit d then
          let (ds, rest) := digitRun isDigit cs
          (d :: ds, rest)
        else ([], c :: d :: cs)
      | _, _ => ([], c :: cs)
  | [] => ([], [])

/-- Digits, at least one, the first of them no underscore. -/
def digits1 (isDigit : Char → Bool) : Reader (List Char)
  | c :: cs => if isDigit c then some (digitRun isDigit (c :: cs)) else none
  | [] => none

def sign : List Char → Bool × List Char
  | '-' :: cs => (true, cs)
  | '+' :: cs => (false, cs)
  | cs => (false, cs)

/-- The digits of a whole number in decimal: no zero in front of other digits. -/
def wholeDigits : Reader (List Char)
  | '0' :: cs => some (['0'], cs)
  | cs => digits1 Text.isDigit cs

/-- The exponent of a number, if one stands here. -/
def exponent : Reader Int
  | c :: cs =>
    if c = 'e' ∨ c = 'E' then do
      let (negative, cs) := sign cs
      let (ds, cs) ← digits1 Text.isDigit cs
      let n : Int := Text.decimalValue ds
      some (if negative then -n else n, cs)
    else none
  | [] => none

/-- A number with a fraction or an exponent, or one of the words for what is no number. What is
too large to be one is refused. -/
def float (cs : List Char) : Option (Binary64 × List Char) := do
  let (negative, cs) := sign cs
  match cs with
  | 'i' :: 'n' :: 'f' :: rest => some (.infinite negative, rest)
  | 'n' :: 'a' :: 'n' :: rest => some (.nan, rest)
  | _ =>
    let (whole, cs) ← wholeDigits cs
    let (places, e, cs) ←
      match cs with
      | '.' :: cs => do
        let (places, cs) ← digits1 Text.isDigit cs
        let (e, cs) := (exponent cs).getD (0, cs)
        some (places, e, cs)
      | cs => do
        let (e, cs) ← exponent cs
        some ([], e, cs)
    let x := Binary64.ofDecimal negative (whole ++ places) (e - places.length)
    if x = .infinite false then none else some (x, cs)

/-- A whole number. Only a decimal one takes a sign; all are within 64 bits. -/
def integer (cs : List Char) : Option (Int × List Char) := do
  let ofBase (base : Nat) (isDigit : Char → Bool) (cs : List Char) : Option (Int × List Char) := do
    let (ds, cs) ← digits1 isDigit cs
    let n := Text.ofDigits base (ds.filterMap Text.hexValue?)
    if n < Text.signedBound then some ((n : Int), cs) else none
  match cs with
  | '0' :: 'x' :: cs => ofBase 16 (fun c => (Text.hexValue? c).isSome) cs
  | '0' :: 'o' :: cs => ofBase 8 (fun c => '0' ≤ c && c ≤ '7') cs
  | '0' :: 'b' :: cs => ofBase 2 (fun c => c = '0' || c = '1') cs
  | _ =>
    let (negative, cs) := sign cs
    let (ds, cs) ← wholeDigits cs
    let n : Int := Text.decimalValue ds
    let n := if negative then -n else n
    if -Text.signedBound ≤ n ∧ n < Text.signedBound then some (n, cs) else none

/-! ## Dates and times -/

def fixedDigits (n : Nat) (cs : List Char) : Option (Nat × List Char) :=
  let ds := cs.take n
  if ds.length = n ∧ ds.all Text.isDigit then some (Text.decimalValue ds, cs.drop n) else none

def daysInMonth (year month : Nat) : Nat :=
  if month = 2 then
    if year % 4 = 0 ∧ (year % 100 ≠ 0 ∨ year % 400 = 0) then 29 else 28
  else if month = 4 ∨ month = 6 ∨ month = 9 ∨ month = 11 then 30
  else 31

def date (cs : List Char) : Option (List Char) := do
  let (year, cs) ← fixedDigits 4 cs
  let cs ← expect '-' cs
  let (month, cs) ← fixedDigits 2 cs
  let cs ← expect '-' cs
  let (day, cs) ← fixedDigits 2 cs
  if 1 ≤ month ∧ month ≤ 12 ∧ 1 ≤ day ∧ day ≤ daysInMonth year month then some cs else none

def clock (cs : List Char) : Option (List Char) := do
  let (hour, cs) ← fixedDigits 2 cs
  let cs ← expect ':' cs
  let (minute, cs) ← fixedDigits 2 cs
  if hour ≤ 23 ∧ minute ≤ 59 then some cs else none

/-- A time of day, a leap second included. -/
def timeOfDay (cs : List Char) : Option (List Char) := do
  let cs ← clock cs
  let cs ← expect ':' cs
  let (second, cs) ← fixedDigits 2 cs
  if second ≤ 60 then
    match cs with
    | '.' :: d :: rest => if Text.isDigit d then some (rest.dropWhile Text.isDigit) else some cs
    | _ => some cs
  else none

/-- The distance of a time from that at Greenwich, if one stands here. -/
def timeOffset (cs : List Char) : List Char :=
  match cs with
  | c :: rest =>
    if c = 'Z' ∨ c = 'z' then rest
    else if c = '+' ∨ c = '-' then (clock rest).getD cs
    else cs
  | [] => cs

/-- A date, a time of day, or a date with a time behind it. -/
def moment (cs : List Char) : Option (String × List Char) := do
  let rest ←
    match date cs with
    | some afterDate =>
      match afterDate with
      | c :: afterMark =>
        if c = 'T' ∨ c = 't' ∨ c = ' ' then
          some (((timeOfDay afterMark).map timeOffset).getD afterDate)
        else some afterDate
      | [] => some afterDate
    | none => timeOfDay cs
  some (String.ofList (cs.take (cs.length - rest.length)), rest)

/-! ## Keys and values -/

/-- A key between two dots. -/
def simpleKey : Reader String
  | '"' :: cs => (Text.stringFrom [] cs).map fun (s, rest) => (String.ofList s, rest)
  | '\'' :: cs => (literal cs).map fun (s, rest) => (String.ofList s, rest)
  | cs =>
    let name := cs.takeWhile isBareKey
    if name = [] then none else some (String.ofList name, cs.dropWhile isBareKey)

/-- Pieces, each read by `item` and divided by `divider`, at least one. -/
def pieces {α : Type} (item : Reader α) (divider : Char) (cs : List Char) :
    Option (List α × List Char) :=
  match item cs with
  | none => none
  | some (x, rest) =>
    match expect divider rest with
    | none => some ([x], rest)
    | some rest =>
      if rest.length < cs.length then
        match pieces item divider rest with
        | some (xs, rest) => some (x :: xs, rest)
        | none => none
      else none
termination_by cs.length

/-- A dotted key with blanks around its parts: the path and the last part. -/
def dottedKey (cs : List Char) : Option ((List String × String) × List Char) := do
  let part (cs : List Char) : Option (String × List Char) := do
    let (k, rest) ← simpleKey (skipBlank cs)
    some (k, skipBlank rest)
  let (ks, rest) ← pieces part '.' cs
  if maxDepth < ks.length then none else some ((ks.dropLast, ks.getLastD ""), rest)

/-- A value for a key, with `value` reading the value. -/
def assignment (value : Reader Value) (cs : List Char) :
    Option ((List String × String × Value) × List Char) := do
  let ((path, key), cs) ← dottedKey cs
  let cs ← expect '=' cs
  let (v, cs) ← value (skipBlank cs)
  some ((path, key, v), cs)

/-- The rest of an array behind its opening bracket; a comma may stand behind the last item. -/
def arrayItems (value : Reader Value) (cs : List Char) : Option (List Value × List Char) :=
  match skipLines cs with
  | ']' :: rest => some ([], rest)
  | start =>
    match value start with
    | none => none
    | some (v, rest) =>
      match skipLines rest with
      | ']' :: rest => some ([v], rest)
      | ',' :: rest =>
        if rest.length < cs.length then
          match arrayItems value rest with
          | some (vs, rest) => some (v :: vs, rest)
          | none => none
        else none
      | _ => none
termination_by cs.length

/-- The rest of a table behind its opening brace. -/
def inlineTable (value : Reader Value) (cs : List Char) : Option (Value × List Char) :=
  match skipBlank cs with
  | '}' :: rest => some (.table .inline [], rest)
  | start => do
    let item (cs : List Char) := do
      let (p, rest) ← assignment value cs
      some (p, skipBlank rest)
    let (pairs, rest) ← pieces item ',' start
    let rest ← expect '}' rest
    let t ← Table.assignAll .inline [] pairs
    some (.table .inline t, rest)

def scalar (cs : List Char) : Option (Value × List Char) :=
  match cs with
  | 't' :: 'r' :: 'u' :: 'e' :: rest => some (.boolean true, rest)
  | 'f' :: 'a' :: 'l' :: 's' :: 'e' :: rest => some (.boolean false, rest)
  | _ =>
    match moment cs with
    | some (m, rest) => some (.moment m, rest)
    | none =>
      match float cs with
      | some (x, rest) => some (.float x, rest)
      | none => (integer cs).map fun (n, rest) => (.integer n, rest)

/-- A value inside which brackets and braces nest at most `depth` deep. -/
def value (depth : Nat) (cs : List Char) : Option (Value × List Char) :=
  match cs, depth with
  | '[' :: rest, depth + 1 =>
    (arrayItems (value depth) rest).map fun (vs, rest) => (.array vs, rest)
  | '{' :: rest, depth + 1 => inlineTable (value depth) rest
  | '[' :: _, 0 | '{' :: _, 0 => none
  | '"' :: _, _ | '\'' :: _, _ => (string? cs).map fun (s, rest) => (.text (String.ofList s), rest)
  | _, _ => scalar cs

/-! ## Documents -/

/-- The header of a section, up to the end of its line. -/
def header (cs : List Char) : Option (Section × List Char) :=
  match cs with
  | '[' :: '[' :: cs => do
    let ((path, key), cs) ← dottedKey cs
    let cs ← expect ']' cs
    let cs ← expect ']' cs
    let cs ← lineEnd cs
    some (⟨true, path, key, []⟩, cs)
  | '[' :: cs => do
    let ((path, key), cs) ← dottedKey cs
    let cs ← expect ']' cs
    let cs ← lineEnd cs
    some (⟨false, path, key, []⟩, cs)
  | _ => none

inductive Line where
  | header (s : Section)
  | assignment (path : List String) (key : String) (v : Value)

/-- The lines of a document that are not blank. -/
def lines (cs : List Char) : Option (List Line) :=
  match skipLines cs with
  | [] => some []
  | '[' :: rest =>
    match header ('[' :: rest) with
    | none => none
    | some (s, rest) =>
      if rest.length < cs.length then (lines rest).map (.header s :: ·) else none
  | start =>
    match assignment (value maxDepth) start with
    | none => none
    | some ((path, key, v), rest) =>
      match lineEnd rest with
      | none => none
      | some rest =>
        if rest.length < cs.length then (lines rest).map (.assignment path key v :: ·) else none
termination_by cs.length

/-- The values in front of the first header, and the sections. -/
def sections : List Line → List (List String × String × Value) × List Section
  | [] => ([], [])
  | .assignment path key v :: rest =>
    let (top, ss) := sections rest
    ((path, key, v) :: top, ss)
  | .header s :: rest =>
    let (top, ss) := sections rest
    ([], ⟨s.repeats, s.path, s.key, top⟩ :: ss)

/-- The mark that some editors put in front of a text. -/
def dropMark : List Char → List Char
  | '\ufeff' :: cs => cs
  | cs => cs

/-- The table that a text describes, if it is TOML. -/
def read? (cs : List Char) : Option Table := do
  let ls ← lines (unifyBreaks (dropMark cs))
  let (top, ss) := sections ls
  Table.ofSections top ss

end ScriptHost.Toml
