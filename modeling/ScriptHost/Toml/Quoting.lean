import ScriptHost.Text.Digits

/-!
# How a string is written in TOML

Of the ways to write a string the plainest that can hold it is chosen: between double quotes,
between single quotes where nothing can be escaped, the same two between triple quotes, and only
then with escapes. A string with a line break always stands between triple quotes, on lines of its
own. Tabs need no care except that they are spelled out between double quotes.
-/

namespace ScriptHost.Toml

/-- A control character that only an escape can write. -/
def needsEscape (c : Char) : Bool :=
  (c < ' ' && c ≠ '\t' && c ≠ '\n') || c = '\x7f'

/-- The length of the longest run of `q`, `run` being the length of the run just before. -/
def longestRun (q : Char) (run : Nat) : List Char → Nat
  | [] => run
  | c :: cs => if c = q then longestRun q (run + 1) cs else max run (longestRun q 0 cs)

/-- The delimiters between which a string is written. -/
inductive Form where
  | basic
  | literal
  | basicLines
  | literalLines
  deriving DecidableEq, Repr

def Form.delimiter : Form → List Char
  | .basic => ['"']
  | .literal => ['\'']
  | .basicLines => ['"', '"', '"']
  | .literalLines => ['\'', '\'', '\'']

/-- The plainest form that can hold a string. -/
def formOf (cs : List Char) : Form :=
  let lines := cs.contains '\n'
  let escapes := cs.any needsEscape
  if !escapes && !cs.contains '\\' && !cs.contains '"' && !lines then .basic
  else if !escapes && !cs.contains '\'' && !lines then .literal
  else if !escapes && !cs.contains '\\' && longestRun '"' 0 cs ≤ 2 then .basicLines
  else if !escapes && longestRun '\'' 0 cs ≤ 2 then .literalLines
  else if lines then .basicLines
  else .basic

/-- A character other than a double quote or line break, between double quotes. -/
def escapeChar (c : Char) : List Char :=
  if c = '\t' then ['\\', 't']
  else if c = '\\' then ['\\', '\\']
  else if c = '\x08' then ['\\', 'b']
  else if c = '\n' then ['\\', 'n']
  else if c = '\x0c' then ['\\', 'f']
  else if c = '\r' then ['\\', 'r']
  else if needsEscape c then '\\' :: 'u' :: (Text.hexUpper 4 c.toNat).toList
  else [c]

/-- The inside of a string between double quotes. -/
def escapeBasic (cs : List Char) : List Char :=
  cs.flatMap fun c => if c = '"' then ['\\', '"'] else escapeChar c

/-- The inside of a string between triple double quotes, `run` being the number of quotes just
before it: the third in a row is escaped. -/
def escapeLines (run : Nat) : List Char → List Char
  | [] => []
  | c :: cs =>
    if c = '"' then
      if run = 2 then '\\' :: '"' :: escapeLines 0 cs else '"' :: escapeLines (run + 1) cs
    else if c = '\n' then '\n' :: escapeLines 0 cs
    else escapeChar c ++ escapeLines 0 cs

def quoteIn (form : Form) (cs : List Char) : List Char :=
  let body :=
    match form with
    | .basic => escapeBasic cs
    | .basicLines => escapeLines 0 cs
    | .literal | .literalLines => cs
  let lead := if form ≠ .basic ∧ form ≠ .literal ∧ '\n' ∈ cs then ['\n'] else []
  form.delimiter ++ lead ++ body ++ form.delimiter

def quote (s : String) : String := String.ofList (quoteIn (formOf s.toList) s.toList)

end ScriptHost.Toml
