import ScriptHost.Settings.Value
import ScriptHost.Text.Blank
import ScriptHost.Text.Cut
import ScriptHost.Text.Escaped

/-!
# Settings in environment variables

A variable whose name begins with the prefix is a setting. Its name, without the prefix, is a path
of keys; its value is read by a small grammar of booleans, numbers, quoted text, arrays and
dictionaries. A value that the grammar does not cover to its last character is plain text, just as
it stands, so most texts need no quotes.

Quoted text with escapes has a rule of its own for what stands in front of the first one: of that,
as many bytes are kept as it has characters. ASCII is kept whole; other text is shortened, and if
that divides a character, there are no settings at all.
-/

namespace ScriptHost.Settings

/-- The prefix of variables that are settings; its case does not matter. -/
def variablePrefix : String := "NSHOST_"

def splitDouble : List Char → List (List Char)
  | '_' :: '_' :: cs => [] :: splitDouble cs
  | c :: cs =>
    match splitDouble cs with
    | [] => [[c]]
    | p :: ps => (c :: p) :: ps
  | [] => [[]]

def splitDots : List Char → List (List Char)
  | [] => [[]]
  | c :: cs =>
    if c = '.' then [] :: splitDots cs
    else
      match splitDots cs with
      | [] => [[c]]
      | p :: ps => (c :: p) :: ps

/-- The keys that the name of a variable spells, if it is a setting: behind the prefix, two
underscores or a dot divide them, and none is empty. -/
def keyPath? (name : List Char) : Option (List String) :=
  let name := Text.trim name
  let n := variablePrefix.length
  if (name.take n).map Text.toAsciiUpper = variablePrefix.toList then
    let dotted := ['.'].intercalate (splitDouble (name.drop n))
    let keys := splitDots (Text.trim dotted)
    if [] ∈ keys then none else some (keys.map fun k => String.ofList (k.map Text.toAsciiLower))
  else none

/-! ## Values -/

/-- Takes characters from the front of a text. -/
abbrev Reader (α : Type) := List Char → Except Text.Misreading (α × List Char)

def isSeparator (c : Char) : Bool := c = ',' || c = '{' || c = '}' || c = '[' || c = ']'

def isKeyChar (c : Char) : Bool :=
  ('a' ≤ c && c ≤ 'z') || ('A' ≤ c && c ≤ 'Z') || Text.isDigit c || c = '_' || c = '-'

def skipWhite (cs : List Char) : List Char := cs.dropWhile Text.isAsciiWhite

/-- A word, up to the next separator: a number if it looks like one, else text. A number with a
point is a float, one without is unsigned unless its sign makes it negative. -/
def word (cs : List Char) : Scalar :=
  let cs := Text.trim cs
  match if '.' ∈ cs then Binary64.parse? cs else none with
  | some x => .float x
  | none =>
    match Text.parseNat64 cs with
    | .ok n => .unsigned n.toNat
    | .error _ =>
      match Text.parseInt64 cs with
      | .ok n => .signed n
      | .error _ => .text (String.ofList cs)

/-- The text up to a closing quote and the text behind the quote. A backslash takes the character
behind it along, whatever it is. -/
def untilQuote : List Char → Except Text.Misreading (List Char × List Char)
  | [] => .error .malformed
  | '"' :: rest => .ok ([], rest)
  | '\\' :: c :: rest => (untilQuote rest).map fun (cs, rest) => ('\\' :: c :: cs, rest)
  | c :: rest => (untilQuote rest).map fun (cs, rest) => (c :: cs, rest)

/-- A text with its escapes replaced by what they stand for. -/
def unescape (cs : List Char) : Except Text.Misreading (List Char) :=
  match cs with
  | [] => .ok []
  | c :: rest =>
    if c = '\\' then
      match Text.escape? rest with
      | some (x, n) => (unescape (rest.drop n)).map (x :: ·)
      | none => .error .malformed
    else if Text.isShown c then (unescape rest).map (c :: ·)
    else .error .malformed
termination_by cs.length
decreasing_by all_goals (simp only [List.length_cons, List.length_drop]; omega)

/-- What the text between two quotes stands for. -/
def unquote (cs : List Char) : Except Text.Misreading (List Char) :=
  let plain := cs.takeWhile fun c => Text.isShown c && c ≠ '\\'
  match cs.drop plain.length with
  | '\\' :: rest => do
    let kept ← Text.slice 0 plain.length cs
    (unescape ('\\' :: rest)).map (kept ++ ·)
  | rest => (unescape rest).map (plain ++ ·)

/-- Quoted text, behind the opening quote. -/
def string : Reader String := fun cs => do
  let (inner, rest) ← untilQuote cs
  let cs ← unquote inner
  .ok (String.ofList cs, rest)

/-- The rest of a sequence behind its opening bracket: items with commas between them, and perhaps
one behind the last. -/
def items {α : Type} (item : Reader α) (close : Char) (cs : List Char) :
    Except Text.Misreading (List α × List Char) :=
  match cs with
  | [] => .error .malformed
  | c :: tail =>
    if c = close then .ok ([], tail)
    else
      match item (c :: tail) with
      | .error e => .error e
      | .ok (x, ',' :: rest) =>
        if rest.length ≤ tail.length then
          match items item close rest with
          | .ok (xs, rest) => .ok (x :: xs, rest)
          | .error e => .error e
        else .error .malformed
      | .ok (x, d :: rest) => if d = close then .ok ([x], rest) else .error .malformed
      | .ok (_, []) => .error .malformed
termination_by cs.length
decreasing_by simp only [List.length_cons]; omega

def key : Reader String
  | '"' :: cs => string cs
  | cs =>
    let name := cs.takeWhile isKeyChar
    if name = [] then .error .malformed else .ok (String.ofList name, cs.dropWhile isKeyChar)

/-- A key with its value, `value` reading the value. -/
def entry (value : Reader Value) (cs : List Char) :
    Except Text.Misreading ((String × Value) × List Char) := do
  let (k, cs) ← key (skipWhite cs)
  match skipWhite cs with
  | '=' :: cs => do
    let (v, cs) ← value (skipWhite cs)
    .ok ((k, v), skipWhite cs)
  | _ => .error .malformed

/-- A value in which at most `depth` brackets and braces are open at once, with the white space
around it. -/
def value (depth : Nat) (cs : List Char) : Except Text.Misreading (Value × List Char) :=
  let source := Source.environment
  let scalar (x : Scalar) (rest : List Char) : Except Text.Misreading (Value × List Char) :=
    .ok (Value.scalar source x, skipWhite rest)
  match skipWhite cs, depth with
  | 't' :: 'r' :: 'u' :: 'e' :: rest, _ => scalar (.boolean true) rest
  | 'f' :: 'a' :: 'l' :: 's' :: 'e' :: rest, _ => scalar (.boolean false) rest
  | '{' :: rest, depth + 1 => do
    let (entries, rest) ← items (entry (value depth)) '}' rest
    .ok (.dict source (Dict.ofList entries), skipWhite rest)
  | '[' :: rest, depth + 1 => do
    let (vs, rest) ← items (value depth) ']' rest
    .ok (.list source vs, skipWhite rest)
  | '{' :: _, 0 | '[' :: _, 0 => .error .malformed
  | '"' :: rest, _ => do
    let (s, rest) ← string rest
    scalar (.text s) rest
  | '\'' :: c :: '\'' :: rest, _ => scalar (.character c) rest
  | '\'' :: _, _ => .error .malformed
  | cs, _ => scalar (word (cs.takeWhile (!isSeparator ·))) (cs.dropWhile (!isSeparator ·))

/-- The setting that the text of a variable spells. -/
def ofText (cs : List Char) : Except Text.CutFault Value :=
  match value cs.length cs with
  | .ok (v, []) => .ok v
  | .error (.cut fault) => .error fault
  | _ => .ok (.scalar .environment (.text (String.ofList cs)))

def nest (v : Value) : List String → Value
  | [] => v
  | k :: ks => .dict .environment [(k, nest v ks)]

/-- The settings of an environment, later variables laid over earlier ones. -/
def ofVariables (env : List (Bytes × Bytes)) : Except Text.CutFault Dict :=
  env.foldlM (fun d var =>
    match keyPath? (Utf8.lossyFrom [] var.1) with
    | some (k :: ks) =>
      (ofText (Utf8.lossyFrom [] var.2)).map fun v => mergeDict d [(k, nest v ks)]
    | _ => .ok d) []

end ScriptHost.Settings
