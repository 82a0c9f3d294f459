import ScriptHost.Text.Digits

/-!
# Strings with escapes

The strings between double quotes that configuration files and environment variables share: a
backslash introduces a short escape or a code point in four or eight hexadecimal digits, and
controls other than the tab have to be escaped.
-/

namespace ScriptHost.Text

/-- A character that may stand in a string as itself: no control but the tab. -/
def isShown (c : Char) : Bool := (' ' ≤ c && c ≠ '\x7f') || c = '\t'

/-- The character of a code point in hexadecimal. -/
def codePoint? (ds : List Char) : Option Char := do
  let values ← ds.mapM hexValue?
  let n := ofDigits 16 values
  if n.isValidChar then some (Char.ofNat n) else none

/-- What the characters behind a backslash stand for, and how many they are. -/
def escape? : List Char → Option (Char × Nat)
  | [] => none
  | c :: cs =>
    if c = '"' ∨ c = '\\' then some (c, 1)
    else if c = 'n' then some ('\n', 1)
    else if c = 't' then some ('\t', 1)
    else if c = 'r' then some ('\r', 1)
    else if c = 'b' then some ('\x08', 1)
    else if c = 'f' then some ('\x0c', 1)
    else if c = 'u' ∧ 4 ≤ cs.length then (codePoint? (cs.take 4)).map fun x => (x, 5)
    else if c = 'U' ∧ 8 ≤ cs.length then (codePoint? (cs.take 8)).map fun x => (x, 9)
    else none

/-- The string up to the closing quote and what is behind it, `read` being what stands in front,
the last character first. -/
def stringFrom (read : List Char) (cs : List Char) : Option (List Char × List Char) :=
  match cs with
  | [] => none
  | c :: rest =>
    if c = '"' then some (read.reverse, rest)
    else if c = '\\' then
      match escape? rest with
      | some (x, n) => stringFrom (x :: read) (rest.drop n)
      | none => none
    else if isShown c then stringFrom (c :: read) rest
    else none
termination_by cs.length

end ScriptHost.Text
