import ScriptHost.Text.Utf8
import ScriptHost.Text.Digits
import ScriptHost.Text.Unprintable

/-!
# Quoted text

How a value is quoted in a message: between double quotes, with escapes for what would not show.
Texts and paths follow the same rules but for two points: a path also escapes the single quote,
and bytes of it that are not text are written as `\x` and two digits.
-/

namespace ScriptHost.Text

def escape (c : Char) : String :=
  if c = '\x00' then "\\0"
  else if c = '\t' then "\\t"
  else if c = '\r' then "\\r"
  else if c = '\n' then "\\n"
  else if c = '\\' then "\\\\"
  else if c = '"' then "\\\""
  else if isUnprintable c then "\\u\x7b" ++ hex 1 c.toNat ++ "\x7d"
  else String.singleton c

def quoted (s : String) : String := "\"" ++ String.join (s.toList.map escape) ++ "\""

/-- A character of a path inside quotes. -/
def escapeInPath (c : Char) : String := if c = '\'' then "\\'" else escape c

/-- The pieces of a quoted path, `done` being those already written (the last one first). -/
def quotedPieces (done : List String) (bytes : Bytes) : List String :=
  match bytes with
  | [] => done.reverse
  | a :: rest =>
    match Utf8.front a rest with
    | .char c w => quotedPieces (escapeInPath c :: done) (rest.drop (w - 1))
    | .bad n => quotedPieces (raw (bytes.take n) :: done) (rest.drop (n - 1))
    | .cut => (raw bytes :: done).reverse
termination_by bytes.length
decreasing_by all_goals (simp only [List.length_cons, List.length_drop]; omega)
where
  raw (bs : Bytes) : String := String.join (bs.map fun b => "\\x" ++ hexUpper 2 b.toNat)

def quotedBytes (bytes : Bytes) : String := "\"" ++ String.join (quotedPieces [] bytes) ++ "\""

end ScriptHost.Text
