import ScriptHost.LogFilter.Filter

/-!
# Log lines

An entry of the log as a line of text, for people or as a JSON object. A line does not hold the
time of the event. In lines for people the controls that a terminal would act on are written by
their codes, and there are no colours: the lines are those of an environment that asks for none by
setting NO_COLOR. Colours are put around the parts of a line and change none of them.
-/

namespace ScriptHost.LogLine

def shownChar (c : Char) : String :=
  if c = '\x1b' ∨ c = '\x07' ∨ c = '\x08' ∨ c = '\x0c' ∨ c = '\x7f' then
    "\\x" ++ Text.hex 2 c.toNat
  else if 0x80 ≤ c.toNat ∧ c.toNat ≤ 0x9F then "\\u\x7b" ++ Text.hex 1 c.toNat ++ "\x7d"
  else String.singleton c

/-- An entry for people, without time and colours, with the span of its cycle if `showCycle`. -/
def pretty (showCycle : Bool) (entry : LogEntry) : String :=
  let cycle :=
    match entry.cycle with
    | some n => if showCycle then "cycle\x7bn=" ++ toString n ++ "\x7d: " else ""
    | none => ""
  let fields :=
    match entry.event with
    | .failed _ e => " stage=" ++ e.stage.name ++ " code=" ++ Text.quoted e.code
    | _ => ""
  entry.event.level.name ++ " " ++ cycle
    ++ String.join (entry.event.message.toList.map shownChar) ++ fields

def jsonChar (c : Char) : String :=
  if c = '"' then "\\\""
  else if c = '\\' then "\\\\"
  else if c = '\n' then "\\n"
  else if c = '\r' then "\\r"
  else if c = '\t' then "\\t"
  else if c = '\x08' then "\\b"
  else if c = '\x0c' then "\\f"
  else if c < ' ' then "\\u" ++ Text.hex 4 c.toNat
  else String.singleton c

def jsonString (s : String) : String := "\"" ++ String.join (s.toList.map jsonChar) ++ "\""

/-- A JSON object of written values. -/
def jsonObject (members : List (String × String)) : String :=
  "\x7b" ++ ",".intercalate (members.map fun m => jsonString m.1 ++ ":" ++ m.2) ++ "\x7d"

def json (showCycle : Bool) (entry : LogEntry) : String :=
  let e := entry.event
  let fields := ("message", e.message) :: e.fields
  let span :=
    match entry.cycle with
    | some n =>
      if showCycle then
        let span := jsonObject [("n", toString n), ("name", jsonString LogFilter.cycleSpan)]
        [("span", span), ("spans", "[" ++ span ++ "]")]
      else []
    | none => []
  jsonObject
    ([("level", jsonString e.level.name),
      ("fields", jsonObject (fields.map fun f => (f.1, jsonString f.2)))] ++ span)

def render (format : LogFormat) (showCycle : Bool) (entry : LogEntry) : String :=
  match format with
  | .pretty => pretty showCycle entry
  | .json => json showCycle entry

end ScriptHost.LogLine
