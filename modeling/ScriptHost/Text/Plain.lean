/-!
# Text without terminal controls

Usage reports and help pages are plain text even where they repeat what the user typed, so the
controls of a terminal are left out of them. A sequence begins with the escape character and ends
where its kind does: an ordinary one at its final character, a long string at the next escape, a
title also at the bell, and the other strings at the byte `0x9c`, a control of its own, be it part
of a character. Only ASCII ends a sequence otherwise. Of the other controls only those that move on
a line or column stay.
-/

namespace ScriptHost.Text

/-- Where the text stands between two characters. -/
inductive Control where
  /-- Outside every sequence. -/
  | ground
  /-- Behind the escape character. -/
  | escape
  /-- Inside a sequence whose final character is at least `final`. -/
  | sequence (final : Nat)
  /-- Inside the title of a window. -/
  | title
  /-- At the beginning of a string for a device, which says what the string is about. -/
  | header
  /-- Inside another string. -/
  | string
  deriving DecidableEq, Repr

/-- A control that moves to another place of the page and shows as white space. -/
def isMove (c : Char) : Bool := c = '\t' || c = '\n' || c = '\x0c' || c = '\r'

/-- A control, or a character beyond ASCII; neither ends a sequence. -/
def isInert (c : Char) : Bool := c < ' ' || c ≥ '\x7f'

/-- Whether the byte that ends a string is among those of a character. -/
def endsString (c : Char) : Bool := (String.utf8EncodeChar c).contains 0x9c

/-- Where the text stands behind `c`, and whether `c` is shown. -/
def Control.next (k : Control) (c : Char) : Control × Bool :=
  if c = '\x1b' then (.escape, false)
  else if c = '\x18' || c = '\x1a' then (.ground, false)
  else match k with
    | .ground => (.ground, isMove c || (' ' ≤ c && c ≠ '\x7f'))
    | .escape =>
      if isMove c then (.ground, true)
      else if isInert c then (k, false)
      else if c < '0' then (.sequence 0x30, false)
      else if c = '[' then (.sequence 0x40, false)
      else if c = ']' then (.title, false)
      else if c = 'P' then (.header, false)
      else if c = 'X' || c = '^' || c = '_' then (.string, false)
      else (.ground, false)
    | .sequence final =>
      if isMove c then (.ground, true)
      else (if isInert c || c.toNat < final then k else .ground, false)
    | .title => (if c = '\x07' then .ground else k, false)
    | .header => (if isInert c || c < '@' then k else .string, false)
    | .string => (if endsString c then .ground else k, false)

/-- The characters that are shown, from a given place on. -/
def shown (k : Control) : List Char → List Char
  | [] => []
  | c :: cs =>
    let (k, keep) := k.next c
    if keep then c :: shown k cs else shown k cs

def plain (s : String) : String := String.ofList (shown .ground s.toList)

end ScriptHost.Text
