import ScriptHost.Text.Quoted

/-!
# Cutting text at a byte

A place in a text may be given as a number of bytes. `cutAt` divides the text there and `slice`
takes what lies between two such places; a place inside a character is a fault, which says what
character that is and which bytes it takes.
-/

namespace ScriptHost.Text

inductive Edge where
  | start
  | stop
  deriving DecidableEq, Repr

def Edge.name : Edge → String
  | .start => "start"
  | .stop => "end"

/-- A place inside a character. -/
structure CutFault where
  edge : Edge
  /-- The place, in bytes. -/
  index : Nat
  /-- The character that it divides. -/
  inside : Char
  /-- Where that character begins, in bytes. -/
  first : Nat
  deriving DecidableEq, Repr

/-- The fault in words. The character has several bytes, so it is no quote. -/
def CutFault.message (f : CutFault) : String :=
  s!"{f.edge.name} byte index {f.index} is not a char boundary; it is inside "
    ++ "'" ++ escape f.inside ++ "'"
    ++ s!" (bytes {f.first}..{f.first + f.inside.utf8Size} of string)"

/-- Why a text is not read: it is not well-formed, or it is cut inside a character on the way. -/
inductive Misreading where
  | malformed
  | cut (fault : CutFault)
  deriving DecidableEq, Repr

/-- The text in front of the byte `index` and the text from there on, the text itself beginning at
the byte `first`. -/
def cutAt (edge : Edge) (index first : Nat) (cs : List Char) :
    Except CutFault (List Char × List Char) :=
  match cs with
  | [] => .ok ([], [])
  | c :: rest =>
    if index ≤ first then .ok ([], c :: rest)
    else if index < first + c.utf8Size then .error ⟨edge, index, c, first⟩
    else (cutAt edge index (first + c.utf8Size) rest).map fun (front, back) => (c :: front, back)

/-- The text from a byte on. -/
def sliceFrom (start : Nat) (cs : List Char) : Except Misreading (List Char) :=
  match cutAt .start start 0 cs with
  | .ok (_, back) => .ok back
  | .error fault => .error (.cut fault)

/-- The text between two bytes, of which the first is looked at first. -/
def slice (start stop : Nat) (cs : List Char) : Except Misreading (List Char) := do
  let back ← sliceFrom start cs
  match cutAt .stop stop start back with
  | .ok (front, _) => .ok front
  | .error fault => .error (.cut fault)

end ScriptHost.Text
