import ScriptHost.Event
import ScriptHost.Binary64
import ScriptHost.Text.Blank
import ScriptHost.Text.Cut
import ScriptHost.Text.Pattern
import ScriptHost.Text.Alphanumeric

/-!
# Filter directives

A directive lets events through up to a level, if they come from parts of the program whose names
begin with its target, or happen inside a span of a given name that carries a given field. It is
written `target[span{field=value}]=level`, where everything may be left out but not all at once; a
single word is a level if it names one and a target otherwise.

The brackets are looked for in the text without the white space around it, but the parts between
them are taken from the text as it stands, from the same bytes. White space in front therefore
shifts the parts, and if one of them then begins or ends inside a character, that is a fault.
-/

namespace ScriptHost.LogFilter

/-- The least severe level that is let through; nothing is if there is none. -/
abbrev Threshold := Option Level

namespace Threshold

def name : Threshold → String
  | none => "off"
  | some .error => "error"
  | some .warn => "warn"
  | some .info => "info"
  | some .debug => "debug"
  | some .trace => "trace"

def verbosity : Threshold → Nat
  | none => 0
  | some l => l.verbosity

def allows (t : Threshold) (l : Level) : Bool := l.verbosity ≤ t.verbosity

def all : List Threshold :=
  [none, some .error, some .warn, some .info, some .debug, some .trace]

/-- The threshold of a name in any case, or of a number from 0 to 5. -/
def ofText? (cs : List Char) : Option Threshold :=
  match Text.parseNat64 cs with
  | .ok n => all.find? fun t => (t.verbosity : Int) = n
  | .error _ => all.find? fun t => t.name.toList = cs.map Text.toAsciiLower

end Threshold

inductive FieldValue where
  | boolean (b : Bool)
  | float (x : Binary64)
  | nan
  | unsigned (n : Nat)
  | signed (n : Int)
  | pattern (text : String)
  deriving DecidableEq, Repr

namespace FieldValue

def display : FieldValue → String
  | .boolean b => if b then "true" else "false"
  | .float x => x.display
  | .nan => "NaN"
  | .unsigned n => toString n
  | .signed n => toString n
  | .pattern s => s

/-- A number with a point, or one of the words for what is beyond all numbers or is none. -/
def float? (cs : List Char) : Option Binary64 :=
  let (negative, word) :=
    match cs with
    | '-' :: r => (true, r)
    | '+' :: r => (false, r)
    | r => (false, r)
  let word := String.ofList (word.map Text.toAsciiLower)
  if word = "inf" ∨ word = "infinity" then some (.infinite negative)
  else if word = "nan" then some .nan
  else Binary64.parse? cs

/-- The value that a text spells; what is no plain value is a regular expression. -/
def ofText? (cs : List Char) : Option FieldValue :=
  if cs = "true".toList then some (.boolean true)
  else if cs = "false".toList then some (.boolean false)
  else
    match Text.parseNat64 cs, Text.parseInt64 cs, float? cs with
    | .ok n, _, _ => some (.unsigned n.toNat)
    | _, .ok n, _ => some (.signed n)
    | _, _, some .nan => some .nan
    | _, _, some x => some (.float x)
    | _, _, none => if Text.isPattern cs then some (.pattern (String.ofList cs)) else none

def kind : FieldValue → Nat
  | .boolean _ => 0
  | .float _ => 1
  | .nan => 2
  | .unsigned _ => 3
  | .signed _ => 4
  | .pattern _ => 5

def compare (a b : FieldValue) : Ordering :=
  match a, b with
  | .boolean a, .boolean b => Ord.compare a b
  | .float a, .float b => Ord.compare a.rank b.rank
  | .unsigned a, .unsigned b => Ord.compare a b
  | .signed a, .signed b => Ord.compare a b
  | .pattern a, .pattern b => Ord.compare a b
  | a, b => Ord.compare a.kind b.kind

end FieldValue

/-- A field that a span has to carry, perhaps with a certain value. -/
structure FieldTest where
  name : String
  value : Option FieldValue
  deriving DecidableEq, Repr

namespace FieldTest

/-- The test that a text spells: a name, and behind an equals sign a value. -/
def ofText? (cs : List Char) : Option FieldTest :=
  let name := String.ofList (cs.takeWhile (· ≠ '='))
  match cs.dropWhile (· ≠ '=') with
  | [] => some ⟨name, none⟩
  | _ :: value => (FieldValue.ofText? (value.takeWhile (· ≠ '='))).map fun v => ⟨name, some v⟩

def display (f : FieldTest) : String :=
  match f.value with
  | none => f.name
  | some v => f.name ++ "=" ++ v.display

def compare (a b : FieldTest) : Ordering :=
  (Ord.compare a.value.isSome b.value.isSome).then <|
    (Ord.compare a.name b.name).then <|
      match a.value, b.value with
      | some v, some w => v.compare w
      | _, _ => .eq

end FieldTest

structure Directive where
  target : Option String := none
  span : Option String := none
  field : Option FieldTest := none
  threshold : Threshold := some .trace
  deriving DecidableEq, Repr

namespace Directive

def startsWord (c : Char) : Bool := Text.isAlphanumeric c || c = '-' || c = ':' || c = '_'

/-- The place of the first character that satisfies a test and the text from there on, if there is
one; the text begins at the byte `start`. -/
def seek (p : Char → Bool) (start : Nat) (cs : List Char) : Option (Nat × Char × List Char) :=
  match cs with
  | [] => none
  | c :: rest => if p c then some (start, c, rest) else seek p (start + c.utf8Size) rest

/-- The directive with the threshold that stands in `full` from the byte `start` on. -/
def readThreshold (d : Directive) (full : List Char) (start : Nat) :
    Except Text.Misreading Directive := do
  match ← Text.sliceFrom start full with
  | [] => .ok d
  | text =>
    match Threshold.ofText? text with
    | some t => .ok { d with threshold := t }
    | none => .error .malformed

/-- The directive with what stands behind the brackets, from the byte `start` on: nothing, or a
threshold. -/
def readEnd (d : Directive) (full : List Char) (start : Nat) (rest : List Char) :
    Except Text.Misreading Directive :=
  match rest with
  | [] => .ok d
  | '=' :: _ => d.readThreshold full (start + 1)
  | _ => .error .malformed

/-- The directive with the field whose test begins at the byte `start`. -/
def readField (d : Directive) (full : List Char) (start : Nat) (rest : List Char) :
    Except Text.Misreading Directive :=
  match seek (· = '}') start rest with
  | none => .error .malformed
  | some (stop, _, rest) => do
    match ← Text.slice start stop full with
    | [] => .error .malformed
    | text =>
      match FieldTest.ofText? text, rest with
      | some field, ']' :: rest => readEnd { d with field := some field } full (stop + 2) rest
      | _, _ => .error .malformed

/-- The directive with the brackets whose content begins at the byte `start`. -/
def readSpan (d : Directive) (full : List Char) (start : Nat) (rest : List Char) :
    Except Text.Misreading Directive :=
  match seek (fun c => c = ']' || c = '{') start rest with
  | none => .error .malformed
  | some (stop, c, rest) => do
    let name := String.ofList (← Text.slice start stop full)
    if c = ']' then readEnd { d with span := some name } full (stop + 1) rest
    else readField { d with span := if name = "" then none else some name } full (stop + 1) rest

def ofText (full : List Char) : Except Text.Misreading Directive :=
  match Text.trim full with
  | [] => .error .malformed
  | c :: rest =>
    if c = '[' then readSpan {} full 1 rest
    else if !startsWord c then .error .malformed
    else
      match seek (fun c => c = '=' || c = '[') 0 (c :: rest) with
      | none =>
        match Threshold.ofText? full with
        | some t => .ok { threshold := t }
        | none => .ok { target := some (String.ofList full) }
      | some (stop, c, rest) => do
        let d : Directive := { target := some (String.ofList (← Text.slice 0 stop full)) }
        if c = '=' then d.readThreshold full (stop + 1) else d.readSpan full (stop + 1) rest

def display (d : Directive) : String :=
  let span :=
    if d.span.isNone ∧ d.field.isNone then ""
    else
      "[" ++ d.span.getD ""
        ++ (match d.field with
          | none => ""
          | some f => "\x7b" ++ f.display ++ "\x7d")
        ++ "]"
  let scope := d.target.getD "" ++ span
  scope ++ (if d.target.isNone ∧ span = "" then "" else "=") ++ d.threshold.name

/-- Whether a directive names a span or a field, so that it matters in which span an event
happens. -/
def isDynamic (d : Directive) : Bool := d.span.isSome || d.field.isSome

/-- Whether a directive can apply outside every span. -/
def isStatic (d : Directive) : Bool :=
  d.span.isNone && (d.field.bind fun f => f.value).isNone

/-- Values that may be missing; a missing one comes first. -/
def compareOption {α : Type} (compare : α → α → Ordering) : Option α → Option α → Ordering
  | none, none => .eq
  | none, some _ => .lt
  | some _, none => .gt
  | some a, some b => compare a b

/-- How specific two directives are: the longer target wins, then the one with a span, then the one
with a field, and what is left is decided by the texts. -/
def compare (a b : Directive) : Ordering :=
  (compareOption Ord.compare (a.target.map String.utf8ByteSize)
      (b.target.map String.utf8ByteSize)).then <|
    (Ord.compare a.span.isSome b.span.isSome).then <|
      (Ord.compare a.field.isSome b.field.isSome).then <|
        (compareOption Ord.compare a.target b.target).then <|
          (compareOption Ord.compare a.span b.span).then <|
            compareOption FieldTest.compare a.field b.field

end Directive

end ScriptHost.LogFilter
