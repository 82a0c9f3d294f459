/-!
# Text in bytes

Arguments, names and file contents arrive as bytes, and only some byte strings are text. `front`
looks at the character a byte string begins with; `decode` and `lossy` go from front to front.
`decode` stops at the first byte that no character covers and says where it stands, `lossy` writes
the replacement character there and goes on.

A byte that cannot belong to a character takes with it the bytes that could still have begun one,
so a fault spans one to three bytes. A text that ends inside a character is a fault of its own.
-/

namespace ScriptHost

/-- Text as the operating system holds it: any bytes at all. -/
abbrev Bytes := List UInt8

namespace Utf8

/-- What a byte string begins with. -/
inductive Front where
  /-- A character written in `width` bytes. -/
  | char (c : Char) (width : Nat)
  /-- `length` bytes that no character begins with. -/
  | bad (length : Nat)
  /-- The bytes end before their last character does. -/
  | cut
  deriving DecidableEq, Repr

def isTrail (b : UInt8) : Bool := 0x80 ≤ b && b < 0xC0

/-- Whether `b` may follow the first byte `a`: the shortest form is the only one, and neither
surrogates nor code points past the last are characters. -/
def isSecond (a b : UInt8) : Bool :=
  if a = 0xE0 then 0xA0 ≤ b && b < 0xC0
  else if a = 0xED then 0x80 ≤ b && b < 0xA0
  else if a = 0xF0 then 0x90 ≤ b && b < 0xC0
  else if a = 0xF4 then 0x80 ≤ b && b < 0x90
  else isTrail b

/-- How many bytes a character that begins with this byte has; 0 if none begins with it. -/
def width (a : UInt8) : Nat :=
  if a < 0x80 then 1
  else if a < 0xC2 then 0
  else if a < 0xE0 then 2
  else if a < 0xF0 then 3
  else if a < 0xF5 then 4
  else 0

/-- The payload bits of a continuation byte, below those already read. -/
def extend (code : Nat) (b : UInt8) : Nat := code * 64 + b.toNat % 64

/-- What the byte `a` and the bytes after it begin with. -/
def front (a : UInt8) (rest : Bytes) : Front :=
  match width a, rest with
  | 1, _ => .char (Char.ofNat a.toNat) 1
  | 2, [] => .cut
  | 2, b :: _ =>
    if isSecond a b then .char (Char.ofNat (extend (a.toNat % 32) b)) 2 else .bad 1
  | 3, [] => .cut
  | 3, b :: rest =>
    if isSecond a b then
      match rest with
      | [] => .cut
      | c :: _ =>
        if isTrail c then .char (Char.ofNat (extend (extend (a.toNat % 16) b) c)) 3 else .bad 2
    else .bad 1
  | 4, [] => .cut
  | 4, b :: rest =>
    if isSecond a b then
      match rest with
      | [] => .cut
      | c :: rest =>
        if isTrail c then
          match rest with
          | [] => .cut
          | d :: _ =>
            if isTrail d then
              .char (Char.ofNat (extend (extend (extend (a.toNat % 8) b) c) d)) 4
            else .bad 3
        else .bad 2
    else .bad 1
  | _, _ => .bad 1

/-- Why a byte string is not text: `validUpTo` bytes of it are, and then come `length` bytes that
no character begins with, or (with no `length`) an end inside a character. -/
structure Fault where
  validUpTo : Nat
  length : Option Nat
  deriving DecidableEq, Repr

def Fault.message (f : Fault) : String :=
  match f.length with
  | some n => s!"invalid utf-8 sequence of {n} bytes from index {f.validUpTo}"
  | none => s!"incomplete utf-8 byte sequence from index {f.validUpTo}"

/-- The characters of `bytes` behind those already `read` (the last one first), `pos` being the
number of bytes read so far. -/
def decodeFrom (pos : Nat) (read : List Char) (bytes : Bytes) : Except Fault (List Char) :=
  match bytes with
  | [] => .ok read.reverse
  | a :: rest =>
    match front a rest with
    | .char c w => decodeFrom (pos + w) (c :: read) (rest.drop (w - 1))
    | .bad n => .error ⟨pos, some n⟩
    | .cut => .error ⟨pos, none⟩
termination_by bytes.length
decreasing_by simp only [List.length_cons, List.length_drop]; omega

def decode (bytes : Bytes) : Except Fault (List Char) := decodeFrom 0 [] bytes

/-- The text that a byte string spells, if it spells one. -/
def text? (bytes : Bytes) : Option String :=
  match decode bytes with
  | .ok cs => some (String.ofList cs)
  | .error _ => none

/-- The characters of `bytes` behind those already `read`, each fault replaced by one mark. -/
def lossyFrom (read : List Char) (bytes : Bytes) : List Char :=
  match bytes with
  | [] => read.reverse
  | a :: rest =>
    match front a rest with
    | .char c w => lossyFrom (c :: read) (rest.drop (w - 1))
    | .bad n => lossyFrom ('\ufffd' :: read) (rest.drop (n - 1))
    | .cut => ('\ufffd' :: read).reverse
termination_by bytes.length
decreasing_by all_goals (simp only [List.length_cons, List.length_drop]; omega)

/-- The text of a byte string for the eye: faults become the replacement character. -/
def lossy (bytes : Bytes) : String := String.ofList (lossyFrom [] bytes)

/-- The bytes that spell a list of characters. -/
def encode (cs : List Char) : Bytes := cs.flatMap String.utf8EncodeChar

end Utf8

def bytesOf (s : String) : Bytes := Utf8.encode s.toList

end ScriptHost
