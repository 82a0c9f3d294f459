import ScriptHost.Error

/-!
# Text that crosses to the runtime

A runtime reads text up to the first NUL byte, so text with such a byte inside cannot cross. Every
other text does, byte for byte: what the runtime reads back from the buffer is what was put in.
-/

namespace ScriptHost

/-- Text that a runtime can read, without the NUL byte that ends it there. -/
structure ForeignText where
  bytes : Bytes
  nul_notMem : 0 ∉ bytes

namespace ForeignText

/-- The bytes that the runtime is given. -/
def buffer (t : ForeignText) : Bytes := t.bytes ++ [0]

/-- What is read from a buffer: the bytes in front of the first NUL. -/
def readBuffer (buffer : Bytes) : Bytes := buffer.takeWhile (· ≠ 0)

/-- Bytes as foreign text, if no NUL is among them. `what` names the text in the report. -/
def ofBytes (what : String) (bytes : Bytes) : Except HostError ForeignText :=
  if h : 0 ∈ bytes then .error (.interiorNul what (bytes.idxOf 0))
  else .ok ⟨bytes, h⟩

def ofText (what : String) (s : String) : Except HostError ForeignText := ofBytes what (bytesOf s)

/-- A path as foreign text. A runtime takes no path that is not text. -/
def ofPath (what : String) (p : Path) : Except HostError ForeignText :=
  match p.text? with
  | none => .error (.nonUtf8Path p)
  | some s => ofText what s

end ForeignText

end ScriptHost
