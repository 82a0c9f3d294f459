/-!
# White space

The characters that count as white space around a text, and their removal.
-/

namespace ScriptHost.Text

/-- Whether a character is white space, by the Unicode property of that name. -/
def isWhite (c : Char) : Bool :=
  let n := c.toNat
  (0x09 ≤ n && n ≤ 0x0D) || n = 0x20 || n = 0x85 || n = 0xA0 || n = 0x1680
    || (0x2000 ≤ n && n ≤ 0x200A) || n = 0x2028 || n = 0x2029 || n = 0x202F || n = 0x205F
    || n = 0x3000

/-- The white space of ASCII; the vertical tab is not part of it. -/
def isAsciiWhite (c : Char) : Bool :=
  c = ' ' || c = '\t' || c = '\n' || c = '\x0c' || c = '\r'

def trimRight (cs : List Char) : List Char := (cs.reverse.dropWhile isWhite).reverse

def trim (cs : List Char) : List Char := trimRight (cs.dropWhile isWhite)

def toAsciiLower (c : Char) : Char :=
  if 'A' ≤ c && c ≤ 'Z' then Char.ofNat (c.toNat + 32) else c

def toAsciiUpper (c : Char) : Char :=
  if 'a' ≤ c && c ≤ 'z' then Char.ofNat (c.toNat - 32) else c

end ScriptHost.Text
