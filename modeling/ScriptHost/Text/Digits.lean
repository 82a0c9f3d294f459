/-!
# Numbers in digits

How whole numbers are written and read. Machine integers are read strictly: an optional sign,
then decimal digits and nothing else, and the value must fit. Reading tells an empty text, a
stray character and a number out of range apart, since their reports differ.
-/

namespace ScriptHost.Text

/-- The digit of a number below 16, letters in lower case. -/
def digitChar (n : Nat) : Char := (Nat.digitChar n).toLower

/-- A number in hexadecimal, at least `width` digits, letters in lower case. -/
def hex (width n : Nat) : String :=
  let ds := (Nat.toDigits 16 n).map Char.toLower
  String.ofList (List.replicate (width - ds.length) '0' ++ ds)

/-- A number in hexadecimal, at least `width` digits, letters in upper case. -/
def hexUpper (width n : Nat) : String := String.ofList ((hex width n).toList.map Char.toUpper)

/-- The 64-bit pattern of a signed number in hexadecimal behind `0x`. -/
def hexWord (n : Int) : String := "0x" ++ hex 1 (n % UInt64.size).toNat

def isDigit (c : Char) : Bool := '0' ≤ c && c ≤ '9'

def hexValue? (c : Char) : Option Nat :=
  if '0' ≤ c && c ≤ '9' then some (c.toNat - '0'.toNat)
  else if 'a' ≤ c && c ≤ 'f' then some (c.toNat - 'a'.toNat + 10)
  else if 'A' ≤ c && c ≤ 'F' then some (c.toNat - 'A'.toNat + 10)
  else none

/-- The number that digits of `base` spell, by their values. -/
def ofDigits (base : Nat) (ds : List Nat) : Nat := ds.foldl (fun n d => n * base + d) 0

/-- The number that decimal digits spell; other characters are not looked for. -/
def decimalValue (cs : List Char) : Nat := ofDigits 10 (cs.map fun c => c.toNat - '0'.toNat)

inductive IntFault where
  | empty
  | invalidDigit
  | tooLarge
  | tooSmall
  deriving DecidableEq, Repr

def IntFault.message : IntFault → String
  | .empty => "cannot parse integer from empty string"
  | .invalidDigit => "invalid digit found in string"
  | .tooLarge => "number too large to fit in target type"
  | .tooSmall => "number too small to fit in target type"

/-- The number that a text with an optional sign spells, checked against a range. A text of
digits is read to its end before its size is judged only as far as the range allows: the first
character that is no digit or leads out of the range decides. -/
def parseInt (low high : Int) (cs : List Char) : Except IntFault Int :=
  match cs with
  | [] => .error .empty
  | '+' :: ds => positive ds
  | '-' :: ds => if low < 0 then negative ds else .error .invalidDigit
  | ds => positive ds
where
  positive (ds : List Char) : Except IntFault Int :=
    if ds.isEmpty then .error .invalidDigit
    else ds.foldlM (fun n c =>
      if isDigit c then
        let n := n * 10 + (c.toNat - '0'.toNat : Nat)
        if n ≤ high then .ok n else .error .tooLarge
      else .error .invalidDigit) 0
  negative (ds : List Char) : Except IntFault Int :=
    if ds.isEmpty then .error .invalidDigit
    else ds.foldlM (fun n c =>
      if isDigit c then
        let n := n * 10 - (c.toNat - '0'.toNat : Nat)
        if low ≤ n then .ok n else .error .tooSmall
      else .error .invalidDigit) 0

/-- The least integer that a signed word of 64 bits does not hold. -/
def signedBound : Int := 9223372036854775808

/-- A number that fits a signed word of 64 bits. -/
def parseInt64 (cs : List Char) : Except IntFault Int :=
  parseInt (-signedBound) (signedBound - 1) cs

/-- A number that fits an unsigned word of 64 bits. -/
def parseNat64 (cs : List Char) : Except IntFault Int := parseInt 0 (UInt64.size - 1) cs

end ScriptHost.Text
