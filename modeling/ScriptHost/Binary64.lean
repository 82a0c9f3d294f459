import ScriptHost.Text.Digits

/-!
# Numbers with a point

A number with a point is read into the nearest 64-bit binary number, and shown as the shortest
decimal that reads back to it, never with an exponent. Both directions work on exact integers: a
decimal is a fraction, a binary number `m · 2^e` with `m < 2^53`, and the decimals that read back
to it are those between the midpoints to its neighbours.
-/

namespace ScriptHost

/-- A binary number of 64 bits. A finite one is `significand · 2^exponent`, the significand having
53 bits unless the exponent is the least one. -/
inductive Binary64 where
  | finite (negative : Bool) (significand : Nat) (exponent : Int)
  | infinite (negative : Bool)
  | nan
  deriving DecidableEq, Repr

namespace Binary64

def minExponent : Int := -1074

def maxExponent : Int := 971

/-- The least integer that is too large for a significand, `2^53`. -/
def significandBound : Nat := 9007199254740992

/-- The position of a number among all numbers: multiples of the least positive one, infinity
beyond all of them. -/
def rank : Binary64 → Int
  | .finite negative m e =>
    let r : Int := m * Nat.pow 2 (e - minExponent).toNat
    if negative then -r else r
  | .infinite negative =>
    let r : Int := Nat.pow 2 2200
    if negative then -r else r
  | .nan => 0

/-- The quotient rounded to the nearest integer, a half to the even one. -/
def roundDiv (num den : Nat) : Nat :=
  let q := num / den
  let r := num % den
  if 2 * r < den then q
  else if den < 2 * r then q + 1
  else if q % 2 = 0 then q else q + 1

/-- The fraction `num / den` as a number of units `2^e`, rounded. -/
def scaled (num den : Nat) (e : Int) : Nat :=
  if 0 ≤ e then roundDiv num (den * Nat.pow 2 e.toNat)
  else roundDiv (num * Nat.pow 2 (-e).toNat) den

def ofFraction (negative : Bool) (num den : Nat) : Binary64 :=
  if num = 0 then .finite negative 0 minExponent
  else
    -- the quotient lies between `2^(k-1)` and `2^(k+1)`
    let k : Int := (num.log2 : Int) - den.log2
    let low : Int := max minExponent (k - 53)
    let m := scaled num den low
    let (m, e) := if m < significandBound then (m, low) else (scaled num den (low + 1), low + 1)
    let (m, e) := if m < significandBound then (m, e) else (m / 2, e + 1)
    if maxExponent < e then .infinite negative else .finite negative m e

/-- The number nearest to `digits · 10^exponent`. Exponents far out of reach are not computed. -/
def ofDecimal (negative : Bool) (digits : List Char) (exponent : Int) : Binary64 :=
  let n := Text.decimalValue digits
  if n = 0 then .finite negative 0 minExponent
  else
    let magnitude : Int := exponent + (Nat.toDigits 10 n).length
    if 400 < magnitude then .infinite negative
    else if magnitude < -400 then .finite negative 0 minExponent
    else if 0 ≤ exponent then ofFraction negative (n * Nat.pow 10 exponent.toNat) 1
    else ofFraction negative n (Nat.pow 10 (-exponent).toNat)

/-- The decimal `digits · 10^exponent` nearest to `num / den` among those with that exponent, the
greater one of two, if it lies between `low / den` and `high / den`; the ends count if `closed`. -/
def pointWithin (closed : Bool) (low num high den : Nat) (exponent : Int) : Option Nat :=
  let (up, down) :=
    if 0 ≤ exponent then (Nat.pow 10 exponent.toNat, 1) else (1, Nat.pow 10 (-exponent).toNat)
  let n := (2 * (num * down) + den * up) / (2 * (den * up))
  let inside (n : Nat) : Bool :=
    let x := n * up * den
    if closed then low * down ≤ x && x ≤ high * down else low * down < x && x < high * down
  if inside n then some n else if inside (n + 1) then some (n + 1)
  else if 0 < n && inside (n - 1) then some (n - 1) else none

/-- The shortest decimal that reads back to `m · 2^e`, searched from the exponent `exponent` down,
with at most `tries` more digits. -/
def shortestFrom (closed : Bool) (low num high den : Nat) (exponent : Int) : Nat → Nat × Int
  | 0 => (0, 0)
  | tries + 1 =>
    match pointWithin closed low num high den exponent with
    | some n => (n, exponent)
    | none => shortestFrom closed low num high den (exponent - 1) tries

/-- The shortest decimal `digits · 10^exponent` that reads back to the positive number `m · 2^e`. -/
def shortest (m : Nat) (e : Int) : Nat × Int :=
  -- in quarters of the last place, so that the midpoints are integers
  let below := if 2 * m = significandBound ∧ minExponent < e then 1 else 2
  let (num, low, high) := (4 * m, 4 * m - below, 4 * m + 2)
  let (scale, den) := if 0 ≤ e then (Nat.pow 2 e.toNat, 4) else (1, 4 * Nat.pow 2 (-e).toNat)
  let size : Int := (Nat.toDigits 10 (num * scale / den)).length
  let start : Int := if num * scale < den then -1 else size
  shortestFrom (m % 2 = 0) (low * scale) (num * scale) (high * scale) den start 700

/-- Digits with a point in front of the last `places`. -/
def withPoint (digits : List Char) (places : Nat) : List Char :=
  let padded := List.replicate (places + 1 - digits.length) '0' ++ digits
  padded.take (padded.length - places) ++ '.' :: padded.drop (padded.length - places)

/-- A number as the shortest decimal that reads back to it. -/
def display : Binary64 → String
  | .nan => "NaN"
  | .infinite negative => if negative then "-inf" else "inf"
  | .finite negative m e =>
    let (digits, exponent) := if m = 0 then (0, 0) else shortest m e
    let ds := Nat.toDigits 10 digits
    let text :=
      if 0 ≤ exponent then ds ++ (if digits = 0 then [] else List.replicate exponent.toNat '0')
      else withPoint ds (-exponent).toNat
    String.ofList (if negative then '-' :: text else text)

/-- Reads digits, a fraction and an exponent. One of the two runs of digits around the point may
be missing, and so may fraction and exponent. -/
def parse? (cs : List Char) : Option Binary64 :=
  let (negative, cs) :=
    match cs with
    | '-' :: r => (true, r)
    | '+' :: r => (false, r)
    | r => (false, r)
  let whole := cs.takeWhile Text.isDigit
  let rest := cs.dropWhile Text.isDigit
  let (places, rest) :=
    match rest with
    | '.' :: r => (r.takeWhile Text.isDigit, r.dropWhile Text.isDigit)
    | r => ([], r)
  if whole = [] ∧ places = [] then none
  else
    match exponent? rest with
    | some e => some (ofDecimal negative (whole ++ places) (e - places.length))
    | none => none
where
  exponent? : List Char → Option Int
    | [] => some 0
    | c :: r =>
      if c = 'e' || c = 'E' then
        match r with
        | '-' :: ds => (digits? ds).map fun n => -(n : Int)
        | '+' :: ds => (digits? ds).map fun n => (n : Int)
        | ds => (digits? ds).map fun n => (n : Int)
      else none
  digits? (ds : List Char) : Option Nat :=
    if ds ≠ [] ∧ ds.all Text.isDigit then some (Text.decimalValue ds) else none

end Binary64

end ScriptHost
