import ScriptHost.Text.Alphanumeric
import ScriptHost.Text.Blank
import ScriptHost.Text.Escaped

/-!
# Well-formed patterns

Whether a text is a regular expression that can be matched without tables of Unicode. It is read
once, from left to right; what is kept of a part is its depth, since parts must not be nested
beyond a limit.

What a pattern may hold depends on its modes. By default it is about characters, and then nothing
that would need a table is allowed: no shorthand for a class such as `\w`, no edge of a word, and
no ignoring of case. A pattern about bytes must not match part of a character, so it has no
complements, but it has shorthands for the classes of ASCII.
-/

namespace ScriptHost.Text.Pattern

/-! ## Modes -/

/-- How a pattern is read. -/
structure Modes where
  /-- The pattern is about characters and not about bytes. -/
  unicode : Bool := true
  caseless : Bool := false
  /-- White space and comments between the parts of the pattern have no meaning. -/
  verbose : Bool := false
  deriving DecidableEq, Repr

namespace Modes

/-- The letters of modes, and the sign behind which modes are switched off. -/
def letters : List Char := "imsUuRx-".toList

/-- Whether letters switch modes: none is repeated, and the sign is not the last. -/
def areSwitches (cs : List Char) : Bool :=
  cs.all letters.contains && decide cs.Nodup && cs.getLast? ≠ some '-'

/-- The modes behind a switch. -/
def switch (m : Modes) (cs : List Char) : Modes :=
  let on := cs.takeWhile (· ≠ '-')
  let mode (letter : Char) (old : Bool) : Bool := on.contains letter || (old && !cs.contains letter)
  { unicode := mode 'u' m.unicode, caseless := mode 'i' m.caseless, verbose := mode 'x' m.verbose }

/-- The text behind white space and comments, if they have no meaning; `comment` says whether the
text begins inside a comment. -/
def skipFrom (m : Modes) (comment : Bool) : List Char → List Char
  | [] => []
  | c :: cs =>
    if !m.verbose then c :: cs
    else if comment then m.skipFrom (c ≠ '\n') cs
    else if c = '#' then m.skipFrom true cs
    else if isWhite c then m.skipFrom false cs
    else c :: cs

def skip (m : Modes) (cs : List Char) : List Char := m.skipFrom false cs

/-- What a dash in a class is judged by: the character behind it or, where white space has no
meaning, behind that. There the sign of a comment is passed over too, but not the comment. -/
def afterDash? (m : Modes) (cs : List Char) : Option Char :=
  if m.verbose then
    match cs.dropWhile isWhite with
    | '#' :: cs => (cs.dropWhile isWhite).head?
    | cs => cs.head?
  else cs.head?

/-- Whether a character can be matched as itself. -/
def matchesCharacter (m : Modes) : Bool := !(m.unicode && m.caseless)

end Modes

/-! ## Depth -/

/-- The parts of a sequence that has been read so far. -/
structure Tally where
  count : Nat := 0
  deepest : Nat := 0
  deriving DecidableEq, Repr

namespace Tally

def add (t : Tally) (depth : Nat) : Tally := ⟨t.count + 1, max t.deepest depth⟩

def deepen (t : Tally) (depth : Nat) : Tally := ⟨t.count, max t.deepest depth⟩

/-- The depth of the sequence. A sequence of one part is that part. -/
def depth (t : Tally) : Nat := if t.count < 2 then t.deepest else t.deepest + 1

end Tally

def maxDepth : Nat := 250

/-! ## Characters and escapes -/

/-- What an escape or a character stands for. -/
inductive Atom where
  /-- A character; `byte` says whether it is given as a byte. -/
  | literal (c : Char) (byte : Bool)
  /-- A class with a short name, or its complement. -/
  | shorthand (complement : Bool)
  /-- A place in a text; `word` says whether it is an edge of a word. -/
  | place (word : Bool)
  deriving DecidableEq, Repr

namespace Atom

def isAllowed (m : Modes) : Atom → Bool
  | .literal c byte => m.matchesCharacter && (m.unicode || !byte || c < '\x80')
  | .shorthand complement => !m.unicode && !complement
  | .place word => !word || !m.unicode

def isMember (m : Modes) : Atom → Bool
  | .literal c _ => m.matchesCharacter && (m.unicode || c < '\x80')
  | .shorthand complement => !m.unicode && !complement
  | .place _ => false

/-- Whether two atoms are the ends of a range. -/
def isRange (m : Modes) (first last : Atom) : Bool :=
  match first, last with
  | .literal a _, .literal b _ => first.isMember m && last.isMember m && a ≤ b
  | _, _ => false

end Atom

/-- The next `n` characters, with white space between them passed over where it has no meaning. -/
def nextCharacters (m : Modes) : Nat → List Char → Option (List Char × List Char)
  | 0, cs => some ([], cs)
  | n + 1, cs =>
    match m.skip cs with
    | [] => none
    | c :: rest => (nextCharacters m n rest).map fun (cs, rest) => (c :: cs, rest)

/-- The character whose code point is spelt by `n` hexadecimal digits. -/
def codePoint? (m : Modes) (n : Nat) (cs : List Char) : Option (Char × List Char) := do
  let (digits, rest) ← nextCharacters m n cs
  let c ← Text.codePoint? digits
  some (c, rest)

/-- The controls that are written as a letter behind a backslash. -/
def controls : List (Char × Char) :=
  [('a', '\x07'), ('f', '\x0c'), ('t', '\t'), ('n', '\n'), ('r', '\r'), ('v', '\x0b')]

/-- The atom of an escape, behind its backslash. -/
def escape? (m : Modes) : List Char → Option (Atom × List Char)
  | [] => none
  | c :: cs =>
    if c = 'x' then (codePoint? m 2 cs).map fun (x, cs) => (.literal x true, cs)
    else if c = 'u' then (codePoint? m 4 cs).map fun (x, cs) => (.literal x false, cs)
    else if c = 'U' then (codePoint? m 8 cs).map fun (x, cs) => (.literal x false, cs)
    else if "dsw".toList.contains c then some (.shorthand false, cs)
    else if "DSW".toList.contains c then some (.shorthand true, cs)
    else if c = 'A' ∨ c = 'z' then some (.place false, cs)
    else if "bB<>".toList.contains c then some (.place true, cs)
    else if c < '\x80' ∧ !c.isAlphanum then some (.literal c false, cs)
    else (controls.lookup c).map fun x => (.literal x false, cs)

/-- The atom that a text begins with. -/
def atom? (m : Modes) : List Char → Option (Atom × List Char)
  | [] => none
  | '\\' :: cs => escape? m cs
  | c :: cs => some (.literal c false, cs)

/-! ## Classes -/

def classNames : List String :=
  ["alnum", "alpha", "ascii", "blank", "cntrl", "digit", "graph", "lower", "print", "punct",
   "space", "upper", "word", "xdigit"]

/-- A class by its name, behind the opening bracket: whether it is a complement, and the text
behind the closing bracket. -/
def namedClass? (cs : List Char) : Option (Bool × List Char) :=
  match cs with
  | ':' :: cs =>
    let (complement, cs) :=
      match cs with
      | '^' :: cs => (true, cs)
      | cs => (false, cs)
    match cs.dropWhile (· ≠ ':') with
    | ':' :: ']' :: rest =>
      if classNames.contains (String.ofList (cs.takeWhile (· ≠ ':'))) then some (complement, rest)
      else none
    | _ => none
  | _ => none

/-- The text behind the opening bracket of a class and the sign of a complement, if the class may
be one. -/
def classStart? (m : Modes) (cs : List Char) : Option (List Char) :=
  match m.skip cs with
  | '^' :: rest => if m.unicode then some rest else none
  | rest => some rest

/-- A member of a class, or a range of members. -/
def member? (m : Modes) (cs : List Char) : Option (List Char) := do
  let (a, rest) ← atom? m cs
  let single := if a.isMember m then some rest else none
  match m.skip rest with
  | '-' :: tail =>
    if m.afterDash? tail = some ']' ∨ m.afterDash? tail = some '-' then single
    else
      let (b, rest) ← atom? m (m.skip tail)
      if a.isRange m b then some rest else none
  | _ => single

/-- The depth of operands joined by operators, `left` being what stands in front of the last. -/
def joined (left : Option Nat) (depth : Nat) : Nat :=
  match left with
  | none => depth
  | some l => max l depth + 1

/-- Reads a class up to its closing bracket: its depth and the text behind. `left` is the depth of
the operands so far, `members` counts those of the current one, and `fresh` says that none but
dashes have been read, so that a dash, or a bracket instead of it, is a member. -/
def classFrom (m : Modes) (fuel : Nat) (fresh : Bool) (left : Option Nat) (members : Tally)
    (cs : List Char) : Option (Nat × List Char) :=
  match fuel with
  | 0 => none
  | fuel + 1 =>
    match m.skip cs with
    | [] => none
    | c :: rest =>
      if fresh && (c = '-' || (c = ']' && members.count = 0)) then
        if m.matchesCharacter then classFrom m fuel (c = '-') left (members.add 0) rest else none
      else if c = ']' then some (joined left members.depth, rest)
      else if c = '[' then
        match namedClass? rest with
        | some (complement, rest) =>
          if m.matchesCharacter && (m.unicode || !complement) then
            classFrom m fuel false left (members.add 0) rest
          else none
        | none => do
          let inner ← classStart? m rest
          let (depth, rest) ← classFrom m fuel true none {} inner
          classFrom m fuel false left (members.add (depth + 1)) rest
      else if (c = '&' || c = '-' || c = '~') && rest.head? = some c then
        classFrom m fuel false (some (joined left members.depth)) {} (rest.drop 1)
      else do
        let rest ← member? m (c :: rest)
        classFrom m fuel false left (members.add 0) rest

/-- A class behind its opening bracket: its depth and the text behind its closing bracket. -/
def class? (m : Modes) (cs : List Char) : Option (Nat × List Char) := do
  let inner ← classStart? m cs
  let (depth, rest) ← classFrom m (inner.length + 1) true none {} inner
  some (depth + 1, rest)

/-! ## Groups and sequences -/

structure Cursor where
  rest : List Char
  modes : Modes := {}
  /-- The names of the groups in front. -/
  names : List (List Char) := []
  deriving DecidableEq, Repr

def isGroupName : List Char → Bool
  | [] => false
  | c :: cs =>
    (c = '_' || isAlphabetic c)
      && cs.all fun c => c = '_' || c = '.' || c = '[' || c = ']' || isAlphanumeric c

/-- What an opening parenthesis begins. -/
inductive Opening where
  | group
  /-- No group, but a switch of modes up to the end of the group around it. -/
  | switch
  deriving DecidableEq, Repr

/-- A group whose name is next, up to the end of the name. -/
def namedGroup? (c : Cursor) (cs : List Char) : Option (Opening × Cursor) :=
  let name := cs.takeWhile (· ≠ '>')
  match cs.drop name.length with
  | [] => none
  | _ :: rest =>
    if isGroupName name && !c.names.contains name then
      some (.group, { c with rest, names := name :: c.names })
    else none

/-- What an opening parenthesis begins, `cs` standing behind it, and the place where that
begins. -/
def opening? (c : Cursor) (cs : List Char) : Option (Opening × Cursor) :=
  match c.modes.skip cs with
  | '?' :: 'P' :: '<' :: rest => namedGroup? c rest
  | '?' :: '<' :: rest => namedGroup? c rest
  | '?' :: rest =>
    let letters := rest.takeWhile fun c => c ≠ ':' && c ≠ ')'
    let modes := c.modes.switch letters
    if !Modes.areSwitches letters then none
    else
      match rest.drop letters.length with
      | ':' :: rest => some (.group, { c with rest, modes })
      | ')' :: rest => if letters = [] then none else some (.switch, { c with rest, modes })
      | _ => none
  | rest => some (.group, { c with rest })

/-- Reads a pattern up to its end or to the end of the group around it: its depth and the place
there. `branches` are the alternatives in front of the current one, `parts` are the parts of that,
and `last` is the depth of the last part if it can be repeated. -/
def patternFrom (fuel : Nat) (branches parts : Tally) (last : Option Nat) (c : Cursor) :
    Option (Nat × Cursor) :=
  match fuel with
  | 0 => none
  | fuel + 1 =>
    let leaf (rest : List Char) : Option (Nat × Cursor) :=
      patternFrom fuel branches (parts.add 0) (some 0) { c with rest }
    match c.modes.skip c.rest with
    | [] => some ((branches.add parts.depth).depth, { c with rest := [] })
    | ')' :: rest => some ((branches.add parts.depth).depth, { c with rest := ')' :: rest })
    | '|' :: rest => patternFrom fuel (branches.add parts.depth) {} none { c with rest }
    | '(' :: rest => do
      match ← opening? c rest with
      | (.switch, c) => patternFrom fuel branches (parts.add 0) none c
      | (.group, inner) =>
        let (depth, after) ← patternFrom fuel {} {} none inner
        match after.rest with
        | ')' :: rest =>
          patternFrom fuel branches (parts.add (depth + 1)) (some (depth + 1))
            { after with rest, modes := c.modes }
        | _ => none
    | '[' :: rest => do
      let (depth, rest) ← class? c.modes rest
      patternFrom fuel branches (parts.add depth) (some depth) { c with rest }
    | '{' :: _ => none
    | '.' :: rest => if c.modes.unicode then leaf rest else none
    | '^' :: rest => leaf rest
    | '$' :: rest => leaf rest
    | next :: rest =>
      if next = '*' ∨ next = '+' ∨ next = '?' then do
        let depth ← last
        let rest := if rest.head? = some '?' then rest.drop 1 else rest
        patternFrom fuel branches (parts.deepen (depth + 1)) (some (depth + 1)) { c with rest }
      else do
        let (a, rest) ← atom? c.modes (next :: rest)
        if a.isAllowed c.modes then leaf rest else none

end Pattern

def isPattern (cs : List Char) : Bool :=
  match Pattern.patternFrom (cs.length + 1) {} {} none { rest := cs } with
  | some (depth, after) => after.rest = [] && depth ≤ Pattern.maxDepth
  | none => false

end ScriptHost.Text
