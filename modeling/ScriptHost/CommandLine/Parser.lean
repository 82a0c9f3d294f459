import ScriptHost.CommandLine.Refusal

/-!
# Reading a command line

Arguments are read from left to right, level by level. An option takes the rest of its argument as
its value, or else the next argument unless that looks like an option too. A value is judged only
when it is settled, that is when the next option turns up or the level ends; until then the option
is pending. An argument that cannot be placed is reported before the pending one is judged.

The level behind a command's name is settled before the one in front of it. Of a global option
given on both, the value behind the command counts.
-/

namespace ScriptHost

/-- The values of the options of one level. -/
structure Values where
  options : GlobalOptions := {}
  entry : Option Path := none
  cycles : Option UInt32 := none

namespace Values

def has (v : Values) : OptionName → Bool
  | .entry => v.entry.isSome
  | .cycles => v.cycles.isSome
  | .config => v.options.config.isSome
  | .baseDir => v.options.baseDir.isSome
  | .library => v.options.library.isSome
  | .logLevel => v.options.logLevel.isSome
  | .logFormat => v.options.logFormat.isSome

end Values

namespace CommandLine

def readText (value : Bytes) : Except Refusal String :=
  match Utf8.text? value with
  | some s => .ok s
  | none => .error .notText

def readPath (o : OptionName) (value : Bytes) : Except Refusal Path :=
  if value = [] then .error (.missingValue o) else .ok ⟨value⟩

/-- A count. Any 64-bit number is one at first sight; then it has to fit in 32 bits. -/
def readCount (value : Bytes) : Except Refusal UInt32 := do
  let s ← readText value
  match Text.parseInt64 s.toList with
  | .error fault => .error (.invalidCount s fault)
  | .ok n =>
    if 0 ≤ n ∧ n < UInt32.size then .ok (UInt32.ofNat n.toNat) else .error (.countOutOfRange s n)

def readFormat (value : Bytes) : Except Refusal LogFormat :=
  let s := Utf8.lossy value
  match LogFormat.ofName? s with
  | some f => .ok f
  | none => .error (if value = [] then .missingValue .logFormat else .unknownFormat s)

def assign (v : Values) (o : OptionName) (value : Bytes) : Except Refusal Values :=
  if v.has o then .error (.repeated o)
  else
    let options := v.options
    match o with
    | .entry => (readPath o value).map fun p => { v with entry := some p }
    | .cycles => (readCount value).map fun n => { v with cycles := some n }
    | .config =>
      (readText value).map fun s => { v with options := { options with config := some s } }
    | .baseDir =>
      (readPath o value).map fun p => { v with options := { options with baseDir := some p } }
    | .library =>
      (readPath o value).map fun p => { v with options := { options with library := some p } }
    | .logLevel =>
      (readText value).map fun s => { v with options := { options with logLevel := some s } }
    | .logFormat =>
      (readFormat value).map fun f => { v with options := { options with logFormat := some f } }

structure Reading where
  values : Values := {}
  /-- The last option, if it is not settled, with its value once there is one. -/
  pending : Option (OptionName × Option Bytes) := none

namespace Reading

/-- Whether the next argument is the value of an option. -/
def expectsValue (r : Reading) : Bool :=
  match r.pending with
  | some (_, none) => true
  | _ => false

def settle (r : Reading) : Except Refusal Values :=
  match r.pending with
  | none => .ok r.values
  | some (o, none) => .error (.missingValue o)
  | some (o, some value) => assign r.values o value

/-- Takes up an option, with its value if it is part of the argument. -/
def takeUp (r : Reading) (o : OptionName) (value : Option Bytes) : Except Refusal Reading := do
  let values ← r.settle
  match value with
  | none => .ok { values, pending := some (o, none) }
  | some value => (assign values o value).map fun values => { values }

end Reading

def dash : UInt8 := 0x2D

def equalsSign : UInt8 := 0x3D

/-- An argument as what it looks like. -/
inductive Shape where
  /-- Two dashes: the end of the options. -/
  | separator
  | long (name : Bytes) (value : Option Bytes)
  | short (first : UInt8) (rest : Bytes)
  | plain

def shapeOf (arg : Bytes) : Shape :=
  match arg with
  | a :: b :: rest =>
    if a = dash then
      if b = dash then
        if rest = [] then .separator
        else
          .long (rest.takeWhile (· ≠ equalsSign))
            (match rest.dropWhile (· ≠ equalsSign) with
              | [] => none
              | _ :: value => some value)
      else .short b rest
    else .plain
  | _ => .plain

/-- What the user asks for without a value. -/
inductive Flag where
  | help
  | version
  deriving DecidableEq, Repr

/-- The page or line that answers a flag. -/
def answer (scope : Scope) (configVar : String) (long : Bool) : Flag → Refusal
  | .help => .help long scope configVar
  | .version => .version

def longFlag? (scope : Scope) (name : String) : Option Flag :=
  if name = "help" then some .help
  else if name = "version" ∧ scope = .top then some .version
  else none

def shortFlag? (scope : Scope) (c : Char) : Option Flag :=
  if c = 'h' then some .help
  else if c = 'V' ∧ scope = .top then some .version
  else none

/-- Reads an argument that begins with two dashes. -/
def readLong (scope : Scope) (configVar : String) (r : Reading) (name : Bytes)
    (value : Option Bytes) : Except Refusal Reading :=
  let unknown : Refusal := .unknownArgument ("--" ++ Utf8.lossy name)
  match Utf8.text? name with
  | none => .error unknown
  | some s =>
    match scope.options.find? fun o => o.long = s with
    | some o => r.takeUp o value
    | none =>
      match longFlag? scope s, value with
      | some _, some value => .error (.unexpectedValue s (Utf8.lossy value))
      | some flag, none => do
        let _ ← r.settle
        .error (answer scope configVar true flag)
      | none, _ => .error unknown

/-- Reads an argument that begins with a single dash. -/
def readShort (scope : Scope) (configVar : String) (r : Reading) (first : UInt8) (rest : Bytes) :
    Except Refusal Reading :=
  match Utf8.front first rest with
  | .char c width =>
    match scope.options.find? fun o => o.short? = some c with
    | some o =>
      r.takeUp o
        (match rest.drop (width - 1) with
          | [] => none
          | b :: value => some (if b = equalsSign then value else b :: value))
    | none =>
      match shortFlag? scope c with
      | some flag => do
        let _ ← r.settle
        .error (answer scope configVar false flag)
      | none => .error (.unknownArgument ("-" ++ String.singleton c))
  | _ => .error (.unknownArgument ("-" ++ Utf8.lossy (first :: rest)))

def misplaced (scope : Scope) (behindSeparator : Bool) (arg : Bytes) : Refusal :=
  let isCommand := (CommandName.ofBytes? arg).isSome || arg = bytesOf helpName
  if scope = .top ∧ ¬(behindSeparator ∧ isCommand) then .unknownCommand (Utf8.lossy arg)
  else .unknownArgument (Utf8.lossy arg)

/-- The page that `names` ask for. -/
def pageFor (configVar : String) : List Bytes → Refusal
  | [] => .help true .top configVar
  | name :: more =>
    match CommandName.ofBytes? name, more with
    | some n, [] => .help true (.command n) configVar
    | some _, next :: _ => .unknownCommand (Utf8.lossy next)
    | none, more =>
      if name = bytesOf helpName then
        match more with
        | [] => .helpOfHelp
        | next :: _ => .unknownCommand (Utf8.lossy next)
      else .unknownCommand (Utf8.lossy name)

/-- Reads the arguments of a level, up to its end or to the name of a command, of which the rest of
the arguments is given back too. -/
def readLevel (scope : Scope) (configVar : String) (r : Reading) :
    List Bytes → Except Refusal (Reading × Option (CommandName × List Bytes))
  | [] => .ok (r, none)
  | arg :: args =>
    if scope = .top ∧ !r.expectsValue ∧ arg = bytesOf helpName then
      .error (pageFor configVar args)
    else
      match if scope = .top ∧ !r.expectsValue then CommandName.ofBytes? arg else none with
      | some name => .ok (r, some (name, args))
      | none =>
        match shapeOf arg with
        | .separator =>
          match args with
          | [] => .ok (r, none)
          | next :: _ => .error (misplaced scope true next)
        | .long name value => do
          let r ← readLong scope configVar r name value
          readLevel scope configVar r args
        | .short first rest => do
          let r ← readShort scope configVar r first rest
          readLevel scope configVar r args
        | .plain =>
          match r.pending with
          | some (o, none) =>
            readLevel scope configVar { r with pending := some (o, some arg) } args
          | _ => .error (misplaced scope false arg)

/-- The value of the variable for the configuration file, where the option is not given. It has to
be text. -/
def fallback (configVar : Option Bytes) (given : Option String) :
    Except Refusal (Option String) :=
  match given, configVar with
  | some _, _ | none, none => .ok none
  | none, some value => (readText value).map some

/-- The command line that arguments spell, `configVar` being the value of the variable for the
configuration file. -/
def parse (configVar : Option Bytes) (args : List Bytes) : Except Refusal CommandLine := do
  let shown := Utf8.lossy (configVar.getD [])
  let (top, command) ← readLevel .top shown {} args
  match command with
  | none =>
    let v ← top.settle
    let config ← fallback configVar v.options.config
    .ok { options := { v.options with config := v.options.config.or config } }
  | some (name, args) =>
    let (inner, _) ← readLevel (.command name) shown {} args
    let v ← inner.settle
    let _ ← fallback configVar v.options.config
    let outer ← top.settle
    let config ← fallback configVar outer.options.config
    let i := v.options
    let o := outer.options
    .ok
      { command := some
          (match name with
            | .run => .run v.entry v.cycles
            | .probe => .probe
            | .config => .config)
        options :=
          { config := (i.config.or o.config).or config
            baseDir := i.baseDir.or o.baseDir
            library := i.library.or o.library
            logLevel := i.logLevel.or o.logLevel
            logFormat := i.logFormat.or o.logFormat } }

end CommandLine

end ScriptHost
