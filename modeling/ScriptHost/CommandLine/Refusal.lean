import ScriptHost.CommandLine.Help

/-!
# Why a command line is not carried out

Either the user asked for a page of help or for the version, or an argument is wrong. Arguments are
quoted in reports without the controls of a terminal; a sequence that an argument leaves open ends
with it.
-/

namespace ScriptHost

inductive Refusal where
  | help (long : Bool) (scope : Scope) (configVar : String)
  | helpOfHelp
  | version
  | unknownArgument (arg : String)
  | unknownCommand (name : String)
  /-- An option is given twice on one level. -/
  | repeated (o : OptionName)
  | missingValue (o : OptionName)
  | unknownFormat (value : String)
  | invalidCount (value : String) (fault : Text.IntFault)
  | countOutOfRange (value : String) (n : Int)
  | notText
  /-- A value for an option that takes none. -/
  | unexpectedValue (long value : String)
  deriving DecidableEq, Repr

namespace Refusal

/-- The values that the report of an unusable format adds. -/
def formatValues : String :=
  "\n  [possible values: " ++ ", ".intercalate (Help.formats.map fun f => f.1.name) ++ "]"

def quoted (arg : String) : String := "'" ++ Text.plain arg ++ "'"

def invalid (o : OptionName) (value : String) : String :=
  "error: invalid value " ++ quoted value ++ " for '" ++ o.usage ++ "'"

/-- The report: a page, or what is wrong. -/
def message (r : Refusal) : String :=
  match r with
  | .help long scope configVar => Help.page long scope configVar
  | .helpOfHelp => Help.helpPage
  | .version => Help.versionLine
  | .unknownArgument arg => "error: unexpected argument " ++ quoted arg ++ " found"
  | .unknownCommand name => "error: unrecognized subcommand " ++ quoted name
  | .repeated o => "error: the argument '" ++ o.usage ++ "' cannot be used multiple times"
  | .missingValue o =>
    "error: a value is required for '" ++ o.usage ++ "' but none was supplied"
      ++ (if o = .logFormat then formatValues else "")
  | .unknownFormat value => invalid .logFormat value ++ formatValues
  | .invalidCount value fault => invalid .cycles value ++ ": " ++ fault.message
  | .countOutOfRange value n =>
    invalid .cycles value ++ ": " ++ toString n ++ " is not in 0..=4294967295"
  | .notText => "error: invalid UTF-8 was detected in one or more arguments"
  | .unexpectedValue long value =>
    "error: unexpected value " ++ quoted value ++ " for '--" ++ long
      ++ "' found; no more were expected"

def isAnswer : Refusal → Bool
  | .help _ _ _ | .helpOfHelp | .version => true
  | _ => false

def exitStatus (r : Refusal) : Nat := if r.isAnswer then 0 else 2

end Refusal

end ScriptHost
