import ScriptHost.CommandLine.Options
import ScriptHost.Text.Plain

/-!
# Help pages

The page of a level says what it is for, how it is used and which options it takes. The short page
has one line per option, the long one a paragraph. The option that names the configuration file
shows the value of its environment variable, further lines of it indented like the text around it.
Terminal controls in that value are left out, and with a sequence that it leaves open what stands
between it and the next option, whose names are shown in a style of their own.
-/

namespace ScriptHost.Help

def programName : String := "nshost"

def version : String := "0.1.0"

def programAbout : String := "nshost - Host for an embedded native scripting runtime"

def helpCommandAbout : String := "Print this message or the help of the given subcommand(s)"

/-- The values of the log format with their meaning. -/
def formats : List (LogFormat × String) :=
  [(.pretty, "Human-readable lines"), (.json, "One JSON object per line")]

def blanks (n : Nat) : String := String.ofList (List.replicate n ' ')

/-- A text, filled up with blanks. -/
def padded (width : Nat) (s : String) : String := s ++ blanks (width - s.length)

def indented (n : Nat) (s : String) : String :=
  String.ofList (s.toList.flatMap fun c => if c = '\n' then c :: List.replicate n ' ' else [c])

/-- An option as a page lists it. -/
structure Item where
  /-- How the option is given. -/
  names : String
  /-- The description of the option on the short page. -/
  brief : String
  /-- The lines of the description on the long page, without indentation. -/
  full : List String

def itemColumn : Nat := 2

/-- The column at which descriptions start on the short page. -/
def briefColumn : Nat := 33

/-- The column at which descriptions start on the long page. -/
def fullColumn : Nat := 10

/-- An option with the value of its environment variable. -/
def optionItem (configVar : String) (o : OptionName) : Item :=
  let names :=
    match o.short? with
    | some c => "-" ++ String.singleton c ++ ", " ++ o.usage
    | none => "    " ++ o.usage
  match o with
  | .config =>
    let note (column : Nat) := "[env: " ++ configVariable ++ "=" ++ indented column configVar ++ "]"
    { names, brief := o.about ++ " " ++ note briefColumn
      full := [o.about, blanks fullColumn, blanks fullColumn ++ note fullColumn] }
  | .logFormat =>
    let values := ", ".intercalate (formats.map fun f => f.1.name)
    { names, brief := o.about ++ " [possible values: " ++ values ++ "]"
      full := [o.about, "", blanks fullColumn ++ "Possible values:"]
        ++ formats.map fun f =>
          blanks fullColumn ++ "- " ++ padded 8 (f.1.name ++ ":") ++ f.2 }
  | _ => { names, brief := o.about, full := [o.about] }

def flagItems (long : Bool) (scope : Scope) : List Item :=
  let about :=
    if long then "Print help (see a summary with '-h')" else "Print help (see more with '--help')"
  ⟨"-h, --help", about, [about]⟩
    :: (if scope = .top then [⟨"-V, --version", "Print version", ["Print version"]⟩] else [])

/-- What a page says about an option, behind its names. -/
def Item.text (long : Bool) (i : Item) : String :=
  if long then "\n" ++ blanks fullColumn ++ "\n".intercalate i.full ++ "\n"
  else blanks (briefColumn - itemColumn - i.names.length) ++ i.brief ++ "\n"

/-- Options one below the other, the first of them already indented. -/
def listing (long : Bool) : List Item → String
  | [] => ""
  | [i] => i.names ++ Text.plain (i.text long)
  | i :: rest =>
    i.names ++ Text.plain (i.text long ++ (if long then "\n" else "") ++ blanks itemColumn)
      ++ listing long rest

/-- The page of a level, `configVar` being the value of the variable for the configuration file. -/
def page (long : Bool) (scope : Scope) (configVar : String) : String :=
  let items := scope.options.map (optionItem configVar) ++ flagItems long scope
  let head :=
    match scope with
    | .top =>
      programAbout ++ "\n\nUsage: " ++ programName ++ " [OPTIONS] [COMMAND]\n\nCommands:\n"
        ++ String.join ((CommandName.all.map fun n => (n.text, n.about))
            ++ [(helpName, helpCommandAbout)] |>.map fun c =>
              "  " ++ padded 8 c.1 ++ c.2 ++ "\n")
    | .command n => n.about ++ "\n\nUsage: " ++ programName ++ " " ++ n.text ++ " [OPTIONS]\n"
  head ++ "\nOptions:\n" ++ blanks itemColumn ++ listing long items

def helpPage : String :=
  helpCommandAbout ++ "\n\nUsage: " ++ programName ++ " " ++ helpName
    ++ " [COMMAND]...\n\nArguments:\n  [COMMAND]...  Print help for the subcommand(s)\n"

def versionLine : String := programName ++ " " ++ version ++ "\n"

end ScriptHost.Help
