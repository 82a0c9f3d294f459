import ScriptHost.Config.Basic

/-!
# Which configurations are valid

A host runs at least one cycle, logs at some level, and keeps its entry script inside the base
directory: the script's path is relative and never steps to a parent. Each field breaks at most one
rule, the first that applies, and all broken rules are reported together. The parts of such a report
come out of a hash table, in an order that can be another one each time; the order of the field
names stands for all of them here.
-/

namespace ScriptHost

/-- The rules for an entry script that a path can break. -/
inductive EntryFault where
  | empty
  | notRelative
  | escapes
  deriving DecidableEq, Repr

def EntryFault.code : EntryFault → String
  | .empty => "empty_entry_script"
  | .notRelative => "entry_script_not_relative"
  | .escapes => "entry_script_escapes_base_dir"

/-- The first rule for entry scripts that a path breaks. -/
def Path.entryFault? (p : Path) : Option EntryFault :=
  if p.bytes = [] then some .empty
  else if p.isAbsolute then some .notRelative
  else if Component.parent ∈ p.components then some .escapes
  else none

inductive ConfigFault where
  | emptyLevel
  | entryScript (fault : EntryFault)
  | noCycle
  deriving DecidableEq, Repr

/-- The field and the rule that it breaks. -/
def ConfigFault.message : ConfigFault → String
  | .emptyLevel => "logging.level: length"
  | .entryScript fault => "runtime.entry_script: " ++ fault.code
  | .noCycle => "runtime.repeat: range"

namespace HostConfig

/-- The broken rules, in the order of the field names. It stands for every order in which a report
can have them. -/
def faults (c : HostConfig) : List ConfigFault :=
  (if c.logging.level = "" then [.emptyLevel] else [])
    ++ (c.runtime.entryScript.entryFault?.map .entryScript).toList
    ++ (if c.runtime.cycles = 0 then [.noCycle] else [])

/-- The panic of a report that has to quote a path that is not text. -/
def unquotablePanic : String :=
  "called `Result::unwrap()` on an `Err` value: "
    ++ "Error(\"path contains invalid UTF-8 characters\", line: 0, column: 0)"

def faultReport (fs : List ConfigFault) : HostError :=
  .config ("; ".intercalate (fs.map ConfigFault.message))

/-- Accepts a configuration that breaks no rule. A report quotes the entry script that it is
about, which panics if that is not text. -/
def validate (c : HostConfig) : Except Stop Unit :=
  if c.runtime.entryScript.entryFault?.isSome ∧ c.runtime.entryScript.text? = none then
    .error (.panic unquotablePanic)
  else
    match c.faults with
    | [] => .ok ()
    | fs => .error (.failure (faultReport fs))

end HostConfig

end ScriptHost
