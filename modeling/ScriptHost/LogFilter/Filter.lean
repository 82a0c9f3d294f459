import ScriptHost.LogFilter.Directive
import ScriptHost.Config.Basic
import ScriptHost.System

/-!
# Log filters

A filter is a list of directives, the most specific first. An event is let through by the first
directive that applies to it, or by one that applies to the span it happens in. A filter is read
from the environment or else from the configuration, and if neither spells one there is a filter
to fall back on.
-/

namespace ScriptHost

/-- The directives that apply whatever the span, and those that depend on it, both with the most
specific first and without two of the same scope. -/
structure LogFilter where
  statics : List LogFilter.Directive
  dynamics : List LogFilter.Directive
  deriving DecidableEq, Repr

namespace LogFilter

/-- Adds a directive in front of the less specific ones, in place of one with the same scope. -/
def insert (d : Directive) : List Directive → List Directive
  | [] => [d]
  | e :: es =>
    match Directive.compare d e with
    | .gt => d :: e :: es
    | .eq => d :: es
    | .lt => e :: insert d es

/-- The filter of directives, a later one in place of an earlier one with the same scope. -/
def ofDirectives (ds : List Directive) : LogFilter :=
  let dynamics := ds.filter Directive.isDynamic
  let statics := ds.filter (!Directive.isDynamic ·) ++ dynamics.filter Directive.isStatic
  { statics := statics.foldl (fun l d => insert d l) []
    dynamics := dynamics.foldl (fun l d => insert d l) [] }

def splitCommas : List Char → List (List Char)
  | [] => [[]]
  | c :: cs =>
    if c = ',' then [] :: splitCommas cs
    else
      match splitCommas cs with
      | [] => [[c]]
      | p :: ps => (c :: p) :: ps

/-- The filter that a text spells, if every directive in it is one. -/
def ofText (s : String) : Except Text.Misreading LogFilter :=
  (((splitCommas s.toList).filter (· ≠ [])).mapM Directive.ofText).map ofDirectives

def standard : LogFilter := ofDirectives [{ threshold := some .info }]

/-- The filter that the first well-formed text spells. A text that is cut inside a character ends
the search. -/
def first : List String → Except Text.CutFault LogFilter
  | [] => .ok standard
  | text :: texts =>
    match ofText text with
    | .ok f => .ok f
    | .error .malformed => first texts
    | .error (.cut fault) => .error fault

/-- The environment variable whose filter goes before that of the configuration. -/
def variableName : String := "RUST_LOG"

def build (s : System) (level : String) : Except Text.CutFault LogFilter :=
  first (((s.var? variableName).bind Utf8.text?).toList ++ [level])

def display (f : LogFilter) : String :=
  ",".intercalate ((f.statics ++ f.dynamics).map Directive.display)

/-! ## What a filter lets through -/

def cycleSpan : String := "cycle"

/-- The field of that span which holds the number of the cycle. -/
def cycleField : String := "n"

/-- The part of the program that the span of a cycle belongs to. -/
def cycleTarget : String := "nshost::runtime::host"

/-- Whether a directive is about a part of the program. -/
def Directive.covers (d : Directive) (target : String) : Bool :=
  match d.target with
  | none => true
  | some t => t.toList.isPrefixOf target.toList

/-- The least severe level that a filter lets through anywhere. A test of a field's value leaves
this open. -/
def reach (f : LogFilter) : Nat :=
  if f.dynamics.any fun d => (d.field.bind fun t => t.value).isSome then Level.trace.verbosity
  else (f.statics ++ f.dynamics).foldl (fun n d => max n d.threshold.verbosity) 0

/-- The directives that are about the span of a cycle. -/
def aboutCycle (f : LogFilter) : List Directive :=
  f.dynamics.filter fun d =>
    d.covers cycleTarget && (d.span.isNone || d.span = some cycleSpan)
      && (match d.field with
        | none => true
        | some t => t.name = cycleField)

/-- Whether a filter lets the span of a cycle through, so that what is logged in it shows it. -/
def showsCycle (f : LogFilter) : Bool :=
  Level.info.verbosity ≤ f.reach &&
    (!f.aboutCycle.isEmpty
      || ((f.statics.find? fun d => d.covers cycleTarget).map
            fun d => d.threshold.allows .info).getD false)

/-- The level up to which events are let through because they happen in cycle `n`. -/
def cycleThreshold (f : LogFilter) (n : Nat) : Threshold :=
  let applies (d : Directive) : Bool :=
    match d.field.bind fun t => t.value with
    | none => true
    | some v => v = .unsigned n
  (f.aboutCycle.filter applies).foldl
    (fun t d => if t.verbosity < d.threshold.verbosity then d.threshold else t) none

def fieldNames (e : Event) : List String := "message" :: e.fields.map fun f => f.1

def lets (f : LogFilter) (entry : LogEntry) : Bool :=
  let e := entry.event
  let bySpan :=
    match entry.cycle with
    | none => false
    | some n => f.showsCycle && Threshold.allows (f.cycleThreshold n) e.level
  let applies (d : Directive) : Bool :=
    d.covers e.target && (d.field.map fun t => (fieldNames e).contains t.name).getD true
  e.level.verbosity ≤ f.reach &&
    (bySpan || ((f.statics.find? applies).map fun d => d.threshold.allows e.level).getD false)

end LogFilter

end ScriptHost
