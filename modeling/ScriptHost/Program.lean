import ScriptHost.CommandLine.Parser
import ScriptHost.Commands
import ScriptHost.LogLine

/-!
# The program

From the arguments and the surroundings to what a user sees: the exit status and what is written to
the two output streams. Logging starts when the configuration is known, so that what was logged
until then is not shown; a failure ends with its diagnostic, whether or not it is logged too.

Everything that fails on the way is a failure of the host. A command puts what it was doing in front
of it (`context`), and the failure can still be told apart behind that. The end for errors of any
other kind, with exit status 1 and no code, is never reached and is left out.
-/

namespace ScriptHost

/-- What a run of the program shows, and the calls that the runtime received. -/
structure Outcome where
  exitStatus : Nat
  stdout : String := ""
  /-- The texts written to the error stream, each ending a line. -/
  stderr : List String := []
  calls : List Call := []
  deriving DecidableEq, Repr

namespace Program

/-- Carries out a command; what it writes to the output stream. -/
def perform (cl : CommandLine) (c : HostConfig) : Act String := do
  match cl.effective with
  | .run _ _ =>
    let reports ← executeRun c
    Act.log (.completed reports.length)
    pure ""
  | .probe => executeProbe c
  | .config => Act.ofExcept (showConfig c)

/-- What the program was doing when a command failed. -/
def context : Command → String
  | .run _ _ => "script run aborted: "
  | .probe => "runtime probe failed: "
  | .config => ""

/-- The lines of a log that a filter lets through. -/
def logLines (filter : LogFilter) (format : LogFormat) (logs : List LogEntry) : List String :=
  (logs.filter filter.lets).map (LogLine.render format filter.showsCycle)

def panicStatus : Nat := 101

def abortStatus : Nat := 134

/-- The end of a program that stops before logging has started. What a failure has in front of it
shows in the log only, so the diagnostic is that of the failure itself. -/
def stopped : Stop → Outcome
  | .failure e => { exitStatus := e.exitStatus, stderr := [e.diagnostic] }
  | .panic text => { exitStatus := panicStatus, stderr := [text] }
  | .abort => { exitStatus := abortStatus }

/-- Carries out a command under a configuration, with the log seen through a filter. A failure is
logged with its context, which its stage, its code and its diagnostic do not depend on. -/
def runFiltered (s : System) (cl : CommandLine) (c : HostConfig) (filter : LogFilter) : Outcome :=
  let lines (w : World) : List String := logLines filter c.logging.format w.logs
  match perform cl c (World.start s [] []) with
  | .ok out w => { exitStatus := 0, stdout := out, stderr := lines w, calls := w.calls }
  | .error (.failure e) w =>
    let entry : LogEntry := ⟨none, .failed (context cl.effective) e⟩
    { exitStatus := e.exitStatus
      stderr := lines { w with logs := w.logs ++ [entry] } ++ [e.diagnostic]
      calls := w.calls }
  | .error (.panic text) w =>
    { exitStatus := panicStatus, stderr := lines w ++ [text], calls := w.calls }
  | .error .abort w => { exitStatus := abortStatus, stderr := lines w, calls := w.calls }

/-- Carries out a command line, with logging as the configuration asks for. -/
def runCommand (s : System) (cl : CommandLine) : Outcome :=
  match configure cl (World.start s [] []) with
  | .error stop _ => stopped stop
  | .ok c _ =>
    match LogFilter.build s c.logging.level with
    | .error fault => stopped (.panic fault.message)
    | .ok filter => runFiltered s cl c filter

def run (s : System) (args : List Bytes) : Outcome :=
  match CommandLine.parse (s.var? configVariable) args with
  | .ok cl => runCommand s cl
  | .error refusal =>
    if refusal.isAnswer then { exitStatus := refusal.exitStatus, stdout := refusal.message }
    else { exitStatus := refusal.exitStatus, stderr := [refusal.message] }

end Program

end ScriptHost
