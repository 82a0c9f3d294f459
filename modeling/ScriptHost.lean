import ScriptHost.Main
import ScriptHost.Proofs.CanonicalBase
import ScriptHost.Proofs.ConfigRoundTrip
import ScriptHost.Proofs.Containment
import ScriptHost.Proofs.CycleTrace
import ScriptHost.Proofs.Delivery
import ScriptHost.Proofs.FailureLog
import ScriptHost.Proofs.HostSteps
import ScriptHost.Proofs.Interchange
import ScriptHost.Proofs.LogAccount
import ScriptHost.Proofs.Masking
import ScriptHost.Proofs.Ownership
import ScriptHost.Proofs.Spelling
import ScriptHost.Proofs.ValidationReport
import ScriptHost.Proofs.WorkingDirectory
import ScriptHost.Proofs.FileSearch
import ScriptHost.Proofs.ReleaseLog
import ScriptHost.Proofs.VariableOrder
import ScriptHost.Proofs.CountTexts
import ScriptHost.Proofs.CycleCounts
import ScriptHost.Proofs.ForeignTexts
import ScriptHost.Proofs.SilencedVariable
import ScriptHost.Proofs.Diagnostics
import ScriptHost.Proofs.PlainTexts
