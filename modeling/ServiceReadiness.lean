import ServiceReadiness.Main
import ServiceReadiness.Proofs.History
import ServiceReadiness.Proofs.RoundRobin
import ServiceReadiness.Proofs.Release
import ServiceReadiness.Proofs.Cancellation
import ServiceReadiness.Proofs.Lifecycle
import ServiceReadiness.Proofs.Settlement
import ServiceReadiness.Proofs.Termination
import ServiceReadiness.Proofs.TimeBounds
import ServiceReadiness.Proofs.WatchedWait
import ServiceReadiness.Proofs.Chronology
import ServiceReadiness.Proofs.Detachment
import ServiceReadiness.Proofs.LaterDeadline
import ServiceReadiness.Proofs.Quickest
import ServiceReadiness.Proofs.CutShort
import ServiceReadiness.Proofs.PendingTargets
import ServiceReadiness.Proofs.TeardownHistory
import ServiceReadiness.Proofs.AttemptBounds
import ServiceReadiness.Proofs.Numerals
import ServiceReadiness.Proofs.EnvironmentText
import ServiceReadiness.Proofs.SettingsTable
import ServiceReadiness.Proofs.SpelledArguments
import ServiceReadiness.Proofs.SpelledWaits
import ServiceReadiness.Proofs.RequestedWaits
import ServiceReadiness.Proofs.StatusGrammar
import ServiceReadiness.Proofs.DroppedEvaluations
import ServiceReadiness.Proofs.ReportLine
import ServiceReadiness.Proofs.TeardownIsolation
import ServiceReadiness.Proofs.CommandEffects
import ServiceReadiness.Proofs.ShadowedAddress
import ServiceReadiness.Proofs.StopGrace
import ServiceReadiness.Proofs.WrittenProbes
import ServiceReadiness.Proofs.ReplyGrammar
import ServiceReadiness.Proofs.SingleShots
import ServiceReadiness.Proofs.WrittenRanges
import ServiceReadiness.Proofs.ReportEncoding
import ServiceReadiness.Proofs.DefiniteAnswers
