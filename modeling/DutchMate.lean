import DutchMate.AdmissionOutcomes
import DutchMate.AdmissionRace
import DutchMate.Arbitration
import DutchMate.Base64
import DutchMate.BasicSource
import DutchMate.BoundedWait
import DutchMate.Budget
import DutchMate.Bytes
import DutchMate.CallSteps
import DutchMate.Checked
import DutchMate.Circular
import DutchMate.CodingContext
import DutchMate.CommandBuffers
import DutchMate.CommandDecode
import DutchMate.CommandExecutor
import DutchMate.CommandGrammar
import DutchMate.CommandIngress
import DutchMate.CommandResponse
import DutchMate.CommandRoundTrip
import DutchMate.CommandSafety
import DutchMate.CommandWire
import DutchMate.Comparison
import DutchMate.ContextLines
import DutchMate.ControlState
import DutchMate.DeviceMessage
import DutchMate.DeviceStream
import DutchMate.Diagnostics
import DutchMate.Dict
import DutchMate.DiffHunks
import DutchMate.EnhancedAdapter
import DutchMate.EnhancedHost
import DutchMate.EventSource
import DutchMate.EvidenceOrder
import DutchMate.EvidencePackage
import DutchMate.EvidenceRecord
import DutchMate.EvidenceRecorder
import DutchMate.Faults
import DutchMate.FlatJson
import DutchMate.FrameWriter
import DutchMate.GpioAgreement
import DutchMate.GpioHistory
import DutchMate.GpioRegistry
import DutchMate.Handover
import DutchMate.HardwareExcerpts
import DutchMate.HardwareOutcomes
import DutchMate.HardwareSelection
import DutchMate.IngestLoop
import DutchMate.Journal
import DutchMate.JournalRun
import DutchMate.Json
import DutchMate.Keyset
import DutchMate.LineBuffer
import DutchMate.LineTiling
import DutchMate.LockedThreads
import DutchMate.LogReplay
import DutchMate.LossWindows
import DutchMate.Monitor
import DutchMate.MonitorReference
import DutchMate.MonitorRun
import DutchMate.Newest
import DutchMate.OutputPins
import DutchMate.PatternEvidence
import DutchMate.PatternScan
import DutchMate.Patterns
import DutchMate.Preflights
import DutchMate.PythonJson
import DutchMate.RecentLines
import DutchMate.RecordedEvents
import DutchMate.RecordedLoss
import DutchMate.RecordedPatterns
import DutchMate.RecordedUart
import DutchMate.RecorderEffects
import DutchMate.RecorderOwnership
import DutchMate.RecorderRuns
import DutchMate.RecorderSteps
import DutchMate.RelatedRuns
import DutchMate.ReleaseProtocol
import DutchMate.Retention
import DutchMate.RolloverSteps
import DutchMate.RuntimeLocks
import DutchMate.RxFifo
import DutchMate.RxRing
import DutchMate.RxRingRun
import DutchMate.SessionHistory
import DutchMate.SessionMetadata
import DutchMate.SessionPages
import DutchMate.SessionStore
import DutchMate.SessionWalk
import DutchMate.ShutdownDrain
import DutchMate.SplitLines
import DutchMate.StoreOperations
import DutchMate.StoreSteps
import DutchMate.StoredLines
import DutchMate.StreamLines
import DutchMate.StreamParser
import DutchMate.Throwing
import DutchMate.TransactionCrash
import DutchMate.TransactionRecovery
import DutchMate.Transactions
import DutchMate.Transmission
import DutchMate.TxStates
import DutchMate.UartCapture
import DutchMate.UartExcerpts
import DutchMate.UartSelection
import DutchMate.UartStream
import DutchMate.Utf8
import DutchMate.Utf8Text
