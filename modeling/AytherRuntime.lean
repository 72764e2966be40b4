import AytherRuntime.Audio.Agreement
import AytherRuntime.Audio.Streamed
import AytherRuntime.Campaign.OrderFree
import AytherRuntime.Channel.Delivery
import AytherRuntime.Channel.Header
import AytherRuntime.Channel.Pcm
import AytherRuntime.Channel.PcmDelivery
import AytherRuntime.Channel.Pump
import AytherRuntime.Channel.Terminal
import AytherRuntime.Check.Columns
import AytherRuntime.Check.ConditionsId
import AytherRuntime.Check.EffectiveValues
import AytherRuntime.Check.Execution
import AytherRuntime.Check.Known
import AytherRuntime.Check.Priorities
import AytherRuntime.Check.Tolerance
import AytherRuntime.Coverage.Inventory
import AytherRuntime.Coverage.Report
import AytherRuntime.Derivation.Wav
import AytherRuntime.Destination.Documents
import AytherRuntime.Destination.History
import AytherRuntime.Destination.Lifetime
import AytherRuntime.Destination.Occupied
import AytherRuntime.Destination.Reopening
import AytherRuntime.Destination.Supervisors
import AytherRuntime.Diagnostic.Aggregators
import AytherRuntime.Fact.Audited
import AytherRuntime.Fact.Batch
import AytherRuntime.Fact.Persisted
import AytherRuntime.Fact.Streamed
import AytherRuntime.Inspection.AudioSegments
import AytherRuntime.Inspection.Evidence
import AytherRuntime.Inspection.Fallback
import AytherRuntime.Inspection.Honest
import AytherRuntime.Inspection.Inferred
import AytherRuntime.Inspection.LinearLoop
import AytherRuntime.Inspection.LiveRecorder
import AytherRuntime.Inspection.NaturalEnd
import AytherRuntime.Inspection.Rebuilt
import AytherRuntime.Inspection.Agreement
import AytherRuntime.Inspection.Recorder
import AytherRuntime.Inspection.Reports
import AytherRuntime.Inspection.Ring
import AytherRuntime.Inspection.Traversal
import AytherRuntime.Launcher.Model
import AytherRuntime.Launcher.Options
import AytherRuntime.Launcher.Start
import AytherRuntime.Library.Breadth
import AytherRuntime.Library.Envelope
import AytherRuntime.Library.Limiter
import AytherRuntime.Library.Ranges
import AytherRuntime.Library.Riff
import AytherRuntime.Library.Sha256
import AytherRuntime.Library.Splitting
import AytherRuntime.Library.Terminated
import AytherRuntime.Mix.Coexistence
import AytherRuntime.Mix.Model
import AytherRuntime.Mix.TraceQuery
import AytherRuntime.Music.PcmBackend
import AytherRuntime.Music.StateBundle
import AytherRuntime.Observation.Delivery
import AytherRuntime.Player.Config
import AytherRuntime.Probe.Accepted
import AytherRuntime.Probe.Carried
import AytherRuntime.Probe.Flattened
import AytherRuntime.Probe.Grammar
import AytherRuntime.Probe.Tokens
import AytherRuntime.Recording.FmRegisters
import AytherRuntime.Replay.Effects
import AytherRuntime.Storage.CheckpointThreshold
import AytherRuntime.Storage.ContentHash
import AytherRuntime.Storage.EvidenceDocuments
import AytherRuntime.Storage.ExclusiveFile
import AytherRuntime.Storage.FactFragmentStore
import AytherRuntime.Storage.Kept
import AytherRuntime.Storage.PcmBlockStore
import AytherRuntime.Storage.RunRecovery
import AytherRuntime.Storage.SaveState
import AytherRuntime.Timeline.Played
import AytherRuntime.Timeline.Preflight
import AytherRuntime.Trace.Genuine
import AytherRuntime.Trace.Verdict
import AytherRuntime.Inspection.KeyRouter
import AytherRuntime.Player.GameInput
import AytherRuntime.Channel.Status
import AytherRuntime.Channel.Conversation
import AytherRuntime.Inspection.InputScript
import AytherRuntime.Inspection.ScriptParser
import AytherRuntime.Player.RuntimeOptions
import AytherRuntime.Check.ReplayArguments
import AytherRuntime.Replay.Watchdog
import AytherRuntime.Player.InputMap
import AytherRuntime.Mix.QueryIndex
import AytherRuntime.Fact.TextForm
import AytherRuntime.Check.Options
