import AytherRuntime.Channel.Header
import AytherRuntime.Check.Columns
import AytherRuntime.Check.Presentation
import AytherRuntime.Storage.CheckpointStore

/-! The terminal of a replay: its result, when it is well formed, and the message that carries it to the
supervisor. -/
namespace AytherRuntime.Channel
open Check (Signed Toml signedValue readUnsigned readDecimal)
open Codec (Bytes)
open Storage (ContentIdentity hex hexBytes tableSize)

section Result

structure ReplayTraceFactId where
  producer : UInt32 := 0
  sequence : UInt64 := 0
  deriving DecidableEq, Repr

structure ReplayTraceSummary where
  observedFactCount : UInt64 := 0
  ingress : ReplayTraceFactId := {}
  candidate : ReplayTraceFactId := {}
  selection : ReplayTraceFactId := {}
  playbackRequest : ReplayTraceFactId := {}
  playbackDecision : ReplayTraceFactId := {}
  playbackEffect : ReplayTraceFactId := {}
  mixSpan : ReplayTraceFactId := {}
  occurrence : UInt64 := 0
  causallyConnected : Bool := false
  lossFree : Bool := false
  deriving DecidableEq, Repr

/-- The report of the presentation with what the window had. -/
structure ReplayPresentation extends Check.ReplayPresentation where
  outputProfile : String := ""
  audioBackend : String := ""
  initialWidth : ℕ := 0
  initialHeight : ℕ := 0
  hdEnabled : Bool := false
  shadersEnabled : Bool := false

/-- The fields that a terminal has since its schema 1.4. -/
structure TerminalFields where
  traversal : Option String := none
  playback : Option String := none
  linearCompleted : Bool := false
  evidenceReasons : List String := []
  endedPaused : Bool := false
  userPauseMs : UInt64 := 0
  interruptions : UInt32 := 0
  deriving DecidableEq, Repr

structure ReplayExecutionResult extends TerminalFields where
  runId : String
  takeId : String
  recordingFrames : UInt32
  inputsConsumed : UInt32
  assignmentCount : UInt64
  initialGameState : ContentIdentity
  finalGameState : ContentIdentity
  trace : ReplayTraceSummary
  succeeded : Bool
  code : String
  presentation : ReplayPresentation

inductive ReplayExecutionResultError
  | invalidModel | headerRejected | wrongMessageType | sequenceMismatch | lengthMismatch | invalidPayload
  deriving DecidableEq, Repr

end Result

section WellFormed

def maxIdentityBytes : ℕ := 256
def maxReferenceValueBytes : ℕ := 4096
def maxReferenceMaterials : ℕ := 4096
def maxRecordingFrames : ℕ := 54000
def maxRecordingStateBytes : ℕ := 64 * 1024 * 1024
def maxReplayTraceFacts : ℕ := 10000000
def maxTerminalEvidenceReasons : ℕ := 64

/-- `identifier` -/
def identifier (value : String) : Bool := value ≠ "" && value.utf8ByteSize ≤ maxIdentityBytes

def validTraceId (id : ReplayTraceFactId) : Bool :=
  id.producer ≠ 0 && id.sequence ≠ 0 && id.sequence.toNat ≤ 2 ^ 63 - 1

def oneOf (value : Option String) (accepted : List String) : Bool := value.all accepted.contains

def terminalFieldsWellFormed (result : ReplayExecutionResult) : Bool :=
  oneOf result.traversal ["linear","inspection","post_end_inspection"] &&
    oneOf result.playback ["natural_end","cancelled","failed","interrupted"] &&
    result.traversal.isSome = result.playback.isSome &&
    result.evidenceReasons.length ≤ maxTerminalEvidenceReasons && result.evidenceReasons.all identifier &&
    (!result.linearCompleted || (result.traversal = some "linear" && result.playback = some "natural_end" &&
      result.inputsConsumed = result.recordingFrames))

/-- Only a linear traversal, or a terminal that does not say, presents every consumed frame in playback. -/
def presentsEveryFrame (result : ReplayExecutionResult) : Bool := result.traversal.all (· = "linear")

def presentationWellFormed (result : ReplayExecutionResult) : Bool :=
  let p := result.presentation
  let consumed := result.inputsConsumed.toNat
  (p.mode = "none" || p.mode = "visible") && identifier p.code && p.outputProfile.utf8ByteSize ≤ maxIdentityBytes &&
    p.audioBackend.utf8ByteSize ≤ maxIdentityBytes && p.presentedFrames ≤ consumed && p.affectedFrames ≤ consumed &&
    (p.affectedFrames = 0 || (p.firstAffectedFrame ≤ p.lastAffectedFrame && p.lastAffectedFrame < consumed)) &&
    (!result.succeeded || (p.complete &&
      !(p.mode = "visible" && presentsEveryFrame result && p.presentedFrames ≠ consumed)))

/-- What a result that succeeded has reached. -/
def successWellFormed (result : ReplayExecutionResult) : Bool :=
  let trace := result.trace
  0 < result.recordingFrames && result.inputsConsumed = result.recordingFrames &&
    0 < result.initialGameState.byteSize && 0 < result.finalGameState.byteSize && 0 < trace.observedFactCount &&
    trace.lossFree && (result.code = "replay_evidence_streamed" ||
      (0 < result.assignmentCount && trace.causallyConnected && trace.occurrence ≠ 0 && validTraceId trace.ingress &&
        validTraceId trace.candidate && validTraceId trace.selection && validTraceId trace.playbackRequest &&
        validTraceId trace.playbackDecision && validTraceId trace.playbackEffect && validTraceId trace.mixSpan))

/-- `well_formed` -/
def ReplayExecutionResult.wellFormed (result : ReplayExecutionResult) : Bool :=
  presentationWellFormed result && terminalFieldsWellFormed result && identifier result.runId &&
    result.takeId ≠ "" && result.takeId.utf8ByteSize ≤ maxReferenceValueBytes &&
    result.recordingFrames.toNat ≤ maxRecordingFrames && result.inputsConsumed ≤ result.recordingFrames &&
    result.assignmentCount.toNat ≤ maxReferenceMaterials &&
    result.initialGameState.byteSize.toNat ≤ maxRecordingStateBytes &&
    result.finalGameState.byteSize.toNat ≤ maxRecordingStateBytes &&
    result.trace.observedFactCount.toNat ≤ maxReplayTraceFacts && result.trace.occurrence.toNat ≤ 2 ^ 63 - 1 &&
    identifier result.code && (!result.succeeded || successWellFormed result)

end WellFormed

section Encode

/-- The library that prints and parses documents. -/
structure TomlText where
  print : Toml → Bytes
  parse : Bytes → Option Toml

def identityTable (identity : ContentIdentity) : Toml :=
  .table [("sha256",.string (hex identity.sha256)),("byte_size",.signed identity.byteSize)]

def traceIdTable (id : ReplayTraceFactId) : Toml :=
  .table [("producer",.integer id.producer.toNat),("sequence",.signed id.sequence)]

def traceTable (trace : ReplayTraceSummary) : Toml :=
  .table [("observed_fact_count",.signed trace.observedFactCount),("ingress",traceIdTable trace.ingress),
    ("candidate",traceIdTable trace.candidate),("selection",traceIdTable trace.selection),
    ("playback_request",traceIdTable trace.playbackRequest),
    ("playback_decision",traceIdTable trace.playbackDecision),
    ("playback_effect",traceIdTable trace.playbackEffect),("mix_span",traceIdTable trace.mixSpan),
    ("occurrence",.signed trace.occurrence),("causally_connected",.boolean trace.causallyConnected),
    ("loss_free",.boolean trace.lossFree)]

/-- The tolerated late frames are there only when there are some. -/
def presentationTable (p : ReplayPresentation) : Toml :=
  .table ([("mode",Toml.string p.mode),("code",.string p.code),("output_profile",.string p.outputProfile),
      ("audio_backend",.string p.audioBackend),("initial_width",.integer p.initialWidth),
      ("initial_height",.integer p.initialHeight),("hd_enabled",.boolean p.hdEnabled),
      ("shaders_enabled",.boolean p.shadersEnabled),("physical_reference_equivalence",.string "not_verified"),
      ("presented_frames",.integer p.presentedFrames),("affected_frames",.integer p.affectedFrames),
      ("first_affected_frame",.integer p.firstAffectedFrame),("last_affected_frame",.integer p.lastAffectedFrame),
      ("cancelled",.boolean p.cancelled)] ++
    if p.toleratedLateFrames = 0 then [] else [("tolerated_late_frames",Toml.integer p.toleratedLateFrames)])

def terminalDocument (result : ReplayExecutionResult) (traversal playback : String) : Toml :=
  .table [("schema",.string "1.4"),("presentation",presentationTable result.presentation),
    ("run_id",.string result.runId),("take_id",.string result.takeId),
    ("recording_frames",.integer result.recordingFrames.toNat),
    ("inputs_consumed",.integer result.inputsConsumed.toNat),("assignment_count",.signed result.assignmentCount),
    ("initial_game_state",identityTable result.initialGameState),
    ("final_game_state",identityTable result.finalGameState),("trace",traceTable result.trace),
    ("succeeded",.boolean result.succeeded),("code",.string result.code),("traversal",.string traversal),
    ("playback",.string playback),("linear_completed",.boolean result.linearCompleted),
    ("evidence_reasons",.array (result.evidenceReasons.map Toml.string)),
    ("ended_paused",.boolean result.endedPaused),("user_pause_ms",.decimal result.userPauseMs),
    ("interruptions",.integer result.interruptions.toNat)]

variable (library : TomlText)

def encodeReplayExecutionResult (result : ReplayExecutionResult) (sequence : UInt64) :
    Except ReplayExecutionResultError Bytes :=
  match result.traversal,result.playback with
  | some traversal,some playback =>
    if !result.wellFormed ∨ sequence = 0 then .error .invalidModel
    else
      let payload := library.print (terminalDocument result traversal playback)
      if payload = [] ∨ maxProtocolPayloadBytes < payload.length then .error .invalidModel
      else .ok (encodeProtocolHeader ⟨.terminal,payload.length,2,sequence.toNat⟩ ++ payload)
  | _,_ => .error .invalidModel

end Encode

section Decode

/-- `value<std::uint32_t>` -/
def readNarrow (value : Int) : Option ℕ := if value < 0 ∨ 2 ^ 32 ≤ value then none else some value.toNat

def narrow (key : String) (table : Toml) : Option ℕ := (table.number key).bind readNarrow

def narrow32 (key : String) (table : Toml) : Option UInt32 := (narrow key table).map UInt32.ofNat

def parseIdentity (table : Toml) : Option ContentIdentity := do
  let digest ← table.text "sha256"
  let size ← table.unsignedValue "byte_size"
  let bytes ← hexBytes digest.toList
  if sized : bytes.length = 32 then
    if tableSize table = 2 then some ⟨bytes,size,sized⟩ else none
  else none

def parseTraceId (table : Toml) : Option ReplayTraceFactId := do
  let producer ← narrow32 "producer" table
  let sequence ← table.unsignedValue "sequence"
  if tableSize table = 2 then some ⟨producer,sequence⟩ else none

def parseTrace (table : Toml) : Option ReplayTraceSummary := do
  let count ← table.unsignedValue "observed_fact_count"
  let occurrence ← table.unsignedValue "occurrence"
  let connected ← table.flag "causally_connected"
  let lossFree ← table.flag "loss_free"
  let ingress ← (table.get "ingress").bind parseTraceId
  let candidate ← (table.get "candidate").bind parseTraceId
  let selection ← (table.get "selection").bind parseTraceId
  let request ← (table.get "playback_request").bind parseTraceId
  let decision ← (table.get "playback_decision").bind parseTraceId
  let effect ← (table.get "playback_effect").bind parseTraceId
  let mix ← (table.get "mix_span").bind parseTraceId
  if tableSize table = 11 then
    some ⟨count,ingress,candidate,selection,request,decision,effect,mix,occurrence,connected,lossFree⟩
  else none

def parseTerminalFields (document : Toml) : Option TerminalFields := do
  let traversal ← document.text "traversal"
  let playback ← document.text "playback"
  let linearCompleted ← document.flag "linear_completed"
  let reasons ← document.rows "evidence_reasons"
  let endedPaused ← document.flag "ended_paused"
  let pause ← (document.text "user_pause_ms").bind readDecimal
  let interruptions ← narrow32 "interruptions" document
  let reasons ← reasons.mapM Toml.asString
  some ⟨some traversal,some playback,linearCompleted,reasons,endedPaused,pause,interruptions⟩

/-- `restore_tolerated_late_frames` -/
def ReplayPresentation.restoreToleratedLateFrames (p : ReplayPresentation) (count : ℕ) : ReplayPresentation :=
  { p with lateFrames := count, intolerable := false }

/-- What a Runtime counted is not part of the terminal: the trackers start empty. -/
def parsePresentation (p : Toml) : Option ReplayPresentation := do
  let mode ← p.text "mode"
  let code ← p.text "code"
  let profile ← p.text "output_profile"
  let backend ← p.text "audio_backend"
  let shown ← narrow "presented_frames" p
  let affected ← narrow "affected_frames" p
  let first ← narrow "first_affected_frame" p
  let last ← narrow "last_affected_frame" p
  let cancelled ← p.flag "cancelled"
  let width ← narrow "initial_width" p
  let height ← narrow "initial_height" p
  let hd ← p.flag "hd_enabled"
  let shaders ← p.flag "shaders_enabled"
  let presentation : ReplayPresentation := {
    mode, code, presentedFrames := shown, affectedFrames := affected, firstAffectedFrame := first,
    lastAffectedFrame := last, cancelled, outputProfile := profile, audioBackend := backend, initialWidth := width,
    initialHeight := height, hdEnabled := hd, shadersEnabled := shaders }
  if p.text "physical_reference_equivalence" ≠ some "not_verified" then none
  else
    match p.get "tolerated_late_frames" with
    | none => if tableSize p = 14 then some presentation else none
    | some _ =>
      let tolerated ← narrow "tolerated_late_frames" p
      if tableSize p = 15 ∧ tolerated ≠ 0 then some (presentation.restoreToleratedLateFrames tolerated) else none

/-- The keys of a terminal of a schema. -/
def schemaSize (schema : String) : Option ℕ :=
  if schema = "1.2" then some 11 else if schema = "1.3" then some 12 else if schema = "1.4" then some 19 else none

/-- Only 1.4 has the fields that say how the take ended. -/
def schemaFields (schema : String) (document : Toml) : Option TerminalFields :=
  if schema = "1.4" then parseTerminalFields document else some {}

/-- A terminal 1.2 has no presentation. -/
def schemaPresentation (schema : String) (document : Toml) : Option ReplayPresentation :=
  if schema = "1.2" then some {} else (document.get "presentation").bind parsePresentation

def parseSchema (document : Toml) : Option (ℕ × TerminalFields × ReplayPresentation) := do
  let schema ← document.text "schema"
  let size ← schemaSize schema
  let fields ← schemaFields schema document
  let presentation ← schemaPresentation schema document
  some (size,fields,presentation)

def parseResult (document : Toml) : Option ReplayExecutionResult := do
  let (size,fields,presentation) ← parseSchema document
  let runId ← document.text "run_id"
  let takeId ← document.text "take_id"
  let frames ← narrow32 "recording_frames" document
  let consumed ← narrow32 "inputs_consumed" document
  let assignmentCount ← document.unsignedValue "assignment_count"
  let succeeded ← document.flag "succeeded"
  let code ← document.text "code"
  let initial ← (document.get "initial_game_state").bind parseIdentity
  let final ← (document.get "final_game_state").bind parseIdentity
  let trace ← (document.get "trace").bind parseTrace
  let result : ReplayExecutionResult :=
    ⟨fields,runId,takeId,frames,consumed,assignmentCount,initial,final,trace,succeeded,code,presentation⟩
  if tableSize document = size ∧ result.wellFormed then some result else none

variable (library : TomlText)

def decodeReplayExecutionResult (message : Bytes) (expectedSequence : UInt64) :
    Except ReplayExecutionResultError ReplayExecutionResult :=
  match decodeProtocolHeader (message.take protocolHeaderBytes) 2 with
  | .error _ => .error .headerRejected
  | .ok header =>
    if header.type ≠ .terminal then .error .wrongMessageType
    else if header.channelSequence ≠ expectedSequence.toNat then .error .sequenceMismatch
    else if header.payloadBytes ≠ message.length - protocolHeaderBytes then .error .lengthMismatch
    else
      match (library.parse (message.drop protocolHeaderBytes)).bind parseResult with
      | none => .error .invalidPayload
      | some result => .ok result

end Decode
end AytherRuntime.Channel
