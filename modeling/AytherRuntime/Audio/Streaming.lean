import AytherRuntime.Audio.Chunk
import AytherRuntime.Library.Splitting

/-! The writer that streams the PCM of a run to the channel: views are copied, clipped at the limit and joined into
blocks, behind the gate and the queue that bring them. -/
namespace AytherRuntime.Audio
open Codec
open Binary (maxFactCauses)

section Views

structure EngineFactId where
  producer : ℕ
  sequence : UInt64
  deriving DecidableEq

inductive EngineCause
  | fact (id : EngineFactId)
  | preexistingContext (contextId : Bytes)
  deriving DecidableEq

/-- `PcmView` -/
structure PcmView where
  id : EngineFactId
  capturePoint : Bytes
  range : SampleFrameRange
  format : PcmFormat
  channels : ℕ
  bytes : Bytes
  causes : List EngineCause := []
  deriving DecidableEq

/-- `producer_id` -/
def producerId (producer : ℕ) : Bytes := ("engine-" ++ toString producer).toUTF8.toList

/-- `fact_id` -/
def factId (runId : Bytes) (id : EngineFactId) : Binary.FactId := ⟨runId,producerId id.producer,id.sequence⟩

variable (library : PcmLibrary)

/-- The hash of some bytes as a field. -/
def knownHash (bytes : Bytes) : Binary.Field Bytes := ⟨.known,some (library.sha256 bytes),[]⟩

/-- The chunk of a view, before its checks. -/
def PcmView.chunk (runId : Bytes) (view : PcmView) : AudioChunk where
  runId
  capturePoint := view.capturePoint
  producerSequence := view.id.sequence.toNat
  format := ⟨view.format,view.range.sampleRate,view.channels⟩
  range := view.range
  bytes := view.bytes
  sha256 := knownHash library view.bytes
  durability := .pending
  checkpointId := ⟨.notApplicable,none,"not_published_by_runtime".toUTF8.toList⟩
  causeIds := view.causes.filterMap fun
    | .fact id => some (factId runId id)
    | .preexistingContext _ => none

/-- `copy_replay_trace_pcm` -/
def copyReplayTracePcm (runId : Bytes) (view : PcmView) : Option AudioChunk :=
  if runId = [] ∨ maxIdentityBytes < runId.length ∨ view.id.producer = 0 ∨ view.id.sequence = 0 then none
  else if 255 < view.channels then none
  else if !(view.chunk library runId).wellFormed then none
  else some (view.chunk library runId)

end Views

section Writer

def pcmBatchBytes : ℕ := 128 * 1024

/-- `StreamingObservationWriter` on its PCM side, with what the channel has taken. -/
structure StreamingWriter where
  runId : Bytes
  pcmLimit : ℕ := maxUInt64
  pendingPcm : Option AudioChunk := none
  segmentStarts : List ℕ := []
  consumedPcm : ℕ := 0
  segment : ℕ := 0
  sequence : ℕ := 2
  pcmCount : ℕ := 0
  pcmBytes : ℕ := 0
  lastPcmEnd : ℕ := 0
  valid : Bool := true
  sent : List PcmMessage := []

/-- What the limit leaves of a chunk. -/
inductive ClippedPcm
  | beyond
  | ambiguous
  | retained (chunk : AudioChunk)
  deriving DecidableEq

/-- The segments that begin with the next view or before it. -/
def openSegments (consumed : ℕ) : List ℕ → ℕ → List ℕ × ℕ
  | [], segment => ([],segment)
  | start :: starts, segment =>
    if start ≤ consumed then openSegments consumed starts (segment + 1) else (start :: starts,segment)

/-- `can_append`, with a pending chunk. -/
def canAppend (pending chunk : AudioChunk) : Bool :=
  !(pending.runId ≠ chunk.runId || pending.capturePoint ≠ chunk.capturePoint ||
    pending.format.pcm ≠ chunk.format.pcm || pending.format.sampleRate ≠ chunk.format.sampleRate ||
    pending.format.channels ≠ chunk.format.channels || pending.range.timelineId ≠ chunk.range.timelineId ||
    pending.range.sampleRate ≠ chunk.range.sampleRate || pending.range.stop ≠ chunk.range.begin ||
    pending.segment ≠ chunk.segment || chunk.producerSequence ≤ pending.producerSequence ||
    pcmBatchBytes < pending.bytes.length ||
    maxAudioDiscontinuities < pending.discontinuities.length + chunk.discontinuities.length ||
    maxFactCauses < pending.causeIds.length + chunk.causeIds.length ||
    pcmBatchBytes - pending.bytes.length < chunk.bytes.length)

/-- The causes of a block with those of one more chunk, each once. -/
def addCauses (causes : List Binary.FactId) : List Binary.FactId → List Binary.FactId
  | [] => causes
  | cause :: more => addCauses (if cause ∈ causes then causes else causes ++ [cause]) more

/-- A pending chunk with one more behind it. -/
def appendChunk (pending chunk : AudioChunk) : AudioChunk :=
  { pending with
    range := { pending.range with stop := chunk.range.stop }
    bytes := pending.bytes ++ chunk.bytes
    discontinuities := pending.discontinuities ++ chunk.discontinuities
    causeIds := addCauses pending.causeIds chunk.causeIds }

variable (library : PcmLibrary) (takes : ℕ → Bool)

/-- The chunk clipped at the limit, on a whole sample. -/
def clipPcm (limit : ℕ) (chunk : AudioChunk) : ClippedPcm :=
  if limit ≤ chunk.range.begin then .beyond
  else if limit < chunk.range.stop then
    let frames := chunk.range.stop - chunk.range.begin
    if frames = 0 ∨ chunk.bytes.length % frames ≠ 0 then .ambiguous
    else
      let bytesPerFrame := chunk.bytes.length / frames
      let retainedFrames := limit - chunk.range.begin
      let bytes := chunk.bytes.take (retainedFrames * bytesPerFrame)
      .retained { chunk with bytes, range := { chunk.range with stop := limit }, sha256 := knownHash library bytes }
  else .retained chunk

/-- A block with the hash of its bytes. -/
def sealChunk (chunk : AudioChunk) : AudioChunk := { chunk with sha256 := knownHash library chunk.bytes }

namespace StreamingWriter
variable (writer : StreamingWriter)

/-- `begin_segment` -/
def beginSegment (forwarded : ℕ) : StreamingWriter :=
  { writer with segmentStarts := writer.segmentStarts ++ [forwarded] }

/-- `flush_pcm`; `takes` says of each block by its number whether the channel takes it. -/
def flushPcm : StreamingWriter × Bool :=
  match writer.pendingPcm with
  | none => (writer,true)
  | some pending =>
    let block := sealChunk library pending
    match encodePcmMessage library block writer.sequence with
    | .error _ => ({ writer with pendingPcm := block, valid := false },false)
    | .ok message =>
      if takes writer.pcmCount = false then ({ writer with pendingPcm := block, valid := false },false)
      else if maxUInt64 - writer.pcmBytes < block.bytes.length then
        ({ writer with pendingPcm := block, valid := false, sent := writer.sent ++ [message] },false)
      else
        ({ writer with
           sequence := writer.sequence + 1
           pcmCount := writer.pcmCount + 1
           pcmBytes := writer.pcmBytes + block.bytes.length
           pendingPcm := none
           sent := writer.sent ++ [message] },true)

/-- A chunk joins the pending one, or takes its place once that is sent. -/
def joinPending (chunk : AudioChunk) : StreamingWriter × Bool :=
  match writer.pendingPcm with
  | none => ({ writer with pendingPcm := chunk },true)
  | some pending =>
    if canAppend pending chunk then ({ writer with pendingPcm := appendChunk pending chunk },true)
    else
      match writer.flushPcm library takes with
      | (writer,false) => (writer,false)
      | (writer,true) => ({ writer with pendingPcm := chunk },true)

/-- `consume_pcm` -/
def consumePcm (view : PcmView) : StreamingWriter × Bool :=
  if !writer.valid then (writer,false)
  else
    let (segmentStarts,segment) := openSegments writer.consumedPcm writer.segmentStarts writer.segment
    let writer := { writer with segmentStarts, segment, consumedPcm := writer.consumedPcm + 1 }
    match copyReplayTracePcm library writer.runId view with
    | none => ({ writer with valid := false },false)
    | some copied =>
      let chunk := { copied with segment }
      match clipPcm library writer.pcmLimit chunk with
      | .beyond => ({ writer with lastPcmEnd := chunk.range.stop },true)
      | .ambiguous => ({ writer with valid := false },false)
      | .retained chunk =>
        match writer.joinPending library takes chunk with
        | (writer,false) => (writer,false)
        | (writer,true) => ({ writer with lastPcmEnd := view.range.stop },true)

/-- `flush`, without facts to send. -/
def flush (finalizePcm : Bool) : StreamingWriter × Bool :=
  if !writer.valid then (writer,false)
  else if finalizePcm then writer.flushPcm library takes
  else (writer,true)

end StreamingWriter
end Writer

section Capture

/-- `SilentProductionGate` on its PCM side, the queue of the bridge behind it and the writer that consumes it. -/
structure PcmCapture where
  silent : Bool := false
  excludedPcm : ℕ := 0
  forwardedPcm : ℕ := 0
  queue : List PcmView := []
  writer : StreamingWriter

inductive PcmEvent
  | setSilent (silent : Bool)
  | receivePcm (view : PcmView)
  | beginSegment
  | consumePcm
  | flush
  deriving DecidableEq

namespace PcmCapture
variable (library : PcmLibrary) (takes : ℕ → Bool)

/-- `receive_pcm`, with a queue that loses nothing. -/
def receivePcm (capture : PcmCapture) (view : PcmView) : PcmCapture :=
  if capture.silent then { capture with excludedPcm := capture.excludedPcm + 1 }
  else { capture with forwardedPcm := capture.forwardedPcm + 1, queue := capture.queue ++ [view] }

/-- `try_consume_pcm` -/
def tryConsumePcm (capture : PcmCapture) : PcmCapture :=
  match capture.queue with
  | [] => capture
  | view :: queue => { capture with queue, writer := (capture.writer.consumePcm library takes view).1 }

def step (capture : PcmCapture) : PcmEvent → PcmCapture
  | .setSilent silent => { capture with silent }
  | .receivePcm view => capture.receivePcm view
  | .beginSegment => { capture with writer := capture.writer.beginSegment capture.forwardedPcm }
  | .consumePcm => capture.tryConsumePcm library takes
  | .flush => { capture with writer := (capture.writer.flush library takes false).1 }

/-- A run of the capture from its start, under a limit. -/
def run (runId : Bytes) (limit : ℕ) (events : List PcmEvent) : PcmCapture :=
  events.foldl (step library takes) { writer := { runId, pcmLimit := limit } }

/-- `stop_observation_worker`: the queue is drained and the pending block sent. -/
def stop (capture : PcmCapture) : StreamingWriter :=
  ((capture.queue.foldl (fun writer view => (writer.consumePcm library takes view).1) capture.writer).flush library
    takes true).1

end PcmCapture
end Capture
end AytherRuntime.Audio
