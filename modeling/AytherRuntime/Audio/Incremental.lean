import AytherRuntime.Audio.Integrity

/-! The writer of the evidence of a run on its PCM side: each block is stored as it arrives and again read and
checked at the end. -/
namespace AytherRuntime.Audio
open Codec

section Store

/-- The block of a sequence as it is written. -/
def storedBlock (library : PcmLibrary) (sequence : ℕ) (chunk : AudioChunk) : StoredPcmBlock :=
  ⟨sequence,library.identify sequence chunk,chunk⟩

/-- `write_pcm_block`, in a directory with the files of some blocks; `written` says whether the file can be
written. -/
def writePcmBlock (library : PcmLibrary) (files : List StoredPcmBlock) (sequence : ℕ) (chunk : AudioChunk)
    (written : Bool) : List StoredPcmBlock × Except PcmBlockStoreError StoredPcmBlock :=
  if sequence = 0 then (files,.error .invalidSequence)
  else
    match encodePcmMessage library chunk sequence with
    | .error .messageTooLarge | .error .metadataTooLarge => (files,.error .documentTooLarge)
    | .error _ => (files,.error .invalidChunk)
    | .ok _ =>
      if files.any fun file => file.sequence = sequence then (files,.error .alreadyExists)
      else if written = false then (files,.error .ioError)
      else (files ++ [storedBlock library sequence chunk],.ok (storedBlock library sequence chunk))

/-- `same_stream` -/
def sameStream (left right : AudioChunk) : Bool :=
  left.runId = right.runId && left.capturePoint = right.capturePoint && left.format = right.format &&
    left.range.timelineId = right.range.timelineId && left.range.sampleRate = right.range.sampleRate

end Store

section Writer

inductive IntegratedEvidenceError
  | invalidInput | directoryUnavailable | factPublicationFailed | factIntegrityFailed | factReopenFailed
  | pcmPublicationFailed | pcmContinuityFailed | pcmReopenFailed | pcmSegmentMismatch | relationshipReopenFailed
  deriving DecidableEq, Repr

structure PcmArtifact where
  path : ℕ
  sequence : ℕ
  documentIdentity : Bytes
  deriving DecidableEq

/-- `IncrementalEvidenceWriter` on its PCM side, with the files of its directory. -/
structure IncrementalPcm where
  files : List StoredPcmBlock := []
  previousPcm : Option AudioChunk := none
  pcmArtifacts : List PcmArtifact := []
  pcmSegments : List PcmSegmentInterval := []
  pcmSequence : ℕ := 1
  pcmBlocks : ℕ := 0
  pcmBytes : ℕ := 0
  valid : Bool := true
  finished : Bool := false

/-- A chunk as it is kept: confirmed under the checkpoint of its sequence. -/
def confirm (sequence : ℕ) (chunk : AudioChunk) : AudioChunk :=
  { chunk with
    durability := .confirmed
    checkpointId := ⟨.known,some ("audio-qa-pcm-" ++ toString sequence).toUTF8.toList,[]⟩ }

/-- A chunk does not follow the one that was kept before it. -/
def continuityFailed (previous : Option AudioChunk) (chunk : AudioChunk) : Bool :=
  match previous with
  | none => false
  | some previous =>
    !sameStream previous chunk || chunk.producerSequence ≤ previous.producerSequence ||
      !(joinPcm previous chunk .perSegment).accepted

variable (library : PcmLibrary)

/-- `append_pcm` -/
def IncrementalPcm.appendPcm (writer : IncrementalPcm) (chunk : AudioChunk) (written : Bool) :
    IncrementalPcm × Option IntegratedEvidenceError :=
  if !writer.valid ∨ writer.finished then (writer,some .invalidInput)
  else
    let confirmed := confirm writer.pcmSequence chunk
    match writePcmBlock library writer.files writer.pcmSequence confirmed written with
    | (files,.error _) => ({ writer with files, valid := false },some .pcmPublicationFailed)
    | (files,.ok block) =>
      if maxUInt64 - writer.pcmBytes < confirmed.bytes.length then
        ({ writer with files, valid := false },some .invalidInput)
      else
        let failed := continuityFailed writer.previousPcm confirmed
        ({ writer with
           files
           previousPcm := confirmed
           pcmArtifacts := writer.pcmArtifacts ++ [⟨block.sequence,block.sequence,block.messageIdentity⟩]
           pcmSegments := if failed then writer.pcmSegments else addSamples writer.pcmSegments confirmed
           pcmSequence := writer.pcmSequence + 1
           pcmBlocks := writer.pcmBlocks + 1
           pcmBytes := writer.pcmBytes + confirmed.bytes.length
           valid := !failed },if failed then some .pcmContinuityFailed else none)

/-- The chunks of a run one after another, each with whether its file can be written, and whether all were
accepted. -/
def IncrementalPcm.appendAll : IncrementalPcm → List (AudioChunk × Bool) → IncrementalPcm × Bool
  | writer, [] => (writer,true)
  | writer, (chunk,written) :: chunks =>
    let (next,error) := writer.appendPcm library chunk written
    let (last,accepted) := IncrementalPcm.appendAll next chunks
    (last,error.isNone && accepted)

/-- The files of a writer as they are read. -/
def IncrementalPcm.readings (writer : IncrementalPcm) : List BlockReading :=
  writer.files.map fun file => ⟨file.sequence,readPcmBlock file⟩

/-- The file under a name, as it is read. -/
def IncrementalPcm.read (writer : IncrementalPcm) (path : ℕ) : Except PcmBlockStoreError StoredPcmBlock :=
  match writer.files.find? fun file => file.sequence = path with
  | some file => readPcmBlock file
  | none => .error .ioError

/-- The blocks as they are reopened: the bytes that they hold, and whether some of them breaks the single
interval. -/
def reopenPcm (read : ℕ → Except PcmBlockStoreError StoredPcmBlock) :
    Option AudioChunk → List PcmArtifact → ℕ × Bool → Option (ℕ × Bool)
  | _, [], reopened => some reopened
  | previous, artifact :: artifacts, (bytes,broken) =>
    match read artifact.path with
    | .error _ => none
    | .ok block =>
      if block.sequence ≠ artifact.sequence ∨ block.messageIdentity ≠ artifact.documentIdentity ∨
          block.chunk.durability ≠ .confirmed ∨ continuityFailed previous block.chunk then none
      else
        reopenPcm read (some block.chunk) artifacts (bytes + block.chunk.bytes.length,
          broken || previous.any fun previous => !(joinPcm previous block.chunk .single).accepted)

/-- How the fragments of the facts reopen. -/
inductive FactReopening
  | reopened | integrityFailed | failed
  deriving DecidableEq, Repr

/-- The facts of the writer as `finish` finds them: how many, whether their pending publications are resolved, how
their fragments reopen, and what their relationships are. -/
structure KeptFacts where
  facts : ℕ
  observedFactCount : ℕ
  resolved : Bool := true
  reopening : FactReopening := .reopened
  transportLossFree : Bool := true
  lossFree : Bool := true
  causallyConnected : Bool := true

structure IntegratedEvidenceSummary where
  facts : ℕ
  pcmBlocks : ℕ
  pcmBytes : ℕ
  factIntegrityComplete : Bool
  relationshipsReopened : Bool
  deriving DecidableEq

/-- `finish` -/
def IncrementalPcm.finish (writer : IncrementalPcm) (facts : KeptFacts) (requireHdRelationships : Bool)
    (continuity : PcmContinuity) : Except IntegratedEvidenceError IntegratedEvidenceSummary :=
  if !writer.valid ∨ writer.finished ∨ facts.facts = 0 ∨ writer.pcmBlocks = 0 ∨
      facts.facts ≠ facts.observedFactCount then .error .invalidInput
  else if facts.resolved = false then .error .factPublicationFailed
  else
    match facts.reopening with
    | .integrityFailed => .error .factIntegrityFailed
    | .failed => .error .factReopenFailed
    | .reopened =>
      match reopenPcm writer.read none writer.pcmArtifacts (0,false) with
      | none => .error .pcmReopenFailed
      | some (bytes,broken) =>
        if continuity = .single ∧ broken then .error .pcmContinuityFailed
        else if writer.pcmArtifacts.length ≠ writer.pcmBlocks ∨ bytes ≠ writer.pcmBytes then
          .error .pcmReopenFailed
        else if requireHdRelationships ∧ facts.transportLossFree ∧ facts.causallyConnected = false then
          .error .relationshipReopenFailed
        else .ok ⟨facts.facts,writer.pcmBlocks,writer.pcmBytes,facts.lossFree,facts.causallyConnected⟩

end Writer
end AytherRuntime.Audio
