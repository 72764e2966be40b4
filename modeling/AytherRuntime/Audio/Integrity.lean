import AytherRuntime.Audio.Chunk

/-! The audit of the PCM blocks of a run: how a block follows the one before it, the interval of each segment,
and the first issue. -/
namespace AytherRuntime.Audio
open Codec

section Blocks

def maxCheckpointArtifacts : ℕ := 65536

/-- A linear traversal keeps one interval; an inspection keeps one for each segment. -/
inductive PcmContinuity
  | single | perSegment
  deriving DecidableEq, Repr

inductive PcmJoin
  | continues | startsSegment | sampleGap | sampleOverlapOrReorder | segmentOutOfOrder
  deriving DecidableEq, Repr

/-- How a block joins the one before it by its samples. -/
def joinSamples (previous next : AudioChunk) : PcmJoin :=
  if previous.range.stop < next.range.begin then .sampleGap
  else if next.range.begin < previous.range.stop then .sampleOverlapOrReorder
  else if next.segment = previous.segment then .continues
  else .startsSegment

/-- `join_pcm` -/
def joinPcm (previous next : AudioChunk) : PcmContinuity → PcmJoin
  | .single => joinSamples previous next
  | .perSegment =>
    if next.segment < previous.segment then .segmentOutOfOrder
    else if previous.segment < next.segment then .startsSegment
    else joinSamples previous next

/-- The next block continues the previous one or starts a segment. -/
def PcmJoin.accepted (join : PcmJoin) : Bool := join = .continues || join = .startsSegment

structure PcmSegmentInterval where
  segment : ℕ
  samples : SampleFrameRange
  blocks : ℕ
  deriving DecidableEq

/-- The intervals with the samples of one more block, in the interval of its segment or in a new one. -/
def addSamples (segments : List PcmSegmentInterval) (chunk : AudioChunk) : List PcmSegmentInterval :=
  match segments.getLast? with
  | some last =>
    if last.segment = chunk.segment then
      segments.dropLast ++ [{ last with
        samples := { last.samples with stop := chunk.range.stop }, blocks := last.blocks + 1 }]
    else segments ++ [⟨chunk.segment,chunk.range,1⟩]
  | none => [⟨chunk.segment,chunk.range,1⟩]

inductive PcmBlockStoreError
  | invalidSequence | invalidChunk | documentTooLarge | alreadyExists | ioError | malformedHeader
  | incompatibleVersion | lengthMismatch | hashMismatch | sequenceMismatch | pcmLengthMismatch | invalidContent
  deriving DecidableEq, Repr

/-- A block of the directory of a run; its file is named by its sequence. -/
structure StoredPcmBlock where
  sequence : ℕ
  messageIdentity : Bytes
  chunk : AudioChunk
  deriving DecidableEq

/-- What reading the file of a block gives. -/
structure BlockReading where
  path : ℕ
  block : Except PcmBlockStoreError StoredPcmBlock

/-- `read_pcm_block` of a file that was written: its message gives back the chunk that it holds. -/
def readPcmBlock (file : StoredPcmBlock) : Except PcmBlockStoreError StoredPcmBlock :=
  .ok { file with chunk := (PcmMessage.mk file.sequence file.chunk).decoded }

end Blocks

section Audit

inductive AudioIntegrityIssueKind
  | emptyCapture | tooManyBlocks | blockUnreadable | blockSequenceDiscontinuity | captureIdentityChanged
  | formatChanged | timelineChanged | sampleGap | sampleOverlapOrReorder | ambiguousEffectBoundary
  | effectOutsideBlock | segmentOutOfOrder
  deriving DecidableEq, Repr

structure AudioIntegrityIssue where
  kind : AudioIntegrityIssueKind
  block : Option ℕ := none
  affectedRange : Option SampleFrameRange := none
  expectedSequence : ℕ := 0
  observedSequence : ℕ := 0
  storeError : Option PcmBlockStoreError := none
  deriving DecidableEq

/-- What the audit has verified so far, and the block before the next one. -/
structure AuditState where
  verifiedBlocks : ℕ := 0
  verifiedEffectBoundaries : ℕ := 0
  lastVerifiedSample : Option ℕ := none
  segments : List PcmSegmentInterval := []
  blockSequence : Option ℕ := none
  previous : Option AudioChunk := none

structure AudioIntegrityAudit where
  complete : Bool
  verifiedBlocks : ℕ := 0
  verifiedEffectBoundaries : ℕ := 0
  lastVerifiedSample : Option ℕ := none
  firstIssue : Option AudioIntegrityIssue := none
  segments : List PcmSegmentInterval := []
  deriving DecidableEq

/-- The sequence of a block is the next one. -/
def sequenceIssue (blockSequence : Option ℕ) (path : ℕ) (block : StoredPcmBlock) : Option AudioIntegrityIssue :=
  match blockSequence with
  | none => none
  | some last =>
    let expected := if last = maxUInt64 then 0 else last + 1
    if expected = 0 ∨ block.sequence ≠ expected then
      some { kind := .blockSequenceDiscontinuity, block := path, affectedRange := block.chunk.range,
             expectedSequence := expected, observedSequence := block.sequence }
    else none

/-- The samples between two blocks that do not join. -/
def joinIssue (previous next : AudioChunk) (path : ℕ) : PcmJoin → Option AudioIntegrityIssue
  | .continues | .startsSegment => none
  | .sampleGap =>
    some { kind := .sampleGap, block := path,
           affectedRange := some ⟨previous.range.timelineId,previous.range.sampleRate,previous.range.stop,
             next.range.begin⟩ }
  | .sampleOverlapOrReorder =>
    some { kind := .sampleOverlapOrReorder, block := path,
           affectedRange := some ⟨previous.range.timelineId,previous.range.sampleRate,next.range.begin,
             previous.range.stop⟩ }
  | .segmentOutOfOrder =>
    some { kind := .segmentOutOfOrder, block := path, affectedRange := next.range,
           expectedSequence := previous.segment, observedSequence := next.segment }

/-- A block is of the same capture, format and timeline as the one before it, and joins it. -/
def streamIssue (continuity : PcmContinuity) (previous : Option AudioChunk) (path : ℕ) (chunk : AudioChunk) :
    Option AudioIntegrityIssue :=
  match previous with
  | none => none
  | some previous =>
    if chunk.runId ≠ previous.runId ∨ chunk.capturePoint ≠ previous.capturePoint then
      some { kind := .captureIdentityChanged, block := path, affectedRange := chunk.range }
    else if chunk.format ≠ previous.format then
      some { kind := .formatChanged, block := path, affectedRange := chunk.range }
    else if chunk.range.timelineId ≠ previous.range.timelineId ∨
        chunk.range.sampleRate ≠ previous.range.sampleRate then
      some { kind := .timelineChanged, block := path, affectedRange := chunk.range }
    else joinIssue previous chunk path (joinPcm previous chunk continuity)

/-- The declared discontinuities of a block: how many of their boundaries are verified, and the first issue. -/
def effectIssues (path : ℕ) (chunk : AudioChunk) : List AudioDiscontinuity → ℕ → ℕ × Option AudioIntegrityIssue
  | [], verified => (verified,none)
  | effect :: effects, verified =>
    if effect.outputRange.availability = .unknown ∨
        (effect.kind = .insertedSilence ∧ effect.outputRange.availability = .notApplicable) then
      (verified,some { kind := .ambiguousEffectBoundary, block := path, affectedRange := effect.affectedRange })
    else
      match effect.outputRange.value with
      | none => effectIssues path chunk effects verified
      | some output =>
        if output.timelineId ≠ chunk.range.timelineId ∨ output.sampleRate ≠ chunk.range.sampleRate ∨
            output.begin < chunk.range.begin ∨ chunk.range.stop < output.stop then
          (verified,some { kind := .effectOutsideBlock, block := path, affectedRange := output })
        else effectIssues path chunk effects (verified + 1)

/-- The audit of one block. -/
def auditBlock (continuity : PcmContinuity) (state : AuditState) (reading : BlockReading) :
    AuditState × Option AudioIntegrityIssue :=
  match reading.block with
  | .error error => (state,some { kind := .blockUnreadable, block := reading.path, storeError := error })
  | .ok block =>
    match (sequenceIssue state.blockSequence reading.path block).or
        (streamIssue continuity state.previous reading.path block.chunk) with
    | some issue => (state,some issue)
    | none =>
      match effectIssues reading.path block.chunk block.chunk.discontinuities state.verifiedEffectBoundaries with
      | (verified,some issue) => ({ state with verifiedEffectBoundaries := verified },some issue)
      | (verified,none) =>
        ({ verifiedBlocks := state.verifiedBlocks + 1
           verifiedEffectBoundaries := verified
           lastVerifiedSample := block.chunk.range.stop
           segments := addSamples state.segments block.chunk
           blockSequence := block.sequence
           previous := block.chunk },none)

def auditBlocks (continuity : PcmContinuity) : AuditState → List BlockReading → AuditState × Option AudioIntegrityIssue
  | state, [] => (state,none)
  | state, reading :: readings =>
    match auditBlock continuity state reading with
    | (state,some issue) => (state,some issue)
    | (state,none) => auditBlocks continuity state readings

/-- `audit_audio_integrity` -/
def auditAudioIntegrity (readings : List BlockReading) (continuity : PcmContinuity) : AudioIntegrityAudit :=
  if readings = [] then { complete := false, firstIssue := some { kind := .emptyCapture } }
  else if maxCheckpointArtifacts < readings.length then
    { complete := false, firstIssue := some { kind := .tooManyBlocks } }
  else
    let (state,firstIssue) := auditBlocks continuity {} readings
    { complete := firstIssue.isNone
      verifiedBlocks := state.verifiedBlocks
      verifiedEffectBoundaries := state.verifiedEffectBoundaries
      lastVerifiedSample := state.lastVerifiedSample
      firstIssue
      segments := state.segments }

end Audit
end AytherRuntime.Audio
