import AytherRuntime.Fact.Binary

/-! The occurrences that sound in a run and the spans of its mix. -/
namespace AytherRuntime.Binary.Mix
open Codec

structure OccurrenceId where
  runId : Bytes
  sequence : UInt64
  deriving DecidableEq

structure TrackPosition where
  sampleFrame : UInt64
  sampleRate : UInt32
  deriving DecidableEq

structure SampleFrameRange where
  timelineId : Bytes
  sampleRate : UInt32
  start : ℕ
  stop : ℕ
  deriving DecidableEq

/-- A gain is kept by its thirty-two bits. -/
structure Occurrence where
  id : OccurrenceId
  businessKey : UInt64 := 0
  trackId : Field Bytes := {}
  assignmentId : Field Bytes := {}
  startCauses : List Cause := []
  position : Field TrackPosition := {}
  loopRegion : Field SampleFrameRange := {}
  gain : Field UInt32 := {}
  muted : Field Bool := {}
  finalReason : Field Bytes := {}
  deriving DecidableEq

structure MixParticipant where
  occurrenceId : OccurrenceId
  mixRange : SampleFrameRange
  positionBegin : Field TrackPosition := {}
  positionEnd : Field TrackPosition := {}
  gainBegin : Field UInt32 := {}
  gainEnd : Field UInt32 := {}
  muted : Field Bool := {}
  deriving DecidableEq

inductive OriginalAudio
  | unknown | present | suppressed | absent
  deriving DecidableEq, Repr

structure MixSpan where
  runId : Bytes
  spanId : Bytes
  mixRange : SampleFrameRange
  outputRange : Field SampleFrameRange := {}
  originalAudio : OriginalAudio := .unknown
  participants : List MixParticipant := []
  facts : List FactId := []
  deriving DecidableEq

section WellFormed

def maxReferenceMaterials : ℕ := 4096
def maxMixParticipants : ℕ := 256

/-- `well_formed` of a range; it does not hold its end. -/
def wellFormedRange (range : SampleFrameRange) : Bool :=
  identifier range.timelineId && range.sampleRate > 0 && range.start ≤ range.stop

def validOccurrenceId (id : OccurrenceId) : Bool := identifier id.runId && id.sequence ≠ 0

/-- `valid` of a field whose value is checked. -/
def validValue {α : Type} (check : α → Bool) (field : Field α) : Bool :=
  consistentAvailability field && field.value.all check

def validPosition : Field TrackPosition → Bool := validValue fun position => position.sampleRate > 0

def validRange : Field SampleFrameRange → Bool := validValue wellFormedRange

/-- `std::isfinite`: the exponent of the bits is not the one of infinities and NaNs. -/
def finiteGain (bits : UInt32) : Bool := bits.toNat / 2 ^ 23 % 2 ^ 8 ≠ 2 ^ 8 - 1

def validGain : Field UInt32 → Bool := validValue finiteGain

def validText : Field Bytes → Bool := validValue identifier

/-- The facts of an occurrence and of a span are of their run. -/
def validFactId (runId : Bytes) (fact : FactId) : Bool :=
  fact.runId = runId && identifier fact.producerId && fact.producerSequence ≠ 0

def validStartCause (runId : Bytes) : Cause → Bool
  | .fact fact => validFactId runId fact
  | .preexistingContext contextId => identifier contextId

/-- `well_formed` of an occurrence -/
def wellFormedOccurrence (occurrence : Occurrence) : Bool :=
  validOccurrenceId occurrence.id && validText occurrence.trackId && validText occurrence.assignmentId &&
    validPosition occurrence.position && validRange occurrence.loopRegion && validGain occurrence.gain &&
    consistentAvailability occurrence.muted && validText occurrence.finalReason &&
    occurrence.startCauses.length ≤ maxFactCauses && occurrence.startCauses.all (validStartCause occurrence.id.runId)

def validParticipant (span : MixSpan) (participant : MixParticipant) : Bool :=
  validOccurrenceId participant.occurrenceId && participant.occurrenceId.runId = span.runId &&
    wellFormedRange participant.mixRange && participant.mixRange.start ≠ participant.mixRange.stop &&
    participant.mixRange.timelineId = span.mixRange.timelineId &&
    participant.mixRange.sampleRate = span.mixRange.sampleRate && span.mixRange.start ≤ participant.mixRange.start &&
    participant.mixRange.stop ≤ span.mixRange.stop && validPosition participant.positionBegin &&
    validPosition participant.positionEnd && validGain participant.gainBegin && validGain participant.gainEnd &&
    consistentAvailability participant.muted

/-- `well_formed` of a span; an occurrence takes part in it once. -/
def wellFormedSpan (span : MixSpan) : Bool :=
  identifier span.runId && identifier span.spanId && wellFormedRange span.mixRange &&
    span.mixRange.start ≠ span.mixRange.stop && validRange span.outputRange &&
    span.participants.length ≤ maxMixParticipants && span.facts.length ≤ maxFactCauses &&
    span.participants.all (validParticipant span) && (span.participants.map MixParticipant.occurrenceId).Nodup &&
    span.facts.all (validFactId span.runId)

end WellFormed
end AytherRuntime.Binary.Mix
