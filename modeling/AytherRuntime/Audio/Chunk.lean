import AytherRuntime.Fact.Binary

/-! A chunk of PCM as the evidence carries it, and the message that encodes it. -/
namespace AytherRuntime.Audio
open Codec
open Binary (identifier consistentAvailability maxFactCauses)

section Chunk

def maxUInt64 : ℕ := 2 ^ 64 - 1
def maxAudioPayloadBytes : ℕ := 256 * 1024
def maxAudioDiscontinuities : ℕ := 256
def protocolHeaderBytes : ℕ := 40
def maxProtocolPayloadBytes : ℕ := 256 * 1024 - protocolHeaderBytes

inductive PcmFormat
  | s16le | s24le | s32le | f32le
  deriving DecidableEq, Repr

structure AudioFormat where
  pcm : PcmFormat
  sampleRate : ℕ
  channels : ℕ
  deriving DecidableEq, Repr

/-- A range of sample frames, its end outside of it. -/
structure SampleFrameRange where
  timelineId : Bytes
  sampleRate : ℕ
  begin : ℕ
  stop : ℕ
  deriving DecidableEq, Repr

inductive Durability
  | pending | confirmed
  deriving DecidableEq, Repr

inductive DiscontinuityKind
  | insertedSilence | discardedAudio
  deriving DecidableEq, Repr

structure AudioDiscontinuity where
  kind : DiscontinuityKind
  affectedRange : SampleFrameRange
  outputRange : Binary.Field SampleFrameRange
  causeIds : List Binary.FactId := []
  deriving DecidableEq

structure AudioChunk where
  runId : Bytes
  capturePoint : Bytes
  producerSequence : ℕ
  format : AudioFormat
  range : SampleFrameRange
  bytes : Bytes
  sha256 : Binary.Field Bytes
  durability : Durability := .pending
  checkpointId : Binary.Field Bytes
  causeIds : List Binary.FactId := []
  discontinuities : List AudioDiscontinuity := []
  segment : ℕ := 0
  deriving DecidableEq

def PcmFormat.width : PcmFormat → ℕ
  | .s16le => 2
  | .s24le => 3
  | .s32le | .f32le => 4

def AudioFormat.frameBytes (format : AudioFormat) : ℕ := format.pcm.width * format.channels

/-- `expected_payload_bytes` -/
def expectedPayloadBytes (format : AudioFormat) (sampleFrames : ℕ) : Option ℕ :=
  if format.sampleRate = 0 ∨ 192000 < format.sampleRate ∨ format.channels = 0 ∨ 8 < format.channels then none
  else if maxAudioPayloadBytes / format.frameBytes < sampleFrames then none
  else some (sampleFrames * format.frameBytes)

/-- `well_formed` of a range. -/
def SampleFrameRange.wellFormed (range : SampleFrameRange) : Bool :=
  identifier range.timelineId && 0 < range.sampleRate && range.begin ≤ range.stop

/-- The causes of a chunk are facts of its run. -/
def validCauses (runId : Bytes) (causes : List Binary.FactId) : Bool :=
  causes.length ≤ maxFactCauses &&
    causes.all fun cause => cause.runId = runId && identifier cause.producerId && cause.producerSequence ≠ 0

def AudioDiscontinuity.wellFormed (runId : Bytes) (gap : AudioDiscontinuity) : Bool :=
  gap.affectedRange.wellFormed && consistentAvailability gap.outputRange &&
    gap.outputRange.value.all SampleFrameRange.wellFormed && validCauses runId gap.causeIds

/-- `well_formed` of a chunk: its payload is that of its range, and a confirmed one has its hash and its
checkpoint. -/
def AudioChunk.wellFormed (chunk : AudioChunk) : Bool :=
  identifier chunk.runId && identifier chunk.capturePoint && chunk.producerSequence ≠ 0 &&
    chunk.range.wellFormed && chunk.range.sampleRate = chunk.format.sampleRate &&
    consistentAvailability chunk.sha256 && consistentAvailability chunk.checkpointId &&
    chunk.discontinuities.length ≤ maxAudioDiscontinuities &&
    expectedPayloadBytes chunk.format (chunk.range.stop - chunk.range.begin) = some chunk.bytes.length &&
    chunk.checkpointId.value.all identifier &&
    (chunk.durability = .pending || (chunk.sha256.value.isSome && chunk.checkpointId.value.isSome)) &&
    validCauses chunk.runId chunk.causeIds && chunk.causeIds.Nodup &&
    chunk.discontinuities.all (AudioDiscontinuity.wellFormed chunk.runId)

end Chunk

section Message

inductive PcmMessageError
  | invalidChunk | metadataTooLarge | messageTooLarge | headerRejected | wrongMessageType | sequenceMismatch
  | truncated | lengthMismatch | malformedMetadata | pcmLengthMismatch | hashRequired | hashMismatch
  deriving DecidableEq, Repr

/-- The hash of a payload, the hash of a message, and the size of the metadata of a chunk as the TOML library
prints them. -/
structure PcmLibrary where
  sha256 : Bytes → Bytes
  identify : ℕ → AudioChunk → Bytes
  metadataBytes : AudioChunk → ℕ

/-- A message of the channel; its bytes are kept as what they hold. -/
structure PcmMessage where
  channelSequence : ℕ
  chunk : AudioChunk
  deriving DecidableEq

variable (library : PcmLibrary)

/-- The payload of a message: two lengths, the metadata and the PCM. -/
def payloadBytes (chunk : AudioChunk) : ℕ := 8 + library.metadataBytes chunk + chunk.bytes.length

/-- `encode_pcm_message` -/
def encodePcmMessage (chunk : AudioChunk) (channelSequence : ℕ) : Except PcmMessageError PcmMessage :=
  if !chunk.wellFormed ∨ channelSequence = 0 ∨ chunk.range.begin = chunk.range.stop then .error .invalidChunk
  else if chunk.sha256.availability ≠ .known ∨ chunk.sha256.value = none then .error .hashRequired
  else if chunk.sha256.value ≠ some (library.sha256 chunk.bytes) then .error .hashMismatch
  else if library.metadataBytes chunk = 0 ∨ maxProtocolPayloadBytes < library.metadataBytes chunk then
    .error .metadataTooLarge
  else if maxProtocolPayloadBytes < payloadBytes library chunk then .error .messageTooLarge
  else .ok ⟨channelSequence,chunk⟩

/-- What `decode_pcm_message` gives back of the chunk that a message holds: only the reason of its hash, which
the metadata do not carry, is dropped. -/
def PcmMessage.decoded (message : PcmMessage) : AudioChunk :=
  { message.chunk with sha256 := { message.chunk.sha256 with reasonCode := [] } }

end Message

section Facts

/-- A payload is never above the limit of its chunk. -/
lemma expectedPayloadBytes_le {format : AudioFormat} {frames size : ℕ}
    (h : expectedPayloadBytes format frames = some size) : size ≤ maxAudioPayloadBytes := by
  unfold expectedPayloadBytes at h
  split_ifs at h with hformat hframes
  cases h
  calc frames * format.frameBytes
      ≤ maxAudioPayloadBytes / format.frameBytes * format.frameBytes :=
        Nat.mul_le_mul_right _ (Nat.not_lt.mp hframes)
    _ ≤ maxAudioPayloadBytes := Nat.div_mul_le_self _ _

lemma AudioChunk.wellFormed_payload {chunk : AudioChunk} (h : chunk.wellFormed = true) :
    expectedPayloadBytes chunk.format (chunk.range.stop - chunk.range.begin) = some chunk.bytes.length := by
  unfold AudioChunk.wellFormed at h
  simp only [Bool.and_eq_true,decide_eq_true_eq] at h
  tauto

lemma AudioChunk.wellFormed_bytes {chunk : AudioChunk} (h : chunk.wellFormed = true) :
    chunk.bytes.length ≤ maxAudioPayloadBytes := expectedPayloadBytes_le (wellFormed_payload h)

end Facts
section Silence

def silentFrame : Bytes := [0,0]

/-- The SHA-256 of one silent frame. -/
def silentDigest : Bytes :=
  [150,162,150,210,36,242,133,198,123,238,147,195,15,138,48,145,
   87,240,218,163,93,197,184,126,65,11,120,99,10,9,207,199]

def silentLibrary : PcmLibrary :=
  ⟨fun bytes => if bytes = silentFrame then silentDigest else [],fun sequence _ => [UInt8.ofNat sequence],fun _ => 640⟩

end Silence
end AytherRuntime.Audio
