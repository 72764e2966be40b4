import AytherRuntime.Audio.Streamed
import AytherRuntime.Channel.Delivery
import AytherRuntime.Channel.Pcm

/-! The message of a chunk of PCM decodes to the chunk that was encoded, but for the reason of its hash, which the
metadata do not carry. -/
namespace AytherRuntime.Channel
open Audio (AudioChunk AudioDiscontinuity AudioFormat DiscontinuityKind Durability PcmFormat PcmMessageError
  SampleFrameRange expectedPayloadBytes maxAudioDiscontinuities)
open Binary (maxFactCauses)
open Check (Toml textOfBytes bytesOfText bytesOfText_textOfBytes mapM_map_some)
open Codec (Bytes writeLe length_writeLe)
open Checked (field field_written)
open Storage (hex hexBytes)

section Typed

/-- The numbers of a range fit the integers that the code keeps them in. -/
structure RangeTyped (range : SampleFrameRange) : Prop where
  sampleRate : range.sampleRate < 2 ^ 32
  begin : range.begin < 2 ^ 64
  stop : range.stop < 2 ^ 64

/-- The numbers and the digest of a chunk fit the integers and the array that the code keeps them in. -/
structure ChunkTyped (chunk : AudioChunk) : Prop where
  producerSequence : chunk.producerSequence < 2 ^ 64
  range : RangeTyped chunk.range
  digest : ∀ digest, chunk.sha256.value = some digest → digest.length = 32
  affected : ∀ gap ∈ chunk.discontinuities, RangeTyped gap.affectedRange
  output : ∀ gap ∈ chunk.discontinuities, ∀ range, gap.outputRange.value = some range → RangeTyped range
  segment : chunk.segment < 2 ^ 64

end Typed

section Values

lemma bytesAt_textNode {table : Toml} {key : String} {bytes : Bytes} (h : table.get key = some (textNode bytes)) :
    bytesAt key table = some bytes := by
  have htext : table.text key = some (textOfBytes bytes) := by
    rw [Toml.text,h]
    rfl
  rw [bytesAt,htext,Option.map_some,bytesOfText_textOfBytes]

lemma decimalAt_decimalNode {table : Toml} {key : String} {n : ℕ} (h : table.get key = some (decimalNode n))
    (hn : n < 2 ^ 64) : decimalAt key table = some n := by
  have htext : table.text key = some (toString n) := by
    rw [Toml.text,h]
    rfl
  rw [decimalAt,htext,Option.bind_some,fromChars_toString,if_pos hn]

lemma formatValue_name (format : PcmFormat) : formatValue (formatName format) = some format := by
  cases format <;> decide

lemma discontinuityValue_name (kind : DiscontinuityKind) :
    discontinuityValue (discontinuityName kind) = some kind := by
  cases kind <;> decide

lemma durabilityValue_name (durability : Durability) :
    durabilityValue (durabilityName durability) = some durability := by
  cases durability <;> decide

lemma named_availability (availability : Availability) :
    named availabilityName [.known,.notApplicable,.unknown] (availabilityName availability) = some availability := by
  cases availability <;> decide

lemma availabilityValue_name {table : Toml} {availability : Availability}
    (h : table.get "availability" = some (.string (availabilityName availability))) :
    availabilityValue table = some availability := by
  have htext : table.text "availability" = some (availabilityName availability) := by
    rw [Toml.text,h]
    rfl
  rw [availabilityValue,htext,Option.bind_some,named_availability]

end Values

section Parts

lemma parseRange_format {range : SampleFrameRange} (h : RangeTyped range) :
    parseRange (rangeTable range) = some range := by
  have htimeline : bytesAt "timeline" (rangeTable range) = some range.timelineId := bytesAt_textNode rfl
  have hrate : narrow "sample_rate" (rangeTable range) = some range.sampleRate := narrow_eq rfl h.sampleRate
  have hbegin : decimalAt "begin" (rangeTable range) = some range.begin := decimalAt_decimalNode rfl h.begin
  have hstop : decimalAt "end" (rangeTable range) = some range.stop := decimalAt_decimalNode rfl h.stop
  unfold parseRange
  rw [htimeline,hrate,hbegin,hstop]
  rfl

lemma parseRangeField_format {field : Binary.Field SampleFrameRange}
    (h : ∀ range, field.value = some range → RangeTyped range) : parseRangeField (rangeField field) = some field := by
  obtain ⟨availability,value,reason⟩ := field
  cases value with
  | none =>
    have havailability : availabilityValue (rangeField ⟨availability,none,reason⟩) = some availability :=
      availabilityValue_name rfl
    have hreason : bytesAt "reason_code" (rangeField ⟨availability,none,reason⟩) = some reason := bytesAt_textNode rfl
    unfold parseRangeField
    rw [havailability,hreason]
    rfl
  | some range =>
    have havailability : availabilityValue (rangeField ⟨availability,some range,reason⟩) = some availability :=
      availabilityValue_name rfl
    have hreason : bytesAt "reason_code" (rangeField ⟨availability,some range,reason⟩) = some reason :=
      bytesAt_textNode rfl
    have hvalue : (rangeField ⟨availability,some range,reason⟩).get "value" = some (rangeTable range) := rfl
    unfold parseRangeField
    rw [havailability,hreason,hvalue]
    simp only [Option.bind_eq_bind,Option.bind_some,parseRange_format (h range rfl),Option.map_some,Option.getD_some]

lemma parseCause_format (cause : Binary.FactId) : parseCause (causeTable cause) = some cause := by
  have hrun : bytesAt "run_id" (causeTable cause) = some cause.runId := bytesAt_textNode rfl
  have hproducer : bytesAt "producer_id" (causeTable cause) = some cause.producerId := bytesAt_textNode rfl
  have hsequence : decimalAt "producer_sequence" (causeTable cause) = some cause.producerSequence.toNat :=
    decimalAt_decimalNode rfl cause.producerSequence.toNat_lt
  unfold parseCause
  rw [hrun,hproducer,hsequence]
  simp only [Option.bind_eq_bind,Option.bind_some,UInt64.ofNat_toNat]

/-- A list within its limit is read as it was written where each of its entries is. -/
lemma parseArray_format {α : Type} {limit : ℕ} {parse : Toml → Option α} {format : α → Toml} {values : List α}
    (hlimit : values.length ≤ limit) (h : ∀ value ∈ values, parse (format value) = some value) :
    parseArray limit parse (.array (values.map format)) = some values := by
  change (if limit < (values.map format).length then none else (values.map format).mapM parse) = some values
  rw [List.length_map,if_neg (Nat.not_lt.mpr hlimit),mapM_map_some h]

lemma parseCauses_format {causes : List Binary.FactId} (h : causes.length ≤ maxFactCauses) :
    parseCauses (causesTable causes) = some causes := parseArray_format h fun cause _ => parseCause_format cause

lemma parseDiscontinuity_format {gap : AudioDiscontinuity} (hcauses : gap.causeIds.length ≤ maxFactCauses)
    (haffected : RangeTyped gap.affectedRange)
    (houtput : ∀ range, gap.outputRange.value = some range → RangeTyped range) :
    parseDiscontinuity (discontinuityTable gap) = some gap := by
  have hkind : (discontinuityTable gap).text "kind" = some (discontinuityName gap.kind) := rfl
  have haffectedRange : ((discontinuityTable gap).get "affected_range").bind parseRange = some gap.affectedRange :=
    parseRange_format haffected
  have houtputRange : ((discontinuityTable gap).get "output_range").bind parseRangeField = some gap.outputRange :=
    parseRangeField_format houtput
  have hcauseIds : ((discontinuityTable gap).get "cause_ids").bind parseCauses = some gap.causeIds :=
    parseCauses_format hcauses
  unfold parseDiscontinuity
  rw [hkind,haffectedRange,houtputRange,hcauseIds]
  simp only [Option.bind_eq_bind,Option.bind_some,discontinuityValue_name]

lemma parseCheckpoint_format (checkpoint : Binary.Field Bytes) :
    parseCheckpoint (checkpointTable checkpoint) = some checkpoint := by
  obtain ⟨availability,value,reason⟩ := checkpoint
  have havailability : availabilityValue (checkpointTable ⟨availability,value,reason⟩) = some availability :=
    availabilityValue_name rfl
  have hreason : bytesAt "reason_code" (checkpointTable ⟨availability,value,reason⟩) = some reason :=
    bytesAt_textNode rfl
  have hvalue : bytesAt "value" (checkpointTable ⟨availability,value,reason⟩) = value := by
    cases value with
    | none => rfl
    | some value => exact bytesAt_textNode rfl
  unfold parseCheckpoint
  rw [havailability,hreason,hvalue]
  rfl

end Parts

section Metadata
variable {chunk : AudioChunk}

lemma schemaMinor_cases (chunk : AudioChunk) :
    schemaMinor chunk = 2 ∧ chunk.segment ≠ 0 ∨ schemaMinor chunk = 1 ∧ chunk.segment = 0 ∧ chunk.causeIds ≠ [] ∨
      schemaMinor chunk = 0 ∧ chunk.segment = 0 ∧ chunk.causeIds = [] := by
  unfold schemaMinor
  by_cases hsegment : chunk.segment = 0
  · rw [if_neg (not_not.mpr hsegment)]
    by_cases hcauses : chunk.causeIds = []
    · exact Or.inr (Or.inr ⟨if_pos hcauses,hsegment,hcauses⟩)
    · exact Or.inr (Or.inl ⟨if_neg hcauses,hsegment,hcauses⟩)
  · exact Or.inl ⟨if_pos hsegment,hsegment⟩

lemma parseMinor_metadata (chunk : AudioChunk) : parseMinor (metadata chunk) = some (schemaMinor chunk) := by
  have hminor : (metadata chunk).number "schema_minor" = some (schemaMinor chunk) := rfl
  have hversion : (metadata chunk).number "schema_version" = some 1 := rfl
  unfold parseMinor
  rw [hminor,hversion]
  obtain ⟨hcase,-⟩ | ⟨hcase,-⟩ | ⟨hcase,-⟩ := schemaMinor_cases chunk <;>
  · rw [hcase]
    rfl

/-- The head of the metadata of a chunk. -/
def metadataHead (chunk : AudioChunk) : MetadataHead :=
  ⟨schemaMinor chunk,chunk.runId,chunk.capturePoint,chunk.producerSequence,chunk.format,chunk.range⟩

lemma parseHead_metadata (h : ChunkTyped chunk) (hrate : chunk.range.sampleRate = chunk.format.sampleRate)
    (hchannels : chunk.format.channels ≤ 255) (hrange : chunk.range.begin < chunk.range.stop) :
    parseHead (metadata chunk) = some (metadataHead chunk) := by
  have hrun : bytesAt "run_id" (metadata chunk) = some chunk.runId := bytesAt_textNode rfl
  have hcapture : bytesAt "capture_point" (metadata chunk) = some chunk.capturePoint := bytesAt_textNode rfl
  have hformat : ((metadata chunk).text "pcm_format").bind formatValue = some chunk.format.pcm :=
    formatValue_name chunk.format.pcm
  have hsampleRate : narrow "sample_rate" (metadata chunk) = some chunk.format.sampleRate :=
    narrow_eq rfl (hrate ▸ h.range.sampleRate)
  have hread : readChannels chunk.format.channels = some chunk.format.channels := by
    rw [readChannels,if_neg (by omega),Int.toNat_natCast]
  have hcount : ((metadata chunk).number "channels").bind readChannels = some chunk.format.channels := hread
  have htimeline : bytesAt "timeline" (metadata chunk) = some chunk.range.timelineId := bytesAt_textNode rfl
  have hsequence : decimalAt "producer_sequence" (metadata chunk) = some chunk.producerSequence :=
    decimalAt_decimalNode rfl h.producerSequence
  have hbegin : decimalAt "sample_begin" (metadata chunk) = some chunk.range.begin :=
    decimalAt_decimalNode rfl h.range.begin
  have hstop := h.range.stop
  have hframes : decimalAt "sample_count" (metadata chunk) = some (chunk.range.stop - chunk.range.begin) :=
    decimalAt_decimalNode rfl (by omega)
  have hend : chunk.range.begin + (chunk.range.stop - chunk.range.begin) = chunk.range.stop := by omega
  unfold parseHead
  rw [parseMinor_metadata,hrun,hcapture,hformat,hsampleRate,hcount,htimeline,hsequence,hbegin,hframes]
  simp only [Option.bind_eq_bind,Option.bind_some]
  rw [if_neg (by omega),hend,← hrate]
  rw [metadataHead]
  congr 2
  rw [hrate]

lemma parseSegment_metadata (h : ChunkTyped chunk) :
    parseSegment (schemaMinor chunk) (metadata chunk) = some chunk.segment := by
  unfold parseSegment
  by_cases hsegment : chunk.segment = 0
  · have hminor : schemaMinor chunk ≠ 2 := by
      obtain ⟨-,hne⟩ | ⟨hcase,-⟩ | ⟨hcase,-⟩ := schemaMinor_cases chunk
      · exact absurd hsegment hne
      · rw [hcase]
        decide
      · rw [hcase]
        decide
    have hnone : (metadata chunk).get "segment" = none := by
      rw [metadata,if_pos hsegment]
      rfl
    rw [if_neg hminor,hnone,hsegment]
    rfl
  · have hminor : schemaMinor chunk = 2 := if_pos hsegment
    have hsome : (metadata chunk).get "segment" = some (decimalNode chunk.segment) := by
      rw [metadata,if_neg hsegment]
      rfl
    rw [if_pos hminor,decimalAt_decimalNode hsome h.segment,Option.filter_some,if_pos (decide_eq_true hsegment)]

lemma parseCauseIds_metadata (minor : Int) (h : chunk.causeIds.length ≤ maxFactCauses) :
    parseCauseIds minor (metadata chunk) = some chunk.causeIds := parseCauses_format h

/-- The chunk as its metadata give it, before its samples. -/
def unfilled (chunk : AudioChunk) (digest : Bytes) : AudioChunk :=
  { chunk with bytes := [], sha256 := ⟨.known,some digest,[]⟩ }

lemma gap_causes {runId : Bytes} {gap : AudioDiscontinuity} (h : gap.wellFormed runId = true) :
    gap.causeIds.length ≤ maxFactCauses := by
  unfold AudioDiscontinuity.wellFormed Audio.validCauses at h
  simp only [Bool.and_eq_true,decide_eq_true_eq] at h
  exact h.2.1

lemma parseDiscontinuities_metadata (h : chunk.wellFormed = true) (htyped : ChunkTyped chunk) :
    ((metadata chunk).get "discontinuities").bind parseDiscontinuities = some chunk.discontinuities := by
  obtain ⟨-,-,-,-,-,-,hlimit,hgaps⟩ := Audio.AudioChunk.wellFormed_iff.mp h
  exact parseArray_format hlimit fun gap hgap =>
    parseDiscontinuity_format (gap_causes (List.all_eq_true.mp hgaps gap hgap)) (htyped.affected gap hgap)
      (htyped.output gap hgap)

lemma parseTail_metadata {digest : Bytes} (h : chunk.wellFormed = true) (htyped : ChunkTyped chunk)
    (hdigest : digest.length = 32) :
    parseTail (metadataHead chunk) (hex digest) (metadata chunk) = some (unfilled chunk digest) := by
  have hhash : parseDigest (hex digest) = some digest := by
    rw [parseDigest,hexBytes_hex,Option.filter_some,if_pos (decide_eq_true hdigest)]
  have hcheckpoint : ((metadata chunk).get "checkpoint").bind parseCheckpoint = some chunk.checkpointId :=
    parseCheckpoint_format chunk.checkpointId
  have hdurability : ((metadata chunk).text "durability").bind durabilityValue = some chunk.durability :=
    durabilityValue_name chunk.durability
  unfold parseTail
  rw [hhash,hcheckpoint,hdurability,parseDiscontinuities_metadata h htyped,
    parseCauseIds_metadata _ (Audio.wellFormed_causes h)]
  simp only [Option.bind_eq_bind,Option.bind_some]
  rw [show (metadataHead chunk).minor = schemaMinor chunk from rfl,parseSegment_metadata htyped]
  rfl

/-- The metadata of a chunk are read as its fields. -/
lemma parseMetadata_metadata {digest : Bytes} (h : chunk.wellFormed = true) (htyped : ChunkTyped chunk)
    (hrange : chunk.range.begin < chunk.range.stop) (hdigest : chunk.sha256.value = some digest) :
    parseMetadata (metadata chunk) = .ok (unfilled chunk digest) := by
  obtain ⟨-,⟨-,hrate⟩,-,-,hpayload,-⟩ := Audio.AudioChunk.wellFormed_iff.mp h
  have hchannels := (Audio.expectedPayloadBytes_iff.mp hpayload).1.2.2.2
  have hhex : (metadata chunk).text "sha256" = some (hex digest) := by
    change some (hex (chunk.sha256.value.getD [])) = _
    rw [hdigest,Option.getD_some]
  unfold parseMetadata
  rw [parseHead_metadata htyped hrate (by omega) hrange]
  dsimp only
  rw [hhex]
  dsimp only
  rw [parseTail_metadata h htyped (htyped.digest digest hdigest)]

end Metadata

section Message
variable {library : PcmLibrary} {chunk : AudioChunk}

/-- The chunk as it is received: the reason of its hash is not carried. -/
def receivedChunk (chunk : AudioChunk) : AudioChunk := { chunk with sha256 := { chunk.sha256 with reasonCode := [] } }

lemma receivedChunk_wellFormed (h : chunk.wellFormed = true) (hknown : chunk.sha256.availability = .known)
    (hsome : chunk.sha256.value.isSome = true) : (receivedChunk chunk).wellFormed = true := by
  have hhash : Binary.consistentAvailability (receivedChunk chunk).sha256 = true := by
    unfold Binary.consistentAvailability receivedChunk
    rw [hknown]
    exact hsome
  obtain ⟨hidentity,hrange,-,hrest⟩ := Audio.AudioChunk.wellFormed_iff.mp h
  exact Audio.AudioChunk.wellFormed_iff.mpr ⟨hidentity,hrange,hhash,hrest⟩

/-- The payload of a message: two lengths, the metadata and the samples. -/
def pcmPayload (text samples : Bytes) : Bytes :=
  writeLe 4 text.length ++ (writeLe 4 samples.length ++ (text ++ samples))

@[simp] lemma length_pcmPayload (text samples : Bytes) :
    (pcmPayload text samples).length = 8 + text.length + samples.length := by
  simp [pcmPayload]
  omega

lemma pcmPayload_metadata (text samples : Bytes) : ((pcmPayload text samples).drop 8).take text.length = text := by
  rw [pcmPayload,← List.append_assoc,List.drop_left' (by simp),List.take_left' rfl]

lemma pcmPayload_samples (text samples : Bytes) :
    ((pcmPayload text samples).drop (8 + text.length)).take samples.length = samples := by
  rw [pcmPayload,← List.append_assoc,← List.append_assoc,List.drop_left' (by simp; omega),List.take_length]

/-- The payload of a chunk decodes to the chunk that is received. -/
lemma decodePayload_pcmPayload {text : Bytes} (h : chunk.wellFormed = true) (htyped : ChunkTyped chunk)
    (hknown : chunk.sha256.availability = .known) (hdigest : chunk.sha256.value = some (library.sha256 chunk.bytes))
    (hrange : chunk.range.begin < chunk.range.stop) (htext : text ≠ [])
    (hsize : 8 + text.length + chunk.bytes.length ≤ maxProtocolPayloadBytes)
    (hparse : library.parse text = some (metadata chunk)) :
    decodePayload library (pcmPayload text chunk.bytes) = .ok (receivedChunk chunk) := by
  have hpayload := Audio.AudioChunk.wellFormed_payload h
  obtain ⟨⟨-,-,hchannels,-⟩,hframes,-⟩ := Audio.expectedPayloadBytes_iff.mp hpayload
  have hsamples : 0 < chunk.bytes.length := by
    rw [← hframes]
    exact Nat.mul_pos (by omega) (chunk.format.frameBytes_pos hchannels)
  have hpositive := List.length_pos_iff.mpr htext
  have hmax : maxProtocolPayloadBytes < 256 ^ 4 := by decide
  have hmetadata : field (pcmPayload text chunk.bytes) 0 4 = text.length := field_written [] rfl rfl (by omega)
  have hpcm : field (pcmPayload text chunk.bytes) 4 4 = chunk.bytes.length :=
    field_written (writeLe 4 text.length) rfl (length_writeLe ..) (by omega)
  have hfilled : unfilled chunk (library.sha256 chunk.bytes) = { receivedChunk chunk with bytes := [] } := by
    rw [unfilled,receivedChunk,← hdigest,← hknown]
  have hsome : chunk.sha256.value ≠ none := by
    rw [hdigest]
    exact Option.some_ne_none _
  have hwellFormed := receivedChunk_wellFormed h hknown (Option.isSome_iff_ne_none.mpr hsome)
  unfold decodePayload
  dsimp only
  rw [hmetadata,hpcm,length_pcmPayload,if_neg (by omega),if_neg (by omega),pcmPayload_metadata,hparse]
  dsimp only
  rw [parseMetadata_metadata h htyped hrange hdigest]
  dsimp only
  rw [pcmPayload_samples,hfilled]
  refine (if_neg (not_not.mpr hpayload)).trans ((if_neg (not_or.mpr ⟨not_not.mpr hknown,hsome⟩)).trans
    ((if_neg (not_not.mpr hdigest)).trans (if_neg ?_)))
  change ¬(!(receivedChunk chunk).wellFormed) = true
  rw [hwellFormed]
  decide

/-- The message of a payload: its header before it. -/
def pcmMessage (text samples : Bytes) (sequence : UInt64) : Bytes :=
  encodeProtocolHeader ⟨.audioChunk,(pcmPayload text samples).length,2,sequence.toNat⟩ ++ pcmPayload text samples

/-- A message within its limits is decoded as its payload. -/
lemma decode_pcmMessage {text samples : Bytes} {sequence : UInt64}
    (hsize : 8 + text.length + samples.length ≤ maxProtocolPayloadBytes) (hsequence : sequence ≠ 0) :
    decodePcmMessage library (pcmMessage text samples sequence) sequence =
      decodePayload library (pcmPayload text samples) := by
  have hlength := length_pcmPayload text samples
  have hpayload : 0 < (pcmPayload text samples).length ∧
      (pcmPayload text samples).length ≤ maxProtocolPayloadBytes := by
    omega
  have hnumber : 0 < sequence.toNat := Nat.pos_of_ne_zero fun hzero => hsequence (UInt64.toNat.inj hzero)
  have hheader : decodeProtocolHeader (encodeProtocolHeader
      ⟨.audioChunk,(pcmPayload text samples).length,2,sequence.toNat⟩) 2 = .ok _ :=
    decodeProtocolHeader_encode ⟨hpayload,rfl,hnumber,sequence.toNat_lt⟩
  unfold decodePcmMessage pcmMessage
  rw [List.take_left' (length_encodeProtocolHeader _),hheader]
  dsimp only
  rw [if_neg (not_not.mpr rfl),if_neg (not_not.mpr rfl),if_neg (by
    rw [List.length_append,length_encodeProtocolHeader,Nat.add_sub_cancel_left]
    exact not_not.mpr rfl),List.drop_left' (length_encodeProtocolHeader _)]

/-- The message that the encoder gives of a chunk that it takes. -/
lemma encodePcmMessage_eq {sequence : UInt64} (h : chunk.wellFormed = true)
    (hknown : chunk.sha256.availability = .known) (hdigest : chunk.sha256.value = some (library.sha256 chunk.bytes))
    (hrange : chunk.range.begin ≠ chunk.range.stop) (htext : library.print (metadata chunk) ≠ [])
    (hsize : 8 + (library.print (metadata chunk)).length + chunk.bytes.length ≤ maxProtocolPayloadBytes)
    (hsequence : sequence ≠ 0) :
    encodePcmMessage library chunk sequence =
      .ok (pcmMessage (library.print (metadata chunk)) chunk.bytes sequence) := by
  have hsome : chunk.sha256.value ≠ none := by
    rw [hdigest]
    exact Option.some_ne_none _
  unfold encodePcmMessage
  rw [h,if_neg (not_or.mpr ⟨by decide,not_or.mpr ⟨hsequence,hrange⟩⟩),
    if_neg (not_or.mpr ⟨not_not.mpr hknown,hsome⟩),if_neg (not_not.mpr hdigest)]
  dsimp only
  rw [if_neg (not_or.mpr ⟨htext,by omega⟩),if_neg (by omega)]
  rfl

/-- What is encoded of a chunk decodes to it but for the reason of its hash. -/
lemma decodePcmMessage_encode {sequence : UInt64} (h : chunk.wellFormed = true) (htyped : ChunkTyped chunk)
    (hknown : chunk.sha256.availability = .known) (hdigest : chunk.sha256.value = some (library.sha256 chunk.bytes))
    (hrange : chunk.range.begin ≠ chunk.range.stop) (htext : library.print (metadata chunk) ≠ [])
    (hsize : 8 + (library.print (metadata chunk)).length + chunk.bytes.length ≤ maxProtocolPayloadBytes)
    (hsequence : sequence ≠ 0) (hlibrary : library.parse (library.print (metadata chunk)) = some (metadata chunk)) :
    ∃ message, encodePcmMessage library chunk sequence = .ok message ∧
      decodePcmMessage library message sequence = .ok (receivedChunk chunk) := by
  have hordered := (Audio.SampleFrameRange.wellFormed_iff.mp (Audio.AudioChunk.wellFormed_iff.mp h).2.1.1).2.2
  have hdecoded : decodePayload library (pcmPayload (library.print (metadata chunk)) chunk.bytes) =
      .ok (receivedChunk chunk) :=
    decodePayload_pcmPayload h htyped hknown hdigest (by omega) htext hsize hlibrary
  exact ⟨_,encodePcmMessage_eq h hknown hdigest hrange htext hsize hsequence,
    (decode_pcmMessage hsize hsequence).trans hdecoded⟩

/-- A well-formed chunk with its hash and with samples, of a size within the limits of the channel, arrives as it was
but for the reason of its hash; its minor is that of its segment and causes. -/
theorem chunk_delivered {sequence : UInt64} (h : chunk.wellFormed = true) (htyped : ChunkTyped chunk)
    (hknown : chunk.sha256.availability = .known) (hdigest : chunk.sha256.value = some (library.sha256 chunk.bytes))
    (hrange : chunk.range.begin ≠ chunk.range.stop) (htext : library.print (metadata chunk) ≠ [])
    (hsize : 8 + (library.print (metadata chunk)).length + chunk.bytes.length ≤ maxProtocolPayloadBytes)
    (hsequence : sequence ≠ 0) (hlibrary : library.parse (library.print (metadata chunk)) = some (metadata chunk)) :
    (∃ message, encodePcmMessage library chunk sequence = .ok message ∧
      decodePcmMessage library message sequence = .ok (receivedChunk chunk)) ∧
      ((metadata chunk).number "schema_minor" = some 2 ↔ chunk.segment ≠ 0) ∧
      (chunk.segment = 0 → ((metadata chunk).number "schema_minor" = some 1 ↔ chunk.causeIds ≠ [])) := by
  have hminor : (metadata chunk).number "schema_minor" = some (schemaMinor chunk) := rfl
  refine ⟨decodePcmMessage_encode h htyped hknown hdigest hrange htext hsize hsequence hlibrary,?_,?_⟩
  · rw [hminor,Option.some.injEq]
    obtain ⟨hcase,hsegment⟩ | ⟨hcase,hsegment,-⟩ | ⟨hcase,hsegment,-⟩ := schemaMinor_cases chunk <;>
      simp [hcase,hsegment]
  · intro hsegment
    rw [hminor,Option.some.injEq]
    obtain ⟨-,hne⟩ | ⟨hcase,-,hcauses⟩ | ⟨hcase,-,hcauses⟩ := schemaMinor_cases chunk
    · exact absurd hsegment hne
    · simp [hcase,hcauses]
    · simp [hcase,hcauses]

/-- The library of the messages as the abstract channel of the audio uses it. -/
def PcmLibrary.sized (library : PcmLibrary) (identify : ℕ → AudioChunk → Bytes) : Audio.PcmLibrary :=
  ⟨library.sha256,identify,fun chunk => (library.print (metadata chunk)).length⟩

/-- The channel of the audio takes a chunk exactly where its bytes are encoded, with the same errors. -/
theorem encodePcmMessage_refines (identify : ℕ → AudioChunk → Bytes) (chunk : AudioChunk) (sequence : UInt64) :
    Audio.encodePcmMessage (library.sized identify) chunk sequence.toNat =
      (encodePcmMessage library chunk sequence).map fun _ => ⟨sequence.toNat,chunk⟩ := by
  have hzero : sequence.toNat = 0 ↔ sequence = 0 := by rw [← UInt64.toNat_inj,UInt64.toNat_zero]
  have hempty : (library.print (metadata chunk)).length = 0 ↔ library.print (metadata chunk) = [] :=
    List.length_eq_zero_iff
  unfold Audio.encodePcmMessage encodePcmMessage PcmLibrary.sized Audio.payloadBytes
  simp only [hzero,hempty,show Audio.maxProtocolPayloadBytes = maxProtocolPayloadBytes from rfl]
  split_ifs <;> rfl

end Message

section Caused

/-- The SHA-256 of the two frames below. -/
def causedDigest : Bytes :=
  [73,22,129,248,101,181,170,202,134,67,158,68,221,73,126,18,87,91,9,1,32,104,27,63,
    45,22,196,226,134,77,245,229]

/-- Two frames of two channels in one block of the second segment, with the facts that caused them. -/
def causedChunk : AudioChunk where
  runId := "run".toUTF8.toList
  capturePoint := "mix".toUTF8.toList
  producerSequence := 6
  format := ⟨.s16le,48000,2⟩
  range := ⟨"t".toUTF8.toList,48000,96,98⟩
  bytes := [0,0,1,0,255,127,0,128]
  sha256 := ⟨.known,some causedDigest,[]⟩
  checkpointId := ⟨.notApplicable,none,"not_published_by_runtime".toUTF8.toList⟩
  causeIds := [⟨"run".toUTF8.toList,"engine-2".toUTF8.toList,9⟩,⟨"run".toUTF8.toList,"engine-1".toUTF8.toList,4⟩]
  segment := 1

def causedLines : List String :=
  ["capture_point = 'mix'","channels = 2","discontinuities = []","durability = 'pending'","pcm_format = 's16le'",
    "producer_sequence = '6'","run_id = 'run'","sample_begin = '96'","sample_count = '2'","sample_rate = 48000",
    "schema_minor = 2","schema_version = 1","segment = '1'","sha256 = '" ++ hex causedDigest ++ "'","timeline = 't'",
    "","[checkpoint]","availability = 'not_applicable'","reason_code = 'not_published_by_runtime'",
    "","[[causes]]","producer_id = 'engine-2'","producer_sequence = '9'","run_id = 'run'",
    "","[[causes]]","producer_id = 'engine-1'","producer_sequence = '4'","run_id = 'run'"]

/-- The library on the metadata of the two frames. -/
def causedText : PcmLibrary where
  print _ := linesBytes causedLines
  parse bytes := if bytes = linesBytes causedLines then some (metadata causedChunk) else none
  sha256 bytes := if bytes = causedChunk.bytes then causedDigest else []

lemma causedChunk_typed : ChunkTyped causedChunk where
  producerSequence := by norm_num [causedChunk]
  range := by constructor <;> norm_num [causedChunk]
  digest := by
    intro digest hdigest
    cases hdigest
    rfl
  affected := by simp [causedChunk]
  output := by simp [causedChunk]
  segment := by norm_num [causedChunk]

theorem causedChunk_delivered :
    (∃ message, encodePcmMessage causedText causedChunk 3 = .ok message ∧
      decodePcmMessage causedText message 3 = .ok (receivedChunk causedChunk)) ∧
      ((metadata causedChunk).number "schema_minor" = some 2 ↔ causedChunk.segment ≠ 0) ∧
      (causedChunk.segment = 0 →
        ((metadata causedChunk).number "schema_minor" = some 1 ↔ causedChunk.causeIds ≠ [])) :=
  chunk_delivered (by decide +kernel) causedChunk_typed rfl rfl (by decide)
    (by decide +kernel) (by decide +kernel) (by decide) (if_pos rfl)

end Caused

section Silence

/-- One frame of silence with its digest, which has a reason or none. -/
def silentChunk (reason : Bytes) : AudioChunk where
  runId := [114,117,110]
  capturePoint := [109,105,120]
  producerSequence := 1
  format := ⟨.s16le,48000,1⟩
  range := ⟨[116],48000,0,1⟩
  bytes := Audio.silentFrame
  sha256 := ⟨.known,some Audio.silentDigest,reason⟩
  checkpointId := ⟨.unknown,none,[]⟩

def silentLines : List String :=
  ["capture_point = 'mix'","causes = []","channels = 1","discontinuities = []","durability = 'pending'",
    "pcm_format = 's16le'","producer_sequence = '1'","run_id = 'run'","sample_begin = '0'","sample_count = '1'",
    "sample_rate = 48000","schema_minor = 0","schema_version = 1","sha256 = '" ++ hex Audio.silentDigest ++ "'",
    "timeline = 't'","","[checkpoint]","availability = 'unknown'","reason_code = ''"]

/-- The library on the metadata of the frame. -/
def silentText : PcmLibrary where
  print _ := linesBytes silentLines
  parse bytes := if bytes = linesBytes silentLines then some (metadata (silentChunk [])) else none
  sha256 := Audio.silentLibrary.sha256

lemma silentChunk_typed (reason : Bytes) : ChunkTyped (silentChunk reason) where
  producerSequence := by norm_num [silentChunk]
  range := by constructor <;> norm_num [silentChunk]
  digest := by
    intro digest hdigest
    cases hdigest
    rfl
  affected := by simp [silentChunk]
  output := by simp [silentChunk]
  segment := by norm_num [silentChunk]

lemma silentText_nonempty : linesBytes silentLines ≠ [] := by decide +kernel

lemma silentText_size : 8 + (linesBytes silentLines).length + Audio.silentFrame.length ≤ maxProtocolPayloadBytes := by
  decide +kernel

/-- The digest of a chunk has a reason, and the chunk that arrives has none. -/
theorem reasonedChunk_altered :
    (silentChunk [114]).wellFormed = true ∧ (silentChunk [114]).sha256.availability = .known ∧
      (silentChunk [114]).sha256.value = some (silentText.sha256 (silentChunk [114]).bytes) ∧
      silentText.parse (silentText.print (metadata (silentChunk [114]))) = some (metadata (silentChunk [114])) ∧
      ∃ message, encodePcmMessage silentText (silentChunk [114]) 1 = .ok message ∧
        decodePcmMessage silentText message 1 ≠ .ok (silentChunk [114]) := by
  have hwellFormed : (silentChunk [114]).wellFormed = true := by decide
  refine ⟨hwellFormed,rfl,rfl,if_pos rfl,_,encodePcmMessage_eq hwellFormed rfl rfl (by decide) silentText_nonempty
    silentText_size (by decide),?_⟩
  have hdecoded := decodePayload_pcmPayload hwellFormed (silentChunk_typed [114]) rfl
    (show (silentChunk [114]).sha256.value = some (silentText.sha256 (silentChunk [114]).bytes) from rfl) (by decide)
      silentText_nonempty silentText_size (if_pos rfl)
  have hdecode : decodePcmMessage silentText (pcmMessage (linesBytes silentLines) (silentChunk [114]).bytes 1) 1 = _ :=
    (decode_pcmMessage silentText_size (by decide)).trans hdecoded
  intro hsame
  have hchunk := Except.ok.inj (hdecode.symm.trans hsame)
  exact absurd hchunk (by decide)

end Silence
end AytherRuntime.Channel
