import AytherRuntime.Audio.Chunk
import AytherRuntime.Channel.Terminal

/-! The message of a chunk of PCM: the table of its metadata, in three minors, and the bytes that carry the table
with the samples. -/
namespace AytherRuntime.Channel
open Audio (AudioChunk AudioDiscontinuity AudioFormat DiscontinuityKind Durability PcmFormat PcmMessageError
  SampleFrameRange expectedPayloadBytes maxAudioDiscontinuities)
open Binary (maxFactCauses)
open Check (Toml textOfBytes bytesOfText)
open Checked (field)
open Codec (Bytes writeLe)
open Storage (hex hexBytes)

section Metadata

def formatName : PcmFormat → String
  | .s16le => "s16le"
  | .s24le => "s24le"
  | .s32le => "s32le"
  | .f32le => "f32le"

def availabilityName : Availability → String
  | .known => "known"
  | .notApplicable => "not_applicable"
  | .unknown => "unknown"

def discontinuityName : DiscontinuityKind → String
  | .insertedSilence => "inserted_silence"
  | .discardedAudio => "discarded_audio"

def durabilityName : Durability → String
  | .pending => "pending"
  | .confirmed => "confirmed"

def textNode (bytes : Bytes) : Toml := .string (textOfBytes bytes)

/-- `std::to_string` of a number. -/
def decimalNode (n : ℕ) : Toml := .string (toString n)

def rangeTable (range : SampleFrameRange) : Toml :=
  .table [("timeline",textNode range.timelineId),("sample_rate",.integer range.sampleRate),
    ("begin",decimalNode range.begin),("end",decimalNode range.stop)]

def rangeField (field : Binary.Field SampleFrameRange) : Toml :=
  .table ([("availability",.string (availabilityName field.availability)),("reason_code",textNode field.reasonCode)] ++
    match field.value with
    | some range => [("value",rangeTable range)]
    | none => [])

def causeTable (cause : Binary.FactId) : Toml :=
  .table [("run_id",textNode cause.runId),("producer_id",textNode cause.producerId),
    ("producer_sequence",decimalNode cause.producerSequence.toNat)]

def causesTable (causes : List Binary.FactId) : Toml := .array (causes.map causeTable)

def discontinuityTable (discontinuity : AudioDiscontinuity) : Toml :=
  .table [("kind",.string (discontinuityName discontinuity.kind)),
    ("affected_range",rangeTable discontinuity.affectedRange),("output_range",rangeField discontinuity.outputRange),
    ("cause_ids",causesTable discontinuity.causeIds)]

def checkpointTable (checkpoint : Binary.Field Bytes) : Toml :=
  .table ([("availability",.string (availabilityName checkpoint.availability)),
      ("reason_code",textNode checkpoint.reasonCode)] ++
    match checkpoint.value with
    | some value => [("value",textNode value)]
    | none => [])

/-- Minor 1 adds the causes, and minor 2 the segment of the traversal. -/
def schemaMinor (chunk : AudioChunk) : Int := if chunk.segment ≠ 0 then 2 else if chunk.causeIds = [] then 0 else 1

def metadata (chunk : AudioChunk) : Toml :=
  .table ([("schema_version",.integer 1),("schema_minor",.integer (schemaMinor chunk)),("run_id",textNode chunk.runId),
      ("capture_point",textNode chunk.capturePoint),("producer_sequence",decimalNode chunk.producerSequence),
      ("pcm_format",.string (formatName chunk.format.pcm)),("sample_rate",.integer chunk.format.sampleRate),
      ("channels",.integer chunk.format.channels),("timeline",textNode chunk.range.timelineId),
      ("sample_begin",decimalNode chunk.range.begin),
      ("sample_count",decimalNode (chunk.range.stop - chunk.range.begin)),
      ("sha256",.string (hex (chunk.sha256.value.getD []))),("durability",.string (durabilityName chunk.durability)),
      ("checkpoint",checkpointTable chunk.checkpointId),("causes",causesTable chunk.causeIds),
      ("discontinuities",.array (chunk.discontinuities.map discontinuityTable))] ++
    if chunk.segment = 0 then [] else [("segment",decimalNode chunk.segment)])

end Metadata

section Parse

def bytesAt (key : String) (table : Toml) : Option Bytes := (table.text key).map bytesOfText

/-- `decimal` -/
def decimalAt (key : String) (table : Toml) : Option ℕ :=
  (table.text key).bind fun text => fromChars (2 ^ 64) text.toList

/-- A name of a list, as its place in the enumeration. -/
def named {α : Type} (name : α → String) (values : List α) (text : String) : Option α :=
  values.find? fun value => name value = text

def formatValue : String → Option PcmFormat := named formatName [.s16le,.s24le,.s32le,.f32le]

def availabilityValue (table : Toml) : Option Availability :=
  (table.text "availability").bind (named availabilityName [.known,.notApplicable,.unknown])

def discontinuityValue : String → Option DiscontinuityKind :=
  named discontinuityName [.insertedSilence,.discardedAudio]

def durabilityValue : String → Option Durability := named durabilityName [.pending,.confirmed]

def parseRange (table : Toml) : Option SampleFrameRange := do
  let timeline ← bytesAt "timeline" table
  let rate ← narrow "sample_rate" table
  let first ← decimalAt "begin" table
  let stop ← decimalAt "end" table
  some ⟨timeline,rate,first,stop⟩

def parseRangeField (table : Toml) : Option (Binary.Field SampleFrameRange) := do
  let availability ← availabilityValue table
  let reason := (bytesAt "reason_code" table).getD []
  match table.get "value" with
  | none => some ⟨availability,none,reason⟩
  | some node => (parseRange node).map fun range => ⟨availability,some range,reason⟩

def parseCause (table : Toml) : Option Binary.FactId := do
  let run ← bytesAt "run_id" table
  let producer ← bytesAt "producer_id" table
  let sequence ← decimalAt "producer_sequence" table
  some ⟨run,producer,.ofNat sequence⟩

/-- An array of at most so many entries. -/
def parseArray {α : Type} (limit : ℕ) (parse : Toml → Option α) (node : Toml) : Option (List α) :=
  node.asArray.bind fun nodes => if limit < nodes.length then none else nodes.mapM parse

def parseCauses : Toml → Option (List Binary.FactId) := parseArray maxFactCauses parseCause

def parseDiscontinuity (table : Toml) : Option AudioDiscontinuity := do
  let kind ← (table.text "kind").bind discontinuityValue
  let affected ← (table.get "affected_range").bind parseRange
  let output ← (table.get "output_range").bind parseRangeField
  let causes ← (table.get "cause_ids").bind parseCauses
  some ⟨kind,affected,output,causes⟩

def parseDiscontinuities : Toml → Option (List AudioDiscontinuity) :=
  parseArray maxAudioDiscontinuities parseDiscontinuity

def parseCheckpoint (table : Toml) : Option (Binary.Field Bytes) := do
  let availability ← availabilityValue table
  some ⟨availability,bytesAt "value" table,(bytesAt "reason_code" table).getD []⟩

/-- The metadata before the digest, with their minor. -/
structure MetadataHead where
  minor : Int
  runId : Bytes
  capturePoint : Bytes
  producerSequence : ℕ
  format : AudioFormat
  range : SampleFrameRange

/-- A number of channels fits a byte. -/
def readChannels (value : Int) : Option ℕ := if value < 0 ∨ 255 < value then none else some value.toNat

def parseMinor (table : Toml) : Option Int :=
  (table.number "schema_minor").filter fun minor =>
    table.number "schema_version" = some 1 && 0 ≤ minor && minor ≤ 2

def parseHead (table : Toml) : Option MetadataHead := do
  let minor ← parseMinor table
  let run ← bytesAt "run_id" table
  let capture ← bytesAt "capture_point" table
  let format ← (table.text "pcm_format").bind formatValue
  let rate ← narrow "sample_rate" table
  let channels ← (table.number "channels").bind readChannels
  let timeline ← bytesAt "timeline" table
  let sequence ← decimalAt "producer_sequence" table
  let first ← decimalAt "sample_begin" table
  let count ← decimalAt "sample_count" table
  if count = 0 ∨ 2 ^ 64 - 1 - count < first then none
  else some ⟨minor,run,capture,sequence,⟨format,rate,channels⟩,⟨timeline,rate,first,first + count⟩⟩

/-- `parse_hex` -/
def parseDigest (text : String) : Option Bytes := (hexBytes text.toList).filter fun bytes => bytes.length = 32

/-- The causes may be absent before minor 1. -/
def parseCauseIds (minor : Int) (table : Toml) : Option (List Binary.FactId) :=
  match table.rows "causes" with
  | none => if 1 ≤ minor then none else some []
  | some _ => (table.get "causes").bind parseCauses

/-- Only minor 2 names a segment, and never segment 0. -/
def parseSegment (minor : Int) (table : Toml) : Option ℕ :=
  if minor = 2 then (decimalAt "segment" table).filter (· ≠ 0)
  else if (table.get "segment").isSome then none
  else some 0

/-- The metadata from the digest on; the samples come after them. -/
def parseTail (head : MetadataHead) (digest : String) (table : Toml) : Option AudioChunk := do
  let digest ← parseDigest digest
  let checkpoint ← (table.get "checkpoint").bind parseCheckpoint
  let durability ← (table.text "durability").bind durabilityValue
  let discontinuities ← (table.get "discontinuities").bind parseDiscontinuities
  let causes ← parseCauseIds head.minor table
  let segment ← parseSegment head.minor table
  some {
    runId := head.runId, capturePoint := head.capturePoint, producerSequence := head.producerSequence,
    format := head.format, range := head.range, bytes := [], sha256 := ⟨.known,some digest,[]⟩, durability,
    checkpointId := checkpoint, causeIds := causes, discontinuities, segment }

def parseMetadata (table : Toml) : Except PcmMessageError AudioChunk :=
  match parseHead table with
  | none => .error .malformedMetadata
  | some head =>
    match table.text "sha256" with
    | none => .error .hashRequired
    | some digest =>
      match parseTail head digest table with
      | none => .error .malformedMetadata
      | some chunk => .ok chunk

end Parse

section Message

/-- The library of documents with the hash of the samples. -/
structure PcmLibrary extends TomlText where
  sha256 : Bytes → Bytes

variable (library : PcmLibrary)

def encodePcmMessage (chunk : AudioChunk) (channelSequence : UInt64) : Except PcmMessageError Bytes :=
  if !chunk.wellFormed ∨ channelSequence = 0 ∨ chunk.range.begin = chunk.range.stop then .error .invalidChunk
  else if chunk.sha256.availability ≠ .known ∨ chunk.sha256.value = none then .error .hashRequired
  else if chunk.sha256.value ≠ some (library.sha256 chunk.bytes) then .error .hashMismatch
  else
    let text := library.print (metadata chunk)
    if text = [] ∨ maxProtocolPayloadBytes < text.length then .error .metadataTooLarge
    else if maxProtocolPayloadBytes < 8 + text.length + chunk.bytes.length then .error .messageTooLarge
    else
      let payload := writeLe 4 text.length ++ (writeLe 4 chunk.bytes.length ++ (text ++ chunk.bytes))
      .ok (encodeProtocolHeader ⟨.audioChunk,payload.length,2,channelSequence.toNat⟩ ++ payload)

/-- What a payload of two lengths, metadata and samples holds. -/
def decodePayload (payload : Bytes) : Except PcmMessageError AudioChunk :=
  if payload.length < 8 then .error .truncated
  else
    let metadataBytes := field payload 0 4
    let pcmBytes := field payload 4 4
    if metadataBytes = 0 ∨ pcmBytes = 0 ∨ payload.length - 8 < metadataBytes ∨
        pcmBytes ≠ payload.length - 8 - metadataBytes then .error .lengthMismatch
    else
      match library.parse ((payload.drop 8).take metadataBytes) with
      | none => .error .malformedMetadata
      | some table =>
        match parseMetadata table with
        | .error error => .error error
        | .ok chunk =>
          if expectedPayloadBytes chunk.format (chunk.range.stop - chunk.range.begin) ≠ some pcmBytes then
            .error .pcmLengthMismatch
          else
            let filled := { chunk with bytes := (payload.drop (8 + metadataBytes)).take pcmBytes }
            if filled.sha256.availability ≠ .known ∨ filled.sha256.value = none then .error .hashRequired
            else if filled.sha256.value ≠ some (library.sha256 filled.bytes) then .error .hashMismatch
            else if !filled.wellFormed then .error .malformedMetadata
            else .ok filled

def decodePcmMessage (message : Bytes) (expectedSequence : UInt64) : Except PcmMessageError AudioChunk :=
  match decodeProtocolHeader (message.take protocolHeaderBytes) 2 with
  | .error _ => .error .headerRejected
  | .ok header =>
    if header.type ≠ .audioChunk then .error .wrongMessageType
    else if header.channelSequence ≠ expectedSequence.toNat then .error .sequenceMismatch
    else if header.payloadBytes ≠ message.length - protocolHeaderBytes then .error .lengthMismatch
    else decodePayload library (message.drop protocolHeaderBytes)

end Message
end AytherRuntime.Channel
