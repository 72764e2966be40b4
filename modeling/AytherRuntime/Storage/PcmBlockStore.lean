import AytherRuntime.Channel.PcmDelivery
import AytherRuntime.Library.Envelope
import AytherRuntime.Storage.ContentHash
import AytherRuntime.Storage.ExclusiveFile

/-! The blocks that keep the audio of a run: the message of one chunk in each, in a document that is written once. -/
namespace AytherRuntime.Storage
open Audio (AudioChunk PcmMessageError)
open Channel (PcmLibrary decodePcmMessage encodePcmMessage maxProtocolPayloadBytes protocolHeaderBytes)
open Codec (Bytes)
open Envelope (Kind Layout ReadFailure Refusal Stored WriteFailure)

section Source

def pcmBlockHeaderBytes : ℕ := 64
def maxPcmBlockBytes : ℕ := pcmBlockHeaderBytes + protocolHeaderBytes + maxProtocolPayloadBytes

structure StoredPcmBlock where
  path : Path
  sequence : UInt64
  messageIdentity : ContentIdentity
  documentIdentity : ContentIdentity
  chunk : AudioChunk
  deriving DecidableEq

inductive PcmBlockStoreError
  | invalidSequence | invalidChunk | documentTooLarge | alreadyExists | ioError | malformedHeader
  | incompatibleVersion | lengthMismatch | sequenceMismatch | hashMismatch | pcmLengthMismatch | invalidContent
  deriving DecidableEq, Repr

/-- The letters `AYTPCM01`. -/
def blockMagic : Bytes := [65,89,84,80,67,77,48,49]

lemma blockMajor_lt : 1 < 256 ^ 2 := by decide

lemma blockMinor_lt : 0 < 256 ^ 2 := by decide

lemma blockDigest_length (message : Bytes) : (identifyContent message).sha256.length = 32 :=
  (identifyContent message).sized

/-- The header of a block: version 1.0, the size of the message, and the number of its samples' bytes after it. -/
def blockLayout : Layout where
  magic := blockMagic
  major := 1
  minor := 0
  maxBytes := maxPcmBlockBytes
  sizeFirst := true
  digest message := (identifyContent message).sha256
  magic_length := rfl
  major_lt := blockMajor_lt
  minor_lt := blockMinor_lt
  maxBytes_lt := by decide
  digest_length := blockDigest_length

/-- `block_path` -/
def blockPath (directory : Path) (sequence : UInt64) : Path :=
  directory ++ ["audio","pcm-" ++ twentyDigits sequence ++ ".aqp"]

def mapMessageError : PcmMessageError → PcmBlockStoreError
  | .sequenceMismatch => .sequenceMismatch
  | .hashMismatch => .hashMismatch
  | .pcmLengthMismatch => .pcmLengthMismatch
  | .messageTooLarge | .metadataTooLarge => .documentTooLarge
  | _ => .invalidContent

end Source

section Kind
variable {library : PcmLibrary}

lemma encodePcmMessage_admits {chunk : AudioChunk} {sequence : UInt64} {message : Bytes}
    (h : encodePcmMessage library chunk sequence = .ok message) :
    message.length ≤ protocolHeaderBytes + maxProtocolPayloadBytes ∧ chunk.bytes.length ≤ maxProtocolPayloadBytes := by
  unfold encodePcmMessage at h
  dsimp only at h
  split_ifs at h with hchunk hdigest hhash htext hsize
  obtain rfl := Except.ok.inj h
  simp only [List.length_append,Channel.length_encodeProtocolHeader,Codec.length_writeLe]
  omega

/-- A message is decoded under the sequence of its header only. -/
lemma decodePcmMessage_sequence {message : Bytes} {sequence : UInt64} {chunk : AudioChunk}
    (h : decodePcmMessage library message sequence = .ok chunk) :
    ∃ header, Channel.decodeProtocolHeader (message.take protocolHeaderBytes) 2 = .ok header ∧
      header.channelSequence = sequence.toNat := by
  unfold decodePcmMessage at h
  split at h
  · exact nomatch h
  rename_i header hheader
  split_ifs at h with htype hsequence
  exact ⟨header,hheader,not_not.mp hsequence⟩

end Kind

section Store
variable (library : PcmLibrary)

/-- The blocks, with the messages in them. -/
def pcmBlocks : Kind AudioChunk PcmMessageError where
  layout := blockLayout
  encode := encodePcmMessage library
  decode := decodePcmMessage library
  count chunk := chunk.bytes.length
  accepts _ := true
  fits chunk := chunk.bytes.length ≤ 2 ^ 32 - 1
  admits := by
    intro chunk sequence message h
    obtain ⟨hlength,hsamples⟩ := encodePcmMessage_admits h
    have hbound : maxProtocolPayloadBytes < 256 ^ 4 := by decide
    refine ⟨?_,decide_eq_true (by omega),by omega,rfl⟩
    change 64 + message.length ≤ 64 + protocolHeaderBytes + maxProtocolPayloadBytes
    omega
  sequence_unique := by
    intro message first second chunk other hfirst hsecond
    obtain ⟨header,hheader,hnumber⟩ := decodePcmMessage_sequence hfirst
    obtain ⟨header',hheader',hnumber'⟩ := decodePcmMessage_sequence hsecond
    rw [hheader] at hheader'
    rw [← Except.ok.inj hheader'] at hnumber'
    exact UInt64.toNat_inj.mp (hnumber.symm.trans hnumber')

/-- Where a block is refused. -/
def blockRefusal : ReadFailure PcmMessageError → PcmBlockStoreError
  | .refused .tooLarge => .documentTooLarge
  | .refused .malformed => .malformedHeader
  | .refused .incompatible => .incompatibleVersion
  | .refused .sequence => .invalidSequence
  | .refused .count => .pcmLengthMismatch
  | .refused .length => .lengthMismatch
  | .refused .digest => .hashMismatch
  | .undecoded error => mapMessageError error
  | .miscounted => .pcmLengthMismatch

/-- A block with its document, as it is stored. -/
def storedBlock (path : Path) (stored : Stored AudioChunk) (document : Bytes) : StoredPcmBlock :=
  ⟨path,stored.sequence,identifyContent stored.message,identifyContent document,stored.value⟩

/-- `write_pcm_block` -/
def writePcmBlock (calls : ExclusiveCalls) (disk : Disk) (directory : Path) (sequence : UInt64) (chunk : AudioChunk) :
    Disk × Except PcmBlockStoreError StoredPcmBlock :=
  match (pcmBlocks library).write sequence chunk with
  | .error .zeroSequence => (disk,.error .invalidSequence)
  | .error (.unencoded error) =>
    (disk,.error (if error = .messageTooLarge ∨ error = .metadataTooLarge then .documentTooLarge else .invalidChunk))
  | .error .tooLarge => (disk,.error .documentTooLarge)
  | .ok stored =>
    let document := (pcmBlocks library).document stored
    let path := blockPath directory sequence
    match writeEvidenceFile calls disk path document with
    | (disk,.alreadyExists) => (disk,.error .alreadyExists)
    | (disk,.ioError) => (disk,.error .ioError)
    | (disk,.written) => (disk,.ok (storedBlock path stored document))

/-- `read_pcm_block` -/
def readPcmBlock (path : Path) : StoredFile → Except PcmBlockStoreError StoredPcmBlock
  | .unsized => .error .ioError
  | .unreadable size =>
    .error (if maxPcmBlockBytes < size then .documentTooLarge
      else if size < pcmBlockHeaderBytes then .malformedHeader
      else .ioError)
  | .content document =>
    match (pcmBlocks library).read document with
    | .error failure => .error (blockRefusal failure)
    | .ok stored => .ok (storedBlock path stored document)

end Store

section Result
variable {library : PcmLibrary} {path : Path} {sequence : UInt64}
variable {chunk : AudioChunk} {message document : Bytes}

/-- A block is read exactly where the document is that of its chunk. -/
lemma readPcmBlock_content {block : StoredPcmBlock} :
    readPcmBlock library path (.content document) = .ok block ↔
      ∃ stored, (pcmBlocks library).read document = .ok stored ∧ block = storedBlock path stored document := by
  unfold readPcmBlock
  dsimp only
  cases (pcmBlocks library).read document with
  | error failure => simp
  | ok stored =>
    constructor
    · intro h
      exact ⟨stored,rfl,(Except.ok.inj h).symm⟩
    · rintro ⟨found,hfound,rfl⟩
      rw [Except.ok.inj hfound]

/-- What is accepted is the document that is written around its message. -/
theorem readPcmBlock_ok {block : StoredPcmBlock} (h : readPcmBlock library path (.content document) = .ok block) :
    ∃ message, document = blockLayout.document ⟨block.sequence,block.chunk.bytes.length,message⟩ ∧
      block.sequence ≠ 0 ∧ block.messageIdentity = identifyContent message ∧
      decodePcmMessage library message block.sequence = .ok block.chunk := by
  obtain ⟨stored,hread,rfl⟩ := readPcmBlock_content.mp h
  obtain ⟨hdocument,hdecode,hsequence,-⟩ := Envelope.Kind.read_eq_ok_iff.mp hread
  exact ⟨stored.message,hdocument,hsequence,rfl,hdecode⟩

lemma pcmBlocks_document (stored : Stored AudioChunk) : (pcmBlocks library).document stored =
    blockLayout.document ⟨stored.sequence,stored.value.bytes.length,stored.message⟩ := rfl

/-- The document of a chunk whose message decodes to it is read as what was stored. -/
lemma readPcmBlock_document (hsequence : sequence ≠ 0) (hencode : encodePcmMessage library chunk sequence = .ok message)
    (hdecode : decodePcmMessage library message sequence = .ok chunk) :
    readPcmBlock library path (.content (blockLayout.document ⟨sequence,chunk.bytes.length,message⟩)) =
      .ok (storedBlock path ⟨sequence,message,chunk⟩ (blockLayout.document ⟨sequence,chunk.bytes.length,message⟩)) := by
  have hread : (pcmBlocks library).read ((pcmBlocks library).document ⟨sequence,message,chunk⟩) =
      .ok ⟨sequence,message,chunk⟩ := Envelope.Kind.read_document hsequence hencode hdecode
  rw [pcmBlocks_document] at hread
  exact readPcmBlock_content.mpr ⟨_,hread,rfl⟩

/-- The write of a chunk that is encoded fails because of the file only. -/
lemma writePcmBlock_eq (calls : ExclusiveCalls) (disk : Disk) (directory : Path) (hsequence : sequence ≠ 0)
    (hencode : encodePcmMessage library chunk sequence = .ok message) :
    writePcmBlock library calls disk directory sequence chunk =
      (let document := blockLayout.document ⟨sequence,chunk.bytes.length,message⟩
      match writeEvidenceFile calls disk (blockPath directory sequence) document with
      | (disk,.alreadyExists) => (disk,.error .alreadyExists)
      | (disk,.ioError) => (disk,.error .ioError)
      | (disk,.written) =>
        (disk,.ok (storedBlock (blockPath directory sequence) ⟨sequence,message,chunk⟩ document))) := by
  have hwrite : (pcmBlocks library).write sequence chunk = .ok ⟨sequence,message,chunk⟩ :=
    Envelope.Kind.write_eq hsequence hencode
  unfold writePcmBlock
  rw [hwrite]
  rfl

end Result
end AytherRuntime.Storage
