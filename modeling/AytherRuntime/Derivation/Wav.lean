import AytherRuntime.Audio.Integrity
import AytherRuntime.Channel.PcmDelivery
import AytherRuntime.Library.Riff

/-! The WAVE view of a list of PCM blocks: the blocks are read from their files, joined, and published behind a header
of forty-four bytes. -/
namespace AytherRuntime.Derivation
open Audio (AudioChunk AudioFormat PcmFormat PcmBlockStoreError PcmMessageError SampleFrameRange StoredPcmBlock)
open Channel (PcmLibrary decodePcmMessage decodePayload protocolHeaderBytes maxProtocolPayloadBytes)
open Checked (field)
open Codec (Bytes writeLe)
open Riff (WaveFormat riffId waveId formatId dataId)

section Blocks
variable (library : PcmLibrary)

def pcmBlockHeaderBytes : ℕ := 64
def maxPcmBlockBytes : ℕ := pcmBlockHeaderBytes + protocolHeaderBytes + maxProtocolPayloadBytes

def blockMagic : Bytes := [0x41,0x59,0x54,0x50,0x43,0x4d,0x30,0x31]

/-- `map_message_error` -/
def mapMessageError : PcmMessageError → PcmBlockStoreError
  | .sequenceMismatch => .sequenceMismatch
  | .hashMismatch => .hashMismatch
  | .pcmLengthMismatch => .pcmLengthMismatch
  | .messageTooLarge | .metadataTooLarge => .documentTooLarge
  | _ => .invalidContent

/-- What the message of a block holds, once the header of its document is checked. -/
def readBlockMessage (document : Bytes) : Except PcmBlockStoreError StoredPcmBlock :=
  let message := document.drop pcmBlockHeaderBytes
  if (document.drop 32).take 32 ≠ library.sha256 message then .error .hashMismatch
  else
    match decodePcmMessage library message (UInt64.ofNat (field document 16 8)) with
    | .error error => .error (mapMessageError error)
    | .ok chunk =>
      if chunk.bytes.length ≠ field document 28 4 then .error .pcmLengthMismatch
      else .ok ⟨field document 16 8,library.sha256 message,chunk⟩

/-- `read_pcm_block`, of a file that may be out of reach. -/
def readPcmBlock : Option Bytes → Except PcmBlockStoreError StoredPcmBlock
  | none => .error .ioError
  | some document =>
    if maxPcmBlockBytes < document.length then .error .documentTooLarge
    else if document.length < pcmBlockHeaderBytes ∨ document.take 8 ≠ blockMagic then .error .malformedHeader
    else if field document 8 2 ≠ 1 ∨ field document 10 2 ≠ 0 then .error .incompatibleVersion
    else if field document 12 4 ≠ pcmBlockHeaderBytes then .error .malformedHeader
    else if field document 16 8 = 0 then .error .invalidSequence
    else if field document 24 4 ≠ document.length - pcmBlockHeaderBytes then .error .lengthMismatch
    else readBlockMessage library document

end Blocks

section Derivation

def maxDerivedWavBlocks : ℕ := 4096
def maxDerivedWavPcmBytes : ℕ := 64 * 1024 * 1024
inductive WavDerivationError
  | invalidInput | blockInvalid | formatMismatch | nonContiguous | tooLarge | publishFailed
  deriving DecidableEq, Repr

/-- What was derived, with the bytes that were published. -/
structure DerivedWav where
  file : Bytes
  format : AudioFormat
  range : SampleFrameRange
  blockCount : ℕ
  pcmSha256 : Bytes
  pcmBytes : ℕ
  deriving DecidableEq

/-- `encoding`: the tag of a format and the bits of its samples. -/
def encoding : PcmFormat → ℕ × ℕ
  | .s16le => (1,16)
  | .s24le => (1,24)
  | .s32le => (1,32)
  | .f32le => (3,32)

/-- The samples of a block belong to the capture of the one before it. -/
def sameCapture (previous next : AudioChunk) : Bool :=
  previous.format = next.format && previous.runId = next.runId && previous.capturePoint = next.capturePoint &&
    previous.range.timelineId = next.range.timelineId && previous.range.sampleRate = next.range.sampleRate

variable (library : PcmLibrary)

/-- The loop of `derive_wav` over its blocks, with those that it has and the size of their samples. -/
def gatherBlocks : List (Option Bytes) → List StoredPcmBlock → ℕ →
    Except WavDerivationError (List StoredPcmBlock × ℕ)
  | [],blocks,pcmSize => .ok (blocks,pcmSize)
  | document :: documents,blocks,pcmSize =>
    match readPcmBlock library document with
    | .error _ => .error .blockInvalid
    | .ok block =>
      if blocks.getLast?.any fun previous => !sameCapture previous.chunk block.chunk then .error .formatMismatch
      else if blocks.getLast?.any fun previous => previous.chunk.range.stop ≠ block.chunk.range.begin then
        .error .nonContiguous
      else if maxDerivedWavPcmBytes - pcmSize < block.chunk.bytes.length then .error .tooLarge
      else gatherBlocks documents (blocks ++ [block]) (pcmSize + block.chunk.bytes.length)

/-- The bytes of the samples of the blocks, in their order. -/
def pcmOf (blocks : List StoredPcmBlock) : Bytes := blocks.flatMap fun block => block.chunk.bytes

/-- The file: its header, field by field, and the samples. A number is cut to the width of its field. -/
def wavFile (format : AudioFormat) (pcm : Bytes) : Bytes :=
  let (formatTag,bits) := encoding format.pcm
  let blockAlign := format.channels * (bits / 8) % 2 ^ 16
  let byteRate := format.sampleRate * blockAlign % 2 ^ 32
  riffId ++ (writeLe 4 (36 + pcm.length) ++ (waveId ++ (formatId ++ (writeLe 4 16 ++ (writeLe 2 formatTag ++
    (writeLe 2 format.channels ++ (writeLe 4 format.sampleRate ++ (writeLe 4 byteRate ++ (writeLe 2 blockAlign ++
      (writeLe 2 bits ++ (dataId ++ (writeLe 4 pcm.length ++ pcm))))))))))))

/-- `derive_wav`, of the files of its blocks; `named` says that the output has a name, and `published` that its file
was published. -/
def deriveWav (documents : List (Option Bytes)) (named published : Bool) : Except WavDerivationError DerivedWav :=
  if documents = [] ∨ maxDerivedWavBlocks < documents.length ∨ !named then .error .invalidInput
  else
    match gatherBlocks library documents [] 0 with
    | .error error => .error error
    | .ok (blocks,pcmSize) =>
      if 2 ^ 32 - 1 - 36 < pcmSize then .error .tooLarge
      else
        match blocks.head?, blocks.getLast? with
        | some first, some last =>
          if !published then .error .publishFailed
          else .ok ⟨wavFile first.chunk.format (pcmOf blocks),first.chunk.format,
            { first.chunk.range with stop := last.chunk.range.stop },blocks.length,library.sha256 (pcmOf blocks),
            (pcmOf blocks).length⟩
        | _, _ => .error .publishFailed

end Derivation

section Gathered
variable {library : PcmLibrary}

lemma decodePcmMessage_wellFormed {message : Bytes} {sequence : UInt64} {chunk : AudioChunk}
    (h : decodePcmMessage library message sequence = .ok chunk) : chunk.wellFormed = true := by
  unfold decodePcmMessage at h
  split at h
  · cases h
  · split_ifs at h
    unfold decodePayload at h
    dsimp only at h
    split_ifs at h
    split at h
    · cases h
    · split at h
      · cases h
      · split_ifs at h with _ _ _ hwellFormed
        cases h
        simpa using hwellFormed

/-- A block that was read is well formed. -/
lemma readPcmBlock_wellFormed {document : Option Bytes} {block : StoredPcmBlock}
    (h : readPcmBlock library document = .ok block) : block.chunk.wellFormed = true := by
  cases document with
  | none => cases h
  | some document =>
    unfold readPcmBlock readBlockMessage at h
    dsimp only at h
    split_ifs at h
    split at h
    · cases h
    · rename_i chunk hchunk
      split_ifs at h
      cases h
      exact decodePcmMessage_wellFormed hchunk

/-- The blocks that the loop has: well formed, of one format, and of the size that it has counted. -/
structure Gathered (blocks : List StoredPcmBlock) (pcmSize : ℕ) : Prop where
  wellFormed : ∀ block ∈ blocks, block.chunk.wellFormed = true
  format : ∀ last ∈ blocks.getLast?, ∀ block ∈ blocks, block.chunk.format = last.chunk.format
  size : pcmSize = (pcmOf blocks).length
  limit : pcmSize ≤ maxDerivedWavPcmBytes

lemma pcmOf_append (blocks : List StoredPcmBlock) (block : StoredPcmBlock) :
    pcmOf (blocks ++ [block]) = pcmOf blocks ++ block.chunk.bytes := by
  rw [pcmOf,List.flatMap_append,List.flatMap_cons,List.flatMap_nil,List.append_nil]
  rfl

/-- One more block keeps what the loop has. -/
lemma Gathered.append {blocks : List StoredPcmBlock} {pcmSize : ℕ} {block : StoredPcmBlock}
    (h : Gathered blocks pcmSize) (hblock : block.chunk.wellFormed = true)
    (hcapture : ¬(blocks.getLast?.any fun previous => !sameCapture previous.chunk block.chunk) = true)
    (hsize : ¬maxDerivedWavPcmBytes - pcmSize < block.chunk.bytes.length) :
    Gathered (blocks ++ [block]) (pcmSize + block.chunk.bytes.length) where
  wellFormed := by
    intro other hother
    rcases List.mem_append.mp hother with hother | hother
    · exact h.wellFormed other hother
    · rwa [List.mem_singleton.mp hother]
  format := by
    intro last hlast other hother
    rw [List.getLast?_concat,Option.mem_some_iff] at hlast
    subst hlast
    rcases List.mem_append.mp hother with hother | hother
    · obtain ⟨previous,hprevious⟩ := Option.ne_none_iff_exists'.mp fun hnone =>
        List.ne_nil_of_mem hother (List.getLast?_eq_none_iff.mp hnone)
      rw [hprevious] at hcapture
      have hsame : sameCapture previous.chunk block.chunk = true := by simpa using hcapture
      unfold sameCapture at hsame
      simp only [Bool.and_eq_true,decide_eq_true_eq] at hsame
      exact (h.format previous hprevious other hother).trans hsame.1.1.1.1
    · rw [List.mem_singleton.mp hother]
  size := by rw [pcmOf_append,List.length_append,← h.size]
  limit := by
    have hlimit := h.limit
    omega

/-- The document of a block is one that reads as it. -/
def Reads (library : PcmLibrary) (document : Option Bytes) (block : StoredPcmBlock) : Prop :=
  readPcmBlock library document = .ok block

lemma gatherBlocks_gathered {documents : List (Option Bytes)} {blocks result : List StoredPcmBlock}
    {pcmSize total : ℕ} (hblocks : Gathered blocks pcmSize)
    (h : gatherBlocks library documents blocks pcmSize = .ok (result,total)) :
    Gathered result total ∧ ∃ new, result = blocks ++ new ∧ List.Forall₂ (Reads library) documents new := by
  induction documents generalizing blocks pcmSize with
  | nil =>
    cases h
    exact ⟨hblocks,[],(List.append_nil _).symm,.nil⟩
  | cons document documents ih =>
    unfold gatherBlocks at h
    split at h
    · cases h
    · rename_i block hread
      split_ifs at h with hcapture hcontiguous hsize
      obtain ⟨hresult,new,hnew,hreads⟩ :=
        ih (hblocks.append (readPcmBlock_wellFormed hread) hcapture hsize) h
      exact ⟨hresult,block :: new,by rw [hnew,List.append_assoc,List.singleton_append],.cons hread hreads⟩

end Gathered

section Wave
variable {library : PcmLibrary}

/-- The format that a reader of the file recovers, without any of its numbers being cut. -/
def waveFormat (format : AudioFormat) : WaveFormat :=
  ⟨(encoding format.pcm).1,format.channels,format.sampleRate,format.sampleRate * format.frameBytes,
    format.frameBytes,8 * format.pcm.width⟩

/-- The bounds of the formats of PCM. -/
structure Playable (format : AudioFormat) : Prop where
  sampleRate : format.sampleRate ≤ 192000
  channels : format.channels ≤ 8

lemma encoding_bits (pcm : PcmFormat) : (encoding pcm).2 = 8 * pcm.width := by cases pcm <;> rfl

lemma encoding_tag (pcm : PcmFormat) : (encoding pcm).1 < 256 ^ 2 := by cases pcm <;> decide

lemma width_le (pcm : PcmFormat) : pcm.width ≤ 4 := by cases pcm <;> decide

lemma frameBytes_le {format : AudioFormat} (h : Playable format) : format.frameBytes ≤ 32 := by
  calc format.pcm.width * format.channels ≤ 4 * 8 := Nat.mul_le_mul (width_le format.pcm) h.channels
    _ = 32 := rfl

lemma byteRate_le {format : AudioFormat} (h : Playable format) :
    format.sampleRate * format.frameBytes ≤ 192000 * 32 := Nat.mul_le_mul h.sampleRate (frameBytes_le h)

lemma waveFormat_valid {format : AudioFormat} (h : Playable format) : (waveFormat format).Valid where
  formatTag := encoding_tag format.pcm
  channels := (show format.channels ≤ 8 from h.channels).trans_lt (by decide)
  sampleRate := (show format.sampleRate ≤ 192000 from h.sampleRate).trans_lt (by decide)
  byteRate := (byteRate_le h).trans_lt (by decide)
  blockAlign := (frameBytes_le h).trans_lt (by decide)
  bitsPerSample := (Nat.mul_le_mul_left 8 (width_le format.pcm)).trans_lt (by decide)

/-- No number of the header is cut: the samples follow the chunk of their format. -/
lemma wavFile_eq {format : AudioFormat} (h : Playable format) (pcm : Bytes) :
    wavFile format pcm = riffId ++ writeLe 4 (36 + pcm.length) ++ waveId ++
      (Riff.Chunk.write ⟨formatId,(waveFormat format).write⟩ ++ (dataId ++ (writeLe 4 pcm.length ++ pcm))) := by
  have halign : format.channels * ((encoding format.pcm).2 / 8) % 2 ^ 16 = format.frameBytes := by
    have hle := frameBytes_le h
    rw [encoding_bits,Nat.mul_div_cancel_left _ (by decide : 0 < 8),Nat.mul_comm]
    exact Nat.mod_eq_of_lt (hle.trans_lt (by decide))
  have hrate : format.sampleRate * format.frameBytes % 2 ^ 32 = format.sampleRate * format.frameBytes :=
    Nat.mod_eq_of_lt ((byteRate_le h).trans_lt (by decide))
  have hpad : Riff.pad (waveFormat format).write = [] := by
    unfold Riff.pad
    rw [Riff.length_format]
    rfl
  unfold wavFile
  dsimp only
  rw [halign,hrate,encoding_bits,Riff.Chunk.write,hpad,Riff.length_format,List.append_nil]
  simp only [WaveFormat.write,waveFormat,List.append_assoc]

/-- Even samples make the file a document of two chunks. -/
lemma wavFile_even {format : AudioFormat} (h : Playable format) {pcm : Bytes} (hsize : pcm.length < 256 ^ 4)
    (heven : pcm.length % 2 = 0) :
    wavFile format pcm = Riff.write waveId (Riff.waveChunks (waveFormat format) pcm) := by
  have hpad : Riff.pad pcm = [] := if_pos heven
  have hlength : 4 + (Riff.writeChunks (Riff.waveChunks (waveFormat format) pcm)).length = 36 + pcm.length := by
    rw [Riff.length_waveChunks _ hsize]
    omega
  rw [wavFile_eq h,Riff.write,hlength,Riff.writeChunks,Riff.waveChunks,List.flatMap_cons,List.flatMap_cons,
    List.flatMap_nil,List.append_nil]
  simp only [Riff.Chunk.write,hpad,List.append_nil,List.append_assoc]

/-- The file is read back exactly where its samples need no pad byte. -/
lemma readWave_wavFile {format : AudioFormat} (h : Playable format) {pcm : Bytes}
    (hlimit : pcm.length ≤ maxDerivedWavPcmBytes) :
    Riff.readWave (wavFile format pcm) = some (waveFormat format,pcm) ↔ pcm.length % 2 = 0 := by
  have hmax : maxDerivedWavPcmBytes + 37 < 256 ^ 4 := by decide
  have hsize : pcm.length < 256 ^ 4 := by omega
  constructor
  · intro hread
    by_contra hodd
    have hnone := Riff.readWave_unpadded (waveFormat format)
      (show (riffId ++ writeLe 4 (36 + pcm.length) ++ waveId).length = 12 from rfl) hsize
      (by omega : pcm.length % 2 = 1)
    rw [wavFile_eq h,hnone] at hread
    cases hread
  · intro heven
    rw [wavFile_even h hsize heven]
    exact Riff.readWave_write (waveFormat_valid h) (by rw [Riff.length_waveChunks _ hsize]; omega)

lemma playable_of_wellFormed {chunk : AudioChunk} (h : chunk.wellFormed = true) : Playable chunk.format := by
  obtain ⟨⟨-,hrate,-,hchannels⟩,-⟩ := Audio.expectedPayloadBytes_iff.mp (Audio.AudioChunk.wellFormed_payload h)
  exact ⟨hrate,hchannels⟩

/-- What is derived from blocks is a WAVE document with their format and their samples exactly where they have an even
number of bytes. -/
theorem deriveWav_reads_iff {documents : List (Option Bytes)} {named published : Bool} {wav : DerivedWav}
    (h : deriveWav library documents named published = .ok wav) :
    ∃ blocks, List.Forall₂ (Reads library) documents blocks ∧
      (∀ block ∈ blocks, block.chunk.format = wav.format) ∧
      (Riff.readWave wav.file = some (waveFormat wav.format,pcmOf blocks) ↔ (pcmOf blocks).length % 2 = 0) := by
  have hstart : Gathered [] 0 := ⟨by simp,by simp,rfl,Nat.zero_le _⟩
  unfold deriveWav at h
  by_cases hinput : documents = [] ∨ maxDerivedWavBlocks < documents.length ∨ !named
  · rw [if_pos hinput] at h
    cases h
  rw [if_neg hinput] at h
  split at h
  · cases h
  · rename_i blocks pcmSize hgather
    obtain ⟨hgathered,new,hnew,hreads⟩ := gatherBlocks_gathered hstart hgather
    rw [List.nil_append] at hnew
    subst hnew
    by_cases hlarge : 2 ^ 32 - 1 - 36 < pcmSize
    · rw [if_pos hlarge] at h
      cases h
    rw [if_neg hlarge] at h
    split at h
    · rename_i first last hfirst hlast
      split_ifs at h
      cases h
      have hin : first ∈ blocks := List.mem_of_mem_head? hfirst
      have hformat : ∀ block ∈ blocks, block.chunk.format = first.chunk.format := fun block hblock =>
        (hgathered.format last hlast block hblock).trans (hgathered.format last hlast first hin).symm
      have hlimit : (pcmOf blocks).length ≤ maxDerivedWavPcmBytes := hgathered.size ▸ hgathered.limit
      exact ⟨blocks,hreads,hformat,
        readWave_wavFile (playable_of_wellFormed (hgathered.wellFormed first hin)) hlimit⟩
    · cases h

end Wave

section Written
variable {library : PcmLibrary}

/-- The document that `write_pcm_block` writes of a message. -/
def pcmBlockDocument (library : PcmLibrary) (sequence pcmSize : ℕ) (message : Bytes) : Bytes :=
  blockMagic ++ (writeLe 2 1 ++ (writeLe 2 0 ++ (writeLe 4 pcmBlockHeaderBytes ++ (writeLe 8 sequence ++
    (writeLe 4 message.length ++ (writeLe 4 pcmSize ++ (library.sha256 message ++ message)))))))

/-- The document of a message is read as the block of what the message decodes to. -/
lemma readPcmBlock_document {sequence : ℕ} {message : Bytes} {chunk : AudioChunk} (hpositive : 0 < sequence)
    (hsequence : sequence < 256 ^ 8) (hhash : (library.sha256 message).length = 32)
    (hlimit : message.length ≤ protocolHeaderBytes + maxProtocolPayloadBytes)
    (hdecode : decodePcmMessage library message (UInt64.ofNat sequence) = .ok chunk)
    (hbytes : chunk.bytes.length < 256 ^ 4) :
    readPcmBlock library (some (pcmBlockDocument library sequence chunk.bytes.length message)) =
      .ok ⟨sequence,library.sha256 message,chunk⟩ := by
  have hlength : (pcmBlockDocument library sequence chunk.bytes.length message).length = 64 + message.length := by
    simp only [pcmBlockDocument,List.length_append,Codec.length_writeLe,hhash]
    change 8 + (2 + (2 + (4 + (8 + (4 + (4 + (32 + _))))))) = _
    omega
  have hmessage : message.length < 256 ^ 4 := by
    have hmax : protocolHeaderBytes + maxProtocolPayloadBytes < 256 ^ 4 := by decide
    omega
  have hmagic : (pcmBlockDocument library sequence chunk.bytes.length message).take 8 = blockMagic := rfl
  have hmajor : field (pcmBlockDocument library sequence chunk.bytes.length message) 8 2 = 1 :=
    Checked.field_written blockMagic rfl rfl (by decide)
  have hminor : field (pcmBlockDocument library sequence chunk.bytes.length message) 10 2 = 0 :=
    Checked.field_written (blockMagic ++ writeLe 2 1) rfl rfl (by decide)
  have hheader : field (pcmBlockDocument library sequence chunk.bytes.length message) 12 4 = pcmBlockHeaderBytes :=
    Checked.field_written (blockMagic ++ writeLe 2 1 ++ writeLe 2 0) rfl rfl (by decide)
  have hnumber : field (pcmBlockDocument library sequence chunk.bytes.length message) 16 8 = sequence :=
    Checked.field_written (blockMagic ++ writeLe 2 1 ++ writeLe 2 0 ++ writeLe 4 pcmBlockHeaderBytes) rfl rfl hsequence
  have hsize : field (pcmBlockDocument library sequence chunk.bytes.length message) 24 4 = message.length :=
    Checked.field_written (blockMagic ++ writeLe 2 1 ++ writeLe 2 0 ++ writeLe 4 pcmBlockHeaderBytes ++
      writeLe 8 sequence) rfl rfl hmessage
  have hpcm : field (pcmBlockDocument library sequence chunk.bytes.length message) 28 4 = chunk.bytes.length :=
    Checked.field_written (blockMagic ++ writeLe 2 1 ++ writeLe 2 0 ++ writeLe 4 pcmBlockHeaderBytes ++
      writeLe 8 sequence ++ writeLe 4 message.length) rfl rfl hbytes
  have hdigest : ((pcmBlockDocument library sequence chunk.bytes.length message).drop 32).take 32 =
      library.sha256 message := List.take_left' hhash
  have hafter : (pcmBlockDocument library sequence chunk.bytes.length message).drop pcmBlockHeaderBytes = message := by
    change ((pcmBlockDocument library sequence chunk.bytes.length message).drop (32 + 32)) = message
    rw [← List.drop_drop]
    exact List.drop_left' hhash
  unfold readPcmBlock readBlockMessage
  dsimp only
  rw [hlength,hmagic,hmajor,hminor,hheader,hnumber,hsize,hpcm,hdigest,hafter,
    if_neg (by change ¬64 + _ + _ < _; omega),
    if_neg (not_or.mpr ⟨by change ¬_ < 64; omega,not_not.mpr rfl⟩),if_neg (by decide),if_neg (not_not.mpr rfl),
    if_neg hpositive.ne',if_neg (by change ¬_ ≠ 64 + message.length - 64; omega),if_neg (not_not.mpr rfl),hdecode]
  exact if_neg (not_not.mpr rfl)

end Written

section Paired
open Channel (causedChunk causedDigest causedLines linesBytes metadata pcmMessage)

/-- The SHA-256 of the samples of the second block below, of those of both, and of the messages of both. -/
def laterDigest : Bytes :=
  [177,205,91,240,59,148,136,85,52,114,183,38,76,141,83,50,109,141,107,42,164,42,181,62,45,15,39,56,125,180,146,213]

def pairedDigest : Bytes :=
  [13,252,120,148,24,57,70,145,175,33,255,24,22,105,153,124,102,254,42,232,21,141,191,136,79,47,69,107,192,57,254,
    142]

def causedMessageDigest : Bytes :=
  [31,120,78,244,126,12,40,198,103,106,37,9,0,144,247,7,125,113,246,65,93,207,38,232,73,103,210,171,8,250,198,164]

def laterMessageDigest : Bytes :=
  [12,106,12,103,84,222,186,25,70,255,186,251,90,92,225,175,247,146,32,22,227,184,164,72,10,231,48,235,94,42,7,39]

/-- Three frames that follow the two of `causedChunk`. -/
def laterChunk : AudioChunk :=
  { causedChunk with
    producerSequence := 8
    range := { causedChunk.range with begin := 98, stop := 101 }
    bytes := [1,0,2,0,3,0,4,0,5,0,6,0]
    sha256 := ⟨.known,some laterDigest,[]⟩
    causeIds := [] }

def laterLines : List String :=
  ["capture_point = 'mix'","causes = []","channels = 2","discontinuities = []","durability = 'pending'",
    "pcm_format = 's16le'","producer_sequence = '8'","run_id = 'run'","sample_begin = '98'","sample_count = '3'",
    "sample_rate = 48000","schema_minor = 2","schema_version = 1","segment = '1'",
    "sha256 = '" ++ Storage.hex laterDigest ++ "'","timeline = 't'","","[checkpoint]","availability = 'not_applicable'",
    "reason_code = 'not_published_by_runtime'"]

def causedMessage : Bytes := pcmMessage (linesBytes causedLines) causedChunk.bytes 1

def laterMessage : Bytes := pcmMessage (linesBytes laterLines) laterChunk.bytes 2

/-- The library on the two blocks: their metadata, and the hashes of their samples and messages. -/
def pairedLibrary : PcmLibrary where
  print document := if document.text "producer_sequence" = some "6" then linesBytes causedLines
    else linesBytes laterLines
  parse bytes :=
    if bytes = linesBytes causedLines then some (metadata causedChunk)
    else if bytes = linesBytes laterLines then some (metadata laterChunk)
    else none
  sha256 bytes :=
    if bytes = causedChunk.bytes then causedDigest
    else if bytes = laterChunk.bytes then laterDigest
    else if bytes = causedChunk.bytes ++ laterChunk.bytes then pairedDigest
    else if bytes = causedMessage then causedMessageDigest
    else laterMessageDigest

def pairedDocuments : List (Option Bytes) :=
  [some (pcmBlockDocument pairedLibrary 1 8 causedMessage),some (pcmBlockDocument pairedLibrary 2 12 laterMessage)]

def pairedWav : DerivedWav where
  file := wavFile causedChunk.format (causedChunk.bytes ++ laterChunk.bytes)
  format := causedChunk.format
  range := { causedChunk.range with stop := 101 }
  blockCount := 2
  pcmSha256 := pairedDigest
  pcmBytes := 20

lemma pairedBlocks_derived : deriveWav pairedLibrary pairedDocuments true true = .ok pairedWav := by
  decide +kernel

theorem pairedBlocks_read : ∃ blocks, List.Forall₂ (Reads pairedLibrary) pairedDocuments blocks ∧
      (∀ block ∈ blocks, block.chunk.format = ⟨.s16le,48000,2⟩) ∧
      (Riff.readWave pairedWav.file = some (waveFormat ⟨.s16le,48000,2⟩,pcmOf blocks) ↔
        (pcmOf blocks).length % 2 = 0) :=
  deriveWav_reads_iff pairedBlocks_derived

end Paired

section Frame

/-- One frame of one channel with its digest. -/
def frameChunk (pcm : PcmFormat) (bytes digest : Bytes) : AudioChunk where
  runId := [114,117,110]
  capturePoint := [109,105,120]
  producerSequence := 1
  format := ⟨pcm,48000,1⟩
  range := ⟨[116],48000,0,1⟩
  bytes := bytes
  sha256 := ⟨.known,some digest,[]⟩
  checkpointId := ⟨.unknown,none,[]⟩

def frameLines (pcm : PcmFormat) (digest : Bytes) : List String :=
  ["capture_point = 'mix'","causes = []","channels = 1","discontinuities = []","durability = 'pending'",
    "pcm_format = '" ++ Channel.formatName pcm ++ "'","producer_sequence = '1'","run_id = 'run'","sample_begin = '0'",
    "sample_count = '1'","sample_rate = 48000","schema_minor = 0","schema_version = 1",
    "sha256 = '" ++ Storage.hex digest ++ "'","timeline = 't'","","[checkpoint]","availability = 'unknown'",
    "reason_code = ''"]

def frameText (pcm : PcmFormat) (digest : Bytes) : Bytes := Channel.linesBytes (frameLines pcm digest)

/-- The library on the frame: its metadata, and the hashes of its samples and of its message. -/
def frameLibrary (pcm : PcmFormat) (bytes digest messageDigest : Bytes) : PcmLibrary where
  print _ := frameText pcm digest
  parse text := if text = frameText pcm digest then some (Channel.metadata (frameChunk pcm bytes digest)) else none
  sha256 hashed := if hashed = bytes then digest else messageDigest

variable {pcm : PcmFormat} {bytes digest messageDigest : Bytes}

lemma frameChunk_typed (hdigest : digest.length = 32) : Channel.ChunkTyped (frameChunk pcm bytes digest) where
  producerSequence := by norm_num [frameChunk]
  range := by constructor <;> norm_num [frameChunk]
  digest := by
    intro other hother
    cases hother
    exact hdigest
  affected := by simp [frameChunk]
  output := by simp [frameChunk]
  segment := by norm_num [frameChunk]

/-- The file of the block of the frame. -/
def frameDocument (pcm : PcmFormat) (bytes digest messageDigest : Bytes) : Bytes :=
  pcmBlockDocument (frameLibrary pcm bytes digest messageDigest) 1 bytes.length
    (Channel.pcmMessage (frameText pcm digest) bytes 1)

lemma frameText_nonempty (pcm : PcmFormat) (digest : Bytes) : frameText pcm digest ≠ [] := by
  simp [frameText,frameLines,Channel.linesBytes]

lemma readPcmBlock_frame (hwellFormed : (frameChunk pcm bytes digest).wellFormed = true) (hdigest : digest.length = 32)
    (hmessage : messageDigest.length = 32)
    (hsize : 8 + (frameText pcm digest).length + bytes.length ≤ maxProtocolPayloadBytes) :
    readPcmBlock (frameLibrary pcm bytes digest messageDigest) (some (frameDocument pcm bytes digest messageDigest)) =
      .ok ⟨1,messageDigest,frameChunk pcm bytes digest⟩ := by
  have hsamples : (frameLibrary pcm bytes digest messageDigest).sha256 bytes = digest := if_pos rfl
  have hlength : (Channel.pcmMessage (frameText pcm digest) bytes 1).length =
      protocolHeaderBytes + (8 + (frameText pcm digest).length + bytes.length) := by
    rw [Channel.pcmMessage,List.length_append,Channel.length_encodeProtocolHeader,Channel.length_pcmPayload]
  have hhash : (frameLibrary pcm bytes digest messageDigest).sha256
      (Channel.pcmMessage (frameText pcm digest) bytes 1) = messageDigest := by
    have hother : Channel.pcmMessage (frameText pcm digest) bytes 1 ≠ bytes := by
      intro hsame
      have hboth := congrArg List.length hsame
      omega
    unfold frameLibrary
    dsimp only
    rw [if_neg hother]
  have hdecode : decodePcmMessage (frameLibrary pcm bytes digest messageDigest)
      (Channel.pcmMessage (frameText pcm digest) bytes 1) (UInt64.ofNat 1) = .ok (frameChunk pcm bytes digest) :=
    (Channel.decode_pcmMessage hsize (by decide)).trans
      (Channel.decodePayload_pcmPayload hwellFormed (frameChunk_typed hdigest) rfl (congrArg some hsamples.symm)
        (by decide : 0 < 1) (frameText_nonempty pcm digest) hsize (if_pos rfl))
  have hread := readPcmBlock_document (by decide : 0 < 1) (by decide) (by rw [hhash]; exact hmessage)
    (by rw [hlength]; omega) hdecode (show bytes.length < 256 ^ 4 by
      have hmax : maxProtocolPayloadBytes < 256 ^ 4 := by decide
      omega)
  rw [hhash] at hread
  exact hread

/-- What is derived from the one block of the frame. -/
lemma deriveWav_frame (hwellFormed : (frameChunk pcm bytes digest).wellFormed = true) (hdigest : digest.length = 32)
    (hmessage : messageDigest.length = 32)
    (hsize : 8 + (frameText pcm digest).length + bytes.length ≤ maxProtocolPayloadBytes) :
    deriveWav (frameLibrary pcm bytes digest messageDigest) [some (frameDocument pcm bytes digest messageDigest)] true
      true = .ok ⟨wavFile ⟨pcm,48000,1⟩ bytes,⟨pcm,48000,1⟩,⟨[116],48000,0,1⟩,1,digest,bytes.length⟩ := by
  have hmax : maxProtocolPayloadBytes < maxDerivedWavPcmBytes := by decide
  have hgather : gatherBlocks (frameLibrary pcm bytes digest messageDigest)
      [some (frameDocument pcm bytes digest messageDigest)] [] 0 =
        .ok ([⟨1,messageDigest,frameChunk pcm bytes digest⟩],bytes.length) := by
    unfold gatherBlocks
    rw [readPcmBlock_frame hwellFormed hdigest hmessage hsize]
    dsimp only
    rw [if_neg (by simp),if_neg (by simp),if_neg (by change ¬maxDerivedWavPcmBytes - 0 < bytes.length; omega)]
    unfold gatherBlocks
    rw [List.nil_append,Nat.zero_add]
    rfl
  have hpcm : pcmOf [⟨1,messageDigest,frameChunk pcm bytes digest⟩] = bytes := List.append_nil bytes
  have hsamples : (frameLibrary pcm bytes digest messageDigest).sha256 bytes = digest := if_pos rfl
  have hlarge : maxDerivedWavPcmBytes < 2 ^ 32 - 1 - 36 := by decide
  unfold deriveWav
  rw [if_neg (by simp [maxDerivedWavBlocks]),hgather]
  dsimp only
  rw [if_neg (by omega),List.head?_cons,List.getLast?_singleton]
  dsimp only
  rw [hpcm,hsamples]
  rfl

/-- The SHA-256 of three silent bytes, and of a message of them. -/
def oddSamplesDigest : Bytes :=
  [112,158,128,200,132,135,162,65,30,30,228,223,185,242,42,134,20,146,210,12,71,101,21,12,12,121,74,189,112,248,20,124]

def oddDigest : Bytes :=
  [35,165,117,248,224,234,140,31,43,92,189,230,104,88,220,29,79,49,198,33,27,236,50,227,108,205,1,76,188,71,251,162]

/-- One frame of three bytes is derived, and its file has no pad byte, so that no reader takes it. -/
theorem oddFrame_unread : deriveWav (frameLibrary .s24le [0,0,0] oddSamplesDigest oddDigest)
      [some (frameDocument .s24le [0,0,0] oddSamplesDigest oddDigest)] true true =
        .ok ⟨wavFile ⟨.s24le,48000,1⟩ [0,0,0],⟨.s24le,48000,1⟩,⟨[116],48000,0,1⟩,1,oddSamplesDigest,3⟩ ∧
      (wavFile ⟨.s24le,48000,1⟩ [0,0,0]).length = 47 ∧
      Riff.readWave (wavFile ⟨.s24le,48000,1⟩ [0,0,0]) = none :=
  ⟨deriveWav_frame (by decide) (by decide) (by decide) (by decide +kernel),by decide,by decide +kernel⟩

end Frame
end AytherRuntime.Derivation
