import AytherRuntime.Fact.TextForm
import AytherRuntime.Storage.FactFragmentStore
import AytherRuntime.Storage.PcmBlockStore

/-! The fragments and the blocks of a run beside each other: what is written is read from then on, and the readers
accept nothing but what is written around a message. -/
namespace AytherRuntime.Storage
open Audio (AudioChunk)
open Binary (FactBatchError decodeFactBatch encodeFactBatch)
open Channel (PcmLibrary decodePcmMessage encodePcmMessage)
open Codec (Bytes)
open Envelope (headerBytes)

section Writes

/-- One write into a directory of evidence. -/
inductive EvidenceWrite
  | facts (sequence : UInt64) (facts : List Binary.Fact)
  | pcm (sequence : UInt64) (chunk : AudioChunk)

variable (encodeFact : Binary.Fact → Except FactBatchError Bytes) (decodeFact : Bytes →
  Except FactBatchError Binary.Fact)
variable (library : PcmLibrary) (directory : Path)

def writeEvidence (disk : Disk) (calls : ExclusiveCalls) : EvidenceWrite → Disk
  | .facts sequence facts => (writeFactFragment encodeFact decodeFact calls disk directory sequence facts).1
  | .pcm sequence chunk => (writePcmBlock library calls disk directory sequence chunk).1

/-- The writes of a run one after another, each with what the system answers to it. -/
def writeAll : Disk → List (ExclusiveCalls × EvidenceWrite) → Disk :=
  List.foldl fun disk write => writeEvidence encodeFact decodeFact library directory disk write.1 write.2

variable {encodeFact decodeFact library directory} {disk : Disk} {kept : Path} {entry : Entry}

lemma writeFactFragment_keeps (calls : ExclusiveCalls) (sequence : UInt64) (facts : List Binary.Fact)
    (h : disk kept = some entry) :
    (writeFactFragment encodeFact decodeFact calls disk directory sequence facts).1 kept = some entry := by
  unfold writeFactFragment
  split
  · exact h
  · exact h
  · exact h
  · rename_i stored _
    dsimp only
    have hkeeps := writeEvidenceFile_keeps calls (fragmentPath directory sequence)
      ((factFragments encodeFact decodeFact).document stored) h
    split <;> rename_i hwritten <;> rw [hwritten] at hkeeps <;> exact hkeeps

lemma writePcmBlock_keeps (calls : ExclusiveCalls) (sequence : UInt64) (chunk : AudioChunk)
    (h : disk kept = some entry) :
    (writePcmBlock library calls disk directory sequence chunk).1 kept = some entry := by
  unfold writePcmBlock
  split
  · exact h
  · exact h
  · exact h
  · rename_i stored _
    dsimp only
    have hkeeps := writeEvidenceFile_keeps calls (blockPath directory sequence)
      ((pcmBlocks library).document stored) h
    split <;> rename_i hwritten <;> rw [hwritten] at hkeeps <;> exact hkeeps

/-- What is on the disk stays there, whatever is written after it. -/
theorem writeAll_keeps (writes : List (ExclusiveCalls × EvidenceWrite)) (h : disk kept = some entry) :
    writeAll encodeFact decodeFact library directory disk writes kept = some entry := by
  induction writes generalizing disk with
  | nil => exact h
  | cons write writes ih =>
    apply ih
    obtain ⟨calls,write⟩ := write
    cases write with
    | facts sequence facts => exact writeFactFragment_keeps calls sequence facts h
    | pcm sequence chunk => exact writePcmBlock_keeps calls sequence chunk h

lemma file_of_entry {bytes : Bytes} {readable : Path → Bool} (h : disk kept = some (.regular bytes))
    (hreadable : readable kept = true) : disk.file readable kept = .content bytes := by
  unfold Disk.file
  rw [h]
  exact if_pos hreadable

end Writes

section Kept
variable (encodeFact : Binary.Fact → Except FactBatchError Bytes) (decodeFact : Bytes →
  Except FactBatchError Binary.Fact)
variable (library : PcmLibrary)

/-- A fragment has the facts that it was written with, and is read so after any other writes. -/
structure FragmentKept (directory : Path) (disk : Disk) (sequence : UInt64) (facts : List Binary.Fact)
    (fragment : StoredFactFragment) : Prop where
  sequence : fragment.sequence = sequence
  count : fragment.recordCount = facts.length
  facts : fragment.facts = facts
  read : ∀ writes readable, readable fragment.path = true → readFactFragment encodeFact decodeFact fragment.path
    ((writeAll encodeFact decodeFact library directory disk writes).file readable fragment.path) = .ok fragment

/-- A block has the chunk that it was written with, and is read so after any other writes. -/
structure BlockKept (directory : Path) (disk : Disk) (sequence : UInt64) (chunk : AudioChunk)
    (block : StoredPcmBlock) : Prop where
  sequence : block.sequence = sequence
  chunk : block.chunk = chunk
  read : ∀ writes readable, readable block.path = true → readPcmBlock library block.path
    ((writeAll encodeFact decodeFact library directory disk writes).file readable block.path) = .ok block

/-- Facts that are encoded and decoded again are kept, and what is accepted was written around its payload. -/
structure FragmentsKept : Prop where
  written : ∀ calls disk directory sequence facts payload, sequence ≠ 0 →
    encodeFactBatch encodeFact facts sequence = .ok payload → decodeFactBatch decodeFact payload sequence = .ok facts →
    ∃ next result, writeFactFragment encodeFact decodeFact calls disk directory sequence facts = (next,result) ∧
      (result = .error .alreadyExists ∨ result = .error .ioError ∨ ∃ fragment, result = .ok fragment ∧
        FragmentKept encodeFact decodeFact library directory next sequence facts fragment) ∧
      ((∃ fragment, result = .ok fragment) ↔ calls.Writes disk (fragmentPath directory sequence)
        (fragmentLayout.document ⟨sequence,facts.length,payload⟩))
  accepted : ∀ path document fragment,
    readFactFragment encodeFact decodeFact path (.content document) = .ok fragment →
    ∃ payload, document = fragmentLayout.document ⟨fragment.sequence,fragment.facts.length,payload⟩ ∧
      fragment.sequence ≠ 0 ∧ fragment.recordCount = fragment.facts.length ∧
      fragment.payloadIdentity = identifyContent payload ∧
      decodeFactBatch decodeFact payload fragment.sequence = .ok fragment.facts
  changed : ∀ path document fragment path' other found, other ≠ document →
    readFactFragment encodeFact decodeFact path (.content document) = .ok fragment →
    readFactFragment encodeFact decodeFact path' (.content other) = .ok found →
    ¬other <+: document ∧ ¬document <+: other ∧ other.drop headerBytes ≠ document.drop headerBytes ∧
      (other.take headerBytes = document.take headerBytes →
        found.payloadIdentity.sha256 = fragment.payloadIdentity.sha256)

/-- A chunk that is encoded and decoded again is kept, and what is accepted was written around its message. -/
structure BlocksKept : Prop where
  written : ∀ calls disk directory sequence chunk message, sequence ≠ 0 →
    encodePcmMessage library chunk sequence = .ok message → decodePcmMessage library message sequence = .ok chunk →
    ∃ next result, writePcmBlock library calls disk directory sequence chunk = (next,result) ∧
      (result = .error .alreadyExists ∨ result = .error .ioError ∨ ∃ block, result = .ok block ∧
        BlockKept encodeFact decodeFact library directory next sequence chunk block) ∧
      ((∃ block, result = .ok block) ↔ calls.Writes disk (blockPath directory sequence)
        (blockLayout.document ⟨sequence,chunk.bytes.length,message⟩))
  accepted : ∀ path document block, readPcmBlock library path (.content document) = .ok block →
    ∃ message, document = blockLayout.document ⟨block.sequence,block.chunk.bytes.length,message⟩ ∧
      block.sequence ≠ 0 ∧ block.messageIdentity = identifyContent message ∧
      decodePcmMessage library message block.sequence = .ok block.chunk
  changed : ∀ path document block path' other found, other ≠ document →
    readPcmBlock library path (.content document) = .ok block →
      readPcmBlock library path' (.content other) = .ok found →
    ¬other <+: document ∧ ¬document <+: other ∧ other.drop headerBytes ≠ document.drop headerBytes ∧
      (other.take headerBytes = document.take headerBytes →
        found.messageIdentity.sha256 = block.messageIdentity.sha256)

variable {encodeFact decodeFact library}

/-- A document that was written is there for every later reader. -/
lemma file_writeAll {directory path : Path} {disk : Disk} {document : Bytes} {readable : Path → Bool}
    (writes : List (ExclusiveCalls × EvidenceWrite)) (hdisk : disk path = some (.regular document))
    (hreadable : readable path = true) :
    (writeAll encodeFact decodeFact library directory disk writes).file readable path = .content document :=
  file_of_entry (writeAll_keeps writes hdisk) hreadable

lemma fragments_kept : FragmentsKept encodeFact decodeFact library where
  written := by
    intro calls disk directory sequence facts payload hsequence hencode hdecode
    have hpath : fragmentPath directory sequence ≠ [] := by simp [fragmentPath]
    have hwrite := writeFactFragment_eq decodeFact calls disk directory hsequence hencode
    obtain ⟨hiff,hthere⟩ := writeEvidenceFile_written calls disk
      (fragmentLayout.document ⟨sequence,facts.length,payload⟩) hpath
    rw [← hiff]
    dsimp only at hwrite
    generalize writeEvidenceFile calls disk _ _ = written at hwrite hthere ⊢
    obtain ⟨next,result⟩ := written
    refine ⟨_,_,hwrite,?_⟩
    cases result with
    | written =>
      refine ⟨Or.inr (Or.inr ⟨_,rfl,rfl,rfl,rfl,?_⟩),iff_of_true ⟨_,rfl⟩ rfl⟩
      intro writes readable hreadable
      exact (congrArg _ (file_writeAll writes (hthere rfl) hreadable)).trans
        (readFactFragment_document hsequence hencode hdecode)
    | alreadyExists => exact ⟨Or.inl rfl,iff_of_false (by simp) (by simp)⟩
    | ioError => exact ⟨Or.inr (Or.inl rfl),iff_of_false (by simp) (by simp)⟩
  accepted _ _ _ := readFactFragment_ok
  changed := by
    intro path document fragment path' other found hne h hother
    obtain ⟨stored,hread,rfl⟩ := readFactFragment_content.mp h
    obtain ⟨stored',hread',rfl⟩ := readFactFragment_content.mp hother
    exact Envelope.Kind.changed hread hread' hne

lemma blocks_kept : BlocksKept encodeFact decodeFact library where
  written := by
    intro calls disk directory sequence chunk message hsequence hencode hdecode
    have hpath : blockPath directory sequence ≠ [] := by simp [blockPath]
    have hwrite := writePcmBlock_eq calls disk directory hsequence hencode
    obtain ⟨hiff,hthere⟩ := writeEvidenceFile_written calls disk
      (blockLayout.document ⟨sequence,chunk.bytes.length,message⟩) hpath
    rw [← hiff]
    dsimp only at hwrite
    generalize writeEvidenceFile calls disk _ _ = written at hwrite hthere ⊢
    obtain ⟨next,result⟩ := written
    refine ⟨_,_,hwrite,?_⟩
    cases result with
    | written =>
      refine ⟨Or.inr (Or.inr ⟨_,rfl,rfl,rfl,?_⟩),iff_of_true ⟨_,rfl⟩ rfl⟩
      intro writes readable hreadable
      exact (congrArg _ (file_writeAll writes (hthere rfl) hreadable)).trans
        (readPcmBlock_document hsequence hencode hdecode)
    | alreadyExists => exact ⟨Or.inl rfl,iff_of_false (by simp) (by simp)⟩
    | ioError => exact ⟨Or.inr (Or.inl rfl),iff_of_false (by simp) (by simp)⟩
  accepted _ _ _ := readPcmBlock_ok
  changed := by
    intro path document block path' other found hne h hother
    obtain ⟨stored,hread,rfl⟩ := readPcmBlock_content.mp h
    obtain ⟨stored',hread',rfl⟩ := readPcmBlock_content.mp hother
    exact Envelope.Kind.changed hread hread' hne

/-- What the inner codecs give back is kept in fragments and blocks until the end of the run. Every accepted document
is the one around its message; no truncation, extension or change of the header of it is accepted, and a change of the
message only under the same digest. -/
theorem evidenceDocuments_kept (encodeFact : Binary.Fact → Except FactBatchError Bytes)
    (decodeFact : Bytes → Except FactBatchError Binary.Fact) (library : PcmLibrary) :
    FragmentsKept encodeFact decodeFact library ∧ BlocksKept encodeFact decodeFact library :=
  ⟨fragments_kept,blocks_kept⟩

/-- The system makes every directory and file that it is asked for, and writes byte by byte. -/
def plainCalls : ExclusiveCalls := { process := 1, sequence := fun _ => 1, write := fun _ => 1 }

lemma plainCalls_writes (path : Path) (bytes : Bytes) : plainCalls.Writes (fun _ => none) path bytes :=
  ⟨Or.inr ⟨rfl,rfl⟩,rfl,rfl,⟨by simp,bytes.length,fun _ _ => Int.one_pos,by simp [plainCalls]⟩,rfl⟩

/-- A fragment of a text and a binary fact, and a block of two frames, each on a disk without files. -/
theorem evidenceDocuments_kept_mixed :
    let encodeFact := Binary.encodeFact Binary.shortLibrary
    let decodeFact := Binary.decodeFact (fun _ _ => none) Binary.shortLibrary
    (∃ disk fragment, writeFactFragment encodeFact decodeFact plainCalls (fun _ => none) ["run"] 5
        [Binary.shortFact,Binary.noteStarted] = (disk,.ok fragment) ∧
      FragmentKept encodeFact decodeFact Channel.causedText ["run"] disk 5 [Binary.shortFact,Binary.noteStarted]
        fragment) ∧
    ∃ disk block, writePcmBlock Channel.causedText plainCalls (fun _ => none) ["run"] 7 Channel.causedChunk =
        (disk,.ok block) ∧
      BlockKept encodeFact decodeFact Channel.causedText ["run"] disk 7 Channel.causedChunk block := by
  intro encodeFact decodeFact
  obtain ⟨hfragments,hblocks⟩ := evidenceDocuments_kept encodeFact decodeFact Channel.causedText
  constructor
  · have hdecode : decodeFactBatch decodeFact Binary.mixedMessage 5 = _ :=
      Binary.decodeFactBatch_encode (fun fact hfact _ hrecord => Binary.record_readBack
        (fun hfields => (Binary.mixedBatch_reads fact hfact hfields).1)
        (fun hfields => (Binary.mixedBatch_reads fact hfact hfields).2) hrecord) Binary.mixedBatch_encoded 5
    obtain ⟨disk,result,hwrite,hcases,hwritten⟩ := hfragments.written plainCalls (fun _ => none) ["run"] 5
      [Binary.shortFact,Binary.noteStarted] Binary.mixedMessage (by decide) Binary.mixedBatch_encoded
      (hdecode.trans (if_pos rfl))
    obtain ⟨fragment,rfl⟩ := hwritten.mpr (plainCalls_writes _ _)
    obtain h | h | ⟨kept,hkept,hread⟩ := hcases
    · cases h
    · cases h
    · exact ⟨disk,kept,hwrite.trans (by rw [hkept]),hread⟩
  · obtain ⟨message,hencode,hdecode⟩ : ∃ message,
        encodePcmMessage Channel.causedText Channel.causedChunk 7 = .ok message ∧
        decodePcmMessage Channel.causedText message 7 = .ok Channel.causedChunk :=
      Channel.decodePcmMessage_encode (by decide +kernel) Channel.causedChunk_typed rfl rfl (by decide)
        (by decide +kernel)
        (by decide +kernel) (by decide) (if_pos rfl)
    obtain ⟨disk,result,hwrite,hcases,hwritten⟩ := hblocks.written plainCalls (fun _ => none) ["run"] 7
      Channel.causedChunk message (by decide) hencode hdecode
    obtain ⟨block,rfl⟩ := hwritten.mpr (plainCalls_writes _ _)
    obtain h | h | ⟨kept,hkept,hread⟩ := hcases
    · cases h
    · cases h
    · exact ⟨disk,kept,hwrite.trans (by rw [hkept]),hread⟩

end Kept
end AytherRuntime.Storage
