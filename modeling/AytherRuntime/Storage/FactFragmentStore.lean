import AytherRuntime.Library.Envelope
import AytherRuntime.Storage.ContentHash
import AytherRuntime.Storage.ExclusiveFile

/-! The fragments that keep the facts of a run: one batch of facts in each, in a document that is written once. -/
namespace AytherRuntime.Storage
open Binary (FactBatchError decodeFactBatch encodeFactBatch encodeFactBatch_eq_ok maxFactBatchRecords
  maxProtocolPayloadBytes protocolHeaderBytes)
open Codec (Bytes)
open Envelope (Kind Layout ReadFailure Refusal Stored WriteFailure)

section Source

def factFragmentHeaderBytes : ℕ := 64
def maxFactFragmentBytes : ℕ := factFragmentHeaderBytes + protocolHeaderBytes + maxProtocolPayloadBytes

structure StoredFactFragment where
  path : Path
  sequence : UInt64
  recordCount : ℕ
  payloadIdentity : ContentIdentity
  documentIdentity : ContentIdentity
  facts : List Binary.Fact
  deriving DecidableEq

inductive FactFragmentStoreError
  | invalidSequence | invalidFacts | documentTooLarge | alreadyExists | ioError | malformedHeader
  | incompatibleVersion | lengthMismatch | sequenceMismatch | hashMismatch | countMismatch | invalidContent
  deriving DecidableEq, Repr

/-- The letters `AYTFACT1`. -/
def fragmentMagic : Bytes := [65,89,84,70,65,67,84,49]

/-- The header of a fragment: version 1.0, the number of records, and the size of the payload after it. -/
def fragmentLayout : Layout where
  magic := fragmentMagic
  major := 1
  minor := 0
  maxBytes := maxFactFragmentBytes
  sizeFirst := false
  digest payload := (identifyContent payload).sha256
  magic_length := rfl
  major_lt := by decide
  minor_lt := by decide
  maxBytes_lt := by decide
  digest_length payload := (identifyContent payload).sized

/-- `fragment_path` -/
def fragmentPath (directory : Path) (sequence : UInt64) : Path :=
  directory ++ ["fragments","facts-" ++ twentyDigits sequence ++ ".aqf"]

def mapBatchError : FactBatchError → FactFragmentStoreError
  | .sequenceMismatch => .sequenceMismatch
  | .invalidCount => .countMismatch
  | .batchTooLarge => .documentTooLarge
  | _ => .invalidContent

end Source

section Kind

lemma encodeFactBatch_admits {encodeFact : Binary.Fact → Except FactBatchError Bytes} {facts : List Binary.Fact}
    {sequence : UInt64}
    {payload : Bytes} (h : encodeFactBatch encodeFact facts sequence = .ok payload) :
    payload.length ≤ protocolHeaderBytes + maxProtocolPayloadBytes ∧ 0 < facts.length ∧
      facts.length ≤ maxFactBatchRecords := by
  obtain ⟨⟨hsome,hcount,-⟩,records,-,⟨-,hroom⟩,rfl⟩ := encodeFactBatch_eq_ok.mp h
  refine ⟨?_,List.length_pos_iff.mpr hsome,hcount⟩
  have hheader : (Binary.encodeProtocolHeader
      ⟨.factBatch,UInt32.ofNat (4 + (Binary.recordBytes records).length),2,sequence⟩).length =
        protocolHeaderBytes := rfl
  rw [List.length_append,List.length_append,Codec.length_writeLe,hheader]
  omega

/-- A batch is decoded under the sequence of its header only. -/
lemma decodeFactBatch_sequence {decodeFact : Bytes → Except FactBatchError Binary.Fact} {payload : Bytes}
    {sequence : UInt64}
    {facts : List Binary.Fact} (h : decodeFactBatch decodeFact payload sequence = .ok facts) :
    ∃ header, Binary.decodeProtocolHeader (payload.take protocolHeaderBytes) 2 = .ok header ∧
      header.channelSequence = sequence := by
  unfold decodeFactBatch at h
  split at h
  · exact nomatch h
  split at h
  · exact nomatch h
  rename_i header hheader
  split at h
  · exact nomatch h
  split at h
  · exact nomatch h
  rename_i hsequence
  exact ⟨header,hheader,not_not.mp hsequence⟩

end Kind

section Store
variable (encodeFact : Binary.Fact → Except FactBatchError Bytes) (decodeFact : Bytes →
  Except FactBatchError Binary.Fact)

/-- The fragments, with the batches in them. -/
def factFragments : Kind (List Binary.Fact) FactBatchError where
  layout := fragmentLayout
  encode := encodeFactBatch encodeFact
  decode := decodeFactBatch decodeFact
  count := List.length
  accepts count := count ≠ 0 && count ≤ maxFactBatchRecords
  fits _ := true
  admits := by
    intro facts sequence payload h
    obtain ⟨hlength,hpositive,hcount⟩ := encodeFactBatch_admits h
    have hbound : maxFactBatchRecords < 256 ^ 4 := by decide
    refine ⟨?_,rfl,by omega,?_⟩
    · change 64 + payload.length ≤ 64 + protocolHeaderBytes + maxProtocolPayloadBytes
      omega
    · simp only [Bool.and_eq_true,decide_eq_true_eq]
      omega
  sequence_unique := by
    intro payload first second facts others hfirst hsecond
    obtain ⟨header,hheader,rfl⟩ := decodeFactBatch_sequence hfirst
    obtain ⟨other,hother,rfl⟩ := decodeFactBatch_sequence hsecond
    rw [hheader] at hother
    rw [Except.ok.inj hother]

/-- Where a fragment is refused. -/
def fragmentRefusal : ReadFailure FactBatchError → FactFragmentStoreError
  | .refused .tooLarge => .documentTooLarge
  | .refused .malformed => .malformedHeader
  | .refused .incompatible => .incompatibleVersion
  | .refused .sequence => .invalidSequence
  | .refused .count => .countMismatch
  | .refused .length => .lengthMismatch
  | .refused .digest => .hashMismatch
  | .undecoded error => mapBatchError error
  | .miscounted => .countMismatch

/-- A fragment with its document, as it is stored. -/
def storedFragment (path : Path) (stored : Stored (List Binary.Fact)) (document : Bytes) : StoredFactFragment :=
  ⟨path,stored.sequence,stored.value.length,identifyContent stored.message,identifyContent document,stored.value⟩

/-- `write_fact_fragment` -/
def writeFactFragment (calls : ExclusiveCalls) (disk : Disk) (directory : Path) (sequence : UInt64)
    (facts : List Binary.Fact) : Disk × Except FactFragmentStoreError StoredFactFragment :=
  match (factFragments encodeFact decodeFact).write sequence facts with
  | .error .zeroSequence => (disk,.error .invalidSequence)
  | .error (.unencoded error) =>
    (disk,.error (if error = .batchTooLarge then .documentTooLarge else .invalidFacts))
  | .error .tooLarge => (disk,.error .documentTooLarge)
  | .ok stored =>
    let document := (factFragments encodeFact decodeFact).document stored
    let path := fragmentPath directory sequence
    match writeEvidenceFile calls disk path document with
    | (disk,.alreadyExists) => (disk,.error .alreadyExists)
    | (disk,.ioError) => (disk,.error .ioError)
    | (disk,.written) => (disk,.ok (storedFragment path stored document))

/-- `read_fact_fragment` -/
def readFactFragment (path : Path) : StoredFile → Except FactFragmentStoreError StoredFactFragment
  | .unsized => .error .ioError
  | .unreadable size =>
    .error (if maxFactFragmentBytes < size then .documentTooLarge
      else if size < factFragmentHeaderBytes then .malformedHeader
      else .ioError)
  | .content document =>
    match (factFragments encodeFact decodeFact).read document with
    | .error failure => .error (fragmentRefusal failure)
    | .ok stored => .ok (storedFragment path stored document)

end Store

section Result
variable {encodeFact : Binary.Fact → Except FactBatchError Bytes} {decodeFact : Bytes →
  Except FactBatchError Binary.Fact}
variable {path : Path} {sequence : UInt64} {facts : List Binary.Fact}
variable {payload document : Bytes}

/-- A fragment is read exactly where the document is that of its facts. -/
lemma readFactFragment_content {fragment : StoredFactFragment} :
    readFactFragment encodeFact decodeFact path (.content document) = .ok fragment ↔
      ∃ stored, (factFragments encodeFact decodeFact).read document = .ok stored ∧
        fragment = storedFragment path stored document := by
  unfold readFactFragment
  dsimp only
  cases (factFragments encodeFact decodeFact).read document with
  | error failure => simp
  | ok stored =>
    constructor
    · intro h
      exact ⟨stored,rfl,(Except.ok.inj h).symm⟩
    · rintro ⟨found,hfound,rfl⟩
      rw [Except.ok.inj hfound]

/-- What is accepted is the document that is written around its payload. -/
theorem readFactFragment_ok {fragment : StoredFactFragment}
    (h : readFactFragment encodeFact decodeFact path (.content document) = .ok fragment) :
    ∃ payload, document = fragmentLayout.document ⟨fragment.sequence,fragment.facts.length,payload⟩ ∧
      fragment.sequence ≠ 0 ∧ fragment.recordCount = fragment.facts.length ∧
      fragment.payloadIdentity = identifyContent payload ∧
      decodeFactBatch decodeFact payload fragment.sequence = .ok fragment.facts := by
  obtain ⟨stored,hread,rfl⟩ := readFactFragment_content.mp h
  obtain ⟨hdocument,hdecode,hsequence,-⟩ := Envelope.Kind.read_eq_ok_iff.mp hread
  exact ⟨stored.message,hdocument,hsequence,rfl,rfl,hdecode⟩

lemma factFragments_document (stored : Stored (List Binary.Fact)) :
    (factFragments encodeFact decodeFact).document stored =
    fragmentLayout.document ⟨stored.sequence,stored.value.length,stored.message⟩ := rfl

/-- The document of facts whose payload decodes to them is read as what was stored. -/
lemma readFactFragment_document (hsequence : sequence ≠ 0)
    (hencode : encodeFactBatch encodeFact facts sequence = .ok payload)
    (hdecode : decodeFactBatch decodeFact payload sequence = .ok facts) :
    readFactFragment encodeFact decodeFact path (.content (fragmentLayout.document ⟨sequence,facts.length,payload⟩)) =
      .ok (storedFragment path ⟨sequence,payload,facts⟩ (fragmentLayout.document ⟨sequence,facts.length,payload⟩)) := by
  have hread : (factFragments encodeFact decodeFact).read
      ((factFragments encodeFact decodeFact).document ⟨sequence,payload,facts⟩) = .ok ⟨sequence,payload,facts⟩ :=
    Envelope.Kind.read_document hsequence hencode hdecode
  rw [factFragments_document] at hread
  exact readFactFragment_content.mpr ⟨_,hread,rfl⟩

/-- The write of facts that are encoded fails because of the file only. -/
lemma writeFactFragment_eq (decodeFact : Bytes → Except FactBatchError Binary.Fact) (calls : ExclusiveCalls)
    (disk : Disk) (directory : Path) (hsequence : sequence ≠ 0)
    (hencode : encodeFactBatch encodeFact facts sequence = .ok payload) :
    writeFactFragment encodeFact decodeFact calls disk directory sequence facts =
      (let document := fragmentLayout.document ⟨sequence,facts.length,payload⟩
      match writeEvidenceFile calls disk (fragmentPath directory sequence) document with
      | (disk,.alreadyExists) => (disk,.error .alreadyExists)
      | (disk,.ioError) => (disk,.error .ioError)
      | (disk,.written) =>
        (disk,.ok (storedFragment (fragmentPath directory sequence) ⟨sequence,payload,facts⟩ document))) := by
  have hwrite : (factFragments encodeFact decodeFact).write sequence facts = .ok ⟨sequence,payload,facts⟩ :=
    Envelope.Kind.write_eq hsequence hencode
  unfold writeFactFragment
  rw [hwrite]
  rfl

end Result
end AytherRuntime.Storage
