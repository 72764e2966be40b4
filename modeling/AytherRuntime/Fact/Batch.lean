import AytherRuntime.Fact.RoundTrip
import Mathlib.Data.List.Forall2

/-! The message that carries a batch of facts: its protocol header, its records, and what its decoder gives
back. -/
namespace AytherRuntime.Binary
open Codec

section Header

inductive MessageType
  | capabilities | request | cancel | sessionStatus | factBatch | audioChunk | terminal | diagnostic
  | acknowledgement
  deriving DecidableEq

structure ProtocolHeader where
  type : MessageType
  payloadBytes : UInt32
  channelId : UInt32
  channelSequence : UInt64
  deriving DecidableEq

inductive HeaderError
  | incomplete | invalidMagic | incompatibleVersion | invalidHeaderSize | unknownMessageType
  | unsupportedFlags | invalidPayloadLength | invalidChannel | invalidSequence | nonzeroReserved
  deriving DecidableEq

def protocolHeaderBytes : ℕ := 40
def maxProtocolPayloadBytes : ℕ := 256 * 1024 - protocolHeaderBytes

/-- The message types from number one on. -/
def messageTypes : List MessageType :=
  [.capabilities,.request,.cancel,.sessionStatus,.factBatch,.audioChunk,.terminal,.diagnostic,
   .acknowledgement]

def MessageType.code (type : MessageType) : ℕ := messageTypes.idxOf type + 1

/-- `known_type` and the cast that follows it. -/
def knownType (code : ℕ) : Option MessageType := if code = 0 then none else messageTypes[code - 1]?

def channelFor (type : MessageType) : UInt32 :=
  if type = .request ∨ type = .cancel ∨ type = .acknowledgement then 1 else 2

def protocolMagic : Bytes := [0x41,0x59,0x51,0x41]

def encodeProtocolHeader (header : ProtocolHeader) : Bytes :=
  protocolMagic ++ writeLe 2 1 ++ writeLe 2 0 ++ writeLe 2 protocolHeaderBytes ++
    writeLe 2 header.type.code ++ writeLe 4 0 ++ writeLe 4 header.payloadBytes.toNat ++
    writeLe 4 header.channelId.toNat ++ writeLe 8 header.channelSequence.toNat ++ writeLe 8 0

/-- `read_le` at an offset. -/
def readLeAt (width offset : ℕ) (bytes : Bytes) : ℕ := fromLe ((bytes.drop offset).take width)

def decodeProtocolHeader (bytes : Bytes) (expectedChannel : UInt32) : Except HeaderError ProtocolHeader :=
  if bytes.length < protocolHeaderBytes then .error .incomplete
  else if bytes.take 4 ≠ protocolMagic then .error .invalidMagic
  else if readLeAt 2 4 bytes ≠ 1 ∨ readLeAt 2 6 bytes ≠ 0 then .error .incompatibleVersion
  else if readLeAt 2 8 bytes ≠ protocolHeaderBytes then .error .invalidHeaderSize
  else
    match knownType (readLeAt 2 10 bytes) with
    | none => .error .unknownMessageType
    | some type =>
      if readLeAt 4 12 bytes ≠ 0 then .error .unsupportedFlags
      else
        let payloadBytes := readLeAt 4 16 bytes
        if payloadBytes = 0 ∨ maxProtocolPayloadBytes < payloadBytes then .error .invalidPayloadLength
        else
          let channelId := UInt32.ofNat (readLeAt 4 20 bytes)
          if (expectedChannel ≠ 1 ∧ expectedChannel ≠ 2) ∨ channelId ≠ expectedChannel ∨
              channelId ≠ channelFor type then .error .invalidChannel
          else
            let sequence := readLeAt 8 24 bytes
            if sequence = 0 then .error .invalidSequence
            else if readLeAt 8 32 bytes ≠ 0 then .error .nonzeroReserved
            else .ok ⟨type,UInt32.ofNat payloadBytes,channelId,UInt64.ofNat sequence⟩

lemma readLeAt_code (header : ProtocolHeader) :
    readLeAt 2 10 (encodeProtocolHeader header) = header.type.code := by
  have hcode : header.type.code < 256 ^ 2 := by
    cases header.type <;> decide
  exact Eq.trans (by rfl) (fromLe_writeLe hcode)

lemma readLeAt_payloadBytes (header : ProtocolHeader) :
    readLeAt 4 16 (encodeProtocolHeader header) = header.payloadBytes.toNat :=
  Eq.trans (by rfl) (fromLe_writeLe (show _ < 256 ^ 4 from header.payloadBytes.toNat_lt))

lemma readLeAt_channelId (header : ProtocolHeader) :
    readLeAt 4 20 (encodeProtocolHeader header) = header.channelId.toNat :=
  Eq.trans (by rfl) (fromLe_writeLe (show _ < 256 ^ 4 from header.channelId.toNat_lt))

lemma readLeAt_channelSequence (header : ProtocolHeader) :
    readLeAt 8 24 (encodeProtocolHeader header) = header.channelSequence.toNat :=
  Eq.trans (by rfl) (fromLe_writeLe (show _ < 256 ^ 8 from header.channelSequence.toNat_lt))

/-- A header on the channel of its type, with a payload within the limit and a sequence, reads back. -/
lemma decodeProtocolHeader_encode (header : ProtocolHeader)
    (hpayload : header.payloadBytes ≠ 0 ∧ header.payloadBytes.toNat ≤ maxProtocolPayloadBytes)
    (hchannel : header.channelId = channelFor header.type) (hsequence : header.channelSequence ≠ 0) :
    decodeProtocolHeader (encodeProtocolHeader header) header.channelId = .ok header := by
  have hlength : (encodeProtocolHeader header).length = protocolHeaderBytes := rfl
  have hmagic : (encodeProtocolHeader header).take 4 = protocolMagic := rfl
  have hmajor : readLeAt 2 4 (encodeProtocolHeader header) = 1 := rfl
  have hminor : readLeAt 2 6 (encodeProtocolHeader header) = 0 := rfl
  have hsize : readLeAt 2 8 (encodeProtocolHeader header) = protocolHeaderBytes := rfl
  have hflags : readLeAt 4 12 (encodeProtocolHeader header) = 0 := rfl
  have hreserved : readLeAt 8 32 (encodeProtocolHeader header) = 0 := rfl
  have htype : knownType header.type.code = some header.type := by
    cases header.type <;> decide
  have hexpected : ¬(channelFor header.type ≠ 1 ∧ channelFor header.type ≠ 2) := by
    unfold channelFor
    split <;> simp
  have hpositive : header.payloadBytes.toNat ≠ 0 := fun h => hpayload.1 (UInt32.toNat_inj.mp h)
  have hsequence' : header.channelSequence.toNat ≠ 0 := fun h => hsequence (UInt64.toNat_inj.mp h)
  unfold decodeProtocolHeader
  simp only [hlength,hmagic,hmajor,hminor,hsize,hflags,hreserved,readLeAt_code,readLeAt_payloadBytes,
    readLeAt_channelId,readLeAt_channelSequence,htype,hpositive,hsequence',UInt32.ofNat_toNat,
    UInt64.ofNat_toNat]
  obtain ⟨type,payloadBytes,channelId,channelSequence⟩ := header
  dsimp only at hchannel hexpected hpayload
  subst hchannel
  simp [hexpected,Nat.not_lt.mpr hpayload.2]

end Header

section Batch

inductive FactBatchError
  | invalidFact | invalidCount | factTooLarge | batchTooLarge | headerRejected | wrongMessageType
  | sequenceMismatch | truncated | lengthMismatch | malformedFact
  deriving DecidableEq

def maxFactBatchRecords : ℕ := 1024
def maxEncodedFactBytes : ℕ := 64 * 1024

-- the text form of a fact without fields, written and read by the TOML library
variable (encodeFact : Fact → Except FactBatchError Bytes)
  (decodeFact : Bytes → Except FactBatchError Fact)

def encodeRecord (fact : Fact) : Except FactBatchError Bytes :=
  if fact.fields = [] then encodeFact fact
  else
    match encodeBinaryFact fact with
    | some bytes => .ok bytes
    | none => .error .invalidFact

def isBinaryFact (record : Bytes) : Bool := record.take binaryFactMagic.length = binaryFactMagic

def decodeRecord (record : Bytes) : Except FactBatchError Fact :=
  if isBinaryFact record then
    match decodeBinaryFact record with
    | some fact => .ok fact
    | none => .error .malformedFact
  else decodeFact record

/-- The loop of `encode_fact_batch` over the payload written so far. -/
def encodeRecords : List Fact → Bytes → Except FactBatchError Bytes
  | [], payload => .ok payload
  | fact :: facts, payload =>
    match encodeRecord encodeFact fact with
    | .error error => .error error
    | .ok record =>
      if record = [] ∨ maxEncodedFactBytes < record.length + 4 then .error .factTooLarge
      else if maxProtocolPayloadBytes - 4 - record.length < payload.length then .error .batchTooLarge
      else encodeRecords facts (payload ++ (writeLe 4 record.length ++ record))

def encodeFactBatch (facts : List Fact) (sequence : UInt64) : Except FactBatchError Bytes :=
  if facts = [] ∨ maxFactBatchRecords < facts.length ∨ sequence = 0 then .error .invalidCount
  else
    match encodeRecords encodeFact facts (writeLe 4 facts.length) with
    | .error error => .error error
    | .ok payload =>
      .ok (encodeProtocolHeader ⟨.factBatch,UInt32.ofNat payload.length,2,sequence⟩ ++ payload)

/-- The loop of `decode_fact_batch` over what follows the cursor. -/
def decodeRecords : ℕ → Bytes → Except FactBatchError (List Fact × Bytes)
  | 0, payload => .ok ([],payload)
  | count + 1, payload =>
    if payload.length < 4 then .error .truncated
    else
      let length := readLeAt 4 0 payload
      let payload := payload.drop 4
      if length = 0 ∨ maxEncodedFactBytes < length + 4 then .error .factTooLarge
      else if payload.length < length then .error .truncated
      else
        match decodeRecord decodeFact (payload.take length) with
        | .error error => .error error
        | .ok fact =>
          match decodeRecords count (payload.drop length) with
          | .error error => .error error
          | .ok (facts,rest) => .ok (fact :: facts,rest)

def decodeFactBatch (message : Bytes) (expectedSequence : UInt64) : Except FactBatchError (List Fact) :=
  if message.length < protocolHeaderBytes then .error .headerRejected
  else
    match decodeProtocolHeader (message.take protocolHeaderBytes) 2 with
    | .error _ => .error .headerRejected
    | .ok header =>
      if header.type ≠ .factBatch then .error .wrongMessageType
      else if header.channelSequence ≠ expectedSequence then .error .sequenceMismatch
      else if header.payloadBytes.toNat ≠ message.length - protocolHeaderBytes then .error .lengthMismatch
      else
        let payload := message.drop protocolHeaderBytes
        if payload.length < 4 then .error .truncated
        else
          let count := readLeAt 4 0 payload
          if count = 0 ∨ maxFactBatchRecords < count then .error .invalidCount
          else
            match decodeRecords decodeFact count (payload.drop 4) with
            | .error error => .error error
            | .ok (facts,rest) => if rest ≠ [] then .error .lengthMismatch else .ok facts

/-- The bytes of the records, each after its length. -/
def recordBytes (records : List Bytes) : Bytes :=
  records.flatMap fun record => writeLe 4 record.length ++ record

/-- The records of a batch fit its message. -/
def RecordsFit (records : List Bytes) : Prop :=
  (∀ record ∈ records, record ≠ [] ∧ record.length + 4 ≤ maxEncodedFactBytes) ∧
    4 + (recordBytes records).length ≤ maxProtocolPayloadBytes

variable {encodeFact decodeFact}

/-- The encoder's loop writes the records one after another, as long as they fit. -/
lemma encodeRecords_eq_ok {facts : List Fact} {payload result : Bytes} :
    encodeRecords encodeFact facts payload = .ok result ↔
      ∃ records, List.Forall₂ (fun fact record => encodeRecord encodeFact fact = .ok record) facts records ∧
        (∀ record ∈ records, record ≠ [] ∧ record.length + 4 ≤ maxEncodedFactBytes) ∧
        (records ≠ [] → payload.length + (recordBytes records).length ≤ maxProtocolPayloadBytes) ∧
        result = payload ++ recordBytes records := by
  induction facts generalizing payload with
  | nil =>
    unfold encodeRecords
    constructor
    · intro h
      cases h
      exact ⟨[],.nil,by simp,by simp,(List.append_nil _).symm⟩
    · rintro ⟨records,hrecords,-,-,rfl⟩
      cases hrecords
      rw [recordBytes,List.flatMap_nil,List.append_nil]
  | cons fact facts ih =>
    unfold encodeRecords
    constructor
    · intro h
      split at h
      · cases h
      rename_i record hrecord
      split at h
      · cases h
      rename_i hsize
      split at h
      · cases h
      rename_i hroom
      obtain ⟨records,hrecords,hsizes,hrooms,rfl⟩ := ih.mp h
      have hfits : record ≠ [] ∧ record.length + 4 ≤ maxEncodedFactBytes := by
        rw [not_or,Nat.not_lt] at hsize
        exact hsize
      refine ⟨record :: records,.cons hrecord hrecords,List.forall_mem_cons.mpr ⟨hfits,hsizes⟩,fun _ => ?_,?_⟩
      · have hlarge : record.length ≤ maxProtocolPayloadBytes - 4 := by
          have hle := hfits.2
          unfold maxEncodedFactBytes at hle
          unfold maxProtocolPayloadBytes protocolHeaderBytes
          omega
        cases records with
        | nil =>
          simp only [recordBytes,List.flatMap_cons,List.flatMap_nil,List.length_append,length_writeLe,
            List.length_nil]
          unfold maxProtocolPayloadBytes protocolHeaderBytes at *
          omega
        | cons second records =>
          have hrest := hrooms (by simp)
          simp only [recordBytes,List.flatMap_cons,List.length_append,length_writeLe] at hrest ⊢
          omega
      · rw [List.append_assoc]
        rfl
    · rintro ⟨records,hrecords,hsizes,hroom,rfl⟩
      cases hrecords with
      | cons hrecord hrecords =>
        rename_i record records
        obtain ⟨hfits,hsizes⟩ := List.forall_mem_cons.mp hsizes
        have hroom := hroom (by simp)
        simp only [recordBytes,List.flatMap_cons,List.length_append,length_writeLe] at hroom
        rw [hrecord]
        dsimp only
        rw [if_neg (by rw [not_or,Nat.not_lt]; exact hfits),if_neg (by omega)]
        refine ih.mpr ⟨records,hrecords,hsizes,fun _ => ?_,?_⟩
        · simp only [recordBytes,List.length_append,length_writeLe]
          omega
        · simp [recordBytes]

lemma readLeAt_zero {width n : ℕ} (h : n < 256 ^ width) (rest : Bytes) :
    readLeAt width 0 (writeLe width n ++ rest) = n := by
  unfold readLeAt
  rw [List.drop_zero,List.take_left' (length_writeLe width n),fromLe_writeLe h]

/-- The decoder's loop gives the facts of the records back. -/
lemma decodeRecords_recordBytes {facts : List Fact} {records : List Bytes} (rest : Bytes)
    (hrecords : List.Forall₂ (fun fact record => decodeRecord decodeFact record = .ok fact) facts records)
    (hsizes : ∀ record ∈ records, record ≠ [] ∧ record.length + 4 ≤ maxEncodedFactBytes) :
    decodeRecords decodeFact facts.length (recordBytes records ++ rest) = .ok (facts,rest) := by
  induction hrecords with
  | nil => rfl
  | @cons fact record facts records hrecord hrecords ih =>
    obtain ⟨⟨hnonempty,hsize⟩,hsizes⟩ := List.forall_mem_cons.mp hsizes
    have hsplit : recordBytes (record :: records) ++ rest =
        writeLe 4 record.length ++ (record ++ (recordBytes records ++ rest)) := by
      simp [recordBytes]
    have hbound : record.length < 256 ^ 4 := by
      unfold maxEncodedFactBytes at hsize
      omega
    have hpositive : record.length ≠ 0 := by simpa using hnonempty
    have htail := ih hsizes
    rw [List.length_cons,hsplit]
    unfold decodeRecords
    rw [if_neg (by simp)]
    dsimp only
    rw [readLeAt_zero hbound,List.drop_left' (length_writeLe 4 _),if_neg (by omega),
      if_neg (by simp),List.take_left,List.drop_left,hrecord,htail]

/-- What the encoder accepts, and the message it gives. -/
lemma encodeFactBatch_eq_ok {facts : List Fact} {sequence : UInt64} {message : Bytes} :
    encodeFactBatch encodeFact facts sequence = .ok message ↔
      (facts ≠ [] ∧ facts.length ≤ maxFactBatchRecords ∧ sequence ≠ 0) ∧
      ∃ records, List.Forall₂ (fun fact record => encodeRecord encodeFact fact = .ok record) facts records ∧
        RecordsFit records ∧
        message = encodeProtocolHeader ⟨.factBatch,UInt32.ofNat (4 + (recordBytes records).length),2,sequence⟩ ++
          (writeLe 4 facts.length ++ recordBytes records) := by
  unfold encodeFactBatch
  split
  · rename_i hcount
    constructor
    · intro h
      cases h
    · rintro ⟨⟨hnonempty,hlength,hsequence⟩,-⟩
      rcases hcount with h | h | h
      · exact absurd h hnonempty
      · exact absurd hlength (Nat.not_le.mpr h)
      · exact absurd h hsequence
  rename_i hcount
  simp only [not_or,Nat.not_lt] at hcount
  constructor
  · intro h
    split at h
    · cases h
    rename_i payload hpayload
    obtain ⟨records,hrecords,hsizes,hroom,rfl⟩ := encodeRecords_eq_ok.mp hpayload
    cases h
    have hsome : records ≠ [] := by
      rintro rfl
      cases hrecords
      exact hcount.1 rfl
    have hroom := hroom hsome
    rw [length_writeLe] at hroom
    refine ⟨hcount,records,hrecords,⟨hsizes,hroom⟩,?_⟩
    rw [List.length_append,length_writeLe]
  · rintro ⟨-,records,hrecords,⟨hsizes,hroom⟩,rfl⟩
    have hencode : encodeRecords encodeFact facts (writeLe 4 facts.length) =
        .ok (writeLe 4 facts.length ++ recordBytes records) :=
      encodeRecords_eq_ok.mpr ⟨records,hrecords,hsizes,fun _ => by rwa [length_writeLe],rfl⟩
    rw [hencode]
    dsimp only
    rw [List.length_append,length_writeLe]

/-- A batch whose records read back reads back under its own sequence, and under no other. -/
lemma decodeFactBatch_encode {facts : List Fact} {sequence : UInt64} {message : Bytes}
    (hread : ∀ fact ∈ facts, ∀ record, encodeRecord encodeFact fact = .ok record →
      decodeRecord decodeFact record = .ok fact)
    (hencode : encodeFactBatch encodeFact facts sequence = .ok message) (expected : UInt64) :
    decodeFactBatch decodeFact message expected =
      if expected = sequence then .ok facts else .error .sequenceMismatch := by
  obtain ⟨⟨hnonempty,hcount,hsequence⟩,records,hrecords,⟨hsizes,hroom⟩,rfl⟩ :=
    encodeFactBatch_eq_ok.mp hencode
  have hback : List.Forall₂ (fun fact record => decodeRecord decodeFact record = .ok fact) facts records := by
    clear hencode hnonempty hcount hsizes hroom
    induction hrecords with
    | nil => exact .nil
    | cons hrecord _ ih =>
      obtain ⟨hfact,hfacts⟩ := List.forall_mem_cons.mp hread
      exact .cons (hfact _ hrecord) (ih hfacts)
  have hsmall : 4 + (recordBytes records).length < 2 ^ 32 := by
    unfold maxProtocolPayloadBytes protocolHeaderBytes at hroom
    omega
  have hpayload : (UInt32.ofNat (4 + (recordBytes records).length)).toNat = 4 + (recordBytes records).length := by
    rw [UInt32.toNat_ofNat']
    exact Nat.mod_eq_of_lt hsmall
  have hheader := decodeProtocolHeader_encode
    ⟨.factBatch,UInt32.ofNat (4 + (recordBytes records).length),2,sequence⟩
    ⟨fun h => by
      have hzero := congrArg UInt32.toNat h
      dsimp only at hzero
      rw [hpayload] at hzero
      exact absurd hzero (by simp),by dsimp only; rw [hpayload]; exact hroom⟩ rfl hsequence
  dsimp only at hheader
  have hlength : ∀ header, (encodeProtocolHeader header).length = protocolHeaderBytes := fun _ => rfl
  have hfew : facts.length < 256 ^ 4 := by
    unfold maxFactBatchRecords at hcount
    omega
  have hsome : facts.length ≠ 0 := fun h => hnonempty (List.length_eq_zero_iff.mp h)
  have hloop := decodeRecords_recordBytes [] hback hsizes
  rw [List.append_nil] at hloop
  unfold decodeFactBatch
  rw [if_neg (by simp [hlength]),List.take_left' (hlength _),hheader]
  dsimp only
  rw [if_neg (by simp)]
  split
  · rename_i hother
    rw [if_neg (fun h => hother h.symm)]
  · rename_i hsame
    rw [if_pos (not_not.mp hsame).symm,List.drop_left' (hlength _),hpayload,
      if_neg (by simp [hlength]),if_neg (by simp),readLeAt_zero hfew,
      if_neg (by rw [not_or,Nat.not_lt]; exact ⟨hsome,hcount⟩),List.drop_left' (length_writeLe 4 _),
      hloop]
    dsimp only
    rw [if_neg (by simp)]

/-- The record of a fact with fields is its binary form, and reads back as such. -/
lemma encodeRecord_of_fields {fact : Fact} (hwell : wellFormed fact = true) (hfields : fact.fields ≠ []) :
    encodeRecord encodeFact fact = .ok (binaryFactHeader ++ writeFact fact) ∧
      decodeRecord decodeFact (binaryFactHeader ++ writeFact fact) = .ok fact := by
  have hencode : encodeBinaryFact fact = some (binaryFactHeader ++ writeFact fact) := by
    unfold encodeBinaryFact
    rw [if_pos hwell]
  have hmagic : isBinaryFact (binaryFactHeader ++ writeFact fact) = true := rfl
  constructor
  · unfold encodeRecord
    rw [if_neg hfields,hencode]
  · unfold decodeRecord
    rw [if_pos hmagic,(decode_iff_encode _ _).mpr hencode]

lemma encodeRecord_rightUnique :
    Relator.RightUnique fun fact record => encodeRecord encodeFact fact = .ok record := by
  intro fact record record' hrecord hrecord'
  rw [hrecord] at hrecord'
  exact Except.ok.inj hrecord'

/-- The length of a fact's binary form. -/
def encodedLength (fact : Fact) : ℕ := (binaryFactHeader ++ writeFact fact).length

lemma recordsFit_map (facts : List Fact) :
    RecordsFit (facts.map fun fact => binaryFactHeader ++ writeFact fact) ↔
      (∀ fact ∈ facts, encodedLength fact + 4 ≤ maxEncodedFactBytes) ∧
      4 + (facts.map fun fact => 4 + encodedLength fact).sum ≤ maxProtocolPayloadBytes := by
  have hlength : (recordBytes (facts.map fun fact => binaryFactHeader ++ writeFact fact)).length =
      (facts.map fun fact => 4 + encodedLength fact).sum := by
    unfold recordBytes
    rw [List.length_flatMap,List.map_map]
    refine congrArg List.sum (List.map_congr_left fun fact _ => ?_)
    simp [encodedLength]
  unfold RecordsFit
  rw [hlength,List.forall_mem_map]
  refine and_congr_left fun _ => forall₂_congr fun fact _ => ?_
  exact and_iff_right (by simp [binaryFactHeader,binaryFactMagic])

end Batch

/-- Binary facts and batches of them read back: a well-formed fact from its bytes; accepted bytes are the
ones that the decoded fact gives, and none of their proper prefixes or extensions is accepted; and a list of
well-formed facts with fields, from the message that the encoder gives, under its own sequence only. The
encoder gives one for the counts, sequences and sizes of the protocol. -/
theorem binaryFacts_readBack :
    (∀ fact, wellFormed fact = true →
      ∃ bytes, encodeBinaryFact fact = some bytes ∧ decodeBinaryFact bytes = some fact) ∧
    (∀ bytes fact, decodeBinaryFact bytes = some fact →
      encodeBinaryFact fact = some bytes ∧
      (∀ shorter, shorter <+: bytes → shorter ≠ bytes → decodeBinaryFact shorter = none) ∧
      ∀ more, more ≠ [] → decodeBinaryFact (bytes ++ more) = none) ∧
    ∀ (encodeFact : Fact → Except FactBatchError Bytes) (decodeFact : Bytes → Except FactBatchError Fact)
      (facts : List Fact) (sequence : UInt64),
      (∀ fact ∈ facts, wellFormed fact = true ∧ fact.fields ≠ []) →
      ((∃ message, encodeFactBatch encodeFact facts sequence = .ok message) ↔
        (facts ≠ [] ∧ facts.length ≤ maxFactBatchRecords ∧ sequence ≠ 0) ∧
        (∀ fact ∈ facts, encodedLength fact + 4 ≤ maxEncodedFactBytes) ∧
        4 + (facts.map fun fact => 4 + encodedLength fact).sum ≤ maxProtocolPayloadBytes) ∧
      ∀ message, encodeFactBatch encodeFact facts sequence = .ok message →
        ∀ expected, decodeFactBatch decodeFact message expected =
          if expected = sequence then .ok facts else .error .sequenceMismatch := by
  refine ⟨fun fact hwell => ?_,fun bytes fact haccepted => ⟨?_,?_,?_⟩,?_⟩
  · have hencode : encodeBinaryFact fact = some (binaryFactHeader ++ writeFact fact) := by
      unfold encodeBinaryFact
      rw [if_pos hwell]
    exact ⟨_,hencode,(decode_iff_encode _ _).mpr hencode⟩
  · exact (decode_iff_encode _ _).mp haccepted
  · rintro shorter ⟨rest,rfl⟩ hshorter
    rw [Option.eq_none_iff_forall_ne_some]
    intro fact' haccepted'
    have hrest : rest ≠ [] := by
      rintro rfl
      exact hshorter (List.append_nil _).symm
    rw [decode_append_eq_none hrest haccepted'] at haccepted
    cases haccepted
  · exact fun more hmore => decode_append_eq_none hmore haccepted
  intro encodeFact decodeFact facts sequence hfacts
  have hrecord : ∀ fact ∈ facts, encodeRecord encodeFact fact = .ok (binaryFactHeader ++ writeFact fact) ∧
      decodeRecord decodeFact (binaryFactHeader ++ writeFact fact) = .ok fact :=
    fun fact hin => encodeRecord_of_fields (hfacts fact hin).1 (hfacts fact hin).2
  refine ⟨?_,fun message hencode => decodeFactBatch_encode (fun fact hin record hwritten => ?_) hencode⟩
  · have hwritten : List.Forall₂ (fun fact record => encodeRecord encodeFact fact = .ok record) facts
        (facts.map fun fact => binaryFactHeader ++ writeFact fact) :=
      List.forall₂_map_right_iff.mpr (List.forall₂_same.mpr fun fact hin => (hrecord fact hin).1)
    rw [← recordsFit_map]
    constructor
    · rintro ⟨message,hencode⟩
      obtain ⟨hcount,records,hrecords,hfit,-⟩ := encodeFactBatch_eq_ok.mp hencode
      refine ⟨hcount,?_⟩
      rwa [← List.right_unique_forall₂' encodeRecord_rightUnique hrecords hwritten]
    · rintro ⟨hcount,hfit⟩
      exact ⟨_,encodeFactBatch_eq_ok.mpr ⟨hcount,_,hwritten,hfit,rfl⟩⟩
  · obtain ⟨hwrite,hread⟩ := hrecord fact hin
    rw [hwrite] at hwritten
    cases hwritten
    exact hread

/-- A fact with one field: the frame on which a note starts. -/
def noteStarted : Fact where
  id := ⟨[114],[101],1⟩
  kind := [110]
  frameIndex := { availability := .known, value := some 7 }
  fields := [{ name := [116], availability := .known, unit := .emulationFrame, value := .uint64 7 }]

/-- A thousand and twenty-five well-formed facts with fields have no message. -/
theorem binaryFacts_tooMany :
    ¬∀ (encodeFact : Fact → Except FactBatchError Bytes) (decodeFact : Bytes → Except FactBatchError Fact)
      (facts : List Fact) (sequence : UInt64),
      (∀ fact ∈ facts, wellFormed fact = true ∧ fact.fields ≠ []) →
      ∃ message, encodeFactBatch encodeFact facts sequence = .ok message ∧
        decodeFactBatch decodeFact message sequence = .ok facts := by
  intro hall
  have hnote : wellFormed noteStarted = true ∧ noteStarted.fields ≠ [] := by decide
  obtain ⟨message,hencode,-⟩ := hall (fun _ => .error .invalidFact) (fun _ => .error .malformedFact)
    (List.replicate 1025 noteStarted) 1 (fun fact hin => List.eq_of_mem_replicate hin ▸ hnote)
  have hcount := (encodeFactBatch_eq_ok.mp hencode).1.2.1
  rw [List.length_replicate] at hcount
  exact absurd hcount (by decide)

end AytherRuntime.Binary
