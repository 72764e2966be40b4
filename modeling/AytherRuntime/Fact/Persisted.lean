import AytherRuntime.Audio.Incremental
import AytherRuntime.Fact.Streamed
import AytherRuntime.Fact.TextForm

/-! The facts of a run in the fragments that keep them, and what ends a list of facts that is sent or kept in
batches. -/
namespace AytherRuntime.Binary.Streaming
open Codec
open Audio (IntegratedEvidenceError PcmLibrary maxUInt64)
open Splitting

section Fragments

def factFragmentHeaderBytes : ℕ := 64
def maxFactFragmentBytes : ℕ := factFragmentHeaderBytes + protocolHeaderBytes + maxProtocolPayloadBytes

structure StoredFactFragment where
  sequence : ℕ
  recordCount : ℕ
  payload : Bytes
  facts : List Fact
  deriving DecidableEq

inductive FactFragmentStoreError
  | invalidSequence | invalidFacts | documentTooLarge | alreadyExists | ioError
  deriving DecidableEq, Repr

inductive ExclusiveFileWriteResult
  | written | alreadyExists | ioError
  deriving DecidableEq, Repr

/-- The fragments that are written before the loop ends, and the sequence of the next one. -/
structure Fragments where
  sequence : ℕ := 1
  fragments : List StoredFactFragment := []
  deriving DecidableEq

-- `directory` says of each fragment by its sequence what becomes of its file
variable (directory : ℕ → ExclusiveFileWriteResult)
variable (encode : List Fact → UInt64 → Except FactBatchError Bytes)

/-- `write_fact_fragment` -/
def writeFactFragment (sequence : ℕ) (facts : List Fact) : Except FactFragmentStoreError StoredFactFragment :=
  if sequence = 0 then .error .invalidSequence
  else
    match encode facts (UInt64.ofNat sequence) with
    | .error .batchTooLarge => .error .documentTooLarge
    | .error _ => .error .invalidFacts
    | .ok payload =>
      if maxFactFragmentBytes - factFragmentHeaderBytes < payload.length then .error .documentTooLarge
      else
        match directory sequence with
        | .alreadyExists => .error .alreadyExists
        | .ioError => .error .ioError
        | .written => .ok ⟨sequence,facts.length,payload,facts⟩

/-- One batch is written under the next sequence. -/
def publishBatch (state : Fragments) (batch : List Fact) : Answer Fragments IntegratedEvidenceError :=
  match writeFactFragment directory encode state.sequence batch with
  | .error .documentTooLarge => .tooLarge
  | .error _ => .failed state .factPublicationFailed
  | .ok stored =>
    let state := { state with fragments := state.fragments ++ [stored] }
    if state.sequence = maxUInt64 then .failed state .invalidInput
    else .taken { state with sequence := state.sequence + 1 }

lemma batchRecords_pos (count : ℕ) (hcount : 0 < count) : 0 < min maxFactBatchRecords count :=
  Nat.lt_min.mpr ⟨by decide,hcount⟩

/-- The loop of `persist_and_reopen_evidence` that publishes the facts. -/
def publishFacts (facts : List Fact) : List StoredFactFragment × Option IntegratedEvidenceError :=
  match split (publishBatch directory encode) (min maxFactBatchRecords) batchRecords_pos {} facts with
  | .done state => (state.fragments,none)
  | .indivisible state => (state.fragments,some .factPublicationFailed)
  | .failed state error => (state.fragments,some error)

end Fragments

section Published
variable {directory : ℕ → ExclusiveFileWriteResult} {encode : List Fact → UInt64 → Except FactBatchError Bytes}
variable {state next : Fragments} {batch : List Fact}

/-- A fragment holds its facts, encoded under its sequence. -/
def Holds (encode : List Fact → UInt64 → Except FactBatchError Bytes) (fragment : StoredFactFragment) : Prop :=
  encode fragment.facts (UInt64.ofNat fragment.sequence) = .ok fragment.payload ∧
    fragment.recordCount = fragment.facts.length ∧ fragment.facts ≠ []

/-- The fragments that were written hold some facts in their order, under consecutive sequences. -/
structure Published (encode : List Fact → UInt64 → Except FactBatchError Bytes) (sequence : ℕ) (facts : List Fact)
    (fragments : List StoredFactFragment) : Prop where
  covers : (fragments.map StoredFactFragment.facts).flatten = facts
  sequences : fragments.map StoredFactFragment.sequence = List.range' sequence fragments.length
  holds : ∀ fragment ∈ fragments, Holds encode fragment

lemma writeFactFragment_ok {sequence : ℕ} {facts : List Fact} {stored : StoredFactFragment} (hfacts : facts ≠ [])
    (h : writeFactFragment directory encode sequence facts = .ok stored) :
    stored.sequence = sequence ∧ stored.facts = facts ∧ Holds encode stored := by
  unfold writeFactFragment at h
  split at h
  · exact nomatch h
  · split at h
    · exact nomatch h
    · exact nomatch h
    · rename_i payload hencode
      split at h
      · exact nomatch h
      · split at h
        · exact nomatch h
        · exact nomatch h
        · obtain rfl := Except.ok.inj h
          exact ⟨rfl,rfl,hencode,rfl,hfacts⟩

lemma publishBatch_taken (hbatch : batch ≠ []) (h : publishBatch directory encode state batch = .taken next) :
    ∃ stored, stored.sequence = state.sequence ∧ stored.facts = batch ∧ Holds encode stored ∧
      state.sequence ≠ maxUInt64 ∧ next = ⟨state.sequence + 1,state.fragments ++ [stored]⟩ := by
  unfold publishBatch at h
  split at h
  · exact nomatch h
  · exact nomatch h
  · rename_i stored hstored
    obtain ⟨hsequence,hfacts,hholds⟩ := writeFactFragment_ok hbatch hstored
    dsimp only at h
    split_ifs at h with hlast
    obtain rfl := Answer.taken.inj h
    exact ⟨stored,hsequence,hfacts,hholds,hlast,rfl⟩

lemma publishBatch_tooLarge (h : publishBatch directory encode state batch = .tooLarge) :
    writeFactFragment directory encode state.sequence batch = .error .documentTooLarge := by
  unfold publishBatch at h
  split at h
  · assumption
  · exact nomatch h
  · dsimp only at h
    split_ifs at h

/-- A batch fails because of its encoding or of its file, or it is the last one that has a sequence. -/
lemma publishBatch_failed {error : IntegratedEvidenceError} (hbatch : batch ≠ []) (hsequence : state.sequence ≠ 0)
    (h : publishBatch directory encode state batch = .failed next error) :
    (error = .invalidInput ∧ state.sequence = maxUInt64 ∧ ∃ stored, stored.sequence = state.sequence ∧
        stored.facts = batch ∧ Holds encode stored ∧ next.fragments = state.fragments ++ [stored]) ∨
      error = .factPublicationFailed ∧ next = state ∧
        ((∃ error, error ≠ .batchTooLarge ∧ encode batch (UInt64.ofNat state.sequence) = .error error) ∨
          directory state.sequence ≠ .written) := by
  unfold publishBatch at h
  split at h
  · exact nomatch h
  · rename_i failure hlarge hfailure
    obtain ⟨rfl,rfl⟩ := Answer.failed.inj h
    refine Or.inr ⟨rfl,rfl,?_⟩
    unfold writeFactFragment at hfailure
    rw [if_neg hsequence] at hfailure
    split at hfailure
    · exact absurd (Except.error.inj hfailure).symm hlarge
    · rename_i error hother hencode
      exact Or.inl ⟨error,hother,hencode⟩
    · split at hfailure
      · exact absurd (Except.error.inj hfailure).symm hlarge
      · refine Or.inr fun hwritten => ?_
        rw [hwritten] at hfailure
        exact nomatch hfailure
  · rename_i stored hstored
    obtain ⟨hstoredSequence,hfacts,hholds⟩ := writeFactFragment_ok hbatch hstored
    dsimp only at h
    split_ifs at h with hlast
    obtain ⟨rfl,rfl⟩ := Answer.failed.inj h
    exact Or.inl ⟨rfl,hlast,stored,hstoredSequence,hfacts,hholds,rfl⟩

lemma Published.append {sequence : ℕ} {facts more : List Fact} {fragments later : List StoredFactFragment}
    (h : Published encode sequence facts fragments)
    (hlater : Published encode (sequence + fragments.length) more later) :
    Published encode sequence (facts ++ more) (fragments ++ later) where
  covers := by rw [List.map_append,List.flatten_append,h.covers,hlater.covers]
  sequences := by rw [List.map_append,h.sequences,hlater.sequences,List.length_append,List.range'_append_1]
  holds := List.forall_mem_append.mpr ⟨h.holds,hlater.holds⟩

lemma published_single {stored : StoredFactFragment} (h : Holds encode stored) :
    Published encode stored.sequence stored.facts [stored] where
  covers := List.append_nil _
  sequences := rfl
  holds := List.forall_mem_singleton.mpr h

lemma published_of_takes {batches : List (List Fact)} (h : Takes (publishBatch directory encode) state batches next) :
    ∃ written, next.fragments = state.fragments ++ written ∧ next.sequence = state.sequence + written.length ∧
      Published encode state.sequence batches.flatten written ∧
      (state.sequence ≤ maxUInt64 → next.sequence ≤ maxUInt64) := by
  induction h with
  | nil state => exact ⟨[],(List.append_nil _).symm,rfl,⟨rfl,rfl,List.forall_mem_nil _⟩,id⟩
  | @cons state middle last batch batches hitems htaken _ ih =>
    obtain ⟨stored,hsequence,hfacts,hholds,hroom,rfl⟩ := publishBatch_taken hitems htaken
    obtain ⟨written,hfragments,hnext,hpublished,hbound⟩ := ih
    refine ⟨stored :: written,?_,?_,?_,fun hle => hbound (Nat.lt_of_le_of_ne hle hroom)⟩
    · rw [hfragments,List.append_assoc]
      rfl
    · rw [hnext,List.length_cons,Nat.add_assoc,Nat.add_comm 1]
    · have hfirst := published_single hholds
      rw [hsequence,hfacts] at hfirst
      exact hfirst.append hpublished

lemma Published.length {sequence : ℕ} {facts : List Fact} {fragments : List StoredFactFragment}
    (h : Published encode sequence facts fragments) : fragments.length ≤ facts.length := by
  rw [← h.covers]
  have hholds := h.holds
  clear h
  induction fragments with
  | nil => exact Nat.le_refl _
  | cons fragment fragments ih =>
    obtain ⟨hfirst,hlater⟩ := List.forall_mem_cons.mp hholds
    have hpos := List.length_pos_iff.mpr hfirst.2.2
    rw [List.map_cons,List.flatten_cons,List.length_append,List.length_cons]
    have hrest := ih hlater
    omega

/-- The first facts are kept, and a batch of the others could not be written as the next fragment. -/
structure Unpublished (encode : List Fact → UInt64 → Except FactBatchError Bytes)
    (directory : ℕ → ExclusiveFileWriteResult) (facts : List Fact) (fragments : List StoredFactFragment) : Prop where
  room : fragments.length < maxUInt64
  cause : ∃ first batch rest, Published encode 1 first fragments ∧ first ++ (batch ++ rest) = facts ∧ batch ≠ [] ∧
    batch.length ≤ maxFactBatchRecords ∧
    ((batch.length = 1 ∧ writeFactFragment directory encode (fragments.length + 1) batch = .error .documentTooLarge) ∨
      (∃ error, error ≠ .batchTooLarge ∧ encode batch (UInt64.ofNat (fragments.length + 1)) = .error error) ∨
      directory (fragments.length + 1) ≠ .written)

/-- What becomes of the facts. -/
lemma publishFacts_cases (directory : ℕ → ExclusiveFileWriteResult)
    (encode : List Fact → UInt64 → Except FactBatchError Bytes) (facts : List Fact) :
    (∃ fragments, publishFacts directory encode facts = (fragments,none) ∧ Published encode 1 facts fragments) ∨
      (∃ fragments, publishFacts directory encode facts = (fragments,some .factPublicationFailed) ∧
        Unpublished encode directory facts fragments) ∨
      ∃ fragments, publishFacts directory encode facts = (fragments,some .invalidInput) ∧ maxUInt64 ≤ facts.length := by
  have hsplits := split_splits (publishBatch directory encode) batchRecords_pos {} facts
  unfold publishFacts
  cases houtcome : split (publishBatch directory encode) (min maxFactBatchRecords) batchRecords_pos {} facts with
  | done last =>
    rw [houtcome] at hsplits
    obtain ⟨batches,rfl,htakes⟩ := hsplits
    obtain ⟨written,hfragments,_,hpublished,_⟩ := published_of_takes htakes
    exact Or.inl ⟨last.fragments,rfl,hfragments ▸ hpublished⟩
  | indivisible last =>
    rw [houtcome] at hsplits
    obtain ⟨batches,fact,rest,rfl,htakes,hlarge⟩ := hsplits
    obtain ⟨written,hfragments,hsequence,hpublished,hbound⟩ := published_of_takes htakes
    have hnext : last.sequence = last.fragments.length + 1 := by
      rw [hsequence,hfragments]
      exact Nat.add_comm _ _
    have hroom : last.fragments.length < maxUInt64 := Nat.lt_of_succ_le (hnext.symm.trans_le (hbound (by decide)))
    exact Or.inr (Or.inl ⟨last.fragments,rfl,hroom,batches.flatten,[fact],rest,hfragments ▸ hpublished,rfl,
      List.cons_ne_nil _ _,Nat.le_add_left 1 1023,Or.inl ⟨rfl,hnext ▸ publishBatch_tooLarge hlarge⟩⟩)
  | failed last error =>
    rw [houtcome] at hsplits
    obtain ⟨batches,batch,rest,middle,rfl,htakes,hbatch,hlength,hfailed⟩ := hsplits
    obtain ⟨written,hfragments,hsequence,hpublished,hbound⟩ := published_of_takes htakes
    have hnext : middle.sequence = middle.fragments.length + 1 := by
      rw [hsequence,hfragments]
      exact Nat.add_comm _ _
    have hpositive : middle.sequence ≠ 0 := hnext ▸ Nat.succ_ne_zero _
    obtain ⟨rfl,hlast,stored,hstored,rfl,hholds,hall⟩ | ⟨rfl,rfl,hcause⟩ := publishBatch_failed hbatch hpositive hfailed
    · have hfirst := published_single hholds
      rw [hstored,hsequence] at hfirst
      have hlengths := (hpublished.append hfirst).length
      have hcount : (written ++ [stored]).length = maxUInt64 := by
        rw [← hlast,hnext,hfragments,List.length_append]
        rfl
      refine Or.inr (Or.inr ⟨last.fragments,rfl,?_⟩)
      rw [← List.append_assoc,List.length_append]
      exact Nat.le_add_right_of_le (hcount ▸ hlengths)
    · have hroom : last.fragments.length < maxUInt64 := Nat.lt_of_succ_le (hnext.symm.trans_le (hbound (by decide)))
      refine Or.inr (Or.inl ⟨last.fragments,rfl,hroom,batches.flatten,batch,rest,hfragments ▸ hpublished,rfl,hbatch,
        hlength.trans (Nat.min_le_left _ _),Or.inr ?_⟩)
      rwa [← hnext]

end Published

section Encoder
variable {encodeFact : Fact → Except FactBatchError Bytes} {fact : Fact} {facts : List Fact} {sequence : UInt64}

/-- A fact is encoded in a batch of its own. -/
def Encodable (encodeFact : Fact → Except FactBatchError Bytes) (fact : Fact) : Prop :=
  ∃ message, encodeFactBatch encodeFact [fact] 1 = .ok message

lemma Encodable.record (h : Encodable encodeFact fact) :
    ∃ record, encodeRecord encodeFact fact = .ok record ∧ RecordsFit [record] := by
  obtain ⟨message,hmessage⟩ := h
  obtain ⟨_,records,hrecords,hfit,_⟩ := encodeFactBatch_eq_ok.mp hmessage
  obtain _ | ⟨hrecord,hnone⟩ := hrecords
  obtain _ | _ := hnone
  exact ⟨_,hrecord,hfit⟩

lemma not_encodable_of_error (hsequence : sequence ≠ 0) {error : FactBatchError}
    (h : encodeFactBatch encodeFact [fact] sequence = .error error) : ¬Encodable encodeFact fact := by
  intro hencodable
  obtain ⟨record,hrecord,hfit⟩ := hencodable.record
  have hmessage := encodeFactBatch_eq_ok.mpr ⟨⟨List.cons_ne_nil fact [],by change 1 ≤ 1024; decide,hsequence⟩,[record],
    .cons hrecord .nil,hfit,rfl⟩
  exact nomatch h.symm.trans hmessage

/-- The records stop at a fact that is not encodable, or where the batch is too large. -/
lemma encodeRecords_error {payload : Bytes} {error : FactBatchError}
    (h : encodeRecords encodeFact facts payload = .error error) (hlarge : error ≠ .batchTooLarge) :
    ∃ fact ∈ facts, ¬Encodable encodeFact fact := by
  induction facts generalizing payload with
  | nil => exact nomatch h
  | cons fact facts ih =>
    rw [encodeRecords] at h
    cases hrecord : encodeRecord encodeFact fact with
    | error failure =>
      refine ⟨fact,List.mem_cons_self,fun hencodable => ?_⟩
      obtain ⟨record,hok,_⟩ := hencodable.record
      exact nomatch hrecord.symm.trans hok
    | ok record =>
      rw [hrecord] at h
      dsimp only at h
      by_cases hsize : record = [] ∨ maxEncodedFactBytes < record.length + 4
      · refine ⟨fact,List.mem_cons_self,fun hencodable => ?_⟩
        obtain ⟨other,hok,hfit⟩ := hencodable.record
        obtain rfl := Except.ok.inj (hrecord.symm.trans hok)
        obtain ⟨hnonempty,hfits⟩ := hfit.1 record (List.mem_singleton_self record)
        exact hsize.elim hnonempty (Nat.not_lt.mpr hfits)
      · rw [if_neg hsize] at h
        split_ifs at h with hroom
        · exact absurd (Except.error.inj h).symm hlarge
        · obtain ⟨other,hmem,hother⟩ := ih h
          exact ⟨other,List.mem_cons_of_mem fact hmem,hother⟩

lemma exists_not_encodable (hfacts : facts ≠ []) (hcount : facts.length ≤ maxFactBatchRecords)
    (hsequence : sequence ≠ 0)
    {error : FactBatchError} (hlarge : error ≠ .batchTooLarge)
    (h : encodeFactBatch encodeFact facts sequence = .error error) : ∃ fact ∈ facts, ¬Encodable encodeFact fact := by
  unfold encodeFactBatch at h
  rw [if_neg (by simp [hfacts,hsequence,Nat.not_lt.mpr hcount])] at h
  cases hrecords : encodeRecords encodeFact facts (writeLe 4 facts.length) with
  | error failure =>
    rw [hrecords] at h
    obtain rfl := Except.error.inj h
    exact encodeRecords_error hrecords hlarge
  | ok payload =>
    rw [hrecords] at h
    exact nomatch h

/-- A message of the encoder fits in a fragment. -/
lemma encodeFactBatch_length {message : Bytes} (h : encodeFactBatch encodeFact facts sequence = .ok message) :
    message.length ≤ maxFactFragmentBytes - factFragmentHeaderBytes := by
  obtain ⟨_,records,_,hfit,rfl⟩ := encodeFactBatch_eq_ok.mp h
  have hroom := hfit.2
  have hheader : (encodeProtocolHeader
      ⟨.factBatch,UInt32.ofNat (4 + (recordBytes records).length),2,sequence⟩).length = protocolHeaderBytes := rfl
  rw [List.length_append,List.length_append,length_writeLe,hheader]
  unfold maxFactFragmentBytes
  omega

lemma ofNat_ne_zero {number : ℕ} (hpositive : number ≠ 0) (hbound : number < 2 ^ 64) : UInt64.ofNat number ≠ 0 := by
  intro hzero
  have hnat := congrArg UInt64.toNat hzero
  rw [UInt64.toNat_ofNat_of_lt' hbound] at hnat
  exact hpositive hnat

/-- Facts that could not be kept: one is not encodable, or a file was not written. -/
lemma Unpublished.not_encodable {directory : ℕ → ExclusiveFileWriteResult} {fragments : List StoredFactFragment}
    (h : Unpublished (encodeFactBatch encodeFact) directory facts fragments) :
    (∃ fact ∈ facts, ¬Encodable encodeFact fact) ∨ directory (fragments.length + 1) ≠ .written := by
  obtain ⟨first,batch,rest,_,rfl,hbatch,hcount,hcause⟩ := h.cause
  have hroom := h.room
  have hsequence : UInt64.ofNat (fragments.length + 1) ≠ 0 := ofNat_ne_zero (Nat.succ_ne_zero _) (by
    unfold maxUInt64 at hroom
    omega)
  have hof : ∀ {fact}, fact ∈ batch → fact ∈ first ++ (batch ++ rest) := fun hmem =>
    List.mem_append_right _ (List.mem_append_left _ hmem)
  obtain ⟨hone,hlarge⟩ | ⟨error,hother,herror⟩ | hdirectory := hcause
  · obtain ⟨fact,rfl⟩ := List.length_eq_one_iff.mp hone
    refine Or.inl ⟨fact,hof (List.mem_singleton_self fact),?_⟩
    unfold writeFactFragment at hlarge
    rw [if_neg (Nat.succ_ne_zero _)] at hlarge
    cases hencode : encodeFactBatch encodeFact [fact] (UInt64.ofNat (fragments.length + 1)) with
    | error error => exact not_encodable_of_error hsequence hencode
    | ok payload =>
      rw [hencode] at hlarge
      dsimp only at hlarge
      rw [if_neg (Nat.not_lt.mpr (encodeFactBatch_length hencode))] at hlarge
      split at hlarge <;> exact nomatch hlarge
  · obtain ⟨fact,hmem,hfact⟩ := exists_not_encodable hbatch hcount hsequence hother herror
    exact Or.inl ⟨fact,hof hmem,hfact⟩
  · exact Or.inr hdirectory

/-- Facts that could not be sent: one is not encodable, a write failed, or there are no sequences left. -/
lemma Unflushed.not_encodable {channel : ℕ → Bool} {writer next : ObservationWriter}
    (h : Unflushed (encodeFactBatch encodeFact) channel writer next) (hnumbered : 2 ≤ writer.sequence)
    (hcount : writer.facts.length ≤ maxFactBatchRecords) :
    (∃ fact ∈ writer.facts, ¬Encodable encodeFact fact) ∨
      (∃ write, writer.writes ≤ write ∧ write < next.writes ∧ channel write = false) ∨ 2 ^ 64 ≤ next.sequence := by
  obtain ⟨batches,batch,rest,messages,hcovers,hbatch,_,_,hsequence,hcause⟩ := h.cause
  by_cases hbound : 2 ^ 64 ≤ next.sequence
  · exact Or.inr (Or.inr hbound)
  · have hnonzero : UInt64.ofNat next.sequence ≠ 0 := ofNat_ne_zero (by omega) (by omega)
    have hof : ∀ {fact}, fact ∈ batch → fact ∈ writer.facts := fun hmem => by
      rw [← hcovers]
      exact List.mem_append_right _ (List.mem_append_left _ hmem)
    have hlength : batch.length ≤ maxFactBatchRecords := by
      rw [← hcovers,List.length_append,List.length_append] at hcount
      omega
    obtain ⟨hone,hlarge⟩ | ⟨error,hother,herror⟩ | hwrite := hcause
    · obtain ⟨fact,rfl⟩ := List.length_eq_one_iff.mp hone
      exact Or.inl ⟨fact,hof (List.mem_singleton_self fact),not_encodable_of_error hnonzero hlarge⟩
    · obtain ⟨fact,hmem,hfact⟩ := exists_not_encodable hbatch hlength hnonzero hother herror
      exact Or.inl ⟨fact,hof hmem,hfact⟩
    · exact Or.inr (Or.inl hwrite)

/-- A list of facts is sent, and kept, in batches that are the list in its order, whatever the encoder answers to them;
where that fails a fact is not encodable, a write failed or the sequences are used up, and the writer sends terminals
only. -/
theorem facts_split :
    (∀ library takes channel encode (writer : ObservationWriter), writer.valid = true →
      (∃ next, Flushed encode writer next ∧ ∀ finalizePcm,
        writer.flushUnlocked library takes channel encode finalizePcm =
          if finalizePcm then next.onPcm (next.pcm.flushPcm library takes) else (next,true)) ∨
      ∃ next, Unflushed encode channel writer next ∧ ∀ finalizePcm,
        writer.flushUnlocked library takes channel encode finalizePcm = (next,false)) ∧
    (∀ library takes channel encodeFact runId limit made facts next,
      let writer := ObservationWriter.run library takes channel (encodeFactBatch encodeFact) runId limit made
      (writer.valid = true → writer.facts.length < batchCapacity) ∧
        (facts.length ≤ batchCapacity →
          Unflushed (encodeFactBatch encodeFact) channel { writer with facts } next →
            (∃ fact ∈ facts, ¬Encodable encodeFact fact) ∨
              (∃ write, writer.writes ≤ write ∧ write < next.writes ∧ channel write = false) ∨
              2 ^ 64 ≤ next.sequence)) ∧
    (∀ library takes channel encode (writer : ObservationWriter) made, writer.valid = false →
      (writer.calls library takes channel encode made).valid = false ∧ ∃ terminals : List Bytes,
        (writer.calls library takes channel encode made).sent = writer.sent ++ terminals.map Sent.terminal) ∧
    (∀ directory encode facts,
      (∃ fragments, publishFacts directory encode facts = (fragments,none) ∧ Published encode 1 facts fragments) ∨
        (∃ fragments, publishFacts directory encode facts = (fragments,some .factPublicationFailed) ∧
          Unpublished encode directory facts fragments) ∨
        ∃ fragments, publishFacts directory encode facts = (fragments,some .invalidInput) ∧
          maxUInt64 ≤ facts.length) ∧
    ∀ directory encodeFact facts fragments, Unpublished (encodeFactBatch encodeFact) directory facts fragments →
      (∃ fact ∈ facts, ¬Encodable encodeFact fact) ∨ directory (fragments.length + 1) ≠ .written := by
  refine ⟨fun library takes channel encode writer => ObservationWriter.flushUnlocked_cases library takes channel encode,
    ?_,fun library takes channel encode writer made hinvalid =>
      calls_invalid library takes channel encode hinvalid made,
    publishFacts_cases,fun directory encodeFact facts fragments => Unpublished.not_encodable⟩
  intro library takes channel encodeFact runId limit made facts next writer
  have hbuffers := run_buffers library takes channel (encodeFactBatch encodeFact) runId limit made
  exact ⟨hbuffers.buffered,fun hcount hunflushed =>
    hunflushed.not_encodable hbuffers.numbered (hcount.trans (by decide))⟩

/-- A fact without a kind, which the text form does not take. -/
def unwritableFact : Fact := { id := ⟨[65],[65],1⟩, kind := [] }

/-- The writer is not valid after a fact that is not encodable, and its terminal is sent. -/
theorem terminal_after_failed_flush : ¬∀ library takes channel encodeFact runId limit made call,
    let writer := ObservationWriter.run library takes channel (encodeFactBatch encodeFact) runId limit made
    let flushed := writer.flushUnlocked library takes channel (encodeFactBatch encodeFact) false
    flushed.2 = false →
      (flushed.1.call library takes channel (encodeFactBatch encodeFact) call).1.sent = flushed.1.sent := by
  intro h
  let encode := encodeFactBatch (encodeFact shortLibrary)
  let writer : ObservationWriter := { pcm := { runId := [] }, facts := [unwritableFact], factCount := 1 }
  have hflush : writer.flushUnlocked ⟨fun _ => [],fun _ _ => [],fun _ => 0⟩ (fun _ => true) (fun _ => true) encode
      false = (writer.invalidate,false) := by
    have hsplit : split (ObservationWriter.sendBatch (fun _ => true) encode) (fun count => count)
        (fun _ hcount => hcount) writer [unwritableFact] = .failed writer.invalidate (.encoding .invalidFact) :=
      split_failed _ (List.cons_ne_nil _ _) rfl
    unfold ObservationWriter.flushUnlocked
    rw [show writer.facts = [unwritableFact] from rfl,hsplit]
    rfl
  have hsent := h ⟨fun _ => [],fun _ _ => [],fun _ => 0⟩ (fun _ => true) (fun _ => true) (encodeFact shortLibrary) []
    maxUInt64 [.pushFact unwritableFact] (.sendTerminal fun _ => some [0])
  change (writer.flushUnlocked _ _ _ encode false).2 = false →
    ((writer.flushUnlocked _ _ _ encode false).1.call _ _ _ _ _).1.sent =
      (writer.flushUnlocked _ _ _ encode false).1.sent at hsent
  rw [hflush] at hsent
  exact List.cons_ne_nil _ _ (hsent rfl)

end Encoder
end AytherRuntime.Binary.Streaming
