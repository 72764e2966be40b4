import AytherRuntime.Audio.Streaming
import AytherRuntime.Fact.Batch
import AytherRuntime.Library.Machine
import AytherRuntime.Library.Splitting

/-! The writer that streams the facts of a run to the channel, in batches that the encoder takes. -/
namespace AytherRuntime.Binary.Streaming
open Codec
open Audio (StreamingWriter PcmLibrary PcmMessage PcmView)
open Splitting

section Writer

def batchCapacity : ℕ := 256

/-- A message that the channel took. -/
inductive Sent
  | factBatch (message : Bytes)
  | audioChunk (message : PcmMessage)
  | sessionStatus (message : Bytes)
  | terminal (message : Bytes)

/-- `StreamingObservationWriter`; its PCM side has the sequence and says whether the writer is valid. -/
structure ObservationWriter where
  pcm : StreamingWriter
  facts : List Fact := []
  factCount : ℕ := 0
  writes : ℕ := 0
  sent : List Sent := []

/-- Why a batch is not sent. -/
inductive BatchFailure
  | encoding (error : FactBatchError)
  | channel
  deriving DecidableEq

inductive WriterCall
  | consumeFact (copied : Option Fact)
  | pushFact (fact : Fact)
  | sendStatus (encode : ℕ → Option Bytes)
  | sendTerminal (encode : ℕ → Option Bytes)
  | beginSegment (forwarded : ℕ)
  | consumePcm (view : PcmView)
  | flush (finalizePcm : Bool)
  | setPcmLimit (limit : ℕ)

-- `channel` says of each write of the facts, the statuses and the terminals by its number whether the channel takes it,
-- and `takes` the same of the PCM blocks
variable (library : PcmLibrary) (takes channel : ℕ → Bool)
variable (encode : List Fact → UInt64 → Except FactBatchError Bytes)

namespace ObservationWriter
variable (writer : ObservationWriter)

def valid : Bool := writer.pcm.valid

def sequence : ℕ := writer.pcm.sequence

def invalidate : ObservationWriter := { writer with pcm := { writer.pcm with valid := false } }

/-- `write_channel` -/
def write (message : Sent) : ObservationWriter × Bool :=
  if channel writer.writes then
    ({ writer with
       pcm := { writer.pcm with sequence := writer.sequence + 1 }
       writes := writer.writes + 1
       sent := writer.sent ++ [message] },true)
  else ({ writer with writes := writer.writes + 1 },false)

/-- One batch is encoded and written. -/
def sendBatch (batch : List Fact) : Answer ObservationWriter BatchFailure :=
  match encode batch (UInt64.ofNat writer.sequence) with
  | .ok message =>
    match writer.write channel (.factBatch message) with
    | (writer,true) => .taken writer
    | (writer,false) => .failed writer.invalidate .channel
  | .error .batchTooLarge => .tooLarge
  | .error error => .failed writer.invalidate (.encoding error)

/-- What a call to the PCM side does. -/
def onPcm (result : StreamingWriter × Bool) : ObservationWriter × Bool :=
  ({ writer with
     pcm := result.1
     sent := writer.sent ++ (result.1.sent.drop writer.pcm.sent.length).map Sent.audioChunk },result.2)

/-- `flush_unlocked` -/
def flushUnlocked (finalizePcm : Bool) : ObservationWriter × Bool :=
  if !writer.valid then (writer,false)
  else
    match split (sendBatch channel encode) (fun count => count) (fun _ hcount => hcount) writer writer.facts with
    | .failed writer _ => (writer,false)
    | .indivisible writer => (writer.invalidate,false)
    | .done writer =>
      let writer := { writer with facts := [] }
      if finalizePcm then writer.onPcm (writer.pcm.flushPcm library takes) else (writer,true)

/-- `push_fact` -/
def pushFact (fact : Fact) : ObservationWriter × Bool :=
  if !writer.valid then (writer,false)
  else
    let writer := { writer with facts := writer.facts ++ [fact], factCount := writer.factCount + 1 }
    if writer.facts.length = batchCapacity then writer.flushUnlocked library takes channel encode false
    else (writer,true)

/-- `consume_fact`, with what the copy of the view is. -/
def consumeFact (copied : Option Fact) : ObservationWriter × Bool :=
  if !writer.valid then (writer,false)
  else
    match copied with
    | none => (writer.invalidate,false)
    | some fact => writer.pushFact library takes channel encode fact

/-- `send_terminal`; a status is sent the same way while the writer is valid. -/
def sendTerminal (kind : Bytes → Sent) (encode : ℕ → Option Bytes) : ObservationWriter × Bool :=
  match encode writer.sequence with
  | none => (writer,false)
  | some message => writer.write channel (kind message)

/-- `send_status` -/
def sendStatus (encode : ℕ → Option Bytes) : ObservationWriter × Bool :=
  if !writer.valid then (writer,false) else writer.sendTerminal channel .sessionStatus encode

/-- A call; the ones of the PCM side are of the writer of the PCM. -/
def call : WriterCall → ObservationWriter × Bool
  | .consumeFact copied => writer.consumeFact library takes channel encode copied
  | .pushFact fact => writer.pushFact library takes channel encode fact
  | .sendStatus encode => writer.sendStatus channel encode
  | .sendTerminal encode => writer.sendTerminal channel .terminal encode
  | .beginSegment forwarded => ({ writer with pcm := writer.pcm.beginSegment forwarded },true)
  | .consumePcm view => writer.onPcm (writer.pcm.consumePcm library takes view)
  | .flush finalizePcm => writer.flushUnlocked library takes channel encode finalizePcm
  | .setPcmLimit limit => ({ writer with pcm := { writer.pcm with pcmLimit := limit } },true)

def calls (calls : List WriterCall) : ObservationWriter :=
  calls.foldl (fun writer made => (writer.call library takes channel encode made).1) writer

/-- A writer after some calls from its start. -/
def run (runId : Bytes) (limit : ℕ) (made : List WriterCall) : ObservationWriter :=
  calls library takes channel encode { pcm := { runId, pcmLimit := limit } } made

end ObservationWriter
end Writer

section Flush
variable {library : PcmLibrary} {takes channel : ℕ → Bool}
variable {encode : List Fact → UInt64 → Except FactBatchError Bytes} {writer next : ObservationWriter}

/-- The messages of some batches, with consecutive sequences. -/
def Encodes (encode : List Fact → UInt64 → Except FactBatchError Bytes) (sequence : ℕ) (batches : List (List Fact))
    (messages : List Bytes) : Prop :=
  batches.mapIdx (fun index batch => encode batch (UInt64.ofNat (sequence + index))) = messages.map Except.ok

lemma Encodes.cons {sequence : ℕ} {batch : List Fact} {batches : List (List Fact)} {message : Bytes}
    {messages : List Bytes} (hfirst : encode batch (UInt64.ofNat sequence) = .ok message)
    (h : Encodes encode (sequence + 1) batches messages) :
    Encodes encode sequence (batch :: batches) (message :: messages) := by
  unfold Encodes at h ⊢
  rw [List.mapIdx_cons,List.map_cons,← h,Nat.add_zero,hfirst]
  simp only [Nat.add_assoc,Nat.add_comm 1]

lemma Encodes.length {sequence : ℕ} {batches : List (List Fact)} {messages : List Bytes}
    (h : Encodes encode sequence batches messages) : messages.length = batches.length := by
  have hlengths := congrArg List.length h
  rwa [List.length_mapIdx,List.length_map,eq_comm] at hlengths

/-- Some batches were sent, each once and in their order. -/
structure SentBatches (encode : List Fact → UInt64 → Except FactBatchError Bytes) (writer : ObservationWriter)
    (batches : List (List Fact)) (next : ObservationWriter) : Prop where
  sent : ∃ messages, Encodes encode writer.sequence batches messages ∧
    next.sent = writer.sent ++ messages.map Sent.factBatch
  nonempty : ∀ batch ∈ batches, batch ≠ []
  pcm : next.pcm = { writer.pcm with sequence := writer.sequence + batches.length }
  writes : next.writes = writer.writes + batches.length

lemma ObservationWriter.sendBatch_taken {batch : List Fact} (h : writer.sendBatch channel encode batch = .taken next) :
    ∃ message, encode batch (UInt64.ofNat writer.sequence) = .ok message ∧
      next.sent = writer.sent ++ [Sent.factBatch message] ∧ next.writes = writer.writes + 1 ∧
      next.pcm = { writer.pcm with sequence := writer.sequence + 1 } := by
  unfold ObservationWriter.sendBatch ObservationWriter.write at h
  cases hencode : encode batch (UInt64.ofNat writer.sequence) with
  | error error =>
    rw [hencode] at h
    cases error <;> exact nomatch h
  | ok message =>
    rw [hencode] at h
    dsimp only at h
    by_cases hchannel : channel writer.writes = true
    · rw [if_pos hchannel] at h
      obtain rfl := Answer.taken.inj h
      exact ⟨message,rfl,rfl,rfl,rfl⟩
    · rw [if_neg hchannel] at h
      exact nomatch h

lemma ObservationWriter.sendBatch_tooLarge {batch : List Fact} (h : writer.sendBatch channel encode batch = .tooLarge) :
    encode batch (UInt64.ofNat writer.sequence) = .error .batchTooLarge := by
  unfold ObservationWriter.sendBatch ObservationWriter.write at h
  cases hencode : encode batch (UInt64.ofNat writer.sequence) with
  | error error =>
    rw [hencode] at h
    cases error with
    | batchTooLarge => rfl
    | _ => exact nomatch h
  | ok message =>
    rw [hencode] at h
    dsimp only at h
    by_cases hchannel : channel writer.writes = true
    · rw [if_pos hchannel] at h
      exact nomatch h
    · rw [if_neg hchannel] at h
      exact nomatch h

/-- A batch fails because of its encoding or of its write. -/
lemma ObservationWriter.sendBatch_failed {batch : List Fact} {failure : BatchFailure}
    (h : writer.sendBatch channel encode batch = .failed next failure) :
    next.valid = false ∧ next.sent = writer.sent ∧ next.sequence = writer.sequence ∧
      ((∃ error, error ≠ .batchTooLarge ∧ encode batch (UInt64.ofNat writer.sequence) = .error error) ∨
        channel writer.writes = false ∧ next.writes = writer.writes + 1) := by
  unfold ObservationWriter.sendBatch ObservationWriter.write at h
  cases hencode : encode batch (UInt64.ofNat writer.sequence) with
  | error error =>
    rw [hencode] at h
    by_cases hlarge : error = .batchTooLarge
    · subst hlarge
      exact nomatch h
    · have hfailed : Answer.failed writer.invalidate (.encoding error) = .failed next failure := by
        rw [← h]
        cases error <;> first | rfl | exact absurd rfl hlarge
      obtain ⟨rfl,_⟩ := Answer.failed.inj hfailed
      exact ⟨rfl,rfl,rfl,Or.inl ⟨error,hlarge,rfl⟩⟩
  | ok message =>
    rw [hencode] at h
    dsimp only at h
    by_cases hchannel : channel writer.writes = true
    · rw [if_pos hchannel] at h
      exact nomatch h
    · rw [if_neg hchannel] at h
      obtain ⟨rfl,_⟩ := Answer.failed.inj h
      exact ⟨rfl,rfl,rfl,Or.inr ⟨Bool.eq_false_of_not_eq_true hchannel,rfl⟩⟩

lemma sentBatches_of_takes {batches : List (List Fact)}
    (h : Takes (ObservationWriter.sendBatch channel encode) writer batches next) :
    SentBatches encode writer batches next := by
  induction h with
  | nil writer => exact ⟨⟨[],rfl,(List.append_nil _).symm⟩,List.forall_mem_nil _,rfl,rfl⟩
  | cons hitems htaken _ ih =>
    obtain ⟨message,hencode,hsent,hwrites,hpcm⟩ := ObservationWriter.sendBatch_taken htaken
    obtain ⟨⟨messages,hmessages,hlater⟩,hnonempty,hlast,hlastWrites⟩ := ih
    unfold ObservationWriter.sequence at hmessages hlast
    rw [hpcm] at hmessages hlast
    refine ⟨⟨message :: messages,hmessages.cons hencode,?_⟩,List.forall_mem_cons.mpr ⟨hitems,hnonempty⟩,?_,?_⟩
    · rw [hlater,hsent,List.append_assoc]
      rfl
    · rw [hlast,List.length_cons,Nat.add_assoc,Nat.add_comm 1]
    · rw [hlastWrites,hwrites,List.length_cons,Nat.add_assoc,Nat.add_comm 1]

/-- All facts were sent. -/
structure Flushed (encode : List Fact → UInt64 → Except FactBatchError Bytes)
    (writer next : ObservationWriter) : Prop where
  covers : ∃ batches, batches.flatten = writer.facts ∧ SentBatches encode writer batches next
  facts : next.facts = []

/-- The first facts were sent, and a batch of the others could not be. -/
structure Unflushed (encode : List Fact → UInt64 → Except FactBatchError Bytes) (channel : ℕ → Bool)
    (writer next : ObservationWriter) : Prop where
  valid : next.valid = false
  cause : ∃ batches batch rest messages, batches.flatten ++ (batch ++ rest) = writer.facts ∧ batch ≠ [] ∧
    Encodes encode writer.sequence batches messages ∧ next.sent = writer.sent ++ messages.map Sent.factBatch ∧
    next.sequence = writer.sequence + batches.length ∧
    ((batch.length = 1 ∧ encode batch (UInt64.ofNat next.sequence) = .error .batchTooLarge) ∨
      (∃ error, error ≠ .batchTooLarge ∧ encode batch (UInt64.ofNat next.sequence) = .error error) ∨
      ∃ write, writer.writes ≤ write ∧ write < next.writes ∧ channel write = false)

variable (library takes channel encode) in
/-- What a flush of a valid writer does with the facts; the pending PCM block is sent behind them. -/
lemma ObservationWriter.flushUnlocked_cases (hvalid : writer.valid = true) :
    (∃ next, Flushed encode writer next ∧ ∀ finalizePcm,
      writer.flushUnlocked library takes channel encode finalizePcm =
        if finalizePcm then next.onPcm (next.pcm.flushPcm library takes) else (next,true)) ∨
    ∃ next, Unflushed encode channel writer next ∧ ∀ finalizePcm,
      writer.flushUnlocked library takes channel encode finalizePcm = (next,false) := by
  have hsplits := split_splits (ObservationWriter.sendBatch channel encode) (fun _ hcount => hcount) writer
    writer.facts
  unfold ObservationWriter.flushUnlocked
  rw [hvalid]
  cases houtcome : split (ObservationWriter.sendBatch channel encode) (fun count => count)
    (fun _ hcount => hcount) writer
      writer.facts with
  | done last =>
    rw [houtcome] at hsplits
    obtain ⟨batches,hcovers,htakes⟩ := hsplits
    have hsent := sentBatches_of_takes htakes
    exact Or.inl ⟨{ last with facts := [] },⟨⟨batches,hcovers,hsent.sent,hsent.nonempty,hsent.pcm,hsent.writes⟩,rfl⟩,
      fun _ => rfl⟩
  | indivisible last =>
    rw [houtcome] at hsplits
    obtain ⟨batches,fact,rest,hcovers,htakes,hlarge⟩ := hsplits
    obtain ⟨⟨messages,hmessages,hlater⟩,_,hpcm,_⟩ := sentBatches_of_takes htakes
    refine Or.inr ⟨last.invalidate,⟨rfl,batches,[fact],rest,messages,hcovers,List.cons_ne_nil _ _,hmessages,hlater,
      congrArg StreamingWriter.sequence hpcm,Or.inl ⟨rfl,?_⟩⟩,fun _ => rfl⟩
    change encode [fact] (UInt64.ofNat last.sequence) = _
    exact ObservationWriter.sendBatch_tooLarge hlarge
  | failed last failure =>
    rw [houtcome] at hsplits
    obtain ⟨batches,batch,rest,middle,hcovers,htakes,hbatch,_,hfailed⟩ := hsplits
    obtain ⟨⟨messages,hmessages,hlater⟩,_,hpcm,hwrites⟩ := sentBatches_of_takes htakes
    obtain ⟨hinvalid,hsent,hsequence,hcause⟩ := ObservationWriter.sendBatch_failed hfailed
    refine Or.inr ⟨last,⟨hinvalid,batches,batch,rest,messages,hcovers,hbatch,hmessages,hsent.trans hlater,
      hsequence.trans (congrArg StreamingWriter.sequence hpcm),Or.inr ?_⟩,fun _ => rfl⟩
    rw [hsequence]
    refine Or.imp_right (fun ⟨hchannel,hlast⟩ => ⟨middle.writes,?_,?_,hchannel⟩) hcause <;> omega

end Flush

section Runs
variable (library : PcmLibrary) (takes channel : ℕ → Bool)
variable (encode : List Fact → UInt64 → Except FactBatchError Bytes) {writer : ObservationWriter}

lemma flushPcm_sequence (pcm : StreamingWriter) : pcm.sequence ≤ (pcm.flushPcm library takes).1.sequence := by
  unfold StreamingWriter.flushPcm
  cases pcm.pendingPcm with
  | none => exact Nat.le_refl _
  | some pending =>
    dsimp only
    cases Audio.encodePcmMessage library (Audio.sealChunk library pending) pcm.sequence with
    | error error => exact Nat.le_refl _
    | ok message =>
      dsimp only
      split_ifs
      · exact Nat.le_refl _
      · exact Nat.le_refl _
      · exact Nat.le_succ _

lemma joinPending_sequence (pcm : StreamingWriter) (chunk : Audio.AudioChunk) :
    pcm.sequence ≤ (pcm.joinPending library takes chunk).1.sequence := by
  unfold StreamingWriter.joinPending
  cases pcm.pendingPcm with
  | none => exact Nat.le_refl _
  | some pending =>
    dsimp only
    split_ifs
    · exact Nat.le_refl _
    · have hflush := flushPcm_sequence library takes pcm
      split
      · rename_i heq
        rwa [heq] at hflush
      · rename_i heq
        rwa [heq] at hflush

lemma consumePcm_sequence (pcm : StreamingWriter) (view : PcmView) :
    pcm.sequence ≤ (pcm.consumePcm library takes view).1.sequence := by
  unfold StreamingWriter.consumePcm
  split
  · exact Nat.le_refl _
  · dsimp only
    cases Audio.copyReplayTracePcm library pcm.runId view with
    | none => exact Nat.le_refl _
    | some copied =>
      dsimp only
      split
      · exact Nat.le_refl _
      · exact Nat.le_refl _
      · rename_i chunk hchunk
        have hjoin := joinPending_sequence library takes
          { pcm with
            segmentStarts := (Audio.openSegments pcm.consumedPcm pcm.segmentStarts pcm.segment).1
            segment := (Audio.openSegments pcm.consumedPcm pcm.segmentStarts pcm.segment).2
            consumedPcm := pcm.consumedPcm + 1 } chunk
        split
        · rename_i heq
          rwa [heq] at hjoin
        · rename_i heq
          rwa [heq] at hjoin

lemma consumePcm_invalid {pcm : StreamingWriter} (h : pcm.valid = false) (view : PcmView) :
    pcm.consumePcm library takes view = (pcm,false) := by
  unfold StreamingWriter.consumePcm
  rw [h]
  rfl

lemma ObservationWriter.flushUnlocked_invalid (h : writer.valid = false) (finalizePcm : Bool) :
    writer.flushUnlocked library takes channel encode finalizePcm = (writer,false) := by
  unfold ObservationWriter.flushUnlocked
  rw [h]
  rfl

/-- The buffer of a valid writer has room, and its sequences go on from two. -/
structure Buffers (writer : ObservationWriter) : Prop where
  buffered : writer.valid = true → writer.facts.length < batchCapacity
  numbered : 2 ≤ writer.sequence

lemma Buffers.invalid (hinvalid : writer.valid = false) (hnumbered : 2 ≤ writer.sequence) : Buffers writer :=
  ⟨fun hvalid => absurd (hinvalid.symm.trans hvalid) (by decide),hnumbered⟩

/-- A flush empties the buffer or invalidates the writer. -/
lemma flushUnlocked_buffers (hnumbered : 2 ≤ writer.sequence) (finalizePcm : Bool) :
    Buffers (writer.flushUnlocked library takes channel encode finalizePcm).1 := by
  cases hvalid : writer.valid with
  | false =>
    rw [ObservationWriter.flushUnlocked_invalid library takes channel encode hvalid]
    exact .invalid hvalid hnumbered
  | true =>
    obtain ⟨next,hflushed,hresult⟩ | ⟨next,hunflushed,hresult⟩ :=
      ObservationWriter.flushUnlocked_cases library takes channel encode hvalid
    · obtain ⟨batches,_,hsent⟩ := hflushed.covers
      have hnext : 2 ≤ next.pcm.sequence := by
        rw [hsent.pcm]
        exact Nat.le_add_right_of_le hnumbered
      rw [hresult]
      have hroom : next.facts.length < batchCapacity := by
        rw [hflushed.facts]
        decide
      cases finalizePcm with
      | false => exact ⟨fun _ => hroom,hnext⟩
      | true => exact ⟨fun _ => hroom,hnext.trans (flushPcm_sequence library takes next.pcm)⟩
    · obtain ⟨batches,_,_,_,_,_,_,_,hsequence,_⟩ := hunflushed.cause
      rw [hresult]
      exact .invalid hunflushed.valid (by rw [hsequence]; exact Nat.le_add_right_of_le hnumbered)

lemma pushFact_buffers (h : Buffers writer) (fact : Fact) :
    Buffers (writer.pushFact library takes channel encode fact).1 := by
  unfold ObservationWriter.pushFact
  cases hvalid : writer.valid with
  | false => exact .invalid hvalid h.numbered
  | true =>
    dsimp only
    split_ifs with hinvalid hfull
    · exact absurd hinvalid (by decide)
    · have hnumbered : 2 ≤ ObservationWriter.sequence
          { writer with facts := writer.facts ++ [fact], factCount := writer.factCount + 1 } := h.numbered
      exact flushUnlocked_buffers library takes channel encode hnumbered false
    · refine ⟨fun _ => ?_,h.numbered⟩
      have hroom := h.buffered hvalid
      rw [List.length_append,List.length_singleton] at hfull ⊢
      exact Nat.lt_of_le_of_ne hroom hfull

lemma write_buffers (h : Buffers writer) (message : Sent) : Buffers (writer.write channel message).1 := by
  unfold ObservationWriter.write
  split_ifs
  · exact ⟨h.buffered,Nat.le_succ_of_le h.numbered⟩
  · exact ⟨h.buffered,h.numbered⟩

lemma sendTerminal_buffers (h : Buffers writer) (kind : Bytes → Sent) (encoding : ℕ → Option Bytes) :
    Buffers (writer.sendTerminal channel kind encoding).1 := by
  unfold ObservationWriter.sendTerminal
  cases encoding writer.sequence with
  | none => exact h
  | some message => exact write_buffers channel h (kind message)

lemma call_buffers (h : Buffers writer) (made : WriterCall) :
    Buffers (writer.call library takes channel encode made).1 := by
  cases made with
  | consumeFact copied =>
    change Buffers (writer.consumeFact library takes channel encode copied).1
    unfold ObservationWriter.consumeFact
    split_ifs
    · exact h
    · cases copied with
      | none => exact .invalid rfl h.numbered
      | some fact => exact pushFact_buffers library takes channel encode h fact
  | pushFact fact => exact pushFact_buffers library takes channel encode h fact
  | sendStatus encoding =>
    change Buffers (writer.sendStatus channel encoding).1
    unfold ObservationWriter.sendStatus
    split_ifs
    · exact h
    · exact sendTerminal_buffers channel h _ encoding
  | sendTerminal encoding => exact sendTerminal_buffers channel h _ encoding
  | beginSegment forwarded => exact ⟨h.buffered,h.numbered⟩
  | consumePcm view =>
    cases hvalid : writer.pcm.valid with
    | false =>
      change Buffers (writer.onPcm (writer.pcm.consumePcm library takes view)).1
      rw [consumePcm_invalid library takes hvalid]
      exact .invalid hvalid h.numbered
    | true => exact ⟨fun _ => h.buffered hvalid,h.numbered.trans (consumePcm_sequence library takes writer.pcm view)⟩
  | flush finalizePcm => exact flushUnlocked_buffers library takes channel encode h.numbered finalizePcm
  | setPcmLimit limit => exact ⟨h.buffered,h.numbered⟩

theorem run_buffers (runId : Bytes) (limit : ℕ) (made : List WriterCall) :
    Buffers (ObservationWriter.run library takes channel encode runId limit made) := by
  have hcalls : ∀ writer, Buffers writer →
      Buffers (ObservationWriter.calls library takes channel encode writer made) := by
    induction made with
    | nil => exact fun _ h => h
    | cons call made ih => exact fun _ h => ih _ (call_buffers library takes channel encode h call)
  exact hcalls _ ⟨fun _ => by change 0 < 256; decide,Nat.le_refl _⟩

/-- A writer that is not valid sends terminals only. -/
lemma call_invalid (h : writer.valid = false) (made : WriterCall) :
    (writer.call library takes channel encode made).1.valid = false ∧ ∃ terminals : List Bytes,
      (writer.call library takes channel encode made).1.sent = writer.sent ++ terminals.map Sent.terminal := by
  have hsame : writer.valid = false ∧ ∃ terminals : List Bytes, writer.sent = writer.sent ++
      terminals.map Sent.terminal :=
    ⟨h,[],(List.append_nil _).symm⟩
  have hrefused : ∀ {result : ObservationWriter × Bool}, result = (writer,false) → result.1.valid = false ∧
      ∃ terminals : List Bytes, result.1.sent = writer.sent ++ terminals.map Sent.terminal := fun heq => by
    rw [heq]
    exact hsame
  cases made with
  | consumeFact copied =>
    refine hrefused ?_
    simp only [ObservationWriter.call,ObservationWriter.consumeFact,h,Bool.not_false,if_true]
  | pushFact fact =>
    refine hrefused ?_
    simp only [ObservationWriter.call,ObservationWriter.pushFact,h,Bool.not_false,if_true]
  | sendStatus encoding =>
    refine hrefused ?_
    simp only [ObservationWriter.call,ObservationWriter.sendStatus,h,Bool.not_false,if_true]
  | sendTerminal encoding =>
    change (writer.sendTerminal channel .terminal encoding).1.valid = false ∧ ∃ terminals : List Bytes,
      (writer.sendTerminal channel .terminal encoding).1.sent = writer.sent ++ terminals.map Sent.terminal
    unfold ObservationWriter.sendTerminal ObservationWriter.write
    cases encoding writer.sequence with
    | none => exact hsame
    | some message =>
      dsimp only
      split_ifs
      · exact ⟨h,[message],rfl⟩
      · exact hsame
  | beginSegment forwarded => exact hsame
  | consumePcm view =>
    simp only [ObservationWriter.call,consumePcm_invalid library takes h,ObservationWriter.onPcm,List.drop_length,
      List.map_nil,
      List.append_nil]
    exact hsame
  | flush finalizePcm =>
    exact hrefused (ObservationWriter.flushUnlocked_invalid library takes channel encode h finalizePcm)
  | setPcmLimit limit => exact hsame

theorem calls_invalid (h : writer.valid = false) (made : List WriterCall) :
    (writer.calls library takes channel encode made).valid = false ∧ ∃ terminals : List Bytes,
      (writer.calls library takes channel encode made).sent = writer.sent ++ terminals.map Sent.terminal := by
  induction made generalizing writer with
  | nil => exact ⟨h,[],(List.append_nil _).symm⟩
  | cons call made ih =>
    obtain ⟨hinvalid,terminals,hsent⟩ := call_invalid library takes channel encode h call
    obtain ⟨hlast,later,hlater⟩ := ih hinvalid
    refine ⟨hlast,terminals ++ later,hlater.trans ?_⟩
    rw [hsent,List.append_assoc,List.map_append]

end Runs
end AytherRuntime.Binary.Streaming
