import AytherRuntime.Audio.Streaming
import Mathlib.Data.List.Chain

/-! What the streamed blocks say of the views behind them: the writer sends the batches of the clipped views, in
their order and up to the first that it cannot send. -/
namespace AytherRuntime.Audio
open Codec Splitting
open Binary (identifier maxFactCauses)

section Input

/-- The views that pass the gate, and the ordinals at which the segments begin. -/
structure PcmInput where
  silent : Bool := false
  views : List PcmView := []
  starts : List ℕ := []

def PcmInput.step (input : PcmInput) : PcmEvent → PcmInput
  | .setSilent silent => { input with silent }
  | .receivePcm view => if input.silent then input else { input with views := input.views ++ [view] }
  | .beginSegment => { input with starts := input.starts ++ [input.views.length] }
  | .consumePcm | .flush => input

def inputOf (events : List PcmEvent) : PcmInput := events.foldl PcmInput.step {}

/-- How many segments begin at an ordinal or before it. -/
def segmentAt (starts : List ℕ) (ordinal : ℕ) : ℕ := (starts.filter fun start => start ≤ ordinal).length

variable (library : PcmLibrary) (runId : Bytes) (limit : ℕ)

/-- A view up to the limit, in a segment. -/
def PcmView.clipped (segment : ℕ) (view : PcmView) : AudioChunk :=
  let chunk := view.chunk library runId
  let stop := min view.range.stop limit
  let bytes := view.bytes.take ((stop - view.range.begin) * chunk.format.frameBytes)
  { chunk with range := { view.range with stop }, bytes, sha256 := knownHash library bytes, segment }

/-- The views that begin before the limit, each up to it and in the segment of its ordinal. -/
def clippedViews (starts : List ℕ) (views : List PcmView) : List AudioChunk :=
  (views.zipIdx.filter fun view => view.1.range.begin < limit).map fun view =>
    view.1.clipped library runId limit (segmentAt starts view.2)

def PcmInput.chunks (input : PcmInput) : List AudioChunk := clippedViews library runId limit input.starts input.views

/-- The batches of some chunks. -/
def pcmBlocks (chunks : List AudioChunk) : List AudioChunk := batches id appendChunk canAppend none chunks

/-- A block is of consecutive chunks of one stream and one segment. -/
structure BlockOf (block : AudioChunk) (chunks : List AudioChunk) : Prop where
  wellFormed : block.wellFormed = true
  first : ∃ first ∈ chunks.head?, block.range.begin = first.range.begin ∧
    block.producerSequence = first.producerSequence
  last : ∃ last ∈ chunks.getLast?, block.range.stop = last.range.stop
  adjoining : chunks.IsChain fun previous next => previous.range.stop = next.range.begin
  bytes : block.bytes = chunks.flatMap AudioChunk.bytes
  stream : ∀ chunk ∈ chunks, chunk.segment = block.segment ∧ chunk.format = block.format ∧
    chunk.capturePoint = block.capturePoint ∧ chunk.range.timelineId = block.range.timelineId
  causes : ∀ cause, cause ∈ block.causeIds ↔ ∃ chunk ∈ chunks, cause ∈ chunk.causeIds
  once : block.causeIds.Nodup
  bounded : block.causeIds.length ≤ maxFactCauses

/-- A block has samples, and its message has room for it. -/
def Sendable (block : AudioChunk) : Prop :=
  block.range.begin ≠ block.range.stop ∧ 0 < library.metadataBytes (sealChunk library block) ∧
    library.metadataBytes (sealChunk library block) ≤ maxProtocolPayloadBytes ∧
    payloadBytes library (sealChunk library block) ≤ maxProtocolPayloadBytes

instance (block : AudioChunk) : Decidable (Sendable library block) := inferInstanceAs (Decidable (_ ∧ _))

/-- What the channel has of some blocks after a number of blocks and bytes, and whether it has them all. -/
def sendBlocks (takes : ℕ → Bool) : ℕ → ℕ → List AudioChunk → List AudioChunk × Bool
  | _, _, [] => ([],true)
  | count, bytes, block :: blocks =>
    if ¬Sendable library block ∨ takes count = false then ([],false)
    else if maxUInt64 - bytes < block.bytes.length then ([sealChunk library block],false)
    else
      let rest := sendBlocks takes (count + 1) (bytes + block.bytes.length) blocks
      (sealChunk library block :: rest.1,rest.2)

end Input

section WellFormed
variable {library : PcmLibrary} {pending chunk : AudioChunk}

lemma AudioChunk.wellFormed_iff : chunk.wellFormed = true ↔
    (identifier chunk.runId = true ∧ identifier chunk.capturePoint = true ∧ chunk.producerSequence ≠ 0) ∧
    (chunk.range.wellFormed = true ∧ chunk.range.sampleRate = chunk.format.sampleRate) ∧
    Binary.consistentAvailability chunk.sha256 = true ∧
    (Binary.consistentAvailability chunk.checkpointId = true ∧ chunk.checkpointId.value.all identifier = true ∧
      (chunk.durability = .pending ∨ chunk.sha256.value.isSome = true ∧ chunk.checkpointId.value.isSome = true)) ∧
    expectedPayloadBytes chunk.format (chunk.range.stop - chunk.range.begin) = some chunk.bytes.length ∧
    (validCauses chunk.runId chunk.causeIds = true ∧ chunk.causeIds.Nodup) ∧
    chunk.discontinuities.length ≤ maxAudioDiscontinuities ∧
    chunk.discontinuities.all (AudioDiscontinuity.wellFormed chunk.runId) = true := by
  unfold AudioChunk.wellFormed
  simp only [Bool.and_eq_true,Bool.or_eq_true,decide_eq_true_eq]
  tauto

lemma sealChunk_wellFormed (h : chunk.wellFormed = true) : (sealChunk library chunk).wellFormed = true := by
  rw [AudioChunk.wellFormed_iff] at h ⊢
  obtain ⟨hidentity,hrange,-,⟨hcheckpoint,hvalue,hdurable⟩,hrest⟩ := h
  exact ⟨hidentity,hrange,rfl,⟨hcheckpoint,hvalue,hdurable.imp_right fun hknown => ⟨rfl,hknown.2⟩⟩,hrest⟩

/-- The encoder takes a sealed block exactly when it has samples and room in its message. -/
lemma encode_sealed (h : chunk.wellFormed = true) {sequence : ℕ} (hsequence : sequence ≠ 0) :
    (Sendable library chunk → encodePcmMessage library (sealChunk library chunk) sequence =
      .ok ⟨sequence,sealChunk library chunk⟩) ∧
    (¬Sendable library chunk → ∃ error, encodePcmMessage library (sealChunk library chunk) sequence =
      .error error) := by
  have hwf := @sealChunk_wellFormed library chunk h
  constructor
  · rintro ⟨hsamples,hsome,hmetadata,hpayload⟩
    unfold encodePcmMessage
    rw [if_neg (by simp [hwf,hsequence]; exact hsamples),if_neg (by simp [sealChunk,knownHash]),
      if_neg (by simp [sealChunk,knownHash]),if_neg (by omega),if_neg (by omega)]
  · intro hunsendable
    unfold encodePcmMessage
    split_ifs with hinvalid hunhashed hhash hmetadata hmessage
    · exact ⟨_,rfl⟩
    · exact ⟨_,rfl⟩
    · exact ⟨_,rfl⟩
    · exact ⟨_,rfl⟩
    · exact ⟨_,rfl⟩
    · refine absurd ⟨?_,?_,?_,?_⟩ hunsendable
      · exact fun hempty => hinvalid (Or.inr (Or.inr hempty))
      · omega
      · omega
      · omega

lemma SampleFrameRange.wellFormed_iff {range : SampleFrameRange} : range.wellFormed = true ↔
    identifier range.timelineId = true ∧ 0 < range.sampleRate ∧ range.begin ≤ range.stop := by
  unfold SampleFrameRange.wellFormed
  simp only [Bool.and_eq_true,decide_eq_true_eq,and_assoc]

lemma AudioFormat.frameBytes_pos (format : AudioFormat) (h : format.channels ≠ 0) : 0 < format.frameBytes := by
  refine Nat.mul_pos ?_ (Nat.pos_of_ne_zero h)
  cases format.pcm <;> decide

lemma expectedPayloadBytes_iff {format : AudioFormat} {frames size : ℕ} :
    expectedPayloadBytes format frames = some size ↔
      (format.sampleRate ≠ 0 ∧ format.sampleRate ≤ 192000 ∧ format.channels ≠ 0 ∧ format.channels ≤ 8) ∧
        frames * format.frameBytes = size ∧ size ≤ maxAudioPayloadBytes := by
  unfold expectedPayloadBytes
  split_ifs with hformat hframes
  · refine iff_of_false (by simp) fun hall => ?_
    omega
  · refine iff_of_false (by simp) fun hall => ?_
    have hpos : 0 < format.frameBytes := format.frameBytes_pos (by omega)
    exact absurd ((Nat.le_div_iff_mul_le hpos).mpr (hall.2.1.trans_le hall.2.2)) (Nat.not_le.mpr hframes)
  · have hpos : 0 < format.frameBytes := format.frameBytes_pos (by omega)
    have hroom := (Nat.le_div_iff_mul_le hpos).mp (Nat.not_lt.mp hframes)
    rw [Option.some.injEq]
    constructor
    · rintro rfl
      exact ⟨by omega,rfl,hroom⟩
    · exact fun hall => hall.2.1

lemma wellFormed_causes (h : chunk.wellFormed = true) : chunk.causeIds.length ≤ maxFactCauses := by
  have hcauses := (AudioChunk.wellFormed_iff.mp h).2.2.2.2.2.1.1
  unfold validCauses at hcauses
  simp only [Bool.and_eq_true,decide_eq_true_eq] at hcauses
  exact hcauses.1

end WellFormed

section Join
variable {pending chunk : AudioChunk}

/-- What lets a chunk join the pending one. -/
structure Joins (pending chunk : AudioChunk) : Prop where
  runId : pending.runId = chunk.runId
  capturePoint : pending.capturePoint = chunk.capturePoint
  format : pending.format = chunk.format
  timeline : pending.range.timelineId = chunk.range.timelineId
  sampleRate : pending.range.sampleRate = chunk.range.sampleRate
  adjoining : pending.range.stop = chunk.range.begin
  segment : pending.segment = chunk.segment
  later : pending.producerSequence < chunk.producerSequence
  discontinuities : pending.discontinuities.length + chunk.discontinuities.length ≤ maxAudioDiscontinuities
  causes : pending.causeIds.length + chunk.causeIds.length ≤ maxFactCauses
  bytes : pending.bytes.length + chunk.bytes.length ≤ pcmBatchBytes

lemma joins_of_canAppend (h : canAppend pending chunk = true) : Joins pending chunk := by
  unfold canAppend at h
  simp only [Bool.not_eq_true',Bool.or_eq_false_iff,decide_eq_false_iff_not,not_not,not_le,not_lt] at h
  obtain ⟨⟨⟨⟨⟨⟨⟨⟨⟨⟨⟨⟨⟨hrun,hcapture⟩,hpcm⟩,hrate⟩,hchannels⟩,htimeline⟩,hsampleRate⟩,hadjoining⟩,hsegment⟩,hlater⟩,
    hfull⟩,hdiscontinuities⟩,hcauses⟩,hbytes⟩ := h
  have hformat : pending.format = chunk.format := by
    cases hp : pending.format
    cases hc : chunk.format
    rw [hp,hc] at hpcm hrate hchannels
    dsimp only at hpcm hrate hchannels
    rw [hpcm,hrate,hchannels]
  exact ⟨hrun,hcapture,hformat,htimeline,hsampleRate,hadjoining,hsegment,hlater,hdiscontinuities,hcauses,by omega⟩

lemma addCauses_nodup {causes : List Binary.FactId} (h : causes.Nodup) (more : List Binary.FactId) :
    (addCauses causes more).Nodup := by
  induction more generalizing causes with
  | nil => exact h
  | cons cause more ih =>
    refine ih ?_
    split_ifs with hknown
    · exact h
    · exact List.nodup_append.mpr ⟨h,by simp,fun known hmem other hother => by
        rw [List.mem_singleton.mp hother]
        exact fun hsame => hknown (hsame ▸ hmem)⟩

lemma mem_addCauses {causes more : List Binary.FactId} {cause : Binary.FactId} :
    cause ∈ addCauses causes more ↔ cause ∈ causes ∨ cause ∈ more := by
  induction more generalizing causes with
  | nil => simp [addCauses]
  | cons first more ih =>
    rw [addCauses,ih]
    split_ifs with hknown
    · constructor
      · tauto
      · rintro (hcause | hcause)
        · exact Or.inl hcause
        · rcases List.mem_cons.mp hcause with rfl | hmore
          · exact Or.inl hknown
          · exact Or.inr hmore
    · simp only [List.mem_append,List.mem_cons]
      tauto

lemma addCauses_length (causes more : List Binary.FactId) :
    (addCauses causes more).length ≤ causes.length + more.length := by
  induction more generalizing causes with
  | nil => simp [addCauses]
  | cons cause more ih =>
    rw [addCauses,List.length_cons]
    refine (ih _).trans ?_
    split_ifs
    · omega
    · rw [List.length_append,List.length_singleton]
      omega

/-- A well-formed chunk behind a pending one that it can join leaves it well formed. -/
lemma appendChunk_wellFormed (hpending : pending.wellFormed = true) (hchunk : chunk.wellFormed = true)
    (h : canAppend pending chunk = true) : (appendChunk pending chunk).wellFormed = true := by
  have hjoins := joins_of_canAppend h
  rw [AudioChunk.wellFormed_iff,SampleFrameRange.wellFormed_iff,expectedPayloadBytes_iff] at hpending hchunk ⊢
  obtain ⟨hidentity,⟨⟨htimeline,hrate,hrange⟩,hsame⟩,hhash,hcheckpoint,⟨hformat,hsize,-⟩,⟨hcauses,honce⟩,-,hgaps⟩ :=
    hpending
  obtain ⟨-,⟨⟨-,-,hnextRange⟩,-⟩,-,-,⟨-,hnextSize,-⟩,⟨hnextCauses,-⟩,-,hnextGaps⟩ := hchunk
  rw [← hjoins.format,← hjoins.adjoining] at hnextSize
  rw [← hjoins.runId] at hnextCauses hnextGaps
  rw [← hjoins.adjoining] at hnextRange
  refine ⟨hidentity,⟨⟨htimeline,hrate,hrange.trans hnextRange⟩,hsame⟩,hhash,hcheckpoint,⟨hformat,?_,?_⟩,
    ⟨?_,addCauses_nodup honce _⟩,?_,?_⟩
  · show (chunk.range.stop - pending.range.begin) * pending.format.frameBytes =
      (pending.bytes ++ chunk.bytes).length
    rw [List.length_append,← hsize,← hnextSize,← Nat.add_mul]
    congr 1
    omega
  · show (pending.bytes ++ chunk.bytes).length ≤ maxAudioPayloadBytes
    have hbytes := hjoins.bytes
    unfold pcmBatchBytes at hbytes
    unfold maxAudioPayloadBytes
    rw [List.length_append]
    omega
  · unfold validCauses at hcauses hnextCauses ⊢
    simp only [Bool.and_eq_true,decide_eq_true_eq,List.all_eq_true] at hcauses hnextCauses ⊢
    refine ⟨(addCauses_length _ _).trans hjoins.causes,fun cause hcause => ?_⟩
    rcases mem_addCauses.mp hcause with hcause | hcause
    · exact hcauses.2 cause hcause
    · exact hnextCauses.2 cause hcause
  · show (pending.discontinuities ++ chunk.discontinuities).length ≤ maxAudioDiscontinuities
    rw [List.length_append]
    exact hjoins.discontinuities
  · show (pending.discontinuities ++ chunk.discontinuities).all (AudioDiscontinuity.wellFormed pending.runId) = true
    rw [List.all_append,hgaps,hnextGaps]
    rfl

lemma blockOf_single (h : chunk.wellFormed = true) : BlockOf chunk [chunk] where
  wellFormed := h
  first := ⟨chunk,rfl,rfl,rfl⟩
  last := ⟨chunk,rfl,rfl⟩
  adjoining := .singleton chunk
  bytes := by simp
  stream := by simp
  causes := by simp
  once := (AudioChunk.wellFormed_iff.mp h).2.2.2.2.2.1.2
  bounded := wellFormed_causes h

lemma BlockOf.append {chunks : List AudioChunk} (hchunk : chunk.wellFormed = true) (hblock : BlockOf pending chunks)
    (h : canAppend pending chunk = true) : BlockOf (appendChunk pending chunk) (chunks ++ [chunk]) := by
  have hjoins := joins_of_canAppend h
  have hwf := appendChunk_wellFormed hblock.wellFormed hchunk h
  obtain ⟨first,hfirst,hbegin,hsequence⟩ := hblock.first
  obtain ⟨last,hlast,hstop⟩ := hblock.last
  refine ⟨hwf,⟨first,?_,hbegin,hsequence⟩,⟨chunk,by simp,rfl⟩,?_,?_,fun other hother => ?_,fun cause => ?_,
    (AudioChunk.wellFormed_iff.mp hwf).2.2.2.2.2.1.2,wellFormed_causes hwf⟩
  · rw [List.head?_append,hfirst]
    rfl
  · refine List.isChain_append.mpr ⟨hblock.adjoining,.singleton chunk,fun previous hprevious next hnext => ?_⟩
    rw [Option.mem_unique hprevious hlast,Option.mem_unique hnext rfl,← hstop]
    exact hjoins.adjoining
  · show pending.bytes ++ chunk.bytes = _
    rw [hblock.bytes,List.flatMap_append,List.flatMap_singleton]
  · rcases List.mem_append.mp hother with hold | hnew
    · exact hblock.stream other hold
    · rw [List.mem_singleton.mp hnew]
      exact ⟨hjoins.segment.symm,hjoins.format.symm,hjoins.capturePoint.symm,hjoins.timeline.symm⟩
  · show cause ∈ addCauses pending.causeIds chunk.causeIds ↔ _
    rw [mem_addCauses,hblock.causes]
    simp [or_and_right,exists_or]

/-- The blocks of well-formed chunks are blocks of groups that are all of them. -/
lemma pcmBlocks_groups {chunks : List AudioChunk} (h : ∀ chunk ∈ chunks, chunk.wellFormed = true) :
    ∃ groups : List (List AudioChunk), groups.flatten = chunks ∧ List.Forall₂ BlockOf (pcmBlocks chunks) groups :=
  batches_none_groups (fun _ hchunk => blockOf_single hchunk)
    (fun _ _ _ hchunk hblock hfits => hblock.append hchunk hfits) chunks h

end Join

section Clip
variable {library : PcmLibrary} {runId : Bytes} {limit segment : ℕ} {view : PcmView}

/-- A well-formed view has the bytes of its frames. -/
lemma chunk_size (h : (view.chunk library runId).wellFormed = true) : view.range.begin ≤ view.range.stop ∧
    (view.range.stop - view.range.begin) * (view.chunk library runId).format.frameBytes = view.bytes.length := by
  rw [AudioChunk.wellFormed_iff,SampleFrameRange.wellFormed_iff,expectedPayloadBytes_iff] at h
  exact ⟨h.2.1.1.2.2,h.2.2.2.2.1.2.1⟩

lemma clipped_bytes (h : (view.chunk library runId).wellFormed = true) :
    (view.clipped library runId limit segment).bytes.length =
      (min view.range.stop limit - view.range.begin) * (view.chunk library runId).format.frameBytes := by
  obtain ⟨-,hsize⟩ := chunk_size h
  refine List.length_take_of_le ?_
  rw [← hsize]
  exact Nat.mul_le_mul_right _ (by omega)

lemma clipped_wellFormed (h : (view.chunk library runId).wellFormed = true) (hbegin : view.range.begin < limit) :
    (view.clipped library runId limit segment).wellFormed = true := by
  have hbytes := @clipped_bytes library runId limit segment view h
  obtain ⟨hrange,hsize⟩ := chunk_size h
  rw [AudioChunk.wellFormed_iff,SampleFrameRange.wellFormed_iff,expectedPayloadBytes_iff] at h ⊢
  obtain ⟨hidentity,⟨⟨htimeline,hrate,-⟩,hsame⟩,-,hcheckpoint,⟨hformat,-,hmax⟩,hrest⟩ := h
  refine ⟨hidentity,⟨⟨htimeline,hrate,?_⟩,hsame⟩,rfl,hcheckpoint,⟨hformat,hbytes.symm,?_⟩,hrest⟩
  · show view.range.begin ≤ min view.range.stop limit
    omega
  · exact (List.length_take_le' _ _).trans hmax

/-- Clipping a copied view leaves it up to the limit. -/
lemma clipPcm_copied (h : (view.chunk library runId).wellFormed = true) :
    clipPcm library limit { view.chunk library runId with segment } =
      if view.range.begin < limit then .retained (view.clipped library runId limit segment) else .beyond := by
  obtain ⟨hrange,hsize⟩ := chunk_size h
  have hframes : (AudioFormat.mk view.format view.range.sampleRate view.channels).frameBytes =
    (view.chunk library runId).format.frameBytes := rfl
  unfold clipPcm PcmView.clipped PcmView.chunk
  dsimp only
  by_cases hbegin : view.range.begin < limit
  · rw [if_neg (Nat.not_le.mpr hbegin),if_pos hbegin]
    split_ifs with hlimit hambiguous
    · rw [← hsize,Nat.mul_mod_right] at hambiguous
      omega
    · have hsome : 0 < view.range.stop - view.range.begin := by omega
      rw [hframes,← hsize,Nat.mul_div_cancel_left _ hsome,Nat.min_eq_right hlimit.le]
    · rw [Nat.min_eq_left (Nat.not_lt.mp hlimit),hframes,hsize,List.take_length]
  · rw [if_pos (Nat.not_lt.mp hbegin),if_neg hbegin]

end Clip
section Writer
variable {library : PcmLibrary} {takes : ℕ → Bool} {writer : StreamingWriter} {block chunk : AudioChunk}
  {chunks : List AudioChunk}

def StreamingWriter.sentChunks (writer : StreamingWriter) : List AudioChunk := writer.sent.map PcmMessage.chunk

/-- The writer has sent the blocks of the chunks so far, and its pending block is the open one of them. -/
structure Streams (library : PcmLibrary) (takes : ℕ → Bool) (chunks : List AudioChunk) (writer : StreamingWriter) :
    Prop where
  pending : ∀ block ∈ writer.pendingPcm, block.wellFormed = true
  sequence : writer.sequence ≠ 0
  accepted : ∀ message ∈ writer.sent,
    encodePcmMessage library message.chunk message.channelSequence = .ok message
  sent : ∀ rest, sendBlocks library takes 0 0 (pcmBlocks (chunks ++ rest)) =
    if writer.valid then
      let later := sendBlocks library takes writer.pcmCount writer.pcmBytes
        (batches id appendChunk canAppend writer.pendingPcm rest)
      (writer.sentChunks ++ later.1,later.2)
    else (writer.sentChunks,false)

/-- What flushing a block does: it is sent and nothing is pending, or the writer is no longer valid; either way as
the blocks behind it are sent. -/
lemma flushPcm_cases (hpending : writer.pendingPcm = some block) (hblock : block.wellFormed = true)
    (hsequence : writer.sequence ≠ 0) :
    (∃ sent : List PcmMessage, writer.flushPcm library takes =
        ({ writer with pendingPcm := sealChunk library block, valid := false, sent := writer.sent ++ sent },false) ∧
      (∀ message ∈ sent, encodePcmMessage library message.chunk message.channelSequence = .ok message) ∧
      ∀ rest, sendBlocks library takes writer.pcmCount writer.pcmBytes (block :: rest) =
        (sent.map PcmMessage.chunk,false)) ∨
    (writer.flushPcm library takes =
        ({ writer with
           sequence := writer.sequence + 1
           pcmCount := writer.pcmCount + 1
           pcmBytes := writer.pcmBytes + block.bytes.length
           pendingPcm := none
           sent := writer.sent ++ [⟨writer.sequence,sealChunk library block⟩] },true) ∧
      encodePcmMessage library (sealChunk library block) writer.sequence =
        .ok ⟨writer.sequence,sealChunk library block⟩ ∧
      ∀ rest, sendBlocks library takes writer.pcmCount writer.pcmBytes (block :: rest) =
        (sealChunk library block ::
          (sendBlocks library takes (writer.pcmCount + 1) (writer.pcmBytes + block.bytes.length) rest).1,
          (sendBlocks library takes (writer.pcmCount + 1) (writer.pcmBytes + block.bytes.length) rest).2)) := by
  obtain ⟨hsent,hunsent⟩ := @encode_sealed library block hblock writer.sequence hsequence
  have hsize : (sealChunk library block).bytes.length = block.bytes.length := rfl
  unfold StreamingWriter.flushPcm
  rw [hpending]
  dsimp only
  by_cases hsendable : Sendable library block
  swap
  · obtain ⟨error,herror⟩ := hunsent hsendable
    refine Or.inl ⟨[],?_,by simp,fun rest => ?_⟩
    · rw [herror,List.append_nil]
    · rw [sendBlocks,if_pos (Or.inl hsendable)]
      rfl
  rw [hsent hsendable]
  dsimp only
  by_cases htakes : takes writer.pcmCount = false
  · rw [if_pos htakes]
    refine Or.inl ⟨[],?_,by simp,fun rest => ?_⟩
    · rw [List.append_nil]
    · rw [sendBlocks,if_pos (Or.inr htakes)]
      rfl
  rw [if_neg htakes]
  have hclear : ¬(¬Sendable library block ∨ takes writer.pcmCount = false) := by tauto
  rw [hsize]
  by_cases hroom : maxUInt64 - writer.pcmBytes < block.bytes.length
  · rw [if_pos hroom]
    refine Or.inl ⟨[⟨writer.sequence,sealChunk library block⟩],rfl,fun message hmessage => ?_,fun rest => ?_⟩
    · rw [List.mem_singleton.mp hmessage]
      exact hsent hsendable
    · rw [sendBlocks,if_neg hclear,if_pos hroom]
      rfl
  · rw [if_neg hroom]
    refine Or.inr ⟨rfl,rfl,fun rest => ?_⟩
    rw [sendBlocks,if_neg hclear,if_neg hroom]

/-- The input side of a writer: what joining and sending leave as it is. -/
structure SameInput (writer other : StreamingWriter) : Prop where
  runId : other.runId = writer.runId
  pcmLimit : other.pcmLimit = writer.pcmLimit
  segmentStarts : other.segmentStarts = writer.segmentStarts
  consumedPcm : other.consumedPcm = writer.consumedPcm
  segment : other.segment = writer.segment

/-- A chunk joins the stream: sent with the pending block or in the next one. -/
lemma joinPending_streams (h : Streams library takes chunks writer) (hvalid : writer.valid = true)
    (hchunk : chunk.wellFormed = true) :
    Streams library takes (chunks ++ [chunk]) (writer.joinPending library takes chunk).1 ∧
      SameInput writer (writer.joinPending library takes chunk).1 := by
  have hsent := h.sent
  simp only [hvalid,if_true] at hsent
  unfold StreamingWriter.joinPending
  cases hpending : writer.pendingPcm with
  | none =>
    refine ⟨⟨fun block hblock => ?_,h.sequence,h.accepted,fun rest => ?_⟩,⟨rfl,rfl,rfl,rfl,rfl⟩⟩
    · cases hblock
      exact hchunk
    · rw [List.append_assoc,List.singleton_append,hsent,hpending,batches]
      simp only [hvalid,if_true]
      rfl
  | some pending =>
    have hwf := h.pending pending hpending
    dsimp only
    cases hfits : canAppend pending chunk with
    | true =>
      refine ⟨⟨fun block hblock => ?_,h.sequence,h.accepted,fun rest => ?_⟩,⟨rfl,rfl,rfl,rfl,rfl⟩⟩
      · cases hblock
        exact appendChunk_wellFormed hwf hchunk hfits
      · rw [List.append_assoc,List.singleton_append,hsent,hpending,batches]
        simp only [hvalid,hfits,if_true]
        rfl
    | false =>
      have hbatches : ∀ rest, batches id appendChunk canAppend (some pending) (chunk :: rest) =
          pending :: batches id appendChunk canAppend (some chunk) rest := by
        intro rest
        rw [batches,hfits]
        rfl
      rcases @flushPcm_cases library takes writer pending hpending hwf h.sequence with
        ⟨sent,hflush,hencoded,hblocks⟩ | ⟨hflush,hencoded,hblocks⟩
      · rw [hflush]
        refine ⟨⟨fun block hblock => ?_,h.sequence,?_,fun rest => ?_⟩,⟨rfl,rfl,rfl,rfl,rfl⟩⟩
        · cases hblock
          exact sealChunk_wellFormed hwf
        · exact List.forall_mem_append.mpr ⟨h.accepted,hencoded⟩
        · rw [List.append_assoc,List.singleton_append,hsent,hpending,hbatches,hblocks]
          simp [StreamingWriter.sentChunks]
      · rw [hflush]
        refine ⟨⟨fun block hblock => ?_,Nat.succ_ne_zero _,?_,fun rest => ?_⟩,⟨rfl,rfl,rfl,rfl,rfl⟩⟩
        · cases hblock
          exact hchunk
        · exact List.forall_mem_append.mpr ⟨h.accepted,by simpa using hencoded⟩
        · rw [List.append_assoc,List.singleton_append,hsent,hpending,hbatches,hblocks]
          simp [StreamingWriter.sentChunks,hvalid]

end Writer
section Consumption
variable {library : PcmLibrary} {takes : ℕ → Bool} {runId : Bytes} {limit : ℕ} {starts : List ℕ}
  {consumed : List PcmView} {writer : StreamingWriter}

lemma clippedViews_snoc (view : PcmView) : clippedViews library runId limit starts (consumed ++ [view]) =
    clippedViews library runId limit starts consumed ++
      if view.range.begin < limit then [view.clipped library runId limit (segmentAt starts consumed.length)]
        else [] := by
  unfold clippedViews
  rw [List.zipIdx_append,List.filter_append,List.map_append]
  congr 1
  by_cases hbegin : view.range.begin < limit
  · simp [List.zipIdx,hbegin]
  · simp [List.zipIdx,hbegin]

/-- A segment that begins later is none of the views so far. -/
lemma clippedViews_later {start : ℕ} (h : consumed.length ≤ start) :
    clippedViews library runId limit (starts ++ [start]) consumed =
      clippedViews library runId limit starts consumed := by
  unfold clippedViews
  refine List.map_congr_left fun view hview => ?_
  have hlt : view.2 < consumed.length := by
    have := (List.mem_zipIdx (List.mem_of_mem_filter hview)).2.1
    omega
  have hnone : [start].filter (fun start => start ≤ view.2) = [] := by
    rw [List.filter_cons_of_neg (by simp; omega),List.filter_nil]
  rw [segmentAt,segmentAt,List.filter_append,hnone,List.append_nil]

/-- Opening takes the starts up to the ordinal, each a segment more. -/
lemma openSegments_spec (ordinal segment : ℕ) (h : starts.Pairwise (· ≤ ·)) :
    ∃ due, starts = due ++ (openSegments ordinal starts segment).1 ∧
      (openSegments ordinal starts segment).2 = segment + due.length ∧ (∀ start ∈ due, start ≤ ordinal) ∧
      ∀ start ∈ (openSegments ordinal starts segment).1, ordinal < start := by
  induction starts generalizing segment with
  | nil => exact ⟨[],rfl,rfl,by simp,by simp [openSegments]⟩
  | cons start starts ih =>
    obtain ⟨hfirst,hsorted⟩ := List.pairwise_cons.mp h
    rw [openSegments]
    split_ifs with hdue
    · obtain ⟨due,hstarts,hsegment,hall,hrest⟩ := ih (segment + 1) hsorted
      refine ⟨start :: due,?_,?_,?_,hrest⟩
      · rw [List.cons_append,← hstarts]
      · rw [hsegment,List.length_cons]
        omega
      · exact List.forall_mem_cons.mpr ⟨hdue,hall⟩
    · refine ⟨[],rfl,rfl,by simp,fun other hother => ?_⟩
      rcases List.mem_cons.mp hother with rfl | hlater
      · omega
      · have := hfirst other hlater
        omega

/-- The writer has consumed some views, whose segments begin at the given ordinals. -/
structure Consumed (library : PcmLibrary) (takes : ℕ → Bool) (runId : Bytes) (limit : ℕ) (starts : List ℕ)
    (consumed : List PcmView) (writer : StreamingWriter) : Prop where
  streams : Streams library takes (clippedViews library runId limit starts consumed) writer
  runId : writer.valid = true → writer.runId = runId
  limit : writer.valid = true → writer.pcmLimit = limit
  count : writer.valid = true → writer.consumedPcm = consumed.length
  opened : writer.valid = true → ∃ opened, starts = opened ++ writer.segmentStarts ∧
    writer.segment = opened.length ∧ ∀ start ∈ opened, start < consumed.length

lemma Streams.invalid {chunks : List AudioChunk} (h : Streams library takes chunks writer)
    (hvalid : writer.valid = false)
    (more : List AudioChunk) : Streams library takes (chunks ++ more) writer := by
  refine ⟨h.pending,h.sequence,h.accepted,fun rest => ?_⟩
  rw [List.append_assoc,h.sent]
  simp [hvalid]

/-- A segment begins at an ordinal that is yet to be consumed. -/
lemma Consumed.begin (h : Consumed library takes runId limit starts consumed writer) {start : ℕ}
    (hstart : consumed.length ≤ start) :
    Consumed library takes runId limit (starts ++ [start]) consumed (writer.beginSegment start) := by
  refine ⟨?_,h.runId,h.limit,h.count,fun hvalid => ?_⟩
  · rw [clippedViews_later hstart]
    exact ⟨h.streams.pending,h.streams.sequence,h.streams.accepted,h.streams.sent⟩
  · obtain ⟨opened,hstarts,hsegment,hall⟩ := h.opened hvalid
    refine ⟨opened,?_,hsegment,hall⟩
    show _ = opened ++ (writer.segmentStarts ++ [start])
    rw [hstarts,List.append_assoc]

lemma segmentAt_opened {opened later : List ℕ} {ordinal : ℕ} (hopened : ∀ start ∈ opened, start ≤ ordinal)
    (hlater : ∀ start ∈ later, ordinal < start) : segmentAt (opened ++ later) ordinal = opened.length := by
  have hall : opened.filter (fun start => start ≤ ordinal) = opened :=
    List.filter_eq_self.mpr fun start hstart => decide_eq_true (hopened start hstart)
  have hnone : later.filter (fun start => start ≤ ordinal) = [] :=
    List.filter_eq_nil_iff.mpr fun start hstart => by simpa using hlater start hstart
  rw [segmentAt,List.filter_append,hall,hnone,List.append_nil]

lemma copyReplayTracePcm_some {view : PcmView} (h : (copyReplayTracePcm library runId view).isSome = true) :
    copyReplayTracePcm library runId view = some (view.chunk library runId) ∧
      (view.chunk library runId).wellFormed = true := by
  unfold copyReplayTracePcm at h ⊢
  split_ifs at h ⊢ with hid hchannels hmalformed
  · cases h
  · cases h
  · cases h
  · exact ⟨rfl,by simpa using hmalformed⟩

/-- One more view is consumed. -/
lemma Consumed.consume (h : Consumed library takes runId limit starts consumed writer)
    (hsorted : starts.Pairwise (· ≤ ·)) {view : PcmView}
    (hview : (copyReplayTracePcm library runId view).isSome = true) :
    Consumed library takes runId limit starts (consumed ++ [view]) (writer.consumePcm library takes view).1 := by
  cases hvalid : writer.valid with
  | false =>
    have hrefused : (writer.consumePcm library takes view).1 = writer := by
      unfold StreamingWriter.consumePcm
      rw [if_pos (by simp [hvalid])]
    rw [hrefused]
    refine ⟨?_,?_,?_,?_,?_⟩
    · rw [clippedViews_snoc]
      exact h.streams.invalid hvalid _
    all_goals
      intro hother
      simp [hvalid] at hother
  | true =>
    obtain ⟨hcopied,hwf⟩ := copyReplayTracePcm_some hview
    obtain ⟨opened,hstarts,hsegment,hopened⟩ := h.opened hvalid
    have hleft : writer.segmentStarts.Pairwise (· ≤ ·) := by
      rw [hstarts] at hsorted
      exact (List.pairwise_append.mp hsorted).2.1
    obtain ⟨due,hdue,hnext,hdueAll,hrest⟩ := openSegments_spec writer.consumedPcm writer.segment hleft
    rw [h.count hvalid] at hdue hnext hdueAll hrest
    have hall : starts = (opened ++ due) ++ (openSegments consumed.length writer.segmentStarts writer.segment).1 := by
      rw [List.append_assoc,← hdue]
      exact hstarts
    have hallDue : ∀ start ∈ opened ++ due, start ≤ consumed.length :=
      List.forall_mem_append.mpr ⟨fun start hstart => (hopened start hstart).le,hdueAll⟩
    have hsegmentAt : (openSegments consumed.length writer.segmentStarts writer.segment).2 =
        segmentAt starts consumed.length := by
      rw [hall,segmentAt_opened hallDue hrest,hnext,hsegment,List.length_append]
    have hinput : ∃ opened, starts = opened ++ (openSegments consumed.length writer.segmentStarts writer.segment).1 ∧
        (openSegments consumed.length writer.segmentStarts writer.segment).2 = opened.length ∧
          ∀ start ∈ opened, start < (consumed ++ [view]).length := by
      refine ⟨opened ++ due,hall,?_,fun start hstart => ?_⟩
      · rw [hnext,hsegment,List.length_append]
      · rw [List.length_append,List.length_singleton]
        exact Nat.lt_succ_of_le (hallDue start hstart)
    have hcount : consumed.length + 1 = (consumed ++ [view]).length := by simp
    unfold StreamingWriter.consumePcm
    rw [if_neg (by simp [hvalid])]
    dsimp only
    rw [h.runId hvalid,hcopied,h.count hvalid]
    dsimp only
    rw [h.limit hvalid,clipPcm_copied hwf]
    have hclipped := @clippedViews_snoc library runId limit starts consumed view
    by_cases hbegin : view.range.begin < limit
    · rw [if_pos hbegin] at hclipped ⊢
      rw [hsegmentAt] at hinput ⊢
      dsimp only
      let next : StreamingWriter := { writer with
        runId
        pcmLimit := limit
        segmentStarts := (openSegments consumed.length writer.segmentStarts writer.segment).1
        segment := segmentAt starts consumed.length
        consumedPcm := consumed.length + 1 }
      have hstreams : Streams library takes (clippedViews library runId limit starts consumed) next :=
        ⟨h.streams.pending,h.streams.sequence,h.streams.accepted,h.streams.sent⟩
      have hclippedWf : (view.clipped library runId limit (segmentAt starts consumed.length)).wellFormed = true :=
        clipped_wellFormed hwf hbegin
      obtain ⟨hjoined,hsame⟩ := joinPending_streams hstreams hvalid hclippedWf
      rw [← hclipped] at hjoined
      have hstill : Consumed library takes runId limit starts (consumed ++ [view])
          (next.joinPending library takes (view.clipped library runId limit (segmentAt starts consumed.length))).1 := by
        refine ⟨hjoined,fun _ => hsame.runId,fun _ => hsame.pcmLimit,fun _ => hsame.consumedPcm.trans hcount,
          fun _ => ?_⟩
        rw [hsame.segmentStarts,hsame.segment]
        exact hinput
      split
      · rename_i joined hsent
        rwa [show next.joinPending library takes
          (view.clipped library runId limit (segmentAt starts consumed.length)) = _
          from hsent] at hstill
      · rename_i joined hsent
        rw [show next.joinPending library takes
          (view.clipped library runId limit (segmentAt starts consumed.length)) = _
          from hsent] at hstill
        exact ⟨⟨hstill.streams.pending,hstill.streams.sequence,hstill.streams.accepted,hstill.streams.sent⟩,
          hstill.runId,hstill.limit,hstill.count,hstill.opened⟩
    · rw [if_neg hbegin] at hclipped ⊢
      rw [List.append_nil] at hclipped
      refine ⟨?_,fun _ => rfl,fun _ => rfl,fun _ => hcount,fun _ => hinput⟩
      rw [hclipped]
      exact ⟨h.streams.pending,h.streams.sequence,h.streams.accepted,h.streams.sent⟩

end Consumption
section Capture
variable {library : PcmLibrary} {takes : ℕ → Bool} {runId : Bytes} {limit : ℕ}

/-- The gate has forwarded the views of the input, those of the queue are yet to be consumed, and its segments begin
in the order of the views. -/
structure Tracks (library : PcmLibrary) (takes : ℕ → Bool) (runId : Bytes) (limit : ℕ) (input : PcmInput)
    (capture : PcmCapture) : Prop where
  silent : capture.silent = input.silent
  forwarded : capture.forwardedPcm = input.views.length
  sorted : input.starts.Pairwise (· ≤ ·)
  within : ∀ start ∈ input.starts, start ≤ input.views.length
  consumed : ∃ consumed, input.views = consumed ++ capture.queue ∧
    Consumed library takes runId limit input.starts consumed capture.writer

/-- The views of an input are of the run. -/
def PcmInput.WellFormed (library : PcmLibrary) (runId : Bytes) (input : PcmInput) : Prop :=
  ∀ view ∈ input.views, (copyReplayTracePcm library runId view).isSome = true

lemma PcmInput.views_subset (input : PcmInput) (event : PcmEvent) : input.views ⊆ (input.step event).views := by
  cases event with
  | receivePcm view =>
    unfold PcmInput.step
    split_ifs
    · exact List.Subset.refl _
    · exact List.subset_append_left _ _
  | setSilent silent => exact List.Subset.refl _
  | beginSegment => exact List.Subset.refl _
  | consumePcm => exact List.Subset.refl _
  | flush => exact List.Subset.refl _

/-- Flushing only the facts leaves the writer as it is. -/
lemma flush_facts (writer : StreamingWriter) : (writer.flush library takes false).1 = writer := by
  unfold StreamingWriter.flush
  cases writer.valid <;> rfl

lemma Tracks.step {input : PcmInput} {capture : PcmCapture} (h : Tracks library takes runId limit input capture)
    (event : PcmEvent) (hviews : (input.step event).WellFormed library runId) :
    Tracks library takes runId limit (input.step event) (capture.step library takes event) := by
  obtain ⟨consumed,hqueue,hconsumed⟩ := h.consumed
  have hlength : consumed.length ≤ input.views.length := by
    rw [hqueue,List.length_append]
    omega
  cases event with
  | setSilent silent => exact ⟨rfl,h.forwarded,h.sorted,h.within,h.consumed⟩
  | receivePcm view =>
    unfold PcmInput.step PcmCapture.step PcmCapture.receivePcm
    dsimp only
    rw [h.silent]
    split_ifs with hsilent
    · exact ⟨rfl,h.forwarded,h.sorted,h.within,h.consumed⟩
    · refine ⟨rfl,?_,h.sorted,fun start hstart => ?_,consumed,?_,hconsumed⟩
      · show capture.forwardedPcm + 1 = (input.views ++ [view]).length
        rw [h.forwarded,List.length_append,List.length_singleton]
      · show start ≤ (input.views ++ [view]).length
        rw [List.length_append]
        exact (h.within start hstart).trans (Nat.le_add_right _ _)
      · show input.views ++ [view] = consumed ++ (capture.queue ++ [view])
        rw [hqueue,List.append_assoc]
  | beginSegment =>
    refine ⟨h.silent,h.forwarded,?_,?_,consumed,hqueue,?_⟩
    · refine List.pairwise_append.mpr ⟨h.sorted,List.pairwise_singleton _ _,fun start hstart other hother => ?_⟩
      rw [List.mem_singleton.mp hother]
      exact h.within start hstart
    · exact List.forall_mem_append.mpr ⟨h.within,by simp [PcmInput.step]⟩
    · show Consumed library takes runId limit (input.starts ++ [input.views.length]) consumed
        (capture.writer.beginSegment capture.forwardedPcm)
      rw [h.forwarded]
      exact hconsumed.begin hlength
  | consumePcm =>
    unfold PcmCapture.step PcmCapture.tryConsumePcm
    dsimp only
    cases hnext : capture.queue with
    | nil => exact ⟨h.silent,h.forwarded,h.sorted,h.within,consumed,hqueue,hconsumed⟩
    | cons view queue =>
      rw [hnext] at hqueue
      have hview := hviews view (by
        show view ∈ input.views
        rw [hqueue]
        simp)
      refine ⟨h.silent,h.forwarded,h.sorted,h.within,consumed ++ [view],?_,hconsumed.consume h.sorted hview⟩
      show input.views = consumed ++ [view] ++ queue
      rw [hqueue,List.append_assoc,List.singleton_append]
  | flush =>
    refine ⟨h.silent,h.forwarded,h.sorted,h.within,consumed,hqueue,?_⟩
    show Consumed library takes runId limit input.starts consumed (capture.writer.flush library takes false).1
    rw [flush_facts]
    exact hconsumed

lemma consumed_fresh : Consumed library takes runId limit [] [] { runId, pcmLimit := limit } := by
  refine ⟨⟨by simp,Nat.succ_ne_zero 1,by simp,fun rest => ?_⟩,fun _ => rfl,fun _ => rfl,fun _ => rfl,
    fun _ => ⟨[],rfl,rfl,by simp⟩⟩
  rfl

lemma inputOf_wellFormed_of_append {events more : List PcmEvent}
    (h : (inputOf (events ++ more)).WellFormed library runId) :
    (inputOf events).WellFormed library runId := by
  induction more using List.reverseRecOn with
  | nil => simpa using h
  | append_singleton more event ih =>
    refine ih fun view hview => h view ?_
    rw [← List.append_assoc,inputOf,List.foldl_append]
    exact PcmInput.views_subset _ event hview

/-- Every run tracks its input. -/
lemma run_tracks (events : List PcmEvent) (hviews : (inputOf events).WellFormed library runId) :
    Tracks library takes runId limit (inputOf events) (PcmCapture.run library takes runId limit events) := by
  induction events using List.reverseRecOn with
  | nil => exact ⟨rfl,rfl,List.Pairwise.nil,by simp [inputOf],[],rfl,consumed_fresh⟩
  | append_singleton events event ih =>
    have hstep := (ih (inputOf_wellFormed_of_append hviews)).step event (by
      rw [inputOf,List.foldl_append] at hviews
      exact hviews)
    rw [inputOf,PcmCapture.run,List.foldl_append,List.foldl_append]
    exact hstep

lemma Consumed.drain {starts : List ℕ} {consumed : List PcmView} {writer : StreamingWriter} (queue : List PcmView)
    (h : Consumed library takes runId limit starts consumed writer) (hsorted : starts.Pairwise (· ≤ ·))
    (hviews : ∀ view ∈ queue, (copyReplayTracePcm library runId view).isSome = true) :
    Consumed library takes runId limit starts (consumed ++ queue)
      (queue.foldl (fun writer view => (writer.consumePcm library takes view).1) writer) := by
  induction queue generalizing consumed writer with
  | nil => simpa using h
  | cons view queue ih =>
    obtain ⟨hview,hviews⟩ := List.forall_mem_cons.mp hviews
    have hall := ih (h.consume hsorted hview) hviews
    rw [List.append_assoc,List.singleton_append] at hall
    exact hall

/-- Sending the pending block of a writer ends its stream. -/
lemma Streams.flush {chunks : List AudioChunk} {writer : StreamingWriter} (h : Streams library takes chunks writer) :
    ((writer.flush library takes true).1.sentChunks,(writer.flush library takes true).1.valid) =
        sendBlocks library takes 0 0 (pcmBlocks chunks) ∧
      ∀ message ∈ (writer.flush library takes true).1.sent,
        encodePcmMessage library message.chunk message.channelSequence = .ok message := by
  have hsent := h.sent []
  rw [List.append_nil] at hsent
  unfold StreamingWriter.flush
  cases hvalid : writer.valid with
  | false =>
    rw [hvalid] at hsent
    rw [if_pos (by simp)]
    exact ⟨by rw [hsent,hvalid]; rfl,h.accepted⟩
  | true =>
    rw [hvalid] at hsent
    rw [if_neg (by simp),if_pos rfl]
    cases hpending : writer.pendingPcm with
    | none =>
      have hnone : writer.flushPcm library takes = (writer,true) := by
        unfold StreamingWriter.flushPcm
        rw [hpending]
      rw [hpending] at hsent
      rw [hnone]
      refine ⟨?_,h.accepted⟩
      rw [hsent,hvalid]
      simp [batches,sendBlocks]
    | some pending =>
      rw [hpending] at hsent
      rcases @flushPcm_cases library takes writer pending hpending (h.pending pending hpending) h.sequence with
        ⟨sent,hflush,hencoded,hblocks⟩ | ⟨hflush,hencoded,hblocks⟩
      · rw [hflush]
        refine ⟨?_,List.forall_mem_append.mpr ⟨h.accepted,hencoded⟩⟩
        rw [hsent]
        simp [batches,hblocks,StreamingWriter.sentChunks]
      · rw [hflush]
        refine ⟨?_,List.forall_mem_append.mpr ⟨h.accepted,by simpa using hencoded⟩⟩
        rw [hsent]
        simp [batches,hblocks,StreamingWriter.sentChunks,sendBlocks,hvalid]

/-- At the end the writer has consumed every view, and has sent the blocks of all of them up to the first that could
not be sent. -/
lemma stop_sends (events : List PcmEvent) (hviews : (inputOf events).WellFormed library runId) :
    (((PcmCapture.run library takes runId limit events).stop library takes).sentChunks,
        ((PcmCapture.run library takes runId limit events).stop library takes).valid) =
        sendBlocks library takes 0 0 (pcmBlocks ((inputOf events).chunks library runId limit)) ∧
      ∀ message ∈ ((PcmCapture.run library takes runId limit events).stop library takes).sent,
        encodePcmMessage library message.chunk message.channelSequence = .ok message := by
  have htracks := @run_tracks library takes runId limit events hviews
  obtain ⟨consumed,hqueue,hconsumed⟩ := htracks.consumed
  have hdrained := hconsumed.drain _ htracks.sorted fun view hview => hviews view (by
    rw [hqueue]
    exact List.mem_append_right _ hview)
  rw [← hqueue] at hdrained
  exact hdrained.streams.flush

end Capture
section Sending
variable {library : PcmLibrary} {takes : ℕ → Bool}

/-- The channel has the first of the blocks, sealed, and all of them when none fails. -/
lemma sendBlocks_take (count bytes : ℕ) (blocks : List AudioChunk) :
    ∃ sent, (sendBlocks library takes count bytes blocks).1 = (blocks.take sent).map (sealChunk library) ∧
      ((sendBlocks library takes count bytes blocks).2 = true → sent = blocks.length) := by
  induction blocks generalizing count bytes with
  | nil => exact ⟨0,rfl,fun _ => rfl⟩
  | cons block blocks ih =>
    rw [sendBlocks]
    split_ifs with hblocked hroom
    · exact ⟨0,rfl,by simp⟩
    · exact ⟨1,rfl,by simp⟩
    · obtain ⟨sent,htaken,hall⟩ := ih (count + 1) (bytes + block.bytes.length)
      refine ⟨sent + 1,?_,fun hsent => ?_⟩
      · rw [List.take_succ_cons,List.map_cons,← htaken]
      · rw [List.length_cons,hall hsent]

/-- All the blocks are sent exactly when each can be and is taken, and their bytes can be counted. -/
lemma sendBlocks_all_iff (count bytes : ℕ) (blocks : List AudioChunk) (h : bytes ≤ maxUInt64) :
    (sendBlocks library takes count bytes blocks).2 = true ↔
      (∀ index block, blocks[index]? = some block → Sendable library block ∧ takes (count + index) = true) ∧
        bytes + (blocks.map fun block => block.bytes.length).sum ≤ maxUInt64 := by
  induction blocks generalizing count bytes with
  | nil => simpa [sendBlocks] using h
  | cons block blocks ih =>
    rw [sendBlocks,List.map_cons,List.sum_cons]
    split_ifs with hblocked hroom
    · refine iff_of_false (by simp) fun hall => ?_
      obtain ⟨hsendable,htaken⟩ := hall.1 0 block rfl
      rw [Nat.add_zero] at htaken
      simp [hsendable,htaken] at hblocked
    · exact iff_of_false (by simp) fun hall => by omega
    · rw [ih (count + 1) (bytes + block.bytes.length) (by omega),← Nat.add_assoc]
      refine and_congr_left fun _ => ⟨fun hall index other hother => ?_,fun hall index other hother => ?_⟩
      · cases index with
        | zero =>
          cases hother
          simpa using hblocked
        | succ index =>
          rw [← Nat.add_assoc,Nat.add_right_comm]
          exact hall index other hother
      · have hnext := hall (index + 1) other hother
        rwa [← Nat.add_assoc,Nat.add_right_comm] at hnext

lemma BlockOf.sealed {block : AudioChunk} {chunks : List AudioChunk} (h : BlockOf block chunks) :
    BlockOf (sealChunk library block) chunks :=
  ⟨sealChunk_wellFormed h.wellFormed,h.first,h.last,h.adjoining,h.bytes,h.stream,h.causes,h.once,h.bounded⟩

end Sending

section Groups
variable {blocks : List AudioChunk} {groups : List (List AudioChunk)}

/-- The blocks hold the bytes of their chunks. -/
lemma blocks_bytes (h : List.Forall₂ BlockOf blocks groups) :
    blocks.flatMap AudioChunk.bytes = groups.flatten.flatMap AudioChunk.bytes := by
  induction h with
  | nil => rfl
  | cons hblock _ ih => rw [List.flatMap_cons,List.flatten_cons,List.flatMap_append,ih,hblock.bytes]

/-- The blocks of a segment are those of the chunks of it. -/
lemma blocks_segment (h : List.Forall₂ BlockOf blocks groups) (segment : ℕ) :
    ∃ kept, kept.flatten = groups.flatten.filter (fun chunk => chunk.segment = segment) ∧
      List.Forall₂ BlockOf (blocks.filter fun block => block.segment = segment) kept := by
  induction h with
  | nil => exact ⟨[],rfl,.nil⟩
  | @cons block group blocks groups hblock _ ih =>
    obtain ⟨kept,hflatten,hkept⟩ := ih
    by_cases hsegment : block.segment = segment
    · have hgroup : group.filter (fun chunk => chunk.segment = segment) = group :=
        List.filter_eq_self.mpr fun chunk hchunk => decide_eq_true ((hblock.stream chunk hchunk).1.trans hsegment)
      rw [List.filter_cons_of_pos (by simpa using hsegment)]
      refine ⟨group :: kept,?_,.cons hblock hkept⟩
      rw [List.flatten_cons,List.flatten_cons,List.filter_append,hgroup,hflatten]
    · have hgroup : group.filter (fun chunk => chunk.segment = segment) = [] :=
        List.filter_eq_nil_iff.mpr fun chunk hchunk => by simpa [(hblock.stream chunk hchunk).1] using hsegment
      rw [List.filter_cons_of_neg (by simpa using hsegment)]
      refine ⟨kept,?_,hkept⟩
      rw [List.flatten_cons,List.filter_append,hgroup,List.nil_append,hflatten]

/-- The sequence of each block is that of its first chunk. -/
lemma blocks_sequences (h : List.Forall₂ BlockOf blocks groups) :
    (blocks.map AudioChunk.producerSequence).Sublist (groups.flatten.map AudioChunk.producerSequence) := by
  induction h with
  | nil => exact .slnil
  | @cons block group blocks groups hblock _ ih =>
    obtain ⟨first,hfirst,-,hsequence⟩ := hblock.first
    obtain ⟨rest,rfl⟩ := List.head?_eq_some_iff.mp hfirst
    rw [List.flatten_cons,List.map_cons,List.map_append,List.map_cons,hsequence,List.cons_append]
    exact .cons_cons _ (ih.trans (List.sublist_append_right _ _))

/-- Blocks of chunks that follow each other do too. -/
lemma blocks_adjoining (h : List.Forall₂ BlockOf blocks groups)
    (hchunks : groups.flatten.IsChain fun previous next => previous.range.stop = next.range.begin) :
    blocks.IsChain fun previous next => previous.range.stop = next.range.begin := by
  induction h with
  | nil => exact .nil
  | @cons block group blocks groups hblock hrest ih =>
    rw [List.flatten_cons,List.isChain_append] at hchunks
    obtain ⟨-,hlater,hjoin⟩ := hchunks
    cases hrest with
    | nil => exact .singleton block
    | @cons next nextGroup blocks groups hnext hrest =>
      obtain ⟨last,hlast,hstop⟩ := hblock.last
      obtain ⟨first,hfirst,hbegin,-⟩ := hnext.first
      refine List.IsChain.cons_cons ?_ (ih hlater)
      rw [hstop,hbegin]
      refine hjoin last hlast first ?_
      rw [List.flatten_cons,List.head?_append,hfirst]
      rfl

end Groups

section Main

lemma chunks_wellFormed (library : PcmLibrary) (runId : Bytes) (limit : ℕ) {input : PcmInput}
    (h : input.WellFormed library runId) : ∀ chunk ∈ input.chunks library runId limit, chunk.wellFormed = true := by
  intro chunk hchunk
  obtain ⟨⟨view,ordinal⟩,hview,rfl⟩ := List.mem_map.mp hchunk
  obtain ⟨hmem,hbegin⟩ := List.mem_filter.mp hview
  obtain ⟨-,hcopied⟩ := copyReplayTracePcm_some (h view (List.fst_mem_of_mem_zipIdx hmem))
  exact clipped_wellFormed hcopied (by simpa using hbegin)

variable (library : PcmLibrary) (takes : ℕ → Bool) (runId : Bytes) (limit : ℕ) (events : List PcmEvent)

/-- The blocks that a run has sent at its end. -/
def streamedBlocks : List AudioChunk :=
  ((PcmCapture.run library takes runId limit events).stop library takes).sentChunks

/-- The blocks sent are those of consecutive clipped views, and of all of them while the writer is valid. -/
lemma streamedBlocks_groups (hviews : (inputOf events).WellFormed library runId) :
    ∃ groups, groups.flatten <+: (inputOf events).chunks library runId limit ∧
      (((PcmCapture.run library takes runId limit events).stop library takes).valid = true →
        groups.flatten = (inputOf events).chunks library runId limit) ∧
      List.Forall₂ BlockOf (streamedBlocks library takes runId limit events) groups := by
  obtain ⟨hblocks,hvalid⟩ := Prod.ext_iff.mp (@stop_sends library takes runId limit events hviews).1
  dsimp only at hblocks hvalid
  obtain ⟨groups,hflatten,hgroups⟩ := pcmBlocks_groups (chunks_wellFormed library runId limit hviews)
  obtain ⟨sent,htaken,hall⟩ := @sendBlocks_take library takes 0 0
    (pcmBlocks ((inputOf events).chunks library runId limit))
  refine ⟨groups.take sent,⟨(groups.drop sent).flatten,?_⟩,fun hstill => ?_,?_⟩
  · rw [← List.flatten_append,List.take_append_drop,hflatten]
  · rw [hvalid] at hstill
    rw [hall hstill,hgroups.length_eq,List.take_length,hflatten]
  · have hsent : streamedBlocks library takes runId limit events =
        ((pcmBlocks ((inputOf events).chunks library runId limit)).take sent).map (sealChunk library) :=
      hblocks.trans htaken
    rw [hsent,List.forall₂_map_left_iff]
    exact (List.forall₂_take sent hgroups).imp fun _ _ hblock => hblock.sealed

/-- The streamed blocks of a run: each is of consecutive clipped views of one stream and segment, those of a segment
hold its bytes and follow each other where the views do, and all of the views are in them exactly when every block can
be sent. -/
theorem streamedBlocks_spec (hviews : (inputOf events).WellFormed library runId) :
    let chunks := (inputOf events).chunks library runId limit
    let writer := (PcmCapture.run library takes runId limit events).stop library takes
    let blocks := streamedBlocks library takes runId limit events
    (∃ groups, groups.flatten <+: chunks ∧ (writer.valid = true → groups.flatten = chunks) ∧
      List.Forall₂ BlockOf blocks groups) ∧
    (∀ segment,
      let sent := blocks.filter fun block => block.segment = segment
      let views := chunks.filter fun chunk => chunk.segment = segment
      sent.flatMap AudioChunk.bytes <+: views.flatMap AudioChunk.bytes ∧
      (writer.valid = true → sent.flatMap AudioChunk.bytes = views.flatMap AudioChunk.bytes) ∧
      (views.IsChain (fun previous next => previous.range.stop = next.range.begin) →
        sent.IsChain fun previous next => previous.range.stop = next.range.begin)) ∧
    ((chunks.map AudioChunk.producerSequence).Pairwise (· < ·) →
      (blocks.map AudioChunk.producerSequence).Pairwise (· < ·)) ∧
    (∀ message ∈ writer.sent, encodePcmMessage library message.chunk message.channelSequence = .ok message) ∧
    (writer.valid = true ↔ (∀ index block, (pcmBlocks chunks)[index]? = some block →
        Sendable library block ∧ takes index = true) ∧
      ((pcmBlocks chunks).map fun block => block.bytes.length).sum ≤ maxUInt64) := by
  dsimp only
  obtain ⟨hsends,haccepted⟩ := @stop_sends library takes runId limit events hviews
  have hvalid := congrArg Prod.snd hsends
  dsimp only at hvalid
  obtain ⟨groups,hfront,hcomplete,hgroups⟩ := streamedBlocks_groups library takes runId limit events hviews
  refine ⟨⟨groups,hfront,hcomplete,hgroups⟩,fun segment => ?_,fun hsequences => ?_,haccepted,?_⟩
  · obtain ⟨kept,hkept,hsegment⟩ := blocks_segment hgroups segment
    have hbytes := blocks_bytes hsegment
    have hfront : kept.flatten <+: ((inputOf events).chunks library runId limit).filter
        fun chunk => chunk.segment = segment := by
      rw [hkept]
      exact hfront.filter _
    obtain ⟨later,hlater⟩ := hfront
    refine ⟨⟨later.flatMap AudioChunk.bytes,?_⟩,fun hstill => ?_,fun hadjoining => blocks_adjoining hsegment ?_⟩
    · rw [hbytes,← hlater,List.flatMap_append]
    · rw [hbytes,hkept,hcomplete hstill]
    · rw [← hlater] at hadjoining
      exact hadjoining.left_of_append
  · refine hsequences.sublist ((blocks_sequences hgroups).trans ?_)
    exact hfront.sublist.map _
  · rw [hvalid,sendBlocks_all_iff 0 0 _ (Nat.zero_le _)]
    simp only [Nat.zero_add]

/-- The SHA-256 of no bytes. -/
def emptyDigest : Bytes :=
  [227,176,196,66,152,252,28,20,154,251,244,200,153,111,185,36,
   39,174,65,228,100,155,147,76,164,149,153,27,120,82,184,85]

def frameLibrary : PcmLibrary :=
  { silentLibrary with sha256 := fun bytes => if bytes = [] then emptyDigest else silentLibrary.sha256 bytes }

/-- A view of some silent bytes from a sample on. -/
def silentView (sequence : UInt64) (begin stop : ℕ) (bytes : Bytes) : PcmView where
  id := ⟨7,sequence⟩
  capturePoint := [109]
  range := ⟨[116],48000,begin,stop⟩
  format := .s16le
  channels := 1
  bytes

/-- A view in the first segment and the next one in the second. -/
def twoSegments : List PcmEvent :=
  [.receivePcm (silentView 1 0 1 silentFrame),.beginSegment,.receivePcm (silentView 2 1 2 silentFrame),.consumePcm]

/-- They are two blocks, in their order. -/
theorem streamedBlocks_spec_silence :
    ((PcmCapture.run frameLibrary (fun _ => true) [114] maxUInt64 twoSegments).stop frameLibrary
        fun _ => true).valid = true ∧
      (streamedBlocks frameLibrary (fun _ => true) [114] maxUInt64 twoSegments).map AudioChunk.segment = [0,1] ∧
      ((streamedBlocks frameLibrary (fun _ => true) [114] maxUInt64 twoSegments).map
        AudioChunk.producerSequence).Pairwise (· < ·) := by
  have hspec := streamedBlocks_spec frameLibrary (fun _ => true) [114] maxUInt64 twoSegments
    (by unfold PcmInput.WellFormed; decide +kernel)
  exact ⟨by decide +kernel,by decide +kernel,hspec.2.2.1 (by decide +kernel)⟩

/-- Two views whose sequences do not increase. -/
def reversedViews : List PcmEvent :=
  [.receivePcm (silentView 2 0 1 silentFrame),.receivePcm (silentView 1 1 2 silentFrame)]

/-- A view without samples, and one that does not adjoin it. -/
def emptyViewFirst : List PcmEvent :=
  [.receivePcm (silentView 1 0 0 []),.receivePcm (silentView 2 5 6 silentFrame)]

/-- Views whose sequences do not increase are sent in blocks whose sequences do not, and a view without samples
keeps the one behind it from the channel. -/
theorem streamed_out_of_order_and_lost :
    ((inputOf reversedViews).WellFormed frameLibrary [114] ∧
      (streamedBlocks frameLibrary (fun _ => true) [114] maxUInt64 reversedViews).map AudioChunk.producerSequence =
        [2,1]) ∧
    (inputOf emptyViewFirst).WellFormed frameLibrary [114] ∧
      streamedBlocks frameLibrary (fun _ => true) [114] maxUInt64 emptyViewFirst = [] ∧
      ((inputOf emptyViewFirst).chunks frameLibrary [114] maxUInt64).flatMap AudioChunk.bytes = silentFrame := by
  unfold PcmInput.WellFormed
  decide +kernel

end Main
end AytherRuntime.Audio
