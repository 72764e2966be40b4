import AytherRuntime.Audio.Incremental
import Mathlib.Algebra.Order.BigOperators.Group.List
import Mathlib.Data.List.Chain

/-! The writer of the PCM and the auditor of its blocks judge a stream alike: what each accepts, the intervals that
they report, and what both say of the segments and the samples. -/
namespace AytherRuntime.Audio
open Codec

section Chains
variable {α : Type} {R : α → α → Prop} {first second : α} {rest : List α}

/-- A chain behind an element that may be absent. -/
lemma isChain_optional {previous : Option α} : (previous.toList ++ first :: rest).IsChain R ↔
    (∀ before ∈ previous, R before first) ∧ (first :: rest).IsChain R := by
  cases previous with
  | none => simp
  | some before => simp

/-- Two elements with the same successors begin the same chains. -/
lemma isChain_congr_head (h : ∀ next, R first next ↔ R second next) :
    (first :: rest).IsChain R ↔ (second :: rest).IsChain R := by
  rw [List.isChain_cons,List.isChain_cons]
  exact and_congr_left fun _ => forall₂_congr fun next _ => h next

end Chains

section Streams

/-- The next chunk joins the one before it. -/
def Follows (continuity : PcmContinuity) (previous next : AudioChunk) : Prop :=
  (joinPcm previous next continuity).accepted = true

instance (continuity : PcmContinuity) (previous next : AudioChunk) : Decidable (Follows continuity previous next) :=
  inferInstanceAs (Decidable (_ = true))

/-- The next chunk is of the same stream, under a later sequence of its producer. -/
def Succeeds (previous next : AudioChunk) : Prop :=
  sameStream previous next = true ∧ previous.producerSequence < next.producerSequence

/-- The chunks of one stream that declare no discontinuity. -/
structure PcmStream (chunks : List AudioChunk) : Prop where
  wellFormed : ∀ chunk ∈ chunks, chunk.wellFormed = true
  same : ∀ chunk ∈ chunks, ∀ other ∈ chunks, sameStream chunk other = true
  increasing : (chunks.map AudioChunk.producerSequence).Pairwise (· < ·)
  undeclared : ∀ chunk ∈ chunks, chunk.discontinuities = []
  count : chunks.length ≤ maxCheckpointArtifacts

/-- The segments never decrease, and the blocks of each segment follow each other. -/
def Continuous (chunks : List AudioChunk) : Prop :=
  (chunks.map AudioChunk.segment).Pairwise (· ≤ ·) ∧
    ∀ segment, (chunks.filter fun chunk => chunk.segment = segment).IsChain fun previous next =>
      previous.range.stop = next.range.begin

/-- The block of each chunk can be stored: its message encodes and its file can be written. -/
def Storable (library : PcmLibrary) : ℕ → List (AudioChunk × Bool) → Prop
  | _, [] => True
  | sequence, (chunk,written) :: chunks =>
    ((encodePcmMessage library (confirm sequence chunk) sequence).isOk = true ∧ written = true) ∧
      Storable library (sequence + 1) chunks

/-- The blocks of chunks that are kept one after another. -/
def keptBlocks (library : PcmLibrary) : ℕ → List AudioChunk → List StoredPcmBlock
  | _, [] => []
  | sequence, chunk :: chunks =>
    storedBlock library sequence (confirm sequence chunk) :: keptBlocks library (sequence + 1) chunks

/-- A file as it is read. -/
def reading (file : StoredPcmBlock) : BlockReading := ⟨file.sequence,readPcmBlock file⟩

/-- The chunk of a block as it is reopened. -/
def reopened (chunk : AudioChunk) : AudioChunk := { chunk with sha256 := { chunk.sha256 with reasonCode := [] } }

lemma PcmStream.succeeds {chunks : List AudioChunk} (h : PcmStream chunks) : chunks.IsChain Succeeds := by
  have hlater := List.pairwise_map.mp h.increasing
  exact (hlater.imp_of_mem fun hchunk hother hlt => ⟨h.same _ hchunk _ hother,hlt⟩).isChain

lemma follows_single {previous next : AudioChunk} :
    Follows .single previous next ↔ previous.range.stop = next.range.begin := by
  unfold Follows joinPcm joinSamples
  dsimp only
  split_ifs <;> simp [PcmJoin.accepted] <;> omega

lemma follows_perSegment {previous next : AudioChunk} :
    Follows .perSegment previous next ↔ previous.segment < next.segment ∨
      (previous.segment = next.segment ∧ previous.range.stop = next.range.begin) := by
  rw [← follows_single]
  unfold Follows joinPcm
  dsimp only
  split_ifs with hbefore hafter
  · simp [PcmJoin.accepted]
    omega
  · simp [PcmJoin.accepted,hafter]
  · have hsame : previous.segment = next.segment := by omega
    simp [hsame]

/-- One more block in front continues the rest exactly when it joins the first of it. -/
lemma continuous_cons_cons (first second : AudioChunk) (rest : List AudioChunk) :
    Continuous (first :: second :: rest) ↔ Follows .perSegment first second ∧ Continuous (second :: rest) := by
  rw [follows_perSegment]
  unfold Continuous
  rw [List.map_cons,List.pairwise_cons]
  constructor
  · rintro ⟨⟨hfirst,hsorted⟩,hsegments⟩
    refine ⟨?_,hsorted,fun segment => ?_⟩
    · obtain hlt | hsame := Nat.lt_or_eq_of_le (hfirst second.segment (by simp))
      · exact Or.inl hlt
      · have hchain := hsegments first.segment
        rw [List.filter_cons_of_pos (by simp),List.filter_cons_of_pos (by simp [hsame])] at hchain
        exact Or.inr ⟨hsame,(List.isChain_cons_cons.mp hchain).1⟩
    · have hchain := hsegments segment
      by_cases hfirst : first.segment = segment
      · rw [List.filter_cons_of_pos (by simpa using hfirst)] at hchain
        exact hchain.of_cons
      · rwa [List.filter_cons_of_neg (by simpa using hfirst)] at hchain
  · rintro ⟨hjoin,hsorted,hsegments⟩
    have hle : first.segment ≤ second.segment := by omega
    have hlater := (List.pairwise_cons.mp hsorted).1
    refine ⟨⟨?_,hsorted⟩,fun segment => ?_⟩
    · intro segment hsegment
      rcases List.mem_cons.mp hsegment with rfl | hrest
      · exact hle
      · exact hle.trans (hlater segment hrest)
    · by_cases hfirst : first.segment = segment
      · rw [List.filter_cons_of_pos (by simpa using hfirst)]
        rcases hjoin with hlt | ⟨hsame,hstop⟩
        · have hnone : (second :: rest).filter (fun chunk => chunk.segment = segment) = [] := by
            rw [List.filter_eq_nil_iff]
            intro chunk hchunk
            rcases List.mem_cons.mp hchunk with rfl | hrest
            · simp; omega
            · have := hlater _ (List.mem_map_of_mem hrest)
              simp; omega
          rw [hnone]
          exact .singleton first
        · have hchain := hsegments segment
          rw [List.filter_cons_of_pos (by simp; omega)] at hchain ⊢
          exact List.IsChain.cons_cons hstop hchain
      · rw [List.filter_cons_of_neg (by simpa using hfirst)]
        exact hsegments segment

/-- The blocks of each segment follow each other exactly when each block joins the one before it. -/
lemma continuous_iff (chunks : List AudioChunk) : Continuous chunks ↔ chunks.IsChain (Follows .perSegment) := by
  induction chunks with
  | nil => simp [Continuous]
  | cons first chunks ih =>
    cases chunks with
    | nil =>
      refine iff_of_true ⟨by simp,fun segment => ?_⟩ (.singleton first)
      rw [List.filter_cons,List.filter_nil]
      split_ifs <;> simp
    | cons second rest => rw [continuous_cons_cons,List.isChain_cons_cons,ih]

end Streams

section Audit
variable (continuity : PcmContinuity) {state : AuditState} (path : ℕ) {block : StoredPcmBlock}

/-- A block that comes next in the stream, and declares no discontinuity. -/
structure NextBlock (state : AuditState) (block : StoredPcmBlock) : Prop where
  sequence : ∀ last ∈ state.blockSequence, last ≠ maxUInt64 ∧ block.sequence = last + 1
  stream : ∀ previous ∈ state.previous, sameStream previous block.chunk = true
  undeclared : block.chunk.discontinuities = []

/-- What the audit has verified after one more block. -/
def AuditState.next (state : AuditState) (block : StoredPcmBlock) : AuditState where
  verifiedBlocks := state.verifiedBlocks + 1
  verifiedEffectBoundaries := state.verifiedEffectBoundaries
  lastVerifiedSample := block.chunk.range.stop
  segments := addSamples state.segments block.chunk
  blockSequence := block.sequence
  previous := block.chunk

lemma NextBlock.sequenceIssue (h : NextBlock state block) : sequenceIssue state.blockSequence path block = none := by
  unfold Audio.sequenceIssue
  cases hlast : state.blockSequence with
  | none => rfl
  | some last =>
    obtain ⟨hroom,hnext⟩ := h.sequence last hlast
    simp [hroom,hnext]

lemma NextBlock.streamIssue (h : NextBlock state block) {previous : AudioChunk}
    (hprevious : state.previous = some previous) :
    streamIssue continuity state.previous path block.chunk =
      joinIssue previous block.chunk path (joinPcm previous block.chunk continuity) := by
  have hsame := h.stream previous hprevious
  unfold sameStream at hsame
  simp only [Bool.and_eq_true,decide_eq_true_eq] at hsame
  obtain ⟨⟨⟨⟨hrun,hcapture⟩,hformat⟩,htimeline⟩,hrate⟩ := hsame
  unfold Audio.streamIssue
  rw [hprevious]
  simp [hrun,hcapture,hformat,htimeline,hrate]

lemma joinIssue_none {previous next : AudioChunk} {path : ℕ} {join : PcmJoin} :
    joinIssue previous next path join = none ↔ join.accepted = true := by
  cases join <;> simp [joinIssue,PcmJoin.accepted]

/-- A block that joins the one before it is verified. -/
lemma auditBlock_follows (h : NextBlock state block)
    (hfollows : ∀ previous ∈ state.previous, Follows continuity previous block.chunk) :
    auditBlock continuity state ⟨path,.ok block⟩ = (state.next block,none) := by
  have hstream : streamIssue continuity state.previous path block.chunk = none := by
    cases hprevious : state.previous with
    | none => rfl
    | some previous =>
      rw [← hprevious,h.streamIssue continuity path hprevious,joinIssue_none]
      exact hfollows previous hprevious
  unfold auditBlock
  dsimp only
  rw [h.sequenceIssue,hstream,h.undeclared]
  rfl

/-- A block that does not is the first issue, and nothing of it is verified. -/
lemma auditBlock_broken (h : NextBlock state block) {previous : AudioChunk} (hprevious : state.previous = some previous)
    (hbroken : ¬Follows continuity previous block.chunk) :
    ∃ issue, auditBlock continuity state ⟨path,.ok block⟩ = (state,some issue) := by
  have hstream : streamIssue continuity state.previous path block.chunk ≠ none := by
    rw [h.streamIssue continuity path hprevious,ne_eq,joinIssue_none]
    exact hbroken
  obtain ⟨issue,hissue⟩ := Option.ne_none_iff_exists'.mp hstream
  refine ⟨issue,?_⟩
  unfold auditBlock
  dsimp only
  rw [h.sequenceIssue,hissue]
  rfl

end Audit

section Writer
variable {library : PcmLibrary} {writer : IncrementalPcm} {state : AuditState} {chunk : AudioChunk} {written : Bool}

/-- A writer that can take a chunk, with a free name for the block of its next sequence. -/
structure Ready (writer : IncrementalPcm) : Prop where
  valid : writer.valid = true
  finished : writer.finished = false
  sequence : writer.pcmSequence ≠ 0
  files : ∀ file ∈ writer.files, file.sequence < writer.pcmSequence

/-- The writer once it has kept a chunk. -/
def IncrementalPcm.kept (library : PcmLibrary) (writer : IncrementalPcm) (chunk : AudioChunk) (failed : Bool) :
    IncrementalPcm :=
  let confirmed := confirm writer.pcmSequence chunk
  let block := storedBlock library writer.pcmSequence confirmed
  { writer with
    files := writer.files ++ [block]
    previousPcm := confirmed
    pcmArtifacts := writer.pcmArtifacts ++ [⟨block.sequence,block.sequence,block.messageIdentity⟩]
    pcmSegments := if failed then writer.pcmSegments else addSamples writer.pcmSegments confirmed
    pcmSequence := writer.pcmSequence + 1
    pcmBlocks := writer.pcmBlocks + 1
    pcmBytes := writer.pcmBytes + confirmed.bytes.length
    valid := !failed }

/-- A chunk whose block cannot be stored is refused, and nothing of it is kept. -/
lemma appendPcm_unstored (h : Ready writer)
    (hstorable : ¬((encodePcmMessage library (confirm writer.pcmSequence chunk) writer.pcmSequence).isOk = true ∧
      written = true)) :
    writer.appendPcm library chunk written = ({ writer with valid := false },some .pcmPublicationFailed) := by
  have hwrite : ∃ error, writePcmBlock library writer.files writer.pcmSequence (confirm writer.pcmSequence chunk)
      written = (writer.files,.error error) := by
    unfold writePcmBlock
    rw [if_neg h.sequence]
    cases hencoded : encodePcmMessage library (confirm writer.pcmSequence chunk) writer.pcmSequence with
    | error error => cases error <;> exact ⟨_,rfl⟩
    | ok message =>
      rw [hencoded] at hstorable
      have hunwritten : written = false := by simpa [Except.isOk,Except.toBool] using hstorable
      dsimp only
      rw [hunwritten]
      split_ifs with hname hfalse
      · exact ⟨_,rfl⟩
      · exact ⟨_,rfl⟩
      · exact absurd rfl hfalse
  obtain ⟨error,hwrite⟩ := hwrite
  unfold IncrementalPcm.appendPcm
  rw [if_neg (by simp [h.valid,h.finished])]
  dsimp only
  rw [hwrite]

/-- A chunk whose block can be stored is kept; it fails where it does not follow the one before it. -/
lemma appendPcm_stored (h : Ready writer)
    (hencoded : (encodePcmMessage library (confirm writer.pcmSequence chunk) writer.pcmSequence).isOk = true)
    (hbytes : writer.pcmBytes + chunk.bytes.length ≤ maxUInt64) :
    writer.appendPcm library chunk true =
      (writer.kept library chunk (continuityFailed writer.previousPcm (confirm writer.pcmSequence chunk)),
        if continuityFailed writer.previousPcm (confirm writer.pcmSequence chunk) then some .pcmContinuityFailed
        else none) := by
  have hwrite : writePcmBlock library writer.files writer.pcmSequence (confirm writer.pcmSequence chunk) true =
      (writer.files ++ [storedBlock library writer.pcmSequence (confirm writer.pcmSequence chunk)],
        .ok (storedBlock library writer.pcmSequence (confirm writer.pcmSequence chunk))) := by
    unfold writePcmBlock
    rw [if_neg h.sequence]
    cases hmessage : encodePcmMessage library (confirm writer.pcmSequence chunk) writer.pcmSequence with
    | error error =>
      rw [hmessage] at hencoded
      cases hencoded
    | ok message =>
      dsimp only
      rw [if_neg,if_neg (by simp)]
      simp only [List.any_eq_true,decide_eq_true_eq,not_exists,not_and]
      intro file hfile
      have := h.files file hfile
      omega
  have hroom : ¬maxUInt64 - writer.pcmBytes < (confirm writer.pcmSequence chunk).bytes.length := by
    show ¬maxUInt64 - writer.pcmBytes < chunk.bytes.length
    omega
  unfold IncrementalPcm.appendPcm
  rw [if_neg (by simp [h.valid,h.finished])]
  dsimp only
  rw [hwrite]
  dsimp only
  rw [if_neg hroom]
  rfl

/-- In its stream a chunk is kept where it joins the one before it. -/
lemma continuityFailed_false_iff {previous : Option AudioChunk} {sequence : ℕ}
    (h : ∀ first ∈ previous, Succeeds first chunk) :
    continuityFailed previous (confirm sequence chunk) = false ↔
      ∀ first ∈ previous, Follows .perSegment first chunk := by
  cases previous with
  | none => simp [continuityFailed]
  | some first =>
    obtain ⟨hsame,hlt⟩ := h first rfl
    have hsame' : sameStream first (confirm sequence chunk) = true := hsame
    have hjoin : joinPcm first (confirm sequence chunk) .perSegment = joinPcm first chunk .perSegment := rfl
    have hsequence : (confirm sequence chunk).producerSequence = chunk.producerSequence := rfl
    unfold continuityFailed Follows
    simp [hsame',hjoin,hsequence,Nat.not_le.mpr hlt]

end Writer

section Agreement
variable {library : PcmLibrary} {writer : IncrementalPcm} {state : AuditState} {chunk : AudioChunk} {written : Bool}

/-- The writer and the audit of what it stored so far: the last chunk, the intervals and the next sequence. -/
structure Agrees (writer : IncrementalPcm) (state : AuditState) : Prop extends Ready writer where
  previous : state.previous = writer.previousPcm.map reopened
  segments : state.segments = writer.pcmSegments
  next : ∀ last ∈ state.blockSequence, last + 1 = writer.pcmSequence

/-- What is left to append is of the stream of the last chunk, and its sequences and bytes have room. -/
structure Continues (writer : IncrementalPcm) (chunks : List AudioChunk) : Prop where
  succeeds : (writer.previousPcm.toList ++ chunks).IsChain Succeeds
  undeclared : ∀ chunk ∈ chunks, chunk.discontinuities = []
  sequences : writer.pcmSequence + chunks.length ≤ maxUInt64
  bytes : writer.pcmBytes + (chunks.map fun chunk => chunk.bytes.length).sum ≤ maxUInt64

lemma Continues.head {chunk : AudioChunk} {chunks : List AudioChunk} (h : Continues writer (chunk :: chunks)) :
    ∀ first ∈ writer.previousPcm, Succeeds first chunk := (isChain_optional.mp h.succeeds).1

lemma Continues.room {chunk : AudioChunk} {chunks : List AudioChunk} (h : Continues writer (chunk :: chunks)) :
    writer.pcmBytes + chunk.bytes.length ≤ maxUInt64 := by
  have hall := h.bytes
  rw [List.map_cons,List.sum_cons] at hall
  omega

lemma Continues.kept (library : PcmLibrary) {chunk : AudioChunk} {chunks : List AudioChunk}
    (h : Continues writer (chunk :: chunks))
    (failed : Bool) : Continues (writer.kept library chunk failed) chunks := by
  have hsequences := h.sequences
  have hbytes := h.bytes
  rw [List.length_cons] at hsequences
  rw [List.map_cons,List.sum_cons] at hbytes
  refine ⟨?_,fun other hother => h.undeclared other (List.mem_cons_of_mem _ hother),?_,?_⟩
  · -- The confirmed chunk is succeeded as the chunk is.
    have hhead : (confirm writer.pcmSequence chunk :: chunks).IsChain Succeeds ↔ (chunk :: chunks).IsChain Succeeds :=
      isChain_congr_head fun next => Iff.rfl
    exact hhead.mpr (isChain_optional.mp h.succeeds).2
  · show writer.pcmSequence + 1 + chunks.length ≤ maxUInt64
    omega
  · show writer.pcmBytes + chunk.bytes.length + _ ≤ maxUInt64
    omega

/-- The block of a kept chunk is the next one of the audit. -/
lemma Agrees.nextBlock (library : PcmLibrary) {chunk : AudioChunk} (h : Agrees writer state) {chunks : List AudioChunk}
    (hcontinues : Continues writer (chunk :: chunks)) :
    NextBlock state { storedBlock library writer.pcmSequence (confirm writer.pcmSequence chunk) with
      chunk := reopened (confirm writer.pcmSequence chunk) } := by
  refine ⟨fun last hlast => ?_,fun previous hprevious => ?_,hcontinues.undeclared chunk (by simp)⟩
  · have hnext := h.next last hlast
    have hsequences := hcontinues.sequences
    rw [List.length_cons] at hsequences
    exact ⟨by omega,hnext.symm⟩
  · rw [h.previous] at hprevious
    obtain ⟨first,hfirst,rfl⟩ := Option.map_eq_some_iff.mp hprevious
    exact (hcontinues.head first hfirst).1

lemma reading_storedBlock (sequence : ℕ) (chunk : AudioChunk) :
    reading (storedBlock library sequence chunk) =
      ⟨sequence,.ok { storedBlock library sequence chunk with chunk := reopened chunk }⟩ := rfl

lemma appendAll_cons (chunk : AudioChunk) (written : Bool) (chunks : List (AudioChunk × Bool)) :
    writer.appendAll library ((chunk,written) :: chunks) =
      ((((writer.appendPcm library chunk written).1).appendAll library chunks).1,
        (writer.appendPcm library chunk written).2.isNone &&
          (((writer.appendPcm library chunk written).1).appendAll library chunks).2) := rfl

/-- An invalid writer keeps nothing more. -/
lemma appendAll_invalid (h : writer.valid = false) (chunks : List (AudioChunk × Bool)) :
    (writer.appendAll library chunks).1 = writer := by
  induction chunks with
  | nil => rfl
  | cons pair chunks ih =>
    have hrefused : writer.appendPcm library pair.1 pair.2 = (writer,some .invalidInput) := by
      unfold IncrementalPcm.appendPcm
      rw [if_pos (by simp [h])]
    rw [appendAll_cons,hrefused,ih]

/-- A refused chunk leaves the writer invalid, so nothing after it is accepted. -/
lemma appendPcm_refused (hfinished : writer.finished = false)
    (h : (writer.appendPcm library chunk written).2 ≠ none) :
    (writer.appendPcm library chunk written).1.valid = false := by
  unfold IncrementalPcm.appendPcm at h ⊢
  split_ifs at h ⊢ with hinvalid
  · simpa [hfinished] using hinvalid
  dsimp only at h ⊢
  split at h
  · rfl
  · split_ifs at h ⊢ with hroom hfailed
    · rfl
    · simp [hfailed]
    · exact absurd rfl h

lemma appendPcm_finished : (writer.appendPcm library chunk written).1.finished = writer.finished := by
  unfold IncrementalPcm.appendPcm
  split_ifs
  · rfl
  dsimp only
  split
  · rfl
  · split_ifs <;> rfl

lemma appendAll_refused (hfinished : writer.finished = false) {chunks : List (AudioChunk × Bool)}
    (h : (writer.appendAll library chunks).2 = false) : (writer.appendAll library chunks).1.valid = false := by
  induction chunks generalizing writer with
  | nil => cases h
  | cons pair chunks ih =>
    rw [appendAll_cons] at h ⊢
    cases hrefused : (writer.appendPcm library pair.1 pair.2).2 with
    | none =>
      rw [hrefused] at h
      exact ih (appendPcm_finished.trans hfinished) h
    | some error =>
      have hinvalid := appendPcm_refused hfinished (by rw [hrefused]; exact Option.some_ne_none error)
      rw [appendAll_invalid hinvalid]
      exact hinvalid

lemma Ready.kept (library : PcmLibrary) (chunk : AudioChunk) (h : Ready writer) :
    Ready (writer.kept library chunk false) := by
  refine ⟨rfl,h.finished,Nat.succ_ne_zero _,fun file hfile => ?_⟩
  show file.sequence < writer.pcmSequence + 1
  rcases List.mem_append.mp hfile with hold | hnew
  · have := h.files file hold
    omega
  · rw [List.mem_singleton.mp hnew]
    exact Nat.lt_succ_self _

/-- The writer and the audit agree again after a chunk that both accept. -/
lemma Agrees.kept (library : PcmLibrary) {chunk : AudioChunk} (h : Agrees writer state) :
    Agrees (writer.kept library chunk false)
      (state.next { storedBlock library writer.pcmSequence (confirm writer.pcmSequence chunk) with
        chunk := reopened (confirm writer.pcmSequence chunk) }) := by
  refine ⟨h.toReady.kept library chunk,rfl,?_,?_⟩
  · show addSamples state.segments _ = addSamples writer.pcmSegments _
    rw [h.segments]
    rfl
  · intro last hlast
    cases hlast
    rfl

/-- Appending keeps the blocks that the audit goes through, up to the same point and with the same intervals; all
the chunks are accepted exactly when they can be stored and the audit finds no issue. -/
lemma appendAll_audit (chunks : List (AudioChunk × Bool)) (h : Agrees writer state)
    (hcontinues : Continues writer (chunks.map Prod.fst)) :
    ∃ new, (writer.appendAll library chunks).1.files = writer.files ++ new ∧ new.length ≤ chunks.length ∧
      (auditBlocks .perSegment state (new.map reading)).1.segments =
        (writer.appendAll library chunks).1.pcmSegments ∧
      ((writer.appendAll library chunks).2 = true ↔ Storable library writer.pcmSequence chunks ∧
        (auditBlocks .perSegment state (new.map reading)).2 = none) := by
  induction chunks generalizing writer state with
  | nil =>
    exact ⟨[],(List.append_nil _).symm,le_refl _,h.segments,by
      simp [IncrementalPcm.appendAll,Storable,auditBlocks]⟩
  | cons pair chunks ih =>
    obtain ⟨chunk,written⟩ := pair
    rw [List.map_cons] at hcontinues
    dsimp only at hcontinues
    rw [appendAll_cons]
    unfold Storable
    by_cases hstorable : (encodePcmMessage library (confirm writer.pcmSequence chunk) writer.pcmSequence).isOk = true ∧
      written = true
    swap
    · rw [appendPcm_unstored h.toReady hstorable]
      dsimp only
      rw [appendAll_invalid rfl]
      exact ⟨[],(List.append_nil _).symm,Nat.zero_le _,h.segments,by simp [hstorable]⟩
    obtain ⟨hencoded,rfl⟩ := hstorable
    have hnext := h.nextBlock library hcontinues
    rw [appendPcm_stored h.toReady hencoded hcontinues.room]
    dsimp only
    cases hfailed : continuityFailed writer.previousPcm (confirm writer.pcmSequence chunk) with
    | true =>
      have hbroken : ¬∀ first ∈ writer.previousPcm, Follows .perSegment first chunk := by
        rw [← continuityFailed_false_iff hcontinues.head,hfailed]
        simp
      push Not at hbroken
      obtain ⟨first,hfirst,hbroken⟩ := hbroken
      have hprevious : state.previous = some (reopened first) := by
        rw [h.previous,hfirst]
        rfl
      obtain ⟨issue,hissue⟩ := auditBlock_broken .perSegment writer.pcmSequence hnext hprevious hbroken
      rw [appendAll_invalid rfl]
      refine ⟨[storedBlock library writer.pcmSequence (confirm writer.pcmSequence chunk)],rfl,by simp,?_,?_⟩
      · rw [List.map_singleton,reading_storedBlock,auditBlocks,hissue]
        exact h.segments
      · rw [List.map_singleton,reading_storedBlock,auditBlocks,hissue]
        simp
    | false =>
      have hfollows : ∀ previous ∈ state.previous, Follows .perSegment previous (reopened chunk) := by
        intro previous hprevious
        rw [h.previous] at hprevious
        obtain ⟨first,hfirst,rfl⟩ := Option.map_eq_some_iff.mp hprevious
        exact (continuityFailed_false_iff hcontinues.head).mp hfailed first hfirst
      obtain ⟨new,hfiles,hlength,hsegments,haccepted⟩ := ih (h.kept library) (hcontinues.kept library false)
      refine ⟨storedBlock library writer.pcmSequence (confirm writer.pcmSequence chunk) :: new,?_,by simpa,?_,?_⟩
      · rw [hfiles]
        exact List.append_assoc _ _ _
      · rw [List.map_cons,reading_storedBlock,auditBlocks,auditBlock_follows .perSegment _ hnext hfollows]
        exact hsegments
      · rw [List.map_cons,reading_storedBlock,auditBlocks,auditBlock_follows .perSegment _ hnext hfollows]
        simp only [Bool.false_eq_true,if_false,Option.isNone_none,Bool.true_and]
        simp only [hencoded,and_self,true_and]
        exact haccepted

/-- All the chunks are accepted exactly when they can be stored and each joins the one before it. -/
lemma appendAll_accepted (chunks : List (AudioChunk × Bool)) (h : Ready writer)
    (hcontinues : Continues writer (chunks.map Prod.fst)) :
    (writer.appendAll library chunks).2 = true ↔ Storable library writer.pcmSequence chunks ∧
      (writer.previousPcm.toList ++ chunks.map Prod.fst).IsChain (Follows .perSegment) := by
  induction chunks generalizing writer with
  | nil => cases writer.previousPcm <;> simp [IncrementalPcm.appendAll,Storable]
  | cons pair chunks ih =>
    obtain ⟨chunk,written⟩ := pair
    rw [List.map_cons] at hcontinues ⊢
    dsimp only at hcontinues ⊢
    rw [appendAll_cons,isChain_optional]
    unfold Storable
    by_cases hstorable : (encodePcmMessage library (confirm writer.pcmSequence chunk) writer.pcmSequence).isOk = true ∧
      written = true
    swap
    · rw [appendPcm_unstored h hstorable]
      simp [hstorable]
    obtain ⟨hencoded,rfl⟩ := hstorable
    rw [appendPcm_stored h hencoded hcontinues.room]
    by_cases hfollows : ∀ previous ∈ writer.previousPcm, Follows .perSegment previous chunk
    · rw [(continuityFailed_false_iff hcontinues.head).mpr hfollows]
      simp only [Bool.false_eq_true,if_false,Option.isNone_none,Bool.true_and,hencoded,and_self,true_and]
      rw [ih (h.kept library chunk) (hcontinues.kept library false)]
      have hhead : (confirm writer.pcmSequence chunk :: chunks.map Prod.fst).IsChain (Follows .perSegment) ↔
          (chunk :: chunks.map Prod.fst).IsChain (Follows .perSegment) := isChain_congr_head fun next => Iff.rfl
      exact and_congr_right fun _ => hhead.trans (and_iff_right hfollows).symm
    · have hfailed : continuityFailed writer.previousPcm (confirm writer.pcmSequence chunk) = true := by
        rw [← Bool.not_eq_false,continuityFailed_false_iff hcontinues.head]
        exact hfollows
      rw [hfailed]
      exact iff_of_false (by simp) fun hall => hfollows hall.2.1

/-- The writer after all the chunks of a list were kept. -/
structure KeptAll (library : PcmLibrary) (writer : IncrementalPcm) (chunks : List AudioChunk)
    (last : IncrementalPcm) : Prop where
  valid : last.valid = true
  finished : last.finished = false
  files : last.files = writer.files ++ keptBlocks library writer.pcmSequence chunks
  artifacts : last.pcmArtifacts = writer.pcmArtifacts ++ (keptBlocks library writer.pcmSequence chunks).map
    fun block => ⟨block.sequence,block.sequence,block.messageIdentity⟩
  blocks : last.pcmBlocks = writer.pcmBlocks + chunks.length
  bytes : last.pcmBytes = writer.pcmBytes + (chunks.map fun chunk => chunk.bytes.length).sum

lemma appendAll_kept (chunks : List (AudioChunk × Bool)) (h : Ready writer)
    (hcontinues : Continues writer (chunks.map Prod.fst))
    (haccepted : (writer.appendAll library chunks).2 = true) :
    KeptAll library writer (chunks.map Prod.fst) (writer.appendAll library chunks).1 := by
  induction chunks generalizing writer with
  | nil => exact ⟨h.valid,h.finished,(List.append_nil _).symm,(List.append_nil _).symm,rfl,rfl⟩
  | cons pair chunks ih =>
    obtain ⟨chunk,written⟩ := pair
    rw [List.map_cons] at hcontinues ⊢
    dsimp only at hcontinues ⊢
    rw [appendAll_cons] at haccepted ⊢
    obtain ⟨hnone,hrest⟩ := Bool.and_eq_true_iff.mp haccepted
    by_cases hstorable : (encodePcmMessage library (confirm writer.pcmSequence chunk) writer.pcmSequence).isOk = true ∧
      written = true
    swap
    · rw [appendPcm_unstored h hstorable] at hnone
      cases hnone
    obtain ⟨hencoded,rfl⟩ := hstorable
    rw [appendPcm_stored h hencoded hcontinues.room] at hnone hrest ⊢
    cases hfailed : continuityFailed writer.previousPcm (confirm writer.pcmSequence chunk) with
    | true =>
      rw [hfailed] at hnone
      cases hnone
    | false =>
      rw [hfailed] at hrest
      have hkept := ih (h.kept library chunk) (hcontinues.kept library false) hrest
      refine ⟨hkept.valid,hkept.finished,?_,?_,?_,?_⟩
      · rw [hkept.files]
        exact List.append_assoc _ _ _
      · rw [hkept.artifacts]
        exact List.append_assoc _ _ _
      · rw [hkept.blocks,List.length_cons]
        show writer.pcmBlocks + 1 + _ = _
        omega
      · rw [hkept.bytes,List.map_cons,List.sum_cons]
        show writer.pcmBytes + chunk.bytes.length + _ = _
        omega

/-- The audit of kept blocks finds no issue exactly when each joins the one before it. -/
lemma auditBlocks_keptBlocks (continuity : PcmContinuity) (chunks : List AudioChunk) (sequence : ℕ)
    (hsequence : ∀ last ∈ state.blockSequence, last + 1 = sequence)
    (hroom : sequence + chunks.length ≤ maxUInt64)
    (hsame : (state.previous.toList ++ chunks).IsChain fun previous next => sameStream previous next = true)
    (hundeclared : ∀ chunk ∈ chunks, chunk.discontinuities = []) :
    (auditBlocks continuity state ((keptBlocks library sequence chunks).map reading)).2 = none ↔
      (state.previous.toList ++ chunks).IsChain (Follows continuity) := by
  induction chunks generalizing state sequence with
  | nil => cases state.previous <;> simp [keptBlocks,auditBlocks]
  | cons chunk chunks ih =>
    rw [List.length_cons] at hroom
    have hnext : NextBlock state { storedBlock library sequence (confirm sequence chunk) with
        chunk := reopened (confirm sequence chunk) } := by
      refine ⟨fun last hlast => ⟨?_,(hsequence last hlast).symm⟩,fun previous hprevious => ?_,
        hundeclared chunk (by simp)⟩
      · have := hsequence last hlast
        omega
      · exact (isChain_optional.mp hsame).1 previous hprevious
    rw [keptBlocks,List.map_cons,reading_storedBlock,auditBlocks]
    by_cases hfollows : ∀ previous ∈ state.previous, Follows continuity previous chunk
    · have hstream : (reopened (confirm sequence chunk) :: chunks).IsChain (sameStream · · = true) ↔
          (chunk :: chunks).IsChain (sameStream · · = true) := isChain_congr_head fun next => Iff.rfl
      have hhead : (reopened (confirm sequence chunk) :: chunks).IsChain (Follows continuity) ↔
          (chunk :: chunks).IsChain (Follows continuity) := isChain_congr_head fun next => Iff.rfl
      rw [auditBlock_follows continuity _ hnext hfollows,isChain_optional]
      refine (ih (sequence + 1) ?_ (by omega) ?_ ?_).trans ?_
      · intro last hlast
        cases hlast
        rfl
      · exact hstream.mpr (isChain_optional.mp hsame).2
      · exact fun other hother => hundeclared other (List.mem_cons_of_mem _ hother)
      · exact hhead.trans (and_iff_right hfollows).symm
    · push Not at hfollows
      obtain ⟨previous,hprevious,hbroken⟩ := hfollows
      obtain ⟨issue,hissue⟩ := auditBlock_broken continuity sequence hnext hprevious hbroken
      rw [hissue]
      exact iff_of_false (by simp) fun hchain => hbroken ((isChain_optional.mp hchain).1 previous hprevious)

end Agreement

section Finish
variable {library : PcmLibrary} {writer : IncrementalPcm}

lemma keptBlocks_sequences (library : PcmLibrary) (sequence : ℕ) (chunks : List AudioChunk) :
    (∀ block ∈ keptBlocks library sequence chunks, sequence ≤ block.sequence) ∧
      (keptBlocks library sequence chunks).Pairwise fun block other => block.sequence ≠ other.sequence := by
  induction chunks generalizing sequence with
  | nil => simp [keptBlocks]
  | cons chunk chunks ih =>
    obtain ⟨hle,hdistinct⟩ := ih (sequence + 1)
    rw [keptBlocks]
    refine ⟨fun block hblock => ?_,List.pairwise_cons.mpr ⟨fun block hblock => ?_,hdistinct⟩⟩
    · rcases List.mem_cons.mp hblock with rfl | hlater
      · exact le_refl _
      · exact Nat.le_of_succ_le (hle block hlater)
    · exact Nat.ne_of_lt (hle block hblock)

lemma keptBlocks_length (library : PcmLibrary) (sequence : ℕ) (chunks : List AudioChunk) :
    (keptBlocks library sequence chunks).length = chunks.length := by
  induction chunks generalizing sequence with
  | nil => rfl
  | cons chunk chunks ih => rw [keptBlocks,List.length_cons,List.length_cons,ih]

/-- A name that no other file has is that of its file. -/
lemma find_sequence {files : List StoredPcmBlock} {block : StoredPcmBlock}
    (h : files.Pairwise fun file other => file.sequence ≠ other.sequence) (hblock : block ∈ files) :
    (files.find? fun file => file.sequence = block.sequence) = some block := by
  induction files with
  | nil => cases hblock
  | cons file files ih =>
    obtain ⟨hfirst,hrest⟩ := List.pairwise_cons.mp h
    rcases List.mem_cons.mp hblock with rfl | hlater
    · rw [List.find?_cons_of_pos (by simp)]
    · rw [List.find?_cons_of_neg (by simpa using hfirst block hlater)]
      exact ih hrest hlater

def artifact (block : StoredPcmBlock) : PcmArtifact := ⟨block.sequence,block.sequence,block.messageIdentity⟩

/-- Kept blocks reopen as they were kept, and the single interval is broken exactly where one of them does not
follow the samples of the one before it. -/
lemma reopenPcm_keptBlocks {read : ℕ → Except PcmBlockStoreError StoredPcmBlock} (chunks : List AudioChunk)
    (sequence : ℕ) (previous : Option AudioChunk) (bytes : ℕ) (broken : Bool)
    (hread : ∀ block ∈ keptBlocks library sequence chunks, read block.sequence = readPcmBlock block)
    (hsucceeds : (previous.toList ++ chunks).IsChain Succeeds)
    (hfollows : (previous.toList ++ chunks).IsChain (Follows .perSegment)) :
    ∃ interrupted, reopenPcm read previous ((keptBlocks library sequence chunks).map artifact) (bytes,broken) =
        some (bytes + (chunks.map fun chunk => chunk.bytes.length).sum,interrupted) ∧
      (interrupted = false ↔ broken = false ∧ (previous.toList ++ chunks).IsChain (Follows .single)) := by
  induction chunks generalizing sequence previous bytes broken with
  | nil =>
    refine ⟨broken,rfl,?_⟩
    cases previous <;> simp
  | cons chunk chunks ih =>
    obtain ⟨hsuccessor,hsuccessors⟩ := isChain_optional.mp hsucceeds
    obtain ⟨hjoin,hjoins⟩ := isChain_optional.mp hfollows
    have hfirst := hread (storedBlock library sequence (confirm sequence chunk))
      (by rw [keptBlocks]; exact List.mem_cons_self)
    have hkept : continuityFailed previous (reopened (confirm sequence chunk)) = false := by
      have hconfirmed : continuityFailed previous (confirm sequence chunk) = false :=
        (continuityFailed_false_iff hsuccessor).mpr hjoin
      cases previous <;> exact hconfirmed
    have hnext : ∀ {R : AudioChunk → AudioChunk → Prop},
        (∀ next, R (reopened (confirm sequence chunk)) next ↔ R chunk next) →
          (((some (reopened (confirm sequence chunk))).toList ++ chunks).IsChain R ↔ (chunk :: chunks).IsChain R) :=
      fun hsame => isChain_congr_head hsame
    obtain ⟨interrupted,hreopened,hinterrupted⟩ := ih (sequence + 1) (some (reopened (confirm sequence chunk)))
      (bytes + chunk.bytes.length)
      (broken || previous.any fun previous => !(joinPcm previous (reopened (confirm sequence chunk)) .single).accepted)
      (fun block hblock => hread block (by rw [keptBlocks]; exact List.mem_cons_of_mem _ hblock))
      ((hnext fun next => Iff.rfl).mpr hsuccessors) ((hnext fun next => Iff.rfl).mpr hjoins)
    refine ⟨interrupted,?_,?_⟩
    · rw [keptBlocks,List.map_cons,reopenPcm]
      dsimp only [artifact]
      rw [hfirst,readPcmBlock]
      dsimp only
      refine (if_neg ?_).trans ?_
      · rw [not_or,not_or,not_or,not_not,not_not,not_not]
        exact ⟨rfl,rfl,rfl,Bool.eq_false_iff.mp hkept⟩
      · rw [List.map_cons,List.sum_cons,← Nat.add_assoc]
        exact hreopened
    · rw [hinterrupted,hnext fun next => Iff.rfl,isChain_optional]
      cases previous with
      | none => simp
      | some previous =>
        have hjoined : joinPcm previous (reopened (confirm sequence chunk)) .single = joinPcm previous chunk .single :=
          rfl
        simp [hjoined,Follows,and_assoc]

/-- The audit is complete where there are blocks, within the maximum, and no issue is found. -/
lemma auditAudioIntegrity_complete {readings : List BlockReading} {continuity : PcmContinuity} :
    (auditAudioIntegrity readings continuity).complete = true ↔ readings ≠ [] ∧
      readings.length ≤ maxCheckpointArtifacts ∧ (auditBlocks continuity {} readings).2 = none := by
  unfold auditAudioIntegrity
  split_ifs with hempty hmany
  · simp [hempty]
  · simp [Nat.not_le.mpr hmany]
  · simp [hempty,Nat.not_lt.mp hmany]

lemma auditAudioIntegrity_segments {readings : List BlockReading} {continuity : PcmContinuity}
    (h : readings.length ≤ maxCheckpointArtifacts) :
    (auditAudioIntegrity readings continuity).segments = (auditBlocks continuity {} readings).1.segments := by
  unfold auditAudioIntegrity
  split_ifs with hempty hmany
  · rw [hempty]
    rfl
  · omega
  · rfl

lemma fresh_agrees : Agrees {} {} :=
  ⟨⟨rfl,rfl,Nat.one_ne_zero,by simp⟩,rfl,rfl,by simp⟩

/-- The whole stream is left to a writer that begins. -/
lemma PcmStream.continues {chunks : List AudioChunk} (h : PcmStream chunks) : Continues {} chunks := by
  refine ⟨h.succeeds,h.undeclared,?_,?_⟩
  · have := h.count
    show 1 + chunks.length ≤ maxUInt64
    unfold maxCheckpointArtifacts at this
    unfold maxUInt64
    omega
  · have hsum : (chunks.map fun chunk => chunk.bytes.length).sum ≤ chunks.length * maxAudioPayloadBytes := by
      have hall := List.sum_le_card_nsmul (chunks.map fun chunk => chunk.bytes.length) maxAudioPayloadBytes ?_
      · simpa using hall
      · intro size hsize
        obtain ⟨chunk,hchunk,rfl⟩ := List.mem_map.mp hsize
        exact AudioChunk.wellFormed_bytes (h.wellFormed chunk hchunk)
    have hcount := h.count
    show 0 + _ ≤ maxUInt64
    unfold maxCheckpointArtifacts at hcount
    unfold maxAudioPayloadBytes at hsum
    unfold maxUInt64
    omega

/-- The evidence passes the check of continuity: nothing fails up to it. -/
def PassesContinuity : Except IntegratedEvidenceError IntegratedEvidenceSummary → Prop
  | .ok _ => True
  | .error error => error = .relationshipReopenFailed

/-- The facts take `finish` up to its blocks. -/
structure KeptFacts.Reaches (facts : KeptFacts) : Prop where
  some : facts.facts ≠ 0
  observed : facts.facts = facts.observedFactCount
  resolved : facts.resolved = true
  reopening : facts.reopening = .reopened

/-- A writer that kept every chunk finishes past the check of continuity exactly when its facts let it, there are
chunks, and their samples are one interval. -/
lemma KeptAll.finish_passes {chunks : List AudioChunk} (h : KeptAll library {} chunks writer)
    (hstream : PcmStream chunks) (hjoins : chunks.IsChain (Follows .perSegment)) (facts : KeptFacts) (require : Bool) :
    PassesContinuity (writer.finish facts require .single) ↔
      facts.Reaches ∧ chunks ≠ [] ∧ chunks.IsChain (Follows .single) := by
  have hfiles : writer.files = keptBlocks library 1 chunks := h.files
  have hartifacts : writer.pcmArtifacts = (keptBlocks library 1 chunks).map artifact := h.artifacts
  have hblocks : writer.pcmBlocks = chunks.length := h.blocks.trans (Nat.zero_add _)
  have hbytes : writer.pcmBytes = (chunks.map fun chunk => chunk.bytes.length).sum := h.bytes.trans (Nat.zero_add _)
  have hread : ∀ block ∈ keptBlocks library 1 chunks, writer.read block.sequence = readPcmBlock block := by
    intro block hblock
    unfold IncrementalPcm.read
    rw [hfiles,find_sequence (keptBlocks_sequences library 1 chunks).2 hblock]
  obtain ⟨interrupted,hreopened,hinterrupted⟩ :=
    reopenPcm_keptBlocks chunks 1 none 0 false hread hstream.succeeds hjoins
  simp only [true_and,Option.toList_none,List.nil_append,Nat.zero_add] at hreopened hinterrupted
  have hlength : writer.pcmArtifacts.length = writer.pcmBlocks := by
    rw [hartifacts,hblocks,List.length_map,keptBlocks_length]
  have hnone : writer.pcmBlocks = 0 ↔ chunks = [] := by rw [hblocks,List.length_eq_zero_iff]
  unfold IncrementalPcm.finish
  by_cases hinput : !writer.valid ∨ writer.finished ∨ facts.facts = 0 ∨ writer.pcmBlocks = 0 ∨
      facts.facts ≠ facts.observedFactCount
  · rw [if_pos hinput]
    refine iff_of_false (by simp [PassesContinuity]) ?_
    rintro ⟨hreaches,hsome,-⟩
    rcases hinput with hvalid | hfinished | hnofacts | hnoblocks | hobserved
    · simp [h.valid] at hvalid
    · simp [h.finished] at hfinished
    · exact hreaches.some hnofacts
    · exact hsome (hnone.mp hnoblocks)
    · exact hobserved hreaches.observed
  rw [if_neg hinput]
  by_cases hunresolved : facts.resolved = false
  · rw [if_pos hunresolved]
    exact iff_of_false (by simp [PassesContinuity]) fun hall => by simp [hall.1.resolved] at hunresolved
  · rw [if_neg hunresolved]
    simp only [not_or,hnone] at hinput
    obtain ⟨-,-,hsome,hchunks,hobserved⟩ := hinput
    rw [hartifacts,hreopened]
    cases hreopening : facts.reopening with
    | integrityFailed =>
      exact iff_of_false (by simp [PassesContinuity]) fun hall => by simp [hall.1.reopening] at hreopening
    | failed => exact iff_of_false (by simp [PassesContinuity]) fun hall => by simp [hall.1.reopening] at hreopening
    | reopened =>
      have hreaches : facts.Reaches := ⟨hsome,not_not.mp hobserved,by simpa using hunresolved,hreopening⟩
      dsimp only
      rw [← hartifacts,hlength,← hbytes]
      cases interrupted with
      | true =>
        refine iff_of_false (by simp [PassesContinuity]) fun hall => ?_
        exact absurd (hinterrupted.mpr hall.2.2) (by simp)
      | false =>
        refine iff_of_true ?_ ⟨hreaches,hchunks,hinterrupted.mp rfl⟩
        simp only [Bool.false_eq_true,and_false,if_false,ne_eq,not_true_eq_false,or_self]
        by_cases hmissing : require = true ∧ facts.transportLossFree = true ∧ facts.causallyConnected = false
        · rw [if_pos hmissing]
          rfl
        · rw [if_neg hmissing]
          trivial

end Finish

section Main
variable (library : PcmLibrary) (chunks : List (AudioChunk × Bool))

/-- The writer of a run after all of its chunks. -/
def writtenPcm : IncrementalPcm := (IncrementalPcm.appendAll library {} chunks).1

def acceptsAll : Bool := (IncrementalPcm.appendAll library {} chunks).2

/-- `finish` gets past the check of continuity exactly when its facts let it, every chunk was accepted, and the
samples of all the blocks are one interval. -/
lemma finish_passes_iff (h : PcmStream (chunks.map Prod.fst)) (facts : KeptFacts) (require : Bool) :
    PassesContinuity ((writtenPcm library chunks).finish facts require .single) ↔
      facts.Reaches ∧ acceptsAll library chunks = true ∧
        (auditAudioIntegrity (writtenPcm library chunks).readings .single).complete = true := by
  by_cases haccepted : acceptsAll library chunks = true
  swap
  · have hinvalid : (writtenPcm library chunks).valid = false := appendAll_refused rfl (Bool.not_eq_true _ ▸ haccepted)
    refine iff_of_false ?_ fun hall => haccepted hall.2.1
    unfold IncrementalPcm.finish
    rw [if_pos (by simp [hinvalid])]
    simp [PassesContinuity]
  have hkept : KeptAll library {} (chunks.map Prod.fst) (writtenPcm library chunks) :=
    appendAll_kept chunks fresh_agrees.toReady h.continues haccepted
  have hjoins : (chunks.map Prod.fst).IsChain (Follows .perSegment) :=
    ((appendAll_accepted chunks fresh_agrees.toReady h.continues).mp haccepted).2
  have hreadings : (writtenPcm library chunks).readings = (keptBlocks library 1 (chunks.map Prod.fst)).map reading := by
    unfold IncrementalPcm.readings
    rw [hkept.files]
    rfl
  have hcount := h.count
  have haudited := @auditBlocks_keptBlocks library {} .single (chunks.map Prod.fst) 1
    (by simp) h.continues.sequences (h.succeeds.imp fun _ _ hsucceeds => hsucceeds.1) h.undeclared
  rw [hkept.finish_passes h hjoins facts require,hreadings,auditAudioIntegrity_complete,haudited,List.length_map,
    keptBlocks_length]
  have hnonempty : (keptBlocks library 1 (chunks.map Prod.fst)).map reading ≠ [] ↔ chunks.map Prod.fst ≠ [] := by
    cases chunks <;> simp [keptBlocks]
  rw [hnonempty]
  simp only [haccepted,hcount,true_and]
  exact Iff.rfl

/-- The writer and the auditor of a stream: the writer accepts all of its chunks exactly when they can be stored and
the audit of what it stored is complete, and finishes with a single interval when the single audit is complete too;
their intervals are the same; and the audit is complete exactly when the segments follow each other. -/
theorem writer_auditor_agree (h : PcmStream (chunks.map Prod.fst)) :
    (acceptsAll library chunks = true ↔ Storable library 1 chunks ∧ (chunks = [] ∨
      (auditAudioIntegrity (writtenPcm library chunks).readings .perSegment).complete = true)) ∧
    (∀ facts require, PassesContinuity ((writtenPcm library chunks).finish facts require .single) ↔
      facts.Reaches ∧ acceptsAll library chunks = true ∧
        (auditAudioIntegrity (writtenPcm library chunks).readings .single).complete = true) ∧
    (writtenPcm library chunks).pcmSegments =
      (auditAudioIntegrity (writtenPcm library chunks).readings .perSegment).segments ∧
    (Storable library 1 chunks →
      ((auditAudioIntegrity (writtenPcm library chunks).readings .perSegment).complete = true ↔
        chunks ≠ [] ∧ Continuous (chunks.map Prod.fst))) := by
  obtain ⟨new,hfiles,hlength,hsegments,haudited⟩ := @appendAll_audit library {} {} chunks fresh_agrees h.continues
  have hreadings : (writtenPcm library chunks).readings = new.map reading := by
    unfold IncrementalPcm.readings
    rw [show (writtenPcm library chunks).files = [] ++ new from hfiles]
    rfl
  have hcount := h.count
  rw [List.length_map] at hcount
  have hwithin : (new.map reading).length ≤ maxCheckpointArtifacts := by
    rw [List.length_map]
    omega
  have hcomplete : (auditAudioIntegrity (new.map reading) .perSegment).complete = true ↔
      new ≠ [] ∧ (auditBlocks .perSegment {} (new.map reading)).2 = none := by
    rw [auditAudioIntegrity_complete]
    simp only [hwithin,true_and,ne_eq,List.map_eq_nil_iff]
  have haccepts : acceptsAll library chunks = true ↔
      Storable library 1 chunks ∧ (auditBlocks .perSegment {} (new.map reading)).2 = none := haudited
  have hjoined : acceptsAll library chunks = true ↔
      Storable library 1 chunks ∧ (chunks.map Prod.fst).IsChain (Follows .perSegment) :=
    appendAll_accepted chunks fresh_agrees.toReady h.continues
  have hsome : acceptsAll library chunks = true → chunks ≠ [] → new ≠ [] := by
    intro haccepted hchunks hnew
    have hkept := (appendAll_kept chunks fresh_agrees.toReady h.continues haccepted).files.symm.trans hfiles
    have hlengths := congrArg List.length hkept
    rw [hnew,List.length_append,keptBlocks_length,List.length_map] at hlengths
    exact hchunks (List.length_eq_zero_iff.mp (by simpa using hlengths))
  have hnone : chunks = [] → new = [] := by
    rintro rfl
    exact List.length_eq_zero_iff.mp (Nat.le_zero.mp hlength)
  rw [hreadings,hcomplete]
  refine ⟨⟨fun haccepted => ⟨(haccepts.mp haccepted).1,?_⟩,?_⟩,fun facts require => ?_,hsegments.symm.trans ?_,?_⟩
  · by_cases hchunks : chunks = []
    · exact Or.inl hchunks
    · exact Or.inr ⟨hsome haccepted hchunks,(haccepts.mp haccepted).2⟩
  · rintro ⟨hstorable,rfl | hcomplete⟩
    · rfl
    · exact haccepts.mpr ⟨hstorable,hcomplete.2⟩
  · rw [← hreadings]
    exact finish_passes_iff library chunks h facts require
  · exact (auditAudioIntegrity_segments hwithin).symm
  · intro hstorable
    rw [continuous_iff]
    constructor
    · rintro ⟨hnew,hclean⟩
      exact ⟨fun hchunks => hnew (hnone hchunks),(hjoined.mp (haccepts.mpr ⟨hstorable,hclean⟩)).2⟩
    · rintro ⟨hchunks,hchain⟩
      have haccepted := hjoined.mpr ⟨hstorable,hchain⟩
      exact ⟨hsome haccepted hchunks,(haccepts.mp haccepted).2⟩

/-- One frame of silence at a sample, as a run hands it over. -/
def silence (sequence sample : ℕ) (sha256 : Binary.Field Bytes) : AudioChunk where
  runId := [114]
  capturePoint := [109]
  producerSequence := sequence
  format := ⟨.s16le,48000,1⟩
  range := ⟨[116],48000,sample,sample + 1⟩
  bytes := silentFrame
  sha256
  checkpointId := {}

def hashed : Binary.Field Bytes := ⟨.known,some silentDigest,[]⟩

lemma silence_stream (sha256 : Binary.Field Bytes) (h : sha256 = hashed ∨ sha256 = {}) :
    PcmStream [silence 1 0 hashed,silence 2 1 sha256] := by
  rcases h with rfl | rfl <;> exact ⟨by decide,by decide,by decide,by decide,by decide⟩

/-- Two hashed frames in a row are accepted, and the audit of their blocks is complete. -/
theorem writer_auditor_agree_silence :
    acceptsAll silentLibrary [(silence 1 0 hashed,true),(silence 2 1 hashed,true)] = true ∧
      (auditAudioIntegrity (writtenPcm silentLibrary
        [(silence 1 0 hashed,true),(silence 2 1 hashed,true)]).readings .perSegment).complete = true := by
  have hagree := writer_auditor_agree silentLibrary [(silence 1 0 hashed,true),(silence 2 1 hashed,true)]
    (silence_stream hashed (Or.inl rfl))
  have hstorable : Storable silentLibrary 1 [(silence 1 0 hashed,true),(silence 2 1 hashed,true)] :=
    ⟨⟨by decide +kernel,rfl⟩,⟨by decide +kernel,rfl⟩,trivial⟩
  have hcomplete := (hagree.2.2.2 hstorable).mpr ⟨by decide,(continuous_iff _).mpr (by decide)⟩
  exact ⟨hagree.1.mpr ⟨hstorable,Or.inr hcomplete⟩,hcomplete⟩

/-- The writer accepts a stream of no chunks, whose audit is not complete, and refuses a chunk without its hash
after one whose block alone is complete. -/
theorem writer_accepts_unlike_audit :
    (PcmStream [] ∧ acceptsAll silentLibrary [] = true ∧
      (auditAudioIntegrity (writtenPcm silentLibrary []).readings .perSegment).complete = false) ∧
    PcmStream [silence 1 0 hashed,silence 2 1 {}] ∧
      acceptsAll silentLibrary [(silence 1 0 hashed,true),(silence 2 1 {},true)] = false ∧
      (auditAudioIntegrity (writtenPcm silentLibrary
        [(silence 1 0 hashed,true),(silence 2 1 {},true)]).readings .perSegment).complete = true := by
  refine ⟨⟨⟨by decide,by decide,by decide,by decide,by decide⟩,rfl,rfl⟩,silence_stream {} (Or.inr rfl),?_,?_⟩
  · decide +kernel
  · decide +kernel

end Main
end AytherRuntime.Audio
