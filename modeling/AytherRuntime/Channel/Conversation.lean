import AytherRuntime.Channel.PcmDelivery
import AytherRuntime.Channel.Status
import AytherRuntime.Check.Runner
import AytherRuntime.Fact.Streamed
import AytherRuntime.Fact.TextForm

/-! The data channel of a run from end to end: what the writer of the Runtime sends of the calls that the session makes
of it, and what the loop of the supervisor reads of it, message by message, under consecutive sequences. -/
namespace AytherRuntime.Channel
open Audio (AudioChunk PcmMessage PcmView StreamingWriter)
open Binary (FactBatchError encodeFactBatch decodeFactBatch factDocument isBinaryFact)
open Check (CheckExecutionError)
open Binary.Streaming (ObservationWriter Sent WriterCall Encodes Flushed Unflushed Buffers)
open Codec (Bytes)

section Calls

/-- A call of the session to its writer, with the statuses and the terminals as it makes them. -/
inductive SessionCall
  | consumeFact (copied : Option Binary.Fact)
  | pushFact (fact : Binary.Fact)
  | sendStatus (status : SessionStatus)
  | sendTerminal (result : ReplayExecutionResult)
  | beginSegment (forwarded : ℕ)
  | consumePcm (view : PcmView)
  | flush (finalizePcm : Bool)
  | setPcmLimit (limit : ℕ)

variable (library : PcmLibrary)

def SessionCall.writerCall : SessionCall → WriterCall
  | .consumeFact copied => .consumeFact copied
  | .pushFact fact => .pushFact fact
  | .sendStatus status => .sendStatus fun sequence =>
      (status.encode library.toTomlText (UInt64.ofNat sequence)).toOption
  | .sendTerminal result => .sendTerminal fun sequence =>
      (encodeReplayExecutionResult library.toTomlText result (UInt64.ofNat sequence)).toOption
  | .beginSegment forwarded => .beginSegment forwarded
  | .consumePcm view => .consumePcm view
  | .flush finalizePcm => .flush finalizePcm
  | .setPcmLimit limit => .setPcmLimit limit

/-- The facts that a call hands over. -/
def SessionCall.facts : SessionCall → List Binary.Fact
  | .consumeFact copied => copied.toList
  | .pushFact fact => [fact]
  | _ => []

def SessionCall.statuses : SessionCall → List SessionStatus
  | .sendStatus status => [status]
  | _ => []

def SessionCall.terminals : SessionCall → List ReplayExecutionResult
  | .sendTerminal result => [result]
  | _ => []

/-- The bytes of a message that the channel took. -/
def sentBytes : Sent → Option Bytes
  | .factBatch message | .sessionStatus message | .terminal message => some message
  | .audioChunk message => (encodePcmMessage library message.chunk (UInt64.ofNat message.channelSequence)).toOption

variable (identify : ℕ → AudioChunk → Bytes) (takes channel : ℕ → Bool)
variable (encodeFact : Binary.Fact → Except FactBatchError Bytes)

/-- The writer of a run after some calls of the session. -/
def runWriter (runId : Bytes) (limit : ℕ) (calls : List SessionCall) : ObservationWriter :=
  ObservationWriter.run (library.sized identify) takes channel (encodeFactBatch encodeFact) runId limit
    (calls.map (SessionCall.writerCall library))

end Calls

section Reading

/-- A message of the channel once it is read. -/
inductive Arrived
  | factBatch (facts : List Binary.Fact)
  | audioChunk (chunk : AudioChunk)
  | sessionStatus (status : SessionStatus)
  | terminal (result : ReplayExecutionResult)

/-- Where the loop of `execute_check_replay` stands: the take plays, or the Runtime stays paused after the end that it
confirmed, with the run of the post-end inspection that is open. -/
inductive Stage
  | playing
  | ended (inspection : Option String)
  deriving DecidableEq, Repr

/-- What the loop came to: it waits for the next message, it has ended, or it refused a message. -/
inductive Reading
  | waiting (stage : Stage)
  | closed
  | refused (error : CheckExecutionError)
  deriving DecidableEq, Repr

namespace Stage

/-- The channel closed, or gave less than a header. -/
def unreadable : Stage → Reading
  | .playing => .refused .evidenceStreamInvalid
  | .ended _ => .closed

/-- The types of messages that come while the Runtime stays paused. -/
def admits : Stage → MessageType → Bool
  | .playing, _ => true
  | .ended _, type => type = .sessionStatus || type = .factBatch || type = .terminal

def undecoded : Stage → MessageType → CheckExecutionError
  | .playing, .terminal => .terminalFailed
  | _, _ => .evidenceStreamInvalid

/-- What a message does once it is decoded. The files of a terminal and of a run that opens are written, or not; the
evidence that the loop gathers is left out. -/
def take (visible stored : Bool) : Stage → Arrived → Except CheckExecutionError Reading
  | .playing, .factBatch _ | .playing, .audioChunk _ => .ok (.waiting .playing)
  | .playing, .sessionStatus (.replayState _) => .ok (.waiting .playing)
  | .playing, .sessionStatus (.runOpened _) => .error .evidenceStreamInvalid
  | .playing, .terminal result =>
    if !stored then .error .evidenceStreamInvalid
    else if !result.endedPaused || !visible then .ok .closed
    else .ok (.waiting (.ended none))
  | .ended inspection, .factBatch _ =>
    if inspection.isNone then .error .evidenceStreamInvalid else .ok (.waiting (.ended inspection))
  | .ended _, .audioChunk _ => .error .evidenceStreamInvalid
  | .ended inspection, .sessionStatus (.replayState _) => .ok (.waiting (.ended inspection))
  | .ended inspection, .sessionStatus (.runOpened opened) =>
    if inspection.isSome || !stored then .error .evidenceStreamInvalid
    else .ok (.waiting (.ended (some opened.runId)))
  | .ended inspection, .terminal result =>
    if inspection ≠ some result.runId ∨ result.traversal ≠ some "post_end_inspection" ∨ stored = false then
      .error .evidenceStreamInvalid
    else .ok (.waiting (.ended none))

end Stage

variable (library : PcmLibrary) (decodeFact : Bytes → Except FactBatchError Binary.Fact)

/-- The decoder that a type of message has. -/
def readTyped (type : MessageType) (sequence : UInt64) (message : Bytes) : Option Arrived :=
  match type with
  | .factBatch => (decodeFactBatch decodeFact message sequence).toOption.map .factBatch
  | .audioChunk => (decodePcmMessage library message sequence).toOption.map .audioChunk
  | .sessionStatus => (decodeSessionStatus library.toTomlText message sequence).toOption.map .sessionStatus
  | .terminal => (decodeReplayExecutionResult library.toTomlText message sequence).toOption.map .terminal
  | _ => none

/-- A message as the loop reads it: its header under the expected sequence, then the decoder of its type. -/
def readMessage (stage : Stage) (sequence : UInt64) (message : Bytes) : Except Reading Arrived :=
  if message.length < protocolHeaderBytes then .error stage.unreadable
  else
    match decodeProtocolHeader (message.take protocolHeaderBytes) 2 with
    | .error _ => .error (.refused .evidenceStreamInvalid)
    | .ok header =>
      if header.channelSequence ≠ sequence.toNat ∨ !stage.admits header.type then
        .error (.refused .evidenceStreamInvalid)
      else
        match readTyped library decodeFact header.type sequence message with
        | none => .error (.refused (stage.undecoded header.type))
        | some arrived => .ok arrived

variable (visible : Bool) (stored : ℕ → Bool)

/-- What the loop makes of messages once they are decoded, the first under the given sequence. -/
def follow : Stage → ℕ → List Arrived → List Arrived × Reading
  | stage, _, [] => ([],.waiting stage)
  | stage, sequence, arrived :: later =>
    match stage.take visible (stored sequence) arrived with
    | .error error => ([],.refused error)
    | .ok (.waiting next) =>
      let rest := follow next (sequence + 1) later
      (arrived :: rest.1,rest.2)
    | .ok reading => ([arrived],reading)

/-- The loop over the messages of the channel. -/
def readMessages : Stage → ℕ → List Bytes → List Arrived × Reading
  | stage, _, [] => ([],.waiting stage)
  | stage, sequence, message :: messages =>
    match readMessage library decodeFact stage (UInt64.ofNat sequence) message with
    | .error reading => ([],reading)
    | .ok arrived =>
      match stage.take visible (stored sequence) arrived with
      | .error error => ([],.refused error)
      | .ok (.waiting next) =>
        let rest := readMessages next (sequence + 1) messages
        (arrived :: rest.1,rest.2)
      | .ok reading => ([arrived],reading)

/-- What the loop has read of the messages: all of them while it waits; up to a terminal that leaves nothing paused once
it has ended; and up to a message that has no place in the conversation, or whose files were not written, where it
refused one. -/
structure Follows (stage : Stage) (sequence : ℕ) (arrivals : List Arrived) (read : List Arrived × Reading) : Prop where
  ordered : read.1 <+: arrivals
  waiting : ∀ next, read.2 = .waiting next → read.1 = arrivals
  closed : read.2 = .closed → ∃ before result, read.1 = before ++ [Arrived.terminal result] ∧
    (result.endedPaused = false ∨ visible = false)
  refused : ∀ error, read.2 = .refused error → ∃ last arrived later, arrivals = read.1 ++ arrived :: later ∧
    follow visible stored stage sequence read.1 = (read.1,.waiting last) ∧
      last.take visible (stored (sequence + read.1.length)) arrived = .error error

end Reading

section Contents

/-- What a message of the writer holds. -/
inductive Content
  | factBatch (facts : List Binary.Fact)
  | audioChunk (chunk : AudioChunk)
  | sessionStatus (status : SessionStatus)
  | terminal (result : ReplayExecutionResult)

variable (library : PcmLibrary) (encodeFact : Binary.Fact → Except FactBatchError Bytes)

def Content.encode (sequence : ℕ) : Content → Option Bytes
  | .factBatch facts => (encodeFactBatch encodeFact facts (UInt64.ofNat sequence)).toOption
  | .audioChunk chunk => (encodePcmMessage library chunk (UInt64.ofNat sequence)).toOption
  | .sessionStatus status => (status.encode library.toTomlText (UInt64.ofNat sequence)).toOption
  | .terminal result => (encodeReplayExecutionResult library.toTomlText result (UInt64.ofNat sequence)).toOption

def Content.facts : Content → List Binary.Fact
  | .factBatch facts => facts
  | _ => []

def Content.chunks : Content → List AudioChunk
  | .audioChunk chunk => [chunk]
  | _ => []

def Content.statuses : Content → List SessionStatus
  | .sessionStatus status => [status]
  | _ => []

def Content.terminals : Content → List ReplayExecutionResult
  | .terminal result => [result]
  | _ => []

/-- What arrives of it: a block without the reason of its hash, a terminal with empty trackers. -/
def Content.arrived : Content → Arrived
  | .factBatch facts => .factBatch facts
  | .audioChunk chunk => .audioChunk (receivedChunk chunk)
  | .sessionStatus status => .sessionStatus status
  | .terminal result => .terminal result.received

/-- The messages are those of the contents, under consecutive sequences. -/
def Wire : ℕ → List Content → List Bytes → Prop
  | _, [], messages => messages = []
  | sequence, content :: contents, messages =>
    ∃ message later, messages = message :: later ∧ content.encode library encodeFact sequence = some message ∧
      Wire (sequence + 1) contents later

variable {library encodeFact}

lemma wire_append {sequence : ℕ} {contents more : List Content} {messages later : List Bytes}
    (h : Wire library encodeFact sequence contents messages)
    (hmore : Wire library encodeFact (sequence + contents.length) more later) :
    Wire library encodeFact sequence (contents ++ more) (messages ++ later) := by
  induction contents generalizing sequence messages with
  | nil =>
    obtain rfl : messages = [] := h
    exact hmore
  | cons content contents ih =>
    obtain ⟨message,rest,rfl,hmessage,hrest⟩ := h
    refine ⟨message,rest ++ later,rfl,hmessage,ih hrest ?_⟩
    rwa [List.length_cons,Nat.add_comm contents.length,← Nat.add_assoc] at hmore

lemma wire_factBatches {sequence : ℕ} {batches : List (List Binary.Fact)} {messages : List Bytes}
    (h : Encodes (encodeFactBatch encodeFact) sequence batches messages) :
    Wire library encodeFact sequence (batches.map .factBatch) messages := by
  induction batches generalizing sequence messages with
  | nil =>
    have hlength := h.length
    exact List.length_eq_zero_iff.mp hlength
  | cons batch batches ih =>
    cases messages with
    | nil => exact absurd h.length (by simp)
    | cons message messages =>
      unfold Encodes at h
      rw [List.mapIdx_cons,List.map_cons] at h
      obtain ⟨hfirst,hlater⟩ := List.cons.inj h
      refine ⟨message,messages,rfl,?_,ih ?_⟩
      · change (encodeFactBatch encodeFact batch (UInt64.ofNat sequence)).toOption = _
        rw [Nat.add_zero] at hfirst
        rw [hfirst]
        rfl
      · unfold Encodes
        rw [← hlater]
        simp only [Nat.add_assoc,Nat.add_comm 1]

end Contents

section Delivery
variable {library : PcmLibrary} {parseObservationField : ℤ → Check.Toml → Option Binary.FactField}

/-- The library reads back the document of a fact that is written as text, which does not look like a binary one. -/
def FactReadable (library : PcmLibrary) (fact : Binary.Fact) : Prop := fact.fields = [] →
  library.parse (library.print (factDocument fact)) = some (factDocument fact) ∧
    isBinaryFact (library.print (factDocument fact)) = false

/-- The library reads back the documents of a content, and its numbers fit the integers of the code. -/
def Content.Readable (library : PcmLibrary) : Content → Prop
  | .factBatch facts => ∀ fact ∈ facts, FactReadable library fact
  | .audioChunk chunk => ChunkTyped chunk ∧ library.parse (library.print (metadata chunk)) = some (metadata chunk)
  | .sessionStatus status => library.parse (library.print status.document) = some status.document
  | .terminal result => result.presentation.Counted ∧ result.trace.Signed ∧
      ∀ traversal playback, result.traversal = some traversal → result.playback = some playback →
        library.parse (library.print (terminalDocument result traversal playback)) =
          some (terminalDocument result traversal playback)

/-- The codec of the facts, by the library of the documents. -/
abbrev encodeText (library : PcmLibrary) : Binary.Fact → Except FactBatchError Bytes :=
  Binary.encodeFact library.toTomlText

abbrev decodeText (parseObservationField : ℤ → Check.Toml → Option Binary.FactField) (library : PcmLibrary) :
    Bytes → Except FactBatchError Binary.Fact :=
  Binary.decodeFact parseObservationField library.toTomlText

/-- The header of a batch is the one that the other messages have. -/
lemma encodeProtocolHeader_factBatch (payloadBytes : UInt32) (sequence : UInt64) :
    Binary.encodeProtocolHeader ⟨.factBatch,payloadBytes,2,sequence⟩ =
      encodeProtocolHeader ⟨.factBatch,payloadBytes.toNat,2,sequence.toNat⟩ := by
  unfold Binary.encodeProtocolHeader encodeProtocolHeader
  simp only [List.append_assoc]
  rfl

/-- A message that its decoder reads. -/
def ReadsAs (library : PcmLibrary) (parseObservationField : ℤ → Check.Toml → Option Binary.FactField)
    (type : MessageType)
    (sequence : UInt64) (message : Bytes) (arrived : Arrived) : Prop :=
  ∀ stage : Stage, readMessage library (decodeText parseObservationField library) stage sequence message =
    if stage.admits type then .ok arrived else .error (.refused .evidenceStreamInvalid)

/-- A message with a header of the expected sequence is read by the decoder of its type. -/
lemma readsAs_header {type : MessageType} {payload : Bytes} {sequence : UInt64} {arrived : Arrived}
    (hpayload : 0 < payload.length ∧ payload.length ≤ maxProtocolPayloadBytes) (hchannel : channelFor type = 2)
    (hsequence : sequence ≠ 0)
    (hread : readTyped library (decodeText parseObservationField library) type sequence
      (encodeProtocolHeader ⟨type,payload.length,2,sequence.toNat⟩ ++ payload) = some arrived) :
    ReadsAs library parseObservationField type sequence
      (encodeProtocolHeader ⟨type,payload.length,2,sequence.toNat⟩ ++ payload) arrived := by
  intro stage
  have hheader : decodeProtocolHeader (encodeProtocolHeader ⟨type,payload.length,2,sequence.toNat⟩) 2 = .ok _ :=
    decodeProtocolHeader_encode ⟨hpayload,hchannel.symm,
      Nat.pos_of_ne_zero fun hzero => hsequence (UInt64.toNat.inj hzero),sequence.toNat_lt⟩
  unfold readMessage
  rw [if_neg (by simp),List.take_left' (length_encodeProtocolHeader _),hheader]
  dsimp only
  rw [hread]
  cases hadmits : stage.admits type with
  | true => rw [if_neg (by simp),if_pos rfl]
  | false => rw [if_pos (Or.inr (by simp)),if_neg Bool.false_ne_true]

lemma readsAs_factBatch {facts : List Binary.Fact} (hreadable : ∀ fact ∈ facts, FactReadable library fact)
    {sequence : UInt64} {message : Bytes} (h : encodeFactBatch (encodeText library) facts sequence = .ok message) :
    ReadsAs library parseObservationField .factBatch sequence message (.factBatch facts) := by
  have hdecode : decodeFactBatch (decodeText parseObservationField library) message sequence = _ :=
    Binary.decodeFactBatch_encode (fun fact hfact _ hrecord => Binary.record_readBack
      (fun hfields => (hreadable fact hfact hfields).1) (fun hfields => (hreadable fact hfact hfields).2) hrecord)
      h sequence
  rw [if_pos rfl] at hdecode
  obtain ⟨⟨-,-,hsequence⟩,records,-,⟨-,hroom⟩,rfl⟩ := Binary.encodeFactBatch_eq_ok.mp h
  have hlength : (Codec.writeLe 4 facts.length ++ Binary.recordBytes records).length =
      (UInt32.ofNat (4 + (Binary.recordBytes records).length)).toNat := by
    have hsmall : 4 + (Binary.recordBytes records).length < 2 ^ 32 := by
      unfold Binary.maxProtocolPayloadBytes Binary.protocolHeaderBytes at hroom
      omega
    rw [UInt32.toNat_ofNat',Nat.mod_eq_of_lt hsmall,List.length_append,Codec.length_writeLe]
  rw [encodeProtocolHeader_factBatch,← hlength] at hdecode ⊢
  refine readsAs_header ?_ rfl hsequence ?_
  · rw [List.length_append,Codec.length_writeLe]
    exact ⟨by omega,hroom⟩
  · change (decodeFactBatch (decodeText parseObservationField library) _ sequence).toOption.map Arrived.factBatch = _
    rw [hdecode]
    rfl

/-- What the encoder of the blocks takes. -/
lemma encodePcmMessage_ok {chunk : AudioChunk} {sequence : UInt64} {message : Bytes}
    (h : encodePcmMessage library chunk sequence = .ok message) :
    chunk.wellFormed = true ∧ sequence ≠ 0 ∧ chunk.range.begin ≠ chunk.range.stop ∧
      chunk.sha256.availability = .known ∧ chunk.sha256.value = some (library.sha256 chunk.bytes) ∧
      library.print (metadata chunk) ≠ [] ∧
      8 + (library.print (metadata chunk)).length + chunk.bytes.length ≤ maxProtocolPayloadBytes := by
  unfold encodePcmMessage at h
  split at h
  · cases h
  rename_i hvalid
  split at h
  · cases h
  rename_i hknown
  split at h
  · cases h
  rename_i hdigest
  dsimp only at h
  split at h
  · cases h
  rename_i htext
  split at h
  · cases h
  rename_i hsize
  simp only [not_or,not_not,Nat.not_lt,Bool.not_eq_true',Bool.not_eq_false] at hvalid hknown hdigest htext hsize
  exact ⟨hvalid.1,hvalid.2.1,hvalid.2.2,hknown.1,hdigest,htext.1,hsize⟩

lemma readsAs_audioChunk {chunk : AudioChunk} {sequence : UInt64} {message : Bytes}
    (hread : Content.Readable library (.audioChunk chunk)) (h : encodePcmMessage library chunk sequence = .ok message) :
    ReadsAs library parseObservationField .audioChunk sequence message (.audioChunk (receivedChunk chunk)) := by
  obtain ⟨hwell,hsequence,hrange,hknown,hdigest,htext,hsize⟩ := encodePcmMessage_ok h
  have hordered := (Audio.SampleFrameRange.wellFormed_iff.mp (Audio.AudioChunk.wellFormed_iff.mp hwell).2.1.1).2.2
  have hmessage := h.symm.trans (encodePcmMessage_eq hwell hknown hdigest hrange htext hsize hsequence)
  cases hmessage
  have hlength := length_pcmPayload (library.print (metadata chunk)) chunk.bytes
  unfold pcmMessage
  refine readsAs_header (by omega) rfl hsequence ?_
  change (decodePcmMessage library (pcmMessage (library.print (metadata chunk)) chunk.bytes sequence)
    sequence).toOption.map Arrived.audioChunk = _
  rw [decode_pcmMessage hsize hsequence,
    decodePayload_pcmPayload hwell hread.1 hknown hdigest (by omega) htext hsize hread.2]
  rfl

lemma frameStatus_ok {document : Check.Toml} {sequence : UInt64} {message : Bytes}
    (h : frameStatus library.toTomlText document sequence = .ok message) :
    sequence ≠ 0 ∧ ∃ payload : Bytes, (0 < payload.length ∧ payload.length ≤ maxProtocolPayloadBytes) ∧
      message = encodeProtocolHeader ⟨.sessionStatus,payload.length,2,sequence.toNat⟩ ++ payload := by
  unfold frameStatus at h
  split at h
  · cases h
  rename_i hsequence
  dsimp only at h
  split at h
  · cases h
  rename_i hpayload
  cases h
  obtain ⟨hnonempty,hlimit⟩ := not_or.mp hpayload
  exact ⟨hsequence,_,⟨List.length_pos_iff.mpr hnonempty,Nat.not_lt.mp hlimit⟩,rfl⟩

lemma readsAs_sessionStatus {status : SessionStatus} {sequence : UInt64} {message : Bytes}
    (hread : Content.Readable library (.sessionStatus status))
    (h : status.encode library.toTomlText sequence = .ok message) :
    ReadsAs library parseObservationField .sessionStatus sequence message (.sessionStatus status) := by
  have hframed : frameStatus library.toTomlText status.document sequence = .ok message := by
    cases status with
    | replayState state =>
      change (if _ then _ else _) = _ at h
      split at h
      · cases h
      · exact h
    | runOpened opened =>
      change (if _ then _ else _) = _ at h
      split at h
      · cases h
      · exact h
  obtain ⟨hsequence,payload,hpayload,hmessage⟩ := frameStatus_ok hframed
  have hdecode := decodeSessionStatus_encode hread h
  subst hmessage
  refine readsAs_header hpayload rfl hsequence ?_
  change (decodeSessionStatus library.toTomlText _ sequence).toOption.map Arrived.sessionStatus = _
  rw [hdecode]
  rfl

lemma readsAs_terminal {result : ReplayExecutionResult} {sequence : UInt64} {message : Bytes}
    (hread : Content.Readable library (.terminal result))
    (h : encodeReplayExecutionResult library.toTomlText result sequence = .ok message) :
    ReadsAs library parseObservationField .terminal sequence message (.terminal result.received) := by
  have hdecode := decode_encode hread.1 hread.2.2 h
  rw [if_pos hread.2.1] at hdecode
  unfold encodeReplayExecutionResult at h
  split at h
  · split at h
    · cases h
    rename_i hvalid
    dsimp only at h
    split at h
    · cases h
    rename_i hpayload
    cases h
    obtain ⟨hnonempty,hlimit⟩ := not_or.mp hpayload
    refine readsAs_header ⟨List.length_pos_iff.mpr hnonempty,Nat.not_lt.mp hlimit⟩ rfl (not_or.mp hvalid).2 ?_
    change (decodeReplayExecutionResult library.toTomlText _ sequence).toOption.map Arrived.terminal = _
    rw [hdecode]
    rfl
  · cases h

lemma eq_ok_of_toOption {ε α : Type} {result : Except ε α} {value : α} (h : result.toOption = some value) :
    result = .ok value := by
  cases result with
  | error => cases h
  | ok => exact congrArg Except.ok (Option.some.inj h)

def Content.type : Content → MessageType
  | .factBatch _ => .factBatch
  | .audioChunk _ => .audioChunk
  | .sessionStatus _ => .sessionStatus
  | .terminal _ => .terminal

/-- Every content that was encoded is decoded. -/
lemma readsAs_content {content : Content} {sequence : ℕ} {message : Bytes} (hread : content.Readable library)
    (h : content.encode library (encodeText library) sequence = some message) :
    ReadsAs library parseObservationField content.type (UInt64.ofNat sequence) message content.arrived := by
  cases content with
  | factBatch facts => exact readsAs_factBatch hread (eq_ok_of_toOption h)
  | audioChunk chunk => exact readsAs_audioChunk hread (eq_ok_of_toOption h)
  | sessionStatus status => exact readsAs_sessionStatus hread (eq_ok_of_toOption h)
  | terminal result => exact readsAs_terminal hread (eq_ok_of_toOption h)

/-- A type that does not come while the Runtime stays paused is refused before it is decoded, or after. -/
lemma take_not_admitted {visible stored : Bool} {stage : Stage} {content : Content}
    (h : stage.admits content.type = false) :
    stage.take visible stored content.arrived = .error .evidenceStreamInvalid := by
  cases stage with
  | playing => cases h
  | ended =>
    cases content with
    | audioChunk => rfl
    | factBatch | sessionStatus | terminal => cases h

variable {visible : Bool} {stored : ℕ → Bool}

/-- The loop makes of the messages what it makes of their contents: it refuses none for how it is written. -/
lemma readMessages_wire {stage : Stage} {sequence : ℕ} {contents : List Content} {messages : List Bytes}
    (hread : ∀ content ∈ contents, content.Readable library)
    (h : Wire library (encodeText library) sequence contents messages) :
    readMessages library (decodeText parseObservationField library) visible stored stage sequence messages =
      follow visible stored stage sequence (contents.map Content.arrived) := by
  induction contents generalizing stage sequence messages with
  | nil =>
    obtain rfl : messages = [] := h
    rfl
  | cons content contents ih =>
    obtain ⟨message,later,rfl,hmessage,hlater⟩ := h
    obtain ⟨hcontent,hcontents⟩ := List.forall_mem_cons.mp hread
    have hone := @readsAs_content library parseObservationField _ _ _ hcontent hmessage stage
    rw [readMessages,List.map_cons,follow,hone]
    cases hadmits : stage.admits content.type with
    | false =>
      rw [if_neg Bool.false_ne_true,take_not_admitted hadmits]
    | true =>
      rw [if_pos rfl]
      dsimp only
      cases stage.take visible (stored sequence) content.arrived with
      | error error => rfl
      | ok reading =>
        cases reading with
        | waiting next =>
          dsimp only
          rw [ih hcontents hlater]
        | closed => rfl
        | refused error => rfl

end Delivery

section Loop
variable {visible : Bool} {stored : ℕ → Bool}

lemma take_ok {stored : Bool} {stage : Stage} {arrived : Arrived} {reading : Reading}
    (h : stage.take visible stored arrived = .ok reading) : (∃ next, reading = .waiting next) ∨
      reading = .closed ∧ ∃ result, arrived = .terminal result ∧ (result.endedPaused = false ∨ visible = false) := by
  cases stage with
  | playing =>
    cases arrived with
    | factBatch | audioChunk =>
      cases h
      exact Or.inl ⟨_,rfl⟩
    | sessionStatus status =>
      cases status with
      | replayState =>
        cases h
        exact Or.inl ⟨_,rfl⟩
      | runOpened => cases h
    | terminal result =>
      rw [Stage.take] at h
      split_ifs at h with hstored hends
      · cases h
        rw [Bool.or_eq_true,Bool.not_eq_true',Bool.not_eq_true'] at hends
        exact Or.inr ⟨rfl,result,rfl,hends⟩
      · cases h
        exact Or.inl ⟨_,rfl⟩
  | ended inspection =>
    cases arrived with
    | factBatch =>
      rw [Stage.take] at h
      split_ifs at h
      cases h
      exact Or.inl ⟨_,rfl⟩
    | audioChunk => cases h
    | sessionStatus status =>
      cases status with
      | replayState =>
        cases h
        exact Or.inl ⟨_,rfl⟩
      | runOpened =>
        rw [Stage.take] at h
        split_ifs at h
        cases h
        exact Or.inl ⟨_,rfl⟩
    | terminal =>
      rw [Stage.take] at h
      split_ifs at h
      cases h
      exact Or.inl ⟨_,rfl⟩

/-- The loop reads on from a stage: one message after another, until it ends or refuses one. -/
lemma follow_follows (stage : Stage) (sequence : ℕ) (arrivals : List Arrived) :
    Follows visible stored stage sequence arrivals (follow visible stored stage sequence arrivals) := by
  induction arrivals generalizing stage sequence with
  | nil =>
    exact ⟨List.prefix_refl _,fun _ _ => rfl,fun h => Reading.noConfusion h,fun _ h => Reading.noConfusion h⟩
  | cons arrived later ih =>
    cases htake : stage.take visible (stored sequence) arrived with
    | error error =>
      have hread : follow visible stored stage sequence (arrived :: later) = ([],.refused error) := by
        rw [follow,htake]
      rw [hread]
      refine ⟨List.nil_prefix,fun _ h => Reading.noConfusion h,fun h => Reading.noConfusion h,fun other hother => ?_⟩
      cases hother
      exact ⟨stage,arrived,later,rfl,rfl,htake⟩
    | ok reading =>
      obtain ⟨next,rfl⟩ | ⟨rfl,result,rfl,hends⟩ := take_ok htake
      · have hread : ∀ rest, follow visible stored stage sequence (arrived :: rest) =
            (arrived :: (follow visible stored next (sequence + 1) rest).1,
              (follow visible stored next (sequence + 1) rest).2) := by
          intro rest
          rw [follow,htake]
        obtain ⟨hordered,hwaiting,hclosed,hrefused⟩ := ih next (sequence + 1)
        rw [hread]
        refine ⟨List.cons_prefix_cons.mpr ⟨rfl,hordered⟩,fun last hlast => congrArg _ (hwaiting last hlast),fun h => ?_,
          fun error herror => ?_⟩
        · obtain ⟨before,result,hbefore,hends⟩ := hclosed h
          exact ⟨arrived :: before,result,congrArg _ hbefore,hends⟩
        · obtain ⟨last,refused,rest,hrest,hfollow,hlast⟩ := hrefused error herror
          refine ⟨last,refused,rest,congrArg _ hrest,?_,?_⟩
          · rw [hread,hfollow]
          · rwa [List.length_cons,Nat.add_comm _ 1,← Nat.add_assoc]
      · have hread : follow visible stored stage sequence (.terminal result :: later) =
            ([.terminal result],.closed) := by
          rw [follow,htake]
        rw [hread]
        exact ⟨List.prefix_append [_] later,fun _ h => Reading.noConfusion h,fun _ => ⟨[],result,rfl,hends⟩,
          fun _ h => Reading.noConfusion h⟩

end Loop

section Blocks
variable {library : Audio.PcmLibrary} {takes : ℕ → Bool} {writer : StreamingWriter}

/-- The bytes that were counted leave room for one more block. -/
def Roomy (writer : StreamingWriter) : Prop := writer.pcmBytes + maxProtocolPayloadBytes ≤ Audio.maxUInt64

/-- What a call did to the PCM side: it sent one block, or none, under the next sequence. -/
structure Forwards (library : Audio.PcmLibrary) (writer next : StreamingWriter) (block : Option AudioChunk) : Prop where
  encoded : ∀ chunk ∈ block, Audio.encodePcmMessage library chunk writer.sequence = .ok ⟨writer.sequence,chunk⟩
  sent : next.sent = writer.sent ++ block.toList.map fun chunk => ⟨writer.sequence,chunk⟩
  sequence : next.sequence = writer.sequence + block.toList.length
  bytes : next.pcmBytes ≤ writer.pcmBytes + maxProtocolPayloadBytes * block.toList.length

lemma forwards_none {next : StreamingWriter} (hsent : next.sent = writer.sent)
    (hsequence : next.sequence = writer.sequence)
    (hbytes : next.pcmBytes = writer.pcmBytes) : Forwards library writer next none :=
  ⟨fun _ h => absurd h (Option.not_mem_none _),hsent.trans (List.append_nil _).symm,hsequence,hbytes.le⟩

lemma encoded_size {chunk : AudioChunk} {sequence : ℕ} {message : PcmMessage}
    (h : Audio.encodePcmMessage library chunk sequence = .ok message) :
    message = ⟨sequence,chunk⟩ ∧ chunk.bytes.length ≤ maxProtocolPayloadBytes := by
  unfold Audio.encodePcmMessage Audio.payloadBytes at h
  split at h
  · cases h
  split at h
  · cases h
  split at h
  · cases h
  split at h
  · cases h
  split at h
  · cases h
  rename_i hsize
  cases h
  have hmax : Audio.maxProtocolPayloadBytes = maxProtocolPayloadBytes := rfl
  exact ⟨rfl,by omega⟩

lemma flushPcm_forwards (hroom : Roomy writer) :
    ∃ block, Forwards library writer (writer.flushPcm library takes).1 block := by
  unfold StreamingWriter.flushPcm
  cases writer.pendingPcm with
  | none => exact ⟨none,forwards_none rfl rfl rfl⟩
  | some pending =>
    dsimp only
    cases hencoded : Audio.encodePcmMessage library (Audio.sealChunk library pending) writer.sequence with
    | error error => exact ⟨none,forwards_none rfl rfl rfl⟩
    | ok message =>
      obtain ⟨rfl,hsize⟩ := encoded_size hencoded
      dsimp only
      unfold Roomy at hroom
      rw [if_neg (show ¬Audio.maxUInt64 - writer.pcmBytes < (Audio.sealChunk library pending).bytes.length by omega)]
      split_ifs with htakes
      · exact ⟨none,forwards_none rfl rfl rfl⟩
      · refine ⟨some (Audio.sealChunk library pending),fun chunk hchunk => ?_,rfl,rfl,?_⟩
        · cases hchunk
          exact hencoded
        · change writer.pcmBytes + _ ≤ writer.pcmBytes + maxProtocolPayloadBytes * 1
          omega

lemma joinPending_forwards (hroom : Roomy writer) (chunk : AudioChunk) :
    ∃ block, Forwards library writer (writer.joinPending library takes chunk).1 block := by
  unfold StreamingWriter.joinPending
  cases writer.pendingPcm with
  | none => exact ⟨none,forwards_none rfl rfl rfl⟩
  | some pending =>
    dsimp only
    split_ifs
    · exact ⟨none,forwards_none rfl rfl rfl⟩
    · obtain ⟨block,hencoded,hsent,hsequence,hbytes⟩ := @flushPcm_forwards library takes writer hroom
      split
      · rename_i heq
        rw [heq] at hsent hsequence hbytes
        exact ⟨block,hencoded,hsent,hsequence,hbytes⟩
      · rename_i heq
        rw [heq] at hsent hsequence hbytes
        exact ⟨block,hencoded,hsent,hsequence,hbytes⟩

lemma consumePcm_forwards (hroom : Roomy writer) (view : PcmView) :
    ∃ block, Forwards library writer (writer.consumePcm library takes view).1 block := by
  unfold StreamingWriter.consumePcm
  split_ifs
  · exact ⟨none,forwards_none rfl rfl rfl⟩
  · dsimp only
    cases Audio.copyReplayTracePcm library writer.runId view with
    | none => exact ⟨none,forwards_none rfl rfl rfl⟩
    | some copied =>
      dsimp only
      split
      · exact ⟨none,forwards_none rfl rfl rfl⟩
      · exact ⟨none,forwards_none rfl rfl rfl⟩
      · rename_i chunk hchunk
        have hopened : Roomy { writer with
            segmentStarts := (Audio.openSegments writer.consumedPcm writer.segmentStarts writer.segment).1
            segment := (Audio.openSegments writer.consumedPcm writer.segmentStarts writer.segment).2
            consumedPcm := writer.consumedPcm + 1 } := hroom
        obtain ⟨block,hencoded,hsent,hsequence,hbytes⟩ := @joinPending_forwards library takes _ hopened chunk
        split
        · rename_i heq
          rw [heq] at hsent hsequence hbytes
          exact ⟨block,hencoded,hsent,hsequence,hbytes⟩
        · rename_i heq
          rw [heq] at hsent hsequence hbytes
          exact ⟨block,hencoded,hsent,hsequence,hbytes⟩

end Blocks

section Effects
variable {library : PcmLibrary} {identify : ℕ → AudioChunk → Bytes} {takes channel : ℕ → Bool}
  {encodeFact : Binary.Fact → Except FactBatchError Bytes} {writer middle next : ObservationWriter}
  {contents later : List Content}

/-- What the channel took while a writer went on, of what it was given: the facts in their order and the others as they
came, each under the next sequence. -/
structure Effect (library : PcmLibrary) (encodeFact : Binary.Fact → Except FactBatchError Bytes)
    (writer next : ObservationWriter) (contents : List Content) (facts : List Binary.Fact)
    (statuses : List SessionStatus)
    (terminals : List ReplayExecutionResult) : Prop where
  messages : ∃ messages, next.sent.map (sentBytes library) = writer.sent.map (sentBytes library) ++ messages.map some ∧
    Wire library encodeFact writer.sequence contents messages
  sequence : next.sequence = writer.sequence + contents.length
  bytes : next.pcm.pcmBytes ≤ writer.pcm.pcmBytes + maxProtocolPayloadBytes * contents.length
  chunks : next.pcm.sentChunks = writer.pcm.sentChunks ++ contents.flatMap Content.chunks
  kept : next.valid = true → writer.valid = true ∧ contents.flatMap Content.facts ++ next.facts = writer.facts ++ facts
  ordered : contents.flatMap Content.facts <+: writer.facts ++ facts
  silent : writer.valid = false → contents.flatMap Content.facts = []
  statuses : (contents.flatMap Content.statuses).Sublist statuses
  terminals : (contents.flatMap Content.terminals).Sublist terminals

lemma effect_refl (writer : ObservationWriter) (facts : List Binary.Fact) (statuses : List SessionStatus)
    (terminals : List ReplayExecutionResult) {next : ObservationWriter} (hsent : next.sent = writer.sent)
    (hsequence : next.sequence = writer.sequence) (hbytes : next.pcm.pcmBytes = writer.pcm.pcmBytes)
    (hchunks : next.pcm.sent = writer.pcm.sent)
    (hkept : next.valid = true → writer.valid = true ∧ next.facts = writer.facts ++ facts) :
    Effect library encodeFact writer next [] facts statuses terminals where
  messages := ⟨[],by rw [hsent]; exact (List.append_nil _).symm,rfl⟩
  sequence := hsequence
  bytes := hbytes.le
  chunks := by
    unfold StreamingWriter.sentChunks
    rw [hchunks]
    exact (List.append_nil _).symm
  kept := hkept
  ordered := List.nil_prefix
  silent _ := rfl
  statuses := List.nil_sublist _
  terminals := List.nil_sublist _

lemma wire_length {sequence : ℕ} {messages : List Bytes} (h : Wire library encodeFact sequence contents messages) :
    messages.length = contents.length := by
  induction contents generalizing sequence messages with
  | nil =>
    obtain rfl : messages = [] := h
    rfl
  | cons content contents ih =>
    obtain ⟨message,later,rfl,-,hlater⟩ := h
    exact congrArg (· + 1) (ih hlater)

lemma Effect.length {facts : List Binary.Fact} {statuses : List SessionStatus} {terminals : List ReplayExecutionResult}
    (h : Effect library encodeFact writer next contents facts statuses terminals) :
    next.sent.length = writer.sent.length + contents.length := by
  obtain ⟨messages,hsent,hwire⟩ := h.messages
  have hlength := congrArg List.length hsent
  rwa [List.length_append,List.length_map,List.length_map,List.length_map,wire_length hwire] at hlength

lemma Effect.trans {facts more : List Binary.Fact} {statuses others : List SessionStatus}
    {terminals ends : List ReplayExecutionResult}
    (h : Effect library encodeFact writer middle contents facts statuses terminals)
    (hlater : Effect library encodeFact middle next later more others ends) :
    Effect library encodeFact writer next (contents ++ later) (facts ++ more) (statuses ++ others)
      (terminals ++ ends) where
  messages := by
    obtain ⟨messages,hsent,hwire⟩ := h.messages
    obtain ⟨rest,hrest,hlast⟩ := hlater.messages
    refine ⟨messages ++ rest,?_,?_⟩
    · rw [hrest,hsent,List.append_assoc,List.map_append]
    · rw [h.sequence] at hlast
      exact wire_append hwire hlast
  sequence := by rw [hlater.sequence,h.sequence,List.length_append,Nat.add_assoc]
  bytes := by
    have hfirst := h.bytes
    have hlast := hlater.bytes
    rw [List.length_append,Nat.mul_add]
    omega
  chunks := by rw [hlater.chunks,h.chunks,List.flatMap_append,List.append_assoc]
  kept hvalid := by
    obtain ⟨hmiddle,hlast⟩ := hlater.kept hvalid
    obtain ⟨hwriter,hfirst⟩ := h.kept hmiddle
    refine ⟨hwriter,?_⟩
    rw [List.flatMap_append,List.append_assoc,hlast,← List.append_assoc,hfirst,List.append_assoc]
  ordered := by
    rw [List.flatMap_append]
    cases hmiddle : middle.valid with
    | true =>
      rw [← List.append_assoc,← (h.kept hmiddle).2,List.append_assoc]
      exact (List.prefix_append_right_inj _).mpr hlater.ordered
    | false =>
      rw [hlater.silent hmiddle,List.append_nil,← List.append_assoc]
      exact h.ordered.trans (List.prefix_append _ _)
  silent hinvalid := by
    have hmiddle : middle.valid = false := by
      by_contra hvalid
      have hwriter := (h.kept (Bool.not_eq_false _ ▸ hvalid)).1
      rw [hinvalid] at hwriter
      cases hwriter
    rw [List.flatMap_append,h.silent hinvalid,hlater.silent hmiddle,List.append_nil]
  statuses := by
    rw [List.flatMap_append]
    exact h.statuses.append hlater.statuses
  terminals := by
    rw [List.flatMap_append]
    exact h.terminals.append hlater.terminals

/-- The channel of the audio takes the bytes of the block. -/
lemma encodePcmMessage_bytes {chunk : AudioChunk} {sequence : ℕ} {message : PcmMessage} (hlong : sequence < 2 ^ 64)
    (h : Audio.encodePcmMessage (library.sized identify) chunk sequence = .ok message) :
    ∃ bytes, encodePcmMessage library chunk (UInt64.ofNat sequence) = .ok bytes := by
  have hsequence : (UInt64.ofNat sequence).toNat = sequence := by
    rw [UInt64.toNat_ofNat',Nat.mod_eq_of_lt hlong]
  have hrefines := @encodePcmMessage_refines library identify chunk (UInt64.ofNat sequence)
  rw [hsequence,h] at hrefines
  cases hencode : encodePcmMessage library chunk (UInt64.ofNat sequence) with
  | error error =>
    rw [hencode] at hrefines
    cases hrefines
  | ok bytes => exact ⟨bytes,rfl⟩

/-- What the PCM side sends goes to the channel in its place. -/
lemma onPcm_effect (hlong : writer.sequence < 2 ^ 64) {result : StreamingWriter × Bool} {block : Option AudioChunk}
    (h : Forwards (library.sized identify) writer.pcm result.1 block)
    (hvalid : result.1.valid = true → writer.valid = true) :
    Effect library encodeFact writer (writer.onPcm result).1 (block.toList.map .audioChunk) [] [] [] where
  messages := by
    change ∃ messages, (writer.sent ++ (result.1.sent.drop writer.pcm.sent.length).map Sent.audioChunk).map _ = _ ∧ _
    rw [h.sent,List.drop_left,List.map_append]
    cases block with
    | none => exact ⟨[],rfl,rfl⟩
    | some chunk =>
      obtain ⟨bytes,hbytes⟩ := encodePcmMessage_bytes hlong (h.encoded chunk rfl)
      have hencoded : (encodePcmMessage library chunk (UInt64.ofNat writer.sequence)).toOption = some bytes := by
        rw [hbytes]
        rfl
      refine ⟨[bytes],congrArg (_ ++ [·]) ?_,bytes,[],rfl,hencoded,rfl⟩
      exact hencoded
  sequence := by
    change result.1.sequence = _
    rw [h.sequence,List.length_map]
    rfl
  bytes := by
    rw [List.length_map]
    exact h.bytes
  chunks := by
    change result.1.sent.map _ = _
    rw [h.sent,List.map_append]
    cases block <;> rfl
  kept hnext := ⟨hvalid hnext,by cases block <;> exact (List.append_nil _).symm⟩
  ordered := by cases block <;> exact List.nil_prefix
  silent _ := by cases block <;> rfl
  statuses := by cases block <;> exact List.nil_sublist _
  terminals := by cases block <;> exact List.nil_sublist _

/-- Some batches of the buffer were sent; the facts behind them are still in the buffer, or the writer gave up. -/
lemma batches_effect {batches : List (List Binary.Fact)} {messages : List Bytes} {rest : List Binary.Fact}
    (hmessages : Encodes (encodeFactBatch encodeFact) writer.sequence batches messages)
    (hsent : next.sent = writer.sent ++ messages.map Sent.factBatch)
    (hsequence : next.sequence = writer.sequence + batches.length) (hbytes : next.pcm.pcmBytes = writer.pcm.pcmBytes)
    (hchunks : next.pcm.sent = writer.pcm.sent) (hcovers : batches.flatten ++ rest = writer.facts)
    (hvalid : writer.valid = true) (hkept : next.valid = true → next.facts = rest) :
    Effect library encodeFact writer next (batches.map .factBatch) [] [] [] := by
  have hfacts : (batches.map Content.factBatch).flatMap Content.facts = batches.flatten := by
    rw [List.flatMap_map,← List.flatMap_id]
    rfl
  have hnone : ∀ {α : Type} (part : Content → List α), (∀ batch, part (.factBatch batch) = []) →
      (batches.map Content.factBatch).flatMap part = [] := by
    intro α part hpart
    rw [List.flatMap_map,List.flatMap_eq_nil_iff]
    exact fun batch _ => hpart batch
  refine ⟨⟨messages,?_,wire_factBatches hmessages⟩,?_,?_,?_,fun hnext => ⟨hvalid,?_⟩,?_,fun hinvalid => ?_,?_,?_⟩
  · rw [hsent,List.map_append,List.map_map]
    rfl
  · rw [hsequence,List.length_map]
  · rw [hbytes]
    exact Nat.le_add_right _ _
  · unfold StreamingWriter.sentChunks
    rw [hchunks,hnone Content.chunks fun _ => rfl,List.append_nil]
  · rw [hfacts,hkept hnext,hcovers,List.append_nil]
  · rw [hfacts,← hcovers,List.append_nil]
    exact List.prefix_append _ _
  · rw [hvalid] at hinvalid
    cases hinvalid
  · rw [hnone Content.statuses fun _ => rfl]
  · rw [hnone Content.terminals fun _ => rfl]

lemma sendBatch_pcm {batch : List Binary.Fact} {failure : Binary.Streaming.BatchFailure}
    (h : writer.sendBatch channel (encodeFactBatch encodeFact) batch = .failed next failure) :
    next.pcm = { writer.pcm with valid := false } := by
  unfold ObservationWriter.sendBatch ObservationWriter.write at h
  cases hencode : encodeFactBatch encodeFact batch (UInt64.ofNat writer.sequence) with
  | error error =>
    rw [hencode] at h
    cases error <;> cases h <;> rfl
  | ok message =>
    rw [hencode] at h
    dsimp only at h
    split_ifs at h
    cases h
    rfl

/-- A flush of the facts leaves what the PCM side has sent. -/
lemma flushUnlocked_pcm (audio : Audio.PcmLibrary) :
    (writer.flushUnlocked audio takes channel (encodeFactBatch encodeFact) false).1.pcm.sent = writer.pcm.sent ∧
      (writer.flushUnlocked audio takes channel (encodeFactBatch encodeFact) false).1.pcm.pcmBytes =
        writer.pcm.pcmBytes := by
  have hsplits := Splitting.split_splits (ObservationWriter.sendBatch channel (encodeFactBatch encodeFact))
    (fun _ hcount => hcount) writer writer.facts
  have htaken : ∀ {batches : List (List Binary.Fact)} {last : ObservationWriter},
      Splitting.Takes (ObservationWriter.sendBatch channel (encodeFactBatch encodeFact)) writer batches last →
      last.pcm.sent = writer.pcm.sent ∧ last.pcm.pcmBytes = writer.pcm.pcmBytes := by
    intro batches last hlast
    have hsent := Binary.Streaming.sentBatches_of_takes hlast
    rw [hsent.pcm]
    exact ⟨rfl,rfl⟩
  unfold ObservationWriter.flushUnlocked
  split
  · exact ⟨rfl,rfl⟩
  · split
    · rename_i last failure houtcome
      rw [houtcome] at hsplits
      obtain ⟨batches,batch,rest,middle,-,hmiddle,-,-,hfailed⟩ := hsplits
      rw [sendBatch_pcm hfailed]
      exact htaken hmiddle
    · rename_i last houtcome
      rw [houtcome] at hsplits
      obtain ⟨batches,fact,rest,-,hlast,-⟩ := hsplits
      change last.pcm.sent = _ ∧ last.pcm.pcmBytes = _
      exact htaken hlast
    · rename_i last houtcome
      rw [houtcome] at hsplits
      obtain ⟨batches,-,hlast⟩ := hsplits
      change last.pcm.sent = _ ∧ last.pcm.pcmBytes = _
      exact htaken hlast

/-- The PCM side is never valid again. -/
lemma flushPcm_valid {audio : Audio.PcmLibrary} {pcm : StreamingWriter}
    (h : (pcm.flushPcm audio takes).1.valid = true) :
    pcm.valid = true := by
  unfold StreamingWriter.flushPcm at h
  cases hpending : pcm.pendingPcm with
  | none =>
    rw [hpending] at h
    exact h
  | some pending =>
    rw [hpending] at h
    dsimp only at h
    cases hencoded : Audio.encodePcmMessage audio (Audio.sealChunk audio pending) pcm.sequence with
    | error error =>
      rw [hencoded] at h
      cases h
    | ok message =>
      rw [hencoded] at h
      dsimp only at h
      split_ifs at h
      exact h

lemma consumePcm_valid {audio : Audio.PcmLibrary} {pcm : StreamingWriter} {view : PcmView}
    (h : (pcm.consumePcm audio takes view).1.valid = true) : pcm.valid = true := by
  by_contra hvalid
  rw [Binary.Streaming.consumePcm_invalid audio takes (Bool.eq_false_of_not_eq_true hvalid)] at h
  exact hvalid h

lemma flush_effect (hlong : writer.valid = true → writer.sequence + writer.facts.length < 2 ^ 64)
    (hroom : Roomy writer.pcm)
    (finalizePcm : Bool) :
    ∃ contents, Effect library encodeFact writer
      (writer.flushUnlocked (library.sized identify) takes channel (encodeFactBatch encodeFact) finalizePcm).1
      contents [] [] [] := by
  cases hvalid : writer.valid with
  | false =>
    rw [ObservationWriter.flushUnlocked_invalid _ _ _ _ hvalid]
    exact ⟨[],effect_refl writer [] [] [] rfl rfl rfl rfl fun h => ⟨h,(List.append_nil _).symm⟩⟩
  | true =>
    obtain ⟨middle,hflushed,hresult⟩ | ⟨last,hunflushed,hresult⟩ :=
      ObservationWriter.flushUnlocked_cases (library.sized identify) takes channel (encodeFactBatch encodeFact) hvalid
    · obtain ⟨batches,hcovers,⟨messages,hmessages,hsent⟩,hnonempty,hpcm,-⟩ := hflushed.covers
      have hbatches : Effect library encodeFact writer middle (batches.map .factBatch) [] [] [] := by
        refine batches_effect hmessages hsent (congrArg StreamingWriter.sequence hpcm) (by rw [hpcm]) (by rw [hpcm]) ?_
          hvalid fun _ => hflushed.facts
        rw [List.append_nil]
        exact hcovers
      rw [hresult]
      cases finalizePcm with
      | false => exact ⟨_,hbatches⟩
      | true =>
        have hroom' : Roomy middle.pcm := by
          rw [hpcm]
          exact hroom
        have hlong' : middle.sequence < 2 ^ 64 := by
          have hfew : batches.length ≤ writer.facts.length := by
            rw [← hcovers,List.length_flatten]
            calc batches.length = (batches.map fun _ => 1).sum := by simp
              _ ≤ (batches.map List.length).sum :=
                List.sum_le_sum fun batch hbatch => List.length_pos_iff.mpr (hnonempty batch hbatch)
          have hmany := hlong hvalid
          rw [hbatches.sequence,List.length_map]
          omega
        obtain ⟨block,hblock⟩ := @flushPcm_forwards (library.sized identify) takes middle.pcm hroom'
        exact ⟨_,hbatches.trans (onPcm_effect hlong' hblock flushPcm_valid)⟩
    · obtain ⟨batches,batch,rest,messages,hcovers,-,hmessages,hsent,hsequence,-⟩ := hunflushed.cause
      obtain ⟨hchunks,hbytes⟩ := @flushUnlocked_pcm takes channel encodeFact writer (library.sized identify)
      rw [hresult] at hchunks hbytes ⊢
      refine ⟨_,batches_effect hmessages hsent hsequence hbytes hchunks hcovers hvalid fun hnext => ?_⟩
      rw [hunflushed.valid] at hnext
      cases hnext

lemma pushFact_effect (hlong : writer.valid = true → writer.sequence + writer.facts.length + 1 < 2 ^ 64)
    (hroom : Roomy writer.pcm) (fact : Binary.Fact) :
    ∃ contents, Effect library encodeFact writer
      (writer.pushFact (library.sized identify) takes channel (encodeFactBatch encodeFact) fact).1
      contents [fact] [] [] := by
  unfold ObservationWriter.pushFact
  split
  · rename_i hinvalid
    refine ⟨[],effect_refl writer [fact] [] [] rfl rfl rfl rfl fun hvalid => ?_⟩
    rw [hvalid] at hinvalid
    cases hinvalid
  · rename_i hvalid
    have hbuffered : Effect library encodeFact writer
        { writer with facts := writer.facts ++ [fact], factCount := writer.factCount + 1 } [] [fact] [] [] :=
      effect_refl writer [fact] [] [] rfl rfl rfl rfl fun h => ⟨h,rfl⟩
    dsimp only
    split
    · have hmore : writer.valid = true → ObservationWriter.sequence
          { writer with facts := writer.facts ++ [fact], factCount := writer.factCount + 1 } +
          (writer.facts ++ [fact]).length < 2 ^ 64 := by
        rw [List.length_append,List.length_singleton,← Nat.add_assoc]
        exact hlong
      obtain ⟨contents,hflush⟩ := @flush_effect library identify takes channel encodeFact
        { writer with facts := writer.facts ++ [fact], factCount := writer.factCount + 1 } hmore hroom false
      exact ⟨contents,hbuffered.trans hflush⟩
    · exact ⟨[],hbuffered⟩

lemma write_effect {content : Content} {message : Bytes} {sent : Sent}
    (hencode : content.encode library encodeFact writer.sequence = some message)
    (hsent : sentBytes library sent = some message)
    (hfacts : content.facts = []) (hchunks : content.chunks = []) :
    ∃ contents, Effect library encodeFact writer (writer.write channel sent).1 contents [] content.statuses
      content.terminals := by
  unfold ObservationWriter.write
  split_ifs
  · refine ⟨[content],⟨[message],?_,message,[],rfl,hencode,rfl⟩,rfl,Nat.le_add_right _ _,?_,
      fun hvalid => ⟨hvalid,?_⟩,?_,
      fun _ => ?_,?_,?_⟩
    · rw [List.map_append,List.map_singleton,hsent]
      rfl
    · rw [List.flatMap_singleton,hchunks,List.append_nil]
      rfl
    · rw [List.flatMap_singleton,hfacts,List.append_nil]
      rfl
    · rw [List.flatMap_singleton,hfacts]
      exact List.nil_prefix
    · rw [List.flatMap_singleton,hfacts]
    · rw [List.flatMap_singleton]
    · rw [List.flatMap_singleton]
  · exact ⟨[],effect_refl writer [] _ _ rfl rfl rfl rfl fun hvalid => ⟨hvalid,(List.append_nil _).symm⟩⟩

lemma sendTerminal_effect {content : Content} {kind : Bytes → Sent}
    (hkind : ∀ message, sentBytes library (kind message) = some message) (hfacts : content.facts = [])
    (hchunks : content.chunks = []) :
    ∃ contents, Effect library encodeFact writer
      (writer.sendTerminal channel kind fun sequence => content.encode library encodeFact sequence).1
      contents [] content.statuses content.terminals := by
  unfold ObservationWriter.sendTerminal
  dsimp only
  cases hencode : content.encode library encodeFact writer.sequence with
  | none => exact ⟨[],effect_refl writer [] _ _ rfl rfl rfl rfl fun h => ⟨h,(List.append_nil _).symm⟩⟩
  | some message => exact write_effect hencode (hkind message) hfacts hchunks

lemma effect_same (writer : ObservationWriter) (statuses : List SessionStatus)
    (terminals : List ReplayExecutionResult) :
    Effect library encodeFact writer writer [] [] statuses terminals :=
  effect_refl writer [] statuses terminals rfl rfl rfl rfl fun h => ⟨h,(List.append_nil _).symm⟩

/-- What a call of the session does. -/
lemma call_effect (hlong : writer.sequence < 2 ^ 63) (hbuffers : Buffers writer) (hroom : Roomy writer.pcm)
    (made : SessionCall) :
    ∃ contents, Effect library encodeFact writer (writer.call (library.sized identify) takes channel
      (encodeFactBatch encodeFact) (made.writerCall library)).1 contents made.facts made.statuses made.terminals := by
  have hbuffered : writer.valid = true → writer.sequence + writer.facts.length + 1 < 2 ^ 64 := fun hvalid => by
    have hfew := hbuffers.buffered hvalid
    unfold Binary.Streaming.batchCapacity at hfew
    omega
  cases made with
  | consumeFact copied =>
    change ∃ contents, Effect library encodeFact writer (writer.consumeFact _ _ _ _ copied).1 contents
        copied.toList [] []
    unfold ObservationWriter.consumeFact
    split
    · rename_i hinvalid
      refine ⟨[],effect_refl writer _ [] [] rfl rfl rfl rfl fun hvalid => ?_⟩
      rw [hvalid] at hinvalid
      cases hinvalid
    · cases copied with
      | none => exact ⟨[],effect_refl writer _ [] [] rfl rfl rfl rfl fun hvalid => by cases hvalid⟩
      | some fact => exact pushFact_effect hbuffered hroom fact
  | pushFact fact => exact pushFact_effect hbuffered hroom fact
  | sendStatus status =>
    change ∃ contents, Effect library encodeFact writer (writer.sendStatus channel fun sequence =>
      (Content.sessionStatus status).encode library encodeFact sequence).1 contents [] [status] []
    unfold ObservationWriter.sendStatus
    split_ifs
    · exact ⟨[],effect_same writer _ _⟩
    · exact sendTerminal_effect (fun _ => rfl) rfl rfl
  | sendTerminal result =>
    change ∃ contents, Effect library encodeFact writer (writer.sendTerminal channel .terminal fun sequence =>
      (Content.terminal result).encode library encodeFact sequence).1 contents [] [] [result]
    exact sendTerminal_effect (fun _ => rfl) rfl rfl
  | beginSegment forwarded =>
    exact ⟨[],effect_refl writer [] [] [] rfl rfl rfl rfl fun h => ⟨h,(List.append_nil _).symm⟩⟩
  | consumePcm view =>
    obtain ⟨block,hblock⟩ := @consumePcm_forwards (library.sized identify) takes writer.pcm hroom view
    exact ⟨_,onPcm_effect (by omega) hblock consumePcm_valid⟩
  | flush finalizePcm => exact flush_effect (fun hvalid => Nat.lt_of_succ_lt (hbuffered hvalid)) hroom finalizePcm
  | setPcmLimit limit =>
    exact ⟨[],effect_refl writer [] [] [] rfl rfl rfl rfl fun h => ⟨h,(List.append_nil _).symm⟩⟩

end Effects

section Runs
variable {library : PcmLibrary} {identify : ℕ → AudioChunk → Bytes} {takes channel : ℕ → Bool}
  {encodeFact : Binary.Fact → Except FactBatchError Bytes}

lemma runWriter_snoc (runId : Bytes) (limit : ℕ) (calls : List SessionCall) (made : SessionCall) :
    runWriter library identify takes channel encodeFact runId limit (calls ++ [made]) =
      ((runWriter library identify takes channel encodeFact runId limit calls).call (library.sized identify) takes
        channel (encodeFactBatch encodeFact) (made.writerCall library)).1 := by
  unfold runWriter ObservationWriter.run ObservationWriter.calls
  rw [List.map_append,List.foldl_append]
  rfl

/-- What was sent stays sent. -/
lemma call_sent (writer : ObservationWriter) (made : SessionCall) :
    writer.sent <+: (writer.call (library.sized identify) takes channel (encodeFactBatch encodeFact)
      (made.writerCall library)).1.sent := by
  have hwrite : ∀ message, writer.sent <+: (writer.write channel message).1.sent := by
    intro message
    unfold ObservationWriter.write
    split_ifs
    · exact List.prefix_append _ _
    · exact List.prefix_refl _
  have hterminal : ∀ kind encode, writer.sent <+: (writer.sendTerminal channel kind encode).1.sent := by
    intro kind encode
    unfold ObservationWriter.sendTerminal
    split
    · exact List.prefix_refl _
    · exact hwrite _
  have hflush : ∀ (start : ObservationWriter) (finalizePcm : Bool), start.sent = writer.sent → writer.sent <+:
      (start.flushUnlocked (library.sized identify) takes channel (encodeFactBatch encodeFact) finalizePcm).1.sent := by
    intro start finalizePcm hstart
    rw [← hstart]
    cases hvalid : start.valid with
    | false => rw [ObservationWriter.flushUnlocked_invalid _ _ _ _ hvalid]
    | true =>
      obtain ⟨middle,hflushed,hresult⟩ | ⟨last,hunflushed,hresult⟩ :=
        ObservationWriter.flushUnlocked_cases (library.sized identify) takes channel (encodeFactBatch encodeFact) hvalid
      · obtain ⟨batches,-,⟨messages,-,hsent⟩,-⟩ := hflushed.covers
        rw [hresult]
        have hmiddle : start.sent <+: middle.sent := hsent ▸ List.prefix_append _ _
        cases finalizePcm with
        | false => exact hmiddle
        | true => exact hmiddle.trans (List.prefix_append _ _)
      · obtain ⟨batches,batch,rest,messages,-,-,-,hsent,-⟩ := hunflushed.cause
        rw [hresult,hsent]
        exact List.prefix_append _ _
  have hpush : ∀ fact, writer.sent <+:
      (writer.pushFact (library.sized identify) takes channel (encodeFactBatch encodeFact) fact).1.sent := by
    intro fact
    unfold ObservationWriter.pushFact
    split
    · exact List.prefix_refl _
    · dsimp only
      split
      · exact hflush _ false rfl
      · exact List.prefix_refl _
  cases made with
  | consumeFact copied =>
    change writer.sent <+: (writer.consumeFact _ _ _ _ copied).1.sent
    unfold ObservationWriter.consumeFact
    split
    · exact List.prefix_refl _
    · cases copied with
      | none => exact List.prefix_refl _
      | some fact => exact hpush fact
  | pushFact fact => exact hpush fact
  | sendStatus status =>
    change writer.sent <+: (writer.sendStatus channel _).1.sent
    unfold ObservationWriter.sendStatus
    split
    · exact List.prefix_refl _
    · exact hterminal _ _
  | sendTerminal result => exact hterminal _ _
  | beginSegment forwarded => exact List.prefix_refl _
  | consumePcm view => exact List.prefix_append _ _
  | flush finalizePcm => exact hflush writer finalizePcm rfl
  | setPcmLimit limit => exact List.prefix_refl _

/-- A run is the effect of its calls, as long as fewer messages are sent than bytes could be counted of. -/
lemma run_effect (runId : Bytes) (limit : ℕ) (calls : List SessionCall)
    (hlong : (runWriter library identify takes channel encodeFact runId limit calls).sent.length < 2 ^ 45) :
    ∃ contents, Effect library encodeFact (runWriter library identify takes channel encodeFact runId limit [])
      (runWriter library identify takes channel encodeFact runId limit calls) contents (calls.flatMap SessionCall.facts)
      (calls.flatMap SessionCall.statuses) (calls.flatMap SessionCall.terminals) := by
  induction calls using List.reverseRecOn with
  | nil => exact ⟨[],effect_same _ _ _⟩
  | append_singleton calls made ih =>
    rw [runWriter_snoc] at hlong ⊢
    have hbefore : (runWriter library identify takes channel encodeFact runId limit calls).sent.length < 2 ^ 45 :=
      (call_sent _ made).length_le.trans_lt hlong
    obtain ⟨contents,hcontents⟩ := ih hbefore
    have hcount : (runWriter library identify takes channel encodeFact runId limit calls).sent.length =
        contents.length :=
      hcontents.length.trans (Nat.zero_add _)
    have hsequence := hcontents.sequence
    have hbytes := hcontents.bytes
    change _ = 2 + _ at hsequence
    change _ ≤ 0 + _ at hbytes
    have hroom : Roomy (runWriter library identify takes channel encodeFact runId limit calls).pcm := by
      unfold Roomy Audio.maxUInt64
      unfold maxProtocolPayloadBytes protocolHeaderBytes at hbytes ⊢
      omega
    have hfew : (runWriter library identify takes channel encodeFact runId limit calls).sequence < 2 ^ 63 := by omega
    obtain ⟨later,hlater⟩ := @call_effect library identify takes channel encodeFact _ hfew
      (Binary.Streaming.run_buffers _ _ _ _ _ _ _) hroom made
    refine ⟨contents ++ later,?_⟩
    simp only [List.flatMap_append,List.flatMap_singleton]
    exact hcontents.trans hlater

/-- What the channel takes in a run holds the facts, the blocks, the statuses and the terminals that the session handed
over, each in the order in which it was, and the loop reads every message of them as what it holds, until it ends or
refuses one for its place. All facts but those of the buffer are there while the writer is valid, and every block that
the writer counts as sent. -/
theorem observations_delivered (parseObservationField : ℤ → Check.Toml → Option Binary.FactField) (visible : Bool)
    (stored : ℕ → Bool) (runId : Bytes) (limit : ℕ) (calls : List SessionCall)
    (hlong : (runWriter library identify takes channel (encodeText library) runId limit calls).sent.length < 2 ^ 45)
    (hfacts : ∀ fact ∈ calls.flatMap SessionCall.facts, FactReadable library fact)
    (hchunks : ∀ chunk ∈ (runWriter library identify takes channel (encodeText library) runId limit
      calls).pcm.sentChunks,
      (Content.audioChunk chunk).Readable library)
    (hstatuses : ∀ status ∈ calls.flatMap SessionCall.statuses, (Content.sessionStatus status).Readable library)
    (hterminals : ∀ result ∈ calls.flatMap SessionCall.terminals, (Content.terminal result).Readable library) :
    let writer := runWriter library identify takes channel (encodeText library) runId limit calls
    let read := readMessages library (decodeText parseObservationField library) visible stored .playing 2
    ∃ (contents : List Content) (messages : List Bytes), writer.sent.map (sentBytes library) = messages.map some ∧
      Follows visible stored .playing 2 (contents.map Content.arrived) (read messages) ∧
      contents.flatMap Content.facts <+: calls.flatMap SessionCall.facts ∧
      (writer.valid = true → contents.flatMap Content.facts ++ writer.facts = calls.flatMap SessionCall.facts) ∧
      contents.flatMap Content.chunks = writer.pcm.sentChunks ∧
      (contents.flatMap Content.statuses).Sublist (calls.flatMap SessionCall.statuses) ∧
      (contents.flatMap Content.terminals).Sublist (calls.flatMap SessionCall.terminals) := by
  intro writer read
  obtain ⟨contents,heffect⟩ := run_effect runId limit calls hlong
  obtain ⟨messages,hsent,hwire⟩ := heffect.messages
  change Wire library _ 2 contents messages at hwire
  have hordered : contents.flatMap Content.facts <+: calls.flatMap SessionCall.facts := heffect.ordered
  have hblocks : contents.flatMap Content.chunks = writer.pcm.sentChunks := heffect.chunks.symm
  have hread : ∀ content ∈ contents, content.Readable library := by
    intro content hcontent
    cases content with
    | factBatch facts =>
      exact fun fact hfact => hfacts fact (hordered.subset (List.mem_flatMap.mpr ⟨_,hcontent,hfact⟩))
    | audioChunk chunk =>
      have hchunk : chunk ∈ contents.flatMap Content.chunks :=
        List.mem_flatMap.mpr ⟨_,hcontent,List.mem_singleton_self chunk⟩
      exact hchunks chunk (hblocks ▸ hchunk)
    | sessionStatus status =>
      exact hstatuses status (heffect.statuses.subset
        (List.mem_flatMap.mpr ⟨_,hcontent,List.mem_singleton_self status⟩))
    | terminal result =>
      exact hterminals result (heffect.terminals.subset
        (List.mem_flatMap.mpr ⟨_,hcontent,List.mem_singleton_self result⟩))
  refine ⟨contents,messages,hsent,?_,hordered,fun hvalid => (heffect.kept hvalid).2,hblocks,heffect.statuses,
    heffect.terminals⟩
  change Follows visible stored .playing 2 _ (readMessages library _ visible stored .playing 2 messages)
  rw [readMessages_wire hread hwire]
  exact follow_follows .playing 2 _

end Runs

section Opened

def openedInspection : RunOpened := ⟨"run.post-1",3⟩

def openedLines : List String :=
  ["run_id = 'run.post-1'","status = 'run_opened'","take_position = 3","traversal = 'post_end_inspection'"]

/-- The result of a visible replay that stays paused after its last take. -/
def pausedResult : ReplayExecutionResult where
  traversal := some "linear"
  playback := some "natural_end"
  linearCompleted := true
  endedPaused := true
  runId := "run"
  takeId := "take.arp"
  recordingFrames := 3
  inputsConsumed := 3
  assignmentCount := 0
  initialGameState := recordedState
  finalGameState := recordedState
  trace := { observedFactCount := 2, lossFree := true }
  succeeded := true
  code := "replay_evidence_streamed"
  presentation := { mode := "visible", code := "presented", presentedFrames := 3 }

def pausedLines : List String :=
  ["assignment_count = 0","code = 'replay_evidence_streamed'","ended_paused = true","evidence_reasons = []",
    "inputs_consumed = 3","interruptions = 0","linear_completed = true","playback = 'natural_end'",
    "recording_frames = 3","run_id = 'run'","schema = '1.4'","succeeded = true","take_id = 'take.arp'",
    "traversal = 'linear'","user_pause_ms = '0'"] ++ stateLines "final_game_state" ++ stateLines "initial_game_state" ++
  ["","[presentation]","affected_frames = 0","audio_backend = ''","cancelled = false","code = 'presented'",
    "first_affected_frame = 0","hd_enabled = false","initial_height = 0","initial_width = 0",
    "last_affected_frame = 0","mode = 'visible'","output_profile = ''",
    "physical_reference_equivalence = 'not_verified'","presented_frames = 3","shaders_enabled = false",
    "","[trace]","causally_connected = false","loss_free = true","observed_fact_count = 2","occurrence = 0"] ++
  noFactLines "candidate" ++ noFactLines "ingress" ++ noFactLines "mix_span" ++ noFactLines "playback_decision" ++
  noFactLines "playback_effect" ++ noFactLines "playback_request" ++ noFactLines "selection"

/-- The library on the documents of the conversation, each known by a key that the others lack. -/
def openedText : PcmLibrary where
  print document :=
    if (document.get "capture_point").isSome then linesBytes causedLines
    else if (document.get "kind").isSome then Binary.shortText
    else if (document.get "status").isSome then linesBytes openedLines
    else linesBytes pausedLines
  parse bytes :=
    if bytes = linesBytes causedLines then some (metadata causedChunk)
    else if bytes = Binary.shortText then some (factDocument Binary.shortFact)
    else if bytes = linesBytes openedLines then some (runOpenedDocument openedInspection)
    else if bytes = linesBytes pausedLines then some (terminalDocument pausedResult "linear" "natural_end")
    else none
  sha256 := causedText.sha256

/-- The view of one of the two frames. -/
def causedView (sequence : UInt64) (begin : ℕ) (bytes : Bytes) (cause : Audio.EngineFactId) : PcmView where
  id := ⟨1,sequence⟩
  capturePoint := causedChunk.capturePoint
  range := ⟨"t".toUTF8.toList,48000,begin,begin + 1⟩
  format := .s16le
  channels := 2
  bytes := bytes
  causes := [.fact cause]

/-- A take sends two facts, a block and its result, and stays paused; an inspection opens and sends a fact of its
own. -/
def openedCalls : List SessionCall :=
  [.pushFact Binary.shortFact,.beginSegment 0,.consumePcm (causedView 6 96 [0,0,1,0] ⟨2,9⟩),
    .consumePcm (causedView 7 97 [255,127,0,128] ⟨1,4⟩),.pushFact Binary.noteStarted,.flush true,
    .sendTerminal pausedResult,.sendStatus (.runOpened openedInspection),.pushFact Binary.noteStarted,.flush false]

def openedWriter : ObservationWriter :=
  runWriter openedText (fun _ _ => []) (fun _ => true) (fun _ => true) (encodeText openedText) "run".toUTF8.toList
    Audio.maxUInt64 openedCalls

lemma openedWriter_sent : openedWriter.sent.length = 5 ∧ openedWriter.pcm.sentChunks = [causedChunk] := by
  decide +kernel

lemma openedText_parses : openedText.parse Binary.shortText = some (factDocument Binary.shortFact) ∧
    openedText.parse (linesBytes openedLines) = some (runOpenedDocument openedInspection) ∧
    openedText.parse (linesBytes pausedLines) = some (terminalDocument pausedResult "linear" "natural_end") := by
  have hshort : Binary.shortText ≠ linesBytes causedLines := by decide +kernel
  have hopened : linesBytes openedLines ≠ linesBytes causedLines ∧ linesBytes openedLines ≠ Binary.shortText := by
    decide +kernel
  have hpaused : linesBytes pausedLines ≠ linesBytes causedLines ∧ linesBytes pausedLines ≠ Binary.shortText ∧
      linesBytes pausedLines ≠ linesBytes openedLines := by
    decide +kernel
  refine ⟨(if_neg hshort).trans (if_pos rfl),(if_neg hopened.1).trans ((if_neg hopened.2).trans (if_pos rfl)),?_⟩
  exact (if_neg hpaused.1).trans ((if_neg hpaused.2.1).trans ((if_neg hpaused.2.2).trans (if_pos rfl)))

theorem openedInspection_delivered :
    let read := readMessages openedText (decodeText (fun _ _ => none) openedText) true (fun _ => true) .playing 2
    ∃ (contents : List Content) (messages : List Bytes),
      openedWriter.sent.map (sentBytes openedText) = messages.map some ∧
      Follows true (fun _ => true) .playing 2 (contents.map Content.arrived) (read messages) ∧
      contents.flatMap Content.facts <+: [Binary.shortFact,Binary.noteStarted,Binary.noteStarted] ∧
      (openedWriter.valid = true →
        contents.flatMap Content.facts ++ openedWriter.facts =
          [Binary.shortFact,Binary.noteStarted,Binary.noteStarted]) ∧
      contents.flatMap Content.chunks = openedWriter.pcm.sentChunks ∧
      (contents.flatMap Content.statuses).Sublist [.runOpened openedInspection] ∧
      (contents.flatMap Content.terminals).Sublist [pausedResult] := by
  refine observations_delivered (fun _ _ => none) true (fun _ => true) "run".toUTF8.toList Audio.maxUInt64 openedCalls
    (lt_of_eq_of_lt openedWriter_sent.1 (by norm_num)) ?_ ?_ ?_ ?_
  · intro fact hfact hfields
    obtain rfl : fact = Binary.shortFact := by
      change fact ∈ [Binary.shortFact,Binary.noteStarted,Binary.noteStarted] at hfact
      simp only [List.mem_cons,List.not_mem_nil,or_false] at hfact
      obtain rfl | rfl | rfl := hfact
      · rfl
      · cases hfields
      · cases hfields
    have hprint : openedText.print (factDocument Binary.shortFact) = Binary.shortText := by decide +kernel
    rw [hprint]
    exact ⟨openedText_parses.1,by decide +kernel⟩
  · intro chunk hchunk
    change chunk ∈ openedWriter.pcm.sentChunks at hchunk
    rw [openedWriter_sent.2] at hchunk
    obtain rfl := List.mem_singleton.mp hchunk
    exact ⟨causedChunk_typed,if_pos rfl⟩
  · intro status hstatus
    obtain rfl := List.mem_singleton.mp hstatus
    exact openedText_parses.2.1
  · intro result hresult
    obtain rfl := List.mem_singleton.mp hresult
    refine ⟨by constructor <;> norm_num [pausedResult],by decide +kernel,?_⟩
    intro traversal playback htraversal hplayback
    cases Option.some.inj htraversal
    cases Option.some.inj hplayback
    exact openedText_parses.2.2

/-- No block has a place while the Runtime stays paused. -/
example : (follow true (fun _ => true) .playing 2 [.terminal pausedResult,.audioChunk causedChunk]).2 =
    .refused .evidenceStreamInvalid := rfl

end Opened
end AytherRuntime.Channel
