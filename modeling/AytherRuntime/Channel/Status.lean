import AytherRuntime.Channel.Delivery

/-! The live state of a replay and the opening of a post-end inspection, as the Runtime sends them on the data channel
and as the supervisor reads them. -/
namespace AytherRuntime.Channel
open Check (Toml)
open Codec (Bytes)

section Messages

def replayPhases : List String :=
  ["preparing","playing","pausing","paused","recovering","interrupted","ended_paused","closing"]

/-- The fields of `ReplayStateMessage` and of `ReplayStateView`. -/
structure ReplayStateView where
  runId : String
  takePosition : UInt64
  phase : String
  frame : Option UInt64
  framesTotal : UInt64
  overlayVisible : Bool
  interruptionCause : String := ""
  deriving DecidableEq, Repr

structure RunOpened where
  runId : String
  takePosition : UInt64
  deriving DecidableEq, Repr

inductive SessionStatus
  | replayState (state : ReplayStateView)
  | runOpened (opened : RunOpened)
  deriving DecidableEq, Repr

inductive SessionStatusEncodeError
  | invalidState | tooLarge
  deriving DecidableEq, Repr

inductive ProtocolV11Error
  | headerRejected | invalidPayload
  deriving DecidableEq, Repr

end Messages

section Encode
variable (library : TomlText)

/-- `frame`: a document behind its header. -/
def frameStatus (document : Toml) (sequence : UInt64) : Except SessionStatusEncodeError Bytes :=
  if sequence = 0 then .error .invalidState
  else
    let payload := library.print document
    if payload = [] ∨ maxProtocolPayloadBytes < payload.length then .error .tooLarge
    else .ok (encodeProtocolHeader ⟨.sessionStatus,payload.length,2,sequence.toNat⟩ ++ payload)

def ReplayStateView.wellFormed (state : ReplayStateView) : Bool :=
  identifier state.runId && replayPhases.contains state.phase && decide (Check.Signed state.takePosition) &&
    decide (Check.Signed state.framesTotal) && state.frame.all (fun frame => decide (frame < state.framesTotal)) &&
    decide ((state.phase = "interrupted") ↔ state.interruptionCause ≠ "") &&
    (state.phase ≠ "interrupted" || identifier state.interruptionCause)

/-- The frame is there once there is one, and the cause only while the replay is interrupted. -/
def replayStateDocument (state : ReplayStateView) : Toml :=
  .table ([("status",Toml.string "replay_state"),("run_id",.string state.runId),
      ("take_position",.integer state.takePosition.toNat),("phase",.string state.phase),
      ("frames_total",.integer state.framesTotal.toNat),("overlay_visible",.boolean state.overlayVisible)] ++
    (state.frame.toList.map fun frame => ("frame",Toml.integer frame.toNat)) ++
    if state.phase = "interrupted" then [("interruption_cause",Toml.string state.interruptionCause)] else [])

def encodeReplayState (state : ReplayStateView) (sequence : UInt64) : Except SessionStatusEncodeError Bytes :=
  if !state.wellFormed then .error .invalidState else frameStatus library (replayStateDocument state) sequence

def runOpenedDocument (opened : RunOpened) : Toml :=
  .table [("status",.string "run_opened"),("run_id",.string opened.runId),
    ("take_position",.integer opened.takePosition.toNat),("traversal",.string "post_end_inspection")]

def encodeRunOpened (opened : RunOpened) (sequence : UInt64) : Except SessionStatusEncodeError Bytes :=
  if !identifier opened.runId || !decide (Check.Signed opened.takePosition) then .error .invalidState
  else frameStatus library (runOpenedDocument opened) sequence

def SessionStatus.document : SessionStatus → Toml
  | .replayState state => replayStateDocument state
  | .runOpened opened => runOpenedDocument opened

def SessionStatus.encode (sequence : UInt64) : SessionStatus → Except SessionStatusEncodeError Bytes
  | .replayState state => encodeReplayState library state sequence
  | .runOpened opened => encodeRunOpened library opened sequence

end Encode

section Decode

/-- The frame of a state, if it has one: a number below the total. -/
def parseFrame (framesTotal : UInt64) (document : Toml) : Option (Option UInt64) :=
  match document.get "frame" with
  | none => some none
  | some value =>
    (value.asInteger.bind Check.readUnsigned).bind fun frame => if frame < framesTotal then some (some frame) else none

def parseReplayState (runId : String) (takePosition : UInt64) (document : Toml) : Option ReplayStateView := do
  let phase ← document.text "phase"
  let framesTotal ← document.unsignedValue "frames_total"
  let overlayVisible ← document.flag "overlay_visible"
  if replayPhases.contains phase then
    let frame ← parseFrame framesTotal document
    let cause := document.text "interruption_cause"
    if cause.isSome = decide (phase = "interrupted") ∧ cause.all identifier then
      some ⟨runId,takePosition,phase,frame,framesTotal,overlayVisible,cause.getD ""⟩
    else none
  else none

def parseSessionStatus (document : Toml) : Option SessionStatus := do
  let status ← document.text "status"
  let runId ← document.text "run_id"
  let takePosition ← document.unsignedValue "take_position"
  if !identifier runId then none
  else if status = "run_opened" then
    if document.text "traversal" = some "post_end_inspection" then some (.runOpened ⟨runId,takePosition⟩) else none
  else if status = "replay_state" then (parseReplayState runId takePosition document).map .replayState
  else none

variable (library : TomlText)

def decodeSessionStatus (message : Bytes) (expectedSequence : UInt64) : Except ProtocolV11Error SessionStatus :=
  match decodeProtocolHeader (message.take protocolHeaderBytes) 2 with
  | .error _ => .error .headerRejected
  | .ok header =>
    if header.type ≠ .sessionStatus ∨ header.channelSequence ≠ expectedSequence.toNat ∨
        header.payloadBytes ≠ message.length - protocolHeaderBytes then .error .headerRejected
    else
      match (library.parse (message.drop protocolHeaderBytes)).bind parseSessionStatus with
      | none => .error .invalidPayload
      | some status => .ok status

end Decode

section Delivery
variable {library : TomlText}

lemma unsignedValue_integer {table : Toml} {key : String} {n : UInt64} (h : table.get key = some (.integer n.toNat)) :
    table.unsignedValue key = some n := by
  rw [Toml.unsignedValue,Toml.number,h]
  change Check.readUnsigned (n.toNat : Int) = some n
  rw [Check.readUnsigned,if_neg (by omega),Int.toNat_natCast,UInt64.ofNat_toNat]

lemma replayStateDocument_frame (state : ReplayStateView) :
    (replayStateDocument state).get "frame" = state.frame.map fun frame => .integer frame.toNat := by
  unfold replayStateDocument
  cases state.frame with
  | some frame => rfl
  | none => by_cases hphase : state.phase = "interrupted" <;> simp [Toml.get,hphase]

lemma replayStateDocument_cause (state : ReplayStateView) :
    (replayStateDocument state).text "interruption_cause" =
      if state.phase = "interrupted" then some state.interruptionCause else none := by
  unfold replayStateDocument
  by_cases hphase : state.phase = "interrupted" <;> cases state.frame <;> simp [Toml.text,Toml.get,hphase,Toml.asString]

lemma parseReplayState_document {state : ReplayStateView} (h : state.wellFormed = true) :
    parseReplayState state.runId state.takePosition (replayStateDocument state) = some state := by
  unfold ReplayStateView.wellFormed at h
  simp only [Bool.and_eq_true,Bool.or_eq_true,decide_eq_true_eq] at h
  obtain ⟨⟨⟨⟨⟨⟨-,hphase⟩,-⟩,-⟩,hframe⟩,hcause⟩,hidentity⟩ := h
  have htotal : (replayStateDocument state).unsignedValue "frames_total" = some state.framesTotal :=
    unsignedValue_integer rfl
  have hread : parseFrame state.framesTotal (replayStateDocument state) = some state.frame := by
    unfold parseFrame
    rw [replayStateDocument_frame]
    cases hstate : state.frame with
    | none => rfl
    | some frame =>
      rw [hstate,Option.all_some,decide_eq_true_eq] at hframe
      change ((Check.readUnsigned (frame.toNat : Int)).bind _) = _
      rw [Check.readUnsigned,if_neg (by omega),Int.toNat_natCast,UInt64.ofNat_toNat,Option.bind_some,if_pos hframe]
  unfold parseReplayState
  rw [show (replayStateDocument state).text "phase" = some state.phase from rfl,htotal,
    show (replayStateDocument state).flag "overlay_visible" = some state.overlayVisible from rfl]
  simp only [Option.bind_eq_bind,Option.bind_some,hphase,if_true,hread,replayStateDocument_cause]
  by_cases hinterrupted : state.phase = "interrupted"
  · have hsome : identifier state.interruptionCause = true := by simpa [hinterrupted] using hidentity
    obtain ⟨runId,takePosition,phase,frame,framesTotal,overlayVisible,cause⟩ := state
    subst hinterrupted
    simp [hsome]
  · have hnone : state.interruptionCause = "" := by
      by_contra hne
      exact hinterrupted (hcause.mpr hne)
    simp [hinterrupted,← hnone]

/-- A document that was framed is read as its document. -/
lemma decodeSessionStatus_frame {document : Toml} {status : SessionStatus} {sequence : UInt64} {message : Bytes}
    (hlibrary : library.parse (library.print document) = some document)
    (hparse : parseSessionStatus document = some status)
    (h : frameStatus library document sequence = .ok message) :
    decodeSessionStatus library message sequence = .ok status := by
  unfold frameStatus at h
  by_cases hsequence : sequence = 0
  · rw [if_pos hsequence] at h
    cases h
  rw [if_neg hsequence] at h
  dsimp only at h
  by_cases hpayload : library.print document = [] ∨ maxProtocolPayloadBytes < (library.print document).length
  · rw [if_pos hpayload] at h
    cases h
  rw [if_neg hpayload] at h
  cases h
  obtain ⟨hnonempty,hlimit⟩ := not_or.mp hpayload
  have hheader : decodeProtocolHeader (encodeProtocolHeader
      ⟨.sessionStatus,(library.print document).length,2,sequence.toNat⟩) 2 = .ok _ :=
    decodeProtocolHeader_encode ⟨⟨List.length_pos_iff.mpr hnonempty,Nat.not_lt.mp hlimit⟩,rfl,
      Nat.pos_of_ne_zero fun hzero => hsequence (UInt64.toNat.inj hzero),sequence.toNat_lt⟩
  unfold decodeSessionStatus
  rw [List.take_left' (length_encodeProtocolHeader _),hheader]
  dsimp only
  rw [if_neg (by
    rw [List.length_append,length_encodeProtocolHeader,Nat.add_sub_cancel_left]
    simp),List.drop_left' (length_encodeProtocolHeader _),hlibrary,Option.bind_some,hparse]

/-- A status that the Runtime could encode arrives as it was. -/
lemma decodeSessionStatus_encode {status : SessionStatus} {sequence : UInt64} {message : Bytes}
    (hlibrary : library.parse (library.print status.document) = some status.document)
    (h : status.encode library sequence = .ok message) : decodeSessionStatus library message sequence = .ok status := by
  cases status with
  | replayState state =>
    change (if !state.wellFormed then _ else _) = _ at h
    cases hstate : state.wellFormed with
    | false =>
      rw [hstate] at h
      cases h
    | true =>
      rw [hstate] at h
      have hidentifier : identifier state.runId = true := by
        unfold ReplayStateView.wellFormed at hstate
        simp only [Bool.and_eq_true] at hstate
        exact hstate.1.1.1.1.1.1
      have hposition : (replayStateDocument state).unsignedValue "take_position" = some state.takePosition :=
        unsignedValue_integer rfl
      have hparse : parseSessionStatus (replayStateDocument state) = some (.replayState state) := by
        unfold parseSessionStatus
        rw [show (replayStateDocument state).text "status" = some "replay_state" from rfl,
          show (replayStateDocument state).text "run_id" = some state.runId from rfl,hposition]
        simp only [Option.bind_eq_bind,Option.bind_some,hidentifier,parseReplayState_document hstate]
        rfl
      exact decodeSessionStatus_frame hlibrary hparse h
  | runOpened opened =>
    change (if !identifier opened.runId || !decide (Check.Signed opened.takePosition) then _ else _) = _ at h
    split at h
    · cases h
    · rename_i hvalid
      have hidentifier : identifier opened.runId = true := by
        simp only [Bool.or_eq_true,Bool.not_eq_true',not_or,Bool.not_eq_false] at hvalid
        exact hvalid.1
      have hposition : (runOpenedDocument opened).unsignedValue "take_position" = some opened.takePosition :=
        unsignedValue_integer rfl
      have hparse : parseSessionStatus (runOpenedDocument opened) = some (.runOpened opened) := by
        unfold parseSessionStatus
        rw [show (runOpenedDocument opened).text "status" = some "run_opened" from rfl,
          show (runOpenedDocument opened).text "run_id" = some opened.runId from rfl,hposition]
        simp only [Option.bind_eq_bind,Option.bind_some,hidentifier]
        rfl
      exact decodeSessionStatus_frame hlibrary hparse h

end Delivery
end AytherRuntime.Channel
