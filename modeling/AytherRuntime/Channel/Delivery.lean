import AytherRuntime.Channel.Terminal

/-! What the supervisor gets of a terminal: the result that was sent, with a presentation whose trackers are
empty, and which presentations count as complete on both sides. -/
namespace AytherRuntime.Channel
open Check (Signed Toml signedValue readUnsigned readUnsigned_signedValue readDecimal_toString mapM_map_some)
open Codec (Bytes)
open Storage (ContentIdentity hex hexBytes hexValue hexDigits)

section Columns

lemma unsignedValue_eq {table : Toml} {key : String} {n : UInt64} (h : table.get key = some (.signed n)) :
    table.unsignedValue key = if Signed n then some n else none := by
  rw [Toml.unsignedValue,Toml.number,h,← readUnsigned_signedValue]
  rfl

lemma unsignedValue_signed {table : Toml} {key : String} {n : UInt64} (h : table.get key = some (.signed n))
    (hn : Signed n) : table.unsignedValue key = some n := by rw [unsignedValue_eq h,if_pos hn]

lemma narrow_eq {table : Toml} {key : String} {n : ℕ} (h : table.get key = some (.integer n)) (hn : n < 2 ^ 32) :
    narrow key table = some n := by
  have hread : readNarrow (n : Int) = some n := by
    rw [readNarrow,if_neg (by omega),Int.toNat_natCast]
  rw [narrow,Toml.number,h]
  exact hread

lemma narrow32_eq {table : Toml} {key : String} {n : UInt32} (h : table.get key = some (.integer n.toNat)) :
    narrow32 key table = some n := by
  rw [narrow32,narrow_eq h n.toNat_lt,Option.map_some,UInt32.ofNat_toNat]

lemma hexValue_digit : ∀ i < 16, hexValue (hexDigits.getD i '0') = some i := by decide

/-- The digits of the bytes are read back. -/
lemma hexBytes_hex (bytes : List UInt8) : hexBytes (hex bytes).toList = some bytes := by
  rw [hex,String.toList_ofList]
  induction bytes with
  | nil => rfl
  | cons byte bytes ih =>
    have hbound := byte.toNat_lt
    have hbyte : UInt8.ofNat (16 * (byte.toNat / 16) + byte.toNat % 16) = byte := by
      rw [Nat.div_add_mod,UInt8.ofNat_toNat]
    rw [List.flatMap_cons,List.cons_append,List.cons_append,List.nil_append,hexBytes,hexValue_digit _ (by omega),
      hexValue_digit _ (by omega),ih]
    simp only [Option.bind_eq_bind,Option.bind_some,hbyte]

lemma parseIdentity_format {identity : ContentIdentity} (h : Signed identity.byteSize) :
    parseIdentity (identityTable identity) = some identity := by
  have hdigest : (identityTable identity).text "sha256" = some (hex identity.sha256) := rfl
  have hsize : (identityTable identity).unsignedValue "byte_size" = some identity.byteSize :=
    unsignedValue_signed rfl h
  unfold parseIdentity
  rw [hdigest,hsize]
  simp only [Option.bind_eq_bind,Option.bind_some,hexBytes_hex,identity.sized,dite_true]
  rfl

lemma parseTraceId_format (id : ReplayTraceFactId) :
    parseTraceId (traceIdTable id) = if Signed id.sequence then some id else none := by
  have hproducer : narrow32 "producer" (traceIdTable id) = some id.producer := narrow32_eq rfl
  have hsequence : (traceIdTable id).unsignedValue "sequence" = _ := unsignedValue_eq rfl
  unfold parseTraceId
  rw [hproducer,hsequence]
  by_cases h : Signed id.sequence
  · rw [if_pos h,if_pos h]
    rfl
  · rw [if_neg h,if_neg h]
    rfl

end Columns

section Trace

def ReplayTraceSummary.ids (trace : ReplayTraceSummary) : List ReplayTraceFactId :=
  [trace.ingress,trace.candidate,trace.selection,trace.playbackRequest,trace.playbackDecision,trace.playbackEffect,
    trace.mixSpan]

/-- The sequences of the facts of a trace fit their signed columns. -/
def ReplayTraceSummary.Signed (trace : ReplayTraceSummary) : Prop := ∀ id ∈ trace.ids, Check.Signed id.sequence

instance (trace : ReplayTraceSummary) : Decidable trace.Signed :=
  inferInstanceAs (Decidable (∀ id ∈ trace.ids, Check.Signed id.sequence))

lemma ReplayTraceSummary.signed_iff {trace : ReplayTraceSummary} : trace.Signed ↔
    Check.Signed trace.ingress.sequence ∧ Check.Signed trace.candidate.sequence ∧
      Check.Signed trace.selection.sequence ∧ Check.Signed trace.playbackRequest.sequence ∧
      Check.Signed trace.playbackDecision.sequence ∧ Check.Signed trace.playbackEffect.sequence ∧
      Check.Signed trace.mixSpan.sequence := by
  simp [ReplayTraceSummary.Signed,ReplayTraceSummary.ids]

/-- A trace is read exactly where each of its facts is. -/
lemma parseTrace_format {trace : ReplayTraceSummary} (hcount : Check.Signed trace.observedFactCount)
    (hoccurrence : Check.Signed trace.occurrence) :
    parseTrace (traceTable trace) = if trace.Signed then some trace else none := by
  have hobserved : (traceTable trace).unsignedValue "observed_fact_count" = some trace.observedFactCount :=
    unsignedValue_signed rfl hcount
  have hnumber : (traceTable trace).unsignedValue "occurrence" = some trace.occurrence :=
    unsignedValue_signed rfl hoccurrence
  have hconnected : (traceTable trace).flag "causally_connected" = some trace.causallyConnected := rfl
  have hloss : (traceTable trace).flag "loss_free" = some trace.lossFree := rfl
  have hingress : ((traceTable trace).get "ingress").bind parseTraceId = _ := parseTraceId_format trace.ingress
  have hcandidate : ((traceTable trace).get "candidate").bind parseTraceId = _ := parseTraceId_format trace.candidate
  have hselection : ((traceTable trace).get "selection").bind parseTraceId = _ := parseTraceId_format trace.selection
  have hrequest : ((traceTable trace).get "playback_request").bind parseTraceId = _ :=
    parseTraceId_format trace.playbackRequest
  have hdecision : ((traceTable trace).get "playback_decision").bind parseTraceId = _ :=
    parseTraceId_format trace.playbackDecision
  have heffect : ((traceTable trace).get "playback_effect").bind parseTraceId = _ :=
    parseTraceId_format trace.playbackEffect
  have hmix : ((traceTable trace).get "mix_span").bind parseTraceId = _ := parseTraceId_format trace.mixSpan
  unfold parseTrace
  rw [hobserved,hnumber,hconnected,hloss,hingress,hcandidate,hselection,hrequest,hdecision,heffect,hmix]
  by_cases h : trace.Signed
  · obtain ⟨h₁,h₂,h₃,h₄,h₅,h₆,h₇⟩ := ReplayTraceSummary.signed_iff.mp h
    rw [if_pos h,if_pos h₁,if_pos h₂,if_pos h₃,if_pos h₄,if_pos h₅,if_pos h₆,if_pos h₇]
    rfl
  · rw [if_neg h,Option.eq_none_iff_forall_ne_some]
    intro read hread
    simp only [Option.bind_eq_bind,Option.bind_eq_some_iff,Option.bind_some,Option.ite_none_right_eq_some] at hread
    obtain ⟨_,⟨h₁,-⟩,_,⟨h₂,-⟩,_,⟨h₃,-⟩,_,⟨h₄,-⟩,_,⟨h₅,-⟩,_,⟨h₆,-⟩,_,⟨h₇,-⟩,-⟩ := hread
    exact h (ReplayTraceSummary.signed_iff.mpr ⟨h₁,h₂,h₃,h₄,h₅,h₆,h₇⟩)

end Trace

section Presentation

/-- The counters of a presentation are numbers of 32 bits. -/
structure ReplayPresentation.Counted (p : ReplayPresentation) : Prop where
  presented : p.presentedFrames < 2 ^ 32
  affected : p.affectedFrames < 2 ^ 32
  first : p.firstAffectedFrame < 2 ^ 32
  last : p.lastAffectedFrame < 2 ^ 32
  late : p.lateFrames < 2 ^ 32
  width : p.initialWidth < 2 ^ 32
  height : p.initialHeight < 2 ^ 32

/-- The presentation as the supervisor has it: what was tolerated is the only trace of what was counted. -/
def ReplayPresentation.restored (p : ReplayPresentation) : ReplayPresentation :=
  { p with presentedSeen := ∅, affectedSeen := ∅, lateFrames := p.toleratedLateFrames, intolerable := false }

lemma tolerated_lt {p : ReplayPresentation} (h : p.Counted) : p.toleratedLateFrames < 2 ^ 32 := by
  unfold Check.ReplayPresentation.toleratedLateFrames
  split
  · decide
  · exact h.late

lemma parsePresentation_format {p : ReplayPresentation} (h : p.Counted) :
    parsePresentation (presentationTable p) = some p.restored := by
  have hmode : (presentationTable p).text "mode" = some p.mode := rfl
  have hcode : (presentationTable p).text "code" = some p.code := rfl
  have hprofile : (presentationTable p).text "output_profile" = some p.outputProfile := rfl
  have hbackend : (presentationTable p).text "audio_backend" = some p.audioBackend := rfl
  have hshown : narrow "presented_frames" (presentationTable p) = some p.presentedFrames :=
    narrow_eq rfl h.presented
  have haffected : narrow "affected_frames" (presentationTable p) = some p.affectedFrames := narrow_eq rfl h.affected
  have hfirst : narrow "first_affected_frame" (presentationTable p) = some p.firstAffectedFrame :=
    narrow_eq rfl h.first
  have hlast : narrow "last_affected_frame" (presentationTable p) = some p.lastAffectedFrame := narrow_eq rfl h.last
  have hcancelled : (presentationTable p).flag "cancelled" = some p.cancelled := rfl
  have hwidth : narrow "initial_width" (presentationTable p) = some p.initialWidth := narrow_eq rfl h.width
  have hheight : narrow "initial_height" (presentationTable p) = some p.initialHeight := narrow_eq rfl h.height
  have hhd : (presentationTable p).flag "hd_enabled" = some p.hdEnabled := rfl
  have hshaders : (presentationTable p).flag "shaders_enabled" = some p.shadersEnabled := rfl
  have hreference : (presentationTable p).text "physical_reference_equivalence" = some "not_verified" := rfl
  unfold parsePresentation
  rw [hmode,hcode,hprofile,hbackend,hshown,haffected,hfirst,hlast,hcancelled,hwidth,hheight,hhd,hshaders,hreference]
  simp only [Option.bind_eq_bind,Option.bind_some,ne_eq,not_true_eq_false,if_false]
  by_cases htolerated : p.toleratedLateFrames = 0
  · have hnone : (presentationTable p).get "tolerated_late_frames" = none := by
      rw [presentationTable,if_pos htolerated]
      rfl
    have hsize : Storage.tableSize (presentationTable p) = 14 := by
      rw [presentationTable,if_pos htolerated]
      rfl
    rw [hnone]
    dsimp only
    rw [if_pos hsize,ReplayPresentation.restored,htolerated]
  · have hsome : (presentationTable p).get "tolerated_late_frames" = some (.integer p.toleratedLateFrames) := by
      rw [presentationTable,if_neg htolerated]
      rfl
    have hsize : Storage.tableSize (presentationTable p) = 15 := by
      rw [presentationTable,if_neg htolerated]
      rfl
    rw [hsome]
    dsimp only
    rw [narrow_eq hsome (tolerated_lt h),Option.bind_some,if_pos ⟨hsize,htolerated⟩]
    rfl

/-- A presentation that no operation leaves: its cadence counts as degraded past its tolerance, with no frame that
was affected. -/
def ReplayPresentation.Lossy (p : ReplayPresentation) : Prop :=
  p.mode ≠ "none" ∧ p.cancelled = false ∧ p.code = "cadence_degraded" ∧ p.intolerable = true ∧ p.affectedFrames = 0

lemma complete_restored_iff (p : ReplayPresentation) :
    p.restored.complete = p.complete ↔ ¬p.Lossy := by
  unfold ReplayPresentation.restored Check.ReplayPresentation.complete
    Check.ReplayPresentation.toleratedLateFrames ReplayPresentation.Lossy
  dsimp only
  by_cases hmode : p.mode = "none"
  · simp [hmode]
  · cases hcancelled : p.cancelled with
    | true => simp [hmode]
    | false =>
      by_cases hcode : p.code = "cadence_degraded"
      · cases hintolerable : p.intolerable with
        | true => simp [hmode,hcode]
        | false => simp [hcode]
      · simp [hcode]

end Presentation

section Operations

/-- What records a presentation. -/
inductive PresentationOperation
  | presented (frame : ℕ)
  | affect (frame : ℕ)
  | interrupted (cause : String)
  | late (frame : ℕ) (periodsLate : ℚ) (takeFrames : ℕ)
  deriving DecidableEq

def ReplayPresentation.record (p : ReplayPresentation) : PresentationOperation → ReplayPresentation
  | .presented frame => { p with toReplayPresentation := p.toReplayPresentation.presented frame }
  | .affect frame => { p with toReplayPresentation := p.toReplayPresentation.affect frame }
  | .interrupted cause => { p with toReplayPresentation := p.toReplayPresentation.interrupted cause }
  | .late frame periodsLate takeFrames =>
    { p with toReplayPresentation := p.toReplayPresentation.late frame periodsLate takeFrames }

/-- No interruption is recorded under the name of the cadence. -/
def PresentationOperation.Named (operation : PresentationOperation) : Prop :=
  operation ≠ .interrupted "cadence_degraded"

/-- A presentation that nothing has affected. -/
def ReplayPresentation.Fresh (p : ReplayPresentation) : Prop :=
  p.affectedSeen = ∅ ∧ p.code ≠ "cadence_degraded"

/-- A degraded cadence has affected a frame. -/
structure Affecting (p : Check.ReplayPresentation) : Prop where
  seen : p.affectedSeen.Nonempty → 0 < p.affectedFrames
  degraded : p.code = "cadence_degraded" → 0 < p.affectedFrames

variable {p : Check.ReplayPresentation}

lemma affect_affected (h : Affecting p) (frame : ℕ) : 0 < (p.affect frame).affectedFrames := by
  unfold Check.ReplayPresentation.affect
  dsimp only
  by_cases hseen : frame ∈ p.affectedSeen
  · rw [if_pos hseen]
    split <;> exact h.seen ⟨frame,hseen⟩
  · rw [if_neg hseen]
    exact Nat.succ_pos _

lemma presented_affecting (h : Affecting p) (frame : ℕ) : Affecting (p.presented frame) := by
  unfold Check.ReplayPresentation.presented
  split
  · exact h
  · exact ⟨h.seen,h.degraded⟩

lemma affect_affecting (h : Affecting p) (frame : ℕ) : Affecting (p.affect frame) :=
  ⟨fun _ => affect_affected h frame,fun _ => affect_affected h frame⟩

lemma interrupted_affecting (h : Affecting p) {cause : String} (hcause : cause ≠ "cadence_degraded") :
    Affecting (p.interrupted cause) := by
  unfold Check.ReplayPresentation.interrupted
  by_cases hempty : cause = ""
  · simp only [hempty,ne_eq,not_true_eq_false,and_false,if_false]
    exact h
  · simp only [ne_eq,hempty,not_false_eq_true,and_true,if_true]
    split
    · exact ⟨h.seen,fun hcode => absurd hcode hcause⟩
    · exact ⟨h.seen,h.degraded⟩

lemma degrade_affected (code : String) : (p.degrade code).affectedFrames = p.affectedFrames := by
  unfold Check.ReplayPresentation.degrade
  split <;> rfl

lemma late_affecting (h : Affecting p) (frame : ℕ) (periodsLate : ℚ) (takeFrames : ℕ) :
    Affecting (p.late frame periodsLate takeFrames) := by
  have haffected : 0 < (p.late frame periodsLate takeFrames).affectedFrames := by
    have hdegraded : 0 < ((p.affect frame).degrade "cadence_degraded").affectedFrames := by
      rw [degrade_affected]
      exact affect_affected h frame
    unfold Check.ReplayPresentation.late
    dsimp only
    split <;> exact hdegraded
  exact ⟨fun _ => haffected,fun _ => haffected⟩

lemma record_affecting {p : ReplayPresentation} {operation : PresentationOperation}
    (h : Affecting p.toReplayPresentation) (hnamed : operation.Named) :
    Affecting (p.record operation).toReplayPresentation := by
  cases operation with
  | presented frame => exact presented_affecting h frame
  | affect frame => exact affect_affecting h frame
  | interrupted cause => exact interrupted_affecting h fun hcause => hnamed (by rw [hcause])
  | late frame periodsLate takeFrames => exact late_affecting h frame periodsLate takeFrames

/-- Whatever is recorded, the presentation keeps what its completeness needs. -/
theorem recorded_not_lossy {start : ReplayPresentation} {operations : List PresentationOperation}
    (hstart : start.Fresh) (hnamed : ∀ operation ∈ operations, operation.Named) :
    ¬(operations.foldl ReplayPresentation.record start).Lossy := by
  have hbegin : Affecting start.toReplayPresentation :=
    ⟨fun hseen => absurd hstart.1 hseen.ne_empty,fun hcode => absurd hcode hstart.2⟩
  have hend : Affecting (operations.foldl ReplayPresentation.record start).toReplayPresentation := by
    clear hstart
    induction operations generalizing start with
    | nil => exact hbegin
    | cons operation operations ih =>
      obtain ⟨hoperation,hoperations⟩ := List.forall_mem_cons.mp hnamed
      exact ih hoperations (record_affecting hbegin hoperation)
  rintro ⟨-,-,hcode,-,hnone⟩
  exact absurd hnone (hend.degraded hcode).ne'

end Operations

section Delivery
variable {library : TomlText} {result : ReplayExecutionResult} {traversal playback : String}

/-- The result as the supervisor has it. -/
def ReplayExecutionResult.received (result : ReplayExecutionResult) : ReplayExecutionResult :=
  { result with presentation := result.presentation.restored }

/-- `operator==`: the terminal fields; what was counted is not part of the value. -/
def ReplayPresentation.Same (p q : ReplayPresentation) : Prop :=
  p.mode = q.mode ∧ p.code = q.code ∧ p.outputProfile = q.outputProfile ∧ p.audioBackend = q.audioBackend ∧
    p.presentedFrames = q.presentedFrames ∧ p.affectedFrames = q.affectedFrames ∧
    p.firstAffectedFrame = q.firstAffectedFrame ∧ p.lastAffectedFrame = q.lastAffectedFrame ∧
    p.cancelled = q.cancelled ∧ p.initialWidth = q.initialWidth ∧ p.initialHeight = q.initialHeight ∧
    p.hdEnabled = q.hdEnabled ∧ p.shadersEnabled = q.shadersEnabled ∧
    p.toleratedLateFrames = q.toleratedLateFrames

def ReplayExecutionResult.Same (a b : ReplayExecutionResult) : Prop :=
  a.toTerminalFields = b.toTerminalFields ∧ a.runId = b.runId ∧ a.takeId = b.takeId ∧
    a.recordingFrames = b.recordingFrames ∧ a.inputsConsumed = b.inputsConsumed ∧
    a.assignmentCount = b.assignmentCount ∧ a.initialGameState = b.initialGameState ∧
    a.finalGameState = b.finalGameState ∧ a.trace = b.trace ∧ a.succeeded = b.succeeded ∧ a.code = b.code ∧
    a.presentation.Same b.presentation

lemma received_same (result : ReplayExecutionResult) : result.received.Same result :=
  ⟨rfl,rfl,rfl,rfl,rfl,rfl,rfl,rfl,rfl,rfl,rfl,rfl,rfl,rfl,rfl,rfl,rfl,rfl,rfl,rfl,rfl,rfl,rfl,rfl,by
    change (if false = true then 0 else result.presentation.toleratedLateFrames) = _
    rfl⟩

lemma complete_restored {p : ReplayPresentation} (h : p.complete = true) : p.restored.complete = true := by
  rw [← h,complete_restored_iff]
  rintro ⟨hmode,hcancelled,hcode,hintolerable,-⟩
  simp [Check.ReplayPresentation.complete,hmode,hcancelled,hcode,hintolerable] at h

lemma wellFormed_presentation (h : result.wellFormed = true) : presentationWellFormed result = true := by
  unfold ReplayExecutionResult.wellFormed at h
  simp only [Bool.and_eq_true] at h
  tauto

lemma complete_of_succeeded (h : presentationWellFormed result = true) (hsucceeded : result.succeeded = true) :
    result.presentation.complete = true := by
  unfold presentationWellFormed at h
  simp only [Bool.and_eq_true,hsucceeded,Bool.not_true,Bool.false_or] at h
  exact h.2.1

/-- What arrives is well formed when what was sent is. -/
lemma received_wellFormed (h : result.wellFormed = true) : result.received.wellFormed = true := by
  have hpresentation : presentationWellFormed result.received = presentationWellFormed result := by
    cases hsucceeded : result.succeeded with
    | false =>
      simp only [presentationWellFormed,ReplayExecutionResult.received,hsucceeded]
      rfl
    | true =>
      have hcomplete := complete_of_succeeded (wellFormed_presentation h) hsucceeded
      simp only [presentationWellFormed,ReplayExecutionResult.received,hcomplete,complete_restored hcomplete]
      rfl
  unfold ReplayExecutionResult.wellFormed at h ⊢
  rw [hpresentation]
  exact h

/-- The numbers of a well-formed result that are written as signed integers, but for the facts of its trace. -/
structure ReplayExecutionResult.Bounded (result : ReplayExecutionResult) : Prop where
  assignmentCount : Signed result.assignmentCount
  initialGameState : Signed result.initialGameState.byteSize
  finalGameState : Signed result.finalGameState.byteSize
  observedFactCount : Signed result.trace.observedFactCount
  occurrence : Signed result.trace.occurrence

lemma wellFormed_bounded (h : result.wellFormed = true) : result.Bounded := by
  unfold ReplayExecutionResult.wellFormed maxReferenceMaterials maxRecordingStateBytes maxReplayTraceFacts at h
  simp only [Bool.and_eq_true,decide_eq_true_eq] at h
  obtain ⟨⟨⟨⟨⟨⟨⟨-,hassignment⟩,hinitial⟩,hfinal⟩,hobserved⟩,hoccurrence⟩,-⟩,-⟩ := h
  constructor <;>
  · unfold Signed
    omega

lemma parseTerminalFields_format (htraversal : result.traversal = some traversal)
    (hplayback : result.playback = some playback) :
    parseTerminalFields (terminalDocument result traversal playback) = some result.toTerminalFields := by
  have htaken : (terminalDocument result traversal playback).text "traversal" = some traversal := rfl
  have hended : (terminalDocument result traversal playback).text "playback" = some playback := rfl
  have hlinear : (terminalDocument result traversal playback).flag "linear_completed" =
    some result.linearCompleted := rfl
  have hrows : (terminalDocument result traversal playback).rows "evidence_reasons" =
    some (result.evidenceReasons.map Toml.string) := rfl
  have hpaused : (terminalDocument result traversal playback).flag "ended_paused" = some result.endedPaused := rfl
  have hpause : ((terminalDocument result traversal playback).text "user_pause_ms").bind Check.readDecimal =
    some result.userPauseMs := readDecimal_toString result.userPauseMs
  have hinterruptions : narrow32 "interruptions" (terminalDocument result traversal playback) =
    some result.interruptions := narrow32_eq rfl
  have hreasons : (result.evidenceReasons.map Toml.string).mapM Toml.asString = some result.evidenceReasons :=
    mapM_map_some fun _ _ => rfl
  unfold parseTerminalFields
  rw [htaken,hended,hlinear,hrows,hpaused,hpause,hinterruptions]
  have hfields : result.toTerminalFields = ⟨some traversal,some playback,result.linearCompleted,
      result.evidenceReasons,result.endedPaused,result.userPauseMs,result.interruptions⟩ := by
    rw [← htraversal,← hplayback]
  simp only [Option.bind_eq_bind,Option.bind_some,hreasons]
  exact congrArg some hfields.symm

lemma parseSchema_format (hcounted : result.presentation.Counted) (htraversal : result.traversal = some traversal)
    (hplayback : result.playback = some playback) :
    parseSchema (terminalDocument result traversal playback) =
      some (19,result.toTerminalFields,result.presentation.restored) := by
  have hschema : (terminalDocument result traversal playback).text "schema" = some "1.4" := rfl
  have hsize : schemaSize "1.4" = some 19 := by decide
  have hfields : schemaFields "1.4" (terminalDocument result traversal playback) = some result.toTerminalFields :=
    (if_pos rfl).trans (parseTerminalFields_format htraversal hplayback)
  have hpresentation : schemaPresentation "1.4" (terminalDocument result traversal playback) =
    some result.presentation.restored := (if_neg (by decide)).trans (parsePresentation_format hcounted)
  unfold parseSchema
  rw [hschema]
  simp only [Option.bind_eq_bind,Option.bind_some,hsize,hfields,hpresentation]

/-- The document of a well-formed result is read exactly where the facts of its trace are. -/
lemma parseResult_format (h : result.wellFormed = true) (hcounted : result.presentation.Counted)
    (htraversal : result.traversal = some traversal) (hplayback : result.playback = some playback) :
    parseResult (terminalDocument result traversal playback) =
      if result.trace.Signed then some result.received else none := by
  have hbounded := wellFormed_bounded h
  have hrun : (terminalDocument result traversal playback).text "run_id" = some result.runId := rfl
  have htake : (terminalDocument result traversal playback).text "take_id" = some result.takeId := rfl
  have hframes : narrow32 "recording_frames" (terminalDocument result traversal playback) =
    some result.recordingFrames := narrow32_eq rfl
  have hconsumed : narrow32 "inputs_consumed" (terminalDocument result traversal playback) =
    some result.inputsConsumed := narrow32_eq rfl
  have hassignment : (terminalDocument result traversal playback).unsignedValue "assignment_count" =
    some result.assignmentCount := unsignedValue_signed rfl hbounded.assignmentCount
  have hsucceeded : (terminalDocument result traversal playback).flag "succeeded" = some result.succeeded := rfl
  have hcode : (terminalDocument result traversal playback).text "code" = some result.code := rfl
  have hinitial : ((terminalDocument result traversal playback).get "initial_game_state").bind parseIdentity =
    some result.initialGameState := parseIdentity_format hbounded.initialGameState
  have hfinal : ((terminalDocument result traversal playback).get "final_game_state").bind parseIdentity =
    some result.finalGameState := parseIdentity_format hbounded.finalGameState
  have htrace : ((terminalDocument result traversal playback).get "trace").bind parseTrace = _ :=
    parseTrace_format hbounded.observedFactCount hbounded.occurrence
  have hreceived : result.received.wellFormed = true := received_wellFormed h
  unfold parseResult
  rw [parseSchema_format hcounted htraversal hplayback,Option.bind_eq_bind,Option.bind_some]
  dsimp only
  rw [hrun,htake,hframes,hconsumed,hassignment,hsucceeded,hcode,hinitial,hfinal,htrace]
  by_cases hsigned : result.trace.Signed
  · rw [if_pos hsigned,if_pos hsigned]
    exact if_pos ⟨rfl,hreceived⟩
  · rw [if_neg hsigned,if_neg hsigned]
    rfl

lemma encode_eq {sequence : UInt64} {payload : Bytes} (h : result.wellFormed = true) (hsequence : sequence ≠ 0)
    (htraversal : result.traversal = some traversal) (hplayback : result.playback = some playback)
    (hprint : library.print (terminalDocument result traversal playback) = payload) (hnonempty : payload ≠ [])
    (hlimit : payload.length ≤ maxProtocolPayloadBytes) :
    encodeReplayExecutionResult library result sequence =
      .ok (encodeProtocolHeader ⟨.terminal,payload.length,2,sequence.toNat⟩ ++ payload) := by
  unfold encodeReplayExecutionResult
  rw [htraversal,hplayback]
  dsimp only
  rw [h,if_neg (not_or.mpr ⟨by decide,hsequence⟩),hprint,
    if_neg (not_or.mpr ⟨hnonempty,Nat.not_lt.mpr hlimit⟩)]

/-- A terminal that was accepted arrives, as it was received, exactly where the facts of its trace fit. -/
lemma decode_encode {sequence : UInt64} {message : Bytes} (hcounted : result.presentation.Counted)
    (hlibrary : ∀ traversal playback, result.traversal = some traversal → result.playback = some playback →
      library.parse (library.print (terminalDocument result traversal playback)) =
        some (terminalDocument result traversal playback))
    (h : encodeReplayExecutionResult library result sequence = .ok message) :
    decodeReplayExecutionResult library message sequence =
      if result.trace.Signed then .ok result.received else .error .invalidPayload := by
  unfold encodeReplayExecutionResult at h
  split at h
  · rename_i traversal playback htraversal hplayback
    by_cases hinvalid : !result.wellFormed ∨ sequence = 0
    · rw [if_pos hinvalid] at h
      cases h
    · rw [if_neg hinvalid] at h
      obtain ⟨hwellFormed,hsequence⟩ := not_or.mp hinvalid
      dsimp only at h
      by_cases hpayload : library.print (terminalDocument result traversal playback) = [] ∨
          maxProtocolPayloadBytes < (library.print (terminalDocument result traversal playback)).length
      · rw [if_pos hpayload] at h
        cases h
      · rw [if_neg hpayload] at h
        cases h
        obtain ⟨hnonempty,hlimit⟩ := not_or.mp hpayload
        have hheader : decodeProtocolHeader (encodeProtocolHeader ⟨.terminal,
            (library.print (terminalDocument result traversal playback)).length,2,sequence.toNat⟩) 2 = .ok _ :=
          decodeProtocolHeader_encode ⟨⟨List.length_pos_iff.mpr hnonempty,Nat.not_lt.mp hlimit⟩,rfl,
            Nat.pos_of_ne_zero fun hzero => hsequence (UInt64.toNat.inj hzero),sequence.toNat_lt⟩
        unfold decodeReplayExecutionResult
        rw [List.take_left' (length_encodeProtocolHeader _),hheader]
        dsimp only
        rw [if_neg (not_not.mpr rfl),if_neg (not_not.mpr rfl),if_neg (by
          rw [List.length_append,length_encodeProtocolHeader,Nat.add_sub_cancel_left]
          exact not_not.mpr rfl),List.drop_left' (length_encodeProtocolHeader _),
          hlibrary traversal playback htraversal hplayback,Option.bind_some,
          parseResult_format (by simpa using hwellFormed) hcounted htraversal hplayback]
        by_cases hsigned : result.trace.Signed
        · rw [if_pos hsigned,if_pos hsigned]
        · rw [if_neg hsigned,if_neg hsigned]
  · cases h

/-- A terminal that the Runtime could encode arrives equal exactly where the sequences of the facts of its trace fit
a signed integer, and its presentation is as complete as the one that was recorded. -/
theorem terminal_delivered_iff {sequence : UInt64} {message : Bytes} (hcounted : result.presentation.Counted)
    (hlibrary : ∀ traversal playback, result.traversal = some traversal → result.playback = some playback →
      library.parse (library.print (terminalDocument result traversal playback)) =
        some (terminalDocument result traversal playback))
    (h : encodeReplayExecutionResult library result sequence = .ok message) :
    ((∃ read, decodeReplayExecutionResult library message sequence = .ok read ∧ read.Same result) ↔
      result.trace.Signed) ∧
      (∀ read, decodeReplayExecutionResult library message sequence = .ok read →
        (read.presentation.complete = result.presentation.complete ↔ ¬result.presentation.Lossy)) ∧
      ∀ (start : ReplayPresentation) (operations : List PresentationOperation), start.Fresh →
        (∀ operation ∈ operations, operation.Named) →
        result.presentation = operations.foldl ReplayPresentation.record start →
        ∀ read, decodeReplayExecutionResult library message sequence = .ok read →
          read.presentation.complete = result.presentation.complete := by
  have hdecode := decode_encode hcounted hlibrary h
  have hread : ∀ read, decodeReplayExecutionResult library message sequence = .ok read →
      result.trace.Signed ∧ read = result.received := by
    intro read hread
    rw [hdecode] at hread
    by_cases hsigned : result.trace.Signed
    · rw [if_pos hsigned] at hread
      cases hread
      exact ⟨hsigned,rfl⟩
    · rw [if_neg hsigned] at hread
      cases hread
  refine ⟨⟨?_,?_⟩,?_,?_⟩
  · rintro ⟨read,hok,-⟩
    exact (hread read hok).1
  · intro hsigned
    exact ⟨result.received,by rw [hdecode,if_pos hsigned],received_same result⟩
  · intro read hok
    obtain ⟨-,rfl⟩ := hread read hok
    exact complete_restored_iff result.presentation
  · intro start operations hstart hnamed hrun read hok
    obtain ⟨-,rfl⟩ := hread read hok
    refine (complete_restored_iff result.presentation).mpr ?_
    rw [hrun]
    exact recorded_not_lossy hstart hnamed

end Delivery

section Failed

def recordedState : ContentIdentity := ⟨List.replicate 32 7,5,by decide⟩

/-- A replay that failed after two of three frames, with the sequence of the first fact of its trace. -/
def failedResult (sequence : UInt64) : ReplayExecutionResult where
  traversal := some "linear"
  playback := some "failed"
  evidenceReasons := ["replay_failed"]
  runId := "run"
  takeId := "take.arp"
  recordingFrames := 3
  inputsConsumed := 2
  assignmentCount := 0
  initialGameState := recordedState
  finalGameState := recordedState
  trace := { observedFactCount := 1, ingress := ⟨1,sequence⟩ }
  succeeded := false
  code := "replay_failed"
  presentation := {}

def noFactLines (name : String) : List String :=
  ["","    [trace." ++ name ++ "]","    producer = 0","    sequence = 0"]

def stateLines (name : String) : List String :=
  ["","[" ++ name ++ "]","byte_size = 5","sha256 = '" ++ hex (List.replicate 32 7) ++ "'"]

/-- The document of the result as it is printed, with the number of the sequence. -/
def failedLines (sequence : String) : List String :=
  ["assignment_count = 0","code = 'replay_failed'","ended_paused = false","evidence_reasons = [ 'replay_failed' ]",
    "inputs_consumed = 2","interruptions = 0","linear_completed = false","playback = 'failed'",
    "recording_frames = 3","run_id = 'run'","schema = '1.4'","succeeded = false","take_id = 'take.arp'",
    "traversal = 'linear'","user_pause_ms = '0'"] ++ stateLines "final_game_state" ++ stateLines "initial_game_state" ++
  ["","[presentation]","affected_frames = 0","audio_backend = ''","cancelled = false","code = 'not_requested'",
    "first_affected_frame = 0","hd_enabled = false","initial_height = 0","initial_width = 0",
    "last_affected_frame = 0","mode = 'none'","output_profile = ''",
    "physical_reference_equivalence = 'not_verified'","presented_frames = 0","shaders_enabled = false",
    "","[trace]","causally_connected = false","loss_free = false","observed_fact_count = 1","occurrence = 0"] ++
  noFactLines "candidate" ++ ["","    [trace.ingress]","    producer = 1","    sequence = " ++ sequence] ++
    noFactLines "mix_span" ++
  noFactLines "playback_decision" ++ noFactLines "playback_effect" ++ noFactLines "playback_request" ++
  noFactLines "selection"

def linesBytes (lines : List String) : Bytes := [10].intercalate (lines.map fun line => line.toUTF8.toList)

/-- The library on the document of the result. -/
def failedLibrary (sequence : UInt64) (lines : List String) : TomlText where
  print _ := linesBytes lines
  parse bytes :=
    if bytes = linesBytes lines then some (terminalDocument (failedResult sequence) "linear" "failed") else none

lemma failedLibrary_reads (sequence : UInt64) (lines : List String) (traversal playback : String)
    (htraversal : (failedResult sequence).traversal = some traversal)
    (hplayback : (failedResult sequence).playback = some playback) :
    (failedLibrary sequence lines).parse
        ((failedLibrary sequence lines).print (terminalDocument (failedResult sequence) traversal playback)) =
      some (terminalDocument (failedResult sequence) traversal playback) := by
  cases Option.some.inj htraversal
  cases Option.some.inj hplayback
  exact if_pos rfl

lemma failedResult_counted (sequence : UInt64) : (failedResult sequence).presentation.Counted := by
  constructor <;> exact Nat.two_pow_pos 32

/-- The message of the terminal of a failed replay. -/
def failedMessage (lines : List String) : Bytes :=
  encodeProtocolHeader ⟨.terminal,(linesBytes lines).length,2,1⟩ ++ linesBytes lines

lemma failedResult_encoded {sequence : UInt64} {lines : List String}
    (hresult : (failedResult sequence).wellFormed = true) (hpayload : linesBytes lines ≠ [])
    (hlimit : (linesBytes lines).length ≤ maxProtocolPayloadBytes) :
    encodeReplayExecutionResult (failedLibrary sequence lines) (failedResult sequence) 1 =
      .ok (failedMessage lines) :=
  encode_eq hresult (by decide) rfl rfl rfl hpayload hlimit

lemma plainResult_encoded : encodeReplayExecutionResult (failedLibrary 9 (failedLines "9")) (failedResult 9) 1 =
    .ok (failedMessage (failedLines "9")) :=
  failedResult_encoded (by decide +kernel) (by decide +kernel) (by decide +kernel)

theorem failedResult_delivered :
    ∃ read, decodeReplayExecutionResult (failedLibrary 9 (failedLines "9")) (failedMessage (failedLines "9")) 1 =
      .ok read ∧ read.Same (failedResult 9) :=
  (terminal_delivered_iff (failedResult_counted 9) (failedLibrary_reads 9 (failedLines "9"))
    plainResult_encoded).1.mpr (by decide)

/-- The least sequence that no signed integer holds. -/
def farSequence : UInt64 := 9223372036854775808

def farLines : List String := failedLines "-9223372036854775808"

lemma farResult_encoded :
    encodeReplayExecutionResult (failedLibrary farSequence farLines) (failedResult farSequence) 1 =
      .ok (failedMessage farLines) :=
  failedResult_encoded (by decide +kernel) (by decide +kernel) (by decide +kernel)

lemma farResult_trace : ¬(failedResult farSequence).trace.Signed := by decide +kernel

/-- The terminal of a failed replay is sent with a sequence that no signed integer holds, and it does not arrive. -/
theorem farResult_undelivered :
    encodeReplayExecutionResult (failedLibrary farSequence farLines) (failedResult farSequence) 1 =
        .ok (failedMessage farLines) ∧
      decodeReplayExecutionResult (failedLibrary farSequence farLines) (failedMessage farLines) 1 =
        .error .invalidPayload :=
  ⟨farResult_encoded,(decode_encode (failedResult_counted _) (failedLibrary_reads _ _) farResult_encoded).trans
    (if_neg farResult_trace)⟩

end Failed
end AytherRuntime.Channel
