import AytherRuntime.Check.Arbiter

/-! A request as the runner takes it through its takes: what each take leaves in the outcome, in the
technical results and in the stored summary. -/
namespace AytherRuntime.Check

section Execution

inductive CheckExecutionError
  | referenceUnavailable | manifestUnavailable | manifestMissingMaterial | runtimeIdentityUnavailable
  | runtimeIncompatible | runtimeDataIsolationFailed | userDataChanged | channelUnavailable
  | requestEncodingFailed | runtimeLaunchFailed | requestDeliveryFailed | admissionFailed | terminalFailed
  | runtimeTimeout | runtimeFailed | resultMismatch | resultIdentityMismatch | resultInputMismatch
  | resultEvidenceMismatch | resultExitMismatch | evidenceStreamInvalid
  deriving DecidableEq, Repr

def checkExecutionErrorCode : CheckExecutionError → String
  | .referenceUnavailable => "reference_unavailable"
  | .manifestUnavailable => "play_manifest_unavailable"
  | .manifestMissingMaterial => "play_manifest_missing_material"
  | .runtimeIdentityUnavailable => "runtime_identity_unavailable"
  | .runtimeIncompatible => "runtime_incompatible"
  | .runtimeDataIsolationFailed => "runtime_data_isolation_failed"
  | .userDataChanged => "user_data_changed"
  | .channelUnavailable => "qa_channel_unavailable"
  | .requestEncodingFailed => "request_encoding_failed"
  | .runtimeLaunchFailed => "runtime_launch_failed"
  | .requestDeliveryFailed => "request_delivery_failed"
  | .admissionFailed => "runtime_admission_failed"
  | .terminalFailed => "runtime_terminal_failed"
  | .runtimeTimeout => "runtime_timeout"
  | .runtimeFailed => "runtime_replay_failed"
  | .resultMismatch => "runtime_replay_result_mismatch"
  | .resultIdentityMismatch => "runtime_replay_identity_mismatch"
  | .resultInputMismatch => "runtime_replay_input_mismatch"
  | .resultEvidenceMismatch => "runtime_replay_evidence_mismatch"
  | .resultExitMismatch => "runtime_replay_exit_mismatch"
  | .evidenceStreamInvalid => "runtime_evidence_stream_invalid"

/-- The terminal of a run; its decoder rejects one without a code. -/
structure ReplayExecutionResult where
  runId : String
  takeId : String
  recordingFrames : ℕ
  inputsConsumed : ℕ
  assignmentCount : ℕ := 0
  lossFree : Bool := true
  succeeded : Bool
  code : String
  traversal : Option String := none
  playback : Option String := none
  evidenceReasons : List String := []
  endedPaused : Bool := false
  identified : code ≠ ""
  deriving DecidableEq

/-- What the writer kept of the evidence. -/
structure Preserved where
  relationshipsReopened : Bool
  factIntegrityComplete : Bool
  deriving DecidableEq

structure CheckExecutionEvidence where
  replay : ReplayExecutionResult
  preserved : Option Preserved
  visitLimitExceeded : Bool := false
  deriving DecidableEq

/-- How the playback ended: as the terminal says, or as its code and inputs tell for an older one. -/
def ReplayExecutionResult.playbackKind (replay : ReplayExecutionResult) : PlaybackKind :=
  (replay.playback.bind parsePlaybackKind).getD
    (if replay.code = "replay_cancelled" then .cancelled
      else if replay.inputsConsumed = replay.recordingFrames ∧ 0 < replay.recordingFrames then .naturalEnd
      else .failed)

end Execution

section Evidence

structure EvidenceParts where
  identification : Bool
  conditions : Bool
  positions : Bool
  controls : Bool
  result : Bool
  dataWithoutLosses : Bool
  fragmentsFlushed : Bool
  withinLimits : Bool
  deriving DecidableEq

def evaluateEvidence (parts : EvidenceParts) : EvidenceOutcome :=
  let checks :=
    [(parts.identification,"identification_missing"),(parts.conditions,"conditions_missing"),
     (parts.positions,"positions_missing"),(parts.controls,"controls_missing"),
     (parts.result,"result_missing"),(parts.dataWithoutLosses,"data_lost"),
     (parts.fragmentsFlushed,"fragments_not_flushed"),(parts.withinLimits,"limit")]
  let reasons := (checks.filter fun check => !check.1).map Prod.snd
  { complete := reasons.isEmpty, reasons }

/-- The reasons of a list that another does not have yet, one after another. -/
def addReasons (reasons more : List String) : List String :=
  more.foldl (fun reasons reason => if reason ∈ reasons then reasons else reasons ++ [reason]) reasons

end Evidence

section Take

structure TakeSlot where
  position : ℕ
  path : String
  kind : MaterialKind := .take
  deriving DecidableEq

/-- `plan_materials`: the takes in their order, then the timelines in theirs. -/
def planMaterials (takes timelines : List String) : List TakeSlot :=
  takes.mapIdx (fun position path => ⟨position,path,.take⟩) ++
    timelines.mapIdx fun index path => ⟨takes.length + index,path,.timeline⟩

def runIdForSlot (baseRunId : String) (slot : TakeSlot) : String :=
  if slot.position = 0 then baseRunId
  else
    match slot.kind with
    | .take => baseRunId ++ "-take-" ++ toString (slot.position + 1)
    | .timeline => baseRunId ++ "-timeline-" ++ toString (slot.position + 1)

inductive HoldIssue
  | unavailable | inUse | changed
  deriving DecidableEq, Repr

def HoldIssue.code : HoldIssue → String
  | .unavailable => "material_unavailable"
  | .inUse => "material_in_use"
  | .changed => "material_changed"

/-- What the runner meets at one slot: whether its token is requested when the slot comes, what its
materials and its execution give, what its directory holds, and whether the token is requested when the
execution has returned. -/
structure SlotEvents where
  cancelledBefore : Bool := false
  sha256 : Option String := none
  held : Option HoldIssue := none
  executed : Except CheckExecutionError CheckExecutionEvidence
  launched : Bool := true
  positions : Bool := true
  controls : Bool := true
  result : Bool := true
  cancelledAfter : Bool := false

structure StoredTakeSummary where
  position : ℕ
  take : String
  sha256 : String := ""
  runId : String := ""
  outcome : String
  diagnostic : String
  playback : String
  traversal : String
  evidence : String
  evidenceReasons : List String := []
  kind : String := ""
  deriving DecidableEq, Repr

/-- What is decided of a take before its result is confirmed. -/
structure TakeProgress where
  arbiter : Arbiter
  traversal : Option TraversalKind := none
  evidence : EvidenceOutcome
  diagnostic : String
  launched : Bool

structure TakeRecord where
  outcome : TakeOutcome
  technical : TakeTechnicalResult
  stored : StoredTakeSummary

def evidenceCode (evidence : EvidenceOutcome) : String := if evidence.complete then "complete" else "incomplete"

/-- The parts of the evidence that were kept and checked. -/
def evidenceParts (conditionsId runId : String) (events : SlotEvents) (evidence : CheckExecutionEvidence) :
    EvidenceParts where
  identification := events.sha256.isSome && runId ≠ "" && evidence.replay.runId = runId
  conditions := conditionsId ≠ ""
  positions := events.positions
  controls := events.controls
  result := events.result
  dataWithoutLosses := evidence.replay.succeeded && (match evidence.preserved with
    | some preserved => evidence.replay.assignmentCount = 0 || preserved.relationshipsReopened
    | none => false) && evidence.replay.lossFree
  fragmentsFlushed := (match evidence.preserved with
    | some preserved => preserved.factIntegrityComplete
    | none => false)
  withinLimits := !evidence.visitLimitExceeded

/-- The result of a received replay: its events reach the arbiter in this order. -/
def settleReplay (arbiter : Arbiter) (requested : Bool) (evaluated : EvidenceOutcome)
    (replay : ReplayExecutionResult) (launched : Bool) : TakeProgress :=
  let playback := replay.playbackKind
  let arbiter := if requested ∨ playback = .cancelled then arbiter.cancel else arbiter
  let arbiter :=
    match playback with
    | .naturalEnd => arbiter.naturalEnd
    | .failed => arbiter.fail replay.code false
    | .interrupted => arbiter.fail replay.code true
    | .cancelled => arbiter
  let reasons := if replay.succeeded then replay.evidenceReasons
    else addReasons replay.evidenceReasons [replay.code]
  { arbiter
    traversal := replay.traversal.bind parseTraversalKind
    evidence := { complete := evaluated.complete, reasons := addReasons reasons evaluated.reasons }
    diagnostic :=
      if evaluated.complete then "replay_evidence_complete"
      else if replay.succeeded then "evidence_reopen_failed"
      else replay.code
    launched }

/-- A take up to its confirmation, with the token as it is read after the execution. -/
def settleTake (arbiter : Arbiter) (conditionsId runId : String) (events : SlotEvents) : TakeProgress :=
  match events.held with
  | some issue =>
    { arbiter := arbiter.fail issue.code, evidence := ⟨false,[issue.code]⟩, diagnostic := issue.code,
      launched := false }
  | none =>
    match events.executed with
    | .ok evidence =>
      settleReplay arbiter events.cancelledAfter (evaluateEvidence (evidenceParts conditionsId runId events evidence))
        evidence.replay events.launched
    | .error error =>
      let code := checkExecutionErrorCode error
      let arbiter := if events.cancelledAfter then arbiter.cancel else arbiter
      { arbiter := arbiter.fail code, evidence := ⟨false,[code]⟩, diagnostic := code,
        launched := events.launched }

/-- The playback that a take records. -/
def recordedPlayback (progress : TakeProgress) : PlaybackOutcome :=
  let playback := progress.arbiter.confirm.1.getD ⟨.failed,progress.diagnostic⟩
  if playback.kind ≠ .naturalEnd ∧ playback.diagnostic = "" ∧ playback.kind ≠ .cancelled then
    { playback with diagnostic := progress.diagnostic }
  else playback

def storedKind (kind : MaterialKind) : String := if kind = .timeline then materialKindCode kind else ""

def traversalCode (progress : TakeProgress) : String :=
  match progress.traversal with
  | some traversal => traversalKindCode traversal
  | none => if progress.launched then "unknown" else "none"

/-- The record of a take, from what was decided of it. -/
def recordTake (slot : TakeSlot) (runId : String) (sha256 : Option String) (progress : TakeProgress) :
    TakeRecord :=
  let playback := recordedPlayback progress
  let evidence := progress.evidence
  let outcome : CheckTechnicalOutcome :=
    if playback.kind = .naturalEnd ∧ evidence.complete then .complete else .incomplete
  let diagnostic := if progress.diagnostic = "" then "replay_evidence_complete" else progress.diagnostic
  let traversal := traversalCode progress
  { outcome :=
      { position := slot.position, take := slot.path, runId, playback, traversal := progress.traversal, evidence,
        linearCompleted := progress.traversal = some .linear ∧ playback.kind = .naturalEnd ∧ evidence.complete
        kind := slot.kind }
    technical :=
      { takeId := slot.path, outcome, diagnosticCode := diagnostic, position := slot.position,
        playback := playbackKindCode playback.kind, traversal, evidence := evidenceCode evidence }
    stored :=
      { position := slot.position, take := slot.path, sha256 := sha256.getD "", runId,
        outcome := checkTechnicalOutcomeCode outcome, diagnostic, playback := playbackKindCode playback.kind,
        traversal, evidence := evidenceCode evidence, evidenceReasons := evidence.reasons,
        kind := storedKind slot.kind } }

/-- `run_take`, and the arbiter that has confirmed its result. -/
def runTake (arbiter : Arbiter) (conditionsId runId : String) (slot : TakeSlot) (events : SlotEvents) :
    TakeRecord × Arbiter :=
  let progress := settleTake arbiter conditionsId runId events
  (recordTake slot runId events.sha256 progress,progress.arbiter.confirm.2)

lemma checkExecutionErrorCode_ne (error : CheckExecutionError) : checkExecutionErrorCode error ≠ "" := by
  cases error <;> decide

lemma holdIssue_code_ne (issue : HoldIssue) : issue.code ≠ "" := by cases issue <;> decide

lemma recordedPlayback_cancelled {progress : TakeProgress} (h : progress.arbiter.Cancelled) :
    recordedPlayback progress = ⟨.cancelled,""⟩ := by
  unfold recordedPlayback
  rw [Arbiter.confirm_fst,h.playback]
  rfl

lemma recordedPlayback_failed {progress : TakeProgress} {kind : PlaybackKind} {diagnostic : String}
    (h : progress.arbiter.playback = some ⟨kind,diagnostic⟩) (hdiagnostic : diagnostic ≠ "") :
    recordedPlayback progress = ⟨kind,diagnostic⟩ := by
  unfold recordedPlayback
  rw [Arbiter.confirm_fst,h]
  simp [hdiagnostic]

lemma recordedPlayback_natural {progress : TakeProgress}
    (h : progress.arbiter.playback = some ⟨.naturalEnd,""⟩) : recordedPlayback progress = ⟨.naturalEnd,""⟩ := by
  unfold recordedPlayback
  rw [Arbiter.confirm_fst,h]
  rfl

/-- A replay that is cancelled, or received with the token requested, records a cancellation. -/
lemma settleReplay_cancelled {arbiter : Arbiter} (h : arbiter.Fresh) {requested : Bool}
    {evaluated : EvidenceOutcome} {replay : ReplayExecutionResult} {launched : Bool}
    (hcancelled : requested = true ∨ replay.playbackKind = .cancelled) :
    recordedPlayback (settleReplay arbiter requested evaluated replay launched) = ⟨.cancelled,""⟩ := by
  apply recordedPlayback_cancelled
  unfold settleReplay
  dsimp only
  rw [if_pos hcancelled]
  cases replay.playbackKind with
  | naturalEnd => exact h.cancel.naturalEnd.symm ▸ h.cancel
  | cancelled => exact h.cancel
  | failed => exact (h.cancel.fail replay.code false).symm ▸ h.cancel
  | interrupted => exact (h.cancel.fail replay.code true).symm ▸ h.cancel

/-- Without a cancellation a replay records how it ended. -/
lemma settleReplay_uncancelled {arbiter : Arbiter} (h : arbiter.Fresh) (evaluated : EvidenceOutcome)
    {replay : ReplayExecutionResult} (launched : Bool) (hkind : replay.playbackKind ≠ .cancelled) :
    recordedPlayback (settleReplay arbiter false evaluated replay launched) =
      ⟨replay.playbackKind,if replay.playbackKind = .naturalEnd then "" else replay.code⟩ ∧
    (replay.playbackKind ≠ .naturalEnd →
      (settleReplay arbiter false evaluated replay launched).arbiter.stop ≠ .none) := by
  have harbiter : (settleReplay arbiter false evaluated replay launched).arbiter =
      match replay.playbackKind with
      | .naturalEnd => arbiter.naturalEnd
      | .failed => arbiter.fail replay.code false
      | .interrupted => arbiter.fail replay.code true
      | .cancelled => arbiter := by
    unfold settleReplay
    dsimp only
    rw [if_neg (by simp [hkind])]
  cases hplayback : replay.playbackKind with
  | naturalEnd =>
    rw [hplayback] at harbiter
    refine ⟨recordedPlayback_natural ?_,fun hne => absurd rfl hne⟩
    rw [harbiter]
    exact h.naturalEnd_playback
  | cancelled => exact absurd hplayback hkind
  | failed =>
    rw [hplayback] at harbiter
    refine ⟨recordedPlayback_failed ?_ replay.identified,fun _ => ?_⟩
    · rw [harbiter]
      exact h.fail_playback replay.code false
    · rw [harbiter]
      exact h.fail_stop _ _
  | interrupted =>
    rw [hplayback] at harbiter
    refine ⟨recordedPlayback_failed ?_ replay.identified,fun _ => ?_⟩
    · rw [harbiter]
      exact h.fail_playback replay.code true
    · rw [harbiter]
      exact h.fail_stop _ _

end Take
end AytherRuntime.Check
