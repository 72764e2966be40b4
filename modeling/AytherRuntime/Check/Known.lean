import AytherRuntime.Check.Request

/-! A request run to its confirmed summary, the same request answered from that summary, and where the two
outcomes are the same. -/
namespace AytherRuntime.Check

section Requests

def maxRequestSummaryBytes : ℕ := 16 * 1024 * 1024

/-- The TOML library: it reads back the documents that the store writes. -/
structure TomlLibrary where
  Text : Type
  print : Toml → Text
  parse : Text → Option Toml
  size : Text → ℕ
  parse_print : ∀ summary, parse (print (formatRequestSummary summary)) = some (formatRequestSummary summary)

structure RequestOutcome where
  perTake : List TakeSlotOutcome := []
  confirmed : Bool := false
  requestId : String
  exitCode : ℕ := 3
  known : Bool := false
  linearComplete : Bool := false
  deriving DecidableEq

/-- An admitted request, and what its run meets: at each slot, and when it publishes. -/
structure CheckRequest where
  requestId : String
  conditionsId : String
  runId : String
  takes : List String
  timelines : List String := []
  values : List EffectiveValue := []
  materials : List StoredMaterial := []
  events : ℕ → SlotEvents
  ledgerUpdated : Bool := true
  summaryPublished : Bool := true

/-- What one slot adds to the outcome, the technical results and the stored summary. -/
structure SlotRecord where
  outcome : TakeSlotOutcome
  technical : TakeTechnicalResult
  stored : StoredTakeSummary

/-- A slot whose take does not start. -/
def notStarted (slot : TakeSlot) (reason : String) : SlotRecord where
  outcome := .notStarted ⟨slot.position,slot.path,reason,slot.kind⟩
  technical :=
    { takeId := slot.path, diagnosticCode := reason, position := slot.position, playback := "not_started",
      traversal := "none", evidence := "incomplete" }
  stored :=
    { position := slot.position, take := slot.path, outcome := "incomplete", diagnostic := reason,
      playback := "not_started", traversal := "none", evidence := "incomplete", kind := storedKind slot.kind }

def TakeRecord.slotRecord (record : TakeRecord) : SlotRecord :=
  ⟨.started record.outcome,record.technical,record.stored⟩

/-- The arbiter when a slot comes, with the token as it is read there. -/
def arbiterAtSlot (arbiter : Arbiter) (events : SlotEvents) : Arbiter :=
  if events.cancelledBefore then arbiter.cancel else arbiter

/-- The loop over the slots. -/
def runSlots (request : CheckRequest) : Arbiter → List TakeSlot → List SlotRecord
  | _, [] => []
  | arbiter, slot :: slots =>
    let events := request.events slot.position
    let arbiter := arbiterAtSlot arbiter events
    if arbiter.stop ≠ .none then notStarted slot arbiter.notStartedReason :: runSlots request arbiter slots
    else
      let taken := runTake arbiter.beginTake request.conditionsId (runIdForSlot request.runId slot) slot events
      taken.1.slotRecord :: runSlots request taken.2 slots

/-- The records of the slots of a request. -/
def slotRecords (request : CheckRequest) : List SlotRecord :=
  runSlots request {} (planMaterials request.takes request.timelines)

/-- The summary that a confirmed request publishes. -/
def summaryDocument (request : CheckRequest) (summary : CheckTechnicalSummary) : RequestSummaryDocument :=
  { requestId := request.requestId, conditionsId := request.conditionsId, runId := request.runId,
    exitCode := summary.exitCode, linearComplete := summary.linearComplete, values := request.values,
    materials := request.materials, takes := (slotRecords request).map SlotRecord.stored }

/-- `RequestRun::run` from the admission on: its outcome, and the summary that it leaves on disk. -/
def runRequest (library : TomlLibrary) (request : CheckRequest) : RequestOutcome × Option library.Text :=
  let outcome : RequestOutcome :=
    { perTake := (slotRecords request).map SlotRecord.outcome, requestId := request.requestId, exitCode := 4 }
  match summarizeCheckResults ((slotRecords request).map SlotRecord.technical) with
  | none => (outcome,none)
  | some summary =>
    if !request.ledgerUpdated || !request.summaryPublished then (outcome,none)
    else
      ({ outcome with
          confirmed := true, linearComplete := summary.linearComplete, exitCode := summary.exitCode },
        some (library.print (formatRequestSummary (summaryDocument request summary))))

def readRequestSummary (library : TomlLibrary) (file : Option library.Text) :
    Except RequestSummaryReadError RequestSummaryDocument :=
  match file with
  | none => .error .missing
  | some text =>
    if maxRequestSummaryBytes < library.size text then .error .unreadable
    else
      match library.parse text with
      | none => .error .invalid
      | some document => parseRequestSummary document

/-- The technical result that a stored row gives back. -/
def technicalResult (take : StoredTakeSummary) : Option TakeTechnicalResult := do
  let outcome ← parseOutcome take.outcome
  some {
    takeId := take.take, outcome, diagnosticCode := take.diagnostic, position := take.position,
    playback := take.playback, traversal := take.traversal, evidence := take.evidence }

def technicalSummary (document : RequestSummaryDocument) : Option CheckTechnicalSummary :=
  (document.takes.mapM technicalResult).bind summarizeCheckResults

/-- A take of the outcome, from its row in the stored summary. -/
def knownTake (take : StoredTakeSummary) : TakeSlotOutcome :=
  let kind := (parseMaterialKind take.kind).getD .take
  if take.playback = "not_started" then .notStarted ⟨take.position,take.take,take.diagnostic,kind⟩
  else
    let playback : PlaybackOutcome := ⟨(parsePlaybackKind take.playback).getD .failed,take.diagnostic⟩
    let traversal := parseTraversalKind take.traversal
    let evidence : EvidenceOutcome := ⟨take.evidence = "complete",take.evidenceReasons⟩
    .started
      { position := take.position, take := take.take, runId := take.runId, kind, playback, traversal, evidence
        linearCompleted := traversal = some .linear ∧ playback.kind = .naturalEnd ∧ evidence.complete }

/-- `RequestRun::known`: the outcome of a request that the ledger already has. -/
def known (library : TomlLibrary) (requestId : String) (file : Option library.Text) : RequestOutcome :=
  let outcome : RequestOutcome := { requestId, known := true }
  match readRequestSummary library file with
  | .ok document =>
    match technicalSummary document with
    | none => { outcome with exitCode := 4 }
    | some _ =>
      { outcome with
        perTake := document.takes.map knownTake, confirmed := document.confirmed,
        linearComplete := document.linearComplete, exitCode := document.exitCode }
  | .error .missing => { outcome with exitCode := 2 }
  | .error _ => { outcome with exitCode := 4 }

end Requests

section Takes

/-- A take that keeps its diagnostic in the summary: it failed or was interrupted, with no cancellation, and
the code of its terminal is what the summary stores. -/
def DiagnosticKept (conditionsId runId : String) (events : SlotEvents) : Prop :=
  events.held.isSome = true ∨
    (events.cancelledAfter = false ∧
      match events.executed with
      | .error _ => True
      | .ok evidence =>
        (evidence.replay.playbackKind = .failed ∨ evidence.replay.playbackKind = .interrupted) ∧
          evidence.replay.code =
            if (evaluateEvidence (evidenceParts conditionsId runId events evidence)).complete then
              "replay_evidence_complete"
            else if evidence.replay.succeeded then "evidence_reopen_failed"
            else evidence.replay.code)

/-- A take stores some diagnostic. -/
lemma settleTake_diagnostic_ne (arbiter : Arbiter) (conditionsId runId : String) (events : SlotEvents) :
    (settleTake arbiter conditionsId runId events).diagnostic ≠ "" := by
  unfold settleTake
  split
  · exact holdIssue_code_ne _
  · split
    · rename_i evidence _
      unfold settleReplay
      dsimp only
      split_ifs
      · decide
      · decide
      · exact evidence.replay.identified
    · exact checkExecutionErrorCode_ne _

/-- Where the diagnostic is kept the take failed, the request stops, and the playback has the diagnostic that
is stored; elsewhere it has another. -/
lemma settleTake_kept {arbiter : Arbiter} (h : arbiter.Fresh) (conditionsId runId : String) (events : SlotEvents) :
    (DiagnosticKept conditionsId runId events ∧
      (settleTake arbiter conditionsId runId events).arbiter.stop ≠ .none ∧
      (recordedPlayback (settleTake arbiter conditionsId runId events)).diagnostic =
        (settleTake arbiter conditionsId runId events).diagnostic) ∨
    (¬DiagnosticKept conditionsId runId events ∧
      (recordedPlayback (settleTake arbiter conditionsId runId events)).diagnostic ≠
        (settleTake arbiter conditionsId runId events).diagnostic) := by
  have hdiagnostic := settleTake_diagnostic_ne arbiter conditionsId runId events
  unfold settleTake at hdiagnostic ⊢
  cases hheld : events.held with
  | some issue =>
    refine Or.inl ⟨Or.inl (by rw [hheld]; rfl),h.fail_stop _ _,?_⟩
    rw [recordedPlayback_failed (h.fail_playback issue.code false) (holdIssue_code_ne issue)]
  | none =>
    rw [hheld] at hdiagnostic
    dsimp only at hdiagnostic ⊢
    cases hexecuted : events.executed with
    | error error =>
      dsimp only
      cases hcancelled : events.cancelledAfter with
      | true =>
        refine Or.inr ⟨?_,?_⟩
        · rintro (hissue | ⟨hkept,-⟩)
          · rw [hheld] at hissue
            cases hissue
          · rw [hcancelled] at hkept
            cases hkept
        · rw [if_pos rfl,recordedPlayback_cancelled]
          · exact (checkExecutionErrorCode_ne error).symm
          · rw [h.cancel.fail]
            exact h.cancel
      | false =>
        rw [if_neg (by simp)]
        refine Or.inl ⟨Or.inr ⟨hcancelled,by rw [hexecuted]; trivial⟩,h.fail_stop _ _,?_⟩
        rw [recordedPlayback_failed (h.fail_playback _ false) (checkExecutionErrorCode_ne error)]
    | ok evidence =>
      rw [hexecuted] at hdiagnostic
      dsimp only at hdiagnostic ⊢
      have hkept : DiagnosticKept conditionsId runId events ↔ events.cancelledAfter = false ∧
          (evidence.replay.playbackKind = .failed ∨ evidence.replay.playbackKind = .interrupted) ∧
          evidence.replay.code =
            if (evaluateEvidence (evidenceParts conditionsId runId events evidence)).complete then
              "replay_evidence_complete"
            else if evidence.replay.succeeded then "evidence_reopen_failed"
            else evidence.replay.code := by
        unfold DiagnosticKept
        rw [hheld,hexecuted]
        simp
      rw [hkept]
      generalize evaluateEvidence (evidenceParts conditionsId runId events evidence) = evaluated at *
      have hstored : (settleReplay arbiter events.cancelledAfter evaluated evidence.replay
          events.launched).diagnostic =
          if evaluated.complete then "replay_evidence_complete"
          else if evidence.replay.succeeded then "evidence_reopen_failed"
          else evidence.replay.code := rfl
      rw [← hstored]
      by_cases hcancelled : events.cancelledAfter = true ∨ evidence.replay.playbackKind = .cancelled
      · rw [settleReplay_cancelled h hcancelled]
        refine Or.inr ⟨?_,hdiagnostic.symm⟩
        rintro ⟨hafter,hkind | hkind,-⟩ <;> simp [hafter,hkind] at hcancelled
      · obtain ⟨hafter,hkind⟩ := not_or.mp hcancelled
        rw [Bool.not_eq_true] at hafter
        rw [hafter] at hdiagnostic ⊢
        obtain ⟨hrecorded,hstops⟩ := settleReplay_uncancelled h evaluated events.launched hkind
        rw [hrecorded]
        by_cases hnatural : evidence.replay.playbackKind = .naturalEnd
        · rw [if_pos hnatural]
          exact Or.inr ⟨fun hall => by simp [hnatural] at hall,hdiagnostic.symm⟩
        · rw [if_neg hnatural]
          have hfailed : evidence.replay.playbackKind = .failed ∨ evidence.replay.playbackKind = .interrupted := by
            cases hkinds : evidence.replay.playbackKind <;> simp_all
          by_cases hsame : evidence.replay.code =
              (settleReplay arbiter false evaluated evidence.replay events.launched).diagnostic
          · exact Or.inl ⟨⟨rfl,hfailed,hsame⟩,hstops hnatural,hsame⟩
          · exact Or.inr ⟨fun hall => hsame hall.2.2,hsame⟩

end Takes

section Rows

lemma parse_storedKind (kind : MaterialKind) : (parseMaterialKind (storedKind kind)).getD .take = kind := by
  cases kind <;> decide

lemma storedKind_or (kind : MaterialKind) : storedKind kind = "" ∨ storedKind kind = "timeline" := by
  cases kind <;> decide

/-- A record of a slot: of one that did not start, or of a take. -/
inductive Recorded : SlotRecord → Prop
  | notStarted (slot : TakeSlot) (reason : String) : Recorded (notStarted slot reason)
  | take (slot : TakeSlot) (runId : String) (sha256 : Option String) (progress : TakeProgress) :
      Recorded (recordTake slot runId sha256 progress).slotRecord

lemma Recorded.technical {record : SlotRecord} (h : Recorded record) :
    technicalResult record.stored = some record.technical := by
  cases h with
  | notStarted slot reason => rfl
  | take slot runId sha256 progress => simp [technicalResult,TakeRecord.slotRecord,recordTake]

lemma Recorded.kind {record : SlotRecord} (h : Recorded record) :
    record.stored.kind = "" ∨ record.stored.kind = "timeline" := by
  cases h with
  | notStarted slot reason => exact storedKind_or slot.kind
  | take slot runId sha256 progress => exact storedKind_or slot.kind

lemma knownTake_notStarted (slot : TakeSlot) (reason : String) :
    knownTake (notStarted slot reason).stored = (notStarted slot reason).outcome := by
  unfold knownTake notStarted
  dsimp only
  rw [if_pos rfl,parse_storedKind]

/-- The row of a take gives the same outcome exactly when it stores the diagnostic of the playback. -/
lemma knownTake_recordTake (slot : TakeSlot) (runId : String) (sha256 : Option String)
    {progress : TakeProgress} (hdiagnostic : progress.diagnostic ≠ "") :
    knownTake (recordTake slot runId sha256 progress).stored =
      .started (recordTake slot runId sha256 progress).outcome ↔
      (recordedPlayback progress).diagnostic = progress.diagnostic := by
  have hstarted : playbackKindCode (recordedPlayback progress).kind ≠ "not_started" := by
    cases (recordedPlayback progress).kind <;> decide
  have htraversal : parseTraversalKind (traversalCode progress) = progress.traversal := by
    unfold traversalCode
    cases progress.traversal with
    | some traversal => exact parseTraversalKind_code traversal
    | none => cases progress.launched <;> decide
  have hevidence : decide (evidenceCode progress.evidence = "complete") = progress.evidence.complete := by
    unfold evidenceCode
    cases progress.evidence.complete <;> decide
  unfold knownTake recordTake
  dsimp only
  rw [if_neg hstarted,htraversal,hevidence,parse_storedKind,parsePlaybackKind_code,if_neg hdiagnostic]
  rw [TakeSlotOutcome.started.injEq,TakeOutcome.mk.injEq]
  constructor
  · rintro ⟨-,-,-,hplayback,-⟩
    exact (congrArg PlaybackOutcome.diagnostic hplayback).symm
  · intro hsame
    rw [← hsame]
    exact ⟨rfl,rfl,rfl,rfl,rfl,rfl,rfl,rfl⟩

end Rows

section Loop
variable (request : CheckRequest)

lemma runSlots_recorded (arbiter : Arbiter) (slots : List TakeSlot) :
    ∀ record ∈ runSlots request arbiter slots, Recorded record := by
  induction slots generalizing arbiter with
  | nil => simp [runSlots]
  | cons slot slots ih =>
    unfold runSlots
    dsimp only
    split
    · exact List.forall_mem_cons.mpr ⟨.notStarted _ _,ih _⟩
    · exact List.forall_mem_cons.mpr ⟨.take _ _ _ _,ih _⟩

lemma length_runSlots (arbiter : Arbiter) (slots : List TakeSlot) :
    (runSlots request arbiter slots).length = slots.length := by
  induction slots generalizing arbiter with
  | nil => rfl
  | cons slot slots ih =>
    unfold runSlots
    dsimp only
    split <;> rw [List.length_cons,List.length_cons,ih]

/-- Once the request is stopped no take starts. -/
lemma runSlots_stopped {arbiter : Arbiter} (h : arbiter.stop ≠ .none) (slots : List TakeSlot) :
    ∀ record ∈ runSlots request arbiter slots, knownTake record.stored = record.outcome := by
  induction slots generalizing arbiter with
  | nil => simp [runSlots]
  | cons slot slots ih =>
    have hstop : (arbiterAtSlot arbiter (request.events slot.position)).stop ≠ .none := by
      unfold arbiterAtSlot
      split
      · exact Arbiter.cancel_stop _
      · exact h
    unfold runSlots
    dsimp only
    rw [if_pos hstop]
    exact List.forall_mem_cons.mpr ⟨knownTake_notStarted _ _,ih hstop⟩

/-- The rows give the outcomes back exactly when no take starts, or the first one keeps its diagnostic. -/
lemma runSlots_known {arbiter : Arbiter} (h : arbiter.stop = .none) (slot : TakeSlot) (slots : List TakeSlot) :
    (∀ record ∈ runSlots request arbiter (slot :: slots), knownTake record.stored = record.outcome) ↔
      (request.events slot.position).cancelledBefore = true ∨
        DiagnosticKept request.conditionsId (runIdForSlot request.runId slot) (request.events slot.position) := by
  unfold runSlots
  dsimp only
  cases hbefore : (request.events slot.position).cancelledBefore with
  | true =>
    have hat : arbiterAtSlot arbiter (request.events slot.position) = arbiter.cancel := if_pos hbefore
    rw [hat,if_pos (Arbiter.cancel_stop _)]
    exact iff_of_true (List.forall_mem_cons.mpr
      ⟨knownTake_notStarted _ _,runSlots_stopped request (Arbiter.cancel_stop _) slots⟩) (Or.inl rfl)
  | false =>
    have hat : arbiterAtSlot arbiter (request.events slot.position) = arbiter := if_neg (by rw [hbefore]; simp)
    rw [hat,if_neg (not_not.mpr h),List.forall_mem_cons]
    have hfirst := knownTake_recordTake slot (runIdForSlot request.runId slot)
      (request.events slot.position).sha256
      (settleTake_diagnostic_ne arbiter.beginTake request.conditionsId (runIdForSlot request.runId slot)
        (request.events slot.position))
    unfold runTake TakeRecord.slotRecord
    dsimp only
    rw [hfirst]
    rcases settleTake_kept (Arbiter.fresh_beginTake arbiter) request.conditionsId
      (runIdForSlot request.runId slot) (request.events slot.position) with
      ⟨hkept,hstop,hsame⟩ | ⟨hkept,hdiffer⟩
    · rw [← Arbiter.confirm_stop] at hstop
      exact iff_of_true ⟨hsame,runSlots_stopped request hstop slots⟩ (Or.inr hkept)
    · exact iff_of_false (fun hall => hdiffer hall.1) fun hall => hkept (hall.resolve_left (by simp))

end Loop

section Known
variable (library : TomlLibrary) (request : CheckRequest)

lemma mapM_stored {records : List SlotRecord}
    (h : ∀ record ∈ records, technicalResult record.stored = some record.technical) :
    (records.map SlotRecord.stored).mapM technicalResult = some (records.map SlotRecord.technical) := by
  induction records with
  | nil => rfl
  | cons record records ih =>
    obtain ⟨hrecord,hrecords⟩ := List.forall_mem_cons.mp h
    rw [List.map_cons,List.mapM_cons,hrecord,ih hrecords]
    rfl

lemma runRequest_confirmed (h : (runRequest library request).1.confirmed = true) :
    ∃ summary, summarizeCheckResults ((slotRecords request).map SlotRecord.technical) = some summary ∧
      runRequest library request =
        ({ perTake := (slotRecords request).map SlotRecord.outcome, confirmed := true,
           requestId := request.requestId, exitCode := summary.exitCode, linearComplete := summary.linearComplete },
         some (library.print (formatRequestSummary (summaryDocument request summary)))) := by
  unfold runRequest at h ⊢
  dsimp only at h ⊢
  split at h
  · cases h
  · rename_i summary hsummary
    split at h
    · cases h
    · rename_i hpublished
      rw [hsummary]
      exact ⟨summary,rfl,if_neg hpublished⟩

/-- A summary that can be read gives the rows of its takes back. -/
lemma known_summary {summary : CheckTechnicalSummary}
    (hsummary : summarizeCheckResults ((slotRecords request).map SlotRecord.technical) = some summary)
    (hsize : library.size (library.print (formatRequestSummary (summaryDocument request summary))) ≤
      maxRequestSummaryBytes) :
    known library request.requestId
        (some (library.print (formatRequestSummary (summaryDocument request summary)))) =
      { perTake := (slotRecords request).map fun record => knownTake record.stored, confirmed := true,
        requestId := request.requestId, exitCode := summary.exitCode, known := true,
        linearComplete := summary.linearComplete } := by
  have hrecorded := runSlots_recorded request {} (planMaterials request.takes request.timelines)
  have hread : readRequestSummary library
      (some (library.print (formatRequestSummary (summaryDocument request summary)))) =
      .ok (summaryDocument request summary) := by
    unfold readRequestSummary
    dsimp only
    rw [if_neg (Nat.not_lt.mpr hsize),library.parse_print]
    refine parseRequestSummary_format fun take hin => ?_
    obtain ⟨record,hrecord,rfl⟩ := List.mem_map.mp hin
    exact (hrecorded record hrecord).kind
  have hresults : (summaryDocument request summary).takes.mapM technicalResult =
      some ((slotRecords request).map SlotRecord.technical) :=
    mapM_stored fun record hin => (hrecorded record hin).technical
  have htechnical : technicalSummary (summaryDocument request summary) = some summary := by
    unfold technicalSummary
    rw [hresults,Option.bind_some,hsummary]
  unfold known
  rw [hread]
  dsimp only
  rw [htechnical]
  simp [summaryDocument,List.map_map,Function.comp_def]

/-- The answer to a request that was run to its confirmation is the outcome of the run exactly when its
summary can be read, and no take started or the first one keeps its diagnostic. -/
theorem known_iff_diagnosticKept (h : (runRequest library request).1.confirmed = true) :
    ((known library request.requestId (runRequest library request).2).perTake =
        (runRequest library request).1.perTake ∧
      (known library request.requestId (runRequest library request).2).confirmed =
        (runRequest library request).1.confirmed ∧
      (known library request.requestId (runRequest library request).2).linearComplete =
        (runRequest library request).1.linearComplete ∧
      (known library request.requestId (runRequest library request).2).exitCode =
        (runRequest library request).1.exitCode) ↔
    (∀ text ∈ (runRequest library request).2, library.size text ≤ maxRequestSummaryBytes) ∧
    ∀ slot ∈ (planMaterials request.takes request.timelines).head?,
      (request.events slot.position).cancelledBefore = true ∨
        DiagnosticKept request.conditionsId (runIdForSlot request.runId slot) (request.events slot.position) := by
  obtain ⟨summary,hsummary,hrun⟩ := runRequest_confirmed library request h
  rw [hrun]
  dsimp only
  have hsome : planMaterials request.takes request.timelines ≠ [] := by
    intro hnone
    have hrecords : slotRecords request = [] := by
      unfold slotRecords
      rw [hnone]
      rfl
    rw [hrecords] at hsummary
    cases hsummary
  by_cases hsize : library.size (library.print (formatRequestSummary (summaryDocument request summary))) ≤
      maxRequestSummaryBytes
  · rw [known_summary library request hsummary hsize]
    have hrows : (slotRecords request).map (fun record => knownTake record.stored) =
        (slotRecords request).map SlotRecord.outcome ↔
          ∀ record ∈ slotRecords request, knownTake record.stored = record.outcome := List.map_inj_left
    dsimp only
    rw [hrows]
    unfold slotRecords
    obtain ⟨slot,slots,hslots⟩ := List.exists_cons_of_ne_nil hsome
    rw [hslots,runSlots_known request rfl slot slots]
    simp [hsize]
  · refine iff_of_false ?_ fun hall => hsize (hall.1 _ rfl)
    rintro ⟨hrows,-⟩
    have hnone : (known library request.requestId
        (some (library.print (formatRequestSummary (summaryDocument request summary))))).perTake = [] := by
      unfold known readRequestSummary
      dsimp only
      rw [if_pos (Nat.lt_of_not_le hsize)]
    rw [hnone,eq_comm,List.map_eq_nil_iff] at hrows
    have hlength := length_runSlots request {} (planMaterials request.takes request.timelines)
    unfold slotRecords at hrows
    rw [hrows] at hlength
    exact hsome (List.length_eq_zero_iff.mp hlength.symm)

/-- A library that keeps the documents as they are, each of one kilobyte. -/
def plainLibrary : TomlLibrary where
  Text := Toml
  print := id
  parse := some
  size _ := 1024
  parse_print _ := rfl

/-- A request of one take, with what its execution gives. -/
def requestOfTake (executed : Except CheckExecutionError CheckExecutionEvidence) : CheckRequest where
  requestId := "request"
  conditionsId := "conditions"
  runId := "run"
  takes := ["take"]
  events _ := { executed, sha256 := some "material" }

/-- A take that fails before any terminal arrives is answered as it was. -/
theorem known_iff_diagnosticKept_timeout :
    (known plainLibrary "request" (runRequest plainLibrary (requestOfTake (.error .runtimeTimeout))).2).perTake =
      (runRequest plainLibrary (requestOfTake (.error .runtimeTimeout))).1.perTake := by
  have hkept := known_iff_diagnosticKept plainLibrary (requestOfTake (.error .runtimeTimeout)) (by decide)
  refine (hkept.mpr ⟨fun text htext => ?_,fun slot hslot => ?_⟩).1
  · cases htext
    decide
  · cases hslot
    exact Or.inr (Or.inr ⟨rfl,trivial⟩)

/-- A take of one frame that ends naturally with all of its evidence. -/
def naturalTake : CheckExecutionEvidence where
  replay := {
    runId := "run", takeId := "take", recordingFrames := 1, inputsConsumed := 1, succeeded := true,
    code := "replay_evidence_streamed", traversal := some "linear", playback := some "natural_end"
    identified := by decide }
  preserved := some ⟨true,true⟩

/-- A take that ended naturally is answered with a diagnostic that its outcome does not have. -/
theorem known_naturalEnd_differs :
    ¬∀ (library : TomlLibrary) (request : CheckRequest), (runRequest library request).1.confirmed = true →
      (known library request.requestId (runRequest library request).2).perTake =
        (runRequest library request).1.perTake := by
  intro hall
  have hsame := hall plainLibrary (requestOfTake (.ok naturalTake)) (by decide)
  revert hsame
  decide

end Known
end AytherRuntime.Check
