import AytherRuntime.Coverage.Inventory
import AytherRuntime.Destination.Ledger

/-! The coverage report of a run: the assignments that were detected and the pending ones. -/
namespace AytherRuntime.Binary.Assignments
open Codec
open Mix (maxReferenceMaterials)
open Destination (EvidenceResult)

structure StageObservation where
  extent : ObservationExtent := .notObserved
  count : Field UInt64 := {}
  observationFact : Field FactId := {}
  deriving DecidableEq

structure Coverage where
  runId : Bytes
  assignmentId : AssignmentId
  load : StageObservation := {}
  candidates : StageObservation := {}
  selections : StageObservation := {}
  playbackStarts : StageObservation := {}
  playbackAdvances : StageObservation := {}
  playbackEnds : StageObservation := {}
  preexistingOccurrences : StageObservation := {}
  deriving DecidableEq

inductive StageCoverage
  | unknown | observedZero | observed
  deriving DecidableEq, Repr

structure AssignmentStageSummary where
  assignmentId : AssignmentId
  candidates : StageCoverage := .unknown
  selections : StageCoverage := .unknown
  playbackStarts : StageCoverage := .unknown
  playbackAdvances : StageCoverage := .unknown
  playbackEnds : StageCoverage := .unknown

structure AssignmentCoverageReportRequest where
  runId : Bytes
  detectionSourceExtent : ObservationExtent := .notObserved
  evidenceResult : EvidenceResult := .pending

inductive AssignmentCoverageReportStatus
  | summarized | invalidRequest | invalidInventory | invalidCoverage | duplicateCoverage | capacityExceeded
  deriving DecidableEq, Repr

structure AssignmentCoverageReport where
  status : AssignmentCoverageReportStatus := .invalidRequest
  runId : Bytes
  detectionSourceExtent : ObservationExtent
  evidenceResult : EvidenceResult
  observedDetectedCount : ℕ := 0
  detectedCount : Field ℕ := {}
  pendingAssignments : List AssignmentId := []
  partialCoverage : Bool := false

section Report

/-- `valid` of a stage of a run -/
def validStage (stage : StageObservation) (run : Bytes) : Bool :=
  consistentAvailability stage.count && validFact stage.observationFact &&
    stage.observationFact.value.all (fun fact => fact.runId = run) &&
    match stage.extent with
    | .notObserved => stage.count.value.isNone
    | .partialExtent => true
    | .complete => stage.count.value.isSome && stage.observationFact.value.isSome

/-- `well_formed` of a coverage row -/
def wellFormedCoverage (coverage : Coverage) : Bool :=
  identifier coverage.runId && identifier coverage.assignmentId.packContentId &&
    validStage coverage.load coverage.runId && validStage coverage.candidates coverage.runId &&
    validStage coverage.selections coverage.runId && validStage coverage.playbackStarts coverage.runId &&
    validStage coverage.playbackAdvances coverage.runId && validStage coverage.playbackEnds coverage.runId &&
    validStage coverage.preexistingOccurrences coverage.runId

def classify (stage : StageObservation) : StageCoverage :=
  if stage.count.value.any (0 < ·) then .observed
  else if stage.extent = .complete ∧ stage.count.value.isSome then .observedZero
  else .unknown

def summarizeAssignmentStages (coverage : Coverage) : Option AssignmentStageSummary :=
  if !wellFormedCoverage coverage then none
  else some ⟨coverage.assignmentId,classify coverage.candidates,classify coverage.selections,
    classify coverage.playbackStarts,classify coverage.playbackAdvances,classify coverage.playbackEnds⟩

def AssignmentStageSummary.detected (stages : AssignmentStageSummary) : Bool :=
  stages.candidates = .observed || stages.selections = .observed || stages.playbackStarts = .observed ||
    stages.playbackAdvances = .observed || stages.playbackEnds = .observed

/-- The assignments of an inventory, each once. -/
def addAssignment (assignmentIds : List AssignmentId) (assignment : Assignment) :
    Except AssignmentCoverageReportStatus (List AssignmentId) :=
  if !wellFormedAssignment assignment then .error .invalidInventory
  else if assignment.id ∈ assignmentIds then .ok assignmentIds
  else .ok (assignmentIds ++ [assignment.id])

/-- The assignments that are detected and those that have a row. -/
structure Rows where
  covered : List AssignmentId := []
  coverage : List AssignmentId := []

def addRow (runId : Bytes) (assignmentIds : List AssignmentId) (rows : Rows) (coverage : Coverage) :
    Except AssignmentCoverageReportStatus Rows :=
  if !wellFormedCoverage coverage ∨ coverage.runId ≠ runId ∨ coverage.assignmentId ∉ assignmentIds then
    .error .invalidCoverage
  else if coverage.assignmentId ∈ rows.coverage then .error .duplicateCoverage
  else
    match summarizeAssignmentStages coverage with
    | none => .error .invalidCoverage
    | some stages => .ok
      { covered := if stages.detected then rows.covered ++ [coverage.assignmentId] else rows.covered
        coverage := rows.coverage ++ [coverage.assignmentId] }

variable (request : AssignmentCoverageReportRequest) (inventory : List Assignment) (coverageRows : List Coverage)

/-- The report of a request that is not summarized. -/
def unreported (status : AssignmentCoverageReportStatus) : AssignmentCoverageReport where
  status
  runId := request.runId
  detectionSourceExtent := request.detectionSourceExtent
  evidenceResult := request.evidenceResult

/-- The report of the assignments and of those that are detected. -/
def report (assignmentIds covered : List AssignmentId) : AssignmentCoverageReport :=
  let pending := assignmentIds.filter (· ∉ covered)
  { unreported request .summarized with
    observedDetectedCount := covered.length
    detectedCount :=
      match request.detectionSourceExtent with
      | .complete => known covered.length
      | .partialExtent => unknown (reason "partial_detection_source")
      | .notObserved => unknown (reason "detection_source_not_observed")
    pendingAssignments := pending
    partialCoverage := pending ≠ [] }

/-- `summarize_assignment_coverage` -/
def summarizeAssignmentCoverage : AssignmentCoverageReport :=
  if !identifier request.runId ∨ (request.detectionSourceExtent = .notObserved ∧ coverageRows ≠ []) then
    unreported request .invalidRequest
  else if maxReferenceMaterials < inventory.length ∨ maxReferenceMaterials < coverageRows.length then
    unreported request .capacityExceeded
  else
    match inventory.foldlM addAssignment [] with
    | .error status => unreported request status
    | .ok assignmentIds =>
      match coverageRows.foldlM (addRow request.runId assignmentIds) {} with
      | .error status => unreported request status
      | .ok rows => report request assignmentIds rows.covered

end Report

section Detected
variable {request : AssignmentCoverageReportRequest} {inventory : List Assignment} {coverageRows : List Coverage}

/-- A stage that shows that an assignment was detected; its load and earlier occurrences do not. -/
def detected (coverage : Coverage) : Bool :=
  [coverage.candidates,coverage.selections,coverage.playbackStarts,coverage.playbackAdvances,
    coverage.playbackEnds].any fun stage => stage.count.value.any (0 < ·)

/-- The assignments whose row shows that they were detected. -/
def detectedAssignments (coverageRows : List Coverage) : List AssignmentId :=
  (coverageRows.filter detected).map Coverage.assignmentId

lemma classify_observed (stage : StageObservation) :
    decide (classify stage = .observed) = stage.count.value.any (0 < ·) := by
  unfold classify
  by_cases hpositive : stage.count.value.any (0 < ·) = true
  · rw [if_pos hpositive,hpositive]
    rfl
  · rw [if_neg hpositive,Bool.eq_false_of_not_eq_true hpositive]
    split <;> rfl

lemma summarizeAssignmentStages_detected {coverage : Coverage} {stages : AssignmentStageSummary}
    (h : summarizeAssignmentStages coverage = some stages) : stages.detected = detected coverage := by
  unfold summarizeAssignmentStages at h
  split at h
  · exact absurd h (by simp)
  · rw [← Option.some.inj h]
    simp only [AssignmentStageSummary.detected,detected,classify_observed,List.any_cons,List.any_nil,Bool.or_false,
      Bool.or_assoc]

/-- The assignments of an inventory are its distinct ones. -/
lemma addAssignment_foldlM {assignmentIds : List AssignmentId} (hstart : assignmentIds.Nodup)
    {last : List AssignmentId} (h : inventory.foldlM addAssignment assignmentIds = .ok last) :
    last.Nodup ∧ ∀ id, id ∈ last ↔ id ∈ assignmentIds ∨ id ∈ inventory.map Assignment.id := by
  induction inventory generalizing assignmentIds with
  | nil =>
    obtain rfl : assignmentIds = last := Except.ok.inj h
    exact ⟨hstart,fun id => by simp⟩
  | cons assignment inventory ih =>
    rw [List.foldlM_cons] at h
    unfold addAssignment at h
    by_cases hwell : (!wellFormedAssignment assignment) = true
    · rw [if_pos hwell] at h
      exact nomatch h
    · rw [if_neg hwell] at h
      by_cases hseen : assignment.id ∈ assignmentIds
      · rw [if_pos hseen] at h
        obtain ⟨hnodup,hmem⟩ := ih hstart h
        refine ⟨hnodup,fun id => ?_⟩
        rw [hmem id,List.map_cons,List.mem_cons]
        constructor
        · exact Or.imp_right Or.inr
        · rintro (hold | rfl | hlater)
          · exact Or.inl hold
          · exact Or.inl hseen
          · exact Or.inr hlater
      · rw [if_neg hseen] at h
        obtain ⟨hnodup,hmem⟩ := ih (hstart.append (List.nodup_singleton _) (List.disjoint_singleton.mpr hseen)) h
        refine ⟨hnodup,fun id => ?_⟩
        rw [hmem id,List.mem_append,List.mem_singleton,List.map_cons,List.mem_cons,or_assoc]

lemma foldlM_addAssignment_ne_summarized {assignmentIds : List AssignmentId} :
    inventory.foldlM addAssignment assignmentIds ≠ .error .summarized := by
  induction inventory generalizing assignmentIds with
  | nil => exact nofun
  | cons assignment inventory ih =>
    rw [List.foldlM_cons]
    unfold addAssignment
    split_ifs
    · exact nofun
    · exact ih
    · exact ih

/-- A row that is taken is of a new assignment of the inventory. -/
lemma addRow_ok {runId : Bytes} {assignmentIds : List AssignmentId} {rows next : Rows} {coverage : Coverage}
    (h : addRow runId assignmentIds rows coverage = .ok next) :
    coverage.assignmentId ∈ assignmentIds ∧ coverage.assignmentId ∉ rows.coverage ∧
      next = ⟨rows.covered ++ detectedAssignments [coverage],rows.coverage ++ [coverage.assignmentId]⟩ := by
  unfold addRow at h
  split at h
  · exact nomatch h
  · rename_i hvalid
    obtain ⟨hwell,_,hmem⟩ : _ ∧ _ ∧ coverage.assignmentId ∈ assignmentIds := by
      simpa only [not_or,not_not] using hvalid
    split at h
    · exact nomatch h
    · rename_i hnew
      split at h
      · exact nomatch h
      · rename_i stages hstages
        refine ⟨hmem,hnew,?_⟩
        rw [← Except.ok.inj h,summarizeAssignmentStages_detected hstages]
        cases hdetected : detected coverage <;> simp [detectedAssignments,hdetected]

lemma foldlM_addRow_ne_summarized {runId : Bytes} {assignmentIds : List AssignmentId} {rows : Rows} :
    coverageRows.foldlM (addRow runId assignmentIds) rows ≠ .error .summarized := by
  induction coverageRows generalizing rows with
  | nil => exact nofun
  | cons coverage coverageRows ih =>
    rw [List.foldlM_cons]
    unfold addRow
    split_ifs
    · exact nofun
    · exact nofun
    · cases summarizeAssignmentStages coverage with
      | none => exact nofun
      | some stages => exact ih

/-- The rows that are taken are of different assignments of the inventory. -/
lemma addRow_foldlM {runId : Bytes} {assignmentIds : List AssignmentId} {rows last : Rows}
    (hstart : rows.coverage.Nodup) (h : coverageRows.foldlM (addRow runId assignmentIds) rows = .ok last) :
    last.covered = rows.covered ++ detectedAssignments coverageRows ∧
      (rows.coverage ++ coverageRows.map Coverage.assignmentId).Nodup ∧
      ∀ coverage ∈ coverageRows, coverage.assignmentId ∈ assignmentIds := by
  induction coverageRows generalizing rows with
  | nil =>
    obtain rfl : rows = last := Except.ok.inj h
    exact ⟨(List.append_nil _).symm,by rwa [List.map_nil,List.append_nil],List.forall_mem_nil _⟩
  | cons coverage coverageRows ih =>
    rw [List.foldlM_cons] at h
    cases hrow : addRow runId assignmentIds rows coverage with
    | error status =>
      rw [hrow] at h
      exact nomatch h
    | ok next =>
      obtain ⟨hmem,hnew,rfl⟩ := addRow_ok hrow
      rw [hrow] at h
      obtain ⟨hcovered,hnodup,hlater⟩ :=
        ih (hstart.append (List.nodup_singleton _) (List.disjoint_singleton.mpr hnew)) h
      refine ⟨?_,?_,List.forall_mem_cons.mpr ⟨hmem,hlater⟩⟩
      · rw [hcovered,List.append_assoc]
        unfold detectedAssignments
        rw [← List.map_append,← List.filter_append,List.singleton_append]
      · rwa [List.map_cons,List.append_cons]

/-- The assignments that are not detected and the detected ones are all of them. -/
lemma pending_perm {assignmentIds detected : List AssignmentId} (hdistinct : assignmentIds.Nodup)
    (honce : detected.Nodup) (hof : ∀ id ∈ detected, id ∈ assignmentIds) :
    (detected ++ assignmentIds.filter (· ∉ detected)).Perm assignmentIds := by
  have hdisjoint : detected.Disjoint (assignmentIds.filter (· ∉ detected)) := by
    intro id hid hpending
    rw [List.mem_filter,decide_eq_true_eq] at hpending
    exact hpending.2 hid
  rw [List.perm_ext_iff_of_nodup (honce.append (hdistinct.filter _) hdisjoint) hdistinct]
  intro id
  rw [List.mem_append,List.mem_filter,decide_eq_true_eq]
  constructor
  · rintro (hid | ⟨hid,_⟩)
    · exact hof id hid
    · exact hid
  · intro hid
    by_cases hin : id ∈ detected
    · exact Or.inl hin
    · exact Or.inr ⟨hid,hin⟩

/-- In a report that is accepted every assignment of the inventory is detected or pending, and none is both. -/
lemma summarizeAssignmentCoverage_partition
    (h : (summarizeAssignmentCoverage request inventory coverageRows).status = .summarized) :
    (summarizeAssignmentCoverage request inventory coverageRows).observedDetectedCount =
        (detectedAssignments coverageRows).length ∧
      (detectedAssignments coverageRows ++
        (summarizeAssignmentCoverage request inventory coverageRows).pendingAssignments).Perm
          (inventory.map Assignment.id).dedup := by
  unfold summarizeAssignmentCoverage at h ⊢
  by_cases hrequest : (!identifier request.runId) = true ∨
      (request.detectionSourceExtent = .notObserved ∧ coverageRows ≠ [])
  · rw [if_pos hrequest] at h
    exact nomatch h
  · rw [if_neg hrequest] at h ⊢
    by_cases hlong : maxReferenceMaterials < inventory.length ∨ maxReferenceMaterials < coverageRows.length
    · rw [if_pos hlong] at h
      exact nomatch h
    · rw [if_neg hlong] at h ⊢
      cases hinventory : inventory.foldlM addAssignment [] with
      | error status =>
        rw [hinventory] at h
        obtain rfl : status = .summarized := h
        exact absurd hinventory foldlM_addAssignment_ne_summarized
      | ok assignmentIds =>
        rw [hinventory] at h
        dsimp only at h ⊢
        cases hrows : coverageRows.foldlM (addRow request.runId assignmentIds) {} with
        | error status =>
          rw [hrows] at h
          obtain rfl : status = .summarized := h
          exact absurd hrows foldlM_addRow_ne_summarized
        | ok rows =>
          obtain ⟨hdistinct,hmem⟩ := addAssignment_foldlM List.nodup_nil hinventory
          obtain ⟨hcovered,hnodup,hrow⟩ := addRow_foldlM List.nodup_nil hrows
          dsimp only
          rw [show rows.covered = detectedAssignments coverageRows from hcovered]
          have honce : (detectedAssignments coverageRows).Nodup :=
            hnodup.sublist (List.filter_sublist.map Coverage.assignmentId)
          have hof : ∀ id ∈ detectedAssignments coverageRows, id ∈ assignmentIds := by
            intro id hid
            obtain ⟨coverage,hcoverage,rfl⟩ := List.mem_map.mp hid
            exact hrow coverage (List.mem_filter.mp hcoverage).1
          have hids : assignmentIds.Perm (inventory.map Assignment.id).dedup := by
            rw [List.perm_ext_iff_of_nodup hdistinct (List.nodup_dedup _)]
            intro id
            rw [hmem id,List.mem_dedup]
            simp
          exact ⟨rfl,(pending_perm hdistinct honce hof).trans hids⟩

/-- What is counted of an inventory does not depend on the order of its observations, and a report shares its
assignments out. -/
theorem assignments_counted :
    (∀ reference (observations observations' : List Assignment), observations.Perm observations' →
      OfPack reference.packContentId observations →
        (summarizeAssignmentInventory reference observations).counted =
          (summarizeAssignmentInventory reference observations').counted) ∧
    (∀ reference (observations : List Assignment), OfPack reference.packContentId observations →
      (Referenced reference observations →
        Counted observations (summarizeAssignmentInventory reference observations)) ∧
      (¬Referenced reference observations →
        (summarizeAssignmentInventory reference observations).observedAssignmentCount = 0 ∧
          (summarizeAssignmentInventory reference observations).duplicateObservationCount = 0 ∧
          (summarizeAssignmentInventory reference observations).status =
            if invalidReference reference observations then .invalidReference else .capacityExceeded)) ∧
    ∀ request (inventory : List Assignment) (coverageRows : List Coverage),
      (summarizeAssignmentCoverage request inventory coverageRows).status = .summarized →
        (summarizeAssignmentCoverage request inventory coverageRows).observedDetectedCount =
            (detectedAssignments coverageRows).length ∧
          (detectedAssignments coverageRows ++
            (summarizeAssignmentCoverage request inventory coverageRows).pendingAssignments).Perm
              (inventory.map Assignment.id).dedup :=
  ⟨fun reference _ _ hperm hpack => summarizeAssignmentInventory_perm reference hperm hpack,
    fun reference _ hpack => ⟨fun href => summarizeAssignmentInventory_counted reference href hpack,
      summarizeAssignmentInventory_unreferenced reference⟩,
    fun _ _ _ hreport => summarizeAssignmentCoverage_partition hreport⟩

/-- Two assignments of a pack, the first one observed twice, and the row that shows the selection of the first one. -/
def observedTwice : List Assignment :=
  [{ id := ⟨[65],0⟩, loadState := .loaded },
    { id := ⟨[65],1⟩, loadState := .rejected, loadReason := known (reason "missing_material") },
    { id := ⟨[65],0⟩, loadState := .loaded }]

def selectedRow : Coverage where
  runId := [114]
  assignmentId := ⟨[65],0⟩
  selections := { extent := .partialExtent, count := known 2 }

lemma observedTwice_ofPack : OfPack [65] observedTwice := by
  unfold OfPack
  decide +kernel

theorem assignments_counted_twice :
    (summarizeAssignmentInventory ⟨[65],.observedInventory,none,.complete⟩ observedTwice).counted =
        (summarizeAssignmentInventory ⟨[65],.observedInventory,none,.complete⟩ observedTwice.reverse).counted ∧
      Counted observedTwice (summarizeAssignmentInventory ⟨[65],.observedInventory,none,.complete⟩ observedTwice) ∧
      (summarizeAssignmentInventory ⟨[65],.fixedReference,none,.complete⟩ observedTwice).status = .invalidReference ∧
      (detectedAssignments [selectedRow] ++ (summarizeAssignmentCoverage ⟨[114],.partialExtent,.pending⟩ observedTwice
        [selectedRow]).pendingAssignments).Perm [⟨[65],1⟩,⟨[65],0⟩] := by
  obtain ⟨hperm,hcounted,hshared⟩ := assignments_counted
  have href : Referenced ⟨[65],.observedInventory,none,.complete⟩ observedTwice := ⟨by decide,by decide⟩
  have hunref : ¬Referenced ⟨[65],.fixedReference,none,.complete⟩ observedTwice := fun h => absurd h.1 (by decide)
  refine ⟨hperm _ _ _ (List.reverse_perm _).symm observedTwice_ofPack,(hcounted _ _ observedTwice_ofPack).1 href,?_,?_⟩
  · rw [((hcounted _ _ observedTwice_ofPack).2 hunref).2.2]
    decide
  · exact (hshared _ _ _ (by decide +kernel)).2

/-- A fixed reference without its count is refused before the observations are counted. -/
theorem assignments_uncounted : ¬∀ reference (observations : List Assignment),
    OfPack reference.packContentId observations →
      (summarizeAssignmentInventory reference observations).observedAssignmentCount =
        (observations.map Assignment.id).dedup.length := by
  intro hcounted
  refine absurd (hcounted ⟨[65],.fixedReference,none,.complete⟩ [{ id := ⟨[65],0⟩ }] fun assignment hmem => ?_)
    (by decide)
  rw [List.mem_singleton] at hmem
  subst hmem
  decide

end Detected
end AytherRuntime.Binary.Assignments
