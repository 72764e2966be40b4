import AytherRuntime.Destination.Ledger

/-! What a supervisor does with the ledger of its destination: it recovers the runs left open, restores
the occupancy and admits its request. -/
namespace AytherRuntime.Destination

/-- `SessionOccupancy`: the request and the run that occupy the destination. -/
structure SessionOccupancy where
  requestId : String := ""
  runId : String := ""
  deriving DecidableEq, Repr

inductive SessionAdmissionDecision
  | accepted | busy | invalidRequest
  deriving DecidableEq, Repr

namespace SessionOccupancy
variable (occupancy : SessionOccupancy)

def occupied : Bool := occupancy.runId ≠ ""

/-- `SessionOccupancy::admit` -/
def admitRequest (request : Request) (runId : String) : SessionOccupancy × SessionAdmissionDecision :=
  if request.requestId = "" ∨ runId = "" then (occupancy,.invalidRequest)
  else if occupancy.occupied then (occupancy,.busy)
  else ({ requestId := request.requestId, runId },.accepted)

def observe (run : Run) : SessionOccupancy × Bool :=
  if !occupancy.occupied ∨ run.requestId ≠ occupancy.requestId ∨ run.runId ≠ occupancy.runId then
    (occupancy,false)
  else if run.phase = .closed ∧ run.cessationConfirmed then ({},true)
  else (occupancy,true)

end SessionOccupancy

/-- `restore_check_occupancy`, over the entries of the ledger. -/
def restoreCheckOccupancy : List Entry → SessionOccupancy → Option SessionOccupancy
  | [], occupancy => some occupancy
  | entry :: entries, occupancy =>
    if entry.run.phase = .closed then restoreCheckOccupancy entries occupancy
    else if occupancy.occupied then none
    else
      let admitted := occupancy.admitRequest entry.request entry.run.runId
      let observed := admitted.1.observe entry.run
      if admitted.2 = .accepted ∧ observed.2 then restoreCheckOccupancy entries observed.1 else none

structure CheckRequestDraft where
  request : Request
  run : Run
  deriving DecidableEq, Repr

/-- `CheckAdmissionOutcome`; an error of the ledger is `failed`. -/
inductive CheckAdmission
  | accepted (run : Run)
  | known (run : Option Run)
  | identityConflict (run : Option Run)
  | busy (activeRequestId activeRunId : String)
  | invalid
  | capacityExceeded
  | failed
  deriving DecidableEq, Repr

section Operations
variable (bytes : DocumentBytes) (ledger : RequestLedger)

/-- `admit_check_request`, once the request is new and the destination free. -/
def registerDraft (occupancy : SessionOccupancy) (draft : CheckRequestDraft)
    (outcome : Publication) : Written CheckAdmission × SessionOccupancy :=
  let registered := ledger.registerRequest bytes draft.request draft.run outcome
  match registered.result with
  | none => ({ registered with result := .failed },occupancy)
  | some { decision := .accepted, run := some run } =>
    let admitted := occupancy.admitRequest draft.request draft.run.runId
    if admitted.2 = .accepted then ({ registered with result := .accepted run },admitted.1)
    else ({ registered with result := .failed },admitted.1)
  | some _ => ({ registered with result := .invalid },occupancy)

/-- `admit_check_request` -/
def admitCheckRequest (occupancy : SessionOccupancy) (draft : CheckRequestDraft)
    (outcome : Publication) : Written CheckAdmission × SessionOccupancy :=
  let inspected := ledger.inspectRequest bytes draft.request draft.run
  match inspected.decision with
  | .known => ({ ledger, result := .known inspected.run },occupancy)
  | .identityConflict => ({ ledger, result := .identityConflict inspected.run },occupancy)
  | .invalid => ({ ledger, result := .invalid },occupancy)
  | .capacityExceeded => ({ ledger, result := .capacityExceeded },occupancy)
  | .accepted =>
    if occupancy.occupied then
      ({ ledger, result := .busy occupancy.requestId occupancy.runId },occupancy)
    else registerDraft bytes ledger occupancy draft outcome

/-- `recover_interrupted_run`; its checkpoint may be out of reach. -/
def recoverInterruptedRun (requestId : String) (reachable : Bool) (outcome : Publication) :
    Written (Option Run) :=
  match ledger.findRun requestId with
  | none => { ledger, result := none }
  | some stored =>
    if stored.phase = .closed ∨ !reachable then { ledger, result := none }
    else
      let interrupted := { stored with evidenceResult := .incomplete }
      let updated := ledger.updateRun bytes interrupted outcome
      { updated with result := if updated.result = some true then some interrupted else none }

/-- How a run left open is closed. -/
def closeRecovered (run : Run) : Run :=
  { run with
    phase := .closed
    evidenceResult := .incomplete
    playbackResult :=
      if run.playbackResult = .inProgress ∨ run.playbackResult = .notStarted then .error
      else run.playbackResult
    cessationConfirmed := false }

/-- `recover_open_runs`, for one of the runs that were open. -/
def recoverOpenRun (run : Run) (reachable : Bool) (first second : Publication) : Written Unit :=
  let recovered := recoverInterruptedRun bytes ledger run.requestId reachable first
  let updated := recovered.ledger.updateRun bytes (closeRecovered (recovered.result.getD run)) second
  { ledger := updated.ledger, writes := recovered.writes ++ updated.writes, result := () }

/-- The runs that `recover_open_runs` goes through. -/
def RequestLedger.openRuns : List Run :=
  (ledger.entries.map Entry.run).filter fun run => run.phase ≠ .closed

end Operations

/-- The request is new to the ledger and its occupancy is free, so that it would be registered. -/
def Registers (bytes : DocumentBytes) (ledger : RequestLedger) (occupancy : SessionOccupancy)
    (draft : CheckRequestDraft) : Prop :=
  (ledger.inspectRequest bytes draft.request draft.run).decision = .accepted ∧
    occupancy.occupied = false

section Lemmas
variable {bytes : DocumentBytes} {ledger : RequestLedger}

lemma Keeps.trans {α β : Type} {first : Written α} {second : Written β} (hfirst : Keeps ledger first)
    (hsecond : Keeps first.ledger second) :
    Keeps ledger { second with writes := first.writes ++ second.writes } where
  memory := hsecond.memory.trans hfirst.memory
  writes := by
    intro candidate hcandidate
    rcases List.mem_append.mp hcandidate with hin | hin
    · exact hfirst.writes candidate hin
    · exact (hsecond.writes candidate hin).trans hfirst.memory

lemma Keeps.result {α β : Type} {written : Written α} (h : Keeps ledger written) (result : β) :
    Keeps ledger { written with result } := ⟨h.memory,h.writes⟩

/-- A recovered run keeps every request. -/
lemma recoverOpenRun_keeps (bytes : DocumentBytes) (ledger : RequestLedger) (run : Run)
    (reachable : Bool) (first second : Publication) :
    Keeps ledger (recoverOpenRun bytes ledger run reachable first second) := by
  have hrecovered : Keeps ledger
      (recoverInterruptedRun bytes ledger run.requestId reachable first) := by
    unfold recoverInterruptedRun
    split
    · exact .refl _
    · split_ifs
      · exact .refl _
      · exact (updateRun_keeps _ _ _ first).result _
  exact (hrecovered.trans (updateRun_keeps _ _ _ second)).result ()

/-- What an admission can do: it leaves the ledger as it is, or it registers the request. -/
lemma admitCheckRequest_cases (bytes : DocumentBytes) (ledger : RequestLedger)
    (occupancy : SessionOccupancy) (draft : CheckRequestDraft) (outcome : Publication) :
    ((admitCheckRequest bytes ledger occupancy draft outcome).1.writes = [] ∧
        ∀ run, (admitCheckRequest bytes ledger occupancy draft outcome).1.result ≠ .accepted run) ∨
      (Registers bytes ledger occupancy draft ∧
        (∀ candidate ∈ (admitCheckRequest bytes ledger occupancy draft outcome).1.writes,
          candidate.requests = ledger.requests ++ [{ draft.request with admission := .accepted }]) ∧
        ∀ run, (admitCheckRequest bytes ledger occupancy draft outcome).1.result = .accepted run →
          (admitCheckRequest bytes ledger occupancy draft outcome).1.writes =
            [(admitCheckRequest bytes ledger occupancy draft outcome).1.ledger]) := by
  unfold admitCheckRequest
  dsimp only
  split
  · exact Or.inl ⟨rfl,fun run h => nomatch h⟩
  · exact Or.inl ⟨rfl,fun run h => nomatch h⟩
  · exact Or.inl ⟨rfl,fun run h => nomatch h⟩
  · exact Or.inl ⟨rfl,fun run h => nomatch h⟩
  · rename_i hnew
    split_ifs with hoccupied
    · exact Or.inl ⟨rfl,fun run h => nomatch h⟩
    · right
      refine ⟨⟨hnew,by simpa using hoccupied⟩,?_⟩
      obtain ⟨hwrites,haccepted⟩ := registerRequest_cases bytes ledger
        draft.request draft.run outcome
      unfold registerDraft
      dsimp only
      split
      · exact ⟨hwrites,fun run h => nomatch h⟩
      · rename_i run hresult
        split_ifs
        · exact ⟨hwrites,fun _ _ => haccepted _ hresult rfl⟩
        · exact ⟨hwrites,fun run h => nomatch h⟩
      · exact ⟨hwrites,fun run h => nomatch h⟩

end Lemmas

end AytherRuntime.Destination
