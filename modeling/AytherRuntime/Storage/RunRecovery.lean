import AytherRuntime.Destination.Ledger
import AytherRuntime.Storage.CheckpointStore

/-! The recovery of the runs that an interrupted supervisor left open, and the checkpoint that it finds after a
run of publications and a crash. -/
namespace AytherRuntime.Storage
open Destination (RequestLedger Run DocumentBytes Publication Written Entry)

section Recovery

inductive RecoveredCheckpointState
  | absent | verified | unreadable
  deriving DecidableEq, Repr

structure InterruptedRunRecovery where
  run : Run
  checkpointState : RecoveredCheckpointState
  checkpoint : Option EvidenceCheckpoint := none
  automaticResumeAllowed : Bool := false
  deriving DecidableEq, Repr

inductive RunRecoveryError
  | requestNotFound | runAlreadyClosed | ledgerUpdateFailed | ioError
  deriving DecidableEq, Repr

variable (library : CheckpointLibrary) (bytes : DocumentBytes) (disk : Disk)

/-- What a path holds for a recovery; no result where its existence cannot be asked. -/
def openedCheckpoint (reads : ReadCalls) (path : Path) :
    Option (RecoveredCheckpointState × Option EvidenceCheckpoint) :=
  if reads.existsStatus = false then none
  else if (disk path).isNone then some (.absent,none)
  else
    match readCheckpoint library reads disk path with
    | .error _ => some (.unreadable,none)
    | .ok stored => some (.verified,some stored.checkpoint)

/-- `recover_interrupted_run` -/
def recoverInterruptedRun (ledger : RequestLedger) (requestId : String) (path : Path) (reads : ReadCalls)
    (outcome : Publication) : RequestLedger × Except RunRecoveryError InterruptedRunRecovery :=
  match ledger.findRun requestId with
  | none => (ledger,.error .requestNotFound)
  | some run =>
    if run.phase = .closed then (ledger,.error .runAlreadyClosed)
    else
      match openedCheckpoint library disk reads path with
      | none => (ledger,.error .ioError)
      | some (checkpointState,checkpoint) =>
        let run := { run with evidenceResult := .incomplete }
        let updated := ledger.updateRun bytes run outcome
        if updated.result = some true then (updated.ledger,.ok { run, checkpointState, checkpoint })
        else (updated.ledger,.error .ledgerUpdateFailed)

/-- Where the runner looks for the checkpoint of a run. -/
def recoveryPath (output : Path) (runId : String) : Path :=
  output ++ ["runs",runId,"checkpoints","latest"]

/-- The outcomes of the calls that one recovery makes. -/
structure RecoveryCalls where
  reads : ReadCalls := {}
  recovered : Publication := .published
  closed : Publication := .published

/-- An interrupted run is closed as incomplete, and nobody saw its process end. -/
def closeRecovered (run : Run) : Run :=
  { run with
    phase := .closed
    evidenceResult := .incomplete
    playbackResult :=
      if run.playbackResult = .inProgress ∨ run.playbackResult = .notStarted then .error else run.playbackResult
    cessationConfirmed := false }

/-- A run that was left open, and what its recovery found. -/
structure RecoveredRun where
  run : Run
  result : Except RunRecoveryError InterruptedRunRecovery

/-- The recovery of some runs, one after another. -/
def recoverRuns (output : Path) (calls : Run → RecoveryCalls) :
    RequestLedger → List Run → RequestLedger × List RecoveredRun
  | ledger, [] => (ledger,[])
  | ledger, run :: runs =>
    let recovered := recoverInterruptedRun library bytes disk ledger run.requestId
      (recoveryPath output run.runId) (calls run).reads (calls run).recovered
    let interrupted := match recovered.2 with
      | .ok recovery => recovery.run
      | .error _ => run
    let closed := recovered.1.updateRun bytes (closeRecovered interrupted) (calls run).closed
    let rest := recoverRuns output calls closed.ledger runs
    (rest.1,⟨run,recovered.2⟩ :: rest.2)

/-- The runs that a ledger has open. -/
def openRuns (ledger : RequestLedger) : List Run :=
  (ledger.entries.map Entry.run).filter fun run => run.phase ≠ .closed

/-- `RequestRun::recover_open_runs` -/
def recoverOpenRuns (output : Path) (calls : Run → RecoveryCalls) (ledger : RequestLedger) :
    RequestLedger × List RecoveredRun :=
  recoverRuns library bytes disk output calls ledger (openRuns ledger)

end Recovery

section Crash

/-- What a crash can leave in the middle of a call: nothing of it, the directory of the checkpoints, a
temporary beside the checkpoint, or a checkpoint that was replaced before the call could answer. -/
inductive Crashed (directory : Path) (disk : Disk) : Disk → Prop
  | unchanged : Crashed directory disk disk
  | directory : Crashed directory disk (disk.makeDirectory (checkpointDirectory directory))
  | temporary {base : Disk} (base_eq : base = disk ∨ base = disk.makeDirectory (checkpointDirectory directory))
      (process sequence : UInt64) (content : List UInt8) :
      Crashed directory disk (base.write (temporaryPath (checkpointDirectory directory) process sequence) content)
  | replaced {base : Disk} (base_eq : base = disk ∨ base = disk.makeDirectory (checkpointDirectory directory))
      (content : List UInt8) : Crashed directory disk (base.write (currentPath directory) content)

/-- A run that begins: its directory has no checkpoint yet. -/
structure EvidenceRun where
  output : Path
  runId : String
  disk : Disk
  unchecked : ∀ path, checkpointDirectory (output ++ ["runs",runId]) <+: path → disk path = none

namespace EvidenceRun
variable (library : CheckpointLibrary) (run : EvidenceRun)

def directory : Path := run.output ++ ["runs",run.runId]

/-- The checkpoints that the calls of a run publish, in their order. -/
def published (writes : List CheckpointWrite) : List EvidenceCheckpoint :=
  (writeCheckpoints library run.directory run.disk writes).2

/-- A disk that a crash can leave after the calls of a run. -/
def CrashesTo (writes : List CheckpointWrite) (disk : Disk) : Prop :=
  Crashed run.directory (writeCheckpoints library run.directory run.disk writes).1 disk

/-- The recovery finds the last of the checkpoints, verified, and none only where there is none. -/
def FindsLast (published : List EvidenceCheckpoint) (result : Except RunRecoveryError InterruptedRunRecovery) :
    Prop :=
  (∀ checkpoint ∈ published.getLast?, ∃ recovery, result = .ok recovery ∧ recovery.checkpointState = .verified ∧
    recovery.checkpoint = some checkpoint) ∧
  ∀ recovery, result = .ok recovery → recovery.checkpointState = .absent → published = []

lemma recoverRuns_runs (bytes : DocumentBytes) (disk : Disk) (output : Path) (calls : Run → RecoveryCalls)
    (ledger : RequestLedger) (runs : List Run) :
    (recoverRuns library bytes disk output calls ledger runs).2.map RecoveredRun.run = runs := by
  induction runs generalizing ledger with
  | nil => rfl
  | cons first runs ih =>
    unfold recoverRuns
    dsimp only
    rw [List.map_cons,ih]

/-- Each result is that of a recovery of its run, on some ledger. -/
lemma recoverRuns_result (bytes : DocumentBytes) (disk : Disk) (output : Path) (calls : Run → RecoveryCalls)
    (ledger : RequestLedger) (runs : List Run) :
    ∀ recovered ∈ (recoverRuns library bytes disk output calls ledger runs).2, ∃ before,
      recovered.result = (recoverInterruptedRun library bytes disk before recovered.run.requestId
        (recoveryPath output recovered.run.runId) (calls recovered.run).reads (calls recovered.run).recovered).2 := by
  induction runs generalizing ledger with
  | nil => intro recovered hrecovered; cases hrecovered
  | cons first runs ih =>
    intro recovered hrecovered
    unfold recoverRuns at hrecovered
    dsimp only at hrecovered
    rcases List.mem_cons.mp hrecovered with rfl | hlater
    · exact ⟨ledger,rfl⟩
    · exact ih _ recovered hlater

/-- A recovery finds nothing under a path that does not exist. -/
lemma recoverInterruptedRun_absent {bytes : DocumentBytes} {disk : Disk} {ledger : RequestLedger}
    {requestId : String} {path : Path} {reads : ReadCalls} {outcome : Publication}
    {recovery : InterruptedRunRecovery} (habsent : disk path = none)
    (h : (recoverInterruptedRun library bytes disk ledger requestId path reads outcome).2 = .ok recovery) :
    recovery.checkpointState = .absent := by
  unfold recoverInterruptedRun openedCheckpoint at h
  rw [habsent] at h
  grind

lemma writeCheckpoints_others {directory path : Path} (hdirectory : path ≠ checkpointDirectory directory)
    (hcurrent : path ≠ currentPath directory) (disk : Disk) (writes : List CheckpointWrite) :
    (writeCheckpoints library directory disk writes).1 path = disk path := by
  induction writes generalizing disk with
  | nil => rfl
  | cons write writes ih =>
    unfold writeCheckpoints
    exact (ih _).trans ((writeCheckpoint_leaves library disk directory write).others path hdirectory hcurrent)

/-- A crash leaves every name that is neither the checkpoint nor a temporary as it was. -/
lemma Crashed.others {directory path : Path} {before after : Disk} (h : Crashed directory before after)
    (hdirectory : path ≠ checkpointDirectory directory) (hcurrent : path ≠ currentPath directory)
    (htemporary : ∀ process sequence, path ≠ temporaryPath (checkpointDirectory directory) process sequence) :
    after path = before path := by
  have hmade : before.makeDirectory (checkpointDirectory directory) path = before path :=
    Function.update_of_ne hdirectory _ _
  cases h with
  | unchanged => rfl
  | directory => exact hmade
  | temporary base_eq process sequence content =>
    refine (Function.update_of_ne (htemporary process sequence) _ _).trans ?_
    rcases base_eq with rfl | rfl
    · rfl
    · exact hmade
  | replaced base_eq content =>
    refine (Function.update_of_ne hcurrent _ _).trans ?_
    rcases base_eq with rfl | rfl
    · rfl
    · exact hmade

lemma latest_ne_temporary (name : String) : "latest" ≠ ".ayther-durable-" ++ name := by
  intro hsame
  have htext := congrArg String.toList hsame
  simp [String.toList_append] at htext

/-- Nothing ever has the name that the recovery asks for. -/
lemma recoveryPath_none {writes : List CheckpointWrite} {disk : Disk} (h : run.CrashesTo library writes disk) :
    disk (recoveryPath run.output run.runId) = none := by
  have hpath : recoveryPath run.output run.runId = checkpointDirectory run.directory ++ ["latest"] := by
    simp [recoveryPath,checkpointDirectory,directory]
  have hdirectory : recoveryPath run.output run.runId ≠ checkpointDirectory run.directory := by
    intro hsame
    simpa [hpath] using congrArg List.length hsame
  have hcurrent : recoveryPath run.output run.runId ≠ currentPath run.directory := by
    rw [hpath]
    intro hsame
    simpa using List.append_cancel_left hsame
  rw [Crashed.others h hdirectory hcurrent,writeCheckpoints_others library hdirectory hcurrent]
  · refine run.unchecked _ ?_
    rw [hpath]
    exact List.prefix_append _ _
  · intro process sequence hsame
    rw [hpath,temporaryPath] at hsame
    have hname := List.append_cancel_left hsame
    rw [List.cons.injEq,String.append_assoc,String.append_assoc,String.append_assoc] at hname
    exact latest_ne_temporary _ hname.1

/-- A run that published a checkpoint and was left open is recovered without it. -/
lemma not_findsLast (bytes : DocumentBytes) {writes : List CheckpointWrite} {disk : Disk}
    (calls : Run → RecoveryCalls) {ledger : RequestLedger} {opened : Run} (h : run.CrashesTo library writes disk)
    (hpublished : run.published library writes ≠ []) (hopened : opened ∈ openRuns ledger)
    (hid : opened.runId = run.runId) :
    ∃ recovered ∈ (recoverOpenRuns library bytes disk run.output calls ledger).2,
      recovered.run.runId = run.runId ∧ ¬FindsLast (run.published library writes) recovered.result := by
  have hruns := recoverRuns_runs library bytes disk run.output calls ledger (openRuns ledger)
  rw [← hruns] at hopened
  obtain ⟨recovered,hrecovered,rfl⟩ := List.mem_map.mp hopened
  refine ⟨recovered,hrecovered,hid,fun hfinds => ?_⟩
  obtain ⟨recovery,hok,hverified,-⟩ := hfinds.1 _ (List.getLast?_eq_some_getLast hpublished)
  obtain ⟨before,hresult⟩ := recoverRuns_result library bytes disk run.output calls ledger _ recovered hrecovered
  rw [hresult,hid] at hok
  rw [recoverInterruptedRun_absent library (run.recoveryPath_none library h) hok] at hverified
  cases hverified

/-- What the recovery of the open runs finds is the last checkpoint of a run exactly when the run published
none, or was not left open; the sequences that it published increase. -/
theorem recoverOpenRuns_findsLast_iff (bytes : DocumentBytes) (writes : List CheckpointWrite) (disk : Disk)
    (calls : Run → RecoveryCalls) (ledger : RequestLedger) (h : run.CrashesTo library writes disk) :
    (library.Inverse → ((run.published library writes).map EvidenceCheckpoint.sequence).IsChain (· < ·)) ∧
    ((∀ recovered ∈ (recoverOpenRuns library bytes disk run.output calls ledger).2,
        recovered.run.runId = run.runId → FindsLast (run.published library writes) recovered.result) ↔
      run.published library writes = [] ∨ ∀ opened ∈ openRuns ledger, opened.runId ≠ run.runId) := by
  refine ⟨fun hinverse => (writeCheckpoints_increasing hinverse run.disk writes).1,?_,?_⟩
  · intro hall
    by_contra hcondition
    obtain ⟨hpublished,hopen⟩ := not_or.mp hcondition
    push Not at hopen
    obtain ⟨opened,hopened,hid⟩ := hopen
    obtain ⟨recovered,hrecovered,hsame,hnot⟩ := run.not_findsLast library bytes calls h hpublished hopened hid
    exact hnot (hall recovered hrecovered hsame)
  · rintro (hpublished | hopen) recovered hrecovered hid
    · rw [hpublished]
      exact ⟨fun checkpoint hcheckpoint => (nomatch hcheckpoint),fun _ _ _ => rfl⟩
    · have hruns := recoverRuns_runs library bytes disk run.output calls ledger (openRuns ledger)
      exact absurd hid (hopen _ (hruns ▸ List.mem_map_of_mem hrecovered))

end EvidenceRun

/-- A run directory with one fragment of facts. -/
def fragmentDisk : Disk := fun path =>
  if path = ["out","runs","run"] then some .directory
  else if path = ["out","runs","run","fragments","facts-1.aqf"] then some (.regular [7]) else none

def fragmentRun : EvidenceRun where
  output := ["out"]
  runId := "run"
  disk := fragmentDisk
  unchecked := by
    rintro path ⟨rest,rfl⟩
    simp [checkpointDirectory,fragmentDisk]

def fragmentIdentity (content : List UInt8) : ContentIdentity :=
  ⟨List.replicate 32 0,content.length.toUInt64,by simp⟩

def fragmentCheckpoint : EvidenceCheckpoint :=
  ⟨"checkpoint-1",1,[⟨.factFragment,"fragments/facts-1.aqf",1,fragmentIdentity [7]⟩]⟩

def fragmentLibrary : CheckpointLibrary where
  identifyContent := fragmentIdentity
  readArtifact _ content := some (1,fragmentIdentity content)
  print _ := [65]
  parse text := if text = [65] then some (formatCheckpoint fragmentCheckpoint) else none

def fragmentWrite : CheckpointWrite where
  checkpointId := "checkpoint-1"
  sequence := 1
  artifacts := [⟨.factFragment,1,⟨["out","runs","run","fragments","facts-1.aqf"],fragmentIdentity [7]⟩⟩]
  publish := { process := 7, sequence := fun _ => 1, write := fun _ => 9 }

def preparedDisk : Disk := fragmentDisk.makeDirectory ["out","runs","run","checkpoints"]

lemma fragmentWrite_published :
    publishDurableFile fragmentIdentity fragmentWrite.publish preparedDisk
      ["out","runs","run","checkpoints","current.toml"] [65] {} =
      (preparedDisk.write ["out","runs","run","checkpoints","current.toml"] [65],
        .ok ⟨["out","runs","run","checkpoints","current.toml"],fragmentIdentity [65]⟩) := by
  have hvalid : validTarget fragmentWrite.publish preparedDisk
      ["out","runs","run","checkpoints","current.toml"] = true := by decide
  have hfree : preparedDisk (temporaryPath ["out","runs","run","checkpoints"] 7 1) = none := by decide
  have hcreate : createTemporary fragmentWrite.publish preparedDisk ["out","runs","run","checkpoints"]
      maxTemporaryAttempts 0 = (preparedDisk.write (temporaryPath ["out","runs","run","checkpoints"] 7 1) [],
        .ok (temporaryPath ["out","runs","run","checkpoints"] 7 1)) := by
    simp [createTemporary,maxTemporaryAttempts,fragmentWrite,hfree]
  simp [publishDurableFile,hvalid,publishPosix,hcreate]
  simp [writeBytes,remainingBytes,fragmentWrite,Disk.rename_write,hfree]

lemma fragmentRun_published : fragmentRun.published fragmentLibrary [fragmentWrite] = [fragmentCheckpoint] := by
  have hwritten : writeCheckpoint fragmentLibrary fragmentDisk ["out","runs","run"] fragmentWrite =
      (_,.ok ⟨["out","runs","run","checkpoints","current.toml"],fragmentIdentity [65],fragmentCheckpoint⟩) :=
    writeCheckpoint_ok fragmentLibrary fragmentDisk ["out","runs","run"] fragmentWrite (by decide)
      (show _ = Except.ok fragmentCheckpoint.artifacts by decide) (show _ = Except.ok [65] by decide) rfl
      (by decide) fragmentWrite_published rfl
  show (writeCheckpoints fragmentLibrary ["out","runs","run"] fragmentDisk [fragmentWrite]).2 = _
  unfold writeCheckpoints
  rw [hwritten]
  rfl

def playingRun : Run where
  runId := "run"
  requestId := "request"
  takeId := "take"
  phase := .playing
  playbackResult := .inProgress
  evidenceResult := .inProgress

/-- A ledger that has the run open. -/
def fragmentLedger : RequestLedger where
  generation := 1
  entries := [⟨{ requestId := "request", sessionId := "session", conditionsId := "conditions", takeIds := ["take"],
                 admission := .accepted },playingRun⟩]

def smallDocuments : DocumentBytes := ⟨fun _ => 1024,fun _ => 1024,fun _ => 1024⟩

/-- A run that published nothing is recovered without a checkpoint. -/
theorem recoverOpenRuns_findsLast_iff_unpublished : fragmentRun.published fragmentLibrary [] = [] ∧
    ∀ recovered ∈ (recoverOpenRuns fragmentLibrary smallDocuments fragmentDisk ["out"] (fun _ => {}) fragmentLedger).2,
      recovered.run.runId = "run" → EvidenceRun.FindsLast [] recovered.result :=
  ⟨rfl,(EvidenceRun.recoverOpenRuns_findsLast_iff fragmentLibrary fragmentRun smallDocuments [] fragmentDisk
    (fun _ => {}) fragmentLedger .unchanged).2.mpr (Or.inl rfl)⟩

/-- A run that published a checkpoint, whatever the crash leaves after it, is recovered and its ledger updated,
but without the checkpoint. -/
theorem published_checkpoint_lost :
    fragmentRun.published fragmentLibrary [fragmentWrite] = [fragmentCheckpoint] ∧
      ∀ disk, fragmentRun.CrashesTo fragmentLibrary [fragmentWrite] disk →
        (recoverOpenRuns fragmentLibrary smallDocuments disk ["out"] (fun _ => {}) fragmentLedger).2.map
            RecoveredRun.result =
          [.ok { run := { playingRun with evidenceResult := .incomplete }, checkpointState := .absent }] ∧
        ∃ recovered ∈ (recoverOpenRuns fragmentLibrary smallDocuments disk ["out"] (fun _ => {}) fragmentLedger).2,
          recovered.run.runId = "run" ∧ ¬EvidenceRun.FindsLast [fragmentCheckpoint] recovered.result := by
  refine ⟨fragmentRun_published,fun disk hdisk => ⟨?_,?_⟩⟩
  · have hnone : disk (recoveryPath ["out"] "run") = none := fragmentRun.recoveryPath_none fragmentLibrary hdisk
    have hopened : openedCheckpoint fragmentLibrary disk {} (recoveryPath ["out"] "run") = some (.absent,none) := by
      unfold openedCheckpoint
      rw [hnone]
      rfl
    have hrecovered : (recoverInterruptedRun fragmentLibrary smallDocuments disk fragmentLedger "request"
        (recoveryPath ["out"] "run") {} .published).2 =
          .ok { run := { playingRun with evidenceResult := .incomplete }, checkpointState := .absent } := by
      unfold recoverInterruptedRun
      rw [hopened]
      decide
    exact congrArg (· :: []) hrecovered
  · have hpublished := fragmentRun_published
    have hopened : playingRun ∈ openRuns fragmentLedger := by decide
    have hlost := fragmentRun.not_findsLast fragmentLibrary smallDocuments (fun _ => {}) hdisk
      (hpublished ▸ List.cons_ne_nil _ _) hopened rfl
    rwa [hpublished] at hlost

end Crash
end AytherRuntime.Storage
