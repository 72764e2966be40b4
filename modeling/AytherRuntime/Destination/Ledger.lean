import Mathlib.Algebra.Ring.Nat
import Mathlib.Data.List.Basic

/-! The request ledger of a destination: what it registers, how it updates the runs, and what each
publication leaves on disk. -/
namespace AytherRuntime.Destination

def maxIdentityBytes : ℕ := 256
def maxRequestTakes : ℕ := 1024
def maxMetadataBytes : ℕ := 256 * 1024
def maxRegisteredRequests : ℕ := 1024
def maxRequestLedgerBytes : ℕ := 64 * 1024 * 1024
def maxGeneration : ℕ := 2 ^ 64 - 1

inductive Admission
  | pending | accepted | rejected
  deriving DecidableEq, Repr

inductive Phase
  | preparing | ready | playing | closing | closed
  deriving DecidableEq, Repr

inductive PlaybackResult
  | notStarted | inProgress | naturalEnd | cancelled | error
  deriving DecidableEq, Repr

inductive EvidenceResult
  | pending | inProgress | complete | incomplete
  deriving DecidableEq, Repr

inductive EquivalenceResult
  | unknown | verified | incomplete
  deriving DecidableEq, Repr

structure Request where
  requestId : String
  sessionId : String
  conditionsId : String
  takeIds : List String
  admission : Admission := .pending
  language : Option String := none
  materialKind : Option String := none
  deriving DecidableEq, Repr

structure Run where
  runId : String
  requestId : String
  takeId : String
  phase : Phase := .preparing
  playbackResult : PlaybackResult := .notStarted
  evidenceResult : EvidenceResult := .pending
  equivalenceResult : EquivalenceResult := .unknown
  lastExecutedFrame : Option ℕ := none
  lastDurableSample : Option ℕ := none
  cessationConfirmed : Bool := false
  deriving DecidableEq, Repr

structure Entry where
  request : Request
  run : Run
  deriving DecidableEq, Repr

/-- `RequestLedger`, without its path. On disk its document is kept as what it holds. -/
structure RequestLedger where
  generation : ℕ := 0
  entries : List Entry := []
  deriving DecidableEq, Repr

/-- The bytes of the documents, whose text a library outside the repository writes. -/
structure DocumentBytes where
  request : Request → ℕ
  run : Run → ℕ
  ledger : RequestLedger → ℕ

/-- `identity` of the codec. -/
def identity (value : String) : Bool :=
  value ≠ "" && value.utf8ByteSize ≤ maxIdentityBytes &&
    value.toList.all fun c => 0x20 ≤ c.toNat && c.toNat ≠ 0x7f

section Documents
variable (bytes : DocumentBytes)

/-- `to_toml` of a request gives a document. -/
def Request.encodes (request : Request) : Bool :=
  identity request.requestId && identity request.sessionId && identity request.conditionsId &&
    request.takeIds ≠ [] && request.takeIds.length ≤ maxRequestTakes &&
    request.takeIds.all identity &&
    request.language.all (fun language => language = "es" || language = "en") &&
    request.materialKind.all (fun kind => kind = "take" || kind = "timeline") &&
    bytes.request request ≤ maxMetadataBytes

/-- `to_toml` of a run gives a document. -/
def Run.encodes (run : Run) : Bool :=
  identity run.runId && identity run.requestId && identity run.takeId &&
    bytes.run run ≤ maxMetadataBytes

/-- `valid_pair` -/
def validPair (request : Request) (run : Run) : Bool :=
  request.admission = .accepted && run.requestId = request.requestId && request.encodes bytes &&
    run.encodes bytes

/-- `same_content` -/
def sameContent (left right : Request) : Bool :=
  left.requestId = right.requestId && left.sessionId = right.sessionId &&
    left.conditionsId = right.conditionsId && left.takeIds = right.takeIds &&
    left.materialKind = right.materialKind

/-- `encode_ledger` gives a document. -/
def encodeLedger (ledger : RequestLedger) : Bool :=
  ledger.generation ≠ 0 && ledger.entries ≠ [] &&
    ledger.entries.length ≤ maxRegisteredRequests &&
    ledger.entries.all (fun entry => validPair bytes entry.request entry.run) &&
    bytes.ledger ledger ≠ 0 && bytes.ledger ledger ≤ maxRequestLedgerBytes

/-- No two entries share a request or a run. -/
def distinctEntries : List Entry → Bool
  | [] => true
  | entry :: entries =>
    entries.all (fun other => other.request.requestId ≠ entry.request.requestId &&
      other.run.runId ≠ entry.run.runId) && distinctEntries entries

/-- `decode_ledger` accepts the document. -/
def decodeLedger (ledger : RequestLedger) : Bool :=
  bytes.ledger ledger ≤ maxRequestLedgerBytes && ledger.entries ≠ [] &&
    ledger.entries.length ≤ maxRegisteredRequests && ledger.generation ≠ 0 &&
    ledger.entries.all (fun entry => validPair bytes entry.request entry.run) &&
    distinctEntries ledger.entries

/-- `open_request_ledger`; the destination may also be unreadable. -/
def openRequestLedger (disk : Option RequestLedger) (readable : Bool) : Option RequestLedger :=
  if !readable then none
  else
    match disk with
    | none => some {}
    | some ledger => if decodeLedger bytes ledger then some ledger else none

end Documents

/-- How `publish_durable_file` ends: with the old file, with the new file and an error, or with the
new file. -/
inductive Publication
  | refused | replaced | published
  deriving DecidableEq, Repr

/-- What an operation of the ledger leaves in memory, what it wrote on disk, in order, and what it
returns. -/
structure Written (α : Type) where
  ledger : RequestLedger
  writes : List RequestLedger := []
  result : α
  deriving DecidableEq, Repr

inductive RequestRegistrationDecision
  | accepted | known | identityConflict | invalid | capacityExceeded
  deriving DecidableEq, Repr

structure RequestRegistrationResult where
  decision : RequestRegistrationDecision
  run : Option Run := none
  deriving DecidableEq, Repr

namespace RequestLedger
variable (bytes : DocumentBytes) (ledger : RequestLedger)

/-- `publish`; the result says whether there was no error. -/
def publish (entries : List Entry) (generation : ℕ) (outcome : Publication) : Written Bool :=
  let candidate : RequestLedger := { generation, entries }
  if encodeLedger bytes candidate then
    match outcome with
    | .refused => { ledger, result := false }
    | .replaced => { ledger, writes := [candidate], result := false }
    | .published => { ledger := candidate, writes := [candidate], result := true }
  else { ledger, result := false }

/-- `inspect_request` -/
def inspectRequest (request : Request) (run : Run) : RequestRegistrationResult :=
  let request := { request with admission := .accepted }
  if !validPair bytes request run then { decision := .invalid }
  else
    match ledger.entries.find? fun entry => entry.request.requestId = request.requestId with
    | some existing =>
      { decision := if sameContent existing.request request then .known else .identityConflict,
        run := some existing.run }
    | none =>
      if maxRegisteredRequests ≤ ledger.entries.length then { decision := .capacityExceeded }
      else if ledger.entries.any fun entry => entry.run.runId = run.runId then
        { decision := .invalid }
      else { decision := .accepted, run := some run }

/-- `register_request`; no result is the error of a publication. -/
def registerRequest (request : Request) (run : Run) (outcome : Publication) :
    Written (Option RequestRegistrationResult) :=
  let request := { request with admission := .accepted }
  if !validPair bytes request run then { ledger, result := some { decision := .invalid } }
  else
    match ledger.entries.find? fun entry => entry.request.requestId = request.requestId with
    | some existing =>
      { ledger, result := some
          { decision := if sameContent existing.request request then .known else .identityConflict,
            run := some existing.run } }
    | none =>
      if maxRegisteredRequests ≤ ledger.entries.length ∨ ledger.generation = maxGeneration then
        { ledger, result := some { decision := .capacityExceeded } }
      else if ledger.entries.any fun entry => entry.run.runId = run.runId then
        { ledger, result := some { decision := .invalid } }
      else
        let published := ledger.publish bytes (ledger.entries ++ [⟨request,run⟩])
          (ledger.generation + 1) outcome
        { published with
          result := if published.result then some { decision := .accepted, run := some run }
            else none }

/-- The entries with the run of the first one that has its identities. -/
def withRun (run : Run) : List Entry → List Entry
  | [] => []
  | entry :: entries =>
    if entry.run.runId = run.runId ∧ entry.request.requestId = run.requestId then
      { entry with run } :: entries
    else entry :: withRun run entries

/-- `update_run`; no result is the error of a publication. -/
def updateRun (run : Run) (outcome : Publication) : Written (Option Bool) :=
  match ledger.entries.find? fun entry =>
      entry.run.runId = run.runId ∧ entry.request.requestId = run.requestId with
  | none => { ledger, result := some false }
  | some existing =>
    if ledger.generation = maxGeneration ∨ !validPair bytes existing.request run then
      { ledger, result := some false }
    else if existing.run = run then { ledger, result := some true }
    else
      let published := ledger.publish bytes (withRun run ledger.entries) (ledger.generation + 1)
        outcome
      { published with result := if published.result then some true else none }

/-- `find_run` -/
def findRun (requestId : String) : Option Run :=
  (ledger.entries.find? fun entry => entry.request.requestId = requestId).map Entry.run

end RequestLedger

/-- The requests of a ledger, in their order. -/
def RequestLedger.requests (ledger : RequestLedger) : List Request := ledger.entries.map Entry.request

/-- What an operation wrote, and what it leaves in memory, keeps every request of the ledger. -/
structure Keeps {α : Type} (ledger : RequestLedger) (written : Written α) : Prop where
  memory : written.ledger.requests = ledger.requests
  writes : ∀ candidate ∈ written.writes, candidate.requests = ledger.requests

section Keeps
variable {bytes : DocumentBytes} {ledger : RequestLedger} {α : Type}

lemma Keeps.refl (result : α) : Keeps ledger { ledger, result } := ⟨rfl,by simp⟩

@[simp] lemma withRun_requests (run : Run) (entries : List Entry) :
    (RequestLedger.withRun run entries).map Entry.request = entries.map Entry.request := by
  induction entries with
  | nil => rfl
  | cons entry entries ih =>
    unfold RequestLedger.withRun
    split_ifs
    · rfl
    · rw [List.map_cons,ih,List.map_cons]

/-- What a publication leaves in memory and on disk. -/
lemma publish_cases (bytes : DocumentBytes) (ledger : RequestLedger) (entries : List Entry) (generation : ℕ)
    (outcome : Publication) :
    (∀ candidate ∈ (ledger.publish bytes entries generation outcome).writes,
        candidate.entries = entries) ∧
      (((ledger.publish bytes entries generation outcome).result = false ∧
          (ledger.publish bytes entries generation outcome).ledger = ledger) ∨
        ((ledger.publish bytes entries generation outcome).result = true ∧
          (ledger.publish bytes entries generation outcome).ledger = ⟨generation,entries⟩ ∧
          (ledger.publish bytes entries generation outcome).writes = [⟨generation,entries⟩])) := by
  unfold RequestLedger.publish
  dsimp only
  split_ifs
  · cases outcome <;> simp
  · simp

/-- An update of a run keeps every request. -/
lemma updateRun_keeps (bytes : DocumentBytes) (ledger : RequestLedger) (run : Run)
    (outcome : Publication) :
    Keeps ledger (ledger.updateRun bytes run outcome) := by
  unfold RequestLedger.updateRun
  split
  · exact .refl _
  · split_ifs
    · exact .refl _
    · exact .refl _
    · obtain ⟨hwrites,hmemory⟩ := publish_cases bytes ledger
        (RequestLedger.withRun run ledger.entries) (ledger.generation + 1) outcome
      refine ⟨?_,fun candidate hcandidate => ?_⟩
      · rcases hmemory with ⟨-,hledger⟩ | ⟨-,hledger,-⟩
        · exact congrArg RequestLedger.requests hledger
        · exact (congrArg RequestLedger.requests hledger).trans (withRun_requests run ledger.entries)
      · exact (congrArg (List.map Entry.request) (hwrites candidate hcandidate)).trans
          (withRun_requests run ledger.entries)

/-- What a registration writes has the new request at its end, and an accepted one is what memory and
disk then hold. -/
lemma registerRequest_cases (bytes : DocumentBytes) (ledger : RequestLedger) (request : Request)
    (run : Run) (outcome : Publication) :
    (∀ candidate ∈ (ledger.registerRequest bytes request run outcome).writes,
        candidate.requests = ledger.requests ++ [{ request with admission := .accepted }]) ∧
      ∀ registration, (ledger.registerRequest bytes request run outcome).result = some registration →
        registration.decision = .accepted →
        (ledger.registerRequest bytes request run outcome).writes =
          [(ledger.registerRequest bytes request run outcome).ledger] := by
  unfold RequestLedger.registerRequest
  dsimp only
  split
  · simp
  split
  · rename_i existing hfound
    refine ⟨by simp,fun registration hresult hdecision => ?_⟩
    cases hresult
    dsimp only at hdecision
    split_ifs at hdecision
  split
  · simp
  split
  · simp
  obtain ⟨hwrites,hmemory⟩ := publish_cases bytes ledger
    (ledger.entries ++ [⟨{ request with admission := .accepted },run⟩]) (ledger.generation + 1) outcome
  refine ⟨fun candidate hcandidate => ?_,fun registration hresult _ => ?_⟩
  · unfold RequestLedger.requests
    rw [hwrites candidate hcandidate,List.map_append]
    rfl
  · rcases hmemory with ⟨hfailed,-⟩ | ⟨-,hledger,hdisk⟩
    · rw [hfailed] at hresult
      cases hresult
    · rw [hledger,hdisk]

end Keeps

end AytherRuntime.Destination
