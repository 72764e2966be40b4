import Mathlib.Data.List.Basic

/-! How a request and each of its takes end, the codes of their results, and the technical summary of a
request. -/
namespace AytherRuntime.Check

def maxIdentityBytes : ℕ := 256
def maxRequestTakes : ℕ := 1024

inductive PlaybackKind
  | naturalEnd | cancelled | failed | interrupted
  deriving DecidableEq, Repr

/-- What drives the game in a slot. -/
inductive MaterialKind
  | take | timeline
  deriving DecidableEq, Repr

/-- The diagnostic is empty for a natural end or a cancellation. -/
structure PlaybackOutcome where
  kind : PlaybackKind := .failed
  diagnostic : String := ""
  deriving DecidableEq, Repr

inductive TraversalKind
  | linear | inspection | postEndInspection
  deriving DecidableEq, Repr

/-- The reasons are empty when the evidence is complete. -/
structure EvidenceOutcome where
  complete : Bool := false
  reasons : List String := []
  deriving DecidableEq, Repr

structure TakeOutcome where
  position : ℕ
  take : String
  runId : String
  playback : PlaybackOutcome := {}
  traversal : Option TraversalKind := none
  evidence : EvidenceOutcome := {}
  linearCompleted : Bool := false
  kind : MaterialKind := .take
  deriving DecidableEq, Repr

structure NotStartedTake where
  position : ℕ
  take : String
  reason : String
  kind : MaterialKind := .take
  deriving DecidableEq, Repr

inductive TakeSlotOutcome
  | started (take : TakeOutcome)
  | notStarted (take : NotStartedTake)
  deriving DecidableEq, Repr

section Codes

def playbackKindCode : PlaybackKind → String
  | .naturalEnd => "natural_end"
  | .cancelled => "cancelled"
  | .failed => "failed"
  | .interrupted => "interrupted"

def materialKindCode : MaterialKind → String
  | .take => "take"
  | .timeline => "timeline"

def traversalKindCode : TraversalKind → String
  | .linear => "linear"
  | .inspection => "inspection"
  | .postEndInspection => "post_end_inspection"

def parseMaterialKind (code : String) : Option MaterialKind :=
  [MaterialKind.take,.timeline].find? fun kind => materialKindCode kind = code

def parsePlaybackKind (code : String) : Option PlaybackKind :=
  [PlaybackKind.naturalEnd,.cancelled,.failed,.interrupted].find? fun kind => playbackKindCode kind = code

def parseTraversalKind (code : String) : Option TraversalKind :=
  [TraversalKind.linear,.inspection,.postEndInspection].find? fun kind => traversalKindCode kind = code

@[simp] lemma parseMaterialKind_code (kind : MaterialKind) :
    parseMaterialKind (materialKindCode kind) = some kind := by cases kind <;> decide

@[simp] lemma parsePlaybackKind_code (kind : PlaybackKind) :
    parsePlaybackKind (playbackKindCode kind) = some kind := by cases kind <;> decide

@[simp] lemma parseTraversalKind_code (kind : TraversalKind) :
    parseTraversalKind (traversalKindCode kind) = some kind := by cases kind <;> decide

end Codes

section Summary

inductive CheckTechnicalOutcome
  | complete | incomplete | invalidRequest | preservationFailure
  deriving DecidableEq, Repr

structure TakeTechnicalResult where
  takeId : String
  outcome : CheckTechnicalOutcome := .incomplete
  diagnosticCode : String
  position : ℕ
  playback : String
  traversal : String
  evidence : String
  deriving DecidableEq, Repr

structure CheckTechnicalSummary where
  exitCode : ℕ := 0
  complete : ℕ := 0
  incomplete : ℕ := 0
  invalid : ℕ := 0
  preservationFailure : ℕ := 0
  inspected : ℕ := 0
  cancelled : ℕ := 0
  failed : ℕ := 0
  notStarted : ℕ := 0
  linearComplete : Bool := false
  takes : List TakeTechnicalResult := []
  deriving DecidableEq, Repr

def checkTechnicalOutcomeCode : CheckTechnicalOutcome → String
  | .complete => "complete"
  | .incomplete => "incomplete"
  | .invalidRequest => "invalid_request"
  | .preservationFailure => "preservation_failure"

/-- `parse_outcome` of the store. -/
def parseOutcome (code : String) : Option CheckTechnicalOutcome :=
  [CheckTechnicalOutcome.complete,.incomplete,.invalidRequest,.preservationFailure].find? fun outcome =>
    checkTechnicalOutcomeCode outcome = code

@[simp] lemma parseOutcome_code (outcome : CheckTechnicalOutcome) :
    parseOutcome (checkTechnicalOutcomeCode outcome) = some outcome := by cases outcome <;> decide

def exitCode : CheckTechnicalOutcome → ℕ
  | .complete => 0
  | .incomplete => 2
  | .invalidRequest => 3
  | .preservationFailure => 4

def TakeTechnicalResult.valid (result : TakeTechnicalResult) : Bool :=
  result.takeId ≠ "" ∧ result.takeId.utf8ByteSize ≤ maxIdentityBytes ∧
    result.diagnosticCode ≠ "" ∧ result.diagnosticCode.utf8ByteSize ≤ maxIdentityBytes

/-- Every result is valid and stands at its own position. -/
def resultsValid (results : List TakeTechnicalResult) : Bool :=
  results.zipIdx.all fun entry => entry.1.valid ∧ entry.1.position = entry.2

def TakeTechnicalResult.linear (result : TakeTechnicalResult) : Bool :=
  result.outcome = .complete ∧ result.playback = "natural_end" ∧ result.traversal = "linear" ∧
    result.evidence = "complete"

def summarizeCheckResults (results : List TakeTechnicalResult) : Option CheckTechnicalSummary :=
  if results = [] ∨ maxRequestTakes < results.length ∨ !resultsValid results then none
  else some {
    exitCode := (results.map fun result => exitCode result.outcome).foldl max 0
    complete := results.countP fun result => result.outcome = .complete
    incomplete := results.countP fun result => result.outcome = .incomplete
    invalid := results.countP fun result => result.outcome = .invalidRequest
    preservationFailure := results.countP fun result => result.outcome = .preservationFailure
    inspected := results.countP fun result =>
      result.traversal = "inspection" ∨ result.traversal = "post_end_inspection"
    cancelled := results.countP fun result => result.playback = "cancelled"
    failed := results.countP fun result => result.playback = "failed" ∨ result.playback = "interrupted"
    notStarted := results.countP fun result => result.playback = "not_started"
    linearComplete := results.all TakeTechnicalResult.linear
    takes := results }

end Summary
end AytherRuntime.Check
