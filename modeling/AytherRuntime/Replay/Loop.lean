import AytherRuntime.Replay.Inputs

/-! The replay of a recording: the publication of its initial state, of its progress, and its frames one by one. -/
namespace AytherRuntime.Replay

section Publication

inductive InitialStatePublicationStatus
  | pending | acknowledged | failed
  deriving DecidableEq, Repr

inductive InitialStatePublicationError
  | none | invalidState | incompleteState | consumerUnavailable | consumerRejected
  deriving DecidableEq, Repr

/-- What is asked of an initial state before it is published. -/
structure InitialStateChecks (σ : Type) where
  wellFormed : σ → Bool
  gameRestored : σ → Bool
  hasCompleteHdDescription : σ → Bool

structure InitialStatePublication (σ : Type) where
  state : σ
  status : InitialStatePublicationStatus := .pending
  error : InitialStatePublicationError := .none

namespace InitialStatePublication
variable {σ : Type} (checks : InitialStateChecks σ) (publication : InitialStatePublication σ)

/-- `publish`, to a consumer with its answer or to none. The last part says whether the consumer was called. -/
def publish (consumer : Option Bool) : Bool × InitialStatePublication σ × Bool :=
  let failed := fun error called => (false,{ publication with status := .failed, error },called)
  match publication.status with
  | .acknowledged => (true,publication,false)
  | .failed => (false,publication,false)
  | .pending =>
    if !checks.wellFormed publication.state then failed .invalidState false
    else if !checks.gameRestored publication.state ∨ !checks.hasCompleteHdDescription publication.state then
      failed .incompleteState false
    else
      match consumer with
      | none => failed .consumerUnavailable false
      | some false => failed .consumerRejected true
      | some true => (true,{ publication with status := .acknowledged },true)

def inputPermitted : Bool := publication.status = .acknowledged

def nextInput (inputs : RecordingInputSource) : Option RecordingFrameInput × RecordingInputSource :=
  if publication.inputPermitted then inputs.next else (none,inputs)

end InitialStatePublication
end Publication

section Progress

inductive ReplayProgressKind
  | requestAccepted | replayStarted | inputConsumed | frameCompleted | replayFinished
  deriving DecidableEq, Repr

structure ReplayProgressEvent where
  kind : ReplayProgressKind
  totalInputs : ℕ
  inputsConsumed : ℕ
  framesCompleted : ℕ
  recordingFrame : ℕ
  engineFrame : UInt64
  deriving DecidableEq, Repr

inductive ReplayProgressState
  | pending | accepted | started | finished
  deriving DecidableEq, Repr

structure ReplayProgressPublisher where
  totalInputs : ℕ
  observed : Bool
  state : ReplayProgressState := .pending
  inputsConsumed : ℕ := 0
  framesCompleted : ℕ := 0
  lastEngineFrame : UInt64 := 0
  deriving DecidableEq, Repr

namespace ReplayProgressPublisher
variable (progress : ReplayProgressPublisher)

/-- `emit`: the event that the observer is given. -/
def emit (kind : ReplayProgressKind) (recordingFrame : ℕ) (engineFrame : UInt64) : ReplayProgressEvent :=
  ⟨kind,progress.totalInputs,progress.inputsConsumed,progress.framesCompleted,recordingFrame,engineFrame⟩

/-- A publication: the event that was emitted and the publisher after it, or nothing where it was refused. -/
abbrev Published := Option (ReplayProgressEvent × ReplayProgressPublisher)

def publishAcceptance : Published :=
  if !progress.observed ∨ progress.totalInputs = 0 ∨ progress.state ≠ .pending then none
  else
    let progress := { progress with state := .accepted }
    some (progress.emit .requestAccepted 0 0,progress)

def publishStart : Published :=
  if progress.state ≠ .accepted then none
  else
    let progress := { progress with state := .started }
    some (progress.emit .replayStarted 0 0,progress)

def publishInput (recordingFrame : ℕ) : Published :=
  if progress.state ≠ .started ∨ recordingFrame ≠ progress.inputsConsumed ∨
      progress.totalInputs ≤ progress.inputsConsumed ∨ progress.inputsConsumed ≠ progress.framesCompleted then none
  else
    let progress := { progress with inputsConsumed := progress.inputsConsumed + 1 }
    some (progress.emit .inputConsumed recordingFrame 0,progress)

def publishFrame (recordingFrame : ℕ) (engineFrame : UInt64) : Published :=
  if progress.state ≠ .started ∨ recordingFrame ≠ progress.framesCompleted ∨
      progress.inputsConsumed ≠ progress.framesCompleted + 1 then none
  else
    let progress :=
      { progress with framesCompleted := progress.framesCompleted + 1, lastEngineFrame := engineFrame }
    some (progress.emit .frameCompleted recordingFrame engineFrame,progress)

def publishFinish : Published :=
  if progress.state ≠ .started ∨ progress.inputsConsumed ≠ progress.totalInputs ∨
      progress.framesCompleted ≠ progress.totalInputs then none
  else
    let progress := { progress with state := .finished }
    some (progress.emit .replayFinished progress.totalInputs 0,progress)

def started : Bool := progress.state = .started ∨ progress.state = .finished

def finished : Bool := progress.state = .finished

end ReplayProgressPublisher
end Progress

section Loop
variable {σ : Type}

/-- What an operation of a frame answers to one call. -/
structure ReplayFrameOperationResult where
  succeeded : Bool
  engineFrame : UInt64
  code : String
  detail : String
  deriving DecidableEq, Repr

/-- The operations of one call of `execute_next`, each with its answer or missing. -/
structure ReplayFrameOperations where
  setInput : Option ReplayFrameOperationResult
  step : Option ReplayFrameOperationResult
  deriving DecidableEq, Repr

inductive ReplayFrameError
  | none | initialStateNotAcknowledged | operationsUnavailable | invalidInputPosition | inputExhausted
  | setInputFailed | stepFailed | loopFailed | progressFailed
  deriving DecidableEq, Repr

structure ReplayFrameResult where
  error : ReplayFrameError
  input : Option RecordingFrameInput := .none
  engineFrame : UInt64 := 0
  operationCode : String
  operationDetail : String := ""
  deriving DecidableEq, Repr

/-- What the replay does to others. -/
inductive ReplayEffect
  | read (input : RecordingFrameInput)
  | progress (event : ReplayProgressEvent)
  | setInput (input : RecordingFrameInput)
  | step
  deriving DecidableEq, Repr

/-- `RecordingReplayLoop`, with what it refers to. -/
structure RecordingReplayLoop (σ : Type) where
  publication : InitialStatePublication σ
  inputs : RecordingInputSource
  progress : Option ReplayProgressPublisher
  framesCompleted : ℕ := 0
  failed : Bool := false

namespace RecordingReplayLoop
variable (loop : RecordingReplayLoop σ)

/-- A publication of the loop, which needs none where it has no publisher. -/
def publishing (publish : ReplayProgressPublisher → ReplayProgressPublisher.Published) :
    Option (RecordingReplayLoop σ × List ReplayEffect) :=
  match loop.progress with
  | none => some (loop,[])
  | some progress => (publish progress).map fun published =>
    ({ loop with progress := some published.2 },[.progress published.1])

def start : Option (RecordingReplayLoop σ × List ReplayEffect) :=
  if loop.progress.any ReplayProgressPublisher.started then some (loop,[])
  else loop.publishing ReplayProgressPublisher.publishStart

def finish : Option (RecordingReplayLoop σ × List ReplayEffect) :=
  if loop.progress.any ReplayProgressPublisher.finished then some (loop,[])
  else loop.publishing ReplayProgressPublisher.publishFinish

def fail (result : ReplayFrameResult) (effects : List ReplayEffect) :
    ReplayFrameResult × RecordingReplayLoop σ × List ReplayEffect := (result,{ loop with failed := true },effects)

/-- The frame of an input, once it has been read. -/
def play (input : RecordingFrameInput) (set stepped : ReplayFrameOperationResult) :
    ReplayFrameResult × RecordingReplayLoop σ × List ReplayEffect :=
  if input.frame ≠ loop.framesCompleted then
    loop.fail { error := .invalidInputPosition, input, operationCode := "input_frame_mismatch" } []
  else
    match loop.publishing (·.publishInput input.frame) with
    | none => loop.fail { error := .progressFailed, input, operationCode := "input_progress_publication_failed" } []
    | some (loop,announced) =>
      if !set.succeeded then
        loop.fail ⟨.setInputFailed,input,set.engineFrame,set.code,set.detail⟩
          (announced ++ [ReplayEffect.setInput input])
      else if !stepped.succeeded then
        loop.fail ⟨.stepFailed,input,stepped.engineFrame,stepped.code,stepped.detail⟩
          (announced ++ [ReplayEffect.setInput input,.step])
      else
        let loop := { loop with framesCompleted := loop.framesCompleted + 1 }
        match loop.publishing (·.publishFrame input.frame stepped.engineFrame) with
        | none =>
          loop.fail
            { error := .progressFailed, input, engineFrame := stepped.engineFrame,
              operationCode := "frame_progress_publication_failed" }
            (announced ++ [ReplayEffect.setInput input,.step])
        | some (loop,reported) =>
          (⟨.none,input,stepped.engineFrame,stepped.code,stepped.detail⟩,loop,
            announced ++ [ReplayEffect.setInput input,.step] ++ reported)

/-- `execute_next` -/
def executeNext (operations : ReplayFrameOperations) :
    ReplayFrameResult × RecordingReplayLoop σ × List ReplayEffect :=
  if loop.failed then
    ({ error := .loopFailed, operationCode := "loop_failed",
       operationDetail := "a previous frame operation failed" },loop,[])
  else if !loop.publication.inputPermitted then
    ({ error := .initialStateNotAcknowledged, operationCode := "initial_state_not_acknowledged" },loop,[])
  else
    match operations.setInput, operations.step with
    | some set, some stepped =>
      if loop.inputs.cursor ≠ loop.framesCompleted then
        loop.fail { error := .invalidInputPosition, operationCode := "input_position_mismatch" } []
      else
        match loop.start with
        | none => loop.fail { error := .progressFailed, operationCode := "replay_start_publication_failed" } []
        | some (loop,started) =>
          match loop.publication.nextInput loop.inputs with
          | (none,_) =>
            match loop.finish with
            | none =>
              loop.fail { error := .progressFailed, operationCode := "replay_finish_publication_failed" } started
            | some (loop,finished) =>
              ({ error := .inputExhausted, operationCode := "input_exhausted" },loop,started ++ finished)
          | (some input,inputs) =>
            let played := { loop with inputs }.play input set stepped
            (played.1,played.2.1,started ++ .read input :: played.2.2)
    | _, _ => loop.fail { error := .operationsUnavailable, operationCode := "frame_operations_unavailable" } []

end RecordingReplayLoop

inductive ReplayCall
  | publish (consumer : Option Bool)
  | executeNext (operations : ReplayFrameOperations)

/-- What a call did: it called the consumer of the initial state, had an effect of the replay, and returned. -/
inductive ReplayEvent
  | consumed
  | published (accepted : Bool)
  | effect (effect : ReplayEffect)
  | returned (error : ReplayFrameError)
  deriving DecidableEq, Repr

def RecordingReplayLoop.call (checks : InitialStateChecks σ) (loop : RecordingReplayLoop σ) :
    ReplayCall → RecordingReplayLoop σ × List ReplayEvent
  | .publish consumer =>
    let published := loop.publication.publish checks consumer
    ({ loop with publication := published.2.1 },
      (if published.2.2 then [ReplayEvent.consumed] else []) ++ [.published published.1])
  | .executeNext operations =>
    let executed := loop.executeNext operations
    (executed.2.1,executed.2.2.map ReplayEvent.effect ++ [.returned executed.1.error])

end Loop
end AytherRuntime.Replay
