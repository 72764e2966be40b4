import AytherRuntime.Inspection.Checkpoints
import Mathlib.Data.List.Basic
import Mathlib.Data.List.Range

/-! One frame of a take and the silent way back to one of its frames, over any Engine: its state, its
step, and what it answers to each operation. -/
namespace AytherRuntime.Inspection

/-- What the Engine answers to a step: the view with its frame index, or an exception that leaves some
state behind. -/
inductive StepOutcome (σ : Type)
  | stepped (frameIndex : UInt64)
  | threw (left : σ)
  deriving DecidableEq

/-- What the operations of one frame answer: the progress published before and after the step, the
step, and whether the recovery is over its limit then. -/
structure FrameOutcome (σ : Type) where
  started : Bool := true
  announced : Bool := true
  step : StepOutcome σ
  published : Bool := true
  late : Bool := false
  deriving DecidableEq

/-- What a session answers to the restoration of a checkpoint. -/
inductive RestoreOutcome (σ : Type)
  | accepted
  | coreRejected
  | visualRejected (left : σ)
  | detectorRejected (left : σ)
  | voicesRejected (left : σ)
  /-- Some operation threw, before or after the core accepted its state. -/
  | threw (left : σ)
  deriving DecidableEq

inductive RestoreResult
  | restored | missing | coreRejected | visualRejected | audioDetectorRejected | audioVoicesRejected
  deriving DecidableEq, Repr

/-- `RecordingReplayLoop`, once the initial state is acknowledged. -/
structure RecordingReplayLoop where
  framesCompleted : ℕ := 0
  consumed : ℕ := 0
  failed : Bool := false
  deriving DecidableEq, Repr

section Replay
variable {σ : Type} (step : σ → UInt16 → σ) (buttons : List UInt16)

/-- `execute_next`: the loop and the session after it, whether the step gave a view, and the frame
index if there was no error. -/
def executeNext (loop : RecordingReplayLoop) (state : σ) (o : FrameOutcome σ) :
    RecordingReplayLoop × σ × Bool × Option UInt64 :=
  let failed := { loop with failed := true }
  if loop.failed then (loop,state,false,none)
  else if loop.consumed ≠ loop.framesCompleted ∨ !o.started then (failed,state,false,none)
  else
    match buttons[loop.consumed]? with
    | none => ({ loop with failed := !o.published },state,false,none)
    | some input =>
      let loop := { loop with consumed := loop.consumed + 1 }
      let failed := { loop with failed := true }
      if !o.announced then (failed,state,false,none)
      else
        match o.step with
        | .threw left => (failed,left,false,none)
        | .stepped frameIndex =>
          let loop := { loop with framesCompleted := loop.framesCompleted + 1 }
          if !o.published then ({ loop with failed := true },step state input,true,none)
          else (loop,step state input,true,some frameIndex)

/-- The session of a take as its loop sees it; the view is the one of the last step, or none. -/
structure Navigation (σ : Type) where
  state : σ
  view : Bool := false
  sessionFrame : Option ℕ := none
  engineBase : Option UInt64 := none
  loop : RecordingReplayLoop := {}
  checkpoints : CheckpointStore σ

namespace Navigation
variable (nav : Navigation σ)

/-- The end of `produce`: the Engine must number the frame as expected. -/
def confirmIndex (frame : ℕ) (frameIndex : UInt64) : Navigation σ × Bool :=
  let base := nav.engineBase.getD (frameIndex - UInt64.ofNat frame - 1)
  let nav := { nav with engineBase := some base }
  if frameIndex ≠ base + UInt64.ofNat frame + 1 then (nav,false)
  else ({ nav with sessionFrame := some frame },true)

/-- `produce`: the next linear input, or a recorded one again. -/
def produce (frame : ℕ) (o : FrameOutcome σ) : Navigation σ × Bool :=
  if frame = nav.loop.framesCompleted then
    let executed := executeNext step buttons nav.loop nav.state o
    let nav := { nav with
      loop := executed.1, state := executed.2.1, view := executed.2.2.1 || nav.view }
    match executed.2.2.2 with
    | none => (nav,false)
    | some frameIndex => nav.confirmIndex frame frameIndex
  else if frame < nav.loop.framesCompleted then
    match buttons[frame]?, o.step with
    | none, _ => (nav,false)
    | some _, .threw left => ({ nav with state := left },false)
    | some input, .stepped frameIndex =>
      { nav with state := step nav.state input, view := true }.confirmIndex frame frameIndex
  else (nav,false)

/-- `CheckpointStore::restore`, which reports an exception as a rejection of the core. -/
def restore (checkpoint : ℤ) (audio : Bool) (o : RestoreOutcome σ) : Navigation σ × RestoreResult :=
  match nav.checkpoints.find checkpoint with
  | none => (nav,.missing)
  | some saved =>
    let restored := { nav with state := saved }
    match o with
    | .accepted => (restored,.restored)
    | .coreRejected => (nav,.coreRejected)
    | .visualRejected left => ({ nav with state := left },.visualRejected)
    | .detectorRejected left =>
      if audio then ({ nav with state := left },.audioDetectorRejected) else (restored,.restored)
    | .voicesRejected left =>
      if audio then ({ nav with state := left },.audioVoicesRejected) else (restored,.restored)
    | .threw left => ({ nav with state := left },.coreRejected)

/-- The loop of `reach` over its frames. -/
def replay (o : ℕ → FrameOutcome σ) (nav : Navigation σ) : List ℕ → Navigation σ × Bool
  | [] => (nav,true)
  | frame :: frames =>
    let produced := nav.produce step buttons frame (o frame)
    if !produced.2 ∨ (o frame).late then (produced.1,false) else replay o produced.1 frames

/-- What one attempt of a recovery is answered. -/
structure AttemptOutcome (σ : Type) where
  restore : RestoreOutcome σ
  frame : ℕ → FrameOutcome σ

/-- The plan of `reach`: without a known position only a checkpoint can reach the goal. -/
def plan (goal : ℕ) : RecoveryPlan :=
  match nav.sessionFrame with
  | some frame => planRecovery nav.checkpoints.ring frame goal
  | none => restorePlan nav.checkpoints.ring goal

/-- The session once `reach` has restored its checkpoint, if it could. -/
def rewind (checkpoint : ℤ) (audio : Bool) (o : RestoreOutcome σ) : Navigation σ × Bool :=
  let restored := nav.restore checkpoint audio o
  match restored.2 with
  | .restored =>
    ({ restored.1 with
      sessionFrame := if checkpoint < 0 then none else some checkpoint.toNat, view := false },true)
  -- A rejected core leaves the session untouched; any later rejection, in an unknown state.
  | .missing | .coreRejected => (restored.1,false)
  | _ => ({ restored.1 with sessionFrame := none, view := false },false)

/-- `reach` -/
def reach (goal : ℕ) (audio : Bool) (o : AttemptOutcome σ) : Navigation σ × Bool :=
  let plan := nav.plan goal
  let frames := List.range' plan.replayFrom (plan.replayTo + 1 - plan.replayFrom)
  match plan.kind with
  | .impossible => (nav,false)
  | .step =>
    if nav.sessionFrame ≠ some (goal - 1) then (nav,false)
    else
      let replayed := replay step buttons o.frame nav frames
      (replayed.1,replayed.2 && replayed.1.sessionFrame = some goal)
  | .restore =>
    let rewound := nav.rewind plan.checkpoint audio o.restore
    if !rewound.2 then rewound
    else
      let replayed := replay step buttons o.frame rewound.1 frames
      (replayed.1,replayed.2 && replayed.1.sessionFrame = some goal)

end Navigation
end Replay
end AytherRuntime.Inspection
