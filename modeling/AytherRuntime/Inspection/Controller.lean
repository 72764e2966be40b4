import AytherRuntime.Library.Machine

/-! The inspection state machine of a take: routed keys, frame completions, recovery results,
presentation health and the cancellation come in, and orders for the adapter go out. -/
namespace AytherRuntime.Inspection

inductive KeyAction
  | toggle | info | left | right
  deriving DecidableEq, Repr

inductive InspectionPhase
  | preparing | playing | pausing | paused | recovering | interrupted | closing | failed
  deriving DecidableEq, Repr

inductive CommandKind
  | presentFrame | recoverFrame | pauseAudio | resumeAudio | notice | toggleDebug
  | inspectionEvent | confirmLinearResult | advanceTake | finishTraversal | close
  deriving DecidableEq, Repr

inductive Notice
  | none | notAvailable | busy | recoveryFailed | interrupted | noNextFrame
  deriving DecidableEq, Repr

structure Command where
  kind : CommandKind := .notice
  frame : ℕ := 0
  notice : Notice := .none
  /-- The control of an inspection event. -/
  control : String := ""
  deriving DecidableEq, Repr

inductive RecoveryOutcome
  | presented | failedRestored | failedUnrecoverable
  deriving DecidableEq, Repr

/-- Where the take is when a key arrives: producing a frame, or waiting between two. -/
inductive FrameActivity
  | betweenFrames | producing
  deriving DecidableEq, Repr

structure InspectionController where
  frames : ℕ
  lastTake : Bool
  phase : InspectionPhase := .preparing
  position : Option ℕ := none
  target : Option ℕ := none
  debugVisible : Bool := false
  inspected : Bool := false
  endedNaturally : Bool := false
  takeEndPending : Bool := false
  cause : String := ""
  deriving DecidableEq, Repr

namespace InspectionController

/-- The controller as it is constructed for one take. -/
def new (frames : ℕ) (lastTake : Bool) : InspectionController := { frames, lastTake }

def nextFrame (c : InspectionController) : ℕ :=
  match c.position with
  | some position => position + 1
  | none => 0

/-- `take_end_pending()`: the slot of the next take has not come and playback still waits for it. -/
def takeEndWaiting (c : InspectionController) : Bool :=
  c.phase == .playing && c.takeEndPending

def mayRunFrame (c : InspectionController) : Bool :=
  c.phase == .playing && !c.takeEndPending

def noticeOf (value : Notice) : Command := { kind := .notice, notice := value }
def order (kind : CommandKind) (frame : ℕ) : Command := { kind, frame }
def event (control : String) (frame : ℕ) : Command := { kind := .inspectionEvent, frame, control }

def prepared (c : InspectionController) : InspectionController × List Command :=
  (if c.phase = .preparing then { c with phase := .playing } else c, [])

def pauseAt (c : InspectionController) (frame : ℕ) : InspectionController × List Command :=
  ({ c with phase := .paused, position := some frame },
    [order .presentFrame frame, order .pauseAudio frame, event "pause" frame])

/-- Space in pause: playback continues, the next take starts, or nothing is left. -/
def toggleInPause (c : InspectionController) (frame : ℕ) : InspectionController × List Command :=
  if frame + 1 < c.frames ∧ ¬c.endedNaturally then
    ({ c with phase := .playing }, [order .resumeAudio (frame + 1), event "resume" frame])
  else if ¬c.lastTake then
    ({ c with phase := .closing }, [event "advance_take" frame, order .advanceTake frame])
  else (c, [noticeOf .noNextFrame])

/-- An arrow in pause: one frame, bounded to the take. -/
def stepInPause (c : InspectionController) (frame : ℕ) (back : Bool) :
    InspectionController × List Command :=
  if (back ∧ frame = 0) ∨ (¬back ∧ c.frames ≤ frame + 1) then (c, [])
  else
    let target := if back then frame - 1 else frame + 1
    ({ c with target := some target, phase := .recovering, inspected := true },
      [order .recoverFrame target, event (if back then "step_back" else "step_forward") target])

def key (c : InspectionController) (action : KeyAction)
    (activity : FrameActivity := .betweenFrames) : InspectionController × List Command :=
  if c.phase = .closing ∨ c.phase = .failed then (c, [])
  else if action = .info then
    if c.phase = .preparing then (c, [])
    else ({ c with debugVisible := !c.debugVisible }, [order .toggleDebug (c.position.getD 0)])
  else match c.phase with
    | .preparing | .pausing => (c, if action = .toggle then [noticeOf .notAvailable] else [])
    | .playing =>
      if action ≠ .toggle then (c, [])
      else match activity, c.position with
        -- Without a frame in progress the last completed one stays, presented in pause.
        | .betweenFrames, some position => c.pauseAt position
        | _, _ => ({ c with phase := .pausing }, [])
    | .recovering => (c, [noticeOf .busy])
    | .interrupted => (c, if action = .toggle then [noticeOf .interrupted] else [])
    | .paused =>
      let frame := c.position.getD 0
      if action = .toggle then c.toggleInPause frame else c.stepInPause frame (action = .left)
    | .closing | .failed => (c, [])

/-- The adapter produced `frame`, playing or finishing a pause. -/
def frameCompleted (c : InspectionController) (frame : ℕ) : InspectionController × List Command :=
  if c.phase ≠ .playing ∧ c.phase ≠ .pausing then (c, [])
  else
    let pausePending := c.phase = .pausing
    let c := { c with position := some frame }
    if frame + 1 < c.frames then
      if pausePending then c.pauseAt frame else (c, [])
    else
      let c := { c with endedNaturally := true }
      if pausePending then c.pauseAt frame
      else if ¬c.lastTake then ({ c with takeEndPending := true }, [])
      else ({ c with phase := .paused },
        [order .confirmLinearResult frame, order .presentFrame frame, order .pauseAudio frame])

def takeSlotReached (c : InspectionController) : InspectionController × List Command :=
  if ¬c.takeEndWaiting then (c, [])
  else ({ c with takeEndPending := false, phase := .closing },
    [order .advanceTake (c.position.getD 0)])

def recoveryFinished (c : InspectionController) (outcome : RecoveryOutcome) :
    InspectionController × List Command :=
  match c.phase, c.target with
  | .recovering, some target =>
    let c := { c with target := none }
    match outcome with
    | .presented =>
      ({ c with phase := .paused, position := some target }, [order .presentFrame target])
    | .failedRestored =>
      ({ c with phase := .paused },
        [noticeOf .recoveryFailed, order .presentFrame (c.position.getD 0)])
    | .failedUnrecoverable =>
      ({ c with phase := .failed }, [order .finishTraversal (c.position.getD 0)])
  | _, _ => (c, [])

def presentationInterrupted (c : InspectionController) (cause : String) :
    InspectionController × List Command :=
  if c.phase = .closing ∨ c.phase = .failed then (c, [])
  else ({ c with phase := .interrupted, target := none, cause },
    [event "interrupted" (c.position.getD 0)])

def presentationRecovered (c : InspectionController) : InspectionController × List Command :=
  if c.phase ≠ .interrupted then (c, [])
  else ({ c with phase := .paused },
    [event "recovered" (c.position.getD 0), order .presentFrame (c.position.getD 0)])

/-- The cancellation is attended in any state and discards what is pending. -/
def cancel (c : InspectionController) : InspectionController × List Command :=
  ({ c with phase := .closing, target := none }, [order .close (c.position.getD 0)])

end InspectionController
end AytherRuntime.Inspection
