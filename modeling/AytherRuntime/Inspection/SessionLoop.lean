import AytherRuntime.Inspection.Navigation
import AytherRuntime.Inspection.Reaction

/-! The inspection loop of the session: keys, interruptions, played frames and recoveries, with what it
shows, plays, restores and reports. -/
namespace AytherRuntime.Inspection

/-- What the session lets out, in order. -/
inductive Emission (σ : Type)
  /-- An image of the session, presented as this frame. -/
  | shown (frame : ℕ) (state : σ)
  | played (frame : ℕ) (state : σ)
  /-- The position where a recovery left the session. -/
  | restored (frame : ℕ) (state : σ)
  /-- `emit_event`, in the protocol that carries the inspection. -/
  | event (control : String) (before after : ℕ)
  /-- The close of the run of the take, with the inputs consumed by then. -/
  | finished (inputsConsumed : ℕ)
  /-- A post-end inspection opens its own run. -/
  | rearmed
  deriving DecidableEq

structure SessionLoop (σ : Type) where
  nav : Navigation σ
  controller : InspectionController
  inspectable : Bool := true
  confirmedLinear : Bool := false
  postEndRuns : ℕ := 0
  emitted : List (Emission σ) := []
  done : Bool := false
  /-- `fail_session` has ended the session. -/
  failed : Bool := false

/-- What a recovery is answered: the session it rearms after the natural end, if it could, and its two
attempts. -/
structure RecoveryAnswers (σ : Type) where
  rearm : Option σ := none
  first : Navigation.AttemptOutcome σ
  second : Navigation.AttemptOutcome σ

/-- What one turn of the loop attends. -/
inductive LoopAction (σ : Type)
  | cancel
  | key (action : KeyAction)
  | scroll
  | interrupted (cause : String)
  | presentationRecovered
  | slot
  /-- The next frame of playback, the size of its checkpoint if it could be exported, and whether the
  window stays open if it confirms the linear result. -/
  | play (o : FrameOutcome σ) (size : Option ℕ) (keeps : Bool)
  | recover (o : RecoveryAnswers σ)
  | idle

section Loop
variable {σ : Type}

namespace SessionLoop
variable (s : SessionLoop σ)

def emit (emission : Emission σ) : SessionLoop σ := { s with emitted := s.emitted ++ [emission] }

/-- `show`: nothing is presented without a view. -/
def showFrame (frame : ℕ) : SessionLoop σ :=
  if s.nav.view then s.emit (.shown frame s.nav.state) else s

@[simp] lemma emit_nav (emission : Emission σ) : (s.emit emission).nav = s.nav := rfl

@[simp] lemma emit_controller (emission : Emission σ) : (s.emit emission).controller = s.controller := rfl

@[simp] lemma showFrame_nav (frame : ℕ) : (s.showFrame frame).nav = s.nav := by
  unfold showFrame
  split_ifs <;> rfl

@[simp] lemma showFrame_controller (frame : ℕ) : (s.showFrame frame).controller = s.controller := by
  unfold showFrame
  split_ifs <;> rfl

/-- The last produced frame, if the session is at one. -/
def showSession : SessionLoop σ :=
  match s.nav.sessionFrame with
  | some frame => s.showFrame frame
  | none => s

def position : ℕ := s.controller.position.getD 0

/-- One command of `apply`. -/
def applyCommand (keeps : Bool) (s : SessionLoop σ) (command : Command) : SessionLoop σ :=
  match command.kind with
  | .presentFrame => if s.nav.sessionFrame = some command.frame then s.showFrame command.frame else s
  | .recoverFrame | .pauseAudio | .resumeAudio => s
  | .notice => if s.controller.phase ≠ .playing then s.showSession else s
  | .toggleDebug =>
    let s := s.emit (.event "overlay_toggle" s.position s.position)
    if s.controller.phase = .paused then s.showSession else s
  | .inspectionEvent =>
    let moves := command.control = "step_back" ∨ command.control = "step_forward"
    s.emit (.event command.control (if moves then s.position else command.frame) command.frame)
  | .confirmLinearResult =>
    { s.emit (.finished s.nav.loop.framesCompleted) with confirmedLinear := true, done := !keeps }
  | .advanceTake | .finishTraversal | .close => { s with done := true }

/-- `apply`, of what the controller answers. -/
def apply (keeps : Bool) (answer : InspectionController × List Command) : SessionLoop σ :=
  answer.2.foldl (applyCommand keeps) { s with controller := answer.1 }

/-- The end of the loop closes the run of the take, unless its result was confirmed before. -/
def finish : SessionLoop σ :=
  if s.done ∧ !s.confirmedLinear ∧ !s.failed then s.emit (.finished s.nav.loop.framesCompleted) else s

section Frames
variable (step : σ → UInt16 → σ) (buttons : List UInt16)

/-- `recover` once the session is there. -/
def recoverFrom (target : ℕ) (o : RecoveryAnswers σ) : SessionLoop σ × RecoveryOutcome :=
  let confirmed := s.position
  let audio := s.postEndRuns = 0
  let first := s.nav.reach step buttons target audio o.first
  if first.2 then
    ((({ s with nav := first.1 }).showFrame target).emit (.restored target first.1.state),.presented)
  else
    let second :=
      if first.1.sessionFrame = some confirmed then (first.1,true)
      else first.1.reach step buttons confirmed audio o.second
    if second.2 then
      ((({ s with nav := second.1 }).showFrame confirmed).emit (.restored confirmed second.1.state),
        .failedRestored)
    else ({ s with nav := second.1 },.failedUnrecoverable)

/-- The session that a post-end inspection rearms, at the first recovery after the natural end. -/
def rearm (o : RecoveryAnswers σ) : SessionLoop σ × Bool :=
  if s.confirmedLinear ∧ s.postEndRuns = 0 then
    let s := { s.emit .rearmed with postEndRuns := 1 }
    match o.rearm with
    | none => (s,false)
    | some state => ({ s with nav := { s.nav with state, view := false, sessionFrame := none } },true)
  else (s,true)

/-- `recover` -/
def recover (target : ℕ) (o : RecoveryAnswers σ) : SessionLoop σ × RecoveryOutcome :=
  let rearmed := s.rearm o
  if rearmed.2 then rearmed.1.recoverFrom step buttons target o else (rearmed.1,.failedUnrecoverable)

/-- The turn that recovers a frame. -/
def recoverTurn (o : RecoveryAnswers σ) : SessionLoop σ :=
  let target := s.controller.target.getD 0
  let recovered := s.showSession.recover step buttons target o
  let s := recovered.1
  let s :=
    if recovered.2 = .presented then s else s.emit (.event "recover_failed" target s.position)
  s.apply true (s.controller.recoveryFinished recovered.2)

/-- The checkpoint after a frame that advanced the linear production. -/
def capture (frame : ℕ) (size : Option ℕ) : SessionLoop σ :=
  match size with
  | some size =>
    if s.inspectable ∧ s.nav.checkpoints.ring.shouldCapture frame ∧
        frame + 1 = s.nav.loop.framesCompleted then
      { s with nav :=
        { s.nav with checkpoints := (s.nav.checkpoints.capture s.nav.state frame size).1 } }
    else s
  | none => s

/-- The turn that plays the next frame; a failed production ends the session without a close. -/
def playTurn (o : FrameOutcome σ) (size : Option ℕ) (keeps : Bool) : SessionLoop σ :=
  let frame := s.controller.nextFrame
  let produced := s.nav.produce step buttons frame o
  let s := { s with nav := produced.1 }
  if !produced.2 then { s with done := true, failed := true }
  else
    let s := ((s.emit (.played frame s.nav.state)).showFrame frame).capture frame size
    s.apply keeps (s.controller.frameCompleted frame)

/-- One turn of the loop, where the session attends it. -/
def turn (s : SessionLoop σ) : LoopAction σ → Option (SessionLoop σ)
  | .cancel => some (s.apply true s.controller.cancel)
  | .key action => some (s.apply true (s.controller.key action))
  | .scroll => some (if s.controller.phase ≠ .playing then s.showSession else s)
  | .interrupted cause =>
    if s.controller.phase = .interrupted then none
    else some (s.apply true (s.controller.presentationInterrupted cause))
  | .presentationRecovered =>
    if s.controller.phase = .interrupted then some (s.apply true s.controller.presentationRecovered)
    else none
  | .slot =>
    if s.controller.takeEndWaiting then some (s.apply true s.controller.takeSlotReached) else none
  | .play o size keeps =>
    if (s.controller.phase = .playing ∨ s.controller.phase = .pausing) ∧
        s.controller.takeEndWaiting = false then
      some (s.playTurn step buttons o size keeps)
    else none
  | .recover o =>
    if s.controller.phase = .recovering then some (s.recoverTurn step buttons o) else none
  | .idle =>
    if s.controller.phase = .paused ∨ s.controller.phase = .interrupted then
      some (s.showFrame (s.nav.sessionFrame.getD 0))
    else none

def next (s : SessionLoop σ) (action : LoopAction σ) : Option (SessionLoop σ) :=
  if s.done then none else (s.turn step buttons action).map finish

/-- A take whose initial state is acknowledged and whose playback starts. -/
def start (init : σ) (frames : ℕ) (lastTake inspectable : Bool) (interval budget size : ℕ) :
    SessionLoop σ where
  nav :=
    { state := init
      checkpoints :=
        let store : CheckpointStore σ := { ring := .new interval budget }
        if inspectable then (store.capture init initialCheckpointFrame size).1 else store }
  controller := (InspectionController.new frames lastTake).prepared.1
  inspectable := inspectable

end Frames
end SessionLoop
end Loop
end AytherRuntime.Inspection
