import AytherRuntime.Timeline.Parser
import Mathlib.Data.Rat.Floor

/-! Pad timelines compiled to one mask of buttons a frame, which the replay reads like the inputs of a take. -/
namespace AytherRuntime.Timeline
open Replay

/-- `std::llround`, halves away from zero. -/
def llround (x : ℚ) : ℤ := if x < 0 then -⌊-x + 1 / 2⌋ else ⌊x + 1 / 2⌋

inductive TimelineCompileError
  | invalidFps | durationRoundsToZero | tooManyFrames | noFrames
  deriving DecidableEq, Repr

/-- The frames of a step that takes time. -/
structure CompiledStepSpan where
  step : ℕ
  firstFrame : ℕ
  frames : ℕ
  deriving DecidableEq, Repr

structure CompiledTimeline where
  buttons : List UInt16
  spans : List CompiledStepSpan
  inputBytes : List UInt8
  fps : ℚ
  frames : ℕ
  deriving DecidableEq, Repr

/-- The frames of a duration at a frame rate. -/
def TimelineDuration.framesAt (duration : TimelineDuration) (fps : ℚ) : ℕ :=
  match duration.unit with
  | .frames => duration.frames
  | .seconds =>
    let rounded := llround (duration.seconds * fps)
    if rounded ≤ 0 then 0 else rounded.toNat

/-- The frames of a step that takes time. -/
def TimelineStep.framesAt (step : TimelineStep) (fps : ℚ) : ℕ :=
  (step.duration.getD ⟨.frames,0,defaultPressFrames⟩).framesAt fps

/-- What the loop of `compile_pad_timeline` keeps between two steps. -/
structure CompileState where
  held : UInt16 := 0
  buttons : List UInt16 := []
  spans : List CompiledStepSpan := []
  deriving DecidableEq, Repr

/-- A step that takes time, with the buttons of its frames. -/
def CompileState.span (state : CompileState) (fps : ℚ) (index : ℕ) (step : TimelineStep) (mask : UInt16) :
    Except (TimelineCompileError × ℕ) CompileState :=
  let frames := step.framesAt fps
  if frames = 0 then .error (.durationRoundsToZero,step.line)
  else if maxRecordingFrames < state.buttons.length + frames then .error (.tooManyFrames,step.line)
  else
    .ok
      { state with
        spans := state.spans ++ [⟨index,state.buttons.length,frames⟩]
        buttons := state.buttons ++ List.replicate frames mask }

def compileStep (fps : ℚ) (state : CompileState) (index : ℕ) (step : TimelineStep) :
    Except (TimelineCompileError × ℕ) CompileState :=
  match step.kind with
  | .down => .ok { state with held := state.held ||| step.buttons }
  | .up => .ok { state with held := state.held &&& ~~~step.buttons }
  | .wait => state.span fps index step state.held
  | .press => state.span fps index step (state.held ||| step.buttons)

/-- The loop of `compile_pad_timeline` from a step on. -/
def compileSteps (fps : ℚ) (state : CompileState) (index : ℕ) :
    List TimelineStep → Except (TimelineCompileError × ℕ) CompileState
  | [] => .ok state
  | step :: steps =>
    match compileStep fps state index step with
    | .error error => .error error
    | .ok next => compileSteps fps next (index + 1) steps

/-- A mask in its two bytes, the low one first. -/
def maskBytes (mask : UInt16) : List UInt8 := [(mask &&& 0xff).toUInt8,(mask >>> 8).toUInt8]

/-- `compile_pad_timeline` -/
def compilePadTimeline (timeline : PadTimeline) (fps : ℚ) : Except (TimelineCompileError × ℕ) CompiledTimeline :=
  if fps ≤ 0 ∨ 1000 < fps then .error (.invalidFps,0)
  else
    match compileSteps fps {} 0 timeline.steps with
    | .error error => .error error
    | .ok state =>
      if state.buttons.length < minRecordingFrames then .error (.noFrames,0)
      else .ok ⟨state.buttons,state.spans,state.buttons.flatMap maskBytes,fps,state.buttons.length⟩

/-- The span of a frame, the step and the frames still to run of it. -/
structure TimelinePosition where
  span : ℕ
  step : ℕ
  framesLeft : ℕ
  deriving DecidableEq, Repr

/-- The loop of `timeline_position` from a span on. -/
def positionFrom (frame index : ℕ) : List CompiledStepSpan → Option TimelinePosition
  | [] => none
  | span :: spans =>
    if span.firstFrame ≤ frame ∧ frame - span.firstFrame < span.frames then
      some ⟨index,span.step,span.firstFrame + span.frames - frame⟩
    else positionFrom frame (index + 1) spans

/-- `timeline_position` -/
def timelinePosition (compiled : CompiledTimeline) (frame : ℕ) : Option TimelinePosition :=
  positionFrom frame 0 compiled.spans

/-- `timeline_input_layout` -/
def timelineInputLayout (compiled : CompiledTimeline) : RecordingLayout :=
  ⟨compiled.frames,0,2 * compiled.frames⟩

/-- `make_timeline_input_source` -/
def makeTimelineInputSource (compiled : CompiledTimeline) : Except RecordingInputSourceError RecordingInputSource :=
  makeRecordingInputSource compiled.inputBytes (timelineInputLayout compiled)

end AytherRuntime.Timeline
