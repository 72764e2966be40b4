import Mathlib.Data.Finset.Card
import Mathlib.Data.Rat.Defs
import Mathlib.Algebra.Order.Ring.Unbundled.Rat

/-! The report of how a replay was presented: the frames that were late or otherwise affected, and when the
presentation counts as complete. -/
namespace AytherRuntime.Check

section Report

/-- What degrades or interrupts a presentation other than its cadence. -/
inductive PresentationCause
  | audibleOutputUnavailable | videoInitializationFailed | windowCreationFailed | swapchainInitializationFailed
  | rendererInitializationFailed | postprocessUnavailable | audioDeviceRemoved | videoAcquireFailed
  | videoFrameUnavailable | videoResizeFailed | videoPresentFailed | windowMinimized | deviceLost
  deriving DecidableEq, Repr

def PresentationCause.code : PresentationCause → String
  | .audibleOutputUnavailable => "audible_output_unavailable"
  | .videoInitializationFailed => "video_initialization_failed"
  | .windowCreationFailed => "window_creation_failed"
  | .swapchainInitializationFailed => "swapchain_initialization_failed"
  | .rendererInitializationFailed => "renderer_initialization_failed"
  | .postprocessUnavailable => "postprocess_unavailable"
  | .audioDeviceRemoved => "audio_device_removed"
  | .videoAcquireFailed => "video_acquire_failed"
  | .videoFrameUnavailable => "video_frame_unavailable"
  | .videoResizeFailed => "video_resize_failed"
  | .videoPresentFailed => "video_present_failed"
  | .windowMinimized => "window_minimized"
  | .deviceLost => "device_lost"

/-- `ReplayPresentation`, with the frames seen as sets. -/
structure ReplayPresentation where
  mode : String := "none"
  code : String := "not_requested"
  presentedFrames : ℕ := 0
  affectedFrames : ℕ := 0
  firstAffectedFrame : ℕ := 0
  lastAffectedFrame : ℕ := 0
  cancelled : Bool := false
  presentedSeen : Finset ℕ := ∅
  affectedSeen : Finset ℕ := ∅
  lateFrames : ℕ := 0
  intolerable : Bool := false

namespace ReplayPresentation
variable (presentation : ReplayPresentation)

def presented (frame : ℕ) : ReplayPresentation :=
  if frame ∈ presentation.presentedSeen then presentation
  else
    { presentation with
      presentedFrames := presentation.presentedFrames + 1
      presentedSeen := insert frame presentation.presentedSeen }

def affect (frame : ℕ) : ReplayPresentation :=
  let ranged :=
    if presentation.affectedFrames = 0 then
      { presentation with firstAffectedFrame := frame, lastAffectedFrame := frame }
    else
      { presentation with
        firstAffectedFrame := min presentation.firstAffectedFrame frame
        lastAffectedFrame := max presentation.lastAffectedFrame frame }
  if frame ∈ presentation.affectedSeen then ranged
  else
    { ranged with
      affectedFrames := presentation.affectedFrames + 1
      affectedSeen := insert frame presentation.affectedSeen }

/-- The first problem keeps naming the presentation. -/
def degrade (code : String) : ReplayPresentation :=
  if presentation.code = "presented" then { presentation with code } else presentation

def interrupted (cause : String) : ReplayPresentation :=
  let noted := if cause ≠ "" then { presentation with intolerable := true } else presentation
  if noted.code = "presented" ∧ cause ≠ "" then { noted with code := cause } else noted

def late (frame : ℕ) (periodsLate : ℚ) (takeFrames : ℕ) : ReplayPresentation :=
  let affected := (presentation.affect frame).degrade "cadence_degraded"
  let counted := { affected with lateFrames := affected.lateFrames + 1 }
  let budget := max 1 (takeFrames / 1000)
  if 3 < periodsLate ∨ budget < counted.lateFrames then { counted with intolerable := true } else counted

def toleratedLateFrames : ℕ := if presentation.intolerable then 0 else presentation.lateFrames

def complete : Bool :=
  if presentation.mode = "none" then true
  else if presentation.cancelled then false
  else if presentation.code = "presented" ∧ presentation.affectedFrames = 0 then true
  else presentation.code = "cadence_degraded" && !presentation.intolerable &&
    presentation.affectedFrames ≤ presentation.lateFrames

end ReplayPresentation

/-- What a replay reports of its presentation. -/
inductive PresentationReport
  | presented (frame : ℕ)
  | late (frame : ℕ) (periodsLate : ℚ)
  | affect (frame : ℕ)
  | interrupted (cause : PresentationCause)
  | degrade (cause : PresentationCause)
  | cancel (stoppedEarly : Bool)
  deriving DecidableEq

def ReplayPresentation.report (takeFrames : ℕ) (presentation : ReplayPresentation) :
    PresentationReport → ReplayPresentation
  | .presented frame => presentation.presented frame
  | .late frame periodsLate => presentation.late frame periodsLate takeFrames
  | .affect frame => presentation.affect frame
  | .interrupted cause => presentation.interrupted cause.code
  | .degrade cause => presentation.degrade cause.code
  | .cancel stoppedEarly => { presentation with cancelled := stoppedEarly }

/-- A visible presentation after its reports. -/
def presentation (takeFrames : ℕ) (reports : List PresentationReport) : ReplayPresentation :=
  reports.foldl (ReplayPresentation.report takeFrames) { mode := "visible", code := "presented" }

end Report
end AytherRuntime.Check
