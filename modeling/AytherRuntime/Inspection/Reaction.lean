import AytherRuntime.Inspection.Controller
import Mathlib.Tactic.SplitIfs
import Mathlib.Tactic.Tauto

/-! What one event can do to the inspection controller: every transition with its guard and its
orders, so that an invariant is one case analysis. -/
namespace AytherRuntime.Inspection

inductive ControllerEvent
  | prepared
  | key (action : KeyAction) (activity : FrameActivity)
  | frameCompleted (frame : ℕ)
  | takeSlotReached
  | recoveryFinished (outcome : RecoveryOutcome)
  | presentationInterrupted (cause : String)
  | presentationRecovered
  | cancel
  deriving DecidableEq, Repr

namespace InspectionController

def handle (c : InspectionController) : ControllerEvent → InspectionController × List Command
  | .prepared => c.prepared
  | .key action activity => c.key action activity
  | .frameCompleted frame => c.frameCompleted frame
  | .takeSlotReached => c.takeSlotReached
  | .recoveryFinished outcome => c.recoveryFinished outcome
  | .presentationInterrupted cause => c.presentationInterrupted cause
  | .presentationRecovered => c.presentationRecovered
  | .cancel => c.cancel

/-- Only `playing` and `pausing` accept the completion of a frame. -/
def Accepts (c : InspectionController) : Prop := c.phase = .playing ∨ c.phase = .pausing

/-- The transitions of the controller; notices aside, `ignored` changes and orders nothing. -/
inductive Reaction (c : InspectionController) :
    ControllerEvent → InspectionController → List Command → Prop
  | ignored (e out) (quiet : ∀ o ∈ out, o.kind = .notice) : Reaction c e c out
  | started (phase : c.phase = .preparing) : Reaction c .prepared { c with phase := .playing } []
  | debug (activity) (phase : c.phase ≠ .preparing ∧ c.phase ≠ .closing ∧ c.phase ≠ .failed) :
      Reaction c (.key .info activity) { c with debugVisible := !c.debugVisible }
        [order .toggleDebug (c.position.getD 0)]
  | paused (position) (phase : c.phase = .playing) (at_ : c.position = some position) :
      Reaction c (.key .toggle .betweenFrames) (c.pauseAt position).1 (c.pauseAt position).2
  | pausing (activity) (phase : c.phase = .playing)
      (busy : activity = .producing ∨ c.position = none) :
      Reaction c (.key .toggle activity) { c with phase := .pausing } []
  | resumed (activity) (phase : c.phase = .paused) (room : c.position.getD 0 + 1 < c.frames)
      (live : c.endedNaturally = false) :
      Reaction c (.key .toggle activity) { c with phase := .playing }
        [order .resumeAudio (c.position.getD 0 + 1), event "resume" (c.position.getD 0)]
  | advanced (activity) (phase : c.phase = .paused) (more : c.lastTake = false)
      (past : c.frames ≤ c.position.getD 0 + 1 ∨ c.endedNaturally = true) :
      Reaction c (.key .toggle activity) { c with phase := .closing }
        [event "advance_take" (c.position.getD 0), order .advanceTake (c.position.getD 0)]
  | steppedBack (action activity target) (phase : c.phase = .paused)
      (at_ : c.position.getD 0 = target + 1) :
      Reaction c (.key action activity)
        { c with target := some target, phase := .recovering, inspected := true }
        [order .recoverFrame target, event "step_back" target]
  | steppedForward (action activity) (phase : c.phase = .paused)
      (room : c.position.getD 0 + 1 < c.frames) :
      Reaction c (.key action activity)
        { c with target := some (c.position.getD 0 + 1), phase := .recovering, inspected := true }
        [order .recoverFrame (c.position.getD 0 + 1),
          event "step_forward" (c.position.getD 0 + 1)]
  | completed (frame) (phase : c.phase = .playing) (room : frame + 1 < c.frames) :
      Reaction c (.frameCompleted frame) { c with position := some frame } []
  | completedPausing (frame) (phase : c.phase = .pausing) :
      Reaction c (.frameCompleted frame)
        { c with position := some frame, phase := .paused,
                 endedNaturally := c.endedNaturally || decide (c.frames ≤ frame + 1) }
        [order .presentFrame frame, order .pauseAudio frame, event "pause" frame]
  | completedTake (frame) (phase : c.phase = .playing) (past : c.frames ≤ frame + 1)
      (more : c.lastTake = false) :
      Reaction c (.frameCompleted frame)
        { c with position := some frame, endedNaturally := true, takeEndPending := true } []
  | completedLast (frame) (phase : c.phase = .playing) (past : c.frames ≤ frame + 1)
      (last : c.lastTake = true) :
      Reaction c (.frameCompleted frame)
        { c with position := some frame, endedNaturally := true, phase := .paused }
        [order .confirmLinearResult frame, order .presentFrame frame, order .pauseAudio frame]
  | slot (phase : c.phase = .playing) (waiting : c.takeEndPending = true) :
      Reaction c .takeSlotReached { c with takeEndPending := false, phase := .closing }
        [order .advanceTake (c.position.getD 0)]
  | recoveredTo (target) (phase : c.phase = .recovering) (aim : c.target = some target) :
      Reaction c (.recoveryFinished .presented)
        { c with target := none, phase := .paused, position := some target }
        [order .presentFrame target]
  | recoveryRestored (target) (phase : c.phase = .recovering) (aim : c.target = some target) :
      Reaction c (.recoveryFinished .failedRestored) { c with target := none, phase := .paused }
        [noticeOf .recoveryFailed, order .presentFrame (c.position.getD 0)]
  | recoveryLost (target) (phase : c.phase = .recovering) (aim : c.target = some target) :
      Reaction c (.recoveryFinished .failedUnrecoverable)
        { c with target := none, phase := .failed } [order .finishTraversal (c.position.getD 0)]
  | interrupted (cause) (phase : c.phase ≠ .closing ∧ c.phase ≠ .failed) :
      Reaction c (.presentationInterrupted cause)
        { c with phase := .interrupted, target := none, cause }
        [event "interrupted" (c.position.getD 0)]
  | presented (phase : c.phase = .interrupted) :
      Reaction c .presentationRecovered { c with phase := .paused }
        [event "recovered" (c.position.getD 0), order .presentFrame (c.position.getD 0)]
  | cancelled : Reaction c .cancel { c with phase := .closing, target := none }
      [order .close (c.position.getD 0)]

variable (c : InspectionController)

lemma Reaction.unchanged (e : ControllerEvent) : Reaction c e c [] :=
  .ignored e [] (by simp)

lemma Reaction.notice (e : ControllerEvent) (value : Notice) : Reaction c e c [noticeOf value] :=
  .ignored e _ (by simp [noticeOf])

lemma Reaction.noticeIf (e : ControllerEvent) (p : Prop) [Decidable p] (value : Notice) :
    Reaction c e c (if p then [noticeOf value] else []) := by
  by_cases hp : p
  · simpa [hp] using Reaction.notice c e value
  · simpa [hp] using Reaction.unchanged c e

lemma key_reaction (action : KeyAction) (activity : FrameActivity) :
    Reaction c (.key action activity) (c.key action activity).1 (c.key action activity).2 := by
  fun_cases key c action activity with
  | case1 | case2 | case6 | case13 | case14 => exact .unchanged c _
  | case3 _ hopen hinfo hready => subst hinfo; exact .debug activity (by tauto)
  | case4 | case5 | case10 => exact .noticeIf c _ _ _
  | case7 hopen hinfo hphase htoggle position hpos =>
    obtain rfl : action = .toggle := by simpa using htoggle
    exact .paused position hphase hpos
  | case8 _ hopen hinfo hphase htoggle hbusy =>
    obtain rfl : action = .toggle := by simpa using htoggle
    refine .pausing activity hphase ?_
    cases activity with
    | producing => exact Or.inl rfl
    | betweenFrames =>
      cases hpos : c.position with
      | none => exact Or.inr rfl
      | some position => exact (hbusy position rfl hpos).elim
  | case9 => exact .notice c _ _
  | case11 _ hopen hinfo hphase frame htoggle =>
    subst htoggle
    unfold toggleInPause
    split_ifs with hplay hlast
    · exact .resumed activity hphase hplay.1 (by simpa using hplay.2)
    · exact .notice c _ _
    · refine .advanced activity hphase (by simpa using hlast) ?_
      by_contra hne
      rw [not_or,Nat.not_le] at hne
      exact hplay hne
  | case12 _ hopen hinfo hphase frame htoggle =>
    unfold stepInPause
    split_ifs with hbound hback
    · exact .unchanged c _
    · have hpos : frame ≠ 0 := fun h0 => hbound (Or.inl ⟨hback,h0⟩)
      exact .steppedBack action activity (frame-1) hphase (by change frame = _; omega)
    · have hroom : frame + 1 < c.frames :=
        Nat.not_le.mp (fun hle => hbound (Or.inr ⟨hback,hle⟩))
      exact .steppedForward action activity hphase hroom

lemma frameCompleted_reaction (frame : ℕ) :
    Reaction c (.frameCompleted frame) (c.frameCompleted frame).1 (c.frameCompleted frame).2 := by
  fun_cases frameCompleted c frame with
  | case1 => exact .unchanged c _
  | case2 hphase pending played hroom hpause =>
    have hend : (c.endedNaturally || decide (c.frames ≤ frame + 1)) = c.endedNaturally := by
      rw [decide_eq_false (Nat.not_le.mpr hroom),Bool.or_false]
    have h := Reaction.completedPausing frame hpause
    rw [hend] at h
    exact h
  | case3 hphase pending played hroom hpause =>
    exact .completed frame (by tauto) hroom
  | case4 hphase pending played hover ended hpause =>
    have hend : (c.endedNaturally || decide (c.frames ≤ frame + 1)) = true := by
      rw [decide_eq_true (Nat.not_lt.mp hover),Bool.or_true]
    have h := Reaction.completedPausing frame hpause
    rw [hend] at h
    exact h
  | case5 hphase pending played hover ended hpause hmore =>
    exact .completedTake frame (by tauto) (Nat.not_lt.mp hover) (by simpa using hmore)
  | case6 hphase pending played hover ended hpause hlast =>
    exact .completedLast frame (by tauto) (Nat.not_lt.mp hover) (by simpa using hlast)

/-- Every event is answered by one of the transitions. -/
theorem handle_reaction (e : ControllerEvent) : Reaction c e (c.handle e).1 (c.handle e).2 := by
  cases e with
  | prepared =>
    simp only [handle,prepared]
    split_ifs with hphase
    · exact .started hphase
    · exact .unchanged c _
  | key action activity => exact key_reaction c action activity
  | frameCompleted frame => exact frameCompleted_reaction c frame
  | takeSlotReached =>
    simp only [handle,takeSlotReached]
    split_ifs with hwait
    · simp only [takeEndWaiting,Bool.and_eq_true,beq_iff_eq] at hwait
      exact .slot hwait.1 hwait.2
    · exact .unchanged c _
  | recoveryFinished outcome =>
    simp only [handle,recoveryFinished]
    split
    · rename_i target hphase htarget
      cases outcome with
      | presented => exact .recoveredTo target hphase htarget
      | failedRestored => exact .recoveryRestored target hphase htarget
      | failedUnrecoverable => exact .recoveryLost target hphase htarget
    · exact .unchanged c _
  | presentationInterrupted cause =>
    simp only [handle,presentationInterrupted]
    split_ifs with hclosed
    · exact .unchanged c _
    · exact .interrupted cause (not_or.mp hclosed)
  | presentationRecovered =>
    simp only [handle,presentationRecovered]
    split_ifs with hphase
    · exact .unchanged c _
    · exact .presented (not_not.mp hphase)
  | cancel => exact .cancelled

/-- Only a completed frame and a presented recovery move the position. -/
lemma Reaction.position {c d : InspectionController} {e : ControllerEvent} {out : List Command}
    (hr : Reaction c e d out) (hframe : ∀ frame, e ≠ .frameCompleted frame)
    (hpresented : e ≠ .recoveryFinished .presented) : d.position = c.position := by
  cases hr with
  | completed frame | completedPausing frame | completedTake frame | completedLast frame =>
    exact absurd rfl (hframe frame)
  | recoveredTo => exact absurd rfl hpresented
  | paused position phase at_ => exact at_.symm
  | _ => rfl

lemma frameCompleted_position {c : InspectionController} (hphase : c.Accepts) (frame : ℕ) :
    (c.frameCompleted frame).1.position = some frame := by
  have hopen : ¬(c.phase ≠ .playing ∧ c.phase ≠ .pausing) := fun hno => hphase.elim hno.1 hno.2
  unfold frameCompleted
  rw [if_neg hopen]
  dsimp only
  split_ifs <;> rfl

end InspectionController
end AytherRuntime.Inspection
