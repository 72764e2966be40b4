import AytherRuntime.Inspection.Reaction

/-! The confirmation of the linear result at the natural end of the last take, over every
sequence of events the controller can receive. -/
namespace AytherRuntime.Inspection
open Machine

namespace InspectionController

/-- After its natural end the last take never plays again. -/
structure StaysEnded (c : InspectionController) : Prop where
  lastTake : c.lastTake = true
  stopped : c.endedNaturally = true → c.phase ≠ .preparing ∧ ¬c.Accepts

lemma new_staysEnded (frames : ℕ) : (new frames true).StaysEnded := ⟨rfl,by simp [new]⟩

lemma StaysEnded.not_ended {c : InspectionController} (h : c.StaysEnded) (hc : c.Accepts) :
    c.endedNaturally = false := by
  by_contra hne
  exact (h.stopped (by simpa using hne)).2 hc

lemma Reaction.staysEnded {c d : InspectionController} {e : ControllerEvent} {out : List Command}
    (hr : Reaction c e d out) (h : c.StaysEnded) : d.StaysEnded := by
  have hlast := h.lastTake
  cases hr with
  | ignored => exact h
  | started phase => exact ⟨hlast,fun he => absurd phase (h.stopped he).1⟩
  | debug activity phase => exact ⟨hlast,h.stopped⟩
  | paused position phase at_ =>
    exact ⟨hlast,by simp [pauseAt,Accepts]⟩
  | pausing activity phase busy =>
    exact ⟨hlast,by simp [h.not_ended (Or.inl phase)]⟩
  | resumed activity phase room live => exact ⟨hlast,by simp [live]⟩
  | advanced | steppedBack | steppedForward | completedPausing | slot | recoveredTo
    | recoveryRestored | recoveryLost | interrupted | presented | cancelled =>
    exact ⟨hlast,by simp [Accepts]⟩
  | completed frame phase room => exact ⟨hlast,h.stopped⟩
  | completedTake frame phase past more => exact absurd hlast (by simp [more])
  | completedLast frame phase past last => exact ⟨hlast,by simp [Accepts]⟩

lemma handle_staysEnded (c : InspectionController) (e : ControllerEvent) (h : c.StaysEnded) :
    (c.handle e).1.StaysEnded := (c.handle_reaction e).staysEnded h

/-- A natural end is never taken back. -/
lemma Reaction.ended {c d : InspectionController} {e : ControllerEvent} {out : List Command}
    (hr : Reaction c e d out) (h : c.endedNaturally = true) : d.endedNaturally = true := by
  cases hr with
  | completedPausing => simp [h]
  | completedTake | completedLast => rfl
  | _ => exact h

/-- Only the completion of the last frame of the last take, in plain playback, confirms. -/
lemma Reaction.confirm {c d : InspectionController} {e : ControllerEvent} {out : List Command}
    (hr : Reaction c e d out) {o : Command} (ho : o ∈ out) (hk : o.kind = .confirmLinearResult) :
    c.Accepts ∧ d.endedNaturally = true := by
  have hm : CommandKind.confirmLinearResult ∈ out.map Command.kind := hk ▸ List.mem_map_of_mem ho
  cases hr with
  | ignored e out quiet =>
    have hnotice := quiet o ho
    rw [hk] at hnotice
    cases hnotice
  | completedLast frame phase past last => exact ⟨Or.inl phase,rfl⟩
  | _ => simp [pauseAt,order,event,noticeOf] at hm

end InspectionController
open InspectionController

/-- The orders that confirm the linear result. -/
def Confirms (o : Command) : Bool := o.kind = .confirmLinearResult

/-- The result is confirmed exactly once in the run, and by the first order that follows the
completion. -/
def ConfirmedInTime (before after : List Command) : Prop :=
  (before ++ after).countP Confirms = 1 ∧ ∃ o rest, after = o :: rest ∧ Confirms o = true

/-- A take that has ended confirms nothing more. -/
lemma ended_emits_no_confirm {c : InspectionController} (hc : c.StaysEnded)
    (hended : c.endedNaturally = true) (events : List ControllerEvent) :
    (emitted handle c events).countP Confirms = 0 := by
  rw [List.countP_eq_zero]
  refine emitted_forall (P := fun c => c.StaysEnded ∧ c.endedNaturally = true) ?_ ?_
    ⟨hc,hended⟩ events
  · intro c e ⟨hs,he⟩
    exact ⟨handle_staysEnded c e hs,(c.handle_reaction e).ended he⟩
  · intro c e ⟨hs,he⟩ o ho hk
    have hacc := ((c.handle_reaction e).confirm ho (by simpa [Confirms] using hk)).1
    exact (hs.stopped he).2 hacc

/-- A run that has confirmed has ended. -/
lemma emitted_confirm_ended {c : InspectionController} (events : List ControllerEvent)
    {o : Command} (ho : o ∈ emitted handle c events) (hk : Confirms o = true) :
    (final handle c events).endedNaturally = true := by
  induction events generalizing c with
  | nil => cases ho
  | cons e events ih =>
    rw [emitted_cons,List.mem_append] at ho
    rcases ho with hnow | hlater
    · have hend := ((c.handle_reaction e).confirm hnow (by simpa [Confirms] using hk)).2
      exact final_invariant (P := fun c : InspectionController => c.endedNaturally = true)
        (fun c e he => (c.handle_reaction e).ended he) hend events
    · exact ih hlater

/-- Nothing is confirmed before a completion the last take accepts. -/
lemma accepting_emitted_no_confirm {c : InspectionController} (hc : c.StaysEnded)
    (events : List ControllerEvent) (haccepts : (final handle c events).Accepts) :
    (emitted handle c events).countP Confirms = 0 := by
  rw [List.countP_eq_zero]
  intro o ho hk
  have hs : (final handle c events).StaysEnded := final_invariant handle_staysEnded hc events
  have hended := emitted_confirm_ended events ho hk
  rw [hs.not_ended haccepts] at hended
  cases hended

lemma frameCompleted_last_playing {c : InspectionController} {frame : ℕ}
    (hphase : c.phase = .playing) (hframes : c.frames = frame + 1) (hlast : c.lastTake = true) :
    c.frameCompleted frame =
      ({ c with position := some frame, endedNaturally := true, phase := .paused },
        [order .confirmLinearResult frame, order .presentFrame frame, order .pauseAudio frame]) := by
  simp [frameCompleted,hphase,hframes,hlast]

lemma frameCompleted_last_pausing {c : InspectionController} {frame : ℕ}
    (hphase : c.phase = .pausing) (hframes : c.frames = frame + 1) :
    c.frameCompleted frame =
      ({ c with position := some frame, endedNaturally := true, phase := .paused },
        [order .presentFrame frame, order .pauseAudio frame, event "pause" frame]) := by
  simp [frameCompleted,pauseAt,hphase,hframes]

lemma InspectionController.Reaction.frames {c d : InspectionController} {e : ControllerEvent} {out : List Command}
    (hr : Reaction c e d out) : d.frames = c.frames := by cases hr <;> rfl

lemma final_frames (c : InspectionController) (events : List ControllerEvent) :
    (final handle c events).frames = c.frames :=
  final_invariant (P := fun d : InspectionController => d.frames = c.frames)
    (fun d e h => (d.handle_reaction e).frames.trans h) rfl events

/-- The completion of the last frame of the last take confirms its linear result once, before
any other order, exactly when no pause is pending at that frame. -/
theorem natural_end_confirmed_iff (lastFrame : ℕ) (before after : List ControllerEvent)
    (haccepts : (final handle (new (lastFrame + 1) true) before).Accepts) :
    ConfirmedInTime (emitted handle (new (lastFrame + 1) true) before)
        (emitted handle (final handle (new (lastFrame + 1) true) before)
          (.frameCompleted lastFrame :: after)) ↔
      (final handle (new (lastFrame + 1) true) before).phase ≠ .pausing := by
  have hnew := new_staysEnded (lastFrame + 1)
  have hquiet := accepting_emitted_no_confirm hnew before haccepts
  have hs : (final handle (new (lastFrame + 1) true) before).StaysEnded :=
    final_invariant handle_staysEnded hnew before
  have hframes : (final handle (new (lastFrame + 1) true) before).frames = lastFrame + 1 :=
    final_frames _ before
  generalize final handle (new (lastFrame + 1) true) before = c at *
  generalize emitted handle (new (lastFrame + 1) true) before = earlier at *
  have hnext := handle_staysEnded c (.frameCompleted lastFrame) hs
  rw [ConfirmedInTime,emitted_cons]
  rcases haccepts with hphase | hphase
  · -- Plain playback: the confirmation opens the answer and the ended take repeats none.
    have hfc := frameCompleted_last_playing hphase hframes hs.lastTake
    change (c.frameCompleted lastFrame).1.StaysEnded at hnext
    change _ ∧ (∃ o rest, (c.frameCompleted lastFrame).2 ++
      emitted handle (c.frameCompleted lastFrame).1 after = o :: rest ∧ _) ↔ _
    have hrest := ended_emits_no_confirm hnext (by rw [hfc]) after
    rw [hfc] at hrest
    simp [hfc,handle,hphase,hquiet,hrest,Confirms,order]
  · -- A pending pause takes the branch that never confirms.
    have hfc := frameCompleted_last_pausing hphase hframes
    simp [hfc,handle,hphase,Confirms,order]

/-- A take of two frames, played whole. -/
theorem natural_end_confirmed_two_frames :
    ConfirmedInTime (emitted handle (new 2 true) [.prepared,.frameCompleted 0])
      (emitted handle (final handle (new 2 true) [.prepared,.frameCompleted 0])
        [.frameCompleted 1,.key .toggle .betweenFrames]) :=
  (natural_end_confirmed_iff 1 [.prepared,.frameCompleted 0] [.key .toggle .betweenFrames]
    (Or.inl (by decide))).mpr (by decide)

/-- Space during the only frame of a take: the completion pauses and confirms nothing. -/
theorem pending_pause_never_confirms :
    (final handle (new 1 true) [.prepared,.key .toggle .producing]).Accepts ∧
      ¬ConfirmedInTime (emitted handle (new 1 true) [.prepared,.key .toggle .producing])
        (emitted handle (final handle (new 1 true) [.prepared,.key .toggle .producing])
          [.frameCompleted 0]) :=
  ⟨Or.inr (by decide),fun h => absurd h.1 (by decide)⟩

end AytherRuntime.Inspection
