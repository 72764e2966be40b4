import AytherRuntime.Inspection.NaturalEnd

/-! Where a traversal of a take stands: the position and the target of the controller, and the orders
that name a frame, over every sequence of events that the session can feed. -/
namespace AytherRuntime.Inspection
open Machine InspectionController

/-- A controller and the frames that were completed or recovered so far, in order. -/
structure Traversal where
  controller : InspectionController
  reached : List ℕ := []

namespace InspectionController
variable (c : InspectionController)

/-- The frame that an event takes the controller to. -/
def reaches : ControllerEvent → Option ℕ
  | .frameCompleted frame => if c.phase = .playing ∨ c.phase = .pausing then some frame else none
  | .recoveryFinished .presented => if c.phase = .recovering then c.target else none
  | _ => none

/-- The events that the session can feed: it completes the next frame, and produces none while the take
waits for the slot of the next one. -/
def Feeds : ControllerEvent → Prop
  | .frameCompleted frame => frame = c.nextFrame ∧ c.takeEndWaiting = false
  | .key _ .producing => c.takeEndWaiting = false
  | _ => True

instance (e : ControllerEvent) : Decidable (c.Feeds e) :=
  match e with
  | .frameCompleted frame => inferInstanceAs (Decidable (frame = c.nextFrame ∧ c.takeEndWaiting = false))
  | .key _ .producing => inferInstanceAs (Decidable (c.takeEndWaiting = false))
  | .key _ .betweenFrames | .prepared | .takeSlotReached | .recoveryFinished _
    | .presentationInterrupted _ | .presentationRecovered | .cancel => inferInstanceAs (Decidable True)

/-- What every reachable state of the controller keeps. -/
structure Sound : Prop where
  target_iff : c.target.isSome = true ↔ c.phase = .recovering
  near : ∀ target, c.target = some target → target < c.frames ∧
    (target + 1 = c.position.getD 0 ∨ target = c.position.getD 0 + 1)
  room : ∀ position, c.position = some position → position < c.frames

end InspectionController

namespace Traversal
variable (t : Traversal)

def new (frames : ℕ) (lastTake : Bool) : Traversal := { controller := .new frames lastTake }

def feed (t : Traversal) (e : ControllerEvent) : Option Traversal :=
  if t.controller.Feeds e then
    some ⟨(t.controller.handle e).1,t.reached ++ (t.controller.reaches e).toList⟩
  else none

/-- Space in pause finds the position of a completed frame, or it has nothing to play. -/
def KnowsPosition : ControllerEvent → Prop
  | .key .toggle _ => t.controller.phase = .paused → t.controller.position = none →
    t.controller.frames = 1 ∧ t.controller.lastTake = true
  | _ => True

/-- What one event may do: a closed traversal stays closed, playback resumes at the next frame, the take
gives way once its last frame was reached, and only a frame that is reached moves the next one. -/
structure Proceeds (e : ControllerEvent) : Prop where
  closing : t.controller.phase = .closing → (t.controller.handle e).1.phase = .closing
  resumes : ∀ o ∈ (t.controller.handle e).2, o.kind = .resumeAudio →
    o.frame = t.controller.nextFrame ∧ o.frame = (t.controller.handle e).1.nextFrame
  advances : ∀ o ∈ (t.controller.handle e).2, o.kind = .advanceTake →
    t.controller.frames - 1 ∈ t.reached
  follows : (t.controller.handle e).1.nextFrame =
    match t.controller.reaches e with
    | some frame => frame + 1
    | none => t.controller.nextFrame

/-- The invariant of a traversal. -/
structure Guided : Prop where
  sound : t.controller.Sound
  reached : ∀ position, t.controller.position = some position → position ∈ t.reached
  ended : t.controller.endedNaturally = true → t.controller.phase ≠ .preparing ∧
    t.controller.phase ≠ .pausing ∧ (t.controller.phase = .playing → t.controller.takeEndPending = true) ∧
    t.controller.position.isSome = true ∧ t.controller.frames - 1 ∈ t.reached
  pending : t.controller.takeEndPending = true → t.controller.endedNaturally = true
  fresh : t.controller.position = none → t.reached = []
  playable : t.controller.phase = .preparing ∨ t.controller.phase = .playing ∨
    t.controller.phase = .pausing → t.controller.endedNaturally = false →
      t.controller.nextFrame < t.controller.frames

end Traversal

section Steps
variable {t u : Traversal} {e : ControllerEvent}
open Traversal

/-- An event moves the position only to the frame that it reaches. -/
lemma handle_position (c : InspectionController) (e : ControllerEvent) :
    (c.handle e).1.position =
      match c.reaches e with
      | some frame => some frame
      | none => c.position := by
  cases e with
  | frameCompleted frame =>
    simp only [reaches]
    by_cases haccepts : c.phase = .playing ∨ c.phase = .pausing
    · rw [if_pos haccepts]
      exact frameCompleted_position haccepts frame
    · have hignored : c.frameCompleted frame = (c,[]) := if_pos (not_or.mp haccepts)
      rw [if_neg haccepts]
      change (c.frameCompleted frame).1.position = _
      rw [hignored]
  | recoveryFinished outcome =>
    cases outcome with
    | presented =>
      simp only [handle,recoveryFinished,reaches]
      cases c.phase <;> cases c.target <;> rfl
    | failedRestored | failedUnrecoverable =>
      exact (c.handle_reaction _).position (by simp) (by simp)
  | _ => exact (c.handle_reaction _).position (by simp) (by simp)

lemma nextFrame_eq (c : InspectionController) :
    c.nextFrame = match c.position with
      | some position => position + 1
      | none => 0 := rfl

/-- A completed frame that is fed is the next one, and it is in the take. -/
lemma Traversal.Guided.completes (h : t.Guided) {frame : ℕ}
    (hfeeds : t.controller.Feeds (.frameCompleted frame))
    (hphase : t.controller.phase = .playing ∨ t.controller.phase = .pausing) :
    t.controller.endedNaturally = false ∧ frame < t.controller.frames := by
  obtain ⟨rfl,hwaiting⟩ := hfeeds
  have hlive : t.controller.endedNaturally = false := by
    by_contra hne
    obtain ⟨-,hpausing,hpending,-,-⟩ := h.ended (by simpa using hne)
    rcases hphase with hplaying | hpaused
    · simp [takeEndWaiting,hplaying,hpending hplaying] at hwaiting
    · exact hpausing hpaused
  exact ⟨hlive,h.playable (Or.inr hphase) hlive⟩

lemma InspectionController.Sound.idle {c : InspectionController} (h : c.Sound)
    (hphase : c.phase ≠ .recovering) : c.target = none := by
  cases htarget : c.target with
  | none => rfl
  | some target => exact absurd (h.target_iff.mp (by simp [htarget])) hphase

lemma sound_of_idle {c : InspectionController} (htarget : c.target = none)
    (hphase : c.phase ≠ .recovering) (hroom : ∀ position, c.position = some position →
      position < c.frames) : c.Sound :=
  ⟨by simp [htarget,hphase],by simp [htarget],hroom⟩

lemma Traversal.Guided.sound_step (h : t.Guided) (hfeeds : t.controller.Feeds e) :
    (t.controller.handle e).1.Sound := by
  have hreaction := t.controller.handle_reaction e
  have hroom := h.sound.room
  have hcompletes : ∀ frame, e = .frameCompleted frame → t.controller.phase = .playing ∨
      t.controller.phase = .pausing → ∀ position, some frame = some position →
        position < t.controller.frames := by
    rintro frame rfl hphase position ⟨⟩
    exact (h.completes hfeeds hphase).2
  generalize (t.controller.handle e).1 = d, (t.controller.handle e).2 = out at hreaction
  cases hreaction with
  | ignored => exact h.sound
  | debug => exact ⟨h.sound.target_iff,h.sound.near,hroom⟩
  | started phase | paused _ phase | pausing _ phase _ | resumed _ phase _ _ | advanced _ phase _ _
    | slot phase _ =>
    refine sound_of_idle (h.sound.idle (by simp [phase])) (by simp [pauseAt]) ?_
    first
      | exact hroom
      | exact fun position hposition => hroom position (by simp_all [pauseAt])
  | steppedBack action activity target phase at_ =>
    refine ⟨by simp,fun other hother => ?_,hroom⟩
    cases hother
    have hposition : target + 1 < t.controller.frames := by
      cases hposition : t.controller.position with
      | none => simp [hposition] at at_
      | some position =>
        rw [hposition,Option.getD_some] at at_
        exact at_ ▸ hroom position hposition
    exact ⟨Nat.lt_of_succ_lt hposition,Or.inl at_.symm⟩
  | steppedForward action activity phase room =>
    refine ⟨by simp,fun other hother => ?_,hroom⟩
    cases hother
    exact ⟨room,Or.inr rfl⟩
  | completed frame phase | completedPausing frame phase | completedTake frame phase
    | completedLast frame phase =>
    exact sound_of_idle (h.sound.idle (by simp [phase])) (by simp [phase])
      (hcompletes frame rfl (by simp [phase]))
  | recoveredTo target phase aim =>
    refine sound_of_idle rfl (by simp) fun position hposition => ?_
    cases hposition
    exact (h.sound.near target aim).1
  | recoveryRestored | recoveryLost | interrupted | cancelled =>
    exact sound_of_idle rfl (by simp) hroom
  | presented phase => exact sound_of_idle (h.sound.idle (by simp [phase])) (by simp) hroom

/-- The natural end stays known: its frame was reached and the controller is at some frame. -/
lemma Traversal.Guided.ended_step (h : t.Guided) (hfeeds : t.controller.Feeds e)
    (hended : (t.controller.handle e).1.endedNaturally = true) :
    (t.controller.handle e).1.phase ≠ .preparing ∧ (t.controller.handle e).1.phase ≠ .pausing ∧
      ((t.controller.handle e).1.phase = .playing → (t.controller.handle e).1.takeEndPending = true) ∧
      t.controller.frames - 1 ∈ t.reached ++ (t.controller.reaches e).toList := by
  have hreaction := t.controller.handle_reaction e
  have hkept : t.controller.endedNaturally = true →
      t.controller.frames - 1 ∈ t.reached ++ (t.controller.reaches e).toList :=
    fun hbefore => List.mem_append_left _ (h.ended hbefore).2.2.2.2
  have hcompletes : ∀ frame, e = .frameCompleted frame → t.controller.Accepts →
      t.controller.endedNaturally = false ∧ (t.controller.frames ≤ frame + 1 →
        t.controller.frames - 1 ∈ t.reached ++ (t.controller.reaches e).toList) := by
    rintro frame rfl hphase
    obtain ⟨hlive,hroom⟩ := h.completes hfeeds hphase
    refine ⟨hlive,fun hover => List.mem_append_right _ ?_⟩
    have hreaches : t.controller.reaches (.frameCompleted frame) = some frame := if_pos hphase
    rw [hreaches,Option.mem_toList]
    exact congrArg some (by omega)
  generalize (t.controller.handle e).1 = d, (t.controller.handle e).2 = out at hreaction hended
  cases hreaction with
  | ignored => exact ⟨(h.ended hended).1,(h.ended hended).2.1,(h.ended hended).2.2.1,hkept hended⟩
  | debug => exact ⟨(h.ended hended).1,(h.ended hended).2.1,(h.ended hended).2.2.1,hkept hended⟩
  | started phase => exact absurd phase (h.ended hended).1
  | pausing activity phase busy =>
    -- An ended take waits for its slot, with a position.
    obtain ⟨-,-,hpending,hposition,-⟩ := h.ended hended
    exfalso
    rcases busy with rfl | hnone
    · have hwaiting : t.controller.takeEndWaiting = false := hfeeds
      simp [takeEndWaiting,phase,hpending phase] at hwaiting
    · simp [hnone] at hposition
  | resumed activity phase room live =>
    dsimp only at hended
    rw [live] at hended
    cases hended
  | completed frame phase room =>
    dsimp only at hended
    rw [(hcompletes frame rfl (Or.inl phase)).1] at hended
    cases hended
  | completedPausing frame phase =>
    obtain ⟨hlive,hlast⟩ := hcompletes frame rfl (Or.inr phase)
    refine ⟨by simp,by simp,by simp,hlast ?_⟩
    simpa [hlive] using hended
  | completedTake frame phase past more =>
    exact ⟨by simp [phase],by simp [phase],by simp,(hcompletes frame rfl (Or.inl phase)).2 past⟩
  | completedLast frame phase past last =>
    exact ⟨by simp,by simp,by simp,(hcompletes frame rfl (Or.inl phase)).2 past⟩
  | paused | advanced | steppedBack | steppedForward | slot | recoveredTo | recoveryRestored
    | recoveryLost | interrupted | presented | cancelled =>
    exact ⟨by simp [pauseAt],by simp [pauseAt],by simp [pauseAt],hkept hended⟩

lemma Traversal.Guided.pending_step (h : t.Guided)
    (hpending : (t.controller.handle e).1.takeEndPending = true) :
    (t.controller.handle e).1.endedNaturally = true := by
  have hreaction := t.controller.handle_reaction e
  generalize (t.controller.handle e).1 = d, (t.controller.handle e).2 = out at hreaction hpending
  cases hreaction with
  | completedPausing => simp [h.pending hpending]
  | completedTake | completedLast => rfl
  | slot => cases hpending
  | _ => exact h.pending hpending

lemma Traversal.Guided.playable_step (h : t.Guided)
    (hphase : (t.controller.handle e).1.phase = .preparing ∨ (t.controller.handle e).1.phase = .playing ∨
      (t.controller.handle e).1.phase = .pausing)
    (hlive : (t.controller.handle e).1.endedNaturally = false) :
    (t.controller.handle e).1.nextFrame < t.controller.frames := by
  have hreaction := t.controller.handle_reaction e
  generalize (t.controller.handle e).1 = d, (t.controller.handle e).2 = out
    at hreaction hphase hlive ⊢
  cases hreaction with
  | ignored => exact h.playable hphase hlive
  | debug => exact h.playable hphase hlive
  | started phase => exact h.playable (Or.inl phase) hlive
  | pausing activity phase => exact h.playable (Or.inr (Or.inl phase)) hlive
  | resumed activity phase room =>
    unfold nextFrame
    dsimp only
    cases hposition : t.controller.position with
    | none => exact Nat.zero_lt_of_lt room
    | some position => simpa [hposition] using room
  | completed frame phase room => exact room
  | completedTake => cases hlive
  | paused | advanced | steppedBack | steppedForward | slot | recoveredTo | recoveryRestored
    | recoveryLost | interrupted | presented | cancelled | completedPausing | completedLast =>
    simp [pauseAt] at hphase

lemma Traversal.Guided.step (h : t.Guided) (hstep : t.feed e = some u) : u.Guided := by
  unfold feed at hstep
  split at hstep
  swap
  · cases hstep
  rename_i hfeeds
  obtain rfl := Option.some.inj hstep
  have hposition := handle_position t.controller e
  have hframes := (t.controller.handle_reaction e).frames
  have hreached : ∀ position, (t.controller.handle e).1.position = some position →
      position ∈ t.reached ++ (t.controller.reaches e).toList := by
    intro position hat
    rw [hposition] at hat
    cases hreaches : t.controller.reaches e with
    | some frame =>
      rw [hreaches] at hat
      cases hat
      simp
    | none =>
      rw [hreaches] at hat
      exact List.mem_append_left _ (h.reached position hat)
  have hfresh : (t.controller.handle e).1.position = none →
      t.reached ++ (t.controller.reaches e).toList = [] := by
    intro hnone
    rw [hposition] at hnone
    cases hreaches : t.controller.reaches e with
    | some frame =>
      rw [hreaches] at hnone
      cases hnone
    | none =>
      rw [hreaches] at hnone
      simp [h.fresh hnone]
  refine ⟨h.sound_step hfeeds,hreached,fun hended => ?_,h.pending_step,hfresh,fun hphase hlive => ?_⟩
  · obtain ⟨hpreparing,hpausing,hpending,hlast⟩ := h.ended_step hfeeds hended
    refine ⟨hpreparing,hpausing,hpending,?_,hframes ▸ hlast⟩
    -- Without a position nothing was reached.
    cases hnone : (t.controller.handle e).1.position with
    | some position => rfl
    | none =>
      rw [hfresh hnone] at hlast
      cases hlast
  · exact lt_of_lt_of_eq (h.playable_step hphase hlive) hframes.symm

lemma Traversal.Guided.proceeds (h : t.Guided) (hknows : t.KnowsPosition e) : t.Proceeds e := by
  have hreaction := t.controller.handle_reaction e
  have hposition := handle_position t.controller e
  refine ⟨fun hclosing => ?_,fun o hin hkind => ?_,fun o hin hkind => ?_,?_⟩
  · generalize (t.controller.handle e).1 = d, (t.controller.handle e).2 = out at hreaction
    cases hreaction <;> simp_all
  · generalize (t.controller.handle e).1 = d, (t.controller.handle e).2 = out at hreaction hin
    have hm : CommandKind.resumeAudio ∈ out.map Command.kind := hkind ▸ List.mem_map_of_mem hin
    cases hreaction with
    | ignored e out quiet =>
      have hnotice := quiet o hin
      rw [hkind] at hnotice
      cases hnotice
    | resumed activity phase room live =>
      have horder : o = order .resumeAudio (t.controller.position.getD 0 + 1) := by
        rcases List.mem_cons.mp hin with rfl | hevent
        · rfl
        · rw [List.mem_singleton.mp hevent] at hkind
          cases hkind
      have hnext : t.controller.position.getD 0 + 1 = t.controller.nextFrame := by
        unfold nextFrame
        cases hnone : t.controller.position with
        | some position => rfl
        | none =>
          have hone := (hknows phase hnone).1
          rw [hnone,Option.getD_none,hone] at room
          omega
      rw [horder]
      exact ⟨hnext,hnext⟩
    | _ => simp [pauseAt,order,event,noticeOf] at hm
  · generalize (t.controller.handle e).1 = d, (t.controller.handle e).2 = out at hreaction hin
    have hm : CommandKind.advanceTake ∈ out.map Command.kind := hkind ▸ List.mem_map_of_mem hin
    cases hreaction with
    | ignored e out quiet =>
      have hnotice := quiet o hin
      rw [hkind] at hnotice
      cases hnotice
    | advanced activity phase more past =>
      rcases past with hover | hended
      · cases hat : t.controller.position with
        | none =>
          have hlast := (hknows phase hat).2
          rw [more] at hlast
          cases hlast
        | some position =>
          have hroom := h.sound.room position hat
          rw [hat,Option.getD_some] at hover
          rw [show t.controller.frames - 1 = position by omega]
          exact h.reached position hat
      · exact (h.ended hended).2.2.2.2
    | slot phase waiting => exact (h.ended (h.pending waiting)).2.2.2.2
    | _ => simp [pauseAt,order,event,noticeOf] at hm
  · rw [nextFrame_eq,hposition]
    cases t.controller.reaches e <;> rfl

/-- Space in pause before any frame: playback is resumed at the frame after the next one, or the take
gives way without it. -/
lemma Traversal.Guided.knows (h : t.Guided) (hframes : 0 < t.controller.frames)
    (hproceeds : t.Proceeds e) : t.KnowsPosition e := by
  cases e with
  | key action activity =>
    cases action with
    | toggle =>
      intro hphase hnone
      have hlive : t.controller.endedNaturally = false := by
        by_contra hne
        have hposition := (h.ended (by simpa using hne)).2.2.2.1
        rw [hnone] at hposition
        cases hposition
      have hpressed : t.controller.handle (.key .toggle activity) = t.controller.toggleInPause 0 := by
        simp [handle,key,hphase,hnone]
      have hone : t.controller.frames = 1 := by
        by_contra hmore
        have hresume : t.controller.toggleInPause 0 = ({ t.controller with phase := .playing },
            [order .resumeAudio 1,event "resume" 0]) := if_pos ⟨by omega,by simp [hlive]⟩
        have hresumes := hproceeds.resumes (order .resumeAudio 1)
          (by rw [hpressed,hresume]; exact List.mem_cons_self ..) rfl
        rw [nextFrame_eq,hnone] at hresumes
        cases hresumes.1
      refine ⟨hone,?_⟩
      by_contra hmore
      have hadvance : order .advanceTake 0 ∈ (t.controller.handle (.key .toggle activity)).2 := by
        rw [hpressed]
        unfold toggleInPause
        rw [if_neg (by omega),if_pos hmore]
        simp
      have hreached := hproceeds.advances _ hadvance rfl
      rw [h.fresh hnone] at hreached
      cases hreached
    | info | left | right => trivial
  | _ => trivial

lemma new_guided {frames : ℕ} (hframes : 0 < frames) (lastTake : Bool) :
    (Traversal.new frames lastTake).Guided :=
  ⟨⟨by simp [Traversal.new,InspectionController.new],by simp [Traversal.new,InspectionController.new],
    by simp [Traversal.new,InspectionController.new]⟩,
    by simp [Traversal.new,InspectionController.new],by simp [Traversal.new,InspectionController.new],
    by simp [Traversal.new,InspectionController.new],fun _ => rfl,fun _ _ => hframes⟩

/-- Over every run of a take, the position and the target are sound, and the next event proceeds exactly
when Space in pause knows the position. -/
theorem traversal_proceeds_iff {frames : ℕ} (hframes : 0 < frames) (lastTake : Bool)
    (events : List ControllerEvent) (t : Traversal)
    (hrun : Steps feed (.new frames lastTake) events t) :
    t.controller.Sound ∧ ∀ e, t.controller.Feeds e → (t.Proceeds e ↔ t.KnowsPosition e) := by
  have hguided : t.Guided ∧ t.controller.frames = frames := by
    refine hrun.invariant (P := fun t => t.Guided ∧ t.controller.frames = frames) ?_
      ⟨new_guided hframes lastTake,rfl⟩
    rintro s e u ⟨hs,hsame⟩ hstep
    refine ⟨hs.step hstep,?_⟩
    unfold feed at hstep
    split at hstep
    · cases hstep
      exact (s.controller.handle_reaction e).frames.trans hsame
    · cases hstep
  exact ⟨hguided.1.sound,fun e _ => ⟨hguided.1.knows (hguided.2 ▸ hframes),hguided.1.proceeds⟩⟩

/-- Space after the first frame of two. -/
theorem traversal_proceeds_paused : ∃ t, Steps feed (.new 2 true)
    [.prepared,.frameCompleted 0,.key .toggle .betweenFrames] t ∧ t.controller.Sound ∧
      t.Proceeds (.key .toggle .betweenFrames) := by
  have hrun : Steps feed (.new 2 true) [.prepared,.frameCompleted 0,.key .toggle .betweenFrames] _ :=
    .next rfl (.next rfl (.next rfl (.done _)))
  obtain ⟨hsound,hproceeds⟩ := traversal_proceeds_iff (by decide) true _ _ hrun
  refine ⟨_,hrun,hsound,(hproceeds (.key .toggle .betweenFrames) trivial).mpr fun _ hnone => ?_⟩
  cases hnone

/-- An interruption before the first frame: Space then resumes at frame one, or leaves a take of one
frame that was never played. -/
theorem unplayed_pause_skips :
    (∃ t, Steps feed (.new 2 true) [.prepared,.presentationInterrupted "minimized",.presentationRecovered]
        t ∧ t.controller.nextFrame = 0 ∧
        order .resumeAudio 1 ∈ (t.controller.handle (.key .toggle .betweenFrames)).2 ∧
        ¬t.Proceeds (.key .toggle .betweenFrames)) ∧
      ∃ t, Steps feed (.new 1 false)
          [.prepared,.presentationInterrupted "minimized",.presentationRecovered] t ∧
        t.reached = [] ∧ order .advanceTake 0 ∈ (t.controller.handle (.key .toggle .betweenFrames)).2 ∧
        ¬t.Proceeds (.key .toggle .betweenFrames) := by
  refine ⟨⟨_,.next rfl (.next rfl (.next rfl (.done _))),rfl,by decide,fun h => ?_⟩,
    ⟨_,.next rfl (.next rfl (.next rfl (.done _))),rfl,by decide,fun h => ?_⟩⟩
  · cases (h.resumes (order .resumeAudio 1) (by decide) rfl).1
  · cases h.advances (order .advanceTake 0) (by decide) rfl

end Steps
end AytherRuntime.Inspection
