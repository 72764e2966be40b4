import AytherRuntime.Inspection.LinearLoop
import AytherRuntime.Inspection.Traversal

/-! The way back of a recovery that missed its target: when the confirmed frame can still be reached from
the latest checkpoint before it. -/
namespace AytherRuntime.Inspection

section Fallback
variable {σ : Type} (step : σ → UInt16 → σ) (buttons : List UInt16)

namespace Navigation
variable (nav : Navigation σ)

/-- The goal is reached from a checkpoint that restores, by steps that succeed in time. -/
def ReachesFrom (checkpoint : ℤ) (goal : ℕ) (audio : Bool) (o : AttemptOutcome σ) : Prop :=
  (nav.rewind checkpoint audio o.restore).2 = true ∧
    (replay step buttons o.frame (nav.rewind checkpoint audio o.restore).1
      (List.range' (checkpoint + 1).toNat (goal + 1 - (checkpoint + 1).toNat))).2 = true

/-- What a frame answers where its time does not count. -/
def untimed (o : ℕ → FrameOutcome σ) (frame : ℕ) : FrameOutcome σ := { o frame with late := false }

end Navigation

/-- The first attempt of a recovery: the session it leaves, and whether it reached the target. -/
def SessionLoop.firstAttempt (s : SessionLoop σ) (target : ℕ) (o : RecoveryAnswers σ) :
    Navigation σ × Bool :=
  (s.rearm o).1.nav.reach step buttons target (decide ((s.rearm o).1.postEndRuns = 0)) o.first

variable {step buttons} {nav : Navigation σ}
open Navigation

/-- A recorded frame is produced again if the Engine steps and numbers it as expected. -/
lemma produce_again_iff {frame : ℕ} (hframe : frame < nav.loop.framesCompleted) (o : FrameOutcome σ) :
    (nav.produce step buttons frame o).2 = true ↔ ∃ input frameIndex, buttons[frame]? = some input ∧
      o.step = .stepped frameIndex ∧
        frameIndex = nav.engineBase.getD (frameIndex - UInt64.ofNat frame - 1) + UInt64.ofNat frame + 1 := by
  unfold produce
  rw [if_neg hframe.ne,if_pos hframe]
  cases hinput : buttons[frame]? with
  | none => simp
  | some input =>
    cases hstep : o.step with
    | threw left => simp
    | stepped frameIndex =>
      dsimp only
      unfold confirmIndex
      dsimp only
      split
      · rename_i hwrong
        refine ⟨by simp,fun h => ?_⟩
        obtain ⟨_,index,_,hindex,hright⟩ := h
        cases hindex
        exact absurd hright hwrong
      · rename_i hright
        exact ⟨fun _ => ⟨input,frameIndex,rfl,rfl,not_not.mp hright⟩,fun _ => rfl⟩

/-- A production keeps the numbering of the Engine once it is known, and a recorded frame keeps the
linear loop. -/
lemma produce_keeps (step : σ → UInt16 → σ) (buttons : List UInt16) {frame : ℕ}
    (hframe : frame < nav.loop.framesCompleted) (o : FrameOutcome σ) :
    (nav.produce step buttons frame o).1.loop = nav.loop ∧
      ∀ base, nav.engineBase = some base → (nav.produce step buttons frame o).1.engineBase = some base := by
  unfold produce
  rw [if_neg hframe.ne,if_pos hframe]
  split
  · exact ⟨rfl,fun base h => h⟩
  · exact ⟨rfl,fun base h => h⟩
  · unfold confirmIndex
    dsimp only
    split <;> exact ⟨rfl,fun base h => by rw [h,Option.getD_some]⟩

lemma rewind_keeps (nav : Navigation σ) (checkpoint : ℤ) (audio : Bool) (o : RestoreOutcome σ) :
    (nav.rewind checkpoint audio o).1.loop = nav.loop ∧
      (nav.rewind checkpoint audio o).1.engineBase = nav.engineBase := by
  unfold rewind Navigation.restore
  cases nav.checkpoints.find checkpoint with
  | none => exact ⟨rfl,rfl⟩
  | some saved => cases o <;> cases audio <;> exact ⟨rfl,rfl⟩

lemma replay_keeps (step : σ → UInt16 → σ) (buttons : List UInt16) (o : ℕ → FrameOutcome σ)
    {frames : List ℕ}
    (hframes : ∀ frame ∈ frames, frame < nav.loop.framesCompleted) :
    (replay step buttons o nav frames).1.loop = nav.loop ∧
      ∀ base, nav.engineBase = some base →
        (replay step buttons o nav frames).1.engineBase = some base := by
  induction frames generalizing nav with
  | nil => exact ⟨rfl,fun base h => h⟩
  | cons frame frames ih =>
    obtain ⟨hloop,hbase⟩ := produce_keeps step buttons
      (hframes frame (List.mem_cons_self ..)) (o frame)
    unfold replay
    dsimp only
    split
    · exact ⟨hloop,hbase⟩
    · have hrest : ∀ other ∈ frames,
          other < (nav.produce step buttons frame (o frame)).1.loop.framesCompleted := by
        rw [hloop]
        exact fun other hin => hframes other (List.mem_cons_of_mem _ hin)
      obtain ⟨hloop',hbase'⟩ := ih hrest
      exact ⟨hloop'.trans hloop,fun base h => hbase' base (hbase base h)⟩

/-- The last frame of a replay that reaches its end. -/
lemma replay_concat (o : ℕ → FrameOutcome σ) (frames : List ℕ) (last : ℕ) :
    (replay step buttons o nav (frames ++ [last])).2 = true ↔
      (replay step buttons o nav frames).2 = true ∧
        ((replay step buttons o nav frames).1.produce step buttons last (o last)).2 = true ∧
          (o last).late = false := by
  induction frames generalizing nav with
  | nil =>
    rw [List.nil_append]
    unfold replay
    dsimp only
    split
    · rename_i hstop
      simp only [Bool.not_eq_true'] at hstop ⊢
      constructor
      · intro h
        cases h
      · rintro ⟨-,hok,hlate⟩
        rcases hstop with hfail | hlate'
        · rw [hok] at hfail
          cases hfail
        · rw [hlate] at hlate'
          cases hlate'
    · rename_i hgo
      rw [not_or] at hgo
      simpa [replay] using hgo
  | cons frame frames ih =>
    rw [List.cons_append]
    unfold replay
    dsimp only
    split
    · simp
    · exact ih

lemma range'_goal {checkpoint : ℤ} {goal : ℕ} (h : checkpoint < goal) :
    List.range' (checkpoint + 1).toNat (goal + 1 - (checkpoint + 1).toNat) =
      List.range' (checkpoint + 1).toNat (goal - (checkpoint + 1).toNat) ++ [goal] := by
  have hcount : goal + 1 - (checkpoint + 1).toNat = goal - (checkpoint + 1).toNat + 1 := by omega
  have hlast : (checkpoint + 1).toNat + (goal - (checkpoint + 1).toNat) = goal := by omega
  rw [hcount,List.range'_1_concat,hlast]

/-- From the frame before the goal, the goal is one step away whenever a checkpoint reaches it. -/
lemma Navigation.ReachesFrom.next {checkpoint : ℤ} {goal : ℕ} {audio : Bool} {o : AttemptOutcome σ}
    (hcheckpoint : checkpoint < goal) (hgoal : goal < nav.loop.framesCompleted)
    (h : nav.ReachesFrom step buttons checkpoint goal audio o) :
    (nav.produce step buttons goal (o.frame goal)).2 = true ∧ (o.frame goal).late = false := by
  obtain ⟨-,hreplay⟩ := h
  rw [range'_goal hcheckpoint,replay_concat] at hreplay
  obtain ⟨-,hok,hlate⟩ := hreplay
  obtain ⟨hloop,hbase⟩ := rewind_keeps nav checkpoint audio o.restore
  have hrecorded : ∀ frame ∈ List.range' (checkpoint + 1).toNat (goal - (checkpoint + 1).toNat),
      frame < (nav.rewind checkpoint audio o.restore).1.loop.framesCompleted := by
    intro frame hin
    rw [hloop]
    have hle := (List.mem_range'_1.mp hin).2
    omega
  obtain ⟨hloop',hbase'⟩ := replay_keeps step buttons o.frame hrecorded
  rw [produce_again_iff (by rw [hloop',hloop]; exact hgoal)] at hok
  obtain ⟨input,frameIndex,hinput,hstep,hindex⟩ := hok
  refine ⟨(produce_again_iff hgoal _).mpr ⟨input,frameIndex,hinput,hstep,?_⟩,hlate⟩
  cases hknown : nav.engineBase with
  | none =>
    rw [Option.getD_none]
    grind
  | some base =>
    rw [hbase' base (hbase.trans hknown)] at hindex
    exact hindex

lemma replay_sessionFrame (o : ℕ → FrameOutcome σ) (frames : List ℕ) (last : ℕ)
    (h : (replay step buttons o nav (frames ++ [last])).2 = true) :
    (replay step buttons o nav (frames ++ [last])).1.sessionFrame = some last := by
  induction frames generalizing nav with
  | nil =>
    rw [List.nil_append] at h ⊢
    unfold replay at h ⊢
    dsimp only at h ⊢
    split at h
    · cases h
    · rename_i hgo
      rw [if_neg hgo]
      obtain ⟨-,⟨-,hframe,-⟩ | ⟨hfail,-⟩⟩ := produce_cases step buttons nav last (o last)
      · exact hframe
      · simp [hfail] at hgo
  | cons frame frames ih =>
    rw [List.cons_append] at h ⊢
    unfold replay at h ⊢
    dsimp only at h ⊢
    split at h
    · cases h
    · rename_i hgo
      rw [if_neg hgo]
      exact ih h

/-- An attempt reaches a completed frame from the latest checkpoint before it. -/
lemma Navigation.ReachesFrom.reach {checkpoint : ℤ} {goal : ℕ} {audio : Bool} {o : AttemptOutcome σ}
    (hlatest : nav.checkpoints.ring.latestAtMost ((goal : ℤ) - 1) = some checkpoint)
    (hgoal : goal < nav.loop.framesCompleted)
    (h : nav.ReachesFrom step buttons checkpoint goal audio o) :
    (nav.reach step buttons goal audio o).2 = true ∧
      (nav.reach step buttons goal audio o).1.sessionFrame = some goal := by
  have hcheckpoint : checkpoint < goal := by
    have hle := CheckpointRing.latestAtMost_le _ hlatest
    omega
  have hrestore : restorePlan nav.checkpoints.ring goal =
      ⟨.restore,checkpoint,(checkpoint + 1).toNat,goal⟩ := by
    unfold restorePlan
    rw [hlatest]
  have hplan : (∃ frame, nav.sessionFrame = some frame ∧ goal = frame + 1 ∧
      nav.plan goal = ⟨.step,frame,goal,goal⟩) ∨
        nav.plan goal = ⟨.restore,checkpoint,(checkpoint + 1).toNat,goal⟩ := by
    unfold plan
    cases hframe : nav.sessionFrame with
    | none => exact Or.inr hrestore
    | some frame =>
      dsimp only
      unfold planRecovery
      split_ifs with hnext
      · exact Or.inl ⟨frame,rfl,hnext,rfl⟩
      · exact Or.inr hrestore
  unfold Navigation.reach
  rcases hplan with ⟨frame,hframe,hnext,hplan⟩ | hplan
  · obtain ⟨hok,hlate⟩ := h.next hcheckpoint hgoal
    have hreplay : (replay step buttons o.frame nav ([] ++ [goal])).2 = true :=
      (replay_concat o.frame [] goal).mpr ⟨rfl,hok,hlate⟩
    have hsession := replay_sessionFrame o.frame [] goal hreplay
    rw [List.nil_append] at hreplay hsession
    have hone : List.range' goal (goal + 1 - goal) = [goal] := by
      rw [Nat.add_sub_cancel_left]
      rfl
    rw [hplan]
    dsimp only
    rw [if_neg (by simp [hframe,hnext]),hone]
    exact ⟨by simp [hreplay,hsession],hsession⟩
  · obtain ⟨hrewound,hreplay⟩ := h
    rw [hplan]
    dsimp only
    rw [if_neg (by simp [hrewound])]
    rw [range'_goal hcheckpoint] at hreplay ⊢
    have hsession := replay_sessionFrame o.frame _ goal hreplay
    exact ⟨by simp [hreplay,hsession],hsession⟩

/-- A production never takes back a completed frame; a frame that it produces is completed. -/
lemma produce_completes (step : σ → UInt16 → σ) (buttons : List UInt16) (nav : Navigation σ)
    (frame : ℕ) (o : FrameOutcome σ) :
    nav.loop.framesCompleted ≤ (nav.produce step buttons frame o).1.loop.framesCompleted ∧
      ((nav.produce step buttons frame o).2 = true →
        frame < (nav.produce step buttons frame o).1.loop.framesCompleted) := by
  rcases Nat.lt_trichotomy frame nav.loop.framesCompleted with hlt | heq | hgt
  · obtain ⟨hloop,-⟩ := produce_keeps step buttons hlt o
    rw [hloop]
    exact ⟨le_rfl,fun _ => hlt⟩
  · have hloop : ∀ (n : Navigation σ) index, (n.confirmIndex frame index).1.loop = n.loop := by
      intro n index
      unfold confirmIndex
      dsimp only
      split <;> rfl
    have hexecuted : nav.loop.framesCompleted ≤
          (executeNext step buttons nav.loop nav.state o).1.framesCompleted ∧
        ((executeNext step buttons nav.loop nav.state o).2.2.2.isSome = true →
          nav.loop.framesCompleted <
            (executeNext step buttons nav.loop nav.state o).1.framesCompleted) := by
      unfold executeNext
      dsimp only
      split
      · exact ⟨le_rfl,by simp⟩
      split
      · exact ⟨le_rfl,by simp⟩
      split
      · exact ⟨le_rfl,by simp⟩
      split
      · exact ⟨le_rfl,by simp⟩
      split
      · exact ⟨le_rfl,by simp⟩
      split
      · exact ⟨Nat.le_succ _,by simp⟩
      · exact ⟨Nat.le_succ _,fun _ => Nat.lt_succ_self _⟩
    unfold produce
    dsimp only
    rw [if_pos heq]
    cases hindex : (executeNext step buttons nav.loop nav.state o).2.2.2 with
    | none => exact ⟨hexecuted.1,by simp⟩
    | some index =>
      dsimp only
      rw [hloop]
      exact ⟨hexecuted.1,fun _ => heq ▸ hexecuted.2 (by simp [hindex])⟩
  · unfold produce
    rw [if_neg hgt.ne',if_neg hgt.not_gt]
    exact ⟨le_rfl,by simp⟩

lemma replay_completes (step : σ → UInt16 → σ) (buttons : List UInt16) (o : ℕ → FrameOutcome σ)
    (frames : List ℕ) (nav : Navigation σ) :
    (replay step buttons o nav frames).1.checkpoints = nav.checkpoints ∧
      nav.loop.framesCompleted ≤ (replay step buttons o nav frames).1.loop.framesCompleted := by
  induction frames generalizing nav with
  | nil => exact ⟨rfl,le_rfl⟩
  | cons frame frames ih =>
    have hcheckpoints := (produce_cases step buttons nav frame (o frame)).1
    have hcompletes := (produce_completes step buttons nav frame (o frame)).1
    unfold replay
    dsimp only
    split
    · exact ⟨hcheckpoints,hcompletes⟩
    · obtain ⟨hkept,hle⟩ := ih (nav.produce step buttons frame (o frame)).1
      exact ⟨hkept.trans hcheckpoints,hcompletes.trans hle⟩

/-- An attempt keeps the checkpoints and every completed frame. -/
lemma reach_completes (step : σ → UInt16 → σ) (buttons : List UInt16) (nav : Navigation σ) (goal : ℕ)
    (audio : Bool) (o : AttemptOutcome σ) :
    (nav.reach step buttons goal audio o).1.checkpoints = nav.checkpoints ∧
      nav.loop.framesCompleted ≤ (nav.reach step buttons goal audio o).1.loop.framesCompleted := by
  have hrewind : ∀ checkpoint, (nav.rewind checkpoint audio o.restore).1.checkpoints = nav.checkpoints := by
    intro checkpoint
    unfold rewind Navigation.restore
    cases nav.checkpoints.find checkpoint with
    | none => rfl
    | some saved => cases o.restore <;> cases audio <;> rfl
  unfold Navigation.reach
  dsimp only
  split
  · exact ⟨rfl,le_rfl⟩
  · split
    · exact ⟨rfl,le_rfl⟩
    · exact replay_completes step buttons o.frame _ nav
  · obtain ⟨hloop,-⟩ := rewind_keeps nav (nav.plan goal).checkpoint audio o.restore
    split
    · exact ⟨hrewind _,hloop ▸ le_rfl⟩
    · obtain ⟨hkept,hle⟩ := replay_completes step buttons o.frame
        (List.range' (nav.plan goal).replayFrom ((nav.plan goal).replayTo + 1 - (nav.plan goal).replayFrom))
        (nav.rewind (nav.plan goal).checkpoint audio o.restore).1
      exact ⟨hkept.trans (hrewind _),hloop ▸ hle⟩

/-- A recovery that misses its target goes back to the confirmed frame, if the latest checkpoint before it
restores and the steps from there succeed in time. -/
theorem recover_failedRestored (step : σ → UInt16 → σ) (buttons : List UInt16) (s : SessionLoop σ)
    (target : ℕ) (o : RecoveryAnswers σ) (checkpoint : ℤ) (hrearm : (s.rearm o).2 = true)
    (hmissed : (s.firstAttempt step buttons target o).2 = false)
    (hcompleted : s.position < s.nav.loop.framesCompleted)
    (hlatest : s.nav.checkpoints.ring.latestAtMost ((s.position : ℤ) - 1) = some checkpoint)
    (hreaches : (s.firstAttempt step buttons target o).1.ReachesFrom step buttons checkpoint s.position
      (decide ((s.rearm o).1.postEndRuns = 0)) o.second) :
    (s.recover step buttons target o).2 = .failedRestored ∧
      (s.recover step buttons target o).1.nav.sessionFrame = some s.position := by
  have hposition : (s.rearm o).1.position = s.position := by
    unfold SessionLoop.rearm
    split
    · cases o.rearm <;> rfl
    · rfl
  have hrearmed : (s.rearm o).1.nav.loop = s.nav.loop ∧
      (s.rearm o).1.nav.checkpoints = s.nav.checkpoints := by
    unfold SessionLoop.rearm
    split
    · cases o.rearm <;> exact ⟨rfl,rfl⟩
    · exact ⟨rfl,rfl⟩
  obtain ⟨hkept,hle⟩ := reach_completes step buttons (s.rearm o).1.nav target
    (decide ((s.rearm o).1.postEndRuns = 0)) o.first
  rw [hrearmed.1] at hle
  unfold SessionLoop.firstAttempt at hmissed hreaches
  obtain ⟨hreached,hframe⟩ := hreaches.reach (by rw [hkept,hrearmed.2,hlatest])
    (lt_of_lt_of_le hcompleted hle)
  unfold SessionLoop.recover
  rw [if_pos hrearm]
  unfold SessionLoop.recoverFrom
  dsimp only
  rw [hposition,if_neg (by simp [hmissed])]
  by_cases hthere : ((s.rearm o).1.nav.reach step buttons target
      (decide ((s.rearm o).1.postEndRuns = 0)) o.first).1.sessionFrame = some s.position
  · rw [if_pos hthere,if_pos rfl]
    exact ⟨rfl,by simp [hthere]⟩
  · rw [if_neg hthere,if_pos hreached]
    exact ⟨rfl,by simp [hframe]⟩

lemma apply_kept (s : SessionLoop σ) (keeps : Bool) (answer : InspectionController × List Command) :
    (s.apply keeps answer).nav = s.nav ∧ (s.apply keeps answer).controller = answer.1 := by
  have hcommand : ∀ (t : SessionLoop σ) command, (t.applyCommand keeps command).nav = t.nav ∧
      (t.applyCommand keeps command).controller = t.controller := by
    intro t command
    have hshown : t.showSession.nav = t.nav ∧ t.showSession.controller = t.controller := by
      unfold SessionLoop.showSession
      split <;> simp
    have htoggled : (t.emit (.event "overlay_toggle" t.position t.position)).showSession.nav = t.nav ∧
        (t.emit (.event "overlay_toggle" t.position t.position)).showSession.controller =
          t.controller := by
      unfold SessionLoop.showSession
      split <;> simp
    unfold SessionLoop.applyCommand
    dsimp only
    split
    · split_ifs <;> simp
    · exact ⟨rfl,rfl⟩
    · exact ⟨rfl,rfl⟩
    · exact ⟨rfl,rfl⟩
    · split_ifs
      · exact hshown
      · exact ⟨rfl,rfl⟩
    · split_ifs
      · exact htoggled
      · exact ⟨rfl,rfl⟩
    all_goals exact ⟨rfl,rfl⟩
  obtain ⟨c,commands⟩ := answer
  unfold SessionLoop.apply
  dsimp only
  have hfold : ∀ t : SessionLoop σ, (commands.foldl (SessionLoop.applyCommand keeps) t).nav = t.nav ∧
      (commands.foldl (SessionLoop.applyCommand keeps) t).controller = t.controller := by
    induction commands with
    | nil => exact fun t => ⟨rfl,rfl⟩
    | cons command commands ih =>
      intro t
      obtain ⟨hnav,hcontroller⟩ := ih (t.applyCommand keeps command)
      obtain ⟨hnav',hcontroller'⟩ := hcommand t command
      exact ⟨hnav.trans hnav',hcontroller.trans hcontroller'⟩
  exact hfold { s with controller := c }

/-- A goal that is reached is a completed frame. -/
lemma reach_frame_completed (step : σ → UInt16 → σ) (buttons : List UInt16) (nav : Navigation σ)
    (goal : ℕ) (audio : Bool) (o : AttemptOutcome σ)
    (h : (nav.reach step buttons goal audio o).2 = true) :
    goal < (nav.reach step buttons goal audio o).1.loop.framesCompleted := by
  have hlast : ∀ (n : Navigation σ) frames, (replay step buttons o.frame n (frames ++ [goal])).2 = true →
      goal < (replay step buttons o.frame n (frames ++ [goal])).1.loop.framesCompleted := by
    intro n frames
    induction frames generalizing n with
    | nil =>
      intro hreplay
      rw [List.nil_append] at hreplay ⊢
      unfold replay at hreplay ⊢
      dsimp only at hreplay ⊢
      split at hreplay
      · cases hreplay
      · rename_i hgo
        rw [if_neg hgo]
        exact (produce_completes step buttons n goal (o.frame goal)).2 (by simpa using (not_or.mp hgo).1)
    | cons frame frames ih =>
      intro hreplay
      rw [List.cons_append] at hreplay ⊢
      unfold replay at hreplay ⊢
      dsimp only at hreplay ⊢
      split at hreplay
      · cases hreplay
      · rename_i hgo
        rw [if_neg hgo]
        exact ih _ hreplay
  unfold Navigation.reach at h ⊢
  rcases plan_cases nav goal with himpossible | ⟨frame,hframe,hnext,hplan⟩ | ⟨checkpoint,hlt,-,hplan⟩
  · dsimp only at h ⊢
    rw [himpossible] at h
    cases h
  · rw [hplan] at h ⊢
    dsimp only at h ⊢
    rw [if_neg (by simp [hframe,hnext]),Nat.add_sub_cancel_left] at h ⊢
    rw [Bool.and_eq_true] at h
    exact hlast nav [] h.1
  · rw [hplan] at h ⊢
    dsimp only at h ⊢
    rw [range'_goal hlt] at h ⊢
    split at h
    · rename_i hlost
      simp only [Bool.not_eq_true'] at hlost
      rw [hlost] at h
      cases h
    · rename_i hrewound
      rw [if_neg hrewound]
      rw [Bool.and_eq_true] at h
      exact hlast _ _ h.1

lemma recover_completes (step : σ → UInt16 → σ) (buttons : List UInt16) (s : SessionLoop σ) (target : ℕ)
    (o : RecoveryAnswers σ) :
    (s.recover step buttons target o).1.controller = s.controller ∧
      s.nav.loop.framesCompleted ≤ (s.recover step buttons target o).1.nav.loop.framesCompleted ∧
      ((s.recover step buttons target o).2 = .presented →
        target < (s.recover step buttons target o).1.nav.loop.framesCompleted) := by
  have hrearmed : (s.rearm o).1.nav.loop = s.nav.loop ∧ (s.rearm o).1.controller = s.controller := by
    unfold SessionLoop.rearm
    split
    · cases o.rearm <;> exact ⟨rfl,rfl⟩
    · exact ⟨rfl,rfl⟩
  unfold SessionLoop.recover
  dsimp only
  split
  swap
  · exact ⟨hrearmed.2,hrearmed.1 ▸ le_rfl,by simp⟩
  rw [← hrearmed.1,← hrearmed.2]
  generalize (s.rearm o).1 = t
  have hfirst := (reach_completes step buttons t.nav target (decide (t.postEndRuns = 0)) o.first).2
  have hreached := reach_frame_completed step buttons t.nav target (decide (t.postEndRuns = 0)) o.first
  unfold SessionLoop.recoverFrom
  dsimp only
  generalize t.nav.reach step buttons target (decide (t.postEndRuns = 0)) o.first = first
    at hfirst hreached ⊢
  split
  · rename_i hok
    exact ⟨by simp,by simpa using hfirst,fun _ => by simpa using hreached hok⟩
  · have hsecond : t.nav.loop.framesCompleted ≤
        (if first.1.sessionFrame = some t.position then (first.1,true)
          else first.1.reach step buttons t.position (decide (t.postEndRuns = 0))
            o.second).1.loop.framesCompleted := by
      split
      · exact hfirst
      · exact hfirst.trans (reach_completes step buttons first.1 t.position _ o.second).2
    generalize (if first.1.sessionFrame = some t.position then (first.1,true)
          else first.1.reach step buttons t.position (decide (t.postEndRuns = 0)) o.second) = second
      at hsecond ⊢
    split
    · exact ⟨by simp,by simpa using hsecond,by simp⟩
    · exact ⟨rfl,hsecond,by simp⟩

end Fallback

section Examples

/-- A take of three inputs, stepped back from its second frame with a checkpoint after every frame. -/
def steppedBack : SessionLoop (List UInt16) where
  nav :=
    { state := [5,6], view := true, sessionFrame := some 1, engineBase := some 0
      loop := { framesCompleted := 2, consumed := 2 }
      checkpoints :=
        { ring := ⟨1,64,24,[⟨-1,8⟩,⟨0,8⟩,⟨1,8⟩]⟩
          checkpoints := [(1,[5,6]),(0,[5]),(-1,[])] } }
  controller :=
    { frames := 3, lastTake := true, phase := .recovering, position := some 1, target := some 0 }

/-- Every frame is produced, in time or not. -/
def steppedFrames (late : Bool) (frame : ℕ) : FrameOutcome (List UInt16) :=
  { step := .stepped (UInt64.ofNat frame + 1), late }

/-- The step to the target throws; the confirmed frame is one step from its checkpoint. -/
theorem recover_failedRestored_thrown :
    (steppedBack.recover record [5,6,7] 0
      { first := ⟨.accepted,fun _ => { step := .threw [9] }⟩
        second := ⟨.accepted,steppedFrames false⟩ }).2 = .failedRestored :=
  (recover_failedRestored record [5,6,7] steppedBack 0 _ 0 rfl rfl (by decide) rfl ⟨rfl,rfl⟩).1

/-- The traversal fails although a checkpoint restores and every step from it succeeds: when the first
attempt has used up the time of both, and when only an older checkpoint restores. -/
theorem reachable_frame_not_restored :
    (∃ o : RecoveryAnswers (List UInt16), (steppedBack.firstAttempt record [5,6,7] 0 o).2 = false ∧
      (steppedBack.firstAttempt record [5,6,7] 0 o).1.ReachesFrom record [5,6,7] 0 1 true
        { o.second with frame := Navigation.untimed o.second.frame } ∧
      (steppedBack.recover record [5,6,7] 0 o).2 = .failedUnrecoverable) ∧
    ∃ o : RecoveryAnswers (List UInt16), (steppedBack.firstAttempt record [5,6,7] 0 o).2 = false ∧
      (steppedBack.firstAttempt record [5,6,7] 0 o).1.ReachesFrom record [5,6,7] (-1) 1 true
        { o.second with restore := .accepted } ∧
      (steppedBack.recover record [5,6,7] 0 o).2 = .failedUnrecoverable :=
  ⟨⟨{ first := ⟨.accepted,steppedFrames true⟩, second := ⟨.accepted,steppedFrames true⟩ },
      rfl,⟨rfl,rfl⟩,rfl⟩,
    ⟨{ first := ⟨.visualRejected [9],steppedFrames false⟩
       second := ⟨.visualRejected [9],steppedFrames false⟩ },rfl,⟨rfl,rfl⟩,rfl⟩⟩

end Examples
end AytherRuntime.Inspection
