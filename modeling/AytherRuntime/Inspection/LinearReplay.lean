import AytherRuntime.Inspection.SessionLoop

/-! When a navigation reaches its goal as linear playback does: the frame of the session against the
state that the recorded inputs give in their order. -/
namespace AytherRuntime.Inspection

/-- The frame that ends `n` produced frames. -/
def frameBefore : ℕ → Option ℕ
  | 0 => none
  | n + 1 => some n

section Reach
variable {σ : Type} (step : σ → UInt16 → σ) (buttons : List UInt16) (init : σ)

/-- The state after the first `n` recorded inputs, from the initial state of the take. -/
def linearState (n : ℕ) : σ := (buttons.take n).foldl step init

namespace Navigation
variable (nav : Navigation σ)

/-- The session is after `n` frames of linear playback. -/
structure At (n : ℕ) : Prop where
  frame : nav.sessionFrame = frameBefore n
  recorded : n ≤ buttons.length
  state : nav.state = linearState step buttons init n

/-- The frame that the session holds is the one of linear playback. -/
def Linear : Prop := ∀ frame, nav.sessionFrame = some frame → nav.At step buttons init (frame + 1)

/-- Every checkpoint holds the state of its frame. -/
def Saved : Prop := ∀ entry ∈ nav.checkpoints.checkpoints, initialCheckpointFrame ≤ entry.1 ∧
  (entry.1 + 1).toNat ≤ buttons.length ∧
    entry.2 = linearState step buttons init (entry.1 + 1).toNat

/-- The step of a frame fails once it has moved the session: it throws half-way, its view has another
index than the expected one, or its progress cannot be published. -/
def Strays (frame : ℕ) (o : FrameOutcome σ) : Prop :=
  match o.step with
  | .threw left => left ≠ nav.state
  | .stepped frameIndex =>
    frameIndex ≠ nav.engineBase.getD (frameIndex - UInt64.ofNat frame - 1) +
        UInt64.ofNat frame + 1 ∨
      (frame = nav.loop.framesCompleted ∧ o.published = false)

/-- No production that starts at the confirmed position strays. -/
def Steady (confirmed : ℕ) (o : ℕ → FrameOutcome σ) : Navigation σ → List ℕ → Prop
  | _, [] => True
  | nav, frame :: frames =>
    (nav.sessionFrame = some confirmed → ¬nav.Strays frame (o frame)) ∧
      ((nav.produce step buttons frame (o frame)).2 = true → (o frame).late = false →
        Steady confirmed o (nav.produce step buttons frame (o frame)).1 frames)

/-- The first attempt of a recovery never leaves the confirmed position unnoticed: no restoration throws
there once the session has changed, and no production that starts there strays. -/
def Careful (confirmed goal : ℕ) (audio : Bool) (o : AttemptOutcome σ) : Prop :=
  let plan := nav.plan goal
  let frames := List.range' plan.replayFrom (plan.replayTo + 1 - plan.replayFrom)
  match plan.kind with
  | .impossible => True
  | .step => nav.Steady step buttons confirmed o.frame frames
  | .restore =>
    (nav.sessionFrame = some confirmed → ∀ left, o.restore = .threw left → left = nav.state) ∧
      ((nav.rewind plan.checkpoint audio o.restore).2 = true →
        (nav.rewind plan.checkpoint audio o.restore).1.Steady step buttons confirmed o.frame frames)

end Navigation

variable {step buttons init} {nav : Navigation σ}
open Navigation

lemma linearState_succ {n : ℕ} {input : UInt16} (h : buttons[n]? = some input) :
    linearState step buttons init (n + 1) = step (linearState step buttons init n) input := by
  unfold linearState
  rw [List.take_add_one,h,List.foldl_append]
  rfl

/-- The linear loop takes the input of its next frame, or fails where it was. -/
lemma executeNext_cases (step : σ → UInt16 → σ) (buttons : List UInt16) (loop : RecordingReplayLoop) (state : σ)
    (o : FrameOutcome σ) :
    (∃ frameIndex input, (executeNext step buttons loop state o).2.2.2 = some frameIndex ∧
        o.step = .stepped frameIndex ∧ o.published = true ∧
        buttons[loop.framesCompleted]? = some input ∧
        (executeNext step buttons loop state o).2.1 = step state input) ∨
      ((executeNext step buttons loop state o).2.2.2 = none ∧
        ((executeNext step buttons loop state o).2.1 = state ∨
          (∃ left, o.step = .threw left ∧ (executeNext step buttons loop state o).2.1 = left) ∨
          ∃ frameIndex, o.step = .stepped frameIndex ∧ o.published = false)) := by
  unfold executeNext
  dsimp only
  split
  · exact Or.inr ⟨rfl,Or.inl rfl⟩
  split
  · exact Or.inr ⟨rfl,Or.inl rfl⟩
  rename_i hready
  have hconsumed : loop.consumed = loop.framesCompleted :=
    not_not.mp fun hne => hready (Or.inl hne)
  split
  · exact Or.inr ⟨rfl,Or.inl rfl⟩
  rename_i input hinput
  rw [hconsumed] at hinput
  split
  · exact Or.inr ⟨rfl,Or.inl rfl⟩
  split
  · rename_i left hstep
    exact Or.inr ⟨rfl,Or.inr (Or.inl ⟨left,hstep,rfl⟩)⟩
  · rename_i frameIndex hstep
    split
    · rename_i hpublished
      exact Or.inr ⟨rfl,Or.inr (Or.inr ⟨frameIndex,hstep,by simpa using hpublished⟩)⟩
    · rename_i hpublished
      exact Or.inl ⟨frameIndex,input,rfl,hstep,by simpa using hpublished,hinput,rfl⟩

/-- The index that the Engine must give to a frame. -/
lemma confirmIndex_cases (nav : Navigation σ) (frame : ℕ) (frameIndex : UInt64) :
    (nav.confirmIndex frame frameIndex).1.checkpoints = nav.checkpoints ∧
      (nav.confirmIndex frame frameIndex).1.state = nav.state ∧
      (((nav.confirmIndex frame frameIndex).2 = true ∧
          (nav.confirmIndex frame frameIndex).1.sessionFrame = some frame) ∨
        ((nav.confirmIndex frame frameIndex).2 = false ∧
          (nav.confirmIndex frame frameIndex).1.sessionFrame = nav.sessionFrame ∧
          frameIndex ≠ nav.engineBase.getD (frameIndex - UInt64.ofNat frame - 1) +
            UInt64.ofNat frame + 1)) := by
  unfold confirmIndex
  dsimp only
  split
  · rename_i hwrong
    exact ⟨rfl,rfl,Or.inr ⟨rfl,rfl,hwrong⟩⟩
  · exact ⟨rfl,rfl,Or.inl ⟨rfl,rfl⟩⟩

/-- A production succeeds as the step of its frame, or fails and keeps the frame of the session. -/
lemma produce_cases (step : σ → UInt16 → σ) (buttons : List UInt16) (nav : Navigation σ)
    (frame : ℕ) (o : FrameOutcome σ) :
    (nav.produce step buttons frame o).1.checkpoints = nav.checkpoints ∧
      (((nav.produce step buttons frame o).2 = true ∧
          (nav.produce step buttons frame o).1.sessionFrame = some frame ∧
          ∃ input, buttons[frame]? = some input ∧
            (nav.produce step buttons frame o).1.state = step nav.state input) ∨
        ((nav.produce step buttons frame o).2 = false ∧
          (nav.produce step buttons frame o).1.sessionFrame = nav.sessionFrame ∧
          (¬nav.Strays frame o → (nav.produce step buttons frame o).1.state = nav.state))) := by
  unfold produce
  dsimp only
  split
  · rename_i hframe
    rcases executeNext_cases step buttons nav.loop nav.state o with
      ⟨frameIndex,input,hindex,hstep,hpublished,hinput,hstate⟩ | ⟨hnone,hstate⟩
    · rw [hindex]
      dsimp only
      obtain ⟨hcheckpoints,hkept,hsuccess | ⟨hfail,hsession,hwrong⟩⟩ := confirmIndex_cases
        { nav with
          loop := (executeNext step buttons nav.loop nav.state o).1
          state := (executeNext step buttons nav.loop nav.state o).2.1
          view := (executeNext step buttons nav.loop nav.state o).2.2.1 || nav.view } frame frameIndex
      · exact ⟨hcheckpoints,Or.inl ⟨hsuccess.1,hsuccess.2,input,hframe ▸ hinput,hkept.trans hstate⟩⟩
      · refine ⟨hcheckpoints,Or.inr ⟨hfail,hsession,fun hstays => absurd ?_ hstays⟩⟩
        unfold Strays
        rw [hstep]
        exact Or.inl hwrong
    · rw [hnone]
      refine ⟨rfl,Or.inr ⟨rfl,rfl,fun hstays => ?_⟩⟩
      rcases hstate with hsame | ⟨left,hstep,hleft⟩ | ⟨frameIndex,hstep,hpublished⟩
      · exact hsame
      · refine hleft.trans (not_not.mp fun hne => hstays ?_)
        unfold Strays
        rw [hstep]
        exact hne
      · refine absurd ?_ hstays
        unfold Strays
        rw [hstep]
        exact Or.inr ⟨hframe,hpublished⟩
  split
  · split
    · exact ⟨rfl,Or.inr ⟨rfl,rfl,fun _ => rfl⟩⟩
    · rename_i left _ hstep
      refine ⟨rfl,Or.inr ⟨rfl,rfl,fun hstays => not_not.mp fun hne => hstays ?_⟩⟩
      unfold Strays
      rw [hstep]
      exact hne
    · rename_i input frameIndex hinput hstep
      obtain ⟨hcheckpoints,hkept,hsuccess | ⟨hfail,hsession,hwrong⟩⟩ := confirmIndex_cases
        { nav with state := step nav.state input, view := true } frame frameIndex
      · exact ⟨hcheckpoints,Or.inl ⟨hsuccess.1,hsuccess.2,input,hinput,hkept⟩⟩
      · refine ⟨hcheckpoints,Or.inr ⟨hfail,hsession,fun hstays => absurd ?_ hstays⟩⟩
        unfold Strays
        rw [hstep]
        exact Or.inl hwrong
  · exact ⟨rfl,Or.inr ⟨rfl,rfl,fun _ => rfl⟩⟩

/-- A frame produced after `n` linear ones ends `n + 1` linear ones. -/
lemma Navigation.At.produce {n : ℕ} (h : nav.At step buttons init n) {o : FrameOutcome σ}
    (hok : (nav.produce step buttons n o).2 = true) :
    (nav.produce step buttons n o).1.At step buttons init (n + 1) := by
  obtain ⟨-,⟨-,hframe,input,hinput,hstate⟩ | ⟨hfail,-⟩⟩ :=
    produce_cases step buttons nav n o
  · refine ⟨hframe,(List.getElem?_eq_some_iff.mp hinput).1,?_⟩
    rw [hstate,h.state,linearState_succ hinput]
  · rw [hok] at hfail
    cases hfail

/-- Where a replay stops: at its end; late, after a linear frame; or at a production that failed. -/
lemma replay_cases (o : ℕ → FrameOutcome σ) (count : ℕ) {n : ℕ} (h : nav.At step buttons init n) :
    (replay step buttons o nav (List.range' n count)).1.checkpoints = nav.checkpoints ∧
      (((replay step buttons o nav (List.range' n count)).2 = true ∧
          (replay step buttons o nav (List.range' n count)).1.At step buttons init (n + count)) ∨
        ((replay step buttons o nav (List.range' n count)).2 = false ∧ ∃ m, n ≤ m ∧ m < n + count ∧
          ((replay step buttons o nav (List.range' n count)).1.At step buttons init (m + 1) ∨
            ((replay step buttons o nav (List.range' n count)).1.sessionFrame = frameBefore m ∧
              ∀ confirmed, nav.Steady step buttons confirmed o (List.range' n count) →
                frameBefore m = some confirmed →
                  (replay step buttons o nav (List.range' n count)).1.At step buttons init m)))) := by
  induction count generalizing nav n with
  | zero => exact ⟨rfl,Or.inl ⟨rfl,h⟩⟩
  | succ count ih =>
    rw [List.range'_succ]
    obtain ⟨hcheckpoints,hcases⟩ := produce_cases step buttons nav n (o n)
    unfold replay
    dsimp only
    rcases hcases with ⟨hok,-,-⟩ | ⟨hfail,hframe,hkept⟩
    · have hnext := h.produce hok
      cases hlate : (o n).late with
      | true =>
        rw [if_pos (Or.inr rfl)]
        exact ⟨hcheckpoints,Or.inr ⟨rfl,n,le_rfl,by omega,Or.inl hnext⟩⟩
      | false =>
        rw [if_neg (by simp [hok])]
        obtain ⟨hsame,hrest⟩ := ih hnext
        refine ⟨hsame.trans hcheckpoints,?_⟩
        rcases hrest with ⟨htrue,hat⟩ | ⟨hfalse,m,hle,hlt,hstop⟩
        · refine Or.inl ⟨htrue,?_⟩
          rwa [Nat.add_right_comm] at hat
        · refine Or.inr ⟨hfalse,m,by omega,by omega,hstop.imp id fun hfailed => ?_⟩
          exact ⟨hfailed.1,fun confirmed hsteady => hfailed.2 confirmed (hsteady.2 hok hlate)⟩
    · rw [if_pos (Or.inl (by simp [hfail]))]
      refine ⟨hcheckpoints,Or.inr ⟨rfl,n,le_rfl,by omega,Or.inr ⟨hframe.trans h.frame,?_⟩⟩⟩
      intro confirmed hsteady hconfirmed
      have hsame := hkept (hsteady.1 (h.frame.trans hconfirmed))
      exact ⟨hframe.trans h.frame,h.recorded,hsame.trans h.state⟩

/-- The session after the restoration of a checkpoint, or after its failure. -/
lemma rewind_cases (hsaved : nav.Saved step buttons init) (checkpoint : ℤ) (audio : Bool)
    (o : RestoreOutcome σ) :
    (nav.rewind checkpoint audio o).1.checkpoints = nav.checkpoints ∧
      (((nav.rewind checkpoint audio o).2 = true ∧ initialCheckpointFrame ≤ checkpoint ∧
          (nav.rewind checkpoint audio o).1.At step buttons init (checkpoint + 1).toNat) ∨
        ((nav.rewind checkpoint audio o).2 = false ∧
          ((nav.rewind checkpoint audio o).1.sessionFrame = none ∨
            ((nav.rewind checkpoint audio o).1.sessionFrame = nav.sessionFrame ∧
              ((∀ left, o = .threw left → left = nav.state) →
                (nav.rewind checkpoint audio o).1.state = nav.state))))) := by
  unfold rewind Navigation.restore
  cases hfind : nav.checkpoints.find checkpoint with
  | none => exact ⟨rfl,Or.inr ⟨rfl,Or.inr ⟨rfl,fun _ => rfl⟩⟩⟩
  | some saved =>
    obtain ⟨hfirst,hrecorded,hstate⟩ := nav.checkpoints.find_forall
      (P := fun frame state => initialCheckpointFrame ≤ frame ∧
        (frame + 1).toNat ≤ buttons.length ∧ state = linearState step buttons init (frame + 1).toNat)
      hsaved hfind
    have hframe : (if checkpoint < 0 then none else some checkpoint.toNat) =
        frameBefore (checkpoint + 1).toNat := by
      split_ifs with hneg
      · rw [show (checkpoint + 1).toNat = 0 by omega]
        rfl
      · rw [show (checkpoint + 1).toNat = checkpoint.toNat + 1 by omega]
        rfl
    cases o with
    | accepted => exact ⟨rfl,Or.inl ⟨rfl,hfirst,hframe,hrecorded,hstate⟩⟩
    | coreRejected => exact ⟨rfl,Or.inr ⟨rfl,Or.inr ⟨rfl,fun _ => rfl⟩⟩⟩
    | visualRejected left => exact ⟨rfl,Or.inr ⟨rfl,Or.inl rfl⟩⟩
    | detectorRejected left | voicesRejected left =>
      cases audio with
      | true => exact ⟨rfl,Or.inr ⟨rfl,Or.inl rfl⟩⟩
      | false => exact ⟨rfl,Or.inl ⟨rfl,hfirst,hframe,hrecorded,hstate⟩⟩
    | threw left => exact ⟨rfl,Or.inr ⟨rfl,Or.inr ⟨rfl,fun hstays => hstays left rfl⟩⟩⟩

/-- What a plan from the frame of the session restores or steps over. -/
lemma plan_cases (nav : Navigation σ) (goal : ℕ) :
    (nav.plan goal).kind = .impossible ∨
      (∃ frame, nav.sessionFrame = some frame ∧ goal = frame + 1 ∧
        nav.plan goal = ⟨.step,frame,goal,goal⟩) ∨
      ∃ checkpoint < (goal : ℤ), (∀ frame, nav.sessionFrame = some frame → goal ≠ frame + 1) ∧
        nav.plan goal = ⟨.restore,checkpoint,(checkpoint + 1).toNat,goal⟩ := by
  have hrestore : ∀ ring, (restorePlan ring goal).kind = .impossible ∨ ∃ checkpoint < (goal : ℤ),
      restorePlan ring goal = ⟨.restore,checkpoint,(checkpoint + 1).toNat,goal⟩ := by
    intro ring
    unfold restorePlan
    split
    · exact Or.inl rfl
    · rename_i checkpoint hlatest
      have hle := ring.latestAtMost_le hlatest
      exact Or.inr ⟨checkpoint,by omega,rfl⟩
  unfold plan
  cases hframe : nav.sessionFrame with
  | none =>
    rcases hrestore nav.checkpoints.ring with himpossible | ⟨checkpoint,hlt,hplan⟩
    · exact Or.inl himpossible
    · exact Or.inr (Or.inr ⟨checkpoint,hlt,by simp,hplan⟩)
  | some frame =>
    dsimp only
    unfold planRecovery
    split_ifs with hnext
    · exact Or.inr (Or.inl ⟨frame,rfl,hnext,rfl⟩)
    · rcases hrestore nav.checkpoints.ring with himpossible | ⟨checkpoint,hlt,hplan⟩
      · exact Or.inl himpossible
      · refine Or.inr (Or.inr ⟨checkpoint,hlt,fun other hother => ?_,hplan⟩)
        cases hother
        exact hnext

/-- A goal that is reached is the frame of linear playback. -/
lemma reach_true (hsaved : nav.Saved step buttons init) {goal : ℕ}
    (hstep : ∀ frame, nav.sessionFrame = some frame → goal = frame + 1 →
      nav.At step buttons init goal) (audio : Bool) (o : AttemptOutcome σ) :
    (nav.reach step buttons goal audio o).1.checkpoints = nav.checkpoints ∧
      ((nav.reach step buttons goal audio o).2 = true →
        (nav.reach step buttons goal audio o).1.At step buttons init (goal + 1)) := by
  unfold reach
  rcases plan_cases nav goal with himpossible | ⟨frame,hframe,hgoal,hplan⟩ | ⟨checkpoint,hlt,-,hplan⟩
  · dsimp only
    rw [himpossible]
    exact ⟨rfl,fun h => nomatch h⟩
  · rw [hplan]
    dsimp only
    rw [if_neg (by simp [hframe,hgoal]),Nat.add_sub_cancel_left]
    obtain ⟨hcheckpoints,⟨-,hat⟩ | ⟨hfalse,-⟩⟩ := replay_cases o.frame 1 (hstep frame hframe hgoal)
    · exact ⟨hcheckpoints,fun _ => hat⟩
    · refine ⟨hcheckpoints,fun h => ?_⟩
      rw [hfalse] at h
      cases h
  · rw [hplan]
    dsimp only
    obtain ⟨hkept,⟨hok,hfirst,hat⟩ | ⟨hfail,-⟩⟩ := rewind_cases hsaved checkpoint audio o.restore
    · rw [if_neg (by simp [hok])]
      obtain ⟨hcheckpoints,⟨-,hend⟩ | ⟨hfalse,-⟩⟩ := replay_cases o.frame
        (goal + 1 - (checkpoint + 1).toNat) hat
      · refine ⟨hcheckpoints.trans hkept,fun _ => ?_⟩
        rwa [Nat.add_sub_cancel' (by omega)] at hend
      · refine ⟨hcheckpoints.trans hkept,fun h => ?_⟩
        rw [hfalse] at h
        cases h
    · rw [if_pos (by simp [hfail])]
      refine ⟨hkept,fun h => ?_⟩
      rw [hfail] at h
      cases h

/-- A first attempt that fails leaves the confirmed position, or the frame before it, only as linear
playback has them. -/
lemma reach_false (hsaved : nav.Saved step buttons init) (hlinear : nav.Linear step buttons init)
    {confirmed goal : ℕ} (hsession : ∀ frame, nav.sessionFrame = some frame → frame = confirmed)
    (hgoal : goal + 1 = confirmed ∨ goal = confirmed + 1)
    (hunknown : nav.sessionFrame = none → goal = confirmed + 1 → confirmed = 0) {audio : Bool}
    {o : AttemptOutcome σ} (hcareful : nav.Careful step buttons confirmed goal audio o)
    (hfail : (nav.reach step buttons goal audio o).2 = false) :
    ∀ frame, (nav.reach step buttons goal audio o).1.sessionFrame = some frame →
      frame = confirmed ∨ confirmed = frame + 1 →
        (nav.reach step buttons goal audio o).1.At step buttons init (frame + 1) := by
  unfold reach at hfail ⊢
  unfold Careful at hcareful
  rcases plan_cases nav goal with himpossible | ⟨last,hlast,hnext,hplan⟩ | ⟨checkpoint,hlt,hnot,hplan⟩
  · dsimp only at hfail ⊢
    rw [himpossible] at hfail ⊢
    exact fun frame hframe _ => hlinear frame hframe
  · rw [hplan] at hfail hcareful ⊢
    dsimp only at hfail hcareful ⊢
    have hconfirmed := hsession last hlast
    rw [if_neg (by simp [hlast,hnext]),Nat.add_sub_cancel_left] at hfail
    rw [if_neg (by simp [hlast,hnext]),Nat.add_sub_cancel_left]
    rw [Nat.add_sub_cancel_left] at hcareful
    intro frame hframe hnear
    obtain ⟨-,⟨htrue,hat⟩ | ⟨-,m,hle,hlt,hstop⟩⟩ := replay_cases o.frame 1 (hnext ▸ hlinear last hlast)
    · rw [htrue,Bool.true_and,decide_eq_false_iff_not] at hfail
      exact absurd hat.frame hfail
    · obtain rfl : m = goal := by omega
      rcases hstop with hlate | ⟨hsame,hsteady⟩
      · dsimp only at hframe ⊢
        rw [hlate.frame] at hframe
        cases hframe
        exact hlate
      · dsimp only at hframe ⊢
        rw [hsame,hnext] at hframe
        cases hframe
        have hat := hsteady confirmed hcareful (by rw [hnext,hconfirmed]; rfl)
        rwa [hnext] at hat ⊢
  · rw [hplan] at hfail hcareful ⊢
    dsimp only at hfail hcareful ⊢
    obtain ⟨hthrows,hsteadies⟩ := hcareful
    obtain ⟨-,⟨hok,hfirst,hat⟩ | ⟨hlost,hsession'⟩⟩ := rewind_cases hsaved checkpoint audio o.restore
    · rw [if_neg (by simp [hok])] at hfail ⊢
      intro frame hframe hnear
      obtain ⟨-,⟨htrue,hend⟩ | ⟨-,m,hle,hltm,hstop⟩⟩ := replay_cases o.frame
        (goal + 1 - (checkpoint + 1).toNat) hat
      · rw [Nat.add_sub_cancel' (by omega)] at hend
        rw [htrue,Bool.true_and,decide_eq_false_iff_not] at hfail
        exact absurd hend.frame hfail
      · rw [Nat.add_sub_cancel' (by omega)] at hltm
        rcases hstop with hlate | ⟨hsame,hsteady⟩
        · dsimp only at hframe ⊢
          rw [hlate.frame] at hframe
          cases hframe
          exact hlate
        · dsimp only at hframe ⊢
          rw [hsame] at hframe
          cases m with
          | zero => cases hframe
          | succ m =>
            cases hframe
            rcases hnear with rfl | hbefore
            · exact hsteady _ (hsteadies hok) rfl
            · -- The frame before the confirmed one is out of reach of such a replay.
              exfalso
              rcases hgoal with hback | hforward
              · omega
              · cases hnav : nav.sessionFrame with
                | none => exact absurd (hunknown hnav hforward) (by omega)
                | some other =>
                  have hother := hsession other hnav
                  exact hnot other hnav (by omega)
    · rw [if_pos (by simp [hlost])]
      intro frame hframe hnear
      rcases hsession' with hnone | ⟨hsame,hstate⟩
      · rw [hnone] at hframe
        cases hframe
      · rw [hsame] at hframe
        obtain rfl := hsession frame hframe
        have hat := hlinear frame hframe
        exact ⟨hsame.trans hat.frame,hat.recorded,(hstate (hthrows hframe)).trans hat.state⟩

end Reach
end AytherRuntime.Inspection
