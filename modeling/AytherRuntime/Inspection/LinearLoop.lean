import AytherRuntime.Inspection.LinearReplay
import AytherRuntime.Inspection.NaturalEnd

/-! Navigation equals linear replay, over every run of the inspection loop. -/
namespace AytherRuntime.Inspection
open Machine Navigation

section Invariant
variable {σ : Type} (step : σ → UInt16 → σ) (buttons : List UInt16) (init : σ)

/-- What is shown, played or restored as a frame is the state of linear playback. -/
def Emission.Linear : Emission σ → Prop
  | .shown frame state | .played frame state | .restored frame state =>
    frame < buttons.length ∧ state = linearState step buttons init (frame + 1)
  | _ => True

/-- The controller recovers only the frame before or after its position, and its last take ends once. -/
structure InspectionController.Steers (c : InspectionController) : Prop where
  aim : c.phase = .recovering → ∃ target, c.target = some target ∧
    (target + 1 = c.position.getD 0 ∨ (target = c.position.getD 0 + 1 ∧ target < c.frames))
  ended : c.lastTake = true → c.StaysEnded

/-- The session is where the controller takes it to be; before the first completed frame, a failed
recovery may have left it at frame zero. -/
def Positioned (nav : Navigation σ) : Option ℕ → Prop
  | some position => nav.sessionFrame = some position
  | none => nav.sessionFrame = some 0 ∨ (nav.view = false ∧ nav.At step buttons init 0)

/-- The linear result is confirmed at the natural end of the last take, and its first recovery leaves
from the last frame. -/
def ConfirmedAtEnd (c : InspectionController) (postEndRuns : ℕ) : Prop :=
  c.lastTake = true ∧ c.endedNaturally = true ∧
    (postEndRuns = 0 → ∃ position, c.position = some position ∧ c.frames ≤ position + 1)

/-- The loop runs: its session is at the position of the controller, as linear playback has it. -/
structure Live (s : SessionLoop σ) : Prop where
  linear : s.nav.Linear step buttons init
  positioned : Positioned step buttons init s.nav s.controller.position
  steers : s.controller.Steers
  confirmed : s.confirmedLinear = true → ConfirmedAtEnd s.controller s.postEndRuns

/-- Neither a production nor a recovery has failed for good: `fail_session` has not ended the session, and the
traversal has not failed. -/
def SessionLoop.Sound (s : SessionLoop σ) : Prop := s.failed = false ∧ s.controller.phase ≠ .failed

structure Follows (s : SessionLoop σ) : Prop where
  saved : s.nav.Saved step buttons init
  emitted : ∀ emission ∈ s.emitted, emission.Linear step buttons init
  linear : s.Sound → s.nav.Linear step buttons init
  sound : s.done = false → s.Sound
  live : s.done = false → Live step buttons init s

/-- A turn that stays on the line: the first frame of playback is played from the initial state, and a
recovery is careful at the confirmed position. -/
def StaysOnLine (s : SessionLoop σ) : LoopAction σ → Prop
  | .play _ _ _ => s.controller.position = none → s.nav.sessionFrame = none
  | .recover o =>
    let rearmed := (s.rearm o).1
    rearmed.nav.Careful step buttons s.position (s.controller.target.getD 0)
      (decide (rearmed.postEndRuns = 0)) o.first
  | _ => True

end Invariant

section Apply
variable {σ : Type} {step : σ → UInt16 → σ} {buttons : List UInt16} {init : σ}
variable {s t u : SessionLoop σ}

/-- The same session and controller, with more emissions, all of them of linear playback. -/
structure Extends (step : σ → UInt16 → σ) (buttons : List UInt16) (init : σ)
    (s t : SessionLoop σ) : Prop where
  nav : t.nav = s.nav
  controller : t.controller = s.controller
  postEndRuns : t.postEndRuns = s.postEndRuns
  failed : t.failed = s.failed
  emitted : ∀ emission ∈ t.emitted, emission ∈ s.emitted ∨ emission.Linear step buttons init

lemma Extends.refl (s : SessionLoop σ) : Extends step buttons init s s :=
  ⟨rfl,rfl,rfl,rfl,fun _ h => Or.inl h⟩

lemma Extends.trans (h : Extends step buttons init s t) (h' : Extends step buttons init t u) :
    Extends step buttons init s u :=
  ⟨h'.nav.trans h.nav,h'.controller.trans h.controller,h'.postEndRuns.trans h.postEndRuns,h'.failed.trans h.failed,
    fun emission hin => (h'.emitted emission hin).elim (h.emitted emission) Or.inr⟩

lemma emit_extends (s : SessionLoop σ) {emission : Emission σ}
    (h : emission.Linear step buttons init) : Extends step buttons init s (s.emit emission) := by
  refine ⟨rfl,rfl,rfl,rfl,fun other hin => ?_⟩
  rcases List.mem_append.mp hin with hold | hnew
  · exact Or.inl hold
  · rw [List.mem_singleton.mp hnew]
    exact Or.inr h

lemma showFrame_extends {frame : ℕ} (h : s.nav.view = true → s.nav.At step buttons init (frame + 1)) :
    Extends step buttons init s (s.showFrame frame) := by
  unfold SessionLoop.showFrame
  split_ifs with hview
  · exact emit_extends s ⟨(h hview).recorded,(h hview).state⟩
  · exact .refl s

lemma showSession_extends (h : s.nav.Linear step buttons init) :
    Extends step buttons init s s.showSession := by
  unfold SessionLoop.showSession
  split
  · rename_i frame hframe
    exact showFrame_extends fun _ => h frame hframe
  · exact .refl s

@[simp] lemma emit_confirmedLinear (emission : Emission σ) :
    (s.emit emission).confirmedLinear = s.confirmedLinear := rfl

@[simp] lemma showFrame_confirmedLinear (frame : ℕ) :
    (s.showFrame frame).confirmedLinear = s.confirmedLinear := by
  unfold SessionLoop.showFrame
  split_ifs <;> rfl

@[simp] lemma showSession_confirmedLinear : s.showSession.confirmedLinear = s.confirmedLinear := by
  unfold SessionLoop.showSession
  split <;> simp

lemma applyCommand_extends (h : s.nav.Linear step buttons init) (keeps : Bool) (command : Command) :
    Extends step buttons init s (s.applyCommand keeps command) ∧
      ((s.applyCommand keeps command).confirmedLinear = true → s.confirmedLinear = true ∨
        command.kind = .confirmLinearResult) := by
  unfold SessionLoop.applyCommand
  split
  · split_ifs with hframe
    · exact ⟨showFrame_extends fun _ => h _ hframe,by simp +contextual⟩
    · exact ⟨.refl s,Or.inl⟩
  · exact ⟨.refl s,Or.inl⟩
  · exact ⟨.refl s,Or.inl⟩
  · exact ⟨.refl s,Or.inl⟩
  · split_ifs
    · exact ⟨showSession_extends h,by simp +contextual⟩
    · exact ⟨.refl s,Or.inl⟩
  · have hevent : Extends step buttons init s
        (s.emit (.event "overlay_toggle" s.position s.position)) := emit_extends s trivial
    dsimp only
    split_ifs
    · exact ⟨hevent.trans (showSession_extends h),fun hc => Or.inl (by simpa using hc)⟩
    · exact ⟨hevent,Or.inl⟩
  · exact ⟨emit_extends s trivial,Or.inl⟩
  · rename_i hkind
    have hfinished : Extends step buttons init s
        (s.emit (.finished s.nav.loop.framesCompleted)) := emit_extends s trivial
    exact ⟨⟨rfl,rfl,rfl,rfl,hfinished.emitted⟩,fun _ => Or.inr hkind⟩
  · exact ⟨⟨rfl,rfl,rfl,rfl,fun _ hin => Or.inl hin⟩,Or.inl⟩
  · exact ⟨⟨rfl,rfl,rfl,rfl,fun _ hin => Or.inl hin⟩,Or.inl⟩
  · exact ⟨⟨rfl,rfl,rfl,rfl,fun _ hin => Or.inl hin⟩,Or.inl⟩

/-- The commands of the controller leave the session where it is. -/
lemma apply_extends (h : s.nav.Linear step buttons init) (keeps : Bool)
    (answer : InspectionController × List Command) :
    Extends step buttons init { s with controller := answer.1 } (s.apply keeps answer) ∧
      ((s.apply keeps answer).confirmedLinear = true → s.confirmedLinear = true ∨
        ∃ command ∈ answer.2, command.kind = .confirmLinearResult) := by
  obtain ⟨c,commands⟩ := answer
  unfold SessionLoop.apply
  dsimp only
  generalize hs : { s with controller := c } = t
  have hnav : t.nav = s.nav := by rw [← hs]
  have hconfirmed : t.confirmedLinear = s.confirmedLinear := by rw [← hs]
  rw [← hnav] at h
  rw [← hconfirmed]
  clear hs hnav hconfirmed
  induction commands generalizing t with
  | nil => exact ⟨.refl t,Or.inl⟩
  | cons command commands ih =>
    obtain ⟨hfirst,hflag⟩ := applyCommand_extends h keeps command
    obtain ⟨hrest,hflags⟩ := ih (t.applyCommand keeps command) (hfirst.nav ▸ h)
    refine ⟨hfirst.trans hrest,fun hc => ?_⟩
    rcases hflags hc with hbefore | ⟨other,hother,hkind⟩
    · exact (hflag hbefore).imp id fun hkind => ⟨command,List.mem_cons_self ..,hkind⟩
    · exact Or.inr ⟨other,List.mem_cons_of_mem _ hother,hkind⟩

end Apply

section Steering
variable {c d : InspectionController} {e : ControllerEvent} {out : List Command}
open InspectionController

lemma InspectionController.Reaction.steers (hr : Reaction c e d out) (h : c.Steers) : d.Steers := by
  have hended : d.lastTake = true → d.StaysEnded := by
    intro hlast
    have hsame : d.lastTake = c.lastTake := by cases hr <;> rfl
    exact hr.staysEnded (h.ended (hsame ▸ hlast))
  refine ⟨?_,hended⟩
  cases hr with
  | ignored | debug => exact h.aim
  | steppedBack action activity target phase at_ =>
    exact fun _ => ⟨target,rfl,Or.inl at_.symm⟩
  | steppedForward action activity phase room =>
    exact fun _ => ⟨_,rfl,Or.inr ⟨rfl,room⟩⟩
  | completed frame phase room =>
    intro hrecovering
    dsimp only at hrecovering
    rw [phase] at hrecovering
    cases hrecovering
  | completedTake frame phase past more =>
    intro hrecovering
    dsimp only at hrecovering
    rw [phase] at hrecovering
    cases hrecovering
  | _ => exact fun hrecovering => nomatch hrecovering

lemma InspectionController.Reaction.confirmedAtEnd (hr : Reaction c e d out) {postEndRuns : ℕ}
    (h : ConfirmedAtEnd c postEndRuns)
    (hposition : postEndRuns = 0 → ∃ position, d.position = some position ∧ c.frames ≤ position + 1) :
    ConfirmedAtEnd d postEndRuns := by
  have hsame : d.lastTake = c.lastTake := by cases hr <;> rfl
  refine ⟨hsame.trans h.1,hr.ended h.2.1,fun hrun => ?_⟩
  rw [hr.frames]
  exact hposition hrun

/-- The order that confirms comes at the natural end. -/
lemma InspectionController.Reaction.confirmsAtEnd (hr : Reaction c e d out) {command : Command} (hin : command ∈ out)
    (hkind : command.kind = .confirmLinearResult) (postEndRuns : ℕ) :
    ConfirmedAtEnd d postEndRuns := by
  have hm : CommandKind.confirmLinearResult ∈ out.map Command.kind := hkind ▸ List.mem_map_of_mem hin
  cases hr with
  | ignored e out quiet =>
    have hnotice := quiet command hin
    rw [hkind] at hnotice
    cases hnotice
  | completedLast frame phase past last => exact ⟨last,rfl,fun _ => ⟨frame,rfl,past⟩⟩
  | _ => simp [pauseAt,order,event,noticeOf] at hm

/-- The traversal fails by nothing but a recovery that reaches neither frame. -/
lemma InspectionController.Reaction.unfailed (hr : Reaction c e d out) (h : c.phase ≠ .failed)
    (hlost : e ≠ .recoveryFinished .failedUnrecoverable) : d.phase ≠ .failed := by
  cases hr with
  | ignored | debug | completed | completedTake => exact h
  | recoveryLost => exact absurd rfl hlost
  | _ => exact fun hfailed => nomatch hfailed

end Steering

section Turns
variable {σ : Type} {step : σ → UInt16 → σ} {buttons : List UInt16} {init : σ}
variable {s : SessionLoop σ}
open InspectionController

lemma Navigation.At.linear {nav : Navigation σ} {frame : ℕ}
    (h : nav.At step buttons init (frame + 1)) : nav.Linear step buttons init := by
  intro other hother
  rw [h.frame] at hother
  cases hother
  exact h

/-- What the controller answers keeps the loop on linear playback, where the session is at its new
position. -/
lemma follows_apply (hsaved : s.nav.Saved step buttons init)
    (hemitted : ∀ emission ∈ s.emitted, emission.Linear step buttons init)
    (hlinear : s.nav.Linear step buttons init) (hsteers : s.controller.Steers) (hsound : s.Sound)
    (e : ControllerEvent) (hlost : e ≠ .recoveryFinished .failedUnrecoverable)
    (hpositioned : Positioned step buttons init s.nav (s.controller.handle e).1.position)
    (hconfirmed : s.confirmedLinear = true → ConfirmedAtEnd (s.controller.handle e).1 s.postEndRuns)
    (keeps : Bool) : Follows step buttons init (s.apply keeps (s.controller.handle e)) := by
  obtain ⟨hextends,hflag⟩ := apply_extends hlinear keeps (s.controller.handle e)
  have hreaction := s.controller.handle_reaction e
  refine ⟨hextends.nav ▸ hsaved,fun emission hin => ?_,fun _ => hextends.nav ▸ hlinear,
    fun _ => ⟨hextends.failed.trans hsound.1,hextends.controller ▸ hreaction.unfailed hsound.2 hlost⟩,
    fun _ => ⟨hextends.nav ▸ hlinear,?_,?_,?_⟩⟩
  · exact (hextends.emitted emission hin).elim (hemitted emission) id
  · rw [hextends.controller,hextends.nav]
    exact hpositioned
  · rw [hextends.controller]
    exact hreaction.steers hsteers
  · rw [hextends.controller,hextends.postEndRuns]
    intro hnow
    rcases hflag hnow with hbefore | ⟨command,hin,hkind⟩
    · exact hconfirmed hbefore
    · exact hreaction.confirmsAtEnd hin hkind _

/-- An event that leaves the position. -/
lemma Follows.handled (h : Follows step buttons init s) (hdone : s.done = false) {e : ControllerEvent}
    (hframe : ∀ frame, e ≠ .frameCompleted frame) (hfinished : ∀ outcome, e ≠ .recoveryFinished outcome)
    (keeps : Bool) : Follows step buttons init (s.apply keeps (s.controller.handle e)) := by
  have hlive := h.live hdone
  have hreaction := s.controller.handle_reaction e
  have hposition := hreaction.position hframe (hfinished .presented)
  refine follows_apply h.saved h.emitted hlive.linear hlive.steers (h.sound hdone) e (hfinished _) ?_ ?_ keeps
  · rw [hposition]
    exact hlive.positioned
  · intro hconfirmed
    have hend := hlive.confirmed hconfirmed
    refine hreaction.confirmedAtEnd hend ?_
    rw [hposition]
    exact hend.2.2

lemma Extends.follows {t : SessionLoop σ} (he : Extends step buttons init s t)
    (hconfirmed : t.confirmedLinear = s.confirmedLinear) (hdone : t.done = s.done)
    (h : Follows step buttons init s) : Follows step buttons init t := by
  have hsame : t.Sound ↔ s.Sound := by
    unfold SessionLoop.Sound
    rw [he.failed,he.controller]
  refine ⟨he.nav ▸ h.saved,fun emission hin => ?_,fun hsound => ?_,fun hlive => ?_,fun hlive => ?_⟩
  · exact (he.emitted emission hin).elim (h.emitted emission) id
  · exact he.nav ▸ h.linear (hsame.mp hsound)
  · exact hsame.mpr (h.sound (hdone ▸ hlive))
  · have hs := h.live (hdone ▸ hlive)
    refine ⟨he.nav ▸ hs.linear,?_,he.controller ▸ hs.steers,?_⟩
    · rw [he.nav,he.controller]
      exact hs.positioned
    · rw [hconfirmed,he.controller,he.postEndRuns]
      exact hs.confirmed

lemma capture_saved (hsaved : s.nav.Saved step buttons init) {frame : ℕ}
    (hat : s.nav.At step buttons init (frame + 1)) (size : Option ℕ) :
    (s.capture frame size).nav.Saved step buttons init ∧
      (s.capture frame size).nav.At step buttons init (frame + 1) ∧
      Extends step buttons init { s with nav := (s.capture frame size).nav } (s.capture frame size) ∧
      (s.capture frame size).confirmedLinear = s.confirmedLinear := by
  unfold SessionLoop.capture
  split
  · split_ifs
    · have hstate : initialCheckpointFrame ≤ (frame : ℤ) ∧ ((frame : ℤ) + 1).toNat ≤ buttons.length ∧
          s.nav.state = linearState step buttons init ((frame : ℤ) + 1).toNat :=
        ⟨by unfold initialCheckpointFrame; omega,hat.recorded,hat.state⟩
      refine ⟨?_,⟨hat.frame,hat.recorded,hat.state⟩,.refl _,rfl⟩
      exact s.nav.checkpoints.capture_forall
        (P := fun frame state => initialCheckpointFrame ≤ frame ∧
          (frame + 1).toNat ≤ buttons.length ∧
            state = linearState step buttons init (frame + 1).toNat)
        hsaved hstate _
    · exact ⟨hsaved,hat,.refl _,rfl⟩
  · exact ⟨hsaved,hat,.refl _,rfl⟩

/-- A frame of playback. -/
lemma Follows.played (h : Follows step buttons init s) (hdone : s.done = false)
    (hphase : s.controller.Accepts)
    (hstart : s.controller.position = none → s.nav.sessionFrame = none)
    (o : FrameOutcome σ) (size : Option ℕ) (keeps : Bool) :
    Follows step buttons init (s.playTurn step buttons o size keeps) := by
  have hlive := h.live hdone
  have hnotConfirmed : s.confirmedLinear = false := by
    by_contra hne
    have hend := hlive.confirmed (by simpa using hne)
    exact ((hlive.steers.ended hend.1).stopped hend.2.1).2 hphase
  have hat : s.nav.At step buttons init s.controller.nextFrame := by
    have hpositioned := hlive.positioned
    unfold InspectionController.nextFrame
    cases hposition : s.controller.position with
    | some position =>
      rw [hposition] at hpositioned
      exact hlive.linear position hpositioned
    | none =>
      rw [hposition] at hpositioned
      rcases hpositioned with hzero | ⟨-,hat⟩
      · rw [hstart hposition] at hzero
        cases hzero
      · exact hat
  unfold SessionLoop.playTurn
  dsimp only
  obtain ⟨hcheckpoints,-⟩ := produce_cases step buttons s.nav s.controller.nextFrame o
  split_ifs with hfailed
  · refine ⟨?_,h.emitted,fun hsound => Bool.noConfusion hsound.1,fun hopen => Bool.noConfusion hopen,
      fun hopen => Bool.noConfusion hopen⟩
    intro entry hin
    rw [hcheckpoints] at hin
    exact h.saved entry hin
  · have hplayed := hat.produce (o := o) (by simpa using hfailed)
    generalize hnav : (s.nav.produce step buttons s.controller.nextFrame o).1 = nav at hplayed hcheckpoints ⊢
    generalize s.controller.nextFrame = frame at hplayed ⊢
    have hemitted : Emission.Linear step buttons init (.played frame nav.state) :=
      ⟨hplayed.recorded,hplayed.state⟩
    have hshown : Extends step buttons init { s with nav }
        ((({ s with nav }).emit (.played frame nav.state)).showFrame frame) :=
      (emit_extends _ hemitted).trans (showFrame_extends fun _ => hplayed)
    have hsame : ((({ s with nav }).emit (.played frame nav.state)).showFrame frame).confirmedLinear =
        s.confirmedLinear := by simp
    generalize (({ s with nav }).emit (.played frame nav.state)).showFrame frame = shown
      at hshown hsame ⊢
    have hshownAt : shown.nav.At step buttons init (frame + 1) := hshown.nav ▸ hplayed
    have hshownSaved : shown.nav.Saved step buttons init := by
      intro entry hin
      rw [hshown.nav,hcheckpoints] at hin
      exact h.saved entry hin
    obtain ⟨hsaved,hat,hextends,hflag⟩ := capture_saved hshownSaved hshownAt size
    generalize shown.capture frame size = captured at hsaved hat hextends hflag ⊢
    have hcontroller : captured.controller = s.controller :=
      hextends.controller.trans hshown.controller
    rw [← hcontroller] at hphase
    have hsound : captured.Sound := by
      have hfailed : captured.failed = s.failed := hextends.failed.trans hshown.failed
      exact ⟨hfailed.trans (h.sound hdone).1,hcontroller ▸ (h.sound hdone).2⟩
    refine follows_apply hsaved ?_ (hat.linear) (hcontroller ▸ hlive.steers) hsound (.frameCompleted frame)
      (by simp) ?_ ?_ keeps
    · intro emission hin
      rcases hextends.emitted emission hin with hbefore | hlinear
      · exact (hshown.emitted emission hbefore).elim (h.emitted emission) id
      · exact hlinear
    · have hposition := frameCompleted_position hphase frame
      unfold handle
      rw [hposition]
      exact hat.frame
    · intro hconfirmed
      rw [hflag,hsame,hnotConfirmed] at hconfirmed
      cases hconfirmed

/-- What a recovery starts from: the session is at the confirmed position, if it is anywhere, and the
target is one frame away. -/
structure Ready (step : σ → UInt16 → σ) (buttons : List UInt16) (init : σ) (s : SessionLoop σ)
    (target : ℕ) : Prop where
  saved : s.nav.Saved step buttons init
  emitted : ∀ emission ∈ s.emitted, emission.Linear step buttons init
  linear : s.nav.Linear step buttons init
  session : ∀ frame, s.nav.sessionFrame = some frame → frame = s.position
  near : target + 1 = s.position ∨ target = s.position + 1
  unknown : s.nav.sessionFrame = none → target = s.position + 1 → s.position = 0

/-- What a recovery leaves of the loop it started from. -/
structure Recovered (step : σ → UInt16 → σ) (buttons : List UInt16) (init : σ) (s t : SessionLoop σ) :
    Prop where
  saved : t.nav.Saved step buttons init
  emitted : ∀ emission ∈ t.emitted, emission.Linear step buttons init
  controller : t.controller = s.controller
  confirmedLinear : t.confirmedLinear = s.confirmedLinear
  failed : t.failed = s.failed

/-- A goal that was reached is shown and reported as restored. -/
lemma restored_extends {nav : Navigation σ} {frame : ℕ}
    (hat : nav.At step buttons init (frame + 1)) :
    Extends step buttons init { s with nav }
      ((({ s with nav }).showFrame frame).emit (.restored frame nav.state)) := by
  have hemitted : Emission.Linear step buttons init (.restored frame nav.state) :=
    ⟨hat.recorded,hat.state⟩
  exact (showFrame_extends fun _ => hat).trans (emit_extends _ hemitted)

lemma recovered_of_extends {t : SessionLoop σ} {target : ℕ} (hs : Ready step buttons init s target)
    {nav : Navigation σ} (hcheckpoints : nav.checkpoints = s.nav.checkpoints)
    (h : Extends step buttons init { s with nav } t) (hflag : t.confirmedLinear = s.confirmedLinear) :
    Recovered step buttons init s t := by
  refine ⟨fun entry hin => ?_,fun emission hin => ?_,h.controller,hflag,h.failed⟩
  · rw [h.nav,hcheckpoints] at hin
    exact hs.saved entry hin
  · exact (h.emitted emission hin).elim (hs.emitted emission) id

/-- Both attempts of a recovery: the session ends at the target, at the confirmed position, or the take
is over. -/
lemma recoverFrom_cases {target : ℕ} (h : Ready step buttons init s target) (o : RecoveryAnswers σ)
    (hcareful : s.nav.Careful step buttons s.position target (decide (s.postEndRuns = 0)) o.first) :
    Recovered step buttons init s (s.recoverFrom step buttons target o).1 ∧
      (s.recoverFrom step buttons target o).1.postEndRuns = s.postEndRuns ∧
      (((s.recoverFrom step buttons target o).2 = .presented ∧
          (s.recoverFrom step buttons target o).1.nav.At step buttons init (target + 1)) ∨
        ((s.recoverFrom step buttons target o).2 = .failedRestored ∧
          (s.recoverFrom step buttons target o).1.nav.At step buttons init (s.position + 1)) ∨
        (s.recoverFrom step buttons target o).2 = .failedUnrecoverable) := by
  have hfirst : ∀ frame, s.nav.sessionFrame = some frame → target = frame + 1 →
      s.nav.At step buttons init target := fun frame hframe htarget => htarget ▸ h.linear frame hframe
  obtain ⟨hkept,hreached⟩ := reach_true h.saved hfirst (decide (s.postEndRuns = 0)) o.first
  have hmissed := reach_false h.saved h.linear h.session h.near h.unknown hcareful
  unfold SessionLoop.recoverFrom
  dsimp only
  generalize s.nav.reach step buttons target (decide (s.postEndRuns = 0)) o.first = first
    at hkept hreached hmissed ⊢
  obtain ⟨nav,reached⟩ := first
  dsimp only at hkept hreached hmissed ⊢
  cases reached with
  | true =>
    rw [if_pos rfl]
    have hat := hreached rfl
    have hextends := restored_extends (s := s) hat
    exact ⟨recovered_of_extends h hkept hextends (by simp),hextends.postEndRuns,
      Or.inl ⟨rfl,hextends.nav ▸ hat⟩⟩
  | false =>
    rw [if_neg (by simp)]
    have hmissed := hmissed rfl
    by_cases hthere : nav.sessionFrame = some s.position
    · have hat := hmissed s.position hthere (Or.inl rfl)
      have hextends := restored_extends (s := s) hat
      rw [if_pos hthere,if_pos rfl]
      exact ⟨recovered_of_extends h hkept hextends (by simp),hextends.postEndRuns,
        Or.inr (Or.inl ⟨rfl,hextends.nav ▸ hat⟩)⟩
    · rw [if_neg hthere]
      have hsecond : ∀ frame, nav.sessionFrame = some frame → s.position = frame + 1 →
          nav.At step buttons init s.position :=
        fun frame hframe hbefore => hbefore ▸ hmissed frame hframe (Or.inr hbefore)
      have hsaved : nav.Saved step buttons init := fun entry hin => h.saved entry (hkept ▸ hin)
      obtain ⟨hkept',hreached'⟩ := reach_true hsaved hsecond (decide (s.postEndRuns = 0)) o.second
      generalize nav.reach step buttons s.position (decide (s.postEndRuns = 0)) o.second = second
        at hkept' hreached' ⊢
      obtain ⟨nav',reached'⟩ := second
      dsimp only at hkept' hreached' ⊢
      cases reached' with
      | true =>
        rw [if_pos rfl]
        have hat := hreached' rfl
        have hextends := restored_extends (s := s) hat
        exact ⟨recovered_of_extends h (hkept'.trans hkept) hextends (by simp),hextends.postEndRuns,
          Or.inr (Or.inl ⟨rfl,hextends.nav ▸ hat⟩)⟩
      | false =>
        rw [if_neg (by simp)]
        exact ⟨recovered_of_extends h (hkept'.trans hkept) (.refl _) rfl,rfl,Or.inr (Or.inr rfl)⟩

/-- The session of a running loop, ready for the recovery it has pending. -/
lemma Live.ready (hlive : Live step buttons init s) (hsaved : s.nav.Saved step buttons init)
    (hemitted : ∀ emission ∈ s.emitted, emission.Linear step buttons init) {target : ℕ}
    (hnear : target + 1 = s.position ∨ target = s.position + 1) :
    Ready step buttons init s target := by
  refine ⟨hsaved,hemitted,hlive.linear,?_,hnear,?_⟩
  all_goals
    have hpositioned := hlive.positioned
    unfold SessionLoop.position
    cases hposition : s.controller.position with
    | some position =>
      rw [hposition] at hpositioned
      have hsession : s.nav.sessionFrame = some position := hpositioned
      simp [hsession]
    | none =>
      rw [hposition] at hpositioned
      rcases hpositioned with hzero | ⟨-,hat⟩
      · simp [hzero]
      · simp [hat.frame,frameBefore]

/-- The recovery of a running loop, whose post-end inspection has opened once the result is
confirmed. -/
lemma recover_cases (hlive : Live step buttons init s) (hsaved : s.nav.Saved step buttons init)
    (hemitted : ∀ emission ∈ s.emitted, emission.Linear step buttons init) {target : ℕ}
    (haim : target + 1 = s.position ∨ (target = s.position + 1 ∧ target < s.controller.frames))
    (o : RecoveryAnswers σ)
    (hcareful : (s.rearm o).1.nav.Careful step buttons s.position target
      (decide ((s.rearm o).1.postEndRuns = 0)) o.first) :
    Recovered step buttons init s (s.recover step buttons target o).1 ∧
      (s.confirmedLinear = true → (s.recover step buttons target o).1.postEndRuns ≠ 0) ∧
      (((s.recover step buttons target o).2 = .presented ∧
          (s.recover step buttons target o).1.nav.At step buttons init (target + 1)) ∨
        ((s.recover step buttons target o).2 = .failedRestored ∧
          (s.recover step buttons target o).1.nav.At step buttons init (s.position + 1)) ∨
        (s.recover step buttons target o).2 = .failedUnrecoverable) := by
  by_cases hrearms : s.confirmedLinear = true ∧ s.postEndRuns = 0
  · have hrearmed : Emission.Linear step buttons init (.rearmed : Emission σ) := trivial
    have hemitted' : ∀ emission ∈ (s.emit .rearmed).emitted, emission.Linear step buttons init :=
      fun emission hin =>
        ((emit_extends s hrearmed).emitted emission hin).elim (hemitted emission) id
    obtain ⟨position,hposition,hlast⟩ := (hlive.confirmed hrearms.1).2.2 hrearms.2
    have hback : target + 1 = s.position := by
      rcases haim with hback | ⟨hforward,hroom⟩
      · exact hback
      · unfold SessionLoop.position at hforward
        rw [hposition,Option.getD_some] at hforward
        omega
    unfold SessionLoop.recover
    unfold SessionLoop.rearm at hcareful ⊢
    rw [if_pos hrearms] at hcareful ⊢
    dsimp only at hcareful ⊢
    cases hstate : o.rearm with
    | none =>
      rw [if_neg (by simp)]
      exact ⟨⟨hsaved,hemitted',rfl,rfl,rfl⟩,fun _ => Nat.one_ne_zero,Or.inr (Or.inr rfl)⟩
    | some state =>
      rw [hstate] at hcareful
      rw [if_pos rfl]
      dsimp only at hcareful ⊢
      have hready : Ready step buttons init
          { s.emit .rearmed with
            nav := { s.nav with state, view := false, sessionFrame := none }, postEndRuns := 1 }
          target := by
        refine ⟨hsaved,hemitted',?_,?_,Or.inl hback,fun _ hforward => ?_⟩
        · intro frame hframe
          cases hframe
        · intro frame hframe
          cases hframe
        · have hforward' : target = s.position + 1 := hforward
          omega
      obtain ⟨hrecovered,hruns,hcases⟩ := recoverFrom_cases hready o hcareful
      exact ⟨⟨hrecovered.saved,hrecovered.emitted,hrecovered.controller,hrecovered.confirmedLinear,
          hrecovered.failed⟩,
        fun _ => hruns ▸ Nat.one_ne_zero,hcases⟩
  · have hready := hlive.ready hsaved hemitted (haim.imp id And.left)
    unfold SessionLoop.recover
    have hsame : s.rearm o = (s,true) := by
      unfold SessionLoop.rearm
      rw [if_neg hrearms]
    rw [hsame] at hcareful ⊢
    rw [if_pos rfl]
    obtain ⟨hrecovered,hruns,hcases⟩ := recoverFrom_cases hready o hcareful
    refine ⟨hrecovered,fun hconfirmed => ?_,hcases⟩
    rw [hruns]
    exact fun hzero => hrearms ⟨hconfirmed,hzero⟩

lemma showSession_kept (s : SessionLoop σ) :
    s.showSession.nav = s.nav ∧ s.showSession.controller = s.controller ∧
      s.showSession.postEndRuns = s.postEndRuns ∧ s.showSession.done = s.done := by
  unfold SessionLoop.showSession SessionLoop.showFrame
  split
  · split_ifs <;> exact ⟨rfl,rfl,rfl,rfl⟩
  · exact ⟨rfl,rfl,rfl,rfl⟩

lemma rearm_showSession (s : SessionLoop σ) (o : RecoveryAnswers σ) :
    (s.showSession.rearm o).1.nav = (s.rearm o).1.nav ∧
      (s.showSession.rearm o).1.postEndRuns = (s.rearm o).1.postEndRuns := by
  obtain ⟨hnav,-,hruns,-⟩ := showSession_kept s
  unfold SessionLoop.rearm
  rw [showSession_confirmedLinear,hruns]
  split_ifs
  · cases o.rearm with
    | none => exact ⟨hnav,rfl⟩
    | some state => exact ⟨by dsimp only [SessionLoop.emit]; rw [hnav],rfl⟩
  · exact ⟨hnav,hruns⟩

/-- The controller learns how the recovery ended. -/
lemma follows_recoveryFinished (hsaved : s.nav.Saved step buttons init)
    (hemitted : ∀ emission ∈ s.emitted, emission.Linear step buttons init)
    (hsteers : s.controller.Steers) (hfailed : s.failed = false) (hphase : s.controller.phase = .recovering)
    {target : ℕ} (htarget : s.controller.target = some target)
    (hconfirmed : s.confirmedLinear = true →
      ConfirmedAtEnd s.controller s.postEndRuns ∧ s.postEndRuns ≠ 0)
    {outcome : RecoveryOutcome}
    (hcases : (outcome = .presented ∧ s.nav.At step buttons init (target + 1)) ∨
      (outcome = .failedRestored ∧ s.nav.At step buttons init (s.position + 1)) ∨
      outcome = .failedUnrecoverable) :
    Follows step buttons init (s.apply true (s.controller.recoveryFinished outcome)) := by
  have hfinished : s.confirmedLinear = true → ConfirmedAtEnd
      (s.controller.handle (.recoveryFinished outcome)).1 s.postEndRuns := by
    intro hnow
    obtain ⟨hend,hruns⟩ := hconfirmed hnow
    exact (s.controller.handle_reaction (.recoveryFinished outcome)).confirmedAtEnd hend
      fun hzero => absurd hzero hruns
  have hsound : s.Sound := ⟨hfailed,by rw [hphase]; decide⟩
  rcases hcases with ⟨rfl,hat⟩ | ⟨rfl,hat⟩ | rfl
  · refine follows_apply hsaved hemitted hat.linear hsteers hsound (.recoveryFinished .presented) (by simp) ?_
      hfinished true
    simp only [handle,recoveryFinished,hphase,htarget]
    exact hat.frame
  · refine follows_apply hsaved hemitted hat.linear hsteers hsound (.recoveryFinished .failedRestored) (by simp) ?_
      hfinished true
    simp only [handle,recoveryFinished,hphase,htarget]
    unfold SessionLoop.position at hat
    cases hposition : s.controller.position with
    | some position =>
      rw [hposition] at hat
      exact hat.frame
    | none =>
      rw [hposition] at hat
      exact Or.inl hat.frame
  · simp only [recoveryFinished,hphase,htarget]
    exact ⟨hsaved,hemitted,fun hsound => absurd rfl hsound.2,fun hopen => Bool.noConfusion hopen,
      fun hopen => Bool.noConfusion hopen⟩

/-- The turn that recovers a frame. -/
lemma Follows.recovered (h : Follows step buttons init s) (hdone : s.done = false)
    (hphase : s.controller.phase = .recovering) (o : RecoveryAnswers σ)
    (hstays : StaysOnLine step buttons s (.recover o)) :
    Follows step buttons init (s.recoverTurn step buttons o) := by
  obtain ⟨hnav,hcontroller,hruns,hdone'⟩ := showSession_kept s
  obtain ⟨hnavRearmed,hrunsRearmed⟩ := rearm_showSession s o
  have hshown : Follows step buttons init s.showSession :=
    (showSession_extends (h.live hdone).linear).follows showSession_confirmedLinear hdone' h
  have hlive := hshown.live (hdone'.trans hdone)
  obtain ⟨target,htarget,haim⟩ := (h.live hdone).steers.aim hphase
  have hcareful : (s.showSession.rearm o).1.nav.Careful step buttons s.showSession.position target
      (decide ((s.showSession.rearm o).1.postEndRuns = 0)) o.first := by
    unfold StaysOnLine at hstays
    unfold SessionLoop.position at hstays ⊢
    rw [hnavRearmed,hrunsRearmed,hcontroller]
    rw [htarget] at hstays
    exact hstays
  have haim' : target + 1 = s.showSession.position ∨
      (target = s.showSession.position + 1 ∧ target < s.showSession.controller.frames) := by
    unfold SessionLoop.position
    rw [hcontroller]
    exact haim
  obtain ⟨hrecovered,hpostEnd,hcases⟩ := recover_cases hlive hshown.saved hshown.emitted haim' o hcareful
  unfold SessionLoop.recoverTurn
  rw [htarget]
  dsimp only [Option.getD_some]
  generalize s.showSession.recover step buttons target o = recovery at *
  obtain ⟨t,outcome⟩ := recovery
  dsimp only at hrecovered hpostEnd hcases ⊢
  -- The report of a failure extends what the recovery left.
  have hreported : Extends step buttons init t (if outcome = .presented then t
      else t.emit (.event "recover_failed" target t.position)) := by
    split_ifs
    · exact .refl t
    · exact emit_extends t trivial
  have hflag : (if outcome = .presented then t
      else t.emit (.event "recover_failed" target t.position)).confirmedLinear =
        s.showSession.confirmedLinear := by
    split_ifs <;> exact hrecovered.confirmedLinear
  generalize (if outcome = .presented then t
      else t.emit (.event "recover_failed" target t.position)) = u at hreported hflag ⊢
  have hu : u.controller = s.showSession.controller :=
    hreported.controller.trans hrecovered.controller
  have htarget' : u.controller.target = some target := by rw [hu,hcontroller,htarget]
  have hfailed : u.failed = false := by
    rw [hreported.failed,hrecovered.failed]
    exact (hshown.sound (hdone'.trans hdone)).1
  refine follows_recoveryFinished (hreported.nav ▸ hrecovered.saved) ?_ (hu ▸ hlive.steers) hfailed ?_
    htarget' ?_ ?_
  · exact fun emission hin => (hreported.emitted emission hin).elim (hrecovered.emitted emission) id
  · rw [hu,hcontroller,hphase]
  · intro hnow
    rw [hflag] at hnow
    have hend := hlive.confirmed hnow
    rw [hreported.postEndRuns,hu]
    exact ⟨⟨hend.1,hend.2.1,fun hzero => absurd hzero (hpostEnd hnow)⟩,hpostEnd hnow⟩
  · unfold SessionLoop.position at hcases ⊢
    rw [hreported.nav,hu]
    exact hcases

/-- One turn of the loop. -/
lemma Follows.turned (h : Follows step buttons init s) (hdone : s.done = false) {action : LoopAction σ}
    (hstays : StaysOnLine step buttons s action) {t : SessionLoop σ}
    (hturn : s.turn step buttons action = some t) : Follows step buttons init t := by
  have hlive := h.live hdone
  have hshown : Follows step buttons init s.showSession :=
    (showSession_extends hlive.linear).follows showSession_confirmedLinear (showSession_kept s).2.2.2 h
  cases action with
  | cancel =>
    cases hturn
    exact h.handled hdone (e := .cancel) (by simp) (by simp) true
  | key action =>
    cases hturn
    exact h.handled hdone (e := .key action .betweenFrames) (by simp) (by simp) true
  | scroll =>
    simp only [SessionLoop.turn,Option.some.injEq] at hturn
    rw [← hturn]
    split_ifs
    · exact hshown
    · exact h
  | interrupted cause =>
    simp only [SessionLoop.turn] at hturn
    split at hturn
    · cases hturn
    · cases hturn
      exact h.handled hdone (e := .presentationInterrupted cause) (by simp) (by simp) true
  | presentationRecovered =>
    simp only [SessionLoop.turn] at hturn
    split at hturn
    · cases hturn
      exact h.handled hdone (e := .presentationRecovered) (by simp) (by simp) true
    · cases hturn
  | slot =>
    simp only [SessionLoop.turn] at hturn
    split at hturn
    · cases hturn
      exact h.handled hdone (e := .takeSlotReached) (by simp) (by simp) true
    · cases hturn
  | play o size keeps =>
    simp only [SessionLoop.turn] at hturn
    split at hturn
    · rename_i hphase
      cases hturn
      exact h.played hdone hphase.1 hstays o size keeps
    · cases hturn
  | recover o =>
    simp only [SessionLoop.turn] at hturn
    split at hturn
    · rename_i hphase
      cases hturn
      exact h.recovered hdone hphase o hstays
    · cases hturn
  | idle =>
    simp only [SessionLoop.turn] at hturn
    split at hturn
    · cases hturn
      have hidle : s.nav.view = true → s.nav.At step buttons init (s.nav.sessionFrame.getD 0 + 1) := by
        intro hview
        have hpositioned := hlive.positioned
        cases hframe : s.nav.sessionFrame with
        | some frame => exact hlive.linear frame hframe
        | none =>
          -- Without a frame there has been no view yet.
          cases hposition : s.controller.position with
          | some position =>
            rw [hposition] at hpositioned
            exact absurd (hframe.symm.trans hpositioned) (by simp)
          | none =>
            rw [hposition] at hpositioned
            rcases hpositioned with hzero | ⟨hblank,-⟩
            · exact absurd (hframe.symm.trans hzero) (by simp)
            · rw [hblank] at hview
              cases hview
      have hflag : (s.showFrame (s.nav.sessionFrame.getD 0)).confirmedLinear = s.confirmedLinear :=
        showFrame_confirmedLinear _
      refine (showFrame_extends hidle).follows hflag ?_ h
      unfold SessionLoop.showFrame
      split_ifs <;> rfl
    · cases hturn

lemma Follows.next (h : Follows step buttons init s) {action : LoopAction σ}
    (hstays : StaysOnLine step buttons s action) {t : SessionLoop σ}
    (hnext : SessionLoop.next step buttons s action = some t) : Follows step buttons init t := by
  unfold SessionLoop.next at hnext
  split at hnext
  · cases hnext
  · rename_i hdone
    obtain ⟨u,hturn,rfl⟩ := Option.map_eq_some_iff.mp hnext
    have hu := h.turned (by simpa using hdone) hstays hturn
    unfold SessionLoop.finish
    split_ifs
    · have hfinished : Extends step buttons init u
          (u.emit (.finished u.nav.loop.framesCompleted)) := emit_extends u trivial
      exact hfinished.follows rfl rfl hu
    · exact hu

/-- A take starts at the initial state, with its checkpoint if the take can be inspected. -/
lemma start_follows (frames : ℕ) (lastTake inspectable : Bool) (interval budget size : ℕ) :
    Follows step buttons init
      (SessionLoop.start init frames lastTake inspectable interval budget size) := by
  have hat : ∀ checkpoints, Navigation.At step buttons init
      ({ state := init, checkpoints } : Navigation σ) 0 := fun _ => ⟨rfl,Nat.zero_le _,rfl⟩
  refine ⟨?_,?_,?_,fun _ => ⟨rfl,fun hphase => nomatch hphase⟩,
    fun _ => ⟨?_,Or.inr ⟨rfl,hat _⟩,⟨?_,fun hlast => ?_⟩,?_⟩⟩
  · have hempty : ∀ entry ∈ ({ ring := .new interval budget } : CheckpointStore σ).checkpoints,
        initialCheckpointFrame ≤ entry.1 ∧ (entry.1 + 1).toNat ≤ buttons.length ∧
          entry.2 = linearState step buttons init (entry.1 + 1).toNat := fun entry hin => nomatch hin
    unfold SessionLoop.start Navigation.Saved
    dsimp only
    split_ifs
    · exact CheckpointStore.capture_forall
        (P := fun frame state => initialCheckpointFrame ≤ frame ∧
          (frame + 1).toNat ≤ buttons.length ∧
            state = linearState step buttons init (frame + 1).toNat)
        _ hempty ⟨le_refl _,Nat.zero_le _,rfl⟩ size
    · exact hempty
  · intro emission hin
    cases hin
  · intro _ frame hframe
    cases hframe
  · intro frame hframe
    cases hframe
  · intro hphase
    cases hphase
  · have hlast' : lastTake = true := hlast
    rw [hlast']
    exact handle_staysEnded _ .prepared (new_staysEnded frames)
  · intro hconfirmed
    cases hconfirmed

/-- In every run of the inspection loop that stays on the line, what is shown, played or restored as a frame is the
state of linear playback. So is the session at the frame it holds, while the loop runs and after every end but a
failure: a production that fails ends the session, and a recovery that reaches neither frame ends the traversal, with
the frame of the session as it was. -/
theorem navigation_linear (step : σ → UInt16 → σ) (buttons : List UInt16) (init : σ)
    (lastTake inspectable : Bool) (interval budget size : ℕ) (actions : List (LoopAction σ))
    (s : SessionLoop σ)
    (hrun : Meets (SessionLoop.next step buttons) (StaysOnLine step buttons)
      (SessionLoop.start init buttons.length lastTake inspectable interval budget size) actions s) :
    (∀ emission ∈ s.emitted, emission.Linear step buttons init) ∧ (s.done = false → s.Sound) ∧
      (s.Sound → ∀ frame, s.nav.sessionFrame = some frame →
        frame < buttons.length ∧ s.nav.state = linearState step buttons init (frame + 1)) := by
  have h : Follows step buttons init s :=
    hrun.invariant (fun hs hstays hnext => hs.next hstays hnext)
      (start_follows _ lastTake inspectable interval budget size)
  refine ⟨h.emitted,h.sound,fun hsound frame hframe => ?_⟩
  have hat := h.linear hsound frame hframe
  exact ⟨hat.recorded,hat.state⟩

end Turns

section Runs

/-- The Engine whose state is the inputs it was given. -/
def record (state : List UInt16) (input : UInt16) : List UInt16 := state ++ [input]

/-- A take of two inputs, paused after the first and stepped forward, with what the step of the recovery
answers. -/
def steppedForward (o : FrameOutcome (List UInt16)) : List (LoopAction (List UInt16)) :=
  [.play { step := .stepped 1 } (some 8) true,.key .toggle,.key .right,
    .recover { first := ⟨.accepted,fun _ => o⟩, second := ⟨.accepted,fun _ => o⟩ }]

def recordedTake : SessionLoop (List UInt16) := .start [] 2 true true 1 64 8

/-- The recovery presents the second frame. -/
theorem navigation_linear_stepped : ∃ s,
    Meets (SessionLoop.next record [5,6]) (StaysOnLine record [5,6]) recordedTake
      (steppedForward { step := .stepped 2 }) s ∧
    s.nav.sessionFrame = some 1 ∧ s.nav.state = linearState record [5,6] [] 2 := by
  have hrun : Meets (SessionLoop.next record [5,6]) (StaysOnLine record [5,6]) recordedTake
      (steppedForward { step := .stepped 2 }) _ :=
    .next rfl (fun _ => rfl) (.next rfl trivial (.next rfl trivial (.next rfl
      ⟨fun _ hstrays => Or.elim (show _ ∨ _ from hstrays) (fun hindex => hindex rfl)
        fun hprogress => Bool.noConfusion hprogress.2,fun _ _ => trivial⟩ (.done _))))
  exact ⟨_,hrun,rfl,((navigation_linear record [5,6] [] true true 1 64 8 _ _ hrun).2.2 ⟨rfl,by decide⟩ 1 rfl).2⟩

/-- A step forward that throws half-way: the first frame is reported as restored in a session that has
left it. -/
theorem half_step_not_linear : ∃ s,
    Steps (SessionLoop.next record [5,6]) recordedTake (steppedForward { step := .threw [9] }) s ∧
    s.done = false ∧ s.Sound ∧ s.nav.sessionFrame = some 0 ∧ Emission.restored 0 [9] ∈ s.emitted ∧
    s.nav.state ≠ linearState record [5,6] [] 1 :=
  ⟨_,.next rfl (.next rfl (.next rfl (.next rfl (.done _)))),rfl,⟨rfl,by decide⟩,rfl,by decide,by decide⟩

end Runs
end AytherRuntime.Inspection
