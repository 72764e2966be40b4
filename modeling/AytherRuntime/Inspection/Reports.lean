import AytherRuntime.Inspection.Fallback
import Mathlib.Data.List.Chain

/-! What the supervisor hears of a run of the inspection loop, in order: the frames of playback, the events and the
close of the take. -/
namespace AytherRuntime.Inspection

inductive Report
  | played (frame : ℕ)
  | event (control : String) (before after : ℕ)
  | finished (inputsConsumed : ℕ)
  deriving DecidableEq

section Emitted
variable {σ : Type}

def Emission.report : Emission σ → Option Report
  | .played frame _ => some (.played frame)
  | .event control before after => some (.event control before after)
  | .finished inputsConsumed => some (.finished inputsConsumed)
  | _ => none

def SessionLoop.reports (s : SessionLoop σ) : List Report := s.emitted.filterMap Emission.report

/-- What `apply` reports of one command. -/
def commandReport (c : InspectionController) (completed : ℕ) (command : Command) : Option Report :=
  match command.kind with
  | .toggleDebug => some (.event "overlay_toggle" (c.position.getD 0) (c.position.getD 0))
  | .inspectionEvent =>
    let moves := command.control = "step_back" ∨ command.control = "step_forward"
    some (.event command.control (if moves then c.position.getD 0 else command.frame) command.frame)
  | .confirmLinearResult => some (.finished completed)
  | _ => none

variable (s : SessionLoop σ)

lemma emit_reports (emission : Emission σ) : (s.emit emission).reports = s.reports ++ emission.report.toList := by
  unfold SessionLoop.reports SessionLoop.emit
  rw [List.filterMap_append]
  cases hreport : emission.report <;> simp [hreport]

@[simp] lemma showFrame_reports (frame : ℕ) : (s.showFrame frame).reports = s.reports := by
  unfold SessionLoop.showFrame
  split
  · rw [emit_reports]
    exact List.append_nil _
  · rfl

@[simp] lemma showSession_reports : s.showSession.reports = s.reports := by
  unfold SessionLoop.showSession
  split <;> simp

lemma applyCommand_reports (keeps : Bool) (command : Command) :
    (s.applyCommand keeps command).reports =
        s.reports ++ (commandReport s.controller s.nav.loop.framesCompleted command).toList ∧
      (s.applyCommand keeps command).confirmedLinear = (s.confirmedLinear || Confirms command) := by
  unfold SessionLoop.applyCommand commandReport Confirms
  cases hkind : command.kind with
  | presentFrame =>
    dsimp only
    split <;> simp
  | notice =>
    dsimp only
    split <;> simp
  | toggleDebug =>
    dsimp only
    split <;> simp [emit_reports,Emission.report,SessionLoop.position]
  | inspectionEvent => simp [emit_reports,Emission.report,SessionLoop.position]
  | confirmLinearResult =>
    have hreports : (s.emit (.finished s.nav.loop.framesCompleted)).reports =
        s.reports ++ [Report.finished s.nav.loop.framesCompleted] := emit_reports s _
    exact ⟨hreports,by simp⟩
  | recoverFrame | pauseAudio | resumeAudio => simp
  | advanceTake | finishTraversal | close =>
    refine ⟨?_,by simp⟩
    exact (List.append_nil _).symm

/-- What is reported of the answers of the controller. -/
lemma apply_reports (keeps : Bool) (answer : InspectionController × List Command) :
    (s.apply keeps answer).reports =
        s.reports ++ answer.2.filterMap (commandReport answer.1 s.nav.loop.framesCompleted) ∧
      (s.apply keeps answer).confirmedLinear =
        (s.confirmedLinear || answer.2.any Confirms) := by
  obtain ⟨c,commands⟩ := answer
  have hfold : ∀ t : SessionLoop σ, (commands.foldl (SessionLoop.applyCommand keeps) t).reports =
        t.reports ++ commands.filterMap (commandReport t.controller t.nav.loop.framesCompleted) ∧
      (commands.foldl (SessionLoop.applyCommand keeps) t).confirmedLinear =
        (t.confirmedLinear || commands.any Confirms) := by
    induction commands with
    | nil =>
      intro t
      exact ⟨(List.append_nil _).symm,(Bool.or_false _).symm⟩
    | cons command commands ih =>
      intro t
      obtain ⟨hreports,hconfirmed⟩ := applyCommand_reports t keeps command
      obtain ⟨hnav,hcontroller⟩ := apply_kept t keeps (t.controller,[command])
      obtain ⟨hrest,hconfirmed'⟩ := ih (t.applyCommand keeps command)
      rw [List.foldl_cons]
      refine ⟨?_,?_⟩
      · have hnav' : (t.applyCommand keeps command).nav = t.nav := hnav
        have hcontroller' : (t.applyCommand keeps command).controller = t.controller := hcontroller
        rw [hrest,hreports,hnav',hcontroller',List.append_assoc]
        cases hreport : commandReport t.controller t.nav.loop.framesCompleted command <;> simp [hreport]
      · rw [hconfirmed',hconfirmed,List.any_cons,Bool.or_assoc]
  exact hfold { s with controller := c }

section Frames
variable (step : σ → UInt16 → σ) (buttons : List UInt16)

lemma capture_reports (frame : ℕ) (size : Option ℕ) :
    (s.capture frame size).reports = s.reports ∧ (s.capture frame size).confirmedLinear = s.confirmedLinear := by
  unfold SessionLoop.capture
  split
  · split <;> exact ⟨rfl,rfl⟩
  · exact ⟨rfl,rfl⟩

/-- A recovery reports nothing by itself. -/
lemma recover_reports (target : ℕ) (o : RecoveryAnswers σ) :
    (s.recover step buttons target o).1.reports = s.reports ∧
      (s.recover step buttons target o).1.confirmedLinear = s.confirmedLinear := by
  have hrearmed : (s.rearm o).1.reports = s.reports ∧ (s.rearm o).1.confirmedLinear = s.confirmedLinear := by
    have hquiet : (s.emit .rearmed).reports = s.reports := (emit_reports s _).trans (List.append_nil _)
    unfold SessionLoop.rearm
    split
    · cases o.rearm <;> exact ⟨hquiet,rfl⟩
    · exact ⟨rfl,rfl⟩
  unfold SessionLoop.recover
  dsimp only
  split
  swap
  · exact hrearmed
  rw [← hrearmed.1,← hrearmed.2]
  generalize (s.rearm o).1 = t
  have hrestored : ∀ (nav : Navigation σ) frame state,
      ((({ t with nav }).showFrame frame).emit (.restored frame state)).reports = t.reports := by
    intro nav frame state
    rw [emit_reports,showFrame_reports]
    exact List.append_nil _
  have hconfirmed : ∀ (nav : Navigation σ) frame state,
      ((({ t with nav }).showFrame frame).emit (.restored frame state)).confirmedLinear = t.confirmedLinear := by
    intro nav frame state
    rw [emit_confirmedLinear,showFrame_confirmedLinear]
  unfold SessionLoop.recoverFrom
  dsimp only
  generalize t.nav.reach step buttons target (decide (t.postEndRuns = 0)) o.first = first
  split
  · exact ⟨hrestored _ _ _,hconfirmed _ _ _⟩
  · generalize (if first.1.sessionFrame = some t.position then (first.1,true)
      else first.1.reach step buttons t.position (decide (t.postEndRuns = 0)) o.second) = second
    split
    · exact ⟨hrestored _ _ _,hconfirmed _ _ _⟩
    · exact ⟨rfl,rfl⟩

end Frames
end Emitted

section Inputs
variable {σ : Type} {buttons : List UInt16} {nav : Navigation σ}

/-- The inputs that are completed are inputs of the take. -/
def Navigation.Within (buttons : List UInt16) (nav : Navigation σ) : Prop :=
  nav.loop.framesCompleted ≤ buttons.length

lemma Navigation.Within.produce (h : nav.Within buttons) (step : σ → UInt16 → σ) (frame : ℕ) (o : FrameOutcome σ) :
    (nav.produce step buttons frame o).1.Within buttons := by
  have hexecuted : (executeNext step buttons nav.loop nav.state o).1.framesCompleted ≤ buttons.length := by
    unfold executeNext
    dsimp only
    split
    · exact h
    split
    · exact h
    rename_i hready
    split
    · exact h
    rename_i input hinput
    have hconsumed : nav.loop.consumed = nav.loop.framesCompleted := not_not.mp fun hne => hready (Or.inl hne)
    have hlt : nav.loop.framesCompleted < buttons.length :=
      hconsumed ▸ (List.getElem?_eq_some_iff.mp hinput).1
    split
    · exact h
    split
    · exact h
    · split <;> exact hlt
  have hconfirm : ∀ (n : Navigation σ) index, (n.confirmIndex frame index).1.loop = n.loop := by
    intro n index
    unfold Navigation.confirmIndex
    dsimp only
    split <;> rfl
  unfold Navigation.Within Navigation.produce
  split
  · dsimp only
    split
    · exact hexecuted
    · rw [hconfirm]
      exact hexecuted
  · split
    · split
      · exact h
      · exact h
      · rw [hconfirm]
        exact h
    · exact h

lemma Navigation.Within.replay (h : nav.Within buttons) (step : σ → UInt16 → σ) (o : ℕ → FrameOutcome σ)
    (frames : List ℕ) : (Navigation.replay step buttons o nav frames).1.Within buttons := by
  induction frames generalizing nav with
  | nil => exact h
  | cons frame frames ih =>
    have hproduced := h.produce step frame (o frame)
    unfold Navigation.replay
    dsimp only
    split
    · exact hproduced
    · exact ih hproduced

lemma Navigation.Within.reach (h : nav.Within buttons) (step : σ → UInt16 → σ) (goal : ℕ) (audio : Bool)
    (o : Navigation.AttemptOutcome σ) : (nav.reach step buttons goal audio o).1.Within buttons := by
  unfold Navigation.reach
  dsimp only
  split
  · exact h
  · split
    · exact h
    · exact h.replay step o.frame _
  · have hrewound : (nav.rewind (nav.plan goal).checkpoint audio o.restore).1.Within buttons := by
      rw [Navigation.Within,(rewind_keeps nav _ audio o.restore).1]
      exact h
    split
    · exact hrewound
    · exact hrewound.replay step o.frame _

lemma recover_within {s : SessionLoop σ} (h : s.nav.Within buttons) (step : σ → UInt16 → σ) (target : ℕ)
    (o : RecoveryAnswers σ) : (s.recover step buttons target o).1.nav.Within buttons := by
  have hrearmed : (s.rearm o).1.nav.Within buttons := by
    unfold SessionLoop.rearm
    split
    · cases o.rearm <;> exact h
    · exact h
  unfold SessionLoop.recover
  dsimp only
  split
  swap
  · exact hrearmed
  generalize (s.rearm o).1 = t at hrearmed ⊢
  have hfirst := hrearmed.reach step target (decide (t.postEndRuns = 0)) o.first
  unfold SessionLoop.recoverFrom
  dsimp only
  generalize t.nav.reach step buttons target (decide (t.postEndRuns = 0)) o.first = first at hfirst ⊢
  split
  · simpa using hfirst
  · have hsecond : (if first.1.sessionFrame = some t.position then (first.1,true)
        else first.1.reach step buttons t.position (decide (t.postEndRuns = 0)) o.second).1.Within buttons := by
      split
      · exact hfirst
      · exact hfirst.reach step _ _ o.second
    generalize (if first.1.sessionFrame = some t.position then (first.1,true)
      else first.1.reach step buttons t.position (decide (t.postEndRuns = 0)) o.second) = second at hsecond ⊢
    split
    · simpa using hsecond
    · exact hsecond

end Inputs
end AytherRuntime.Inspection
