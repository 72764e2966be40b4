import AytherRuntime.Inspection.Inferred
import AytherRuntime.Inspection.NaturalEnd
import AytherRuntime.Inspection.Reports
import Mathlib.Data.List.Forall2

/-! The traversal of a take as the supervisor rebuilds it, over every run of the inspection loop: the reports of the
controller say where playback goes on. -/
namespace AytherRuntime.Inspection
open InspectionController

section Reports

/-- What comes after what in the reports of a take that begins with its first frame. -/
inductive Report.Adjoins : Report → Report → Prop
  | frames (frame) : Adjoins (.played frame) (.played (frame + 1))
  | stopped (frame control after) : Adjoins (.played frame) (.event control frame after)
  | continued (control before after) : Adjoins (.event control before after) (.played (after + 1))
  | events (control before after control' before' after') :
    Adjoins (.event control before after) (.event control' before' after')

/-- Nothing is played after an interruption, and what happens then is another control. -/
def Report.Settles : Report → Report → Prop
  | .event control _ _,next => control = "interrupted" →
    ∃ control' before after, next = .event control' before after ∧ control' ≠ "interrupted"
  | _,_ => True

/-- An interruption stops the controller, until the window recovers or the take ends. -/
def InspectionController.Halted (c : InspectionController) : Prop :=
  c.phase = .interrupted ∨ c.phase = .closing ∨ c.phase = .failed

/-- The controller is where its last report leaves it: at the frame that was played, or, when it plays again, at the one
after the event. -/
def Report.Leaves (c : InspectionController) : Report → Prop
  | .played frame => c.position = some frame ∧ c.phase ≠ .recovering
  | .event control _ after => (c.Accepts → ∀ position, c.position = some position → position = after) ∧
    (control = "interrupted" → c.Halted)
  | .finished _ => True

lemma InspectionController.Accepts.not_halted {c : InspectionController} (h : c.Accepts) : ¬c.Halted := by
  rcases h with hphase | hphase <;> simp [Halted,hphase]

/-- The reports of a take that has consumed some of its inputs. -/
structure Sealed (length consumed : ℕ) (reports : List Report) : Prop where
  within : consumed ≤ length
  played : ∀ frame, .played frame ∈ reports → frame < consumed
  events : ∀ control before after, .event control before after ∈ reports → after = 0 ∨ after < length
  unfinished : ∀ n, .finished n ∉ reports
  begun : ∀ frame, reports.head? = some (.played frame) → frame = 0 ∧ reports.IsChain Report.Adjoins
  settles : reports.IsChain Report.Settles
  still : ∀ before after, .event "interrupted" before after ∈ reports → before = after

/-- The reports of a take while it runs. -/
structure Recounts (length : ℕ) (c : InspectionController) (completed : ℕ) (reports : List Report) : Prop
    extends Sealed length completed reports where
  frames : c.frames = length
  position : ∀ position, c.position = some position → position < completed
  known : ∀ frame, reports.head? = some (.played frame) → c.position ≠ none
  last : ∀ report, reports.getLast? = some report → report.Leaves c
  silent : reports = [] → c.position = none ∧ c.phase ≠ .recovering

end Reports

section Controller
variable {length completed : ℕ} {c d : InspectionController} {reports : List Report}

lemma head?_concat_of_ne_nil {report : Report} (h : reports ≠ []) : (reports ++ [report]).head? = reports.head? := by
  obtain ⟨first,rest,rfl⟩ := List.exists_cons_of_ne_nil h
  rfl

/-- A controller that does not report keeps what was told. -/
lemma Recounts.keeps (h : Recounts length c completed reports) (hframes : d.frames = c.frames)
    (hposition : ∀ position, d.position = some position → position < completed)
    (hknown : c.position ≠ none → d.position ≠ none)
    (hleaves : ∀ report : Report, report.Leaves c → report.Leaves d)
    (hsilent : c.phase ≠ .recovering → d.position = c.position ∧ d.phase ≠ .recovering) :
    Recounts length d completed reports :=
  { h with
    frames := hframes.trans h.frames
    position := hposition
    known := fun frame hhead => hknown (h.known frame hhead)
    last := fun report hlast => hleaves report (h.last report hlast)
    silent := fun hnone =>
      have hwas := h.silent hnone
      have hnow := hsilent hwas.2
      ⟨hnow.1.trans hwas.1,hnow.2⟩ }

/-- An event of the controller. -/
lemma Recounts.event (h : Recounts length c completed reports) (control : String) {before after : ℕ}
    (hframes : d.frames = c.frames) (hposition : d.position = c.position)
    (hbefore : before = c.position.getD 0 ∨ c.phase = .recovering) (hafter : after = 0 ∨ after < length)
    (hleaves : (Report.event control before after).Leaves d)
    (hinterrupted : control = "interrupted" → ¬c.Halted ∧ before = after) :
    Recounts length d completed (reports ++ [Report.event control before after]) where
  within := h.within
  played frame hframe := by
    rcases List.mem_append.mp hframe with hold | hnew
    · exact h.played frame hold
    · cases List.mem_singleton.mp hnew
  events control' before' after' hevent := by
    rcases List.mem_append.mp hevent with hold | hnew
    · exact h.events _ _ _ hold
    · cases List.mem_singleton.mp hnew
      exact hafter
  unfinished n hfinished := by
    rcases List.mem_append.mp hfinished with hold | hnew
    · exact h.unfinished n hold
    · cases List.mem_singleton.mp hnew
  begun frame hhead := by
    have hsome : reports ≠ [] := by
      rintro rfl
      cases hhead
    rw [head?_concat_of_ne_nil hsome] at hhead
    obtain ⟨hzero,hchain⟩ := h.begun frame hhead
    refine ⟨hzero,List.isChain_append.mpr ⟨hchain,.singleton _,fun report hlast next hnext => ?_⟩⟩
    cases hnext
    cases report with
    | played frame =>
      obtain ⟨hat,hphase⟩ := h.last _ hlast
      have hsame : before = frame := by
        rcases hbefore with hbefore | hrecovering
        · rw [hbefore,hat]
          rfl
        · exact absurd hrecovering hphase
      rw [hsame]
      exact .stopped frame control after
    | event control' before' after' => exact .events _ _ _ _ _ _
    | finished n => exact absurd (List.mem_of_getLast? hlast) (h.unfinished n)
  settles := by
    refine List.isChain_append.mpr ⟨h.settles,.singleton _,fun report hlast next hnext => ?_⟩
    cases hnext
    cases report with
    | played frame => trivial
    | finished n => trivial
    | event control' before' after' =>
      intro hwas
      have hhalted : c.Halted := (h.last _ hlast).2 hwas
      exact ⟨control,before,after,rfl,fun hnow => (hinterrupted hnow).1 hhalted⟩
  still before' after' hevent := by
    rcases List.mem_append.mp hevent with hold | hnew
    · exact h.still _ _ hold
    · cases List.mem_singleton.mp hnew
      exact (hinterrupted rfl).2
  frames := hframes.trans h.frames
  position := hposition ▸ h.position
  known frame hhead := by
    have hsome : reports ≠ [] := by
      rintro rfl
      cases hhead
    rw [head?_concat_of_ne_nil hsome] at hhead
    rw [hposition]
    exact h.known frame hhead
  last report hlast := by
    rw [List.getLast?_concat] at hlast
    cases hlast
    exact hleaves
  silent hnone := absurd hnone (List.append_ne_nil_of_right_ne_nil _ (List.cons_ne_nil _ _))

lemma Recounts.position_bound (h : Recounts length c completed reports) :
    c.position.getD 0 = 0 ∨ c.position.getD 0 < length := by
  cases hposition : c.position with
  | none => exact Or.inl rfl
  | some position => exact Or.inr (lt_of_lt_of_le (h.position position hposition) h.within)

/-- An event that stays where the controller is. -/
lemma Recounts.stays (h : Recounts length c completed reports) (control : String) (hframes : d.frames = c.frames)
    (hposition : d.position = c.position) (hinterrupted : control = "interrupted" → ¬c.Halted ∧ d.Halted) :
    Recounts length d completed (reports ++ [Report.event control (c.position.getD 0) (c.position.getD 0)]) := by
  refine h.event control hframes hposition (Or.inl rfl) h.position_bound ⟨fun _ position hat => ?_,fun hnow =>
    (hinterrupted hnow).2⟩ fun hnow => ⟨(hinterrupted hnow).1,rfl⟩
  rw [hposition] at hat
  rw [hat]
  rfl

/-- A frame of playback. -/
lemma Recounts.frame (h : Recounts length c completed reports) (haccepts : c.Accepts) {now : ℕ} (hle : completed ≤ now)
    (hwithin : now ≤ length) (hframe : c.nextFrame < now) :
    Recounts length { c with position := some c.nextFrame } now (reports ++ [Report.played c.nextFrame]) where
  within := hwithin
  played frame hmem := by
    rcases List.mem_append.mp hmem with hold | hnew
    · exact lt_of_lt_of_le (h.played frame hold) hle
    · cases List.mem_singleton.mp hnew
      exact hframe
  events control before after hmem := by
    rcases List.mem_append.mp hmem with hold | hnew
    · exact h.events _ _ _ hold
    · cases List.mem_singleton.mp hnew
  unfinished n hmem := by
    rcases List.mem_append.mp hmem with hold | hnew
    · exact h.unfinished n hold
    · cases List.mem_singleton.mp hnew
  begun frame hhead := by
    rcases reports.eq_nil_or_concat with rfl | ⟨earlier,last,rfl⟩
    · have hnext : c.nextFrame = 0 := by
        rw [nextFrame,(h.silent rfl).1]
      cases hhead
      exact ⟨hnext,.singleton _⟩
    · have hsome : earlier.concat last ≠ [] := by simp
      rw [head?_concat_of_ne_nil hsome] at hhead
      obtain ⟨hzero,hchain⟩ := h.begun frame hhead
      obtain ⟨position,hposition⟩ := Option.ne_none_iff_exists'.mp (h.known frame hhead)
      have hnext : c.nextFrame = position + 1 := by
        rw [nextFrame,hposition]
      refine ⟨hzero,List.isChain_append.mpr ⟨hchain,.singleton _,fun report hlast next hnew => ?_⟩⟩
      cases hnew
      have hleaves := h.last report hlast
      rw [hnext]
      cases report with
      | played frame =>
        cases hposition.symm.trans hleaves.1
        exact .frames _
      | event control before after =>
        rw [hleaves.1 haccepts position hposition]
        exact .continued control before after
      | finished n => exact absurd (List.mem_of_getLast? hlast) (h.unfinished n)
  settles := by
    refine List.isChain_append.mpr ⟨h.settles,.singleton _,fun report hlast next hnew => ?_⟩
    cases report with
    | played frame => trivial
    | finished n => trivial
    | event control before after => exact fun hwas => absurd ((h.last _ hlast).2 hwas) haccepts.not_halted
  still before after hmem := by
    rcases List.mem_append.mp hmem with hold | hnew
    · exact h.still _ _ hold
    · cases List.mem_singleton.mp hnew
  frames := h.frames
  position position hposition := by
    cases hposition
    exact hframe
  known _ _ := Option.some_ne_none _
  last report hlast := by
    rw [List.getLast?_concat] at hlast
    cases hlast
    refine ⟨rfl,fun hrecovering => ?_⟩
    rcases haccepts with hphase | hphase <;> cases hphase.symm.trans hrecovering
  silent hnone := absurd hnone (List.append_ne_nil_of_right_ne_nil _ (List.cons_ne_nil _ _))

end Controller
section Reactions
variable {length completed : ℕ} {c d : InspectionController} {reports : List Report} {e : ControllerEvent}
variable {out : List Command}

lemma Report.Leaves.of_phase {report : Report} (h : report.Leaves c) (hposition : d.position = c.position)
    (hphase : d.phase ≠ .recovering) (haccepts : d.Accepts → c.Accepts) (hhalted : c.Halted → d.Halted) :
    report.Leaves d := by
  cases report with
  | played frame => exact ⟨hposition.trans h.1,hphase⟩
  | event control before after =>
    refine ⟨fun hplays position hat => ?_,fun hcontrol => hhalted (h.2 hcontrol)⟩
    rw [hposition] at hat
    exact h.1 (haccepts hplays) position hat
  | finished n => trivial

/-- A transition that moves nothing and reports nothing. -/
lemma Recounts.quiet (h : Recounts length c completed reports) (hframes : d.frames = c.frames)
    (hposition : d.position = c.position) (hphase : d.phase ≠ .recovering) (haccepts : d.Accepts → c.Accepts)
    (hhalted : c.Halted → d.Halted) : Recounts length d completed reports :=
  h.keeps hframes (hposition ▸ h.position) (fun hsome => hposition ▸ hsome)
    (fun _ hleaves => hleaves.of_phase hposition hphase haccepts hhalted) fun _ => ⟨hposition,hphase⟩

lemma Recounts.unreported (h : Recounts length c completed reports) {reported : List Report} (hnone : reported = []) :
    Recounts length c completed (reports ++ reported) := by
  rw [hnone,List.append_nil]
  exact h

/-- Every transition but a completed frame: what it reports follows from where the controller was. -/
lemma Recounts.handled (h : Recounts length c completed reports) (hr : Reaction c e d out) (hprepared : e ≠ .prepared)
    (hframe : ∀ frame, e ≠ .frameCompleted frame)
    (hpresented : e = .recoveryFinished .presented → ∀ target, c.target = some target → target < completed)
    (hrunning : ∀ cause, e = .presentationInterrupted cause → c.phase ≠ .interrupted) :
    Recounts length d completed (reports ++ out.filterMap (commandReport d completed)) := by
  cases hr with
  | ignored e out quiet =>
    have hnone : out.filterMap (commandReport c completed) = [] := by
      refine List.filterMap_eq_nil_iff.mpr fun command hin => ?_
      unfold commandReport
      rw [quiet command hin]
    exact h.unreported hnone
  | started phase => exact absurd rfl hprepared
  | debug activity phase => exact h.stays "overlay_toggle" rfl rfl (by simp)
  | paused position phase at_ =>
    have hstays : Recounts length (c.pauseAt position).1 completed
        (reports ++ [Report.event "pause" (c.position.getD 0) (c.position.getD 0)]) :=
      h.stays "pause" rfl at_.symm (by simp)
    rw [at_,Option.getD_some] at hstays
    exact hstays
  | pausing activity phase busy =>
    have hkept := h.quiet (d := { c with phase := .pausing }) rfl rfl (by simp) (fun _ => Or.inl phase)
      fun hhalted => absurd hhalted (Accepts.not_halted (Or.inl phase))
    exact hkept.unreported rfl
  | resumed activity phase room live => exact h.stays "resume" rfl rfl (by simp)
  | advanced activity phase more past => exact h.stays "advance_take" rfl rfl (by simp)
  | steppedBack action activity target phase at_ =>
    have hafter : target < length := by
      rcases h.position_bound with hzero | hlt <;> omega
    exact h.event "step_back" rfl rfl (Or.inl rfl) (Or.inr hafter)
      ⟨fun haccepts => by simp [Accepts] at haccepts,by simp⟩ (by simp)
  | steppedForward action activity phase room =>
    have hafter : c.position.getD 0 + 1 < length := h.frames ▸ room
    exact h.event "step_forward" rfl rfl (Or.inl rfl) (Or.inr hafter)
      ⟨fun haccepts => by simp [Accepts] at haccepts,by simp⟩ (by simp)
  | completed frame | completedPausing frame | completedTake frame | completedLast frame =>
    exact absurd rfl (hframe frame)
  | slot phase waiting =>
    have hkept := h.quiet (d := { c with takeEndPending := false, phase := .closing }) rfl rfl (by simp)
      (fun haccepts => by simp [Accepts] at haccepts) fun _ => Or.inr (Or.inl rfl)
    exact hkept.unreported rfl
  | recoveredTo target phase aim =>
    have hlt := hpresented rfl target aim
    have hmoved : Recounts length { c with target := none, phase := .paused, position := some target } completed
        reports := by
      refine h.keeps rfl ?_ (fun _ => Option.some_ne_none _) ?_ fun hnot => absurd phase hnot
      · intro position hposition
        cases hposition
        exact hlt
      · intro report hleaves
        cases report with
        | played frame => exact absurd phase hleaves.2
        | event control before after =>
          refine ⟨fun haccepts => by simp [Accepts] at haccepts,fun hcontrol => ?_⟩
          have hhalted := hleaves.2 hcontrol
          simp [Halted,phase] at hhalted
        | finished n => trivial
    exact hmoved.unreported rfl
  | recoveryRestored target phase aim =>
    have hkept := h.quiet (d := { c with target := none, phase := .paused }) rfl rfl (by simp)
      (fun haccepts => by simp [Accepts] at haccepts) fun hhalted => by simp [Halted,phase] at hhalted
    exact hkept.unreported rfl
  | recoveryLost target phase aim =>
    have hkept := h.quiet (d := { c with target := none, phase := .failed }) rfl rfl (by simp)
      (fun haccepts => by simp [Accepts] at haccepts) fun _ => Or.inr (Or.inr rfl)
    exact hkept.unreported rfl
  | interrupted cause phase =>
    refine h.stays "interrupted" rfl rfl fun _ => ⟨?_,Or.inl rfl⟩
    rintro (hphase | hphase | hphase)
    · exact hrunning cause rfl hphase
    · exact phase.1 hphase
    · exact phase.2 hphase
  | presented phase => exact h.stays "recovered" rfl rfl (by simp)
  | cancelled =>
    have hkept := h.quiet (d := { c with phase := .closing, target := none }) rfl rfl (by simp)
      (fun haccepts => by simp [Accepts] at haccepts) fun _ => Or.inr (Or.inl rfl)
    exact hkept.unreported rfl

/-- A completed frame: its report comes before what the controller answers, and the natural end of the last take
confirms. -/
lemma Recounts.completed_frame (h : Recounts length c completed reports) (haccepts : c.Accepts) {now : ℕ}
    (hle : completed ≤ now) (hwithin : now ≤ length) (hframe : c.nextFrame < now)
    (hr : Reaction c (.frameCompleted c.nextFrame) d out) (hmoved : d.position = some c.nextFrame) :
    (out.any Confirms = false ∧
        Recounts length d now (reports ++ [Report.played c.nextFrame] ++ out.filterMap (commandReport d now))) ∨
      (out.any Confirms = true ∧ out.filterMap (commandReport d now) = [.finished now] ∧
        Sealed length now (reports ++ [Report.played c.nextFrame]) ∧ d.StaysEnded ∧ d.endedNaturally = true) := by
  have hplayed := h.frame haccepts hle hwithin hframe
  have hphase : c.phase ≠ .recovering := by
    intro hrecovering
    rcases haccepts with hplays | hplays <;> cases hplays.symm.trans hrecovering
  cases hr with
  | ignored e out quiet =>
    unfold nextFrame at hmoved
    split at hmoved
    · rename_i position hposition
      cases hposition.symm.trans hmoved
    · rename_i hposition
      cases hposition.symm.trans hmoved
  | completed frame phase room =>
    exact Or.inl ⟨rfl,hplayed.unreported rfl⟩
  | completedPausing frame phase =>
    exact Or.inl ⟨rfl,hplayed.stays "pause" rfl rfl (by simp)⟩
  | completedTake frame phase past more =>
    have hkept := hplayed.quiet
      (d := { c with position := some c.nextFrame, endedNaturally := true, takeEndPending := true }) rfl rfl hphase id
      id
    exact Or.inl ⟨rfl,hkept.unreported rfl⟩
  | completedLast frame phase past last =>
    exact Or.inr ⟨rfl,rfl,hplayed.toSealed,⟨last,by simp [Accepts]⟩,rfl⟩

end Reactions
section Session
variable {σ : Type} {step : σ → UInt16 → σ} {buttons : List UInt16} {s t u : SessionLoop σ} {e : ControllerEvent}

/-- A turn that hands one event to the controller; a recovery may have failed before it. -/
structure Hands (buttons : List UInt16) (s t : SessionLoop σ) (e : ControllerEvent) : Prop where
  controller : t.controller = s.controller
  confirmed : t.confirmedLinear = s.confirmedLinear
  completed : s.nav.loop.framesCompleted ≤ t.nav.loop.framesCompleted
  within : s.nav.Within buttons → t.nav.Within buttons
  reports : t.reports = s.reports ∨ (s.controller.phase = .recovering ∧
    ∃ before, t.reports = s.reports ++ [Report.event "recover_failed" before s.position])
  unprepared : e ≠ .prepared
  unplayed : ∀ frame, e ≠ .frameCompleted frame
  presented : e = .recoveryFinished .presented →
    ∀ target, s.controller.target = some target → target < t.nav.loop.framesCompleted
  running : ∀ cause, e = .presentationInterrupted cause → s.controller.phase ≠ .interrupted

lemma hands_self (hprepared : e ≠ .prepared) (hframe : ∀ frame, e ≠ .frameCompleted frame)
    (hpresented : e ≠ .recoveryFinished .presented)
    (hrunning : ∀ cause, e = .presentationInterrupted cause → s.controller.phase ≠ .interrupted) :
    Hands buttons s s e :=
  ⟨rfl,rfl,le_rfl,id,Or.inl rfl,hprepared,hframe,fun h => absurd h hpresented,hrunning⟩

/-- What a recovery leaves to the controller. -/
lemma hands_recovered (step : σ → UInt16 → σ) (buttons : List UInt16)
    (hphase : s.controller.phase = .recovering) (o : RecoveryAnswers σ) :
    ∃ t outcome, Hands buttons s t (.recoveryFinished outcome) ∧
      s.recoverTurn step buttons o = t.apply true (t.controller.handle (.recoveryFinished outcome)) := by
  have hshown : s.showSession.nav = s.nav ∧ s.showSession.controller = s.controller := by
    unfold SessionLoop.showSession
    split <;> simp
  obtain ⟨hcontroller,hcompleted,hpresented⟩ :=
    recover_completes step buttons s.showSession (s.controller.target.getD 0) o
  obtain ⟨hreports,hconfirmed⟩ := recover_reports s.showSession step buttons (s.controller.target.getD 0) o
  have hwithin : s.nav.Within buttons →
      (s.showSession.recover step buttons (s.controller.target.getD 0) o).1.nav.Within buttons := fun h =>
    recover_within (hshown.1.symm ▸ h) step _ o
  rw [showSession_reports] at hreports
  rw [showSession_confirmedLinear] at hconfirmed
  rw [hshown.2] at hcontroller
  rw [hshown.1] at hcompleted
  unfold SessionLoop.recoverTurn
  dsimp only
  generalize s.showSession.recover step buttons (s.controller.target.getD 0) o = recovery at *
  obtain ⟨t,outcome⟩ := recovery
  dsimp only at *
  refine ⟨if outcome = .presented then t
    else t.emit (.event "recover_failed" (s.controller.target.getD 0) t.position),outcome,?_,rfl⟩
  split
  · rename_i hdone
    refine ⟨hcontroller,hconfirmed,hcompleted,hwithin,Or.inl hreports,by simp,by simp,fun _ target htarget => ?_,
      by simp⟩
    have hlt := hpresented hdone
    rw [htarget] at hlt
    exact hlt
  · rename_i hfailed
    refine ⟨hcontroller,hconfirmed,hcompleted,hwithin,Or.inr ⟨hphase,s.controller.target.getD 0,?_⟩,by simp,by simp,
      fun hdone => absurd (ControllerEvent.recoveryFinished.inj hdone) hfailed,by simp⟩
    rw [emit_reports,hreports]
    have hposition : t.position = s.position := by
      unfold SessionLoop.position
      rw [hcontroller]
    rw [hposition]
    rfl

/-- What one turn can do: it shows what there is, hands an event to the controller, or plays a frame. -/
lemma turn_cases {action : LoopAction σ} (hturn : s.turn step buttons action = some u) :
    (u.reports = s.reports ∧ u.controller = s.controller ∧ u.nav = s.nav ∧ u.confirmedLinear = s.confirmedLinear) ∨
      (∃ t e keeps, Hands buttons s t e ∧ u = t.apply keeps (t.controller.handle e)) ∨
      (s.controller.Accepts ∧ ∃ o size keeps, u = s.playTurn step buttons o size keeps) := by
  cases action with
  | cancel =>
    cases hturn
    exact Or.inr (Or.inl ⟨s,.cancel,true,hands_self (by simp) (by simp) (by simp) (by simp),rfl⟩)
  | key action =>
    cases hturn
    exact Or.inr (Or.inl ⟨s,.key action .betweenFrames,true,hands_self (by simp) (by simp) (by simp) (by simp),rfl⟩)
  | scroll =>
    cases hturn
    refine Or.inl ?_
    split
    · have hshown : s.showSession.nav = s.nav ∧ s.showSession.controller = s.controller := by
        unfold SessionLoop.showSession
        split <;> simp
      exact ⟨showSession_reports s,hshown.2,hshown.1,showSession_confirmedLinear⟩
    · exact ⟨rfl,rfl,rfl,rfl⟩
  | interrupted cause =>
    simp only [SessionLoop.turn] at hturn
    split at hturn
    · cases hturn
    · rename_i hrunning
      cases hturn
      exact Or.inr (Or.inl ⟨s,.presentationInterrupted cause,true,
        hands_self (by simp) (by simp) (by simp) fun _ _ => hrunning,rfl⟩)
  | presentationRecovered =>
    simp only [SessionLoop.turn] at hturn
    split at hturn
    · cases hturn
      exact Or.inr (Or.inl ⟨s,.presentationRecovered,true,hands_self (by simp) (by simp) (by simp) (by simp),rfl⟩)
    · cases hturn
  | slot =>
    simp only [SessionLoop.turn] at hturn
    split at hturn
    · cases hturn
      exact Or.inr (Or.inl ⟨s,.takeSlotReached,true,hands_self (by simp) (by simp) (by simp) (by simp),rfl⟩)
    · cases hturn
  | play o size keeps =>
    simp only [SessionLoop.turn] at hturn
    split at hturn
    · rename_i hphase
      cases hturn
      exact Or.inr (Or.inr ⟨hphase.1,o,size,keeps,rfl⟩)
    · cases hturn
  | recover o =>
    simp only [SessionLoop.turn] at hturn
    split at hturn
    · rename_i hphase
      cases hturn
      obtain ⟨t,outcome,hhands,hrecovered⟩ := hands_recovered step buttons hphase o
      exact Or.inr (Or.inl ⟨t,.recoveryFinished outcome,true,hhands,hrecovered⟩)
    · cases hturn
  | idle =>
    simp only [SessionLoop.turn] at hturn
    split at hturn
    · cases hturn
      exact Or.inl ⟨showFrame_reports s _,s.showFrame_controller _,s.showFrame_nav _,showFrame_confirmedLinear _⟩
    · cases hturn

/-- The last take ended by itself: nothing is played again. -/
def InspectionController.AtEnd (c : InspectionController) : Prop := c.StaysEnded ∧ c.endedNaturally = true

/-- A run that is heard: its take goes on, or its linear result was confirmed with the inputs consumed by then. -/
inductive Hearing (buttons : List UInt16) (s : SessionLoop σ) : Prop
  | running (unconfirmed : s.confirmedLinear = false)
      (tells : Recounts buttons.length s.controller s.nav.loop.framesCompleted s.reports)
  | confirmed (front : List Report) (n : ℕ) (back : List Report) (confirmed : s.confirmedLinear = true)
      (reports : s.reports = front ++ .finished n :: back) (taken : Sealed buttons.length n front)
      (quiet : ∀ report ∈ back, ∃ control before after, report = .event control before after)
      (consumed : n ≠ 0) (atEnd : s.controller.AtEnd)

/-- A run of the loop, which may have ended with the close of its take. -/
inductive Heard (buttons : List UInt16) (s : SessionLoop σ) : Prop
  | hearing (h : Hearing buttons s)
  | closed (front : List Report) (n : ℕ) (done : s.done = true) (unconfirmed : s.confirmedLinear = false)
      (reports : s.reports = front ++ [Report.finished n]) (taken : Sealed buttons.length n front)

lemma InspectionController.Reaction.unconfirmed {c d : InspectionController} {out : List Command}
    (hr : Reaction c e d out) (hframe : ∀ frame, e ≠ .frameCompleted frame) : out.any Confirms = false := by
  cases hr with
  | ignored e out quiet =>
    refine List.any_eq_false.mpr fun command hin hconfirms => ?_
    have hkind : command.kind = .confirmLinearResult := by simpa [Confirms] using hconfirms
    rw [quiet command hin] at hkind
    cases hkind
  | completed frame | completedPausing frame | completedTake frame | completedLast frame =>
    exact absurd rfl (hframe frame)
  | _ => rfl

/-- Without a confirmation only events are reported. -/
lemma commandReport_event {c : InspectionController} {completed : ℕ} {out : List Command}
    (hconfirms : out.any Confirms = false) {report : Report}
    (hreport : report ∈ out.filterMap (commandReport c completed)) :
    ∃ control before after, report = .event control before after := by
  obtain ⟨command,hin,hcommand⟩ := List.mem_filterMap.mp hreport
  have hnot := List.any_eq_false.mp hconfirms command hin
  unfold commandReport at hcommand
  split at hcommand
  · cases hcommand
    exact ⟨_,_,_,rfl⟩
  · cases hcommand
    exact ⟨_,_,_,rfl⟩
  · rename_i hkind
    exact absurd (by simpa [Confirms] using hkind) hnot
  · cases hcommand

lemma Recounts.grow {length completed now : ℕ} {c : InspectionController} {reports : List Report}
    (h : Recounts length c completed reports) (hle : completed ≤ now) (hwithin : now ≤ length) :
    Recounts length c now reports :=
  { h with
    within := hwithin
    played := fun frame hframe => lt_of_lt_of_le (h.played frame hframe) hle
    position := fun position hposition => lt_of_lt_of_le (h.position position hposition) hle }

lemma Recounts.handed (h : Recounts buttons.length s.controller s.nav.loop.framesCompleted s.reports)
    (hhands : Hands buttons s t e) :
    Recounts buttons.length t.controller t.nav.loop.framesCompleted t.reports := by
  have hgrown := h.grow hhands.completed (hhands.within h.within)
  rw [hhands.controller]
  rcases hhands.reports with hsame | ⟨hphase,before,hfailed⟩
  · rw [hsame]
    exact hgrown
  · rw [hfailed]
    refine hgrown.event "recover_failed" rfl rfl (Or.inr hphase) h.position_bound
      ⟨fun _ position hat => ?_,by simp⟩ (by simp)
    unfold SessionLoop.position
    rw [hat]
    rfl

/-- An event that is handed to the controller. -/
lemma Hearing.handed (h : Hearing buttons s) (hhands : Hands buttons s t e) (keeps : Bool) :
    Hearing buttons (t.apply keeps (t.controller.handle e)) := by
  have hr := t.controller.handle_reaction e
  have hconfirms := hr.unconfirmed hhands.unplayed
  obtain ⟨hreports,hconfirmed⟩ := apply_reports t keeps (t.controller.handle e)
  obtain ⟨hnav,hcontroller⟩ := apply_kept t keeps (t.controller.handle e)
  rw [hconfirms,Bool.or_false,hhands.confirmed] at hconfirmed
  cases h with
  | running unconfirmed tells =>
    have hpresented : e = .recoveryFinished .presented →
        ∀ target, t.controller.target = some target → target < t.nav.loop.framesCompleted := by
      rw [hhands.controller]
      exact hhands.presented
    have hrunning : ∀ cause, e = .presentationInterrupted cause → t.controller.phase ≠ .interrupted := by
      rw [hhands.controller]
      exact hhands.running
    have hnow := (tells.handed hhands).handled hr hhands.unprepared hhands.unplayed hpresented hrunning
    refine .running (hconfirmed.trans unconfirmed) ?_
    rw [hreports,hcontroller,hnav]
    exact hnow
  | confirmed front n back confirmed reports taken quiet consumed atEnd =>
    have htold : ∃ more, t.reports = s.reports ++ more ∧
        ∀ report ∈ more, ∃ control before after, report = Report.event control before after := by
      rcases hhands.reports with hsame | ⟨-,before,hfailed⟩
      · exact ⟨[],by rw [hsame,List.append_nil],fun report hin => nomatch hin⟩
      · exact ⟨_,hfailed,fun report hin => ⟨_,_,_,List.mem_singleton.mp hin⟩⟩
    obtain ⟨more,hmore,hevents⟩ := htold
    refine .confirmed front n
      (back ++ more ++ (t.controller.handle e).2.filterMap
        (commandReport (t.controller.handle e).1 t.nav.loop.framesCompleted)) (hconfirmed.trans confirmed) ?_ taken ?_
      consumed ?_
    · rw [hreports,hmore,reports]
      simp
    · intro report hin
      rcases List.mem_append.mp hin with hin | hin
      · exact (List.mem_append.mp hin).elim (quiet report) (hevents report)
      · exact commandReport_event hconfirms hin
    · rw [hcontroller]
      rw [← hhands.controller] at atEnd
      exact ⟨hr.staysEnded atEnd.1,hr.ended atEnd.2⟩

/-- A turn that plays the next frame. -/
lemma Hearing.played (h : Hearing buttons s) (haccepts : s.controller.Accepts) (o : FrameOutcome σ)
    (size : Option ℕ) (keeps : Bool) : Hearing buttons (s.playTurn step buttons o size keeps) := by
  cases h with
  | confirmed front n back confirmed reports taken quiet consumed atEnd =>
    exact absurd haccepts (atEnd.1.stopped atEnd.2).2
  | running unconfirmed tells =>
    have hwithin : (s.nav.produce step buttons s.controller.nextFrame o).1.Within buttons :=
      Navigation.Within.produce tells.within step s.controller.nextFrame o
    obtain ⟨hcompleted,hframe⟩ := produce_completes step buttons s.nav s.controller.nextFrame o
    unfold SessionLoop.playTurn
    dsimp only
    split
    · exact .running unconfirmed (tells.grow hcompleted hwithin)
    · rename_i hok
      generalize hplayed : ((({ s with nav := (s.nav.produce step buttons s.controller.nextFrame o).1 }).emit
        (.played s.controller.nextFrame (s.nav.produce step buttons s.controller.nextFrame o).1.state)).showFrame
          s.controller.nextFrame).capture s.controller.nextFrame size = played
      have hkept : played.controller = s.controller ∧ played.nav.loop =
          (s.nav.produce step buttons s.controller.nextFrame o).1.loop := by
        rw [← hplayed]
        unfold SessionLoop.capture
        split
        · split <;> simp
        · simp
      have htold : played.reports = s.reports ++ [Report.played s.controller.nextFrame] ∧
          played.confirmedLinear = s.confirmedLinear := by
        rw [← hplayed,(capture_reports _ _ _).1,(capture_reports _ _ _).2,showFrame_reports,emit_reports,
          showFrame_confirmedLinear,emit_confirmedLinear]
        exact ⟨rfl,rfl⟩
      obtain ⟨hreports,hconfirmed⟩ :=
        apply_reports played keeps (played.controller.frameCompleted s.controller.nextFrame)
      obtain ⟨hnav,hcontroller⟩ :=
        apply_kept played keeps (played.controller.frameCompleted s.controller.nextFrame)
      rw [hkept.1] at hreports hconfirmed hnav hcontroller ⊢
      rw [htold.1,hkept.2] at hreports
      rw [htold.2,unconfirmed,Bool.false_or] at hconfirmed
      have hcases := tells.completed_frame haccepts hcompleted hwithin (hframe (by simpa using hok))
        (frameCompleted_reaction s.controller s.controller.nextFrame) (frameCompleted_position haccepts _)
      rcases hcases with ⟨hquiet,hnow⟩ | ⟨hconfirms,hfinished,htaken,hstays,hended⟩
      · refine .running (hconfirmed.trans hquiet) ?_
        rw [hreports,hcontroller,hnav,hkept.2]
        exact hnow
      · rw [hfinished] at hreports
        have hconsumed := htaken.played s.controller.nextFrame (by simp)
        refine .confirmed _ _ [] (hconfirmed.trans hconfirms) hreports htaken (List.forall_mem_nil _)
          (Nat.ne_zero_of_lt hconsumed) ?_
        rw [hcontroller]
        exact ⟨hstays,hended⟩

lemma Hearing.turned (h : Hearing buttons s) {action : LoopAction σ}
    (hturn : s.turn step buttons action = some u) : Hearing buttons u := by
  rcases turn_cases hturn with ⟨hreports,hcontroller,hnav,hconfirmed⟩ | ⟨t,e,keeps,hhands,rfl⟩ |
    ⟨haccepts,o,size,keeps,rfl⟩
  · cases h with
    | running unconfirmed tells =>
      refine .running (hconfirmed.trans unconfirmed) ?_
      rw [hcontroller,hnav,hreports]
      exact tells
    | confirmed front n back confirmed reports taken quiet consumed atEnd =>
      exact .confirmed front n back (hconfirmed.trans confirmed) (hreports.trans reports) taken quiet consumed
        (hcontroller ▸ atEnd)
  · exact h.handed hhands keeps
  · exact h.played haccepts o size keeps

lemma Heard.next (h : Heard buttons s) {action : LoopAction σ}
    (hnext : SessionLoop.next step buttons s action = some t) : Heard buttons t := by
  unfold SessionLoop.next at hnext
  split at hnext
  · cases hnext
  rename_i hopen
  obtain ⟨u,hturn,rfl⟩ := Option.map_eq_some_iff.mp hnext
  cases h with
  | closed front n done unconfirmed reports taken => exact absurd done hopen
  | hearing h =>
    have hu := h.turned hturn
    unfold SessionLoop.finish
    split
    · rename_i hfinish
      have hunconfirmed : u.confirmedLinear = false := by simpa using hfinish.2.1
      cases hu with
      | running unconfirmed tells =>
        exact .closed u.reports u.nav.loop.framesCompleted hfinish.1 hunconfirmed (emit_reports u _) tells.toSealed
      | confirmed front n back confirmed reports taken quiet consumed atEnd =>
        cases hunconfirmed.symm.trans confirmed
    · exact .hearing hu

lemma start_heard (init : σ) (lastTake inspectable : Bool) (interval budget size : ℕ) :
    Heard buttons (SessionLoop.start init buttons.length lastTake inspectable interval budget size) := by
  refine .hearing (.running rfl ?_)
  exact
    { within := Nat.zero_le _
      played := fun frame hframe => nomatch hframe
      events := fun control before after hevent => nomatch hevent
      unfinished := fun n hfinished => nomatch hfinished
      begun := fun frame hhead => nomatch hhead
      frames := rfl
      position := fun position hposition => nomatch hposition
      settles := .nil
      still := fun before after hevent => nomatch hevent
      known := fun frame hhead => nomatch hhead
      last := fun report hlast => nomatch hlast
      silent := fun _ => ⟨rfl,by simp [SessionLoop.start,InspectionController.new,prepared]⟩ }

end Session
section Told
variable {length consumed : ℕ} {reports : List Report} {calls : List RecorderCall}

/-- A recorder is told of a report, whatever the sequence, the visit and the time of the event. -/
def Report.Told : Report → RecorderCall → Prop
  | .played frame,.framePlayed frame' => frame' = .ofNat frame
  | .event control before after,.inspection inspected =>
    inspected.control = control ∧ inspected.frameBefore = .ofNat before ∧ inspected.frameAfter = .ofNat after
  | _,_ => False

lemma adjoins_told (first second : Report) (call next : RecorderCall) (h : first.Adjoins second)
    (hfirst : first.Told call) (hsecond : second.Told next) : Adjoins call next := by
  cases h with
  | frames frame =>
    cases call with
    | inspection inspected => exact hfirst.elim
    | framePlayed played =>
      cases next with
      | inspection inspected => exact hsecond.elim
      | framePlayed played' =>
        have hplayed : played = .ofNat frame := hfirst
        have hplayed' : played' = .ofNat (frame + 1) := hsecond
        rw [hplayed',UInt64.ofNat_add,← hplayed]
        exact .frames played
  | stopped frame control after =>
    cases call with
    | inspection inspected => exact hfirst.elim
    | framePlayed played =>
      cases next with
      | framePlayed played' => exact hsecond.elim
      | inspection inspected =>
        have hplayed : played = .ofNat frame := hfirst
        rw [hplayed,← hsecond.2.1]
        exact .stopped inspected
  | continued control before after =>
    cases call with
    | framePlayed played => exact hfirst.elim
    | inspection inspected =>
      cases next with
      | inspection inspected' => exact hsecond.elim
      | framePlayed played =>
        have hplayed : played = .ofNat (after + 1) := hsecond
        rw [hplayed,UInt64.ofNat_add,← hfirst.2.2]
        exact .continued inspected
  | events control before after control' before' after' =>
    cases call with
    | framePlayed played => exact hfirst.elim
    | inspection inspected =>
      cases next with
      | framePlayed played => exact hsecond.elim
      | inspection inspected' => exact .events inspected inspected'

/-- What comes after what in some reports does so in the calls that they are told as. -/
lemma told_chain {follows : Report → Report → Prop} {comes : RecorderCall → RecorderCall → Prop}
    (hcomes : ∀ first second call next, follows first second → first.Told call → second.Told next → comes call next)
    (h : List.Forall₂ Report.Told reports calls) (hchain : reports.IsChain follows) : calls.IsChain comes := by
  induction h with
  | nil => exact .nil
  | cons hfirst hrest ih =>
    cases hrest with
    | nil => exact .singleton _
    | cons hsecond hrest =>
      obtain ⟨hfollows,hchain⟩ := List.isChain_cons_cons.mp hchain
      exact .cons_cons (hcomes _ _ _ _ hfollows hfirst hsecond) (ih hchain)

lemma told_mem (h : List.Forall₂ Report.Told reports calls) {call : RecorderCall} (hcall : call ∈ calls) :
    ∃ report ∈ reports, report.Told call := by
  induction h with
  | nil => cases hcall
  | cons hfirst hrest ih =>
    rcases List.mem_cons.mp hcall with rfl | hcall
    · exact ⟨_,List.mem_cons_self,hfirst⟩
    · obtain ⟨report,hin,htold⟩ := ih hcall
      exact ⟨report,List.mem_cons_of_mem _ hin,htold⟩

/-- What a take that was closed told of: it begins with its first frame, or with an event. -/
lemma Sealed.told (h : Sealed length consumed reports) (hlength : length < 2 ^ 64)
    (htold : List.Forall₂ Report.Told reports calls) :
    (∀ frame, calls.head? = some (.framePlayed frame) → frame = 0 ∧ calls.IsChain Adjoins) ∧
      (∀ frame, .framePlayed frame ∈ calls → frame < .ofNat consumed) ∧
      ∀ event, .inspection event ∈ calls → event.frameAfter.toNat + 1 < 2 ^ 64 := by
  have hconsumed : (UInt64.ofNat consumed).toNat = consumed :=
    UInt64.toNat_ofNat_of_lt' (lt_of_le_of_lt h.within hlength)
  refine ⟨?_,?_,?_⟩
  · intro frame hhead
    cases htold with
    | nil => cases hhead
    | @cons report call reports calls htells hrest =>
      cases hhead
      cases report with
      | event control before after => exact htells.elim
      | finished n => exact htells.elim
      | played played =>
        obtain ⟨rfl,hchain⟩ := h.begun played rfl
        have hzero : frame = .ofNat 0 := htells
        exact ⟨hzero,told_chain adjoins_told (.cons htells hrest) hchain⟩
  · intro frame hframe
    obtain ⟨report,hin,htells⟩ := told_mem htold hframe
    cases report with
    | event control before after => exact htells.elim
    | finished n => exact htells.elim
    | played played =>
      have hplayed : frame = .ofNat played := htells
      have hlt := h.played played hin
      have hsmall : played < 2 ^ 64 := (hlt.trans_le h.within).trans hlength
      rw [hplayed,UInt64.lt_iff_toNat_lt,hconsumed,UInt64.toNat_ofNat_of_lt' hsmall]
      exact hlt
  · intro inspected hevent
    obtain ⟨report,hin,htells⟩ := told_mem htold hevent
    cases report with
    | played played => exact htells.elim
    | finished n => exact htells.elim
    | event control before after =>
      rw [htells.2.2]
      rcases h.events _ _ _ hin with hzero | hlt
      · rw [hzero]
        decide
      · rw [UInt64.toNat_ofNat_of_lt' (hlt.trans hlength)]
        omega

/-- A take that was closed is rebuilt where no frame is inferred that was not played. -/
lemma Sealed.rebuilt (h : Sealed length consumed reports) (hlength : length < 2 ^ 64)
    (htold : List.Forall₂ Report.Told reports calls) (framesTotal : UInt64)
    (hinferable : consumed ≠ 0 → Inferable (.ofNat consumed - 1) calls) :
    traversalOfTake framesTotal (.ofNat consumed) (eventsOfCalls calls) = documentOf framesTotal calls := by
  obtain ⟨hbegun,hframes,hevents⟩ := h.told hlength htold
  exact traversalOfTake_eq hbegun hframes hevents fun hsome => hinferable fun hnone => hsome (by rw [hnone]; rfl)

/-- The close of a take splits its reports in one way. -/
lemma finished_split {front back front' back' : List Report} {n n' : ℕ}
    (h : front ++ .finished n :: back = front' ++ .finished n' :: back') (hfront : ∀ m, .finished m ∉ front')
    (hback : ∀ m, .finished m ∉ back') : front = front' ∧ n = n' ∧ back = back' := by
  rcases List.append_eq_append_iff.mp h with ⟨more,hmore,hrest⟩ | ⟨more,hmore,hrest⟩
  · cases more with
    | nil =>
      cases hrest
      exact ⟨(hmore.trans (List.append_nil _)).symm,rfl,rfl⟩
    | cons report more =>
      cases hrest
      exact absurd (hmore ▸ List.mem_append_right _ List.mem_cons_self) (hfront n)
  · cases more with
    | nil =>
      cases hrest
      exact ⟨hmore.trans (List.append_nil _),rfl,rfl⟩
    | cons report more =>
      cases hrest
      exact absurd (List.mem_append_right _ List.mem_cons_self) (hback n)

end Told

section Runs
variable {σ : Type}

/-- The reports of a run that closes its take: those of the take, the close, and the events of the inspection after a
confirmed take. -/
lemma closed_reports {buttons : List UInt16} (step : σ → UInt16 → σ) (init : σ)
    (lastTake inspectable : Bool) (interval budget size : ℕ) {actions : List (LoopAction σ)} {s : SessionLoop σ}
    (hrun : Machine.Steps (SessionLoop.next step buttons)
      (SessionLoop.start init buttons.length lastTake inspectable interval budget size) actions s)
    {front back : List Report} {n : ℕ} (hreports : s.reports = front ++ .finished n :: back) :
    Sealed buttons.length n front ∧ (s.confirmedLinear = true →
      n ≠ 0 ∧ ∀ report ∈ back, ∃ control before after, report = .event control before after) := by
  have h : Heard buttons s :=
    hrun.invariant (fun hs hnext => hs.next hnext) (start_heard init lastTake inspectable interval budget size)
  cases h with
  | closed front' n' done unconfirmed reports taken =>
    obtain ⟨rfl,rfl,rfl⟩ := finished_split (hreports.symm.trans reports) taken.unfinished fun m hin => nomatch hin
    refine ⟨taken,fun hconfirmed => ?_⟩
    cases unconfirmed.symm.trans hconfirmed
  | hearing h =>
    cases h with
    | running unconfirmed tells =>
      have hin : Report.finished n ∈ s.reports := hreports ▸ List.mem_append_right _ List.mem_cons_self
      exact absurd hin (tells.unfinished n)
    | confirmed front' n' back' confirmed reports taken quiet consumed atEnd =>
      have hquiet : ∀ m, Report.finished m ∉ back' := by
        intro m hin
        obtain ⟨control,before,after,hevent⟩ := quiet _ hin
        cases hevent
      obtain ⟨rfl,rfl,rfl⟩ := finished_split (hreports.symm.trans reports) taken.unfinished hquiet
      exact ⟨taken,fun _ => ⟨consumed,quiet⟩⟩

/-- Of an inspection in which no frame is played a segment is inferred, and a recorder that is told of it has none. -/
lemma inspection_segments_ne {length n : ℕ} {front back : List Report} (h : Sealed length n front)
    (hlength : length < 2 ^ 64) (hsome : n ≠ 0)
    (hquiet : ∀ report ∈ back, ∃ control before after, report = Report.event control before after)
    {later : List RecorderCall} (hlater : List.Forall₂ Report.Told back later) (framesTotal : UInt64) :
    (traversalOfTake framesTotal (.ofNat n) (eventsOfCalls later)).segments ≠
      (documentOf framesTotal later).segments := by
  have hnone : ∀ frame, .framePlayed frame ∉ later := by
    intro frame hframe
    obtain ⟨report,hin,htells⟩ := told_mem hlater hframe
    obtain ⟨control,before,after,rfl⟩ := hquiet report hin
    exact htells
  have hconsumed : UInt64.ofNat n ≠ 0 := by
    intro hzero
    have hnat := congrArg UInt64.toNat hzero
    rw [UInt64.toNat_ofNat_of_lt' (lt_of_le_of_lt h.within hlength)] at hnat
    exact hsome hnat
  rw [documentOf_segments hnone]
  exact traversalOfTake_segments framesTotal hconsumed (eventsOfCalls later)

/-- In every run of the inspection loop that closes its take, the traversal that the supervisor rebuilds of the inputs
consumed and of the events is the one of a recorder told of each frame and of each event as they happened, if no frame
is inferred where none was played. Of the inspection after a confirmed take it never is. -/
theorem traversal_rebuilt (step : σ → UInt16 → σ) (buttons : List UInt16) (hlength : buttons.length < 2 ^ 64)
    (init : σ) (lastTake inspectable : Bool) (interval budget size : ℕ) (actions : List (LoopAction σ))
    (s : SessionLoop σ)
    (hrun : Machine.Steps (SessionLoop.next step buttons)
      (SessionLoop.start init buttons.length lastTake inspectable interval budget size) actions s)
    (front back : List Report) (n : ℕ) (hreports : s.reports = front ++ .finished n :: back)
    (take later : List RecorderCall) (htake : List.Forall₂ Report.Told front take)
    (hlater : List.Forall₂ Report.Told back later) :
    ((n ≠ 0 → Inferable (.ofNat n - 1) take) →
      traversalOfTake (.ofNat buttons.length) (.ofNat n) (eventsOfCalls take) =
        documentOf (.ofNat buttons.length) take) ∧
    (s.confirmedLinear = true →
      traversalOfTake (.ofNat buttons.length) (.ofNat n) (eventsOfCalls later) ≠
        documentOf (.ofNat buttons.length) later) := by
  obtain ⟨taken,hclosed⟩ := closed_reports step init lastTake inspectable interval budget size hrun hreports
  refine ⟨taken.rebuilt hlength htake _,fun hconfirmed hsame => ?_⟩
  obtain ⟨hsome,hquiet⟩ := hclosed hconfirmed
  exact inspection_segments_ne taken hlength hsome hquiet hlater _ (congrArg TraversalDocument.segments hsame)

/-- A take of three inputs, the last one, with a checkpoint after every frame. -/
def threeFrames : SessionLoop (List UInt16) := .start [] 3 true true 1 64 8

def playsFrame (frame : UInt64) : LoopAction (List UInt16) := .play { step := .stepped (frame + 1) } (some 8) true

/-- A take that is paused after its first frame, goes on to its end and is inspected then. -/
theorem traversal_rebuilt_paused : ∃ s,
    Machine.Steps (SessionLoop.next record [5,6,7]) threeFrames
      [playsFrame 0,.key .toggle,.key .toggle,playsFrame 1,playsFrame 2,.key .info] s ∧
    traversalOfTake 3 3 [⟨1,"pause",0,0,0,0⟩,⟨2,"resume",0,0,0,0⟩] =
      documentOf 3 [.framePlayed 0,.inspection ⟨1,"pause",0,0,0,0⟩,.inspection ⟨2,"resume",0,0,0,0⟩,.framePlayed 1,
        .framePlayed 2] ∧
    traversalOfTake 3 3 [⟨3,"overlay_toggle",2,2,0,0⟩] ≠ documentOf 3 [.inspection ⟨3,"overlay_toggle",2,2,0,0⟩] := by
  have hrun : Machine.Steps (SessionLoop.next record [5,6,7]) threeFrames
      [playsFrame 0,.key .toggle,.key .toggle,playsFrame 1,playsFrame 2,.key .info] _ :=
    .next rfl (.next rfl (.next rfl (.next rfl (.next rfl (.next rfl (.done _))))))
  have hrebuilt := traversal_rebuilt record [5,6,7] (by decide) [] true true 1 64 8 _ _ hrun
    [.played 0,.event "pause" 0 0,.event "resume" 0 0,.played 1,.played 2] [.event "overlay_toggle" 2 2] 3 rfl
    [.framePlayed 0,.inspection ⟨1,"pause",0,0,0,0⟩,.inspection ⟨2,"resume",0,0,0,0⟩,.framePlayed 1,.framePlayed 2]
    [.inspection ⟨3,"overlay_toggle",2,2,0,0⟩]
    (.cons rfl (.cons ⟨rfl,rfl,rfl⟩ (.cons ⟨rfl,rfl,rfl⟩ (.cons rfl (.cons rfl .nil)))))
    (.cons ⟨rfl,rfl,rfl⟩ .nil)
  have hbetween : min (0 : UInt64) 2 ≤ 0 := by decide
  refine ⟨_,hrun,hrebuilt.1 fun _ => ⟨⟨0,rfl⟩,?_,?_⟩,hrebuilt.2 rfl⟩
  · exact .cons_cons trivial (.cons_cons hbetween (.cons_cons trivial (.cons_cons trivial (.singleton _))))
  · rintro call ⟨⟩
    rfl

end Runs
end AytherRuntime.Inspection
