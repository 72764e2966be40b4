import AytherRuntime.Timeline.Played

/-! What is checked of a timeline before the core tells its frame rate: it compiles at the slowest rate and at the
fastest one, and so at every rate between them. -/
namespace AytherRuntime.Timeline
open Lines Replay

def timelinePreflightFpsMax : ℚ := 601 / 10
def timelinePreflightFpsMin : ℚ := 49

section Inspection

/-- `timeline_parse_error_code` -/
def TimelineParseError.code : TimelineParseError → String
  | .fileTooLarge => "file_too_large"
  | .unknownKeyword => "unknown_keyword"
  | .unknownButton => "unknown_button"
  | .invalidDuration => "invalid_duration"
  | .missingDuration => "missing_duration"
  | .unexpectedArgument => "unexpected_argument"
  | .invalidStart => "invalid_start"
  | .startNotFirst => "start_not_first"
  | .startRepeated => "start_repeated"
  | .buttonAlreadyDown => "button_already_down"
  | .buttonNotDown => "button_not_down"
  | .tooManySteps => "too_many_steps"
  | .noSteps => "no_steps"

/-- `timeline_compile_error_code` -/
def TimelineCompileError.code : TimelineCompileError → String
  | .invalidFps => "invalid_fps"
  | .durationRoundsToZero => "duration_rounds_to_zero"
  | .tooManyFrames => "too_many_frames"
  | .noFrames => "no_frames"

structure TimelineInspectionIssue where
  code : String
  reason : String
  line : ℕ := 0
  deriving DecidableEq, Repr

/-- The state of a timeline that starts from one has its path and that of its sidecar, where there is one. -/
structure TimelineFacts (Path : Type) where
  timeline : PadTimeline
  steps : ℕ
  start : TimelineStart
  statePath : Option Path := none
  fmSidecar : Option Path := none
  deriving DecidableEq, Repr

/-- The paths of the file system. -/
structure TimelinePaths (Path : Type) where
  resolveTimelineStatePath : Path → List Char → Path
  timelineFmSidecarPath : Path → Path
  isRegularFile : Path → Bool

variable {Path : Type} (paths : TimelinePaths Path)

/-- The facts of a timeline that is accepted. -/
def timelineFacts (timeline : PadTimeline) (file : Path) : TimelineFacts Path :=
  let facts : TimelineFacts Path := { timeline, steps := timeline.steps.length, start := timeline.start }
  match timeline.start with
  | .powerOn => facts
  | .state written =>
    let statePath := paths.resolveTimelineStatePath file written
    let sidecar := paths.timelineFmSidecarPath statePath
    { facts with statePath, fmSidecar := if paths.isRegularFile sidecar then some sidecar else none }

/-- `inspect_timeline` -/
def inspectTimeline (text : List Char) (file : Path) : Except TimelineInspectionIssue (TimelineFacts Path) :=
  match parsePadTimeline text with
  | .error (error,line) => .error ⟨"timeline_syntax_invalid",error.code,line⟩
  | .ok timeline =>
    match compilePadTimeline timeline timelinePreflightFpsMin with
    | .error (.durationRoundsToZero,line) =>
      .error ⟨"timeline_syntax_invalid",TimelineCompileError.durationRoundsToZero.code,line⟩
    | .error (.noFrames,_) => .error ⟨"timeline_empty","no_frames",0⟩
    | _ =>
      match compilePadTimeline timeline timelinePreflightFpsMax with
      | .error (.tooManyFrames,line) => .error ⟨"timeline_too_long","too_many_frames",line⟩
      | .error (error,line) => .error ⟨"timeline_syntax_invalid",error.code,line⟩
      | .ok _ => .ok (timelineFacts paths timeline file)

end Inspection

section Durations
variable {state next : ParseState}

/-- No step has a duration below zero. -/
def Timed (steps : List TimelineStep) : Prop :=
  ∀ step ∈ steps, ∀ duration, step.duration = some duration → 0 ≤ duration.seconds

lemma Timed.snoc {steps : List TimelineStep} {step : TimelineStep} (h : Timed steps)
    (hstep : ∀ duration, step.duration = some duration → 0 ≤ duration.seconds) : Timed (steps ++ [step]) :=
  List.forall_mem_append.mpr ⟨h,List.forall_mem_singleton.mpr hstep⟩

lemma parseSeconds_seconds {number : List Char} {scale : ℚ} {duration : TimelineDuration}
    (h : parseSeconds number scale = some duration) : 0 ≤ duration.seconds := by
  unfold parseSeconds at h
  cases hseconds : fromCharsDecimal number with
  | none =>
    rw [hseconds] at h
    exact nomatch h
  | some seconds =>
    rw [hseconds] at h
    dsimp only at h
    split_ifs at h with hbounds
    cases h
    exact (not_le.mp (not_or.mp hbounds).1).le

lemma parseDuration_seconds {text : List Char} {duration : TimelineDuration}
    (h : parseDuration text = some duration) : 0 ≤ duration.seconds := by
  unfold parseDuration at h
  dsimp only at h
  split_ifs at h
  · exact parseSeconds_seconds h
  · exact parseSeconds_seconds h
  · unfold parseFrames at h
    split at h
    · exact nomatch h
    · split_ifs at h
      cases h
      exact le_refl 0

lemma parseStart_timed {arguments : List Char} (h : state.parseStart arguments = .ok next)
    (htimed : Timed state.timeline.steps) : Timed next.timeline.steps := by
  unfold ParseState.parseStart at h
  dsimp only at h
  split_ifs at h
  all_goals
    cases h
    exact htimed

lemma parseWait_timed {arguments : List Char} (h : state.parseWait arguments = .ok next)
    (htimed : Timed state.timeline.steps) : Timed next.timeline.steps := by
  unfold ParseState.parseWait at h
  dsimp only at h
  split_ifs at h
  cases hduration : parseDuration (splitToken arguments).1 with
  | none =>
    rw [hduration] at h
    cases h
  | some duration =>
    rw [hduration] at h
    cases h
    exact htimed.snoc fun _ hsome => Option.some.inj hsome ▸ parseDuration_seconds hduration

lemma parsePress_timed {hold : Bool} {buttons : UInt16} {text : List Char}
    (h : state.parsePress hold buttons text = .ok next) (htimed : Timed state.timeline.steps) :
    Timed next.timeline.steps := by
  unfold ParseState.parsePress at h
  split_ifs at h
  · cases h
    exact htimed.snoc fun _ hsome => Option.some.inj hsome ▸ le_refl (0 : ℚ)
  · cases hduration : parseDuration text with
    | none =>
      rw [hduration] at h
      cases h
    | some duration =>
      rw [hduration] at h
      cases h
      exact htimed.snoc fun _ hsome => Option.some.inj hsome ▸ parseDuration_seconds hduration

lemma parseButtons_timed {keyword arguments : List Char} (h : state.parseButtons keyword arguments = .ok next)
    (htimed : Timed state.timeline.steps) : Timed next.timeline.steps := by
  unfold ParseState.parseButtons at h
  dsimp only at h
  cases hbuttons : parseTimelineButtons (splitToken arguments).1 with
  | none =>
    rw [hbuttons] at h
    split_ifs at h
  | some buttons =>
    rw [hbuttons] at h
    split_ifs at h
    · exact parsePress_timed h htimed
    · dsimp only at h
      unfold ParseState.parseDown at h
      split_ifs at h
      cases h
      exact htimed.snoc nofun
    · dsimp only at h
      unfold ParseState.parseUp at h
      split_ifs at h
      cases h
      exact htimed.snoc nofun

lemma parseLine_timed {raw : List Char} (h : state.parseLine raw = .ok next) (htimed : Timed state.timeline.steps) :
    Timed next.timeline.steps := by
  unfold ParseState.parseLine at h
  have hcontent := ok_of_mapError h
  unfold ParseState.parseContent at hcontent
  dsimp only at hcontent
  split_ifs at hcontent
  · cases hcontent
    exact htimed
  · exact parseStart_timed hcontent htimed
  · exact parseWait_timed hcontent htimed
  · exact parseButtons_timed hcontent htimed

lemma parseLines_timed {lines : List (List Char)} (h : parseLines state lines = .ok next)
    (htimed : Timed state.timeline.steps) : Timed next.timeline.steps := by
  induction lines generalizing state with
  | nil =>
    cases h
    exact htimed
  | cons line lines ih =>
    unfold parseLines at h
    rw [List.foldlM_cons] at h
    cases hline : state.parseLine line with
    | error error =>
      rw [hline] at h
      cases h
    | ok middle =>
      rw [hline] at h
      exact ih h (parseLine_timed hline htimed)

/-- The steps of a text have no durations below zero. -/
lemma parsePadTimeline_timed {text : List Char} {timeline : PadTimeline} (h : parsePadTimeline text = .ok timeline) :
    Timed timeline.steps := by
  obtain ⟨state,hlines,rfl⟩ := parsePadTimeline_ok h
  exact parseLines_timed hlines (List.forall_mem_nil _)

end Durations

section Rates
variable {slow fast fps : ℚ} {step : TimelineStep} {steps : List TimelineStep} {state next : CompileState} {index : ℕ}

lemma llround_of_nonneg {x : ℚ} (h : 0 ≤ x) : llround x = ⌊x + 1 / 2⌋ := if_neg (not_lt.mpr h)

lemma TimelineDuration.framesAt_mono {duration : TimelineDuration} (hseconds : 0 ≤ duration.seconds) (hslow : 0 ≤ slow)
    (hle : slow ≤ fast) : duration.framesAt slow ≤ duration.framesAt fast := by
  unfold TimelineDuration.framesAt
  cases duration.unit with
  | frames => exact le_refl _
  | seconds =>
    have hproduct : duration.seconds * slow ≤ duration.seconds * fast := mul_le_mul_of_nonneg_left hle hseconds
    have hround : llround (duration.seconds * slow) ≤ llround (duration.seconds * fast) := by
      rw [llround_of_nonneg (mul_nonneg hseconds hslow),llround_of_nonneg (mul_nonneg hseconds (hslow.trans hle))]
      exact Int.floor_mono (by linarith)
    dsimp only
    split_ifs <;> omega

lemma TimelineStep.framesAt_mono (hseconds : ∀ duration, step.duration = some duration → 0 ≤ duration.seconds)
    (hslow : 0 ≤ slow) (hle : slow ≤ fast) : step.framesAt slow ≤ step.framesAt fast := by
  unfold TimelineStep.framesAt
  cases hduration : step.duration with
  | none => exact TimelineDuration.framesAt_mono (le_refl _) hslow hle
  | some duration => exact TimelineDuration.framesAt_mono (hseconds duration hduration) hslow hle

/-- The frames of all steps that take time. -/
def totalFrames (fps : ℚ) (steps : List TimelineStep) : ℕ :=
  ((steps.filter TimelineStep.takesTime).map fun step => step.framesAt fps).sum

lemma totalFrames_cons (fps : ℚ) (step : TimelineStep) (steps : List TimelineStep) :
    totalFrames fps (step :: steps) = (if step.takesTime then step.framesAt fps else 0) + totalFrames fps steps := by
  unfold totalFrames
  cases htime : step.takesTime <;> simp [htime]

lemma totalFrames_mono (htimed : Timed steps) (hslow : 0 ≤ slow) (hle : slow ≤ fast) :
    totalFrames slow steps ≤ totalFrames fast steps := by
  induction steps with
  | nil => exact le_refl _
  | cons step steps ih =>
    obtain ⟨hstep,hsteps⟩ := List.forall_mem_cons.mp htimed
    have hframes := TimelineStep.framesAt_mono hstep hslow hle
    have hrest := ih hsteps
    rw [totalFrames_cons,totalFrames_cons]
    split_ifs <;> omega

/-- No step that takes time rounds to zero frames. -/
def NoneZero (fps : ℚ) (steps : List TimelineStep) : Prop :=
  ∀ step ∈ steps, step.takesTime = true → step.framesAt fps ≠ 0

lemma NoneZero.mono (h : NoneZero slow steps) (htimed : Timed steps) (hslow : 0 ≤ slow) (hle : slow ≤ fast) :
    NoneZero fast steps := by
  intro step hstep htime
  have hpositive := h step hstep htime
  have hframes := TimelineStep.framesAt_mono (htimed step hstep) hslow hle
  omega

/-- What one step does to the number of frames. -/
lemma compileStep_frames (fps : ℚ) (state : CompileState) (index : ℕ) (step : TimelineStep) :
    match compileStep fps state index step with
    | .ok next => (step.takesTime = true → step.framesAt fps ≠ 0) ∧ next.buttons.length =
        state.buttons.length + (if step.takesTime then step.framesAt fps else 0) ∧
        (state.buttons.length ≤ maxRecordingFrames → next.buttons.length ≤ maxRecordingFrames)
    | .error (error,_) => step.takesTime = true ∧ (step.framesAt fps = 0 ∧ error = .durationRoundsToZero ∨
        maxRecordingFrames < state.buttons.length + step.framesAt fps ∧ error = .tooManyFrames) := by
  have hspan : ∀ mask, match state.span fps index step mask with
      | .ok next => step.framesAt fps ≠ 0 ∧ next.buttons.length = state.buttons.length + step.framesAt fps ∧
          next.buttons.length ≤ maxRecordingFrames
      | .error (error,_) => step.framesAt fps = 0 ∧ error = .durationRoundsToZero ∨
          maxRecordingFrames < state.buttons.length + step.framesAt fps ∧ error = .tooManyFrames := by
    intro mask
    unfold CompileState.span
    dsimp only
    by_cases hzero : step.framesAt fps = 0
    · rw [if_pos hzero]
      exact Or.inl ⟨hzero,rfl⟩
    · rw [if_neg hzero]
      by_cases hmany : maxRecordingFrames < state.buttons.length + step.framesAt fps
      · rw [if_pos hmany]
        exact Or.inr ⟨hmany,rfl⟩
      · rw [if_neg hmany]
        dsimp only
        rw [List.length_append,List.length_replicate]
        exact ⟨hzero,rfl,Nat.not_lt.mp hmany⟩
  unfold compileStep TimelineStep.takesTime
  cases hkind : step.kind with
  | down => exact ⟨nofun,rfl,id⟩
  | up => exact ⟨nofun,rfl,id⟩
  | wait =>
    have hwait := hspan state.held
    dsimp only
    split at hwait
    · exact ⟨fun _ => hwait.1,hwait.2.1,fun _ => hwait.2.2⟩
    · exact ⟨rfl,hwait⟩
  | press =>
    have hpress := hspan (state.held ||| step.buttons)
    dsimp only
    split at hpress
    · exact ⟨fun _ => hpress.1,hpress.2.1,fun _ => hpress.2.2⟩
    · exact ⟨rfl,hpress⟩

variable (fps index steps) in
/-- The steps compile exactly when none of them rounds to zero frames and all of them are not too many. -/
lemma compileSteps_frames (hroom : state.buttons.length ≤ maxRecordingFrames) :
    match compileSteps fps state index steps with
    | .ok next => NoneZero fps steps ∧ next.buttons.length = state.buttons.length + totalFrames fps steps ∧
        next.buttons.length ≤ maxRecordingFrames
    | .error (error,_) => error = .durationRoundsToZero ∧ ¬NoneZero fps steps ∨
        error = .tooManyFrames ∧ maxRecordingFrames < state.buttons.length + totalFrames fps steps := by
  induction steps generalizing state index with
  | nil => exact ⟨List.forall_mem_nil _,rfl,hroom⟩
  | cons step steps ih =>
    have hstep := compileStep_frames fps state index step
    unfold compileSteps
    rw [totalFrames_cons]
    cases hnext : compileStep fps state index step with
    | error failure =>
      obtain ⟨error,line⟩ := failure
      rw [hnext] at hstep
      obtain ⟨htime,⟨hzero,rfl⟩ | ⟨hmany,rfl⟩⟩ := hstep
      · exact Or.inl ⟨rfl,fun hnone => hnone step List.mem_cons_self htime hzero⟩
      · refine Or.inr ⟨rfl,?_⟩
        rw [if_pos htime]
        omega
    | ok next =>
      rw [hnext] at hstep
      obtain ⟨hzero,hlength,hbound⟩ := hstep
      have hsteps := ih (index + 1) (hbound hroom)
      dsimp only
      cases hlast : compileSteps fps next (index + 1) steps with
      | error failure =>
        obtain ⟨error,line⟩ := failure
        rw [hlast] at hsteps
        dsimp only at hsteps ⊢
        rw [hlength,Nat.add_assoc] at hsteps
        exact Or.imp_left (And.imp_right fun hnone hall => hnone (List.forall_mem_cons.mp hall).2) hsteps
      | ok last =>
        rw [hlast] at hsteps
        obtain ⟨hnone,htotal,hmax⟩ := hsteps
        exact ⟨List.forall_mem_cons.mpr ⟨hzero,hnone⟩,by rw [htotal,hlength,Nat.add_assoc],hmax⟩

/-- A timeline compiles at a rate. -/
def Fits (fps : ℚ) (timeline : PadTimeline) : Prop :=
  NoneZero fps timeline.steps ∧ minRecordingFrames ≤ totalFrames fps timeline.steps ∧
    totalFrames fps timeline.steps ≤ maxRecordingFrames

lemma compilePadTimeline_frames (timeline : PadTimeline) (hpositive : 0 < fps) (hbound : fps ≤ 1000) :
    match compilePadTimeline timeline fps with
    | .ok compiled => Fits fps timeline ∧ compiled.frames = totalFrames fps timeline.steps
    | .error (error,_) => error = .durationRoundsToZero ∧ ¬NoneZero fps timeline.steps ∨
        error = .tooManyFrames ∧ maxRecordingFrames < totalFrames fps timeline.steps ∨
        error = .noFrames ∧ totalFrames fps timeline.steps < minRecordingFrames := by
  have hsteps := compileSteps_frames fps timeline.steps 0
    (show ({} : CompileState).buttons.length ≤ maxRecordingFrames from Nat.zero_le _)
  unfold compilePadTimeline
  rw [if_neg (not_or.mpr ⟨not_le.mpr hpositive,not_lt.mpr hbound⟩)]
  cases hresult : compileSteps fps {} 0 timeline.steps with
  | error failure =>
    obtain ⟨error,line⟩ := failure
    rw [hresult] at hsteps
    dsimp only at hsteps ⊢
    rw [List.length_nil,Nat.zero_add] at hsteps
    exact Or.imp_right Or.inl hsteps
  | ok state =>
    rw [hresult] at hsteps
    dsimp only at hsteps ⊢
    rw [List.length_nil,Nat.zero_add] at hsteps
    obtain ⟨hnone,htotal,hmax⟩ := hsteps
    by_cases hfew : state.buttons.length < minRecordingFrames
    · rw [if_pos hfew]
      exact Or.inr (Or.inr ⟨rfl,htotal ▸ hfew⟩)
    · rw [if_neg hfew]
      exact ⟨⟨hnone,htotal ▸ Nat.not_lt.mp hfew,htotal ▸ hmax⟩,htotal⟩

lemma Fits.compiles {timeline : PadTimeline} (h : Fits fps timeline) (hpositive : 0 < fps) (hbound : fps ≤ 1000) :
    ∃ compiled, compilePadTimeline timeline fps = .ok compiled ∧ compiled.frames = totalFrames fps timeline.steps := by
  have hframes := compilePadTimeline_frames timeline hpositive hbound
  cases hresult : compilePadTimeline timeline fps with
  | ok compiled =>
    rw [hresult] at hframes
    exact ⟨compiled,rfl,hframes.2⟩
  | error failure =>
    obtain ⟨error,line⟩ := failure
    obtain ⟨hnone,hfew,hmany⟩ := h
    rw [hresult] at hframes
    obtain ⟨_,hzero⟩ | ⟨_,htoo⟩ | ⟨_,hno⟩ := hframes
    · exact absurd hnone hzero
    · omega
    · omega

lemma compilePadTimeline_fits {timeline : PadTimeline} {compiled : CompiledTimeline} (hpositive : 0 < fps)
    (hbound : fps ≤ 1000) (h : compilePadTimeline timeline fps = .ok compiled) : Fits fps timeline := by
  have hframes := compilePadTimeline_frames timeline hpositive hbound
  rw [h] at hframes
  exact hframes.1

lemma preflight_rates : (0 : ℚ) < timelinePreflightFpsMin ∧ timelinePreflightFpsMin ≤ timelinePreflightFpsMax ∧
    timelinePreflightFpsMax ≤ 1000 := by
  unfold timelinePreflightFpsMin timelinePreflightFpsMax
  norm_num

/-- A timeline that is accepted fits at the fastest rate, and at the slowest one none of its steps rounds to zero: one
that stops there at too many frames does so at the fastest rate as well. -/
lemma inspectTimeline_fits {Path : Type} {paths : TimelinePaths Path} {text : List Char} {file : Path}
    {facts : TimelineFacts Path} (h : inspectTimeline paths text file = .ok facts) :
    ∃ timeline, parsePadTimeline text = .ok timeline ∧ facts = timelineFacts paths timeline file ∧
      Timed timeline.steps ∧ Fits timelinePreflightFpsMin timeline ∧ Fits timelinePreflightFpsMax timeline := by
  obtain ⟨hpositive,hrates,hbound⟩ := preflight_rates
  unfold inspectTimeline at h
  cases hparse : parsePadTimeline text with
  | error failure =>
    rw [hparse] at h
    exact nomatch h
  | ok timeline =>
    rw [hparse] at h
    dsimp only at h
    have htimed := parsePadTimeline_timed hparse
    have hfast : Fits timelinePreflightFpsMax timeline ∧ facts = timelineFacts paths timeline file := by
      split at h
      · exact nomatch h
      · exact nomatch h
      · split at h
        · exact nomatch h
        · exact nomatch h
        · rename_i compiled hcompiled
          exact ⟨compilePadTimeline_fits (hpositive.trans_le hrates) hbound hcompiled,(Except.ok.inj h).symm⟩
    refine ⟨timeline,rfl,hfast.2,htimed,?_,hfast.1⟩
    have hframes := compilePadTimeline_frames timeline hpositive (hrates.trans hbound)
    cases hslow : compilePadTimeline timeline timelinePreflightFpsMin with
    | ok compiled =>
      rw [hslow] at hframes
      exact hframes.1
    | error failure =>
      obtain ⟨error,line⟩ := failure
      rw [hslow] at hframes h
      obtain ⟨rfl,_⟩ | ⟨rfl,hmany⟩ | ⟨rfl,_⟩ := hframes
      · exact nomatch h
      · have htotal := totalFrames_mono htimed hpositive.le hrates
        have hfits := hfast.1.2.2
        omega
      · exact nomatch h

/-- A timeline that is accepted compiles at every rate between the two, with a frame at least and not too many. -/
theorem inspectTimeline_compiles {Path : Type} (paths : TimelinePaths Path) {text : List Char} {file : Path}
    {facts : TimelineFacts Path} (h : inspectTimeline paths text file = .ok facts) {fps : ℚ}
    (hmin : timelinePreflightFpsMin ≤ fps) (hmax : fps ≤ timelinePreflightFpsMax) :
    parsePadTimeline text = .ok facts.timeline ∧
      (∀ step ∈ facts.timeline.steps, step.takesTime = true → step.framesAt fps ≠ 0) ∧
      ∃ compiled, compilePadTimeline facts.timeline fps = .ok compiled ∧
        compiled.frames = totalFrames fps facts.timeline.steps ∧ 1 ≤ compiled.frames ∧
        compiled.frames ≤ maxRecordingFrames := by
  obtain ⟨timeline,hparse,rfl,htimed,hslow,hfast⟩ := inspectTimeline_fits h
  obtain ⟨hpositive,_,hbound⟩ := preflight_rates
  have htimeline : (timelineFacts paths timeline file).timeline = timeline := by
    unfold timelineFacts
    cases timeline.start <;> rfl
  have hnone := hslow.1.mono htimed hpositive.le hmin
  have hleast := hslow.2.1.trans (totalFrames_mono htimed hpositive.le hmin)
  have hmost := (totalFrames_mono htimed (hpositive.le.trans hmin) hmax).trans hfast.2.2
  have hfits : Fits fps timeline := ⟨hnone,hleast,hmost⟩
  obtain ⟨compiled,hcompiled,hframes⟩ := hfits.compiles (hpositive.trans_le hmin) (hmax.trans hbound)
  rw [htimeline]
  exact ⟨hparse,hnone,compiled,hcompiled,hframes,hframes ▸ hleast,hframes ▸ hmost⟩

theorem inspectTimeline_compiles_tap :
    ∃ compiled, compilePadTimeline ⟨.powerOn,[⟨.press,2,some ⟨.seconds,1 / 50,0⟩,1⟩]⟩ 50 = .ok compiled ∧
      compiled.frames = 1 := by
  have haccepted : inspectTimeline ⟨fun file _ => file,id,fun _ => false⟩ "press a 20ms".toList "take.pad" =
      .ok ⟨⟨.powerOn,[⟨.press,2,some ⟨.seconds,1 / 50,0⟩,1⟩]⟩,1,.powerOn,none,none⟩ := by decide +kernel
  obtain ⟨_,_,compiled,hcompiled,hframes,_⟩ := inspectTimeline_compiles _ haccepted
    (show timelinePreflightFpsMin ≤ 50 by unfold timelinePreflightFpsMin; norm_num)
    (by unfold timelinePreflightFpsMax; norm_num)
  exact ⟨compiled,hcompiled,hframes.trans (by decide +kernel)⟩

end Rates
end AytherRuntime.Timeline
