import AytherRuntime.Library.Limiter

/-! The aggregators of music warnings and of audio diagnostics: a condition that persists is let out once in a period,
with the number of its occurrences since then. -/
namespace AytherRuntime.Diagnostic
open Limiter

section Music

inductive MusicWarningCode
  | analysisObsolete | gamePauseUnobservable | analysisLimit | incompatiblePack | restoreFailedRolledBack
  deriving DecidableEq, Repr

/-- `music_warning_code` -/
def musicWarningCode : MusicWarningCode → String
  | .analysisObsolete => "analysis_obsolete"
  | .gamePauseUnobservable => "game_pause_unobservable"
  | .analysisLimit => "analysis_limit"
  | .incompatiblePack => "incompatible_pack"
  | .restoreFailedRolledBack => "restore_failed_rolled_back"

structure MusicWarning where
  code : MusicWarningCode := .analysisLimit
  logicalIdentity : String := ""
  detail : String := ""
  monotonicNs : ℕ := 0
  deriving DecidableEq, Repr

structure MusicWarningAggregate where
  warning : MusicWarning
  count : ℕ := 0
  firstNs : ℕ := 0
  lastNs : ℕ := 0
  detail : String := ""
  deriving DecidableEq, Repr

/-- What is kept of a condition. -/
structure MusicWarningState where
  last : MusicWarning
  lastEmitNs : ℕ := 0
  pending : ℕ := 0
  pendingFirstNs : ℕ := 0
  pendingLastNs : ℕ := 0
  deriving DecidableEq, Repr

structure MusicWarningAggregator where
  states : AList fun _ : String => MusicWarningState := ∅
  fullTrace : List MusicWarning := []

/-- `key`: the condition of a warning. -/
def MusicWarning.key (warning : MusicWarning) : String :=
  musicWarningCode warning.code ++ "\x00" ++ warning.logicalIdentity ++ "\x00" ++ warning.detail

/-- `pending_aggregate` -/
def MusicWarningState.pendingAggregate (state : MusicWarningState) : MusicWarningAggregate :=
  ⟨state.last,state.pending,state.pendingFirstNs,state.pendingLastNs,state.last.detail⟩

namespace MusicWarningAggregator
variable (minimumPeriodNs : ℕ) (aggregator : MusicWarningAggregator)

/-- The condition begins with a warning, which is let out. -/
def begin (warning : MusicWarning) : MusicWarningAggregator × List MusicWarningAggregate :=
  ({ states := aggregator.states.insert warning.key ⟨warning,warning.monotonicNs,0,0,0⟩
     fullTrace := aggregator.fullTrace ++ [warning] },
    [⟨warning,1,warning.monotonicNs,warning.monotonicNs,warning.detail⟩])

/-- `push`, with the aggregate that it lets out if there is one. -/
def push (warning : MusicWarning) : MusicWarningAggregator × List MusicWarningAggregate :=
  match aggregator.states.lookup warning.key with
  | none => aggregator.begin warning
  | some state =>
    if warning.monotonicNs < state.lastEmitNs then aggregator.begin warning
    else
      let state : MusicWarningState :=
        { state with
          pendingFirstNs := if state.pending = 0 then warning.monotonicNs else state.pendingFirstNs
          pending := state.pending + 1
          pendingLastNs := warning.monotonicNs
          last := warning }
      let fullTrace := aggregator.fullTrace ++ [warning]
      if warning.monotonicNs - state.lastEmitNs < minimumPeriodNs then
        ({ states := aggregator.states.insert warning.key state, fullTrace },[])
      else
        ({ states := aggregator.states.insert warning.key { state with pending := 0, lastEmitNs := warning.monotonicNs }
           fullTrace },[state.pendingAggregate])

/-- `close` -/
def close : MusicWarningAggregator × List MusicWarningAggregate :=
  ({ aggregator with states := mapStates (fun state => { state with pending := 0 }) aggregator.states },
    closed MusicWarningState.pending MusicWarningState.pendingAggregate aggregator.states)

/-- The aggregator after some warnings, and what it let out. -/
def run (warnings : List MusicWarning) : MusicWarningAggregator := Machine.final (push minimumPeriodNs) {} warnings

def emitted (warnings : List MusicWarning) : List MusicWarningAggregate :=
  Machine.emitted (push minimumPeriodNs) {} warnings

def view (state : MusicWarningState) : Slot := ⟨state.lastEmitNs,state.pending⟩

/-- What a push does: the state of its condition is as after an occurrence, and a warning that is let out is the pushed
one. -/
lemma push_states (warning : MusicWarning) : ∃ state : MusicWarningState, state.last = warning ∧
    (aggregator.push minimumPeriodNs warning).1.states = aggregator.states.insert warning.key state ∧
    view state = (strike minimumPeriodNs warning.monotonicNs (slotIn view aggregator.states warning.key)).1 ∧
    (aggregator.push minimumPeriodNs warning).2.map MusicWarningAggregate.count =
      (strike minimumPeriodNs warning.monotonicNs (slotIn view aggregator.states warning.key)).2.toList ∧
    ∀ aggregate ∈ (aggregator.push minimumPeriodNs warning).2, aggregate.warning = warning := by
  unfold push slotIn
  cases hlookup : aggregator.states.lookup warning.key with
  | none => exact ⟨_,rfl,rfl,rfl,rfl,List.forall_mem_singleton.mpr rfl⟩
  | some state =>
    unfold strike view
    dsimp only [Option.map_some]
    by_cases hback : warning.monotonicNs < state.lastEmitNs
    · rw [if_pos hback,if_pos hback]
      exact ⟨_,rfl,rfl,rfl,rfl,List.forall_mem_singleton.mpr rfl⟩
    · rw [if_neg hback,if_neg hback]
      by_cases hsoon : warning.monotonicNs - state.lastEmitNs < minimumPeriodNs
      · rw [if_pos hsoon,if_pos hsoon]
        exact ⟨_,rfl,rfl,rfl,rfl,List.forall_mem_nil _⟩
      · rw [if_neg hsoon,if_neg hsoon]
        exact ⟨_,rfl,rfl,rfl,rfl,List.forall_mem_singleton.mpr rfl⟩

lemma keeps : Keeps minimumPeriodNs (fun warning : MusicWarning => some warning.key) MusicWarning.monotonicNs states
    view MusicWarningState.last MusicWarningAggregate.count MusicWarningAggregate.warning (push minimumPeriodNs) where
  refused := nofun
  taken := by
    intro aggregator warning condition hkey
    obtain rfl := Option.some.inj hkey
    exact push_states minimumPeriodNs aggregator warning

end MusicWarningAggregator
end Music

section Audio

inductive AudioDiagnosticCode
  | unexpectedRestart | windowEnd | invalidFile | outputFailure
  deriving DecidableEq, Repr

/-- `audio_diagnostic_code` -/
def audioDiagnosticCode : AudioDiagnosticCode → String
  | .unexpectedRestart => "audio.unexpected_restart"
  | .windowEnd => "audio.window_end"
  | .invalidFile => "audio.invalid_file"
  | .outputFailure => "audio.output_failure"

structure AudioDiagnostic where
  code : AudioDiagnosticCode := .outputFailure
  logicalIdentity : String := ""
  track : String := ""
  cause : String := ""
  runtimeVersion : String := ""
  engineVersion : String := ""
  monotonicNs : ℕ := 0
  deriving DecidableEq, Repr

/-- `valid_audio_diagnostic` -/
def AudioDiagnostic.valid (value : AudioDiagnostic) : Bool :=
  value.logicalIdentity ≠ "" && value.track ≠ "" && value.cause ≠ "" && value.runtimeVersion ≠ "" &&
    value.engineVersion ≠ ""

/-- `key`: the condition of a diagnostic. -/
def AudioDiagnostic.key (value : AudioDiagnostic) : String :=
  audioDiagnosticCode value.code ++ "\x00" ++ value.logicalIdentity ++ "\x00" ++ value.cause

structure AudioDiagnosticAggregate where
  diagnostic : AudioDiagnostic
  count : ℕ := 0
  periodNs : ℕ := 0
  deriving DecidableEq, Repr

/-- What is kept of a condition. -/
structure AudioDiagnosticState where
  last : AudioDiagnostic
  lastEmitNs : ℕ := 0
  pending : ℕ := 0
  deriving DecidableEq, Repr

structure AudioDiagnosticAggregator where
  states : AList fun _ : String => AudioDiagnosticState := ∅

namespace AudioDiagnosticAggregator
variable (minimumPeriodNs : ℕ) (aggregator : AudioDiagnosticAggregator)

/-- The state of a condition after a diagnostic, and what is let out. -/
def keep (aggregator : AudioDiagnosticAggregator) (state : AudioDiagnosticState) (out : List AudioDiagnosticAggregate) :
    AudioDiagnosticAggregator × List AudioDiagnosticAggregate :=
  ({ states := aggregator.states.insert state.last.key state },out)

/-- `push`, with the aggregate that it lets out if there is one. -/
def push (value : AudioDiagnostic) : AudioDiagnosticAggregator × List AudioDiagnosticAggregate :=
  if !value.valid then (aggregator,[])
  else
    match aggregator.states.lookup value.key with
    | none => aggregator.keep ⟨value,value.monotonicNs,0⟩ [⟨value,1,0⟩]
    | some state =>
      if value.monotonicNs < state.lastEmitNs then aggregator.keep ⟨value,value.monotonicNs,0⟩ [⟨value,1,0⟩]
      else
        let elapsed := value.monotonicNs - state.lastEmitNs
        if elapsed < minimumPeriodNs then aggregator.keep ⟨value,state.lastEmitNs,state.pending + 1⟩ []
        else aggregator.keep ⟨value,value.monotonicNs,0⟩ [⟨value,state.pending + 1,elapsed⟩]

/-- The aggregate of a state at the end. -/
def closing (monotonicNs : ℕ) (state : AudioDiagnosticState) : AudioDiagnosticAggregate :=
  ⟨state.last,state.pending,if state.lastEmitNs ≤ monotonicNs then monotonicNs - state.lastEmitNs else 0⟩

/-- `close` -/
def close (monotonicNs : ℕ) : AudioDiagnosticAggregator × List AudioDiagnosticAggregate :=
  ({ states := mapStates (fun state => if state.pending = 0 then state else ⟨state.last,monotonicNs,0⟩)
      aggregator.states },
    closed AudioDiagnosticState.pending (closing monotonicNs) aggregator.states)

/-- The aggregator after some diagnostics, and what it let out. -/
def run (values : List AudioDiagnostic) : AudioDiagnosticAggregator := Machine.final (push minimumPeriodNs) {} values

def emitted (values : List AudioDiagnostic) : List AudioDiagnosticAggregate :=
  Machine.emitted (push minimumPeriodNs) {} values

def view (state : AudioDiagnosticState) : Slot := ⟨state.lastEmitNs,state.pending⟩

/-- The condition of a diagnostic that is counted. -/
def condition (value : AudioDiagnostic) : Option String := if value.valid then some value.key else none

lemma push_states {value : AudioDiagnostic} (hvalid : value.valid = true) : ∃ state : AudioDiagnosticState,
    state.last = value ∧ (aggregator.push minimumPeriodNs value).1.states = aggregator.states.insert value.key state ∧
    view state = (strike minimumPeriodNs value.monotonicNs (slotIn view aggregator.states value.key)).1 ∧
    (aggregator.push minimumPeriodNs value).2.map AudioDiagnosticAggregate.count =
      (strike minimumPeriodNs value.monotonicNs (slotIn view aggregator.states value.key)).2.toList ∧
    ∀ aggregate ∈ (aggregator.push minimumPeriodNs value).2, aggregate.diagnostic = value := by
  unfold push slotIn
  rw [hvalid,if_neg (by decide)]
  cases hlookup : aggregator.states.lookup value.key with
  | none => exact ⟨_,rfl,rfl,rfl,rfl,List.forall_mem_singleton.mpr rfl⟩
  | some state =>
    unfold strike view
    dsimp only [Option.map_some]
    by_cases hback : value.monotonicNs < state.lastEmitNs
    · rw [if_pos hback,if_pos hback]
      exact ⟨_,rfl,rfl,rfl,rfl,List.forall_mem_singleton.mpr rfl⟩
    · rw [if_neg hback,if_neg hback]
      by_cases hsoon : value.monotonicNs - state.lastEmitNs < minimumPeriodNs
      · rw [if_pos hsoon,if_pos hsoon]
        exact ⟨_,rfl,rfl,rfl,rfl,List.forall_mem_nil _⟩
      · rw [if_neg hsoon,if_neg hsoon]
        exact ⟨_,rfl,rfl,rfl,rfl,List.forall_mem_singleton.mpr rfl⟩

lemma keeps : Keeps minimumPeriodNs condition AudioDiagnostic.monotonicNs states view AudioDiagnosticState.last
    AudioDiagnosticAggregate.count AudioDiagnosticAggregate.diagnostic (push minimumPeriodNs) where
  refused := by
    intro aggregator value hnone
    unfold condition at hnone
    unfold push
    split_ifs at hnone with hvalid
    rw [Bool.not_eq_true] at hvalid
    rw [hvalid]
    rfl
  taken := by
    intro aggregator value name hkey
    unfold condition at hkey
    split_ifs at hkey with hvalid
    obtain rfl := Option.some.inj hkey
    exact push_states minimumPeriodNs aggregator hvalid

end AudioDiagnosticAggregator
end Audio

section Counts
variable (minimumPeriodNs : ℕ) (condition : String)

/-- A condition of music warnings is counted. -/
def MusicWarningsCounted (warnings : List MusicWarning) : Prop :=
  Counted minimumPeriodNs (fun warning => some warning.key) MusicWarning.monotonicNs MusicWarningAggregate.count
    MusicWarningAggregate.warning condition warnings (MusicWarningAggregator.emitted minimumPeriodNs warnings)
    (MusicWarningAggregator.run minimumPeriodNs warnings).close.2

/-- A condition of audio diagnostics is counted, its valid ones, when the aggregator is closed at a time. -/
def AudioDiagnosticsCounted (values : List AudioDiagnostic) (monotonicNs : ℕ) : Prop :=
  Counted minimumPeriodNs AudioDiagnosticAggregator.condition AudioDiagnostic.monotonicNs AudioDiagnosticAggregate.count
    AudioDiagnosticAggregate.diagnostic condition values (AudioDiagnosticAggregator.emitted minimumPeriodNs values)
    ((AudioDiagnosticAggregator.run minimumPeriodNs values).close monotonicNs).2

/-- The aggregators count a condition exactly when none of its occurrences comes with a clock before the last emission
while others wait: such a one starts the condition anew, and those that wait are not let out. -/
theorem aggregators_count_iff :
    (∀ warnings : List MusicWarning, MusicWarningsCounted minimumPeriodNs condition warnings ↔
      ¬∃ before warning later state, warnings = before ++ warning :: later ∧ warning.key = condition ∧
        (MusicWarningAggregator.run minimumPeriodNs before).states.lookup condition = some state ∧
        warning.monotonicNs < state.lastEmitNs ∧ state.pending ≠ 0) ∧
    ∀ (values : List AudioDiagnostic) (monotonicNs : ℕ),
      AudioDiagnosticsCounted minimumPeriodNs condition values monotonicNs ↔
        ¬∃ before value later state, values = before ++ value :: later ∧
          AudioDiagnosticAggregator.condition value = some condition ∧
          (AudioDiagnosticAggregator.run minimumPeriodNs before).states.lookup condition = some state ∧
          value.monotonicNs < state.lastEmitNs ∧ state.pending ≠ 0 := by
  constructor
  · intro warnings
    have hcounted := (MusicWarningAggregator.keeps minimumPeriodNs).counted_iff {}
      MusicWarningState.pendingAggregate rfl (fun _ => rfl) (fun _ => rfl) warnings condition
    simp only [Overtakes,Option.some.injEq] at hcounted
    exact hcounted
  · intro values monotonicNs
    exact (AudioDiagnosticAggregator.keeps minimumPeriodNs).counted_iff {}
      (AudioDiagnosticAggregator.closing monotonicNs) rfl (fun _ => rfl) (fun _ => rfl) values condition

/-- A warning waits when the clock goes back, and no aggregate counts it. -/
theorem aggregators_forget : ¬∀ minimumPeriodNs condition warnings,
    MusicWarningsCounted minimumPeriodNs condition warnings := by
  intro h
  refine absurd (h 10 "analysis_limit\x00\x00" [{ monotonicNs := 100 },{ monotonicNs := 105 },
    { monotonicNs := 50 }]).1 ?_
  decide +kernel

end Counts
end AytherRuntime.Diagnostic
