import AytherRuntime.Check.Runner
import AytherRuntime.Library.Machine

/-! A take from its first message to its record: the messages that the supervisor receives, what it concludes
of them, and the token that it reads once the execution has returned. A cancellation can come anywhere. -/
namespace AytherRuntime.Check
open Machine

section Stream

def maxTraversalVisits : ℕ := 100000

/-- `exceeds_visit_limit`, over the controls of the inspection events. -/
def exceedsVisitLimit (controls : List String) : Bool :=
  maxTraversalVisits < (controls.filter fun control => control ≠ "interrupted").length

inductive SessionStatus
  | state
  | runOpened (runId : String) (writable : Bool)
  deriving DecidableEq

/-- A message of the channel as its decoder reads it, with the controls of the inspection events of a batch
and with the publication of the files of a terminal. -/
inductive ChannelMessage
  | factBatch (controls : Option (List String))
  | audioChunk (decoded : Bool)
  | sessionStatus (status : Option SessionStatus)
  | terminal (result : Option ReplayExecutionResult) (published : Bool)
  | other
  deriving DecidableEq

/-- What the channel gives: nothing more to read, a message whose header or sequence is wrong, or one to read. -/
inductive Received
  | unreadable
  | malformed
  | message (message : ChannelMessage)
  deriving DecidableEq

/-- The loop of messages. Once the Runtime stays paused after its end, it holds the result it confirmed, and
the post-end inspection that is open. -/
structure Stream where
  inspectionControls : List String := []
  ended : Option ReplayExecutionResult := none
  postRun : Option String := none
  postControls : List String := []
  visitLimitExceeded : Bool := false

/-- Where a take stands. -/
inductive TakePhase
  | reading (stream : Stream)
  | closed (replay : ReplayExecutionResult) (visitLimitExceeded : Bool)
  | executed (result : Except CheckExecutionError CheckExecutionEvidence)
  | recorded (requested : Bool)

namespace Stream
variable (stream : Stream)

/-- A message before the terminal, and the terminal itself. -/
def receivePlaying (visible : Bool) : Received → TakePhase
  | .message (.factBatch (some controls)) =>
    .reading { stream with inspectionControls := stream.inspectionControls ++ controls }
  | .message (.audioChunk true) => .reading stream
  | .message (.sessionStatus (some .state)) => .reading stream
  | .message (.terminal none _) => .executed (.error .terminalFailed)
  | .message (.terminal (some replay) published) =>
    let visitLimitExceeded := stream.visitLimitExceeded || exceedsVisitLimit stream.inspectionControls
    if !published then .executed (.error .evidenceStreamInvalid)
    else if !replay.endedPaused || !visible then .closed replay visitLimitExceeded
    else .reading { stream with ended := some replay, visitLimitExceeded }
  | _ => .executed (.error .evidenceStreamInvalid)

/-- A message while the Runtime stays paused after its end: only a post-end inspection has any, and the
channel closes with the window. -/
def receiveEnded (replay : ReplayExecutionResult) : Received → TakePhase
  | .unreadable => .closed replay stream.visitLimitExceeded
  | .message (.factBatch (some controls)) =>
    if stream.postRun.isNone then .executed (.error .evidenceStreamInvalid)
    else .reading { stream with postControls := stream.postControls ++ controls }
  | .message (.sessionStatus (some .state)) => .reading stream
  | .message (.sessionStatus (some (.runOpened runId writable))) =>
    if stream.postRun.isSome || !writable then .executed (.error .evidenceStreamInvalid)
    else .reading { stream with postRun := some runId, postControls := [] }
  | .message (.terminal (some closed) published) =>
    if stream.postRun ≠ some closed.runId ∨ closed.traversal ≠ some "post_end_inspection" ∨
        published = false then
      .executed (.error .evidenceStreamInvalid)
    else
      .reading { stream with
        visitLimitExceeded := stream.visitLimitExceeded || exceedsVisitLimit stream.postControls
        postRun := none }
  | _ => .executed (.error .evidenceStreamInvalid)

def receive (visible : Bool) (received : Received) : TakePhase :=
  match stream.ended with
  | none => stream.receivePlaying visible received
  | some replay => stream.receiveEnded replay received

/-- No message records the take. -/
lemma receive_ne_recorded (visible : Bool) (received : Received) (requested : Bool) :
    stream.receive visible received ≠ .recorded requested := by
  unfold receive receivePlaying receiveEnded
  grind

/-- While the Runtime stays paused, every message leaves its result as it was confirmed. -/
lemma receiveEnded_cases {replay : ReplayExecutionResult} (h : stream.ended = some replay) (received : Received) :
    (∃ next, stream.receiveEnded replay received = .reading next ∧ next.ended = some replay) ∨
      (∃ exceeded, stream.receiveEnded replay received = .closed replay exceeded) ∨
        ∃ error, stream.receiveEnded replay received = .executed (.error error) := by
  unfold receiveEnded
  split
  · exact Or.inr (Or.inl ⟨_,rfl⟩)
  · split
    · exact Or.inr (Or.inr ⟨_,rfl⟩)
    · exact Or.inl ⟨_,rfl,h⟩
  · exact Or.inl ⟨_,rfl,h⟩
  · split
    · exact Or.inr (Or.inr ⟨_,rfl⟩)
    · exact Or.inl ⟨_,rfl,h⟩
  · split
    · exact Or.inr (Or.inr ⟨_,rfl⟩)
    · exact Or.inl ⟨_,rfl,h⟩
  · exact Or.inr (Or.inr ⟨_,rfl⟩)

end Stream

/-- What the writer finished with: the summary of what it kept, and its own trace. -/
structure Finished where
  summary : Preserved
  facts : ℕ
  pcmBlocks : ℕ
  causallyConnected : Bool
  lossFree : Bool
  observedFactCount : ℕ
  deriving DecidableEq

/-- The end of the execution: the evidence that was kept, if any, the exit of the process, if it came in
time, and the user data as they are found. -/
structure Conclusion where
  finished : Option Finished
  exitCode : Option Int
  userDataUnchanged : Bool
  deriving DecidableEq

/-- The result with the trace of the writer. -/
def ReplayExecutionResult.traced (replay : ReplayExecutionResult) (finished : Option Finished) :
    ReplayExecutionResult :=
  match finished with
  | some finished => { replay with lossFree := finished.lossFree }
  | none => replay

def evidenceMismatch (replay : ReplayExecutionResult) (finished : Finished) : Bool :=
  (0 < replay.assignmentCount && !finished.causallyConnected) || !finished.lossFree ||
    finished.facts ≠ finished.observedFactCount || finished.pcmBlocks = 0

/-- `execute_check_replay` after its loop. -/
def concludeReplay (runId takeId : String) (replay : ReplayExecutionResult) (visitLimitExceeded : Bool)
    (conclusion : Conclusion) : Except CheckExecutionError CheckExecutionEvidence :=
  match conclusion.exitCode with
  | none => .error .runtimeTimeout
  | some exitCode =>
    if replay.runId ≠ runId ∨ replay.takeId ≠ takeId then .error .resultIdentityMismatch
    else if replay.succeeded ∧ replay.inputsConsumed ≠ replay.recordingFrames then .error .resultInputMismatch
    else if replay.succeeded ∧ conclusion.finished.any (evidenceMismatch replay) then .error .resultEvidenceMismatch
    else if decide (exitCode = 0) ≠ replay.succeeded then .error .resultExitMismatch
    else if conclusion.userDataUnchanged = false then .error .userDataChanged
    else
      .ok { replay := replay.traced conclusion.finished
            preserved := conclusion.finished.map Finished.summary
            visitLimitExceeded }

lemma playbackKind_traced (replay : ReplayExecutionResult) (finished : Option Finished) :
    (replay.traced finished).playbackKind = replay.playbackKind := by
  cases finished <;> rfl

/-- The evidence of an execution holds the result that was received. -/
lemma concludeReplay_replay {runId takeId : String} {replay : ReplayExecutionResult} {exceeded : Bool}
    {conclusion : Conclusion} {evidence : CheckExecutionEvidence}
    (h : concludeReplay runId takeId replay exceeded conclusion = .ok evidence) :
    evidence.replay = replay.traced conclusion.finished := by
  unfold concludeReplay at h
  split at h
  · cases h
  · split_ifs at h
    cases h
    rfl

end Stream

section TakeRun

/-- What the directory of a run holds when its take is decided. -/
structure KeptFiles where
  positions : Bool := true
  controls : Bool := true
  result : Bool := true

inductive TakeEvent
  | receive (received : Received)
  | conclude (conclusion : Conclusion)
  | decide (kept : KeptFiles)
  | cancel

/-- A take that runs: its place in the request, the arbiter at its beginning, and whether it shows a window. -/
structure TakeRun where
  arbiter : Arbiter
  conditionsId : String
  runId : String
  slot : TakeSlot
  sha256 : Option String
  visible : Bool

/-- Where the take stands, and whether its token was requested. -/
structure TakeState where
  phase : TakePhase
  requested : Bool := false

namespace TakeRun
variable (take : TakeRun)

def slotEvents (executed : Except CheckExecutionError CheckExecutionEvidence) (kept : KeptFiles)
    (requested : Bool) : SlotEvents where
  sha256 := take.sha256
  executed
  positions := kept.positions
  controls := kept.controls
  result := kept.result
  cancelledAfter := requested

/-- The record of an execution, with the token as it is read then. -/
def record (executed : Except CheckExecutionError CheckExecutionEvidence) (kept : KeptFiles) (requested : Bool) :
    TakeRecord :=
  (runTake take.arbiter.beginTake take.conditionsId take.runId take.slot
    (take.slotEvents executed kept requested)).1

/-- The supervisor takes the event that it can take where it stands; a cancellation only sets the token. -/
def step (state : TakeState) : TakeEvent → TakeState × List TakeRecord
  | .receive received =>
    match state.phase with
    | .reading stream => ({ state with phase := stream.receive take.visible received },[])
    | _ => (state,[])
  | .conclude conclusion =>
    match state.phase with
    | .closed replay exceeded =>
      ({ state with phase := .executed (concludeReplay take.runId take.slot.path replay exceeded conclusion) },[])
    | _ => (state,[])
  | .decide kept =>
    match state.phase with
    | .executed result =>
      ({ state with phase := .recorded state.requested },[take.record result kept state.requested])
    | _ => (state,[])
  | .cancel => ({ state with requested := true },[])

def start : TakeState where
  phase := .reading {}

/-- Where a run of events leaves the take. -/
def reached (events : List TakeEvent) : TakeState := final take.step start events

/-- What a run of events records. -/
def records (events : List TakeEvent) : List TakeRecord := emitted take.step start events

/-- The token as it was read when the take was decided. -/
def tokenRead (events : List TakeEvent) : Option Bool :=
  match (take.reached events).phase with
  | .recorded requested => some requested
  | _ => none

/-- The terminal of a natural end was received while the take played, and its files were published. -/
def NaturalEndReceived (events : List TakeEvent) : Prop :=
  ∃ earlier later stream replay, events = earlier ++ .receive (.message (.terminal (some replay) true)) :: later ∧
    (take.reached earlier).phase = .reading stream ∧ stream.ended = none ∧ replay.playbackKind = .naturalEnd

end TakeRun

/-- The result that a take holds, as long as it is held, is a natural end. -/
def TakePhase.Natural : TakePhase → Prop
  | .reading stream => ∃ replay, stream.ended = some replay ∧ replay.playbackKind = .naturalEnd
  | .closed replay _ => replay.playbackKind = .naturalEnd
  | .executed (.ok evidence) => evidence.replay.playbackKind = .naturalEnd
  | .executed (.error _) => True
  | .recorded _ => True

namespace TakeRun
variable (take : TakeRun)

lemma step_receive {state : TakeState} {stream : Stream} (h : state.phase = .reading stream)
    (received : Received) :
    take.step state (.receive received) = ({ state with phase := stream.receive take.visible received },[]) := by
  unfold step
  rw [h]

lemma step_natural {state : TakeState} (h : state.phase.Natural) (event : TakeEvent) :
    (take.step state event).1.phase.Natural := by
  cases event with
  | receive received =>
    unfold step
    cases hphase : state.phase with
    | reading stream =>
      rw [hphase] at h
      obtain ⟨replay,hended,hnatural⟩ := h
      have hreceive : stream.receive take.visible received = stream.receiveEnded replay received := by
        unfold Stream.receive
        rw [hended]
      dsimp only
      rw [hreceive]
      obtain ⟨next,hnext,hkept⟩ | ⟨exceeded,hclosed⟩ | ⟨error,herror⟩ := stream.receiveEnded_cases hended received
      · rw [hnext]
        exact ⟨replay,hkept,hnatural⟩
      · rw [hclosed]
        exact hnatural
      · rw [herror]
        exact trivial
    | _ => simpa [hphase] using h
  | conclude conclusion =>
    unfold step
    cases hphase : state.phase with
    | closed replay exceeded =>
      rw [hphase] at h
      dsimp only
      cases hconclude : concludeReplay take.runId take.slot.path replay exceeded conclusion with
      | ok evidence =>
        show evidence.replay.playbackKind = .naturalEnd
        rw [concludeReplay_replay hconclude,playbackKind_traced]
        exact h
      | error error => exact trivial
    | _ => simpa [hphase] using h
  | decide kept =>
    unfold step
    cases hphase : state.phase with
    | executed result => exact trivial
    | _ => simpa [hphase] using h
  | cancel => exact h

/-- What one event does: it sets the token, it decides the take, or it leads on whatever the token is. -/
lemma step_cases (phase : TakePhase) (event : TakeEvent) :
    event = .cancel ∨ (∃ kept result, event = .decide kept ∧ phase = .executed result) ∨
      ∃ next, (∀ requested, take.step ⟨phase,requested⟩ event = (⟨next,requested⟩,[])) ∧
        ∀ requested, next = .recorded requested → phase = .recorded requested := by
  cases event with
  | receive received =>
    refine Or.inr (Or.inr ?_)
    cases phase with
    | reading stream =>
      exact ⟨_,fun requested => rfl,fun requested hrecorded => absurd hrecorded (stream.receive_ne_recorded _ _ _)⟩
    | _ => exact ⟨_,fun requested => rfl,fun requested hrecorded => hrecorded⟩
  | conclude conclusion =>
    refine Or.inr (Or.inr ?_)
    cases phase with
    | closed replay exceeded => exact ⟨_,fun requested => rfl,fun requested hrecorded => by cases hrecorded⟩
    | _ => exact ⟨_,fun requested => rfl,fun requested hrecorded => hrecorded⟩
  | decide kept =>
    cases phase with
    | executed result => exact Or.inr (Or.inl ⟨kept,result,rfl,rfl⟩)
    | _ => exact Or.inr (Or.inr ⟨_,fun requested => rfl,fun requested hrecorded => hrecorded⟩)
  | cancel => exact Or.inl rfl

/-- A take that is recorded stays so, and records nothing more. -/
lemma step_recorded {state : TakeState} {requested : Bool} (h : state.phase = .recorded requested) (event : TakeEvent) :
    (take.step state event).1.phase = .recorded requested ∧ (take.step state event).2 = [] := by
  cases event <;> simp [step,h]

lemma final_recorded {state : TakeState} {requested : Bool} (h : state.phase = .recorded requested)
    (events : List TakeEvent) :
    (final take.step state events).phase = .recorded requested := by
  have hstep : ∀ (s : TakeState) event, s.phase = .recorded requested →
      (take.step s event).1.phase = .recorded requested := fun s event hs => (step_recorded take hs event).1
  exact final_invariant hstep h events

lemma emitted_recorded {state : TakeState} {requested : Bool} (h : state.phase = .recorded requested)
    (events : List TakeEvent) :
    emitted take.step state events = [] := by
  induction events generalizing state with
  | nil => rfl
  | cons event events ih =>
    obtain ⟨hphase,hnone⟩ := step_recorded take h event
    rw [emitted_cons,hnone,ih hphase,List.nil_append]

/-- A token requested before the take is decided is read as requested. -/
lemma final_of_requested {phase : TakePhase} (hopen : phase ≠ .recorded false) (events : List TakeEvent) :
    (final take.step ⟨phase,true⟩ events).phase ≠ .recorded false := by
  induction events generalizing phase with
  | nil => exact hopen
  | cons event events ih =>
    rw [final_cons]
    obtain rfl | ⟨kept,result,rfl,rfl⟩ | ⟨next,hstep,hkept⟩ := step_cases take phase event
    · exact ih hopen
    · exact ih (by simp)
    · rw [hstep]
      exact ih fun hnext => hopen (hkept false hnext)

/-- An execution whose result, if there is one, is a natural end is recorded as cancelled exactly when the
token is requested. -/
lemma record_cancelled_iff {result : Except CheckExecutionError CheckExecutionEvidence}
    (h : (TakePhase.executed result).Natural) (kept : KeptFiles) (requested : Bool) :
    (take.record result kept requested).outcome.playback.kind = .cancelled ↔ requested = true := by
  have hfresh := Arbiter.fresh_beginTake take.arbiter
  show (recordedPlayback (settleTake take.arbiter.beginTake take.conditionsId take.runId
    (take.slotEvents result kept requested))).kind = .cancelled ↔ requested = true
  unfold settleTake slotEvents
  dsimp only
  cases result with
  | ok evidence =>
    have hnatural : evidence.replay.playbackKind = .naturalEnd := h
    dsimp only
    cases requested with
    | true => simp [settleReplay_cancelled hfresh (Or.inl rfl)]
    | false =>
      rw [(settleReplay_uncancelled hfresh _ _ (by simp [hnatural])).1]
      simp [hnatural]
  | error error =>
    dsimp only
    cases requested with
    | true =>
      rw [if_pos rfl,recordedPlayback_cancelled (by rw [hfresh.cancel.fail]; exact hfresh.cancel)]
      simp
    | false =>
      rw [if_neg (by simp),recordedPlayback_failed (hfresh.fail_playback _ false) (checkExecutionErrorCode_ne error)]
      simp

/-- A first request of the token shows in what is recorded exactly when the take is decided without any other. -/
lemma emitted_requested_iff {phase : TakePhase} (hnatural : phase.Natural)
    (hopen : ∀ requested, phase ≠ .recorded requested) (requested : Bool) (events : List TakeEvent) :
    emitted take.step ⟨phase,true⟩ events = emitted take.step ⟨phase,requested⟩ events ↔
      (final take.step ⟨phase,requested⟩ events).phase ≠ .recorded false := by
  induction events generalizing phase with
  | nil => simp [hopen false]
  | cons event events ih =>
    simp only [emitted_cons,final_cons]
    obtain rfl | ⟨kept,result,rfl,rfl⟩ | ⟨next,hstep,hkept⟩ := step_cases take phase event
    · exact iff_of_true rfl (final_of_requested take (hopen false) events)
    · show [take.record result kept true] ++ emitted take.step ⟨.recorded true,true⟩ events =
          [take.record result kept requested] ++ emitted take.step ⟨.recorded requested,requested⟩ events ↔ _
      show _ ↔ (final take.step ⟨.recorded requested,requested⟩ events).phase ≠ _
      rw [emitted_recorded take rfl,emitted_recorded take rfl,final_recorded take rfl]
      have hcancelled := record_cancelled_iff take hnatural kept
      cases requested with
      | true => simp
      | false =>
        refine iff_of_false (fun hsame => ?_) (by simp)
        have hrecord : take.record result kept true = take.record result kept false := by simpa using hsame
        exact Bool.false_ne_true ((hcancelled false).mp (hrecord ▸ (hcancelled true).mpr rfl))
    · have hnext : (take.step ⟨phase,requested⟩ event).1.phase.Natural := step_natural take hnatural event
      rw [hstep] at hnext
      rw [hstep,hstep]
      exact ih hnext fun r hr => hopen r (hkept r hr)

/-- A received natural end is what the take holds from then on. -/
lemma NaturalEndReceived.natural {events : List TakeEvent} (h : take.NaturalEndReceived events) :
    (take.reached events).phase.Natural := by
  obtain ⟨earlier,later,stream,replay,rfl,hreading,hended,hnatural⟩ := h
  unfold reached at hreading ⊢
  rw [final_append,final_cons]
  have hstep : ∀ (state : TakeState) event, state.phase.Natural → (take.step state event).1.phase.Natural :=
    fun state event hstate => step_natural take hstate event
  refine final_invariant hstep ?_ later
  have hreceive : (take.step (final take.step start earlier)
      (.receive (.message (.terminal (some replay) true)))).1.phase =
      stream.receivePlaying take.visible (.message (.terminal (some replay) true)) := by
    rw [step_receive take hreading]
    dsimp only
    unfold Stream.receive
    rw [hended]
  rw [hreceive]
  unfold Stream.receivePlaying
  dsimp only
  split_ifs
  · contradiction
  · exact hnatural
  · exact ⟨replay,rfl,hnatural⟩

/-- After a natural end was received and its files published, a cancellation leaves what is recorded exactly
when the take was decided before it, or is not decided, or is decided on another cancellation. -/
theorem records_cancel_iff (before after : List TakeEvent) (h : take.NaturalEndReceived before) :
    take.records (before ++ .cancel :: after) = take.records (before ++ after) ↔
      (take.tokenRead before).isSome = true ∨ take.tokenRead (before ++ after) ≠ some false := by
  have hnatural := NaturalEndReceived.natural take h
  unfold records tokenRead reached at *
  rw [emitted_append,emitted_append,emitted_cons,final_append,List.append_cancel_left_eq]
  show emitted take.step ⟨(final take.step start before).phase,true⟩ after = _ ↔ _
  generalize final take.step start before = state at hnatural ⊢
  obtain ⟨phase,requested⟩ := state
  by_cases hrecorded : ∃ read, phase = .recorded read
  · obtain ⟨read,rfl⟩ := hrecorded
    rw [emitted_recorded take rfl,emitted_recorded take rfl]
    simp
  · have hopen : ∀ read, phase ≠ .recorded read := fun read hread => hrecorded ⟨read,hread⟩
    rw [emitted_requested_iff take hnatural hopen requested after]
    cases phase with
    | recorded read => exact absurd rfl (hopen read)
    | _ => cases (final take.step _ after).phase <;> simp

end TakeRun

lemma streamedCode_ne : "replay_evidence_streamed" ≠ "" := by decide

/-- A take of one frame that ended naturally, in a window that stays paused after it. -/
def pausedReplay : ReplayExecutionResult where
  runId := "run"
  takeId := "take"
  recordingFrames := 1
  inputsConsumed := 1
  succeeded := true
  code := "replay_evidence_streamed"
  traversal := some "linear"
  playback := some "natural_end"
  endedPaused := true
  identified := streamedCode_ne

def pausedTake : TakeRun where
  arbiter := {}
  conditionsId := "conditions"
  runId := "run"
  slot := ⟨0,"take",.take⟩
  sha256 := some "material"
  visible := true

def pausedConclusion : Conclusion where
  finished := some ⟨⟨true,true⟩,1,1,true,true,1⟩
  exitCode := some 0
  userDataUnchanged := true

def pausedBefore : List TakeEvent := [.receive (.message (.terminal (some pausedReplay) true))]

def pausedAfter : List TakeEvent := [.receive .unreadable,.conclude pausedConclusion,.decide {}]

/-- A cancellation that comes once the take is decided changes nothing of it. -/
theorem records_cancel_iff_decided :
    pausedTake.records (pausedBefore ++ pausedAfter ++ .cancel :: []) =
      pausedTake.records (pausedBefore ++ pausedAfter ++ []) := by
  refine (TakeRun.records_cancel_iff pausedTake (pausedBefore ++ pausedAfter) [] ?_).mpr (Or.inl (by decide))
  exact ⟨[],pausedAfter,{},pausedReplay,rfl,rfl,rfl,by decide⟩

/-- A cancellation while the window stays paused after the end turns the natural end into a cancellation, and
what was complete into an incomplete result with another exit. -/
theorem paused_cancel_differs :
    pausedTake.NaturalEndReceived pausedBefore ∧
      (pausedTake.records (pausedBefore ++ pausedAfter)).map (fun record =>
        (record.outcome.playback.kind,record.technical.outcome,exitCode record.technical.outcome)) =
          [(.naturalEnd,.complete,0)] ∧
      (pausedTake.records (pausedBefore ++ .cancel :: pausedAfter)).map (fun record =>
        (record.outcome.playback.kind,record.technical.outcome,exitCode record.technical.outcome)) =
          [(.cancelled,.incomplete,2)] :=
  ⟨⟨[],[],{},pausedReplay,rfl,rfl,rfl,by decide⟩,by decide,by decide⟩

end TakeRun
end AytherRuntime.Check
