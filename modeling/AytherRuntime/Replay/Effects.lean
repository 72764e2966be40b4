import AytherRuntime.Library.History
import AytherRuntime.Library.Machine
import AytherRuntime.Replay.Loop
import Mathlib.Data.List.Induction
import Mathlib.Tactic.SplitIfs

/-! The effects of a replay: its start, each frame once and in its order, and its finish, cut off by the first
failure. -/
namespace AytherRuntime.Replay
open History Machine

section Reference

/-- An effect without the frame number of the Engine. -/
def ReplayEffect.plain : ReplayEffect → ReplayEffect
  | .progress event => .progress { event with engineFrame := 0 }
  | effect => effect

/-- What a publisher of some inputs tells, if there is one. -/
def told (total : Option ℕ) (event : ℕ → ReplayProgressEvent) : List ReplayEffect :=
  total.toList.map fun total => .progress (event total)

variable (total : Option ℕ)

def startEffects : List ReplayEffect := told total fun total => ⟨.replayStarted,total,0,0,0,0⟩

def frameEffects (input : RecordingFrameInput) : List ReplayEffect :=
  .read input :: told total (fun total => ⟨.inputConsumed,total,input.frame + 1,input.frame,input.frame,0⟩) ++
    [ReplayEffect.setInput input,.step] ++
    told total fun total => ⟨.frameCompleted,total,input.frame + 1,input.frame + 1,input.frame,0⟩

def finishEffects (frames : ℕ) : List ReplayEffect :=
  told total fun total => ⟨.replayFinished,total,frames,frames,frames,0⟩

/-- Everything that the replay of a recording does. -/
def fullEffects (inputs : List RecordingFrameInput) : List ReplayEffect :=
  startEffects total ++ inputs.flatMap (frameEffects total) ++ finishEffects total inputs.length

/-- The inputs of a recording in their order. -/
def RecordingInputSource.inputs (source : RecordingInputSource) : List RecordingFrameInput :=
  (List.finRange source.frameCount).map fun frame : Fin _ => source.input frame.val frame.isLt

variable (source : RecordingInputSource)

@[simp] lemma RecordingInputSource.length_inputs : source.inputs.length = source.frameCount := by
  unfold RecordingInputSource.inputs
  rw [List.length_map,List.length_finRange]

/-- What the first frames do. -/
def played (frames : ℕ) : List ReplayEffect := (source.inputs.take frames).flatMap (frameEffects total)

lemma played_succ {frame : ℕ} (h : frame < source.frameCount) :
    played total source (frame + 1) = played total source frame ++ frameEffects total (source.input frame h) := by
  have hlength : frame < source.inputs.length := by
    rw [source.length_inputs]
    exact h
  have hget : source.inputs[frame] = source.input frame h := by simp [RecordingInputSource.inputs]
  unfold played
  rw [List.take_succ_eq_append_getElem hlength,List.flatMap_append,hget]
  simp

lemma played_all : played total source source.frameCount = source.inputs.flatMap (frameEffects total) := by
  unfold played
  rw [← source.length_inputs,List.take_length]

lemma played_isPrefix (frames : ℕ) : played total source frames <+: source.inputs.flatMap (frameEffects total) := by
  refine ⟨(source.inputs.drop frames).flatMap (frameEffects total),?_⟩
  unfold played
  rw [← List.flatMap_append,List.take_append_drop]

lemma isPrefix_full {effects : List ReplayEffect}
    (h : effects <+: startEffects total ++ source.inputs.flatMap (frameEffects total)) :
    effects <+: fullEffects total source.inputs := h.trans (List.prefix_append _ _)

/-- A frame that is cut off is a part of the whole. -/
lemma cut_isPrefix {frame : ℕ} (h : frame < source.frameCount) {effects : List ReplayEffect}
    (hcut : effects <+: frameEffects total (source.input frame h)) :
    startEffects total ++ played total source frame ++ effects <+: fullEffects total source.inputs := by
  refine isPrefix_full total source ?_
  rw [List.append_assoc,List.prefix_append_right_inj]
  refine List.IsPrefix.trans ?_ (played_isPrefix total source (frame + 1))
  rw [played_succ total source h,List.prefix_append_right_inj]
  exact hcut

end Reference

section Frame
variable {σ : Type} {total : Option ℕ} {source : RecordingInputSource} {loop : RecordingReplayLoop σ}
  {effects : List ReplayEffect}

/-- Where a loop that has not failed stands: before its start, after some frames, or at its finish. -/
structure Kept (total : Option ℕ) (source : RecordingInputSource) (loop : RecordingReplayLoop σ)
    (effects : List ReplayEffect) : Prop where
  inputs : loop.inputs = { source with cursor := loop.framesCompleted }
  le : loop.framesCompleted ≤ source.frameCount
  publisher : loop.progress.map ReplayProgressPublisher.totalInputs = total
  counts : ∀ progress ∈ loop.progress,
    progress.inputsConsumed = loop.framesCompleted ∧ progress.framesCompleted = loop.framesCompleted
  stage : ((∃ progress ∈ loop.progress, progress.state ≠ .started ∧ progress.state ≠ .finished) ∧
      loop.framesCompleted = 0 ∧ effects = []) ∨
    ((∀ progress ∈ loop.progress, progress.state = .started) ∧
      effects = startEffects total ++ played total source loop.framesCompleted) ∨
    ((∃ progress ∈ loop.progress, progress.state = .finished) ∧ loop.framesCompleted = source.frameCount ∧
      effects = fullEffects total source.inputs)

lemma Kept.isPrefix (h : Kept total source loop effects) : effects <+: fullEffects total source.inputs := by
  rcases h.stage with ⟨-,-,rfl⟩ | ⟨-,rfl⟩ | ⟨-,-,rfl⟩
  · exact List.nil_prefix
  · refine isPrefix_full total source ?_
    rw [List.prefix_append_right_inj]
    exact played_isPrefix total source _
  · exact List.prefix_rfl

/-- A publication of a loop: there is nobody to tell, it was refused, or an event was emitted. -/
lemma publishing_cases (loop : RecordingReplayLoop σ)
    (publish : ReplayProgressPublisher → ReplayProgressPublisher.Published) :
    (loop.progress = none ∧ loop.publishing publish = some (loop,[])) ∨
    (∃ progress, loop.progress = some progress ∧ publish progress = none ∧ loop.publishing publish = none) ∨
    ∃ progress event next, loop.progress = some progress ∧ publish progress = some (event,next) ∧
      loop.publishing publish = some ({ loop with progress := some next },[.progress event]) := by
  unfold RecordingReplayLoop.publishing
  cases hprogress : loop.progress with
  | none => exact Or.inl ⟨rfl,rfl⟩
  | some progress =>
    cases hpublish : publish progress with
    | none => exact Or.inr (Or.inl ⟨progress,rfl,hpublish,by simp [hpublish]⟩)
    | some published => exact Or.inr (Or.inr ⟨progress,published.1,published.2,rfl,hpublish,by simp [hpublish]⟩)

/-- A start that succeeds leaves the loop after its start, or at its finish. -/
lemma Kept.start (h : Kept total source loop effects) {next : RecordingReplayLoop σ} {started : List ReplayEffect}
    (hstart : loop.start = some (next,started)) :
    Kept total source next (effects ++ started.map ReplayEffect.plain) ∧ next.publication = loop.publication ∧
      next.failed = loop.failed ∧ ∀ progress ∈ next.progress, progress.state = .started ∨
        progress.state = .finished := by
  unfold RecordingReplayLoop.start at hstart
  split_ifs at hstart with hbefore
  · cases hstart
    rw [List.map_nil,List.append_nil]
    refine ⟨h,rfl,rfl,fun progress hprogress => ?_⟩
    rw [Option.mem_def.mp hprogress] at hbefore
    simpa [ReplayProgressPublisher.started] using hbefore
  rcases publishing_cases loop ReplayProgressPublisher.publishStart with
    ⟨hnone,hpublishing⟩ | ⟨progress,-,-,hpublishing⟩ | ⟨progress,event,after,hprogress,hpublish,hpublishing⟩
  · rw [hpublishing] at hstart
    cases hstart
    rw [List.map_nil,List.append_nil]
    refine ⟨h,rfl,rfl,fun progress hprogress => ?_⟩
    rw [hnone] at hprogress
    cases hprogress
  · rw [hpublishing] at hstart
    cases hstart
  · rw [hpublishing] at hstart
    cases hstart
    unfold ReplayProgressPublisher.publishStart at hpublish
    split_ifs at hpublish with hstate
    cases hpublish
    obtain ⟨hconsumed,hcompleted⟩ := h.counts progress hprogress
    have htotal := h.publisher
    rw [hprogress,Option.map_some] at htotal
    -- Only an accepted publisher starts, so nothing was done before.
    rcases h.stage with ⟨-,hzero,rfl⟩ | ⟨hstarted,-⟩ | ⟨⟨other,hother,hfinished⟩,-⟩
    · refine ⟨⟨h.inputs,h.le,htotal,fun other hother => ?_,Or.inr (Or.inl ⟨fun other hother => ?_,?_⟩)⟩,rfl,rfl,
        fun other hother => ?_⟩
      · cases hother
        exact ⟨hconsumed,hcompleted⟩
      · cases hother
        rfl
      · subst htotal
        rw [hzero] at hconsumed hcompleted ⊢
        simp [ReplayProgressPublisher.emit,ReplayEffect.plain,startEffects,told,played,hconsumed,hcompleted]
      · cases hother
        exact Or.inl rfl
    · exact absurd ((hstarted progress hprogress).symm.trans (not_not.mp hstate)) (by decide)
    · rw [hprogress] at hother
      cases hother
      exact absurd (hfinished.symm.trans (not_not.mp hstate)) (by decide)

/-- A finish that succeeds is told once, after every frame. -/
lemma Kept.finish (h : Kept total source loop effects) (hall : loop.framesCompleted = source.frameCount)
    {next : RecordingReplayLoop σ} {finished : List ReplayEffect} (hfinish : loop.finish = some (next,finished)) :
    Kept total source next (effects ++ finished.map ReplayEffect.plain) ∧ next.publication = loop.publication ∧
      next.failed = loop.failed := by
  unfold RecordingReplayLoop.finish at hfinish
  split_ifs at hfinish with hbefore
  · cases hfinish
    rw [List.map_nil,List.append_nil]
    exact ⟨h,rfl,rfl⟩
  rcases publishing_cases loop ReplayProgressPublisher.publishFinish with
    ⟨-,hpublishing⟩ | ⟨progress,-,-,hpublishing⟩ | ⟨progress,event,after,hprogress,hpublish,hpublishing⟩
  · rw [hpublishing] at hfinish
    cases hfinish
    rw [List.map_nil,List.append_nil]
    exact ⟨h,rfl,rfl⟩
  · rw [hpublishing] at hfinish
    cases hfinish
  · rw [hpublishing] at hfinish
    cases hfinish
    unfold ReplayProgressPublisher.publishFinish at hpublish
    split_ifs at hpublish with hrefused
    cases hpublish
    simp only [not_or,not_not] at hrefused
    obtain ⟨hstate,hconsumed,hcompleted⟩ := hrefused
    have hcounts := h.counts progress hprogress
    have htotal := h.publisher
    rw [hprogress,Option.map_some] at htotal
    rcases h.stage with ⟨⟨other,hother,hbegun,-⟩,-⟩ | ⟨-,rfl⟩ | ⟨⟨other,hother,hfinished⟩,-⟩
    · rw [hprogress] at hother
      cases hother
      exact absurd hstate hbegun
    · refine ⟨⟨h.inputs,h.le,htotal,fun other hother => ?_,Or.inr (Or.inr ⟨⟨_,rfl,rfl⟩,hall,?_⟩)⟩,rfl,rfl⟩
      · cases hother
        exact hcounts
      · subst htotal
        rw [hall] at hcounts ⊢
        rw [fullEffects,played_all,source.length_inputs]
        simp [ReplayProgressPublisher.emit,ReplayEffect.plain,finishEffects,told,hconsumed,hcompleted,
          hcompleted.symm.trans hcounts.2]
    · rw [hprogress] at hother
      cases hother
      exact absurd (hfinished.symm.trans hstate) (by decide)

/-- A publisher that has started, at its counts. -/
def At (total : Option ℕ) (consumed completed : ℕ) (progress : Option ReplayProgressPublisher) : Prop :=
  progress.map ReplayProgressPublisher.totalInputs = total ∧
    ∀ publisher ∈ progress, publisher.state = .started ∧ publisher.inputsConsumed = consumed ∧
      publisher.framesCompleted = completed

lemma publishInput_at {frame : ℕ} {next : RecordingReplayLoop σ} {announced : List ReplayEffect}
    (hpublishing : loop.publishing (·.publishInput frame) = some (next,announced))
    (h : At total frame frame loop.progress) :
    ∃ progress, next = { loop with progress } ∧ At total (frame + 1) frame progress ∧
      announced.map ReplayEffect.plain =
        told total fun total => ⟨.inputConsumed,total,frame + 1,frame,frame,0⟩ := by
  obtain ⟨rfl,hcounts⟩ := h
  rcases publishing_cases loop (·.publishInput frame) with
    ⟨hnone,hvalue⟩ | ⟨progress,-,-,hvalue⟩ | ⟨progress,event,after,hprogress,hpublish,hvalue⟩
  · rw [hvalue] at hpublishing
    cases hpublishing
    refine ⟨none,by rw [← hnone],⟨by rw [hnone],fun _ hmem => (by cases hmem)⟩,?_⟩
    rw [hnone]
    rfl
  · rw [hvalue] at hpublishing
    cases hpublishing
  · rw [hvalue] at hpublishing
    cases hpublishing
    obtain ⟨hstate,hconsumed,hcompleted⟩ := hcounts progress hprogress
    unfold ReplayProgressPublisher.publishInput at hpublish
    split_ifs at hpublish
    cases hpublish
    refine ⟨_,rfl,⟨by rw [hprogress]; rfl,fun publisher hpublisher => ?_⟩,?_⟩
    · cases hpublisher
      exact ⟨hstate,congrArg Nat.succ hconsumed,hcompleted⟩
    · rw [hprogress]
      simp [ReplayProgressPublisher.emit,ReplayEffect.plain,told,hconsumed,hcompleted]

lemma publishFrame_at {frame : ℕ} {engineFrame : UInt64} {next : RecordingReplayLoop σ} {reported : List ReplayEffect}
    (hpublishing : loop.publishing (·.publishFrame frame engineFrame) = some (next,reported))
    (h : At total (frame + 1) frame loop.progress) :
    ∃ progress, next = { loop with progress } ∧ At total (frame + 1) (frame + 1) progress ∧
      reported.map ReplayEffect.plain =
        told total fun total => ⟨.frameCompleted,total,frame + 1,frame + 1,frame,0⟩ := by
  obtain ⟨rfl,hcounts⟩ := h
  rcases publishing_cases loop (·.publishFrame frame engineFrame) with
    ⟨hnone,hvalue⟩ | ⟨progress,-,-,hvalue⟩ | ⟨progress,event,after,hprogress,hpublish,hvalue⟩
  · rw [hvalue] at hpublishing
    cases hpublishing
    refine ⟨none,by rw [← hnone],⟨by rw [hnone],fun _ hmem => (by cases hmem)⟩,?_⟩
    rw [hnone]
    rfl
  · rw [hvalue] at hpublishing
    cases hpublishing
  · rw [hvalue] at hpublishing
    cases hpublishing
    obtain ⟨hstate,hconsumed,hcompleted⟩ := hcounts progress hprogress
    unfold ReplayProgressPublisher.publishFrame at hpublish
    split_ifs at hpublish
    cases hpublish
    refine ⟨_,rfl,⟨by rw [hprogress]; rfl,fun publisher hpublisher => ?_⟩,?_⟩
    · cases hpublisher
      exact ⟨hstate,hconsumed,congrArg Nat.succ hcompleted⟩
    · rw [hprogress]
      simp [ReplayProgressPublisher.emit,ReplayEffect.plain,told,hconsumed,hcompleted]

/-- The errors of a failed operation, after which the loop executes nothing more. -/
def ReplayFrameError.Failed (error : ReplayFrameError) : Prop :=
  error ≠ .none ∧ error ≠ .initialStateNotAcknowledged ∧ error ≠ .inputExhausted

/-- A call either fails, with a part of the whole done, or leaves a loop that stands somewhere again. -/
def Executed (total : Option ℕ) (source : RecordingInputSource) (loop : RecordingReplayLoop σ)
    (effects : List ReplayEffect) (result : ReplayFrameResult × RecordingReplayLoop σ × List ReplayEffect) : Prop :=
  result.2.1.publication = loop.publication ∧
    ((result.2.1.failed = false ∧ ¬result.1.error.Failed ∧
        Kept total source result.2.1 (effects ++ result.2.2.map ReplayEffect.plain)) ∨
      (result.2.1.failed = true ∧ effects ++ result.2.2.map ReplayEffect.plain <+: fullEffects total source.inputs))

lemma Executed.fail {result : ReplayFrameResult} {some : List ReplayEffect}
    (h : effects ++ some.map ReplayEffect.plain <+: fullEffects total source.inputs) :
    Executed total source loop effects (loop.fail result some) := ⟨rfl,Or.inr ⟨rfl,h⟩⟩

/-- The frame of the next input is played whole, or cut off by a failure. -/
lemma Kept.play (h : Kept total source loop effects) (hfailed : loop.failed = false)
    (hrun : ∀ progress ∈ loop.progress, progress.state = .started ∨ progress.state = .finished)
    (hframe : loop.framesCompleted < source.frameCount) (set stepped : ReplayFrameOperationResult) :
    Executed total source loop (effects ++ [ReplayEffect.read (source.input loop.framesCompleted hframe)])
      ({ loop with inputs := { source with cursor := loop.framesCompleted + 1 } }.play
        (source.input loop.framesCompleted hframe) set stepped) := by
  have hat : At total loop.framesCompleted loop.framesCompleted loop.progress ∧
      effects = startEffects total ++ played total source loop.framesCompleted := by
    rcases h.stage with ⟨⟨progress,hprogress,hstarted,hfinished⟩,-⟩ | ⟨hstarted,heffects⟩ | ⟨-,hall,-⟩
    · rcases hrun progress hprogress with hrun | hrun
      · exact absurd hrun hstarted
      · exact absurd hrun hfinished
    · exact ⟨⟨h.publisher,fun progress hprogress => ⟨hstarted progress hprogress,h.counts progress hprogress⟩⟩,heffects⟩
    · omega
  obtain ⟨hat,rfl⟩ := hat
  have hcut : ∀ {done : List ReplayEffect},
      .read (source.input loop.framesCompleted hframe) :: done.map ReplayEffect.plain <+:
      frameEffects total (source.input loop.framesCompleted hframe) →
      startEffects total ++ played total source loop.framesCompleted ++
        [ReplayEffect.read (source.input loop.framesCompleted hframe)] ++ done.map ReplayEffect.plain <+:
        fullEffects total source.inputs := by
    intro done hdone
    rw [List.append_assoc]
    exact cut_isPrefix total source hframe hdone
  unfold RecordingReplayLoop.play
  split
  · next hposition => exact absurd rfl hposition
  split
  · exact Executed.fail (hcut ⟨_,rfl⟩)
  · next announcing next announced hannounce =>
    obtain ⟨progress,rfl,hat,hannounced⟩ := publishInput_at hannounce hat
    split_ifs
    · refine Executed.fail (hcut ?_)
      rw [List.map_append,hannounced]
      exact ⟨_,by simp [frameEffects,ReplayEffect.plain]; rfl⟩
    · refine Executed.fail (hcut ?_)
      rw [List.map_append,hannounced]
      exact ⟨_,by simp [frameEffects,ReplayEffect.plain]; rfl⟩
    · dsimp only
      split
      · refine Executed.fail (hcut ?_)
        rw [List.map_append,hannounced]
        exact ⟨_,by simp [frameEffects,ReplayEffect.plain]; rfl⟩
      · next reporting after reported hreport =>
        obtain ⟨progress,rfl,hat,hreported⟩ := publishFrame_at hreport hat
        refine ⟨rfl,Or.inl ⟨hfailed,fun herror => herror.1 rfl,rfl,hframe,hat.1,fun publisher hpublisher => ?_,
          Or.inr (Or.inl ⟨fun publisher hpublisher => (hat.2 publisher hpublisher).1,?_⟩)⟩⟩
        · exact (hat.2 publisher hpublisher).2
        · rw [played_succ total source hframe,List.map_append,List.map_append,hannounced,hreported]
          simp [frameEffects,ReplayEffect.plain]

/-- A call of a loop that stands somewhere, once the initial state is acknowledged. -/
lemma Kept.executeNext (h : Kept total source loop effects) (hfailed : loop.failed = false)
    (hpermitted : loop.publication.inputPermitted = true) (operations : ReplayFrameOperations) :
    Executed total source loop effects (loop.executeNext operations) := by
  have hkept : effects ++ [].map ReplayEffect.plain <+: fullEffects total source.inputs := by
    rw [List.map_nil,List.append_nil]
    exact h.isPrefix
  unfold RecordingReplayLoop.executeNext
  rw [if_neg (by rw [hfailed]; decide),if_neg (by rw [hpermitted]; decide)]
  split
  · next set stepped _ _ =>
    rw [if_neg (by rw [h.inputs]; exact not_not.mpr rfl)]
    split
    · exact Executed.fail hkept
    · next starting next started hstart =>
      obtain ⟨hnext,hpublication,hstill,hrun⟩ := h.start hstart
      have hinput : next.publication.nextInput next.inputs = next.inputs.next := by
        unfold InitialStatePublication.nextInput
        rw [if_pos (by rw [hpublication]; exact hpermitted)]
      rw [hinput,hnext.inputs]
      unfold RecordingInputSource.next
      by_cases hframe : next.framesCompleted < source.frameCount
      · rw [dif_pos hframe]
        obtain ⟨hplayed,hresult⟩ := hnext.play (hstill.trans hfailed) hrun hframe set stepped
        refine ⟨hplayed.trans hpublication,?_⟩
        dsimp only
        rw [List.map_append,← List.append_assoc]
        rw [List.append_assoc _ [_] _] at hresult
        exact hresult
      · rw [dif_neg hframe]
        have hall : next.framesCompleted = source.frameCount := Nat.le_antisymm hnext.le (Nat.not_lt.mp hframe)
        dsimp only
        split
        · obtain ⟨hsame,hresult⟩ : Executed total source next effects (next.fail _ started) :=
            Executed.fail hnext.isPrefix
          exact ⟨hsame.trans hpublication,hresult⟩
        · next finishing last finished hfinish =>
          obtain ⟨hlast,hsame,hend⟩ := hnext.finish hall hfinish
          refine ⟨hsame.trans hpublication,Or.inl ⟨hend.trans (hstill.trans hfailed),fun herror => herror.2.2 rfl,?_⟩⟩
          rw [List.map_append,← List.append_assoc]
          exact hlast
  · exact Executed.fail hkept

end Frame

section Run
variable {σ : Type} {total : Option ℕ} {source : RecordingInputSource} {loop : RecordingReplayLoop σ}
  {log : List ReplayEvent}

/-- The effects of a replay in the order in which they happened. -/
def effectsOf (log : List ReplayEvent) : List ReplayEffect :=
  log.filterMap fun
    | .effect effect => some effect.plain
    | _ => none

def ReplayEvent.Failed : ReplayEvent → Prop
  | .published accepted => accepted = false
  | .returned error => error.Failed
  | _ => False

def ReplayEvent.IsEffect : ReplayEvent → Prop
  | .consumed | .effect _ => True
  | _ => False

/-- An effect of the replay comes after the initial state was acknowledged. -/
def Acknowledged (before : List ReplayEvent) : ReplayEvent → Prop
  | .effect _ => .published true ∈ before
  | _ => True

/-- What holds of a loop after its log. -/
structure Runs (total : Option ℕ) (source : RecordingInputSource) (log : List ReplayEvent)
    (loop : RecordingReplayLoop σ) : Prop where
  acknowledged : loop.publication.status = .acknowledged → .published true ∈ log
  unacknowledged : loop.failed = true → loop.publication.status = .acknowledged
  kept : loop.failed = false → Kept total source loop (effectsOf log)
  effects : effectsOf log <+: fullEffects total source.inputs
  failures : ∀ event ∈ log, event.Failed → loop.failed = true ∨ loop.publication.status = .failed
  stopped : log.Pairwise fun event later => event.Failed → ¬later.IsEffect
  each : Each Acknowledged log

/-- Events that are no effects leave the effects as they are. -/
lemma effectsOf_append_of_not {events : List ReplayEvent} (h : effectsOf events = []) :
    effectsOf (log ++ events) = effectsOf log := by
  unfold effectsOf at h ⊢
  rw [List.filterMap_append,h,List.append_nil]

lemma effectsOf_executed (effects : List ReplayEffect) (error : ReplayFrameError) :
    effectsOf (log ++ (effects.map ReplayEvent.effect ++ [ReplayEvent.returned error])) = effectsOf log ++
      effects.map ReplayEffect.plain := by
  unfold effectsOf
  rw [List.filterMap_append,List.filterMap_append,List.filterMap_map]
  simp

/-- A publication calls its consumer once, and what it came to stays. -/
lemma publish_spec (checks : InitialStateChecks σ) (publication : InitialStatePublication σ) (consumer : Option Bool) :
    ((publication.publish checks consumer).2.1.status =
        bif (publication.publish checks consumer).1 then .acknowledged else .failed) ∧
      ((publication.publish checks consumer).2.2 = true → publication.status = .pending) ∧
      (publication.status ≠ .pending → (publication.publish checks consumer).2.1 = publication) := by
  unfold InitialStatePublication.publish
  cases hstatus : publication.status with
  | acknowledged => exact ⟨hstatus,fun hcalled => (by cases hcalled),fun _ => rfl⟩
  | failed => exact ⟨hstatus,fun hcalled => (by cases hcalled),fun _ => rfl⟩
  | pending =>
    refine ⟨?_,fun _ => rfl,fun hpending => absurd rfl hpending⟩
    dsimp only
    by_cases hformed : (!checks.wellFormed publication.state) = true
    · rw [if_pos hformed]
      rfl
    rw [if_neg hformed]
    by_cases hincomplete : (!checks.gameRestored publication.state) = true ∨
        (!checks.hasCompleteHdDescription publication.state) = true
    · rw [if_pos hincomplete]
      rfl
    rw [if_neg hincomplete]
    rcases consumer with _ | _ | _ <;> rfl

lemma mem_publish {called accepted : Bool} {event : ReplayEvent}
    (h : event ∈ (if called then [ReplayEvent.consumed] else []) ++ [.published accepted]) :
    (event = .consumed ∧ called = true) ∨ event = .published accepted := by
  cases called with
  | false => exact Or.inr (List.mem_singleton.mp h)
  | true =>
    rcases List.mem_cons.mp h with h | h
    · exact Or.inl ⟨h,rfl⟩
    · exact Or.inr (List.mem_singleton.mp h)

/-- A publication calls its consumer before anything has failed. -/
lemma Runs.publish (h : Runs total source log loop) (checks : InitialStateChecks σ) (consumer : Option Bool) :
    Runs total source (log ++ (loop.call checks (.publish consumer)).2) (loop.call checks (.publish consumer)).1 := by
  obtain ⟨hacknowledged,hunacknowledged,hkept,heffects,hfailures,hstopped,heach⟩ := h
  obtain ⟨hstatus,hcalled,hsame⟩ := publish_spec checks loop.publication consumer
  unfold RecordingReplayLoop.call
  dsimp only
  generalize loop.publication.publish checks consumer = result at hstatus hcalled hsame
  obtain ⟨accepted,publication,called⟩ := result
  dsimp only at hstatus hcalled hsame ⊢
  have hevents : effectsOf ((if called then [ReplayEvent.consumed] else []) ++ [.published accepted]) = [] := by
    cases called <;> rfl
  refine ⟨fun hnow => ?_,fun hfailed => ?_,fun hfailed => ?_,?_,fun event hevent hfailed => ?_,?_,?_⟩
  · cases accepted with
    | false => exact absurd (hstatus.symm.trans hnow) (by decide)
    | true => exact List.mem_append_right _ (List.mem_append_right _ (List.mem_singleton_self _))
  · have hbefore := hunacknowledged hfailed
    dsimp only
    rw [hsame (by rw [hbefore]; decide)]
    exact hbefore
  · obtain ⟨hinputs,hle,hpublisher,hcounts,hstage⟩ := hkept hfailed
    rw [effectsOf_append_of_not hevents]
    exact ⟨hinputs,hle,hpublisher,hcounts,hstage⟩
  · rw [effectsOf_append_of_not hevents]
    exact heffects
  · rcases List.mem_append.mp hevent with hevent | hevent
    · rcases hfailures event hevent hfailed with hbefore | hbefore
      · exact Or.inl hbefore
      · refine Or.inr ?_
        dsimp only
        rw [hsame (by rw [hbefore]; decide)]
        exact hbefore
    · rcases mem_publish hevent with ⟨rfl,-⟩ | rfl
      · exact hfailed.elim
      · have hrefused : accepted = false := hfailed
        rw [hrefused] at hstatus
        exact Or.inr hstatus
  · refine List.pairwise_append.mpr ⟨hstopped,?_,fun event hevent later hlater hfailed heffect => ?_⟩
    · cases called with
      | false => exact List.pairwise_singleton _ _
      | true => exact List.pairwise_pair.mpr fun hfailed => hfailed.elim
    · rcases mem_publish hlater with ⟨rfl,hcall⟩ | rfl
      · have hpending := hcalled hcall
        rcases hfailures event hevent hfailed with hbefore | hbefore
        · exact absurd (hpending.symm.trans (hunacknowledged hbefore)) (by decide)
        · exact absurd (hpending.symm.trans hbefore) (by decide)
      · exact heffect
  · refine heach.append fun before event later hsplit => ?_
    have hevent : event ∈ (if called then [ReplayEvent.consumed] else []) ++ [.published accepted] := by
      rw [hsplit]
      exact List.mem_append_right _ List.mem_cons_self
    rcases mem_publish hevent with ⟨rfl,-⟩ | rfl
    · trivial
    · trivial

lemma mem_executed {effects : List ReplayEffect} {error : ReplayFrameError} {event : ReplayEvent}
    (h : event ∈ effects.map ReplayEvent.effect ++ [ReplayEvent.returned error]) :
    (∃ effect ∈ effects, event = .effect effect) ∨ event = .returned error := by
  rcases List.mem_append.mp h with h | h
  · obtain ⟨effect,heffect,rfl⟩ := List.mem_map.mp h
    exact Or.inl ⟨effect,heffect,rfl⟩
  · exact Or.inr (List.mem_singleton.mp h)

/-- A loop that has failed, or whose initial state is not acknowledged, does nothing. -/
lemma executeNext_idle (h : loop.failed = true ∨ loop.publication.inputPermitted ≠ true)
    (operations : ReplayFrameOperations) : (loop.executeNext operations).2 = (loop,[]) ∧
      ((loop.executeNext operations).1.error.Failed → loop.failed = true) := by
  unfold RecordingReplayLoop.executeNext
  by_cases hfailed : loop.failed = true
  · rw [if_pos hfailed]
    exact ⟨rfl,fun _ => hfailed⟩
  · have hpermitted : (!loop.publication.inputPermitted) = true := by
      rcases h with h | h
      · exact absurd h hfailed
      · simpa using h
    rw [if_neg hfailed,if_pos hpermitted]
    exact ⟨rfl,fun herror => absurd rfl herror.2.1⟩

lemma Runs.executeNext (h : Runs total source log loop) (checks : InitialStateChecks σ)
    (operations : ReplayFrameOperations) :
    Runs total source (log ++ (loop.call checks (.executeNext operations)).2)
      (loop.call checks (.executeNext operations)).1 := by
  unfold RecordingReplayLoop.call
  dsimp only
  by_cases hidle : loop.failed = true ∨ loop.publication.inputPermitted ≠ true
  · obtain ⟨hsame,herror⟩ := executeNext_idle hidle operations
    rw [hsame]
    dsimp only
    generalize (loop.executeNext operations).1.error = error at herror
    have hquiet : effectsOf (log ++ [ReplayEvent.returned error]) = effectsOf log := effectsOf_append_of_not rfl
    refine ⟨fun hnow => List.mem_append_left _ (h.acknowledged hnow),h.unacknowledged,?_,?_,
      fun event hevent hfailed => ?_,
      ?_,h.each.snoc trivial⟩
    · rw [List.map_nil,List.nil_append,hquiet]
      exact h.kept
    · rw [List.map_nil,List.nil_append,hquiet]
      exact h.effects
    · rcases List.mem_append.mp hevent with hevent | hevent
      · exact h.failures event hevent hfailed
      · cases List.mem_singleton.mp hevent
        exact Or.inl (herror hfailed)
    · refine List.pairwise_append.mpr ⟨h.stopped,List.pairwise_singleton _ _,fun event _ later hlater _ heffect => ?_⟩
      cases List.mem_singleton.mp hlater
      exact heffect
  · simp only [not_or,Bool.not_eq_true] at hidle
    obtain ⟨hfailed,hidle⟩ := hidle
    have hpermitted : loop.publication.inputPermitted = true := by simpa using hidle
    obtain ⟨hpublication,hresult⟩ := (h.kept hfailed).executeNext hfailed hpermitted operations
    generalize loop.executeNext operations = result at hpublication hresult
    obtain ⟨returned,next,effects⟩ := result
    dsimp only at hpublication hresult ⊢
    have hstatus : loop.publication.status = .acknowledged := of_decide_eq_true hpermitted
    -- Nothing has failed before.
    have hbefore : ∀ event ∈ log, ¬event.Failed := by
      intro event hevent hevent'
      rcases h.failures event hevent hevent' with hfail | hfail
      · rw [hfailed] at hfail
        cases hfail
      · exact absurd (hstatus.symm.trans hfail) (by decide)
    refine ⟨fun _ => List.mem_append_left _ (h.acknowledged hstatus),fun _ => by rw [hpublication]; exact hstatus,
      fun hnext => ?_,?_,fun event hevent hevent' => ?_,?_,?_⟩
    · rw [effectsOf_executed]
      rcases hresult with ⟨-,-,hkept⟩ | ⟨hfail,-⟩
      · exact hkept
      · rw [hnext] at hfail
        cases hfail
    · rw [effectsOf_executed]
      rcases hresult with ⟨-,-,hkept⟩ | ⟨-,hcut⟩
      · exact hkept.isPrefix
      · exact hcut
    · rcases List.mem_append.mp hevent with hevent | hevent
      · exact absurd hevent' (hbefore event hevent)
      · rcases mem_executed hevent with ⟨effect,-,rfl⟩ | rfl
        · exact hevent'.elim
        · rcases hresult with ⟨-,herror,-⟩ | ⟨hfail,-⟩
          · exact absurd hevent' herror
          · exact Or.inl hfail
    · refine List.pairwise_append.mpr ⟨h.stopped,?_,
        fun event hevent _ _ hevent' => absurd hevent' (hbefore event hevent)⟩
      refine List.pairwise_append.mpr ⟨?_,List.pairwise_singleton _ _,fun event _ later hlater _ heffect => ?_⟩
      · exact List.pairwise_map.mpr (List.pairwise_of_forall fun _ _ hevent' => hevent'.elim)
      · cases List.mem_singleton.mp hlater
        exact heffect
    · refine h.each.append fun before event later hsplit => ?_
      have hevent : event ∈ effects.map ReplayEvent.effect ++ [ReplayEvent.returned returned.error] := by
        rw [hsplit]
        exact List.mem_append_right _ List.mem_cons_self
      rcases mem_executed hevent with ⟨effect,-,rfl⟩ | rfl
      · exact List.mem_append_left _ (h.acknowledged hstatus)
      · trivial

/-- `ReplayProgressPublisher`, whose acceptance is published or not before the replay. -/
def ReplayProgressPublisher.new (totalInputs : ℕ) (observed accept : Bool) : ReplayProgressPublisher :=
  let progress : ReplayProgressPublisher := { totalInputs, observed }
  if accept then (progress.publishAcceptance.map Prod.snd).getD progress else progress

/-- A loop over a recording, with a publisher of its progress or without one. -/
def RecordingReplayLoop.new (state : σ) (source : RecordingInputSource) (progress : Option (ℕ × Bool × Bool)) :
    RecordingReplayLoop σ where
  publication := { state }
  inputs := { source with cursor := 0 }
  progress := progress.map fun progress => .new progress.1 progress.2.1 progress.2.2

lemma new_progress (totalInputs : ℕ) (observed accept : Bool) :
    let progress := ReplayProgressPublisher.new totalInputs observed accept
    progress.totalInputs = totalInputs ∧ (progress.state ≠ .started ∧ progress.state ≠ .finished) ∧
      progress.inputsConsumed = 0 ∧ progress.framesCompleted = 0 := by
  unfold ReplayProgressPublisher.new ReplayProgressPublisher.publishAcceptance
  cases accept with
  | false => exact ⟨rfl,⟨fun hstate => (by cases hstate),fun hstate => (by cases hstate)⟩,rfl,rfl⟩
  | true =>
    dsimp only
    rw [if_pos rfl]
    split_ifs
    · exact ⟨rfl,⟨fun hstate => (by cases hstate),fun hstate => (by cases hstate)⟩,rfl,rfl⟩
    · exact ⟨rfl,⟨fun hstate => (by cases hstate),fun hstate => (by cases hstate)⟩,rfl,rfl⟩

lemma runs_new (state : σ) (source : RecordingInputSource) (progress : Option (ℕ × Bool × Bool)) :
    Runs (progress.map Prod.fst) source [] (.new state source progress) := by
  refine ⟨fun hnow => (by cases hnow),fun hfailed => (by cases hfailed),fun _ => ?_,List.nil_prefix,
    fun _ hmem => (by cases hmem),List.Pairwise.nil,each_nil⟩
  rcases progress with _ | ⟨totalInputs,observed,accept⟩
  · exact ⟨rfl,Nat.zero_le _,rfl,fun _ hmem => (by cases hmem),
      Or.inr (Or.inl ⟨fun _ hmem => (by cases hmem),rfl⟩)⟩
  · obtain ⟨htotal,hstate,hconsumed,hcompleted⟩ := new_progress totalInputs observed accept
    refine ⟨rfl,Nat.zero_le _,congrArg some htotal,fun progress hprogress => ?_,Or.inl ⟨⟨_,rfl,hstate⟩,rfl,rfl⟩⟩
    cases hprogress
    exact ⟨hconsumed,hcompleted⟩

lemma runs (checks : InitialStateChecks σ) (state : σ) (source : RecordingInputSource)
    (progress : Option (ℕ × Bool × Bool)) (calls : List ReplayCall) :
    Runs (progress.map Prod.fst) source (emitted (RecordingReplayLoop.call checks) (.new state source progress) calls)
      (final (RecordingReplayLoop.call checks) (.new state source progress) calls) := by
  induction calls using List.reverseRecOn with
  | nil => exact runs_new state source progress
  | append_singleton calls call ih =>
    rw [emitted_append,final_append,emitted_cons,emitted_nil,List.append_nil]
    cases call with
    | publish consumer => exact ih.publish checks consumer
    | executeNext operations => exact ih.executeNext checks operations

def ReplayEffect.IsFinish : ReplayEffect → Prop
  | .progress event => event.kind = .replayFinished
  | _ => False

lemma not_isFinish_frame {input : RecordingFrameInput} {effect : ReplayEffect} (h : effect ∈ frameEffects total input) :
    ¬effect.IsFinish := by
  unfold frameEffects told at h
  cases total <;> simp only [Option.toList_none,Option.toList_some,List.map_nil,List.map_cons,List.cons_append,
    List.nil_append,List.append_nil,List.mem_cons,List.not_mem_nil,or_false] at h
  · rcases h with rfl | rfl | rfl <;> exact fun hfinish => hfinish
  · rcases h with rfl | rfl | rfl | rfl | rfl <;> exact fun hfinish => by cases hfinish

/-- Nothing before the finish of the whole finishes, and nothing comes after it. -/
lemma finish_last {inputs : List RecordingFrameInput} {before after : List ReplayEffect} {effect : ReplayEffect}
    (h : before ++ effect :: after <+: fullEffects total inputs) (hfinish : effect.IsFinish) :
    before = startEffects total ++ inputs.flatMap (frameEffects total) ∧ after = [] := by
  have hbody : ∀ other ∈ startEffects total ++ inputs.flatMap (frameEffects total), ¬other.IsFinish := by
    intro other hother
    rcases List.mem_append.mp hother with hother | hother
    · obtain ⟨number,-,rfl⟩ := List.mem_map.mp hother
      exact fun hfinish => by cases hfinish
    · obtain ⟨input,-,hother⟩ := List.mem_flatMap.mp hother
      exact not_isFinish_frame hother
  obtain ⟨rest,hrest⟩ := h
  unfold fullEffects at hrest
  generalize startEffects total ++ inputs.flatMap (frameEffects total) = body at hbody hrest ⊢
  have hlength : (finishEffects total inputs.length).length ≤ 1 := by
    unfold finishEffects told
    cases total <;> simp
  rw [List.append_assoc,List.cons_append] at hrest
  rcases List.append_eq_append_iff.mp hrest with ⟨between,hbetween,hfrom⟩ | ⟨more,rfl,hmore⟩
  · cases between with
    | nil =>
      rw [List.append_nil] at hbetween
      rw [List.nil_append] at hfrom
      rw [← hfrom,List.length_cons,List.length_append] at hlength
      exact ⟨hbetween.symm,List.eq_nil_of_length_eq_zero (by omega)⟩
    | cons other between =>
      obtain ⟨rfl,-⟩ := List.cons_eq_cons.mp hfrom
      exact absurd hfinish (hbody _ (by rw [hbetween]; exact List.mem_append_right _ List.mem_cons_self))
  · rw [hmore,List.length_append,List.length_cons,List.length_append] at hlength
    rw [List.eq_nil_of_length_eq_zero (show more.length = 0 by omega),List.append_nil]
    exact ⟨rfl,List.eq_nil_of_length_eq_zero (by omega)⟩

lemma mem_inputs_of_read {input : RecordingFrameInput} (h : .read input ∈ fullEffects total source.inputs) :
    input.frame < source.frameCount := by
  have hframe : .read input ∈ source.inputs.flatMap (frameEffects total) := by
    rcases List.mem_append.mp h with h | h
    · rcases List.mem_append.mp h with h | h
      · obtain ⟨number,-,hread⟩ := List.mem_map.mp h
        cases hread
      · exact h
    · obtain ⟨number,-,hread⟩ := List.mem_map.mp h
      cases hread
  obtain ⟨other,hother,hread⟩ := List.mem_flatMap.mp hframe
  obtain rfl : input = other := by
    unfold frameEffects told at hread
    cases total <;> simpa using hread
  obtain ⟨frame,-,rfl⟩ := List.mem_map.mp hother
  exact frame.isLt

/-- Over any publications and calls, with any answers, a replay does a part of the whole from its beginning, only after
its initial state was acknowledged, and nothing after the first failure. -/
theorem replay_effects (checks : InitialStateChecks σ) (state : σ) (source : RecordingInputSource)
    (progress : Option (ℕ × Bool × Bool)) (calls : List ReplayCall) :
    let total := progress.map Prod.fst
    let log := emitted (RecordingReplayLoop.call checks) (.new state source progress) calls
    effectsOf log <+: fullEffects total source.inputs ∧ Each Acknowledged log ∧
      (∀ input, .effect (.read input) ∈ log → input.frame < source.frameCount) ∧
      (log.Pairwise fun event later => event.Failed → ¬later.IsEffect) ∧
      ∀ before effect after, effectsOf log = before ++ effect :: after → effect.IsFinish →
        before = startEffects total ++ source.inputs.flatMap (frameEffects total) ∧ after = [] := by
  have h := runs checks state source progress calls
  refine ⟨h.effects,h.each,fun input hinput => ?_,h.stopped,fun before effect after hsplit hfinish => ?_⟩
  · have heffect : .read input ∈ effectsOf
        (emitted (RecordingReplayLoop.call checks) (.new state source progress) calls) :=
      List.mem_filterMap.mpr ⟨_,hinput,rfl⟩
    exact mem_inputs_of_read (h.effects.subset heffect)
  · exact finish_last (hsplit ▸ h.effects) hfinish

end Run
end AytherRuntime.Replay
