import AytherRuntime.Library.Segments
import AytherRuntime.Timeline.Held

/-! A compiled pad timeline plays its steps: the spans of the steps follow one another over all frames, each frame has
the buttons that are down by the steps before it, and a replay reads them back. -/
namespace AytherRuntime.Timeline
open Lines Replay Segments

def TimelineStep.takesTime (step : TimelineStep) : Bool := step.kind = .wait ∨ step.kind = .press

/-- The steps that take time, by their places. -/
def timedSteps (steps : List TimelineStep) : List ℕ :=
  (List.range steps.length).filter fun index => (steps[index]?).any TimelineStep.takesTime

/-- The mask of the frames of a step. -/
def maskAt (steps : List TimelineStep) (index : ℕ) : UInt16 :=
  match steps[index]? with
  | some step =>
    if step.kind = .press then heldMask (steps.take index) ||| step.buttons else heldMask (steps.take index)
  | none => 0

section Steps
variable {steps : List TimelineStep} {step : TimelineStep} {index : ℕ}

lemma timedSteps_snoc : timedSteps (steps ++ [step]) =
    timedSteps steps ++ if step.takesTime then [steps.length] else [] := by
  unfold timedSteps
  rw [List.length_append,List.length_singleton,List.range_succ,List.filter_append]
  congr 1
  · refine List.filter_congr fun index hindex => ?_
    rw [List.getElem?_append_left (List.mem_range.mp hindex)]
  · rw [List.filter_singleton,List.getElem?_append_right (Nat.le_refl _),Nat.sub_self,Bool.cond_eq_ite]
    rfl

lemma maskAt_snoc (h : index < steps.length) : maskAt (steps ++ [step]) index = maskAt steps index := by
  unfold maskAt
  rw [List.getElem?_append_left h,List.take_append_of_le_length (Nat.le_of_lt h)]

lemma maskAt_last : maskAt (steps ++ [step]) steps.length =
    if step.kind = .press then heldMask steps ||| step.buttons else heldMask steps := by
  unfold maskAt
  rw [List.getElem?_append_right (Nat.le_refl _),Nat.sub_self,List.take_left]
  rfl

end Steps

/-- What the steps so far compile to. -/
structure Compiles (fps : ℚ) (steps : List TimelineStep) (state : CompileState) : Prop where
  held : state.held = heldMask steps
  order : state.spans.map CompiledStepSpan.step = timedSteps steps
  lengths : ∀ span ∈ state.spans, 0 < span.frames ∧
    ∃ step, steps[span.step]? = some step ∧ span.frames = step.framesAt fps
  placed : ∀ i span, state.spans[i]? = some span →
    span.firstFrame = start (state.spans.map CompiledStepSpan.frames) i
  buttons : state.buttons = state.spans.flatMap fun span => List.replicate span.frames (maskAt steps span.step)
  bounded : state.buttons.length ≤ maxRecordingFrames

section Compile
variable {fps : ℚ} {steps : List TimelineStep} {state next : CompileState} {step : TimelineStep}

lemma Compiles.length (h : Compiles fps steps state) :
    state.buttons.length = (state.spans.map CompiledStepSpan.frames).sum := by
  rw [h.buttons]
  exact length_flatMap_replicate _ _ _

lemma Compiles.within (h : Compiles fps steps state) {span : CompiledStepSpan} (hspan : span ∈ state.spans) :
    span.step < steps.length := by
  obtain ⟨_,step,hstep,_⟩ := h.lengths span hspan
  exact (List.getElem?_eq_some_iff.mp hstep).1

/-- A step that takes no time. -/
lemma Compiles.instant (h : Compiles fps steps state) (hinstant : step.takesTime = false) :
    Compiles fps (steps ++ [step]) { state with held := holdStep state.held step } := by
  refine ⟨?_,?_,fun span hspan => ?_,h.placed,?_,h.bounded⟩
  · rw [heldMask_snoc,h.held]
  · rw [timedSteps_snoc,hinstant,if_neg Bool.false_ne_true,List.append_nil]
    exact h.order
  · obtain ⟨hpositive,source,hsource,hframes⟩ := h.lengths span hspan
    refine ⟨hpositive,source,?_,hframes⟩
    rw [List.getElem?_append_left (h.within hspan)]
    exact hsource
  · rw [List.flatMap_congr fun span hspan => by rw [maskAt_snoc (h.within hspan)]]
    exact h.buttons

/-- A step that takes time. -/
lemma Compiles.span (h : Compiles fps steps state) (hkind : step.takesTime = true) {mask : UInt16}
    (hmask : mask = maskAt (steps ++ [step]) steps.length) (hspan : state.span fps steps.length step mask = .ok next) :
    Compiles fps (steps ++ [step]) next := by
  unfold CompileState.span at hspan
  dsimp only at hspan
  split_ifs at hspan with hzero hmany
  cases hspan
  have hheld : holdStep (heldMask steps) step = heldMask steps := by
    unfold holdStep
    cases hstep : step.kind with
    | wait => rfl
    | press => rfl
    | down => simp [TimelineStep.takesTime,hstep] at hkind
    | up => simp [TimelineStep.takesTime,hstep] at hkind
  refine ⟨?_,?_,fun span hspan => ?_,fun i span hspan => ?_,?_,?_⟩
  · rw [heldMask_snoc,hheld]
    exact h.held
  · rw [List.map_append,h.order,timedSteps_snoc,if_pos hkind]
    rfl
  · rcases List.mem_append.mp hspan with hbefore | hlast
    · obtain ⟨hpositive,source,hsource,hframes⟩ := h.lengths span hbefore
      refine ⟨hpositive,source,?_,hframes⟩
      rw [List.getElem?_append_left (h.within hbefore)]
      exact hsource
    · obtain rfl := List.mem_singleton.mp hlast
      refine ⟨Nat.pos_of_ne_zero hzero,step,?_,rfl⟩
      rw [List.getElem?_append_right (Nat.le_refl _),Nat.sub_self]
      rfl
  · dsimp only at hspan ⊢
    unfold start
    rw [List.map_append]
    by_cases hbefore : i < state.spans.length
    · rw [List.getElem?_append_left hbefore] at hspan
      rw [List.take_append_of_le_length (by rw [List.length_map]; omega)]
      exact h.placed i span hspan
    · rw [List.getElem?_append_right (by omega)] at hspan
      obtain ⟨hlast,hsame⟩ := List.getElem?_eq_some_iff.mp hspan
      rw [List.length_singleton] at hlast
      have hplace : i = (state.spans.map CompiledStepSpan.frames).length := by
        rw [List.length_map]
        omega
      rw [List.getElem_singleton] at hsame
      rw [hplace,List.take_left,← hsame]
      exact h.length
  · dsimp only
    rw [List.flatMap_append,List.flatMap_congr fun span hspan => by rw [maskAt_snoc (h.within hspan)],← h.buttons,
      List.flatMap_singleton,hmask]
  · rw [List.length_append,List.length_replicate]
    omega

lemma Compiles.compileStep (h : Compiles fps steps state)
    (hstep : Timeline.compileStep fps state steps.length step = .ok next) :
    Compiles fps (steps ++ [step]) next := by
  unfold Timeline.compileStep at hstep
  have hinstant : step.takesTime = false →
      Compiles fps (steps ++ [step]) { state with held := holdStep state.held step } :=
    h.instant
  unfold holdStep TimelineStep.takesTime at hinstant
  cases hkind : step.kind with
  | down =>
    rw [hkind] at hstep hinstant
    cases hstep
    exact hinstant rfl
  | up =>
    rw [hkind] at hstep hinstant
    cases hstep
    exact hinstant rfl
  | wait =>
    rw [hkind] at hstep
    refine h.span (by simp [TimelineStep.takesTime,hkind]) ?_ hstep
    rw [maskAt_last,hkind,if_neg (by decide)]
    exact h.held
  | press =>
    rw [hkind] at hstep
    refine h.span (by simp [TimelineStep.takesTime,hkind]) ?_ hstep
    rw [maskAt_last,hkind,if_pos rfl,h.held]

lemma Compiles.run (h : Compiles fps steps state) {rest : List TimelineStep}
    (hrest : compileSteps fps state steps.length rest = .ok next) : Compiles fps (steps ++ rest) next := by
  induction rest generalizing steps state with
  | nil =>
    cases hrest
    rw [List.append_nil]
    exact h
  | cons step rest ih =>
    unfold compileSteps at hrest
    cases hstep : Timeline.compileStep fps state steps.length step with
    | error =>
      rw [hstep] at hrest
      cases hrest
    | ok middle =>
      rw [hstep] at hrest
      have hall := ih (h.compileStep hstep) (by rw [List.length_append]; exact hrest)
      rw [List.append_assoc] at hall
      exact hall

lemma compiles (h : compileSteps fps {} 0 steps = .ok state) : Compiles fps steps state := by
  have hnone : Compiles fps [] {} :=
    ⟨rfl,rfl,fun _ hspan => (by cases hspan),fun _ _ hspan => (by cases hspan),rfl,Nat.zero_le _⟩
  exact hnone.run h

/-- Steps that compile compile to each of them. -/
lemma compileSteps_append {index : ℕ} {rest : List TimelineStep}
    (h : compileSteps fps state index (steps ++ rest) = .ok next) :
    ∃ middle, compileSteps fps state index steps = .ok middle := by
  induction steps generalizing state index with
  | nil => exact ⟨state,rfl⟩
  | cons step steps ih =>
    rw [List.cons_append] at h
    unfold compileSteps at h ⊢
    cases hstep : Timeline.compileStep fps state index step with
    | error =>
      rw [hstep] at h
      cases h
    | ok middle =>
      rw [hstep] at h
      exact ih h

end Compile

/-- A frame lies in a span. -/
def CompiledStepSpan.Holds (span : CompiledStepSpan) (frame : ℕ) : Prop :=
  span.firstFrame ≤ frame ∧ frame < span.firstFrame + span.frames

section Position
variable {spans : List CompiledStepSpan} {frame index : ℕ}

lemma positionFrom_cons (span : CompiledStepSpan) [Decidable (span.Holds frame)] :
    positionFrom frame index (span :: spans) =
      if span.Holds frame then some ⟨index,span.step,span.firstFrame + span.frames - frame⟩
      else positionFrom frame (index + 1) spans := by
  have hholds : (span.firstFrame ≤ frame ∧ frame - span.firstFrame < span.frames) ↔ span.Holds frame := by
    unfold CompiledStepSpan.Holds
    omega
  exact if_congr hholds rfl rfl

lemma positionFrom_none (h : ∀ span ∈ spans, ¬span.Holds frame) : positionFrom frame index spans = none := by
  classical
  induction spans generalizing index with
  | nil => rfl
  | cons span spans ih =>
    rw [positionFrom_cons,if_neg (h span List.mem_cons_self)]
    exact ih fun other hother => h other (List.mem_cons_of_mem _ hother)

lemma positionFrom_some {i : ℕ} {span : CompiledStepSpan} (hspan : spans[i]? = some span) (hholds : span.Holds frame)
    (hunique : ∀ j other, spans[j]? = some other → other.Holds frame → j = i) :
    positionFrom frame index spans = some ⟨index + i,span.step,span.firstFrame + span.frames - frame⟩ := by
  classical
  induction spans generalizing index i with
  | nil => cases hspan
  | cons first spans ih =>
    rw [positionFrom_cons]
    cases i with
    | zero =>
      obtain rfl : first = span := Option.some.inj hspan
      rw [if_pos hholds,Nat.add_zero]
    | succ i =>
      have hnot : ¬first.Holds frame := fun hfirst => absurd (hunique 0 first rfl hfirst) (by omega)
      rw [if_neg hnot,ih hspan fun j other hother hhere => Nat.succ_injective (hunique (j + 1) other hother hhere)]
      congr 2
      omega

lemma Compiles.covers_iff {fps : ℚ} {steps : List TimelineStep} {state : CompileState} (h : Compiles fps steps state)
    {i : ℕ} {span : CompiledStepSpan} (hspan : state.spans[i]? = some span) :
    Covers (state.spans.map CompiledStepSpan.frames) i frame ↔ span.Holds frame := by
  have hlength : (state.spans.map CompiledStepSpan.frames)[i]? = some span.frames := by
    rw [List.getElem?_map,hspan]
    rfl
  unfold Covers CompiledStepSpan.Holds
  rw [← h.placed i span hspan,hlength]
  exact ⟨fun ⟨length,heq,hholds⟩ => Option.some.inj heq ▸ hholds,fun hholds => ⟨span.frames,rfl,hholds⟩⟩

/-- Each frame is in one span, and has its mask. -/
lemma Compiles.masked {fps : ℚ} {steps : List TimelineStep} {state : CompileState} (h : Compiles fps steps state)
    (hframe : frame < state.buttons.length) : ∃ (i : ℕ) (span : CompiledStepSpan),
      state.spans[i]? = some span ∧ span.Holds frame ∧
      (∀ (j : ℕ) (other : CompiledStepSpan), state.spans[j]? = some other → other.Holds frame → j = i) ∧
      state.buttons[frame]? = some (maskAt steps span.step) := by
  rw [h.length] at hframe
  obtain ⟨i,hcovers⟩ := exists_covers hframe
  obtain ⟨frames,hframes,_⟩ := id hcovers
  rw [List.getElem?_map,Option.map_eq_some_iff] at hframes
  obtain ⟨span,hspan,_⟩ := hframes
  refine ⟨i,span,hspan,(h.covers_iff hspan).mp hcovers,fun j other hother hholds => ?_,?_⟩
  · exact ((h.covers_iff hother).mpr hholds).unique hcovers
  · rw [h.buttons]
    exact getElem?_flatMap_replicate hspan hcovers

end Position

section Bytes
variable {buttons : List UInt16}

lemma length_maskBytes : (buttons.flatMap maskBytes).length = 2 * buttons.length := by
  induction buttons with
  | nil => rfl
  | cons mask buttons ih =>
    rw [List.flatMap_cons,List.length_append,ih,List.length_cons]
    have hmask : (maskBytes mask).length = 2 := rfl
    omega

lemma getElem?_maskBytes (frame : ℕ) :
    (buttons.flatMap maskBytes)[2 * frame]? = buttons[frame]?.map (fun mask : UInt16 => (mask &&& 0xff).toUInt8) ∧
      (buttons.flatMap maskBytes)[2 * frame + 1]? =
        buttons[frame]?.map (fun mask : UInt16 => (mask >>> 8).toUInt8) := by
  induction buttons generalizing frame with
  | nil => exact ⟨rfl,rfl⟩
  | cons mask buttons ih =>
    cases frame with
    | zero => exact ⟨rfl,rfl⟩
    | succ frame => exact ih frame

lemma mask_of_bytes (mask : UInt16) :
    (mask &&& 0xff).toUInt8.toUInt16 ||| (mask >>> 8).toUInt8.toUInt16 <<< 8 = mask := by
  have hmask : mask.toNat < 65536 := mask.toNat_lt
  have hlow : (mask.toNat &&& 255) % 256 = mask.toNat % 256 :=
    (congrArg (· % 256) (Nat.and_two_pow_sub_one_eq_mod mask.toNat 8)).trans (Nat.mod_mod _ _)
  have hhigh : mask.toNat >>> 8 % 256 = mask.toNat / 256 := by
    rw [Nat.shiftRight_eq_div_pow]
    omega
  have hplace : (mask.toNat / 256) <<< 8 % 65536 = (mask.toNat / 256) <<< 8 := by
    rw [Nat.shiftLeft_eq]
    omega
  have hbytes : (mask.toNat / 256) <<< 8 + mask.toNat % 256 = (mask.toNat / 256) <<< 8 ||| mask.toNat % 256 :=
    Nat.shiftLeft_add_eq_or_of_lt (Nat.mod_lt _ (by decide)) _
  apply UInt16.toNat_inj.mp
  simp only [UInt16.toNat_or,UInt16.toNat_shiftLeft,UInt8.toNat_toUInt16,UInt16.toNat_toUInt8,UInt16.toNat_and,
    UInt16.toNat_shiftRight,UInt16.toNat_ofNat,Nat.reducePow,Nat.reduceMod]
  rw [hlow,hhigh,hplace,Nat.or_comm,← hbytes,Nat.shiftLeft_eq]
  omega

lemma reads_back (hfirst : minRecordingFrames ≤ buttons.length) (hlast : buttons.length ≤ maxRecordingFrames) :
    ∃ source, makeRecordingInputSource (buttons.flatMap maskBytes) ⟨buttons.length,0,2 * buttons.length⟩ = .ok source ∧
      ∀ count, (source.advance count).next.1 = (buttons[count]?).map fun mask => ⟨count,mask⟩ := by
  have hwithin : (!(RecordingByteRange.mk 0 (2 * buttons.length)).within (buttons.flatMap maskBytes)) = false := by
    unfold RecordingByteRange.within
    rw [length_maskBytes]
    simp
  unfold makeRecordingInputSource
  rw [if_neg (by dsimp only; omega),dif_neg (by dsimp only; omega),dif_neg (by rw [hwithin]; exact Bool.false_ne_true)]
  refine ⟨_,rfl,fun count => ?_⟩
  rw [RecordingInputSource.next_advance rfl]
  by_cases hmore : count < buttons.length
  · obtain ⟨hlow,hhigh⟩ := @getElem?_maskBytes buttons count
    have hmask : buttons[count]? = some buttons[count] := List.getElem?_eq_getElem hmore
    rw [hmask] at hlow hhigh ⊢
    rw [dif_pos hmore]
    unfold RecordingInputSource.input
    obtain ⟨_,hlow⟩ := List.getElem?_eq_some_iff.mp hlow
    obtain ⟨_,hhigh⟩ := List.getElem?_eq_some_iff.mp hhigh
    simp only [List.getElem_take,List.drop_zero,hlow,hhigh,mask_of_bytes,Option.map_some]
  · rw [dif_neg hmore,List.getElem?_eq_none (Nat.le_of_not_lt hmore)]
    rfl

end Bytes

/-- What a text that is parsed and compiled plays. -/
structure Plays (text : List Char) (timeline : PadTimeline) (fps : ℚ) (compiled : CompiledTimeline) : Prop where
  /-- The steps that take time have a span each, in their order. -/
  order : compiled.spans.map CompiledStepSpan.step = timedSteps timeline.steps
  lengths : ∀ span ∈ compiled.spans, 0 < span.frames ∧
    ∃ step, timeline.steps[span.step]? = some step ∧ span.frames = step.framesAt fps
  /-- Each span begins where those before it end, and they all end with the frames. -/
  contiguous : ∀ i span, compiled.spans[i]? = some span →
    span.firstFrame = ((compiled.spans.map CompiledStepSpan.frames).take i).sum
  total : (compiled.spans.map CompiledStepSpan.frames).sum = compiled.frames
  /-- A frame lies in one span, which its position tells. -/
  position : ∀ frame < compiled.frames, ∃ (i : ℕ) (span : CompiledStepSpan),
    compiled.spans[i]? = some span ∧ span.Holds frame ∧
    (∀ (j : ℕ) (other : CompiledStepSpan), compiled.spans[j]? = some other → other.Holds frame → j = i) ∧
    timelinePosition compiled frame = some ⟨i,span.step,span.firstFrame + span.frames - frame⟩
  ended : ∀ frame, compiled.frames ≤ frame → timelinePosition compiled frame = none
  /-- The buttons of a frame are those put down before its step and not up yet, and those that its step presses. -/
  buttons : compiled.buttons.length = compiled.frames ∧ ∀ span ∈ compiled.spans, ∀ frame, span.Holds frame →
    ∃ mask step, compiled.buttons[frame]? = some mask ∧ timeline.steps[span.step]? = some step ∧
      ∀ bit, pressed mask bit = true ↔
        StillDown (timeline.steps.take span.step) bit ∨ (step.kind = .press ∧ pressed step.buttons bit = true)
  /-- The compiled bytes are read back as the buttons, one frame after the other. -/
  input : ∃ source, makeTimelineInputSource compiled = .ok source ∧
    ∀ count, (source.advance count).next.1 = (compiled.buttons[count]?).map fun mask => ⟨count,mask⟩
  /-- After any of its lines, the text was parsed to the mask that the steps so far compile to. -/
  held : ∀ lines rest, linesOf text = lines ++ rest → ∃ state compiling, parseLines {} lines = .ok state ∧
    state.timeline.steps <+: timeline.steps ∧ compileSteps fps {} 0 state.timeline.steps = .ok compiling ∧
    state.held = compiling.held

section Plays
variable {text : List Char} {timeline : PadTimeline} {fps : ℚ} {compiled : CompiledTimeline}

lemma parsePadTimeline_ok (h : parsePadTimeline text = .ok timeline) :
    ∃ state, parseLines {} (linesOf text) = .ok state ∧ state.timeline = timeline := by
  unfold parsePadTimeline at h
  split_ifs at h
  cases hlines : parseLines {} (linesOf text) with
  | error =>
    rw [hlines] at h
    cases h
  | ok state =>
    rw [hlines] at h
    dsimp only at h
    split_ifs at h
    cases h
    exact ⟨state,rfl,rfl⟩

lemma compilePadTimeline_ok (h : compilePadTimeline timeline fps = .ok compiled) :
    ∃ state, compileSteps fps {} 0 timeline.steps = .ok state ∧ minRecordingFrames ≤ state.buttons.length ∧
      compiled = ⟨state.buttons,state.spans,state.buttons.flatMap maskBytes,fps,state.buttons.length⟩ := by
  unfold compilePadTimeline at h
  split_ifs at h
  cases hsteps : compileSteps fps {} 0 timeline.steps with
  | error =>
    rw [hsteps] at h
    cases h
  | ok state =>
    rw [hsteps] at h
    dsimp only at h
    split_ifs at h with hframes
    cases h
    exact ⟨state,rfl,Nat.le_of_not_lt hframes,rfl⟩

lemma pressed_maskAt {steps : List TimelineStep} {index : ℕ} {step : TimelineStep} (hstep : steps[index]? = some step)
    (bit : ℕ) : pressed (maskAt steps index) bit = true ↔
      StillDown (steps.take index) bit ∨ (step.kind = .press ∧ pressed step.buttons bit = true) := by
  unfold maskAt
  rw [hstep,← pressed_heldMask]
  dsimp only
  split_ifs with hpress
  · rw [pressed_or,Bool.or_eq_true]
    simp [hpress]
  · simp [hpress]

/-- Every text that is parsed, at every frame rate at which it compiles, plays its steps. -/
theorem padTimeline_plays (hparse : parsePadTimeline text = .ok timeline)
    (hcompile : compilePadTimeline timeline fps = .ok compiled) : Plays text timeline fps compiled := by
  obtain ⟨parsed,hparsed,rfl⟩ := parsePadTimeline_ok hparse
  obtain ⟨state,hsteps,hframes,rfl⟩ := compilePadTimeline_ok hcompile
  have h := compiles hsteps
  refine ⟨h.order,h.lengths,h.placed,h.length.symm,fun frame hframe => ?_,fun frame hframe => ?_,
    ⟨rfl,fun span hspan frame hholds => ?_⟩,reads_back hframes h.bounded,fun lines rest hlines => ?_⟩
  · obtain ⟨i,span,hspan,hholds,hunique,_⟩ := h.masked hframe
    have hposition := @positionFrom_some state.spans frame 0 i span hspan hholds hunique
    rw [Nat.zero_add] at hposition
    exact ⟨i,span,hspan,hholds,hunique,hposition⟩
  · refine positionFrom_none fun span hspan hholds => ?_
    obtain ⟨i,hi⟩ := List.mem_iff_getElem?.mp hspan
    have hcovers := (h.covers_iff hi).mpr hholds
    exact absurd (h.length ▸ hcovers.lt_sum) (Nat.not_lt.mpr hframe)
  · obtain ⟨i,hi⟩ := List.mem_iff_getElem?.mp hspan
    have hcovers := (h.covers_iff hi).mpr hholds
    obtain ⟨j,other,hother,hhere,hunique,hmask⟩ := h.masked (h.length ▸ hcovers.lt_sum)
    obtain rfl := hunique i span hi hholds
    obtain rfl : span = other := Option.some.inj (hi.symm.trans hother)
    obtain ⟨_,step,hstep,_⟩ := h.lengths span hspan
    exact ⟨maskAt parsed.timeline.steps span.step,step,hmask,hstep,pressed_maskAt hstep⟩
  · rw [hlines] at hparsed
    obtain ⟨middle,hmiddle,hrest⟩ := parseLines_append hparsed
    obtain ⟨_,hheld⟩ := parseLines_continues hmiddle
    obtain ⟨later,hlater⟩ := (parseLines_continues hrest).1
    rw [← hlater] at hsteps
    obtain ⟨compiling,hcompiling⟩ := compileSteps_append hsteps
    exact ⟨middle,compiling,hmiddle,⟨later,hlater⟩,hcompiling,(hheld rfl).trans (compiles hcompiling).held.symm⟩

/-- A button held over a wait and another one pressed after it. -/
theorem padTimeline_plays_held : ∃ timeline compiled,
    parsePadTimeline "down a\nwait 50ms # three frames\npress b 1f\nup A".toList = .ok timeline ∧
      compilePadTimeline timeline 60 = .ok compiled ∧ compiled.buttons = [2,2,2,3] ∧
      Plays "down a\nwait 50ms # three frames\npress b 1f\nup A".toList timeline 60 compiled := by
  have hparse : parsePadTimeline "down a\nwait 50ms # three frames\npress b 1f\nup A".toList =
      .ok ⟨.powerOn,[⟨.down,2,none,1⟩,⟨.wait,0,some ⟨.seconds,1 / 20,0⟩,2⟩,⟨.press,1,some ⟨.frames,0,1⟩,3⟩,
        ⟨.up,2,none,4⟩]⟩ := by decide +kernel
  have hcompile : compilePadTimeline ⟨.powerOn,[⟨.down,2,none,1⟩,⟨.wait,0,some ⟨.seconds,1 / 20,0⟩,2⟩,
      ⟨.press,1,some ⟨.frames,0,1⟩,3⟩,⟨.up,2,none,4⟩]⟩ 60 =
      .ok ⟨[2,2,2,3],[⟨1,0,3⟩,⟨2,3,1⟩],[2,0,2,0,2,0,3,0],60,4⟩ := by decide +kernel
  exact ⟨_,_,hparse,hcompile,rfl,padTimeline_plays hparse hcompile⟩

end Plays
end AytherRuntime.Timeline
