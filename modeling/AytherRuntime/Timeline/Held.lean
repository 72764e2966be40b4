import AytherRuntime.Timeline.Compiler
import Mathlib.Data.List.Induction

/-! The buttons that the steps of a pad timeline hold down, and the mask of them that its parser tracks. -/
namespace AytherRuntime.Timeline

section Held

/-- A button of a mask. -/
def pressed (mask : UInt16) (bit : ℕ) : Bool := mask.toBitVec.getLsbD bit

lemma pressed_or (mask other : UInt16) (bit : ℕ) :
    pressed (mask ||| other) bit = (pressed mask bit || pressed other bit) := by
  unfold pressed
  rw [UInt16.toBitVec_or,BitVec.getLsbD_or]

lemma pressed_and_not (mask other : UInt16) (bit : ℕ) :
    pressed (mask &&& ~~~other) bit = (pressed mask bit && !pressed other bit) := by
  unfold pressed
  rw [UInt16.toBitVec_and,UInt16.toBitVec_not,BitVec.getLsbD_and,BitVec.getLsbD_not]
  by_cases hbit : bit < 16
  · rw [decide_eq_true hbit,Bool.true_and]
  · rw [BitVec.getLsbD_of_ge _ _ (by omega),Bool.false_and,Bool.false_and]

/-- A button was put down by some step, and no step after it let it up. -/
def StillDown (steps : List TimelineStep) (bit : ℕ) : Prop :=
  ∃ before step after, steps = before ++ step :: after ∧ (step.kind = .down ∧ pressed step.buttons bit = true) ∧
    ∀ later ∈ after, ¬(later.kind = .up ∧ pressed later.buttons bit = true)

lemma stillDown_snoc (steps : List TimelineStep) (step : TimelineStep) (bit : ℕ) :
    StillDown (steps ++ [step]) bit ↔ (step.kind = .down ∧ pressed step.buttons bit = true) ∨
      (StillDown steps bit ∧ ¬(step.kind = .up ∧ pressed step.buttons bit = true)) := by
  constructor
  · rintro ⟨before,first,after,hsplit,hdown,hkept⟩
    rcases List.eq_nil_or_concat after with rfl | ⟨middle,last,rfl⟩
    · obtain ⟨_,hsame⟩ := List.append_inj' hsplit rfl
      obtain rfl : step = first := (List.cons.inj hsame).1
      exact Or.inl hdown
    · rw [List.concat_eq_append,← List.cons_append,← List.append_assoc] at hsplit
      obtain ⟨hsteps,hlast⟩ := List.append_inj' hsplit rfl
      obtain rfl : step = last := (List.cons.inj hlast).1
      rw [List.concat_eq_append] at hkept
      exact Or.inr ⟨⟨before,first,middle,hsteps,hdown,fun later hlater => hkept later (List.mem_append_left _ hlater)⟩,
        hkept step (List.mem_append_right _ List.mem_cons_self)⟩
  · rintro (hdown | ⟨⟨before,first,after,hsplit,hdown,hkept⟩,hstep⟩)
    · exact ⟨steps,step,[],rfl,hdown,fun _ hlater => by cases hlater⟩
    · refine ⟨before,first,after ++ [step],?_,hdown,fun later hlater => ?_⟩
      · rw [hsplit,List.append_assoc,List.cons_append]
      · rcases List.mem_append.mp hlater with hmem | hmem
        · exact hkept later hmem
        · exact List.mem_singleton.mp hmem ▸ hstep

/-- The buttons held after a step. -/
def holdStep (held : UInt16) (step : TimelineStep) : UInt16 :=
  match step.kind with
  | .down => held ||| step.buttons
  | .up => held &&& ~~~step.buttons
  | _ => held

def heldMask (steps : List TimelineStep) : UInt16 := steps.foldl holdStep 0

lemma heldMask_snoc (steps : List TimelineStep) (step : TimelineStep) :
    heldMask (steps ++ [step]) = holdStep (heldMask steps) step := List.foldl_append

lemma pressed_heldMask (steps : List TimelineStep) (bit : ℕ) :
    pressed (heldMask steps) bit = true ↔ StillDown steps bit := by
  induction steps using List.reverseRecOn with
  | nil =>
    refine ⟨fun hpressed => ?_,?_⟩
    · have hnone : pressed 0 bit = false := BitVec.getLsbD_zero
      rw [heldMask,List.foldl_nil,hnone] at hpressed
      cases hpressed
    · rintro ⟨before,step,after,hsplit,_⟩
      exact absurd hsplit.symm (List.append_ne_nil_of_right_ne_nil _ (List.cons_ne_nil _ _))
  | append_singleton steps step ih =>
    rw [heldMask_snoc,stillDown_snoc,← ih]
    unfold holdStep
    cases hkind : step.kind with
    | down =>
      dsimp only
      rw [pressed_or,Bool.or_eq_true,Or.comm]
      simp
    | up =>
      dsimp only
      rw [pressed_and_not,Bool.and_eq_true]
      simp
    | wait => simp
    | press => simp

end Held

section Parsed
variable {state next : ParseState}

/-- The steps go on from those before, and the held mask is of the steps if it was. -/
def Continues (state next : ParseState) : Prop :=
  state.timeline.steps <+: next.timeline.steps ∧
    (state.held = heldMask state.timeline.steps → next.held = heldMask next.timeline.steps)

lemma continues_push (step : TimelineStep) :
    Continues state ({ state with held := holdStep state.held step }.push step) := by
  refine ⟨List.prefix_append _ _,fun hheld => ?_⟩
  have hnext : heldMask (state.timeline.steps ++ [step]) = holdStep state.held step := by
    rw [heldMask_snoc,hheld]
  exact hnext.symm

lemma parseStart_continues {arguments : List Char} (h : state.parseStart arguments = .ok next) :
    Continues state next := by
  unfold ParseState.parseStart at h
  dsimp only at h
  split_ifs at h
  all_goals
    cases h
    exact ⟨List.prefix_rfl,fun hheld => hheld⟩

lemma parseWait_continues {arguments : List Char} (h : state.parseWait arguments = .ok next) :
    Continues state next := by
  unfold ParseState.parseWait at h
  dsimp only at h
  split_ifs at h
  cases hduration : parseDuration (splitToken arguments).1 with
  | none =>
    rw [hduration] at h
    cases h
  | some duration =>
    rw [hduration] at h
    cases h
    exact continues_push { kind := .wait, duration := some duration, line := state.lineNumber }

lemma parsePress_continues {hold : Bool} {buttons : UInt16} {duration : List Char}
    (h : state.parsePress hold buttons duration = .ok next) : Continues state next := by
  unfold ParseState.parsePress at h
  split_ifs at h
  · cases h
    exact continues_push
      { kind := .press, buttons := buttons, duration := some ⟨.frames,0,defaultPressFrames⟩, line := state.lineNumber }
  · cases hduration : parseDuration duration with
    | none =>
      rw [hduration] at h
      cases h
    | some duration =>
      rw [hduration] at h
      cases h
      exact continues_push { kind := .press, buttons := buttons, duration := some duration, line := state.lineNumber }

lemma parseDown_continues {buttons : UInt16} (h : state.parseDown buttons = .ok next) : Continues state next := by
  unfold ParseState.parseDown at h
  split_ifs at h
  cases h
  exact continues_push { kind := .down, buttons := buttons, line := state.lineNumber }

lemma parseUp_continues {buttons : UInt16} (h : state.parseUp buttons = .ok next) : Continues state next := by
  unfold ParseState.parseUp at h
  split_ifs at h
  cases h
  exact continues_push { kind := .up, buttons := buttons, line := state.lineNumber }

lemma parseButtons_continues {keyword arguments : List Char} (h : state.parseButtons keyword arguments = .ok next) :
    Continues state next := by
  unfold ParseState.parseButtons at h
  dsimp only at h
  cases hbuttons : parseTimelineButtons (splitToken arguments).1 with
  | none =>
    rw [hbuttons] at h
    split_ifs at h
  | some buttons =>
    rw [hbuttons] at h
    split_ifs at h
    · exact parsePress_continues h
    · exact parseDown_continues h
    · exact parseUp_continues h

lemma parseContent_continues {raw : List Char} (h : state.parseContent raw = .ok next) : Continues state next := by
  unfold ParseState.parseContent at h
  dsimp only at h
  split_ifs at h
  · cases h
    exact ⟨List.prefix_rfl,fun hheld => hheld⟩
  · exact parseStart_continues h
  · exact parseWait_continues h
  · exact parseButtons_continues h

lemma ok_of_mapError {ε ε' α : Type} {result : Except ε α} {f : ε → ε'} {value : α}
    (h : result.mapError f = .ok value) : result = .ok value := by
  cases result with
  | error => cases h
  | ok other =>
    cases h
    rfl

lemma parseLine_continues {raw : List Char} (h : state.parseLine raw = .ok next) : Continues state next := by
  unfold ParseState.parseLine at h
  obtain ⟨hsteps,hheld⟩ := parseContent_continues (ok_of_mapError h)
  exact ⟨hsteps,hheld⟩

lemma parseLines_continues {lines : List (List Char)} (h : parseLines state lines = .ok next) :
    Continues state next := by
  induction lines generalizing state with
  | nil =>
    cases h
    exact ⟨List.prefix_rfl,fun hheld => hheld⟩
  | cons line lines ih =>
    unfold parseLines at h
    rw [List.foldlM_cons] at h
    cases hline : state.parseLine line with
    | error =>
      rw [hline] at h
      cases h
    | ok middle =>
      rw [hline] at h
      obtain ⟨hfirst,hheld⟩ := parseLine_continues hline
      obtain ⟨hrest,hheld'⟩ := ih h
      exact ⟨hfirst.trans hrest,fun hstate => hheld' (hheld hstate)⟩

/-- A text that is parsed to its end is parsed to the end of each of its lines, with the same steps so far. -/
lemma parseLines_append {lines rest : List (List Char)} (h : parseLines state (lines ++ rest) = .ok next) :
    ∃ middle, parseLines state lines = .ok middle ∧ parseLines middle rest = .ok next := by
  unfold parseLines at h ⊢
  rw [List.foldlM_append] at h
  cases hlines : lines.foldlM ParseState.parseLine state with
  | error =>
    rw [hlines] at h
    cases h
  | ok middle =>
    rw [hlines] at h
    exact ⟨middle,rfl,h⟩

end Parsed
end AytherRuntime.Timeline
