import AytherRuntime.Inspection.KeyRouter

/-! The scripted input of an inspection: the steps of a script are performed one after the other, in the states that
they wait for, and a key is pressed again once when the pause that it asked for does not come. -/
namespace AytherRuntime.Inspection
open Machine

section Script

inductive ScriptTriggerKind
  | frame | paused | afterMs
  deriving DecidableEq, Repr

structure ScriptTrigger where
  kind : ScriptTriggerKind
  value : UInt64
  retryMs : Option UInt64 := none
  deriving DecidableEq, Repr

inductive ScriptActionKind
  | keyDown | keyUp | keyRepeat | focusLost | focusGained | minimize | restore | videoFail | audioRemoved | audioAdded
  | close | corruptCheckpoints | corruptVisualState | scroll
  deriving DecidableEq, Repr

inductive ScrollKey
  | wheelUp | wheelDown | pageUp | pageDown | home | «end»
  deriving DecidableEq, Repr

structure ScriptAction where
  kind : ScriptActionKind
  key : Key := .other
  count : UInt32 := 0
  scroll : ScrollKey := .home
  retry : Bool := false
  deriving DecidableEq, Repr

structure ScriptStep where
  trigger : ScriptTrigger
  action : ScriptAction
  deriving DecidableEq, Repr

/-- What a script sees of the take. -/
structure ScriptState (τ : Type) where
  position : Option UInt32
  paused : Bool
  now : τ

structure InputScript (τ : Type) where
  steps : List ScriptStep
  next : ℕ := 0
  lastFired : Option τ := none
  lastKey : Option Key := none
  retried : Option τ := none
  retries : ℕ := 0
  abandoned : Bool := false

-- whether at least so many milliseconds lie between the second reading of the clock and the first one
variable {τ : Type} (elapsed : τ → τ → UInt64 → Bool)

/-- The trigger holds; a pause that was asked for again may land later. -/
def ready (retried : Bool) (since : τ) (state : ScriptState τ) (trigger : ScriptTrigger) : Bool :=
  match trigger.kind with
  | .frame => state.position.any fun position => trigger.value ≤ position.toUInt64
  | .paused => state.paused && state.position.any fun position =>
      if retried then trigger.value ≤ position.toUInt64 else position.toUInt64 = trigger.value
  | .afterMs => elapsed state.now since trigger.value

/-- The key that is pressed last once the action is performed. -/
def ScriptAction.presses (action : ScriptAction) (key : Option Key) : Option Key :=
  if action.kind = .keyDown then some action.key else key

def pressedAgain (key : Key) : List ScriptAction :=
  [{ kind := .keyDown, key, retry := true },{ kind := .keyUp, key, retry := true }]

namespace InputScript
variable (script : InputScript τ) (state : ScriptState τ)

def finished : Bool := script.steps.length ≤ script.next

def fire (step : ScriptStep) : InputScript τ :=
  { script with
    next := script.next + 1
    lastFired := some state.now
    lastKey := step.action.presses script.lastKey
    retried := none }

/-- A step whose trigger does not hold: its key is pressed again, or the script is abandoned, or neither yet. -/
def await (since : τ) (trigger : ScriptTrigger) : InputScript τ × List ScriptAction :=
  match trigger.kind,trigger.retryMs with
  | .paused,some wait =>
    match script.retried with
    | none =>
      match script.lastKey with
      | none => (script,[])
      | some key =>
        if elapsed state.now since wait then
          ({ script with retried := some state.now, retries := script.retries + 1 },pressedAgain key)
        else (script,[])
    | some retried =>
      if elapsed state.now retried wait then ({ script with abandoned := true, next := script.steps.length },[])
      else (script,[])
  | _,_ => (script,[])

def dueFrom (script : InputScript τ) (since : τ) : List ScriptStep → InputScript τ × List ScriptAction
  | [] => (script,[])
  | step :: steps =>
    if ready elapsed script.retried.isSome since state step.trigger then
      let (last,actions) := dueFrom (script.fire state step) state.now steps
      (last,step.action :: actions)
    else script.await elapsed state since step.trigger

/-- The actions that are due now. -/
def due : InputScript τ × List ScriptAction :=
  let since := script.lastFired.getD state.now
  dueFrom elapsed state { script with lastFired := some since } since (script.steps.drop script.next)

end InputScript
end Script

section Performance
variable {τ : Type} (elapsed : τ → τ → UInt64 → Bool)

/-- A step in the state in which it was fired, behind a second press of the last key or not. -/
structure Fired (τ : Type) where
  step : ScriptStep
  state : ScriptState τ
  again : Bool

def Fired.performed (one : Fired τ) (key : Option Key) : List ScriptAction :=
  (if one.again then key.toList.flatMap pressedAgain else []) ++ [one.step.action]

/-- The actions of fired steps, with the keys that were pressed again between them. -/
def performed : Option Key → List (Fired τ) → List ScriptAction
  | _, [] => []
  | key, one :: rest => one.performed key ++ performed (one.step.action.presses key) rest

/-- The key that fired steps press last. -/
def keyOf (key : Option Key) (fired : List (Fired τ)) : Option Key :=
  fired.foldl (fun key one => one.step.action.presses key) key

/-- When the last of the steps was fired. -/
def sinceOf (since : τ) (fired : List (Fired τ)) : τ := fired.foldl (fun _ one => one.state.now) since

/-- A key may be pressed again for the step, and there is one. -/
def Retries (key : Option Key) (step : ScriptStep) : Prop :=
  step.trigger.kind = .paused ∧ step.trigger.retryMs.isSome = true ∧ key.isSome = true

/-- Each step was fired in a state in which its trigger held, since the one before it. -/
def Triggered (since : τ) (key : Option Key) : List (Fired τ) → Prop
  | [] => True
  | one :: rest => ready elapsed one.again since one.state one.step.trigger = true ∧
      (one.again = true → Retries key one.step) ∧ Triggered one.state.now (one.step.action.presses key) rest

variable {elapsed} {fired : List (Fired τ)} {since : τ} {key : Option Key}

lemma keyOf_snoc (key : Option Key) (fired : List (Fired τ)) (one : Fired τ) :
    keyOf key (fired ++ [one]) = one.step.action.presses (keyOf key fired) := by
  unfold keyOf
  rw [List.foldl_append]
  rfl

lemma sinceOf_snoc (since : τ) (fired : List (Fired τ)) (one : Fired τ) :
    sinceOf since (fired ++ [one]) = one.state.now := by
  unfold sinceOf
  rw [List.foldl_append]
  rfl

lemma performed_snoc (key : Option Key) (fired : List (Fired τ)) (one : Fired τ) :
    performed key (fired ++ [one]) = performed key fired ++ one.performed (keyOf key fired) := by
  induction fired generalizing key with
  | nil => exact List.append_nil _
  | cons first fired ih =>
    rw [List.cons_append,performed,performed,ih,List.append_assoc]
    rfl

lemma triggered_snoc {one : Fired τ} (h : Triggered elapsed since key fired)
    (hready : ready elapsed one.again (sinceOf since fired) one.state one.step.trigger = true)
    (hagain : one.again = true → Retries (keyOf key fired) one.step) :
    Triggered elapsed since key (fired ++ [one]) := by
  induction fired generalizing since key with
  | nil => exact ⟨hready,hagain,trivial⟩
  | cons first fired ih => exact ⟨h.1,h.2.1,ih h.2.2 hready hagain⟩

/-- A pause at its frame satisfies the step whether it was asked for again or not. -/
lemma ready_again {state : ScriptState τ} {trigger : ScriptTrigger} (retried : Bool)
    (h : ready elapsed retried since state trigger = false) : ready elapsed false since state trigger = false := by
  cases retried with
  | false => exact h
  | true =>
    obtain ⟨kind,value,retryMs⟩ := trigger
    cases kind with
    | frame => exact h
    | afterMs => exact h
    | paused =>
      unfold ready at h ⊢
      cases hpaused : state.paused with
      | false => rfl
      | true =>
        rw [hpaused] at h
        cases hposition : state.position with
        | none => rfl
        | some position =>
          rw [hposition] at h
          simp only [Bool.true_and,Option.any_some,if_true,decide_eq_false_iff_not] at h
          have hother : ¬position.toUInt64 = value := fun hsame => h (hsame ▸ UInt64.le_refl _)
          simpa using hother

/-- What a script has performed: some of its first steps, and it may wait for a pause that it asked for again. -/
structure Performs (elapsed : τ → τ → UInt64 → Bool) (steps : List ScriptStep) (first : ScriptState τ)
    (states : List (ScriptState τ)) (script : InputScript τ) (actions : List ScriptAction) (fired : List (Fired τ))
    (waiting : Bool) : Prop where
  whole : script.steps = steps
  front : fired.map Fired.step <+: steps
  states : ∀ one ∈ fired, one.state ∈ states
  triggered : Triggered elapsed first.now none fired
  actions : actions = performed none fired ++ if waiting then (keyOf none fired).toList.flatMap pressedAgain else []
  retries : script.retries = fired.countP Fired.again + waiting.toNat
  lastFired : script.lastFired = some (sinceOf first.now fired)
  lastKey : script.lastKey = keyOf none fired
  retried : script.retried.isSome = waiting
  waits : waiting = true → ∃ step, steps[fired.length]? = some step ∧ Retries (keyOf none fired) step
  next : script.abandoned = false → script.next = fired.length
  abandoned : script.abandoned = true → waiting = true ∧ script.next = steps.length

variable {steps : List ScriptStep} {first state : ScriptState τ} {states : List (ScriptState τ)}
  {script : InputScript τ}
  {actions : List ScriptAction} {waiting : Bool} {step : ScriptStep}

lemma Performs.going (h : Performs elapsed steps first states script actions fired waiting)
    (hstep : steps[script.next]? = some step) : script.abandoned = false := by
  by_contra habandoned
  rw [(h.abandoned (Bool.not_eq_false _ ▸ habandoned)).2,List.getElem?_length] at hstep
  cases hstep

lemma Performs.fire (h : Performs elapsed steps first states script actions fired waiting) (hstate : state ∈ states)
    (hstep : steps[script.next]? = some step)
    (hready : ready elapsed waiting (sinceOf first.now fired) state step.trigger = true) :
    Performs elapsed steps first states (script.fire state step) (actions ++ [step.action])
      (fired ++ [⟨step,state,waiting⟩]) false := by
  have hgoing := h.going hstep
  have hnext := h.next hgoing
  rw [hnext] at hstep
  have hagain : waiting = true → Retries (keyOf none fired) step := fun hwaiting => by
    obtain ⟨other,hother,hretries⟩ := h.waits hwaiting
    rw [hstep] at hother
    exact Option.some.inj hother ▸ hretries
  refine ⟨h.whole,?_,?_,triggered_snoc h.triggered hready hagain,?_,?_,?_,?_,rfl,fun hwaiting => ?_,fun _ => ?_,
    fun habandoned => ?_⟩
  · obtain ⟨rest,hrest⟩ := h.front
    rw [← hrest,List.getElem?_append_right (Nat.le_of_eq (List.length_map _)),List.length_map,Nat.sub_self,
      ← List.head?_eq_getElem?] at hstep
    obtain ⟨later,rfl⟩ := List.head?_eq_some_iff.mp hstep
    rw [List.map_append,← hrest]
    exact ⟨later,List.append_assoc _ _ _⟩
  · exact List.forall_mem_append.mpr ⟨h.states,List.forall_mem_singleton.mpr hstate⟩
  · rw [performed_snoc,h.actions,List.append_assoc]
    cases waiting <;> simp [Fired.performed]
  · change script.retries = _
    rw [h.retries,List.countP_append]
    cases waiting <;> rfl
  · rw [sinceOf_snoc]
    rfl
  · change step.action.presses script.lastKey = _
    rw [keyOf_snoc,h.lastKey]
  · cases hwaiting
  · change script.next + 1 = _
    rw [hnext,List.length_append]
    rfl
  · rw [show script.abandoned = true from habandoned] at hgoing
    cases hgoing

lemma Performs.await (h : Performs elapsed steps first states script actions fired waiting)
    (hstep : steps[script.next]? = some step) (state : ScriptState τ) :
    ∃ waiting, Performs elapsed steps first states
        (script.await elapsed state (sinceOf first.now fired) step.trigger).1
        (actions ++ (script.await elapsed state (sinceOf first.now fired) step.trigger).2) fired waiting ∧
      ∀ other, steps[(script.await elapsed state (sinceOf first.now fired) step.trigger).1.next]? = some other →
        other = step := by
  have hsame : Performs elapsed steps first states script (actions ++ []) fired waiting := by
    rwa [List.append_nil]
  have hstays : ∀ other, steps[script.next]? = some other → other = step := fun other hother =>
    Option.some.inj (hother.symm.trans hstep)
  have hnext := h.next (h.going hstep)
  unfold InputScript.await
  split
  · rename_i wait hkind hwait
    split
    · rename_i hretried
      have hwaiting : waiting = false := by
        rw [← h.retried,hretried]
        rfl
      subst hwaiting
      split
      · exact ⟨_,hsame,hstays⟩
      · rename_i key hkey
        have hlast : keyOf none fired = some key := h.lastKey.symm.trans hkey
        split
        · refine ⟨true,⟨h.whole,h.front,h.states,h.triggered,?_,?_,h.lastFired,h.lastKey,rfl,
            fun _ => ⟨step,hnext ▸ hstep,?_⟩,
            h.next,fun habandoned => ?_⟩,hstays⟩
          · rw [h.actions,hlast]
            simp
          · change script.retries + 1 = _
            rw [h.retries]
            rfl
          · exact ⟨hkind,by rw [hwait]; rfl,by rw [hlast]; rfl⟩
          · exact absurd (h.abandoned habandoned).1 Bool.false_ne_true
        · exact ⟨_,hsame,hstays⟩
    · rename_i retried hretried
      have hwaiting : waiting = true := by
        rw [← h.retried,hretried]
        rfl
      split
      · refine ⟨waiting,⟨h.whole,h.front,h.states,h.triggered,hsame.actions,h.retries,h.lastFired,h.lastKey,
          h.retried,h.waits,
          fun hgoing => absurd hgoing.symm Bool.false_ne_true,fun _ => ⟨hwaiting,congrArg List.length h.whole⟩⟩,
          fun other hother => ?_⟩
        change steps[script.steps.length]? = _ at hother
        rw [h.whole,List.getElem?_length] at hother
        cases hother
      · exact ⟨_,hsame,hstays⟩
  · exact ⟨_,hsame,hstays⟩

/-- The step that is next is not ready in the state. -/
def Idle (elapsed : τ → τ → UInt64 → Bool) (steps : List ScriptStep) (since : τ) (state : ScriptState τ)
    (script : InputScript τ) : Prop :=
  ∀ step, steps[script.next]? = some step → ready elapsed false since state step.trigger = false

lemma dueFrom_performs (hstate : state ∈ states) {remaining : List ScriptStep}
    (hremaining : remaining = steps.drop script.next)
    (h : Performs elapsed steps first states script actions fired waiting) :
    ∃ fired' waiting', Performs elapsed steps first states
        (InputScript.dueFrom elapsed state script (sinceOf first.now fired) remaining).1
        (actions ++ (InputScript.dueFrom elapsed state script (sinceOf first.now fired) remaining).2) fired' waiting' ∧
      Idle elapsed steps (sinceOf first.now fired') state
        (InputScript.dueFrom elapsed state script (sinceOf first.now fired) remaining).1 := by
  induction remaining generalizing script actions fired waiting with
  | nil =>
    refine ⟨fired,waiting,?_,fun step hstep => ?_⟩
    · rwa [InputScript.dueFrom,List.append_nil]
    · have hlength : steps.length ≤ script.next := List.drop_eq_nil_iff.mp hremaining.symm
      rw [InputScript.dueFrom,List.getElem?_eq_none hlength] at hstep
      cases hstep
  | cons step remaining ih =>
    have hstep : steps[script.next]? = some step := by
      rw [← List.head?_drop,← hremaining]
      rfl
    rw [InputScript.dueFrom,h.retried]
    cases hready : ready elapsed waiting (sinceOf first.now fired) state step.trigger with
    | true =>
      have hrest : remaining = steps.drop (script.fire state step).next := by
        change _ = steps.drop (script.next + 1)
        rw [← List.drop_drop,← hremaining]
        rfl
      obtain ⟨fired',waiting',hperforms,hidle⟩ := ih hrest (h.fire hstate hstep hready)
      rw [sinceOf_snoc,List.append_assoc] at hperforms
      rw [sinceOf_snoc] at hidle
      exact ⟨fired',waiting',hperforms,hidle⟩
    | false =>
      obtain ⟨waiting',hperforms,hother⟩ := h.await hstep state
      refine ⟨fired,waiting',hperforms,fun other hnext => ?_⟩
      rw [hother other hnext]
      exact ready_again waiting hready

lemma due_eq {since : τ} (h : script.lastFired = some since) (state : ScriptState τ) :
    script.due elapsed state = InputScript.dueFrom elapsed state script since (script.steps.drop script.next) := by
  obtain ⟨steps,next,lastFired,lastKey,retried,retries,abandoned⟩ := script
  obtain rfl : lastFired = some since := h
  rfl

/-- What the script has performed once the last of the states was shown to it. -/
lemma run_performs (steps : List ScriptStep) (first : ScriptState τ) (later : List (ScriptState τ)) :
    ∃ fired waiting, Performs elapsed steps first (first :: later)
        (final (InputScript.due elapsed) { steps } (first :: later))
        (emitted (InputScript.due elapsed) { steps } (first :: later)) fired waiting ∧
      Idle elapsed steps (sinceOf first.now fired) ((first :: later).getLast (List.cons_ne_nil _ _))
        (final (InputScript.due elapsed) { steps } (first :: later)) := by
  induction later using List.reverseRecOn with
  | nil =>
    have hstart : Performs elapsed steps first [first] { steps, lastFired := some first.now } [] [] false :=
      ⟨rfl,List.nil_prefix,List.forall_mem_nil _,trivial,rfl,rfl,rfl,rfl,rfl,
        fun hwaiting => absurd hwaiting Bool.false_ne_true,
        fun _ => rfl,fun habandoned => absurd habandoned Bool.false_ne_true⟩
    obtain ⟨fired,waiting,hperforms,hidle⟩ := dueFrom_performs (List.mem_singleton_self first) rfl hstart
    refine ⟨fired,waiting,?_,hidle⟩
    rw [emitted_cons,emitted_nil,List.append_nil]
    exact hperforms
  | append_singleton later state ih =>
    obtain ⟨fired,waiting,hperforms,-⟩ := ih
    have hmore : Performs elapsed steps first (first :: (later ++ [state]))
        (final (InputScript.due elapsed) { steps } (first :: later))
        (emitted (InputScript.due elapsed) { steps } (first :: later)) fired waiting :=
      { hperforms with
        states := fun one hone => List.mem_append_left [state] (hperforms.states one hone) }
    have hdue := @due_eq τ elapsed _ _ hperforms.lastFired state
    rw [hperforms.whole] at hdue
    have hstate : state ∈ first :: (later ++ [state]) := by simp
    obtain ⟨fired',waiting',hlast,hidle⟩ := dueFrom_performs hstate rfl hmore
    rw [← hdue] at hlast hidle
    refine ⟨fired',waiting',?_,?_⟩
    · rw [← List.cons_append,final_append,emitted_append]
      change Performs _ _ _ _ _ (_ ++ (_ ++ [])) _ _
      rw [List.append_nil]
      exact hlast
    · have hend : (first :: (later ++ [state])).getLast (List.cons_ne_nil _ _) = state := by simp
      rw [hend,← List.cons_append,final_append]
      exact hidle

/-- In every sequence of states a script performs its first steps in their order, each in a state in which its trigger
holds; a key is pressed again once at most for a step, and a script is abandoned only behind it. -/
theorem script_performed (steps : List ScriptStep) (first : ScriptState τ) (later : List (ScriptState τ)) :
    let script := final (InputScript.due elapsed) { steps } (first :: later)
    ∃ (fired : List (Fired τ)) (waiting : Bool), fired.map Fired.step <+: steps ∧
      (∀ one ∈ fired, one.state ∈ first :: later) ∧ Triggered elapsed first.now none fired ∧
      emitted (InputScript.due elapsed) { steps } (first :: later) =
        performed none fired ++ (if waiting then (keyOf none fired).toList.flatMap pressedAgain else []) ∧
      script.retries = fired.countP Fired.again + waiting.toNat ∧
      (waiting = true → ∃ step, steps[fired.length]? = some step ∧ Retries (keyOf none fired) step) ∧
      (script.finished = true ↔ script.abandoned = true ∨ fired.map Fired.step = steps) ∧
      (script.abandoned = true → waiting = true) ∧
      (script.finished = false → ∃ step, steps[fired.length]? = some step ∧
        ready elapsed false (sinceOf first.now fired) ((first :: later).getLast (List.cons_ne_nil _ _)) step.trigger =
          false) := by
  intro script
  obtain ⟨fired,waiting,h,hidle⟩ := @run_performs τ elapsed steps first later
  have hfinished : script.finished = true ↔ steps.length ≤ script.next := by
    rw [← h.whole]
    exact decide_eq_true_iff
  have hwhole : fired.map Fired.step = steps ↔ steps.length ≤ fired.length := by
    rw [← @List.length_map _ _ fired Fired.step]
    exact ⟨fun hsame => hsame ▸ Nat.le_refl _,fun hlength => h.front.eq_of_length_le hlength⟩
  refine ⟨fired,waiting,h.front,h.states,h.triggered,h.actions,h.retries,h.waits,?_,fun habandoned =>
    (h.abandoned habandoned).1,fun hgoing => ?_⟩
  · rw [hfinished,hwhole]
    cases habandoned : script.abandoned with
    | true => exact ⟨fun _ => Or.inl rfl,fun _ => Nat.le_of_eq (h.abandoned habandoned).2.symm⟩
    | false =>
      rw [h.next habandoned]
      exact ⟨Or.inr,fun hlast => hlast.resolve_left Bool.false_ne_true⟩
  · have hnext : script.next < steps.length := by
      by_contra hlength
      rw [hfinished.mpr (Nat.not_lt.mp hlength)] at hgoing
      cases hgoing
    have hstep := List.getElem?_eq_getElem hnext
    rw [← h.next (h.going hstep)]
    exact ⟨_,hstep,hidle _ hstep⟩

end Performance
end AytherRuntime.Inspection
