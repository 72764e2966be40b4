import AytherRuntime.Library.History
import AytherRuntime.Library.Machine
import Mathlib.Algebra.Ring.Int.Defs
import Mathlib.Data.List.FinRange

/-! The pad that the game sees: the levels of the keyboard and of the adopted gamepad through the input map, without the
buttons that are still held since the pause menu closed. -/
namespace AytherRuntime.Player
open History Machine

section Input

inductive JoypadButton
  | up | down | left | right | b | a | y | x | l | r | start | select | l2 | r2 | l3 | r3
  deriving DecidableEq, Repr

structure KeyboardBinding where
  action : JoypadButton
  scancode : ℕ
  deriving DecidableEq, Repr

structure GamepadBinding where
  action : JoypadButton
  button : ℕ
  deriving DecidableEq, Repr

def inputKeyboardBindingCount : ℕ := 12
def inputGamepadBindingCount : ℕ := 8

structure InputMap where
  keyboard : Fin inputKeyboardBindingCount → KeyboardBinding
  gamepad : Fin inputGamepadBindingCount → GamepadBinding
  /-- Backspace is one more Select key. -/
  legacySelectBackspace : Bool

/-- The levels that were polled, before the map. -/
structure MappedInputState where
  keyboard : Fin inputKeyboardBindingCount → Bool := fun _ => false
  gamepad : Fin inputGamepadBindingCount → Bool := fun _ => false
  dpadUp : Bool := false
  dpadDown : Bool := false
  dpadLeft : Bool := false
  dpadRight : Bool := false
  leftX : ℤ := 0
  leftY : ℤ := 0

def axisDeadzone : ℤ := 16000

/-- The buttons of the pad that `compose_input_state` sets. -/
def composeInputState (map : InputMap) (state : MappedInputState) (button : JoypadButton) : Bool :=
  (List.finRange inputKeyboardBindingCount).any
      (fun index => (map.keyboard index).action = button && state.keyboard index) ||
    (List.finRange inputGamepadBindingCount).any
      (fun index => (map.gamepad index).action = button && state.gamepad index) ||
    (button = .up && state.dpadUp) || (button = .down && state.dpadDown) ||
    (button = .left && state.dpadLeft) || (button = .right && state.dpadRight) ||
    (button = .left && decide (state.leftX < -axisDeadzone)) ||
      (button = .right && decide (axisDeadzone < state.leftX)) ||
    (button = .up && decide (state.leftY < -axisDeadzone)) || (button = .down && decide (axisDeadzone < state.leftY))

end Input

section Gate

/-- What was held when the game went on, and was not released since. -/
structure ResumeGate where
  held : MappedInputState := {}

def ResumeGate.arm (held : MappedInputState) : ResumeGate := ⟨{ held with leftX := 0, leftY := 0 }⟩

/-- One digital input: a mask stays while the input is held and drops when it is seen released. -/
def gateInput (masked value : Bool) : Bool × Bool :=
  if masked then if value then (true,false) else (false,value) else (masked,value)

/-- `filter`: the gate after it, and the levels that pass. -/
def ResumeGate.filter (gate : ResumeGate) (now : MappedInputState) : ResumeGate × MappedInputState :=
  let pass (level : MappedInputState → Bool) := gateInput (level gate.held) (level now)
  (⟨{ gate.held with
      keyboard := fun index => (pass fun state => state.keyboard index).1
      gamepad := fun index => (pass fun state => state.gamepad index).1
      dpadUp := (pass MappedInputState.dpadUp).1
      dpadDown := (pass MappedInputState.dpadDown).1
      dpadLeft := (pass MappedInputState.dpadLeft).1
      dpadRight := (pass MappedInputState.dpadRight).1 }⟩,
    { now with
      keyboard := fun index => (pass fun state => state.keyboard index).2
      gamepad := fun index => (pass fun state => state.gamepad index).2
      dpadUp := (pass MappedInputState.dpadUp).2
      dpadDown := (pass MappedInputState.dpadDown).2
      dpadLeft := (pass MappedInputState.dpadLeft).2
      dpadRight := (pass MappedInputState.dpadRight).2 })

def ResumeGate.active (gate : ResumeGate) : Bool :=
  (List.finRange inputKeyboardBindingCount).any gate.held.keyboard ||
    (List.finRange inputGamepadBindingCount).any gate.held.gamepad ||
    gate.held.dpadUp || gate.held.dpadDown || gate.held.dpadLeft || gate.held.dpadRight

end Gate

section Devices

/-- What the devices report: keys by scancode, and the buttons and sticks of each connected gamepad. -/
structure Devices where
  keyboard : ℕ → Bool
  gamepad : ℕ → ℕ → Bool
  leftX : ℕ → ℤ
  leftY : ℕ → ℤ

def scancodeBackspace : ℕ := 42
def gamepadButtonDpadUp : ℕ := 11
def gamepadButtonDpadDown : ℕ := 12
def gamepadButtonDpadLeft : ℕ := 13
def gamepadButtonDpadRight : ℕ := 14

/-- `read_raw` with the adopted gamepad, if there is one. -/
def InputMap.readRaw (map : InputMap) (adopted : Option ℕ) (devices : Devices) : MappedInputState :=
  let keyboard := fun index => devices.keyboard (map.keyboard index).scancode ||
    (map.legacySelectBackspace && decide ((map.keyboard index).action = .select) && devices.keyboard scancodeBackspace)
  match adopted with
  | none => { keyboard }
  | some which =>
    { keyboard
      gamepad := fun index => devices.gamepad which (map.gamepad index).button
      dpadUp := devices.gamepad which gamepadButtonDpadUp
      dpadDown := devices.gamepad which gamepadButtonDpadDown
      dpadLeft := devices.gamepad which gamepadButtonDpadLeft
      dpadRight := devices.gamepad which gamepadButtonDpadRight
      leftX := devices.leftX which
      leftY := devices.leftY which }

structure GameInput where
  gamepad : Option ℕ
  resumeGate : ResumeGate := {}

/-- What happens to the input: a gamepad comes (and may not open) or goes, the pause menu closes, a frame is played. -/
inductive InputEvent
  | gamepadAdded (which : ℕ) (opens : Bool)
  | gamepadRemoved (which : ℕ)
  | armResumeGate (devices : Devices)
  | poll (devices : Devices)

/-- `poll`: the gate after it, and the pad of the frame. -/
def GameInput.poll (map : InputMap) (input : GameInput) (devices : Devices) : GameInput × (JoypadButton → Bool) :=
  let (resumeGate,state) := input.resumeGate.filter (map.readRaw input.gamepad devices)
  ({ input with resumeGate },composeInputState map state)

def GameInput.handle (map : InputMap) (input : GameInput) : InputEvent → GameInput × List (JoypadButton → Bool)
  | .gamepadAdded which opens =>
    -- The first one is player 1.
    (if input.gamepad.isNone && opens then { input with gamepad := some which } else input,[])
  | .gamepadRemoved which => (if input.gamepad = some which then { input with gamepad := none } else input,[])
  | .armResumeGate devices => ({ input with resumeGate := .arm (map.readRaw input.gamepad devices) },[])
  | .poll devices => ((input.poll map devices).1,[(input.poll map devices).2])

end Devices

section Digital

/-- The inputs that are on or off: all but the stick. -/
inductive DigitalInput
  | keyboard (index : Fin inputKeyboardBindingCount)
  | gamepad (index : Fin inputGamepadBindingCount)
  | dpadUp | dpadDown | dpadLeft | dpadRight
  deriving DecidableEq

def MappedInputState.level (state : MappedInputState) : DigitalInput → Bool
  | .keyboard index => state.keyboard index
  | .gamepad index => state.gamepad index
  | .dpadUp => state.dpadUp
  | .dpadDown => state.dpadDown
  | .dpadLeft => state.dpadLeft
  | .dpadRight => state.dpadRight

/-- The button that an input stands for. -/
def InputMap.binds (map : InputMap) : DigitalInput → JoypadButton
  | .keyboard index => (map.keyboard index).action
  | .gamepad index => (map.gamepad index).action
  | .dpadUp => .up
  | .dpadDown => .down
  | .dpadLeft => .left
  | .dpadRight => .right

/-- The stick is past its dead zone in the direction of the button. -/
def MappedInputState.Leans (state : MappedInputState) : JoypadButton → Prop
  | .left => state.leftX < -axisDeadzone
  | .right => axisDeadzone < state.leftX
  | .up => state.leftY < -axisDeadzone
  | .down => axisDeadzone < state.leftY
  | _ => False

variable {map : InputMap} {start : GameInput} {history : List InputEvent} {input : DigitalInput}

/-- The level of an input when an event comes, with the gamepad that is adopted by then. -/
def levelAfter (map : InputMap) (start : GameInput) (history : List InputEvent) (devices : Devices) :
    DigitalInput → Bool :=
  (map.readRaw (final (GameInput.handle map) start history).gamepad devices).level

/-- The input was held when the menu closed, and no frame saw it released since. -/
def Masked (map : InputMap) (start : GameInput) (input : DigitalInput) : List InputEvent → Prop :=
  Since
    (fun history event => ∃ devices, event = .armResumeGate devices ∧ levelAfter map start history devices input = true)
    fun history event => ∃ devices, (event = .armResumeGate devices ∨ event = .poll devices) ∧
      levelAfter map start history devices input = false

lemma level_arm (held : MappedInputState) : (ResumeGate.arm held).held.level input = held.level input := by
  cases input <;> rfl

lemma level_filter (gate : ResumeGate) (now : MappedInputState) :
    (gate.filter now).1.held.level input = (gate.held.level input && now.level input) ∧
      (gate.filter now).2.level input = (now.level input && !gate.held.level input) := by
  have hpass : ∀ masked value : Bool, (gateInput masked value).1 = (masked && value) ∧
      (gateInput masked value).2 = (value && !masked) := by decide
  cases input <;> exact hpass _ _

lemma masked_arm {devices : Devices} :
    Masked map start input (history ++ [InputEvent.armResumeGate devices]) ↔
      levelAfter map start history devices input = true := by
  rw [Masked,since_snoc]
  constructor
  · rintro (⟨_,⟨⟩,hlevel⟩ | ⟨-,hnot⟩)
    · exact hlevel
    · by_contra hlevel
      exact hnot ⟨devices,Or.inl rfl,Bool.not_eq_true _ ▸ hlevel⟩
  · exact fun hlevel => Or.inl ⟨devices,rfl,hlevel⟩

lemma masked_poll {devices : Devices} :
    Masked map start input (history ++ [InputEvent.poll devices]) ↔
      Masked map start input history ∧ levelAfter map start history devices input = true := by
  rw [Masked,since_snoc]
  constructor
  · rintro (⟨_,⟨⟩,-⟩ | ⟨hmasked,hnot⟩)
    refine ⟨hmasked,?_⟩
    by_contra hlevel
    exact hnot ⟨devices,Or.inr rfl,Bool.not_eq_true _ ▸ hlevel⟩
  · rintro ⟨hmasked,hlevel⟩
    refine Or.inr ⟨hmasked,?_⟩
    rintro ⟨_,⟨⟨⟩⟩ | ⟨⟨⟩⟩,hreleased⟩
    rw [hlevel] at hreleased
    cases hreleased

/-- A gamepad that comes or goes masks nothing and releases nothing by itself. -/
lemma masked_other {event : InputEvent} (harm : ∀ devices, event ≠ .armResumeGate devices)
    (hpoll : ∀ devices, event ≠ .poll devices) :
    Masked map start input (history ++ [event]) ↔ Masked map start input history := by
  rw [Masked,since_snoc]
  constructor
  · rintro (⟨devices,hevent,-⟩ | ⟨hmasked,-⟩)
    · exact absurd hevent (harm devices)
    · exact hmasked
  · refine fun hmasked => Or.inr ⟨hmasked,?_⟩
    rintro ⟨devices,hevent | hevent,-⟩
    exacts [harm devices hevent,hpoll devices hevent]

/-- The gate holds what its history says. -/
lemma masked_run (hstart : start.resumeGate = {}) (history : List InputEvent) (input : DigitalInput) :
    (final (GameInput.handle map) start history).resumeGate.held.level input = true ↔
      Masked map start input history := by
  induction history using List.reverseRecOn with
  | nil =>
    have hnone : start.resumeGate.held.level input = false := by
      rw [hstart]
      cases input <;> rfl
    exact ⟨fun h => absurd (hnone.symm.trans h) Bool.false_ne_true,fun h => absurd h not_since_nil⟩
  | append_singleton history event ih =>
    rw [final_append]
    cases event with
    | armResumeGate devices =>
      rw [masked_arm,levelAfter]
      generalize final (GameInput.handle map) start history = state
      change (ResumeGate.arm (map.readRaw state.gamepad devices)).held.level input = true ↔ _
      rw [level_arm]
    | poll devices =>
      rw [masked_poll,← ih,levelAfter]
      generalize final (GameInput.handle map) start history = state
      change (state.resumeGate.filter (map.readRaw state.gamepad devices)).1.held.level input = true ↔ _
      rw [(level_filter _ _).1,Bool.and_eq_true]
    | gamepadAdded which opens =>
      rw [masked_other (by simp) (by simp),← ih]
      generalize final (GameInput.handle map) start history = state
      change (if _ then _ else state : GameInput).resumeGate.held.level input = true ↔ _
      split <;> rfl
    | gamepadRemoved which =>
      rw [masked_other (by simp) (by simp),← ih]
      generalize final (GameInput.handle map) start history = state
      change (if _ then _ else state : GameInput).resumeGate.held.level input = true ↔ _
      split <;> rfl

lemma active_iff (hstart : start.resumeGate = {}) (history : List InputEvent) :
    (final (GameInput.handle map) start history).resumeGate.active = true ↔
      ∃ input, Masked map start input history := by
  have hmasked := fun input => @masked_run map start hstart history input
  generalize (final (GameInput.handle map) start history).resumeGate = gate at hmasked ⊢
  simp only [ResumeGate.active,Bool.or_eq_true,List.any_eq_true,List.mem_finRange,true_and]
  constructor
  · rintro (((((⟨index,h⟩ | ⟨index,h⟩) | h) | h) | h) | h)
    exacts [⟨.keyboard index,(hmasked _).mp h⟩,⟨.gamepad index,(hmasked _).mp h⟩,⟨.dpadUp,(hmasked _).mp h⟩,
      ⟨.dpadDown,(hmasked _).mp h⟩,⟨.dpadLeft,(hmasked _).mp h⟩,⟨.dpadRight,(hmasked _).mp h⟩]
  · rintro ⟨input,h⟩
    rw [← hmasked] at h
    cases input with
    | keyboard index => exact Or.inl (Or.inl (Or.inl (Or.inl (Or.inl ⟨index,h⟩))))
    | gamepad index => exact Or.inl (Or.inl (Or.inl (Or.inl (Or.inr ⟨index,h⟩))))
    | dpadUp => exact Or.inl (Or.inl (Or.inl (Or.inr h)))
    | dpadDown => exact Or.inl (Or.inl (Or.inr h))
    | dpadLeft => exact Or.inl (Or.inr h)
    | dpadRight => exact Or.inr h

/-- A button of the pad is set by some input that stands for it, or by the stick. -/
lemma composeInputState_iff (map : InputMap) (state : MappedInputState) (button : JoypadButton) :
    composeInputState map state button = true ↔
      (∃ input, map.binds input = button ∧ state.level input = true) ∨ state.Leans button := by
  have hsplit : (∃ input, map.binds input = button ∧ state.level input = true) ↔
      (∃ index, (map.keyboard index).action = button ∧ state.keyboard index = true) ∨
      (∃ index, (map.gamepad index).action = button ∧ state.gamepad index = true) ∨
      (JoypadButton.up = button ∧ state.dpadUp = true) ∨ (JoypadButton.down = button ∧ state.dpadDown = true) ∨
      (JoypadButton.left = button ∧ state.dpadLeft = true) ∨
        (JoypadButton.right = button ∧ state.dpadRight = true) := by
    constructor
    · rintro ⟨input,hbinds,hlevel⟩
      cases input with
      | keyboard index => exact Or.inl ⟨index,hbinds,hlevel⟩
      | gamepad index => exact Or.inr (Or.inl ⟨index,hbinds,hlevel⟩)
      | dpadUp => exact Or.inr (Or.inr (Or.inl ⟨hbinds,hlevel⟩))
      | dpadDown => exact Or.inr (Or.inr (Or.inr (Or.inl ⟨hbinds,hlevel⟩)))
      | dpadLeft => exact Or.inr (Or.inr (Or.inr (Or.inr (Or.inl ⟨hbinds,hlevel⟩))))
      | dpadRight => exact Or.inr (Or.inr (Or.inr (Or.inr (Or.inr ⟨hbinds,hlevel⟩))))
    · rintro (⟨index,h⟩ | ⟨index,h⟩ | h | h | h | h)
      exacts [⟨.keyboard index,h⟩,⟨.gamepad index,h⟩,⟨.dpadUp,h⟩,⟨.dpadDown,h⟩,⟨.dpadLeft,h⟩,⟨.dpadRight,h⟩]
  rw [hsplit]
  unfold composeInputState
  simp only [Bool.or_eq_true,Bool.and_eq_true,List.any_eq_true,List.mem_finRange,true_and,decide_eq_true_eq]
  cases button <;> simp [MappedInputState.Leans,or_assoc]

end Digital

section Polls

/-- After every history of gamepads, resumes and frames, a button reaches the game exactly when some input that stands
for it is held and was released since the last resume that found it held, or the stick leans to it. -/
theorem poll_pressed_iff (map : InputMap) (adopted : Option ℕ) (history : List InputEvent) (devices : Devices)
    (button : JoypadButton) :
    ((final (GameInput.handle map) { gamepad := adopted } history).poll map devices).2 button = true ↔
      (∃ input, map.binds input = button ∧ levelAfter map { gamepad := adopted } history devices input = true ∧
        ¬Masked map { gamepad := adopted } input history) ∨
      (map.readRaw (final (GameInput.handle map) { gamepad := adopted } history).gamepad devices).Leans button := by
  have hmasked := fun input => @masked_run map { gamepad := adopted } rfl history input
  unfold levelAfter
  generalize final (GameInput.handle map) { gamepad := adopted } history = state at hmasked ⊢
  change composeInputState map (state.resumeGate.filter (map.readRaw state.gamepad devices)).2 button = true ↔ _
  generalize map.readRaw state.gamepad devices = now
  have hstick : (state.resumeGate.filter now).2.Leans button ↔ now.Leans button := by
    cases button <;> exact Iff.rfl
  rw [composeInputState_iff,hstick]
  refine or_congr_left (exists_congr fun input => and_congr_right fun _ => ?_)
  rw [(level_filter _ now).2,Bool.and_eq_true,Bool.not_eq_true',← hmasked input,Bool.not_eq_true]

end Polls
end AytherRuntime.Player
