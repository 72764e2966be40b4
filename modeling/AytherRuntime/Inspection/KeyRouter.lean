import AytherRuntime.Inspection.Controller
import AytherRuntime.Library.History
import AytherRuntime.Library.Machine
import Mathlib.Logic.Function.Basic

/-! The keys of the replay window: which press becomes an action of the inspection, over every history of presses,
releases and changes of the focus. -/
namespace AytherRuntime.Inspection
open History Machine

section Router

inductive Key
  | space | left | right | up | down | info | other
  deriving DecidableEq, Repr

structure KeyRouter where
  pressed : Key → Bool := fun _ => false
  blocked : Key → Bool := fun _ => false
  focused : Bool := true
  /-- The two arrows were held together: none moves until both are released. -/
  arrowsLocked : Bool := false

namespace KeyRouter
variable (router : KeyRouter)

/-- An arrow that is pressed while the other one may be held. -/
def arrow (another : Key) (action : KeyAction) : KeyRouter × Option KeyAction :=
  let router := { router with arrowsLocked := router.arrowsLocked || router.pressed another }
  (router,if router.arrowsLocked then none else some action)

def keyDown (key : Key) (repeated captured : Bool) : KeyRouter × Option KeyAction :=
  if key = .other then (router,none)
  else
    let alreadyPressed := router.pressed key
    let router := { router with pressed := Function.update router.pressed key true }
    if repeated || alreadyPressed || !router.focused || router.blocked key then (router,none)
    else if captured then
      -- The press belongs to the control; the key stays unusable until it is released.
      ({ router with blocked := Function.update router.blocked key true },none)
    else
      match key with
      | .space => (router,some .toggle)
      | .info => (router,some .info)
      | .left => router.arrow .right .left
      | .right => router.arrow .left .right
      | .up | .down | .other => (router,none)

def keyUp (key : Key) : KeyRouter :=
  if key = .other then router
  else
    let router := { router with
      pressed := Function.update router.pressed key false
      blocked := Function.update router.blocked key false }
    if !router.pressed .left && !router.pressed .right then { router with arrowsLocked := false } else router

def focus (focused : Bool) : KeyRouter :=
  { router with
    blocked := if focused && !router.focused then router.pressed else router.blocked
    focused := focused }

end KeyRouter

/-- What the window hands to the router. -/
inductive RouterEvent
  | down (key : Key) (repeated captured : Bool)
  | up (key : Key)
  | focus (focused : Bool)
  deriving DecidableEq, Repr

def KeyRouter.handle (router : KeyRouter) : RouterEvent → KeyRouter × List KeyAction
  | .down key repeated captured =>
    ((router.keyDown key repeated captured).1,(router.keyDown key repeated captured).2.toList)
  | .up key => (router.keyUp key,[])
  | .focus focused => (router.focus focused,[])

end Router

section Histories

/-- The key was pressed and not released since. -/
def Held (key : Key) : List RouterEvent → Prop :=
  Since (fun _ event => ∃ repeated captured, event = .down key repeated captured) fun _ event => event = .up key

/-- The window has the focus: it is there at the start. -/
def Focused (history : List RouterEvent) : Prop :=
  ¬Since (fun _ event => event = .focus false) (fun _ event => event = .focus true) history

/-- A press that the window attends: a new one, with the focus, that no control takes. -/
structure Attended (history : List RouterEvent) (event : RouterEvent) (key : Key) : Prop where
  press : event = .down key false false
  focused : Focused history
  released : ¬Held key history

def Key.action : Key → Option KeyAction
  | .space => some .toggle
  | .info => some .info
  | .left => some .left
  | .right => some .right
  | .up | .down | .other => none

def Key.opposite : Key → Option Key
  | .left => some .right
  | .right => some .left
  | _ => none

/-- An arrow was attended while the other one was held, and they were not both released since. -/
def Locked : List RouterEvent → Prop :=
  Since (fun history event => ∃ arrow another, arrow.opposite = some another ∧ Attended history event arrow ∧
      Held another history)
    fun history event => ∃ key, event = .up key ∧ ¬Held .left (history ++ [event]) ∧ ¬Held .right (history ++ [event])

variable {history : List RouterEvent} {key another : Key}

lemma held_down {repeated captured : Bool} :
    Held key (history ++ [RouterEvent.down another repeated captured]) ↔ another = key ∨ Held key history := by
  rw [Held,since_snoc]
  simp [eq_comm]

lemma held_up : Held key (history ++ [RouterEvent.up another]) ↔ Held key history ∧ another ≠ key := by
  rw [Held,since_snoc]
  simp

lemma held_focus {focused : Bool} : Held key (history ++ [RouterEvent.focus focused]) ↔ Held key history := by
  rw [Held,since_snoc]
  simp

lemma focused_down {repeated captured : Bool} :
    Focused (history ++ [RouterEvent.down another repeated captured]) ↔ Focused history := by
  rw [Focused,since_snoc]
  simp [Focused]

lemma focused_up : Focused (history ++ [RouterEvent.up another]) ↔ Focused history := by
  rw [Focused,since_snoc]
  simp [Focused]

lemma focused_focus {focused : Bool} : Focused (history ++ [RouterEvent.focus focused]) ↔ focused = true := by
  rw [Focused,since_snoc]
  cases focused <;> simp

end Histories

section Remembers
variable {router : KeyRouter} {history : List RouterEvent}

/-- The router knows of its history which keys are held, the focus and the lock of the arrows; a key is blocked only
while it is held. -/
structure Remembers (router : KeyRouter) (history : List RouterEvent) : Prop where
  pressed : ∀ key, key ≠ .other → (router.pressed key = true ↔ Held key history)
  blocked : ∀ key, router.blocked key = true → router.pressed key = true
  focused : router.focused = true ↔ Focused history
  locked : router.arrowsLocked = true ↔ Locked history
  together : router.arrowsLocked = true → router.pressed .left = true ∨ router.pressed .right = true

lemma remembers_new : Remembers {} [] where
  pressed _ _ := ⟨fun h => absurd h Bool.false_ne_true,fun h => absurd h not_since_nil⟩
  blocked _ h := absurd h Bool.false_ne_true
  focused := ⟨fun _ => not_since_nil,fun _ => rfl⟩
  locked := ⟨fun h => absurd h Bool.false_ne_true,fun h => absurd h not_since_nil⟩
  together h := absurd h Bool.false_ne_true

/-- The guard of a press is that it is attended: a key that is not held is not blocked. -/
lemma Remembers.attended_iff (h : Remembers router history) {key : Key} (hkey : key ≠ .other)
    (repeated captured : Bool) :
    Attended history (.down key repeated captured) key ↔
      (repeated || router.pressed key || !router.focused || router.blocked key) = false ∧ captured = false := by
  have hpressed := h.pressed key hkey
  have hblocked := h.blocked key
  have hfocused := h.focused
  constructor
  · rintro ⟨hpress,hfocus,hreleased⟩
    cases hpress
    have hnot : router.pressed key = false := Bool.not_eq_true _ ▸ fun hheld => hreleased (hpressed.mp hheld)
    have hfree : router.blocked key = false := Bool.not_eq_true _ ▸ fun hheld => by simp [hblocked hheld] at hnot
    rw [hnot,hfree,hfocused.mpr hfocus]
    exact ⟨rfl,rfl⟩
  · rintro ⟨hguard,rfl⟩
    simp only [Bool.or_eq_false_iff,Bool.not_eq_false'] at hguard
    obtain ⟨⟨⟨rfl,hnot⟩,hfocus⟩,-⟩ := hguard
    refine ⟨rfl,hfocused.mp hfocus,fun hheld => ?_⟩
    rw [hpressed.mpr hheld] at hnot
    cases hnot

lemma locked_down {key : Key} {repeated captured : Bool} :
    Locked (history ++ [RouterEvent.down key repeated captured]) ↔
      (∃ another, key.opposite = some another ∧ Attended history (.down key repeated captured) key ∧
        Held another history) ∨ Locked history := by
  rw [Locked,since_snoc]
  constructor
  · rintro (⟨arrow,another,hopposite,hattended,hheld⟩ | ⟨hlocked,-⟩)
    · obtain rfl : key = arrow := (RouterEvent.down.inj hattended.press).1
      exact Or.inl ⟨another,hopposite,hattended,hheld⟩
    · exact Or.inr hlocked
  · rintro (⟨another,hopposite,hattended,hheld⟩ | hlocked)
    · exact Or.inl ⟨key,another,hopposite,hattended,hheld⟩
    · exact Or.inr ⟨hlocked,by simp⟩

lemma locked_up {key : Key} :
    Locked (history ++ [RouterEvent.up key]) ↔
      Locked history ∧
        (Held .left (history ++ [RouterEvent.up key]) ∨ Held .right (history ++ [RouterEvent.up key])) := by
  rw [Locked,since_snoc]
  constructor
  · rintro (⟨arrow,another,-,hattended,-⟩ | ⟨hlocked,hnot⟩)
    · cases hattended.press
    · refine ⟨hlocked,?_⟩
      by_contra hnone
      rw [not_or] at hnone
      exact hnot ⟨key,rfl,hnone⟩
  · rintro ⟨hlocked,hheld⟩
    refine Or.inr ⟨hlocked,?_⟩
    rintro ⟨-,-,hleft,hright⟩
    exact hheld.elim hleft hright

lemma locked_focus {focused : Bool} : Locked (history ++ [RouterEvent.focus focused]) ↔ Locked history := by
  rw [Locked,since_snoc]
  constructor
  · rintro (⟨arrow,another,-,hattended,-⟩ | ⟨hlocked,-⟩)
    · cases hattended.press
    · exact hlocked
  · exact fun hlocked => Or.inr ⟨hlocked,by simp⟩

end Remembers

section Runs
variable {router : KeyRouter} {history : List RouterEvent}

lemma keyDown_other (router : KeyRouter) (repeated captured : Bool) :
    router.keyDown .other repeated captured = (router,none) := rfl

/-- What a press does that is not attended: it is only held. -/
lemma Remembers.keyDown_unattended (h : Remembers router history) {key : Key} (hkey : key ≠ .other)
    {repeated captured : Bool}
    (hnot : ¬Attended history (.down key repeated captured) key) :
    (router.keyDown key repeated captured).2 = none ∧
      (router.keyDown key repeated captured).1.pressed = Function.update router.pressed key true ∧
      (router.keyDown key repeated captured).1.focused = router.focused ∧
      (router.keyDown key repeated captured).1.arrowsLocked = router.arrowsLocked ∧
      ∀ another, (router.keyDown key repeated captured).1.blocked another = true →
        router.blocked another = true ∨ another = key := by
  rw [h.attended_iff hkey] at hnot
  unfold KeyRouter.keyDown
  rw [if_neg hkey]
  dsimp only
  split
  · exact ⟨rfl,rfl,rfl,rfl,fun _ hblocked => Or.inl hblocked⟩
  · rename_i hguard
    have hcaptured : captured = true := by
      by_contra hfree
      exact hnot ⟨by simpa using hguard,by simpa using hfree⟩
    rw [if_pos hcaptured]
    refine ⟨rfl,rfl,rfl,rfl,fun another hblocked => ?_⟩
    by_cases hsame : another = key
    · exact Or.inr hsame
    · have hbefore : Function.update router.blocked key true another = true := hblocked
      rw [Function.update_of_ne hsame] at hbefore
      exact Or.inl hbefore

/-- What an attended press does: it acts, but an arrow that meets the other one locks them both. -/
lemma Remembers.keyDown_attended (h : Remembers router history) {key : Key} (hkey : key ≠ .other)
    {repeated captured : Bool}
    (hattended : Attended history (.down key repeated captured) key) :
    (router.keyDown key repeated captured).1.pressed = Function.update router.pressed key true ∧
      (router.keyDown key repeated captured).1.blocked = router.blocked ∧
      (router.keyDown key repeated captured).1.focused = router.focused ∧
      ((router.keyDown key repeated captured).1.arrowsLocked = true ↔
        router.arrowsLocked = true ∨ ∃ another, key.opposite = some another ∧ router.pressed another = true) ∧
      ((router.keyDown key repeated captured).2 =
        if key.opposite.isSome = true ∧ (router.keyDown key repeated captured).1.arrowsLocked = true then none
        else key.action) := by
  obtain ⟨hguard,rfl⟩ := (h.attended_iff hkey repeated captured).mp hattended
  unfold KeyRouter.keyDown
  have hopen : ¬(repeated || router.pressed key || !router.focused || router.blocked key) = true := by
    rw [hguard]
    exact Bool.false_ne_true
  rw [if_neg hkey]
  dsimp only
  rw [if_neg hopen,if_neg Bool.false_ne_true]
  cases key with
  | other => exact absurd rfl hkey
  | space | info | up | down => simp [Key.opposite,Key.action]
  | left => simp [KeyRouter.arrow,Key.opposite,Key.action,Function.update_of_ne]
  | right => simp [KeyRouter.arrow,Key.opposite,Key.action,Function.update_of_ne]

lemma Key.opposite_ne_other {key another : Key} (h : key.opposite = some another) : another ≠ .other := by
  cases key <;> simp [Key.opposite] at h <;> simp [← h]

lemma keyUp_eq (router : KeyRouter) {key : Key} (hkey : key ≠ .other) :
    (router.keyUp key).pressed = Function.update router.pressed key false ∧
      (router.keyUp key).blocked = Function.update router.blocked key false ∧
      (router.keyUp key).focused = router.focused ∧
      ((router.keyUp key).arrowsLocked = true ↔ router.arrowsLocked = true ∧
        ((router.keyUp key).pressed .left = true ∨ (router.keyUp key).pressed .right = true)) := by
  unfold KeyRouter.keyUp
  rw [if_neg hkey]
  dsimp only
  split
  · rename_i hfree
    simp only [Bool.and_eq_true,Bool.not_eq_true'] at hfree
    exact ⟨rfl,rfl,rfl,by simp [hfree]⟩
  · rename_i hheld
    refine ⟨rfl,rfl,rfl,⟨fun hlocked => ⟨hlocked,?_⟩,And.left⟩⟩
    by_contra hnone
    rw [not_or,Bool.not_eq_true,Bool.not_eq_true] at hnone
    obtain ⟨hleft,hright⟩ := hnone
    dsimp only at hleft hright
    exact hheld (by rw [hleft,hright]; rfl)

lemma Remembers.down (h : Remembers router history) (key : Key) (repeated captured : Bool) :
    Remembers (router.keyDown key repeated captured).1 (history ++ [RouterEvent.down key repeated captured]) := by
  have hopposite : ∀ another, key.opposite = some another → (router.pressed another = true ↔ Held another history) :=
    fun another hother => h.pressed another (Key.opposite_ne_other hother)
  by_cases hkey : key = .other
  · subst hkey
    rw [keyDown_other]
    refine ⟨fun key hother => ?_,h.blocked,?_,?_,h.together⟩
    · rw [held_down,h.pressed key hother]
      exact ⟨Or.inr,fun hheld => hheld.resolve_left fun hsame => hother hsame.symm⟩
    · rw [focused_down]
      exact h.focused
    · rw [locked_down,h.locked]
      exact ⟨Or.inr,fun hlocked => hlocked.resolve_left fun ⟨another,hnone,_⟩ => by cases hnone⟩
  have hpressed : ∀ router' : KeyRouter, router'.pressed = Function.update router.pressed key true →
      ∀ another, another ≠ .other →
        (router'.pressed another = true ↔ Held another (history ++ [RouterEvent.down key repeated captured])) := by
    intro router' hupdate another hother
    rw [held_down,hupdate,Function.update_apply]
    split
    · rename_i hsame
      exact ⟨fun _ => Or.inl hsame.symm,fun _ => rfl⟩
    · rename_i hne
      rw [h.pressed another hother]
      exact ⟨Or.inr,fun hheld => hheld.resolve_left fun hsame => hne hsame.symm⟩
  have hstill : ∀ another, router.pressed another = true → Function.update router.pressed key true another = true := by
    intro another hheld
    rw [Function.update_apply]
    split
    · rfl
    · exact hheld
  by_cases hattended : Attended history (.down key repeated captured) key
  · obtain ⟨hupdate,hblocked,hfocused,hlocked,-⟩ := h.keyDown_attended hkey hattended
    refine ⟨hpressed _ hupdate,fun another hother => ?_,?_,?_,fun htogether => ?_⟩
    · rw [hblocked] at hother
      rw [hupdate]
      exact hstill another (h.blocked another hother)
    · rw [hfocused,focused_down]
      exact h.focused
    · rw [hlocked,locked_down,h.locked]
      constructor
      · rintro (hbefore | ⟨another,hother,hheld⟩)
        · exact Or.inr hbefore
        · exact Or.inl ⟨another,hother,hattended,(hopposite another hother).mp hheld⟩
      · rintro (⟨another,hother,-,hheld⟩ | hbefore)
        · exact Or.inr ⟨another,hother,(hopposite another hother).mpr hheld⟩
        · exact Or.inl hbefore
    · rw [hupdate]
      rcases hlocked.mp htogether with hbefore | ⟨another,hother,-⟩
      · exact (h.together hbefore).imp (hstill _) (hstill _)
      · cases key with
        | left => exact Or.inl (Function.update_self ..)
        | right => exact Or.inr (Function.update_self ..)
        | space | up | down | info | other => cases hother
  · obtain ⟨-,hupdate,hfocused,hlocked,hblocked⟩ := h.keyDown_unattended hkey hattended
    refine ⟨hpressed _ hupdate,fun another hother => ?_,?_,?_,fun htogether => ?_⟩
    · rw [hupdate]
      rcases hblocked another hother with hbefore | rfl
      · exact hstill another (h.blocked another hbefore)
      · exact Function.update_self ..
    · rw [hfocused,focused_down]
      exact h.focused
    · rw [hlocked,locked_down,h.locked]
      refine ⟨Or.inr,fun hnow => hnow.resolve_left ?_⟩
      rintro ⟨another,-,hnow,-⟩
      exact hattended hnow
    · rw [hlocked] at htogether
      rw [hupdate]
      exact (h.together htogether).imp (hstill _) (hstill _)

lemma Remembers.up (h : Remembers router history) (key : Key) :
    Remembers (router.keyUp key) (history ++ [RouterEvent.up key]) := by
  have harrows : ∀ router' : KeyRouter,
      (∀ another, another ≠ .other →
        (router'.pressed another = true ↔ Held another (history ++ [RouterEvent.up key]))) →
      (router'.arrowsLocked = true ↔ router.arrowsLocked = true ∧
        (router'.pressed .left = true ∨ router'.pressed .right = true)) →
      (router'.arrowsLocked = true ↔ Locked (history ++ [RouterEvent.up key])) := by
    intro router' hpressed hlocked
    rw [hlocked,locked_up,h.locked,hpressed .left (by simp),hpressed .right (by simp)]
  by_cases hkey : key = .other
  · subst hkey
    have hpressed : ∀ another, another ≠ Key.other →
        (router.pressed another = true ↔ Held another (history ++ [RouterEvent.up .other])) := by
      intro another hother
      rw [held_up,h.pressed another hother]
      exact ⟨fun hheld => ⟨hheld,hother.symm⟩,And.left⟩
    refine ⟨hpressed,h.blocked,h.focused.trans focused_up.symm,?_,h.together⟩
    exact harrows router hpressed ⟨fun hlocked => ⟨hlocked,h.together hlocked⟩,And.left⟩
  · obtain ⟨hupdate,hblocked,hfocused,hlocked⟩ := keyUp_eq router hkey
    have hpressed : ∀ another, another ≠ Key.other →
        ((router.keyUp key).pressed another = true ↔ Held another (history ++ [RouterEvent.up key])) := by
      intro another hother
      rw [held_up,hupdate,Function.update_apply]
      split
      · rename_i hsame
        exact ⟨fun hnone => absurd hnone Bool.false_ne_true,fun hheld => absurd hsame.symm hheld.2⟩
      · rename_i hne
        rw [h.pressed another hother]
        exact ⟨fun hheld => ⟨hheld,fun hsame => hne hsame.symm⟩,And.left⟩
    refine ⟨hpressed,fun another hother => ?_,?_,harrows _ hpressed hlocked,fun htogether => (hlocked.mp htogether).2⟩
    · rw [hblocked,Function.update_apply] at hother
      rw [hupdate,Function.update_apply]
      split at hother
      · cases hother
      · rename_i hne
        rw [if_neg hne]
        exact h.blocked another hother
    · rw [hfocused,focused_up]
      exact h.focused

lemma Remembers.focus (h : Remembers router history) (focused : Bool) :
    Remembers (router.focus focused) (history ++ [RouterEvent.focus focused]) := by
  refine ⟨fun key hkey => ?_,fun key hblocked => ?_,?_,?_,h.together⟩
  · rw [held_focus]
    exact h.pressed key hkey
  · unfold KeyRouter.focus at hblocked ⊢
    dsimp only at hblocked ⊢
    split at hblocked
    · exact hblocked
    · exact h.blocked key hblocked
  · rw [focused_focus]
    exact Iff.rfl
  · rw [locked_focus]
    exact h.locked

lemma remembers_run (history : List RouterEvent) : Remembers (final KeyRouter.handle {} history) history := by
  induction history using List.reverseRecOn with
  | nil => exact remembers_new
  | append_singleton history event ih =>
    rw [final_append]
    cases event with
    | down key repeated captured => exact ih.down key repeated captured
    | up key => exact ih.up key
    | focus focused => exact ih.focus focused

/-- A press acts exactly when its key has an action, the window attends it, and, for an arrow, the other one is free. -/
lemma Remembers.acts_iff (h : Remembers router history) (key : Key) (repeated captured : Bool) (action : KeyAction) :
    (router.keyDown key repeated captured).2 = some action ↔
      key.action = some action ∧ Attended history (.down key repeated captured) key ∧
        ∀ another, key.opposite = some another → ¬Held another history ∧ ¬Locked history := by
  by_cases hkey : key = .other
  · subst hkey
    rw [keyDown_other]
    constructor
    · rintro ⟨⟩
    · rintro ⟨⟨⟩,-⟩
  by_cases hattended : Attended history (.down key repeated captured) key
  · obtain ⟨-,-,-,hlocked,hanswer⟩ := h.keyDown_attended hkey hattended
    rw [hanswer]
    cases hopposite : key.opposite with
    | none =>
      rw [if_neg (by simp)]
      exact ⟨fun haction => ⟨haction,hattended,fun another hother => by cases hother⟩,And.left⟩
    | some another =>
      have hheld := h.pressed another (Key.opposite_ne_other hopposite)
      have hfree : ¬(router.keyDown key repeated captured).1.arrowsLocked = true ↔
          ¬Held another history ∧ ¬Locked history := by
        rw [hlocked,h.locked,hopposite]
        constructor
        · intro hnot
          rw [not_or] at hnot
          exact ⟨fun hother => hnot.2 ⟨another,rfl,hheld.mpr hother⟩,hnot.1⟩
        · rintro ⟨hother,hunlocked⟩ (hbefore | ⟨_,⟨⟩,hnow⟩)
          · exact hunlocked hbefore
          · exact hother (hheld.mp hnow)
      by_cases hnow : (router.keyDown key repeated captured).1.arrowsLocked = true
      · rw [if_pos ⟨rfl,hnow⟩]
        constructor
        · rintro ⟨⟩
        · rintro ⟨-,-,hall⟩
          exact absurd hnow (hfree.mpr (hall another rfl))
      · rw [if_neg fun hboth => hnow hboth.2]
        refine ⟨fun haction => ⟨haction,hattended,?_⟩,And.left⟩
        rintro _ ⟨⟩
        exact hfree.mp hnow
  · rw [(h.keyDown_unattended hkey hattended).1]
    constructor
    · rintro ⟨⟩
    · rintro ⟨-,hnow,-⟩
      exact absurd hnow hattended

/-- In every history, a press is an action exactly when its key has one, the window attends it, and, for an arrow, the
other one is not held and both were released since they were held together. -/
theorem key_acts_iff (history : List RouterEvent) (key : Key) (repeated captured : Bool) (action : KeyAction) :
    ((final KeyRouter.handle {} history).keyDown key repeated captured).2 = some action ↔
      key.action = some action ∧ Attended history (.down key repeated captured) key ∧
        ∀ another, key.opposite = some another → ¬Held another history ∧ ¬Locked history :=
  (remembers_run history).acts_iff key repeated captured action

/-- A key acts once for each time that it is pressed: between two actions it is released. -/
lemma released_between {history between : List RouterEvent} {key : Key} {repeated captured repeated' captured' : Bool}
    {action : KeyAction}
    (h : ((final KeyRouter.handle {} (history ++ .down key repeated captured :: between)).keyDown key repeated'
      captured').2 = some action) : .up key ∈ between := by
  obtain ⟨-,hattended,-⟩ := ((remembers_run _).acts_iff key repeated' captured' action).mp h
  by_contra hnone
  refine hattended.released ⟨history,_,between,rfl,⟨repeated,captured,rfl⟩,fun mid later rest hsplit hup => hnone ?_⟩
  rw [hsplit,← hup]
  exact List.mem_append_right _ List.mem_cons_self

end Runs
end AytherRuntime.Inspection
