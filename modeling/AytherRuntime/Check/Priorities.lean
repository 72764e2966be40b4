import AytherRuntime.Check.Arbiter
import Mathlib.Data.List.Basic
import Mathlib.Tactic.SplitIfs
import Mathlib.Tactic.Push

/-! The arbiter over whole histories: which event decides a take and keeps deciding it, the reason that stops the
request, and what becomes of the controls. -/
namespace AytherRuntime.Check

inductive ArbiterEvent
  | beginTake
  | naturalEnd
  | cancel
  | fail (diagnostic : String) (interrupted : Bool)
  | confirm
  | queueControl
  | controlSent
  deriving DecidableEq

namespace Arbiter

def step (arbiter : Arbiter) : ArbiterEvent → Arbiter
  | .beginTake => arbiter.beginTake
  | .naturalEnd => arbiter.naturalEnd
  | .cancel => arbiter.cancel
  | .fail diagnostic interrupted => arbiter.fail diagnostic interrupted
  | .confirm => arbiter.confirm.2
  | .queueControl => arbiter.queueControl.2
  | .controlSent => arbiter.controlSent

/-- The arbiter after some events. -/
def after (events : List ArbiterEvent) : Arbiter := events.foldl step {}

/-- The outcome that a cancellation or a failure gives a take. -/
def verdict : ArbiterEvent → Option PlaybackOutcome
  | .cancel => some ⟨.cancelled,""⟩
  | .fail diagnostic interrupted => some ⟨if interrupted then .interrupted else .failed,diagnostic⟩
  | _ => none

/-- The events of one take: none of them begins another. -/
def SameTake (events : List ArbiterEvent) : Prop := ∀ event ∈ events, event ≠ .beginTake

/-- The controls queued since the last take began. -/
def queued : ℕ → List ArbiterEvent → ℕ
  | count, [] => count
  | _, .beginTake :: events => queued 0 events
  | count, .queueControl :: events => queued (count + 1) events
  | count, _ :: events => queued count events

/-- The controls sent since the last take began: those that were pending. -/
def sent : Arbiter → ℕ → List ArbiterEvent → ℕ
  | _, count, [] => count
  | arbiter, _, .beginTake :: events => sent (arbiter.step .beginTake) 0 events
  | arbiter, count, .controlSent :: events =>
    sent (arbiter.step .controlSent) (if 0 < arbiter.pendingControls then count + 1 else count) events
  | arbiter, count, event :: events => sent (arbiter.step event) count events

/-- What decides the take is settled: confirmed, cancelled or failed. -/
structure Decides (arbiter : Arbiter) (outcome : PlaybackOutcome) : Prop where
  playback : arbiter.playback = some outcome
  settled : arbiter.confirmed = true ∨ arbiter.cancelled = true ∨ arbiter.failure.isSome = true

variable {arbiter : Arbiter} {outcome : PlaybackOutcome}

lemma Decides.stopFor (h : arbiter.Decides outcome) (reason : Stop) : (arbiter.stopFor reason).Decides outcome := by
  refine ⟨(playback_stopFor arbiter reason).trans h.playback,?_⟩
  unfold Arbiter.stopFor
  split
  · exact h.settled
  · exact h.settled

/-- Nothing but the next take changes what is settled. -/
lemma Decides.step (h : arbiter.Decides outcome) {event : ArbiterEvent} (hevent : event ≠ .beginTake) :
    (arbiter.step event).Decides outcome := by
  cases event with
  | beginTake => exact absurd rfl hevent
  | naturalEnd =>
    have hkept : arbiter.naturalEnd = arbiter := by
      unfold Arbiter.naturalEnd
      rw [if_pos]
      rcases h.settled with hsettled | hsettled | hsettled <;> simp [hsettled]
    show arbiter.naturalEnd.Decides outcome
    rw [hkept]
    exact h
  | cancel =>
    have hkept : arbiter.cancel = arbiter.stopFor .cancellation := by
      unfold Arbiter.cancel
      dsimp only
      rw [if_neg]
      rcases h.settled with hsettled | hsettled | hsettled
      · simp [hsettled]
      · simp [hsettled]
      · simp [Option.isNone_iff_eq_none,Option.isSome_iff_ne_none.mp hsettled]
    show arbiter.cancel.Decides outcome
    rw [hkept]
    exact h.stopFor _
  | fail diagnostic interrupted =>
    have hkept : arbiter.fail diagnostic interrupted = arbiter := by
      unfold Arbiter.fail
      rw [if_pos]
      rcases h.settled with hsettled | hsettled | hsettled <;> simp [hsettled]
    show (arbiter.fail diagnostic interrupted).Decides outcome
    rw [hkept]
    exact h
  | confirm =>
    show arbiter.confirm.2.Decides outcome
    unfold Arbiter.confirm
    split
    · exact h
    · rw [h.playback]
      exact ⟨rfl,Or.inl rfl⟩
  | queueControl =>
    show arbiter.queueControl.2.Decides outcome
    unfold Arbiter.queueControl
    split
    · exact ⟨h.playback,h.settled⟩
    · exact ⟨h.playback,h.settled⟩
  | controlSent =>
    show arbiter.controlSent.Decides outcome
    unfold Arbiter.controlSent
    split
    · exact ⟨h.playback,h.settled⟩
    · exact h

lemma Decides.run (h : arbiter.Decides outcome) (events : List ArbiterEvent) (hevents : SameTake events) :
    (events.foldl Arbiter.step arbiter).Decides outcome := by
  induction events generalizing arbiter with
  | nil => exact h
  | cons event events ih =>
    obtain ⟨hevent,hevents⟩ := List.forall_mem_cons.mp hevents
    exact ih (h.step hevent) hevents

/-- A take that nothing has cancelled or failed. -/
structure Open (arbiter : Arbiter) : Prop where
  active : arbiter.takeActive = true
  cancelled : arbiter.cancelled = false
  failure : arbiter.failure = none

lemma Open.step (h : arbiter.Open) {event : ArbiterEvent} (hevent : verdict event = none) :
    (arbiter.step event).Open := by
  cases event with
  | beginTake => exact ⟨rfl,rfl,rfl⟩
  | cancel => cases hevent
  | fail diagnostic interrupted => cases hevent
  | naturalEnd =>
    show arbiter.naturalEnd.Open
    unfold Arbiter.naturalEnd
    split
    · exact h
    · exact ⟨h.active,h.cancelled,h.failure⟩
  | confirm =>
    show arbiter.confirm.2.Open
    unfold Arbiter.confirm
    split
    · exact h
    · split
      · exact ⟨h.active,h.cancelled,h.failure⟩
      · exact h
  | queueControl =>
    show arbiter.queueControl.2.Open
    unfold Arbiter.queueControl
    split
    · exact ⟨h.active,h.cancelled,h.failure⟩
    · exact ⟨h.active,h.cancelled,h.failure⟩
  | controlSent =>
    show arbiter.controlSent.Open
    unfold Arbiter.controlSent
    split
    · exact ⟨h.active,h.cancelled,h.failure⟩
    · exact h

lemma Open.run (h : arbiter.Open) (events : List ArbiterEvent) (hevents : ∀ event ∈ events, verdict event = none) :
    (events.foldl Arbiter.step arbiter).Open := by
  induction events generalizing arbiter with
  | nil => exact h
  | cons event events ih =>
    obtain ⟨hevent,hevents⟩ := List.forall_mem_cons.mp hevents
    exact ih (h.step hevent) hevents

/-- The first cancellation or failure before the confirmation decides, even over a natural end. -/
lemma Open.decides (h : arbiter.Open) (hconfirmed : arbiter.confirmed = false) {event : ArbiterEvent}
    (hevent : verdict event = some outcome) : (arbiter.step event).Decides outcome := by
  cases event with
  | cancel =>
    cases hevent
    have hdecided : arbiter.cancel = ({ arbiter with cancelled := true }.discardPending).stopFor .cancellation := by
      unfold Arbiter.cancel
      rw [h.active,hconfirmed,h.cancelled,h.failure]
      rfl
    show arbiter.cancel.Decides _
    rw [hdecided]
    refine Decides.stopFor ⟨?_,Or.inr (Or.inl rfl)⟩ _
    rw [playback_discardPending,playback]
    simp [hconfirmed]
  | fail diagnostic interrupted =>
    cases hevent
    show (arbiter.fail diagnostic interrupted).Decides _
    unfold Arbiter.fail
    rw [if_neg (by simp [h.active,hconfirmed,h.cancelled,h.failure])]
    refine Decides.stopFor ⟨?_,Or.inr (Or.inr rfl)⟩ _
    rw [playback_discardPending,playback]
    simp [hconfirmed,h.cancelled]
  | beginTake => cases hevent
  | naturalEnd => cases hevent
  | confirm => cases hevent
  | queueControl => cases hevent
  | controlSent => cases hevent

lemma stopFor_confirmed (arbiter : Arbiter) (reason : Stop) :
    (arbiter.stopFor reason).confirmed = arbiter.confirmed := by
  unfold stopFor
  split <;> rfl

/-- A confirmed take stays confirmed until the next one. -/
lemma confirmed_step (h : arbiter.confirmed = true) {event : ArbiterEvent} (hevent : event ≠ .beginTake) :
    (arbiter.step event).confirmed = true := by
  cases event with
  | beginTake => exact absurd rfl hevent
  | naturalEnd =>
    show arbiter.naturalEnd.confirmed = true
    unfold Arbiter.naturalEnd
    rwa [if_pos (by simp [h])]
  | cancel =>
    show arbiter.cancel.confirmed = true
    rwa [cancel_of_confirmed h,stopFor_confirmed]
  | fail diagnostic interrupted =>
    show (arbiter.fail diagnostic interrupted).confirmed = true
    unfold Arbiter.fail
    rwa [if_pos (by simp [h])]
  | confirm =>
    show arbiter.confirm.2.confirmed = true
    unfold Arbiter.confirm
    rwa [if_pos h]
  | queueControl =>
    show arbiter.queueControl.2.confirmed = true
    unfold Arbiter.queueControl
    split <;> exact h
  | controlSent =>
    show arbiter.controlSent.confirmed = true
    unfold Arbiter.controlSent
    split <;> exact h

lemma confirmed_run (h : arbiter.confirmed = true) (events : List ArbiterEvent) (hevents : SameTake events) :
    (events.foldl Arbiter.step arbiter).confirmed = true := by
  induction events generalizing arbiter with
  | nil => exact h
  | cons event events ih =>
    obtain ⟨hevent,hevents⟩ := List.forall_mem_cons.mp hevents
    exact ih (confirmed_step h hevent) hevents

lemma stopFor_kept (h : arbiter.stop ≠ .none) (reason : Stop) : (arbiter.stopFor reason).stop = arbiter.stop := by
  unfold stopFor
  rw [if_neg h]

/-- A reason that stops the request is never replaced. -/
lemma stop_step (h : arbiter.stop ≠ .none) (event : ArbiterEvent) : (arbiter.step event).stop = arbiter.stop := by
  cases event with
  | beginTake => rfl
  | naturalEnd =>
    show arbiter.naturalEnd.stop = arbiter.stop
    unfold Arbiter.naturalEnd
    split <;> rfl
  | cancel =>
    show arbiter.cancel.stop = arbiter.stop
    unfold Arbiter.cancel
    dsimp only
    split
    · refine stopFor_kept ?_ _
      exact h
    · exact stopFor_kept h _
  | fail diagnostic interrupted =>
    show (arbiter.fail diagnostic interrupted).stop = arbiter.stop
    unfold Arbiter.fail
    split
    · rfl
    · refine stopFor_kept ?_ _
      exact h
  | confirm => exact confirm_stop arbiter
  | queueControl =>
    show arbiter.queueControl.2.stop = arbiter.stop
    unfold Arbiter.queueControl
    split <;> rfl
  | controlSent =>
    show arbiter.controlSent.stop = arbiter.stop
    unfold Arbiter.controlSent
    split <;> rfl

lemma stop_run (h : arbiter.stop ≠ .none) (events : List ArbiterEvent) :
    (events.foldl Arbiter.step arbiter).stop = arbiter.stop := by
  induction events generalizing arbiter with
  | nil => rfl
  | cons event events ih =>
    have hstep := stop_step h event
    rw [List.foldl_cons,ih (by rwa [hstep]),hstep]

lemma stopFor_controls (arbiter : Arbiter) (reason : Stop) :
    (arbiter.stopFor reason).pendingControls = arbiter.pendingControls ∧
      (arbiter.stopFor reason).discardedControls = arbiter.discardedControls := by
  unfold stopFor
  split <;> exact ⟨rfl,rfl⟩

/-- Each control queued is pending, sent or discarded. -/
lemma controls_counted (events : List ArbiterEvent) {count sentCount : ℕ}
    (h : count = arbiter.pendingControls + sentCount + arbiter.discardedControls) :
    queued count events = (events.foldl Arbiter.step arbiter).pendingControls + sent arbiter sentCount events +
      (events.foldl Arbiter.step arbiter).discardedControls := by
  induction events generalizing arbiter count sentCount with
  | nil => exact h
  | cons event events ih =>
    rw [List.foldl_cons]
    cases event with
    | beginTake => exact ih rfl
    | naturalEnd =>
      refine ih ?_
      show count = arbiter.naturalEnd.pendingControls + sentCount + arbiter.naturalEnd.discardedControls
      unfold Arbiter.naturalEnd
      split <;> exact h
    | cancel =>
      refine ih ?_
      show count = arbiter.cancel.pendingControls + sentCount + arbiter.cancel.discardedControls
      unfold Arbiter.cancel
      dsimp only
      rw [(stopFor_controls _ _).1,(stopFor_controls _ _).2]
      split
      · unfold discardPending
        dsimp only
        omega
      · exact h
    | fail diagnostic interrupted =>
      refine ih ?_
      show count = (arbiter.fail diagnostic interrupted).pendingControls + sentCount +
        (arbiter.fail diagnostic interrupted).discardedControls
      unfold Arbiter.fail
      split
      · exact h
      · rw [(stopFor_controls _ _).1,(stopFor_controls _ _).2]
        unfold discardPending
        dsimp only
        omega
    | confirm =>
      refine ih ?_
      show count = arbiter.confirm.2.pendingControls + sentCount + arbiter.confirm.2.discardedControls
      unfold Arbiter.confirm
      split
      · exact h
      · split <;> exact h
    | queueControl =>
      refine ih ?_
      show count + 1 = arbiter.queueControl.2.pendingControls + sentCount + arbiter.queueControl.2.discardedControls
      unfold Arbiter.queueControl
      split
      · dsimp only
        omega
      · dsimp only
        omega
    | controlSent =>
      refine ih ?_
      show count = arbiter.controlSent.pendingControls + _ + arbiter.controlSent.discardedControls
      unfold Arbiter.controlSent
      split
      · dsimp only
        omega
      · exact h

/-- A natural end has ended the take, and neither a cancellation nor a failure has replaced it. -/
def EndedOnly (arbiter : Arbiter) : Prop :=
  arbiter.endedNaturally = true ∧ arbiter.cancelled = false ∧ arbiter.failure = none

instance (arbiter : Arbiter) : Decidable arbiter.EndedOnly := inferInstanceAs (Decidable (_ ∧ _))

/-- Nothing has ended the take. -/
structure Undecided (arbiter : Arbiter) : Prop where
  endedNaturally : arbiter.endedNaturally = false
  cancelled : arbiter.cancelled = false
  failure : arbiter.failure = none
  confirmed : arbiter.confirmed = false

/-- The flags of an arbiter that some events have led to. -/
structure Consistent (arbiter : Arbiter) : Prop where
  ended : arbiter.endedNaturally = true → arbiter.takeActive = true
  confirmed : arbiter.confirmed = true →
    arbiter.endedNaturally = true ∨ arbiter.cancelled = true ∨ arbiter.failure.isSome = true
  result : arbiter.confirmed = true → arbiter.confirmedResult.isSome = true

lemma Consistent.stopFor (h : arbiter.Consistent) (reason : Stop) : (arbiter.stopFor reason).Consistent := by
  unfold Arbiter.stopFor
  split <;> exact ⟨h.ended,h.confirmed,h.result⟩

lemma Consistent.step (h : arbiter.Consistent) (event : ArbiterEvent) : (arbiter.step event).Consistent := by
  cases event with
  | beginTake => exact ⟨fun _ => rfl,fun hconfirmed => (by cases hconfirmed),fun hconfirmed => (by cases hconfirmed)⟩
  | naturalEnd =>
    show arbiter.naturalEnd.Consistent
    unfold Arbiter.naturalEnd
    split
    · exact h
    · rename_i hended
      refine ⟨fun _ => ?_,fun _ => Or.inl rfl,h.result⟩
      simp only [Bool.or_eq_true,Bool.not_eq_true'] at hended
      show arbiter.takeActive = true
      by_contra hinactive
      exact hended (by simp [hinactive])
  | cancel =>
    show arbiter.cancel.Consistent
    unfold Arbiter.cancel
    refine Consistent.stopFor ?_ _
    split
    · exact ⟨h.ended,fun _ => Or.inr (Or.inl rfl),h.result⟩
    · exact h
  | fail diagnostic interrupted =>
    show (arbiter.fail diagnostic interrupted).Consistent
    unfold Arbiter.fail
    split
    · exact h
    · refine Consistent.stopFor ?_ _
      exact ⟨h.ended,fun _ => Or.inr (Or.inr rfl),h.result⟩
  | confirm =>
    show arbiter.confirm.2.Consistent
    unfold Arbiter.confirm
    split
    · exact h
    · split
      · rename_i hconfirmed outcome hplayback
        refine ⟨h.ended,fun _ => ?_,fun _ => rfl⟩
        unfold Arbiter.playback at hplayback
        split_ifs at hplayback with hcancelled hfailed hended
        · exact Or.inr (Or.inl hcancelled)
        · exact Or.inr (Or.inr hfailed)
        · exact Or.inl hended
      · exact h
  | queueControl =>
    show arbiter.queueControl.2.Consistent
    unfold Arbiter.queueControl
    split <;> exact ⟨h.ended,h.confirmed,h.result⟩
  | controlSent =>
    show arbiter.controlSent.Consistent
    unfold Arbiter.controlSent
    split
    · exact ⟨h.ended,h.confirmed,h.result⟩
    · exact h

lemma after_consistent (events : List ArbiterEvent) : (after events).Consistent := by
  have hrun : ∀ arbiter : Arbiter, arbiter.Consistent → (events.foldl Arbiter.step arbiter).Consistent := by
    induction events with
    | nil => exact fun _ h => h
    | cons event events ih => exact fun arbiter h => ih _ (h.step event)
  exact hrun {} ⟨fun hended => (by cases hended),fun hconfirmed => (by cases hconfirmed),fun hconfirmed =>
    (by cases hconfirmed)⟩

/-- An accepted control finds the take undecided, unless a natural end is all that has ended it. -/
lemma Consistent.accepts_undecided_iff (h : arbiter.Consistent) :
    (arbiter.queueControl.1 = true → arbiter.Undecided) ↔ ¬arbiter.EndedOnly := by
  unfold queueControl
  constructor
  · rintro haccepts ⟨hended,hcancelled,hfailure⟩
    rw [if_neg (by simp [h.ended hended,hcancelled,hfailure])] at haccepts
    simpa [hended] using (haccepts rfl).endedNaturally
  · intro hopen haccepted
    split at haccepted
    · cases haccepted
    · rename_i hrefused
      simp only [Bool.or_eq_true,not_or,Bool.not_eq_true,Option.isSome_eq_false_iff,
        Option.isNone_iff_eq_none] at hrefused
      obtain ⟨⟨-,hcancelled⟩,hfailure⟩ := hrefused
      have hended : arbiter.endedNaturally = false := by
        rw [← Bool.not_eq_true]
        exact fun hended => hopen ⟨hended,hcancelled,hfailure⟩
      refine ⟨hended,hcancelled,hfailure,?_⟩
      rw [← Bool.not_eq_true]
      intro hconfirmed
      rcases h.confirmed hconfirmed with hother | hother | hother
      · simp [hended] at hother
      · simp [hcancelled] at hother
      · simp [hfailure] at hother

lemma after_append (events more : List ArbiterEvent) : after (events ++ more) = more.foldl step (after events) :=
  List.foldl_append

/-- What the arbiter promises of a history. -/
structure KeepsPriorities (events : List ArbiterEvent) : Prop where
  decided : ∀ before early event late outcome, events = before ++ .beginTake :: early ++ event :: late →
    SameTake late → (∀ event ∈ early, verdict event = none) → verdict event = some outcome →
    (after (before ++ .beginTake :: early)).confirmed = false → (after events).playback = some outcome
  confirmed : ∀ before late, events = before ++ late → SameTake late → (after before).confirmed = true →
    (after events).confirmed = true ∧ (after events).playback = (after before).playback
  stop : ∀ before late, events = before ++ late → (after before).stop ≠ .none →
    (after events).stop = (after before).stop
  controls : queued 0 events = (after events).pendingControls + sent {} 0 events + (after events).discardedControls
  accepted : ∀ before late, events = before ++ .queueControl :: late → (after before).queueControl.1 = true →
    (after before).Undecided

/-- The arbiter keeps its promises in a history exactly when no control is queued once a natural end is all that has
ended the take. -/
theorem keepsPriorities_iff (events : List ArbiterEvent) :
    KeepsPriorities events ↔ ∀ before late, events = before ++ .queueControl :: late → ¬(after before).EndedOnly := by
  constructor
  · exact fun h before late hevents => (after_consistent before).accepts_undecided_iff.mp
      (h.accepted before late hevents)
  · intro h
    refine ⟨?_,?_,?_,controls_counted events rfl,fun before late hevents =>
      (after_consistent before).accepts_undecided_iff.mpr (h before late hevents)⟩
    · rintro before early event late outcome rfl hlate hearly hevent hconfirmed
      have hopen : (after (before ++ .beginTake :: early)).Open := by
        rw [after_append]
        exact Open.run ⟨rfl,rfl,rfl⟩ early hearly
      rw [after_append]
      exact ((hopen.decides hconfirmed hevent).run late hlate).playback
    · rintro before late rfl hlate hconfirmed
      rw [after_append]
      obtain ⟨outcome,hresult⟩ := Option.isSome_iff_exists.mp ((after_consistent before).result hconfirmed)
      have hdecides : (after before).Decides outcome := by
        refine ⟨?_,Or.inl hconfirmed⟩
        unfold Arbiter.playback
        rw [if_pos hconfirmed,hresult]
      rw [(hdecides.run late hlate).playback,hdecides.playback]
      exact ⟨confirmed_run hconfirmed late hlate,rfl⟩
    · rintro before late rfl hstop
      rw [after_append]
      exact stop_run hstop late

/-- A control after a natural end is accepted. -/
theorem control_accepted_after_natural_end : ¬KeepsPriorities [.beginTake,.naturalEnd,.queueControl] := by
  intro h
  have hundecided := h.accepted [.beginTake,.naturalEnd] [] rfl rfl
  cases hundecided.endedNaturally

end Arbiter
end AytherRuntime.Check
