import AytherRuntime.Check.Outcome

/-! The arbiter of the terminal events of a request: how the active take ends when events coincide. -/
namespace AytherRuntime.Check

inductive Stop
  | none | cancellation | failure
  deriving DecidableEq, Repr

/-- `RequestTerminalArbiter` -/
structure Arbiter where
  takeActive : Bool := false
  confirmed : Bool := false
  cancelled : Bool := false
  endedNaturally : Bool := false
  failure : Option PlaybackOutcome := .none
  confirmedResult : Option PlaybackOutcome := .none
  pendingControls : ℕ := 0
  discardedControls : ℕ := 0
  stop : Stop := .none
  deriving DecidableEq, Repr

namespace Arbiter

def beginTake (arbiter : Arbiter) : Arbiter :=
  { takeActive := true, stop := arbiter.stop }

/-- `stop`: the first reason stays. -/
def stopFor (arbiter : Arbiter) (reason : Stop) : Arbiter :=
  if arbiter.stop = .none then { arbiter with stop := reason } else arbiter

def discardPending (arbiter : Arbiter) : Arbiter :=
  { arbiter with
    discardedControls := arbiter.discardedControls + arbiter.pendingControls
    pendingControls := 0 }

/-- A cancellation decides the take only before it is confirmed, and stops the request anyway. -/
def cancel (arbiter : Arbiter) : Arbiter :=
  let decides := arbiter.takeActive && !arbiter.confirmed && !arbiter.cancelled && arbiter.failure.isNone
  (if decides then { arbiter with cancelled := true }.discardPending else arbiter).stopFor .cancellation

def fail (arbiter : Arbiter) (diagnostic : String) (interrupted : Bool := false) : Arbiter :=
  if !arbiter.takeActive || arbiter.confirmed || arbiter.cancelled || arbiter.failure.isSome then arbiter
  else
    { arbiter with
      failure := some ⟨if interrupted then .interrupted else .failed,diagnostic⟩ }.discardPending.stopFor .failure

def naturalEnd (arbiter : Arbiter) : Arbiter :=
  if !arbiter.takeActive || arbiter.confirmed || arbiter.cancelled || arbiter.failure.isSome ||
      arbiter.endedNaturally then arbiter
  else { arbiter with endedNaturally := true }

/-- `queue_control`: whether the control is accepted, and the arbiter that counts it. -/
def queueControl (arbiter : Arbiter) : Bool × Arbiter :=
  if !arbiter.takeActive || arbiter.cancelled || arbiter.failure.isSome then
    (false,{ arbiter with discardedControls := arbiter.discardedControls + 1 })
  else (true,{ arbiter with pendingControls := arbiter.pendingControls + 1 })

def controlSent (arbiter : Arbiter) : Arbiter :=
  if 0 < arbiter.pendingControls then { arbiter with pendingControls := arbiter.pendingControls - 1 } else arbiter

def playback (arbiter : Arbiter) : Option PlaybackOutcome :=
  if arbiter.confirmed then arbiter.confirmedResult
  else if arbiter.cancelled then some ⟨.cancelled,""⟩
  else if arbiter.failure.isSome then arbiter.failure
  else if arbiter.endedNaturally then some ⟨.naturalEnd,""⟩
  else .none

/-- The confirmed result, and the arbiter that keeps it. -/
def confirm (arbiter : Arbiter) : Option PlaybackOutcome × Arbiter :=
  if arbiter.confirmed then (arbiter.confirmedResult,arbiter)
  else
    match arbiter.playback with
    | some result => (some result,{ arbiter with confirmed := true, confirmedResult := some result })
    | .none => (.none,arbiter)

def notStartedReason (arbiter : Arbiter) : String :=
  match arbiter.stop with
  | .none => ""
  | .cancellation => "not_started_after_cancellation"
  | .failure => "not_started_after_failure"

/-- The result that the active take has, as decided so far: what the stop and the controls do not touch. -/
lemma playback_stopFor (arbiter : Arbiter) (reason : Stop) : (arbiter.stopFor reason).playback = arbiter.playback := by
  unfold stopFor playback
  split <;> rfl

lemma playback_discardPending (arbiter : Arbiter) : arbiter.discardPending.playback = arbiter.playback := rfl

lemma confirm_fst (arbiter : Arbiter) : arbiter.confirm.1 = arbiter.playback := by
  unfold confirm
  split
  · rename_i hconfirmed
    rw [playback,if_pos hconfirmed]
  · split <;> simp_all

/-- The arbiter at the beginning of a take: nothing has decided it. -/
structure Fresh (arbiter : Arbiter) : Prop where
  active : arbiter.takeActive = true
  confirmed : arbiter.confirmed = false
  cancelled : arbiter.cancelled = false
  endedNaturally : arbiter.endedNaturally = false
  failure : arbiter.failure = .none

lemma fresh_beginTake (arbiter : Arbiter) : arbiter.beginTake.Fresh := ⟨rfl,rfl,rfl,rfl,rfl⟩

/-- A cancellation that comes first decides the take, whatever comes after it. -/
structure Cancelled (arbiter : Arbiter) : Prop where
  confirmed : arbiter.confirmed = false
  cancelled : arbiter.cancelled = true

lemma Cancelled.stopFor {arbiter : Arbiter} (h : arbiter.Cancelled) (reason : Stop) :
    (arbiter.stopFor reason).Cancelled := by
  unfold Arbiter.stopFor
  split
  · exact ⟨h.confirmed,h.cancelled⟩
  · exact h

lemma Fresh.cancel {arbiter : Arbiter} (h : arbiter.Fresh) : arbiter.cancel.Cancelled := by
  unfold Arbiter.cancel
  refine Cancelled.stopFor ?_ _
  rw [h.active,h.confirmed,h.cancelled,h.failure]
  exact ⟨rfl,rfl⟩

lemma Cancelled.fail {arbiter : Arbiter} (h : arbiter.Cancelled) (diagnostic : String) (interrupted : Bool) :
    arbiter.fail diagnostic interrupted = arbiter := by
  unfold Arbiter.fail
  rw [h.cancelled,if_pos (by simp)]

lemma Cancelled.naturalEnd {arbiter : Arbiter} (h : arbiter.Cancelled) : arbiter.naturalEnd = arbiter := by
  unfold Arbiter.naturalEnd
  rw [h.cancelled,if_pos (by simp)]

lemma Cancelled.playback {arbiter : Arbiter} (h : arbiter.Cancelled) :
    arbiter.playback = some ⟨.cancelled,""⟩ := by
  unfold Arbiter.playback
  rw [h.confirmed,h.cancelled]
  rfl

lemma Fresh.fail_playback {arbiter : Arbiter} (h : arbiter.Fresh) (diagnostic : String) (interrupted : Bool) :
    (arbiter.fail diagnostic interrupted).playback =
      some ⟨if interrupted then .interrupted else .failed,diagnostic⟩ := by
  unfold Arbiter.fail
  rw [h.active,h.confirmed,h.cancelled,h.failure,if_neg (by simp),playback_stopFor,playback_discardPending]
  rfl

lemma Fresh.naturalEnd_playback {arbiter : Arbiter} (h : arbiter.Fresh) :
    arbiter.naturalEnd.playback = some ⟨.naturalEnd,""⟩ := by
  unfold Arbiter.naturalEnd
  rw [h.active,h.confirmed,h.cancelled,h.failure,h.endedNaturally,if_neg (by simp)]
  rfl

lemma stopFor_stop (arbiter : Arbiter) {reason : Stop} (hreason : reason ≠ .none) :
    (arbiter.stopFor reason).stop ≠ .none := by
  unfold Arbiter.stopFor
  split
  · exact hreason
  · assumption

lemma cancel_stop (arbiter : Arbiter) : arbiter.cancel.stop ≠ .none := stopFor_stop _ (by simp)

lemma Fresh.fail_stop {arbiter : Arbiter} (h : arbiter.Fresh) (diagnostic : String) (interrupted : Bool) :
    (arbiter.fail diagnostic interrupted).stop ≠ .none := by
  unfold Arbiter.fail
  rw [h.active,h.confirmed,h.cancelled,h.failure,if_neg (by simp)]
  exact stopFor_stop _ (by simp)

lemma confirm_stop (arbiter : Arbiter) : arbiter.confirm.2.stop = arbiter.stop := by
  unfold confirm
  split
  · rfl
  · split <;> rfl

/-- A confirmed result never changes; a later cancellation only stops the request. -/
lemma cancel_of_confirmed {arbiter : Arbiter} (h : arbiter.confirmed = true) :
    arbiter.cancel = arbiter.stopFor .cancellation := by
  unfold Arbiter.cancel
  rw [h]
  simp

end Arbiter
end AytherRuntime.Check
