import Mathlib.Data.List.Basic
import Mathlib.Data.List.TakeWhile
import Mathlib.Data.Nat.Notation
import Mathlib.Tactic.Linarith

/-! The checkpoints of a take: the ring that decides which are kept, the plan of a recovery over it,
and the store of their states. -/
namespace AytherRuntime.Inspection

/-- `initial_checkpoint_frame` -/
def initialCheckpointFrame : ℤ := -1

structure CheckpointEntry where
  frame : ℤ
  sizeBytes : ℕ
  deriving DecidableEq, Repr

structure CheckpointRing where
  interval : ℕ
  budget : ℕ
  total : ℕ := 0
  entries : List CheckpointEntry := []
  deriving DecidableEq, Repr

namespace CheckpointRing
variable (ring : CheckpointRing)

def new (interval budget : ℕ) : CheckpointRing :=
  { interval := if interval = 0 then 1 else interval, budget }

def shouldCapture (frame : ℕ) : Bool := (frame + 1) % ring.interval = 0

def hasInitial : Bool :=
  match ring.entries with
  | [] => false
  | entry :: _ => entry.frame = initialCheckpointFrame

def storeInitial (sizeBytes : ℕ) : CheckpointRing :=
  match ring.entries with
  | [] => { ring with
      entries := [⟨initialCheckpointFrame,sizeBytes⟩], total := (ring.total + sizeBytes) % 2 ^ 64 }
  | entry :: entries =>
    if entry.frame = initialCheckpointFrame then
      { ring with
        entries := { entry with sizeBytes } :: entries
        total := (ring.total + 2 ^ 64 - entry.sizeBytes + sizeBytes) % 2 ^ 64 }
    else
      { ring with
        entries := ⟨initialCheckpointFrame,sizeBytes⟩ :: entry :: entries
        total := (ring.total + sizeBytes) % 2 ^ 64 }

/-- The oldest entries go until the new one fits. -/
def evict (budget sizeBytes : ℕ) : ℕ → List CheckpointEntry → ℕ × List CheckpointEntry
  | total, [] => (total,[])
  | total, entry :: entries =>
    if budget < (total + sizeBytes) % 2 ^ 64 then
      evict budget sizeBytes ((total + 2 ^ 64 - entry.sizeBytes) % 2 ^ 64) entries
    else (total,entry :: entries)

/-- The new entry after those of the same or an earlier frame. -/
def insertEntry (entry : CheckpointEntry) (entries : List CheckpointEntry) : List CheckpointEntry :=
  entries.takeWhile (fun other => other.frame ≤ entry.frame) ++
    entry :: entries.dropWhile (fun other => other.frame ≤ entry.frame)

/-- `store`; nothing is returned where the checkpoint is refused. -/
def store (frame sizeBytes : ℕ) : Option CheckpointRing :=
  let kept := if ring.hasInitial then ring.entries.take 1 else []
  let initial := (kept.map CheckpointEntry.sizeBytes).sum
  if ring.budget < initial ∨ ring.budget - initial < sizeBytes then none
  else
    let evicted := evict ring.budget sizeBytes ring.total (ring.entries.drop kept.length)
    some { ring with
      entries := insertEntry ⟨frame,sizeBytes⟩ (kept ++ evicted.2)
      total := (evicted.1 + sizeBytes) % 2 ^ 64 }

/-- The last entry at or before the frame. -/
def latestAtMost (frame : ℤ) : Option ℤ :=
  ring.entries.foldl (fun found entry => if entry.frame ≤ frame then some entry.frame else found) none

lemma latestAtMost_le {frame checkpoint : ℤ} (h : ring.latestAtMost frame = some checkpoint) :
    checkpoint ≤ frame := by
  unfold latestAtMost at h
  generalize hstart : (none : Option ℤ) = start at h
  have hle : ∀ c, start = some c → c ≤ frame := by
    intro c hc
    rw [← hstart] at hc
    cases hc
  clear hstart
  generalize ring.entries = entries at h
  induction entries generalizing start with
  | nil => exact hle checkpoint h
  | cons entry entries ih =>
    refine ih _ (fun c hc => ?_) h
    dsimp only at hc
    split_ifs at hc with hentry
    · cases hc
      exact hentry
    · exact hle c hc

end CheckpointRing

inductive RecoveryKind
  | step | restore | impossible
  deriving DecidableEq, Repr

structure RecoveryPlan where
  kind : RecoveryKind := .impossible
  checkpoint : ℤ := initialCheckpointFrame
  replayFrom : ℕ := 0
  replayTo : ℕ := 0
  deriving DecidableEq, Repr

/-- The plan that restores the latest checkpoint before the target. -/
def restorePlan (ring : CheckpointRing) (target : ℕ) : RecoveryPlan :=
  match ring.latestAtMost (target - 1) with
  | none => {}
  | some checkpoint => ⟨.restore,checkpoint,(checkpoint + 1).toNat,target⟩

/-- `plan_recovery` -/
def planRecovery (ring : CheckpointRing) (confirmed target : ℕ) : RecoveryPlan :=
  if target = confirmed + 1 then ⟨.step,confirmed,target,target⟩ else restorePlan ring target

/-- `CheckpointStore`, over any state of the session. -/
structure CheckpointStore (σ : Type) where
  ring : CheckpointRing
  checkpoints : List (ℤ × σ) := []

namespace CheckpointStore
variable {σ : Type} (store : CheckpointStore σ)

/-- The map with the new state, without what the ring has dropped. -/
def keep (ring : CheckpointRing) (frame : ℤ) (state : σ) : CheckpointStore σ where
  ring := ring
  checkpoints := ((frame,state) :: store.checkpoints.filter fun entry => entry.1 ≠ frame).filter
    fun entry => ring.entries.any fun kept => kept.frame = entry.1

/-- `capture`, of a state whose sections were exported with some size. -/
def capture (state : σ) (frame : ℤ) (sizeBytes : ℕ) : CheckpointStore σ × Bool :=
  if frame = initialCheckpointFrame then
    (store.keep (store.ring.storeInitial sizeBytes) frame state,true)
  else if frame < 0 then (store,false)
  else
    match store.ring.store frame.toNat sizeBytes with
    | none => (store,false)
    | some ring => (store.keep ring frame state,true)

def find (frame : ℤ) : Option σ := (store.checkpoints.find? fun entry => entry.1 = frame).map Prod.snd

/-- What holds of every kept state and of the captured one holds after the capture. -/
lemma capture_forall {P : ℤ → σ → Prop} (hkept : ∀ entry ∈ store.checkpoints, P entry.1 entry.2)
    {state : σ} {frame : ℤ} (hstate : P frame state) (sizeBytes : ℕ) :
    ∀ entry ∈ (store.capture state frame sizeBytes).1.checkpoints, P entry.1 entry.2 := by
  have hkeep : ∀ ring, ∀ entry ∈ (store.keep ring frame state).checkpoints, P entry.1 entry.2 := by
    intro ring entry hentry
    obtain ⟨hin,-⟩ := List.mem_filter.mp hentry
    rcases List.mem_cons.mp hin with rfl | hold
    · exact hstate
    · exact hkept entry (List.mem_of_mem_filter hold)
  unfold capture
  split
  · exact hkeep _
  split
  · exact hkept
  split
  · exact hkept
  · exact hkeep _

lemma find_forall {P : ℤ → σ → Prop} (hkept : ∀ entry ∈ store.checkpoints, P entry.1 entry.2)
    {frame : ℤ} {state : σ} (h : store.find frame = some state) : P frame state := by
  obtain ⟨entry,hentry,rfl⟩ := Option.map_eq_some_iff.mp h
  have hframe := List.find?_some hentry
  rw [decide_eq_true_eq] at hframe
  rw [← hframe]
  exact hkept entry (List.mem_of_find?_eq_some hentry)

end CheckpointStore

end AytherRuntime.Inspection
