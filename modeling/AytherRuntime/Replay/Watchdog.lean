import Mathlib.Data.List.Basic
import AytherRuntime.Destination.Ledger

/-! The watchdog of the close of a take: it stalls where the end of the captured audio, which an inspection may move
back, was not moved for too long. -/
namespace AytherRuntime.Replay

section Watchdog

inductive WatchdogPhase
  | preparation | playback | closing
  deriving DecidableEq, Repr

inductive WatchdogTimeoutReason
  | noProgress | totalTime
  deriving DecidableEq, Repr

structure WatchdogPolicy where
  noProgressMs : ℕ
  totalMs : ℕ

def preparationWatchdogPolicy : WatchdogPolicy := ⟨120000,300000⟩
def playbackWatchdogPolicy : WatchdogPolicy := ⟨5000,0⟩
def closingWatchdogPolicy : WatchdogPolicy := ⟨10000,0⟩

structure WatchdogTimeout where
  phase : WatchdogPhase
  reason : WatchdogTimeoutReason
  evidenceResult : Destination.EvidenceResult
  lastPreparationStage : String
  lastCompletedFrame : Option UInt32
  bytesReceived : ℕ
  bytesDurable : ℕ
  lastProgressMs : ℕ
  elapsedTotalMs : ℕ
  deriving DecidableEq, Repr

structure ProgressWatchdog where
  phase : WatchdogPhase
  startedMs : ℕ
  lastObservedMs : ℕ := startedMs
  lastProgressMs : ℕ := startedMs
  lastPreparationStage : String := ""
  lastCompletedFrame : Option UInt32 := none
  bytesReceived : ℕ := 0
  bytesDurable : ℕ := 0

namespace ProgressWatchdog
variable (watchdog : ProgressWatchdog)

def policy : WatchdogPolicy :=
  match watchdog.phase with
  | .preparation => preparationWatchdogPolicy
  | .playback => playbackWatchdogPolicy
  | .closing => closingWatchdogPolicy

def validTime (now : ℕ) : Bool := watchdog.startedMs ≤ now && watchdog.lastObservedMs ≤ now

def observeBytesReceived (bytes now : ℕ) : ProgressWatchdog × Bool :=
  if watchdog.phase ≠ .closing ∨ watchdog.validTime now = false ∨ bytes < watchdog.bytesReceived then (watchdog,false)
  else ({ watchdog with lastObservedMs := now, bytesReceived := bytes },true)

def observeBytesDurable (bytes now : ℕ) : ProgressWatchdog × Bool :=
  if watchdog.phase ≠ .closing ∨ watchdog.validTime now = false ∨ bytes < watchdog.bytesDurable ∨
      watchdog.bytesReceived < bytes then (watchdog,false)
  else if watchdog.bytesDurable < bytes then
    ({ watchdog with lastObservedMs := now, bytesDurable := bytes, lastProgressMs := now },true)
  else ({ watchdog with lastObservedMs := now },true)

def check (now : ℕ) : Option WatchdogTimeout :=
  let timeout (reason : WatchdogTimeoutReason) : WatchdogTimeout :=
    ⟨watchdog.phase,reason,.incomplete,watchdog.lastPreparationStage,watchdog.lastCompletedFrame,watchdog.bytesReceived,
      watchdog.bytesDurable,watchdog.lastProgressMs,now - watchdog.startedMs⟩
  if watchdog.validTime now = false then none
  else if watchdog.policy.totalMs ≠ 0 ∧ watchdog.policy.totalMs ≤ now - watchdog.startedMs
    then some (timeout .totalTime)
  else if watchdog.policy.noProgressMs ≤ now - watchdog.lastProgressMs then some (timeout .noProgress)
  else none

end ProgressWatchdog

/-- The distance that a position has moved, forward or back, in 64 bits. -/
structure MonotonicProgress where
  last : Option ℕ := none
  total : ℕ := 0

def MonotonicProgress.observe (progress : MonotonicProgress) (position : ℕ) : MonotonicProgress × ℕ :=
  let moved := progress.last.elim 0 fun last => if last ≤ position then position - last else last - position
  let total := (progress.total + moved) % 2 ^ 64
  (⟨some position,total⟩,total)

end Watchdog

section Close

/-- What the loop of the close reads: the clock since its start and the end of the captured audio. -/
structure CloseSample where
  now : ℕ
  outputEnd : ℕ

structure CloseWatch where
  watchdog : ProgressWatchdog
  progress : MonotonicProgress

/-- One observation; none once the close has stalled. -/
def CloseWatch.observe (watch : CloseWatch) (sample : CloseSample) : Option CloseWatch :=
  let (progress,progressed) := watch.progress.observe sample.outputEnd
  let (watchdog,received) := watch.watchdog.observeBytesReceived progressed sample.now
  let (watchdog,durable) := watchdog.observeBytesDurable progressed sample.now
  if !received || !durable || (watchdog.check sample.now).isSome then none else some ⟨watchdog,progress⟩

/-- The watchdog at the end of the audio with which the close begins. -/
def CloseWatch.start (initialEnd : ℕ) : CloseWatch :=
  let (progress,first) := MonotonicProgress.observe {} initialEnd
  let (watchdog,_) := ProgressWatchdog.observeBytesReceived ⟨.closing,0,0,0,"",none,0,0⟩ first 0
  let (progress,again) := progress.observe initialEnd
  let (watchdog,_) := watchdog.observeBytesDurable again 0
  ⟨watchdog,progress⟩

/-- The watch over the samples of a close. -/
def closeWatch (initialEnd : ℕ) (samples : List CloseSample) : Option CloseWatch :=
  samples.foldlM CloseWatch.observe (CloseWatch.start initialEnd)

end Close

section Stall

/-- When the end was moved. -/
def moves : ℕ → List CloseSample → List ℕ
  | _, [] => []
  | position, sample :: rest =>
    (if sample.outputEnd = position then [] else [sample.now]) ++ moves sample.outputEnd rest

/-- How far the end was moved altogether. -/
def travelled : ℕ → List CloseSample → ℕ
  | _, [] => 0
  | position, sample :: rest =>
    (sample.outputEnd - position + (position - sample.outputEnd)) + travelled sample.outputEnd rest

/-- Some sample comes as late as the close may go without a move. -/
def Stalls (since position : ℕ) (samples : List CloseSample) : Prop :=
  ∃ front sample, front ++ [sample] <+: samples ∧
    ∀ time ∈ since :: moves position (front ++ [sample]), time + closingWatchdogPolicy.noProgressMs ≤ sample.now

/-- The watch between two samples: its clock, the last move, and the way and the end so far. -/
structure Watching (watch : CloseWatch) (clock since way position : ℕ) : Prop where
  phase : watch.watchdog.phase = .closing
  started : watch.watchdog.startedMs = 0
  observed : watch.watchdog.lastObservedMs = clock
  progressed : watch.watchdog.lastProgressMs = since
  received : watch.watchdog.bytesReceived = way
  durable : watch.watchdog.bytesDurable = way
  last : watch.progress.last = some position
  total : watch.progress.total = way

lemma start_watching (initialEnd : ℕ) : Watching (CloseWatch.start initialEnd) 0 0 0 initialEnd := by
  have hstart : CloseWatch.start initialEnd = ⟨⟨.closing,0,0,0,"",none,0,0⟩,⟨some initialEnd,0⟩⟩ := by
    simp [CloseWatch.start,MonotonicProgress.observe,ProgressWatchdog.observeBytesReceived,
      ProgressWatchdog.observeBytesDurable,ProgressWatchdog.validTime]
  rw [hstart]
  exact ⟨rfl,rfl,rfl,rfl,rfl,rfl,rfl,rfl⟩

variable {watch : CloseWatch} {clock since way position : ℕ}

lemma observe_progress (position way next : ℕ) (hway : way + (next - position + (position - next)) < 2 ^ 64) :
    MonotonicProgress.observe ⟨some position,way⟩ next =
      (⟨some next,way + (next - position + (position - next))⟩,way + (next - position + (position - next))) := by
  have hmoved : (if position ≤ next then next - position else position - next) =
      next - position + (position - next) := by
    split_ifs <;> omega
  unfold MonotonicProgress.observe
  simp only [Option.elim_some,hmoved,Nat.mod_eq_of_lt hway]

section Closing
variable {watchdog : ProgressWatchdog} {bytes now : ℕ}

lemma observeBytesReceived_closing (hphase : watchdog.phase = .closing) (hvalid : watchdog.validTime now = true)
    (hbytes : watchdog.bytesReceived ≤ bytes) : watchdog.observeBytesReceived bytes now =
      ({ watchdog with lastObservedMs := now, bytesReceived := bytes },true) := by
  refine if_neg ?_
  rintro (h | h | h)
  · exact h hphase
  · rw [hvalid] at h
    cases h
  · omega

lemma observeBytesDurable_closing (hphase : watchdog.phase = .closing) (hvalid : watchdog.validTime now = true)
    (hbytes : watchdog.bytesDurable ≤ bytes) (hreceived : bytes ≤ watchdog.bytesReceived) :
    watchdog.observeBytesDurable bytes now =
      ({ watchdog with
         lastObservedMs := now
         bytesDurable := bytes
         lastProgressMs := if watchdog.bytesDurable < bytes then now else watchdog.lastProgressMs },true) := by
  unfold ProgressWatchdog.observeBytesDurable
  rw [if_neg]
  · split_ifs with hmore
    · rfl
    · rw [show watchdog.bytesDurable = bytes by omega]
  · rintro (h | h | h | h)
    · exact h hphase
    · rw [hvalid] at h
      cases h
    · omega
    · omega

lemma check_closing (hphase : watchdog.phase = .closing) (hvalid : watchdog.validTime now = true) :
    (watchdog.check now).isSome = decide (closingWatchdogPolicy.noProgressMs ≤ now - watchdog.lastProgressMs) := by
  unfold ProgressWatchdog.check ProgressWatchdog.policy
  rw [hvalid,hphase]
  dsimp only
  rw [if_neg (by decide),if_neg fun h => h.1 rfl]
  split_ifs with h
  · exact (decide_eq_true h).symm
  · exact (decide_eq_false h).symm

end Closing

/-- One sample: the close stalls where the end was not moved for too long, or goes on. -/
lemma observe_watching (h : Watching watch clock since way position) {sample : CloseSample}
    (hclock : clock ≤ sample.now)
    (hway : way + (sample.outputEnd - position + (position - sample.outputEnd)) < 2 ^ 64) :
    if closingWatchdogPolicy.noProgressMs ≤
        sample.now - (if sample.outputEnd = position then since else sample.now) then
      watch.observe sample = none
    else ∃ next, watch.observe sample = some next ∧
      Watching next sample.now (if sample.outputEnd = position then since else sample.now)
        (way + (sample.outputEnd - position + (position - sample.outputEnd))) sample.outputEnd := by
  obtain ⟨watchdog,last,total⟩ := watch
  obtain ⟨hphase,hstarted,hobserved,hprogressed,hreceived,hdurable,hlast,htotal⟩ := h
  dsimp only at hphase hstarted hobserved hprogressed hreceived hdurable hlast htotal
  subst hlast htotal
  have hvalid : ∀ {since received durable}, ProgressWatchdog.validTime { watchdog with
      lastObservedMs := sample.now, lastProgressMs := since, bytesReceived := received, bytesDurable := durable }
      sample.now = true := by
    simp [ProgressWatchdog.validTime,hstarted]
  have hmoved : (if watchdog.bytesDurable < total + (sample.outputEnd - position + (position - sample.outputEnd))
      then sample.now else watchdog.lastProgressMs) = if sample.outputEnd = position then since else sample.now := by
    rw [hdurable,hprogressed]
    split_ifs <;> omega
  unfold CloseWatch.observe
  rw [observe_progress _ _ _ hway]
  dsimp only
  rw [observeBytesReceived_closing hphase (by simp [ProgressWatchdog.validTime,hstarted,hobserved,hclock])
    (hreceived ▸ Nat.le_add_right _ _)]
  dsimp only
  rw [@observeBytesDurable_closing { watchdog with
      lastObservedMs := sample.now
      bytesReceived := total + (sample.outputEnd - position + (position - sample.outputEnd)) } _ _ hphase hvalid
    (hdurable ▸ Nat.le_add_right _ _) (Nat.le_refl _)]
  dsimp only
  rw [hmoved,@check_closing { watchdog with
      lastObservedMs := sample.now
      lastProgressMs := if sample.outputEnd = position then since else sample.now
      bytesReceived := total + (sample.outputEnd - position + (position - sample.outputEnd))
      bytesDurable := total + (sample.outputEnd - position + (position - sample.outputEnd)) } _ hphase hvalid]
  dsimp only
  generalize (if sample.outputEnd = position then since else sample.now) = moved
  by_cases hlate : closingWatchdogPolicy.noProgressMs ≤ sample.now - moved
  · rw [if_pos hlate,decide_eq_true hlate]
    rfl
  · rw [if_neg hlate,decide_eq_false hlate]
    exact ⟨_,rfl,hphase,hstarted,rfl,rfl,rfl,rfl,rfl,rfl⟩

lemma stalls_cons {sample : CloseSample} {rest : List CloseSample} (hsince : since ≤ sample.now) :
    Stalls since position (sample :: rest) ↔
      if sample.outputEnd = position then
        since + closingWatchdogPolicy.noProgressMs ≤ sample.now ∨ Stalls since position rest
      else Stalls sample.now sample.outputEnd rest := by
  have hlimit : 0 < closingWatchdogPolicy.noProgressMs := by decide
  have hsplit : Stalls since position (sample :: rest) ↔
      (∀ time ∈ since :: moves position [sample], time + closingWatchdogPolicy.noProgressMs ≤ sample.now) ∨
        ∃ front last, front ++ [last] <+: rest ∧ ∀ time ∈ since :: moves position (sample :: (front ++ [last])),
          time + closingWatchdogPolicy.noProgressMs ≤ last.now := by
    constructor
    · rintro ⟨front,last,hfront,htimes⟩
      cases front with
      | nil =>
        obtain ⟨rfl,-⟩ := List.cons_prefix_cons.mp hfront
        exact Or.inl htimes
      | cons first front =>
        obtain ⟨rfl,hrest⟩ := List.cons_prefix_cons.mp hfront
        exact Or.inr ⟨front,last,hrest,htimes⟩
    · rintro (htimes | ⟨front,last,hrest,htimes⟩)
      · exact ⟨[],sample,List.cons_prefix_cons.mpr ⟨rfl,List.nil_prefix⟩,htimes⟩
      · exact ⟨sample :: front,last,List.cons_prefix_cons.mpr ⟨rfl,hrest⟩,htimes⟩
  rw [hsplit]
  split_ifs with hmoved
  · simp only [moves,List.nil_append,hmoved,if_true,List.forall_mem_singleton]
    rfl
  · simp only [moves,if_neg hmoved,List.singleton_append,List.forall_mem_cons]
    constructor
    · rintro (⟨-,hnow,-⟩ | ⟨front,last,hrest,-,hnow,hlater⟩)
      · omega
      · exact ⟨front,last,hrest,List.forall_mem_cons.mpr ⟨hnow,hlater⟩⟩
    · rintro ⟨front,last,hrest,htimes⟩
      obtain ⟨hnow,hlater⟩ := List.forall_mem_cons.mp htimes
      exact Or.inr ⟨front,last,hrest,by omega,hnow,hlater⟩

lemma foldlM_stalls (samples : List CloseSample) (h : Watching watch clock since way position) (hsince : since ≤ clock)
    (hclock : (clock :: samples.map CloseSample.now).IsChain (· ≤ ·))
    (hway : way + travelled position samples < 2 ^ 64) :
    samples.foldlM CloseWatch.observe watch = none ↔ Stalls since position samples := by
  induction samples generalizing watch clock since way position with
  | nil =>
    refine iff_of_false (Option.some_ne_none _) ?_
    rintro ⟨front,sample,hfront,-⟩
    exact absurd (List.prefix_nil.mp hfront) (by simp)
  | cons sample rest ih =>
    have hlimit : 0 < closingWatchdogPolicy.noProgressMs := by decide
    obtain ⟨hnow,hlater⟩ := List.isChain_cons_cons.mp hclock
    rw [travelled,← Nat.add_assoc] at hway
    have hstep := observe_watching h hnow (by omega)
    rw [stalls_cons (Nat.le_trans hsince hnow),List.foldlM_cons]
    by_cases hmoved : sample.outputEnd = position
    · simp only [if_pos hmoved] at hstep ⊢
      split_ifs at hstep with hlate
      · rw [hstep]
        exact iff_of_true rfl (Or.inl (by omega))
      · obtain ⟨next,hnext,hwatching⟩ := hstep
        rw [hnext]
        rw [or_iff_right (by omega),← hmoved]
        exact ih hwatching (Nat.le_trans hsince hnow) hlater hway
    · simp only [if_neg hmoved] at hstep ⊢
      rw [if_neg (by omega)] at hstep
      obtain ⟨next,hnext,hwatching⟩ := hstep
      rw [hnext]
      exact ih hwatching (Nat.le_refl _) hlater hway

/-- The close stalls exactly where a sample finds that the end was last moved, or the close begun, ten seconds before or
earlier. -/
theorem closeWatch_stalls_iff (initialEnd : ℕ) (samples : List CloseSample)
    (hclock : (samples.map CloseSample.now).IsChain (· ≤ ·)) (hway : travelled initialEnd samples < 2 ^ 64) :
    closeWatch initialEnd samples = none ↔ Stalls 0 initialEnd samples := by
  have hchain : (0 :: samples.map CloseSample.now).IsChain (· ≤ ·) := by
    cases samples with
    | nil => exact List.IsChain.singleton _
    | cons sample rest => exact List.IsChain.cons_cons (Nat.zero_le _) hclock
  exact foldlM_stalls samples (start_watching initialEnd) (Nat.le_refl 0) hchain (by rwa [Nat.zero_add])

/-- An end that moves back at 9 s and then stands still: the close still runs at 18 s and stalls at 19 s. -/
theorem closeWatch_stalls_moved :
    (closeWatch 480 [⟨9000,440⟩,⟨18000,440⟩]).isSome ∧ closeWatch 480 [⟨9000,440⟩,⟨18000,440⟩,⟨19000,440⟩] = none := by
  refine ⟨by decide,(closeWatch_stalls_iff 480 _ (by decide) (by decide)).mpr ?_⟩
  exact ⟨[⟨9000,440⟩,⟨18000,440⟩],⟨19000,440⟩,List.prefix_rfl,by decide⟩

end Stall
end AytherRuntime.Replay
