import AytherRuntime.Library.History
import AytherRuntime.Library.Machine
import AytherRuntime.Storage.CheckpointStore

/-! When the bytes received so far are worth a checkpoint: the thresholds of size and of age, and the
publication that is in flight. -/
namespace AytherRuntime.Storage
open History

section Source

def checkpointIntervalMs : UInt64 := 1000
def checkpointPendingByteLimit : UInt64 := 1048576

inductive CheckpointPublicationAction
  | none | publish | saturated
  deriving DecidableEq, Repr

structure CheckpointPublicationRequest where
  action : CheckpointPublicationAction := .none
  publicationBytes : UInt64 := 0
  pendingBytes : UInt64 := 0
  timeThreshold : Bool := false
  byteThreshold : Bool := false
  deriving DecidableEq, Repr

structure CheckpointThreshold where
  receivedBytes : UInt64 := 0
  durableBytes : UInt64 := 0
  lastCheckpointSequence : UInt64 := 0
  lastObservedAtMs : UInt64
  pendingSinceMs : Option UInt64 := none
  publicationBytes : Option UInt64 := none
  postRequestPendingSinceMs : Option UInt64 := none
  deriving DecidableEq, Repr

/-- `interval_reached` -/
def intervalReached (nowMs sinceMs : UInt64) : Bool :=
  sinceMs ≤ nowMs && checkpointIntervalMs ≤ nowMs - sinceMs

namespace CheckpointThreshold

/-- The constructor. -/
def started (startedAtMs : UInt64) : CheckpointThreshold := { lastObservedAtMs := startedAtMs }

/-- `record_received` -/
def recordReceived (s : CheckpointThreshold) (totalBytes nowMs : UInt64) : CheckpointThreshold × Bool :=
  if totalBytes < s.receivedBytes ∨ nowMs < s.lastObservedAtMs then (s,false)
  else if s.receivedBytes < totalBytes then
    let pending := if s.receivedBytes = s.durableBytes then some nowMs else s.pendingSinceMs
    let post := match s.publicationBytes, s.postRequestPendingSinceMs with
      | some publication, none =>
        if s.receivedBytes ≤ publication ∧ publication < totalBytes then some nowMs else none
      | _, since => since
    ({ s with
        pendingSinceMs := pending
        postRequestPendingSinceMs := post
        receivedBytes := totalBytes
        lastObservedAtMs := nowMs },true)
  else ({ s with lastObservedAtMs := nowMs },true)

/-- `request_publication` -/
def requestPublication (s : CheckpointThreshold) (nowMs : UInt64) :
    CheckpointThreshold × CheckpointPublicationRequest :=
  if nowMs < s.lastObservedAtMs then (s,{})
  else
    let s := { s with lastObservedAtMs := nowMs }
    match s.publicationBytes with
    | some publication =>
      let waiting := s.receivedBytes - publication
      let time := s.postRequestPendingSinceMs.any (intervalReached nowMs)
      let byte := decide (checkpointPendingByteLimit ≤ waiting)
      (s,⟨if time || byte then .saturated else .none,publication,waiting,time,byte⟩)
    | none =>
      let pending := s.receivedBytes - s.durableBytes
      match s.pendingSinceMs with
      | none => (s,{})
      | some since =>
        if pending = 0 then (s,{})
        else
          let time := intervalReached nowMs since
          let byte := decide (checkpointPendingByteLimit ≤ pending)
          if !time && !byte then (s,⟨.none,0,pending,false,false⟩)
          else
            ({ s with publicationBytes := some s.receivedBytes, postRequestPendingSinceMs := none },
              ⟨.publish,s.receivedBytes,pending,time,byte⟩)

/-- `confirm_publication` -/
def confirmPublication (s : CheckpointThreshold) (checkpoint : StoredCheckpoint) (nowMs : UInt64) :
    CheckpointThreshold × Bool :=
  match s.publicationBytes with
  | none => (s,false)
  | some publication =>
    if nowMs < s.lastObservedAtMs ∨ checkpoint.checkpoint.sequence ≤ s.lastCheckpointSequence then (s,false)
    else
      ({ s with
          durableBytes := publication
          lastCheckpointSequence := checkpoint.checkpoint.sequence
          publicationBytes := none
          lastObservedAtMs := nowMs
          pendingSinceMs :=
            if s.receivedBytes = publication then none
            else some (s.postRequestPendingSinceMs.getD nowMs)
          postRequestPendingSinceMs := none },true)

end CheckpointThreshold

end Source

section Runs

/-- One call on the object. -/
inductive ThresholdCall
  | received (totalBytes nowMs : UInt64)
  | request (nowMs : UInt64)
  | confirm (checkpoint : StoredCheckpoint) (nowMs : UInt64)

namespace CheckpointThreshold

/-- A call, with the report of received bytes that it adds when it is accepted. -/
def step (s : CheckpointThreshold) : ThresholdCall → CheckpointThreshold × List (UInt64 × UInt64)
  | .received total now =>
    ((s.recordReceived total now).1,if (s.recordReceived total now).2 then [(total,now)] else [])
  | .request now => ((s.requestPublication now).1,[])
  | .confirm checkpoint now => ((s.confirmPublication checkpoint now).1,[])

/-- The object after a sequence of calls. -/
def after (startedAtMs : UInt64) (calls : List ThresholdCall) : CheckpointThreshold :=
  Machine.final step (started startedAtMs) calls

/-- The accepted reports of received bytes, in their order, each with its time. -/
def receivedReports (startedAtMs : UInt64) (calls : List ThresholdCall) : List (UInt64 × UInt64) :=
  Machine.emitted step (started startedAtMs) calls

end CheckpointThreshold

end Runs

section Invariant

/-- What the object holds of the reports it has accepted. -/
structure CheckpointThreshold.Tracks (s : CheckpointThreshold) (reports : List (UInt64 × UInt64)) : Prop where
  durable_le : s.durableBytes ≤ s.receivedBytes
  publication_between : ∀ publication ∈ s.publicationBytes,
    s.durableBytes ≤ publication ∧ publication ≤ s.receivedBytes
  report_le : ∀ report ∈ reports, report.1 ≤ s.receivedBytes ∧ report.2 ≤ s.lastObservedAtMs
  received_reported : s.receivedBytes = 0 ∨ ∃ report ∈ reports, report.1 = s.receivedBytes
  pending_since : s.pendingSinceMs = arrival reports s.durableBytes
  post_request_since : s.postRequestPendingSinceMs = s.publicationBytes.bind (arrival reports)

namespace CheckpointThreshold
variable {s : CheckpointThreshold} {reports : List (UInt64 × UInt64)}

/-- A place has arrived exactly when the total is beyond it. -/
lemma Tracks.arrival_eq_none_iff (h : s.Tracks reports) {place : UInt64} :
    arrival reports place = none ↔ s.receivedBytes ≤ place := by
  rw [History.arrival_eq_none_iff]
  constructor
  · intro hnone
    rcases h.received_reported with hzero | ⟨report,hmem,htotal⟩
    · rw [hzero]
      exact UInt64.zero_le
    · rw [← htotal]
      exact UInt64.not_lt.mp (hnone report hmem)
  · intro hle report hmem
    exact UInt64.not_lt.mpr (UInt64.le_trans (h.report_le report hmem).1 hle)

lemma tracks_started (startedAtMs : UInt64) : (started startedAtMs).Tracks [] where
  durable_le := UInt64.le_refl _
  publication_between := by simp [started]
  report_le := by simp
  received_reported := .inl rfl
  pending_since := rfl
  post_request_since := rfl

lemma recordReceived_refused {total now : UInt64} (h : (s.recordReceived total now).2 = false) :
    (s.recordReceived total now).1 = s := by
  unfold recordReceived at h ⊢
  split_ifs at h ⊢
  rfl

lemma confirmPublication_refused {checkpoint : StoredCheckpoint} {now : UInt64}
    (h : (s.confirmPublication checkpoint now).2 = false) : (s.confirmPublication checkpoint now).1 = s := by
  unfold confirmPublication at h ⊢
  cases hpublication : s.publicationBytes with
  | none => rfl
  | some publication =>
    rw [hpublication] at h
    dsimp only at h ⊢
    split_ifs at h ⊢
    rfl

/-- What an accepted report leaves. -/
lemma recordReceived_accepted {total now : UInt64} (h : (s.recordReceived total now).2 = true) :
    s.receivedBytes ≤ total ∧ s.lastObservedAtMs ≤ now ∧ (s.recordReceived total now).1 = { s with
      receivedBytes := total
      lastObservedAtMs := now
      pendingSinceMs :=
        if s.receivedBytes < total ∧ s.receivedBytes = s.durableBytes then some now else s.pendingSinceMs
      postRequestPendingSinceMs := match s.publicationBytes, s.postRequestPendingSinceMs with
        | some publication, none =>
          if s.receivedBytes ≤ publication ∧ publication < total then some now else none
        | _, since => since } := by
  unfold recordReceived at h ⊢
  by_cases hrefused : total < s.receivedBytes ∨ now < s.lastObservedAtMs
  · rw [if_pos hrefused] at h
    cases h
  rw [if_neg hrefused]
  rw [not_or,UInt64.not_lt,UInt64.not_lt] at hrefused
  refine ⟨hrefused.1,hrefused.2,?_⟩
  by_cases hmore : s.receivedBytes < total
  · rw [if_pos hmore]
    simp only [hmore,true_and]
  · have hsame := UInt64.le_antisymm hrefused.1 (UInt64.not_lt.mp hmore)
    have hnone : ∀ publication, ¬(s.receivedBytes ≤ publication ∧ publication < total) :=
      fun publication hbetween => hmore (UInt64.lt_of_le_of_lt hbetween.1 hbetween.2)
    rw [if_neg hmore]
    obtain ⟨received,durable,sequence,observed,pending,publication,post⟩ := s
    cases publication <;> cases post <;> simp_all

lemma tracks_recordReceived (h : s.Tracks reports) {total now : UInt64}
    (haccepted : (s.recordReceived total now).2 = true) :
    (s.recordReceived total now).1.Tracks (reports ++ [(total,now)]) := by
  obtain ⟨htotal,hnow,hafter⟩ := recordReceived_accepted haccepted
  rw [hafter]
  refine ⟨UInt64.le_trans h.durable_le htotal,?_,?_,.inr ⟨(total,now),by simp,rfl⟩,?_,?_⟩
  · intro publication hmem
    obtain ⟨hlow,hhigh⟩ := h.publication_between publication hmem
    exact ⟨hlow,UInt64.le_trans hhigh htotal⟩
  · intro report hmem
    rcases List.mem_append.mp hmem with hold | hnew
    · obtain ⟨hle,htime⟩ := h.report_le report hold
      exact ⟨UInt64.le_trans hle htotal,UInt64.le_trans htime hnow⟩
    · obtain rfl := List.mem_singleton.mp hnew
      exact ⟨UInt64.le_refl _,UInt64.le_refl _⟩
  · -- The oldest pending byte is new exactly when no byte was pending.
    dsimp only
    rw [arrival_concat,h.pending_since]
    by_cases hall : s.receivedBytes = s.durableBytes
    · have hnone : arrival reports s.durableBytes = none :=
        h.arrival_eq_none_iff.mpr (by rw [hall]; exact UInt64.le_refl _)
      rw [hnone,Option.none_or,← hall]
      simp only [and_true]
    · obtain ⟨since,hsince⟩ := Option.ne_none_iff_exists'.mp
        (fun hnone => hall (UInt64.le_antisymm (h.arrival_eq_none_iff.mp hnone) h.durable_le))
      rw [hsince,if_neg fun hboth => hall hboth.2]
      rfl
  · dsimp only
    rw [h.post_request_since]
    cases hpublication : s.publicationBytes with
    | none => rfl
    | some publication =>
      rw [Option.bind_some,Option.bind_some,arrival_concat]
      cases hafter : arrival reports publication with
      | none =>
        have hle := h.arrival_eq_none_iff.mp hafter
        simp only [hle,true_and,Option.none_or]
      | some since => rfl

/-- A request that is not too early leaves the marks where they are, or puts everything received in flight. -/
lemma requestPublication_state (now : UInt64) :
    (s.requestPublication now).1 = s ∨ s.lastObservedAtMs ≤ now ∧
      ((s.requestPublication now).1 = { s with lastObservedAtMs := now } ∨
        s.publicationBytes = none ∧ (s.requestPublication now).1 = { s with
          lastObservedAtMs := now
          publicationBytes := some s.receivedBytes
          postRequestPendingSinceMs := none }) := by
  unfold requestPublication
  by_cases hearly : now < s.lastObservedAtMs
  · rw [if_pos hearly]
    exact .inl rfl
  rw [if_neg hearly]
  refine .inr ⟨UInt64.not_lt.mp hearly,?_⟩
  cases hpublication : s.publicationBytes with
  | some publication => exact .inl rfl
  | none =>
    cases hsince : s.pendingSinceMs with
    | none => exact .inl rfl
    | some since =>
      dsimp only
      split_ifs
      · exact .inl rfl
      · exact .inl rfl
      · exact .inr ⟨rfl,rfl⟩

lemma Tracks.observed (h : s.Tracks reports) {now : UInt64} (hnow : s.lastObservedAtMs ≤ now) :
    Tracks { s with lastObservedAtMs := now } reports :=
  ⟨h.durable_le,h.publication_between,
    fun report hmem => ⟨(h.report_le report hmem).1,UInt64.le_trans (h.report_le report hmem).2 hnow⟩,
    h.received_reported,h.pending_since,h.post_request_since⟩

lemma tracks_requestPublication (h : s.Tracks reports) (now : UInt64) :
    (s.requestPublication now).1.Tracks reports := by
  rcases requestPublication_state (s := s) now with hkept | ⟨hnow,hkept | ⟨-,hpublished⟩⟩
  · rwa [hkept]
  · rw [hkept]
    exact h.observed hnow
  · rw [hpublished]
    have hobserved := h.observed hnow
    refine ⟨h.durable_le,?_,hobserved.report_le,h.received_reported,h.pending_since,?_⟩
    · rintro publication ⟨⟩
      exact ⟨h.durable_le,UInt64.le_refl _⟩
    · exact (h.arrival_eq_none_iff.mpr (UInt64.le_refl _)).symm

lemma tracks_confirmPublication (h : s.Tracks reports) (checkpoint : StoredCheckpoint) (now : UInt64) :
    (s.confirmPublication checkpoint now).1.Tracks reports := by
  unfold confirmPublication
  cases hpublication : s.publicationBytes with
  | none => exact h
  | some publication =>
    dsimp only
    split_ifs with hrefused hall
    · exact h
    all_goals
      rw [not_or,UInt64.not_lt] at hrefused
      have hobserved := h.observed hrefused.1
      have hbetween := h.publication_between publication hpublication
    · refine ⟨hbetween.2,by simp,hobserved.report_le,h.received_reported,?_,rfl⟩
      exact (h.arrival_eq_none_iff.mpr (by rw [hall]; exact UInt64.le_refl _)).symm
    · refine ⟨hbetween.2,by simp,hobserved.report_le,h.received_reported,?_,rfl⟩
      -- The second pending interval began while the publication was in flight.
      obtain ⟨since,hsince⟩ := Option.ne_none_iff_exists'.mp
        (fun hnone => hall (UInt64.le_antisymm (h.arrival_eq_none_iff.mp hnone) hbetween.2))
      dsimp only
      rw [h.post_request_since,hpublication,Option.bind_some,hsince]
      rfl

lemma tracks_step {s : CheckpointThreshold} {reports : List (UInt64 × UInt64)} (call : ThresholdCall)
    (h : s.Tracks reports) : (s.step call).1.Tracks (reports ++ (s.step call).2) := by
  cases call with
  | received total now =>
    unfold step
    dsimp only
    cases haccepted : (s.recordReceived total now).2 with
    | false =>
      rw [recordReceived_refused haccepted,if_neg (by simp),List.append_nil]
      exact h
    | true => exact tracks_recordReceived h haccepted
  | request now =>
    unfold step
    rw [List.append_nil]
    exact tracks_requestPublication h now
  | confirm checkpoint now =>
    unfold step
    rw [List.append_nil]
    exact tracks_confirmPublication h checkpoint now

/-- The invariant of every sequence of calls. -/
theorem tracks_after (startedAtMs : UInt64) (calls : List ThresholdCall) :
    (after startedAtMs calls).Tracks (receivedReports startedAtMs calls) := by
  have hrun := Machine.final_emitted_invariant (P := Tracks)
    (fun s reports call h => tracks_step call h) (tracks_started startedAtMs) calls
  rwa [List.nil_append] at hrun

end CheckpointThreshold

end Invariant

section Decision
namespace CheckpointThreshold
variable {s : CheckpointThreshold} {reports : List (UInt64 × UInt64)}

/-- The bytes received and not durable, and the time since the oldest of them arrived. -/
def Due (s : CheckpointThreshold) (reports : List (UInt64 × UInt64)) (now : UInt64) : Prop :=
  s.publicationBytes = none ∧ s.durableBytes < s.receivedBytes ∧
    (checkpointPendingByteLimit.toNat ≤ s.receivedBytes.toNat - s.durableBytes.toNat ∨
      ∃ since ∈ arrival reports s.durableBytes, checkpointIntervalMs.toNat ≤ now.toNat - since.toNat)

lemma intervalReached_iff {now since : UInt64} (h : since ≤ now) :
    intervalReached now since = true ↔ checkpointIntervalMs.toNat ≤ now.toNat - since.toNat := by
  unfold intervalReached
  rw [Bool.and_eq_true,decide_eq_true_eq,decide_eq_true_eq,UInt64.le_iff_toNat_le (a := checkpointIntervalMs),
    UInt64.toNat_sub_of_le _ _ h]
  exact and_iff_right h

/-- The time of every report is at most the time last observed. -/
lemma Tracks.arrival_le (h : s.Tracks reports) {place since : UInt64} (hsince : arrival reports place = some since) :
    since ≤ s.lastObservedAtMs := by
  obtain ⟨report,hmem,-,rfl⟩ := mem_of_arrival hsince
  exact (h.report_le report hmem).2

/-- A request publishes exactly when a checkpoint is due. -/
lemma Tracks.publish_iff_due (h : s.Tracks reports) {now : UInt64} (hnow : s.lastObservedAtMs ≤ now) :
    (s.requestPublication now).2.action = .publish ↔ s.Due reports now := by
  unfold requestPublication Due
  rw [if_neg (UInt64.not_lt.mpr hnow)]
  cases hpublication : s.publicationBytes with
  | some publication =>
    dsimp only
    split <;> simp
  | none =>
    cases hsince : s.pendingSinceMs with
    | none =>
      have hall := h.arrival_eq_none_iff.mp (h.pending_since.symm.trans hsince)
      simp [UInt64.not_lt.mpr hall]
    | some since =>
      have harrival := h.pending_since.symm.trans hsince
      have hpending : s.durableBytes < s.receivedBytes := by
        rw [← UInt64.not_le,← h.arrival_eq_none_iff,harrival]
        simp
      have hne : ¬s.receivedBytes - s.durableBytes = 0 := by
        rw [← UInt64.toNat_inj,UInt64.toNat_sub_of_le _ _ h.durable_le,UInt64.toNat_zero]
        have := UInt64.lt_iff_toNat_lt.mp hpending
        omega
      have htime := intervalReached_iff (UInt64.le_trans (h.arrival_le harrival) hnow)
      have hbyte : checkpointPendingByteLimit ≤ s.receivedBytes - s.durableBytes ↔
          checkpointPendingByteLimit.toNat ≤ s.receivedBytes.toNat - s.durableBytes.toNat := by
        rw [UInt64.le_iff_toNat_le,UInt64.toNat_sub_of_le _ _ h.durable_le]
      dsimp only
      rw [if_neg hne]
      simp only [harrival,Option.mem_some_iff,exists_eq_left',true_and,hpending,← htime,← hbyte]
      cases intervalReached now since <;>
        by_cases hlimit : checkpointPendingByteLimit ≤ s.receivedBytes - s.durableBytes <;> simp [hlimit]

lemma requestPublication_early {now : UInt64} (h : now < s.lastObservedAtMs) :
    s.requestPublication now = (s,{}) := if_pos h

end CheckpointThreshold

/-- In every sequence of calls the counters are ordered, both pending ages are measured from the arrival of the
oldest byte they are about, a request at a time that is not before the last one observed publishes exactly when
a checkpoint is due, and a call that is refused or comes too early changes nothing. -/
theorem checkpoint_threshold_requests_due (startedAtMs : UInt64) (calls : List ThresholdCall) :
    let s := CheckpointThreshold.after startedAtMs calls
    let reports := CheckpointThreshold.receivedReports startedAtMs calls
    (s.durableBytes ≤ s.receivedBytes ∧ ∀ publication ∈ s.publicationBytes,
        s.durableBytes ≤ publication ∧ publication ≤ s.receivedBytes) ∧
      (s.pendingSinceMs = arrival reports s.durableBytes ∧
        s.postRequestPendingSinceMs = s.publicationBytes.bind (arrival reports)) ∧
      (∀ now, s.lastObservedAtMs ≤ now →
        ((s.requestPublication now).2.action = .publish ↔ s.Due reports now)) ∧
      (∀ now, now < s.lastObservedAtMs → s.requestPublication now = (s,{})) ∧
      (∀ total now, (s.recordReceived total now).2 = false → (s.recordReceived total now).1 = s) ∧
      ∀ checkpoint now, (s.confirmPublication checkpoint now).2 = false →
        (s.confirmPublication checkpoint now).1 = s := by
  intro s reports
  have htracks : s.Tracks reports := CheckpointThreshold.tracks_after startedAtMs calls
  exact ⟨⟨htracks.durable_le,htracks.publication_between⟩,⟨htracks.pending_since,htracks.post_request_since⟩,
    fun now hnow => htracks.publish_iff_due hnow,fun now => CheckpointThreshold.requestPublication_early,
    fun total now => CheckpointThreshold.recordReceived_refused,
    fun checkpoint now => CheckpointThreshold.confirmPublication_refused⟩

/-- A full mebibyte is pending and nothing is in flight, but the request carries a time before the last one. -/
theorem due_checkpoint_not_requested :
    let calls := [ThresholdCall.received 1048576 10]
    let s := CheckpointThreshold.after 10 calls
    s.Due (CheckpointThreshold.receivedReports 10 calls) 5 ∧ (s.requestPublication 5).2.action ≠ .publish := by
  refine ⟨⟨by decide,by decide,.inl (by decide)⟩,by decide⟩

end Decision

end AytherRuntime.Storage
