import AytherRuntime.Inspection.Checkpoints
import AytherRuntime.Library.Machine
import Mathlib.Algebra.Order.BigOperators.Group.List
import Mathlib.Tactic.Linarith

/-! What the checkpoint ring keeps over any calls, and the recoveries that are planned over it. -/
namespace AytherRuntime.Inspection
open Machine

inductive RingCall
  | storeInitial (sizeBytes : ℕ)
  | store (frame sizeBytes : ℕ)

/-- The bytes of some checkpoints. -/
def sizes (entries : List CheckpointEntry) : ℕ := (entries.map CheckpointEntry.sizeBytes).sum

@[simp] lemma sizes_nil : sizes [] = 0 := rfl

@[simp] lemma sizes_cons (entry : CheckpointEntry) (entries : List CheckpointEntry) :
    sizes (entry :: entries) = entry.sizeBytes + sizes entries := List.sum_cons

@[simp] lemma sizes_append (entries others : List CheckpointEntry) :
    sizes (entries ++ others) = sizes entries + sizes others := by
  unfold sizes
  rw [List.map_append,List.sum_append]

namespace CheckpointRing

lemma insertEntry_cons (entry other : CheckpointEntry) (entries : List CheckpointEntry) :
    insertEntry entry (other :: entries) =
      if other.frame ≤ entry.frame then other :: insertEntry entry entries else entry :: other :: entries := by
  unfold insertEntry
  split_ifs with h
  · rw [List.takeWhile_cons_of_pos (by simpa using h),List.dropWhile_cons_of_pos (by simpa using h),List.cons_append]
  · rw [List.takeWhile_cons_of_neg (by simpa using h),List.dropWhile_cons_of_neg (by simpa using h),List.nil_append]

lemma mem_insertEntry {entry other : CheckpointEntry} {entries : List CheckpointEntry} :
    other ∈ insertEntry entry entries ↔ other = entry ∨ other ∈ entries := by
  conv_rhs => rw [← List.takeWhile_append_dropWhile (p := fun kept => decide (kept.frame ≤ entry.frame)) (l := entries)]
  unfold insertEntry
  rw [List.mem_append,List.mem_append,List.mem_cons]
  tauto

lemma sizes_insertEntry (entry : CheckpointEntry) (entries : List CheckpointEntry) :
    sizes (insertEntry entry entries) = entry.sizeBytes + sizes entries := by
  induction entries with
  | nil => rfl
  | cons other entries ih =>
    rw [insertEntry_cons]
    split_ifs
    · rw [sizes_cons,sizes_cons,ih]
      omega
    · rw [sizes_cons]

def Sorted (entries : List CheckpointEntry) : Prop :=
  entries.Pairwise fun entry other => entry.frame < other.frame

lemma sorted_insertEntry {entry : CheckpointEntry} {entries : List CheckpointEntry} (h : Sorted entries)
    (hnew : ∀ other ∈ entries, other.frame ≠ entry.frame) : Sorted (insertEntry entry entries) := by
  induction entries with
  | nil => exact List.pairwise_singleton _ _
  | cons other entries ih =>
    obtain ⟨hbelow,hrest⟩ := List.pairwise_cons.mp h
    rw [insertEntry_cons]
    split_ifs with hle
    · refine List.pairwise_cons.mpr ⟨fun kept hkept => ?_,
        ih hrest fun kept hkept => hnew kept (List.mem_cons_of_mem _ hkept)⟩
      rcases mem_insertEntry.mp hkept with rfl | hkept
      · exact lt_of_le_of_ne hle (hnew other List.mem_cons_self)
      · exact hbelow kept hkept
    · refine List.pairwise_cons.mpr ⟨fun kept hkept => ?_,h⟩
      rcases List.mem_cons.mp hkept with rfl | hkept
      · omega
      · have hlt := hbelow kept hkept
        omega

/-- Eviction drops the oldest entries, until the new one fits beside those that are held or none is left. -/
lemma evict_spec {budget sizeBytes held total : ℕ} {entries : List CheckpointEntry}
    (htotal : total = held + sizes entries) (hbound : total + sizeBytes < 2 ^ 64) :
    ∃ gone kept, entries = gone ++ kept ∧ evict budget sizeBytes total entries = (held + sizes kept,kept) ∧
      (kept = [] ∨ held + sizes kept + sizeBytes ≤ budget) := by
  induction entries generalizing total with
  | nil => exact ⟨[],[],rfl,by rw [evict,htotal],Or.inl rfl⟩
  | cons entry entries ih =>
    rw [evict]
    rw [Nat.mod_eq_of_lt hbound]
    split_ifs with hover
    · rw [sizes_cons] at htotal
      have hless : (total + 2 ^ 64 - entry.sizeBytes) % 2 ^ 64 = held + sizes entries := by omega
      obtain ⟨gone,kept,rfl,hevict,hfits⟩ := ih hless (by omega)
      exact ⟨entry :: gone,kept,rfl,hevict,hfits⟩
    · exact ⟨[],entry :: entries,rfl,by rw [htotal],Or.inr (by omega)⟩

variable (ring : CheckpointRing)

/-- The ring after a call: a refused store leaves it as it was. -/
def apply : RingCall → CheckpointRing
  | .storeInitial sizeBytes => ring.storeInitial sizeBytes
  | .store frame sizeBytes => (ring.store frame sizeBytes).getD ring

/-- The initial checkpoint, where there is one. -/
def initialEntries : List CheckpointEntry := if ring.hasInitial then ring.entries.take 1 else []

def laterEntries : List CheckpointEntry := ring.entries.drop ring.initialEntries.length

/-- A checkpoint of this size can be made to fit. -/
def Fits (sizeBytes : ℕ) : Prop := sizes ring.initialEntries + sizeBytes ≤ ring.budget

/-- A call that stores no frame twice: a frame that is stored has to be one that is evicted, since it leaves no room
with what is kept after it. All sizes together are a number of 64 bits. -/
def StoresOnce : RingCall → Prop
  | .storeInitial sizeBytes => sizes ring.laterEntries + sizeBytes < 2 ^ 64
  | .store frame sizeBytes => ring.Fits sizeBytes → sizes ring.entries + sizeBytes < 2 ^ 64 ∧
      ∀ entry ∈ ring.entries, entry.frame = frame → ring.budget < sizes ring.initialEntries +
        sizes (ring.laterEntries.filter fun other => entry.frame ≤ other.frame) + sizeBytes

/-- What a ring keeps: one checkpoint of a frame, in the order of the frames, and the sum of their sizes. -/
structure Kept (budget : ℕ) : Prop where
  sorted : Sorted ring.entries
  total : ring.total = sizes ring.entries
  budget : ring.budget = budget

structure Invariant (budget : ℕ) : Prop extends Kept ring budget where
  bounded : sizes ring.entries < 2 ^ 64
  frames : ∀ entry ∈ ring.entries, initialCheckpointFrame ≤ entry.frame

/-- What a call does: the initial checkpoint stays, a successful store leaves the ring within its budget, and a refused
one as it was. -/
structure Serves (call : RingCall) : Prop where
  initial : ∀ entry ∈ ring.entries, entry.frame = initialCheckpointFrame →
    ∃ kept ∈ (ring.apply call).entries, kept.frame = initialCheckpointFrame ∧
      ∀ frame sizeBytes, call = .store frame sizeBytes → kept = entry
  stored : ∀ frame sizeBytes stored, call = .store frame sizeBytes → ring.store frame sizeBytes = some stored →
    stored.total ≤ stored.budget
  refused : ∀ frame sizeBytes, call = .store frame sizeBytes → ring.store frame sizeBytes = none →
    ring.apply call = ring

/-- The next frame is a step away; else the greatest checkpoint before the target is restored, and exactly the frames
after it are replayed. -/
def Planned (confirmed target : ℕ) (plan : RecoveryPlan) : Prop :=
  match plan.kind with
  | .step => (confirmed : ℤ) = target - 1 ∧ plan = ⟨.step,confirmed,target,target⟩
  | .restore => (∃ entry ∈ ring.entries, entry.frame = plan.checkpoint) ∧ plan.checkpoint ≤ target - 1 ∧
      (∀ entry ∈ ring.entries, entry.frame ≤ target - 1 → entry.frame ≤ plan.checkpoint) ∧
      ∀ frame : ℕ, plan.replayFrom ≤ frame ∧ frame ≤ plan.replayTo ↔ plan.checkpoint < frame ∧ frame ≤ target
  | .impossible => (confirmed : ℤ) ≠ target - 1 ∧ ∀ entry ∈ ring.entries, ¬entry.frame ≤ (target : ℤ) - 1

variable {ring} {budget : ℕ}

lemma latestAtMost_spec (h : Sorted ring.entries) (frame : ℤ) :
    (ring.latestAtMost frame = none ∧ ∀ entry ∈ ring.entries, ¬entry.frame ≤ frame) ∨
      ∃ entry ∈ ring.entries, entry.frame ≤ frame ∧ ring.latestAtMost frame = some entry.frame ∧
        ∀ other ∈ ring.entries, other.frame ≤ frame → other.frame ≤ entry.frame := by
  unfold latestAtMost
  generalize (none : Option ℤ) = found
  generalize ring.entries = entries at h
  induction entries generalizing found with
  | nil => exact Or.inl ⟨rfl,fun _ hmem => (by cases hmem)⟩
  | cons entry entries ih =>
    obtain ⟨habove,hrest⟩ := List.pairwise_cons.mp h
    rw [List.foldl_cons]
    rcases ih (if entry.frame ≤ frame then some entry.frame else found) hrest with
      ⟨hfound,hnone⟩ | ⟨last,hlast,hle,hfound,hgreatest⟩
    · rw [hfound]
      by_cases hentry : entry.frame ≤ frame
      · rw [if_pos hentry]
        refine Or.inr ⟨entry,List.mem_cons_self,hentry,rfl,fun other hother hother' => ?_⟩
        rcases List.mem_cons.mp hother with rfl | hother
        · exact le_refl _
        · exact absurd hother' (hnone other hother)
      · rw [if_neg hentry]
        refine Or.inl ⟨rfl,fun other hother => ?_⟩
        rcases List.mem_cons.mp hother with rfl | hother
        · exact hentry
        · exact hnone other hother
    · refine Or.inr ⟨last,List.mem_cons_of_mem _ hlast,hle,hfound,fun other hother hother' => ?_⟩
      rcases List.mem_cons.mp hother with rfl | hother
      · exact le_of_lt (habove last hlast)
      · exact hgreatest other hother hother'

/-- A sorted ring is planned over exactly. -/
lemma planned (h : ring.Invariant budget) (confirmed target : ℕ) :
    ring.Planned confirmed target (planRecovery ring confirmed target) := by
  unfold planRecovery
  split_ifs with hstep
  · exact ⟨by omega,rfl⟩
  · unfold restorePlan
    rcases latestAtMost_spec h.sorted ((target : ℤ) - 1) with ⟨hfound,hnone⟩ | ⟨entry,hentry,hle,hfound,hgreatest⟩
    · rw [hfound]
      exact ⟨by omega,hnone⟩
    · rw [hfound]
      have hframe := h.frames entry hentry
      unfold initialCheckpointFrame at hframe
      refine ⟨⟨entry,hentry,rfl⟩,hle,hgreatest,fun frame => ?_⟩
      dsimp only
      omega

/-- The initial checkpoint and those of frames. -/
lemma entries_split (hsorted : Sorted ring.entries)
    (hframes : ∀ entry ∈ ring.entries, initialCheckpointFrame ≤ entry.frame) :
    ring.entries = ring.initialEntries ++ ring.laterEntries ∧
      (∀ entry ∈ ring.initialEntries, entry.frame = initialCheckpointFrame) ∧
      ∀ entry ∈ ring.laterEntries, initialCheckpointFrame < entry.frame := by
  unfold laterEntries initialEntries hasInitial
  cases hentries : ring.entries with
  | nil => exact ⟨rfl,fun _ hmem => (by cases hmem),fun _ hmem => (by cases hmem)⟩
  | cons entry entries =>
    rw [hentries] at hsorted hframes
    obtain ⟨habove,-⟩ := List.pairwise_cons.mp hsorted
    have hentry := hframes entry List.mem_cons_self
    dsimp only
    by_cases hinitial : entry.frame = initialCheckpointFrame
    · rw [if_pos (by simpa using hinitial)]
      refine ⟨rfl,fun other hother => ?_,fun other hother => ?_⟩
      · cases List.mem_singleton.mp hother
        exact hinitial
      · exact hinitial ▸ habove other hother
    · rw [if_neg (by simpa using hinitial)]
      refine ⟨rfl,fun _ hmem => (by cases hmem),fun other hother => ?_⟩
      rcases List.mem_cons.mp hother with rfl | hother
      · exact lt_of_le_of_ne hentry (Ne.symm hinitial)
      · exact lt_of_le_of_lt hentry (habove other hother)

lemma Invariant.storeInitial (h : ring.Invariant budget) {sizeBytes : ℕ}
    (hsum : sizes ring.laterEntries + sizeBytes < 2 ^ 64) : (ring.storeInitial sizeBytes).Invariant budget := by
  obtain ⟨⟨hsorted,htotal,hbudget⟩,hbounded,hframes⟩ := h
  unfold laterEntries initialEntries hasInitial at hsum
  unfold CheckpointRing.storeInitial
  cases hentries : ring.entries with
  | nil =>
    rw [hentries] at hsum htotal
    dsimp only at hsum ⊢
    refine ⟨⟨List.pairwise_singleton _ _,?_,hbudget⟩,?_,fun entry hentry => ?_⟩
    · have hsize : sizeBytes < 2 ^ 64 := by simpa using hsum
      rw [htotal,sizes_nil,Nat.zero_add]
      exact Nat.mod_eq_of_lt hsize
    · simpa using hsum
    · cases List.mem_singleton.mp hentry
      exact le_refl _
  | cons entry entries =>
    rw [hentries] at hsum hsorted htotal hbounded hframes
    dsimp only at hsum ⊢
    rw [sizes_cons] at htotal hbounded
    split_ifs with hinitial
    · rw [if_pos (by simpa using hinitial)] at hsum
      have hlater : sizes entries + sizeBytes < 2 ^ 64 := hsum
      refine ⟨⟨List.pairwise_cons.mpr (List.pairwise_cons.mp hsorted),?_,hbudget⟩,?_,?_⟩
      · rw [htotal,sizes_cons]
        dsimp only
        omega
      · rw [sizes_cons]
        dsimp only
        omega
      · intro other hother
        rcases List.mem_cons.mp hother with rfl | hother
        · exact hframes entry List.mem_cons_self
        · exact hframes other (List.mem_cons_of_mem _ hother)
    · rw [if_neg (by simpa using hinitial)] at hsum
      have hlater : entry.sizeBytes + sizes entries + sizeBytes < 2 ^ 64 := hsum
      obtain ⟨habove,-⟩ := List.pairwise_cons.mp hsorted
      have hentry := lt_of_le_of_ne (hframes entry List.mem_cons_self) (Ne.symm hinitial)
      refine ⟨⟨List.pairwise_cons.mpr ⟨fun other hother => ?_,hsorted⟩,?_,hbudget⟩,?_,?_⟩
      · rcases List.mem_cons.mp hother with rfl | hother
        · exact hentry
        · exact lt_trans hentry (habove other hother)
      · rw [htotal,sizes_cons,sizes_cons]
        dsimp only
        omega
      · rw [sizes_cons,sizes_cons]
        dsimp only
        omega
      · intro other hother
        rcases List.mem_cons.mp hother with rfl | hother
        · exact le_refl _
        · exact hframes other hother

lemma store_eq (frame sizeBytes : ℕ) : ring.store frame sizeBytes =
    if ring.budget < sizes ring.initialEntries ∨ ring.budget - sizes ring.initialEntries < sizeBytes then none
    else some { ring with
      entries := insertEntry ⟨frame,sizeBytes⟩
        (ring.initialEntries ++ (evict ring.budget sizeBytes ring.total ring.laterEntries).2)
      total := ((evict ring.budget sizeBytes ring.total ring.laterEntries).1 + sizeBytes) % 2 ^ 64 } := rfl

lemma fits_of_store {frame sizeBytes : ℕ} {stored : CheckpointRing} (h : ring.store frame sizeBytes = some stored) :
    ring.Fits sizeBytes := by
  rw [store_eq] at h
  split_ifs at h
  unfold Fits
  omega

/-- A successful store: some of the oldest entries have gone, and the others fit with the new one. -/
lemma store_cases (h : ring.Invariant budget) {frame sizeBytes : ℕ} {stored : CheckpointRing}
    (hbound : sizes ring.entries + sizeBytes < 2 ^ 64) (hstored : ring.store frame sizeBytes = some stored) :
    ∃ gone kept, ring.laterEntries = gone ++ kept ∧
      stored = { ring with
        entries := insertEntry ⟨frame,sizeBytes⟩ (ring.initialEntries ++ kept)
        total := sizes ring.initialEntries + sizes kept + sizeBytes } ∧
      sizes ring.initialEntries + sizes kept + sizeBytes ≤ ring.budget := by
  have hfits := fits_of_store hstored
  obtain ⟨hsplit,-,-⟩ := entries_split h.sorted h.frames
  have htotal := h.total
  rw [hsplit,sizes_append] at htotal hbound
  obtain ⟨gone,kept,hlater,hevict,hkept⟩ := @evict_spec ring.budget sizeBytes _ _ _ htotal (by omega)
  have hle : sizes ring.initialEntries + sizes kept + sizeBytes ≤ ring.budget := by
    rcases hkept with rfl | hkept
    · exact hfits
    · exact hkept
  refine ⟨gone,kept,hlater,?_,hle⟩
  rw [hlater,sizes_append] at hbound
  rw [store_eq,hevict] at hstored
  split_ifs at hstored
  dsimp only at hstored
  rw [Nat.mod_eq_of_lt (by omega)] at hstored
  exact (Option.some.inj hstored).symm

lemma Invariant.store (h : ring.Invariant budget) {frame sizeBytes : ℕ} {stored : CheckpointRing}
    (hstored : ring.store frame sizeBytes = some stored) (honce : ring.StoresOnce (.store frame sizeBytes)) :
    stored.Invariant budget := by
  obtain ⟨hbound,hnew⟩ := honce (fits_of_store hstored)
  obtain ⟨gone,kept,hlater,rfl,hle⟩ := store_cases h hbound hstored
  obtain ⟨hsplit,hinitial,hframes⟩ := entries_split h.sorted h.frames
  have hsorted := h.sorted
  rw [hsplit,hlater,sizes_append,sizes_append] at hbound
  rw [hsplit,hlater] at hsorted hnew
  have hsub : (ring.initialEntries ++ kept).Sublist (ring.initialEntries ++ (gone ++ kept)) :=
    (List.Sublist.refl _).append (List.sublist_append_right _ _)
  refine ⟨⟨sorted_insertEntry (hsorted.sublist hsub) fun other hother hframe => ?_,?_,h.budget⟩,?_,
    fun entry hentry => ?_⟩
  · -- An entry of the frame that was kept would leave no room.
    dsimp only at hframe
    rcases List.mem_append.mp hother with hother | hother
    · have hneg := hinitial other hother
      unfold initialCheckpointFrame at hneg
      omega
    · have hover := hnew other (List.mem_append_right _ (List.mem_append_right _ hother)) hframe
      obtain ⟨-,hlater',-⟩ := List.pairwise_append.mp hsorted
      obtain ⟨-,-,hgone⟩ := List.pairwise_append.mp hlater'
      have hnone : gone.filter (fun entry => decide (other.frame ≤ entry.frame)) = [] := by
        refine List.filter_eq_nil_iff.mpr fun entry hentry => ?_
        have hlt := hgone entry hentry other hother
        simpa using hlt
      have hfilter : sizes (kept.filter fun entry => decide (other.frame ≤ entry.frame)) ≤ sizes kept :=
        (List.filter_sublist.map _).sum_le_sum fun _ _ => Nat.zero_le _
      rw [List.filter_append,hnone,List.nil_append] at hover
      omega
  · rw [sizes_insertEntry,sizes_append]
    dsimp only
    omega
  · rw [sizes_insertEntry,sizes_append]
    dsimp only
    omega
  · rcases mem_insertEntry.mp hentry with rfl | hentry
    · unfold initialCheckpointFrame
      dsimp only
      omega
    · refine h.frames entry ?_
      rw [hsplit,hlater]
      exact hsub.subset hentry

lemma apply_store (frame sizeBytes : ℕ) :
    ring.apply (.store frame sizeBytes) = (ring.store frame sizeBytes).getD ring := rfl

lemma Invariant.apply (h : ring.Invariant budget) {call : RingCall} (honce : ring.StoresOnce call) :
    (ring.apply call).Invariant budget := by
  cases call with
  | storeInitial sizeBytes => exact h.storeInitial honce
  | store frame sizeBytes =>
    rw [apply_store]
    cases hstored : ring.store frame sizeBytes with
    | none => exact h
    | some stored => exact h.store hstored honce

lemma storeInitial_initial (sizeBytes : ℕ) :
    ∃ kept ∈ (ring.storeInitial sizeBytes).entries, kept.frame = initialCheckpointFrame := by
  unfold storeInitial
  cases ring.entries with
  | nil => exact ⟨_,List.mem_cons_self,rfl⟩
  | cons entry entries =>
    dsimp only
    split_ifs with hinitial
    · exact ⟨_,List.mem_cons_self,hinitial⟩
    · exact ⟨_,List.mem_cons_self,rfl⟩

lemma Invariant.serves (h : ring.Invariant budget) {call : RingCall} (honce : ring.StoresOnce call) :
    ring.Serves call := by
  cases call with
  | storeInitial sizeBytes =>
    refine ⟨fun _ _ _ => ?_,fun _ _ _ hcall => (by cases hcall),fun _ _ hcall => (by cases hcall)⟩
    obtain ⟨kept,hkept,hframe⟩ := ring.storeInitial_initial sizeBytes
    exact ⟨kept,hkept,hframe,fun _ _ hcall => (by cases hcall)⟩
  | store frame sizeBytes =>
    refine ⟨fun entry hentry hframe => ?_,fun _ _ stored hcall hstored => ?_,fun _ _ hcall hrefused => ?_⟩
    · rw [apply_store]
      cases hstored : ring.store frame sizeBytes with
      | none => exact ⟨entry,hentry,hframe,fun _ _ _ => rfl⟩
      | some stored =>
        obtain ⟨gone,kept,-,rfl,-⟩ := store_cases h (honce (fits_of_store hstored)).1 hstored
        obtain ⟨hsplit,-,hlater⟩ := entries_split h.sorted h.frames
        refine ⟨entry,mem_insertEntry.mpr (Or.inr (List.mem_append_left _ ?_)),hframe,fun _ _ _ => rfl⟩
        rw [hsplit] at hentry
        rcases List.mem_append.mp hentry with hinitial | hentry
        · exact hinitial
        · exact absurd hframe (ne_of_gt (hlater entry hentry))
    · cases hcall
      obtain ⟨gone,kept,-,rfl,hle⟩ := store_cases h (honce (fits_of_store hstored)).1 hstored
      exact hle
    · cases hcall
      rw [apply_store,hrefused]
      rfl

lemma invariant_new (interval budget : ℕ) : (new interval budget).Invariant budget :=
  ⟨⟨List.Pairwise.nil,rfl,rfl⟩,Nat.two_pow_pos 64,fun _ hmem => (by cases hmem)⟩

instance (sizeBytes : ℕ) : Decidable (ring.Fits sizeBytes) := inferInstanceAs (Decidable (_ ≤ _))

instance (call : RingCall) : Decidable (ring.StoresOnce call) :=
  match call with
  | .storeInitial _ => inferInstanceAs (Decidable (_ < _))
  | .store frame sizeBytes =>
    inferInstanceAs (Decidable (ring.Fits sizeBytes → sizes ring.entries + sizeBytes < 2 ^ 64 ∧
      ∀ entry ∈ ring.entries, entry.frame = frame → ring.budget < sizes ring.initialEntries +
        sizes (ring.laterEntries.filter fun other => entry.frame ≤ other.frame) + sizeBytes))

/-- A ring that is given no frame twice keeps its order, its sum and its initial checkpoint through any calls, and
every recovery is planned exactly over what it keeps. -/
theorem kept_of_storesOnce {interval budget : ℕ} {calls : List RingCall} {ring : CheckpointRing}
    (h : Meets (fun ring call => some (ring.apply call)) StoresOnce (new interval budget) calls ring) :
    ring.Kept budget ∧ (∀ call, ring.StoresOnce call → ring.Serves call) ∧
      ∀ confirmed target, ring.Planned confirmed target (planRecovery ring confirmed target) := by
  have hinvariant : ring.Invariant budget := by
    refine @Meets.invariant _ _ _ _ (fun ring => ring.Invariant budget) ?_ _ _ _ h (invariant_new interval budget)
    intro ring call next hring honce hnext
    cases hnext
    exact hring.apply honce
  exact ⟨hinvariant.toKept,fun call honce => hinvariant.serves honce,planned hinvariant⟩

/-- The third checkpoint evicts the first. -/
theorem kept_with_eviction : ∃ ring : CheckpointRing, ring.entries = [⟨-1,10⟩,⟨119,20⟩,⟨179,20⟩] ∧ ring.Kept 50 ∧
    (∀ call, ring.StoresOnce call → ring.Serves call) ∧
      ∀ confirmed target, ring.Planned confirmed target (planRecovery ring confirmed target) :=
  ⟨⟨60,50,50,[⟨-1,10⟩,⟨119,20⟩,⟨179,20⟩]⟩,rfl,
    @kept_of_storesOnce 60 50 [.storeInitial 10,.store 59 20,.store 119 20,.store 179 20] _ (run_meets (by decide))⟩

/-- A frame that is shown again after a step back is stored beside itself. -/
theorem frame_stored_twice :
    ¬([.storeInitial 1,.store 119 1,.store 119 1].foldl CheckpointRing.apply (new 60 100)).Kept 100 :=
  fun h => absurd h.sorted (by unfold Sorted; decide)

end CheckpointRing
end AytherRuntime.Inspection
