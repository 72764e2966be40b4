import AytherRuntime.Mix.Model
import Mathlib.Data.List.Dedup

/-! The inventory of the assignments of a pack: what is counted does not depend on the order of the observations. -/
namespace AytherRuntime.Binary.Assignments
open Codec
open Mix (validValue validText maxReferenceMaterials)

structure AssignmentId where
  packContentId : Bytes
  ordinal : UInt64
  deriving DecidableEq

inductive LoadState
  | unknown | pending | loaded | rejected
  deriving DecidableEq, Repr

structure Assignment where
  id : AssignmentId
  authoredId : Field Bytes := {}
  expected : Field Bool := {}
  loadState : LoadState := .unknown
  loadReason : Field Bytes := {}
  loadFact : Field FactId := {}
  deriving DecidableEq

inductive ObservationExtent
  | notObserved | partialExtent | complete
  deriving DecidableEq, Repr

inductive ExpectedAssignmentCountSource
  | fixedReference | observedInventory
  deriving DecidableEq, Repr

structure AssignmentInventoryReference where
  packContentId : Bytes
  expectedCountSource : ExpectedAssignmentCountSource := .observedInventory
  fixedExpectedCount : Option ℕ := none
  inventoryExtent : ObservationExtent := .notObserved
  deriving DecidableEq

inductive AssignmentInventoryStatus
  | summarized | invalidReference | invalidAssignment | packMismatch | capacityExceeded | conflictingDuplicate
  deriving DecidableEq, Repr

structure AssignmentInventorySummary where
  status : AssignmentInventoryStatus := .invalidReference
  packContentId : Bytes
  expectedCountSource : ExpectedAssignmentCountSource
  inventoryExtent : ObservationExtent
  observedAssignmentCount : ℕ := 0
  duplicateObservationCount : ℕ := 0
  inventoryCount : Field ℕ := {}
  expectedCount : Field ℕ := {}
  unknownLoadCount : Field ℕ := {}
  pendingLoadCount : Field ℕ := {}
  loadedCount : Field ℕ := {}
  rejectedCount : Field ℕ := {}
  inventoryMatchesExpectation : Field Bool := {}
  firstProblem : Field AssignmentId := {}
  deriving DecidableEq

section Summary

def validFact : Field FactId → Bool := validValue validId

/-- `well_formed` of an assignment; a rejected one has its reason. -/
def wellFormedAssignment (assignment : Assignment) : Bool :=
  identifier assignment.id.packContentId && validText assignment.authoredId &&
    consistentAvailability assignment.expected && validText assignment.loadReason && validFact assignment.loadFact &&
    (assignment.loadState ≠ .rejected || assignment.loadReason.value.isSome)

def known {α : Type} (value : α) : Field α := ⟨.known,some value,[]⟩

def unknown {α : Type} (reason : Bytes) : Field α := ⟨.unknown,none,reason⟩

def reason (text : String) : Bytes := text.toUTF8.toList

/-- The assignments by their first observations, the number of the others and the first one that differs. -/
structure Inventory where
  assignments : List Assignment := []
  duplicates : ℕ := 0
  conflict : Option AssignmentId := none
  deriving DecidableEq

/-- One observation; an error has the assignment that it is about and the repetitions before it. -/
def observe (packContentId : Bytes) (inventory : Inventory) (assignment : Assignment) :
    Except (AssignmentInventoryStatus × AssignmentId × ℕ) Inventory :=
  if !wellFormedAssignment assignment then .error (.invalidAssignment,assignment.id,inventory.duplicates)
  else if assignment.id.packContentId ≠ packContentId then .error (.packMismatch,assignment.id,inventory.duplicates)
  else
    match inventory.assignments.find? fun candidate => candidate.id = assignment.id with
    | none => .ok { inventory with assignments := inventory.assignments ++ [assignment] }
    | some duplicate => .ok
      { inventory with
        duplicates := inventory.duplicates + 1
        conflict :=
          if duplicate ≠ assignment ∧ inventory.conflict = none then some assignment.id else inventory.conflict }

variable (reference : AssignmentInventoryReference) (observations : List Assignment)

/-- The reference is refused. -/
def invalidReference : Bool :=
  !identifier reference.packContentId ||
    decide (reference.expectedCountSource = .fixedReference) ≠ reference.fixedExpectedCount.isSome ||
    reference.fixedExpectedCount.any (maxReferenceMaterials < ·) ||
    (reference.inventoryExtent = .notObserved && observations ≠ [])

/-- The summary before any observation. -/
def unsummarized : AssignmentInventorySummary where
  packContentId := reference.packContentId
  expectedCountSource := reference.expectedCountSource
  inventoryExtent := reference.inventoryExtent

def loadCount (inventory : Inventory) (state : LoadState) : ℕ :=
  inventory.assignments.countP fun assignment => assignment.loadState = state

/-- The summary after all observations. -/
def summarize (inventory : Inventory) : AssignmentInventorySummary :=
  let observed := inventory.assignments.length
  let inventoryCount : Field ℕ :=
    match reference.inventoryExtent with
    | .complete => known observed
    | .partialExtent => unknown (reason "partial_inventory")
    | .notObserved => unknown (reason "inventory_not_observed")
  let expectedCount : Field ℕ :=
    match reference.fixedExpectedCount with
    | some count => known count
    | none =>
      match inventoryCount.value with
      | some count => known count
      | none => unknown inventoryCount.reasonCode
  let load (state : LoadState) : Field ℕ :=
    match inventory.conflict with
    | some _ => unknown (reason "conflicting_duplicate")
    | none => known (loadCount inventory state)
  let matching : Field Bool :=
    match inventoryCount.value,expectedCount.value with
    | some inventoryCount,some expectedCount => known (inventoryCount = expectedCount)
    | _,_ => unknown (reason "inventory_or_expectation_unknown")
  { unsummarized reference with
    status := if inventory.conflict.isSome then .conflictingDuplicate else .summarized
    observedAssignmentCount := observed
    duplicateObservationCount := inventory.duplicates
    inventoryCount
    expectedCount
    unknownLoadCount := load .unknown
    pendingLoadCount := load .pending
    loadedCount := load .loaded
    rejectedCount := load .rejected
    inventoryMatchesExpectation := matching
    firstProblem := (inventory.conflict.map known).getD {} }

/-- `summarize_assignment_inventory` -/
def summarizeAssignmentInventory : AssignmentInventorySummary :=
  if invalidReference reference observations then unsummarized reference
  else if maxReferenceMaterials < observations.length then { unsummarized reference with status := .capacityExceeded }
  else
    match observations.foldlM (observe reference.packContentId) {} with
    | .error (status,id,duplicates) =>
      { unsummarized reference with status,firstProblem := known id,duplicateObservationCount := duplicates }
    | .ok inventory => summarize reference inventory

end Summary

section Counts
variable {done : List Assignment} {inventory : Inventory}

/-- The inventory of some observations. -/
structure Inventoried (done : List Assignment) (inventory : Inventory) : Prop where
  once : (inventory.assignments.map Assignment.id).Nodup
  observed : ∀ assignment ∈ inventory.assignments, assignment ∈ done
  covers : ∀ assignment ∈ done, assignment.id ∈ inventory.assignments.map Assignment.id
  total : inventory.assignments.length + inventory.duplicates = done.length
  differs : inventory.conflict.isSome ↔
    ∃ first ∈ inventory.assignments, ∃ other ∈ done, first.id = other.id ∧ first ≠ other

lemma inventoried_nil : Inventoried [] {} where
  once := List.nodup_nil
  observed := List.forall_mem_nil _
  covers := List.forall_mem_nil _
  total := rfl
  differs := iff_of_false (by decide) fun ⟨_,hmem,_⟩ => List.not_mem_nil hmem

/-- An observation of a new assignment is the first one of it; another one is compared with the first. -/
lemma Inventoried.observe (h : Inventoried done inventory) {packContentId : Bytes} {assignment : Assignment}
    (hwell : wellFormedAssignment assignment = true) (hpack : assignment.id.packContentId = packContentId) :
    ∃ next, observe packContentId inventory assignment = .ok next ∧ Inventoried (done ++ [assignment]) next := by
  unfold Assignments.observe
  rw [hwell,if_neg (by decide),if_neg (not_not_intro hpack)]
  cases hfind : inventory.assignments.find? fun candidate => candidate.id = assignment.id with
  | none =>
    have hnew : ∀ first ∈ inventory.assignments, first.id ≠ assignment.id := fun first hfirst hsame =>
      List.find?_eq_none.mp hfind first hfirst (decide_eq_true hsame)
    have hfresh : ∀ other ∈ done, assignment.id ≠ other.id := by
      intro other hother hsame
      obtain ⟨first,hfirst,hid⟩ := List.mem_map.mp (h.covers other hother)
      exact hnew first hfirst (hid.trans hsame.symm)
    refine ⟨_,rfl,⟨?_,?_,?_,?_,?_⟩⟩
    · rw [List.map_append,List.map_singleton]
      refine h.once.append (List.nodup_singleton _) (List.disjoint_singleton.mpr fun hmem => ?_)
      obtain ⟨first,hfirst,hsame⟩ := List.mem_map.mp hmem
      exact hnew first hfirst hsame
    · exact List.forall_mem_append.mpr ⟨fun first hfirst => List.mem_append_left _ (h.observed first hfirst),
        List.forall_mem_singleton.mpr (List.mem_append_right _ (List.mem_singleton_self _))⟩
    · rw [List.map_append]
      exact List.forall_mem_append.mpr ⟨fun other hother => List.mem_append_left _ (h.covers other hother),
        List.forall_mem_singleton.mpr (List.mem_append_right _ (List.mem_singleton_self _))⟩
    · have htotal := h.total
      rw [List.length_append,List.length_append,List.length_singleton]
      dsimp only
      omega
    · rw [show ({ inventory with assignments := inventory.assignments ++ [assignment] } : Inventory).conflict =
        inventory.conflict from rfl,h.differs]
      constructor
      · rintro ⟨first,hfirst,other,hother,hids⟩
        exact ⟨first,List.mem_append_left _ hfirst,other,List.mem_append_left _ hother,hids⟩
      · rintro ⟨first,hfirst,other,hother,hid,hne⟩
        rw [List.mem_append,List.mem_singleton] at hfirst hother
        obtain hfirst | rfl := hfirst
        · obtain hother | rfl := hother
          · exact ⟨first,hfirst,other,hother,hid,hne⟩
          · exact absurd hid (hnew first hfirst)
        · obtain hother | rfl := hother
          · exact absurd hid (hfresh other hother)
          · exact absurd rfl hne
  | some duplicate =>
    have hmem := List.mem_of_find?_eq_some hfind
    have hfound := List.find?_some hfind
    have hid : duplicate.id = assignment.id := of_decide_eq_true hfound
    refine ⟨_,rfl,⟨h.once,fun first hfirst => List.mem_append_left _ (h.observed first hfirst),?_,?_,?_⟩⟩
    · exact List.forall_mem_append.mpr ⟨h.covers,List.forall_mem_singleton.mpr (hid ▸ List.mem_map_of_mem hmem)⟩
    · have htotal := h.total
      rw [List.length_append,List.length_singleton]
      dsimp only
      omega
    · have hconflict : (if duplicate ≠ assignment ∧ inventory.conflict = none then some assignment.id
          else inventory.conflict).isSome ↔ duplicate ≠ assignment ∨ inventory.conflict.isSome := by
        by_cases hsame : duplicate = assignment
        · simp [hsame]
        · cases inventory.conflict <;> simp [hsame]
      dsimp only
      rw [hconflict,h.differs]
      constructor
      · rintro (hne | ⟨first,hfirst,other,hother,hids⟩)
        · exact ⟨duplicate,hmem,assignment,List.mem_append_right _ (List.mem_singleton_self _),hid,hne⟩
        · exact ⟨first,hfirst,other,List.mem_append_left _ hother,hids⟩
      · rintro ⟨first,hfirst,other,hother,hsame,hne⟩
        rw [List.mem_append,List.mem_singleton] at hother
        obtain hother | rfl := hother
        · exact Or.inr ⟨first,hfirst,other,hother,hsame,hne⟩
        · rw [List.inj_on_of_nodup_map h.once hfirst hmem (hsame.trans hid.symm)] at hne
          exact Or.inl hne

/-- Well-formed observations of the pack are all taken. -/
lemma Inventoried.foldlM (h : Inventoried done inventory) {packContentId : Bytes} (observations : List Assignment)
    (hwell : ∀ assignment ∈ observations, wellFormedAssignment assignment = true ∧
      assignment.id.packContentId = packContentId) :
    ∃ last, observations.foldlM (Assignments.observe packContentId) inventory = .ok last ∧
      Inventoried (done ++ observations) last := by
  induction observations generalizing done inventory with
  | nil => exact ⟨inventory,rfl,by rwa [List.append_nil]⟩
  | cons assignment observations ih =>
    obtain ⟨⟨hformed,hpack⟩,hlater⟩ := List.forall_mem_cons.mp hwell
    obtain ⟨next,hnext,hinventoried⟩ := h.observe hformed hpack
    obtain ⟨last,hlast,hall⟩ := ih hinventoried hlater
    refine ⟨last,?_,by rwa [List.append_cons]⟩
    rw [List.foldlM_cons,hnext]
    exact hlast

variable {observations : List Assignment}

/-- Two observations of one assignment differ. -/
def Conflicting (observations : List Assignment) : Prop :=
  ∃ first ∈ observations, ∃ other ∈ observations, first.id = other.id ∧ first ≠ other

/-- The number of the assignments that an observation of a kind is of. -/
def distinctCount (observations : List Assignment) (kind : Assignment → Bool) : ℕ :=
  ((observations.filter kind).map Assignment.id).dedup.length

lemma Inventoried.length (h : Inventoried observations inventory) :
    inventory.assignments.length = (observations.map Assignment.id).dedup.length := by
  have hperm : (inventory.assignments.map Assignment.id).Perm (observations.map Assignment.id).dedup := by
    rw [List.perm_ext_iff_of_nodup h.once (List.nodup_dedup _)]
    intro id
    rw [List.mem_dedup]
    constructor
    · rintro hid
      obtain ⟨first,hfirst,rfl⟩ := List.mem_map.mp hid
      exact List.mem_map_of_mem (h.observed first hfirst)
    · intro hid
      obtain ⟨other,hother,rfl⟩ := List.mem_map.mp hid
      exact h.covers other hother
  rw [← hperm.length_eq,List.length_map]

lemma Inventoried.conflict_iff (h : Inventoried observations inventory) :
    inventory.conflict.isSome ↔ Conflicting observations := by
  rw [h.differs]
  constructor
  · rintro ⟨first,hfirst,other,hother,hids⟩
    exact ⟨first,h.observed first hfirst,other,hother,hids⟩
  · rintro ⟨first,hfirst,other,hother,hid,hne⟩
    obtain ⟨kept,hkept,hsame⟩ := List.mem_map.mp (h.covers first hfirst)
    by_cases hequal : kept = first
    · exact ⟨kept,hkept,other,hother,hsame.trans hid,fun hother' => hne (hequal.symm.trans hother')⟩
    · exact ⟨kept,hkept,first,hfirst,hsame,hequal⟩

/-- Without a conflict the assignments are counted by any observation of them. -/
lemma Inventoried.loadCount (h : Inventoried observations inventory) (hagree : ¬Conflicting observations)
    (state : LoadState) :
    loadCount inventory state = distinctCount observations fun assignment => assignment.loadState = state := by
  have hkept : ∀ other ∈ observations, other ∈ inventory.assignments := by
    intro other hother
    obtain ⟨first,hfirst,hid⟩ := List.mem_map.mp (h.covers other hother)
    have hsame : first = other := by
      by_contra hne
      exact hagree ⟨first,h.observed first hfirst,other,hother,hid,hne⟩
    rwa [← hsame]
  have hperm : ((inventory.assignments.filter fun assignment => assignment.loadState = state).map Assignment.id).Perm
      ((observations.filter fun assignment => assignment.loadState = state).map Assignment.id).dedup := by
    rw [List.perm_ext_iff_of_nodup (h.once.sublist (List.filter_sublist.map _)) (List.nodup_dedup _)]
    intro id
    rw [List.mem_dedup]
    constructor
    · intro hid
      obtain ⟨first,hfirst,rfl⟩ := List.mem_map.mp hid
      obtain ⟨hmem,hstate⟩ := List.mem_filter.mp hfirst
      exact List.mem_map_of_mem (List.mem_filter.mpr ⟨h.observed first hmem,hstate⟩)
    · intro hid
      obtain ⟨other,hother,rfl⟩ := List.mem_map.mp hid
      obtain ⟨hmem,hstate⟩ := List.mem_filter.mp hother
      exact List.mem_map_of_mem (List.mem_filter.mpr ⟨hkept other hmem,hstate⟩)
  rw [distinctCount,← hperm.length_eq,List.length_map,Assignments.loadCount,List.countP_eq_length_filter]

/-- The four loads share the assignments out. -/
lemma loadCount_sum (inventory : Inventory) : loadCount inventory .unknown + loadCount inventory .pending +
    loadCount inventory .loaded + loadCount inventory .rejected = inventory.assignments.length := by
  unfold loadCount
  induction inventory.assignments with
  | nil => rfl
  | cons assignment assignments ih =>
    simp only [List.countP_cons,List.length_cons]
    cases assignment.loadState <;> simp <;> omega

lemma Conflicting.perm {observations' : List Assignment} (hperm : observations.Perm observations')
    (h : Conflicting observations) : Conflicting observations' := by
  obtain ⟨first,hfirst,other,hother,hids⟩ := h
  exact ⟨first,hperm.mem_iff.mp hfirst,other,hperm.mem_iff.mp hother,hids⟩

lemma distinctCount_perm {observations' : List Assignment} (hperm : observations.Perm observations')
    (kind : Assignment → Bool) : distinctCount observations kind = distinctCount observations' kind :=
  ((hperm.filter kind).map Assignment.id).dedup.length_eq

end Counts

section Order
variable (reference : AssignmentInventoryReference) {observations : List Assignment} {inventory : Inventory}

/-- The observations are well formed and of a pack. -/
def OfPack (packContentId : Bytes) (observations : List Assignment) : Prop :=
  ∀ assignment ∈ observations, wellFormedAssignment assignment = true ∧ assignment.id.packContentId = packContentId

/-- The reference and the number of the observations are accepted. -/
def Referenced (observations : List Assignment) : Prop :=
  invalidReference reference observations = false ∧ observations.length ≤ maxReferenceMaterials

/-- A summary without the assignment that it names. -/
def AssignmentInventorySummary.counted (summary : AssignmentInventorySummary) : AssignmentInventorySummary :=
  { summary with firstProblem := {} }

/-- The observations of the pack make an inventory, and the summary is of it. -/
lemma summarizeAssignmentInventory_referenced (href : Referenced reference observations)
    (hpack : OfPack reference.packContentId observations) :
    ∃ inventory, summarizeAssignmentInventory reference observations = summarize reference inventory ∧
      Inventoried observations inventory := by
  obtain ⟨inventory,hfold,hinventoried⟩ := inventoried_nil.foldlM observations hpack
  refine ⟨inventory,?_,hinventoried⟩
  unfold summarizeAssignmentInventory
  rw [href.1,if_neg (by decide),if_neg (Nat.not_lt.mpr href.2),hfold]

lemma summarizeAssignmentInventory_unreferenced (href : ¬Referenced reference observations) :
    (summarizeAssignmentInventory reference observations).observedAssignmentCount = 0 ∧
      (summarizeAssignmentInventory reference observations).duplicateObservationCount = 0 ∧
      (summarizeAssignmentInventory reference observations).status =
        if invalidReference reference observations then .invalidReference else .capacityExceeded := by
  unfold summarizeAssignmentInventory
  by_cases hinvalid : invalidReference reference observations = true
  · rw [if_pos hinvalid,if_pos hinvalid]
    exact ⟨rfl,rfl,rfl⟩
  · rw [if_neg hinvalid,if_neg hinvalid,
      if_pos (Nat.not_le.mp fun hle => href ⟨Bool.eq_false_of_not_eq_true hinvalid,hle⟩)]
    exact ⟨rfl,rfl,rfl⟩

/-- What a summary counts depends on the inventory through these numbers only. -/
lemma summarize_counted {inventory' : Inventory}
    (hobserved : inventory.assignments.length = inventory'.assignments.length)
    (hduplicates : inventory.duplicates = inventory'.duplicates)
    (hconflict : inventory.conflict.isSome = inventory'.conflict.isSome)
    (hload : inventory.conflict = none → ∀ state, loadCount inventory state = loadCount inventory' state) :
    (summarize reference inventory).counted = (summarize reference inventory').counted := by
  unfold summarize AssignmentInventorySummary.counted
  dsimp only
  rw [hobserved,hduplicates,hconflict]
  cases hfirst : inventory.conflict with
  | none =>
    have hother : inventory'.conflict = none := by
      rwa [hfirst,Option.isSome_none,eq_comm,Option.isSome_eq_false_iff,Option.isNone_iff_eq_none] at hconflict
    rw [hother]
    dsimp only
    rw [hload hfirst,hload hfirst,hload hfirst,hload hfirst]
  | some id =>
    rw [hfirst,Option.isSome_some,eq_comm] at hconflict
    obtain ⟨other,hother⟩ := Option.isSome_iff_exists.mp hconflict
    rw [hother]

/-- Permuted observations of the pack are counted alike. -/
lemma summarizeAssignmentInventory_perm {observations' : List Assignment} (hperm : observations.Perm observations')
    (hpack : OfPack reference.packContentId observations) :
    (summarizeAssignmentInventory reference observations).counted =
      (summarizeAssignmentInventory reference observations').counted := by
  have hpack' : OfPack reference.packContentId observations' := fun assignment hmem =>
    hpack assignment (hperm.mem_iff.mpr hmem)
  have hinvalid : invalidReference reference observations = invalidReference reference observations' := by
    have hempty : observations = [] ↔ observations' = [] := by
      rw [← List.length_eq_zero_iff,hperm.length_eq,List.length_eq_zero_iff]
    unfold invalidReference
    rw [show decide (observations ≠ []) = decide (observations' ≠ []) from decide_eq_decide.mpr hempty.not]
  by_cases href : Referenced reference observations
  · have href' : Referenced reference observations' := by
      unfold Referenced at href ⊢
      rwa [← hinvalid,← hperm.length_eq]
    obtain ⟨inventory,hsummary,hinventoried⟩ := summarizeAssignmentInventory_referenced reference href hpack
    obtain ⟨inventory',hsummary',hinventoried'⟩ := summarizeAssignmentInventory_referenced reference href' hpack'
    have hobserved : inventory.assignments.length = inventory'.assignments.length := by
      rw [hinventoried.length,hinventoried'.length,(hperm.map Assignment.id).dedup.length_eq]
    have hduplicates : inventory.duplicates = inventory'.duplicates := by
      have htotal := hinventoried.total
      have htotal' := hinventoried'.total
      rw [← hperm.length_eq,← hobserved] at htotal'
      omega
    have hconflict : inventory.conflict.isSome ↔ inventory'.conflict.isSome := by
      rw [hinventoried.conflict_iff,hinventoried'.conflict_iff]
      exact ⟨Conflicting.perm hperm,Conflicting.perm hperm.symm⟩
    rw [hsummary,hsummary']
    refine summarize_counted reference hobserved hduplicates (Bool.eq_iff_iff.mpr hconflict) fun hnone state => ?_
    have hagree : ¬Conflicting observations := fun hconf => by
      rw [← hinventoried.conflict_iff,hnone] at hconf
      exact absurd hconf (by decide)
    rw [hinventoried.loadCount hagree,hinventoried'.loadCount fun hconf => hagree (hconf.perm hperm.symm),
      distinctCount_perm hperm]
  · unfold summarizeAssignmentInventory
    rw [← hinvalid,← hperm.length_eq]
    by_cases hrefused : invalidReference reference observations = true
    · rw [if_pos hrefused,if_pos hrefused]
    · have hlong : maxReferenceMaterials < observations.length :=
        Nat.not_le.mp fun hle => href ⟨Bool.eq_false_of_not_eq_true hrefused,hle⟩
      rw [if_neg hrefused,if_neg hrefused,if_pos hlong,if_pos hlong]

/-- What the summary of an accepted reference counts. -/
structure Counted (observations : List Assignment) (summary : AssignmentInventorySummary) : Prop where
  observed : summary.observedAssignmentCount = (observations.map Assignment.id).dedup.length
  repeated : summary.observedAssignmentCount + summary.duplicateObservationCount = observations.length
  conflicting : summary.status = .conflictingDuplicate ↔ Conflicting observations
  summarized : ¬Conflicting observations → summary.status = .summarized
  loads : ¬Conflicting observations →
    summary.unknownLoadCount = known (distinctCount observations fun assignment => assignment.loadState = .unknown) ∧
    summary.pendingLoadCount = known (distinctCount observations fun assignment => assignment.loadState = .pending) ∧
    summary.loadedCount = known (distinctCount observations fun assignment => assignment.loadState = .loaded) ∧
    summary.rejectedCount = known (distinctCount observations fun assignment => assignment.loadState = .rejected)
  partitioned : ¬Conflicting observations →
    distinctCount observations (fun assignment => assignment.loadState = .unknown) +
      distinctCount observations (fun assignment => assignment.loadState = .pending) +
      distinctCount observations (fun assignment => assignment.loadState = .loaded) +
      distinctCount observations (fun assignment => assignment.loadState = .rejected) =
        summary.observedAssignmentCount

lemma summarizeAssignmentInventory_counted (href : Referenced reference observations)
    (hpack : OfPack reference.packContentId observations) :
    Counted observations (summarizeAssignmentInventory reference observations) := by
  obtain ⟨inventory,hsummary,hinventoried⟩ := summarizeAssignmentInventory_referenced reference href hpack
  have hnone : ¬Conflicting observations → inventory.conflict = none := fun hagree => by
    rwa [← hinventoried.conflict_iff,Option.not_isSome_iff_eq_none] at hagree
  have hstatus : (summarize reference inventory).status =
      if inventory.conflict.isSome then .conflictingDuplicate else .summarized := rfl
  rw [hsummary]
  refine ⟨hinventoried.length,hinventoried.total,?_,fun hagree => ?_,fun hagree => ?_,fun hagree => ?_⟩
  · rw [hstatus,← hinventoried.conflict_iff]
    cases inventory.conflict <;> simp
  · rw [hstatus,hnone hagree]
    rfl
  · unfold summarize
    dsimp only
    rw [hnone hagree]
    dsimp only
    rw [hinventoried.loadCount hagree,hinventoried.loadCount hagree,hinventoried.loadCount hagree,
      hinventoried.loadCount hagree]
    exact ⟨rfl,rfl,rfl,rfl⟩
  · rw [← hinventoried.loadCount hagree,← hinventoried.loadCount hagree,← hinventoried.loadCount hagree,
      ← hinventoried.loadCount hagree]
    exact loadCount_sum inventory

end Order
end AytherRuntime.Binary.Assignments
