import AytherRuntime.Campaign.Stages
import AytherRuntime.Library.Arrangement

/-! The parents that the audit finds for the facts of a run: the one that a selection gets depends on
the candidates that come before it. -/
namespace AytherRuntime.Campaign
open Arrangement

section Known

def isKnown (fact : Fact) : Bool := campaignKind fact.kind ≠ .other

def isCandidate (fact : Fact) : Bool := campaignKind fact.kind = .assignmentCandidate

def isSelection (fact : Fact) : Bool := campaignKind fact.kind = .assignmentSelection

/-- The facts that the audit knows have identities of their own. -/
def Distinct (facts : List Fact) : Prop := ((facts.filter isKnown).map Fact.id).Nodup

/-- The parent of a fact when every candidate is known. -/
def parentIn (facts : List Fact) (id : FactId) : Option FactId :=
  (facts.find? fun fact => isKnown fact && fact.id = id).bind fun fact =>
    parentOf fact (candidateIds facts)

/-- A selection that names a candidate. -/
def OpenSelection (facts : List Fact) (id : FactId) : Prop :=
  ∃ fact ∈ facts, isSelection fact = true ∧ fact.id = id ∧
    (candidateCause (candidateIds facts) fact).isSome = true

end Known

variable {facts facts' before after : List Fact} {fact other : Fact} {id : FactId}

lemma Distinct.perm (h : Distinct facts) (hperm : facts'.Perm facts) : Distinct facts' :=
  ((hperm.filter _).map _).nodup_iff.mpr h

lemma Distinct.eq (h : Distinct facts) (hfact : fact ∈ facts) (hother : other ∈ facts)
    (hknown : isKnown fact = true) (hknown' : isKnown other = true) (hid : fact.id = other.id) :
    fact = other :=
  List.inj_on_of_nodup_map h (List.mem_filter.mpr ⟨hfact,hknown⟩) (List.mem_filter.mpr ⟨hother,hknown'⟩) hid

lemma Distinct.find?_eq (h : Distinct facts) (hfact : fact ∈ facts) (hknown : isKnown fact = true) :
    (facts.find? fun other => isKnown other && other.id = fact.id) = some fact := by
  have hsome : (facts.find? fun other => isKnown other && other.id = fact.id).isSome = true :=
    List.find?_isSome.mpr ⟨fact,hfact,by simp [hknown]⟩
  obtain ⟨found,hfound⟩ := Option.isSome_iff_exists.mp hsome
  have hprop := List.find?_some hfound
  simp only [Bool.and_eq_true,decide_eq_true_eq] at hprop
  rw [hfound,h.eq (List.mem_of_find?_eq_some hfound) hfact hprop.1 hknown hprop.2]

lemma parentIn_of_mem (h : Distinct facts) (hfact : fact ∈ facts) (hknown : isKnown fact = true) :
    parentIn facts fact.id = parentOf fact (candidateIds facts) := by
  rw [parentIn,h.find?_eq hfact hknown,Option.bind_some]

lemma parentIn_of_none (h : ∀ fact ∈ facts, isKnown fact = true → fact.id ≠ id) :
    parentIn facts id = none := by
  have hnone : (facts.find? fun fact => isKnown fact && fact.id = id) = none := by
    rw [List.find?_eq_none]
    intro fact hfact hprop
    simp only [Bool.and_eq_true,decide_eq_true_eq] at hprop
    exact h fact hfact hprop.1 hprop.2
  rw [parentIn,hnone,Option.bind_none]

lemma parentOf_of_not_known (h : isKnown fact = false) (ids : Finset FactId) : parentOf fact ids = none := by
  have hother : campaignKind fact.kind = .other := by simpa [isKnown] using h
  simp [parentOf,hother]

lemma parentOf_selection (h : isSelection fact = true) (ids : Finset FactId) :
    parentOf fact ids = candidateCause ids fact := by
  have hkind : campaignKind fact.kind = .assignmentSelection := by simpa [isSelection] using h
  simp [parentOf,hkind]

lemma parentOf_of_not_selection (h : isSelection fact = false) (ids ids' : Finset FactId) :
    parentOf fact ids = parentOf fact ids' := by
  unfold parentOf
  cases hkind : campaignKind fact.kind <;> simp [isSelection,hkind] at h ⊢

lemma isKnown_of_selection (h : isSelection fact = true) : isKnown fact = true := by
  have hkind : campaignKind fact.kind = .assignmentSelection := by simpa [isSelection] using h
  simp [isKnown,hkind]

lemma candidateCause_mem {ids : Finset FactId} (h : candidateCause ids fact = some id) : id ∈ ids := by
  obtain ⟨cause,-,hcause⟩ := List.exists_of_findSome?_eq_some h
  cases cause with
  | fact other =>
    dsimp only at hcause
    split at hcause
    · rename_i hmem
      cases hcause
      exact hmem
    · cases hcause
  | preexistingContext context => cases hcause

lemma candidateCause_mono {ids more : Finset FactId} (hsub : ids ⊆ more)
    (h : candidateCause more fact = none) : candidateCause ids fact = none := by
  rw [candidateCause,List.findSome?_eq_none_iff] at h ⊢
  intro cause hcause
  have hnone := h cause hcause
  cases cause with
  | fact id =>
    dsimp only at hnone ⊢
    split at hnone
    · cases hnone
    · rename_i hid
      exact if_neg fun hmem => hid (hsub hmem)
  | preexistingContext context => rfl

lemma candidateCause_empty : candidateCause ∅ fact = none := by
  rw [candidateCause,List.findSome?_eq_none_iff]
  intro cause _
  cases cause <;> simp

lemma mem_candidateIds : id ∈ candidateIds facts ↔
    ∃ fact ∈ facts, campaignKind fact.kind = .assignmentCandidate ∧ fact.id = id := by
  simp [candidateIds,candidateId]

lemma causalParent_of_none (h : ∀ fact ∈ facts, isKnown fact = true → fact.id ≠ id) :
    (gatherAll facts).causalParent id = none := by
  induction facts using List.reverseRecOn with
  | nil => rfl
  | append_singleton facts last ih =>
    have hearlier := ih fun fact hfact => h fact (List.mem_append_left _ hfact)
    rw [gatherAll_append,Gathered.receive_causalParent,emplaceParent]
    by_cases hlast : id = last.id
    · have hunknown : isKnown last = false := by
        by_contra hknown
        exact h last (by simp) (by simpa using hknown) hlast.symm
      rw [hlast,Function.update_self,parentOf_of_not_known hunknown,Option.or_none,← hlast,hearlier]
    · rw [Function.update_of_ne hlast,hearlier]

/-- The parent that the pass keeps for a fact is the one of when the fact came. -/
lemma causalParent_eq (h : Distinct facts) (hsplit : facts = before ++ fact :: after)
    (hknown : isKnown fact = true) :
    (gatherAll facts).causalParent fact.id = parentOf fact (candidateIds before) := by
  subst hsplit
  induction after using List.reverseRecOn with
  | nil =>
    -- No earlier fact has the identity, so none has put a parent for it.
    have hfresh : ∀ other ∈ before, isKnown other = true → other.id ≠ fact.id := by
      intro other hother hknown' hid
      rw [Distinct,List.filter_append,List.map_append,List.nodup_append'] at h
      have hmem : other.id ∈ (before.filter isKnown).map Fact.id :=
        List.mem_map_of_mem (List.mem_filter.mpr ⟨hother,hknown'⟩)
      exact List.disjoint_left.mp h.2.2 hmem (by simp [hknown,hid])
    have hnone := causalParent_of_none hfresh
    rw [gatherAll_append,Gathered.receive_causalParent,emplaceParent,Function.update_self,hnone,
      Option.none_or,gatherAll_candidateIds]
  | append_singleton after last ih =>
    have hshort : Distinct (before ++ fact :: after) := by
      rw [Distinct,← List.cons_append,← List.append_assoc,List.filter_append,List.map_append] at h
      exact h.of_append_left
    rw [← List.cons_append,← List.append_assoc,gatherAll_append,Gathered.receive_causalParent,emplaceParent]
    by_cases hlast : fact.id = last.id
    · have hunknown : isKnown last = false := by
        by_contra hknown'
        rw [Distinct,← List.cons_append,← List.append_assoc,List.filter_append,List.map_append,
          List.nodup_append'] at h
        refine List.disjoint_left.mp h.2.2 (List.mem_map_of_mem (a := fact)
          (List.mem_filter.mpr ⟨by simp,hknown⟩)) ?_
        rw [Bool.not_eq_false] at hknown'
        simp [hknown',hlast]
      rw [hlast,Function.update_self,parentOf_of_not_known hunknown,Option.or_none,← hlast,ih hshort]
    · rw [Function.update_of_ne hlast,ih hshort]

/-- In every order of the facts, an identity has no known fact, or one with those before it. -/
lemma exists_place (hperm : facts'.Perm facts) (id : FactId) :
    (∀ fact ∈ facts, isKnown fact = true → fact.id ≠ id) ∨
      ∃ fact before after, fact ∈ facts ∧ isKnown fact = true ∧ fact.id = id ∧
        facts' = before ++ fact :: after := by
  by_cases hnone : ∀ fact ∈ facts, isKnown fact = true → fact.id ≠ id
  · exact Or.inl hnone
  · push Not at hnone
    obtain ⟨fact,hfact,hknown,hid⟩ := hnone
    obtain ⟨before,after,hsplit⟩ := List.append_of_mem (hperm.mem_iff.mpr hfact)
    exact Or.inr ⟨fact,before,after,hfact,hknown,hid,hsplit⟩

lemma candidateIds_subset (hperm : facts'.Perm facts) (hsplit : facts' = before ++ after) :
    candidateIds before ⊆ candidateIds facts := by
  intro id hid
  obtain ⟨fact,hfact,hrest⟩ := mem_candidateIds.mp hid
  exact mem_candidateIds.mpr ⟨fact,hperm.subset (hsplit ▸ List.mem_append_left _ hfact),hrest⟩

/-- The parent of what is not an open selection is the same in every order. -/
lemma causalParent_perm (h : Distinct facts) (hperm : facts'.Perm facts) (hclosed : ¬OpenSelection facts id) :
    (gatherAll facts').causalParent id = parentIn facts id := by
  rcases exists_place hperm id with hnone | ⟨fact,before,after,hfact,hknown,rfl,hsplit⟩
  · rw [parentIn_of_none hnone,causalParent_of_none fun fact hfact => hnone fact (hperm.subset hfact)]
  · rw [causalParent_eq (h.perm hperm) hsplit hknown,parentIn_of_mem h hfact hknown]
    by_cases hselection : isSelection fact = true
    · have hnone : candidateCause (candidateIds facts) fact = none := by
        by_contra hsome
        exact hclosed ⟨fact,hfact,hselection,rfl,Option.isSome_iff_ne_none.mpr hsome⟩
      rw [parentOf_selection hselection,parentOf_selection hselection,hnone,
        candidateCause_mono (candidateIds_subset hperm hsplit) hnone]
    · exact parentOf_of_not_selection (Bool.not_eq_true _ ▸ hselection) _ _

/-- With the candidates first, every fact gets its parent. -/
lemma causalParent_candidatesFirst (h : Distinct facts) (id : FactId) :
    (gatherAll (bringFront isCandidate facts)).causalParent id = parentIn facts id := by
  have hperm := bringFront_perm isCandidate facts
  rcases exists_place hperm id with hnone | ⟨fact,before,after,hfact,hknown,rfl,hsplit⟩
  · rw [parentIn_of_none hnone,causalParent_of_none fun fact hfact => hnone fact (hperm.subset hfact)]
  · rw [causalParent_eq (h.perm hperm) hsplit hknown,parentIn_of_mem h hfact hknown]
    by_cases hselection : isSelection fact = true
    · have hnot : isCandidate fact = false := by
        have hkind : campaignKind fact.kind = .assignmentSelection := by simpa [isSelection] using hselection
        simp [isCandidate,hkind]
      have hall : candidateIds before = candidateIds facts := by
        refine (candidateIds_subset hperm hsplit).antisymm fun other hother => ?_
        obtain ⟨candidate,hmem,hkind,hid⟩ := mem_candidateIds.mp hother
        have hbefore := mem_before hsplit hnot hmem (by simp [isCandidate,hkind])
        exact mem_candidateIds.mpr ⟨candidate,hbefore,hkind,hid⟩
      rw [hall]
    · exact parentOf_of_not_selection (Bool.not_eq_true _ ▸ hselection) _ _

/-- With the selections first, an open one gets no parent. -/
lemma causalParent_selectionsFirst (h : Distinct facts) (hopen : OpenSelection facts id) :
    (gatherAll (bringFront isSelection facts)).causalParent id = none := by
  obtain ⟨fact,hfact,hselection,rfl,-⟩ := hopen
  have hperm := bringFront_perm isSelection facts
  obtain ⟨before,after,hsplit⟩ := List.append_of_mem (hperm.mem_iff.mpr hfact)
  have hempty : candidateIds before = ∅ := by
    rw [Finset.eq_empty_iff_forall_notMem]
    intro id hid
    obtain ⟨other,hother,hkind,-⟩ := mem_candidateIds.mp hid
    have hfront := of_mem_before hsplit hselection hother
    simp [isSelection,hkind] at hfront
  rw [causalParent_eq (h.perm hperm) hsplit (isKnown_of_selection hselection),
    parentOf_selection hselection,hempty,candidateCause_empty]

/-- An open selection has a candidate, and so another fact, for its parent. -/
lemma OpenSelection.parent (h : Distinct facts) (hopen : OpenSelection facts id) :
    ∃ parent, parentIn facts id = some parent ∧ parent ≠ id := by
  obtain ⟨fact,hfact,hselection,rfl,hsome⟩ := hopen
  obtain ⟨parent,hparent⟩ := Option.isSome_iff_exists.mp hsome
  refine ⟨parent,?_,?_⟩
  · rw [parentIn_of_mem h hfact (isKnown_of_selection hselection),parentOf_selection hselection,hparent]
  · rintro rfl
    obtain ⟨candidate,hcandidate,hkind,hid⟩ := mem_candidateIds.mp (candidateCause_mem hparent)
    obtain rfl := h.eq hcandidate hfact (by simp [isKnown,hkind]) (isKnown_of_selection hselection) hid
    simp [isSelection,hkind] at hselection

end AytherRuntime.Campaign
