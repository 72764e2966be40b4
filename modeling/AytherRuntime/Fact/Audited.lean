import AytherRuntime.Fact.Integrity
import Mathlib.Data.List.Infix
import Mathlib.Data.List.Sort

/-! What the audit of the fragments finds: the invariant of its pass, its verdict, and when it reports that
an id has two contents. -/
namespace AytherRuntime.Binary
open Codec

variable {Path : Type}

section Facts

/-- The state of the pass after the given facts, none of which contradicts an earlier one. -/
structure FactsRead (prior : List Fact) (state : Reading Path) : Prop where
  facts : state.facts = firstOccurrences prior
  agree : Agree prior
  sequences : ∀ key, state.producerSequences key = (producerOrder prior key).getLast?
  pending : state.audit.evidenceResult = .incomplete
  unresolved : state.audit.unresolvedInternalCauses = 0
  issue : (state.audit.firstIssue = none ∧ ProducersConsecutive prior) ∨
    (¬ProducersConsecutive prior ∧ ∃ issue, state.audit.firstIssue = some issue ∧
      issue.kind = .producerSequenceDiscontinuity)

/-- The audit that ends at a fact which contradicts one of the prior facts. -/
def EndsInConflict (prior : List Fact) (fact : Fact) (audit : FactIntegrityAudit Path) : Prop :=
  (∃ f ∈ prior, f.id = fact.id ∧ ¬f.same fact) ∧ audit.evidenceResult = .incomplete ∧
    ∃ issue, audit.firstIssue = some issue ∧
      (issue.kind = .conflictingFactId ↔ ProducersConsecutive prior)

lemma factsRead_nil : FactsRead [] ({} : Reading Path) where
  facts := rfl
  agree := List.Pairwise.nil
  sequences _ := rfl
  pending := rfl
  unresolved := rfl
  issue := Or.inl ⟨rfl,fun _ => List.IsChain.nil⟩

lemma firstOccurrences_old {prior : List Fact} {fact : Fact}
    (h : fact.id ∈ (firstOccurrences prior).map Fact.id) :
    firstOccurrences (prior ++ [fact]) = firstOccurrences prior := by
  rw [firstOccurrences_concat,if_pos h]

lemma producerOrder_old {prior : List Fact} {fact : Fact}
    (h : fact.id ∈ (firstOccurrences prior).map Fact.id) (key : Bytes × Bytes) :
    producerOrder (prior ++ [fact]) key = producerOrder prior key := by
  unfold producerOrder
  rw [firstOccurrences_old h]

lemma producerOrder_new {prior : List Fact} {fact : Fact}
    (h : fact.id ∉ (firstOccurrences prior).map Fact.id) (key : Bytes × Bytes) :
    producerOrder (prior ++ [fact]) key =
      producerOrder prior key ++ if producer fact.id = key then [fact.id.producerSequence] else [] := by
  unfold producerOrder
  rw [firstOccurrences_concat,if_neg h,List.filter_append,List.map_append]
  by_cases hkey : producer fact.id = key <;> simp [hkey]

lemma producersConsecutive_old {prior : List Fact} {fact : Fact}
    (h : fact.id ∈ (firstOccurrences prior).map Fact.id) :
    ProducersConsecutive (prior ++ [fact]) ↔ ProducersConsecutive prior :=
  forall_congr' fun key => by rw [producerOrder_old h]

/-- A new fact keeps the producers consecutive when it follows the last one of its producer. -/
lemma producersConsecutive_new {prior : List Fact} {fact : Fact}
    (h : fact.id ∉ (firstOccurrences prior).map Fact.id) :
    ProducersConsecutive (prior ++ [fact]) ↔ ProducersConsecutive prior ∧
      ∀ previous ∈ (producerOrder prior (producer fact.id)).getLast?,
        Follows previous fact.id.producerSequence := by
  constructor
  · intro hall
    refine ⟨fun key => ?_,?_⟩
    · have hkey := hall key
      rw [producerOrder_new h] at hkey
      exact (List.isChain_append.mp hkey).1
    · have hkey := hall (producer fact.id)
      rw [producerOrder_new h,if_pos rfl] at hkey
      exact (isChain_concat.mp hkey).2
  · rintro ⟨hall,hlast⟩ key
    rw [producerOrder_new h]
    split
    · rename_i hkey
      exact isChain_concat.mpr ⟨hall key,hkey ▸ hlast⟩
    · rw [List.append_nil]
      exact hall key

lemma checkProducer_spec {prior : List Fact} {state : Reading Path} (h : FactsRead prior state) (path : Path)
    {fact : Fact} (hnew : fact.id ∉ (firstOccurrences prior).map Fact.id) :
    (checkProducer path state fact).evidenceResult = .incomplete ∧
    (checkProducer path state fact).unresolvedInternalCauses = 0 ∧
    (((checkProducer path state fact).firstIssue = none ∧ ProducersConsecutive (prior ++ [fact])) ∨
      (¬ProducersConsecutive (prior ++ [fact]) ∧ ∃ issue, (checkProducer path state fact).firstIssue = some issue ∧
        issue.kind = .producerSequenceDiscontinuity)) := by
  have hkept : (∀ previous ∈ (producerOrder prior (producer fact.id)).getLast?,
      Follows previous fact.id.producerSequence) →
      (state.audit.firstIssue = none ∧ ProducersConsecutive (prior ++ [fact])) ∨
      (¬ProducersConsecutive (prior ++ [fact]) ∧ ∃ issue, state.audit.firstIssue = some issue ∧
        issue.kind = .producerSequenceDiscontinuity) := by
    intro hlast
    rw [producersConsecutive_new hnew]
    rcases h.issue with ⟨hnone,hproducers⟩ | ⟨hproducers,hissue⟩
    · exact Or.inl ⟨hnone,hproducers,hlast⟩
    · exact Or.inr ⟨fun hall => hproducers hall.1,hissue⟩
  unfold checkProducer
  rw [h.sequences]
  cases hprevious : (producerOrder prior (producer fact.id)).getLast? with
  | none => exact ⟨h.pending,h.unresolved,hkept (by simp [hprevious])⟩
  | some previous =>
    dsimp only
    split
    · rename_i hbroken
      have hgap : ¬ProducersConsecutive (prior ++ [fact]) := by
        rw [producersConsecutive_new hnew]
        rintro ⟨-,hlast⟩
        exact follows_iff.mpr (hlast previous hprevious) hbroken
      refine ⟨rfl,h.unresolved,Or.inr ⟨hgap,?_⟩⟩
      rcases h.issue with ⟨hnone,-⟩ | ⟨-,issue,hissue,hkind⟩
      · exact ⟨_,by rw [fail,hnone],rfl⟩
      · exact ⟨issue,by rw [fail,hissue]; rfl,hkind⟩
    · rename_i hfollows
      refine ⟨h.pending,h.unresolved,hkept fun previous' hlast => ?_⟩
      cases hprevious.symm.trans hlast
      exact follows_iff.mp hfollows

lemma receiveFact_spec {prior : List Fact} {state : Reading Path} (h : FactsRead prior state) (path : Path)
    (fact : Fact) :
    (∃ state', receiveFact path state fact = .ok state' ∧
      state'.fragmentSequence = state.fragmentSequence ∧ FactsRead (prior ++ [fact]) state') ∨
    ∃ audit, receiveFact path state fact = .error audit ∧ EndsInConflict prior fact audit := by
  unfold receiveFact
  dsimp only
  cases hfound : state.facts.find? (fun existing => existing.id = fact.id) with
  | some existing =>
    have hid : existing.id = fact.id := by simpa using List.find?_some hfound
    have hfirst : existing ∈ firstOccurrences prior := h.facts ▸ List.mem_of_find?_eq_some hfound
    have hold : fact.id ∈ (firstOccurrences prior).map Fact.id := List.mem_map.mpr ⟨existing,hfirst,hid⟩
    dsimp only
    by_cases hsame : existing.same fact
    · rw [if_pos hsame]
      refine Or.inl ⟨_,rfl,rfl,?_⟩
      exact {
        facts := by rw [firstOccurrences_old hold]; exact h.facts
        agree := agree_concat.mpr ⟨h.agree,(first_same_iff h.agree hfirst hid).mp hsame⟩
        sequences := fun key => by rw [producerOrder_old hold]; exact h.sequences key
        pending := h.pending
        unresolved := h.unresolved
        issue := by rw [producersConsecutive_old hold]; exact h.issue }
    · rw [if_neg hsame]
      refine Or.inr ⟨_,rfl,⟨existing,mem_of_mem_firstOccurrences hfirst,hid,hsame⟩,rfl,?_⟩
      rcases h.issue with ⟨hnone,hproducers⟩ | ⟨hproducers,issue,hissue,hkind⟩
      · exact ⟨_,by rw [fail,hnone],iff_of_true rfl hproducers⟩
      · exact ⟨issue,by rw [fail,hissue]; rfl,iff_of_false (by rw [hkind]; simp) hproducers⟩
  | none =>
    have hnew : fact.id ∉ (firstOccurrences prior).map Fact.id := by
      rw [h.facts,List.find?_eq_none] at hfound
      rintro hin
      obtain ⟨existing,hin,hid⟩ := List.mem_map.mp hin
      exact absurd (decide_eq_true hid) (hfound existing hin)
    have hagree : Agree (prior ++ [fact]) := by
      refine agree_concat.mpr ⟨h.agree,fun f hin hid => ?_⟩
      exact absurd ((mem_map_firstOccurrences h.agree _).mpr ⟨f,hin,hid⟩) hnew
    have hfacts : state.facts ++ [fact] = firstOccurrences (prior ++ [fact]) := by
      rw [firstOccurrences_concat,if_neg hnew,h.facts]
    have hsequences : ∀ key, (if key = producer fact.id then some fact.id.producerSequence
        else state.producerSequences key) = (producerOrder (prior ++ [fact]) key).getLast? := by
      intro key
      rw [producerOrder_new hnew]
      by_cases hkey : key = producer fact.id
      · rw [if_pos hkey,if_pos hkey.symm,List.getLast?_concat]
      · rw [if_neg hkey,if_neg (Ne.symm hkey),List.append_nil]
        exact h.sequences key
    obtain ⟨hpending,hunresolved,hissue⟩ := checkProducer_spec h path hnew
    exact Or.inl ⟨_,rfl,rfl,hfacts,hagree,hsequences,hpending,hunresolved,hissue⟩

/-- The facts of one fragment: all of them are read, or the pass ends at the first that contradicts an
earlier one. -/
lemma receiveFacts_spec {prior facts : List Fact} {state : Reading Path} (h : FactsRead prior state)
    (path : Path) :
    (∃ state', receiveFacts path facts state = .ok state' ∧
      state'.fragmentSequence = state.fragmentSequence ∧ FactsRead (prior ++ facts) state') ∨
    ∃ audit earlier fact later, receiveFacts path facts state = .error audit ∧
      facts = earlier ++ fact :: later ∧ Agree (prior ++ earlier) ∧
        EndsInConflict (prior ++ earlier) fact audit := by
  induction facts generalizing prior state with
  | nil => exact Or.inl ⟨state,rfl,rfl,by rwa [List.append_nil]⟩
  | cons fact facts ih =>
    unfold receiveFacts
    rcases receiveFact_spec h path fact with ⟨next,hnext,hsequence,hread⟩ | ⟨audit,haudit,hconflict⟩
    · rw [hnext]
      rcases ih hread with ⟨last,hlast,hsequence',hread'⟩ | ⟨audit,earlier,fact',later,haudit,hfacts,hagree,hend⟩
      · refine Or.inl ⟨last,hlast,hsequence'.trans hsequence,?_⟩
        rwa [List.append_assoc] at hread'
      · rw [List.append_assoc] at hagree hend
        exact Or.inr ⟨audit,fact :: earlier,fact',later,haudit,by rw [hfacts]; rfl,hagree,hend⟩
    · rw [haudit]
      refine Or.inr ⟨audit,[],fact,facts,rfl,rfl,?_,?_⟩
      · rw [List.append_nil]
        exact h.agree
      · rwa [List.append_nil]

end Facts

section Fragments

lemma Agree.initial {facts facts' : List Fact} (h : Agree facts') (hinitial : facts <+: facts') : Agree facts :=
  List.Pairwise.sublist hinitial.sublist h

/-- Two places of one list: one of them is among the elements before the other, or they are the same. -/
lemma places_compare {α : Type} {l : List α} {l₁ l₂ : List α} {a b : α} (h₁ : l₁ ++ [a] <+: l)
    (h₂ : l₂ ++ [b] <+: l) : l₁ ++ [a] <+: l₂ ∨ (l₁ = l₂ ∧ a = b) ∨ l₂ ++ [b] <+: l₁ := by
  rcases List.prefix_or_prefix_of_prefix h₁ h₂ with h | h
  · rcases List.prefix_concat_iff.mp h with heq | h
    · exact Or.inr (Or.inl (List.append_inj' heq rfl |>.imp id List.singleton_inj.mp))
    · exact Or.inl h
  · rcases List.prefix_concat_iff.mp h with heq | h
    · exact Or.inr (Or.inl (List.append_inj' heq.symm rfl |>.imp id List.singleton_inj.mp))
    · exact Or.inr (Or.inr h)

/-- The facts before a place of a fragment, and the fact there, are a prefix of all the facts. -/
lemma place_initial {fragments all : List StoredFactFragment} {fragment : StoredFactFragment}
    {earlier : List Fact} {fact : Fact} (hfragment : fragments ++ [fragment] <+: all)
    (hfact : earlier ++ [fact] <+: fragment.facts) :
    (fragments.flatMap StoredFactFragment.facts ++ earlier) ++ [fact] <+:
      all.flatMap StoredFactFragment.facts := by
  have hall := List.IsPrefix.flatMap hfragment StoredFactFragment.facts
  rw [List.flatMap_append,List.flatMap_singleton] at hall
  refine List.IsPrefix.trans ?_ hall
  rw [List.append_assoc,List.prefix_append_right_inj]
  exact hfact

/-- Facts that agree hold no contradiction. -/
lemma not_conflict_of_agree {prior facts : List Fact} {fact : Fact} (hagree : Agree facts)
    (hinitial : prior ++ [fact] <+: facts) : ¬∃ f ∈ prior, f.id = fact.id ∧ ¬f.same fact := by
  rintro ⟨f,hin,hid,hdiffer⟩
  exact hdiffer ((agree_concat.mp (hagree.initial hinitial)).2 f hin hid)

/-- The state of the pass after the given fragments. -/
structure FragmentsRead (fragments : List StoredFactFragment) (state : Reading Path) : Prop where
  facts : FactsRead (fragments.flatMap StoredFactFragment.facts) state
  sequence : state.fragmentSequence = (fragments.map StoredFactFragment.sequence).getLast?
  consecutive : (fragments.map StoredFactFragment.sequence).IsChain Follows

/-- What can be complete: every fragment readable, in its order, and no contradiction. -/
def Readable (reopened : List (Except FactFragmentStoreError StoredFactFragment))
    (fragments : List StoredFactFragment) : Prop :=
  reopened = fragments.map .ok ∧ (fragments.map StoredFactFragment.sequence).IsChain Follows ∧
    Agree (fragments.flatMap StoredFactFragment.facts)

lemma ok_injective : Function.Injective
    (Except.ok : StoredFactFragment → Except FactFragmentStoreError StoredFactFragment) :=
  fun _ _ h => Except.ok.inj h

/-- What the audit says when its pass ends at a fragment. -/
def EndsAt (reopened : List (Except FactFragmentStoreError StoredFactFragment))
    (audit : FactIntegrityAudit Path) : Prop :=
  audit.evidenceResult = .incomplete ∧ (¬∃ fragments, Readable reopened fragments) ∧
    ((∃ issue, audit.firstIssue = some issue ∧ issue.kind = .conflictingFactId) ↔ ConflictFirst reopened)

/-- A readable list has no first conflict. -/
lemma Readable.not_conflictFirst {reopened : List (Except FactFragmentStoreError StoredFactFragment)}
    {fragments : List StoredFactFragment} (h : Readable reopened fragments) : ¬ConflictFirst reopened := by
  rintro ⟨before,fragment,earlier,fact,hinitial,-,hfact,-,-,hconflict⟩
  rw [h.1,List.prefix_map_iff_of_injective ok_injective] at hinitial
  exact not_conflict_of_agree h.2.2 (place_initial hinitial hfact) hconflict

/-- The issue that ends a pass for another reason than a contradiction is no conflict. -/
lemma fail_kind {prior : List Fact} {state : Reading Path} (h : FactsRead prior state)
    {issue : FactIntegrityIssue Path} (hkind : issue.kind ≠ .conflictingFactId) :
    ¬∃ issue', (fail state.audit issue).firstIssue = some issue' ∧ issue'.kind = .conflictingFactId := by
  rintro ⟨issue',hissue,hconflict⟩
  rcases h.issue with ⟨hnone,-⟩ | ⟨-,earlier,hearlier,hproducer⟩
  · rw [fail,hnone] at hissue
    cases hissue
    exact hkind hconflict
  · rw [fail,hearlier] at hissue
    cases hissue
    exact absurd (hproducer.symm.trans hconflict) (by decide)

lemma map_ok_concat {fragments places : List StoredFactFragment}
    {result : Except FactFragmentStoreError StoredFactFragment}
    (h : fragments.map .ok ++ [result] = places.map .ok) :
    ∃ other, result = .ok other ∧ places = fragments ++ [other] := by
  obtain ⟨fragments',last,rfl,hfragments,hlast⟩ := List.append_eq_map_iff.mp h
  obtain ⟨other,rfl,rfl⟩ := List.map_eq_singleton_iff.mp hlast
  obtain rfl := (List.map_injective_iff.mpr ok_injective) hfragments
  exact ⟨other,rfl,rfl⟩

/-- Places of the results that are read compare as places of the fragments. -/
lemma fragment_places {reopened : List (Except FactFragmentStoreError StoredFactFragment)}
    {before fragments : List StoredFactFragment} {fragment : StoredFactFragment}
    {result : Except FactFragmentStoreError StoredFactFragment}
    (hbefore : (before ++ [fragment]).map .ok <+: reopened) (hend : fragments.map .ok ++ [result] <+: reopened) :
    before ++ [fragment] <+: fragments ∨ (before = fragments ∧ .ok fragment = result) ∨
      ∃ other, result = .ok other ∧ fragments ++ [other] <+: before := by
  rw [List.map_append,List.map_singleton] at hbefore
  rcases places_compare hbefore hend with h | ⟨h,hresult⟩ | h
  · rw [← List.map_singleton,← List.map_append,List.prefix_map_iff_of_injective ok_injective] at h
    exact Or.inl h
  · exact Or.inr (Or.inl ⟨(List.map_injective_iff.mpr ok_injective) h,hresult⟩)
  · obtain ⟨places,hplaces,heq⟩ := List.prefix_map_iff.mp h
    obtain ⟨other,rfl,rfl⟩ := map_ok_concat heq
    exact Or.inr (Or.inr ⟨other,rfl,hplaces⟩)

/-- Where the pass ends at a result that is not a fragment in its order, no place up to it is a conflict. -/
lemma not_conflictFirst_of_end {fragments : List StoredFactFragment} {state : Reading Path}
    (h : FragmentsRead fragments state) {result : Except FactFragmentStoreError StoredFactFragment}
    {rest : List (Except FactFragmentStoreError StoredFactFragment)}
    (hend : ∀ fragment, result = .ok fragment →
      ¬((fragments ++ [fragment]).map StoredFactFragment.sequence).IsChain Follows) :
    ¬ConflictFirst (fragments.map .ok ++ result :: rest) := by
  rintro ⟨before,fragment,earlier,fact,hinitial,hchain,hfact,-,-,hconflict⟩
  have hplace : fragments.map .ok ++ [result] <+: fragments.map .ok ++ result :: rest :=
    (List.prefix_append_right_inj _).mpr ⟨rest,rfl⟩
  rcases fragment_places hinitial hplace with hbefore | ⟨rfl,hresult⟩ | ⟨other,hresult,hother⟩
  · exact not_conflict_of_agree h.facts.agree (place_initial hbefore hfact) hconflict
  · exact hend fragment hresult.symm hchain
  · have hbefore := (hother.trans (List.prefix_append before [fragment])).map StoredFactFragment.sequence
    have hpart := List.IsChain.infix hchain hbefore.isInfix
    exact hend other hresult hpart

/-- The pass ends at a fact that contradicts an earlier one. -/
lemma endsAt_conflict {fragments : List StoredFactFragment} {state : Reading Path}
    (h : FragmentsRead fragments state) {fragment : StoredFactFragment}
    {rest : List (Except FactFragmentStoreError StoredFactFragment)} {earlier later : List Fact} {fact : Fact}
    {audit : FactIntegrityAudit Path}
    (hchain : ((fragments ++ [fragment]).map StoredFactFragment.sequence).IsChain Follows)
    (hfacts : fragment.facts = earlier ++ fact :: later)
    (hagree : Agree (fragments.flatMap StoredFactFragment.facts ++ earlier))
    (hend : EndsInConflict (fragments.flatMap StoredFactFragment.facts ++ earlier) fact audit) :
    EndsAt (fragments.map .ok ++ .ok fragment :: rest) audit := by
  obtain ⟨hconflict,hincomplete,issue,hissue,hkind⟩ := hend
  have hhere : fragments.map .ok ++ [.ok fragment] <+: fragments.map .ok ++ .ok fragment :: rest :=
    (List.prefix_append_right_inj _).mpr ⟨rest,rfl⟩
  have hfact : earlier ++ [fact] <+: fragment.facts := ⟨later,by rw [hfacts,List.append_assoc]; rfl⟩
  refine ⟨hincomplete,?_,?_⟩
  · rintro ⟨all,hall,-,hagree'⟩
    rw [← List.map_singleton,← List.map_append,hall,List.prefix_map_iff_of_injective ok_injective] at hhere
    exact not_conflict_of_agree hagree' (place_initial hhere hfact) hconflict
  constructor
  · rintro ⟨issue',hissue',hconflict'⟩
    cases hissue.symm.trans hissue'
    refine ⟨fragments,fragment,earlier,fact,?_,hchain,hfact,hagree,hkind.mp hconflict',hconflict⟩
    rwa [List.map_append,List.map_singleton]
  · rintro ⟨before,fragment',earlier',fact',hinitial,-,hfact',hagree',hproducers,hconflict'⟩
    refine ⟨issue,hissue,hkind.mpr ?_⟩
    rcases fragment_places hinitial hhere with hbefore | ⟨rfl,hsame⟩ | ⟨other,hsame,hother⟩
    · exact absurd hconflict' (not_conflict_of_agree h.facts.agree (place_initial hbefore hfact'))
    · cases hsame
      rcases places_compare hfact' hfact with hshorter | ⟨rfl,rfl⟩ | hlonger
      · refine absurd hconflict' (not_conflict_of_agree hagree ?_)
        rwa [List.append_assoc,List.prefix_append_right_inj]
      · exact hproducers
      · refine absurd hconflict (not_conflict_of_agree hagree' ?_)
        rwa [List.append_assoc,List.prefix_append_right_inj]
    · cases hsame
      refine absurd hconflict (not_conflict_of_agree hagree' ?_)
      exact (place_initial hother hfact).trans (List.prefix_append _ _)

/-- A fragment keeps the order when it follows the last one. -/
lemma brokenSequence_eq_none {fragments : List StoredFactFragment} {state : Reading Path}
    (h : FragmentsRead fragments state) (fragment : StoredFactFragment) :
    brokenSequence state fragment = none ↔
      ((fragments ++ [fragment]).map StoredFactFragment.sequence).IsChain Follows := by
  rw [List.map_append,List.map_singleton,isChain_concat,← h.sequence,brokenSequence]
  cases hprevious : state.fragmentSequence with
  | none => simp [h.consecutive]
  | some previous =>
    dsimp only
    have hfollows : ¬_ ↔ Follows previous fragment.sequence := follows_iff
    split
    · rename_i hbroken
      exact iff_of_false (by simp) fun hall => hfollows.mpr (hall.2 previous rfl) hbroken
    · rename_i hkept
      refine iff_of_true rfl ⟨h.consecutive,fun previous' hlast => ?_⟩
      cases hlast
      exact hfollows.mp hkept

/-- The fragments of the list: all of them are read, or the pass ends at one of them. -/
lemma receiveFragments_spec (read : Path → Except FactFragmentStoreError StoredFactFragment)
    {fragments : List StoredFactFragment} {state : Reading Path} (h : FragmentsRead fragments state)
    (paths : List Path) :
    (∃ state' more, receiveFragments read paths state = .ok state' ∧ paths.map read = more.map .ok ∧
      FragmentsRead (fragments ++ more) state') ∨
    ∃ audit, receiveFragments read paths state = .error audit ∧
      EndsAt (fragments.map .ok ++ paths.map read) audit := by
  induction paths generalizing fragments state with
  | nil => exact Or.inl ⟨state,[],rfl,rfl,by rwa [List.append_nil]⟩
  | cons path paths ih =>
    have hends : ∀ {issue : FactIntegrityIssue Path}, issue.kind ≠ .conflictingFactId →
        (∀ fragment, read path = .ok fragment →
          ¬((fragments ++ [fragment]).map StoredFactFragment.sequence).IsChain Follows) →
        EndsAt (fragments.map .ok ++ (path :: paths).map read) (fail state.audit issue) := by
      intro issue hkind hend
      refine ⟨rfl,?_,iff_of_false (fail_kind h.facts hkind) (not_conflictFirst_of_end h hend)⟩
      rintro ⟨all,hall,hchain,-⟩
      have hhere : fragments.map .ok ++ [read path] <+: all.map .ok :=
        hall ▸ (List.prefix_append_right_inj _).mpr ⟨paths.map read,rfl⟩
      obtain ⟨places,hplaces,heq⟩ := List.prefix_map_iff.mp hhere
      obtain ⟨other,hother,rfl⟩ := map_ok_concat heq
      have hpart := List.IsChain.infix hchain (hplaces.map _).isInfix
      exact hend other hother hpart
    unfold receiveFragments receiveFragment
    cases hread : read path with
    | error error =>
      refine Or.inr ⟨_,rfl,hends (by simp) ?_⟩
      rw [hread]
      simp
    | ok fragment =>
      have hbroken := brokenSequence_eq_none h fragment
      dsimp only
      cases hsequence : brokenSequence state fragment with
      | some expected =>
        refine Or.inr ⟨_,rfl,hends (by simp) fun other hother => ?_⟩
        cases hread.symm.trans hother
        rw [← hbroken,hsequence]
        simp
      | none =>
        have hchain := hbroken.mp hsequence
        have hstart : FactsRead (fragments.flatMap StoredFactFragment.facts)
            { state with fragmentSequence := some fragment.sequence } :=
          ⟨h.facts.facts,h.facts.agree,h.facts.sequences,h.facts.pending,h.facts.unresolved,h.facts.issue⟩
        rcases receiveFacts_spec hstart path with
          ⟨next,hnext,hlast,hfacts⟩ | ⟨audit,earlier,fact,later,haudit,hfacts,hagree,hend⟩
        · dsimp only
          rw [hnext]
          have hnext' : FragmentsRead (fragments ++ [fragment])
              { next with
                audit := { next.audit with verifiedFragments := next.audit.verifiedFragments + 1 } } := by
            refine ⟨?_,?_,hchain⟩
            · rw [List.flatMap_append,List.flatMap_singleton]
              exact ⟨hfacts.facts,hfacts.agree,hfacts.sequences,hfacts.pending,hfacts.unresolved,
                hfacts.issue⟩
            · rw [List.map_append,List.map_singleton,List.getLast?_concat]
              exact hlast
          rcases ih hnext' with ⟨last,more,hlast,hmore,hread'⟩ | ⟨audit,haudit,hend⟩
          · refine Or.inl ⟨last,fragment :: more,hlast,?_,?_⟩
            · rw [List.map_cons,List.map_cons,hread,hmore]
            · rwa [List.append_assoc] at hread'
          · refine Or.inr ⟨audit,haudit,?_⟩
            rw [List.map_append,List.map_singleton,List.append_assoc] at hend
            rwa [List.map_cons,hread]
        · dsimp only
          rw [haudit]
          refine Or.inr ⟨audit,rfl,?_⟩
          rw [List.map_cons,hread]
          exact endsAt_conflict h hchain hfacts hagree hend

end Fragments

section Causes

/-- The audit over some causes: it keeps its issue where all of them are present, and counts the ones that
are not. -/
structure Resolves (present : Prop) (before after : FactIntegrityAudit Path) : Prop where
  incomplete : after.evidenceResult = .incomplete
  issue : ∀ issue, after.firstIssue = some issue →
    before.firstIssue = some issue ∨ issue.kind = .unresolvedInternalCause
  resolved : present → after.unresolvedInternalCauses = before.unresolvedInternalCauses ∧
    after.firstIssue = before.firstIssue
  unresolved : ¬present → before.unresolvedInternalCauses < after.unresolvedInternalCauses

lemma Resolves.le {present : Prop} {before after : FactIntegrityAudit Path}
    (h : Resolves present before after) : before.unresolvedInternalCauses ≤ after.unresolvedInternalCauses := by
  by_cases hpresent : present
  · exact (h.resolved hpresent).1.ge
  · exact (h.unresolved hpresent).le

/-- One step of the audit resolves what it looks at, so a fold resolves all of the list. -/
lemma foldl_resolves {α : Type} {step : FactIntegrityAudit Path → α → FactIntegrityAudit Path} {present : α → Prop}
    (hstep : ∀ audit a, audit.evidenceResult = .incomplete → Resolves (present a) audit (step audit a))
    (l : List α) {audit : FactIntegrityAudit Path} (haudit : audit.evidenceResult = .incomplete) :
    Resolves (∀ a ∈ l, present a) audit (l.foldl step audit) := by
  induction l generalizing audit with
  | nil => exact ⟨haudit,fun _ h => Or.inl h,fun _ => ⟨rfl,rfl⟩,fun h => absurd (by simp) h⟩
  | cons a l ih =>
    have hhead := hstep audit a haudit
    have htail := ih hhead.incomplete
    rw [List.foldl_cons]
    refine ⟨htail.incomplete,fun issue hissue => ?_,fun hall => ?_,fun hsome => ?_⟩
    · rcases htail.issue issue hissue with h | h
      · exact hhead.issue issue h
      · exact Or.inr h
    · obtain ⟨ha,hl⟩ := List.forall_mem_cons.mp hall
      obtain ⟨hcount,hissue⟩ := hhead.resolved ha
      obtain ⟨hcount',hissue'⟩ := htail.resolved hl
      exact ⟨hcount'.trans hcount,hissue'.trans hissue⟩
    · by_cases ha : present a
      · have hl : ¬∀ b ∈ l, present b := fun hl => hsome (List.forall_mem_cons.mpr ⟨ha,hl⟩)
        exact lt_of_le_of_lt hhead.le (htail.unresolved hl)
      · exact lt_of_lt_of_le (hhead.unresolved ha) htail.le

/-- Whether a cause is present among the facts. -/
def Present (facts : List Fact) (cause : Cause) : Prop :=
  ∀ internal, cause = .fact internal → internal ∈ facts.map Fact.id

lemma resolveCause_resolves (facts : List Fact) (id : FactId) (audit : FactIntegrityAudit Path) (cause : Cause)
    (haudit : audit.evidenceResult = .incomplete) :
    Resolves (Present facts cause) audit (resolveCause facts id audit cause) := by
  cases cause with
  | preexistingContext contextId =>
    exact ⟨haudit,fun _ h => Or.inl h,fun _ => ⟨rfl,rfl⟩,fun h => absurd (fun _ hcause => by cases hcause) h⟩
  | fact internal =>
    have hpresent : Present facts (.fact internal) ↔ internal ∈ facts.map Fact.id :=
      ⟨fun h => h internal rfl,fun h _ hcause => by cases hcause; exact h⟩
    rw [hpresent]
    unfold resolveCause
    dsimp only
    by_cases hin : internal ∈ facts.map Fact.id
    · rw [if_pos (List.contains_iff_mem.mpr hin)]
      exact ⟨haudit,fun _ h => Or.inl h,fun _ => ⟨rfl,rfl⟩,fun h => absurd hin h⟩
    · rw [if_neg (fun h => hin (List.contains_iff_mem.mp h))]
      refine ⟨rfl,fun issue hissue => ?_,fun h => absurd h hin,fun _ => Nat.lt_succ_self _⟩
      unfold fail at hissue
      cases hfirst : audit.firstIssue with
      | some first =>
        rw [hfirst] at hissue
        exact Or.inl hissue
      | none =>
        rw [hfirst] at hissue
        cases hissue
        exact Or.inr rfl

lemma resolveCauses_resolves (facts : List Fact) {audit : FactIntegrityAudit Path}
    (haudit : audit.evidenceResult = .incomplete) :
    Resolves (∀ fact ∈ facts, ∀ cause ∈ fact.causeIds, Present facts cause) audit
      (resolveCauses facts audit) :=
  foldl_resolves (fun _ fact h => foldl_resolves (resolveCause_resolves facts fact.id) fact.causeIds h)
    facts haudit

lemma causesPresent_iff {facts : List Fact} (hagree : Agree facts) :
    CausesPresent facts ↔ ∀ fact ∈ firstOccurrences facts, ∀ cause ∈ fact.causeIds,
      Present (firstOccurrences facts) cause := by
  constructor
  · intro h fact hin cause hcause internal hinternal
    subst hinternal
    exact (mem_map_firstOccurrences hagree internal).mpr
      (h fact (mem_of_mem_firstOccurrences hin) internal hcause)
  · intro h fact hin internal hinternal
    obtain ⟨first,hfirst,-,hsame⟩ := exists_first hagree hin
    have hcauses : first.causeIds = fact.causeIds := by
      rcases hsame with rfl | hsame
      · rfl
      · exact (Fact.same_parts hsame).2.1
    exact (mem_map_firstOccurrences hagree internal).mp
      (h first hfirst _ (hcauses ▸ hinternal) internal rfl)

end Causes

section SharedStates

lemma firstGap_eq_none {sequences : List UInt64} : firstGap sequences = none ↔ sequences.IsChain Follows := by
  fun_induction firstGap sequences with
  | case1 previous sequence rest expected hgap =>
    refine iff_of_false (by simp) fun hchain => ?_
    exact follows_iff.mpr (List.isChain_cons_cons.mp hchain).1 hgap
  | case2 previous sequence rest expected hgap ih =>
    rw [ih,List.isChain_cons_cons]
    exact (and_iff_right (follows_iff.mp hgap)).symm
  | case3 sequences hshort =>
    refine iff_of_true rfl ?_
    cases sequences with
    | nil => exact List.IsChain.nil
    | cons sequence rest =>
      cases rest with
      | nil => exact List.IsChain.singleton _
      | cons next rest => exact absurd rfl (hshort sequence next rest)

lemma mem_sequencesOf {orders : List ((Bytes × Bytes) × UInt64)} {key : Bytes × Bytes} {sequence : UInt64} :
    sequence ∈ sequencesOf orders key ↔ (key,sequence) ∈ orders := by
  unfold sequencesOf
  rw [List.mem_dedup,List.mem_mergeSort,List.mem_map]
  constructor
  · rintro ⟨⟨key',sequence'⟩,hin,rfl⟩
    obtain ⟨hin,hkey⟩ := List.mem_filter.mp hin
    rw [← of_decide_eq_true hkey]
    exact hin
  · exact fun hin => ⟨_,List.mem_filter.mpr ⟨hin,decide_eq_true rfl⟩,rfl⟩

lemma sequencesOf_sorted (orders : List ((Bytes × Bytes) × UInt64)) (key : Bytes × Bytes) :
    (sequencesOf orders key).Pairwise (· < ·) := by
  have hle : (sequencesOf orders key).Pairwise (· ≤ ·) :=
    (List.pairwise_mergeSort' (· ≤ ·) _).sublist (List.dedup_sublist _)
  have hne : (sequencesOf orders key).Pairwise (· ≠ ·) := List.nodup_dedup _
  exact (hle.and hne).imp fun h => UInt64.lt_of_le_of_ne h.1 h.2

/-- Sequences that follow one another leave out nothing between the first and another. -/
lemma mem_of_isChain {first last between : UInt64} {rest : List UInt64}
    (hchain : (first :: rest).IsChain Follows) (hlast : last ∈ first :: rest) (hle : first ≤ between)
    (hbetween : between ≤ last) : between ∈ first :: rest := by
  induction rest generalizing first with
  | nil =>
    obtain rfl := List.mem_singleton.mp hlast
    exact List.mem_singleton.mpr (UInt64.le_antisymm hbetween hle)
  | cons next rest ih =>
    obtain ⟨hnext,hchain⟩ := List.isChain_cons_cons.mp hchain
    by_cases heq : between = first
    · exact heq ▸ List.mem_cons_self
    have hgt : next ≤ between := by
      have hlt := UInt64.lt_iff_toNat_lt.mp (UInt64.lt_of_le_of_ne hle (Ne.symm heq))
      rw [UInt64.le_iff_toNat_le,hnext]
      exact hlt
    refine List.mem_cons_of_mem _ (ih hchain ?_ hgt)
    rcases List.mem_cons.mp hlast with rfl | hin
    · exact absurd (UInt64.le_antisymm hbetween hle) heq
    · exact hin

/-- Sorted sequences follow one another exactly when they leave out nothing between two of them. -/
lemma isChain_follows_iff {sequences : List UInt64} (hsorted : sequences.Pairwise (· < ·)) :
    sequences.IsChain Follows ↔
      ∀ a b c, a ∈ sequences → c ∈ sequences → a ≤ b → b ≤ c → b ∈ sequences := by
  constructor
  · intro hchain a b c ha hc hab hbc
    cases sequences with
    | nil => cases ha
    | cons first rest =>
      refine mem_of_isChain hchain hc ?_ hbc
      rcases List.mem_cons.mp ha with rfl | ha
      · exact hab
      · exact UInt64.le_trans (UInt64.le_of_lt ((List.pairwise_cons.mp hsorted).1 a ha)) hab
  · intro hall
    induction sequences with
    | nil => exact List.IsChain.nil
    | cons first rest ih =>
      obtain ⟨hfirst,hrest⟩ := List.pairwise_cons.mp hsorted
      have htail := ih hrest fun a b c ha hc hab hbc => by
        rcases List.mem_cons.mp (hall a b c (List.mem_cons_of_mem _ ha) (List.mem_cons_of_mem _ hc) hab hbc)
          with rfl | hin
        · exact absurd (hfirst a ha) (UInt64.not_lt.mpr hab)
        · exact hin
      cases rest with
      | nil => exact List.IsChain.singleton _
      | cons next rest =>
        refine List.isChain_cons_cons.mpr ⟨?_,htail⟩
        have hlt := UInt64.lt_iff_toNat_lt.mp (hfirst next List.mem_cons_self)
        have hbound := next.toNat_lt
        have hsucc : (first + 1).toNat = first.toNat + 1 := by
          rw [UInt64.toNat_add,UInt64.toNat_one]
          exact Nat.mod_eq_of_lt (by omega)
        -- what comes right after the first is among them, and nothing of the rest is before the next
        have hin := hall first (first + 1) next List.mem_cons_self
          (List.mem_cons_of_mem _ List.mem_cons_self) (UInt64.le_iff_toNat_le.mpr (by omega))
          (UInt64.le_iff_toNat_le.mpr (by omega))
        rcases List.mem_cons.mp hin with heq | hin
        · rw [heq] at hsucc
          omega
        rcases List.mem_cons.mp hin with heq | hin
        · rw [← heq]
          exact hsucc
        · have hafter := UInt64.lt_iff_toNat_lt.mp ((List.pairwise_cons.mp hrest).1 _ hin)
          omega

lemma consistent_notApplicable {fact : Fact} (h : wellFormed fact = true)
    (hna : fact.sharedStateOrder.availability = .notApplicable) : fact.sharedStateOrder.value = none := by
  unfold wellFormed at h
  simp only [Bool.and_eq_true] at h
  have hconsistent := h.1.1.1.1.1.1.1.2
  unfold consistentAvailability at hconsistent
  rw [hna] at hconsistent
  split at hconsistent
  · cases hconsistent
  · exact Option.isNone_iff_eq_none.mp hconsistent

lemma mem_sharedStateOrders {fact : Fact} (h : wellFormed fact = true) {key : Bytes × Bytes}
    {sequence : UInt64} : (key,sequence) ∈ sharedStateOrders fact ↔ fact.id.runId = key.1 ∧
      ∃ orders, fact.sharedStateOrder.value = some orders ∧ ⟨key.2,sequence⟩ ∈ orders := by
  unfold sharedStateOrders
  split
  · rename_i hna
    rw [consistent_notApplicable h hna]
    simp
  · cases hvalue : fact.sharedStateOrder.value with
    | none => simp
    | some orders =>
      dsimp only
      rw [List.mem_map]
      constructor
      · rintro ⟨⟨stateId,sequence'⟩,hin,heq⟩
        cases heq
        exact ⟨rfl,orders,rfl,hin⟩
      · rintro ⟨hrun,orders',horders,hin⟩
        cases horders
        exact ⟨_,hin,by rw [hrun]⟩

/-- The orders that the audit gathers are those of all the facts. -/
lemma mem_gathered {facts : List Fact} (hagree : Agree facts) (hwell : ∀ fact ∈ facts, wellFormed fact = true)
    {key : Bytes × Bytes} {sequence : UInt64} :
    (key,sequence) ∈ (firstOccurrences facts).flatMap sharedStateOrders ↔ HasOrder facts key sequence := by
  rw [List.mem_flatMap]
  constructor
  · rintro ⟨fact,hin,horder⟩
    have hmem := mem_of_mem_firstOccurrences hin
    exact ⟨fact,hmem,(mem_sharedStateOrders (hwell fact hmem)).mp horder⟩
  · rintro ⟨fact,hin,hrun,horders⟩
    obtain ⟨first,hfirst,hid,hsame⟩ := exists_first hagree hin
    refine ⟨first,hfirst,(mem_sharedStateOrders (hwell first (mem_of_mem_firstOccurrences hfirst))).mpr ?_⟩
    rcases hsame with rfl | hsame
    · exact ⟨hrun,horders⟩
    · rw [hid,(Fact.same_parts hsame).2.2]
      exact ⟨hrun,horders⟩

/-- The walk over the shared states finds no gap, in whatever order, exactly when there is none. -/
lemma no_gap_iff {facts : List Fact} (hagree : Agree facts) (hwell : ∀ fact ∈ facts, wellFormed fact = true)
    (order : HashOrder) :
    ((order.visit (((firstOccurrences facts).flatMap sharedStateOrders).map Prod.fst).dedup).findSome?
      fun key => (firstGap (sequencesOf ((firstOccurrences facts).flatMap sharedStateOrders) key)).map
        fun gap => (key,gap)) = none ↔ SharedStatesGapFree facts := by
  have hkey : ∀ key,
      firstGap (sequencesOf ((firstOccurrences facts).flatMap sharedStateOrders) key) = none ↔
        ∀ a b c, HasOrder facts key a → HasOrder facts key c → a ≤ b → b ≤ c → HasOrder facts key b := by
    intro key
    rw [firstGap_eq_none,isChain_follows_iff (sequencesOf_sorted _ key)]
    simp only [mem_sequencesOf,mem_gathered hagree hwell]
  rw [List.findSome?_eq_none_iff]
  constructor
  · intro hall key a b c ha hc hab hbc
    have hvisited : key ∈ order.visit (((firstOccurrences facts).flatMap sharedStateOrders).map Prod.fst).dedup := by
      rw [(order.perm _).mem_iff,List.mem_dedup,List.mem_map]
      exact ⟨_,(mem_gathered hagree hwell).mpr ha,rfl⟩
    exact (hkey key).mp (Option.map_eq_none_iff.mp (hall key hvisited)) a b c ha hc hab hbc
  · intro hall key _
    exact Option.map_eq_none_iff.mpr ((hkey key).mpr (hall key))

end SharedStates

section Verdict

/-- A well-formed fact has the contents that it has: no number of it is a NaN. -/
lemma same_refl {fact : Fact} (h : wellFormed fact = true) : fact.same fact := by
  have hnumber : ∀ {bits : UInt64}, isFinite bits = true → isNumber bits = true := by
    intro bits hfinite
    unfold isFinite at hfinite
    unfold isNumber
    have hexponent := of_decide_eq_true hfinite
    refine decide_eq_true ?_
    omega
  refine ⟨rfl,List.forall₂_same.mpr fun field hin => ?_⟩
  have hfield : validObservationField field fact.id.runId = true := by
    unfold wellFormed at h
    simp only [Bool.and_eq_true,List.all_eq_true] at h
    exact h.1.1.1.1.2 field hin
  have hvalue : field.value.same field.value = true := by
    cases hdouble : field.value with
    | double bits =>
      unfold validObservationField at hfield
      rw [hdouble] at hfield
      split_ifs at hfield
      simp [FactFieldValue.same,hnumber hfield]
    | _ => simp [FactFieldValue.same]
  simp [FactField.same,hvalue]

/-- The rest of the audit, once every fragment is read. -/
lemma auditFacts_spec {fragments : List StoredFactFragment} {state : Reading Path}
    (h : FragmentsRead fragments state) (order : HashOrder) :
    ((auditFacts order state).evidenceResult = .complete ↔ Intact fragments) ∧
    ((auditFacts order state).evidenceResult = .complete ∨
      (auditFacts order state).evidenceResult = .incomplete) ∧
    ∀ issue, (auditFacts order state).firstIssue = some issue → issue.kind ≠ .conflictingFactId := by
  have hwell : ∀ fact ∈ fragments.flatMap StoredFactFragment.facts, wellFormed fact = true := by
    intro fact hin
    obtain ⟨fragment,-,hfact⟩ := List.mem_flatMap.mp hin
    exact fragment.wellFormed fact hfact
  have hresolves := resolveCauses_resolves state.facts h.facts.pending
  have hcauses := causesPresent_iff h.facts.agree
  have hgap := no_gap_iff h.facts.agree hwell order
  have hkind : ∀ issue, (resolveCauses state.facts state.audit).firstIssue = some issue →
      issue.kind ≠ .conflictingFactId := by
    intro issue hissue
    rcases hresolves.issue issue hissue with hissue | hkind
    · rcases h.facts.issue with ⟨hnone,-⟩ | ⟨-,first,hfirst,hkind⟩
      · rw [hnone] at hissue
        cases hissue
      · cases hfirst.symm.trans hissue
        rw [hkind]
        decide
    · rw [hkind]
      decide
  rw [h.facts.facts] at hresolves hkind
  have hintact : Intact fragments ↔ ProducersConsecutive (fragments.flatMap StoredFactFragment.facts) ∧
      CausesPresent (fragments.flatMap StoredFactFragment.facts) ∧
      SharedStatesGapFree (fragments.flatMap StoredFactFragment.facts) :=
    ⟨fun hall => ⟨hall.producers,hall.causes,hall.sharedStates⟩,
      fun hall => ⟨h.consecutive,h.facts.agree,hall.1,hall.2.1,hall.2.2⟩⟩
  rw [hintact]
  unfold auditFacts
  rw [h.facts.facts]
  dsimp only
  by_cases hpresent : CausesPresent (fragments.flatMap StoredFactFragment.facts)
  · obtain ⟨hcount,hissue⟩ := hresolves.resolved (hcauses.mp hpresent)
    rw [if_neg (by rw [hcount,h.facts.unresolved]; simp)]
    cases hfound : ((order.visit (((firstOccurrences (fragments.flatMap StoredFactFragment.facts)).flatMap
        sharedStateOrders).map Prod.fst).dedup).findSome? fun key =>
          (firstGap (sequencesOf ((firstOccurrences (fragments.flatMap StoredFactFragment.facts)).flatMap
            sharedStateOrders) key)).map fun gap => (key,gap)) with
    | some gap =>
      refine ⟨iff_of_false (by simp [fail]) fun hall => ?_,Or.inr rfl,fun issue hfail => ?_⟩
      · rw [hgap.mpr hall.2.2] at hfound
        cases hfound
      · cases hfirst : (resolveCauses (firstOccurrences (fragments.flatMap StoredFactFragment.facts))
            state.audit).firstIssue with
        | some first =>
          dsimp only [fail] at hfail
          rw [hfirst] at hfail
          cases hfail
          exact hkind first hfirst
        | none =>
          dsimp only [fail] at hfail
          rw [hfirst] at hfail
          cases hfail
          simp
    | none =>
      have hstates := hgap.mp hfound
      rcases h.facts.issue with ⟨hnone,hproducers⟩ | ⟨hproducers,first,hfirst,-⟩
      · rw [hnone] at hissue
        dsimp only
        rw [hissue,if_pos Option.isNone_none]
        exact ⟨iff_of_true rfl ⟨hproducers,hpresent,hstates⟩,Or.inl rfl,fun issue h => by cases h⟩
      · rw [hfirst] at hissue
        dsimp only
        rw [hissue,if_neg (by simp)]
        exact ⟨iff_of_false (by rw [hresolves.incomplete]; simp) fun hall => hproducers hall.1,
          Or.inr hresolves.incomplete,fun issue h => hkind issue (hissue.trans h)⟩
  · have hcount := hresolves.unresolved fun hall => hpresent (hcauses.mpr hall)
    rw [if_pos (by rw [h.facts.unresolved] at hcount; omega)]
    rw [hresolves.incomplete]
    exact ⟨iff_of_false (by simp) fun hall => hpresent hall.2.1,Or.inr rfl,hkind⟩

/-- The audit of a list of fragments is complete exactly when they are intact; an id with two contents makes
it incomplete, and that is what it reports exactly when nothing before it is defective. -/
theorem auditFactIntegrity_verdict (read : Path → Except FactFragmentStoreError StoredFactFragment)
    (order : HashOrder) (paths : List Path) :
    ((auditFactIntegrity read order paths).1.evidenceResult = .complete ↔
      paths ≠ [] ∧ paths.length ≤ maxCheckpointArtifacts ∧
        ∃ fragments, paths.map read = fragments.map .ok ∧ Intact fragments) ∧
    (∀ path path' fragment fragment' f f', path ∈ paths → path' ∈ paths →
      read path = .ok fragment → read path' = .ok fragment' → f ∈ fragment.facts → f' ∈ fragment'.facts →
      f.id = f'.id → ¬f.same f' → (auditFactIntegrity read order paths).1.evidenceResult = .incomplete) ∧
    ((∃ issue, (auditFactIntegrity read order paths).1.firstIssue = some issue ∧
        issue.kind = .conflictingFactId) ↔
      paths.length ≤ maxCheckpointArtifacts ∧ ConflictFirst (paths.map read)) := by
  have hverdict : ((auditFactIntegrity read order paths).1.evidenceResult = .complete ↔
        paths ≠ [] ∧ paths.length ≤ maxCheckpointArtifacts ∧
          ∃ fragments, paths.map read = fragments.map .ok ∧ Intact fragments) ∧
      ((auditFactIntegrity read order paths).1.evidenceResult = .complete ∨
        (auditFactIntegrity read order paths).1.evidenceResult = .incomplete) ∧
      ((∃ issue, (auditFactIntegrity read order paths).1.firstIssue = some issue ∧
          issue.kind = .conflictingFactId) ↔
        paths.length ≤ maxCheckpointArtifacts ∧ ConflictFirst (paths.map read)) := by
    unfold auditFactIntegrity
    by_cases hempty : paths = []
    · subst hempty
      rw [if_pos rfl]
      refine ⟨iff_of_false (by simp [fail]) (by simp),Or.inr rfl,iff_of_false (by simp [fail]) ?_⟩
      rintro ⟨-,fragments,fragment,earlier,fact,hinitial,-⟩
      simp at hinitial
    rw [if_neg hempty]
    by_cases hmany : maxCheckpointArtifacts < paths.length
    · rw [if_pos hmany]
      exact ⟨iff_of_false (by simp [fail]) fun h => Nat.not_le.mpr hmany h.2.1,Or.inr rfl,
        iff_of_false (by simp [fail]) fun h => Nat.not_le.mpr hmany h.1⟩
    rw [if_neg hmany]
    have hnone : FragmentsRead [] ({} : Reading Path) := ⟨factsRead_nil,rfl,List.IsChain.nil⟩
    rcases receiveFragments_spec read hnone paths with
      ⟨state,fragments,hstate,hread,hfragments⟩ | ⟨audit,haudit,hincomplete,hnot,hconflict⟩
    · rw [List.nil_append] at hfragments
      obtain ⟨hcomplete,hresult,hkind⟩ := auditFacts_spec hfragments order
      rw [hstate]
      refine ⟨?_,hresult,iff_of_false ?_ ?_⟩
      · dsimp only
        rw [hcomplete]
        constructor
        · exact fun hintact => ⟨hempty,Nat.not_lt.mp hmany,fragments,hread,hintact⟩
        · rintro ⟨-,-,fragments',hread',hintact⟩
          rwa [List.map_injective_iff.mpr ok_injective (hread.symm.trans hread')]
      · rintro ⟨issue,hissue,hconflict⟩
        exact hkind issue hissue hconflict
      · rintro ⟨-,hconflict⟩
        exact Readable.not_conflictFirst ⟨hread,hfragments.consecutive,hfragments.facts.agree⟩ hconflict
    · rw [List.map_nil,List.nil_append] at hnot hconflict
      rw [haudit]
      refine ⟨iff_of_false ?_ ?_,Or.inr hincomplete,?_⟩
      · dsimp only
        rw [hincomplete]
        simp
      · rintro ⟨-,-,fragments,hread,hintact⟩
        exact hnot ⟨fragments,hread,hintact.sequences,hintact.agree⟩
      · dsimp only
        rw [hconflict,and_iff_right (Nat.not_lt.mp hmany)]
  obtain ⟨hcomplete,hresult,hconflict⟩ := hverdict
  refine ⟨hcomplete,?_,hconflict⟩
  intro path path' fragment fragment' f f' hpath hpath' hread hread' hf hf' hid hdiffer
  refine hresult.resolve_left fun h => hdiffer ?_
  obtain ⟨-,-,fragments,hreads,hintact⟩ := hcomplete.mp h
  have hmem : ∀ {path fragment}, path ∈ paths → read path = .ok fragment → fragment ∈ fragments := by
    intro path fragment hpath hread
    have hin := List.mem_map.mpr ⟨path,hpath,hread⟩
    rw [hreads] at hin
    obtain ⟨fragment',hin,heq⟩ := List.mem_map.mp hin
    exact Except.ok.inj heq ▸ hin
  have hsymm : Std.Symm fun f g : Fact => f.id = g.id → f.same g :=
    ⟨fun _ _ h hid => Fact.same_symm (h hid.symm)⟩
  have hrefl : ∀ fact ∈ fragments.flatMap StoredFactFragment.facts, fact.id = fact.id → fact.same fact := by
    intro fact hin _
    obtain ⟨fragment,-,hfact⟩ := List.mem_flatMap.mp hin
    exact same_refl (fragment.wellFormed fact hfact)
  exact List.Pairwise.forall_of_forall hrefl hintact.agree
    (List.mem_flatMap.mpr ⟨fragment,hmem hpath hread,hf⟩)
    (List.mem_flatMap.mpr ⟨fragment',hmem hpath' hread',hf'⟩) hid

/-- The fact of a producer under a sequence. -/
def observedFact (kind : UInt8) (sequence : UInt64) : Fact where
  id := ⟨[114],[101],sequence⟩
  kind := [kind]

/-- The producer skips its second fact, and its third comes with two kinds. -/
def skippedThenConflicting : StoredFactFragment where
  sequence := 1
  facts := [observedFact 97 1,observedFact 97 3,observedFact 98 3]
  wellFormed := by decide

/-- A gap of the producer before it hides that an id has two contents. -/
theorem conflict_hidden :
    ¬∀ (read : Unit → Except FactFragmentStoreError StoredFactFragment) (order : HashOrder) (paths : List Unit)
      (fragments : List StoredFactFragment), paths.map read = fragments.map .ok →
      ¬Agree (fragments.flatMap StoredFactFragment.facts) →
      ∃ issue, (auditFactIntegrity read order paths).1.firstIssue = some issue ∧
        issue.kind = .conflictingFactId := by
  intro hall
  obtain ⟨issue,hissue,hkind⟩ := hall (fun _ => .ok skippedThenConflicting) ⟨id,fun _ => .refl _⟩ [()]
    [skippedThenConflicting] rfl (by unfold Agree; decide)
  have hgap : (auditFactIntegrity (fun _ : Unit => .ok skippedThenConflicting) ⟨id,fun _ => .refl _⟩
      [()]).1.firstIssue.map FactIntegrityIssue.kind = some .producerSequenceDiscontinuity := by
    decide
  rw [hissue,Option.map_some,hkind] at hgap
  cases hgap

end Verdict
end AytherRuntime.Binary
