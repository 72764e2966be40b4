import AytherRuntime.Destination.Ledger
import AytherRuntime.Fact.Binary
import Mathlib.Data.List.Chain
import Mathlib.Data.List.Forall2
import Mathlib.Data.List.Dedup

/-! The audit of the fact fragments of a take: one pass over fragments, producers and conflicts, and then
the causes and the orders of the shared states. -/
namespace AytherRuntime.Binary
open Codec
open AytherRuntime.Destination (EvidenceResult)

section Equality

/-- Whether the bits are those of a number, infinities included. -/
def isNumber (bits : UInt64) : Bool := bits.toNat % 2 ^ 63 ≤ (2 ^ 11 - 1) * 2 ^ 52

/-- Zero has two signs; every other number has one spelling. -/
def withoutZeroSign (bits : UInt64) : UInt64 := if bits.toNat % 2 ^ 63 = 0 then 0 else bits

/-- `operator==` of the values of a field. -/
def FactFieldValue.same : FactFieldValue → FactFieldValue → Bool
  | .double a, .double b => isNumber a && isNumber b && withoutZeroSign a = withoutZeroSign b
  | a, b => a = b

def FactField.same (f g : FactField) : Bool :=
  f.name = g.name && f.availability = g.availability && f.unit = g.unit && f.value.same g.value &&
    f.unavailableReason = g.unavailableReason

/-- `operator==` of facts. -/
def Fact.same (f g : Fact) : Prop :=
  { f with fields := [] } = { g with fields := [] } ∧
    List.Forall₂ (fun a b => FactField.same a b = true) f.fields g.fields

instance : DecidableRel Fact.same := fun _ _ => inferInstanceAs (Decidable (_ ∧ _))

lemma FactFieldValue.same_symm {a b : FactFieldValue} (h : a.same b = true) : b.same a = true := by
  cases a <;> cases b <;> simp_all [FactFieldValue.same]

lemma FactFieldValue.same_trans {a b c : FactFieldValue} (hab : a.same b = true) (hbc : b.same c = true) :
    a.same c = true := by
  cases a <;> cases b <;> cases c <;> simp_all [FactFieldValue.same]

lemma FactField.same_symm {f g : FactField} (h : f.same g = true) : g.same f = true := by
  unfold FactField.same at h ⊢
  simp only [Bool.and_eq_true,decide_eq_true_eq] at h ⊢
  obtain ⟨⟨⟨⟨hname,havailability⟩,hunit⟩,hvalue⟩,hreason⟩ := h
  exact ⟨⟨⟨⟨hname.symm,havailability.symm⟩,hunit.symm⟩,FactFieldValue.same_symm hvalue⟩,hreason.symm⟩

lemma FactField.same_trans {f g k : FactField} (hfg : f.same g = true) (hgk : g.same k = true) :
    f.same k = true := by
  unfold FactField.same at hfg hgk ⊢
  simp only [Bool.and_eq_true,decide_eq_true_eq] at hfg hgk ⊢
  obtain ⟨⟨⟨⟨hname,havailability⟩,hunit⟩,hvalue⟩,hreason⟩ := hfg
  obtain ⟨⟨⟨⟨hname',havailability'⟩,hunit'⟩,hvalue'⟩,hreason'⟩ := hgk
  exact ⟨⟨⟨⟨hname.trans hname',havailability.trans havailability'⟩,hunit.trans hunit'⟩,
    FactFieldValue.same_trans hvalue hvalue'⟩,hreason.trans hreason'⟩

lemma Fact.same_symm {f g : Fact} (h : f.same g) : g.same f :=
  ⟨h.1.symm,List.Forall₂.flip (h.2.imp fun _ _ => FactField.same_symm)⟩

lemma Fact.same_trans {f g k : Fact} (hfg : f.same g) (hgk : g.same k) : f.same k := by
  refine ⟨hfg.1.trans hgk.1,?_⟩
  have hfields := hfg.2
  have hfields' := hgk.2
  generalize f.fields = fs at hfields ⊢
  generalize g.fields = gs at hfields hfields'
  generalize k.fields = ks at hfields' ⊢
  induction hfields generalizing ks with
  | nil => exact hfields'
  | cons hhead _ ih =>
    cases hfields' with
    | cons hhead' htail' => exact .cons (FactField.same_trans hhead hhead') (ih _ htail')

/-- The same contents have the same id, causes and orders. -/
lemma Fact.same_parts {f g : Fact} (h : f.same g) :
    f.id = g.id ∧ f.causeIds = g.causeIds ∧ f.sharedStateOrder = g.sharedStateOrder := by
  have hsame := h.1
  rw [Fact.mk.injEq] at hsame
  exact ⟨hsame.1,hsame.2.2.2.1,hsame.2.2.2.2.2.2.2.2.1⟩

end Equality

section Audit

/-- A fragment as it is read: its sequence, and its facts, which the batch decoder checked. -/
structure StoredFactFragment where
  sequence : UInt64
  facts : List Fact
  wellFormed : ∀ fact ∈ facts, wellFormed fact = true

inductive FactFragmentStoreError
  | invalidSequence | invalidFacts | documentTooLarge | alreadyExists | ioError | malformedHeader
  | incompatibleVersion | lengthMismatch | sequenceMismatch | hashMismatch | countMismatch | invalidContent
  deriving DecidableEq

inductive FactIntegrityIssueKind
  | emptySegment | tooManyFragments | fragmentUnreadable | fragmentSequenceDiscontinuity
  | producerSequenceDiscontinuity | conflictingFactId | unresolvedInternalCause
  | sharedStateOrderDiscontinuity
  deriving DecidableEq

structure FactIntegrityIssue (Path : Type) where
  kind : FactIntegrityIssueKind
  fragment : Option Path := none
  factId : Option FactId := none
  relatedFactId : Option FactId := none
  expectedSequence : UInt64 := 0
  observedSequence : UInt64 := 0
  storeError : Option FactFragmentStoreError := none
  stateId : Bytes := []
  deriving DecidableEq

structure FactIntegrityAudit (Path : Type) where
  evidenceResult : EvidenceResult := .incomplete
  verifiedFragments : ℕ := 0
  uniqueFacts : ℕ := 0
  identicalDuplicates : ℕ := 0
  resolvedInternalCauses : ℕ := 0
  unresolvedInternalCauses : ℕ := 0
  independentFacts : ℕ := 0
  validatedSharedStateOrders : ℕ := 0
  firstIssue : Option (FactIntegrityIssue Path) := none
  deriving DecidableEq

def maxCheckpointArtifacts : ℕ := 65536

variable {Path : Type}

def fail (audit : FactIntegrityAudit Path) (issue : FactIntegrityIssue Path) : FactIntegrityAudit Path :=
  { audit with
    evidenceResult := .incomplete
    firstIssue := some (audit.firstIssue.getD issue) }

/-- The sequence expected after one, zero after the last. -/
def nextSequence (sequence : UInt64) : UInt64 :=
  if sequence.toNat = 2 ^ 64 - 1 then 0 else sequence + 1

def producer (id : FactId) : Bytes × Bytes := (id.runId,id.producerId)

/-- What the pass over the fragments keeps; the indices of the facts are their places in `facts`. -/
structure Reading (Path : Type) where
  audit : FactIntegrityAudit Path := {}
  facts : List Fact := []
  producerSequences : Bytes × Bytes → Option UInt64 := fun _ => none
  fragmentSequence : Option UInt64 := none

/-- The sequence of a new fact against the last one of its producer. -/
def checkProducer (path : Path) (state : Reading Path) (fact : Fact) : FactIntegrityAudit Path :=
  match state.producerSequences (producer fact.id) with
  | some previous =>
    let expected := nextSequence previous
    if expected = 0 ∨ fact.id.producerSequence ≠ expected then
      fail state.audit
        { kind := .producerSequenceDiscontinuity, fragment := some path, factId := some fact.id,
          expectedSequence := expected, observedSequence := fact.id.producerSequence }
    else state.audit
  | none => state.audit

/-- One fact of a fragment; an audit that ends there is the error. -/
def receiveFact (path : Path) (state : Reading Path) (fact : Fact) :
    Except (FactIntegrityAudit Path) (Reading Path) :=
  let sequence := fact.id.producerSequence
  match state.facts.find? (fun existing => existing.id = fact.id) with
  | some existing =>
    if existing.same fact then
      .ok { state with
        audit := { state.audit with identicalDuplicates := state.audit.identicalDuplicates + 1 } }
    else
      .error (fail state.audit
        { kind := .conflictingFactId, fragment := some path, factId := some fact.id,
          expectedSequence := sequence, observedSequence := sequence })
  | none =>
    let audit := checkProducer path state fact
    .ok { state with
      audit := { audit with uniqueFacts := audit.uniqueFacts + 1 }
      facts := state.facts ++ [fact]
      producerSequences := fun key =>
        if key = producer fact.id then some sequence else state.producerSequences key }

def receiveFacts (path : Path) : List Fact → Reading Path → Except (FactIntegrityAudit Path) (Reading Path)
  | [], state => .ok state
  | fact :: facts, state =>
    match receiveFact path state fact with
    | .error audit => .error audit
    | .ok state => receiveFacts path facts state

/-- The sequence that was expected of a fragment, where it has another. -/
def brokenSequence (state : Reading Path) (fragment : StoredFactFragment) : Option UInt64 :=
  match state.fragmentSequence with
  | some previous =>
    let expected := nextSequence previous
    if expected = 0 ∨ fragment.sequence ≠ expected then some expected else none
  | none => none

/-- One path of the list, as it is read. -/
def receiveFragment (path : Path) (reopened : Except FactFragmentStoreError StoredFactFragment)
    (state : Reading Path) : Except (FactIntegrityAudit Path) (Reading Path) :=
  match reopened with
  | .error error =>
    .error (fail state.audit
      { kind := .fragmentUnreadable, fragment := some path, storeError := some error })
  | .ok fragment =>
    match brokenSequence state fragment with
    | some expected =>
      .error (fail state.audit
        { kind := .fragmentSequenceDiscontinuity, fragment := some path, expectedSequence := expected,
          observedSequence := fragment.sequence })
    | none =>
      match receiveFacts path fragment.facts { state with fragmentSequence := some fragment.sequence } with
      | .error audit => .error audit
      | .ok state =>
        .ok { state with
          audit := { state.audit with verifiedFragments := state.audit.verifiedFragments + 1 } }

variable (read : Path → Except FactFragmentStoreError StoredFactFragment)

def receiveFragments : List Path → Reading Path → Except (FactIntegrityAudit Path) (Reading Path)
  | [], state => .ok state
  | path :: paths, state =>
    match receiveFragment path (read path) state with
    | .error audit => .error audit
    | .ok state => receiveFragments paths state

/-- The internal causes of one fact, counted as resolved where they name a fact of the list. -/
def resolveCause (facts : List Fact) (id : FactId) (audit : FactIntegrityAudit Path) :
    Cause → FactIntegrityAudit Path
  | .preexistingContext _ => audit
  | .fact internal =>
    if (facts.map Fact.id).contains internal then
      { audit with resolvedInternalCauses := audit.resolvedInternalCauses + 1 }
    else
      fail { audit with unresolvedInternalCauses := audit.unresolvedInternalCauses + 1 }
        { kind := .unresolvedInternalCause, factId := some id, relatedFactId := some internal }

def resolveCauses (facts : List Fact) (audit : FactIntegrityAudit Path) : FactIntegrityAudit Path :=
  facts.foldl (fun audit fact => fact.causeIds.foldl (resolveCause facts fact.id) audit) audit

/-- The orders that a fact gives to the shared states of its run. -/
def sharedStateOrders (fact : Fact) : List ((Bytes × Bytes) × UInt64) :=
  if fact.sharedStateOrder.availability = .notApplicable then []
  else
    match fact.sharedStateOrder.value with
    | none => []
    | some orders => orders.map fun order => ((fact.id.runId,order.stateId),order.sequence)

/-- The sequences of one shared state, sorted and without repetitions. -/
def sequencesOf (orders : List ((Bytes × Bytes) × UInt64)) (key : Bytes × Bytes) : List UInt64 :=
  (((orders.filter fun order => order.1 = key).map Prod.snd).mergeSort (· ≤ ·)).dedup

/-- The first sequence that does not follow the one before it, after the one expected there. -/
def firstGap : List UInt64 → Option (UInt64 × UInt64)
  | previous :: sequence :: rest =>
    let expected := nextSequence previous
    if expected = 0 ∨ sequence ≠ expected then some (expected,sequence) else firstGap (sequence :: rest)
  | _ => none

/-- The order in which the map of the shared states is walked, which its hash decides. -/
structure HashOrder where
  visit : List (Bytes × Bytes) → List (Bytes × Bytes)
  perm : ∀ keys, (visit keys).Perm keys

/-- The audit after the pass over the fragments. -/
def auditFacts (order : HashOrder) (state : Reading Path) : FactIntegrityAudit Path :=
  let audit := resolveCauses state.facts state.audit
  if audit.unresolvedInternalCauses ≠ 0 then audit
  else
    let orders := state.facts.flatMap sharedStateOrders
    let audit :=
      { audit with
        independentFacts := state.facts.countP fun fact =>
          fact.sharedStateOrder.availability = .notApplicable
        validatedSharedStateOrders := orders.length }
    let gap := (order.visit (orders.map Prod.fst).dedup).findSome? fun key =>
      (firstGap (sequencesOf orders key)).map fun gap => (key,gap)
    match gap with
    | some (key,expected,observed) =>
      fail audit
        { kind := .sharedStateOrderDiscontinuity, expectedSequence := expected,
          observedSequence := observed, stateId := key.2 }
    | none => if audit.firstIssue.isNone then { audit with evidenceResult := .complete } else audit

/-- `audit_fact_integrity`, and the facts that it reopened. -/
def auditFactIntegrity (order : HashOrder) (paths : List Path) : FactIntegrityAudit Path × List Fact :=
  if paths = [] then (fail {} { kind := .emptySegment },[])
  else if maxCheckpointArtifacts < paths.length then (fail {} { kind := .tooManyFragments },[])
  else
    match receiveFragments read paths {} with
    | .error audit => (audit,[])
    | .ok state => (auditFacts order state,state.facts)

end Audit

section Specification

/-- One sequence right after another, in the natural numbers. -/
def Follows (a b : UInt64) : Prop := b.toNat = a.toNat + 1

/-- The first fact of each id. -/
def firstOccurrences (facts : List Fact) : List Fact :=
  facts.foldl (fun kept fact => if fact.id ∈ kept.map Fact.id then kept else kept ++ [fact]) []

/-- No id has two different contents. -/
def Agree (facts : List Fact) : Prop := facts.Pairwise fun f g => f.id = g.id → f.same g

/-- The sequences of one producer, a fact counted where it first occurs. -/
def producerOrder (facts : List Fact) (key : Bytes × Bytes) : List UInt64 :=
  ((firstOccurrences facts).filter fun fact => producer fact.id = key).map fun fact =>
    fact.id.producerSequence

def ProducersConsecutive (facts : List Fact) : Prop := ∀ key, (producerOrder facts key).IsChain Follows

def CausesPresent (facts : List Fact) : Prop :=
  ∀ fact ∈ facts, ∀ internal, Cause.fact internal ∈ fact.causeIds → ∃ cause ∈ facts, cause.id = internal

/-- A fact of the run gives the shared state this sequence. -/
def HasOrder (facts : List Fact) (key : Bytes × Bytes) (sequence : UInt64) : Prop :=
  ∃ fact ∈ facts, fact.id.runId = key.1 ∧
    ∃ orders, fact.sharedStateOrder.value = some orders ∧ ⟨key.2,sequence⟩ ∈ orders

def SharedStatesGapFree (facts : List Fact) : Prop :=
  ∀ key a b c, HasOrder facts key a → HasOrder facts key c → a ≤ b → b ≤ c → HasOrder facts key b

/-- What a complete verdict means. -/
structure Intact (fragments : List StoredFactFragment) : Prop where
  sequences : (fragments.map StoredFactFragment.sequence).IsChain Follows
  agree : Agree (fragments.flatMap StoredFactFragment.facts)
  producers : ProducersConsecutive (fragments.flatMap StoredFactFragment.facts)
  causes : CausesPresent (fragments.flatMap StoredFactFragment.facts)
  sharedStates : SharedStatesGapFree (fragments.flatMap StoredFactFragment.facts)

/-- Up to some fact everything is readable, follows on and agrees; that fact contradicts an earlier one. -/
def ConflictFirst (reopened : List (Except FactFragmentStoreError StoredFactFragment)) : Prop :=
  ∃ fragments fragment earlier fact,
    (fragments ++ [fragment]).map .ok <+: reopened ∧
    ((fragments ++ [fragment]).map StoredFactFragment.sequence).IsChain Follows ∧
    earlier ++ [fact] <+: fragment.facts ∧
    Agree (fragments.flatMap StoredFactFragment.facts ++ earlier) ∧
    ProducersConsecutive (fragments.flatMap StoredFactFragment.facts ++ earlier) ∧
    ∃ f ∈ fragments.flatMap StoredFactFragment.facts ++ earlier, f.id = fact.id ∧ ¬f.same fact

end Specification

section Firsts

lemma follows_iff {a b : UInt64} : ¬(nextSequence a = 0 ∨ b ≠ nextSequence a) ↔ Follows a b := by
  have ha := a.toNat_lt
  have hb := b.toNat_lt
  unfold Follows nextSequence
  split
  · simp
    omega
  · have hnext : (a + 1).toNat = a.toNat + 1 := by
      rw [UInt64.toNat_add]
      exact Nat.mod_eq_of_lt (by rw [UInt64.toNat_one]; omega)
    rw [not_or,not_not,← UInt64.toNat_inj,← UInt64.toNat_inj,hnext]
    exact ⟨And.right,fun h => ⟨by simp,h⟩⟩

lemma isChain_concat {α : Type} {R : α → α → Prop} {l : List α} {a : α} :
    (l ++ [a]).IsChain R ↔ l.IsChain R ∧ ∀ b ∈ l.getLast?, R b a := by
  rw [List.isChain_append]
  simp

lemma firstOccurrences_concat (facts : List Fact) (fact : Fact) : firstOccurrences (facts ++ [fact]) =
    if fact.id ∈ (firstOccurrences facts).map Fact.id then firstOccurrences facts
    else firstOccurrences facts ++ [fact] := by
  unfold firstOccurrences
  rw [List.foldl_append,List.foldl_cons,List.foldl_nil]

lemma mem_of_mem_firstOccurrences {facts : List Fact} {fact : Fact}
    (h : fact ∈ firstOccurrences facts) : fact ∈ facts := by
  induction facts using List.reverseRecOn with
  | nil => exact h
  | append_singleton facts last ih =>
    rw [firstOccurrences_concat] at h
    split at h
    · exact List.mem_append_left _ (ih h)
    · rcases List.mem_append.mp h with h | h
      · exact List.mem_append_left _ (ih h)
      · exact List.mem_append_right _ h

lemma firstOccurrences_nodup (facts : List Fact) : ((firstOccurrences facts).map Fact.id).Nodup := by
  induction facts using List.reverseRecOn with
  | nil => exact List.nodup_nil
  | append_singleton facts last ih =>
    rw [firstOccurrences_concat]
    split
    · exact ih
    · rename_i hnew
      rw [List.map_append,List.nodup_append]
      refine ⟨ih,List.nodup_singleton _,fun id hid id' hid' => ?_⟩
      rintro rfl
      rw [List.map_singleton,List.mem_singleton] at hid'
      exact hnew (hid' ▸ hid)

lemma agree_concat {facts : List Fact} {fact : Fact} :
    Agree (facts ++ [fact]) ↔ Agree facts ∧ ∀ f ∈ facts, f.id = fact.id → f.same fact := by
  unfold Agree
  rw [List.pairwise_append]
  simp

/-- Every fact has its first occurrence, of the same contents where the facts agree. -/
lemma exists_first {facts : List Fact} (hagree : Agree facts) {fact : Fact} (hin : fact ∈ facts) :
    ∃ first ∈ firstOccurrences facts, first.id = fact.id ∧ (first = fact ∨ first.same fact) := by
  induction facts using List.reverseRecOn with
  | nil => cases hin
  | append_singleton facts last ih =>
    obtain ⟨hagree,hlast⟩ := agree_concat.mp hagree
    have hearlier : ∀ first ∈ firstOccurrences facts, first ∈ firstOccurrences (facts ++ [last]) := by
      intro first hfirst
      rw [firstOccurrences_concat]
      split
      · exact hfirst
      · exact List.mem_append_left _ hfirst
    rcases List.mem_append.mp hin with hin | hin
    · obtain ⟨first,hfirst,hsame⟩ := ih hagree hin
      exact ⟨first,hearlier first hfirst,hsame⟩
    · obtain rfl := List.mem_singleton.mp hin
      by_cases hold : fact.id ∈ (firstOccurrences facts).map Fact.id
      · obtain ⟨first,hfirst,hid⟩ := List.mem_map.mp hold
        exact ⟨first,hearlier first hfirst,hid,
          Or.inr (hlast first (mem_of_mem_firstOccurrences hfirst) hid)⟩
      · refine ⟨fact,?_,rfl,Or.inl rfl⟩
        rw [firstOccurrences_concat,if_neg hold]
        exact List.mem_append_right _ (List.mem_singleton.mpr rfl)

lemma mem_map_firstOccurrences {facts : List Fact} (hagree : Agree facts) (id : FactId) :
    id ∈ (firstOccurrences facts).map Fact.id ↔ ∃ fact ∈ facts, fact.id = id := by
  rw [List.mem_map]
  constructor
  · rintro ⟨fact,hin,hid⟩
    exact ⟨fact,mem_of_mem_firstOccurrences hin,hid⟩
  · rintro ⟨fact,hin,rfl⟩
    obtain ⟨first,hfirst,hid,-⟩ := exists_first hagree hin
    exact ⟨first,hfirst,hid⟩

/-- A new occurrence agrees with all the earlier ones when it agrees with the first. -/
lemma first_same_iff {facts : List Fact} (hagree : Agree facts) {first fact : Fact}
    (hfirst : first ∈ firstOccurrences facts) (hid : first.id = fact.id) :
    first.same fact ↔ ∀ f ∈ facts, f.id = fact.id → f.same fact := by
  constructor
  · intro hsame f hin hf
    obtain ⟨first',hfirst',hid',hsame'⟩ := exists_first hagree hin
    have heq : first' = first :=
      List.inj_on_of_nodup_map (firstOccurrences_nodup facts) hfirst' hfirst
        (hid'.trans (hf.trans hid.symm))
    subst heq
    rcases hsame' with rfl | hsame'
    · exact hsame
    · exact Fact.same_trans (Fact.same_symm hsame') hsame
  · exact fun hall => hall first (mem_of_mem_firstOccurrences hfirst) hid

end Firsts
end AytherRuntime.Binary
