import AytherRuntime.Trace.Waiting
import Mathlib.Data.List.Induction

/-! Which sequences of facts the accumulator judges free of loss. -/
namespace AytherRuntime.Trace
namespace Accumulator
variable {a : Accumulator} (hash : HashOrder) {fact : Fact}

section Consume

lemma consume_invalid (hinvalid : a.valid = false) : a.consume hash fact = a := by
  simp [consume,hinvalid]

lemma consumeAll_invalid (hinvalid : a.valid = false) (facts : List Fact) :
    a.consumeAll hash facts = a := by
  induction facts with
  | nil => rfl
  | cons fact facts ih =>
    unfold consumeAll at ih ⊢
    rw [List.foldl_cons,consume_invalid hash hinvalid,ih]

lemma new_invalid {runId : String} (h : ¬(runId ≠ "" ∧ runId.utf8ByteSize ≤ maxIdentityBytes)) :
    (new runId).valid = false := by
  simp only [new,h,decide_false]

lemma consume_rejected (hvalid : a.valid = true) (h : reading a.runId fact = .rejected) :
    (a.consume hash fact).valid = false := by
  unfold reading at h
  unfold consume
  rw [if_neg (by simp [hvalid])]
  split_ifs at h with hid hinspection
  · split_ifs with hinspection
    · rfl
    · split
      · rfl
      · dsimp only
        rw [if_pos (by tauto)]
  · rw [if_pos hinspection,if_neg hid]
    unfold inspectionReading at h
    split_ifs at h ⊢ with hexclusion hcompiled hread hkind
    · cases hexcluded : readFactExclusion fact with
      | none => rfl
      | some exclusion =>
        rw [hexcluded] at h
        dsimp only at h ⊢
        unfold exclude
        cases hproducer : producerNumber exclusion.producer with
        | none => rfl
        | some producer =>
          rw [hproducer] at h
          dsimp only at h ⊢
          split_ifs at h with hmax
          rw [if_pos hmax]
    · cases hrecord : readTimelineCompiled fact with
      | none => rfl
      | some record => simp [hrecord] at hread
    · rfl
  · rw [if_neg hinspection]
    unfold engineReading at h
    cases hproducer : producerNumber fact.id.producerId with
    | none => rfl
    | some producer =>
      rw [hproducer] at h
      dsimp only at h ⊢
      split_ifs at h with hmax
      · rw [if_pos (by tauto)]
      · split_ifs
        · rfl
        · rfl
        · have hrun : ((a.grow producer fact.id.producerSequence).setSlot
              ⟨producer,fact.id.producerSequence⟩ .unresolved).runId = a.runId := rfl
          cases hcauses : compactCauses a.runId (traceKind fact.kind) fact.causeIds with
          | none => rw [hrun,hcauses]
          | some causes =>
            rw [hcauses] at h
            cases h

lemma consume_note (hvalid : a.valid = true) (h : reading a.runId fact = .note) :
    ∃ timeline, a.consume hash fact = { a with timeline, factCount := a.factCount + 1 } := by
  unfold reading at h
  unfold consume
  rw [if_neg (by simp [hvalid])]
  split_ifs at h with hid hinspection
  · rw [if_pos hinspection,if_neg hid]
    unfold inspectionReading at h
    split_ifs at h ⊢ with hexclusion hcompiled hread hkind
    · repeat' split at h
      all_goals cases h
    · obtain ⟨record,hrecord⟩ := Option.isSome_iff_exists.mp hread
      rw [hrecord]
      exact ⟨some record,rfl⟩
    · exact ⟨a.timeline,rfl⟩
  · unfold engineReading at h
    repeat' split at h
    all_goals cases h

lemma consume_exclusion (hvalid : a.valid = true) {producer first last : ℕ}
    (h : reading a.runId fact = .exclusion producer first last) :
    ∃ exclusion : FactExclusion, producerNumber exclusion.producer = some producer ∧
      exclusion.sequenceFrom = first ∧ exclusion.sequenceTo = last ∧
      a.consume hash fact = { a with factCount := a.factCount + 1 }.exclude hash exclusion := by
  unfold reading at h
  unfold consume
  rw [if_neg (by simp [hvalid])]
  split_ifs at h with hid hinspection
  · rw [if_pos hinspection,if_neg hid]
    unfold inspectionReading at h
    split_ifs at h ⊢ with hexclusion hcompiled hread hkind
    cases hexcluded : readFactExclusion fact with
    | none =>
      rw [hexcluded] at h
      cases h
    | some exclusion =>
      rw [hexcluded] at h
      dsimp only at h ⊢
      cases hnumber : producerNumber exclusion.producer with
      | none =>
        rw [hnumber] at h
        cases h
      | some number =>
        rw [hnumber] at h
        dsimp only at h
        split_ifs at h with hmax
        cases h
        exact ⟨exclusion,hnumber,rfl,rfl,rfl⟩
  · unfold engineReading at h
    repeat' split at h
    all_goals cases h

/-- The accumulator once the slot of an Engine fact is taken. -/
def take (a : Accumulator) (id : CompactId) : Accumulator :=
  { (a.grow id.producer id.sequence).setSlot id .unresolved with factCount := a.factCount + 1 }

lemma consume_engine (hvalid : a.valid = true) {pending : PendingFact}
    (h : reading a.runId fact = .engine pending) :
    (a.slot pending.id ≠ .missing ∧ (a.consume hash fact).valid = false) ∨
      (a.slot pending.id = .missing ∧
        a.consume hash fact = (a.take pending.id).process [pending]) := by
  unfold reading at h
  unfold consume
  rw [if_neg (by simp [hvalid])]
  split_ifs at h with hid hinspection
  · unfold inspectionReading at h
    repeat' split at h
    all_goals cases h
  rw [if_neg hinspection]
  unfold engineReading at h
  cases hproducer : producerNumber fact.id.producerId with
  | none =>
    rw [hproducer] at h
    cases h
  | some producer =>
    rw [hproducer] at h
    dsimp only at h ⊢
    split_ifs at h with hmax
    cases hcauses : compactCauses a.runId (traceKind fact.kind) fact.causeIds with
    | none =>
      rw [hcauses] at h
      cases h
    | some causes =>
      rw [hcauses] at h
      cases h
      have hrun : ((a.grow producer fact.id.producerSequence).setSlot
          ⟨producer,fact.id.producerSequence⟩ .unresolved).runId = a.runId := rfl
      rw [if_neg (by tauto),slot_grow,hrun,hcauses]
      split_ifs with htaken
      · exact Or.inl ⟨htaken,rfl⟩
      · exact Or.inr ⟨not_not.mp htaken,rfl⟩

end Consume
section Exclude

/-- Marking an interval takes each of its slots, which must all be missing. -/
lemma markExcluded_spec (sequences : List ℕ) (slots : List Slot) (hnodup : sequences.Nodup)
    (hfits : ∀ s ∈ sequences, 1 ≤ s ∧ s ≤ slots.length) :
    ((markExcluded sequences slots).2 = true ↔
        ∀ s ∈ sequences, slots.getD (s - 1) .missing = .missing) ∧
      ((markExcluded sequences slots).2 = true →
        (markExcluded sequences slots).1.length = slots.length ∧
        ∀ i, (markExcluded sequences slots).1.getD i .missing =
          if i + 1 ∈ sequences then .excluded else slots.getD i .missing) := by
  induction sequences generalizing slots with
  | nil => simp [markExcluded]
  | cons s sequences ih =>
    obtain ⟨hs,hrest⟩ := List.nodup_cons.mp hnodup
    obtain ⟨hone,hlen⟩ := hfits s (List.mem_cons_self ..)
    unfold markExcluded
    split_ifs with hmissing
    · have hset : ∀ i, (slots.set (s - 1) .excluded).getD i .missing =
          if i + 1 = s then .excluded else slots.getD i .missing := by
        intro i
        rw [List.getD_eq_getElem?_getD,List.getElem?_set]
        by_cases hi : i + 1 = s
        · rw [if_pos (by omega),if_pos (by omega),if_pos hi]
          rfl
        · rw [if_neg (by omega),if_neg hi,List.getD_eq_getElem?_getD]
      obtain ⟨hiff,hmarked⟩ := ih (slots.set (s - 1) .excluded) hrest
        (fun t ht => by simpa using hfits t (List.mem_cons_of_mem _ ht))
      constructor
      · rw [hiff,List.forall_mem_cons]
        have hne : ∀ t ∈ sequences, t - 1 + 1 ≠ s := by
          rintro t ht rfl
          have := (hfits t (List.mem_cons_of_mem _ ht)).1
          exact hs (by rwa [Nat.sub_add_cancel this])
        refine ⟨fun h => ⟨hmissing,fun t ht => ?_⟩,fun h t ht => ?_⟩
        · have hafter := h t ht
          rwa [hset,if_neg (hne t ht)] at hafter
        · rw [hset,if_neg (hne t ht)]
          exact h.2 t ht
      · intro h
        obtain ⟨hlength,hslots⟩ := hmarked h
        refine ⟨by simpa using hlength,fun i => ?_⟩
        rw [hslots,hset]
        by_cases hi : i + 1 = s
        · simp [hi]
        · simp [hi]
    · refine ⟨⟨fun h => (nomatch h),fun h => absurd (h s (List.mem_cons_self ..)) hmissing⟩,
        fun h => (nomatch h)⟩

variable {items : Set PendingFact} {given : Set CompactId}

/-- The accumulator once the interval of an exclusion is marked in the table of its producer. -/
def mark (a : Accumulator) (producer first last : ℕ) : Accumulator × Bool :=
  let a := a.grow producer last
  let marked := markExcluded (List.range' first (last + 1 - first)) (a.tokens producer)
  ({ a with tokens := Function.update a.tokens producer marked.1 },marked.2)

lemma exclude_eq {exclusion : FactExclusion} {producer : ℕ}
    (hproducer : producerNumber exclusion.producer = some producer)
    (hmax : exclusion.sequenceTo ≤ maxReplayTraceFacts) :
    a.exclude hash exclusion =
      let marked := a.mark producer exclusion.sequenceFrom exclusion.sequenceTo
      if marked.2 then
        let ids := (Reading.exclusion producer exclusion.sequenceFrom exclusion.sequenceTo).claims
        let released := (hash.keys a.factCount ids).foldl release (marked.1,[])
        released.1.process released.2
      else { marked.1 with valid := false } := by
  unfold exclude
  rw [hproducer]
  exact if_neg (Nat.not_lt.mpr hmax)

lemma mem_interval {producer first last : ℕ} {id : CompactId} :
    id ∈ (Reading.exclusion producer first last).claims ↔
      id.producer = producer ∧ first ≤ id.sequence ∧ id.sequence ≤ last := by
  cases id
  simp only [Reading.claims,List.mem_map,List.mem_range'_1,CompactId.mk.injEq]
  constructor
  · rintro ⟨s,hs,rfl,rfl⟩
    omega
  · rintro ⟨rfl,hs⟩
    exact ⟨_,by omega,rfl,rfl⟩

/-- An interval is marked exactly when no slot of it is taken, and then it is all excluded. -/
lemma mark_spec (a : Accumulator) (producer last : ℕ) {first : ℕ} (hfirst : 1 ≤ first) :
    ((a.mark producer first last).2 = true ↔
        ∀ id ∈ (Reading.exclusion producer first last).claims, a.slot id = .missing) ∧
      ((a.mark producer first last).2 = true → ∀ id : CompactId, id.Valid →
        (a.mark producer first last).1.slot id =
          if id ∈ (Reading.exclusion producer first last).claims then .excluded else a.slot id) ∧
      ((a.mark producer first last).2 = true → ∀ other,
        ((a.mark producer first last).1.tokens other).length =
          if other = producer then max (a.tokens producer).length last
          else (a.tokens other).length) := by
  have hlength : ((a.grow producer last).tokens producer).length =
      max (a.tokens producer).length last := by rw [grow_length,if_pos rfl]
  obtain ⟨hiff,hmarked⟩ := markExcluded_spec (List.range' first (last + 1 - first))
    ((a.grow producer last).tokens producer) List.nodup_range' (by
      intro s hs
      rw [List.mem_range'_1] at hs
      omega)
  have hgrown : ∀ id : CompactId, a.slot id =
      ((a.grow producer last).tokens id.producer).getD (id.sequence - 1) .missing :=
    fun id => (slot_grow producer last id).symm
  refine ⟨?_,?_,?_⟩
  · refine hiff.trans ⟨fun h id hid => ?_,fun h s hs => ?_⟩
    · obtain ⟨hp,hs⟩ := mem_interval.mp hid
      rw [hgrown,hp]
      exact h id.sequence (by rw [List.mem_range'_1]; omega)
    · rw [List.mem_range'_1] at hs
      exact (hgrown ⟨producer,s⟩).symm.trans
        (h ⟨producer,s⟩ (mem_interval.mpr ⟨rfl,hs.1,by dsimp only; omega⟩))
  · intro hok id hid
    have hupdate : (a.mark producer first last).1.slot id =
        (Function.update (a.grow producer last).tokens producer (markExcluded
          (List.range' first (last + 1 - first)) ((a.grow producer last).tokens producer)).1
          id.producer).getD (id.sequence - 1) .missing := rfl
    rw [hupdate,hgrown]
    by_cases hp : id.producer = producer
    · have hslot := (hmarked hok).2 (id.sequence - 1)
      rw [Nat.sub_add_cancel hid.2.2] at hslot
      have hmem : id.sequence ∈ List.range' first (last + 1 - first) ↔
          id ∈ (Reading.exclusion producer first last).claims := by
        rw [mem_interval,List.mem_range'_1]
        omega
      rw [hp,Function.update_self,hslot]
      simp only [hmem]
    · rw [Function.update_of_ne hp,if_neg fun hmem => hp (mem_interval.mp hmem).1]
  · intro hok other
    unfold mark
    dsimp only
    by_cases hp : other = producer
    · rw [hp,Function.update_self,(hmarked hok).1,hlength,if_pos rfl]
    · rw [Function.update_of_ne hp,grow_length]

/-- Marking an interval leaves its dependents to be released. -/
lemma Waits.mark (h : Waits a [] [] items given) {producer first last : ℕ}
    (hproducer : 1 ≤ producer ∧ producer ≤ producerSlots) (hfirst : 1 ≤ first)
    (hlast : first ≤ last)
    (hok : (a.mark producer first last).2 = true) :
    Waits (a.mark producer first last).1 [] (Reading.exclusion producer first last).claims items
      (given ∪ {id | id ∈ (Reading.exclusion producer first last).claims}) := by
  obtain ⟨hiff,hslots,hlengths⟩ := mark_spec a producer last hfirst
  have hmissing := hiff.mp hok
  have hset := hslots hok
  have hlength := hlengths hok
  generalize hclaims : (Reading.exclusion producer first last).claims = claims at *
  have hvalid : ∀ id ∈ claims, id.Valid := by
    intro id hid
    rw [← hclaims,mem_interval] at hid
    exact ⟨hid.1 ▸ hproducer.1,hid.1 ▸ hproducer.2,by omega⟩
  have htaken : ∀ id ∈ claims, id ∉ given ∧ ∀ fact ∈ items, fact.id ≠ id :=
    fun id hid => (h.owned id (hvalid id hid)).mp (hmissing id hid)
  have hfree : ∀ fact ∈ items, fact.id ∉ claims :=
    fun fact hfact hid => (htaken fact.id hid).2 fact hfact rfl
  refine ⟨h.valid,h.identities,⟨h.distinct.id,?_⟩,?_,h.nodup,?_,?_,?_,?_,?_,?_⟩
  · rintro fact hfact (hgiven | hclaim)
    · exact h.distinct.given fact hfact hgiven
    · exact hfree fact hfact hclaim
  · intro fact hfact
    obtain ⟨hmem,hslot⟩ := h.pending fact hfact
    exact ⟨hmem,by rw [hset _ (h.identities fact hmem).1,if_neg (hfree fact hmem),hslot]⟩
  · intro fact hfact
    rw [hset _ (h.identities fact hfact).1,if_neg (hfree fact hfact)]
    exact h.taken fact hfact
  · intro id hid
    rw [hset id hid]
    split_ifs with hclaim
    · simp [hclaim]
    · rw [h.owned id hid]
      simp [hclaim]
  · intro id hid
    rw [hset id hid]
    split_ifs with hclaim
    · simp [hclaim]
    · rw [h.excluded id hid]
      simp [hclaim]
  · intro id hid hend
    rw [hset id hid]
    split_ifs with hclaim
    · simp
    rw [hlength] at hend
    split_ifs at hend with hp
    · refine h.ends id hid ?_
      rw [← hclaims,mem_interval] at hclaim
      rw [hp]
      omega
    · exact h.ends id hid hend
  · intro id value hid hchain
    rw [hset id hid] at hchain
    split_ifs at hchain with hclaim
    exact (h.settled id value hid hchain).mono (Set.Subset.refl _) Set.subset_union_left
  · intro fact hfact
    obtain ⟨hmem,-⟩ := h.pending fact hfact
    have htoken : ∀ cause ∈ fact.causes, ((a.mark producer first last).1.token cause = none ∨
        cause ∈ claims) ↔ a.token cause = none ∨ cause ∈ ([] : List CompactId) := by
      intro cause hcause
      have hcv := (h.identities fact hmem).2 cause hcause
      rw [token_eq_none_iff hcv,token_eq_none_iff hcv,hset cause hcv]
      by_cases hclaim : cause ∈ claims
      · simp [hclaim,hmissing cause hclaim]
      · simp [hclaim]
    obtain ⟨⟨cause,hcause,hnone⟩,hall⟩ := h.waiting fact hfact
    exact ⟨⟨cause,hcause,(htoken cause hcause).mpr hnone⟩,
      fun cause hcause hnone => hall cause hcause ((htoken cause hcause).mp hnone)⟩

/-- A fact whose slot is missing takes it and is ready. -/
lemma Waits.take (h : Waits a [] [] items given) {pending : PendingFact} (hid : pending.id.Valid)
    (hcauses : ∀ cause ∈ pending.causes, cause.Valid) (hmissing : a.slot pending.id = .missing) :
    Waits (a.take pending.id) [pending] [] (items ∪ {pending}) given := by
  obtain ⟨hgiven,hitems⟩ := (h.owned pending.id hid).mp hmissing
  have hlength : ((a.grow pending.id.producer pending.id.sequence).tokens
      pending.id.producer).length = max (a.tokens pending.id.producer).length pending.id.sequence := by
    rw [grow_length,if_pos rfl]
  have hset : ∀ id : CompactId, id.Valid → (a.take pending.id).slot id =
      if id = pending.id then .unresolved else a.slot id := by
    intro id hvalid
    have hin := hid.2.2
    have hslot := slot_setSlot .unresolved hid hvalid
      (by omega : pending.id.sequence - 1 < ((a.grow pending.id.producer
        pending.id.sequence).tokens pending.id.producer).length)
    rwa [slot_grow] at hslot
  have hold : ∀ fact ∈ items, (a.take pending.id).slot fact.id = a.slot fact.id :=
    fun fact hfact => by rw [hset _ (h.identities fact hfact).1,if_neg (hitems fact hfact)]
  have hunresolved : ∀ fact ∈ a.unresolved, fact.id ≠ pending.id :=
    fun fact hfact => hitems fact (h.pending fact hfact).1
  refine ⟨h.valid,?_,⟨?_,?_⟩,?_,?_,?_,?_,?_,?_,?_,?_⟩
  · rintro fact (hfact | rfl)
    · exact h.identities fact hfact
    · exact ⟨hid,hcauses⟩
  · rintro fact (hfact | rfl) other (hother | rfl) hsame
    · exact h.distinct.id fact hfact other hother hsame
    · exact absurd hsame (hitems fact hfact)
    · exact absurd hsame.symm (hitems other hother)
    · rfl
  · rintro fact (hfact | rfl)
    · exact h.distinct.given fact hfact
    · exact hgiven
  · intro fact hfact
    rcases List.mem_cons.mp hfact with rfl | hfact
    · exact ⟨Or.inr rfl,by rw [hset _ hid,if_pos rfl]⟩
    · obtain ⟨hmem,hslot⟩ := h.pending fact hfact
      exact ⟨Or.inl hmem,(hold fact hmem).trans hslot⟩
  · refine List.nodup_cons.mpr ⟨?_,h.nodup⟩
    intro hmem
    obtain ⟨fact,hfact,hsame⟩ := List.mem_map.mp hmem
    exact hunresolved fact hfact hsame
  · rintro fact (hfact | rfl)
    · rw [hold fact hfact]
      exact (h.taken fact hfact).imp_left (List.mem_cons_of_mem _)
    · exact Or.inl (List.mem_cons_self ..)
  · intro id hvalid
    rw [hset id hvalid]
    split_ifs with hsame
    · subst hsame
      simp
    · rw [h.owned id hvalid]
      simp [Ne.symm hsame,or_imp,forall_and]
  · intro id hvalid
    rw [hset id hvalid,← h.excluded id hvalid]
    split_ifs with hsame
    · simp [hsame,hmissing]
    · rfl
  · intro id hvalid hend
    rw [hset id hvalid]
    split_ifs with hsame
    · simp
    unfold Accumulator.take at hend
    dsimp only at hend
    rw [setSlot_length,grow_length] at hend
    split_ifs at hend with hp
    · have hne : id.sequence ≠ pending.id.sequence := by
        intro hs
        exact hsame (by cases id; cases hpid : pending.id; simp_all)
      exact h.ends id hvalid (by rw [hp]; omega)
    · exact h.ends id hvalid hend
  · intro id value hvalid hchain
    rw [hset id hvalid] at hchain
    split_ifs at hchain with hsame
    exact (h.settled id value hvalid hchain).mono Set.subset_union_left (Set.Subset.refl _)
  · intro fact hfact
    obtain ⟨hmem,-⟩ := h.pending fact hfact
    have htoken : ∀ cause ∈ fact.causes, (a.take pending.id).token cause = none ↔
        a.token cause = none := by
      intro cause hcause
      have hcv := (h.identities fact hmem).2 cause hcause
      rw [token_eq_none_iff hcv,token_eq_none_iff hcv,hset cause hcv]
      by_cases hsame : cause = pending.id
      · simp [hsame,hmissing]
      · simp [hsame]
    obtain ⟨⟨cause,hcause,hnone⟩,hall⟩ := h.waiting fact hfact
    exact ⟨⟨cause,hcause,hnone.imp_left (htoken cause hcause).mpr⟩,
      fun cause hcause hnone => hall cause hcause (hnone.imp_left (htoken cause hcause).mp)⟩

end Exclude
section Run

lemma releaseOne_runId (state : Accumulator × List PendingFact) (id : CompactId) :
    (releaseOne state id).1.runId = state.1.runId := by
  unfold releaseOne
  split <;> rfl

lemma release_runId (state : Accumulator × List PendingFact) (cause : CompactId) :
    (release state cause).1.runId = state.1.runId := by
  have hfold : ∀ (ids : List CompactId) (s : Accumulator × List PendingFact),
      (ids.foldl releaseOne s).1.runId = s.1.runId := by
    intro ids
    induction ids with
    | nil => exact fun s => rfl
    | cons id ids ih => exact fun s => (ih _).trans (releaseOne_runId s id)
  exact hfold (state.1.waiting cause) state

lemma foldl_release_runId (causes : List CompactId) (state : Accumulator × List PendingFact) :
    (causes.foldl release state).1.runId = state.1.runId := by
  induction causes generalizing state with
  | nil => rfl
  | cons cause causes ih => exact (ih _).trans (release_runId state cause)

lemma defer_runId (fact : PendingFact) : (a.defer fact).runId = a.runId := by
  unfold defer
  split
  · rfl
  · obtain ⟨waiting,hfold,-⟩ :=
      foldl_register fact.id fact.causes { a with unresolved := a.unresolved ++ [fact] }
    rw [hfold]

lemma process_runId (ready : List PendingFact) : (a.process ready).runId = a.runId := by
  fun_induction process a ready with
  | case1 => rfl
  | case2 a current ready _ _ resolved published ih =>
    rw [ih]
    dsimp only [published]
    rw [publish_eq,release_runId,recorded_eq]
    dsimp only [resolved]
    rw [resolve_eq]
    rfl
  | case3 a current ready _ _ ih => rw [ih,defer_runId]
  | case4 => rfl

end Run

/-- What the accumulator holds after facts that it could take, with nothing left to process. -/
structure Holds (a : Accumulator) (runId : String) (facts : List Fact) : Prop where
  run : a.runId = runId
  waits : Waits a [] [] (consumed runId facts) (excluded runId facts)

lemma new_holds {runId : String} (h : runId ≠ "" ∧ runId.utf8ByteSize ≤ maxIdentityBytes) :
    Holds (new runId) runId [] where
  run := rfl
  waits := by
    have hitems : consumed runId [] = ∅ := by simp [consumed]
    have hgiven : excluded runId [] = ∅ := by simp [excluded]
    rw [hitems,hgiven]
    have hslot : ∀ id, (new runId).slot id = .missing := fun id => rfl
    refine ⟨by simp [new,h],by simp,⟨by simp,by simp⟩,by simp [new],by simp [pendingIds,new],by simp,
      by simp [hslot],by simp [hslot],?_,by simp [hslot],by simp [new,WaitsFor]⟩
    intro id hid hend
    have hlen : ((new runId).tokens id.producer).length = 0 := rfl
    have := hid.2.2
    omega

lemma consumed_append (runId : String) (facts : List Fact) (fact : Fact) :
    consumed runId (facts ++ [fact]) =
      consumed runId facts ∪ {pending | reading runId fact = .engine pending} := by
  ext pending
  simp [consumed,or_and_right,exists_or]

lemma excluded_append (runId : String) (facts : List Fact) (fact : Fact) :
    excluded runId (facts ++ [fact]) =
      excluded runId facts ∪ {id | ∃ first last, reading runId fact =
        .exclusion id.producer first last ∧ first ≤ id.sequence ∧ id.sequence ≤ last} := by
  ext id
  simp [excluded,or_and_right,exists_or]

lemma Holds.slot_missing_iff {runId : String} {facts : List Fact} (h : Holds a runId facts)
    {id : CompactId} (hid : id.Valid) : a.slot id = .missing ↔ id ∉ claimed runId facts := by
  rw [h.waits.owned id hid,mem_claimed]
  simp only [not_or,not_exists,not_and]
  tauto

/-- One more fact: it is taken exactly when it can be read and its identities are free. -/
lemma Holds.consume {runId : String} {facts : List Fact} (h : Holds a runId facts) (fact : Fact) :
    (Holds (a.consume hash fact) runId (facts ++ [fact]) ∧ reading runId fact ≠ .rejected ∧
        ∀ id ∈ (reading runId fact).claims, id ∉ claimed runId facts) ∨
      ((a.consume hash fact).valid = false ∧ ¬(reading runId fact ≠ .rejected ∧
        ∀ id ∈ (reading runId fact).claims, id ∉ claimed runId facts)) := by
  have hrun := h.run
  have hvalid := h.waits.valid
  cases hreading : reading runId fact with
  | rejected =>
    refine Or.inr ⟨consume_rejected hash hvalid (by rw [hrun,hreading]),fun hne => hne.1 rfl⟩
  | note =>
    obtain ⟨timeline,hconsume⟩ := consume_note hash hvalid (by rw [hrun,hreading])
    refine Or.inl ⟨⟨by rw [hconsume]; exact hrun,?_⟩,by simp,by simp [Reading.claims]⟩
    have hnoted : Waits { a with timeline, factCount := a.factCount + 1 } [] []
        (consumed runId facts) (excluded runId facts) := h.waits.congr rfl rfl rfl rfl
    rw [hconsume,consumed_append,excluded_append]
    simpa [hreading] using hnoted
  | exclusion producer first last =>
    have hbounds := reading_exclusion_valid runId hreading
    obtain ⟨exclusion,hproducer,rfl,rfl,hconsume⟩ :=
      consume_exclusion hash hvalid (by rw [hrun,hreading])
    rw [hconsume,exclude_eq hash hproducer hbounds.2.2.2.2]
    have hcounted : Waits { a with factCount := a.factCount + 1 } [] [] (consumed runId facts)
        (excluded runId facts) := h.waits.congr rfl rfl rfl rfl
    have hmissing : ∀ id ∈ (Reading.exclusion producer exclusion.sequenceFrom
        exclusion.sequenceTo).claims, a.slot id = .missing ↔ id ∉ claimed runId facts := by
      intro id hid
      rw [mem_interval] at hid
      exact h.slot_missing_iff ⟨by omega,by omega,by omega⟩
    obtain ⟨hiff,-⟩ := mark_spec { a with factCount := a.factCount + 1 } producer
      exclusion.sequenceTo hbounds.2.2.1
    dsimp only
    split_ifs with hok
    · left
      have hmarked := hcounted.mark ⟨hbounds.1,hbounds.2.1⟩ hbounds.2.2.1 hbounds.2.2.2.1 hok
      have hreleased := hmarked.release (hash.keys (a.factCount + 1) _)
        fun cause => (hash.perm _ _).mem_iff
      refine ⟨⟨?_,?_⟩,by simp,fun id hid => (hmissing id hid).mp (hiff.mp hok id hid)⟩
      · rw [process_runId,foldl_release_runId]
        exact hrun
      · rw [consumed_append,excluded_append]
        simp only [hreading,mem_interval] at hreleased ⊢
        have hgiven : {id : CompactId | ∃ first last, Reading.exclusion producer
              exclusion.sequenceFrom exclusion.sequenceTo = .exclusion id.producer first last ∧
              first ≤ id.sequence ∧ id.sequence ≤ last} =
            {id | id.producer = producer ∧ exclusion.sequenceFrom ≤ id.sequence ∧
              id.sequence ≤ exclusion.sequenceTo} := by
          ext id
          simp [eq_comm]
        rw [hgiven]
        simpa using hreleased.process
    · right
      refine ⟨rfl,fun hfree => hok (hiff.mpr fun id hid => ?_)⟩
      exact (hmissing id hid).mpr (hfree.2 id hid)
  | engine pending =>
    obtain ⟨hid,-,hcauses⟩ := reading_engine_valid runId hreading
    rcases consume_engine hash hvalid (by rw [hrun,hreading]) with
      ⟨htaken,hinvalid⟩ | ⟨hmissing,hconsume⟩
    · refine Or.inr ⟨hinvalid,fun hfree => htaken ?_⟩
      exact (h.slot_missing_iff hid).mpr (hfree.2 pending.id (by simp [Reading.claims]))
    · refine Or.inl ⟨⟨by rw [hconsume,process_runId]; exact hrun,?_⟩,by simp,?_⟩
      · rw [hconsume,consumed_append,excluded_append]
        have hprocessed := (h.waits.take hid hcauses hmissing).process
        simpa [hreading,eq_comm] using hprocessed
      · intro id hmem
        obtain rfl : id = pending.id := by simpa [Reading.claims] using hmem
        exact (h.slot_missing_iff hid).mp hmissing

/-- The facts of a run are taken one by one until one of them cannot be. -/
lemma consumeAll_holds (hash : HashOrder) (runId : String) (facts : List Fact)
    (hrun : runId ≠ "" ∧ runId.utf8ByteSize ≤ maxIdentityBytes) :
    (Holds ((new runId).consumeAll hash facts) runId facts ∧
        (∀ fact ∈ facts, reading runId fact ≠ .rejected) ∧ (claimed runId facts).Nodup) ∨
      (((new runId).consumeAll hash facts).valid = false ∧
        ¬((∀ fact ∈ facts, reading runId fact ≠ .rejected) ∧ (claimed runId facts).Nodup)) := by
  induction facts using List.reverseRecOn with
  | nil => exact Or.inl ⟨new_holds hrun,by simp,by simp [claimed]⟩
  | append_singleton facts fact ih =>
    have hlast : (new runId).consumeAll hash (facts ++ [fact]) =
        ((new runId).consumeAll hash facts).consume hash fact := by
      simp [consumeAll]
    have hclaimed : claimed runId (facts ++ [fact]) =
        claimed runId facts ++ (reading runId fact).claims := by simp [claimed]
    have hclaims : (reading runId fact).claims.Nodup := by
      cases reading runId fact with
      | rejected | note | engine => simp [Reading.claims]
      | exclusion producer first last =>
        refine List.Nodup.map ?_ List.nodup_range'
        intro s t hst
        simpa using hst
    have hnodup : (claimed runId (facts ++ [fact])).Nodup ↔ (claimed runId facts).Nodup ∧
        ∀ id ∈ (reading runId fact).claims, id ∉ claimed runId facts := by
      rw [hclaimed,List.nodup_append']
      simp only [hclaims,true_and,List.disjoint_right]
    have hreadings : (∀ other ∈ facts ++ [fact], reading runId other ≠ .rejected) ↔
        (∀ other ∈ facts, reading runId other ≠ .rejected) ∧ reading runId fact ≠ .rejected := by
      simp [or_imp,forall_and]
    rw [hlast,hnodup,hreadings]
    rcases ih with ⟨hholds,hall,hfree⟩ | ⟨hinvalid,hnot⟩
    · rcases hholds.consume hash fact with ⟨hnext,hread,hnew⟩ | ⟨hinvalid,hnot⟩
      · exact Or.inl ⟨hnext,⟨hall,hread⟩,hfree,hnew⟩
      · exact Or.inr ⟨hinvalid,fun h => hnot ⟨h.1.2,h.2.2⟩⟩
    · rw [consume_invalid hash hinvalid]
      exact Or.inr ⟨hinvalid,fun h => hnot ⟨h.1.1,h.2.1⟩⟩

/-- No slot is missing exactly when the taken sequences of every producer have no gap. -/
lemma Holds.sequencesComplete_iff {runId : String} {facts : List Fact} (h : Holds a runId facts) :
    a.sequencesComplete = true ↔ ∀ producer, ∃ last, ∀ sequence,
      ⟨producer,sequence⟩ ∈ claimed runId facts ↔ 1 ≤ sequence ∧ sequence ≤ last := by
  have hvalid : ∀ id ∈ claimed runId facts, id.Valid := by
    intro id hid
    obtain ⟨fact,-,hclaim⟩ := List.mem_flatMap.mp hid
    exact claims_valid runId id hclaim
  have hslots : a.sequencesComplete = true ↔ ∀ id : CompactId, id.Valid →
      id.sequence ≤ (a.tokens id.producer).length → a.slot id ≠ .missing := by
    simp only [sequencesComplete,List.all_eq_true,List.mem_range,decide_eq_true_eq]
    constructor
    · intro hall id hid hlen
      obtain ⟨hp,hp',hs⟩ := hid
      have hin : id.sequence - 1 < (a.tokens id.producer).length := by omega
      have hentry := hall (id.producer - 1) (by omega) (a.tokens id.producer)[id.sequence - 1]
        (by rw [Nat.sub_add_cancel hp]; exact List.getElem_mem hin)
      unfold slot
      rwa [List.getD_eq_getElem _ _ hin]
    · intro hall index hindex entry hentry
      obtain ⟨i,hi,rfl⟩ := List.mem_iff_getElem.mp hentry
      have hslot := hall ⟨index + 1,i + 1⟩ ⟨by simp,hindex,by simp⟩ hi
      unfold slot at hslot
      rwa [Nat.add_sub_cancel,List.getD_eq_getElem _ _ hi] at hslot
  rw [hslots]
  constructor
  · intro hfull producer
    by_cases hp : 1 ≤ producer ∧ producer ≤ producerSlots
    · refine ⟨(a.tokens producer).length,fun sequence => ⟨fun hmem => ?_,fun hs => ?_⟩⟩
      · have hid := hvalid _ hmem
        refine ⟨hid.2.2,?_⟩
        have hin := slot_in_table ((h.slot_missing_iff hid).not_left.mpr hmem)
        have := hid.2.2
        dsimp only at hin this
        omega
      · have hid : CompactId.Valid ⟨producer,sequence⟩ := ⟨hp.1,hp.2,hs.1⟩
        exact (h.slot_missing_iff hid).not_left.mp (hfull _ hid hs.2)
    · refine ⟨0,fun sequence => ⟨fun hmem => ?_,fun hs => by omega⟩⟩
      exact absurd ⟨(hvalid _ hmem).1,(hvalid _ hmem).2.1⟩ hp
  · intro hgap id hid hlen
    obtain ⟨last,hlast⟩ := hgap id.producer
    -- The last slot of the producer is taken, so every earlier sequence is.
    have hend : CompactId.Valid ⟨id.producer,(a.tokens id.producer).length⟩ :=
      ⟨hid.1,hid.2.1,hid.2.2.trans hlen⟩
    have htaken := (h.slot_missing_iff hend).not_left.mp (h.waits.ends _ hend rfl)
    have hbound := ((hlast _).mp htaken).2
    exact (h.slot_missing_iff hid).not_left.mpr ((hlast id.sequence).mpr ⟨hid.2.2,hlen.trans hbound⟩)

end Accumulator

/-- The facts of a run account for every sequence of their producers and for all their causes. -/
structure Accounted (runId : String) (facts : List Fact) : Prop where
  readable : ∀ fact ∈ facts, reading runId fact ≠ .rejected
  disjoint : (claimed runId facts).Nodup
  gapless : ∀ producer, ∃ last, ∀ sequence,
    ⟨producer,sequence⟩ ∈ claimed runId facts ↔ 1 ≤ sequence ∧ sequence ≤ last
  settled : ∀ fact ∈ consumed runId facts, ∀ cause ∈ fact.causes,
    Settlement.Settles dependencies (consumed runId facts) (excluded runId facts) cause

lemma settled_iff {items : Set PendingFact} {given : Set CompactId}
    (hdistinct : Settlement.Distinct dependencies items given) :
    (∀ fact ∈ items, Settlement.Settles dependencies items given fact.id) ↔
      ∀ fact ∈ items, ∀ cause ∈ fact.causes, Settlement.Settles dependencies items given cause := by
  refine forall₂_congr fun fact hfact => ⟨fun h => ?_,fun h => .item hfact h⟩
  generalize hid : fact.id = id at h
  cases h with
  | given hgiven =>
    subst hid
    exact absurd hgiven (hdistinct.given fact hfact)
  | @item other hother causes =>
    obtain rfl := hdistinct.id fact hfact other hother hid
    exact causes

/-- The accumulator takes and publishes everything, with no gap, exactly for a run that is accounted
for. -/
lemma consumeAll_complete_iff (hash : HashOrder) (runId : String) (facts : List Fact) :
    (((Accumulator.new runId).consumeAll hash facts).valid = true ∧
        ((Accumulator.new runId).consumeAll hash facts).sequencesComplete = true ∧
        ((Accumulator.new runId).consumeAll hash facts).unresolved = []) ↔
      (runId ≠ "" ∧ runId.utf8ByteSize ≤ maxIdentityBytes) ∧ Accounted runId facts := by
  by_cases hrun : runId ≠ "" ∧ runId.utf8ByteSize ≤ maxIdentityBytes
  · rcases Accumulator.consumeAll_holds hash runId facts hrun with
      ⟨hholds,hread,hdisjoint⟩ | ⟨hinvalid,hnot⟩
    · rw [hholds.sequencesComplete_iff,hholds.waits.unresolved_nil_iff,
        settled_iff hholds.waits.distinct]
      exact ⟨fun h => ⟨hrun,hread,hdisjoint,h.2.1,h.2.2⟩,
        fun h => ⟨hholds.waits.valid,h.2.gapless,h.2.settled⟩⟩
    · rw [hinvalid]
      exact ⟨fun h => (nomatch h.1),fun h => absurd ⟨h.2.readable,h.2.disjoint⟩ hnot⟩
  · have hnew := Accumulator.new_invalid hrun
    have hinvalid : ((Accumulator.new runId).consumeAll hash facts).valid = false := by
      rw [Accumulator.consumeAll_invalid hash hnew,hnew]
    rw [hinvalid]
    exact ⟨fun h => (nomatch h.1),fun h => absurd h.1 hrun⟩

lemma summary_lossFree_iff {hash : HashOrder} {runId : String} {facts : List Fact}
    {transportLossFree : Bool} :
    (traceSummary hash runId facts transportLossFree).lossFree = true ↔
      transportLossFree = true ∧ ((Accumulator.new runId).consumeAll hash facts).valid = true ∧
        ((Accumulator.new runId).consumeAll hash facts).sequencesComplete = true ∧
        ((Accumulator.new runId).consumeAll hash facts).unresolved = [] := by
  simp [traceSummary,Accumulator.summarize,and_assoc]

lemma accounted_of_lossFree {hash : HashOrder} {runId : String} {facts : List Fact}
    {transportLossFree : Bool} (h : (traceSummary hash runId facts transportLossFree).lossFree = true) :
    (runId ≠ "" ∧ runId.utf8ByteSize ≤ maxIdentityBytes) ∧ Accounted runId facts :=
  (consumeAll_complete_iff hash runId facts).mp (summary_lossFree_iff.mp h).2

lemma lossFree_of_accounted (hash : HashOrder) {runId : String} {facts : List Fact}
    (hrun : runId ≠ "" ∧ runId.utf8ByteSize ≤ maxIdentityBytes) (haccounted : Accounted runId facts) :
    (traceSummary hash runId facts true).lossFree = true :=
  summary_lossFree_iff.mpr ⟨rfl,(consumeAll_complete_iff hash runId facts).mpr ⟨hrun,haccounted⟩⟩

/-- The accumulator judges a run free of loss exactly when its transport lost nothing, its
identity is one of a run, and its facts account for every sequence and cause. -/
theorem traceSummary_lossFree_iff (hash : HashOrder) (runId : String) (facts : List Fact)
    (transportLossFree : Bool) :
    (traceSummary hash runId facts transportLossFree).lossFree = true ↔
      transportLossFree = true ∧ (runId ≠ "" ∧ runId.utf8ByteSize ≤ maxIdentityBytes) ∧
        Accounted runId facts := by
  rw [summary_lossFree_iff,consumeAll_complete_iff]

/-- One fact of an Engine producer, of run `r`, without an occurrence. -/
def plainFact (producer : String) (sequence : ℕ) (kind : String) (causes : List FactId) : Fact :=
  { id := ⟨"r",producer,sequence⟩, kind, causeIds := causes.map .fact }

/-- One fact of the first Engine producer, of run `r`, about an occurrence. -/
def playbackFact (occurrence : String) (sequence : ℕ) (kind : String) (causes : List ℕ) : Fact :=
  { plainFact "engine-1" sequence kind (causes.map fun cause => ⟨"r","engine-1",cause⟩) with
    occurrenceId := ⟨.known,some occurrence,""⟩ }

/-- An empty run identity is never free of loss; the sequences of inspection facts have no upper
bound; and a cause that an output span does not wait for must still belong to the run. -/
theorem lossFree_guards :
    ¬((traceSummary .ascending "" [] true).lossFree = true ↔ Accounted "" []) ∧
      (traceSummary .ascending "r" [plainFact "inspection" 10000001 "inspection_event" []]
        true).lossFree = true ∧
      (traceSummary .ascending "r" [plainFact "engine-1" 1 "main_mix_output_span"
        [⟨"other","engine-7",1⟩]] true).lossFree = false := by
  refine ⟨?_,by decide +kernel,by decide +kernel⟩
  have hempty : Accounted "" [] := ⟨by simp,by simp [claimed],fun _ => ⟨0,by simp [claimed]; omega⟩,
    by simp [consumed]⟩
  intro h
  exact absurd (h.mpr hempty) (by decide +kernel)

end AytherRuntime.Trace
