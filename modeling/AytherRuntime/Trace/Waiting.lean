import AytherRuntime.Trace.Reading
import Mathlib.Data.List.GetD
import Mathlib.Data.List.Nodup

/-! How facts wait and are released: every pending fact stays registered under each cause that it
still misses, so publishing or excluding a cause wakes exactly the facts that named it. -/
namespace AytherRuntime.Trace
namespace Accumulator
variable {a : Accumulator}

section Slots

lemma CompactId.ext_sequence {id id' : CompactId} (hid : id.Valid) (hid' : id'.Valid) :
    id' = id ↔ id'.producer = id.producer ∧ id'.sequence - 1 = id.sequence - 1 := by
  have h := hid.2.2
  have h' := hid'.2.2
  constructor
  · rintro rfl
    exact ⟨rfl,rfl⟩
  · rintro ⟨hp,hs⟩
    cases id
    cases id'
    simp only [CompactId.mk.injEq] at *
    omega

lemma token_eq_none_iff {id : CompactId} (hid : id.Valid) :
    a.token id = none ↔ a.slot id = .missing ∨ a.slot id = .unresolved := by
  obtain ⟨hp,hp',hs⟩ := hid
  have hcond : ¬(id.producer = 0 ∨ producerSlots < id.producer ∨ id.sequence = 0) := by omega
  unfold token
  rw [if_neg hcond]
  cases a.slot id <;> simp

/-- A slot outside the table reads as missing. -/
lemma slot_in_table {id : CompactId} (h : a.slot id ≠ .missing) :
    id.sequence - 1 < (a.tokens id.producer).length := by
  by_contra hlen
  exact h (List.getD_eq_default _ _ (Nat.le_of_not_lt hlen))

lemma slot_setSlot {id id' : CompactId} (slot : Slot) (hid : id.Valid) (hid' : id'.Valid)
    (htable : id.sequence - 1 < (a.tokens id.producer).length) :
    (a.setSlot id slot).slot id' = if id' = id then slot else a.slot id' := by
  rw [if_congr (CompactId.ext_sequence hid hid') rfl rfl]
  unfold Accumulator.slot setSlot
  dsimp only
  by_cases hp : id'.producer = id.producer
  · rw [hp,Function.update_self]
    by_cases hs : id'.sequence - 1 = id.sequence - 1
    · simp [hs,List.getD_eq_getElem?_getD,htable]
    · simp [hs,List.getD_eq_getElem?_getD,List.getElem?_set_ne (Ne.symm hs)]
  · simp [hp]

lemma setSlot_length (id : CompactId) (slot : Slot) (producer : ℕ) :
    ((a.setSlot id slot).tokens producer).length = (a.tokens producer).length := by
  unfold setSlot
  by_cases hp : producer = id.producer
  · subst hp; simp
  · simp [hp]

lemma getD_growSlots (slots : List Slot) (size index : ℕ) :
    (growSlots slots size).getD index .missing = slots.getD index .missing := by
  unfold growSlots
  by_cases h : index < slots.length
  · rw [List.getD_append _ _ _ _ h]
  · rw [List.getD_append_right _ _ _ _ (Nat.le_of_not_lt h),List.getD_eq_default _ _ (Nat.le_of_not_lt h)]
    by_cases hi : index - slots.length < size - slots.length
    · simp [List.getD_eq_getElem?_getD,hi]
    · simp [List.getD_eq_getElem?_getD,hi]

@[simp] lemma growSlots_length (slots : List Slot) (size : ℕ) :
    (growSlots slots size).length = max slots.length size := by
  simp only [growSlots,List.length_append,List.length_replicate]
  omega

@[simp] lemma slot_grow (producer sequence : ℕ) (id : CompactId) :
    (a.grow producer sequence).slot id = a.slot id := by
  unfold Accumulator.slot grow
  by_cases hp : id.producer = producer
  · subst hp
    simp only [Function.update_self,getD_growSlots]
  · simp only [Function.update_of_ne hp]

lemma grow_length (producer sequence other : ℕ) :
    ((a.grow producer sequence).tokens other).length =
      if other = producer then max (a.tokens producer).length sequence
      else (a.tokens other).length := by
  unfold grow
  split_ifs with hp
  · subst hp; simp
  · simp [hp]

end Slots

section Frames

/-- Resolving a fact can add one chain and changes nothing else. -/
lemma resolve_eq (fact : PendingFact) :
    (a.resolve fact).1 = { a with chains := (a.resolve fact).1.chains } := by
  unfold resolve
  dsimp only
  split <;> try split
  all_goals rfl

lemma registerStage_eq (value : ℕ) :
    a.registerStage value = { a with effects := (a.registerStage value).effects,
                                     mixes := (a.registerStage value).mixes } := by
  unfold registerStage
  dsimp only
  split
  · rfl
  · split <;> rfl

lemma rememberComplete_eq (request : ℕ) :
    a.rememberComplete request = { a with complete := (a.rememberComplete request).complete } := by
  unfold rememberComplete
  split
  · rfl
  · split <;> rfl

/-- What publishing a value records of the request it belongs to. -/
def recorded (a : Accumulator) (value : ℕ) : Accumulator :=
  if value = 0 then a
  else
    let a := a.registerStage value
    let request := (a.chainAt value).requestToken
    if request = 0 then a else a.rememberComplete request

lemma publish_eq (fact : PendingFact) (value : ℕ) (ready : List PendingFact) :
    a.publish fact value ready = release ((a.setSlot fact.id (.chain value)).recorded value,ready) fact.id :=
  rfl

lemma recorded_eq (value : ℕ) :
    a.recorded value = { a with effects := (a.recorded value).effects,
                                mixes := (a.recorded value).mixes,
                                complete := (a.recorded value).complete } := by
  unfold recorded
  split
  · rfl
  · dsimp only
    split
    · rw [registerStage_eq]
    · rw [rememberComplete_eq,registerStage_eq]

end Frames

section Release

/-- The facts still to be published, by their identities. -/
def pendingIds (state : Accumulator × List PendingFact) : List CompactId :=
  (state.2 ++ state.1.unresolved).map PendingFact.id

lemma perm_cons_filter {facts : List PendingFact} {fact : PendingFact}
    (hnodup : (facts.map PendingFact.id).Nodup) (hmem : fact ∈ facts) :
    (fact :: facts.filter fun other => other.id ≠ fact.id).Perm facts := by
  have hfilter : (facts.filter fun other => other.id ≠ fact.id) = facts.erase fact := by
    rw [(List.Nodup.of_map _ hnodup).erase_eq_filter]
    refine List.filter_congr fun other hother => ?_
    have hinj : other.id = fact.id ↔ other = fact :=
      ⟨List.inj_on_of_nodup_map hnodup hother hmem,congrArg _⟩
    by_cases hsame : other = fact <;> simp [hinj,hsame]
  rw [hfilter]
  exact (List.perm_cons_erase hmem).symm

lemma releaseOne_spec (state : Accumulator × List PendingFact) (id : CompactId)
    (hnodup : (state.1.unresolved.map PendingFact.id).Nodup) :
    (releaseOne state id).1 = { state.1 with
        unresolved := state.1.unresolved.filter fun fact => fact.id ≠ id } ∧
      ((releaseOne state id).2 ++ (releaseOne state id).1.unresolved).Perm
        (state.2 ++ state.1.unresolved) := by
  unfold releaseOne
  split
  · rename_i fact hfind
    have hmem : fact ∈ state.1.unresolved := List.mem_of_find?_eq_some hfind
    obtain rfl : fact.id = id := by simpa using List.find?_some hfind
    refine ⟨rfl,?_⟩
    rw [List.append_assoc]
    exact (perm_cons_filter hnodup hmem).append_left state.2
  · rename_i hfind
    have hnone : ∀ fact ∈ state.1.unresolved, fact.id ≠ id := by
      simpa using List.find?_eq_none.mp hfind
    refine ⟨?_,.refl _⟩
    rw [List.filter_eq_self.mpr (by simpa using hnone)]

/-- Releasing some identities moves their facts to the ready ones and loses none. -/
lemma foldl_releaseOne_spec (ids : List CompactId) (state : Accumulator × List PendingFact)
    (hnodup : (state.1.unresolved.map PendingFact.id).Nodup) :
    (ids.foldl releaseOne state).1 = { state.1 with
        unresolved := state.1.unresolved.filter fun fact => fact.id ∉ ids } ∧
      ((ids.foldl releaseOne state).2 ++ (ids.foldl releaseOne state).1.unresolved).Perm
        (state.2 ++ state.1.unresolved) := by
  induction ids generalizing state with
  | nil => exact ⟨by simp,.refl _⟩
  | cons id ids ih =>
    obtain ⟨hone,hperm⟩ := releaseOne_spec state id hnodup
    have hrest : ((releaseOne state id).1.unresolved.map PendingFact.id).Nodup := by
      rw [hone]
      exact hnodup.sublist (List.filter_sublist.map _)
    obtain ⟨hall,hperm'⟩ := ih (releaseOne state id) hrest
    refine ⟨?_,hperm'.trans hperm⟩
    rw [List.foldl_cons,hall,hone]
    simp only [List.filter_filter,List.mem_cons,not_or]
    congr 1
    exact List.filter_congr fun fact _ => by simp [Bool.and_comm]

/-- Releasing some causes wakes every fact registered under one of them and loses none. -/
lemma foldl_release_spec (causes : List CompactId) (state : Accumulator × List PendingFact)
    (hnodup : (state.1.unresolved.map PendingFact.id).Nodup) :
    (causes.foldl release state).1 = { state.1 with
        unresolved := state.1.unresolved.filter fun fact =>
          ∀ cause ∈ causes, fact.id ∉ state.1.waiting cause
        waiting := fun cause => if cause ∈ causes then [] else state.1.waiting cause } ∧
      ((causes.foldl release state).2 ++ (causes.foldl release state).1.unresolved).Perm
        (state.2 ++ state.1.unresolved) := by
  induction causes generalizing state with
  | nil => exact ⟨by simp,.refl _⟩
  | cons cause causes ih =>
    obtain ⟨hone,hperm⟩ := foldl_releaseOne_spec (state.1.waiting cause) state hnodup
    have hstep : (release state cause).1 = { state.1 with
        unresolved := state.1.unresolved.filter fun fact => fact.id ∉ state.1.waiting cause
        waiting := Function.update state.1.waiting cause [] } := by
      unfold release
      dsimp only
      rw [hone]
    have hstepPerm : ((release state cause).2 ++ (release state cause).1.unresolved).Perm
        (state.2 ++ state.1.unresolved) := hperm
    have hrest : ((release state cause).1.unresolved.map PendingFact.id).Nodup := by
      rw [hstep]
      exact hnodup.sublist (List.filter_sublist.map _)
    obtain ⟨hall,hperm'⟩ := ih (release state cause) hrest
    refine ⟨?_,hperm'.trans hstepPerm⟩
    rw [List.foldl_cons,hall,hstep]
    simp only [List.filter_filter,List.forall_mem_cons]
    congr 1
    · refine List.filter_congr fun fact _ => ?_
      by_cases hfact : fact.id ∈ state.1.waiting cause
      · simp [hfact]
      · simp only [hfact,not_false_eq_true,decide_true,Bool.and_true,true_and]
        congr 1
        refine propext (forall₂_congr fun other _ => ?_)
        by_cases hother : other = cause
        · subst hother; simp [hfact]
        · rw [Function.update_of_ne hother]
    · funext other
      by_cases hother : other = cause
      · simp [hother]
      · simp [hother]

end Release
section Defer

/-- Registering a fact under the causes it misses. -/
lemma foldl_register (id : CompactId) (causes : List CompactId) (a : Accumulator) :
    ∃ waiting, causes.foldl (fun a cause => if (a.token cause).isSome then a
        else { a with waiting := Function.update a.waiting cause (a.waiting cause ++ [id]) }) a =
        { a with waiting } ∧
      (∀ cause, a.waiting cause ⊆ waiting cause) ∧
      ∀ cause ∈ causes, a.token cause = none → id ∈ waiting cause := by
  induction causes generalizing a with
  | nil => exact ⟨a.waiting,rfl,fun _ => List.Subset.refl _,by simp⟩
  | cons cause causes ih =>
    rw [List.foldl_cons]
    split_ifs with hknown
    · obtain ⟨waiting,hfold,hkeep,hnew⟩ := ih a
      refine ⟨waiting,hfold,hkeep,?_⟩
      intro other hother hnone
      rcases List.mem_cons.mp hother with rfl | hother
      · simp [hnone] at hknown
      · exact hnew other hother hnone
    · obtain ⟨waiting,hfold,hkeep,hnew⟩ := ih
        { a with waiting := Function.update a.waiting cause (a.waiting cause ++ [id]) }
      have hgrown : ∀ other, a.waiting other ⊆
          Function.update a.waiting cause (a.waiting cause ++ [id]) other := by
        intro other
        by_cases hother : other = cause
        · subst hother; simp
        · simp [hother]
      refine ⟨waiting,hfold,fun other => List.Subset.trans (hgrown other) (hkeep other),?_⟩
      intro other hother hnone
      rcases List.mem_cons.mp hother with rfl | hother
      · exact hkeep other (by simp)
      · exact hnew other hother hnone

lemma defer_spec {fact : PendingFact} (hnew : ∀ other ∈ a.unresolved, other.id ≠ fact.id) :
    ∃ waiting, a.defer fact = { a with unresolved := a.unresolved ++ [fact], waiting } ∧
      (∀ cause, a.waiting cause ⊆ waiting cause) ∧
      ∀ cause ∈ fact.causes, a.token cause = none → fact.id ∈ waiting cause := by
  have hany : ¬(a.unresolved.any fun other => other.id = fact.id) = true := by
    simpa using hnew
  unfold defer
  rw [if_neg hany]
  exact foldl_register fact.id fact.causes { a with unresolved := a.unresolved ++ [fact] }

end Defer

section Invariant
variable {ready : List PendingFact} {items : Set PendingFact} {given : Set CompactId}

/-- Every waiting fact misses a cause, or has one among those being settled, and is registered
under all of these. -/
def WaitsFor (a : Accumulator) (settling : List CompactId) : Prop :=
  ∀ fact ∈ a.unresolved, (∃ cause ∈ fact.causes, a.token cause = none ∨ cause ∈ settling) ∧
    ∀ cause ∈ fact.causes, a.token cause = none ∨ cause ∈ settling → fact.id ∈ a.waiting cause

/-- The table, the ready facts and the waiting ones, between two steps of `process`: `items` are
the facts taken so far, `given` the excluded identities, and the facts that wait for `settling`
are still to be released. -/
structure Waits (a : Accumulator) (ready : List PendingFact) (settling : List CompactId)
    (items : Set PendingFact) (given : Set CompactId) : Prop where
  valid : a.valid = true
  identities : ∀ fact ∈ items, fact.id.Valid ∧ ∀ cause ∈ fact.causes, cause.Valid
  distinct : Settlement.Distinct dependencies items given
  pending : ∀ fact ∈ ready ++ a.unresolved, fact ∈ items ∧ a.slot fact.id = .unresolved
  nodup : (pendingIds (a,ready)).Nodup
  taken : ∀ fact ∈ items, fact ∈ ready ++ a.unresolved ∨ ∃ value, a.slot fact.id = .chain value
  owned : ∀ id : CompactId, id.Valid → (a.slot id = .missing ↔
    id ∉ given ∧ ∀ fact ∈ items, fact.id ≠ id)
  excluded : ∀ id : CompactId, id.Valid → (a.slot id = .excluded ↔ id ∈ given)
  ends : ∀ id : CompactId, id.Valid → id.sequence = (a.tokens id.producer).length →
    a.slot id ≠ .missing
  settled : ∀ (id : CompactId) value, id.Valid → a.slot id = .chain value →
    Settlement.Settles dependencies items given id
  waiting : a.WaitsFor settling

variable {settling : List CompactId}

lemma Waits.unresolved_nodup (h : Waits a ready settling items given) :
    (a.unresolved.map PendingFact.id).Nodup := by
  have hnodup := h.nodup
  rw [pendingIds,List.map_append] at hnodup
  exact hnodup.of_append_right

/-- A known token belongs to an identity that settles. -/
lemma Waits.settles (h : Waits a ready settling items given) {id : CompactId} (hid : id.Valid)
    (hknown : a.token id ≠ none) : Settlement.Settles dependencies items given id := by
  rw [Ne,token_eq_none_iff hid,not_or] at hknown
  cases hslot : a.slot id with
  | missing => exact absurd hslot hknown.1
  | unresolved => exact absurd hslot hknown.2
  | excluded => exact .given ((h.excluded id hid).mp hslot)
  | chain value => exact h.settled id value hid hslot

lemma Waits.defer {current : PendingFact} (h : Waits a (current :: ready) [] items given)
    (hwaits : a.allCausesResolved current = false) :
    Waits (a.defer current) ready [] items given := by
  have hnodup := h.nodup
  have hperm : (ready ++ (a.unresolved ++ [current])).Perm (current :: ready ++ a.unresolved) := by
    rw [← List.append_assoc]
    exact List.perm_append_singleton current _
  have hnew : ∀ other ∈ a.unresolved, other.id ≠ current.id := by
    intro other hother hsame
    simp only [pendingIds,List.cons_append,List.map_cons,List.nodup_cons,List.map_append] at hnodup
    exact hnodup.1 (List.mem_append_right _ (hsame ▸ List.mem_map_of_mem hother))
  obtain ⟨waiting,hdefer,hkeep,hregistered⟩ := defer_spec hnew
  rw [hdefer]
  refine ⟨h.valid,h.identities,h.distinct,?_,?_,?_,h.owned,h.excluded,h.ends,h.settled,?_⟩
  · exact fun fact hfact => h.pending fact (hperm.mem_iff.mp hfact)
  · exact (hperm.map PendingFact.id).nodup_iff.mpr hnodup
  · exact fun fact hfact => (h.taken fact hfact).imp_left hperm.mem_iff.mpr
  · intro fact hfact
    rcases List.mem_append.mp hfact with hfact | hfact
    · obtain ⟨hmisses,hall⟩ := h.waiting fact hfact
      exact ⟨hmisses,fun cause hcause hnone => hkeep cause (hall cause hcause hnone)⟩
    · obtain rfl := List.mem_singleton.mp hfact
      obtain ⟨cause,hcause,hnone⟩ : ∃ cause ∈ fact.causes, a.token cause = none := by
        simpa [allCausesResolved] using hwaits
      refine ⟨⟨cause,hcause,Or.inl hnone⟩,?_⟩
      intro other hother hnone
      exact hregistered other hother (hnone.resolve_right (by simp))

/-- Once their facts are released, nothing waits for the settled causes. -/
lemma Waits.release (h : Waits a ready settling items given) (causes : List CompactId)
    (hcauses : ∀ cause, cause ∈ causes ↔ cause ∈ settling) :
    Waits (causes.foldl release (a,ready)).1 (causes.foldl release (a,ready)).2 [] items given := by
  obtain ⟨hstate,hperm⟩ := foldl_release_spec causes (a,ready) h.unresolved_nodup
  generalize causes.foldl Accumulator.release (a,ready) = state at hstate hperm
  obtain ⟨b,ready'⟩ := state
  dsimp only at hstate hperm
  subst hstate
  refine ⟨h.valid,h.identities,h.distinct,?_,?_,?_,h.owned,h.excluded,h.ends,h.settled,?_⟩
  · exact fun fact hfact => h.pending fact (hperm.mem_iff.mp hfact)
  · exact (hperm.map PendingFact.id).nodup_iff.mpr h.nodup
  · exact fun fact hfact => (h.taken fact hfact).imp_left hperm.mem_iff.mpr
  · intro fact hfact
    obtain ⟨hfact,hfree⟩ := List.mem_filter.mp hfact
    obtain ⟨⟨cause,hcause,hmisses⟩,hall⟩ := h.waiting fact hfact
    simp only [decide_eq_true_eq] at hfree
    -- A settling cause would have this fact among the released ones.
    have hother : ∀ other ∈ fact.causes, other ∉ causes := by
      intro other hother hmem
      exact hfree other hmem (hall other hother (Or.inr ((hcauses other).mp hmem)))
    have hnone := hmisses.resolve_right fun hs => hother cause hcause ((hcauses cause).mpr hs)
    refine ⟨⟨cause,hcause,Or.inl hnone⟩,?_⟩
    intro other hmem hmissing
    change fact.id ∈ (if other ∈ causes then [] else a.waiting other)
    rw [if_neg (hother other hmem)]
    exact hall other hmem (Or.inl (hmissing.resolve_right (by simp)))

/-- A fact whose causes are all known takes its chain, and its own dependents are to be woken. -/
lemma Waits.settle {current : PendingFact} (h : Waits a (current :: ready) [] items given)
    (hready : a.allCausesResolved current = true) (value : ℕ) :
    Waits (a.setSlot current.id (.chain value)) ready [current.id] items given := by
  obtain ⟨hitem,hslot⟩ := h.pending current (List.mem_cons_self ..)
  have hid := (h.identities current hitem).1
  have htable := slot_in_table (by rw [hslot]; simp : a.slot current.id ≠ .missing)
  have hset : ∀ id : CompactId, id.Valid → (a.setSlot current.id (.chain value)).slot id =
      if id = current.id then .chain value else a.slot id :=
    fun id hvalid => slot_setSlot _ hid hvalid htable
  have hnodup := h.nodup
  simp only [pendingIds,List.cons_append,List.map_cons,List.nodup_cons] at hnodup
  have hne : ∀ fact ∈ ready ++ a.unresolved, fact.id ≠ current.id :=
    fun fact hfact hsame => hnodup.1 (hsame ▸ List.mem_map_of_mem hfact)
  have hcauses : ∀ cause ∈ current.causes, a.token cause ≠ none := by
    simpa [allCausesResolved,Option.isSome_iff_ne_none] using hready
  refine ⟨h.valid,h.identities,h.distinct,?_,hnodup.2,?_,?_,?_,?_,?_,?_⟩
  · intro fact hfact
    obtain ⟨hmem,hunresolved⟩ := h.pending fact (List.mem_cons_of_mem _ hfact)
    exact ⟨hmem,by rw [hset _ (h.identities fact hmem).1,if_neg (hne fact hfact),hunresolved]⟩
  · intro fact hfact
    rw [hset _ (h.identities fact hfact).1]
    split_ifs with hsame
    · exact Or.inr ⟨value,rfl⟩
    · rcases h.taken fact hfact with hmem | hchain
      · exact Or.inl ((List.mem_cons.mp hmem).resolve_left fun heq => hsame (heq ▸ rfl))
      · exact Or.inr hchain
  · intro id hvalid
    rw [hset id hvalid,← h.owned id hvalid]
    split_ifs with hsame
    · simp [hsame,hslot]
    · rfl
  · intro id hvalid
    rw [hset id hvalid,← h.excluded id hvalid]
    split_ifs with hsame
    · simp [hsame,hslot]
    · rfl
  · intro id hvalid hlast
    rw [setSlot_length] at hlast
    rw [hset id hvalid]
    split_ifs with hsame
    · simp
    · exact h.ends id hvalid hlast
  · intro id chain hvalid hchain
    rw [hset id hvalid] at hchain
    split_ifs at hchain with hsame
    · subst hsame
      exact .item hitem fun cause hcause =>
        h.settles ((h.identities current hitem).2 cause hcause) (hcauses cause hcause)
    · exact h.settled id chain hvalid hchain
  · intro fact hfact
    obtain ⟨hmem,-⟩ := h.pending fact (List.mem_append_right _ hfact)
    have htoken : ∀ cause ∈ fact.causes,
        ((a.setSlot current.id (.chain value)).token cause = none ∨ cause ∈ [current.id]) ↔
          a.token cause = none ∨ cause ∈ ([] : List CompactId) := by
      intro cause hcause
      have hvalid := (h.identities fact hmem).2 cause hcause
      rw [token_eq_none_iff hvalid,token_eq_none_iff hvalid,hset cause hvalid]
      by_cases hsame : cause = current.id
      · simp [hsame,hslot]
      · simp [hsame]
    obtain ⟨⟨cause,hcause,hnone⟩,hall⟩ := h.waiting fact hfact
    exact ⟨⟨cause,hcause,(htoken cause hcause).mpr hnone⟩,
      fun cause hcause hnone => hall cause hcause ((htoken cause hcause).mp hnone)⟩

/-- The invariant reads the table, the waiting facts and the validity alone. -/
lemma Waits.congr {b : Accumulator} (h : Waits a ready settling items given)
    (htokens : b.tokens = a.tokens) (hunresolved : b.unresolved = a.unresolved)
    (hwaiting : b.waiting = a.waiting) (hvalid : b.valid = a.valid) :
    Waits b ready settling items given := by
  cases a
  cases b
  dsimp only at htokens hunresolved hwaiting hvalid
  subst htokens hunresolved hwaiting hvalid
  exact ⟨h.valid,h.identities,h.distinct,h.pending,h.nodup,h.taken,h.owned,h.excluded,h.ends,
    h.settled,h.waiting⟩

lemma Waits.publish {current : PendingFact} (h : Waits a (current :: ready) [] items given)
    (hready : a.allCausesResolved current = true) :
    let published := (a.resolve current).1.publish current (a.resolve current).2 ready
    Waits published.1 published.2 [] items given := by
  intro published
  have hresolved : Waits (a.resolve current).1 (current :: ready) [] items given := by
    rw [resolve_eq]
    exact h.congr rfl rfl rfl rfl
  have hknown : (a.resolve current).1.allCausesResolved current = true := by
    rw [resolve_eq]
    exact hready
  have hsettled := hresolved.settle hknown (a.resolve current).2
  have hrecorded : Waits (((a.resolve current).1.setSlot current.id
      (.chain (a.resolve current).2)).recorded (a.resolve current).2) ready [current.id] items given := by
    rw [recorded_eq]
    exact hsettled.congr rfl rfl rfl rfl
  have hreleased := hrecorded.release [current.id] (by simp)
  rwa [List.foldl_cons,List.foldl_nil,← publish_eq] at hreleased

/-- The induction rule of `process`, for an invariant that keeps the accumulator valid. -/
lemma process_rule {P : Accumulator → List PendingFact → Prop}
    (hvalid : ∀ a ready, P a ready → a.valid = true)
    (hpublish : ∀ a current ready, P a (current :: ready) → a.allCausesResolved current = true →
      P ((a.resolve current).1.publish current (a.resolve current).2 ready).1
        ((a.resolve current).1.publish current (a.resolve current).2 ready).2)
    (hdefer : ∀ a current ready, P a (current :: ready) → a.allCausesResolved current = false →
      P (a.defer current) ready)
    {a : Accumulator} {ready : List PendingFact} (h : P a ready) : P (a.process ready) [] := by
  fun_induction process a ready with
  | case1 => exact h
  | case2 a current ready _ hknown _ _ ih => exact ih (hpublish a current ready h hknown)
  | case3 a current ready _ hknown ih =>
    exact ih (hdefer a current ready h (by simpa using hknown))
  | case4 a current ready hinvalid => exact absurd (hvalid _ _ h) hinvalid

lemma Waits.process (h : Waits a ready [] items given) :
    Waits (a.process ready) [] [] items given :=
  process_rule (P := fun a ready => Waits a ready [] items given) (fun _ _ h => h.valid)
    (fun _ _ _ h hknown => h.publish hknown) (fun _ _ _ h hwaits => h.defer hwaits) h

/-- When nothing is ready, the facts still waiting are those that do not settle. -/
lemma Waits.unresolved_nil_iff (h : Waits a [] [] items given) :
    a.unresolved = [] ↔ ∀ fact ∈ items, Settlement.Settles dependencies items given fact.id := by
  constructor
  · intro hnil fact hfact
    obtain ⟨value,hvalue⟩ := (h.taken fact hfact).resolve_left (by simp [hnil])
    exact h.settled fact.id value (h.identities fact hfact).1 hvalue
  · intro hall
    -- Along the settlement every token is known, so no waiting fact misses a cause.
    have hknown : ∀ id, Settlement.Settles dependencies items given id → id.Valid →
        a.token id ≠ none := by
      intro id hsettles
      induction hsettles with
      | @given id hid =>
        intro hvalid
        rw [Ne,token_eq_none_iff hvalid,(h.excluded id hvalid).mpr hid]
        simp
      | @item fact hfact causes ih =>
        intro hvalid
        rcases h.taken fact hfact with hmem | ⟨value,hvalue⟩
        · obtain ⟨⟨cause,hcause,hnone⟩,-⟩ := h.waiting fact hmem
          exact absurd (hnone.resolve_right (by simp))
            (ih cause hcause ((h.identities fact hfact).2 cause hcause))
        · change a.slot (dependencies.id fact) = _ at hvalue
          rw [Ne,token_eq_none_iff hvalid,hvalue]
          simp
    by_contra hne
    obtain ⟨fact,hfact⟩ := List.exists_mem_of_ne_nil _ hne
    obtain ⟨hitem,hslot⟩ := h.pending fact hfact
    have hvalid := (h.identities fact hitem).1
    exact hknown fact.id (hall fact hitem) hvalid ((token_eq_none_iff hvalid).mpr (Or.inr hslot))

end Invariant
end Accumulator
end AytherRuntime.Trace
