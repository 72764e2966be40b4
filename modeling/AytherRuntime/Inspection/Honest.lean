import AytherRuntime.Inspection.Withheld
import AytherRuntime.Trace.Arrival

/-! When the intervals that a take declares are exactly what its gate withheld, so that its trace is
free of loss. -/
namespace AytherRuntime.Inspection
open Trace

def ExcludedInterval.Contains (interval : ExcludedInterval) (id : CompactId) : Prop :=
  id.producer = interval.producer ∧ interval.first ≤ id.sequence ∧ id.sequence ≤ interval.last

instance (interval : ExcludedInterval) (id : CompactId) : Decidable (interval.Contains id) :=
  inferInstanceAs (Decidable (_ ∧ _ ∧ _))

/-- The session declares exactly what the gate withheld, and nothing that it let through; the trace of
the take is free of loss. -/
structure Honest (take : FinishedTake) : Prop where
  apart : ∀ interval ∈ (Take.run take.runId take.events).declared,
    ∀ id ∈ (Take.run take.runId take.events).forwarded, ¬interval.Contains id
  exact : ∀ id, (∃ interval ∈ (Take.run take.runId take.events).declared, interval.Contains id) ↔
    id ∈ (Take.run take.runId take.events).withheld
  lossFree : ∀ hash, (traceSummary hash take.runId (Take.run take.runId take.events).sent
    true).lossFree = true

/-- Every fact is of a slot and within the limit, no fact arrives in silence after the last exchange
of its slot, and no producer is heard between two facts withheld in one period. -/
structure Quiescent (h : History) : Prop where
  producers : ∀ a ∈ h.arrivals, 1 ≤ a.fact.id.producer ∧ a.fact.id.producer ≤ producerSlots ∧
    a.fact.id.sequence ≤ maxReplayTraceFacts
  closed : ∀ a ∈ h.arrivals, a.silent = true → a.period < h.declarations
  unbroken : ∀ a ∈ h.arrivals, ∀ b ∈ h.arrivals, ∀ c ∈ h.arrivals,
    a.fact.id.producer = b.fact.id.producer → b.fact.id.producer = c.fact.id.producer →
    a.fact.id.sequence < b.fact.id.sequence → b.fact.id.sequence < c.fact.id.sequence →
    a.silent = true → c.silent = true → a.period = c.period → b.silent = true

section Readings
variable {runId : String}

lemma compactCauses_domainId (kind : TraceKind) {causes : List CompactId}
    (hvalid : ∀ cause ∈ causes, cause.Valid) : ∃ kept, Accumulator.compactCauses runId kind
      (causes.map fun cause => .fact (domainId runId cause)) = some kept ∧ kept ⊆ causes := by
  induction causes with
  | nil => exact ⟨[],rfl,List.nil_subset _⟩
  | cons cause causes ih =>
    obtain ⟨kept,hkept,hsub⟩ := ih fun other hother => hvalid other (List.mem_cons_of_mem _ hother)
    have hcause := hvalid cause (List.mem_cons_self ..)
    have hguard : ¬((domainId runId cause).runId ≠ runId ∨
        (domainId runId cause).producerSequence = 0) := by
      rw [not_or,not_not]
      exact ⟨rfl,Nat.one_le_iff_ne_zero.mp hcause.2.2⟩
    rw [List.map_cons,Accumulator.compactCauses,producerNumber_domainId hcause]
    dsimp only
    rw [if_neg hguard,hkept]
    split_ifs
    · exact ⟨kept,rfl,List.subset_cons_of_subset _ hsub⟩
    · exact ⟨cause :: kept,rfl,List.cons_subset_cons _ hsub⟩

lemma engineText_ne_inspection (n : ℕ) : "engine-" ++ toString n ≠ inspectionProducer := by
  intro hsame
  have hstart := congrArg (fun text => text.toList.head?) hsame
  rw [String.toList_append] at hstart
  exact absurd hstart (by simp [inspectionProducer])

/-- How a durable fact is read. -/
lemma reading_durableFact (source : EngineFact) : reading runId (durableFact runId source) =
    if source.id.sequence = 0 ∨ source.id.producer = 0 ∨ producerSlots < source.id.producer ∨
        maxReplayTraceFacts < source.id.sequence then .rejected
    else
      match Accumulator.compactCauses runId (traceKind source.kind)
        (source.causes.map fun cause => .fact (domainId runId cause)) with
      | none => .rejected
      | some causes => .engine
        ⟨source.id,traceKind source.kind,(durableFact runId source).occurrence,causes⟩ := by
  have hne : (durableFact runId source).id.producerId ≠ inspectionProducer :=
    engineText_ne_inspection _
  have hproducer : producerNumber (durableFact runId source).id.producerId =
      if source.id.producer = 0 ∨ producerSlots < source.id.producer then none
      else some source.id.producer := producerNumber_engine _
  unfold reading
  rw [if_neg hne,engineReading,hproducer]
  have hsequence : (durableFact runId source).id.producerSequence = source.id.sequence := rfl
  have hrun : (durableFact runId source).id.runId = runId := rfl
  rw [hsequence,hrun]
  by_cases hzero : source.id.sequence = 0
  · rw [if_pos (Or.inr hzero),if_pos (Or.inl hzero)]
  by_cases hslot : source.id.producer = 0 ∨ producerSlots < source.id.producer
  · rw [if_neg (by simp [hzero]),if_pos hslot,if_pos (Or.inr (or_assoc.mp (Or.inl hslot)))]
  by_cases hmax : maxReplayTraceFacts < source.id.sequence
  · rw [if_neg (by simp [hzero]),if_neg hslot,if_pos (Or.inr (Or.inr (Or.inr hmax)))]
    exact if_pos hmax
  · rw [if_neg (by simp [hzero]),if_neg hslot,if_neg (by omega)]
    exact if_neg hmax

/-- A durable fact is read where its producer has a slot and its causes are identities. -/
lemma reading_durableFact_engine {source : EngineFact} (hid : source.id.Valid)
    (hmax : source.id.sequence ≤ maxReplayTraceFacts) (hcauses : ∀ cause ∈ source.causes, cause.Valid) :
    ∃ pending, reading runId (durableFact runId source) = .engine pending ∧
      pending.id = source.id ∧ pending.causes ⊆ source.causes := by
  obtain ⟨kept,hkept,hsub⟩ := compactCauses_domainId (traceKind source.kind) hcauses
  obtain ⟨hp,hp',hs⟩ := hid
  rw [reading_durableFact,if_neg (by omega),hkept]
  exact ⟨_,rfl,rfl,hsub⟩

lemma reading_durableFact_bounds {source : EngineFact}
    (h : reading runId (durableFact runId source) ≠ .rejected) :
    1 ≤ source.id.producer ∧ source.id.producer ≤ producerSlots ∧
      source.id.sequence ≤ maxReplayTraceFacts := by
  rw [reading_durableFact] at h
  split_ifs at h with hguard
  · exact absurd rfl h
  · omega

/-- A declared interval reads as an exclusion, within the limit of the trace. -/
lemma reading_declares {fact : Fact} {interval : ExcludedInterval} (h : Declares runId fact interval)
    (hproducer : 1 ≤ interval.producer ∧ interval.producer ≤ producerSlots)
    (hfirst : 1 ≤ interval.first) (hlast : interval.first ≤ interval.last) :
    reading runId fact = if maxReplayTraceFacts < interval.last then .rejected
      else .exclusion interval.producer interval.first interval.last := by
  obtain ⟨sequence,recovery,hsequence,hrecovery,rfl⟩ := h
  have hstart : enginePrefix.isPrefixOf ("engine-" ++ toString interval.producer).toList = true := by
    rw [String.toList_append,List.isPrefixOf_iff_prefix]
    exact List.prefix_append _ _
  have hmake := readFactExclusion_make runId sequence
    { recovery, producer := "engine-" ++ toString interval.producer,
      sequenceFrom := interval.first, sequenceTo := interval.last } hrecovery hstart hfirst hlast rfl
  have hslot : ¬(interval.producer = 0 ∨ producerSlots < interval.producer) := by omega
  have hguard : ¬((makeFactExclusionFact runId sequence
      { recovery, producer := "engine-" ++ toString interval.producer,
        sequenceFrom := interval.first, sequenceTo := interval.last }).id.runId ≠ runId ∨
      sequence = 0) := by
    rw [not_or,not_not]
    exact ⟨rfl,hsequence⟩
  unfold reading
  refine (if_neg hguard).trans ((if_pos rfl).trans ?_)
  unfold inspectionReading
  refine (if_pos rfl).trans ?_
  rw [hmake]
  dsimp only
  rw [producerNumber_engine,if_neg hslot]

end Readings

section Intervals
open SilentProductionGate
variable {h : History} (hh : Arranged h)
include hh

/-- An interval runs from a withheld arrival to another one of the same declaration. -/
lemma Arranged.interval_ends {period : ℕ} {interval : ExcludedInterval}
    (hinterval : interval ∈ h.intervals period) :
    (1 ≤ interval.producer ∧ interval.producer ≤ producerSlots) ∧
      ∃ a ∈ h.arrivals, ∃ c ∈ h.arrivals, (a.silent = true ∧ a.period = period) ∧
        (c.silent = true ∧ c.period = period) ∧ a.fact.id = ⟨interval.producer,interval.first⟩ ∧
        c.fact.id = ⟨interval.producer,interval.last⟩ ∧ interval.first ≤ interval.last := by
  obtain ⟨slot,hslot,hspanned⟩ := List.mem_filterMap.mp hinterval
  unfold spanned at hspanned
  split at hspanned
  · rename_i first last hfirst hlast
    cases hspanned
    have hmemFirst := List.mem_of_head? hfirst
    have hmemLast := List.mem_of_getLast? hlast
    obtain ⟨a,ha,hasilent,haperiod,haid⟩ := mem_quiet.mp hmemFirst
    obtain ⟨c,hc,hcsilent,hcperiod,hcid⟩ := mem_quiet.mp hmemLast
    refine ⟨⟨Nat.succ_pos _,List.mem_range.mp hslot⟩,a,ha,c,hc,⟨hasilent,haperiod⟩,
      ⟨hcsilent,hcperiod⟩,haid,hcid,?_⟩
    have hgrow := hh.quiet_pairwise (slot + 1) period
    cases hquiet : h.quiet (slot + 1) period with
    | nil => rw [hquiet] at hfirst; cases hfirst
    | cons s rest =>
      rw [hquiet] at hfirst hmemLast hgrow
      obtain rfl : s = first := Option.some.inj hfirst
      rcases List.mem_cons.mp hmemLast with rfl | hmem
      · exact le_rfl
      · exact ((List.pairwise_cons.mp hgrow).1 last hmem).le
  · cases hspanned

/-- One interval of a declaration contains everything withheld from a producer with a slot. -/
lemma Arranged.exists_interval {a : Arrival} (ha : a ∈ h.arrivals) (hsilent : a.silent = true)
    (hslot : 1 ≤ a.fact.id.producer ∧ a.fact.id.producer ≤ producerSlots) :
    ∃ interval ∈ h.intervals a.period, ∀ c ∈ h.arrivals, c.silent = true → c.period = a.period →
      c.fact.id.producer = a.fact.id.producer → interval.Contains c.fact.id := by
  have hgrow := hh.quiet_pairwise a.fact.id.producer a.period
  have hmem : ∀ c ∈ h.arrivals, c.silent = true → c.period = a.period →
      c.fact.id.producer = a.fact.id.producer →
      c.fact.id.sequence ∈ h.quiet a.fact.id.producer a.period :=
    fun c hc hsilent hperiod hproducer => mem_quiet.mpr ⟨c,hc,hsilent,hperiod,by rw [← hproducer]⟩
  have hown := hmem a ha hsilent rfl rfl
  cases hquiet : h.quiet a.fact.id.producer a.period with
  | nil => rw [hquiet] at hown; cases hown
  | cons first rest =>
    rw [hquiet] at hmem hgrow
    obtain ⟨last,hlast⟩ : ∃ last, (first :: rest).getLast? = some last :=
      ⟨_,List.getLast?_eq_some_getLast (by simp)⟩
    refine ⟨⟨a.fact.id.producer,first,last⟩,List.mem_filterMap.mpr ⟨a.fact.id.producer - 1,?_,?_⟩,
      fun c hc hcsilent hperiod hproducer => ⟨hproducer,?_,?_⟩⟩
    · exact List.mem_range.mpr (by omega)
    · rw [Nat.sub_add_cancel hslot.1,hquiet,spanned,hlast]
      rfl
    · rcases List.mem_cons.mp (hmem c hc hcsilent hperiod hproducer) with heq | hlater
      · exact heq.ge
      · exact ((List.pairwise_cons.mp hgrow).1 _ hlater).le
    · have hin := hmem c hc hcsilent hperiod hproducer
      obtain ⟨before,hsplit⟩ := List.getLast?_eq_some_iff.mp hlast
      rw [hsplit] at hin hgrow
      rcases List.mem_append.mp hin with hearlier | heq
      · exact ((List.pairwise_append.mp hgrow).2.2 _ hearlier last (List.mem_singleton.mpr rfl)).le
      · exact (List.mem_singleton.mp heq).le

/-- What an interval contains has arrived, under the same declaration. -/
lemma Arranged.contained {period : ℕ} {interval : ExcludedInterval}
    (hinterval : interval ∈ h.intervals period) {id : CompactId} (hid : interval.Contains id) :
    ∃ b ∈ h.arrivals, b.fact.id = id ∧ b.period = period := by
  obtain ⟨-,a,ha,c,hc,⟨-,haperiod⟩,⟨-,hcperiod⟩,haid,hcid,-⟩ := hh.interval_ends hinterval
  obtain ⟨hproducer,hfirst,hlast⟩ := hid
  have hpos := ((hh.dense a.fact.id).mp ⟨a,ha,rfl⟩).1
  rw [haid] at hpos
  have hproducer' : id.producer = c.fact.id.producer := by rw [hcid]; exact hproducer
  obtain ⟨b,hb,rfl⟩ := hh.exists_earlier hc hproducer' (hpos.trans hfirst)
    (by rw [hcid]; exact hlast)
  refine ⟨b,hb,rfl,le_antisymm ?_ ?_⟩
  · rcases hh.trichotomy hb hc hproducer' with heq | hlt | hgt
    · rw [heq,hcperiod]
    · exact hcperiod ▸ hlt.1
    · rw [hcid] at hgt
      exact absurd hgt.2 (Nat.not_lt.mpr hlast)
  · rcases hh.trichotomy ha hb (by rw [haid]; exact hproducer.symm) with heq | hlt | hgt
    · rw [← heq,haperiod]
    · exact haperiod ▸ hlt.1
    · rw [haid] at hgt
      exact absurd hgt.2 (Nat.not_lt.mpr hfirst)

/-- Without a forwarded fact in between, an interval contains withheld facts alone. -/
lemma Arranged.contained_silent (hquiescent : Quiescent h) {period : ℕ} {interval : ExcludedInterval}
    (hinterval : interval ∈ h.intervals period) {b : Arrival} (hb : b ∈ h.arrivals)
    (hid : interval.Contains b.fact.id) : b.silent = true := by
  obtain ⟨-,a,ha,c,hc,⟨hasilent,haperiod⟩,⟨hcsilent,hcperiod⟩,haid,hcid,-⟩ :=
    hh.interval_ends hinterval
  obtain ⟨hproducer,hfirst,hlast⟩ := hid
  have haproducer : a.fact.id.producer = b.fact.id.producer := by rw [haid]; exact hproducer.symm
  have hcproducer : b.fact.id.producer = c.fact.id.producer := by rw [hcid]; exact hproducer
  rcases hh.trichotomy ha hb haproducer with rfl | hlt | hgt
  · exact hasilent
  · rcases hh.trichotomy hb hc hcproducer with rfl | hlt' | hgt'
    · exact hcsilent
    · exact hquiescent.unbroken a ha b hb c hc haproducer hcproducer hlt.2 hlt'.2 hasilent hcsilent
        (haperiod.trans hcperiod.symm)
    · rw [hcid] at hgt'
      exact absurd hgt'.2 (Nat.not_lt.mpr hlast)
  · rw [haid] at hgt
    exact absurd hgt.2 (Nat.not_lt.mpr hfirst)

end Intervals

section Finish
variable {h : History} {t : Take} {runId : String}

lemma Sends.mem_declared (ht : Sends runId t h) {interval : ExcludedInterval} :
    interval ∈ t.declared ↔ ∃ period < h.declarations, interval ∈ h.intervals period := by
  simp [ht.declared]

lemma Sends.mem_forwarded (ht : Sends runId t h) {id : CompactId} :
    id ∈ t.forwarded ↔ ∃ a ∈ h.arrivals, a.silent = false ∧ a.fact.id = id := by
  simp [ht.forwarded,and_assoc]

lemma Sends.mem_withheld (ht : Sends runId t h) {id : CompactId} :
    id ∈ t.withheld ↔ ∃ a ∈ h.arrivals, a.silent = true ∧ a.fact.id = id := by
  simp [ht.withheld,and_assoc]

lemma Sends.forwarded_sent (ht : Sends runId t h) {a : Arrival} (ha : a ∈ h.arrivals)
    (hsilent : a.silent = false) : durableFact runId a.fact ∈ t.sent := by
  obtain ⟨exclusions,hsent,-⟩ := ht.sent
  refine hsent.mem_iff.mpr (List.mem_append_left _ (List.mem_map.mpr ⟨a,?_,rfl⟩))
  simp [ha,hsilent]

lemma exists_declares {exclusions : List Fact} {intervals : List ExcludedInterval}
    (hdeclares : List.Forall₂ (Declares runId) exclusions intervals) :
    (∀ interval ∈ intervals, ∃ fact ∈ exclusions, Declares runId fact interval) ∧
      ∀ fact ∈ exclusions, ∃ interval ∈ intervals, Declares runId fact interval := by
  induction hdeclares with
  | nil => simp
  | cons hdeclare _ ih =>
    constructor
    · refine List.forall_mem_cons.mpr ⟨⟨_,List.mem_cons_self ..,hdeclare⟩,fun interval hinterval => ?_⟩
      obtain ⟨fact,hfact,hother⟩ := ih.1 interval hinterval
      exact ⟨fact,List.mem_cons_of_mem _ hfact,hother⟩
    · refine List.forall_mem_cons.mpr ⟨⟨_,List.mem_cons_self ..,hdeclare⟩,fun fact hfact => ?_⟩
      obtain ⟨interval,hinterval,hother⟩ := ih.2 fact hfact
      exact ⟨interval,List.mem_cons_of_mem _ hinterval,hother⟩

lemma Sends.declared_sent (ht : Sends runId t h) {interval : ExcludedInterval}
    (hinterval : interval ∈ t.declared) : ∃ fact ∈ t.sent, Declares runId fact interval := by
  obtain ⟨exclusions,hsent,hdeclares⟩ := ht.sent
  obtain ⟨fact,hfact,hdeclare⟩ := (exists_declares hdeclares).1 interval hinterval
  exact ⟨fact,hsent.mem_iff.mpr (List.mem_append_right _ hfact),hdeclare⟩

/-- An honest take met nothing between its recoveries that the gate cannot tell apart. -/
lemma Honest.quiescent {take : FinishedTake} (honest : Honest take)
    (hh : Arranged (history take.events))
    (ht : Sends take.runId (Take.run take.runId take.events) (history take.events)) :
    Quiescent (history take.events) := by
  obtain ⟨-,haccounted⟩ := accounted_of_lossFree (honest.lossFree .ascending)
  -- A withheld arrival is in an interval that some earlier call has declared.
  have hdeclared : ∀ a ∈ (history take.events).arrivals, a.silent = true →
      ∃ period < (history take.events).declarations, ∃ interval ∈ (history take.events).intervals period,
        interval.Contains a.fact.id := by
    intro a ha hsilent
    obtain ⟨interval,hinterval,hcontains⟩ :=
      (honest.exact a.fact.id).mpr (ht.mem_withheld.mpr ⟨a,ha,hsilent,rfl⟩)
    obtain ⟨period,hperiod,hinterval⟩ := ht.mem_declared.mp hinterval
    exact ⟨period,hperiod,interval,hinterval,hcontains⟩
  have hproducers : ∀ a ∈ (history take.events).arrivals, 1 ≤ a.fact.id.producer ∧
      a.fact.id.producer ≤ producerSlots ∧ a.fact.id.sequence ≤ maxReplayTraceFacts := by
    intro a ha
    cases hsilent : a.silent with
    | false => exact reading_durableFact_bounds (haccounted.readable _ (ht.forwarded_sent ha hsilent))
    | true =>
      obtain ⟨period,hperiod,interval,hinterval,hproducer,-,hlast⟩ := hdeclared a ha hsilent
      obtain ⟨hslot,first,hfirst,-,-,-,-,hid,-,hle⟩ := hh.interval_ends hinterval
      obtain ⟨fact,hfact,hdeclares⟩ := ht.declared_sent (ht.mem_declared.mpr ⟨period,hperiod,hinterval⟩)
      have hpos := ((hh.dense first.fact.id).mp ⟨first,hfirst,rfl⟩).1
      rw [hid] at hpos
      have hread := haccounted.readable fact hfact
      rw [reading_declares hdeclares hslot hpos hle] at hread
      have hmax : interval.last ≤ maxReplayTraceFacts :=
        Nat.not_lt.mp fun hgt => hread (if_pos hgt)
      exact ⟨hproducer ▸ hslot.1,hproducer ▸ hslot.2,hlast.trans hmax⟩
  have hclosed : ∀ a ∈ (history take.events).arrivals, a.silent = true →
      a.period < (history take.events).declarations := by
    intro a ha hsilent
    obtain ⟨period,hperiod,interval,hinterval,hcontains⟩ := hdeclared a ha hsilent
    obtain ⟨b,hb,hid,rfl⟩ := hh.contained hinterval hcontains
    rw [← hh.injective hb ha hid]
    exact hperiod
  refine ⟨hproducers,hclosed,?_⟩
  intro a ha b hb c hc hab hbc hlt hlt' hasilent hcsilent hperiod
  by_contra hheard
  obtain ⟨hslot,hslot',-⟩ := hproducers a ha
  obtain ⟨interval,hinterval,hall⟩ := hh.exists_interval ha hasilent ⟨hslot,hslot'⟩
  obtain ⟨-,hfirst,-⟩ := hall a ha hasilent rfl rfl
  obtain ⟨hproducer,-,hlast⟩ := hall c hc hcsilent hperiod.symm (hab.trans hbc).symm
  exact honest.apart interval (ht.mem_declared.mpr ⟨a.period,hclosed a ha hasilent,hinterval⟩)
    b.fact.id (ht.mem_forwarded.mpr ⟨b,hb,by simpa using hheard,rfl⟩)
    ⟨hbc.trans hproducer,by omega,by omega⟩

lemma claimed_durableFacts {arrivals : List Arrival} (hread : ∀ a ∈ arrivals,
    ∃ pending, reading runId (durableFact runId a.fact) = .engine pending ∧
      pending.id = a.fact.id ∧ pending.causes ⊆ a.fact.causes) :
    claimed runId (arrivals.map fun a => durableFact runId a.fact) =
      arrivals.map fun a => a.fact.id := by
  induction arrivals with
  | nil => rfl
  | cons a arrivals ih =>
    obtain ⟨⟨pending,hpending,hid,-⟩,hrest⟩ := List.forall_mem_cons.mp hread
    have hsame := ih hrest
    unfold claimed at hsame ⊢
    rw [List.map_cons,List.flatMap_cons,hsame,hpending,Reading.claims,hid]
    rfl

/-- The sequences of an interval. -/
def ExcludedInterval.ids (interval : ExcludedInterval) : List CompactId :=
  (Reading.exclusion interval.producer interval.first interval.last).claims

lemma ExcludedInterval.mem_ids {interval : ExcludedInterval} {id : CompactId} :
    id ∈ interval.ids ↔ interval.Contains id := Accumulator.mem_interval

lemma claimed_exclusions {exclusions : List Fact} {intervals : List ExcludedInterval}
    (hdeclares : List.Forall₂ (Declares runId) exclusions intervals)
    (hread : ∀ fact interval, interval ∈ intervals → Declares runId fact interval →
      reading runId fact = .exclusion interval.producer interval.first interval.last) :
    claimed runId exclusions = intervals.flatMap ExcludedInterval.ids := by
  induction hdeclares with
  | nil => rfl
  | @cons fact interval _ _ hdeclare _ ih =>
    have hrest := ih fun fact interval hinterval => hread fact interval (List.mem_cons_of_mem _ hinterval)
    unfold claimed at hrest ⊢
    rw [List.flatMap_cons,List.flatMap_cons,hrest,hread fact interval (List.mem_cons_self ..) hdeclare]
    rfl

/-- No sequence is declared twice. -/
lemma Arranged.declared_nodup (hh : Arranged h) (periods : ℕ) :
    (((List.range periods).flatMap h.intervals).flatMap ExcludedInterval.ids).Nodup := by
  have hids : ∀ interval : ExcludedInterval, interval.ids.Nodup := by
    intro interval
    refine List.Nodup.map ?_ List.nodup_range'
    intro s t hst
    simpa using hst
  refine List.nodup_flatMap.mpr ⟨fun interval _ => hids interval,List.pairwise_flatMap.mpr ⟨?_,?_⟩⟩
  · intro period _
    refine List.pairwise_filterMap.mpr (List.nodup_range.imp ?_)
    intro slot other hne interval hinterval later hlater
    refine List.disjoint_left.mpr fun id hid hlaterId => hne ?_
    have hproducer := (ExcludedInterval.mem_ids.mp hid).1
    rw [(ExcludedInterval.mem_ids.mp hlaterId).1] at hproducer
    unfold SilentProductionGate.spanned at hinterval hlater
    split at hinterval
    · split at hlater
      · cases hinterval
        cases hlater
        exact (Nat.succ_injective hproducer).symm
      · cases hlater
    · cases hinterval
  · refine List.nodup_range.imp ?_
    intro period other hne interval hinterval later hlater
    refine List.disjoint_left.mpr fun id hid hlaterId => hne ?_
    obtain ⟨b,hb,hbid,rfl⟩ := hh.contained hinterval (ExcludedInterval.mem_ids.mp hid)
    obtain ⟨c,hc,hcid,rfl⟩ := hh.contained hlater (ExcludedInterval.mem_ids.mp hlaterId)
    rw [hh.injective hb hc (hbid.trans hcid.symm)]

section Accounting
variable (hquiescent : Quiescent h) (hh : Arranged h)
include hquiescent hh

lemma Quiescent.valid {a : Arrival} (ha : a ∈ h.arrivals) : a.fact.id.Valid :=
  ⟨(hquiescent.producers a ha).1,(hquiescent.producers a ha).2.1,((hh.dense a.fact.id).mp ⟨a,ha,rfl⟩).1⟩

lemma Quiescent.pending (hgrounded : Grounded (h.arrivals.map Arrival.fact)) (runId : String)
    {a : Arrival} (ha : a ∈ h.arrivals) :
    ∃ pending, reading runId (durableFact runId a.fact) = .engine pending ∧
      pending.id = a.fact.id ∧ pending.causes ⊆ a.fact.causes := by
  refine reading_durableFact_engine (hquiescent.valid hh ha) (hquiescent.producers a ha).2.2 ?_
  intro cause hcause
  obtain ⟨rank,hrank⟩ := hgrounded
  obtain ⟨⟨other,hother,rfl⟩,-⟩ := hrank a.fact (List.mem_map_of_mem ha) cause hcause
  obtain ⟨b,hb,rfl⟩ := List.mem_map.mp hother
  exact hquiescent.valid hh hb

variable (ht : Sends runId t h)
include ht

lemma Quiescent.exclusion {fact : Fact} {interval : ExcludedInterval} (hinterval : interval ∈ t.declared)
    (hdeclare : Declares runId fact interval) :
    reading runId fact = .exclusion interval.producer interval.first interval.last := by
  obtain ⟨period,-,hinterval⟩ := ht.mem_declared.mp hinterval
  obtain ⟨hslot,a,ha,c,hc,-,-,haid,hcid,hle⟩ := hh.interval_ends hinterval
  have hpos := (hquiescent.valid hh ha).2.2
  have hmax := (hquiescent.producers c hc).2.2
  rw [haid] at hpos
  rw [hcid] at hmax
  rw [reading_declares hdeclare hslot hpos hle,if_neg (Nat.not_lt.mpr hmax)]

/-- What the declared intervals contain is what was withheld. -/
lemma Quiescent.declared_iff (id : CompactId) : (∃ interval ∈ t.declared, interval.Contains id) ↔
    ∃ a ∈ h.arrivals, a.silent = true ∧ a.fact.id = id := by
  constructor
  · rintro ⟨interval,hinterval,hcontains⟩
    obtain ⟨period,-,hinterval⟩ := ht.mem_declared.mp hinterval
    obtain ⟨b,hb,rfl,-⟩ := hh.contained hinterval hcontains
    exact ⟨b,hb,hh.contained_silent hquiescent hinterval hb hcontains,rfl⟩
  · rintro ⟨a,ha,hsilent,rfl⟩
    obtain ⟨hslot,hslot',-⟩ := hquiescent.producers a ha
    obtain ⟨interval,hinterval,hall⟩ := hh.exists_interval ha hsilent ⟨hslot,hslot'⟩
    exact ⟨interval,ht.mem_declared.mpr ⟨a.period,hquiescent.closed a ha hsilent,hinterval⟩,
      hall a ha hsilent rfl rfl⟩

/-- What settles from the forwarded facts and the declared intervals: every arrival. -/
lemma Quiescent.settles (hgrounded : Grounded (h.arrivals.map Arrival.fact))
    {items : Set PendingFact} {given : Set CompactId}
    (hitems : ∀ a ∈ h.arrivals, a.silent = false → ∃ pending ∈ items, pending.id = a.fact.id ∧
      pending.causes ⊆ a.fact.causes)
    (hgiven : ∀ interval ∈ t.declared, ∀ id, interval.Contains id → id ∈ given) :
    ∀ a ∈ h.arrivals, Settlement.Settles dependencies items given a.fact.id := by
  obtain ⟨rank,hrank⟩ := hgrounded
  intro a ha
  induction hn : rank a.fact.id using Nat.strong_induction_on generalizing a with
  | _ n ih =>
    subst hn
    cases hsilent : a.silent with
    | true =>
      obtain ⟨interval,hinterval,hcontains⟩ :=
        (hquiescent.declared_iff hh ht a.fact.id).mpr ⟨a,ha,hsilent,rfl⟩
      exact .given (hgiven interval hinterval _ hcontains)
    | false =>
      obtain ⟨pending,hpending,hid,hsub⟩ := hitems a ha hsilent
      have hown : dependencies.id pending = a.fact.id := hid
      rw [← hown]
      refine .item hpending fun cause hcause => ?_
      obtain ⟨⟨other,hother,rfl⟩,hlt⟩ := hrank a.fact (List.mem_map_of_mem ha) cause (hsub hcause)
      obtain ⟨b,hb,rfl⟩ := List.mem_map.mp hother
      exact ih _ hlt b hb rfl

/-- The evidence of a quiescent take accounts for every fact that arrived. -/
lemma Quiescent.accounted (hgrounded : Grounded (h.arrivals.map Arrival.fact)) : Accounted runId t.sent := by
  obtain ⟨exclusions,hsent,hdeclares⟩ := ht.sent
  obtain ⟨hsome,hevery⟩ := exists_declares hdeclares
  refine Accounted.perm ?_ hsent
  have hforwarded : claimed runId ((h.arrivals.filter fun a => !a.silent).map
      fun a => durableFact runId a.fact) =
      (h.arrivals.filter fun a => !a.silent).map fun a => a.fact.id :=
    claimed_durableFacts fun a ha => hquiescent.pending hh hgrounded runId (List.mem_of_mem_filter ha)
  have hexcluded : claimed runId exclusions = t.declared.flatMap ExcludedInterval.ids :=
    claimed_exclusions hdeclares fun _ _ => hquiescent.exclusion hh ht
  have hclaimed : claimed runId (((h.arrivals.filter fun a => !a.silent).map
      fun a => durableFact runId a.fact) ++ exclusions) =
      ((h.arrivals.filter fun a => !a.silent).map fun a => a.fact.id) ++
        t.declared.flatMap ExcludedInterval.ids := by
    rw [← hforwarded,← hexcluded]
    exact List.flatMap_append
  have hdeclared : ∀ id, id ∈ t.declared.flatMap ExcludedInterval.ids ↔
      ∃ a ∈ h.arrivals, a.silent = true ∧ a.fact.id = id := by
    intro id
    simp only [List.mem_flatMap,ExcludedInterval.mem_ids]
    exact hquiescent.declared_iff hh ht id
  refine ⟨?_,?_,?_,?_⟩
  · intro fact hfact
    rcases List.mem_append.mp hfact with hfact | hfact
    · obtain ⟨a,ha,rfl⟩ := List.mem_map.mp hfact
      obtain ⟨pending,hpending,-⟩ := hquiescent.pending hh hgrounded runId (List.mem_of_mem_filter ha)
      simp [hpending]
    · obtain ⟨interval,hinterval,hdeclare⟩ := hevery fact hfact
      simp [hquiescent.exclusion hh ht hinterval hdeclare]
  · rw [hclaimed]
    refine List.nodup_append'.mpr ⟨?_,ht.declared ▸ hh.declared_nodup h.declarations,?_⟩
    · exact (List.nodup_map_iff_inj_on (hh.nodup.filter _)).mpr fun a ha b hb =>
        hh.injective (List.mem_of_mem_filter ha) (List.mem_of_mem_filter hb)
    · refine List.disjoint_left.mpr fun id hid hin => ?_
      obtain ⟨a,ha,rfl⟩ := List.mem_map.mp hid
      obtain ⟨b,hb,hsilent,hsame⟩ := (hdeclared _).mp hin
      obtain rfl := hh.injective hb (List.mem_of_mem_filter ha) hsame
      simp [hsilent] at ha
  · intro producer
    refine ⟨h.arrivals.countP fun a => a.fact.id.producer = producer,fun sequence => ?_⟩
    rw [← hh.dense ⟨producer,sequence⟩,hclaimed,List.mem_append,hdeclared]
    constructor
    · rintro (hid | ⟨a,ha,-,hid⟩)
      · obtain ⟨a,ha,hid⟩ := List.mem_map.mp hid
        exact ⟨a,List.mem_of_mem_filter ha,hid⟩
      · exact ⟨a,ha,hid⟩
    · rintro ⟨a,ha,hid⟩
      cases hsilent : a.silent with
      | true => exact Or.inr ⟨a,ha,hsilent,hid⟩
      | false => exact Or.inl (List.mem_map.mpr ⟨a,by simp [ha,hsilent],hid⟩)
  · rintro fact ⟨source,hsource,hreading⟩ cause hcause
    rcases List.mem_append.mp hsource with hsource | hsource
    · obtain ⟨a,ha,rfl⟩ := List.mem_map.mp hsource
      have hin := List.mem_of_mem_filter ha
      obtain ⟨pending,hpending,-,hsub⟩ := hquiescent.pending hh hgrounded runId hin
      rw [hpending] at hreading
      cases hreading
      have hcauses := hgrounded
      obtain ⟨rank,hrank⟩ := hcauses
      obtain ⟨⟨other,hother,rfl⟩,-⟩ := hrank a.fact (List.mem_map_of_mem hin) cause (hsub hcause)
      obtain ⟨b,hb,rfl⟩ := List.mem_map.mp hother
      refine hquiescent.settles hh ht hgrounded ?_ ?_ b hb
      · intro c hc hsilent
        obtain ⟨other,hother,hid,hcauses⟩ := hquiescent.pending hh hgrounded runId hc
        refine ⟨other,⟨_,List.mem_append_left _ (List.mem_map.mpr ⟨c,?_,rfl⟩),hother⟩,hid,hcauses⟩
        simp [hc,hsilent]
      · intro interval hinterval id hid
        obtain ⟨declaring,hdeclaring,hdeclare⟩ := hsome interval hinterval
        refine ⟨declaring,List.mem_append_right _ hdeclaring,interval.first,interval.last,?_,hid.2⟩
        rw [hquiescent.exclusion hh ht hinterval hdeclare,hid.1]
    · obtain ⟨interval,hinterval,hdeclare⟩ := hevery source hsource
      rw [hquiescent.exclusion hh ht hinterval hdeclare] at hreading
      cases hreading

end Accounting

end Finish

/-- A calm take is honest about its recoveries exactly when its facts have slots, its silence ends with
a declaration, and no producer is heard between facts withheld in one period of its slot. -/
theorem honest_iff (take : FinishedTake) (calm : Calm take.runId take.events) :
    Honest take ↔ Quiescent (history take.events) := by
  have hh := take.numbered.arranged
  have ht := (run_follows take.runId take.ordered take.serial calm take.numbered).2
  have hgrounded := take.grounded
  rw [← history_facts] at hgrounded
  refine ⟨fun honest => honest.quiescent hh ht,fun hquiescent => ⟨?_,?_,?_⟩⟩
  · intro interval hinterval id hid hcontains
    obtain ⟨a,ha,hsilent,rfl⟩ :=
      (hquiescent.declared_iff hh ht id).mp ⟨interval,hinterval,hcontains⟩
    obtain ⟨b,hb,hheard,hsame⟩ := ht.mem_forwarded.mp hid
    obtain rfl := hh.injective hb ha hsame
    simp [hsilent] at hheard
  · exact fun id => (hquiescent.declared_iff hh ht id).trans ht.mem_withheld.symm
  · exact fun hash => lossFree_of_accounted hash take.identity (hquiescent.accounted hh ht hgrounded)

section Calls
variable {runId : String}

/-- A call of the session, or of `receive_fact`, that runs from its start to its end. -/
inductive GateCall
  | receives (fact : EngineFact)
  | recover | declare | audible | finish
  deriving DecidableEq, Repr

def takeExclusions : List GateEvent := (List.range producerSlots).flatMap fun slot =>
  [.exchangesLast slot,.exchangesFirst slot,.exchangesUnordered slot]

def GateCall.events : GateCall → List GateEvent
  | .receives fact => .arrives fact :: List.replicate 3 (.proceeds (fact.id.producer - 1))
  | .recover => [.recover]
  | .declare => takeExclusions ++ [GateEvent.declare]
  | .audible => [.audible]
  | .finish => [.finish]

lemma split_append {old new before after : List GateEvent} {event : GateEvent}
    (h : old ++ new = before ++ event :: after) :
    (∃ rest, old = before ++ event :: rest) ∨ ∃ part, before = old ++ part ∧ new = part ++ event :: after := by
  rcases List.append_eq_append_iff.mp h with ⟨part,hbefore,hnew⟩ | ⟨part,hold,hnew⟩
  · exact Or.inr ⟨part,hbefore,hnew⟩
  · cases part with
    | nil => exact Or.inr ⟨[],by simpa using hold.symm,by simpa using hnew.symm⟩
    | cons first rest =>
      obtain ⟨rfl,-⟩ := List.cons.inj hnew
      exact Or.inl ⟨rest,hold⟩

/-- The session does not touch where the producers are. -/
lemma foldl_receiving {events : List GateEvent} (t : Take)
    (hsession : ∀ event ∈ events, (∀ fact, event ≠ .arrives fact) ∧ ∀ slot, event ≠ .proceeds slot) :
    (events.foldl (Take.next runId) t).receiving = t.receiving := by
  induction events generalizing t with
  | nil => rfl
  | cons event events ih =>
    rw [List.foldl_cons,ih _ fun other hother => hsession other (List.mem_cons_of_mem _ hother)]
    obtain ⟨harrives,hproceeds⟩ := hsession event (List.mem_cons_self ..)
    cases event with
    | arrives fact => exact absurd rfl (harrives fact)
    | proceeds slot => exact absurd rfl (hproceeds slot)
    | declare =>
      obtain ⟨_,_,hfold,-⟩ := foldl_declareInterval runId t.excluded
        { t with excluded := [], recoveries := t.recoveries + 1 } (Nat.succ_ne_zero _)
      change (t.excluded.foldl (Take.declareInterval runId) _).receiving = _
      rw [hfold]
    | _ => rfl

/-- Three steps take `receive_fact` through a slot. -/
lemma proceed_thrice {t : Take} {own : ℕ} (hothers : ∀ slot, slot ≠ own → t.receiving slot = none)
    (hown : t.receiving own = none ∨ ∃ sequence, t.receiving own = some (.counted sequence)) (slot : ℕ) :
    (((t.proceed own).proceed own).proceed own).receiving slot = none := by
  rcases hown with hidle | ⟨sequence,hcounted⟩
  · have hstay : t.proceed own = t := by rw [Take.proceed,hidle]
    rw [hstay,hstay,hstay]
    by_cases hsame : slot = own
    · rw [hsame,hidle]
    · exact hothers slot hsame
  · by_cases hsame : slot = own
    · subst hsame
      simp [Take.proceed,hcounted,SilentProductionGate.proceed]
    · simp [Take.proceed,hcounted,SilentProductionGate.proceed,Function.update_of_ne hsame,hothers slot hsame]

lemma foldl_receives (fact : EngineFact) {t : Take} (hidle : ∀ slot, t.receiving slot = none) (slot : ℕ) :
    ((GateCall.receives fact).events.foldl (Take.next runId) t).receiving slot = none := by
  refine @proceed_thrice (t.receive runId fact) (fact.id.producer - 1) ?_ ?_ slot
  · intro other hne
    unfold Take.receive
    split_ifs
    · unfold slotOf
      split_ifs
      · exact (Function.update_of_ne hne ..).trans (hidle other)
      · exact hidle other
    · exact hidle other
  · unfold Take.receive
    split_ifs
    · unfold slotOf
      split_ifs
      · exact Or.inr ⟨_,Function.update_self ..⟩
      · exact Or.inl (hidle _)
    · exact Or.inl (hidle _)

lemma GateCall.session_events {call : GateCall} (hsession : ∀ fact, call ≠ .receives fact) :
    ∀ event ∈ call.events, (∀ fact, event ≠ .arrives fact) ∧ ∀ slot, event ≠ .proceeds slot := by
  intro event hevent
  cases call with
  | receives fact => exact absurd rfl (hsession fact)
  | declare =>
    simp only [GateCall.events,takeExclusions,List.mem_append,List.mem_flatMap,List.mem_cons,
      List.not_mem_nil,or_false] at hevent
    rcases hevent with ⟨slot,-,rfl | rfl | rfl⟩ | rfl <;> simp
  | recover | audible | finish =>
    obtain rfl := List.mem_singleton.mp hevent
    simp

/-- Nothing of a call comes before the arrival of its fact. -/
lemma GateCall.arrives_first {call : GateCall} {part after : List GateEvent} {fact : EngineFact}
    (hsplit : call.events = part ++ .arrives fact :: after) : part = [] := by
  have hin : .arrives fact ∈ call.events := by rw [hsplit]; simp
  cases call with
  | receives received =>
    cases part with
    | nil => rfl
    | cons first part =>
      have htail : List.replicate 3 (.proceeds (received.id.producer - 1)) = part ++ .arrives fact :: after :=
        (List.cons.inj hsplit).2
      have hmem : GateEvent.arrives fact ∈ List.replicate 3 (.proceeds (received.id.producer - 1)) := by
        rw [htail]
        simp
      cases List.eq_of_mem_replicate hmem
  | _ => exact absurd rfl ((GateCall.session_events (by simp) _ hin).1 fact)

lemma sessionOrder_calls {call : GateCall} {old : List GateEvent}
    (hphase : ∀ slot, sessionOrder old ≠ some (.lastRead slot)) (slot : ℕ) :
    sessionOrder (old ++ call.events) ≠ some (.lastRead slot) := by
  have hlast : ∀ {events : List GateEvent} {event : GateEvent}, (event = .recover ∨ event = .audible ∨
      event = .finish) → sessionOrder (events ++ [event]) ≠ some (.lastRead slot) := by
    intro events event hevent hsome
    rw [sessionOrder_append] at hsome
    obtain ⟨before,-,hnext⟩ := Option.bind_eq_some_iff.mp hsome
    exact (GatePhase.next_audible hevent hnext).2.not_amid slot (Or.inl rfl)
  cases call with
  | receives fact =>
    have hstay : ∀ (phase : GatePhase) (event : GateEvent), (∃ fact, event = .arrives fact) ∨
        (∃ slot, event = .proceeds slot) → phase.next event = some phase := by
      rintro phase event (⟨fact,rfl⟩ | ⟨slot,rfl⟩) <;> cases phase <;> rfl
    have hsame : sessionOrder (old ++ (GateCall.receives fact).events) = sessionOrder old := by
      simp only [sessionOrder,GateCall.events,List.foldlM_append,List.replicate,List.foldlM_cons,
        List.foldlM_nil,hstay _ _ (Or.inl ⟨_,rfl⟩),hstay _ _ (Or.inr ⟨_,rfl⟩)]
      simp
    rw [hsame]
    exact hphase slot
  | declare =>
    rw [GateCall.events,← List.append_assoc,sessionOrder_append]
    intro hsome
    obtain ⟨before,-,hnext⟩ := Option.bind_eq_some_iff.mp hsome
    cases (GatePhase.next_declare hnext).2
  | recover => exact hlast (Or.inl rfl)
  | audible => exact hlast (Or.inr (Or.inl rfl))
  | finish => exact hlast (Or.inr (Or.inr rfl))

/-- Calls that run one after the other are serial and calm. -/
lemma calls_calm (calls : List GateCall) : Serial runId (calls.flatMap GateCall.events) ∧
    Calm runId (calls.flatMap GateCall.events) ∧
      (∀ slot, (Take.run runId (calls.flatMap GateCall.events)).receiving slot = none) ∧
        ∀ slot, sessionOrder (calls.flatMap GateCall.events) ≠ some (.lastRead slot) := by
  induction calls using List.reverseRecOn with
  | nil =>
    refine ⟨?_,⟨?_,?_⟩,fun _ => rfl,by simp [sessionOrder]⟩
    · intro before fact after slot hsplit; simp at hsplit
    · intro before slot after hsplit; simp at hsplit
    · intro before fact after slot hsplit; simp at hsplit
  | append_singleton calls call ih =>
    obtain ⟨hserial,hcalm,hidle,hphase⟩ := ih
    rw [List.flatMap_append,List.flatMap_singleton]
    generalize calls.flatMap GateCall.events = old at *
    have hrun : ∀ part, Take.run runId (old ++ part) = part.foldl (Take.next runId) (Take.run runId old) :=
      fun part => List.foldl_append
    refine ⟨?_,⟨?_,?_⟩,?_,sessionOrder_calls hphase⟩
    · intro before fact after slot hsplit hslot
      rcases split_append hsplit with ⟨rest,hold⟩ | ⟨part,rfl,hnew⟩
      · exact hserial before fact rest slot hold hslot
      · rw [GateCall.arrives_first hnew,List.append_nil]
        exact hidle slot
    · intro before slot after hsplit
      rcases split_append hsplit with ⟨rest,hold⟩ | ⟨part,rfl,hnew⟩
      · exact hcalm.idle before slot rest hold
      · have hsession : ∀ fact, call ≠ .receives fact := by
          rintro fact rfl
          have hin : GateEvent.exchangesLast slot ∈ (GateCall.receives fact).events := by rw [hnew]; simp
          simp [GateCall.events] at hin
        rw [hrun,foldl_receiving]
        · exact hidle slot
        · exact fun event hevent =>
            GateCall.session_events hsession event (by rw [hnew]; exact List.mem_append_left _ hevent)
    · intro before fact after slot hsplit hslot
      rcases split_append hsplit with ⟨rest,hold⟩ | ⟨part,rfl,hnew⟩
      · exact hcalm.apart before fact rest slot hold hslot
      · rw [GateCall.arrives_first hnew,List.append_nil]
        exact hphase slot
    · intro slot
      rw [hrun]
      cases call with
      | receives fact => exact foldl_receives fact hidle slot
      | _ =>
        rw [foldl_receiving _ (GateCall.session_events (by simp))]
        exact hidle slot

/-- A fact of the first producer, without causes. -/
def soloFact (sequence : ℕ) : EngineFact := ⟨⟨1,sequence⟩,"audio_request",[],none⟩

lemma soloFacts_numbered : Numbered [soloFact 1,soloFact 2,soloFact 3,soloFact 4] := by
  have hone : Numbered ([] ++ [soloFact 1]) := Numbered.concat (by simp [Numbered]) rfl
  have htwo : Numbered (_ ++ [soloFact 2]) := hone.concat rfl
  have hthree : Numbered (_ ++ [soloFact 3]) := htwo.concat rfl
  have hfour : Numbered (_ ++ [soloFact 4]) := hthree.concat rfl
  exact hfour

/-- Every second fact arrives in a recovery. -/
def recoveredCalls : List GateCall := [.receives (soloFact 1),.recover,.receives (soloFact 2),.declare,.audible,
  .receives (soloFact 3),.recover,.receives (soloFact 4),.declare,.audible,.finish]

def recoveredTake : FinishedTake where
  runId := "r"
  identity := by decide
  events := recoveredCalls.flatMap GateCall.events
  ordered := by decide +kernel
  serial := (calls_calm recoveredCalls).1
  numbered := by
    have harrived : arrived (recoveredCalls.flatMap GateCall.events) =
        [soloFact 1,soloFact 2,soloFact 3,soloFact 4] := by decide +kernel
    rw [harrived]
    exact soloFacts_numbered
  grounded := ⟨fun _ => 0,by decide +kernel⟩

theorem recoveredTake_honest : Honest recoveredTake :=
  (honest_iff recoveredTake (calls_calm recoveredCalls).2.1).mpr
    ⟨by decide +kernel,by decide +kernel,by decide +kernel⟩

-- The second fact comes between two exchanges of its slot: the first one is lost with it.
example : (Take.run "r" ([GateEvent.recover] ++ (GateCall.receives (soloFact 1)).events ++
    [GateEvent.exchangesLast 0] ++ (GateCall.receives (soloFact 2)).events ++ takeExclusions.drop 1 ++
      [GateEvent.declare])).declared = [] := by
  decide +kernel

/-- The second fact arrives after the first declaration and before the resume, and the third one is
heard. -/
def lateCalls : List GateCall := [.recover,.receives (soloFact 1),.declare,.receives (soloFact 2),.audible,
  .receives (soloFact 3),.recover,.receives (soloFact 4),.declare,.audible,.finish]

def lateTake : FinishedTake where
  runId := "r"
  identity := by decide
  events := lateCalls.flatMap GateCall.events
  ordered := by decide +kernel
  serial := (calls_calm lateCalls).1
  numbered := by
    have harrived : arrived (lateCalls.flatMap GateCall.events) =
        [soloFact 1,soloFact 2,soloFact 3,soloFact 4] := by decide +kernel
    rw [harrived]
    exact soloFacts_numbered
  grounded := ⟨fun _ => 0,by decide +kernel⟩

/-- The second declaration covers the fact that was heard. -/
theorem lateTake_not_honest : ¬Honest lateTake := by
  intro honest
  exact honest.apart ⟨1,2,4⟩ (by decide +kernel) ⟨1,3⟩ (by decide +kernel) (by decide)

end Calls
end AytherRuntime.Inspection
