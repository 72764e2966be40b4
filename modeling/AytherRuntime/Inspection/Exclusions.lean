import AytherRuntime.Inspection.SilentGate
import AytherRuntime.Trace.Reopened
import Mathlib.Data.List.Pairwise

/-! A take with recoveries: the steps of the producers and of the session at the silent gate, and what
the session declares after each recovery. -/
namespace AytherRuntime.Inspection
open Trace

/-- What the Engine observes, as far as the trace uses it. -/
structure EngineFact where
  id : CompactId
  kind : String
  causes : List CompactId := []
  occurrence : Option ℕ := none
  deriving DecidableEq, Repr

/-- `durable_fact` -/
def durableFact (runId : String) (source : EngineFact) : Fact where
  id := domainId runId source.id
  kind := source.kind
  causeIds := source.causes.map fun cause => .fact (domainId runId cause)
  occurrenceId :=
    match source.occurrence with
    | some occurrence => ⟨.known,some (toString occurrence),""⟩
    | none => ⟨.notApplicable,none,"compact_default"⟩

/-- What reaches the gate: the steps of the producers, at any moment, and those of the session. -/
inductive GateEvent
  /-- `receive_fact` reads whether the gate is silent. -/
  | arrives (fact : EngineFact)
  /-- The next load or store of `receive_fact` in a slot. -/
  | proceeds (slot : ℕ)
  /-- `set_audible(false)` of a recovery. -/
  | recover
  /-- The exchanges of `take_exclusions` after a recovery. -/
  | exchangesLast (slot : ℕ)
  | exchangesFirst (slot : ℕ)
  | exchangesUnordered (slot : ℕ)
  /-- The rest of `declare_exclusions`. -/
  | declare
  /-- `set_audible(true)` of a resume or of the next played frame. -/
  | audible
  /-- `set_audible(true)` of the finish of the take. -/
  | finish
  deriving DecidableEq, Repr

/-- A recovery goes through the slots, from which it has exchanged nothing yet, the last sequence, or
the first one too. -/
inductive GatePhase
  | audible | recovering (slot : ℕ) | lastRead (slot : ℕ) | firstRead (slot : ℕ) | settled | finished
  deriving DecidableEq, Repr

/-- The order in which the session calls the gate. -/
def GatePhase.next : GatePhase → GateEvent → Option GatePhase
  | phase, .arrives _ | phase, .proceeds _ => some phase
  | .audible, .recover | .settled, .recover => some (.recovering 0)
  | .recovering next, .exchangesLast slot =>
    if slot = next ∧ slot < producerSlots then some (.lastRead slot) else none
  | .lastRead next, .exchangesFirst slot => if slot = next then some (.firstRead slot) else none
  | .firstRead next, .exchangesUnordered slot =>
    if slot = next then some (.recovering (slot + 1)) else none
  | .recovering next, .declare => if next = producerSlots then some .settled else none
  | .audible, .audible | .settled, .audible => some .audible
  | .audible, .finish | .settled, .finish => some .finished
  | _, _ => none

def sessionOrder (events : List GateEvent) : Option GatePhase :=
  events.foldlM GatePhase.next .audible

/-- A take up to some event: the gate, where each producer is in `receive_fact` and the session in
`take_exclusions`, what the session counts, what it sent to the evidence, and which facts the gate let
through and which it withheld. The other inspection facts are left out: the trace only counts them. -/
structure Take where
  gate : SilentProductionGate := {}
  receiving : ℕ → Option Receiving := fun _ => none
  last : ℕ := 0
  first : ℕ := 0
  excluded : List ExcludedInterval := []
  recoveries : ℕ := 0
  inspectionSequence : ℕ := 0
  sent : List Fact := []
  declared : List ExcludedInterval := []
  forwarded : List CompactId := []
  withheld : List CompactId := []

namespace Take
variable (runId : String) (t : Take)

def setAudible (value : Bool) : Take := { t with gate := t.gate.setSilent !value }

/-- `receive_fact` up to its first access to a slot. A fact that is heard goes on to the observer of
the evidence at once: what the trace makes of the facts does not depend on their order. -/
def receive (fact : EngineFact) : Take :=
  if t.gate.silent then
    { t with
      gate := t.gate.count
      withheld := t.withheld ++ [fact.id]
      receiving :=
        match slotOf fact.id with
        | some slot => Function.update t.receiving slot (some (.counted fact.id.sequence))
        | none => t.receiving }
  else
    { t with
      sent := t.sent ++ [durableFact runId fact]
      forwarded := t.forwarded ++ [fact.id] }

def proceed (slot : ℕ) : Take :=
  match t.receiving slot with
  | none => t
  | some receiving =>
    { t with
      gate := (t.gate.proceed slot receiving).1
      receiving := Function.update t.receiving slot (t.gate.proceed slot receiving).2 }

def exchangeUnordered (slot : ℕ) : Take :=
  let exchanged := t.gate.exchangeUnordered slot
  { t with
    gate := exchanged.1
    excluded := t.excluded ++
      (SilentProductionGate.keptInterval slot t.last t.first exchanged.2).toList }

/-- One `fact_exclusion` of the current recovery. -/
def declareInterval (t : Take) (interval : ExcludedInterval) : Take :=
  let sequence := t.inspectionSequence + 1
  { t with
    inspectionSequence := sequence
    declared := t.declared ++ [interval]
    sent := t.sent ++ [makeFactExclusionFact runId sequence
      { recovery := t.recoveries, producer := "engine-" ++ toString interval.producer,
        sequenceFrom := interval.first, sequenceTo := interval.last }] }

/-- `declare_exclusions` after `take_exclusions`, before the natural end. -/
def declareExclusions : Take :=
  t.excluded.foldl (declareInterval runId) { t with excluded := [], recoveries := t.recoveries + 1 }

def next (t : Take) : GateEvent → Take
  | .arrives fact => t.receive runId fact
  | .proceeds slot => t.proceed slot
  | .recover => t.setAudible false
  | .exchangesLast slot =>
    { t with gate := (t.gate.exchangeLast slot).1, last := (t.gate.exchangeLast slot).2 }
  | .exchangesFirst slot =>
    { t with gate := (t.gate.exchangeFirst slot).1, first := (t.gate.exchangeFirst slot).2 }
  | .exchangesUnordered slot => t.exchangeUnordered slot
  | .declare => t.declareExclusions runId
  | .audible | .finish => t.setAudible true

def run (events : List GateEvent) : Take := events.foldl (next runId) {}

end Take

/-- An arrival: whether the session was silent, and how many times it had read the slot. -/
structure Arrival where
  fact : EngineFact
  silent : Bool
  period : ℕ
  deriving DecidableEq, Repr

/-- The arrivals of a list of events, apart from the gate. The periods are by producer. -/
structure History where
  silent : Bool := false
  period : ℕ → ℕ := fun _ => 0
  declarations : ℕ := 0
  arrivals : List Arrival := []

def History.next (h : History) : GateEvent → History
  | .arrives fact =>
    { h with arrivals := h.arrivals ++ [⟨fact,h.silent,h.period fact.id.producer⟩] }
  | .recover => { h with silent := true }
  | .exchangesLast slot =>
    { h with period := Function.update h.period (slot + 1) (h.period (slot + 1) + 1) }
  | .declare => { h with declarations := h.declarations + 1 }
  | .audible | .finish => { h with silent := false }
  | .proceeds _ | .exchangesFirst _ | .exchangesUnordered _ => h

def history (events : List GateEvent) : History := events.foldl History.next {}

def arrived (events : List GateEvent) : List EngineFact :=
  events.filterMap fun
    | .arrives fact => some fact
    | _ => none

/-- Each producer numbers its facts from one on. -/
def Numbered (facts : List EngineFact) : Prop := ∀ before fact after, facts = before ++ fact :: after →
  fact.id.sequence = before.countP (fun other => other.id.producer = fact.id.producer) + 1

/-- Every cause is one of the facts, in any order of arrival, and no fact is its own ancestor. -/
def Grounded (facts : List EngineFact) : Prop := ∃ rank : CompactId → ℕ, ∀ fact ∈ facts,
  ∀ cause ∈ fact.causes, (∃ other ∈ facts, other.id = cause) ∧ rank cause < rank fact.id

/-- A producer comes with a fact only when it is done with the one before. -/
def Serial (runId : String) (events : List GateEvent) : Prop := ∀ before fact after slot,
  events = before ++ .arrives fact :: after → fact.id.producer = slot + 1 →
    (Take.run runId before).receiving slot = none

/-- No producer is in `receive_fact` when the last sequence of its slot is exchanged, and none comes
with a fact before the first one is exchanged too. -/
structure Calm (runId : String) (events : List GateEvent) : Prop where
  idle : ∀ before slot after, events = before ++ .exchangesLast slot :: after →
    (Take.run runId before).receiving slot = none
  apart : ∀ before fact after slot, events = before ++ .arrives fact :: after →
    fact.id.producer = slot + 1 → sessionOrder before ≠ some (.lastRead slot)

/-- A take up to its finish, in the order of the session. -/
structure FinishedTake where
  runId : String
  identity : runId ≠ "" ∧ runId.utf8ByteSize ≤ maxIdentityBytes
  events : List GateEvent
  ordered : sessionOrder events = some .finished
  serial : Serial runId events
  numbered : Numbered (arrived events)
  grounded : Grounded (arrived events)

section History
variable {events : List GateEvent} {facts : List EngineFact}

lemma Numbered.of_append {more : List EngineFact} (h : Numbered (facts ++ more)) : Numbered facts :=
  fun before fact after hsplit => h before fact (after ++ more) (by simp [hsplit])

lemma Numbered.concat (h : Numbered facts) {fact : EngineFact} (hnumber : fact.id.sequence =
    facts.countP (fun other => other.id.producer = fact.id.producer) + 1) :
    Numbered (facts ++ [fact]) := by
  intro before other after hsplit
  rcases List.eq_nil_or_concat after with rfl | ⟨after,last,rfl⟩
  · obtain ⟨rfl,hlast⟩ := List.append_inj' hsplit rfl
    cases hlast
    exact hnumber
  · have hlonger : facts ++ [fact] = (before ++ other :: after) ++ [last] := by simpa using hsplit
    obtain ⟨rfl,-⟩ := List.append_inj' hlonger rfl
    exact h before other after rfl

/-- The sequences of a producer are those up to the number of its facts. -/
lemma Numbered.mem_iff (h : Numbered facts) (id : CompactId) : (∃ fact ∈ facts, fact.id = id) ↔
    1 ≤ id.sequence ∧ id.sequence ≤ facts.countP fun fact => fact.id.producer = id.producer := by
  induction facts using List.reverseRecOn with
  | nil => simp; omega
  | append_singleton facts fact ih =>
    have hnumber := h facts fact [] rfl
    have hold := ih h.of_append
    simp only [List.mem_append,List.mem_singleton,or_and_right,exists_or,exists_eq_left,hold,
      List.countP_append,List.countP_singleton,decide_eq_true_eq]
    split_ifs with hsame
    · rw [hsame] at hnumber
      constructor
      · rintro (hin | rfl)
        · omega
        · exact ⟨by omega,by omega⟩
      · intro hin
        by_cases hlast : id.sequence = facts.countP (fun other => other.id.producer = id.producer) + 1
        · right
          cases hid : fact.id
          cases id
          simp_all
        · left
          omega
    · constructor
      · rintro (hin | rfl)
        · omega
        · exact absurd rfl hsame
      · exact fun hin => Or.inl (by omega)

/-- Later facts of a producer have later sequences. -/
lemma Numbered.pairwise (h : Numbered facts) : facts.Pairwise fun earlier later =>
    earlier.id.producer = later.id.producer → earlier.id.sequence < later.id.sequence := by
  induction facts using List.reverseRecOn with
  | nil => exact .nil
  | append_singleton facts fact ih =>
    refine List.pairwise_append.mpr ⟨ih h.of_append,List.pairwise_singleton _ _,?_⟩
    intro earlier hearlier later hlater hsame
    obtain rfl := List.mem_singleton.mp hlater
    have hnumber := h facts later [] rfl
    have hin := ((h.of_append.mem_iff earlier.id).mp ⟨earlier,hearlier,rfl⟩).2
    rw [hsame] at hin
    omega

lemma history_append (event : GateEvent) :
    history (events ++ [event]) = (history events).next event := by simp [history]

lemma history_facts (events : List GateEvent) :
    (history events).arrivals.map Arrival.fact = arrived events := by
  induction events using List.reverseRecOn with
  | nil => rfl
  | append_singleton events event ih =>
    rw [history_append,arrived,List.filterMap_append,← arrived]
    cases event <;> simp [History.next,ih]

/-- What the arrivals of a take are like. -/
structure Arranged (h : History) : Prop where
  later : h.arrivals.Pairwise fun a b => a.fact.id.producer = b.fact.id.producer →
    a.period ≤ b.period ∧ a.fact.id.sequence < b.fact.id.sequence
  period : ∀ a ∈ h.arrivals, a.period ≤ h.period a.fact.id.producer
  dense : ∀ id, (∃ a ∈ h.arrivals, a.fact.id = id) ↔ 1 ≤ id.sequence ∧
    id.sequence ≤ h.arrivals.countP fun a => a.fact.id.producer = id.producer

lemma History.period_next (h : History) (event : GateEvent) (producer : ℕ) :
    h.period producer ≤ (h.next event).period producer := by
  cases event with
  | exchangesLast slot =>
    by_cases hsame : producer = slot + 1
    · subst hsame
      simp [History.next]
    · simp [History.next,Function.update_of_ne hsame]
  | _ => exact le_rfl

lemma history_periods (events : List GateEvent) :
    (∀ a ∈ (history events).arrivals, a.period ≤ (history events).period a.fact.id.producer) ∧
      (history events).arrivals.Pairwise fun a b =>
        a.fact.id.producer = b.fact.id.producer → a.period ≤ b.period := by
  induction events using List.reverseRecOn with
  | nil => exact ⟨by simp [history],by simp [history]⟩
  | append_singleton events event ih =>
    obtain ⟨hall,hpairwise⟩ := ih
    rw [history_append]
    have hold : ∀ a ∈ (history events).arrivals,
        a.period ≤ ((history events).next event).period a.fact.id.producer :=
      fun a ha => (hall a ha).trans (History.period_next _ _ _)
    cases event with
    | arrives fact =>
      refine ⟨?_,List.pairwise_append.mpr ⟨hpairwise,List.pairwise_singleton _ _,?_⟩⟩
      · intro a ha
        rcases List.mem_append.mp ha with ha | ha
        · exact hall a ha
        · rw [List.mem_singleton.mp ha]
          exact le_rfl
      · intro a ha b hb hsame
        rw [List.mem_singleton.mp hb] at hsame ⊢
        exact (hall a ha).trans (congrArg (history events).period hsame).le
    | _ => exact ⟨hold,hpairwise⟩

lemma Numbered.arranged (h : Numbered (arrived events)) : Arranged (history events) := by
  obtain ⟨hperiod,hpairwise⟩ := history_periods events
  have hfacts := history_facts events
  refine ⟨?_,hperiod,?_⟩
  · have hsequences := h.pairwise
    rw [← hfacts,List.pairwise_map] at hsequences
    exact (hpairwise.and hsequences).imp fun hab hsame => ⟨hab.1 hsame,hab.2 hsame⟩
  · intro id
    have hmem := h.mem_iff id
    rw [← hfacts] at hmem
    simpa [List.countP_map,Function.comp_def] using hmem

namespace Arranged
variable {h : History} (hh : Arranged h)
include hh

lemma trichotomy {a b : Arrival} (ha : a ∈ h.arrivals) (hb : b ∈ h.arrivals)
    (hsame : a.fact.id.producer = b.fact.id.producer) : a = b ∨
      (a.period ≤ b.period ∧ a.fact.id.sequence < b.fact.id.sequence) ∨
        (b.period ≤ a.period ∧ b.fact.id.sequence < a.fact.id.sequence) := by
  by_cases heq : a = b
  · exact Or.inl heq
  · right
    have hsymm : Std.Symm fun a b : Arrival => a.fact.id.producer = b.fact.id.producer →
        (a.period ≤ b.period ∧ a.fact.id.sequence < b.fact.id.sequence) ∨
          (b.period ≤ a.period ∧ b.fact.id.sequence < a.fact.id.sequence) :=
      ⟨fun _ _ hab hsame => (hab hsame.symm).symm⟩
    have hpairwise : h.arrivals.Pairwise fun a b : Arrival =>
        a.fact.id.producer = b.fact.id.producer →
        (a.period ≤ b.period ∧ a.fact.id.sequence < b.fact.id.sequence) ∨
          (b.period ≤ a.period ∧ b.fact.id.sequence < a.fact.id.sequence) :=
      hh.later.imp fun hab hsame => Or.inl (hab hsame)
    exact hpairwise.forall ha hb heq hsame

lemma injective {a b : Arrival} (ha : a ∈ h.arrivals) (hb : b ∈ h.arrivals)
    (hid : a.fact.id = b.fact.id) : a = b := by
  rcases hh.trichotomy ha hb (by rw [hid]) with heq | hlt | hlt
  · exact heq
  · rw [hid] at hlt
    exact absurd hlt.2 (lt_irrefl _)
  · rw [hid] at hlt
    exact absurd hlt.2 (lt_irrefl _)

lemma nodup : h.arrivals.Nodup := by
  refine hh.later.imp fun hab heq => ?_
  subst heq
  exact lt_irrefl _ (hab rfl).2

/-- Every sequence up to that of an arrival has arrived. -/
lemma exists_earlier {a : Arrival} (ha : a ∈ h.arrivals) {id : CompactId}
    (hproducer : id.producer = a.fact.id.producer) (hfirst : 1 ≤ id.sequence)
    (hlast : id.sequence ≤ a.fact.id.sequence) : ∃ b ∈ h.arrivals, b.fact.id = id := by
  refine (hh.dense id).mpr ⟨hfirst,?_⟩
  rw [hproducer]
  exact hlast.trans ((hh.dense a.fact.id).mp ⟨a,ha,rfl⟩).2

end Arranged
end History

section Periods
open SilentProductionGate
variable {h : History} {runId : String}

/-- The sequences of a producer withheld in one period of its slot. -/
def History.quiet (h : History) (producer period : ℕ) : List ℕ :=
  (h.arrivals.filter fun a => a.silent ∧ a.period = period ∧ a.fact.id.producer = producer).map
    fun a => a.fact.id.sequence

/-- The intervals that one declaration gives. -/
def History.intervals (h : History) (period : ℕ) : List ExcludedInterval :=
  (List.range producerSlots).filterMap fun slot => spanned (slot + 1) (h.quiet (slot + 1) period)

lemma mem_quiet {producer period sequence : ℕ} : sequence ∈ h.quiet producer period ↔
    ∃ a ∈ h.arrivals, a.silent = true ∧ a.period = period ∧ a.fact.id = ⟨producer,sequence⟩ := by
  simp only [History.quiet,List.mem_map,List.mem_filter,decide_eq_true_eq]
  constructor
  · rintro ⟨a,⟨ha,hsilent,hperiod,rfl⟩,rfl⟩
    exact ⟨a,ha,hsilent,hperiod,rfl⟩
  · rintro ⟨a,ha,hsilent,hperiod,hid⟩
    exact ⟨a,⟨ha,hsilent,hperiod,by rw [hid]⟩,by rw [hid]⟩

lemma Arranged.quiet_pairwise (hh : Arranged h) (producer period : ℕ) :
    (h.quiet producer period).Pairwise (· < ·) := by
  refine List.pairwise_map.mpr ((hh.later.filter _).imp_of_mem ?_)
  intro a b ha hb hab
  simp only [List.mem_filter,decide_eq_true_eq] at ha hb
  exact (hab (ha.2.2.2.trans hb.2.2.2.symm)).2

lemma Arranged.quiet_pos (hh : Arranged h) {producer period sequence : ℕ}
    (hs : sequence ∈ h.quiet producer period) : 0 < sequence := by
  obtain ⟨a,ha,-,-,hid⟩ := mem_quiet.mp hs
  have hdense := ((hh.dense a.fact.id).mp ⟨a,ha,rfl⟩).1
  rw [hid] at hdense
  exact hdense

lemma quiet_arrives (fact : EngineFact) (producer period : ℕ) :
    (h.next (.arrives fact)).quiet producer period = h.quiet producer period ++
      if h.silent ∧ h.period fact.id.producer = period ∧ fact.id.producer = producer then
        [fact.id.sequence] else [] := by
  simp only [History.quiet,History.next,List.filter_append,List.map_append]
  congr 1
  split_ifs with hin
  · obtain ⟨hsilent,rfl,rfl⟩ := hin
    simp [hsilent]
  · rw [List.filter_cons_of_neg (by simpa using hin)]
    rfl

/-- A fact of the evidence that declares the interval. -/
def Declares (runId : String) (fact : Fact) (interval : ExcludedInterval) : Prop :=
  ∃ sequence recovery, sequence ≠ 0 ∧ recovery ≠ 0 ∧ fact = makeFactExclusionFact runId sequence
    { recovery, producer := "engine-" ++ toString interval.producer,
      sequenceFrom := interval.first, sequenceTo := interval.last }

end Periods
end AytherRuntime.Inspection
