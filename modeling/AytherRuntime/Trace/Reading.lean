import AytherRuntime.Trace.Accumulator
import AytherRuntime.Library.Settlement

/-! What a fact says to the trace of a run, apart from the order in which facts arrive: nothing, an
exclusion, or one fact of the Engine with the causes it waits for. -/
namespace AytherRuntime.Trace

inductive Reading
  /-- The fact cannot belong to the trace. -/
  | rejected
  /-- An inspection fact that the trace does not use. -/
  | note
  | exclusion (producer first last : ℕ)
  | engine (pending : PendingFact)
  deriving DecidableEq

/-- A fact of the inspection producer. -/
def inspectionReading (fact : Fact) : Reading :=
  if fact.kind = "fact_exclusion" then
    match readFactExclusion fact with
    | none => .rejected
    | some exclusion =>
      match producerNumber exclusion.producer with
      | none => .rejected
      | some producer =>
        if maxReplayTraceFacts < exclusion.sequenceTo then .rejected
        else .exclusion producer exclusion.sequenceFrom exclusion.sequenceTo
  else if fact.kind = "timeline_compiled" then
    if (readTimelineCompiled fact).isSome then .note else .rejected
  else if fact.kind ∈ Accumulator.inspectionKinds then .note
  else .rejected

/-- A fact of an Engine producer. -/
def engineReading (runId : String) (fact : Fact) : Reading :=
  match producerNumber fact.id.producerId with
  | none => .rejected
  | some producer =>
    if maxReplayTraceFacts < fact.id.producerSequence then .rejected
    else
      match Accumulator.compactCauses runId (traceKind fact.kind) fact.causeIds with
      | none => .rejected
      | some causes =>
        .engine ⟨⟨producer,fact.id.producerSequence⟩,traceKind fact.kind,fact.occurrence,causes⟩

def reading (runId : String) (fact : Fact) : Reading :=
  if fact.id.runId ≠ runId ∨ fact.id.producerSequence = 0 then .rejected
  else if fact.id.producerId = inspectionProducer then inspectionReading fact
  else engineReading runId fact

/-- An identity that a table of tokens can hold. -/
def CompactId.Valid (id : CompactId) : Prop :=
  1 ≤ id.producer ∧ id.producer ≤ producerSlots ∧ 1 ≤ id.sequence

/-- The identities that a reading takes: its own fact, or the interval it excludes. -/
def Reading.claims : Reading → List CompactId
  | .exclusion producer first last =>
    (List.range' first (last + 1 - first)).map fun sequence => ⟨producer,sequence⟩
  | .engine pending => [pending.id]
  | _ => []

variable (runId : String) (facts : List Fact)

/-- Every identity that the facts take, in the order of arrival. -/
def claimed : List CompactId := facts.flatMap fun fact => (reading runId fact).claims

/-- The Engine facts among the facts of the run. -/
def consumed : Set PendingFact := {pending | ∃ fact ∈ facts, reading runId fact = .engine pending}

/-- The sequences that the exclusions among the facts declare. -/
def excluded : Set CompactId :=
  {id | ∃ fact ∈ facts, ∃ first last, reading runId fact = .exclusion id.producer first last ∧
    first ≤ id.sequence ∧ id.sequence ≤ last}

/-- The causes that the facts of a run depend on. -/
def dependencies : Settlement.Dependencies CompactId PendingFact := ⟨PendingFact.id,PendingFact.causes⟩

lemma compactCauses_valid {runId : String} {kind : TraceKind} {causes : List Cause}
    {kept : List CompactId} (h : Accumulator.compactCauses runId kind causes = some kept) :
    ∀ cause ∈ kept, cause.Valid := by
  induction causes generalizing kept with
  | nil => cases h; simp
  | cons cause causes ih =>
    cases cause with
    | preexistingContext => exact ih h
    | fact id =>
      unfold Accumulator.compactCauses at h
      split at h
      · cases h
      · rename_i producer hproducer
        split at h
        · cases h
        · rename_i hid
          split at h
          · exact ih h
          · obtain ⟨rest,hrest,rfl⟩ := Option.map_eq_some_iff.mp h
            have hrange := producerNumber_range hproducer
            intro cause hcause
            rcases List.mem_cons.mp hcause with rfl | hcause
            · exact ⟨hrange.1,hrange.2,by rw [not_or] at hid; exact Nat.one_le_iff_ne_zero.mpr hid.2⟩
            · exact ih hrest cause hcause

/-- An Engine fact has an identity of the table and waits for identities of the table. -/
lemma reading_engine_valid {fact : Fact} {pending : PendingFact}
    (h : reading runId fact = .engine pending) :
    pending.id.Valid ∧ pending.id.sequence ≤ maxReplayTraceFacts ∧
      ∀ cause ∈ pending.causes, cause.Valid := by
  unfold reading at h
  split at h
  · cases h
  rename_i hid
  rw [not_or,not_not] at hid
  split at h
  · unfold inspectionReading at h
    repeat' split at h
    all_goals cases h
  unfold engineReading at h
  split at h
  · cases h
  rename_i producer hproducer
  split at h
  · cases h
  rename_i hmax
  split at h
  · cases h
  rename_i causes hcauses
  cases h
  have hrange := producerNumber_range hproducer
  exact ⟨⟨hrange.1,hrange.2,Nat.one_le_iff_ne_zero.mpr hid.2⟩,Nat.le_of_not_lt hmax,
    compactCauses_valid hcauses⟩

/-- An exclusion names a non-empty interval of one producer of the table. -/
lemma reading_exclusion_valid {fact : Fact} {producer first last : ℕ}
    (h : reading runId fact = .exclusion producer first last) :
    1 ≤ producer ∧ producer ≤ producerSlots ∧ 1 ≤ first ∧ first ≤ last ∧
      last ≤ maxReplayTraceFacts := by
  unfold reading at h
  split at h
  · cases h
  split at h
  · unfold inspectionReading at h
    split at h
    · split at h
      · cases h
      rename_i exclusion hexclusion
      split at h
      · cases h
      rename_i number hnumber
      split at h
      · cases h
      rename_i hmax
      cases h
      have hrange := producerNumber_range hnumber
      have hinterval := readFactExclusion_interval hexclusion
      exact ⟨hrange.1,hrange.2,hinterval.1,hinterval.2,Nat.le_of_not_lt hmax⟩
    · repeat' split at h
      all_goals cases h
  · unfold engineReading at h
    repeat' split at h
    all_goals cases h

lemma claims_valid {fact : Fact} : ∀ id ∈ (reading runId fact).claims, id.Valid := by
  intro id hid
  cases hreading : reading runId fact with
  | rejected | note => simp [hreading,Reading.claims] at hid
  | exclusion producer first last =>
    have hvalid := reading_exclusion_valid runId hreading
    simp only [hreading,Reading.claims,List.mem_map,List.mem_range'_1] at hid
    obtain ⟨sequence,hsequence,rfl⟩ := hid
    exact ⟨hvalid.1,hvalid.2.1,hvalid.2.2.1.trans hsequence.1⟩
  | engine pending =>
    simp only [hreading,Reading.claims,List.mem_singleton] at hid
    exact hid ▸ (reading_engine_valid runId hreading).1

/-- An identity is taken by an Engine fact or by an exclusion. -/
lemma mem_claimed (id : CompactId) :
    id ∈ claimed runId facts ↔ (∃ pending ∈ consumed runId facts, pending.id = id) ∨
      id ∈ excluded runId facts := by
  constructor
  · intro h
    obtain ⟨fact,hfact,hid⟩ := List.mem_flatMap.mp h
    cases hreading : reading runId fact with
    | rejected | note => simp [hreading,Reading.claims] at hid
    | exclusion producer first last =>
      simp only [hreading,Reading.claims,List.mem_map,List.mem_range'_1] at hid
      obtain ⟨sequence,hsequence,rfl⟩ := hid
      exact Or.inr ⟨fact,hfact,first,last,hreading,hsequence.1,by dsimp only; omega⟩
    | engine pending =>
      simp only [hreading,Reading.claims,List.mem_singleton] at hid
      exact Or.inl ⟨pending,⟨fact,hfact,hreading⟩,hid.symm⟩
  · rintro (⟨pending,⟨fact,hfact,hreading⟩,rfl⟩ | ⟨fact,hfact,first,last,hreading,hfirst,hlast⟩)
    · exact List.mem_flatMap.mpr ⟨fact,hfact,by simp [hreading,Reading.claims]⟩
    · refine List.mem_flatMap.mpr ⟨fact,hfact,?_⟩
      simp only [hreading,Reading.claims,List.mem_map,List.mem_range'_1]
      exact ⟨id.sequence,by omega,rfl⟩

end AytherRuntime.Trace
