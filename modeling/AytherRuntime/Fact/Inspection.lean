import AytherRuntime.Fact.Model

/-! The facts of the inspection producer: how the records of the Runtime are read from them. -/
namespace AytherRuntime

def inspectionProducer : String := "inspection"

def silentRecoveryCause : String := "silent_recovery"

/-- `field_named`: the first field of the name decides, and only when it is known. -/
def Fact.fieldNamed (fact : Fact) (name : String) : Option FactField :=
  match fact.fields.find? (fun field => field.name = name) with
  | some field => if field.availability = .known then some field else none
  | none => none

def Fact.knownUInt64 (fact : Fact) (name : String) : Option ℕ :=
  match (fact.fieldNamed name).map FactField.value with
  | some (.uint64 value) => some value
  | _ => none

def Fact.knownText (fact : Fact) (name : String) : Option String :=
  match (fact.fieldNamed name).map FactField.value with
  | some (.text value) => some value
  | _ => none

def Fact.knownBool (fact : Fact) (name : String) : Option Bool :=
  match (fact.fieldNamed name).map FactField.value with
  | some (.bool value) => some value
  | _ => none

def Fact.knownDouble (fact : Fact) (name : String) : Option UInt64 :=
  match (fact.fieldNamed name).map FactField.value with
  | some (.double bits) => some bits
  | _ => none

/-- An interval of the sequences of one producer, both ends included, that was produced in
silence. -/
structure FactExclusion where
  recovery : ℕ
  producer : String
  sequenceFrom : ℕ
  sequenceTo : ℕ
  cause : String := silentRecoveryCause
  deriving DecidableEq, Repr

structure TimelineCompiledRecord where
  fps : UInt64
  frames : ℕ
  steps : ℕ
  start : String
  stateId : String
  fmSidecar : String
  fmSeeded : Bool
  deriving DecidableEq, Repr

/-- `known`: a field of the builders. -/
def knownField (name : String) (value : FactFieldValue) (unit : FactFieldUnit := .none) : FactField :=
  { name, availability := .known, unit, value }

def makeFactExclusionFact (runId : String) (producerSequence : ℕ) (exclusion : FactExclusion) : Fact where
  id := ⟨runId,inspectionProducer,producerSequence⟩
  kind := "fact_exclusion"
  fields := [knownField "recovery" (.uint64 exclusion.recovery) .count,
    knownField "producer" (.text exclusion.producer),
    knownField "sequence_from" (.uint64 exclusion.sequenceFrom) .count,
    knownField "sequence_to" (.uint64 exclusion.sequenceTo) .count,
    knownField "cause" (.text exclusion.cause)]

def readTimelineCompiled (fact : Fact) : Option TimelineCompiledRecord :=
  if fact.kind ≠ "timeline_compiled" ∨ fact.id.producerId ≠ inspectionProducer then none
  else
    match fact.knownDouble "fps", fact.knownUInt64 "frames", fact.knownUInt64 "steps",
      fact.knownText "start", fact.knownText "fm_sidecar", fact.knownBool "fm_seeded" with
    | some fps, some frames, some steps, some start, some sidecar, some seeded =>
      let stateId := fact.knownText "state_id"
      if frames = 0 ∨ (start ≠ "power_on" ∧ start ≠ "state") ∨
          decide (start = "state") ≠ stateId.isSome then none
      else some ⟨fps,frames,steps,start,stateId.getD "",sidecar,seeded⟩
    | _, _, _, _, _, _ => none

def readFactExclusion (fact : Fact) : Option FactExclusion :=
  if fact.kind ≠ "fact_exclusion" ∨ fact.id.producerId ≠ inspectionProducer then none
  else
    match fact.knownUInt64 "recovery", fact.knownText "producer", fact.knownUInt64 "sequence_from",
      fact.knownUInt64 "sequence_to", fact.knownText "cause" with
    | some recovery, some producer, some first, some last, some cause =>
      if recovery = 0 ∨ ¬enginePrefix.isPrefixOf producer.toList ∨ first = 0 ∨ last < first ∨
          cause ≠ silentRecoveryCause then none
      else some ⟨recovery,producer,first,last,cause⟩
    | _, _, _, _, _ => none

/-- A fact that reads as an exclusion names a non-empty interval from 1 on. -/
lemma readFactExclusion_interval {fact : Fact} {exclusion : FactExclusion}
    (h : readFactExclusion fact = some exclusion) :
    1 ≤ exclusion.sequenceFrom ∧ exclusion.sequenceFrom ≤ exclusion.sequenceTo := by
  unfold readFactExclusion at h
  split at h
  · cases h
  · split at h
    · split at h
      · cases h
      · cases h
        dsimp only
        omega
    · cases h

/-- The reader takes back what the builder wrote, for every exclusion with an Engine producer. -/
theorem readFactExclusion_make (runId : String) (producerSequence : ℕ) (exclusion : FactExclusion)
    (hrecovery : exclusion.recovery ≠ 0)
    (hproducer : enginePrefix.isPrefixOf exclusion.producer.toList = true)
    (hfirst : 1 ≤ exclusion.sequenceFrom) (hlast : exclusion.sequenceFrom ≤ exclusion.sequenceTo)
    (hcause : exclusion.cause = silentRecoveryCause) :
    readFactExclusion (makeFactExclusionFact runId producerSequence exclusion) = some exclusion := by
  have hfirst0 : exclusion.sequenceFrom ≠ 0 := by omega
  simp [readFactExclusion,makeFactExclusionFact,Fact.knownUInt64,Fact.knownText,Fact.fieldNamed,
    knownField,hrecovery,hproducer,hfirst0,hlast,hcause]
  cases exclusion
  simp_all

end AytherRuntime
