import AytherRuntime.Audio.Integrity
import AytherRuntime.Check.Columns
import AytherRuntime.Check.Outcome
import AytherRuntime.Fact.Inspection

/-! The document of the traversal of a take: what the supervisor builds it from, how it is written, and how
it is read. A number of 64 bits is a signed integer in some columns and a decimal text in others. -/
namespace AytherRuntime.Inspection
open Audio (PcmSegmentInterval)
open Check (Signed Toml TraversalKind traversalKindCode parseTraversalKind mapM_map_eq_some_iff
  readUnsigned_signedValue readDecimal_toString)

section Document

structure TraversalSegment where
  first : UInt64
  last : UInt64
  mode : String
  deriving DecidableEq, Repr

structure TraversalVisit where
  seq : UInt64
  frame : UInt64
  control : String
  deriving DecidableEq, Repr

structure TraversalResume where
  seq : UInt64
  fromFrame : UInt64
  last : UInt64
  mode : String
  deriving DecidableEq, Repr

structure TraversalInterruption where
  seq : UInt64
  frame : UInt64
  deriving DecidableEq, Repr

structure TraversalAudioSegment where
  segment : UInt64
  frameFrom : UInt64
  frameTo : UInt64
  timeline : String
  sampleRate : UInt32
  sampleBegin : UInt64
  sampleEnd : UInt64
  pcmBlocks : UInt64
  deriving DecidableEq, Repr

structure TraversalDocument where
  kind : TraversalKind := .linear
  linearCompleted : Bool := false
  framesTotal : UInt64
  segments : List TraversalSegment := []
  visits : List TraversalVisit := []
  resumeAfter : List TraversalResume := []
  interruptions : List TraversalInterruption := []
  audioSegments : Option (List TraversalAudioSegment) := none
  factExclusions : Option (List FactExclusion) := none
  deriving DecidableEq, Repr

inductive TraversalReadError
  | missing | unreadable | unsupportedVersion | invalid
  deriving DecidableEq, Repr

end Document

section Format

def formatSegment (segment : TraversalSegment) : Toml :=
  .table [("from",.signed segment.first),("to",.signed segment.last),("mode",.string segment.mode)]

def formatVisit (visit : TraversalVisit) : Toml :=
  .table [("seq",.signed visit.seq),("frame",.signed visit.frame),("control",.string visit.control)]

def formatResume (resume : TraversalResume) : Toml :=
  .table [("seq",.signed resume.seq),("from_frame",.signed resume.fromFrame),("to",.signed resume.last),
    ("mode",.string resume.mode)]

def formatInterruption (interruption : TraversalInterruption) : Toml :=
  .table [("seq",.signed interruption.seq),("frame",.signed interruption.frame)]

def formatAudioSegment (segment : TraversalAudioSegment) : Toml :=
  .table [("segment",.signed segment.segment),("frame_from",.signed segment.frameFrom),
    ("frame_to",.signed segment.frameTo),("timeline",.string segment.timeline),
    ("sample_rate",.integer segment.sampleRate.toNat),("sample_begin",.decimal segment.sampleBegin),
    ("sample_end",.decimal segment.sampleEnd),("pcm_blocks",.signed segment.pcmBlocks)]

def formatExclusion (exclusion : FactExclusion) : Toml :=
  .table [("recovery",.signed (.ofNat exclusion.recovery)),("producer",.string exclusion.producer),
    ("sequence_from",.string (toString exclusion.sequenceFrom)),
    ("sequence_to",.string (toString exclusion.sequenceTo)),("cause",.string exclusion.cause)]

/-- The table that `format_traversal` prints. -/
def formatTraversal (document : TraversalDocument) : Toml :=
  .table ([("schema_version",Toml.integer 1),("schema_minor",.integer 2),
      ("kind",.string (traversalKindCode document.kind)),("linear_completed",.boolean document.linearCompleted),
      ("frames_total",.signed document.framesTotal),("segments",.array (document.segments.map formatSegment)),
      ("visits",.array (document.visits.map formatVisit)),
      ("resume_after",.array (document.resumeAfter.map formatResume)),
      ("interruptions",.array (document.interruptions.map formatInterruption))] ++
    (match document.audioSegments with
      | some segments => [("audio_segments",Toml.array (segments.map formatAudioSegment))]
      | none => []) ++
    (match document.factExclusions with
      | some exclusions => [("fact_exclusions",Toml.array (exclusions.map formatExclusion))]
      | none => []))

end Format

section Parse

def parseSegment (entry : Toml) : Option TraversalSegment := do
  let first ← entry.unsignedValue "from"
  let last ← entry.unsignedValue "to"
  let mode ← entry.text "mode"
  some ⟨first,last,mode⟩

def parseVisit (entry : Toml) : Option TraversalVisit := do
  let seq ← entry.unsignedValue "seq"
  let frame ← entry.unsignedValue "frame"
  let control ← entry.text "control"
  some ⟨seq,frame,control⟩

def parseResume (entry : Toml) : Option TraversalResume := do
  let seq ← entry.unsignedValue "seq"
  let fromFrame ← entry.unsignedValue "from_frame"
  let last ← entry.unsignedValue "to"
  let mode ← entry.text "mode"
  some ⟨seq,fromFrame,last,mode⟩

def parseInterruption (entry : Toml) : Option TraversalInterruption := do
  let seq ← entry.unsignedValue "seq"
  let frame ← entry.unsignedValue "frame"
  some ⟨seq,frame⟩

def parseAudioSegment (entry : Toml) : Option TraversalAudioSegment := do
  let segment ← entry.unsignedValue "segment"
  let frameFrom ← entry.unsignedValue "frame_from"
  let frameTo ← entry.unsignedValue "frame_to"
  let timeline ← entry.text "timeline"
  let rate ← entry.unsignedValue "sample_rate"
  let sampleBegin ← entry.decimalValue "sample_begin"
  let sampleEnd ← entry.decimalValue "sample_end"
  let blocks ← entry.unsignedValue "pcm_blocks"
  if 2 ^ 32 - 1 < rate.toNat ∨ sampleEnd < sampleBegin then none
  else some ⟨segment,frameFrom,frameTo,timeline,.ofNat rate.toNat,sampleBegin,sampleEnd,blocks⟩

def parseExclusion (entry : Toml) : Option FactExclusion := do
  let recovery ← entry.unsignedValue "recovery"
  let producer ← entry.text "producer"
  let first ← entry.decimalValue "sequence_from"
  let last ← entry.decimalValue "sequence_to"
  let cause ← entry.text "cause"
  if recovery = 0 ∨ ¬enginePrefix.isPrefixOf producer.toList ∨ first = 0 ∨ last < first ∨
      cause ≠ silentRecoveryCause then none
  else some ⟨recovery.toNat,producer,first.toNat,last.toNat,cause⟩

/-- A list that may be absent; when it is there every entry is complete. -/
def optionalTables {α : Type} (key : String) (parse : Toml → Option α) (table : Toml) :
    Option (Option (List α)) :=
  match table.get key with
  | none => some none
  | some _ => ((table.tables key).bind fun nodes => nodes.mapM parse).map some

def parseDocument (table : Toml) : Option TraversalDocument := do
  let kind ← (table.text "kind").bind parseTraversalKind
  let completed ← table.flag "linear_completed"
  let total ← table.unsignedValue "frames_total"
  let segments ← (table.tables "segments").bind fun nodes => nodes.mapM parseSegment
  let visits ← (table.tables "visits").bind fun nodes => nodes.mapM parseVisit
  let resumes ← (table.tables "resume_after").bind fun nodes => nodes.mapM parseResume
  let interruptions ← (table.tables "interruptions").bind fun nodes => nodes.mapM parseInterruption
  let audio ← optionalTables "audio_segments" parseAudioSegment table
  let exclusions ← optionalTables "fact_exclusions" parseExclusion table
  some ⟨kind,completed,total,segments,visits,resumes,interruptions,audio,exclusions⟩

/-- `parse_traversal` of a parsed table. -/
def parseTraversal (table : Toml) : Except TraversalReadError TraversalDocument :=
  match table.number "schema_version" with
  | none => .error .invalid
  | some version =>
    if version ≠ 1 then .error .unsupportedVersion
    else
      match parseDocument table with
      | some document => .ok document
      | none => .error .invalid

end Parse

section Columns

def TraversalSegment.Signed (segment : TraversalSegment) : Prop :=
  Check.Signed segment.first ∧ Check.Signed segment.last

def TraversalVisit.Signed (visit : TraversalVisit) : Prop := Check.Signed visit.seq ∧ Check.Signed visit.frame

def TraversalResume.Signed (resume : TraversalResume) : Prop :=
  Check.Signed resume.seq ∧ Check.Signed resume.fromFrame ∧ Check.Signed resume.last

def TraversalInterruption.Signed (interruption : TraversalInterruption) : Prop :=
  Check.Signed interruption.seq ∧ Check.Signed interruption.frame

/-- The samples of a segment are an interval, and its numbers fit their columns. -/
def TraversalAudioSegment.Signed (segment : TraversalAudioSegment) : Prop :=
  Check.Signed segment.segment ∧ Check.Signed segment.frameFrom ∧ Check.Signed segment.frameTo ∧
    Check.Signed segment.pcmBlocks ∧ segment.sampleBegin ≤ segment.sampleEnd

/-- Every number that is written as a signed integer fits one. -/
structure TraversalDocument.Signed (document : TraversalDocument) : Prop where
  framesTotal : Check.Signed document.framesTotal
  segments : ∀ segment ∈ document.segments, segment.Signed
  visits : ∀ visit ∈ document.visits, visit.Signed
  resumeAfter : ∀ resume ∈ document.resumeAfter, resume.Signed
  interruptions : ∀ interruption ∈ document.interruptions, interruption.Signed
  audioSegments : ∀ segments, document.audioSegments = some segments → ∀ segment ∈ segments, segment.Signed
  factExclusions : ∀ exclusions, document.factExclusions = some exclusions →
    ∀ exclusion ∈ exclusions, exclusion.recovery < 2 ^ 63

lemma unsignedValue_eq {entry : Toml} {key : String} {n : UInt64} (h : entry.get key = some (.signed n)) :
    entry.unsignedValue key = if Check.Signed n then some n else none := by
  rw [Toml.unsignedValue,Toml.number,h,← readUnsigned_signedValue]
  rfl

lemma decimalValue_eq {entry : Toml} {key : String} {n : UInt64} (h : entry.get key = some (.decimal n)) :
    entry.decimalValue key = some n := by
  rw [Toml.decimalValue,Toml.text,h]
  exact readDecimal_toString n

lemma parseSegment_format (segment : TraversalSegment) :
    parseSegment (formatSegment segment) = some segment ↔ segment.Signed := by
  have hfirst : (formatSegment segment).unsignedValue "from" = _ := unsignedValue_eq rfl
  have hlast : (formatSegment segment).unsignedValue "to" = _ := unsignedValue_eq rfl
  have hmode : (formatSegment segment).text "mode" = some segment.mode := rfl
  unfold parseSegment TraversalSegment.Signed
  rw [hfirst,hlast,hmode]
  simp [Option.bind_eq_some_iff]

lemma parseVisit_format (visit : TraversalVisit) :
    parseVisit (formatVisit visit) = some visit ↔ visit.Signed := by
  have hseq : (formatVisit visit).unsignedValue "seq" = _ := unsignedValue_eq rfl
  have hframe : (formatVisit visit).unsignedValue "frame" = _ := unsignedValue_eq rfl
  have hcontrol : (formatVisit visit).text "control" = some visit.control := rfl
  unfold parseVisit TraversalVisit.Signed
  rw [hseq,hframe,hcontrol]
  simp [Option.bind_eq_some_iff]

lemma parseResume_format (resume : TraversalResume) :
    parseResume (formatResume resume) = some resume ↔ resume.Signed := by
  have hseq : (formatResume resume).unsignedValue "seq" = _ := unsignedValue_eq rfl
  have hfirst : (formatResume resume).unsignedValue "from_frame" = _ := unsignedValue_eq rfl
  have hlast : (formatResume resume).unsignedValue "to" = _ := unsignedValue_eq rfl
  have hmode : (formatResume resume).text "mode" = some resume.mode := rfl
  unfold parseResume TraversalResume.Signed
  rw [hseq,hfirst,hlast,hmode]
  simp [Option.bind_eq_some_iff]

lemma parseInterruption_format (interruption : TraversalInterruption) :
    parseInterruption (formatInterruption interruption) = some interruption ↔ interruption.Signed := by
  have hseq : (formatInterruption interruption).unsignedValue "seq" = _ := unsignedValue_eq rfl
  have hframe : (formatInterruption interruption).unsignedValue "frame" = _ := unsignedValue_eq rfl
  unfold parseInterruption TraversalInterruption.Signed
  rw [hseq,hframe]
  simp [Option.bind_eq_some_iff]

/-- A rate of 32 bits fits a signed column. -/
lemma readUnsigned_rate (rate : UInt32) : Check.readUnsigned (rate.toNat : Int) = some (.ofNat rate.toNat) := by
  rw [Check.readUnsigned,if_neg (by omega),Int.toNat_natCast]

lemma parseAudioSegment_format (segment : TraversalAudioSegment) :
    parseAudioSegment (formatAudioSegment segment) = some segment ↔ segment.Signed := by
  have hsegment : (formatAudioSegment segment).unsignedValue "segment" = _ := unsignedValue_eq rfl
  have hfirst : (formatAudioSegment segment).unsignedValue "frame_from" = _ := unsignedValue_eq rfl
  have hlast : (formatAudioSegment segment).unsignedValue "frame_to" = _ := unsignedValue_eq rfl
  have htimeline : (formatAudioSegment segment).text "timeline" = some segment.timeline := rfl
  have hrate : (formatAudioSegment segment).unsignedValue "sample_rate" = _ := readUnsigned_rate segment.sampleRate
  have hbegin : (formatAudioSegment segment).decimalValue "sample_begin" = _ := decimalValue_eq rfl
  have hend : (formatAudioSegment segment).decimalValue "sample_end" = _ := decimalValue_eq rfl
  have hblocks : (formatAudioSegment segment).unsignedValue "pcm_blocks" = _ := unsignedValue_eq rfl
  have hbound : segment.sampleRate.toNat ≤ 4294967295 := Nat.le_of_lt_succ segment.sampleRate.toNat_lt
  unfold parseAudioSegment TraversalAudioSegment.Signed
  rw [hsegment,hfirst,hlast,htimeline,hrate,hbegin,hend,hblocks]
  simp [Option.bind_eq_some_iff,hbound]

/-- What a fact of an exclusion is read to: numbers of 64 bits. -/
structure Admitted (exclusion : FactExclusion) : Prop where
  read : ∃ fact, readFactExclusion fact = some exclusion
  recovery : exclusion.recovery < 2 ^ 64
  sequenceTo : exclusion.sequenceTo < 2 ^ 64

/-- The checks of the reader of the facts are the checks of the reader of the document. -/
lemma readFactExclusion_checks {fact : Fact} {exclusion : FactExclusion}
    (h : readFactExclusion fact = some exclusion) :
    exclusion.recovery ≠ 0 ∧ enginePrefix.isPrefixOf exclusion.producer.toList = true ∧
      exclusion.sequenceFrom ≠ 0 ∧ exclusion.sequenceFrom ≤ exclusion.sequenceTo ∧
      exclusion.cause = silentRecoveryCause := by
  unfold readFactExclusion at h
  split at h
  · cases h
  · split at h
    · split at h
      · cases h
      · rename_i hchecks
        cases h
        simp only [not_or,not_not,not_lt] at hchecks
        exact hchecks
    · cases h

lemma ofNat_eq_zero {n : ℕ} (h : n < 2 ^ 64) : UInt64.ofNat n = 0 ↔ n = 0 := by
  rw [← UInt64.toNat_inj,UInt64.toNat_ofNat_of_lt' h]
  rfl

lemma signed_ofNat {n : ℕ} (h : n < 2 ^ 64) : Check.Signed (.ofNat n) ↔ n < 2 ^ 63 := by
  rw [Check.Signed,UInt64.toNat_ofNat_of_lt' h]

lemma decimalValue_ofNat {entry : Toml} {key : String} {n : ℕ} (h : n < 2 ^ 64)
    (hentry : entry.get key = some (.string (toString n))) : entry.decimalValue key = some (.ofNat n) := by
  rw [Toml.decimalValue,Toml.text,hentry]
  have hread := readDecimal_toString (.ofNat n)
  rwa [UInt64.toNat_ofNat_of_lt' h] at hread

lemma parseExclusion_format {exclusion : FactExclusion} (h : Admitted exclusion) :
    parseExclusion (formatExclusion exclusion) = some exclusion ↔ exclusion.recovery < 2 ^ 63 := by
  obtain ⟨fact,hread⟩ := h.read
  obtain ⟨hpositive,hproducer,hfirst,hinterval,hcause⟩ := readFactExclusion_checks hread
  have hbound : exclusion.sequenceFrom < 2 ^ 64 := lt_of_le_of_lt hinterval h.sequenceTo
  have hrecovery : (formatExclusion exclusion).unsignedValue "recovery" = _ := unsignedValue_eq rfl
  have hname : (formatExclusion exclusion).text "producer" = some exclusion.producer := rfl
  have hfrom : (formatExclusion exclusion).decimalValue "sequence_from" = _ := decimalValue_ofNat hbound rfl
  have hto : (formatExclusion exclusion).decimalValue "sequence_to" = _ := decimalValue_ofNat h.sequenceTo rfl
  have hreason : (formatExclusion exclusion).text "cause" = some exclusion.cause := rfl
  have hchecks : ¬(UInt64.ofNat exclusion.recovery = 0 ∨ ¬enginePrefix.isPrefixOf exclusion.producer.toList ∨
      UInt64.ofNat exclusion.sequenceFrom = 0 ∨
      UInt64.ofNat exclusion.sequenceTo < UInt64.ofNat exclusion.sequenceFrom ∨
      exclusion.cause ≠ silentRecoveryCause) := by
    rw [ofNat_eq_zero h.recovery,ofNat_eq_zero hbound,UInt64.lt_iff_toNat_lt,UInt64.toNat_ofNat_of_lt' hbound,
      UInt64.toNat_ofNat_of_lt' h.sequenceTo]
    simp only [not_or,not_not,not_lt]
    exact ⟨hpositive,hproducer,hfirst,hinterval,hcause⟩
  have hback : (⟨(UInt64.ofNat exclusion.recovery).toNat,exclusion.producer,
      (UInt64.ofNat exclusion.sequenceFrom).toNat,(UInt64.ofNat exclusion.sequenceTo).toNat,exclusion.cause⟩ :
      FactExclusion) = exclusion := by
    rw [UInt64.toNat_ofNat_of_lt' h.recovery,UInt64.toNat_ofNat_of_lt' hbound,
      UInt64.toNat_ofNat_of_lt' h.sequenceTo]
  unfold parseExclusion
  rw [hrecovery,hname,hfrom,hto,hreason,← signed_ofNat h.recovery]
  by_cases hsigned : Check.Signed (.ofNat exclusion.recovery)
  · rw [if_pos hsigned]
    simp only [Option.bind_eq_bind,Option.bind_some]
    rw [if_neg hchecks,hback]
    exact iff_of_true rfl hsigned
  · rw [if_neg hsigned]
    exact iff_of_false (by rintro ⟨⟩) hsigned

end Columns

section RoundTrip

/-- The exclusions of a document come from facts. -/
def TraversalDocument.Admitted (document : TraversalDocument) : Prop :=
  ∀ exclusions, document.factExclusions = some exclusions → ∀ exclusion ∈ exclusions, Inspection.Admitted exclusion

lemma tables_eq {α : Type} {table : Toml} {key : String} {format : α → Toml} {l : List α}
    (hformat : ∀ a, (format a).isTable = true) (h : table.get key = some (.array (l.map format))) :
    table.tables key = some (l.map format) := by
  rw [Toml.tables,Toml.rows,h]
  simp [Toml.asArray,hformat]

lemma optionalTables_none {α : Type} {table : Toml} {key : String} {parse : Toml → Option α}
    (h : table.get key = none) : optionalTables key parse table = some none := by
  rw [optionalTables,h]

lemma optionalTables_some {α : Type} {table : Toml} {key : String} {parse : Toml → Option α} {format : α → Toml}
    {l : List α} (hformat : ∀ a, (format a).isTable = true)
    (h : table.get key = some (.array (l.map format))) :
    optionalTables key parse table = ((l.map format).mapM parse).map some := by
  rw [optionalTables,h]
  dsimp only
  rw [tables_eq hformat h]
  rfl

lemma audioSegments_eq_some {document : TraversalDocument} :
    optionalTables "audio_segments" parseAudioSegment (formatTraversal document) = some document.audioSegments ↔
      ∀ segments, document.audioSegments = some segments → ∀ segment ∈ segments, segment.Signed := by
  obtain ⟨kind,completed,total,segments,visits,resumes,interruptions,audio,exclusions⟩ := document
  cases audio with
  | none =>
    have hget : (formatTraversal ⟨kind,completed,total,segments,visits,resumes,interruptions,none,exclusions⟩).get
        "audio_segments" = none := by cases exclusions <;> rfl
    exact iff_of_true (optionalTables_none hget) (by rintro _ ⟨⟩)
  | some audio =>
    have hget : (formatTraversal
        ⟨kind,completed,total,segments,visits,resumes,interruptions,some audio,exclusions⟩).get "audio_segments" =
          some (.array (audio.map formatAudioSegment)) := rfl
    rw [optionalTables_some (fun _ => rfl) hget]
    simp only [Option.map_eq_some_iff,Option.some.injEq,exists_eq_right,mapM_map_eq_some_iff,parseAudioSegment_format]
    exact ⟨fun h _ hsame => hsame ▸ h,fun h => h audio rfl⟩

lemma factExclusions_eq_some {document : TraversalDocument} (h : document.Admitted) :
    optionalTables "fact_exclusions" parseExclusion (formatTraversal document) = some document.factExclusions ↔
      ∀ exclusions, document.factExclusions = some exclusions →
        ∀ exclusion ∈ exclusions, exclusion.recovery < 2 ^ 63 := by
  obtain ⟨kind,completed,total,segments,visits,resumes,interruptions,audio,exclusions⟩ := document
  cases exclusions with
  | none =>
    have hget : (formatTraversal ⟨kind,completed,total,segments,visits,resumes,interruptions,audio,none⟩).get
        "fact_exclusions" = none := by cases audio <;> rfl
    exact iff_of_true (optionalTables_none hget) (by rintro _ ⟨⟩)
  | some exclusions =>
    have hget : (formatTraversal
        ⟨kind,completed,total,segments,visits,resumes,interruptions,audio,some exclusions⟩).get "fact_exclusions" =
          some (.array (exclusions.map formatExclusion)) := by cases audio <;> rfl
    have hrows : ∀ exclusion ∈ exclusions,
        (parseExclusion (formatExclusion exclusion) = some exclusion ↔ exclusion.recovery < 2 ^ 63) :=
      fun exclusion hmem => parseExclusion_format (h exclusions rfl exclusion hmem)
    rw [optionalTables_some (fun _ => rfl) hget]
    simp only [Option.map_eq_some_iff,Option.some.injEq,exists_eq_right,mapM_map_eq_some_iff]
    constructor
    · rintro hread _ ⟨⟩ exclusion hmem
      exact (hrows exclusion hmem).mp (hread exclusion hmem)
    · exact fun hsigned exclusion hmem => (hrows exclusion hmem).mpr (hsigned exclusions rfl exclusion hmem)

lemma parseDocument_format {document : TraversalDocument} (h : document.Admitted) :
    parseDocument (formatTraversal document) = some document ↔ document.Signed := by
  have hkind : ((formatTraversal document).text "kind").bind parseTraversalKind = some document.kind :=
    Check.parseTraversalKind_code document.kind
  have hcompleted : (formatTraversal document).flag "linear_completed" = some document.linearCompleted := rfl
  have htotal : (formatTraversal document).unsignedValue "frames_total" = _ := unsignedValue_eq rfl
  have hsegments : (formatTraversal document).tables "segments" = _ := tables_eq (fun _ => rfl) rfl
  have hvisits : (formatTraversal document).tables "visits" = _ := tables_eq (fun _ => rfl) rfl
  have hresumes : (formatTraversal document).tables "resume_after" = _ := tables_eq (fun _ => rfl) rfl
  have hinterruptions : (formatTraversal document).tables "interruptions" = _ := tables_eq (fun _ => rfl) rfl
  unfold parseDocument
  rw [hkind,hcompleted,htotal,hsegments,hvisits,hresumes,hinterruptions]
  simp only [Option.bind_eq_bind,Option.bind_some,Option.bind_eq_some_iff,Option.ite_none_right_eq_some]
  constructor
  · rintro ⟨total,⟨hsigned,-⟩,segments,hsegments,visits,hvisits,resumes,hresumes,interruptions,hinterruptions,audio,
      haudio,exclusions,hexclusions,hdocument⟩
    have hdocument := Option.some.inj hdocument
    obtain ⟨rfl⟩ : segments = document.segments := congrArg TraversalDocument.segments hdocument
    obtain ⟨rfl⟩ : visits = document.visits := congrArg TraversalDocument.visits hdocument
    obtain ⟨rfl⟩ : resumes = document.resumeAfter := congrArg TraversalDocument.resumeAfter hdocument
    obtain ⟨rfl⟩ : interruptions = document.interruptions := congrArg TraversalDocument.interruptions hdocument
    obtain ⟨rfl⟩ : audio = document.audioSegments := congrArg TraversalDocument.audioSegments hdocument
    obtain ⟨rfl⟩ : exclusions = document.factExclusions := congrArg TraversalDocument.factExclusions hdocument
    exact ⟨hsigned,fun segment hmem => (parseSegment_format segment).mp (mapM_map_eq_some_iff.mp hsegments _ hmem),
      fun visit hmem => (parseVisit_format visit).mp (mapM_map_eq_some_iff.mp hvisits _ hmem),
      fun resume hmem => (parseResume_format resume).mp (mapM_map_eq_some_iff.mp hresumes _ hmem),
      fun interruption hmem =>
        (parseInterruption_format interruption).mp (mapM_map_eq_some_iff.mp hinterruptions _ hmem),
      audioSegments_eq_some.mp haudio,(factExclusions_eq_some h).mp hexclusions⟩
  · intro hsigned
    exact ⟨_,⟨hsigned.framesTotal,rfl⟩,
      _,mapM_map_eq_some_iff.mpr fun segment hmem => (parseSegment_format segment).mpr (hsigned.segments _ hmem),
      _,mapM_map_eq_some_iff.mpr fun visit hmem => (parseVisit_format visit).mpr (hsigned.visits _ hmem),
      _,mapM_map_eq_some_iff.mpr fun resume hmem => (parseResume_format resume).mpr (hsigned.resumeAfter _ hmem),
      _,mapM_map_eq_some_iff.mpr fun interruption hmem =>
        (parseInterruption_format interruption).mpr (hsigned.interruptions _ hmem),
      _,audioSegments_eq_some.mpr hsigned.audioSegments,
      _,(factExclusions_eq_some h).mpr hsigned.factExclusions,rfl⟩

/-- The document of a traversal is read back exactly where each number fits the column that it is written in. -/
theorem parseTraversal_format_iff {document : TraversalDocument} (h : document.Admitted) :
    parseTraversal (formatTraversal document) = .ok document ↔ document.Signed := by
  have hversion : (formatTraversal document).number "schema_version" = some 1 := rfl
  rw [← parseDocument_format h,parseTraversal,hversion]
  dsimp only
  rw [if_neg (not_not.mpr rfl)]
  cases hdocument : parseDocument (formatTraversal document) with
  | none => simp
  | some read => simp

def plainExclusion : FactExclusion := ⟨1,"engine-1",4,9,silentRecoveryCause⟩

def plainTraversal : TraversalDocument where
  kind := .inspection
  framesTotal := 8
  segments := [⟨0,5,"linear"⟩]
  visits := [⟨1,5,"pause"⟩,⟨2,4,"step_back"⟩,⟨3,4,"resume"⟩]
  resumeAfter := [⟨3,5,7,"continued"⟩]
  audioSegments := some [⟨0,0,5,"line",48000,0,4800,2⟩]
  factExclusions := some [plainExclusion]

theorem plainTraversal_reads : parseTraversal (formatTraversal plainTraversal) = .ok plainTraversal := by
  have hadmitted : plainTraversal.Admitted := by
    rintro _ ⟨⟩ exclusion hexclusion
    cases List.mem_singleton.mp hexclusion
    exact ⟨⟨makeFactExclusionFact "run" 1 plainExclusion,by decide⟩,by decide,by decide⟩
  have hsigned : plainTraversal.Signed := by
    refine ⟨by decide,?_,?_,?_,?_,?_,?_⟩
    · exact List.forall_mem_singleton.mpr (by unfold TraversalSegment.Signed; decide)
    · unfold TraversalVisit.Signed
      decide
    · exact List.forall_mem_singleton.mpr (by unfold TraversalResume.Signed; decide)
    · rintro _ ⟨⟩
    · rintro _ ⟨⟩
      exact List.forall_mem_singleton.mpr (by unfold TraversalAudioSegment.Signed; decide)
    · rintro _ ⟨⟩
      exact List.forall_mem_singleton.mpr (by decide)
  exact (parseTraversal_format_iff hadmitted).mpr hsigned

end RoundTrip
end AytherRuntime.Inspection
