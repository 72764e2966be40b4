import AytherRuntime.Channel.PcmDelivery
import AytherRuntime.Mix.TraceQuery

/-! The index of the routes of one query: how it is written, and what is read back from it. -/
namespace AytherRuntime.Binary.Mix
open Channel (TomlText bytesAt bytesAt_textNode decimalAt decimalAt_decimalNode decimalNode linesBytes named textNode)
open Check (Toml mapM_map_some)
open Codec (Bytes)

section Entries

structure EvidenceQueryEntry where
  origin : FactId
  route : EventAudioRoute
  deriving DecidableEq

inductive EvidenceQueryIndexError
  | invalidContent | tooLarge | ioError | malformedDocument | incompatibleVersion
  deriving DecidableEq, Repr

def maxQueryEntries : ℕ := 4096

/-- No control character is in the text. -/
def printable (value : Bytes) : Bool := value.all fun character => decide (0x20 ≤ character) && character != 0x7f

def identity (value : Bytes) : Bool := identifier value && printable value

def validQueryId (id : FactId) : Bool := identity id.runId && identity id.producerId && id.producerSequence != 0

def EvidenceQueryEntry.valid (entry : EvidenceQueryEntry) : Bool :=
  validQueryId entry.origin && identity entry.route.mixSpanId && identity entry.route.relationReason &&
    wellFormedRange entry.route.outputRange && decide (entry.route.factPath.length ≤ maxFactCauses) &&
    decide (entry.route.factPath.head? = some entry.origin) &&
    entry.route.factPath.all fun id => validQueryId id && decide (id.runId = entry.origin.runId)

/-- `make_evidence_query_index` -/
def makeEvidenceQueryIndex (origin : FactId) (result : EventAudioQueryResult) :
    Except EvidenceQueryIndexError (List EvidenceQueryEntry) :=
  if !validQueryId origin || decide (result.status ≠ .found) || result.routes.isEmpty ||
      decide (maxQueryEntries < result.routes.length) then .error .invalidContent
  else
    let entries := result.routes.map fun route => ⟨origin,route⟩
    if entries.all EvidenceQueryEntry.valid then .ok entries else .error .invalidContent

/-- `query_evidence_index` -/
def queryEvidenceIndex (index : List EvidenceQueryEntry) (origin : FactId) : List EventAudioRoute :=
  (index.filter fun entry => decide (entry.origin = origin)).map EvidenceQueryEntry.route

end Entries

section Write

def basisName : TraceRelationBasis → String
  | .explicitCause => "explicit_cause"
  | .temporalCorrelation => "temporal_correlation"

def factIdTable (id : FactId) : Toml :=
  .table [("run_id",textNode id.runId),("producer_id",textNode id.producerId),
    ("sequence",decimalNode id.producerSequence.toNat)]

def entryTable (entry : EvidenceQueryEntry) : Toml :=
  .table [("origin",factIdTable entry.origin),("basis",.string (basisName entry.route.basis)),
    ("fact_path",.array (entry.route.factPath.map factIdTable)),("mix_span_id",textNode entry.route.mixSpanId),
    ("output_timeline",textNode entry.route.outputRange.timelineId),
    ("output_sample_rate",.integer entry.route.outputRange.sampleRate.toNat),
    ("output_begin",decimalNode entry.route.outputRange.start),("output_end",decimalNode entry.route.outputRange.stop),
    ("relation_reason",textNode entry.route.relationReason)]

def indexDocument (index : List EvidenceQueryEntry) : Toml :=
  .table [("schema_version",.integer 1),("schema_minor",.integer 0),("kind",.string "event_audio_query_index"),
    ("entries",.array (index.map entryTable))]

/-- `max_metadata_bytes` -/
def maxIndexBytes : ℕ := 256 * 1024

def evidenceQueryIndexToToml (library : TomlText) (index : List EvidenceQueryEntry) :
    Except EvidenceQueryIndexError Bytes :=
  if index.isEmpty || decide (maxQueryEntries < index.length) || !index.all EvidenceQueryEntry.valid then
    .error .invalidContent
  else
    let text := library.print (indexDocument index)
    if maxIndexBytes < text.length then .error .tooLarge else .ok text

end Write

section Read

def requiredText (key : String) (table : Toml) : Option Bytes := (bytesAt key table).filter identity

def parseFactId (table : Toml) : Option FactId := do
  let run ← requiredText "run_id" table
  let producer ← requiredText "producer_id" table
  let sequence ← (decimalAt "sequence" table).filter fun sequence => decide (sequence ≠ 0)
  some ⟨run,producer,.ofNat sequence⟩

def parsePath (node : Toml) : Option (List FactId) :=
  node.asArray.bind fun nodes =>
    if nodes.isEmpty || decide (maxFactCauses < nodes.length) then none else nodes.mapM parseFactId

/-- The rates that are read; a larger one is written all the same. -/
def readRate (rate : ℤ) : Option UInt32 := if 0 < rate ∧ rate ≤ 192000 then some (.ofNat rate.toNat) else none

def parseEntry (node : Toml) : Option EvidenceQueryEntry := do
  let path ← (node.get "fact_path").bind parsePath
  let rate ← (node.number "output_sample_rate").bind readRate
  let first ← decimalAt "output_begin" node
  let stop ← decimalAt "output_end" node
  let origin ← (node.get "origin").bind parseFactId
  let basis ← (node.text "basis").bind (named basisName [.explicitCause,.temporalCorrelation])
  let mixSpanId ← requiredText "mix_span_id" node
  let timeline ← requiredText "output_timeline" node
  let reason ← requiredText "relation_reason" node
  some ⟨origin,⟨basis,path,mixSpanId,⟨timeline,rate,first,stop⟩,reason⟩⟩

def readEntry (node : Toml) : Except EvidenceQueryIndexError EvidenceQueryEntry :=
  match parseEntry node with
  | none => .error .malformedDocument
  | some entry => if entry.valid then .ok entry else .error .invalidContent

def evidenceQueryIndexFromToml (library : TomlText) (text : Bytes) :
    Except EvidenceQueryIndexError (List EvidenceQueryEntry) :=
  if maxIndexBytes < text.length then .error .tooLarge
  else
    match library.parse text with
    | none => .error .malformedDocument
    | some document =>
      if document.number "schema_version" ≠ some 1 ∨ document.number "schema_minor" ≠ some 0 then
        .error .incompatibleVersion
      else if document.text "kind" ≠ some "event_audio_query_index" then .error .malformedDocument
      else
        match document.rows "entries" with
        | none => .error .malformedDocument
        | some nodes =>
          if nodes.isEmpty || decide (maxQueryEntries < nodes.length) then .error .malformedDocument
          else nodes.mapM readEntry

end Read

section Traced

/-- An event of a detector, the fact of the mix that it caused, and the span of that fact. -/
def tracedEvent : FactId := ⟨"run".toUTF8.toList,"detector".toUTF8.toList,1⟩

def tracedFact : FactId := ⟨"run".toUTF8.toList,"mix".toUTF8.toList,2⟩

def tracedRange : SampleFrameRange := ⟨"output".toUTF8.toList,48000,100,132⟩

def tracedRoute : EventAudioRoute :=
  ⟨.explicitCause,[tracedEvent,tracedFact],"span".toUTF8.toList,tracedRange,causeIds⟩

def tracedIndex : List EvidenceQueryEntry := [⟨tracedEvent,tracedRoute⟩]

def tracedLines : List String :=
  ["kind = 'event_audio_query_index'","schema_minor = 0","schema_version = 1","","[[entries]]",
    "basis = 'explicit_cause'",
    "mix_span_id = 'span'","output_begin = '100'","output_end = '132'","output_sample_rate = 48000",
    "output_timeline = 'output'","relation_reason = 'cause_ids'","","    [entries.origin]",
      "    producer_id = 'detector'",
    "    run_id = 'run'","    sequence = '1'","","    [[entries.fact_path]]","    producer_id = 'detector'",
    "    run_id = 'run'","    sequence = '1'","","    [[entries.fact_path]]","    producer_id = 'mix'",
    "    run_id = 'run'","    sequence = '2'"]

/-- The library on the document of the index. -/
def tracedLibrary : TomlText where
  print _ := linesBytes tracedLines
  parse bytes := if bytes = linesBytes tracedLines then some (indexDocument tracedIndex) else none

end Traced

section Reopened

/-- What reading asks of a route beyond writing: a rate of at most 192 kHz and a timeline without control characters. -/
def EventAudioRoute.Readable (route : EventAudioRoute) : Prop :=
  route.outputRange.sampleRate.toNat ≤ 192000 ∧ printable route.outputRange.timelineId = true

instance instDecidableReadable (route : EventAudioRoute) : Decidable route.Readable :=
  inferInstanceAs (Decidable (_ ∧ _))

/-- The ends of a range fit the integers that the code keeps them in. -/
def EventAudioRoute.Typed (route : EventAudioRoute) : Prop :=
  route.outputRange.start < 2 ^ 64 ∧ route.outputRange.stop < 2 ^ 64

variable {library : TomlText} {origin : FactId} {entry : EvidenceQueryEntry} {index : List EvidenceQueryEntry}

lemma requiredText_textNode {table : Toml} {key : String} {bytes : Bytes} (h : table.get key = some (textNode bytes)) :
    requiredText key table = if identity bytes then some bytes else none := by
  rw [requiredText,bytesAt_textNode h,Option.filter_some]

lemma parseFactId_table {id : FactId} (h : validQueryId id = true) : parseFactId (factIdTable id) = some id := by
  obtain ⟨⟨hrun,hproducer⟩,hsequence⟩ : (identity id.runId = true ∧ identity id.producerId = true) ∧
      id.producerSequence ≠ 0 := by simpa [validQueryId] using h
  have hnonzero : id.producerSequence.toNat ≠ 0 := fun hzero => hsequence (UInt64.toNat_inj.mp hzero)
  have hparsed : decimalAt "sequence" (factIdTable id) = some id.producerSequence.toNat :=
    decimalAt_decimalNode rfl id.producerSequence.toNat_lt
  unfold parseFactId
  rw [requiredText_textNode rfl,requiredText_textNode rfl,hparsed,if_pos hrun,if_pos hproducer]
  simp only [Option.bind_eq_bind,Option.bind_some,Option.filter_some,decide_eq_true hnonzero,if_true,UInt64.ofNat_toNat]

lemma parsePath_table {path : List FactId} (hpath : path ≠ []) (hlimit : path.length ≤ maxFactCauses)
    (h : ∀ id ∈ path, validQueryId id = true) : parsePath (.array (path.map factIdTable)) = some path := by
  have hsome : ((path.map factIdTable).isEmpty || decide (maxFactCauses < (path.map factIdTable).length)) = false := by
    simp [hpath,hlimit]
  unfold parsePath
  rw [Toml.asArray,Option.bind_some,hsome]
  exact mapM_map_some fun id hid => parseFactId_table (h id hid)

lemma readRate_written {rate : UInt32} (h : rate > 0) :
    readRate rate.toNat = if rate.toNat ≤ 192000 then some rate else none := by
  have hpositive : (0 : ℤ) < rate.toNat := Int.natCast_pos.mpr h
  unfold readRate
  rw [Int.toNat_natCast,UInt32.ofNat_toNat]
  exact if_congr ⟨fun hrate => Int.ofNat_le.mp hrate.2,fun hrate => ⟨hpositive,Int.ofNat_le.mpr hrate⟩⟩ rfl rfl

lemma basis_named (basis : TraceRelationBasis) :
    named basisName [.explicitCause,.temporalCorrelation] (basisName basis) = some basis := by
  cases basis <;> decide

lemma EvidenceQueryEntry.valid_iff :
    entry.valid = true ↔ validQueryId entry.origin = true ∧ identity entry.route.mixSpanId = true ∧
      identity entry.route.relationReason = true ∧ wellFormedRange entry.route.outputRange = true ∧
      entry.route.factPath.length ≤ maxFactCauses ∧ entry.route.factPath.head? = some entry.origin ∧
      ∀ id ∈ entry.route.factPath, validQueryId id = true ∧ id.runId = entry.origin.runId := by
  simp only [EvidenceQueryEntry.valid,Bool.and_eq_true,decide_eq_true_eq,List.all_eq_true,and_assoc]

/-- A valid entry is read as it was written where its route is readable, and is malformed otherwise. -/
lemma parseEntry_table (h : entry.valid = true) (htyped : entry.route.Typed) :
    parseEntry (entryTable entry) = if entry.route.Readable then some entry else none := by
  obtain ⟨horigin,hspan,hreason,hrange,hlimit,hhead,hids⟩ := EvidenceQueryEntry.valid_iff.mp h
  obtain ⟨⟨htimeline,hrate⟩,-⟩ : (identifier entry.route.outputRange.timelineId = true ∧
      entry.route.outputRange.sampleRate > 0) ∧ _ := by simpa [wellFormedRange] using hrange
  have hpath : entry.route.factPath ≠ [] := by
    intro hnil
    rw [hnil] at hhead
    cases hhead
  have hreadOrigin : ((entryTable entry).get "origin").bind parseFactId = some entry.origin := parseFactId_table horigin
  have hreadPath : ((entryTable entry).get "fact_path").bind parsePath = some entry.route.factPath :=
    parsePath_table hpath hlimit fun id hid => (hids id hid).1
  have hreadBasis : ((entryTable entry).text "basis").bind (named basisName [.explicitCause,.temporalCorrelation]) =
      some entry.route.basis := basis_named entry.route.basis
  have hreadRate : ((entryTable entry).number "output_sample_rate").bind readRate =
      if entry.route.outputRange.sampleRate.toNat ≤ 192000 then some entry.route.outputRange.sampleRate else none :=
    readRate_written hrate
  have hreadStart : decimalAt "output_begin" (entryTable entry) = some entry.route.outputRange.start :=
    decimalAt_decimalNode rfl htyped.1
  have hreadStop : decimalAt "output_end" (entryTable entry) = some entry.route.outputRange.stop :=
    decimalAt_decimalNode rfl htyped.2
  have hreadSpan : requiredText "mix_span_id" (entryTable entry) = some entry.route.mixSpanId :=
    (requiredText_textNode rfl).trans (if_pos hspan)
  have hreadReason : requiredText "relation_reason" (entryTable entry) = some entry.route.relationReason :=
    (requiredText_textNode rfl).trans (if_pos hreason)
  have hreadTimeline : requiredText "output_timeline" (entryTable entry) =
      if printable entry.route.outputRange.timelineId then some entry.route.outputRange.timelineId else none := by
    rw [requiredText_textNode (rfl : (entryTable entry).get "output_timeline" = some (textNode _)),identity,htimeline,
      Bool.true_and]
  unfold parseEntry
  rw [hreadOrigin,hreadPath,hreadBasis,hreadRate,hreadStart,hreadStop,hreadSpan,hreadReason,hreadTimeline]
  by_cases hsmall : entry.route.outputRange.sampleRate.toNat ≤ 192000
  · by_cases hprintable : printable entry.route.outputRange.timelineId = true
    · have hreadable : entry.route.Readable := ⟨hsmall,hprintable⟩
      rw [if_pos hsmall,if_pos hprintable,if_pos hreadable]
      rfl
    · have hunread : ¬entry.route.Readable := fun hreadable => hprintable hreadable.2
      rw [if_pos hsmall,if_neg hprintable,if_neg hunread]
      rfl
  · have hunread : ¬entry.route.Readable := fun hreadable => hsmall hreadable.1
    rw [if_neg hsmall,if_neg hunread]
    rfl

lemma readEntry_table (h : entry.valid = true) (htyped : entry.route.Typed) :
    readEntry (entryTable entry) = if entry.route.Readable then .ok entry else .error .malformedDocument := by
  unfold readEntry
  rw [parseEntry_table h htyped]
  split_ifs with hreadable
  · exact if_pos h
  · rfl

lemma mapM_readEntry (h : ∀ entry ∈ index, entry.valid = true ∧ entry.route.Typed) :
    (index.map entryTable).mapM readEntry =
      if ∀ entry ∈ index, entry.route.Readable then .ok index else .error .malformedDocument := by
  induction index with
  | nil => exact (if_pos (List.forall_mem_nil _)).symm
  | cons entry index ih =>
    obtain ⟨hentry,hrest⟩ := List.forall_mem_cons.mp h
    simp only [List.map_cons,List.mapM_cons,readEntry_table hentry.1 hentry.2,ih hrest,List.forall_mem_cons]
    by_cases hreadable : entry.route.Readable
    · by_cases hall : ∀ entry ∈ index, entry.route.Readable
      · rw [if_pos hreadable,if_pos hall,if_pos ⟨hreadable,hall⟩]
        rfl
      · rw [if_pos hreadable,if_neg hall,if_neg fun h => hall h.2]
        rfl
    · have hunread : ¬(entry.route.Readable ∧ ∀ entry ∈ index, entry.route.Readable) := fun h => hreadable h.1
      rw [if_neg hreadable,if_neg hunread]
      rfl

lemma makeEvidenceQueryIndex_ok {result : EventAudioQueryResult}
    (h : makeEvidenceQueryIndex origin result = .ok index) :
    index = result.routes.map (fun route => ⟨origin,route⟩) ∧ ∀ entry ∈ index, entry.valid = true := by
  unfold makeEvidenceQueryIndex at h
  dsimp only at h
  split_ifs at h with hinvalid hvalid
  obtain rfl := Except.ok.inj h
  exact ⟨rfl,List.all_eq_true.mp hvalid⟩

/-- The index of an answer that was written is read back whole exactly where each of its routes is readable, and is
malformed otherwise; read back, it answers for its event what the query did, and for every other event nothing. -/
theorem evidenceQueryIndex_reopened {result : EventAudioQueryResult} {text : Bytes}
    (hmade : makeEvidenceQueryIndex origin result = .ok index)
    (hwritten : evidenceQueryIndexToToml library index = .ok text)
    (hreads : library.parse (library.print (indexDocument index)) = some (indexDocument index))
    (htyped : ∀ route ∈ result.routes, route.Typed) :
    evidenceQueryIndexFromToml library text =
        (if ∀ route ∈ result.routes, route.Readable then .ok index else .error .malformedDocument) ∧
      ∀ id, queryEvidenceIndex index id = if id = origin then result.routes else [] := by
  obtain ⟨hindex,hvalid⟩ := makeEvidenceQueryIndex_ok hmade
  constructor
  · have hroutes : (∀ route ∈ result.routes, route.Readable) ↔ ∀ entry ∈ index, entry.route.Readable := by
      rw [hindex,List.forall_mem_map]
    have hentries : ∀ entry ∈ index, entry.valid = true ∧ entry.route.Typed := by
      intro entry hentry
      refine ⟨hvalid entry hentry,?_⟩
      rw [hindex] at hentry
      obtain ⟨route,hroute,rfl⟩ := List.mem_map.mp hentry
      exact htyped route hroute
    unfold evidenceQueryIndexToToml at hwritten
    dsimp only at hwritten
    split_ifs at hwritten with hinvalid hlarge
    obtain rfl := Except.ok.inj hwritten
    have hcount : (index.isEmpty || decide (maxQueryEntries < index.length)) = false := by
      rw [Bool.or_eq_true] at hinvalid
      exact Bool.eq_false_iff.mpr fun h => hinvalid (Or.inl h)
    have hmapped :
        ((index.map entryTable).isEmpty || decide (maxQueryEntries < (index.map entryTable).length)) = false := by
      rw [List.isEmpty_map,List.length_map,hcount]
    unfold evidenceQueryIndexFromToml
    rw [if_neg hlarge,hreads]
    dsimp only
    rw [if_neg (by rintro (h | h) <;> exact h rfl),if_neg (fun h => h rfl)]
    change (if ((index.map entryTable).isEmpty || decide (maxQueryEntries < (index.map entryTable).length)) = true then
      Except.error .malformedDocument else (index.map entryTable).mapM readEntry) = _
    rw [hmapped,if_neg (by decide),mapM_readEntry hentries]
    exact if_congr hroutes.symm rfl rfl
  · intro id
    rw [hindex,queryEvidenceIndex,List.filter_map,List.map_map]
    by_cases hid : id = origin
    · rw [if_pos hid,hid]
      simp [Function.comp_def]
    · rw [if_neg hid]
      have hother : ¬origin = id := fun h => hid h.symm
      simp [Function.comp_def,hother]

theorem tracedIndex_reopened :
    evidenceQueryIndexFromToml tracedLibrary (linesBytes tracedLines) = .ok tracedIndex ∧
      queryEvidenceIndex tracedIndex tracedEvent = [tracedRoute] ∧ queryEvidenceIndex tracedIndex tracedFact = [] := by
  have hreopened := @evidenceQueryIndex_reopened tracedLibrary tracedEvent tracedIndex ⟨.found,[tracedRoute]⟩
    (linesBytes tracedLines) (by decide +kernel) (by decide +kernel) (if_pos rfl)
    (List.forall_mem_singleton.mpr ⟨by decide,by decide⟩)
  exact ⟨hreopened.1.trans (if_pos (by decide +kernel)),(hreopened.2 tracedEvent).trans (if_pos rfl),
    (hreopened.2 tracedFact).trans (if_neg (by decide +kernel))⟩

end Reopened

section Answered

/-- What a route of every answer is: its names and its range are well formed, and its path starts at the event and stays
in its run. -/
structure EventAudioRoute.Answers (eventId : FactId) (route : EventAudioRoute) : Prop where
  span : identifier route.mixSpanId = true
  reason : identifier route.relationReason = true
  range : wellFormedRange route.outputRange = true
  head : route.factPath.head? = some eventId
  ids : ∀ id ∈ route.factPath, validId id = true ∧ id.runId = eventId.runId

/-- The names of a route have no control characters, and its path is short enough. -/
structure EventAudioRoute.Printable (route : EventAudioRoute) : Prop where
  span : printable route.mixSpanId = true
  reason : printable route.relationReason = true
  length : route.factPath.length ≤ maxFactCauses
  ids : ∀ id ∈ route.factPath, printable id.runId = true ∧ printable id.producerId = true

variable {facts : List Fact} {eventId : FactId} {mixSpans : List MixSpan}

lemma foldlM_kept {σ α : Type} {step : σ → α → Option σ} {kept : σ → Prop} {items : List α}
    (hstep : ∀ item ∈ items, ∀ {state next}, kept state → step state item = some next → kept next) {state last : σ}
    (hstate : kept state) (h : items.foldlM step state = some last) : kept last := by
  induction items generalizing state with
  | nil =>
    cases h
    exact hstate
  | cons item items ih =>
    obtain ⟨hhead,htail⟩ := List.forall_mem_cons.mp hstep
    rw [List.foldlM_cons] at h
    obtain ⟨next,hnext,hrest⟩ := Option.bind_eq_some_iff.mp h
    exact ih htail (hhead hstate hnext) hrest

lemma wellFormed_of_firstInvalid {previous : List Fact} (h : firstInvalid previous facts = none) :
    ∀ fact ∈ facts, wellFormed fact = true := by
  induction facts generalizing previous with
  | nil => exact List.forall_mem_nil _
  | cons fact facts ih =>
    unfold firstInvalid at h
    split_ifs at h with hwell hrepeated
    exact List.forall_mem_cons.mpr ⟨by simpa using hwell,ih h⟩

lemma wellFormed_id {fact : Fact} (h : wellFormed fact = true) :
    validId fact.id = true ∧ ∀ cause, Cause.fact cause ∈ fact.causeIds → cause.runId = fact.id.runId := by
  simp only [wellFormed,Bool.and_eq_true,List.all_eq_true] at h
  refine ⟨by tauto,fun cause hcause => ?_⟩
  have hvalid : validCause fact.id (.fact cause) = true := by
    have hall : ∀ cause ∈ fact.causeIds, validCause fact.id cause = true := by tauto
    exact hall _ hcause
  simp only [validCause,Bool.and_eq_true,decide_eq_true_eq] at hvalid
  exact hvalid.1.2

/-- A path of causes stays in the run of its first fact. -/
lemma CausePath.ids (hwell : ∀ fact ∈ facts, wellFormed fact = true) {first last : FactId} {path : List FactId}
    (hfirst : validId first = true) (h : CausePath facts first last path) :
    ∀ id ∈ path, validId id = true ∧ id.runId = first.runId := by
  obtain ⟨hhead,-,hchain⟩ := h
  induction path generalizing first with
  | nil => exact List.forall_mem_nil _
  | cons id path ih =>
    obtain rfl := Option.some.inj hhead
    refine List.forall_mem_cons.mpr ⟨⟨hfirst,rfl⟩,?_⟩
    cases path with
    | nil => exact List.forall_mem_nil _
    | cons next path =>
      obtain ⟨⟨fact,hfact,rfl,hcause⟩,hrest⟩ := List.isChain_cons_cons.mp hchain
      obtain ⟨hid,hruns⟩ := wellFormed_id (hwell fact hfact)
      rw [hruns _ hcause]
      exact ih hid rfl hrest

lemma wellFormedSpan_names {span : MixSpan} (h : wellFormedSpan span = true) :
    identifier span.spanId = true ∧ ∀ range, span.outputRange.value = some range → wellFormedRange range = true := by
  simp only [wellFormedSpan,Bool.and_eq_true] at h
  have hspan : identifier span.spanId = true ∧ validRange span.outputRange = true := by tauto
  refine ⟨hspan.1,fun range hrange => ?_⟩
  have hrest := hspan.2
  rw [validRange,validValue,Bool.and_eq_true,hrange] at hrest
  exact hrest.2

lemma addExplicit_reason {parents : ℕ → Option ℕ} {origin : ℕ} {state next : RouteState} {span : MixSpan}
    (hstate : ∀ route ∈ state.routes, route.relationReason = causeIds)
    (h : addExplicit facts eventId parents origin state span = some next) :
    ∀ route ∈ next.routes, route.relationReason = causeIds := by
  unfold addExplicit at h
  split_ifs at h with hrun
  · cases h
    exact hstate
  cases htarget : spanTarget facts parents span with
  | none =>
    rw [htarget] at h
    cases h
    exact hstate
  | some target =>
    rw [htarget] at h
    dsimp only at h
    cases hrange : span.outputRange.value with
    | none =>
      rw [hrange] at h
      cases h
      exact hstate
    | some range =>
      rw [hrange] at h
      obtain ⟨path,-,rfl⟩ := Option.map_eq_some_iff.mp h
      exact List.forall_mem_append.mpr ⟨hstate,List.forall_mem_singleton.mpr rfl⟩

/-- The routes of a state: each is an answer, and no two are for one place of a span. -/
structure RouteState.Answers (eventId : FactId) (mixSpans : List MixSpan) (state : RouteState) : Prop where
  routes : ∀ route ∈ state.routes, route.Answers eventId
  spans : (state.routes.map EventAudioRoute.mixSpanId).Subperm (mixSpans.map MixSpan.spanId)

lemma addTemporal_answers (hevent : validId eventId = true) (hspans : ∀ span ∈ mixSpans, wellFormedSpan span = true)
    {state next : RouteState} {link : TemporalTraceLink} (hstate : state.Answers eventId mixSpans)
    (h : addTemporal eventId mixSpans state link = some next) : next.Answers eventId mixSpans := by
  unfold addTemporal at h
  split_ifs at h with hinvalid hother
  · cases h
    exact hstate
  cases hfind : mixSpans.find? fun candidate =>
      candidate.runId = eventId.runId ∧ candidate.spanId = link.mixSpanId with
  | none =>
    rw [hfind] at h
    cases h
  | some span =>
    rw [hfind] at h
    dsimp only at h
    split_ifs at h with hexplained
    · cases h
      exact hstate
    have hspan := List.mem_of_find?_eq_some hfind
    obtain ⟨hname,hrange⟩ := wellFormedSpan_names (hspans span hspan)
    cases hvalue : span.outputRange.value with
    | none =>
      rw [hvalue] at h
      cases h
      exact ⟨hstate.routes,hstate.spans⟩
    | some range =>
      rw [hvalue] at h
      cases h
      have hreason : identifier link.reasonCode = true := by
        by_contra hreason
        exact hinvalid (by simp [hreason])
      refine ⟨List.forall_mem_append.mpr ⟨hstate.routes,List.forall_mem_singleton.mpr ?_⟩,?_⟩
      · exact ⟨hname,hreason,hrange range hvalue,rfl,List.forall_mem_singleton.mpr ⟨hevent,rfl⟩⟩
      · have hnew : span.spanId ∉ state.routes.map EventAudioRoute.mixSpanId := by
          intro hmem
          obtain ⟨route,hroute,hsame⟩ := List.mem_map.mp hmem
          exact hexplained (List.any_eq_true.mpr ⟨route,hroute,decide_eq_true hsame⟩)
        rw [List.map_append]
        refine (List.perm_append_singleton _ _).subperm_right.mpr ?_
        exact List.cons_subperm_of_not_mem_of_mem hnew (List.mem_map_of_mem hspan) hstate.spans

/-- The explicit routes and their spans, one for one. -/
lemma explicit_spans {spans : List MixSpan} {explicit : List EventAudioRoute}
    (h : List.Forall₂ (ExplicitRoute facts eventId) spans explicit) :
    (∀ route ∈ explicit, ∃ span ∈ spans, ExplicitRoute facts eventId span route) ∧
      explicit.map EventAudioRoute.mixSpanId = spans.map MixSpan.spanId := by
  induction h with
  | nil => exact ⟨List.forall_mem_nil _,rfl⟩
  | cons hexplicit _ ih =>
    refine ⟨List.forall_mem_cons.mpr ⟨⟨_,List.mem_cons_self,hexplicit⟩,fun route hroute => ?_⟩,?_⟩
    · obtain ⟨span,hspan,hother⟩ := ih.1 route hroute
      exact ⟨span,List.mem_cons_of_mem _ hspan,hother⟩
    · rw [List.map_cons,List.map_cons,hexplicit.mixSpanId,ih.2]

/-- What the loop over the spans gives: an answer for each related span, in order. -/
lemma explicit_answers {origin : ℕ} {parents : ℕ → Option ℕ} (hsearched : Searched facts eventId origin parents)
    (hwell : ∀ fact ∈ facts, wellFormed fact = true) (hevent : validId eventId = true)
    (hspans : ∀ span ∈ mixSpans, wellFormedSpan span = true)
    (hfacts : ∀ span ∈ mixSpans, ∀ fact ∈ span.facts, (factIndex facts fact).isSome) {state : RouteState}
    (h : mixSpans.foldlM (addExplicit facts eventId parents origin) {} = some state) :
    state.Answers eventId mixSpans := by
  classical
  have hreasons := @foldlM_kept _ _ _ (fun state : RouteState => ∀ route ∈ state.routes,
    route.relationReason = causeIds)
    mixSpans (fun _ _ => addExplicit_reason) {} state (List.forall_mem_nil _) h
  obtain ⟨last,explicit,hloop,hroutes,hall⟩ := hsearched.explicitRoutes mixSpans hfacts {}
  obtain rfl := Option.some.inj (hloop.symm.trans h)
  rw [List.nil_append] at hroutes
  constructor
  · rw [hroutes] at hreasons ⊢
    intro route hroute
    obtain ⟨span,hspan,hexplicit⟩ := (explicit_spans hall).1 route hroute
    obtain ⟨hname,hrange⟩ := wellFormedSpan_names (hspans span (List.mem_of_mem_filter hspan))
    obtain ⟨-,hsame,hvalue,fact,-,hpath,-⟩ := hexplicit
    refine ⟨hsame ▸ hname,?_,hrange _ hvalue,hpath.1,hpath.ids hwell hevent⟩
    rw [hreasons route hroute]
    decide +kernel
  · rw [hroutes,(explicit_spans hall).2]
    exact (List.filter_sublist.map MixSpan.spanId).subperm

/-- A found answer has between one and all the routes that an index may hold. -/
lemma found_answers {temporalLinks : List TemporalTraceLink} {result : EventAudioQueryResult}
    (hquery : queryEventToAudio facts eventId mixSpans temporalLinks = some result) (hfound : result.status = .found) :
    result.routes ≠ [] ∧ result.routes.length ≤ maxQueryEntries ∧ ∀ route ∈ result.routes, route.Answers eventId := by
  have herror : ∀ {status : EventAudioQueryStatus}, status ≠ .found →
      some ({ status } : EventAudioQueryResult) = some result → False := by
    rintro status hstatus ⟨⟩
    exact hstatus hfound
  unfold queryEventToAudio at hquery
  by_cases hlarge : maxReferenceMaterials < facts.length ∨ maxReferenceMaterials < mixSpans.length ∨
      maxReferenceMaterials < temporalLinks.length
  · rw [if_pos hlarge] at hquery
    exact (herror (by decide) hquery).elim
  rw [if_neg hlarge] at hquery
  cases hfirst : firstInvalid [] facts with
  | some status =>
    rw [hfirst] at hquery
    refine (herror ?_ hquery).elim
    rintro rfl
    exact not_accepted_of_firstInvalid hfirst (Or.inl rfl)
  | none =>
    rw [hfirst] at hquery
    have hwell := wellFormed_of_firstInvalid hfirst
    have hdistinct := (distinct_of_firstInvalid hfirst).1
    cases horigin : factIndex facts eventId with
    | none =>
      rw [horigin] at hquery
      exact (herror (by decide) hquery).elim
    | some origin =>
      rw [horigin] at hquery
      dsimp only at hquery
      split_ifs at hquery with hcauses hspans
      · exact (herror (by decide) hquery).elim
      · exact (herror (by decide) hquery).elim
      have hat := (factIndex_eq_some_iff hdistinct).mp horigin
      have hsearched : Searched facts eventId origin _ := ⟨hdistinct,hat,rfl⟩
      obtain ⟨event,hevent,rfl⟩ := Option.map_eq_some_iff.mp hat
      have hvalid := (wellFormed_id (hwell event (List.mem_of_getElem? hevent))).1
      have hwellSpans : ∀ span ∈ mixSpans, wellFormedSpan span = true ∧
          ∀ fact ∈ span.facts, (factIndex facts fact).isSome := by
        intro span hspan
        have hinvalid : invalidSpan facts span = false := by
          by_contra hinvalid
          exact hspans (List.any_eq_true.mpr ⟨span,hspan,by simpa using hinvalid⟩)
        simp only [invalidSpan,Bool.or_eq_false_iff,Bool.not_eq_false',List.any_eq_false,
          Option.isNone_iff_eq_none] at hinvalid
        exact ⟨hinvalid.1,fun fact hfact => Option.isSome_iff_ne_none.mpr (hinvalid.2 fact hfact)⟩
      obtain ⟨state,hloop,hlinks⟩ := Option.map_eq_some_iff.mp hquery
      have hexplicit := explicit_answers hsearched hwell hvalid (fun span hspan => (hwellSpans span hspan).1)
        (fun span hspan => (hwellSpans span hspan).2) hloop
      cases htemporal : temporalLinks.foldlM (addTemporal event.id mixSpans) state with
      | none =>
        rw [htemporal] at hlinks
        exact (herror (by decide) (congrArg some hlinks)).elim
      | some last =>
        rw [htemporal] at hlinks
        have hlast : last.Answers event.id mixSpans := foldlM_kept
          (fun _ _ => addTemporal_answers hvalid fun span hspan => (hwellSpans span hspan).1) hexplicit htemporal
        subst hlinks
        refine ⟨fun hnone => ?_,?_,hlast.routes⟩
        · have hrouted : last.routes = [] := hnone
          have hstatus : (if last.routes ≠ [] then EventAudioQueryStatus.found
              else if last.relatedRangeUnavailable then .rangeUnavailable else .notFound) = .found := hfound
          rw [if_neg (not_not_intro hrouted)] at hstatus
          split_ifs at hstatus
        · have hlength := hlast.spans.length_le
          rw [List.length_map,List.length_map] at hlength
          exact Nat.le_trans hlength (Nat.not_lt.mp fun hmany => hlarge (Or.inr (Or.inl hmany)))

lemma validQueryId_iff {id : FactId} :
    validQueryId id = true ↔ validId id = true ∧ printable id.runId = true ∧ printable id.producerId = true := by
  simp only [validQueryId,validId,identity,Bool.and_eq_true]
  tauto

lemma EventAudioRoute.Answers.valid_iff {route : EventAudioRoute} (h : route.Answers eventId) :
    EvidenceQueryEntry.valid ⟨eventId,route⟩ = true ↔ route.Printable := by
  have hevent : eventId ∈ route.factPath := List.mem_of_head? h.head
  rw [EvidenceQueryEntry.valid_iff]
  dsimp only
  unfold identity
  rw [h.span,h.reason,Bool.true_and,Bool.true_and]
  constructor
  · rintro ⟨-,hspan,hreason,-,hlength,-,hids⟩
    exact ⟨hspan,hreason,hlength,fun id hid => (validQueryId_iff.mp (hids id hid).1).2⟩
  · rintro ⟨hspan,hreason,hlength,hids⟩
    have hvalid : ∀ id ∈ route.factPath, validQueryId id = true ∧ id.runId = eventId.runId :=
      fun id hid => ⟨validQueryId_iff.mpr ⟨(h.ids id hid).1,hids id hid⟩,(h.ids id hid).2⟩
    exact ⟨(hvalid eventId hevent).1,hspan,hreason,h.range,hlength,h.head,hvalid⟩

/-- A found answer of the query is indexed, with all of its routes, exactly where no span, reason, run or producer in
them has a control character in its id and no path is longer than the causes of a fact may be. The timeline of a range
is not looked at. -/
theorem makeEvidenceQueryIndex_iff {temporalLinks : List TemporalTraceLink} {result : EventAudioQueryResult}
    (hquery : queryEventToAudio facts eventId mixSpans temporalLinks = some result) (hfound : result.status = .found)
    (index : List EvidenceQueryEntry) :
    makeEvidenceQueryIndex eventId result = .ok index ↔
      index = result.routes.map (fun route => ⟨eventId,route⟩) ∧ ∀ route ∈ result.routes, route.Printable := by
  obtain ⟨hroutes,hcount,hanswers⟩ := found_answers hquery hfound
  have hvalid : (result.routes.map fun route => (⟨eventId,route⟩ : EvidenceQueryEntry)).all EvidenceQueryEntry.valid =
      true ↔ ∀ route ∈ result.routes, route.Printable := by
    rw [List.all_eq_true,List.forall_mem_map]
    exact forall₂_congr fun route hroute => (hanswers route hroute).valid_iff
  unfold makeEvidenceQueryIndex
  dsimp only
  rw [hfound]
  by_cases hevent : validQueryId eventId = true
  · have htaken : (!validQueryId eventId || decide (EventAudioQueryStatus.found ≠ .found) || result.routes.isEmpty ||
        decide (maxQueryEntries < result.routes.length)) = false := by
      simp [hevent,hroutes,hcount]
    rw [htaken,if_neg Bool.false_ne_true]
    split_ifs with hall
    · rw [Except.ok.injEq]
      exact ⟨fun h => ⟨h.symm,hvalid.mp hall⟩,fun h => h.1.symm⟩
    · exact iff_of_false (by rintro ⟨⟩) fun h => hall (hvalid.mpr h.2)
  · -- The event is on every path, so a name of it that is not printable is a name of each route.
    rw [if_pos (by simp [hevent])]
    refine iff_of_false (by rintro ⟨⟩) fun h => ?_
    obtain ⟨route,hroute⟩ := List.exists_mem_of_ne_nil _ hroutes
    exact hevent (EvidenceQueryEntry.valid_iff.mp ((hanswers route hroute).valid_iff.mpr (h.2 route hroute))).1

def tracedFacts : List Fact :=
  [{ id := tracedEvent, kind := "request".toUTF8.toList },
    { id := tracedFact, kind := "mix".toUTF8.toList, causeIds := [.fact tracedEvent] }]

def tracedSpans : List MixSpan :=
  [{ runId := "run".toUTF8.toList, spanId := "span".toUTF8.toList, mixRange := tracedRange,
     outputRange := ⟨.known,some tracedRange,[]⟩, facts := [tracedFact] }]

theorem tracedRoute_indexed :
    queryEventToAudio tracedFacts tracedEvent tracedSpans [] = some ⟨.found,[tracedRoute]⟩ ∧
      makeEvidenceQueryIndex tracedEvent ⟨.found,[tracedRoute]⟩ = .ok tracedIndex := by
  have hquery : queryEventToAudio tracedFacts tracedEvent tracedSpans [] = some ⟨.found,[tracedRoute]⟩ := by
    decide +kernel
  refine ⟨hquery,(makeEvidenceQueryIndex_iff hquery rfl tracedIndex).mpr ⟨rfl,List.forall_mem_singleton.mpr ?_⟩⟩
  exact ⟨by decide +kernel,by decide +kernel,by decide,by decide +kernel⟩

end Answered
end AytherRuntime.Binary.Mix
