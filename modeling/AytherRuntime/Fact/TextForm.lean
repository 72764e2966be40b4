import AytherRuntime.Channel.PcmDelivery
import AytherRuntime.Fact.Batch

/-! The text of a fact without fields, in its short and its long form, and the batches that mix texts with binary
records. -/
namespace AytherRuntime.Binary
open Channel (TomlText availabilityName availabilityValue availabilityValue_name bytesAt bytesAt_textNode decimalAt
  decimalAt_decimalNode decimalNode linesBytes textNode)
open Check (Toml mapM_map_some)
open Codec (Bytes writeLe)

section Write

/-- `compact_default_reason` -/
def compactDefaultReason : Bytes := "compact_default".toUTF8.toList

def compactDefault {α : Type} (field : Field α) : Bool :=
  decide (field.availability = .notApplicable) && field.value.isNone && decide (field.reasonCode = compactDefaultReason)

def compactable (fact : Fact) : Bool :=
  fact.fields.isEmpty && fact.causeIds.isEmpty && compactDefault fact.decisionId && compactDefault fact.assignmentId &&
    compactDefault fact.occurrenceId && compactDefault fact.reasonCode && compactDefault fact.sharedStateOrder

/-- A field with the node of its value, if it has one. -/
def fieldTable {α : Type} (node : α → Toml) (field : Field α) : Toml :=
  .table ([("availability",.string (availabilityName field.availability)),("reason_code",textNode field.reasonCode)] ++
    match field.value with
    | some value => [("value",node value)]
    | none => [])

def stringField : Field Bytes → Toml := fieldTable textNode

def frameTable : Field UInt64 → Toml := fieldTable fun frame => decimalNode frame.toNat

def orderTable (order : SharedStateOrder) : Toml :=
  .table [("state_id",textNode order.stateId),("sequence",decimalNode order.sequence.toNat)]

def ordersTable : Field (List SharedStateOrder) → Toml := fieldTable fun orders => .array (orders.map orderTable)

def factCauseTable : Cause → Toml
  | .fact id => .table [("type",.string "fact"),("run_id",textNode id.runId),("producer_id",textNode id.producerId),
      ("producer_sequence",decimalNode id.producerSequence.toNat)]
  | .preexistingContext contextId => .table [("type",.string "preexisting"),("context_id",textNode contextId)]

/-- What both forms hold. -/
def factHead (minor : ℤ) (fact : Fact) : List (String × Toml) :=
  [("schema_version",.integer 1),("schema_minor",.integer minor),("kind",textNode fact.kind),
    ("run_id",textNode fact.id.runId),("producer_id",textNode fact.id.producerId),
    ("producer_sequence",decimalNode fact.id.producerSequence.toNat),("frame_index",frameTable fact.frameIndex)]

def factDocument (fact : Fact) : Toml :=
  if compactable fact then .table (factHead 1 fact)
  else
    .table (factHead 0 fact ++
      [("causes",.array (fact.causeIds.map factCauseTable)),("decision_id",stringField fact.decisionId),
        ("assignment_id",stringField fact.assignmentId),("occurrence_id",stringField fact.occurrenceId),
        ("reason",stringField fact.reasonCode),("shared_state_order",ordersTable fact.sharedStateOrder)])

/-- `encode_fact` of a fact without fields, the only ones that a batch writes as text. -/
def encodeFact (library : TomlText) (fact : Fact) : Except FactBatchError Bytes :=
  if wellFormed fact then .ok (library.print (factDocument fact)) else .error .invalidFact

end Write

section Read

/-- A field whose value is read when it is there. -/
def parseField {α : Type} (value : Toml → Option α) (table : Toml) : Option (Field α) := do
  let availability ← availabilityValue table
  let reason := (bytesAt "reason_code" table).getD []
  match table.get "value" with
  | none => some ⟨availability,none,reason⟩
  | some node => (value node).map fun value => ⟨availability,some value,reason⟩

/-- `parse_string_field`; a value that is no string counts as absent. -/
def parseStringField (table : Toml) : Option (Field Bytes) := do
  let availability ← availabilityValue table
  some ⟨availability,bytesAt "value" table,(bytesAt "reason_code" table).getD []⟩

def decimalValue (node : Toml) : Option UInt64 :=
  node.asString.bind fun text => (fromChars (2 ^ 64) text.toList).map UInt64.ofNat

def sequenceAt (key : String) (table : Toml) : Option UInt64 := (table.get key).bind decimalValue

def parseFrame : Toml → Option (Field UInt64) := parseField decimalValue

def parseOrder (node : Toml) : Option SharedStateOrder := do
  let state ← bytesAt "state_id" node
  let sequence ← sequenceAt "sequence" node
  some ⟨state,sequence⟩

/-- The orders of a table; a value that is no array counts as absent. -/
def parseOrders (table : Toml) : Option (Field (List SharedStateOrder)) := do
  let availability ← availabilityValue table
  let reason := (bytesAt "reason_code" table).getD []
  match table.rows "value" with
  | none => some ⟨availability,none,reason⟩
  | some nodes => (nodes.mapM parseOrder).map fun orders => ⟨availability,some orders,reason⟩

def parseFactCause (node : Toml) : Option Cause :=
  if node.text "type" = some "fact" then do
    let run ← bytesAt "run_id" node
    let producer ← bytesAt "producer_id" node
    let sequence ← sequenceAt "producer_sequence" node
    some (.fact ⟨run,producer,sequence⟩)
  else if node.text "type" = some "preexisting" then (bytesAt "context_id" node).map .preexistingContext
  else none

/-- What the short form leaves out. -/
def defaultField {α : Type} : Field α := ⟨.notApplicable,none,compactDefaultReason⟩

/-- `parse_optional` -/
def optionalField (compact : Bool) (key : String) (document : Toml) : Option (Field Bytes) :=
  match document.get key with
  | some node => parseStringField node
  | none => if compact then some defaultField else none

def optionalOrders (compact : Bool) (document : Toml) : Option (Field (List SharedStateOrder)) :=
  match (document.get "shared_state_order").filter Toml.isTable with
  | some table => parseOrders table
  | none => if compact then some defaultField else none

def optionalCauses (compact : Bool) (document : Toml) : Option (List Cause) :=
  match document.rows "causes" with
  | some nodes => nodes.mapM parseFactCause
  | none => if compact then some [] else none

-- the fields of the detailed texts of minors 2 and 3, which no batch writes any more
variable (parseObservationField : ℤ → Toml → Option FactField)

def optionalFields (minor : ℤ) (document : Toml) : Option (List FactField) :=
  match document.rows "fields" with
  | none => if 2 ≤ minor then none else some []
  | some nodes =>
    if minor < 2 ∨ maxFactFields < nodes.length then none else nodes.mapM (parseObservationField minor)

def parseFact (document : Toml) : Option Fact := do
  let minor ← (document.number "schema_minor").filter fun minor =>
    decide (document.number "schema_version" = some 1) && decide (0 ≤ minor) && decide (minor ≤ 3)
  let kind ← bytesAt "kind" document
  let run ← bytesAt "run_id" document
  let producer ← bytesAt "producer_id" document
  let sequence ← sequenceAt "producer_sequence" document
  let frameIndex ← ((document.get "frame_index").filter Toml.isTable).bind parseFrame
  let compact := decide (minor = 1)
  let causeIds ← optionalCauses compact document
  let decisionId ← optionalField compact "decision_id" document
  let assignmentId ← optionalField compact "assignment_id" document
  let occurrenceId ← optionalField compact "occurrence_id" document
  let reasonCode ← optionalField compact "reason" document
  let sharedStateOrder ← optionalOrders compact document
  let fields ← optionalFields parseObservationField minor document
  let fact : Fact := ⟨⟨run,producer,sequence⟩,kind,frameIndex,causeIds,decisionId,assignmentId,occurrenceId,reasonCode,
    sharedStateOrder,fields⟩
  if wellFormed fact then some fact else none

/-- `decode_fact` -/
def decodeFact (library : TomlText) (text : Bytes) : Except FactBatchError Fact :=
  match (library.parse text).bind (parseFact parseObservationField) with
  | none => .error .malformedFact
  | some fact => .ok fact

end Read

section Fields

lemma decimalValue_decimalNode (n : UInt64) : decimalValue (decimalNode n.toNat) = some n := by
  change ((fromChars (2 ^ 64) (toString n.toNat).toList).map UInt64.ofNat) = some n
  rw [fromChars_toString,if_pos n.toNat_lt,Option.map_some,UInt64.ofNat_toNat]

variable {α : Type} {node : α → Toml} {field : Field α}

lemma fieldTable_availability (field : Field α) :
    availabilityValue (fieldTable node field) = some field.availability := by
  obtain ⟨availability,value,reason⟩ := field
  cases value <;> exact availabilityValue_name rfl

lemma fieldTable_reason (field : Field α) : bytesAt "reason_code" (fieldTable node field) = some field.reasonCode := by
  obtain ⟨availability,value,reason⟩ := field
  cases value <;> exact bytesAt_textNode rfl

lemma fieldTable_value (field : Field α) : (fieldTable node field).get "value" = field.value.map node := by
  obtain ⟨availability,value,reason⟩ := field
  cases value <;> rfl

lemma parseField_fieldTable {value : Toml → Option α} (h : ∀ a, field.value = some a → value (node a) = some a) :
    parseField value (fieldTable node field) = some field := by
  unfold parseField
  rw [fieldTable_availability,fieldTable_reason,fieldTable_value]
  obtain ⟨availability,content,reason⟩ := field
  cases content with
  | none => rfl
  | some a => simp only [Option.bind_eq_bind,Option.bind_some,Option.map_some,h a rfl,Option.getD_some]

lemma parseStringField_stringField (field : Field Bytes) : parseStringField (stringField field) = some field := by
  have hvalue : bytesAt "value" (stringField field) = field.value := by
    change (((fieldTable textNode field).get "value").bind Toml.asString).map Check.bytesOfText = field.value
    rw [fieldTable_value]
    cases field.value with
    | none => rfl
    | some bytes => exact congrArg some (Check.bytesOfText_textOfBytes bytes)
  unfold parseStringField
  rw [hvalue,show stringField = fieldTable textNode from rfl,fieldTable_availability,fieldTable_reason]
  rfl

lemma parseOrder_orderTable (order : SharedStateOrder) : parseOrder (orderTable order) = some order := by
  have hstate : bytesAt "state_id" (orderTable order) = some order.stateId := bytesAt_textNode rfl
  have hsequence : sequenceAt "sequence" (orderTable order) = some order.sequence := decimalValue_decimalNode _
  unfold parseOrder
  rw [hstate,hsequence]
  rfl

lemma parseOrders_ordersTable (field : Field (List SharedStateOrder)) :
    parseOrders (ordersTable field) = some field := by
  have hrows : (ordersTable field).rows "value" = field.value.map fun orders => orders.map orderTable := by
    change ((ordersTable field).get "value").bind Toml.asArray = _
    rw [show ordersTable = fieldTable _ from rfl,fieldTable_value]
    cases field.value <;> rfl
  unfold parseOrders
  rw [hrows,show ordersTable = fieldTable _ from rfl,fieldTable_availability,fieldTable_reason]
  obtain ⟨availability,value,reason⟩ := field
  cases value with
  | none => rfl
  | some orders =>
    have hall : (orders.map orderTable).mapM parseOrder = some orders :=
      mapM_map_some fun order _ => parseOrder_orderTable order
    simp only [Option.bind_eq_bind,Option.bind_some,Option.map_some,hall,Option.getD_some]

lemma parseFactCause_factCauseTable (cause : Cause) : parseFactCause (factCauseTable cause) = some cause := by
  cases cause with
  | fact id =>
    have hrun : bytesAt "run_id" (factCauseTable (.fact id)) = some id.runId := bytesAt_textNode rfl
    have hproducer : bytesAt "producer_id" (factCauseTable (.fact id)) = some id.producerId := bytesAt_textNode rfl
    have hsequence : sequenceAt "producer_sequence" (factCauseTable (.fact id)) = some id.producerSequence :=
      decimalValue_decimalNode _
    have htype : (factCauseTable (.fact id)).text "type" = some "fact" := rfl
    unfold parseFactCause
    rw [htype,if_pos rfl,hrun,hproducer,hsequence]
    rfl
  | preexistingContext contextId =>
    have hcontext : bytesAt "context_id" (factCauseTable (.preexistingContext contextId)) = some contextId :=
      bytesAt_textNode rfl
    have htype : (factCauseTable (.preexistingContext contextId)).text "type" = some "preexisting" := rfl
    unfold parseFactCause
    rw [htype,if_neg (by decide),if_pos rfl,hcontext]
    rfl

end Fields

section Facts
variable {parseObservationField : ℤ → Toml → Option FactField} {library : TomlText} {fact : Fact}

lemma compactDefault_eq {α : Type} {field : Field α} (h : compactDefault field = true) : field = defaultField := by
  obtain ⟨availability,value,reason⟩ := field
  simp only [compactDefault,Bool.and_eq_true,decide_eq_true_eq,Option.isNone_iff_eq_none] at h
  obtain ⟨⟨rfl,rfl⟩,rfl⟩ := h
  rfl

/-- Both forms start with the same head, whatever follows it. -/
lemma parseFact_head (minor : ℤ) (hminor : 0 ≤ minor ∧ minor ≤ 3) (rest : List (String × Toml))
    {causeIds : List Cause} {decisionId assignmentId occurrenceId reasonCode : Field Bytes}
    {sharedStateOrder : Field (List SharedStateOrder)}
    (hcauses : optionalCauses (decide (minor = 1)) (.table (factHead minor fact ++ rest)) = some causeIds)
    (hdecision : optionalField (decide (minor = 1)) "decision_id" (.table (factHead minor fact ++ rest)) =
      some decisionId)
    (hassignment : optionalField (decide (minor = 1)) "assignment_id" (.table (factHead minor fact ++ rest)) =
      some assignmentId)
    (hoccurrence : optionalField (decide (minor = 1)) "occurrence_id" (.table (factHead minor fact ++ rest)) =
      some occurrenceId)
    (hreason : optionalField (decide (minor = 1)) "reason" (.table (factHead minor fact ++ rest)) = some reasonCode)
    (horders : optionalOrders (decide (minor = 1)) (.table (factHead minor fact ++ rest)) = some sharedStateOrder)
    (hfields : optionalFields parseObservationField minor (.table (factHead minor fact ++ rest)) = some [])
    (hfact : fact = ⟨fact.id,fact.kind,fact.frameIndex,causeIds,decisionId,assignmentId,occurrenceId,reasonCode,
      sharedStateOrder,[]⟩) (hwell : wellFormed fact = true) :
    parseFact parseObservationField (.table (factHead minor fact ++ rest)) = some fact := by
  have hversion : (Toml.table (factHead minor fact ++ rest)).number "schema_version" = some 1 := rfl
  have hnumber : ((Toml.table (factHead minor fact ++ rest)).number "schema_minor").filter (fun minor =>
      decide ((Toml.table (factHead minor fact ++ rest)).number "schema_version" = some 1) && decide (0 ≤ minor) &&
        decide (minor ≤ 3)) = some minor := by
    change (some minor).filter _ = some minor
    rw [Option.filter_some,hversion]
    simp [hminor]
  have hframe : (((Toml.table (factHead minor fact ++ rest)).get "frame_index").filter Toml.isTable).bind parseFrame =
      some fact.frameIndex :=
    parseField_fieldTable fun frame _ => decimalValue_decimalNode frame
  refine Option.bind_eq_some_iff.mpr ⟨minor,hnumber,?_⟩
  refine Option.bind_eq_some_iff.mpr ⟨fact.kind,bytesAt_textNode rfl,?_⟩
  refine Option.bind_eq_some_iff.mpr ⟨fact.id.runId,bytesAt_textNode rfl,?_⟩
  refine Option.bind_eq_some_iff.mpr ⟨fact.id.producerId,bytesAt_textNode rfl,?_⟩
  refine Option.bind_eq_some_iff.mpr ⟨fact.id.producerSequence,decimalValue_decimalNode _,?_⟩
  refine Option.bind_eq_some_iff.mpr ⟨fact.frameIndex,hframe,?_⟩
  refine Option.bind_eq_some_iff.mpr ⟨causeIds,hcauses,?_⟩
  refine Option.bind_eq_some_iff.mpr ⟨decisionId,hdecision,?_⟩
  refine Option.bind_eq_some_iff.mpr ⟨assignmentId,hassignment,?_⟩
  refine Option.bind_eq_some_iff.mpr ⟨occurrenceId,hoccurrence,?_⟩
  refine Option.bind_eq_some_iff.mpr ⟨reasonCode,hreason,?_⟩
  refine Option.bind_eq_some_iff.mpr ⟨sharedStateOrder,horders,?_⟩
  refine Option.bind_eq_some_iff.mpr ⟨[],hfields,?_⟩
  dsimp only
  rw [← hfact,if_pos hwell]

/-- The text of a well-formed fact without fields reads back as the fact, in either form. -/
lemma parseFact_factDocument (hwell : wellFormed fact = true) (hfields : fact.fields = []) :
    parseFact parseObservationField (factDocument fact) = some fact := by
  by_cases hcompact : compactable fact = true
  · simp only [compactable,Bool.and_eq_true,List.isEmpty_iff] at hcompact
    obtain ⟨⟨⟨⟨⟨⟨-,hcauses⟩,hdecision⟩,hassignment⟩,hoccurrence⟩,hreason⟩,horders⟩ := hcompact
    have hdocument : factDocument fact = .table (factHead 1 fact ++ []) := by
      rw [List.append_nil]
      exact if_pos (by simp [compactable,hfields,hcauses,hdecision,hassignment,hoccurrence,hreason,horders])
    rw [hdocument]
    refine parseFact_head 1 (by decide) [] rfl rfl rfl rfl rfl rfl rfl ?_ hwell
    obtain ⟨id,kind,frameIndex,causeIds,decisionId,assignmentId,occurrenceId,reasonCode,sharedStateOrder,fields⟩ := fact
    obtain rfl : causeIds = [] := hcauses
    obtain rfl : fields = [] := hfields
    obtain rfl : decisionId = defaultField := compactDefault_eq hdecision
    obtain rfl : assignmentId = defaultField := compactDefault_eq hassignment
    obtain rfl : occurrenceId = defaultField := compactDefault_eq hoccurrence
    obtain rfl : reasonCode = defaultField := compactDefault_eq hreason
    obtain rfl : sharedStateOrder = defaultField := compactDefault_eq horders
    rfl
  · have hdocument : factDocument fact = .table (factHead 0 fact ++
        [("causes",.array (fact.causeIds.map factCauseTable)),("decision_id",stringField fact.decisionId),
          ("assignment_id",stringField fact.assignmentId),("occurrence_id",stringField fact.occurrenceId),
          ("reason",stringField fact.reasonCode),("shared_state_order",ordersTable fact.sharedStateOrder)]) :=
      if_neg hcompact
    have hcauses : (fact.causeIds.map factCauseTable).mapM parseFactCause = some fact.causeIds :=
      mapM_map_some fun cause _ => parseFactCause_factCauseTable cause
    rw [hdocument]
    refine parseFact_head 0 (by decide) _ hcauses (parseStringField_stringField _) (parseStringField_stringField _)
      (parseStringField_stringField _) (parseStringField_stringField _) (parseOrders_ordersTable fact.sharedStateOrder)
      rfl ?_ hwell
    rw [← hfields]

/-- The record of a fact that is written reads back, as text or in its binary form. -/
lemma record_readBack (hreads : fact.fields = [] → library.parse (library.print (factDocument fact)) =
      some (factDocument fact)) (htext : fact.fields = [] → isBinaryFact (library.print (factDocument fact)) = false)
    {record : Bytes} (h : encodeRecord (encodeFact library) fact = .ok record) :
    decodeRecord (decodeFact parseObservationField library) record = .ok fact := by
  by_cases hfields : fact.fields = []
  · have hwritten : encodeFact library fact = .ok record := by
      unfold encodeRecord at h
      rwa [if_pos hfields] at h
    unfold encodeFact at hwritten
    split_ifs at hwritten with hwell
    obtain rfl := Except.ok.inj hwritten
    unfold decodeRecord decodeFact
    rw [htext hfields,if_neg Bool.false_ne_true,hreads hfields,Option.bind_some,parseFact_factDocument hwell hfields]
  · have hwell : wellFormed fact = true := by
      by_contra hwell
      unfold encodeRecord encodeBinaryFact at h
      rw [if_neg hfields,if_neg hwell] at h
      cases h
    obtain ⟨hwrite,hread⟩ :=
      @encodeRecord_of_fields (encodeFact library) (decodeFact parseObservationField library) fact hwell hfields
    rw [hwrite] at h
    obtain rfl := Except.ok.inj h
    exact hread

/-- A batch of facts that is written, those without fields as text and the others in their binary form, reads back fact
for fact under its own sequence, and under no other. -/
theorem factBatch_delivered {facts : List Fact} {sequence : UInt64} {message : Bytes}
    (hreads : ∀ fact ∈ facts, fact.fields = [] →
      library.parse (library.print (factDocument fact)) = some (factDocument fact))
    (htext : ∀ fact ∈ facts, fact.fields = [] → isBinaryFact (library.print (factDocument fact)) = false)
    (hencode : encodeFactBatch (encodeFact library) facts sequence = .ok message) (expected : UInt64) :
    decodeFactBatch (decodeFact parseObservationField library) message expected =
      if expected = sequence then .ok facts else .error .sequenceMismatch :=
  decodeFactBatch_encode (fun fact hfact _ hrecord => record_readBack (hreads fact hfact) (htext fact hfact) hrecord)
    hencode expected

/-- A fact that the short form holds. -/
def shortFact : Fact where
  id := ⟨"run".toUTF8.toList,"engine".toUTF8.toList,2⟩
  kind := "note".toUTF8.toList
  frameIndex := ⟨.known,some 7,[]⟩
  decisionId := defaultField
  assignmentId := defaultField
  occurrenceId := defaultField
  reasonCode := defaultField
  sharedStateOrder := defaultField

def shortText : Bytes :=
  linesBytes ["kind = 'note'","producer_id = 'engine'","producer_sequence = '2'","run_id = 'run'","schema_minor = 1",
    "schema_version = 1","","[frame_index]","availability = 'known'","reason_code = ''","value = '7'"]

/-- The library on the text of the fact. -/
def shortLibrary : TomlText where
  print _ := shortText
  parse bytes := if bytes = shortText then some (factDocument shortFact) else none

/-- A batch of a text and a binary record. -/
def mixedMessage : Bytes :=
  encodeProtocolHeader
    ⟨.factBatch,UInt32.ofNat (4 + (recordBytes [shortText,binaryFactHeader ++ writeFact noteStarted]).length),
      2,5⟩ ++ (writeLe 4 2 ++ recordBytes [shortText,binaryFactHeader ++ writeFact noteStarted])

lemma mixedBatch_encoded : encodeFactBatch (encodeFact shortLibrary) [shortFact,noteStarted] 5 = .ok mixedMessage := by
  decide +kernel

/-- The one fact of the two that is written as text. -/
lemma mixedBatch_reads : ∀ fact ∈ [shortFact,noteStarted], fact.fields = [] →
    shortLibrary.parse (shortLibrary.print (factDocument fact)) = some (factDocument fact) ∧
      isBinaryFact (shortLibrary.print (factDocument fact)) = false := by
  intro fact hfact hfields
  obtain rfl | rfl := List.mem_pair.mp hfact
  · exact ⟨if_pos rfl,by decide +kernel⟩
  · cases hfields

theorem mixedBatch_delivered :
    encodeFactBatch (encodeFact shortLibrary) [shortFact,noteStarted] 5 = .ok mixedMessage ∧
      decodeFactBatch (decodeFact (fun _ _ => none) shortLibrary) mixedMessage 5 = .ok [shortFact,noteStarted] := by
  refine ⟨mixedBatch_encoded,
    (@factBatch_delivered (fun _ _ => none) shortLibrary _ 5 _ ?_ ?_ mixedBatch_encoded 5).trans
    (if_pos rfl)⟩
  · exact fun fact hfact hfields => (mixedBatch_reads fact hfact hfields).1
  · exact fun fact hfact hfields => (mixedBatch_reads fact hfact hfields).2

end Facts
end AytherRuntime.Binary
