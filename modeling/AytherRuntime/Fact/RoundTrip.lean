import AytherRuntime.Fact.Binary

/-! The reader of binary facts accepts exactly what their writer gives: one codec for each part, up to
the whole fact. -/
namespace AytherRuntime.Binary
open Codec

section Parts

lemma codes_availability : Codes (readEnum availabilities) writeAvailability (fun _ => True) :=
  codes_enum (by decide) (fun a => by cases a <;> decide) (by decide)

lemma codes_unit : Codes (readEnum units) writeUnit (fun _ => True) :=
  codes_enum (by decide) (fun a => by cases a <;> decide) (by decide)

lemma codes_factId : Codes readFactId writeFactId
    (fun id => id.runId.length < 2 ^ 32 ∧ id.producerId.length < 2 ^ 32) := by
  have hcodes : Codes readFactId _ _ :=
    codes_text.field (C := fun _ => True) FactId.runId fun runId _ =>
    codes_text.field FactId.producerId fun producerId _ =>
    codes_uint64.field FactId.producerSequence fun sequence _ =>
    codes_pure fun id => by
      obtain ⟨_,_,_⟩ := id
      simp [and_comm,and_left_comm]
  exact hcodes.congr (by simp) (by simp [writeFactId])

/-- A field that reads back: it has a value exactly where it is known. -/
def FieldValid {α : Type} (valid : α → Prop) (field : Field α) : Prop :=
  field.reasonCode.length < 2 ^ 32 ∧ (field.availability = .known ↔ field.value.isSome = true) ∧
    ∀ value, field.value = some value → valid value

lemma codes_field {α : Type} {read : Reader α} {write : α → Bytes} {valid : α → Prop}
    (h : Codes read write valid) : Codes (readField read) (writeField write) (FieldValid valid) := by
  have hvalue : ∀ availability reasonCode, Codes
      (if availability = .known then do
        let value ← read
        pure ({ availability, value := some value, reasonCode } : Field α)
      else pure { availability, reasonCode })
      (fun field => field.value.elim [] write)
      (fun field => ((field.availability = .known ↔ field.value.isSome = true) ∧
        ∀ value, field.value = some value → valid value) ∧
          field.reasonCode = reasonCode ∧ field.availability = availability ∧ True) := by
    intro availability reasonCode bytes field rest
    obtain ⟨availability',value,reasonCode'⟩ := field
    split
    · rename_i hknown
      rw [bind_eq_some]
      constructor
      · rintro ⟨a,mid,hread,hpure⟩
        obtain ⟨ha,rfl⟩ := (h _ _ _).mp hread
        obtain ⟨hsame,rfl⟩ := pure_eq_some.mp hpure
        cases hsame
        simp [hknown,ha]
      · rintro ⟨⟨⟨hiff,hvalid⟩,rfl,rfl,-⟩,rfl⟩
        cases value with
        | none => cases hiff.mp hknown
        | some a => exact ⟨a,rest,h.read_write (hvalid a rfl) rest,pure_eq_some.mpr ⟨rfl,rfl⟩⟩
    · rename_i hknown
      rw [pure_eq_some]
      constructor
      · rintro ⟨hsame,rfl⟩
        cases hsame
        simp [hknown]
      · rintro ⟨⟨⟨hiff,hvalid⟩,rfl,rfl,-⟩,rfl⟩
        cases value with
        | none => exact ⟨rfl,rfl⟩
        | some a => exact absurd (hiff.mpr rfl) hknown
  have hcodes : Codes (readField read) _ _ :=
    codes_availability.field (C := fun _ => True) Field.availability fun availability _ =>
    codes_text.field Field.reasonCode fun reasonCode _ => hvalue availability reasonCode
  refine hcodes.congr (fun _ => ⟨fun h => h.1.2,fun h => ⟨⟨trivial,h⟩,trivial⟩⟩) fun field _ => ?_
  unfold writeField
  rw [List.append_assoc]
  cases field.value <;> rfl

lemma codes_list {α : Type} {read : Reader α} {write : α → Bytes} {valid : α → Prop}
    (h : Codes read write valid) {bound : ℕ} (hbound : bound < 2 ^ 32) :
    Codes (readList bound read) (writeList write)
      (fun values => values.length ≤ bound ∧ ∀ value ∈ values, valid value) := by
  intro bytes values rest
  unfold readList writeList
  rw [bind_eq_some,List.append_assoc]
  constructor
  · rintro ⟨count,mid,hread,hmany⟩
    obtain ⟨-,rfl⟩ := (codes_le 4 _ _ _).mp hread
    obtain ⟨hcount,hmany⟩ := guard_eq_some.mp hmany
    obtain ⟨⟨rfl,hvalues⟩,rfl⟩ := (h.many count _ _ _).mp hmany
    exact ⟨⟨hcount,hvalues⟩,rfl⟩
  · rintro ⟨⟨hcount,hvalues⟩,rfl⟩
    refine ⟨values.length,_,(codes_le 4).read_write (by omega) _,guard_eq_some.mpr ⟨hcount,?_⟩⟩
    exact (h.many _).read_write ⟨rfl,hvalues⟩ rest

def CauseValid : Cause → Prop
  | .fact id => id.runId.length < 2 ^ 32 ∧ id.producerId.length < 2 ^ 32
  | .preexistingContext contextId => contextId.length < 2 ^ 32

lemma codes_cause : Codes readCause writeCause CauseValid := by
  have hrest : ∀ type : UInt8, Codes
      (if type = 0 then Cause.fact <$> readFactId
        else if type = 1 then Cause.preexistingContext <$> readText else failure)
      (fun cause => (writeCause cause).tail)
      (fun cause => CauseValid cause ∧ (writeCause cause).head? = some type ∧ True) := by
    intro type
    split
    · rename_i htype
      refine codes_factId.alternative Cause.fact (fun cause => ?_) fun _ => rfl
      cases cause <;> simp [CauseValid,writeCause,htype]
    split
    · rename_i htype
      refine codes_text.alternative Cause.preexistingContext (fun cause => ?_) fun _ => rfl
      cases cause <;> simp [CauseValid,writeCause,htype]
    · refine codes_failure fun cause => ?_
      cases cause <;> simp_all [writeCause,eq_comm]
  intro bytes cause rest
  unfold readCause
  rw [bind_eq_some]
  constructor
  · rintro ⟨type,mid,htype,hcause⟩
    obtain ⟨-,rfl⟩ := (codes_byte _ _ _).mp htype
    obtain ⟨⟨hvalid,hhead,-⟩,rfl⟩ := (hrest type _ _ _).mp hcause
    refine ⟨hvalid,?_⟩
    cases cause <;> (cases hhead; rfl)
  · rintro ⟨hvalid,rfl⟩
    cases cause with
    | fact id => exact ⟨0,_,codes_byte.read_write trivial _,(hrest 0).read_write ⟨hvalid,rfl,trivial⟩ rest⟩
    | preexistingContext contextId =>
      exact ⟨1,_,codes_byte.read_write trivial _,(hrest 1).read_write ⟨hvalid,rfl,trivial⟩ rest⟩

lemma codes_order : Codes readOrder writeOrder (fun order => order.stateId.length < 2 ^ 32) := by
  have hcodes : Codes readOrder _ _ :=
    codes_text.field (C := fun _ => True) SharedStateOrder.stateId fun stateId _ =>
    codes_uint64.field SharedStateOrder.sequence fun sequence _ =>
    codes_pure fun order => by
      obtain ⟨_,_⟩ := order
      simp [and_comm]
  exact hcodes.congr (by simp) (by simp [writeOrder])

def ValueValid : FactFieldValue → Prop
  | .text value => value.length < 2 ^ 32
  | .factId id => id.runId.length < 2 ^ 32 ∧ id.producerId.length < 2 ^ 32
  | _ => True

lemma codes_bool : Codes
    (do
      let value ← readByte
      if value ≤ 1 then pure (FactFieldValue.bool (value ≠ 0)) else failure)
    writeValue (fun value => ∃ b, value = .bool b) := by
  intro bytes value rest
  rw [bind_eq_some]
  constructor
  · rintro ⟨byte,mid,hbyte,hvalue⟩
    obtain ⟨-,rfl⟩ := (codes_byte _ _ _).mp hbyte
    obtain ⟨hle,hvalue⟩ := guard_eq_some.mp hvalue
    obtain ⟨rfl,rfl⟩ := pure_eq_some.mp hvalue
    refine ⟨⟨_,rfl⟩,?_⟩
    have hcases : byte = 0 ∨ byte = 1 := by
      have hle' := UInt8.le_iff_toNat_le.mp hle
      rcases Nat.le_one_iff_eq_zero_or_eq_one.mp hle' with hzero | hone
      · exact Or.inl (UInt8.toNat_inj.mp hzero)
      · exact Or.inr (UInt8.toNat_inj.mp hone)
    rcases hcases with rfl | rfl <;> rfl
  · rintro ⟨⟨b,rfl⟩,rfl⟩
    cases b
    · exact ⟨0,rest,codes_byte.read_write trivial rest,rfl⟩
    · exact ⟨1,rest,codes_byte.read_write trivial rest,rfl⟩

lemma codes_value (type : UInt8) : Codes (readValue type) writeValue
    (fun value => ValueValid value ∧ value.index = type) := by
  unfold readValue
  split
  · rename_i htype
    refine (codes_pure (C := fun value => value = .monostate) fun _ => Iff.rfl).congr (fun value => ?_) ?_
    · cases value <;> simp [ValueValid,FactFieldValue.index,htype]
    · rintro _ ⟨-,rfl⟩
      rfl
  split
  · rename_i htype
    refine codes_bool.congr (fun value => ?_) fun _ _ => rfl
    cases value <;> simp [ValueValid,FactFieldValue.index,htype]
  split
  · rename_i htype
    refine codes_uint64.alternative _ (fun value => ?_) fun _ => rfl
    cases value <;> simp [ValueValid,FactFieldValue.index,htype]
  split
  · rename_i htype
    refine codes_uint64.alternative _ (fun value => ?_) fun _ => ?_
    · cases value with
      | int64 value =>
        simp only [ValueValid,FactFieldValue.index,htype,true_and,true_iff]
        exact ⟨value.toUInt64,by simp⟩
      | _ => simp [ValueValid,FactFieldValue.index,htype]
    · simp [writeValue]
  split
  · rename_i htype
    refine codes_uint64.alternative _ (fun value => ?_) fun _ => rfl
    cases value <;> simp [ValueValid,FactFieldValue.index,htype]
  split
  · rename_i htype
    refine codes_text.alternative _ (fun value => ?_) fun _ => rfl
    cases value <;> simp [ValueValid,FactFieldValue.index,htype]
  split
  · rename_i htype
    refine codes_factId.alternative _ (fun value => ?_) fun _ => rfl
    cases value <;> simp [ValueValid,FactFieldValue.index,htype]
  · refine codes_failure fun value => ?_
    cases value <;> simp_all [FactFieldValue.index,eq_comm]

def FieldTextsValid (field : FactField) : Prop :=
  field.name.length < 2 ^ 32 ∧ field.unavailableReason.length < 2 ^ 32 ∧ ValueValid field.value

lemma codes_binaryField : Codes readBinaryField writeBinaryField FieldTextsValid := by
  -- the index that was read says what the value may be, so it joins the components that are known
  have hvalue : ∀ name availability unit type unavailableReason, Codes
      (do
        let value ← readValue type
        pure ({ name, availability, unit, value, unavailableReason } : FactField))
      (fun field => writeValue field.value)
      (fun field => ValueValid field.value ∧ field.unavailableReason = unavailableReason ∧
        field.value.index = type ∧ field.unit = unit ∧ field.availability = availability ∧
          field.name = name ∧ True) := by
    intro name availability unit type unavailableReason bytes field rest
    obtain ⟨name',availability',unit',value',unavailableReason'⟩ := field
    rw [bind_eq_some]
    constructor
    · rintro ⟨value,mid,hread,hpure⟩
      obtain ⟨hvalid,rfl⟩ := (codes_value type _ _ _).mp hread
      obtain ⟨hsame,rfl⟩ := pure_eq_some.mp hpure
      cases hsame
      exact ⟨⟨hvalid.1,rfl,hvalid.2,rfl,rfl,rfl,trivial⟩,rfl⟩
    · rintro ⟨⟨hvalid,rfl,hindex,rfl,rfl,rfl,-⟩,rfl⟩
      exact ⟨value',rest,(codes_value type).read_write ⟨hvalid,hindex⟩ rest,
        pure_eq_some.mpr ⟨rfl,rfl⟩⟩
  have hcodes : Codes readBinaryField _ _ :=
    codes_text.field (C := fun _ => True) FactField.name fun name _ =>
    codes_availability.field FactField.availability fun availability _ =>
    codes_unit.field FactField.unit fun unit _ =>
    codes_byte.field (fun field => field.value.index) fun type _ =>
    codes_text.field FactField.unavailableReason fun unavailableReason _ =>
    hvalue name availability unit type unavailableReason
  refine hcodes.congr (fun field => ?_) fun field _ => ?_
  · simp [FieldTextsValid]
  · simp [writeBinaryField]

/-- The lengths and counts that a fact's bytes can say. -/
structure FactSized (fact : Fact) : Prop where
  id : fact.id.runId.length < 2 ^ 32 ∧ fact.id.producerId.length < 2 ^ 32
  kind : fact.kind.length < 2 ^ 32
  frameIndex : FieldValid (fun _ => True) fact.frameIndex
  causeIds : fact.causeIds.length ≤ maxFactCauses ∧ ∀ cause ∈ fact.causeIds, CauseValid cause
  decisionId : FieldValid (fun text => text.length < 2 ^ 32) fact.decisionId
  assignmentId : FieldValid (fun text => text.length < 2 ^ 32) fact.assignmentId
  occurrenceId : FieldValid (fun text => text.length < 2 ^ 32) fact.occurrenceId
  reasonCode : FieldValid (fun text => text.length < 2 ^ 32) fact.reasonCode
  sharedStateOrder : FieldValid (fun orders => orders.length ≤ maxFactStateOrders ∧
    ∀ order ∈ orders, order.stateId.length < 2 ^ 32) fact.sharedStateOrder
  fields : fact.fields.length ≤ maxFactFields ∧ ∀ field ∈ fact.fields, FieldTextsValid field

lemma codes_fact : Codes readFact writeFact FactSized := by
  have hcodes : Codes readFact _ _ :=
    codes_factId.field (C := fun _ => True) Fact.id fun id _ =>
    codes_text.field Fact.kind fun kind _ =>
    (codes_field codes_uint64).field Fact.frameIndex fun frameIndex _ =>
    (codes_list codes_cause (by decide)).field Fact.causeIds fun causeIds _ =>
    (codes_field codes_text).field Fact.decisionId fun decisionId _ =>
    (codes_field codes_text).field Fact.assignmentId fun assignmentId _ =>
    (codes_field codes_text).field Fact.occurrenceId fun occurrenceId _ =>
    (codes_field codes_text).field Fact.reasonCode fun reasonCode _ =>
    (codes_field (codes_list codes_order (by decide))).field Fact.sharedStateOrder
      fun sharedStateOrder _ =>
    (codes_list codes_binaryField (by decide)).field Fact.fields fun fields _ =>
    codes_pure fun fact => by
      obtain ⟨_,_,_,_,_,_,_,_,_,_⟩ := fact
      simp only [Fact.mk.injEq]
      constructor
      · rintro ⟨rfl,rfl,rfl,rfl,rfl,rfl,rfl,rfl,rfl,rfl,-⟩
        exact ⟨rfl,rfl,rfl,rfl,rfl,rfl,rfl,rfl,rfl,rfl⟩
      · rintro ⟨rfl,rfl,rfl,rfl,rfl,rfl,rfl,rfl,rfl,rfl⟩
        exact ⟨rfl,rfl,rfl,rfl,rfl,rfl,rfl,rfl,rfl,rfl,trivial⟩
  refine hcodes.congr (fun fact => ⟨?_,fun h => ?_⟩) fun fact _ => ?_
  · rintro ⟨⟨hid,hkind,hframe,hcauses,hdecision,hassignment,hoccurrence,hreason,horder,hfields,-⟩,-⟩
    exact ⟨hid,hkind,hframe,hcauses,hdecision,hassignment,hoccurrence,hreason,horder,hfields⟩
  · exact ⟨⟨h.id,h.kind,h.frameIndex,h.causeIds,h.decisionId,h.assignmentId,h.occurrenceId,
      h.reasonCode,h.sharedStateOrder,h.fields,trivial⟩,trivial⟩
  · simp only [writeFact,List.append_assoc,List.append_nil]

end Parts

section WellFormed

lemma identifier_length {value : Bytes} (h : identifier value = true) : value.length < 2 ^ 32 := by
  unfold identifier maxIdentityBytes at h
  have hle := (of_decide_eq_true h).2
  omega

lemma consistent_valid {α : Type} {field : Field α} {valid : α → Prop}
    (h : consistentAvailability field = true) (hvalue : ∀ value, field.value = some value → valid value) :
    FieldValid valid field := by
  unfold consistentAvailability at h
  split at h
  · cases h
  rename_i hreason
  refine ⟨?_,?_,hvalue⟩
  · unfold maxIdentityBytes at hreason
    omega
  · obtain ⟨availability,value,reasonCode⟩ := field
    cases availability <;> cases value <;> simp_all

lemma validField_valid {field : Field Bytes} (h : validField field = true) :
    FieldValid (fun text => text.length < 2 ^ 32) field := by
  unfold validField at h
  rw [Bool.and_eq_true] at h
  refine consistent_valid h.1 fun value hvalue => ?_
  rw [hvalue] at h
  exact identifier_length h.2

lemma validId_length {id : FactId} (h : validId id = true) :
    id.runId.length < 2 ^ 32 ∧ id.producerId.length < 2 ^ 32 := by
  unfold validId at h
  simp only [Bool.and_eq_true] at h
  exact ⟨identifier_length h.1.1,identifier_length h.1.2⟩

lemma validObservationField_valid {field : FactField} {runId : Bytes}
    (h : validObservationField field runId = true) : FieldTextsValid field := by
  unfold validObservationField at h
  split at h
  · cases h
  rename_i hname
  simp only [Bool.or_eq_true,Bool.not_eq_true',decide_eq_true_eq,not_or,Nat.not_lt,
    Bool.not_eq_false] at hname
  have hreason := hname.2
  unfold maxFactFieldTextBytes at hreason
  split at h
  · cases h
  split at h
  · cases h
  split at h
  · cases h
  refine ⟨identifier_length hname.1,by omega,?_⟩
  cases hvalue : field.value with
  | text value =>
    rw [hvalue] at h
    have hle := of_decide_eq_true h
    unfold maxFactFieldTextBytes at hle
    exact lt_of_le_of_lt hle (by decide)
  | factId id =>
    rw [hvalue] at h
    rw [Bool.and_eq_true] at h
    exact validId_length h.1
  | _ => trivial

/-- A well-formed fact fits its bytes. -/
lemma wellFormed_sized {fact : Fact} (h : wellFormed fact = true) : FactSized fact := by
  unfold wellFormed at h
  simp only [Bool.and_eq_true,decide_eq_true_eq,List.all_eq_true] at h
  obtain ⟨⟨⟨⟨⟨⟨⟨⟨⟨⟨⟨⟨⟨⟨hid,hkind⟩,hframe⟩,hdecision⟩,hassignment⟩,hoccurrence⟩,hreason⟩,horder⟩,hcauses⟩,
    hfields⟩,heach⟩,-⟩,hcause⟩,-⟩,horders⟩ := h
  refine ⟨validId_length hid,identifier_length hkind,consistent_valid hframe fun _ _ => trivial,
    ⟨hcauses,fun cause hin => ?_⟩,validField_valid hdecision,validField_valid hassignment,
    validField_valid hoccurrence,validField_valid hreason,consistent_valid horder fun orders hvalue => ?_,
    ⟨hfields,fun field hin => validObservationField_valid (heach field hin)⟩⟩
  · have hvalid := hcause cause hin
    cases cause with
    | fact id =>
      simp only [validCause,Bool.and_eq_true] at hvalid
      exact validId_length hvalid.1.1
    | preexistingContext contextId => exact identifier_length hvalid
  · rw [hvalue] at horders
    simp only [validOrders,Bool.and_eq_true,decide_eq_true_eq,List.all_eq_true] at horders
    exact ⟨horders.1.1.2,fun order hin => identifier_length (horders.1.2 order hin).1⟩

end WellFormed

section Facts

/-- The decoder accepts the bytes of the well-formed facts, and no others. -/
theorem decode_iff_encode (bytes : Bytes) (fact : Fact) :
    decodeBinaryFact bytes = some fact ↔ encodeBinaryFact fact = some bytes := by
  have hheader := codes_take binaryFactHeader.length
  unfold decodeBinaryFact encodeBinaryFact
  rw [Option.bind_eq_bind,Option.bind_eq_some_iff]
  constructor
  · rintro ⟨⟨header,body⟩,htake,hread⟩
    obtain ⟨-,rfl⟩ := (hheader _ _ _).mp htake
    dsimp only at hread
    split at hread
    · cases hread
    rename_i hsame
    rw [Option.bind_eq_bind,Option.bind_eq_some_iff] at hread
    obtain ⟨⟨fact',rest⟩,hfact,hread⟩ := hread
    obtain ⟨-,rfl⟩ := (codes_fact _ _ _).mp hfact
    dsimp only at hread
    split at hread
    · cases hread
    rename_i hwell
    obtain ⟨hrest,hwell⟩ := not_or.mp hwell
    cases hread
    rw [not_not] at hsame hrest
    rw [if_pos (by simpa using hwell),hsame,hrest,List.append_nil]
    rfl
  · intro hencode
    split at hencode
    · rename_i hwell
      cases hencode
      refine ⟨(binaryFactHeader,writeFact fact),hheader.read_write rfl _,?_⟩
      have hread := codes_fact.read_write (wellFormed_sized hwell) []
      rw [List.append_nil] at hread
      simp [hread,hwell]
    · cases hencode

/-- No fact's bytes begin another's. -/
theorem encode_append_inj {fact fact' : Fact} {bytes bytes' rest rest' : Bytes}
    (hencode : encodeBinaryFact fact = some bytes) (hencode' : encodeBinaryFact fact' = some bytes')
    (hsame : bytes ++ rest = bytes' ++ rest') : fact = fact' ∧ rest = rest' := by
  unfold encodeBinaryFact at hencode hencode'
  split at hencode
  · rename_i hwell
    split at hencode'
    · rename_i hwell'
      cases hencode
      cases hencode'
      rw [List.append_assoc,List.append_assoc,List.append_cancel_left_eq] at hsame
      exact codes_fact.append_inj (wellFormed_sized hwell) (wellFormed_sized hwell') hsame
    · cases hencode'
  · cases hencode

/-- A proper extension of accepted bytes is rejected, and so is a proper prefix. -/
theorem decode_append_eq_none {bytes rest : Bytes} {fact : Fact} (hrest : rest ≠ [])
    (haccepted : decodeBinaryFact bytes = some fact) : decodeBinaryFact (bytes ++ rest) = none := by
  rw [Option.eq_none_iff_forall_ne_some]
  intro fact' haccepted'
  rw [decode_iff_encode] at haccepted haccepted'
  have hsame : bytes ++ rest = (bytes ++ rest) ++ [] := (List.append_nil _).symm
  exact hrest (encode_append_inj haccepted haccepted' hsame).2

end Facts
end AytherRuntime.Binary
