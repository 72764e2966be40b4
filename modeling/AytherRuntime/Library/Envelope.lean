import AytherRuntime.Library.Checked

/-! Documents that hold one message: a header with a magic, a version, a sequence, a count, the size of the message and
its digest, and the message after it. The message names its sequence once more. -/
namespace AytherRuntime.Envelope
open Codec Checked

section Layout

def headerBytes : ℕ := 64

/-- What the documents of one kind share. After the sequence stand the size of the message and the count, in one order
or the other. -/
structure Layout where
  magic : Bytes
  major : ℕ
  minor : ℕ
  maxBytes : ℕ
  sizeFirst : Bool
  digest : Bytes → Bytes
  magic_length : magic.length = 8
  major_lt : major < 256 ^ 2
  minor_lt : minor < 256 ^ 2
  maxBytes_lt : maxBytes < 256 ^ 4
  digest_length : ∀ message, (digest message).length = 32

/-- What a document holds. -/
structure Content where
  sequence : UInt64
  count : ℕ
  message : Bytes
  deriving DecidableEq

inductive Refusal
  | tooLarge | malformed | incompatible | sequence | count | length | digest
  deriving DecidableEq, Repr

variable (layout : Layout)

def Layout.sizePlace : ℕ := if layout.sizeFirst then 24 else 28
def Layout.countPlace : ℕ := if layout.sizeFirst then 28 else 24

/-- The size and the count, as they follow each other. -/
def Layout.numbers (size count : ℕ) : ℕ × ℕ := if layout.sizeFirst then (size,count) else (count,size)

/-- The document of a content. -/
def Layout.document (content : Content) : Bytes :=
  let numbers := layout.numbers content.message.length content.count
  layout.magic ++ (writeLe 2 layout.major ++ (writeLe 2 layout.minor ++ (writeLe 4 headerBytes ++
    (writeLe 8 content.sequence.toNat ++ (writeLe 4 numbers.1 ++ (writeLe 4 numbers.2 ++
      (layout.digest content.message ++ content.message)))))))

/-- The checks of a document up to the digest of its message. -/
def Layout.read (accepts : ℕ → Bool) (bytes : Bytes) : Except Refusal Content :=
  if layout.maxBytes < bytes.length then .error .tooLarge
  else if bytes.length < headerBytes then .error .malformed
  else if bytes.take 8 ≠ layout.magic then .error .malformed
  else if field bytes 8 2 ≠ layout.major ∨ field bytes 10 2 ≠ layout.minor then .error .incompatible
  else if field bytes 12 4 ≠ headerBytes then .error .malformed
  else if field bytes 16 8 = 0 then .error .sequence
  else if !accepts (field bytes layout.countPlace 4) then .error .count
  else if field bytes layout.sizePlace 4 ≠ bytes.length - headerBytes then .error .length
  else if (bytes.drop 32).take 32 ≠ layout.digest (bytes.drop headerBytes) then .error .digest
  else .ok ⟨.ofNat (field bytes 16 8),field bytes layout.countPlace 4,bytes.drop headerBytes⟩

end Layout

section Document
variable {layout : Layout} {accepts : ℕ → Bool} {bytes : Bytes} {content : Content}

@[simp] lemma length_document (layout : Layout) (content : Content) :
    (layout.document content).length = headerBytes + content.message.length := by
  simp only [Layout.document,List.length_append,length_writeLe,layout.magic_length,layout.digest_length,headerBytes]
  omega

/-- What is checked of the bytes of a document. -/
structure Checks (layout : Layout) (bytes : Bytes) (content : Content) : Prop where
  magic : bytes.take 8 = layout.magic
  major : field bytes 8 2 = layout.major
  minor : field bytes 10 2 = layout.minor
  header : field bytes 12 4 = headerBytes
  sequence : field bytes 16 8 = content.sequence.toNat
  count : field bytes layout.countPlace 4 = content.count
  size : field bytes layout.sizePlace 4 = content.message.length
  digest : (bytes.drop 32).take 32 = layout.digest content.message
  message : bytes.drop headerBytes = content.message

lemma numbers_iff (layout : Layout) {first second : ℕ} (bytes : Bytes) (size count : ℕ)
    (hfirst : field bytes 24 4 = first)
    (hsecond : field bytes 28 4 = second) : (first,second) = layout.numbers size count ↔
      field bytes layout.countPlace 4 = count ∧ field bytes layout.sizePlace 4 = size := by
  subst hfirst hsecond
  unfold Layout.numbers Layout.countPlace Layout.sizePlace
  cases layout.sizeFirst
  · exact Prod.mk.injEq ..  ▸ Iff.rfl
  · exact Iff.trans (Prod.mk.injEq .. ▸ Iff.rfl) and_comm

lemma numbers_lt (layout : Layout) {size count : ℕ} (hsize : size < 256 ^ 4) (hcount : count < 256 ^ 4) :
    (layout.numbers size count).1 < 256 ^ 4 ∧ (layout.numbers size count).2 < 256 ^ 4 := by
  unfold Layout.numbers
  cases layout.sizeFirst
  · exact ⟨hcount,hsize⟩
  · exact ⟨hsize,hcount⟩

/-- Bytes are the document of a content exactly when each field is as the content says. -/
lemma eq_document_iff (hheader : headerBytes ≤ bytes.length) (hcount : content.count < 256 ^ 4)
    (hsize : content.message.length < 256 ^ 4) :
    bytes = layout.document content ↔ Checks layout bytes content := by
  have hsequence : content.sequence.toNat < 256 ^ 8 := content.sequence.toNat_lt
  obtain ⟨hfirst,hsecond⟩ := numbers_lt layout hsize hcount
  unfold headerBytes at hheader
  unfold Layout.document
  dsimp only
  rw [eq_append_iff,layout.magic_length,drop_eq_writeLe_append_iff (by omega) layout.major_lt,
    drop_eq_writeLe_append_iff (by omega) layout.minor_lt,drop_eq_writeLe_append_iff (by omega) (by decide),
    drop_eq_writeLe_append_iff (by omega) hsequence,drop_eq_writeLe_append_iff (by omega) hfirst,
    drop_eq_writeLe_append_iff (by omega) hsecond,eq_append_iff,layout.digest_length,List.drop_drop]
  have hnumbers := numbers_iff layout bytes content.message.length content.count rfl rfl
  rw [Prod.ext_iff] at hnumbers
  constructor
  · rintro ⟨hmagic,hmajor,hminor,hbytes,hnumber,hone,htwo,hdigest,hmessage⟩
    obtain ⟨hcounted,hsized⟩ := hnumbers.mp ⟨hone,htwo⟩
    exact ⟨hmagic,hmajor,hminor,hbytes,hnumber,hcounted,hsized,hdigest,hmessage⟩
  · intro h
    obtain ⟨hone,htwo⟩ := hnumbers.mpr ⟨h.count,h.size⟩
    exact ⟨h.magic,h.major,h.minor,h.header,h.sequence,hone,htwo,h.digest,h.message⟩

/-- A check that refuses, before what is left of the reading. -/
lemma check_eq_ok_iff {α ε : Type} {p : Prop} [Decidable p] {error : ε} {rest : Except ε α} {a : α} :
    (if p then .error error else rest) = .ok a ↔ ¬p ∧ rest = .ok a := by
  split
  · rename_i hp
    simp [hp]
  · rename_i hp
    exact (and_iff_right hp).symm

/-- A document is accepted exactly when it is that of what is read, within the limits. -/
theorem read_eq_ok_iff : layout.read accepts bytes = .ok content ↔
    bytes = layout.document content ∧ content.sequence ≠ 0 ∧ accepts content.count = true ∧
      content.count < 256 ^ 4 ∧ headerBytes + content.message.length ≤ layout.maxBytes := by
  have hmax := layout.maxBytes_lt
  constructor
  · intro h
    unfold Layout.read at h
    simp only [check_eq_ok_iff,not_or,not_not] at h
    obtain ⟨hlarge,hheader,hmagic,hversion,hsize,hsequence,haccepts,hlength,hdigest,hcontent⟩ := h
    obtain rfl := Except.ok.inj hcontent
    have hnumber := field_lt bytes 16 8
    have hdropped := List.length_drop (i := headerBytes) (l := bytes)
    have hback : (UInt64.ofNat (field bytes 16 8)).toNat = field bytes 16 8 := by
      rw [UInt64.toNat_ofNat',Nat.mod_eq_of_lt (by simpa using hnumber)]
    refine ⟨(eq_document_iff (by omega) (field_lt ..) (by dsimp only; omega)).mpr
      ⟨hmagic,hversion.1,hversion.2,hsize,hback.symm,rfl,?_,hdigest,rfl⟩,?_,
      by simpa using haccepts,field_lt ..,by dsimp only; omega⟩
    · dsimp only
      rw [hdropped]
      exact hlength
    · intro hzero
      apply hsequence
      rw [← hback]
      exact congrArg UInt64.toNat hzero
  · rintro ⟨hbytes,hsequence,haccepts,hcount,hlimit⟩
    have hlength : bytes.length = headerBytes + content.message.length := by
      rw [hbytes,length_document]
    have hchecks := (eq_document_iff (by omega) hcount (by omega)).mp hbytes
    have hzero : content.sequence.toNat ≠ 0 := fun h => hsequence (UInt64.toNat_inj.mp h)
    unfold Layout.read
    rw [hchecks.magic,hchecks.major,hchecks.minor,hchecks.header,hchecks.sequence,hchecks.count,hchecks.size,
      hchecks.digest,hchecks.message,haccepts,UInt64.ofNat_toNat]
    rw [if_neg (by omega),if_neg (by omega),if_neg (not_not.mpr rfl),if_neg (by simp),if_neg (not_not.mpr rfl),
      if_neg hzero,if_neg (by decide),if_neg (by omega),if_neg (not_not.mpr rfl)]

end Document

section Kind
variable {α ε : Type}

/-- The documents of a kind with the codec of their messages. The limits of the documents admit what is encoded, and a
message is decoded under one sequence only. -/
structure Kind (α ε : Type) where
  layout : Layout
  encode : α → UInt64 → Except ε Bytes
  decode : Bytes → UInt64 → Except ε α
  count : α → ℕ
  accepts : ℕ → Bool
  fits : α → Bool
  admits : ∀ value sequence message, encode value sequence = .ok message →
    headerBytes + message.length ≤ layout.maxBytes ∧ fits value = true ∧ count value < 256 ^ 4 ∧
      accepts (count value) = true
  sequence_unique : ∀ message first second value other, decode message first = .ok value →
    decode message second = .ok other → first = second

structure Stored (α : Type) where
  sequence : UInt64
  message : Bytes
  value : α
  deriving DecidableEq

inductive ReadFailure (ε : Type)
  | refused (refusal : Refusal) | undecoded (error : ε) | miscounted
  deriving DecidableEq

inductive WriteFailure (ε : Type)
  | zeroSequence | unencoded (error : ε) | tooLarge
  deriving DecidableEq

variable (kind : Kind α ε)

/-- The content of the document of a value whose message is known. -/
def Kind.content (stored : Stored α) : Content := ⟨stored.sequence,kind.count stored.value,stored.message⟩

def Kind.document (stored : Stored α) : Bytes := kind.layout.document (kind.content stored)

def Kind.write (sequence : UInt64) (value : α) : Except (WriteFailure ε) (Stored α) :=
  if sequence = 0 then .error .zeroSequence
  else
    match kind.encode value sequence with
    | .error error => .error (.unencoded error)
    | .ok message =>
      if kind.layout.maxBytes - headerBytes < message.length ∨ !kind.fits value then .error .tooLarge
      else .ok ⟨sequence,message,value⟩

def Kind.read (bytes : Bytes) : Except (ReadFailure ε) (Stored α) :=
  match kind.layout.read kind.accepts bytes with
  | .error refusal => .error (.refused refusal)
  | .ok content =>
    match kind.decode content.message content.sequence with
    | .error error => .error (.undecoded error)
    | .ok value =>
      if kind.count value ≠ content.count then .error .miscounted
      else .ok ⟨content.sequence,content.message,value⟩

variable {kind} {bytes other : Bytes} {stored found : Stored α}

/-- What is read is the document around its message, which decodes under the sequence of the document. -/
theorem Kind.read_eq_ok_iff : kind.read bytes = .ok stored ↔
    bytes = kind.document stored ∧ kind.decode stored.message stored.sequence = .ok stored.value ∧
      stored.sequence ≠ 0 ∧ kind.accepts (kind.count stored.value) = true ∧ kind.count stored.value < 256 ^ 4 ∧
      headerBytes + stored.message.length ≤ kind.layout.maxBytes := by
  constructor
  · intro h
    unfold Kind.read at h
    cases hread : kind.layout.read kind.accepts bytes with
    | error refusal =>
      rw [hread] at h
      exact nomatch h
    | ok content =>
      rw [hread] at h
      dsimp only at h
      cases hdecode : kind.decode content.message content.sequence with
      | error error =>
        rw [hdecode] at h
        exact nomatch h
      | ok value =>
        rw [hdecode] at h
        dsimp only at h
        split_ifs at h with hcount
        obtain rfl := Except.ok.inj h
        have hcontent : kind.content ⟨content.sequence,content.message,value⟩ = content := by
          rw [Kind.content,not_not.mp hcount]
        obtain ⟨hbytes,hsequence,haccepts,hbound,hlimit⟩ := Envelope.read_eq_ok_iff.mp hread
        rw [Kind.document,hcontent,not_not.mp hcount]
        exact ⟨hbytes,hdecode,hsequence,haccepts,hbound,hlimit⟩
  · rintro ⟨hbytes,hdecode,hsequence,haccepts,hbound,hlimit⟩
    have hread : kind.layout.read kind.accepts bytes = .ok (kind.content stored) :=
      Envelope.read_eq_ok_iff.mpr ⟨hbytes,hsequence,haccepts,hbound,hlimit⟩
    unfold Kind.read
    rw [hread]
    dsimp only [Kind.content]
    rw [hdecode]
    dsimp only
    rw [if_neg (not_not.mpr rfl)]

/-- What is encoded is written, whatever its size. -/
lemma Kind.write_eq {sequence : UInt64} {value : α} {message : Bytes} (hsequence : sequence ≠ 0)
    (hencode : kind.encode value sequence = .ok message) :
    kind.write sequence value = .ok ⟨sequence,message,value⟩ := by
  obtain ⟨hlimit,hfits,-⟩ := kind.admits value sequence message hencode
  unfold Kind.write
  rw [if_neg hsequence,hencode]
  dsimp only
  rw [hfits,if_neg (by simp; omega)]

/-- What is written is read again where its message decodes to it. -/
theorem Kind.read_document (hsequence : stored.sequence ≠ 0)
    (hencode : kind.encode stored.value stored.sequence = .ok stored.message)
    (hdecode : kind.decode stored.message stored.sequence = .ok stored.value) :
    kind.read (kind.document stored) = .ok stored := by
  obtain ⟨hlimit,-,hcount,haccepts⟩ := kind.admits _ _ _ hencode
  exact read_eq_ok_iff.mpr ⟨rfl,hdecode,hsequence,haccepts,hcount,hlimit⟩

lemma Kind.length_of_read (h : kind.read bytes = .ok stored) : bytes.length = headerBytes + stored.message.length := by
  rw [(read_eq_ok_iff.mp h).1]
  exact length_document ..

lemma Kind.checks_of_read (h : kind.read bytes = .ok stored) : Checks kind.layout bytes (kind.content stored) := by
  obtain ⟨hbytes,-,-,-,hcount,hlimit⟩ := read_eq_ok_iff.mp h
  have hmax := kind.layout.maxBytes_lt
  have hlength := length_of_read h
  exact (eq_document_iff (by omega) hcount (show stored.message.length < _ by omega)).mp hbytes

lemma Kind.message_of_read (h : kind.read bytes = .ok stored) : bytes.drop headerBytes = stored.message :=
  (checks_of_read h).message

/-- Two documents of one message are the same. -/
theorem Kind.eq_of_message (h : kind.read bytes = .ok stored) (hother : kind.read other = .ok found)
    (hsame : other.drop headerBytes = bytes.drop headerBytes) : other = bytes := by
  obtain ⟨hbytes,hdecode,-⟩ := read_eq_ok_iff.mp h
  obtain ⟨hbytes',hdecode',-⟩ := read_eq_ok_iff.mp hother
  have hmessage : found.message = stored.message := by rw [← message_of_read h,← message_of_read hother,hsame]
  obtain ⟨sequence,message,value⟩ := stored
  obtain ⟨sequence',message',value'⟩ := found
  obtain rfl : message' = message := hmessage
  obtain rfl := kind.sequence_unique _ _ _ _ _ hdecode hdecode'
  obtain rfl := Except.ok.inj (hdecode.symm.trans hdecode')
  rw [hbytes,hbytes']

/-- Two documents with one header have messages of one length and of one digest. -/
theorem Kind.message_of_header (h : kind.read bytes = .ok stored) (hother : kind.read other = .ok found)
    (hsame : other.take headerBytes = bytes.take headerBytes) :
    found.message.length = stored.message.length ∧
      kind.layout.digest found.message = kind.layout.digest stored.message := by
  have hchecks := checks_of_read h
  have hchecks' := checks_of_read hother
  have hplace : kind.layout.sizePlace + 4 ≤ headerBytes := by
    unfold Layout.sizePlace
    cases kind.layout.sizeFirst <;> decide
  have hfield : field other kind.layout.sizePlace 4 = field bytes kind.layout.sizePlace 4 := by
    rw [← field_take hplace,hsame,field_take hplace]
  have hcut : ∀ bytes : Bytes, (bytes.drop 32).take 32 = (bytes.take headerBytes).drop 32 := by
    intro bytes
    rw [List.drop_take]
    rfl
  have hdigest : (other.drop 32).take 32 = (bytes.drop 32).take 32 := by rw [hcut,hcut,hsame]
  exact ⟨hchecks'.size.symm.trans (hfield.trans hchecks.size),hchecks'.digest.symm.trans (hdigest.trans hchecks.digest)⟩

/-- No document begins another one. -/
theorem Kind.eq_of_isPrefix (h : kind.read bytes = .ok stored) (hother : kind.read other = .ok found)
    (hbegins : other <+: bytes) : other = bytes := by
  have hlength := length_of_read h
  have hlength' := length_of_read hother
  obtain ⟨rest,rfl⟩ := hbegins
  have hheader : other.take headerBytes = (other ++ rest).take headerBytes := by
    rw [List.take_append_of_le_length (by omega)]
  obtain ⟨hsize,-⟩ := message_of_header h hother hheader
  have hnone : rest = [] := by
    apply List.length_eq_zero_iff.mp
    rw [List.length_append] at hlength
    omega
  rw [hnone,List.append_nil]

/-- No truncation or extension of an accepted document and no change of its header alone is accepted, and a change of
its message alone only with the same digest. -/
theorem Kind.changed (h : kind.read bytes = .ok stored) (hother : kind.read other = .ok found) (hne : other ≠ bytes) :
    ¬other <+: bytes ∧ ¬bytes <+: other ∧ other.drop headerBytes ≠ bytes.drop headerBytes ∧
      (other.take headerBytes = bytes.take headerBytes →
        kind.layout.digest found.message = kind.layout.digest stored.message) :=
  ⟨fun hbegins => hne (eq_of_isPrefix h hother hbegins),fun hbegins => hne (eq_of_isPrefix hother h hbegins).symm,
    fun hsame => hne (eq_of_message h hother hsame),fun hsame => (message_of_header h hother hsame).2⟩

end Kind
end AytherRuntime.Envelope
