import AytherRuntime.Library.Checked

/-! The bundle of music states that is kept beside a save state: three lengths, a checksum and the payload
they divide. -/
namespace AytherRuntime.Music
open Codec Checked

section Source

def musicStateBundleVersion : ℕ := 1

structure MusicStateBundle where
  gameState : Bytes := []
  hdState : Bytes := []
  packRevision : Bytes := []
  deriving DecidableEq, Repr

inductive MusicStateBundleStatus
  | saved | loaded | missing | invalid | unsupportedVersion | ioError
  deriving DecidableEq, Repr

structure MusicStateBundleResult where
  status : MusicStateBundleStatus := .invalid
  bundle : MusicStateBundle := {}
  deriving DecidableEq, Repr

namespace MusicStateBundleStore

/-- The letters `AYMUSICS`. -/
def magic : Bytes := [65,89,77,85,83,73,67,83]

def header : ℕ := 8 + 4 + 8 + 8 + 4 + 4

/-- `checksum` -/
def checksum (bytes : Bytes) : UInt32 := Checked.multiplied 2166136261 16777619 bytes

def payload (bundle : MusicStateBundle) : Bytes := bundle.gameState ++ bundle.hdState ++ bundle.packRevision

/-- `encode`, as far as the vector can hold what it appends. -/
def encode (bundle : MusicStateBundle) : Option ByteVector :=
  ByteVector.ofBytes (magic ++ (writeLe 4 musicStateBundleVersion ++ (writeLe 8 bundle.gameState.length ++
    (writeLe 8 bundle.hdState.length ++ (writeLe 4 bundle.packRevision.length ++
      (writeLe 4 (checksum (payload bundle)).toNat ++ payload bundle))))))

/-- The number of elements that an unsigned length is as a distance of iterators. -/
def distance (length : ℕ) : ℤ := Int.bmod length (2 ^ 64)

/-- `assign` from a cursor over the payload: there is no slice that leaves the payload. -/
def assign (payload : Bytes) (cursor count : ℤ) : Option Bytes :=
  if 0 ≤ cursor ∧ 0 ≤ count ∧ cursor + count ≤ payload.length then
    some ((payload.drop cursor.toNat).take count.toNat)
  else none

/-- `decode` -/
def decode (vector : ByteVector) : Option MusicStateBundleResult :=
  let bytes := vector.bytes
  if bytes.length < header ∨ bytes.take 8 ≠ magic then some ⟨.invalid,{}⟩
  else do
    let version ← Checked.readAt bytes 8 4
    if version ≠ musicStateBundleVersion then some ⟨.unsupportedVersion,{}⟩
    else do
      let gameSize ← Checked.readAt bytes 12 8
      let hdSize ← Checked.readAt bytes 20 8
      let packSize ← Checked.readAt bytes 28 4
      let expected ← Checked.readAt bytes 32 4
      if (gameSize + hdSize + packSize) % 2 ^ 64 ≠ bytes.length - header then some ⟨.invalid,{}⟩
      else
        let payload := bytes.drop header
        if (checksum payload).toNat ≠ expected then some ⟨.invalid,{}⟩
        else do
          let game ← assign payload 0 (distance gameSize)
          let hd ← assign payload (distance gameSize) (distance hdSize)
          let pack ← assign payload (distance gameSize + distance hdSize) (distance packSize)
          some ⟨.loaded,⟨game,hd,pack⟩⟩

end MusicStateBundleStore

end Source

namespace MusicStateBundleStore

section Fields

def gameSize (vector : ByteVector) : ℕ := Checked.field vector.bytes 12 8
def hdSize (vector : ByteVector) : ℕ := Checked.field vector.bytes 20 8
def packSize (vector : ByteVector) : ℕ := Checked.field vector.bytes 28 4

/-- What `decode` checks before it divides the payload. -/
structure Checks (vector : ByteVector) : Prop where
  header_le : header ≤ vector.bytes.length
  magic_eq : vector.bytes.take 8 = magic
  version_eq : Checked.field vector.bytes 8 4 = musicStateBundleVersion
  sizes_eq : (gameSize vector + hdSize vector + packSize vector) % 2 ^ 64 = vector.bytes.length - header
  checksum_eq : (checksum (vector.bytes.drop header)).toNat = Checked.field vector.bytes 32 4

/-- The checks hold, but the sum of the three lengths does not fit 64 bits. -/
def LengthsWrap (vector : ByteVector) : Prop :=
  Checks vector ∧ 2 ^ 64 ≤ gameSize vector + hdSize vector + packSize vector

/-- The three parts of the payload. -/
def parts (vector : ByteVector) : MusicStateBundle :=
  let payload := vector.bytes.drop header
  ⟨payload.take (gameSize vector),(payload.drop (gameSize vector)).take (hdSize vector),
    (payload.drop (gameSize vector + hdSize vector)).take (packSize vector)⟩

end Fields

section Decode
variable {vector : ByteVector}

lemma distance_eq {length : ℕ} (h : length < 2 ^ 63) : distance length = length := by
  unfold distance
  rw [Int.bmod_def]
  omega

lemma assign_eq {payload : Bytes} {cursor count : ℕ} (h : cursor + count ≤ payload.length) :
    assign payload cursor count = some ((payload.drop cursor).take count) := by
  unfold assign
  rw [if_pos ⟨Int.natCast_nonneg _,Int.natCast_nonneg _,by exact_mod_cast h⟩,Int.toNat_natCast,Int.toNat_natCast]

lemma distance_of_nonneg {length : ℕ} (hlength : length < 2 ^ 64) (h : 0 ≤ distance length) :
    distance length = length := by
  unfold distance at h ⊢
  rw [Int.bmod_def] at h ⊢
  omega

lemma assign_bounds {payload slice : Bytes} {cursor count : ℤ} (h : assign payload cursor count = some slice) :
    0 ≤ count ∧ cursor + count ≤ payload.length := by
  unfold assign at h
  split_ifs at h with hinside
  exact hinside.2

/-- The division of a payload that the checks have let through. -/
def divided (vector : ByteVector) : Option MusicStateBundleResult := do
  let payload := vector.bytes.drop header
  let game ← assign payload 0 (distance (gameSize vector))
  let hd ← assign payload (distance (gameSize vector)) (distance (hdSize vector))
  let pack ← assign payload (distance (gameSize vector) + distance (hdSize vector)) (distance (packSize vector))
  some ⟨.loaded,⟨game,hd,pack⟩⟩

lemma decode_of_checks (h : Checks vector) : decode vector = divided vector := by
  have hheader := h.header_le
  unfold header at hheader
  unfold decode
  dsimp only
  rw [if_neg (by rw [not_or]; exact ⟨Nat.not_lt.mpr h.header_le,not_not.mpr h.magic_eq⟩)]
  rw [Checked.readAt_eq (by omega),Checked.readAt_eq (by omega),Checked.readAt_eq (by omega),
    Checked.readAt_eq (by omega),Checked.readAt_eq (by omega)]
  simp only [Option.bind_eq_bind,Option.bind_some]
  have hsizes := h.sizes_eq
  unfold gameSize hdSize packSize at hsizes
  rw [if_neg (not_not.mpr h.version_eq),if_neg (not_not.mpr hsizes),if_neg (not_not.mpr h.checksum_eq)]
  rfl

lemma decode_of_not_checks (h : ¬Checks vector) :
    ∃ status, status ≠ .loaded ∧ decode vector = some ⟨status,{}⟩ := by
  unfold decode
  dsimp only
  by_cases hshort : vector.bytes.length < header ∨ vector.bytes.take 8 ≠ magic
  · rw [if_pos hshort]
    exact ⟨.invalid,by simp,rfl⟩
  rw [if_neg hshort]
  rw [not_or,not_lt,not_not] at hshort
  obtain ⟨hheader,hmagic⟩ := hshort
  have hlength := hheader
  unfold header at hlength
  rw [Checked.readAt_eq (by omega),Checked.readAt_eq (by omega),Checked.readAt_eq (by omega),
    Checked.readAt_eq (by omega),Checked.readAt_eq (by omega)]
  simp only [Option.bind_eq_bind,Option.bind_some]
  split_ifs with hversion hsizes hchecksum
  · exact ⟨.unsupportedVersion,by simp,rfl⟩
  · exact ⟨.invalid,by simp,rfl⟩
  · exact ⟨.invalid,by simp,rfl⟩
  · exact absurd ⟨hheader,hmagic,not_not.mp hversion,not_not.mp hsizes,not_not.mp hchecksum⟩ h

/-- The three lengths divide the whole payload when their sum fits. -/
lemma sizes_of_fits (h : Checks vector) (hfits : ¬LengthsWrap vector) :
    gameSize vector + hdSize vector + packSize vector = (vector.bytes.drop header).length := by
  have hsum : gameSize vector + hdSize vector + packSize vector < 2 ^ 64 :=
    Nat.lt_of_not_le fun hwrap => hfits ⟨h,hwrap⟩
  rw [List.length_drop,← h.sizes_eq,Nat.mod_eq_of_lt hsum]

lemma decode_of_fits (h : Checks vector) (hfits : ¬LengthsWrap vector) :
    decode vector = some ⟨.loaded,parts vector⟩ := by
  have hsizes := sizes_of_fits h hfits
  have hvector := vector.size_le
  unfold maxVectorSize at hvector
  have hpayload := List.length_drop (i := header) (l := vector.bytes)
  rw [decode_of_checks h]
  unfold divided
  dsimp only
  rw [distance_eq (by omega),distance_eq (by omega),distance_eq (by omega),← Nat.cast_add,← Nat.cast_zero,
    assign_eq (by omega),assign_eq (by omega),assign_eq (by omega)]
  rfl

/-- Some slice leaves the payload when the sum of the lengths does not fit. -/
lemma decode_of_wrap (h : LengthsWrap vector) : decode vector = none := by
  obtain ⟨hchecks,hwrap⟩ := h
  rw [decode_of_checks hchecks,Option.eq_none_iff_forall_ne_some]
  intro result hdivided
  unfold divided at hdivided
  obtain ⟨game,hgame,hdivided⟩ := Option.bind_eq_some_iff.mp hdivided
  obtain ⟨hd,hhd,hdivided⟩ := Option.bind_eq_some_iff.mp hdivided
  obtain ⟨pack,hpack,-⟩ := Option.bind_eq_some_iff.mp hdivided
  obtain ⟨hgameSize,-⟩ := assign_bounds hgame
  obtain ⟨hhdSize,-⟩ := assign_bounds hhd
  obtain ⟨-,hinside⟩ := assign_bounds hpack
  have hgameLt : gameSize vector < 2 ^ 64 := Checked.field_lt _ _ _
  have hhdLt : hdSize vector < 2 ^ 64 := Checked.field_lt _ _ _
  have hpackLt : packSize vector < 2 ^ 32 := Checked.field_lt _ _ _
  rw [distance_of_nonneg hgameLt hgameSize,distance_of_nonneg hhdLt hhdSize,distance_eq (by omega),
    List.length_drop] at hinside
  have hvector := vector.size_le
  unfold maxVectorSize at hvector
  omega

end Decode

section Encode
variable {vector : ByteVector} {bundle : MusicStateBundle}

lemma encode_eq_some_iff : encode bundle = some vector ↔
    vector.bytes = magic ++ (writeLe 4 musicStateBundleVersion ++ (writeLe 8 bundle.gameState.length ++
      (writeLe 8 bundle.hdState.length ++ (writeLe 4 bundle.packRevision.length ++
        (writeLe 4 (checksum (payload bundle)).toNat ++ payload bundle))))) := ByteVector.ofBytes_eq_some_iff

lemma length_payload : (payload bundle).length =
    bundle.gameState.length + bundle.hdState.length + bundle.packRevision.length := by
  unfold payload
  rw [List.length_append,List.length_append]

/-- The encoding, field by field. -/
lemma encode_iff_fields (hgame : bundle.gameState.length < 2 ^ 64) (hhd : bundle.hdState.length < 2 ^ 64)
    (hpack : bundle.packRevision.length < 2 ^ 32) (hheader : header ≤ vector.bytes.length) :
    encode bundle = some vector ↔ vector.bytes.take 8 = magic ∧
      Checked.field vector.bytes 8 4 = musicStateBundleVersion ∧ gameSize vector = bundle.gameState.length ∧
        hdSize vector = bundle.hdState.length ∧ packSize vector = bundle.packRevision.length ∧
          Checked.field vector.bytes 32 4 = (checksum (payload bundle)).toNat ∧
            vector.bytes.drop header = payload bundle := by
  have hchecksum := (checksum (payload bundle)).toNat_lt
  unfold header at hheader
  rw [encode_eq_some_iff,Checked.eq_append_iff,show magic.length = 8 from rfl,
    Checked.drop_eq_writeLe_append_iff (by omega) (by decide),
    Checked.drop_eq_writeLe_append_iff (by omega) (by simpa using hgame),
    Checked.drop_eq_writeLe_append_iff (by omega) (by simpa using hhd),
    Checked.drop_eq_writeLe_append_iff (by omega) (by simpa using hpack),
    Checked.drop_eq_writeLe_append_iff (by omega) (by simpa using hchecksum)]
  rfl

/-- A vector is the encoding of a bundle exactly when the checks hold and its fields and its payload are the
lengths and the contents of the bundle. -/
lemma encode_iff (hgame : bundle.gameState.length < 2 ^ 64) (hhd : bundle.hdState.length < 2 ^ 64)
    (hpack : bundle.packRevision.length < 2 ^ 32) : encode bundle = some vector ↔
      Checks vector ∧ gameSize vector = bundle.gameState.length ∧ hdSize vector = bundle.hdState.length ∧
        packSize vector = bundle.packRevision.length ∧ vector.bytes.drop header = payload bundle := by
  constructor
  · intro hencode
    have hlength := congrArg List.length (encode_eq_some_iff.mp hencode)
    simp only [List.length_append,length_writeLe,length_payload,show magic.length = 8 from rfl] at hlength
    have hheader : header ≤ vector.bytes.length := by
      unfold header
      omega
    obtain ⟨hmagic,hversion,hgameSize,hhdSize,hpackSize,hchecksum,hpayload⟩ :=
      (encode_iff_fields hgame hhd hpack hheader).mp hencode
    have hvector := vector.size_le
    unfold maxVectorSize at hvector
    refine ⟨⟨hheader,hmagic,hversion,?_,?_⟩,hgameSize,hhdSize,hpackSize,hpayload⟩
    · rw [hgameSize,hhdSize,hpackSize]
      unfold header
      omega
    · rw [hpayload,hchecksum]
  · rintro ⟨hchecks,hgameSize,hhdSize,hpackSize,hpayload⟩
    refine (encode_iff_fields hgame hhd hpack hchecks.header_le).mpr
      ⟨hchecks.magic_eq,hchecks.version_eq,hgameSize,hhdSize,hpackSize,?_,hpayload⟩
    rw [← hpayload,hchecks.checksum_eq]

/-- The parts of a payload that the lengths divide are the bundle it came from. -/
lemma parts_eq (hgame : gameSize vector = bundle.gameState.length) (hhd : hdSize vector = bundle.hdState.length)
    (hpack : packSize vector = bundle.packRevision.length)
    (hpayload : vector.bytes.drop header = payload bundle) : parts vector = bundle := by
  unfold parts
  dsimp only
  rw [hpayload,hgame,hhd,hpack,← List.drop_drop]
  unfold payload
  rw [List.append_assoc,List.take_left,List.drop_left,List.take_left,List.drop_left,List.take_length]

/-- What the parts are is encoded as the vector itself. -/
lemma encode_parts (h : Checks vector) (hfits : ¬LengthsWrap vector) : encode (parts vector) = some vector := by
  have hsizes := sizes_of_fits h hfits
  have hgame : (parts vector).gameState.length = gameSize vector := by
    unfold parts
    rw [List.length_take]
    omega
  have hhd : (parts vector).hdState.length = hdSize vector := by
    unfold parts
    rw [List.length_take,List.length_drop]
    omega
  have hpack : (parts vector).packRevision.length = packSize vector := by
    unfold parts
    rw [List.length_take,List.length_drop]
    omega
  have hgameLt : gameSize vector < 2 ^ 64 := Checked.field_lt _ _ _
  have hhdLt : hdSize vector < 2 ^ 64 := Checked.field_lt _ _ _
  have hpackLt : packSize vector < 2 ^ 32 := Checked.field_lt _ _ _
  refine (encode_iff (hgame ▸ hgameLt) (hhd ▸ hhdLt) (hpack ▸ hpackLt)).mpr
    ⟨h,hgame.symm,hhd.symm,hpack.symm,?_⟩
  unfold parts payload
  dsimp only
  rw [← List.drop_drop,List.append_assoc]
  nth_rewrite 1 [← List.take_append_drop (gameSize vector) (vector.bytes.drop header)]
  congr 1
  nth_rewrite 1 [← List.take_append_drop (hdSize vector) ((vector.bytes.drop header).drop (gameSize vector))]
  congr 1
  refine (List.take_of_length_le ?_).symm
  rw [List.length_drop,List.length_drop]
  omega

end Encode

section Result

/-- `decode` divides the payload inside it, and says loaded exactly of what encodes the bundle it returns. -/
def DecodesExactly (vector : ByteVector) : Prop :=
  ∃ result, decode vector = some result ∧ (result.status = .loaded ↔ encode result.bundle = some vector)

/-- `decode` is right about exactly those bytes whose lengths do not wrap, and gives back every bundle that is
encoded with a pack revision whose length fits its field. -/
theorem decodesExactly_iff (vector : ByteVector) : (DecodesExactly vector ↔ ¬LengthsWrap vector) ∧
    ∀ bundle, bundle.packRevision.length < 2 ^ 32 → encode bundle = some vector →
      decode vector = some ⟨.loaded,bundle⟩ := by
  constructor
  · by_cases hchecks : Checks vector
    · constructor
      · rintro ⟨result,hdecode,-⟩ hwrap
        rw [decode_of_wrap hwrap] at hdecode
        cases hdecode
      · intro hfits
        exact ⟨_,decode_of_fits hchecks hfits,iff_of_true rfl (encode_parts hchecks hfits)⟩
    · obtain ⟨status,hstatus,hdecode⟩ := decode_of_not_checks hchecks
      have hencode : ¬encode {} = some vector := fun h =>
        hchecks ((encode_iff (by simp) (by simp) (by simp)).mp h).1
      exact iff_of_true ⟨_,hdecode,iff_of_false hstatus hencode⟩ fun hwrap => hchecks hwrap.1
  · intro bundle hpack hencode
    have hlength := congrArg List.length (encode_eq_some_iff.mp hencode)
    simp only [List.length_append,length_writeLe,length_payload,show magic.length = 8 from rfl] at hlength
    have hvector := vector.size_le
    unfold maxVectorSize at hvector
    obtain ⟨hchecks,hgameSize,hhdSize,hpackSize,hpayload⟩ :=
      (encode_iff (by omega) (by omega) hpack).mp hencode
    have hfits : ¬LengthsWrap vector := fun hwrap => by
      have := hwrap.2
      omega
    rw [decode_of_fits hchecks hfits,parts_eq hgameSize hhdSize hpackSize hpayload]

/-- A header alone, whose lengths are the largest number, one and nothing. -/
def wrappingVector : ByteVector where
  bytes := magic ++ writeLe 4 1 ++ writeLe 8 (2 ^ 64 - 1) ++ writeLe 8 1 ++ writeLe 4 0 ++ writeLe 4 2166136261
  size_le := by decide

/-- The lengths pass the comparison with an empty payload, and the first slice leaves it. -/
theorem wrappingVector_not_decodesExactly : ¬DecodesExactly wrappingVector := by
  have hdecode : decode wrappingVector = none := by decide
  rintro ⟨result,hresult,-⟩
  rw [hdecode] at hresult
  cases hresult

end Result

end MusicStateBundleStore

end AytherRuntime.Music
