import AytherRuntime.Library.Codec
import Mathlib.Logic.Function.Basic

/-! Byte strings that are read at given places, and sums and products of a given width. There is no value
where a read leaves the bytes or a result does not fit. Checksums that fold a word over the bytes: one byte that changes
is always noticed when every step is injective in the word and in the byte. -/
namespace AytherRuntime.Checked
open Codec

/-- The elements that a vector of bytes can hold. -/
def maxVectorSize : ℕ := 2 ^ 63 - 1

structure ByteVector where
  bytes : Bytes
  size_le : bytes.length ≤ maxVectorSize
  deriving DecidableEq, Repr

def ByteVector.ofBytes (bytes : Bytes) : Option ByteVector :=
  if h : bytes.length ≤ maxVectorSize then some ⟨bytes,h⟩ else none

/-- A vector cut off at a size. -/
def ByteVector.take (vector : ByteVector) (count : ℕ) : ByteVector where
  bytes := vector.bytes.take count
  size_le := (List.length_take_le' ..).trans vector.size_le

/-- A vector with one byte replaced. -/
def ByteVector.set (vector : ByteVector) (place : ℕ) (byte : UInt8) : ByteVector where
  bytes := vector.bytes.set place byte
  size_le := (List.length_set ..).trans_le vector.size_le

lemma ByteVector.ofBytes_eq_some_iff {bytes : Bytes} {vector : ByteVector} :
    ByteVector.ofBytes bytes = some vector ↔ vector.bytes = bytes := by
  obtain ⟨held,hsize⟩ := vector
  unfold ByteVector.ofBytes
  split_ifs with hfits
  · rw [Option.some.injEq,ByteVector.mk.injEq]
    exact eq_comm
  · simp only [false_iff]
    rintro rfl
    exact hfits hsize

def add (width a b : ℕ) : Option ℕ := if a + b < 2 ^ width then some (a + b) else none

def mul (width a b : ℕ) : Option ℕ := if a * b < 2 ^ width then some (a * b) else none

/-- The bytes of a range. -/
def slice (bytes : Bytes) (offset count : ℕ) : Option Bytes :=
  if offset + count ≤ bytes.length then some ((bytes.drop offset).take count) else none

/-- The number that stands in a field. -/
def field (bytes : Bytes) (offset width : ℕ) : ℕ := fromLe ((bytes.drop offset).take width)

def readAt (bytes : Bytes) (offset width : ℕ) : Option ℕ := (slice bytes offset width).map fromLe

lemma add_eq {width a b : ℕ} (h : a + b < 2 ^ width) : add width a b = some (a + b) := if_pos h

lemma mul_eq {width a b : ℕ} (h : a * b < 2 ^ width) : mul width a b = some (a * b) := if_pos h

lemma slice_eq {bytes : Bytes} {offset count : ℕ} (h : offset + count ≤ bytes.length) :
    slice bytes offset count = some ((bytes.drop offset).take count) := if_pos h

lemma readAt_eq {bytes : Bytes} {offset width : ℕ} (h : offset + width ≤ bytes.length) :
    readAt bytes offset width = some (field bytes offset width) := by
  unfold readAt
  rw [slice_eq h]
  rfl

lemma length_field {bytes : Bytes} {offset width : ℕ} (h : offset + width ≤ bytes.length) :
    ((bytes.drop offset).take width).length = width := by
  rw [List.length_take,List.length_drop]
  omega

lemma field_lt (bytes : Bytes) (offset width : ℕ) : field bytes offset width < 256 ^ width := by
  refine lt_of_lt_of_le (fromLe_lt _) (Nat.pow_le_pow_right (by decide) ?_)
  rw [List.length_take]
  exact Nat.min_le_left _ _

/-- A field of a part of the bytes is the field of the whole. -/
lemma field_take {bytes : Bytes} {offset width count : ℕ} (h : offset + width ≤ count) :
    field (bytes.take count) offset width = field bytes offset width := by
  unfold field
  rw [List.drop_take,List.take_take,Nat.min_eq_left (by omega)]

/-- What is inside the first bytes is read from them as from the whole. -/
lemma slice_take {bytes : Bytes} {offset width count : ℕ} (h : offset + width ≤ count) :
    slice (bytes.take count) offset width = slice bytes offset width := by
  unfold slice
  rw [List.length_take,List.drop_take,List.take_take,Nat.min_eq_left (show width ≤ count - offset by omega)]
  refine if_congr ?_ rfl rfl
  omega

lemma readAt_take {bytes : Bytes} {offset width count : ℕ} (h : offset + width ≤ count) :
    readAt (bytes.take count) offset width = readAt bytes offset width := by
  unfold readAt
  rw [slice_take h]

lemma fromLe_inj {bytes bytes' : Bytes} (hlength : bytes.length = bytes'.length)
    (h : fromLe bytes = fromLe bytes') : bytes = bytes' := by
  rw [← writeLe_fromLe bytes,← writeLe_fromLe bytes',hlength,h]

lemma field_set_of_le {bytes : Bytes} {place offset width : ℕ} {byte : UInt8} (h : offset + width ≤ place) :
    field (bytes.set place byte) offset width = field bytes offset width := by
  unfold field
  rw [List.drop_set,if_neg (by omega),List.take_set,List.set_eq_of_length_le]
  rw [List.length_take]
  omega

/-- A change inside a field changes its number. -/
lemma field_set_ne {bytes : Bytes} {place offset width : ℕ} {byte : UInt8} (hlow : offset ≤ place)
    (hhigh : place < offset + width) (hplace : place < bytes.length) (hne : bytes[place] ≠ byte) :
    field (bytes.set place byte) offset width ≠ field bytes offset width := by
  unfold field
  rw [List.drop_set,if_neg (by omega),List.take_set]
  intro hsame
  have hinside : place - offset < ((bytes.drop offset).take width).length := by
    rw [List.length_take,List.length_drop]
    omega
  have hget := List.getElem_of_eq (fromLe_inj (List.length_set ..) hsame) (by rwa [List.length_set])
  rw [List.getElem_set_self,List.getElem_take,List.getElem_drop] at hget
  apply hne
  rw [hget]
  congr 1
  omega

lemma eq_append_iff {bytes start rest : Bytes} :
    bytes = start ++ rest ↔ bytes.take start.length = start ∧ bytes.drop start.length = rest := by
  constructor
  · rintro rfl
    exact ⟨List.take_left,List.drop_left⟩
  · rintro ⟨hstart,hrest⟩
    rw [← hstart,← hrest,List.take_append_drop]

/-- The bytes from a place on are a number and what follows it in one way. -/
lemma drop_eq_writeLe_append_iff {bytes rest : Bytes} {offset width n : ℕ}
    (h : offset + width ≤ bytes.length) (hn : n < 256 ^ width) :
    bytes.drop offset = writeLe width n ++ rest ↔
      field bytes offset width = n ∧ bytes.drop (offset + width) = rest := by
  have hlength := length_field h
  have hsplit : bytes.drop offset = (bytes.drop offset).take width ++ bytes.drop (offset + width) := by
    rw [← List.drop_drop,List.take_append_drop]
  have hfield := writeLe_fromLe ((bytes.drop offset).take width)
  rw [hlength] at hfield
  constructor
  · intro hbytes
    obtain ⟨hnumber,hrest⟩ := List.append_inj (hsplit.symm.trans hbytes) (by rw [hlength,length_writeLe])
    refine ⟨?_,hrest⟩
    unfold field
    rw [hnumber,fromLe_writeLe hn]
  · rintro ⟨rfl,rfl⟩
    unfold field
    rw [hfield]
    exact hsplit

/-- A number that was written at a place is read there. -/
lemma field_written {bytes back : Bytes} {offset width n : ℕ} (front : Bytes)
    (h : bytes = front ++ (writeLe width n ++ back)) (hfront : front.length = offset) (hn : n < 256 ^ width) :
    field bytes offset width = n := by
  unfold field
  rw [h,List.drop_left' hfront,List.take_left' (length_writeLe width n),fromLe_writeLe hn]

section Checksum
open Function (Injective)
variable {σ β : Type*} {step : σ → β → σ}

lemma foldl_injective (hword : ∀ b, Injective fun word => step word b) (bytes : List β) :
    Injective fun word => bytes.foldl step word := by
  induction bytes with
  | nil => exact fun _ _ h => h
  | cons b bytes ih => exact fun _ _ h => hword b (ih h)

theorem foldl_set_ne (hword : ∀ b, Injective fun word => step word b) (hbyte : ∀ word, Injective (step word))
    {bytes : List β} {place : ℕ} {b : β} (hplace : place < bytes.length) (hne : bytes[place] ≠ b) (word : σ) :
    (bytes.set place b).foldl step word ≠ bytes.foldl step word := by
  induction bytes generalizing place word with
  | nil => cases hplace
  | cons head bytes ih =>
    cases place with
    | zero => exact fun hsame => hne (hbyte word (foldl_injective hword bytes hsame)).symm
    | succ place => exact ih (Nat.lt_of_succ_lt_succ hplace) hne (step word head)

end Checksum

section MultipliedWords
open Function (Injective)

/-- One byte is mixed into a word of 32 bits, and the word is multiplied. -/
def mixed (multiplier word : UInt32) (byte : UInt8) : UInt32 := (word ^^^ byte.toUInt32) * multiplier

def multiplied (offset multiplier : UInt32) (bytes : List UInt8) : UInt32 :=
  bytes.foldl (mixed multiplier) offset

variable {multiplier inverse : UInt32}

lemma mul_injective (h : multiplier * inverse = 1) : Injective fun word : UInt32 => word * multiplier := by
  intro a b hab
  have hback := congrArg (· * inverse) hab
  simpa only [UInt32.mul_assoc,h,UInt32.mul_one] using hback

/-- A change of one byte changes the checksum when the multiplier has an inverse. -/
theorem multiplied_set_ne (h : multiplier * inverse = 1) (offset : UInt32) {bytes : List UInt8} {place : ℕ}
    {byte : UInt8} (hplace : place < bytes.length) (hne : bytes[place] ≠ byte) :
    multiplied offset multiplier (bytes.set place byte) ≠ multiplied offset multiplier bytes := by
  refine foldl_set_ne (fun b => ?_) (fun word => ?_) hplace hne offset
  · intro a a' hsame
    exact (UInt32.xor_left_inj _).mp (mul_injective h hsame)
  · intro b b' hsame
    exact UInt8.toUInt32_inj.mp ((UInt32.xor_right_inj _).mp (mul_injective h hsame))

end MultipliedWords

end AytherRuntime.Checked
