import AytherRuntime.Library.Sha256
import AytherRuntime.Storage.CheckpointStore

/-! The hasher of contents: the bytes are given in pieces of any size, and the identity of all bytes so far is that of
the whole string. -/
namespace AytherRuntime.Storage
open Sha256 (Words rotr)

section Blocks

def sha256Constants : List UInt32 :=
  [0x428a2f98,0x71374491,0xb5c0fbcf,0xe9b5dba5,0x3956c25b,0x59f111f1,0x923f82a4,0xab1c5ed5,0xd807aa98,0x12835b01,
    0x243185be,0x550c7dc3,0x72be5d74,0x80deb1fe,0x9bdc06a7,0xc19bf174,0xe49b69c1,0xefbe4786,0x0fc19dc6,0x240ca1cc,
    0x2de92c6f,0x4a7484aa,0x5cb0a9dc,0x76f988da,0x983e5152,0xa831c66d,0xb00327c8,0xbf597fc7,0xc6e00bf3,0xd5a79147,
    0x06ca6351,0x14292967,0x27b70a85,0x2e1b2138,0x4d2c6dfc,0x53380d13,0x650a7354,0x766a0abb,0x81c2c92e,0x92722c85,
    0xa2bfe8a1,0xa81a664b,0xc24b8b70,0xc76c51a3,0xd192e819,0xd6990624,0xf40e3585,0x106aa070,0x19a4c116,0x1e376c08,
    0x2748774c,0x34b0bcb5,0x391c0cb3,0x4ed8aa4a,0x5b9cca4f,0x682e6ff3,0x748f82ee,0x78a5636f,0x84c87814,0x8cc70208,
    0x90befffa,0xa4506ceb,0xbef9a3f7,0xc67178f2]

variable (words : List UInt32) (state : Words) (block : List UInt8)

def firstWord (index : ℕ) : UInt32 :=
  let offset := index * 4
  (block.getD offset 0).toUInt32 <<< 24 ||| (block.getD (offset + 1) 0).toUInt32 <<< 16 |||
    (block.getD (offset + 2) 0).toUInt32 <<< 8 ||| (block.getD (offset + 3) 0).toUInt32

/-- The next word of the schedule after those before it. -/
def nextWord (index : ℕ) : List UInt32 :=
  let s0 := rotr 7 (words.getD (index - 15) 0) ^^^ rotr 18 (words.getD (index - 15) 0) ^^^ words.getD
    (index - 15) 0 >>> 3
  let s1 := rotr 17 (words.getD (index - 2) 0) ^^^ rotr 19 (words.getD (index - 2) 0) ^^^ words.getD
    (index - 2) 0 >>> 10
  words ++ [words.getD (index - 16) 0 + s0 + words.getD (index - 7) 0 + s1]

def sha256Words : List UInt32 := (List.range' 16 48).foldl nextWord ((List.range 16).map (firstWord block))

def sha256Round (index : ℕ) : Words :=
  let ⟨a,b,c,d,e,f,g,h⟩ := state
  let upper := rotr 6 e ^^^ rotr 11 e ^^^ rotr 25 e
  let choose := (e &&& f) ^^^ (~~~e &&& g)
  let first := h + upper + choose + sha256Constants.getD index 0 + words.getD index 0
  let lower := rotr 2 a ^^^ rotr 13 a ^^^ rotr 22 a
  let majority := (a &&& b) ^^^ (a &&& c) ^^^ (b &&& c)
  let second := lower + majority
  ⟨first + second,a,b,c,d + first,e,f,g⟩

/-- `sha256_block` -/
def sha256Block : Words := state.add ((List.range 64).foldl (sha256Round (sha256Words block)) state)

end Blocks

/-- The bytes of a block that is not whole yet are pending. -/
structure ContentHasher where
  state : Words :=
    ⟨0x6a09e667,0xbb67ae85,0x3c6ef372,0xa54ff53a,0x510e527f,0x9b05688c,0x1f83d9ab,0x5be0cd19⟩
  pending : List UInt8 := []
  byteSize : UInt64 := 0
  bounded : pending.length < 64 := by decide
  deriving Repr

section Update

/-- The loop of `update` over whole blocks; each takes a byte at least. -/
def wholeBlocks : ℕ → Words → List UInt8 → Words × List UInt8
  | 0,state,bytes => (state,bytes)
  | steps + 1,state,bytes =>
    if 64 ≤ bytes.length then wholeBlocks steps (sha256Block state (bytes.take 64)) (bytes.drop 64) else (state,bytes)

variable (hasher : ContentHasher) (bytes : List UInt8)

/-- The number of bytes that go to a pending block. -/
def copied : ℕ := if hasher.pending.length = 0 then 0 else min (64 - hasher.pending.length) bytes.length

/-- The pending block with the bytes that go to it, hashed when it is whole. -/
def filled : Words × List UInt8 :=
  let pending := hasher.pending ++ bytes.take (copied hasher bytes)
  if hasher.pending.length ≠ 0 ∧ pending.length = 64 then (sha256Block hasher.state pending,[])
    else (hasher.state,pending)

/-- The state after `update`, and the bytes that are pending then. -/
def updated : Words × List UInt8 :=
  let (state,pending) := filled hasher bytes
  let (state,rest) := wholeBlocks bytes.length state (bytes.drop (copied hasher bytes))
  (state,pending ++ rest)

lemma length_wholeBlocks {steps : ℕ} {bytes : List UInt8} (state : Words) (h : bytes.length < 64 * (steps + 1)) :
    (wholeBlocks steps state bytes).2.length < 64 := by
  induction steps generalizing state bytes with
  | zero => exact h
  | succ steps ih =>
    unfold wholeBlocks
    split_ifs with hwhole
    · apply ih
      rw [List.length_drop]
      omega
    · exact Nat.lt_of_not_le hwhole

lemma wholeBlocks_nil (steps : ℕ) (state : Words) : wholeBlocks steps state [] = (state,[]) := by
  cases steps <;> rfl

/-- A pending block that is not whole then has taken all bytes. -/
lemma filled_pending : (filled hasher bytes).2 = [] ∨
    bytes.drop (copied hasher bytes) = [] ∧ (filled hasher bytes).2.length < 64 := by
  have hbounded := hasher.bounded
  unfold filled
  by_cases hnil : hasher.pending.length = 0
  · left
    rw [if_neg (fun h => h.1 hnil),copied,if_pos hnil,List.take_zero,List.append_nil]
    exact List.length_eq_zero_iff.mp hnil
  · have hcopied : copied hasher bytes = min (64 - hasher.pending.length) bytes.length := if_neg hnil
    dsimp only
    split_ifs with hfull
    · exact Or.inl rfl
    · right
      have hlength : (hasher.pending ++ bytes.take (copied hasher bytes)).length ≠ 64 := fun h => hfull ⟨hnil,h⟩
      rw [List.length_append,List.length_take] at hlength
      rw [List.drop_eq_nil_iff,List.length_append,List.length_take]
      omega

lemma updated_bounded : (updated hasher bytes).2.length < 64 := by
  change ((filled hasher bytes).2 ++ (wholeBlocks bytes.length _ (bytes.drop (copied hasher bytes))).2).length < 64
  obtain hnil | ⟨hdrop,hless⟩ := filled_pending hasher bytes
  · rw [hnil,List.nil_append]
    apply length_wholeBlocks
    rw [List.length_drop]
    omega
  · rw [hdrop,wholeBlocks_nil,List.append_nil]
    exact hless

end Update

namespace ContentHasher
variable (hasher : ContentHasher) (bytes : List UInt8)

def update : ContentHasher where
  state := (updated hasher bytes).1
  pending := (updated hasher bytes).2
  byteSize := hasher.byteSize + UInt64.ofNat bytes.length
  bounded := updated_bounded hasher bytes

/-- The size of the last blocks: one, or two when the length does not fit after the pending bytes. -/
def padded : ℕ := if hasher.pending.length < 56 then 64 else 128

/-- The pending bytes with what ends the message, and the length at the end of the last block. -/
def tail : List UInt8 :=
  let started := (hasher.pending ++ List.replicate (128 - hasher.pending.length) 0).set hasher.pending.length 0x80
  let bitLength := hasher.byteSize * 8
  (List.range 8).foldl (fun tail index =>
    tail.set (hasher.padded - 1 - index) (bitLength >>> UInt64.ofNat (index * 8)).toUInt8) started

def finish : ContentIdentity :=
  let state := (List.range (hasher.padded / 64)).foldl
    (fun state index => sha256Block state ((hasher.tail.drop (64 * index)).take 64)) hasher.state
  { sha256 := state.toList.flatMap fun word : UInt32 =>
      [(word >>> 24).toUInt8,(word >>> 16).toUInt8,(word >>> 8).toUInt8,word.toUInt8],
    byteSize := hasher.byteSize,sized := rfl }

end ContentHasher

/-- `identify_content` -/
def identifyContent (bytes : List UInt8) : ContentIdentity :=
  let hasher : ContentHasher := {}
  (hasher.update bytes).finish

section Reference
open Sha256 (bigEndian number blocks)

/-- The bits of bytes. -/
def bitsOf (bytes : List UInt8) : List Bool := bytes.flatMap fun byte => bigEndian 8 byte.toNat

lemma bitsOf_append (front bytes : List UInt8) : bitsOf (front ++ bytes) = bitsOf front ++ bitsOf bytes :=
  List.flatMap_append

lemma length_bitsOf (bytes : List UInt8) : (bitsOf bytes).length = 8 * bytes.length := by
  induction bytes with
  | nil => rfl
  | cons byte bytes ih =>
    rw [bitsOf,List.flatMap_cons,List.length_append,Sha256.length_bigEndian,List.length_cons]
    change 8 + (bitsOf bytes).length = _
    omega

lemma bitsOf_drop {bytes : List UInt8} {n : ℕ} (h : n ≤ bytes.length) :
    (bitsOf bytes).drop (8 * n) = bitsOf (bytes.drop n) := by
  have hlength : (bitsOf (bytes.take n)).length = 8 * n := by
    rw [length_bitsOf,List.length_take_of_le h]
  conv_lhs => rw [← List.take_append_drop n bytes,bitsOf_append]
  rw [List.drop_left' hlength]

lemma bitsOf_take {bytes : List UInt8} {n : ℕ} (h : n ≤ bytes.length) :
    (bitsOf bytes).take (8 * n) = bitsOf (bytes.take n) := by
  have hlength : (bitsOf (bytes.take n)).length = 8 * n := by
    rw [length_bitsOf,List.length_take_of_le h]
  conv_lhs => rw [← List.take_append_drop n bytes,bitsOf_append]
  rw [List.take_left' hlength]

lemma number_bitsOf_cons (byte : UInt8) (bytes : List UInt8) :
    number (bitsOf (byte :: bytes)) = byte.toNat * 2 ^ (8 * bytes.length) + number (bitsOf bytes) := by
  change number (bigEndian 8 byte.toNat ++ bitsOf bytes) = _
  rw [Sha256.number_append,Sha256.number_bigEndian,length_bitsOf,Nat.mod_eq_of_lt byte.toNat_lt]

/-- Four bytes that are shifted into a word are the word of their bits. -/
lemma word_eq (a b c d : UInt8) :
    a.toUInt32 <<< 24 ||| b.toUInt32 <<< 16 ||| c.toUInt32 <<< 8 ||| d.toUInt32 =
      UInt32.ofNat (number (bitsOf [a,b,c,d])) := by
  have hbytes := And.intro (And.intro a.toNat_lt b.toNat_lt) (And.intro c.toNat_lt d.toNat_lt)
  have hnumber : number (bitsOf [a,b,c,d]) = a.toNat * 2 ^ 24 + (b.toNat * 2 ^ 16 + (c.toNat * 2 ^ 8 + d.toNat)) := by
    simp only [number_bitsOf_cons,List.length_cons,List.length_nil]
    change _ + (_ + (_ + (_ + 0))) = _
    omega
  have hshift : ∀ (byte : UInt8) (n : UInt32), n.toNat ≤ 24 →
      (byte.toUInt32 <<< n).toNat = byte.toNat * 2 ^ n.toNat := by
    intro byte n hn
    have hbyte := byte.toNat_lt
    have hpow : 2 ^ n.toNat ≤ 2 ^ 24 := Nat.pow_le_pow_right (by decide) hn
    have hless : byte.toNat * 2 ^ n.toNat < 2 ^ 8 * 2 ^ 24 := Nat.mul_lt_mul_of_lt_of_le hbyte hpow (by decide)
    rw [UInt32.toNat_shiftLeft,UInt8.toNat_toUInt32,Nat.mod_eq_of_lt (by omega : n.toNat < 32),Nat.shiftLeft_eq]
    exact Nat.mod_eq_of_lt hless
  apply UInt32.toNat_inj.mp
  rw [UInt32.toNat_or,UInt32.toNat_or,UInt32.toNat_or,hshift a 24 (by decide),hshift b 16 (by decide),
    hshift c 8 (by decide),UInt8.toNat_toUInt32,hnumber,UInt32.toNat_ofNat',Nat.mod_eq_of_lt (by omega)]
  change a.toNat * 2 ^ 24 ||| b.toNat * 2 ^ 16 ||| c.toNat * 2 ^ 8 ||| d.toNat = _
  have hlow : c.toNat * 2 ^ 8 ||| d.toNat = c.toNat * 2 ^ 8 + d.toNat := by
    rw [Nat.mul_comm,Nat.two_pow_add_eq_or_of_lt hbytes.2.2]
  have hmid : b.toNat * 2 ^ 16 ||| (c.toNat * 2 ^ 8 + d.toNat) = b.toNat * 2 ^ 16 + (c.toNat * 2 ^ 8 + d.toNat) := by
    rw [Nat.mul_comm b.toNat,Nat.two_pow_add_eq_or_of_lt (by omega)]
  rw [Nat.or_assoc,Nat.or_assoc,hlow,hmid,Nat.mul_comm a.toNat,Nat.two_pow_add_eq_or_of_lt (by omega)]

/-- The first words of a block are those of its bits. -/
lemma firstWord_eq {block : List UInt8} (hblock : block.length = 64) {index : ℕ} (hindex : index < 16) :
    firstWord block index = Sha256.message (bitsOf block) index := by
  have hfour : (block.drop (4 * index)).take 4 = [block.getD (index * 4) 0,block.getD (index * 4 + 1) 0,
      block.getD (index * 4 + 2) 0,block.getD (index * 4 + 3) 0] := by
    rw [Nat.mul_comm 4]
    apply List.ext_getElem?
    intro place
    have hget : ∀ n < 64, block[n]? = some (block.getD n 0) := by
      intro n hn
      rw [List.getD_eq_getElem?_getD,List.getElem?_eq_getElem (hblock ▸ hn),Option.getD_some]
    rw [List.getElem?_take,List.getElem?_drop]
    match place with
    | 0 | 1 | 2 | 3 => exact hget _ (by omega)
    | place + 4 => rfl
  rw [Sha256.message,show 32 * index = 8 * (4 * index) by omega,bitsOf_drop (by omega),show 32 = 8 * 4 from rfl,
    bitsOf_take (by rw [List.length_drop]; omega),hfour,← word_eq]
  rfl

/-- The words before an index are those of the schedule. -/
def Scheduled (message : ℕ → UInt32) (index : ℕ) (words : List UInt32) : Prop :=
  words.length = index ∧ ∀ t < index, words.getD t 0 = Sha256.schedule message t

lemma Scheduled.next {message : ℕ → UInt32} {index : ℕ} {words : List UInt32} (h : Scheduled message index words)
    (hindex : 16 ≤ index) : Scheduled message (index + 1) (nextWord words index) := by
  obtain ⟨hlength,hwords⟩ := h
  refine ⟨by rw [nextWord,List.length_append,hlength]; rfl,fun t ht => ?_⟩
  by_cases hlast : t = index
  · subst hlast
    rw [nextWord,List.getD_append_right _ _ _ _ (Nat.le_of_eq hlength),hlength,Nat.sub_self,List.getD_cons_zero,
      hwords _ (by omega),hwords _ (by omega),hwords _ (by omega),hwords _ (by omega),
      Sha256.schedule_of_le message hindex]
    unfold Sha256.lowerSigma0 Sha256.lowerSigma1 Sha256.shr
    ac_rfl
  · rw [nextWord,List.getD_append _ _ _ _ (by omega),hwords t (by omega)]

lemma sha256Words_scheduled {block : List UInt8} (hblock : block.length = 64) :
    Scheduled (Sha256.message (bitsOf block)) 64 (sha256Words block) := by
  have hfirst : Scheduled (Sha256.message (bitsOf block)) 16 ((List.range 16).map (firstWord block)) := by
    refine ⟨by rw [List.length_map,List.length_range],fun t ht => ?_⟩
    rw [List.getD_eq_getElem?_getD,List.getElem?_map,List.getElem?_range ht,Option.map_some,Option.getD_some,
      firstWord_eq hblock ht,Sha256.schedule_of_lt _ ht]
  have hloop : ∀ count, Scheduled (Sha256.message (bitsOf block)) (16 + count)
      ((List.range' 16 count).foldl nextWord ((List.range 16).map (firstWord block))) := by
    intro count
    induction count with
    | zero => exact hfirst
    | succ count ih =>
      rw [List.range'_concat,List.foldl_append,Nat.one_mul]
      exact ih.next (Nat.le_add_right 16 count)
  exact hloop 48

/-- The table has the constants of the rounds. -/
lemma sha256Constants_eq {index : ℕ} (hindex : index < 64) :
    sha256Constants.getD index 0 = Sha256.constant index := by
  have htable : ∀ index < 64, Sha256.firstPrimes[index]? = some (Sha256.firstPrimes.getD index 0) ∧ ∃ whole < 7,
      (whole * 2 ^ 32 + (sha256Constants.getD index 0).toNat) ^ 3 ≤ Sha256.firstPrimes.getD index 0 * 2 ^ (32 * 3) ∧
      Sha256.firstPrimes.getD index 0 * 2 ^ (32 * 3) <
        (whole * 2 ^ 32 + (sha256Constants.getD index 0).toNat + 1) ^ 3 := by
    decide +kernel
  obtain ⟨hprime,whole,-,hlow,hhigh⟩ := htable index hindex
  exact (Sha256.rootFraction_eq (by decide) hprime hlow hhigh).symm

/-- The initial state has the words of the standard. -/
lemma initial_eq : (ContentHasher.state {}) = Sha256.initial := by
  have htable : ∀ index < 8, Sha256.firstPrimes[index]? = some (Sha256.firstPrimes.getD index 0) ∧ ∃ whole < 7,
      (whole * 2 ^ 32 + ((ContentHasher.state {}).toList.getD index 0).toNat) ^ 2 ≤
        Sha256.firstPrimes.getD index 0 * 2 ^ (32 * 2) ∧
      Sha256.firstPrimes.getD index 0 * 2 ^ (32 * 2) <
        (whole * 2 ^ 32 + ((ContentHasher.state {}).toList.getD index 0).toNat + 1) ^ 2 := by
    decide +kernel
  have hword : ∀ index < 8, Sha256.initialWord index = (ContentHasher.state {}).toList.getD index 0 := by
    intro index hindex
    obtain ⟨hprime,whole,-,hlow,hhigh⟩ := htable index hindex
    exact Sha256.rootFraction_eq (by decide) hprime hlow hhigh
  unfold Sha256.initial
  rw [hword 0 (by decide),hword 1 (by decide),hword 2 (by decide),hword 3 (by decide),hword 4 (by decide),
    hword 5 (by decide),hword 6 (by decide),hword 7 (by decide)]
  rfl

/-- A block is hashed as the standard has it. -/
theorem sha256Block_eq {block : List UInt8} (hblock : block.length = 64) (state : Words) :
    sha256Block state block = Sha256.compress state (bitsOf block) := by
  have hround : ∀ words index, index ∈ List.range 64 → sha256Round (sha256Words block) words index =
      Sha256.round (Sha256.constant index) (Sha256.schedule (Sha256.message (bitsOf block)) index) words := by
    intro words index hmem
    have hindex := List.mem_range.mp hmem
    rw [← (sha256Words_scheduled hblock).2 index hindex,← sha256Constants_eq hindex]
    rfl
  rw [sha256Block,Sha256.compress,List.foldl_ext _ _ _ hround]

/-- The hash value after the whole blocks of bytes. -/
noncomputable def hashed (state : Words) (bytes : List UInt8) : Words :=
  (blocks 512 (bitsOf bytes)).foldl Sha256.compress state

lemma hashed_nil (state : Words) : hashed state [] = state := by
  change (blocks 512 ([] : List Bool)).foldl Sha256.compress state = state
  rw [Sha256.blocks_nil]
  rfl

lemma hashed_append {front : List UInt8} (hfront : 64 ∣ front.length) (state : Words) (bytes : List UInt8) :
    hashed state (front ++ bytes) = hashed (hashed state front) bytes := by
  have hbits : 512 ∣ (bitsOf front).length := by
    rw [length_bitsOf]
    exact Nat.mul_dvd_mul_left 8 hfront
  rw [hashed,bitsOf_append,Sha256.blocks_append_of_dvd hbits (by decide),List.foldl_append]
  rfl

lemma hashed_block {block : List UInt8} (hblock : block.length = 64) (state : Words) :
    hashed state block = sha256Block state block := by
  rw [hashed,Sha256.blocks_whole (by rw [length_bitsOf,hblock]) (by decide),sha256Block_eq hblock]
  rfl

end Reference

section Given
variable {hasher : ContentHasher} {state : Words} {given bytes : List UInt8}

/-- Whole blocks of some bytes are hashed, and the others are left. -/
def Splits (state : Words) (bytes : List UInt8) (out : Words × List UInt8) : Prop :=
  ∃ whole, bytes = whole ++ out.2 ∧ 64 ∣ whole.length ∧ out.1 = hashed state whole

lemma Splits.none (state : Words) (bytes : List UInt8) : Splits state bytes (state,bytes) :=
  ⟨[],rfl,Nat.dvd_zero 64,(hashed_nil state).symm⟩

/-- What is left goes on with what follows. -/
lemma Splits.trans {out last : Words × List UInt8} {more : List UInt8} (h : Splits state bytes out)
    (hmore : Splits out.1 (out.2 ++ more) last) : Splits state (bytes ++ more) last := by
  obtain ⟨whole,rfl,hwhole,hstate⟩ := h
  obtain ⟨later,hlater,hdvd,hlast⟩ := hmore
  refine ⟨whole ++ later,?_,?_,?_⟩
  · rw [List.append_assoc,hlater,List.append_assoc]
  · rw [List.length_append]
    exact Nat.dvd_add hwhole hdvd
  · rw [hlast,hstate,hashed_append hwhole]

lemma wholeBlocks_splits (steps : ℕ) (state : Words) (bytes : List UInt8) :
    Splits state bytes (wholeBlocks steps state bytes) := by
  induction steps generalizing state bytes with
  | zero => exact Splits.none state bytes
  | succ steps ih =>
    unfold wholeBlocks
    split_ifs with hwhole
    · have hlength := List.length_take_of_le hwhole
      have hfirst : Splits state (bytes.take 64) (sha256Block state (bytes.take 64),[]) :=
        ⟨bytes.take 64,(List.append_nil _).symm,by rw [hlength],(hashed_block hlength state).symm⟩
      have htrans := hfirst.trans (ih (sha256Block state (bytes.take 64)) (bytes.drop 64))
      rwa [List.take_append_drop] at htrans
    · exact Splits.none state bytes

lemma filled_splits (hasher : ContentHasher) (bytes : List UInt8) :
    Splits hasher.state (hasher.pending ++ bytes.take (copied hasher bytes)) (filled hasher bytes) := by
  unfold filled
  dsimp only
  split_ifs with hfull
  · exact ⟨_,(List.append_nil _).symm,by rw [hfull.2],(hashed_block hfull.2 hasher.state).symm⟩
  · exact Splits.none _ _

/-- An update hashes the whole blocks of what was pending and what is given. -/
lemma updated_splits (hasher : ContentHasher) (bytes : List UInt8) :
    Splits hasher.state (hasher.pending ++ bytes) (updated hasher bytes) := by
  have hfilled := filled_splits hasher bytes
  have hrest : Splits (filled hasher bytes).1 ((filled hasher bytes).2 ++ bytes.drop (copied hasher bytes))
      (updated hasher bytes) := by
    have hwhole := wholeBlocks_splits bytes.length (filled hasher bytes).1 (bytes.drop (copied hasher bytes))
    have hupdated : updated hasher bytes =
        ((wholeBlocks bytes.length (filled hasher bytes).1 (bytes.drop (copied hasher bytes))).1,
          (filled hasher bytes).2 ++
            (wholeBlocks bytes.length (filled hasher bytes).1 (bytes.drop (copied hasher bytes))).2) := rfl
    rw [hupdated]
    obtain hnil | ⟨hdrop,-⟩ := filled_pending hasher bytes
    · rw [hnil,List.nil_append,List.nil_append]
      exact hwhole
    · rw [hdrop,wholeBlocks_nil]
      exact Splits.none _ _
  have htrans := hfilled.trans hrest
  rwa [List.append_assoc,List.take_append_drop] at htrans

/-- The hasher has been given some bytes. -/
def ContentHasher.Given (hasher : ContentHasher) (given : List UInt8) : Prop :=
  hasher.byteSize = UInt64.ofNat given.length ∧ Splits Sha256.initial given (hasher.state,hasher.pending)

lemma given_start : ContentHasher.Given {} [] := by
  refine ⟨rfl,?_⟩
  rw [initial_eq]
  exact Splits.none _ _

/-- An update gives the bytes of its piece. -/
theorem ContentHasher.Given.update (h : hasher.Given given) (bytes : List UInt8) :
    (hasher.update bytes).Given (given ++ bytes) := by
  refine ⟨?_,h.2.trans (updated_splits hasher bytes)⟩
  change hasher.byteSize + UInt64.ofNat bytes.length = _
  rw [h.1,List.length_append,UInt64.ofNat_add]

end Given

section Finish
open Sha256 (bigEndian blocks)
variable {hasher : ContentHasher} {given : List UInt8}

lemma bitsOf_cons (byte : UInt8) (bytes : List UInt8) :
    bitsOf (byte :: bytes) = bigEndian 8 byte.toNat ++ bitsOf bytes := rfl

/-- The bytes of a word, the highest first. -/
lemma bitsOf_word (word : UInt32) :
    bitsOf [(word >>> 24).toUInt8,(word >>> 16).toUInt8,(word >>> 8).toUInt8,word.toUInt8] =
      bigEndian 32 word.toNat := by
  have hbyte : ∀ n : UInt32, n.toNat < 32 →
      bigEndian 8 (word >>> n).toUInt8.toNat = bigEndian 8 (word.toNat / 2 ^ n.toNat) := by
    intro n hn
    rw [UInt32.toNat_toUInt8,UInt32.toNat_shiftRight,Nat.mod_eq_of_lt hn,Nat.shiftRight_eq_div_pow,Sha256.bigEndian_mod]
  have hlast : bigEndian 8 word.toUInt8.toNat = bigEndian 8 word.toNat := by
    rw [UInt32.toNat_toUInt8,Sha256.bigEndian_mod]
  simp only [bitsOf_cons]
  rw [hbyte 24 (by decide),hbyte 16 (by decide),hbyte 8 (by decide),hlast,show 32 = 8 + 24 from rfl,
    Sha256.bigEndian_add 8 24,show 24 = 8 + 16 from rfl,Sha256.bigEndian_add 8 16,show 16 = 8 + 8 from rfl,
    Sha256.bigEndian_add 8 8]
  exact congrArg _ (congrArg _ (congrArg _ (List.append_nil _)))

lemma bitsOf_words (state : Words) : bitsOf (state.toList.flatMap fun word : UInt32 =>
    [(word >>> 24).toUInt8,(word >>> 16).toUInt8,(word >>> 8).toUInt8,word.toUInt8]) = state.bits := by
  rw [bitsOf,List.flatMap_assoc]
  exact List.flatMap_congr fun word _ => bitsOf_word word

lemma bitsOf_zeros (count : ℕ) : bitsOf (List.replicate count 0) = List.replicate (8 * count) false := by
  induction count with
  | zero => rfl
  | succ count ih =>
    rw [List.replicate_succ,bitsOf_cons,ih,Nat.mul_succ,Nat.add_comm,← List.replicate_append_replicate]
    rfl

/-- The bytes of a length, the highest first. -/
def lengthBytes (bitLength : UInt64) : List UInt8 :=
  (List.range 8).map fun index => (bitLength >>> UInt64.ofNat ((7 - index) * 8)).toUInt8

lemma bitsOf_lengthBytes (bitLength : UInt64) : bitsOf (lengthBytes bitLength) = bigEndian 64 bitLength.toNat := by
  have hbyte : ∀ index < 8, bigEndian 8 (bitLength >>> UInt64.ofNat (index * 8)).toUInt8.toNat =
      bigEndian 8 (bitLength.toNat / 2 ^ (index * 8)) := by
    intro index hindex
    have hshift : (UInt64.ofNat (index * 8)).toNat = index * 8 := UInt64.toNat_ofNat_of_lt' (by
      change index * 8 < 2 ^ 64
      omega)
    rw [UInt64.toNat_toUInt8,UInt64.toNat_shiftRight,hshift,Nat.mod_eq_of_lt (by omega : index * 8 < 64),
      Nat.shiftRight_eq_div_pow,Sha256.bigEndian_mod]
  have hbits : ∀ count ≤ 8, bitsOf ((List.range count).map fun index =>
      (bitLength >>> UInt64.ofNat ((7 - index) * 8)).toUInt8) =
        bigEndian (8 * count) (bitLength.toNat / 2 ^ (8 * (8 - count))) := by
    intro count hcount
    induction count with
    | zero => rfl
    | succ count ih =>
      have hdiv : bitLength.toNat / 2 ^ (8 * (8 - (count + 1))) / 2 ^ 8 = bitLength.toNat / 2 ^ (8 * (8 - count)) := by
        rw [Nat.div_div_eq_div_mul,← Nat.pow_add]
        congr 2
        omega
      rw [List.range_succ,List.map_append,bitsOf_append,ih (by omega),Nat.mul_succ,Sha256.bigEndian_add,hdiv]
      congr 1
      rw [List.map_singleton,bitsOf_cons,hbyte _ (by omega)]
      have hplace : (7 - count) * 8 = 8 * (8 - (count + 1)) := by omega
      rw [hplace]
      exact List.append_nil _
  have hall := hbits 8 (Nat.le_refl 8)
  rwa [Nat.sub_self,Nat.mul_zero,Nat.pow_zero,Nat.div_one] at hall

/-- The places before the end of a part are written. -/
lemma foldl_set (front back : List UInt8) (value : ℕ → UInt8) :
    (List.range 8).foldl (fun tail index => tail.set (front.length + 8 - 1 - index) (value index))
      (front ++ (List.replicate 8 0 ++ back)) =
        front ++ ((List.range 8).map (fun index => value (7 - index)) ++ back) := by
  have hset : ∀ index < 8, ∀ (x : UInt8) (later : List UInt8),
      (front ++ later).set (front.length + 8 - 1 - index) x = front ++ later.set (7 - index) x := by
    intro index hindex x later
    rw [List.set_append_right _ _ (by omega),show front.length + 8 - 1 - index - front.length = 7 - index by omega]
  simp only [show List.range 8 = [0,1,2,3,4,5,6,7] from rfl,List.foldl_cons,List.foldl_nil]
  rw [hset 0 (by decide),hset 1 (by decide),hset 2 (by decide),hset 3 (by decide),hset 4 (by decide),hset 5 (by decide),
    hset 6 (by decide),hset 7 (by decide)]
  rfl

lemma padded_cases (hasher : ContentHasher) :
    hasher.padded = 64 ∧ hasher.pending.length < 56 ∨ hasher.padded = 128 ∧ 56 ≤ hasher.pending.length := by
  unfold ContentHasher.padded
  split_ifs with hfits
  · exact Or.inl ⟨rfl,hfits⟩
  · exact Or.inr ⟨rfl,Nat.le_of_not_lt hfits⟩

/-- The last blocks: the pending bytes, the bit that ends the message, zeros and the length. -/
lemma tail_eq (hasher : ContentHasher) : hasher.tail.take hasher.padded =
    hasher.pending ++ 0x80 :: (List.replicate (hasher.padded - 9 - hasher.pending.length) 0 ++
      lengthBytes (hasher.byteSize * 8)) := by
  have hbounded := hasher.bounded
  have hpadded := padded_cases hasher
  have hstarted : (hasher.pending ++ List.replicate (128 - hasher.pending.length) (0 : UInt8)).set
      hasher.pending.length 0x80 =
        (hasher.pending ++ 0x80 :: List.replicate (hasher.padded - 9 - hasher.pending.length) 0) ++
          (List.replicate 8 0 ++ List.replicate (128 - hasher.padded) 0) := by
    rw [List.set_append_right _ _ (Nat.le_refl _),Nat.sub_self,List.append_assoc,List.cons_append,
      List.replicate_append_replicate,List.replicate_append_replicate,
      show 128 - hasher.pending.length =
        hasher.padded - 9 - hasher.pending.length + (8 + (128 - hasher.padded)) + 1 by omega]
    rfl
  have hlength : (hasher.pending ++ 0x80 :: List.replicate (hasher.padded - 9 - hasher.pending.length)
      (0 : UInt8)).length
      + 8 = hasher.padded := by
    rw [List.length_append,List.length_cons,List.length_replicate]
    omega
  unfold ContentHasher.tail
  dsimp only
  rw [hstarted]
  have hloop := foldl_set (hasher.pending ++ 0x80 :: List.replicate (hasher.padded - 9 - hasher.pending.length) 0)
    (List.replicate (128 - hasher.padded) 0) fun index =>
      ((hasher.byteSize * 8) >>> UInt64.ofNat (index * 8)).toUInt8
  rw [hlength] at hloop
  rw [hloop,← List.append_assoc _ _ (List.replicate (128 - hasher.padded) 0)]
  rw [List.take_left' (by rw [List.length_append,List.length_map,List.length_range,hlength]),List.append_assoc]
  rfl

/-- The last blocks are hashed one after the other. -/
lemma foldl_sha256Block (state : Words) {bytes : List UInt8} {size : ℕ} (hsize : size ≤ bytes.length)
    (hdvd : 64 ∣ size) :
    (List.range (size / 64)).foldl (fun state index => sha256Block state ((bytes.drop (64 * index)).take 64)) state =
      hashed state (bytes.take size) := by
  have hlength : (bytes.take size).length = size := List.length_take_of_le hsize
  have hblock : ∀ words index, index ∈ List.range (size / 64) →
      sha256Block words ((bytes.drop (64 * index)).take 64) =
        Sha256.compress words (((bitsOf (bytes.take size)).drop (512 * index)).take 512) := by
    intro words index hmem
    have hindex := List.mem_range.mp hmem
    have hinside : 64 * index + 64 ≤ size := by omega
    have hbits : ((bitsOf (bytes.take size)).drop (512 * index)).take 512 =
        bitsOf ((bytes.drop (64 * index)).take 64) := by
      rw [show 512 * index = 8 * (64 * index) by omega,bitsOf_drop (by omega),show 512 = 8 * 64 from rfl,
        bitsOf_take (by rw [List.length_drop]; omega),List.drop_take,List.take_take,Nat.min_eq_left (by omega)]
    rw [hbits,sha256Block_eq (by rw [List.length_take,List.length_drop]; omega)]
  rw [hashed,blocks,List.foldl_map,length_bitsOf,hlength,show 8 * size / 512 = size / 64 by omega]
  exact List.foldl_ext _ _ _ hblock

/-- What is asked for is the size of what was given, and its hash value. -/
theorem ContentHasher.Given.finish (h : hasher.Given given) (hsize : given.length < 2 ^ 61) :
    hasher.finish.byteSize.toNat = given.length ∧ bitsOf hasher.finish.sha256 = Sha256.digest (bitsOf given) := by
  obtain ⟨hbyteSize,whole,hgiven,hwhole,hstate⟩ := h
  have hbounded := hasher.bounded
  have hpadded := padded_cases hasher
  have hcount : given.length = whole.length + hasher.pending.length := by
    rw [hgiven,List.length_append]
  have hsmall : hasher.byteSize.toNat = given.length := by
    rw [hbyteSize,UInt64.toNat_ofNat',Nat.mod_eq_of_lt (by omega)]
  have hbits : (hasher.byteSize * 8).toNat = 8 * given.length := by
    rw [UInt64.toNat_mul,hsmall]
    change given.length * 8 % 2 ^ 64 = _
    omega
  have htail := tail_eq hasher
  have hfits : hasher.padded ≤ hasher.tail.length := by
    have hlength := congrArg List.length htail
    rw [List.length_take,List.length_append,List.length_cons,List.length_append,List.length_replicate,lengthBytes,
      List.length_map,List.length_range] at hlength
    omega
  refine ⟨hsmall,?_⟩
  have hmessage : Sha256.padded (bitsOf given) = bitsOf (whole ++ hasher.tail.take hasher.padded) := by
    rw [htail,← List.append_assoc,← hgiven,bitsOf_append,bitsOf_cons,bitsOf_append,bitsOf_lengthBytes,
      bitsOf_zeros,hbits,
      Sha256.padded,length_bitsOf]
    have hzeros : Sha256.zeros (8 * given.length) = 7 + 8 * (hasher.padded - 9 - hasher.pending.length) := by
      unfold Sha256.zeros
      omega
    rw [hzeros,← List.replicate_append_replicate,List.append_assoc]
    rfl
  have hdigest : Sha256.digest (bitsOf given) =
      (hashed hasher.state (hasher.tail.take hasher.padded)).bits := by
    rw [Sha256.digest,hmessage]
    change (hashed Sha256.initial (whole ++ hasher.tail.take hasher.padded)).bits = _
    rw [hashed_append hwhole,← hstate]
  rw [hdigest,← foldl_sha256Block hasher.state hfits (by omega)]
  unfold ContentHasher.finish
  exact bitsOf_words _

end Finish

section Calls

/-- The calls of a hasher. -/
inductive HasherCall
  | update (bytes : List UInt8)
  | finish

/-- What the calls of `finish` return. -/
def answers (hasher : ContentHasher) : List HasherCall → List ContentIdentity
  | [] => []
  | .update bytes :: calls => answers (hasher.update bytes) calls
  | .finish :: calls => hasher.finish :: answers hasher calls

/-- The bytes that are given by some calls. -/
def bytesGiven : List HasherCall → List UInt8
  | [] => []
  | .update bytes :: calls => bytes ++ bytesGiven calls
  | .finish :: calls => bytesGiven calls

/-- The bytes that were given before each call of `finish`. -/
def bytesAsked (given : List UInt8) : List HasherCall → List (List UInt8)
  | [] => []
  | .update bytes :: calls => bytesAsked (given ++ bytes) calls
  | .finish :: calls => given :: bytesAsked given calls

/-- The size and the hash value of a string of bytes. -/
def Identifies (identity : ContentIdentity) (bytes : List UInt8) : Prop :=
  identity.byteSize.toNat = bytes.length ∧ bitsOf identity.sha256 = Sha256.digest (bitsOf bytes)

lemma answers_from {hasher : ContentHasher} {given : List UInt8} (h : hasher.Given given) (calls : List HasherCall)
    (hsize : (given ++ bytesGiven calls).length < 2 ^ 61) :
    List.Forall₂ Identifies (answers hasher calls) (bytesAsked given calls) := by
  induction calls generalizing hasher given with
  | nil => exact List.Forall₂.nil
  | cons call calls ih =>
    cases call with
    | update bytes =>
      apply ih (h.update bytes)
      rw [List.append_assoc]
      exact hsize
    | finish =>
      refine List.Forall₂.cons (h.finish ?_) (ih h hsize)
      rw [List.length_append] at hsize
      omega

/-- However the bytes are cut into pieces, and whenever they are asked for, each answer is the size and the hash value
of all bytes so far. -/
theorem answers_identify (calls : List HasherCall) (hsize : (bytesGiven calls).length < 2 ^ 61) :
    List.Forall₂ Identifies (answers {} calls) (bytesAsked [] calls) := answers_from given_start calls hsize

theorem answers_identify_pieces :
    (bytesGiven [.update [0x61],.finish,.update [],.update [0x62,0x63],.finish]).length < 2 ^ 61 ∧
      List.Forall₂ Identifies (answers {} [.update [0x61],.finish,.update [],.update [0x62,0x63],.finish])
        [[0x61],[0x61,0x62,0x63]] :=
  ⟨by decide,answers_identify _ (by decide)⟩

/-- The content of a file is given in one piece. -/
theorem identifyContent_identifies {bytes : List UInt8} (hsize : bytes.length < 2 ^ 61) :
    Identifies (identifyContent bytes) bytes := (given_start.update bytes).finish hsize

example : (identifyContent [0x61,0x62,0x63]).sha256.take 4 = [0xba,0x78,0x16,0xbf] := by decide +kernel

end Calls
end AytherRuntime.Storage
