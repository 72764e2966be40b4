import Mathlib.Data.Nat.Nth
import Mathlib.Data.Nat.Prime.Basic
import Mathlib.Tactic.Ring

/-! The hash function SHA-256 of FIPS 180-4, on strings of bits. -/
namespace AytherRuntime.Sha256

section Bits

/-- The bits of a number of some size, the highest first. -/
def bigEndian (size n : ℕ) : List Bool := (List.range size).map fun i => n.testBit (size - 1 - i)

/-- The number of some bits, the highest first. -/
def number (bits : List Bool) : ℕ := bits.foldl (fun n bit => 2 * n + bit.toNat) 0

@[simp] lemma length_bigEndian (size n : ℕ) : (bigEndian size n).length = size := by
  simp [bigEndian]

lemma bigEndian_add (high low n : ℕ) : bigEndian (high + low) n = bigEndian high (n / 2 ^ low) ++ bigEndian low n := by
  unfold bigEndian
  rw [List.range_add,List.map_append,List.map_map]
  congr 1
  · apply List.map_congr_left
    intro i hi
    rw [Nat.testBit_div_two_pow]
    have hless := List.mem_range.mp hi
    congr 1
    omega
  · apply List.map_congr_left
    intro i hi
    have hless := List.mem_range.mp hi
    change n.testBit (high + low - 1 - (high + i)) = _
    congr 1
    omega

lemma number_append (high low : List Bool) : number (high ++ low) = number high * 2 ^ low.length + number low := by
  have hfold : ∀ (bits : List Bool) (n : ℕ),
      bits.foldl (fun n bit => 2 * n + bit.toNat) n = n * 2 ^ bits.length + number bits := by
    intro bits
    induction bits with
    | nil =>
      intro n
      simp [number]
    | cons bit bits ih =>
      intro n
      have hcons : number (bit :: bits) = bit.toNat * 2 ^ bits.length + number bits := by
        rw [number,List.foldl_cons,ih]
        ring
      rw [List.foldl_cons,ih,hcons,List.length_cons]
      ring
  rw [number,List.foldl_append,hfold]
  rfl

lemma number_bigEndian (size n : ℕ) : number (bigEndian size n) = n % 2 ^ size := by
  induction size generalizing n with
  | zero =>
    rw [Nat.pow_zero,Nat.mod_one]
    rfl
  | succ size ih =>
    have hbit : number (bigEndian 1 n) = n % 2 := by
      change 2 * 0 + (n.testBit 0).toNat = n % 2
      rw [Nat.testBit_zero]
      rcases Nat.mod_two_eq_zero_or_one n with h | h <;> rw [h] <;> rfl
    have hsplit : n % 2 ^ (size + 1) = n % 2 + 2 * (n / 2 % 2 ^ size) := by
      rw [Nat.pow_succ,Nat.mul_comm,Nat.mod_mul]
    rw [bigEndian_add size 1,number_append,ih,hbit,length_bigEndian,hsplit,Nat.pow_one]
    ring

/-- The parts of a string that have a size, in order. -/
def blocks {α : Type*} (size : ℕ) (text : List α) : List (List α) :=
  (List.range (text.length / size)).map fun i => (text.drop (size * i)).take size

lemma blocks_nil {α : Type*} (size : ℕ) : blocks size ([] : List α) = [] := by
  rw [blocks,List.length_nil,Nat.zero_div]
  rfl

lemma blocks_append {α : Type*} {size : ℕ} {front : List α} (hfront : front.length = size) (hsize : 0 < size)
    (text : List α) : blocks size (front ++ text) = front :: blocks size text := by
  have hcount : (front ++ text).length / size = text.length / size + 1 := by
    rw [List.length_append,hfront,Nat.add_comm,Nat.add_div_right _ hsize]
  rw [blocks,hcount,List.range_succ_eq_map,List.map_cons,List.map_map,Nat.mul_zero,List.drop_zero,
    List.take_left' hfront,blocks]
  congr 1
  apply List.map_congr_left
  intro i _
  change ((front ++ text).drop (size * (i + 1))).take size = _
  rw [Nat.mul_succ,Nat.add_comm,← List.drop_drop,List.drop_left' hfront]

/-- Whole parts in front are parts of the string. -/
lemma blocks_append_of_dvd {α : Type*} {size : ℕ} {front : List α} (hfront : size ∣ front.length) (hsize : 0 < size)
    (text : List α) : blocks size (front ++ text) = blocks size front ++ blocks size text := by
  obtain ⟨count,hcount⟩ := hfront
  induction count generalizing front with
  | zero =>
    rw [List.length_eq_zero_iff.mp hcount,List.nil_append,blocks_nil,List.nil_append]
  | succ count ih =>
    have hlength : size ≤ front.length := by
      rw [hcount,Nat.mul_succ]
      omega
    have hfirst : (front.take size).length = size := List.length_take_of_le hlength
    have hrest : (front.drop size).length = size * count := by
      rw [List.length_drop,hcount,Nat.mul_succ,Nat.add_sub_cancel]
    have hsplit := List.take_append_drop size front
    rw [← hsplit,List.append_assoc,blocks_append hfirst hsize,ih hrest,blocks_append hfirst hsize,List.cons_append]

lemma blocks_whole {α : Type*} {size : ℕ} {text : List α} (htext : text.length = size) (hsize : 0 < size) :
    blocks size text = [text] := by
  have happend := blocks_append htext hsize []
  rwa [List.append_nil,blocks_nil] at happend

lemma bigEndian_mod (size n : ℕ) : bigEndian size (n % 2 ^ size) = bigEndian size n := by
  apply List.map_congr_left
  intro i hi
  have hless := List.mem_range.mp hi
  rw [Nat.testBit_mod_two_pow,decide_eq_true (by omega),Bool.true_and]

end Bits

section Functions

def rotr (n word : UInt32) : UInt32 := word >>> n ||| word <<< (32 - n)

def shr (n word : UInt32) : UInt32 := word >>> n

def choice (x y z : UInt32) : UInt32 := (x &&& y) ^^^ (~~~x &&& z)

def majority (x y z : UInt32) : UInt32 := (x &&& y) ^^^ (x &&& z) ^^^ (y &&& z)

def upperSigma0 (x : UInt32) : UInt32 := rotr 2 x ^^^ rotr 13 x ^^^ rotr 22 x

def upperSigma1 (x : UInt32) : UInt32 := rotr 6 x ^^^ rotr 11 x ^^^ rotr 25 x

def lowerSigma0 (x : UInt32) : UInt32 := rotr 7 x ^^^ rotr 18 x ^^^ shr 3 x

def lowerSigma1 (x : UInt32) : UInt32 := rotr 17 x ^^^ rotr 19 x ^^^ shr 10 x

end Functions

section Constants

/-- The root of a number, without its fraction. -/
def root (degree n : ℕ) : ℕ := Nat.findGreatest (fun c => c ^ degree ≤ n) n

/-- The first 32 bits of the fraction of a root. -/
def rootFraction (degree n : ℕ) : UInt32 := UInt32.ofNat (root degree (n * 2 ^ (32 * degree)))

/-- The word of a round comes from the cube root of a prime. -/
noncomputable def constant (t : ℕ) : UInt32 := rootFraction 3 (Nat.nth Nat.Prime t)

/-- The word of the initial hash value comes from the square root of a prime. -/
noncomputable def initialWord (t : ℕ) : UInt32 := rootFraction 2 (Nat.nth Nat.Prime t)

lemma root_eq {degree n c : ℕ} (hdegree : degree ≠ 0) (hlow : c ^ degree ≤ n) (hhigh : n < (c + 1) ^ degree) :
    root degree n = c := by
  have hle : c ≤ n := (Nat.le_self_pow hdegree c).trans hlow
  rw [root,Nat.findGreatest_eq_iff]
  refine ⟨hle,fun _ => hlow,fun d hd _ hpow => ?_⟩
  exact absurd (hhigh.trans_le (Nat.pow_le_pow_left hd degree)) (Nat.not_lt.mpr hpow)

/-- A list of the numbers that have a property, in order, has them where they are counted. -/
lemma nth_of_filter {p : ℕ → Prop} [DecidablePred p] {n t m : ℕ} (h : ((List.range n).filter p)[t]? = some m) :
    Nat.nth p t = m := by
  have hlength : ∀ n, ((List.range n).filter p).length = Nat.count p n := by
    intro n
    induction n with
    | zero => rfl
    | succ n ih =>
      rw [List.range_succ,List.filter_append,List.length_append,ih,Nat.count_succ,List.filter_singleton]
      by_cases hn : p n <;> simp [hn]
  induction n with
  | zero => cases h
  | succ n ih =>
    rw [List.range_succ,List.filter_append,List.filter_singleton] at h
    by_cases hless : t < ((List.range n).filter p).length
    · rw [List.getElem?_append_left hless] at h
      exact ih h
    · rw [List.getElem?_append_right (Nat.le_of_not_lt hless)] at h
      by_cases hn : p n
      · rw [decide_eq_true hn,cond_true,hlength] at h
        rw [hlength] at hless
        obtain ⟨hplace,hsame⟩ := List.getElem?_eq_some_iff.mp h
        rw [List.length_singleton] at hplace
        rw [List.getElem_singleton] at hsame
        rw [← hsame,show t = Nat.count p n by omega,Nat.nth_count hn]
      · simp [hn] at h

def firstPrimes : List ℕ :=
  [2,3,5,7,11,13,17,19,23,29,31,37,41,43,47,53,59,61,67,71,73,79,83,89,97,101,103,107,109,113,127,131,137,139,149,151,
    157,163,167,173,179,181,191,193,197,199,211,223,227,229,233,239,241,251,257,263,269,271,277,281,283,293,307,311]

lemma prime_iff {n : ℕ} (h : n < 324) : n.Prime ↔ 2 ≤ n ∧ ∀ m < 18, 2 ≤ m → m < n → ¬m ∣ n := by
  constructor
  · intro hprime
    refine ⟨hprime.two_le,fun m _ htwo hless hdvd => ?_⟩
    obtain hone | hself := hprime.eq_one_or_self_of_dvd m hdvd <;> omega
  · rintro ⟨htwo,hnone⟩
    rw [Nat.prime_def_le_sqrt]
    refine ⟨htwo,fun m hm hsqrt => hnone m ?_ hm (hsqrt.trans_lt (Nat.sqrt_lt_self htwo))⟩
    exact hsqrt.trans_lt (Nat.sqrt_lt'.mpr (h.trans_eq rfl))

/-- The least primes are tried by division. -/
lemma filter_prime : (List.range 312).filter Nat.Prime = firstPrimes := by
  have htried : (List.range 312).filter Nat.Prime =
      (List.range 312).filter fun n => 2 ≤ n ∧ ∀ m < 18, 2 ≤ m → m < n → ¬m ∣ n := by
    apply List.filter_congr
    intro n hn
    have hless := List.mem_range.mp hn
    rw [decide_eq_decide]
    exact prime_iff (by omega)
  rw [htried]
  decide +kernel

/-- A word that stands after a whole number in the root of a prime is the first 32 bits of its fraction. -/
lemma rootFraction_eq {degree t p whole : ℕ} {word : UInt32} (hdegree : degree ≠ 0) (hprime : firstPrimes[t]? = some p)
    (hlow : (whole * 2 ^ 32 + word.toNat) ^ degree ≤ p * 2 ^ (32 * degree))
    (hhigh : p * 2 ^ (32 * degree) < (whole * 2 ^ 32 + word.toNat + 1) ^ degree) :
    rootFraction degree (Nat.nth Nat.Prime t) = word := by
  have hnth : Nat.nth Nat.Prime t = p := by
    rw [← filter_prime] at hprime
    exact nth_of_filter hprime
  apply UInt32.toNat_inj.mp
  rw [rootFraction,hnth,root_eq hdegree hlow hhigh,UInt32.toNat_ofNat',Nat.mul_comm,Nat.mul_add_mod,
    Nat.mod_eq_of_lt word.toNat_lt]

end Constants

section Hash

/-- The eight words of a hash value, which are the working variables of a round as well. -/
structure Words where
  a : UInt32
  b : UInt32
  c : UInt32
  d : UInt32
  e : UInt32
  f : UInt32
  g : UInt32
  h : UInt32
  deriving DecidableEq, Repr

namespace Words
variable (words other : Words)

def add : Words :=
  ⟨words.a + other.a,words.b + other.b,words.c + other.c,words.d + other.d,words.e + other.e,words.f + other.f,
    words.g + other.g,words.h + other.h⟩

def toList : List UInt32 := [words.a,words.b,words.c,words.d,words.e,words.f,words.g,words.h]

def bits : List Bool := words.toList.flatMap fun word => bigEndian 32 word.toNat

end Words

noncomputable def initial : Words :=
  ⟨initialWord 0,initialWord 1,initialWord 2,initialWord 3,initialWord 4,initialWord 5,initialWord 6,initialWord 7⟩

/-- The message schedule of a block of sixteen words. -/
def schedule (message : ℕ → UInt32) (t : ℕ) : UInt32 :=
  if t < 16 then message t
  else lowerSigma1 (schedule message (t - 2)) + schedule message (t - 7) + lowerSigma0 (schedule message (t - 15)) +
    schedule message (t - 16)

lemma schedule_of_lt (message : ℕ → UInt32) {t : ℕ} (h : t < 16) : schedule message t = message t := by
  rw [schedule,if_pos h]

lemma schedule_of_le (message : ℕ → UInt32) {t : ℕ} (h : 16 ≤ t) : schedule message t =
    lowerSigma1 (schedule message (t - 2)) + schedule message (t - 7) + lowerSigma0 (schedule message (t - 15)) +
      schedule message (t - 16) := by
  rw [schedule,if_neg (Nat.not_lt.mpr h)]

/-- One round, with the words of the constant and of the schedule. -/
def round (constant word : UInt32) (words : Words) : Words :=
  let first := words.h + upperSigma1 words.e + choice words.e words.f words.g + constant + word
  let second := upperSigma0 words.a + majority words.a words.b words.c
  ⟨first + second,words.a,words.b,words.c,words.d + first,words.e,words.f,words.g⟩

/-- The words of a block of bits. -/
def message (block : List Bool) (t : ℕ) : UInt32 := UInt32.ofNat (number ((block.drop (32 * t)).take 32))

noncomputable def compress (hash : Words) (block : List Bool) : Words :=
  hash.add ((List.range 64).foldl (fun words t => round (constant t) (schedule (message block) t) words) hash)

/-- The least number of zeros that fill a block after a message and the bit that ends it, with the bits of the
length. -/
def zeros (length : ℕ) : ℕ := (959 - length % 512) % 512

lemma zeros_isLeast (length : ℕ) : IsLeast (Set.ofPred fun k => (length + 1 + k) % 512 = 448) (zeros length) := by
  constructor
  · change (length + 1 + (959 - length % 512) % 512) % 512 = 448
    omega
  · intro k hk
    change (length + 1 + k) % 512 = 448 at hk
    change (959 - length % 512) % 512 ≤ k
    omega

def padded (text : List Bool) : List Bool :=
  text ++ true :: (List.replicate (zeros text.length) false ++ bigEndian 64 text.length)

noncomputable def digest (text : List Bool) : List Bool := ((blocks 512 (padded text)).foldl compress initial).bits

end Hash
end AytherRuntime.Sha256
