import Mathlib.Data.List.Basic
import Mathlib.Data.Nat.Notation
import Mathlib.Tactic.Linarith

/-! Readers of byte strings that accept exactly what a writer gives. A reader takes its value from the
front of the bytes and leaves the rest. -/
namespace AytherRuntime.Codec

abbrev Bytes := List UInt8

abbrev Reader (α : Type) := StateT Bytes Option α

/-- The reader accepts the values of `valid`, each as its writer writes it and in no other way. -/
def Codes {α : Type} (read : Reader α) (write : α → Bytes) (valid : α → Prop) : Prop :=
  ∀ bytes a rest, read bytes = some (a,rest) ↔ valid a ∧ bytes = write a ++ rest

section Monad
variable {α β : Type}

lemma bind_eq_some {read : Reader α} {next : α → Reader β} {bytes rest : Bytes} {b : β} :
    (read >>= next) bytes = some (b,rest) ↔
      ∃ a mid, read bytes = some (a,mid) ∧ next a mid = some (b,rest) := by
  change (read bytes).bind (fun p => next p.1 p.2) = some (b,rest) ↔ _
  rw [Option.bind_eq_some_iff]
  constructor
  · rintro ⟨⟨a,mid⟩,hread,hnext⟩
    exact ⟨a,mid,hread,hnext⟩
  · rintro ⟨a,mid,hread,hnext⟩
    exact ⟨(a,mid),hread,hnext⟩

lemma pure_eq_some {a b : α} {bytes rest : Bytes} :
    (pure a : Reader α) bytes = some (b,rest) ↔ a = b ∧ bytes = rest := by
  change some (a,bytes) = some (b,rest) ↔ _
  rw [Option.some.injEq,Prod.mk.injEq]

lemma failure_eq_some {a : α} {bytes rest : Bytes} :
    ¬(failure : Reader α) bytes = some (a,rest) := by
  change ¬(none : Option (α × Bytes)) = some (a,rest)
  simp

lemma guard_eq_some {p : Prop} [Decidable p] {read : Reader α} {a : α} {bytes rest : Bytes} :
    (if p then read else failure) bytes = some (a,rest) ↔ p ∧ read bytes = some (a,rest) := by
  split
  · rename_i hp
    exact ⟨fun h => ⟨hp,h⟩,And.right⟩
  · rename_i hp
    exact ⟨fun h => absurd h failure_eq_some,fun h => absurd h.1 hp⟩

end Monad

section Codes
variable {α β : Type} {read : Reader α} {write : α → Bytes} {valid : α → Prop}

lemma Codes.read_write (h : Codes read write valid) {a : α} (ha : valid a) (rest : Bytes) :
    read (write a ++ rest) = some (a,rest) := (h _ _ _).mpr ⟨ha,rfl⟩

/-- What is read is followed by nothing else in exactly one way. -/
lemma Codes.append_inj (h : Codes read write valid) {a b : α} (ha : valid a) (hb : valid b)
    {rest rest' : Bytes} (hsame : write a ++ rest = write b ++ rest') : a = b ∧ rest = rest' := by
  have hread := h.read_write ha rest
  rw [hsame,h.read_write hb rest'] at hread
  cases hread
  exact ⟨rfl,rfl⟩

/-- The values of a codec under another name. -/
lemma Codes.map (h : Codes read write valid) (f : α → β) (g : β → α) (hgf : ∀ a, valid a → g (f a) = a)
    (hfg : ∀ b, f (g b) = b) : Codes (f <$> read) (fun b => write (g b)) (fun b => valid (g b)) := by
  intro bytes b rest
  rw [← bind_pure_comp,bind_eq_some]
  constructor
  · rintro ⟨a,mid,hread,hpure⟩
    obtain ⟨hvalid,rfl⟩ := (h _ _ _).mp hread
    obtain ⟨rfl,rfl⟩ := pure_eq_some.mp hpure
    dsimp only
    rw [hgf a hvalid]
    exact ⟨hvalid,rfl⟩
  · rintro ⟨hvalid,rfl⟩
    exact ⟨g b,rest,h.read_write hvalid rest,pure_eq_some.mpr ⟨hfg b,rfl⟩⟩

lemma Codes.congr {write' : α → Bytes} {valid' : α → Prop} (h : Codes read write valid)
    (hvalid : ∀ a, valid a ↔ valid' a) (hwrite : ∀ a, valid a → write a = write' a) :
    Codes read write' valid' := by
  intro bytes a rest
  rw [h,← hvalid]
  constructor
  · rintro ⟨ha,rfl⟩
    exact ⟨ha,by rw [hwrite a ha]⟩
  · rintro ⟨ha,rfl⟩
    exact ⟨ha,by rw [hwrite a ha]⟩

/-- One alternative of a union. -/
lemma Codes.alternative (h : Codes read write valid) (f : α → β) {write' : β → Bytes} {valid' : β → Prop}
    (hvalid : ∀ b, valid' b ↔ ∃ a, valid a ∧ f a = b) (hwrite : ∀ a, write' (f a) = write a) :
    Codes (f <$> read) write' valid' := by
  intro bytes b rest
  rw [← bind_pure_comp,bind_eq_some,hvalid]
  constructor
  · rintro ⟨a,mid,hread,hpure⟩
    obtain ⟨ha,rfl⟩ := (h _ _ _).mp hread
    obtain ⟨rfl,rfl⟩ := pure_eq_some.mp hpure
    exact ⟨⟨a,ha,rfl⟩,by rw [hwrite]⟩
  · rintro ⟨⟨a,ha,rfl⟩,rfl⟩
    rw [hwrite]
    exact ⟨a,rest,h.read_write ha rest,pure_eq_some.mpr ⟨rfl,rfl⟩⟩

/-- One component of a record: it is read, and what follows knows that the record has it. -/
lemma Codes.field {C : β → Prop} {next : α → Reader β} {write' : β → Bytes} {valid' : β → Prop}
    (h : Codes read write valid) (component : β → α)
    (hnext : ∀ a, valid a → Codes (next a) write' (fun b => valid' b ∧ component b = a ∧ C b)) :
    Codes (read >>= next) (fun b => write (component b) ++ write' b)
      (fun b => (valid (component b) ∧ valid' b) ∧ C b) := by
  intro bytes b rest
  rw [bind_eq_some]
  constructor
  · rintro ⟨a,mid,hread,hrest⟩
    obtain ⟨ha,rfl⟩ := (h _ _ _).mp hread
    obtain ⟨⟨hb,rfl,hC⟩,rfl⟩ := (hnext a ha _ _ _).mp hrest
    exact ⟨⟨⟨ha,hb⟩,hC⟩,(List.append_assoc _ _ _).symm⟩
  · rintro ⟨⟨⟨ha,hb⟩,hC⟩,rfl⟩
    refine ⟨component b,write' b ++ rest,?_,(hnext _ ha).read_write ⟨hb,rfl,hC⟩ rest⟩
    dsimp only
    rw [List.append_assoc]
    exact h.read_write ha _

lemma codes_failure {write : β → Bytes} {valid : β → Prop} (h : ∀ b, ¬valid b) :
    Codes failure write valid := by
  intro bytes b rest
  exact ⟨fun hread => absurd hread failure_eq_some,fun hb => absurd hb.1 (h b)⟩

/-- The end of a record, once its components are known. -/
lemma codes_pure {C : β → Prop} {b : β} (h : ∀ b', C b' ↔ b' = b) :
    Codes (pure b) (fun _ => []) (fun b' => True ∧ C b') := by
  intro bytes b' rest
  rw [pure_eq_some]
  dsimp only
  rw [h,true_and]
  exact and_congr eq_comm Iff.rfl

/-- The same reader a given number of times. -/
def readMany (read : Reader α) : ℕ → Reader (List α)
  | 0 => pure []
  | n + 1 => do
    let a ← read
    let as ← readMany read n
    pure (a :: as)

lemma Codes.many (h : Codes read write valid) (n : ℕ) :
    Codes (readMany read n) (fun as => as.flatMap write)
      (fun as => as.length = n ∧ ∀ a ∈ as, valid a) := by
  induction n with
  | zero =>
    intro bytes as rest
    unfold readMany
    rw [pure_eq_some]
    constructor
    · rintro ⟨rfl,rfl⟩
      exact ⟨⟨rfl,by simp⟩,rfl⟩
    · rintro ⟨⟨hlength,-⟩,rfl⟩
      obtain rfl := List.length_eq_zero_iff.mp hlength
      exact ⟨rfl,rfl⟩
  | succ n ih =>
    intro bytes as rest
    unfold readMany
    rw [bind_eq_some]
    constructor
    · rintro ⟨a,mid,hread,htail⟩
      obtain ⟨ha,rfl⟩ := (h _ _ _).mp hread
      obtain ⟨as',mid',hmany,hpure⟩ := bind_eq_some.mp htail
      obtain ⟨⟨hlength,has⟩,rfl⟩ := (ih _ _ _).mp hmany
      obtain ⟨rfl,rfl⟩ := pure_eq_some.mp hpure
      refine ⟨⟨by rw [List.length_cons,hlength],List.forall_mem_cons.mpr ⟨ha,has⟩⟩,?_⟩
      dsimp only
      rw [List.flatMap_cons,List.append_assoc]
    · rintro ⟨⟨hlength,has⟩,rfl⟩
      cases as with
      | nil => cases hlength
      | cons a as =>
        obtain ⟨ha,htail⟩ := List.forall_mem_cons.mp has
        refine ⟨a,as.flatMap write ++ rest,?_,?_⟩
        · dsimp only
          rw [List.flatMap_cons,List.append_assoc]
          exact h.read_write ha _
        · exact bind_eq_some.mpr ⟨as,rest,ih.read_write ⟨Nat.succ.inj hlength,htail⟩ rest,
            pure_eq_some.mpr ⟨rfl,rfl⟩⟩

end Codes

section Integers

/-- The bytes of a number, the least significant first. -/
def writeLe : ℕ → ℕ → Bytes
  | 0, _ => []
  | width + 1, n => UInt8.ofNat n :: writeLe width (n / 256)

def fromLe : Bytes → ℕ
  | [] => 0
  | byte :: bytes => byte.toNat + 256 * fromLe bytes

def take (count : ℕ) : Reader Bytes := fun bytes =>
  if count ≤ bytes.length then some (bytes.take count,bytes.drop count) else none

def readLe (width : ℕ) : Reader ℕ := fromLe <$> take width

@[simp] lemma length_writeLe (width n : ℕ) : (writeLe width n).length = width := by
  induction width generalizing n with
  | zero => rfl
  | succ width ih => rw [writeLe,List.length_cons,ih]

lemma fromLe_writeLe {width n : ℕ} (h : n < 256 ^ width) : fromLe (writeLe width n) = n := by
  induction width generalizing n with
  | zero =>
    rw [pow_zero,Nat.lt_one_iff] at h
    rw [h]
    rfl
  | succ width ih =>
    rw [pow_succ] at h
    rw [writeLe,fromLe,ih (Nat.div_lt_of_lt_mul (by rwa [Nat.mul_comm] at h)),UInt8.toNat_ofNat']
    omega

lemma fromLe_lt (bytes : Bytes) : fromLe bytes < 256 ^ bytes.length := by
  induction bytes with
  | nil => exact Nat.one_pos
  | cons byte bytes ih =>
    have hbyte := byte.toNat_lt
    rw [fromLe,List.length_cons,pow_succ]
    omega

lemma writeLe_fromLe (bytes : Bytes) : writeLe bytes.length (fromLe bytes) = bytes := by
  induction bytes with
  | nil => rfl
  | cons byte bytes ih =>
    have hbyte := byte.toNat_lt
    have hrest : (byte.toNat + 256 * fromLe bytes) / 256 = fromLe bytes := by omega
    have hfirst : UInt8.ofNat (byte.toNat + 256 * fromLe bytes) = byte := by
      apply UInt8.toNat_inj.mp
      rw [UInt8.toNat_ofNat']
      omega
    rw [List.length_cons,fromLe,writeLe,hrest,ih,hfirst]

lemma codes_take (count : ℕ) : Codes (take count) id (fun taken => taken.length = count) := by
  intro bytes taken rest
  unfold take
  split
  · rename_i hcount
    rw [Option.some.injEq,Prod.mk.injEq]
    constructor
    · rintro ⟨rfl,rfl⟩
      exact ⟨List.length_take_of_le hcount,(List.take_append_drop _ _).symm⟩
    · rintro ⟨hlength,rfl⟩
      exact ⟨by rw [← hlength]; exact List.take_left,by rw [← hlength]; exact List.drop_left⟩
  · rename_i hcount
    constructor
    · intro h
      cases h
    · rintro ⟨hlength,rfl⟩
      rw [List.length_append,id_eq] at hcount
      omega

/-- The numbers below the bound of their width. -/
lemma codes_le (width : ℕ) : Codes (readLe width) (writeLe width) (fun n => n < 256 ^ width) := by
  intro bytes n rest
  unfold readLe
  rw [← bind_pure_comp,bind_eq_some]
  constructor
  · rintro ⟨taken,mid,htake,hpure⟩
    obtain ⟨rfl,rfl⟩ := (codes_take width _ _ _).mp htake
    obtain ⟨rfl,rfl⟩ := pure_eq_some.mp hpure
    exact ⟨fromLe_lt taken,by rw [writeLe_fromLe]; rfl⟩
  · rintro ⟨hn,rfl⟩
    exact ⟨writeLe width n,rest,(codes_take width).read_write (length_writeLe width n) rest,
      pure_eq_some.mpr ⟨fromLe_writeLe hn,rfl⟩⟩

def readByte : Reader UInt8 := UInt8.ofNat <$> readLe 1
def readUInt64 : Reader UInt64 := UInt64.ofNat <$> readLe 8

lemma codes_byte : Codes readByte (fun byte => [byte]) (fun _ => True) := by
  refine ((codes_le 1).map UInt8.ofNat UInt8.toNat (fun n hn => ?_) (fun b => UInt8.ofNat_toNat)).congr
    (fun b => ?_) (fun b _ => ?_)
  · rw [UInt8.toNat_ofNat',Nat.mod_eq_of_lt (by simpa using hn)]
  · exact iff_true_intro b.toNat_lt
  · simp [writeLe]

lemma codes_uint64 : Codes readUInt64 (fun n => writeLe 8 n.toNat) (fun _ => True) := by
  refine ((codes_le 8).map UInt64.ofNat UInt64.toNat (fun n hn => ?_)
    (fun b => UInt64.ofNat_toNat)).congr (fun b => ?_) (fun b _ => rfl)
  · rw [UInt64.toNat_ofNat',Nat.mod_eq_of_lt (by simpa using hn)]
  · exact iff_true_intro b.toNat_lt

/-- One of the listed values, by its place in the list. -/
def readEnum {α : Type} (values : List α) : Reader α := do
  let byte ← readByte
  match values[byte.toNat]? with
  | some a => pure a
  | none => failure

lemma codes_enum {α : Type} [DecidableEq α] {values : List α} (hnodup : values.Nodup)
    (hall : ∀ a, a ∈ values) (hbytes : values.length ≤ 256) :
    Codes (readEnum values) (fun a => [UInt8.ofNat (values.idxOf a)]) (fun _ => True) := by
  have hplace : ∀ a, (UInt8.ofNat (values.idxOf a)).toNat = values.idxOf a := by
    intro a
    have hlt := List.idxOf_lt_length_iff.mpr (hall a)
    rw [UInt8.toNat_ofNat',Nat.mod_eq_of_lt (by omega)]
  intro bytes a rest
  unfold readEnum
  rw [bind_eq_some]
  constructor
  · rintro ⟨byte,mid,hbyte,hvalue⟩
    obtain ⟨-,rfl⟩ := (codes_byte _ _ _).mp hbyte
    cases hfound : values[byte.toNat]? with
    | none =>
      rw [hfound] at hvalue
      exact absurd hvalue failure_eq_some
    | some b =>
      rw [hfound] at hvalue
      obtain ⟨rfl,rfl⟩ := pure_eq_some.mp hvalue
      obtain ⟨hlt,hget⟩ := List.getElem?_eq_some_iff.mp hfound
      refine ⟨trivial,?_⟩
      dsimp only
      rw [← hget,hnodup.idxOf_getElem,UInt8.ofNat_toNat]
  · rintro ⟨-,rfl⟩
    refine ⟨UInt8.ofNat (values.idxOf a),rest,codes_byte.read_write trivial rest,?_⟩
    rw [hplace,List.getElem?_idxOf (hall a)]
    exact pure_eq_some.mpr ⟨rfl,rfl⟩

/-- A length and as many bytes. -/
def writeText (text : Bytes) : Bytes := writeLe 4 text.length ++ text

def readText : Reader Bytes := do
  let length ← readLe 4
  take length

lemma codes_text : Codes readText writeText (fun text => text.length < 2 ^ 32) := by
  intro bytes text rest
  unfold readText writeText
  rw [bind_eq_some]
  constructor
  · rintro ⟨length,mid,hlength,htake⟩
    obtain ⟨hlt,rfl⟩ := (codes_le 4 _ _ _).mp hlength
    obtain ⟨rfl,rfl⟩ := (codes_take _ _ _ _).mp htake
    exact ⟨by simpa using hlt,by rw [List.append_assoc]; rfl⟩
  · rintro ⟨htext,rfl⟩
    refine ⟨text.length,text ++ rest,?_,(codes_take _).read_write rfl rest⟩
    rw [List.append_assoc]
    exact (codes_le 4).read_write (by simpa using htext) _

end Integers
end AytherRuntime.Codec
