import AytherRuntime.Check.Request

/-! Numbers of 64 bits in the columns of a table: as signed integers, which hold the lower half of them, and as
decimal texts. -/
namespace AytherRuntime.Check

section Columns

/-- `static_cast<std::int64_t>` -/
def signedValue (n : UInt64) : Int := n.toBitVec.toInt

def readUnsigned (value : Int) : Option UInt64 := if value < 0 then none else some (UInt64.ofNat value.toNat)

/-- A decimal text without a sign. -/
def readDecimal (text : String) : Option UInt64 := (fromChars (2 ^ 64) text.toList).map UInt64.ofNat

def Toml.signed (n : UInt64) : Toml := .integer (signedValue n)

/-- `std::to_string` -/
def Toml.decimal (n : UInt64) : Toml := .string (toString n.toNat)

/-- `unsigned_value` -/
def Toml.unsignedValue (key : String) (table : Toml) : Option UInt64 := (table.number key).bind readUnsigned

/-- `decimal_value` -/
def Toml.decimalValue (key : String) (table : Toml) : Option UInt64 := (table.text key).bind readDecimal

/-- An array whose nodes are tables. -/
def Toml.tables (key : String) (table : Toml) : Option (List Toml) :=
  (table.rows key).filter fun nodes => nodes.all Toml.isTable

/-- A text is its bytes, a character each. -/
def textOfBytes (bytes : List UInt8) : String := String.ofList (bytes.map fun byte => Char.ofNat byte.toNat)

def bytesOfText (text : String) : List UInt8 := text.toList.map fun c => UInt8.ofNat c.toNat

end Columns

section Reading

/-- The number fits a signed column. -/
def Signed (n : UInt64) : Prop := n.toNat < 2 ^ 63

instance (n : UInt64) : Decidable (Signed n) := inferInstanceAs (Decidable (n.toNat < 2 ^ 63))

lemma signedValue_of_signed {n : UInt64} (h : Signed n) : signedValue n = n.toNat := by
  unfold signedValue
  rw [BitVec.toInt_eq_toNat_cond,if_pos (by change 2 * n.toNat < 2 ^ 64; unfold Signed at h; omega)]
  rfl

lemma signedValue_neg {n : UInt64} (h : ¬Signed n) : signedValue n < 0 := by
  have hbound := n.toNat_lt
  unfold Signed at h
  unfold signedValue
  rw [BitVec.toInt_eq_toNat_cond,if_neg (by change ¬2 * n.toNat < 2 ^ 64; omega)]
  change (n.toNat : Int) - (2 ^ 64 : ℕ) < 0
  omega

/-- A signed column gives a number back exactly where it fits. -/
lemma readUnsigned_signedValue (n : UInt64) :
    readUnsigned (signedValue n) = if Signed n then some n else none := by
  unfold readUnsigned
  by_cases h : Signed n
  · rw [if_pos h,signedValue_of_signed h,if_neg (by omega),Int.toNat_natCast,UInt64.ofNat_toNat]
  · rw [if_neg h,if_pos (signedValue_neg h)]

@[simp] lemma readDecimal_toString (n : UInt64) : readDecimal (toString n.toNat) = some n := by
  unfold readDecimal
  rw [fromChars_toString,if_pos n.toNat_lt]
  simp

lemma byte_of_char (byte : UInt8) : UInt8.ofNat (Char.ofNat byte.toNat).toNat = byte := by
  have hbound := byte.toNat_lt
  have hvalid : byte.toNat.isValidChar := Or.inl (by omega)
  rw [Char.ofNat,dif_pos hvalid]
  change UInt8.ofNat (Char.ofNatAux byte.toNat hvalid).toNat = byte
  rw [show (Char.ofNatAux byte.toNat hvalid).toNat = byte.toNat from rfl,UInt8.ofNat_toNat]

@[simp] lemma bytesOfText_textOfBytes (bytes : List UInt8) : bytesOfText (textOfBytes bytes) = bytes := by
  unfold bytesOfText textOfBytes
  rw [String.toList_ofList,List.map_map]
  exact (List.map_congr_left fun byte _ => byte_of_char byte).trans (List.map_id' bytes)

/-- The rows are read as they were written exactly where each row is. -/
lemma mapM_map_eq_some_iff {α β : Type} {parse : β → Option α} {format : α → β} {l : List α} :
    (l.map format).mapM parse = some l ↔ ∀ a ∈ l, parse (format a) = some a := by
  induction l with
  | nil => simp
  | cons a l ih =>
    rw [List.map_cons,List.mapM_cons,List.forall_mem_cons,← ih]
    cases hrow : parse (format a) with
    | none => simp
    | some b =>
      cases hrows : (l.map format).mapM parse with
      | none => simp
      | some rows => simp

end Reading
end AytherRuntime.Check
