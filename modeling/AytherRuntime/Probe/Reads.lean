import AytherRuntime.Probe.Pack
import Mathlib.Data.List.Basic

/-! What the writer prints as JSON values reads back as their fields. -/
namespace AytherRuntime.Probe

section Text

lemma whitespace_cons {character : Char} {rest : List Char}
    (h : character ≠ ' ' ∧ character ≠ '\t' ∧ character ≠ '\r' ∧ character ≠ '\n') :
    whitespace (character :: rest) = character :: rest := by
  obtain ⟨hspace,htab,hreturn,hfeed⟩ := h
  unfold whitespace
  rw [List.dropWhile_cons,if_neg (by simp [hspace,htab,hreturn,hfeed])]

lemma consume_cons (character : Char) (rest : List Char) : consume character (character :: rest) = some rest :=
  if_pos rfl

lemma consume_of_ne {character expected : Char} (h : character ≠ expected) (rest : List Char) :
    consume expected (character :: rest) = none := if_neg h

lemma hexValue_hexDigits : ∀ n < 16, hexValue (hexDigits.getD n '0') = some n := by decide

/-- A character that is escaped in the string is one piece of it. -/
lemma piece_escape {codeUnit : Char} (rest : List Char) (hquote : codeUnit ≠ '"') :
    piece (escape codeUnit ++ rest) = some ([codeUnit],rest) := by
  unfold escape
  rw [if_neg hquote]
  split_ifs with hbackslash hbackspace hfeed hnewline hreturn htab hcontrol
  · rw [hbackslash]
    rfl
  · rw [hbackspace]
    rfl
  · rw [hfeed]
    rfl
  · rw [hnewline]
    rfl
  · rw [hreturn]
    rfl
  · rw [htab]
    rfl
  · have hdigits : hex4 ('0' :: '0' :: hexDigits.getD (codeUnit.toNat / 16 % 16) '0' ::
        hexDigits.getD (codeUnit.toNat % 16) '0' :: rest) = some (codeUnit.toNat,rest) := by
      unfold hex4
      dsimp only
      rw [hexValue_hexDigits _ (Nat.mod_lt _ (by decide)),hexValue_hexDigits _ (Nat.mod_lt _ (by decide))]
      have hzero : hexValue '0' = some 0 := rfl
      rw [hzero]
      simp only [Option.bind_eq_bind,Option.bind_some]
      congr 2
      omega
    have hunicode : unicode ('0' :: '0' :: hexDigits.getD (codeUnit.toNat / 16 % 16) '0' ::
        hexDigits.getD (codeUnit.toNat % 16) '0' :: rest) = some ([codeUnit],rest) := by
      unfold unicode appendUtf8
      rw [hdigits]
      dsimp only
      rw [if_neg (by omega),if_neg (by omega),if_pos (by omega),Char.ofNat_toNat]
    exact hunicode
  · rw [List.cons_append,List.nil_append]
    unfold piece
    dsimp only
    rw [if_neg hcontrol,if_pos hbackslash]

lemma piece_quote (rest : List Char) : piece (escape '"' ++ rest) = some (['"'],rest) := rfl

lemma escape_ne_quote (codeUnit : Char) (rest : List Char) : consume '"' (escape codeUnit ++ rest) = none := by
  unfold escape
  split_ifs with hquote
  all_goals first
    | rfl
    | exact if_neg hquote

/-- The loop of a string takes the escaped characters one by one. -/
lemma stringFrom_escape (text result rest : List Char) {steps : ℕ} (h : text.length < steps) :
    stringFrom result steps (text.flatMap escape ++ '"' :: rest) = some (result ++ text,rest) := by
  induction text generalizing result steps with
  | nil =>
    obtain ⟨more,rfl⟩ : ∃ more, steps = more + 1 := ⟨steps - 1,by omega⟩
    rw [List.flatMap_nil,List.nil_append,List.append_nil]
    unfold stringFrom
    rw [consume_cons]
  | cons codeUnit text ih =>
    rw [List.length_cons] at h
    obtain ⟨more,rfl⟩ : ∃ more, steps = more + 1 := ⟨steps - 1,by omega⟩
    have hpiece : piece (escape codeUnit ++ (text.flatMap escape ++ '"' :: rest)) =
        some ([codeUnit],text.flatMap escape ++ '"' :: rest) := by
      by_cases hquote : codeUnit = '"'
      · rw [hquote,piece_quote]
      · exact piece_escape _ hquote
    rw [List.flatMap_cons,List.append_assoc]
    unfold stringFrom
    rw [escape_ne_quote,hpiece]
    dsimp only
    rw [ih (result ++ [codeUnit]) (by omega),List.append_assoc]
    rfl

lemma length_flatMap_escape (text : List Char) : text.length ≤ (text.flatMap escape).length := by
  induction text with
  | nil => exact Nat.le_refl _
  | cons codeUnit text ih =>
    have hescape : 1 ≤ (escape codeUnit).length := by
      unfold escape
      split_ifs <;> simp
    rw [List.flatMap_cons,List.length_append,List.length_cons]
    omega

/-- A string reads back as its bytes. -/
theorem string_jsonString (text rest : List Char) : string (jsonString text ++ rest) = some (text,rest) := by
  have hlength := length_flatMap_escape text
  have hopen : jsonString text ++ rest = '"' :: (text.flatMap escape ++ '"' :: rest) := by
    simp [jsonString]
  rw [hopen]
  unfold string
  rw [consume_cons]
  dsimp only
  rw [stringFrom_escape text [] rest (by rw [List.length_append,List.length_cons]; omega),List.nil_append]

end Text

/-- A path names a value or something in it. -/
def Under (path other : List Char) : Prop :=
  path = [] ∨ ∃ later, other = path ++ later ∧ (later = [] ∨ later.head? = some '.' ∨ later.head? = some '[')

def Fresh (path : List Char) (fields : List JsonField) : Prop := ∀ field ∈ fields, ¬Under path field.path

/-- What follows a value in an object or an array. -/
def Ends (rest : List Char) : Prop := ∀ character ∈ rest.head?, character = ',' ∨ character = '}' ∨ character = ']'

/-- The state, unless it has too many fields. -/
def within (state : ParserState) : Option ParserState :=
  if state.fields.length ≤ maxJsonFields then some state else none

/-- A text reads back as the fields of a value, as far as the fields are not too many. -/
def Reads (levels : ℕ) (text : List Char) (flat : List Char → List JsonField) : Prop :=
  ∀ path fields rest, fields.length ≤ maxJsonFields → Fresh path fields → Ends rest →
    value levels path ⟨text ++ rest,fields⟩ = within ⟨rest,fields ++ flat path⟩

section Scalars
variable {path : List Char} {levels : ℕ}

lemma under_self (path : List Char) : Under path path := Or.inr ⟨[],(List.append_nil path).symm,Or.inl rfl⟩

lemma add_eq (state : ParserState) (kind : JsonKind) (text rest : List Char) :
    state.add path kind text rest = within ⟨rest,state.fields ++ [⟨path,kind,text⟩]⟩ := by
  unfold ParserState.add within
  rw [List.length_append,List.length_singleton]
  by_cases hfull : maxJsonFields ≤ state.fields.length
  · rw [if_pos hfull,if_neg (by omega)]
  · rw [if_neg hfull,if_pos (by omega)]

/-- A value that is neither an object nor an array. -/
lemma value_scalar {character : Char} {rest : List Char} {fields : List JsonField}
    (hspace : character ≠ ' ' ∧ character ≠ '\t' ∧ character ≠ '\r' ∧ character ≠ '\n')
    (hopen : character ≠ '{' ∧ character ≠ '[') :
    value levels path ⟨character :: rest,fields⟩ = scalar path ⟨character :: rest,fields⟩ := by
  cases levels with
  | zero =>
    unfold value
    dsimp only
    rw [whitespace_cons hspace,consume_of_ne hopen.1,consume_of_ne hopen.2]
  | succ levels =>
    unfold value
    dsimp only
    rw [whitespace_cons hspace,consume_of_ne hopen.1,consume_of_ne hopen.2]

lemma value_string (text rest : List Char) (fields : List JsonField) :
    value levels path ⟨jsonString text ++ rest,fields⟩ = within ⟨rest,fields ++ [⟨path,.string,text⟩]⟩ := by
  obtain ⟨later,hlater⟩ : ∃ later, jsonString text ++ rest = '"' :: later := ⟨_,rfl⟩
  have hstring := string_jsonString text rest
  rw [hlater] at hstring ⊢
  rw [value_scalar (by decide) (by decide)]
  unfold scalar
  dsimp only
  rw [consume_cons,hstring]
  exact add_eq _ _ _ _

lemma reads_string (text : List Char) : Reads levels (jsonString text) fun path => [⟨path,.string,text⟩] :=
  fun _ fields rest _ _ _ => value_string text rest fields

lemma reads_boolean (truth : Bool) : Reads levels (if truth then "true".toList else "false".toList)
    fun path => [⟨path,.boolean,if truth then "true".toList else "false".toList⟩] := by
  intro path fields rest _ _ _
  cases truth with
  | false => exact (value_scalar (by decide) (by decide)).trans (add_eq _ _ _ _)
  | true => exact (value_scalar (by decide) (by decide)).trans (add_eq _ _ _ _)

lemma reads_null : Reads levels "null".toList fun path => [⟨path,.nullValue,[]⟩] :=
  fun _ _ _ _ _ _ => (value_scalar (by decide) (by decide)).trans (add_eq _ _ _ _)

end Scalars

section Numbers

lemma toList_toString (n : ℕ) : (toString n).toList = Nat.toDigits 10 n := Nat.toList_repr

/-- A number begins with a zero only as the zero. -/
lemma head?_toDigits {n : ℕ} (h : 0 < n) : (Nat.toDigits 10 n).head? ≠ some '0' := by
  induction n using Nat.strongRecOn with
  | ind n ih =>
    by_cases hless : n < 10
    · rw [Nat.toDigits_of_lt_base hless]
      have hdigit : ∀ digit < 10, 0 < digit → Nat.digitChar digit ≠ '0' := by decide
      intro hzero
      exact hdigit n hless h (Option.some.inj hzero)
    · rw [Nat.toDigits_of_base_le (by decide) (by omega),List.head?_append_of_ne_nil _ Nat.toDigits_ne_nil]
      exact ih (n / 10) (by omega) (by omega)

lemma Ends.consume {rest : List Char} (h : Ends rest) {expected : Char}
    (hother : expected ≠ ',' ∧ expected ≠ '}' ∧ expected ≠ ']') : consume expected rest = none := by
  cases rest with
  | nil => rfl
  | cons character rest =>
    refine consume_of_ne (fun hsame => ?_) rest
    rcases h character rfl with hend | hend | hend
    · exact hother.1 (hsame.symm.trans hend)
    · exact hother.2.1 (hsame.symm.trans hend)
    · exact hother.2.2 (hsame.symm.trans hend)

lemma Ends.dropWhile {rest : List Char} (h : Ends rest) : rest.dropWhile Char.isDigit = rest := by
  cases rest with
  | nil => rfl
  | cons character rest =>
    rw [List.dropWhile_cons,if_neg]
    rcases h character rfl with rfl | rfl | rfl <;> decide

lemma digits_append {characters rest : List Char} (hall : ∀ character ∈ characters, character.isDigit = true)
    (hne : characters ≠ []) (hends : Ends rest) : digits (characters ++ rest) = some rest := by
  unfold digits
  rw [List.dropWhile_append_of_pos hall,hends.dropWhile]
  dsimp only
  rw [if_neg]
  rw [List.length_append]
  have hlength := List.length_pos_iff.mpr hne
  omega

lemma afterNumber_toString (n : ℕ) {rest : List Char} (hends : Ends rest) :
    afterNumber ((toString n).toList ++ rest) = some rest := by
  have hall : ∀ character ∈ Nat.toDigits 10 n, character.isDigit = true :=
    fun character hmem => Nat.isDigit_of_mem_toDigits (by decide) (by decide) hmem
  have hne : Nat.toDigits 10 n ≠ [] := Nat.toDigits_ne_nil
  have hwhole : (consume '0' (Nat.toDigits 10 n ++ rest)).or (digits (Nat.toDigits 10 n ++ rest)) = some rest := by
    rw [digits_append hall hne hends]
    by_cases hzero : n = 0
    · rw [hzero,Nat.toDigits_zero]
      rfl
    · cases hdigits : Nat.toDigits 10 n with
      | nil => exact absurd hdigits hne
      | cons first later =>
        have hhead := head?_toDigits (Nat.pos_of_ne_zero hzero)
        rw [hdigits] at hhead
        rw [List.cons_append,consume_of_ne fun hsame => hhead (congrArg some hsame)]
        rfl
  have hsign : skip '-' (Nat.toDigits 10 n ++ rest) = Nat.toDigits 10 n ++ rest := by
    cases hdigits : Nat.toDigits 10 n with
    | nil => exact absurd hdigits hne
    | cons first later =>
      have hfirst : first.isDigit = true := hall first (hdigits ▸ List.mem_cons_self)
      unfold skip
      rw [List.cons_append,consume_of_ne fun hsame => absurd (hsame ▸ hfirst) (by decide)]
      rfl
  unfold afterNumber
  dsimp only
  rw [toList_toString,hsign,hwhole]
  simp only [Option.bind_eq_bind,Option.bind_some]
  rw [hends.consume (by decide)]
  dsimp only
  rw [hends.consume (by decide),hends.consume (by decide)]
  rfl

lemma reads_number {levels : ℕ} (n : ℕ) :
    Reads levels (toString n).toList fun path => [⟨path,.number,(toString n).toList⟩] := by
  intro path fields rest _ _ hends
  have hnumber : number ((toString n).toList ++ rest) = some ((toString n).toList,rest) := by
    unfold number
    rw [afterNumber_toString n hends,Option.map_some,List.length_append,Nat.add_sub_cancel,List.take_left]
  have hall : ∀ character ∈ (toString n).toList, character.isDigit = true := by
    rw [toList_toString]
    exact fun character hmem => Nat.isDigit_of_mem_toDigits (by decide) (by decide) hmem
  cases hdigits : (toString n).toList with
  | nil =>
    rw [toList_toString] at hdigits
    exact absurd hdigits Nat.toDigits_ne_nil
  | cons first later =>
    rw [hdigits] at hnumber hall
    have hfirst : first.isDigit = true := hall first List.mem_cons_self
    have hne : ∀ other : Char, other.isDigit = false → first ≠ other := by
      intro other hother hsame
      rw [hsame,hother] at hfirst
      cases hfirst
    rw [List.cons_append] at hnumber ⊢
    rw [value_scalar ⟨hne _ (by decide),hne _ (by decide),hne _ (by decide),hne _ (by decide)⟩
      ⟨hne _ (by decide),hne _ (by decide)⟩]
    have hliteral : ∀ letter expected, Char.isDigit letter = false →
        literal (letter :: expected) (first :: (later ++ rest)) = none := by
      intro letter expected hletter
      unfold literal
      rw [if_neg]
      rw [List.isPrefixOf_cons_cons,Bool.and_eq_true,beq_iff_eq]
      exact fun hsame => hne letter hletter hsame.1.symm
    unfold scalar
    dsimp only
    rw [consume_of_ne (hne _ (by decide)),hnumber]
    have htrue : literal "true".toList (first :: (later ++ rest)) = none := hliteral 't' _ (by decide)
    have hfalse : literal "false".toList (first :: (later ++ rest)) = none := hliteral 'f' _ (by decide)
    have hnull : literal "null".toList (first :: (later ++ rest)) = none := hliteral 'n' _ (by decide)
    rw [htrue,hfalse,hnull]
    exact add_eq _ _ _ _

end Numbers
end AytherRuntime.Probe
