import AytherRuntime.Probe.Grammar
import Mathlib.Data.List.Basic
import Mathlib.Data.List.TakeWhile
import Mathlib.Tactic.Ring
import Mathlib.Tactic.NormNum

/-! The tokens of the parser against the grammar: what each of them takes from the front of a text, and that it takes
all of what the grammar has there. -/
namespace AytherRuntime.Probe

section Fronts

lemma consume_eq_some_iff {expected : Char} {text rest : List Char} :
    consume expected text = some rest ↔ text = expected :: rest := by
  cases text with
  | nil => simp [consume]
  | cons character text =>
    rw [consume,Option.ite_none_right_eq_some,Option.some.injEq,List.cons.injEq]

lemma literal_eq_some_iff {expected text rest : List Char} :
    literal expected text = some rest ↔ text = expected ++ rest := by
  rw [literal,Option.ite_none_right_eq_some,Option.some.injEq,List.isPrefixOf_iff_prefix]
  constructor
  · rintro ⟨⟨later,rfl⟩,rfl⟩
    rw [List.drop_left]
  · rintro rfl
    exact ⟨List.prefix_append _ _,List.drop_left⟩

lemma exists_blank (text : List Char) : ∃ blank, Blank blank ∧ text = blank ++ whitespace text :=
  ⟨text.takeWhile isBlank,fun _ hcharacter => List.mem_takeWhile_imp hcharacter,List.takeWhile_append_dropWhile.symm⟩

lemma whitespace_append {blank : List Char} (h : Blank blank) (rest : List Char) :
    whitespace (blank ++ rest) = whitespace rest := List.dropWhile_append_of_pos h

lemma whitespace_blank {blank : List Char} (h : Blank blank) : whitespace blank = [] := List.dropWhile_eq_nil_iff.mpr h

lemma whitespace_head {character : Char} (h : isBlank character = false) (rest : List Char) :
    whitespace (character :: rest) = character :: rest := by
  change (character :: rest).dropWhile isBlank = _
  rw [List.dropWhile_cons,h]
  rfl

/-- What stands after the blanks, with the blanks before it. -/
lemma whitespace_front {blank rest : List Char} {character : Char} (h : Blank blank)
    (hfront : isBlank character = false) :
    whitespace (blank ++ character :: rest) = character :: rest := by
  rw [whitespace_append h,whitespace_head hfront]

end Fronts

section Hexadecimal

lemma hexValue_lt {character : Char} {n : ℕ} (h : hexValue character = some n) : n < 16 := by
  unfold hexValue at h
  split_ifs at h with hdigit hlower hupper
  · have hbound : character.toNat ≤ '9'.toNat := hdigit.2
    cases h
    change character.toNat ≤ 57 at hbound
    change character.toNat - 48 < 16
    omega
  · have hbound : character.toNat ≤ 'f'.toNat := hlower.2
    cases h
    change character.toNat ≤ 102 at hbound
    change character.toNat - 97 + 10 < 16
    omega
  · have hbound : character.toNat ≤ 'F'.toNat := hupper.2
    cases h
    change character.toNat ≤ 70 at hbound
    change character.toNat - 65 + 10 < 16
    omega

lemma ofDigits_quad (a b c d : ℕ) : Nat.ofDigits 16 [d,c,b,a] = ((a * 16 + b) * 16 + c) * 16 + d := by
  simp only [Nat.ofDigits_cons,Nat.ofDigits_nil]
  ring

lemma hex4_eq_some_iff {text rest : List Char} {n : ℕ} :
    hex4 text = some (n,rest) ↔ ∃ digits, HexQuad digits n ∧ text = digits ++ rest := by
  constructor
  · intro h
    unfold hex4 at h
    split at h
    · rename_i first second third fourth later
      simp only [Option.bind_eq_bind,Option.bind_eq_some_iff,Option.some.injEq,Prod.mk.injEq] at h
      obtain ⟨a,ha,b,hb,c,hc,d,hd,hn,rfl⟩ := h
      rw [← ofDigits_quad] at hn
      subst hn
      exact ⟨[first,second,third,fourth],.mk ha hb hc hd,rfl⟩
    · cases h
  · rintro ⟨digits,⟨ha,hb,hc,hd⟩,rfl⟩
    simp only [List.cons_append,List.nil_append,hex4,ha,hb,hc,hd,Option.bind_eq_bind,Option.bind_some,ofDigits_quad]

lemma HexQuad.lt {digits : List Char} {n : ℕ} (h : HexQuad digits n) : n < 0x10000 := by
  obtain ⟨ha,hb,hc,hd⟩ := h
  have hbounds := And.intro (And.intro (hexValue_lt ha) (hexValue_lt hb)) (And.intro (hexValue_lt hc) (hexValue_lt hd))
  rw [ofDigits_quad]
  omega

end Hexadecimal

section Pieces

/-- `append_utf8` writes the bytes of a code point, surrogates apart. -/
lemma appendUtf8_eq {n : ℕ} (hscalar : n < 0xd800 ∨ 0xdfff < n) (hbound : n < 0x110000) : appendUtf8 n = utf8 n := by
  have hvalid : n.isValidChar := by
    rcases hscalar with hlow | hhigh
    · exact Or.inl hlow
    · exact Or.inr ⟨hhigh,hbound⟩
  have hval : (Char.ofNat n).val.toNat = n := by
    rw [Char.ofNat,dif_pos hvalid]
    rfl
  have hlead : ∀ a b k : ℕ, a = k * 64 → b < 64 → a ||| b = a + b := by
    intro a b k ha hb
    rw [ha,Nat.mul_comm k 64]
    exact (Nat.two_pow_add_eq_or_of_lt (i := 6) hb k).symm
  have htail : ∀ m : ℕ, 0x80 ||| (m &&& 0x3f) = 0x80 + m % 64 := by
    intro m
    rw [show (0x3f : ℕ) = 2 ^ 6 - 1 from rfl,Nat.and_two_pow_sub_one_eq_mod]
    exact hlead 0x80 _ 2 rfl (Nat.mod_lt _ (by decide))
  have hbyte : ∀ m : ℕ, m < 256 → Char.ofNat (UInt8.ofNat m).toNat = Char.ofNat m := by
    intro m hm
    rw [UInt8.toNat_ofNat',Nat.mod_eq_of_lt hm]
  unfold appendUtf8 utf8 String.utf8EncodeChar
  dsimp only
  rw [hval]
  simp only [htail,Nat.shiftRight_eq_div_pow]
  by_cases h₁ : n < 0x80
  · rw [if_pos h₁,if_pos (by omega : n ≤ 0x7f),List.map_cons,List.map_nil,hbyte n (by omega)]
  rw [if_neg h₁,if_neg (by omega : ¬n ≤ 0x7f)]
  by_cases h₂ : n < 0x800
  · rw [if_pos h₂,if_pos (by omega : n ≤ 0x7ff),hlead 0xc0 (n / 2 ^ 6) 3 rfl (by omega)]
    simp only [List.map_cons,List.map_nil]
    rw [hbyte _ (by omega),hbyte _ (by omega),show 0xc0 + n / 2 ^ 6 = n / 64 % 0x20 + 0xc0 by omega,
      show 0x80 + n % 64 = n % 0x40 + 0x80 by omega]
  rw [if_neg h₂,if_neg (by omega : ¬n ≤ 0x7ff)]
  by_cases h₃ : n < 0x10000
  · rw [if_pos h₃,if_pos (by omega : n ≤ 0xffff),
      show 0xe0 ||| n / 2 ^ 12 = 0xe0 + n / 2 ^ 12 from
        (Nat.two_pow_add_eq_or_of_lt (i := 5) (b := n / 2 ^ 12) (by omega) 7).symm]
    simp only [List.map_cons,List.map_nil]
    rw [hbyte _ (by omega),hbyte _ (by omega),hbyte _ (by omega),
      show 0xe0 + n / 2 ^ 12 = n / 4096 % 0x10 + 0xe0 by omega,
      show 0x80 + n / 2 ^ 6 % 64 = n / 64 % 0x40 + 0x80 by omega,show 0x80 + n % 64 = n % 0x40 + 0x80 by omega]
  · rw [if_neg h₃,if_neg (by omega : ¬n ≤ 0xffff),
      show 0xf0 ||| n / 2 ^ 18 = 0xf0 + n / 2 ^ 18 from
        (Nat.two_pow_add_eq_or_of_lt (i := 4) (b := n / 2 ^ 18) (by omega) 15).symm]
    simp only [List.map_cons,List.map_nil]
    rw [hbyte _ (by omega),hbyte _ (by omega),hbyte _ (by omega),hbyte _ (by omega),
      show 0xf0 + n / 2 ^ 18 = n / 262144 % 0x08 + 0xf0 by omega,
      show 0x80 + n / 2 ^ 12 % 64 = n / 4096 % 0x40 + 0x80 by omega,
      show 0x80 + n / 2 ^ 6 % 64 = n / 64 % 0x40 + 0x80 by omega,show 0x80 + n % 64 = n % 0x40 + 0x80 by omega]

lemma escaped_eq_some_iff {letter character : Char} :
    escaped letter = some character ↔ (letter,character) ∈ letterEscapes := by
  unfold escaped letterEscapes
  split_ifs with hself hb hf hn hr ht
  · rcases hself with rfl | rfl | rfl <;> simp [eq_comm]
  · simp [hb,eq_comm]
  · simp [hf,eq_comm]
  · simp [hn,eq_comm]
  · simp [hr,eq_comm]
  · simp [ht,eq_comm]
  · rw [not_or,not_or] at hself
    simp [hself,hb,hf,hn,hr,ht]

lemma escaped_u : escaped 'u' = none := by decide

/-- The escape of a code point, after its letter. -/
lemma unicode_eq_some_iff {text rest meaning : List Char} : unicode text = some (meaning,rest) ↔
    ∃ piece, PieceText meaning ('\\' :: 'u' :: piece) ∧ text = piece ++ rest := by
  constructor
  · intro h
    unfold unicode at h
    split at h
    · cases h
    · rename_i n later hfirst
      obtain ⟨digits,hquad,rfl⟩ := hex4_eq_some_iff.mp hfirst
      split_ifs at h with hlow hhigh
      · split at h
        · cases h
        · rename_i low last hsecond
          obtain ⟨middle,hmiddle,hlast⟩ := Option.bind_eq_some_iff.mp hsecond
          obtain rfl := literal_eq_some_iff.mp hmiddle
          obtain ⟨lowDigits,hlowQuad,rfl⟩ := hex4_eq_some_iff.mp hlast
          split_ifs at h with hrange
          obtain ⟨hmeaning,hrest⟩ := Prod.mk.inj (Option.some.inj h)
          have hlowRange : 0xdc00 ≤ low ∧ low ≤ 0xdfff := by omega
          refine ⟨digits ++ '\\' :: 'u' :: lowDigits,?_,by simp [hrest]⟩
          rw [← hmeaning,appendUtf8_eq (by omega) (by omega)]
          exact .pair hquad hlowQuad hhigh hlowRange
      · cases h
        have hlt := hquad.lt
        refine ⟨digits,?_,rfl⟩
        rw [appendUtf8_eq (by omega) (by omega)]
        exact .codePoint hquad (by omega)
  · rintro ⟨piece,hpiece,rfl⟩
    generalize hwhole : '\\' :: 'u' :: piece = whole at hpiece
    cases hpiece with
    | plain control quote backslash =>
      rw [List.cons.injEq] at hwhole
      exact absurd hwhole.1.symm backslash
    | letter known =>
      simp only [List.cons.injEq,true_and] at hwhole
      rw [← hwhole.1,← escaped_eq_some_iff,escaped_u] at known
      cases known
    | @codePoint digits n quad scalar =>
      simp only [List.cons.injEq,true_and] at hwhole
      subst hwhole
      have hlt := quad.lt
      unfold unicode
      rw [hex4_eq_some_iff.mpr ⟨piece,quad,rfl⟩]
      dsimp only
      rw [if_neg (by omega),if_neg (by omega),appendUtf8_eq (by omega) (by omega)]
    | @pair high low m n highQuad lowQuad highRange lowRange =>
      simp only [List.cons.injEq,true_and] at hwhole
      subst hwhole
      have hsecond : (literal "\\u".toList ('\\' :: 'u' :: low ++ rest)).bind hex4 = some (n,rest) := by
        rw [literal_eq_some_iff.mpr (show '\\' :: 'u' :: low ++ rest = "\\u".toList ++ (low ++ rest) from rfl),
          Option.bind_some,hex4_eq_some_iff.mpr ⟨low,lowQuad,rfl⟩]
      unfold unicode
      rw [List.append_assoc,hex4_eq_some_iff.mpr ⟨high,highQuad,rfl⟩]
      dsimp only
      rw [if_neg (by omega),if_pos highRange,hsecond]
      dsimp only
      rw [if_neg (by omega),appendUtf8_eq (by omega) (by omega)]

/-- A piece of a string, which begins with no quote. -/
lemma piece_eq_some_iff {text rest meaning : List Char} (hquote : text.head? ≠ some '"') :
    piece text = some (meaning,rest) ↔ ∃ front, PieceText meaning front ∧ text = front ++ rest := by
  constructor
  · intro h
    unfold piece at h
    split at h
    · cases h
    · rename_i character later
      split_ifs at h with hcontrol hplain
      · cases h
        exact ⟨[character],.plain (Nat.not_lt.mp hcontrol) (fun hsame => hquote (by rw [hsame]; rfl)) hplain,rfl⟩
      · rw [not_not] at hplain
        subst hplain
        split at h
        · cases h
        · rename_i letter last
          split at h
          · rename_i character hescaped
            cases h
            exact ⟨['\\',letter],.letter (escaped_eq_some_iff.mp hescaped),rfl⟩
          · split_ifs at h with hu
            subst hu
            obtain ⟨front,hfront,rfl⟩ := unicode_eq_some_iff.mp h
            exact ⟨'\\' :: 'u' :: front,hfront,rfl⟩
  · rintro ⟨front,hfront,rfl⟩
    cases hfront with
    | plain control quote backslash =>
      unfold piece
      rw [List.singleton_append]
      dsimp only
      rw [if_neg (Nat.not_lt.mpr control),if_pos backslash]
    | letter known =>
      simp only [List.cons_append,List.nil_append,piece,escaped_eq_some_iff.mpr known]
      rfl
    | codePoint quad scalar =>
      have hunicode := unicode_eq_some_iff.mpr ⟨_,.codePoint quad scalar,(rfl : _ ++ rest = _)⟩
      simp only [List.cons_append,piece,escaped_u,hunicode]
      rfl
    | pair highQuad lowQuad highRange lowRange =>
      have hunicode := unicode_eq_some_iff.mpr ⟨_,.pair highQuad lowQuad highRange lowRange,(rfl : _ ++ rest = _)⟩
      simp only [List.cons_append,piece,escaped_u,hunicode]
      rfl

end Pieces

section Strings

lemma PieceText.front {meaning piece : List Char} (h : PieceText meaning piece) :
    ∃ character rest, piece = character :: rest ∧ character ≠ '"' := by
  cases h with
  | plain control quote backslash => exact ⟨_,_,rfl,quote⟩
  | letter known => exact ⟨_,_,rfl,by decide⟩
  | codePoint quad scalar => exact ⟨_,_,rfl,by decide⟩
  | pair highQuad lowQuad highRange lowRange => exact ⟨_,_,rfl,by decide⟩

lemma stringFrom_sound {steps : ℕ} {result text meaning rest : List Char}
    (h : stringFrom result steps text = some (meaning,rest)) :
    ∃ later body, meaning = result ++ later ∧ BodyText later body ∧ text = body ++ '"' :: rest := by
  induction steps generalizing result text with
  | zero => cases h
  | succ steps ih =>
    unfold stringFrom at h
    split at h
    · rename_i last hquote
      cases h
      exact ⟨[],[],(List.append_nil _).symm,.nil,consume_eq_some_iff.mp hquote⟩
    · rename_i hquote
      have hhead : text.head? ≠ some '"' := by
        intro hhead
        obtain ⟨later,rfl⟩ := List.head?_eq_some_iff.mp hhead
        rw [consume_eq_some_iff.mpr rfl] at hquote
        cases hquote
      split at h
      · cases h
      · rename_i characters last hpiece
        obtain ⟨front,hfront,rfl⟩ := (piece_eq_some_iff hhead).mp hpiece
        obtain ⟨later,body,rfl,hbody,rfl⟩ := ih h
        exact ⟨characters ++ later,front ++ body,List.append_assoc _ _ _,.cons hfront hbody,
          (List.append_assoc _ _ _).symm⟩

lemma stringFrom_complete {meaning body : List Char} (h : BodyText meaning body) {steps : ℕ}
    (hsteps : body.length < steps) (result rest : List Char) :
    stringFrom result steps (body ++ '"' :: rest) = some (result ++ meaning,rest) := by
  induction h generalizing steps result with
  | nil =>
    cases steps with
    | zero => cases hsteps
    | succ steps =>
      rw [List.nil_append,stringFrom,consume_eq_some_iff.mpr rfl,List.append_nil]
  | @cons meaning piece meanings pieces head tail ih =>
    obtain ⟨character,later,hpiece,hquote⟩ := head.front
    cases steps with
    | zero => cases hsteps
    | succ steps =>
      have hconsume : consume '"' (piece ++ (pieces ++ '"' :: rest)) = none := by
        rw [hpiece,List.cons_append]
        exact if_neg hquote
      have hhead : (piece ++ (pieces ++ '"' :: rest)).head? ≠ some '"' := by
        rw [hpiece]
        exact fun hsame => hquote (Option.some.inj hsame)
      have hlength : pieces.length < steps := by
        rw [hpiece,List.length_append,List.length_cons] at hsteps
        omega
      rw [List.append_assoc,stringFrom,hconsume,(piece_eq_some_iff hhead).mpr ⟨piece,head,rfl⟩]
      dsimp only
      rw [ih hlength,List.append_assoc]

/-- `string` takes the strings of the grammar, and what they stand for. -/
theorem string_eq_some_iff {text meaning rest : List Char} :
    string text = some (meaning,rest) ↔ ∃ front, StringText meaning front ∧ text = front ++ rest := by
  constructor
  · intro h
    unfold string at h
    split at h
    · cases h
    · rename_i later hquote
      obtain rfl := consume_eq_some_iff.mp hquote
      obtain ⟨meaning,body,rfl,hbody,rfl⟩ := stringFrom_sound h
      exact ⟨'"' :: (body ++ ['"']),⟨body,hbody,rfl⟩,by simp⟩
  · rintro ⟨front,⟨body,hbody,rfl⟩,rfl⟩
    have hlength : body.length < (body ++ '"' :: rest).length := by
      rw [List.length_append,List.length_cons]
      omega
    have hcomplete := stringFrom_complete hbody hlength [] rest
    unfold string
    rw [List.cons_append,List.append_assoc,List.singleton_append,consume_eq_some_iff.mpr rfl]
    exact hcomplete

end Strings

section Numbers

/-- What may stand after a number: nothing that would go on with it. -/
def Delimited (text : List Char) : Prop :=
  ∀ character ∈ text.head?, isBlank character = true ∨ character = ',' ∨ character = '}' ∨ character = ']'

/-- The text begins with no character of a kind. -/
def Stops (kind : Char → Bool) (text : List Char) : Prop := ∀ character ∈ text.head?, kind character = false

lemma Delimited.stops {text : List Char} (h : Delimited text) {kind : Char → Bool}
    (hkind : [' ','\t','\r','\n',',','}',']'].all fun character => !kind character) : Stops kind text := by
  intro character hcharacter
  simp only [List.all_cons,List.all_nil,Bool.and_true,Bool.and_eq_true,Bool.not_eq_true'] at hkind
  obtain ⟨h₁,h₂,h₃,h₄,h₅,h₆,h₇⟩ := hkind
  rcases h character hcharacter with hblank | rfl | rfl | rfl
  · unfold isBlank at hblank
    simp only [Bool.or_eq_true,decide_eq_true_eq] at hblank
    obtain ((rfl | rfl) | rfl) | rfl := hblank <;> assumption
  · assumption
  · assumption
  · assumption

lemma consume_of_stops {expected : Char} {text : List Char} (h : Stops (· = expected) text) :
    consume expected text = none := by
  cases text with
  | nil => rfl
  | cons character text => exact if_neg (of_decide_eq_false (h character rfl))

lemma skip_of_stops {expected : Char} {text : List Char} (h : Stops (· = expected) text) :
    skip expected text = text := by
  rw [skip,consume_of_stops h,Option.getD_none]

lemma skip_cons (expected : Char) (text : List Char) : skip expected (expected :: text) = text := by
  rw [skip,consume_eq_some_iff.mpr rfl,Option.getD_some]

lemma skip_sound (expected : Char) (text : List Char) :
    skip expected text = text ∨ text = expected :: skip expected text := by
  unfold skip
  cases h : consume expected text with
  | none => exact Or.inl rfl
  | some rest => exact Or.inr (consume_eq_some_iff.mp h)

lemma digits_sound {text rest : List Char} (h : digits text = some rest) :
    ∃ front, DigitsText front ∧ text = front ++ rest := by
  unfold digits at h
  dsimp only at h
  split_ifs at h with hlength
  cases h
  have hsplit := List.takeWhile_append_dropWhile (p := Char.isDigit) (l := text)
  refine ⟨text.takeWhile Char.isDigit,⟨fun hnil => hlength ?_,fun _ hcharacter => List.mem_takeWhile_imp hcharacter⟩,
    hsplit.symm⟩
  rw [hnil,List.nil_append] at hsplit
  rw [hsplit]

lemma dropWhile_of_stops {kind : Char → Bool} {text : List Char} (h : Stops kind text) :
    text.dropWhile kind = text := by
  cases text with
  | nil => rfl
  | cons character text => rw [List.dropWhile_cons,h character rfl]; rfl

lemma digits_complete {front rest : List Char} (h : DigitsText front) (hrest : Stops Char.isDigit rest) :
    digits (front ++ rest) = some rest := by
  have hpositive := List.length_pos_iff.mpr h.1
  unfold digits
  rw [List.dropWhile_append_of_pos h.2,dropWhile_of_stops hrest]
  dsimp only
  rw [if_neg (by rw [List.length_append]; omega)]

lemma DigitsText.stops {text rest : List Char} (h : DigitsText text) {kind : Char → Bool}
    (hkind : ∀ character, character.isDigit = true → kind character = false) : Stops kind (text ++ rest) := by
  obtain ⟨character,later,rfl⟩ := List.exists_cons_of_ne_nil h.1
  intro other hother
  cases hother
  exact hkind character (h.2 character List.mem_cons_self)

lemma digit_ne {character other : Char} (h : character.isDigit = true) (hother : other.isDigit = false) :
    decide (character = other) = false := by
  rw [decide_eq_false_iff_not]
  rintro rfl
  rw [h] at hother
  cases hother

/-- The whole part after its sign. -/
def afterWhole (text : List Char) : Option (List Char) := (consume '0' text).or (digits text)

/-- The fraction, when there is one. -/
def afterFraction (text : List Char) : Option (List Char) :=
  match consume '.' text with
  | some rest => digits rest
  | none => some text

/-- The exponent, when there is one. -/
def afterExponent (text : List Char) : Option (List Char) :=
  match (consume 'e' text).or (consume 'E' text) with
  | some rest =>
    match consume '+' rest with
    | some rest => digits rest
    | none => digits (skip '-' rest)
  | none => some text

/-- A number is read part by part. -/
lemma afterNumber_eq (text : List Char) :
    afterNumber text = ((afterWhole (skip '-' text)).bind afterFraction).bind afterExponent := by
  simp only [afterNumber,afterWhole,Option.bind_eq_bind]
  cases (consume '0' (skip '-' text)).or (digits (skip '-' text)) with
  | none => rfl
  | some whole =>
    change _ = (afterFraction whole).bind afterExponent
    unfold afterFraction
    rw [Option.bind_some]
    cases consume '.' whole with
    | none => rfl
    | some rest => rfl

lemma afterWhole_sound {text rest : List Char} (h : afterWhole text = some rest) :
    ∃ front, WholeText front ∧ text = front ++ rest := by
  unfold afterWhole at h
  cases hzero : consume '0' text with
  | some later =>
    rw [hzero,Option.some_or,Option.some.injEq] at h
    subst h
    exact ⟨['0'],Or.inl rfl,consume_eq_some_iff.mp hzero⟩
  | none =>
    rw [hzero,Option.none_or] at h
    obtain ⟨front,hfront,rfl⟩ := digits_sound h
    refine ⟨front,Or.inr ⟨hfront,fun hhead => ?_⟩,rfl⟩
    obtain ⟨later,rfl⟩ := List.head?_eq_some_iff.mp hhead
    rw [List.cons_append,consume_eq_some_iff.mpr rfl] at hzero
    cases hzero

lemma afterFraction_sound {text rest : List Char} (h : afterFraction text = some rest) :
    ∃ front, FractionText front ∧ text = front ++ rest := by
  unfold afterFraction at h
  split at h
  · rename_i later hpoint
    obtain rfl := consume_eq_some_iff.mp hpoint
    obtain ⟨front,hfront,rfl⟩ := digits_sound h
    exact ⟨'.' :: front,Or.inr ⟨front,hfront,rfl⟩,rfl⟩
  · cases h
    exact ⟨[],Or.inl rfl,rfl⟩

/-- The digits of an exponent after its sign. -/
lemma signed_sound {text rest : List Char} (h : (match consume '+' text with
    | some rest => digits rest
    | none => digits (skip '-' text)) = some rest) :
    ∃ sign front, (sign = [] ∨ sign = ['+'] ∨ sign = ['-']) ∧ DigitsText front ∧ text = sign ++ (front ++ rest) := by
  split at h
  · rename_i later hplus
    obtain rfl := consume_eq_some_iff.mp hplus
    obtain ⟨front,hfront,rfl⟩ := digits_sound h
    exact ⟨['+'],front,Or.inr (Or.inl rfl),hfront,rfl⟩
  · obtain ⟨front,hfront,hskip⟩ := digits_sound h
    rcases skip_sound '-' text with hsame | hminus
    · exact ⟨[],front,Or.inl rfl,hfront,by rw [← hskip,hsame,List.nil_append]⟩
    · exact ⟨['-'],front,Or.inr (Or.inr rfl),hfront,by rw [hminus,hskip,List.singleton_append]⟩

lemma afterExponent_sound {text rest : List Char} (h : afterExponent text = some rest) :
    ∃ front, ExponentText front ∧ text = front ++ rest := by
  unfold afterExponent at h
  split at h
  · rename_i later hletter
    obtain ⟨sign,front,hsign,hfront,rfl⟩ := signed_sound h
    obtain hlower | ⟨-,hupper⟩ := Option.or_eq_some_iff.mp hletter
    · exact ⟨'e' :: (sign ++ front),Or.inr ⟨'e',sign,front,Or.inl rfl,hsign,hfront,rfl⟩,by
        rw [consume_eq_some_iff.mp hlower,List.cons_append,List.append_assoc]⟩
    · exact ⟨'E' :: (sign ++ front),Or.inr ⟨'E',sign,front,Or.inr rfl,hsign,hfront,rfl⟩,by
        rw [consume_eq_some_iff.mp hupper,List.cons_append,List.append_assoc]⟩
  · cases h
    exact ⟨[],Or.inl rfl,rfl⟩

lemma afterNumber_sound {text rest : List Char} (h : afterNumber text = some rest) :
    ∃ front, NumberText front ∧ text = front ++ rest := by
  rw [afterNumber_eq,Option.bind_eq_some_iff] at h
  obtain ⟨afterFractionText,hfraction,hexponent⟩ := h
  obtain ⟨afterWholeText,hwhole,hfraction⟩ := Option.bind_eq_some_iff.mp hfraction
  obtain ⟨whole,hwholeText,hskip⟩ := afterWhole_sound hwhole
  obtain ⟨fraction,hfractionText,rfl⟩ := afterFraction_sound hfraction
  obtain ⟨exponent,hexponentText,rfl⟩ := afterExponent_sound hexponent
  rcases skip_sound '-' text with hsame | hminus
  · exact ⟨_,⟨[],whole,fraction,exponent,Or.inl rfl,hwholeText,hfractionText,hexponentText,rfl⟩,by
      rw [← hsame,hskip]
      simp only [List.append_assoc,List.nil_append]⟩
  · exact ⟨_,⟨['-'],whole,fraction,exponent,Or.inr rfl,hwholeText,hfractionText,hexponentText,rfl⟩,by
      rw [hminus,hskip]
      simp only [List.append_assoc,List.cons_append,List.nil_append]⟩

lemma afterExponent_complete {front rest : List Char} (h : ExponentText front) (hrest : Delimited rest) :
    afterExponent (front ++ rest) = some rest := by
  have hdigits : Stops Char.isDigit rest := hrest.stops (by decide)
  unfold afterExponent
  rcases h with rfl | ⟨letter,sign,digits',hletter,hsign,hdigitsText,rfl⟩
  · rw [List.nil_append,consume_of_stops (hrest.stops (by decide)),consume_of_stops (hrest.stops (by decide))]
    rfl
  · have hlead : (consume 'e' (letter :: (sign ++ digits') ++ rest)).or
        (consume 'E' (letter :: (sign ++ digits') ++ rest)) =
        some (sign ++ (digits' ++ rest)) := by
      rw [← List.append_assoc sign]
      rcases hletter with rfl | rfl <;> rfl
    rw [hlead]
    dsimp only
    rcases hsign with rfl | rfl | rfl
    · rw [List.nil_append,consume_of_stops (hdigitsText.stops fun _ hdigit => digit_ne hdigit (by decide)),
        skip_of_stops (hdigitsText.stops fun _ hdigit => digit_ne hdigit (by decide))]
      exact digits_complete hdigitsText hdigits
    · rw [List.singleton_append,consume_eq_some_iff.mpr rfl]
      exact digits_complete hdigitsText hdigits
    · rw [List.singleton_append,show consume '+' ('-' :: (digits' ++ rest)) = none from rfl,skip_cons]
      exact digits_complete hdigitsText hdigits

lemma exponent_stops {front rest : List Char} (h : ExponentText front) (hrest : Delimited rest) {kind : Char → Bool}
    (hkind : [' ','\t','\r','\n',',','}',']'].all fun character => !kind character) (hlower : kind 'e' = false)
    (hupper : kind 'E' = false) : Stops kind (front ++ rest) := by
  rcases h with rfl | ⟨letter,sign,digits',hletter,-,-,rfl⟩
  · exact hrest.stops hkind
  · intro character hcharacter
    cases hcharacter
    rcases hletter with rfl | rfl <;> assumption

lemma afterFraction_complete {front rest : List Char} (h : FractionText front) (hpoint : Stops (· = '.') rest)
    (hdigits : Stops Char.isDigit rest) : afterFraction (front ++ rest) = some rest := by
  unfold afterFraction
  rcases h with rfl | ⟨digits',hdigitsText,rfl⟩
  · rw [List.nil_append,consume_of_stops hpoint]
  · rw [List.cons_append,consume_eq_some_iff.mpr rfl]
    exact digits_complete hdigitsText hdigits

lemma afterWhole_complete {front rest : List Char} (h : WholeText front) (hdigits : Stops Char.isDigit rest) :
    afterWhole (front ++ rest) = some rest := by
  unfold afterWhole
  rcases h with rfl | ⟨hdigitsText,hzero⟩
  · rw [List.singleton_append,consume_eq_some_iff.mpr rfl,Option.some_or]
  · have hnone : consume '0' (front ++ rest) = none := by
      obtain ⟨character,later,rfl⟩ := List.exists_cons_of_ne_nil hdigitsText.1
      exact if_neg fun hsame => hzero (by rw [hsame]; rfl)
    rw [hnone,Option.none_or,digits_complete hdigitsText hdigits]

lemma whole_stops {front rest : List Char} (h : WholeText front) : Stops (· = '-') (front ++ rest) := by
  rcases h with rfl | ⟨hdigitsText,-⟩
  · intro character hcharacter
    cases hcharacter
    rfl
  · exact hdigitsText.stops fun _ hdigit => digit_ne hdigit (by decide)

lemma fraction_stops {front rest : List Char} (h : FractionText front) (hrest : Stops Char.isDigit rest) :
    Stops Char.isDigit (front ++ rest) := by
  rcases h with rfl | ⟨digits',-,rfl⟩
  · exact hrest
  · intro character hcharacter
    cases hcharacter
    rfl

lemma afterNumber_complete {front rest : List Char} (h : NumberText front) (hrest : Delimited rest) :
    afterNumber (front ++ rest) = some rest := by
  obtain ⟨sign,whole,fraction,exponent,hsign,hwhole,hfraction,hexponent,rfl⟩ := h
  have hexponentDigits : Stops Char.isDigit (exponent ++ rest) :=
    exponent_stops hexponent hrest (by decide) (by decide) (by decide)
  have hexponentPoint : Stops (· = '.') (exponent ++ rest) :=
    exponent_stops hexponent hrest (by decide) (by decide) (by decide)
  have hskip : skip '-' (sign ++ (whole ++ (fraction ++ exponent)) ++ rest) =
      whole ++ (fraction ++ (exponent ++ rest)) := by
    simp only [List.append_assoc]
    rcases hsign with rfl | rfl
    · rw [List.nil_append,skip_of_stops (whole_stops hwhole)]
    · rw [List.singleton_append,skip_cons]
  rw [afterNumber_eq,hskip,afterWhole_complete hwhole (fraction_stops hfraction hexponentDigits),Option.bind_some,
    afterFraction_complete hfraction hexponentPoint hexponentDigits,Option.bind_some,
    afterExponent_complete hexponent hrest]

lemma number_sound {text front rest : List Char} (h : number text = some (front,rest)) :
    NumberText front ∧ text = front ++ rest := by
  obtain ⟨later,hafter,hpair⟩ := Option.map_eq_some_iff.mp h
  obtain ⟨number,hnumber,rfl⟩ := afterNumber_sound hafter
  obtain ⟨hfront,rfl⟩ := Prod.mk.inj hpair
  rw [List.length_append,Nat.add_sub_cancel_right,List.take_left' rfl] at hfront
  subst hfront
  exact ⟨hnumber,rfl⟩

lemma number_complete {front rest : List Char} (h : NumberText front) (hrest : Delimited rest) :
    number (front ++ rest) = some (front,rest) := by
  rw [number,afterNumber_complete h hrest,Option.map_some,List.length_append,Nat.add_sub_cancel_right,
    List.take_left' rfl]

end Numbers
end AytherRuntime.Probe
