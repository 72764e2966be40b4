import AytherRuntime.Probe.Flattened
import AytherRuntime.Probe.Tokens

/-! The parser of the answers takes exactly the texts of the grammar, and gives their fields. -/
namespace AytherRuntime.Probe

section Taken
variable {levels : ℕ} {path : List Char}

/-- What is read is the text of a value after blanks, and the fields of the value are added. -/
def Sound (levels : ℕ) (read : List Char → ParserState → Option ParserState) : Prop :=
  ∀ path state taken, read path state = some taken → taken.fields.length ≤ maxJsonFields ∧
    ∃ blank json text, Blank blank ∧ ValueText levels json text ∧ state.text = blank ++ (text ++ taken.text) ∧
      taken.fields = state.fields ++ flatten path json

lemma add_sound {state taken : ParserState} {kind : JsonKind} {text rest : List Char}
    (h : state.add path kind text rest = some taken) : taken.fields.length ≤ maxJsonFields ∧
      taken = ⟨rest,state.fields ++ [⟨path,kind,text⟩]⟩ := by
  rw [add_eq] at h
  obtain ⟨rfl,hfew⟩ := within_some h
  exact ⟨hfew,rfl⟩

/-- A scalar is read as it stands in the text. -/
lemma scalar_sound {state taken : ParserState} (h : scalar path state = some taken) :
    taken.fields.length ≤ maxJsonFields ∧ ∃ json text, ScalarText json text ∧ state.text = text ++ taken.text ∧
      taken.fields = state.fields ++ flatten path json := by
  have hadded : ∀ {json : Json} {text rest : List Char}, ScalarText json text → state.text = text ++ rest →
      state.add path json.kind json.fieldText rest = some taken →
        taken.fields.length ≤ maxJsonFields ∧ ∃ json text, ScalarText json text ∧ state.text = text ++ taken.text ∧
          taken.fields = state.fields ++ flatten path json := by
    intro json text rest hscalar htext hadd
    obtain ⟨hfew,rfl⟩ := add_sound hadd
    exact ⟨hfew,json,text,hscalar,htext,by rw [flatten_scalar hscalar]⟩
  unfold scalar at h
  split at h
  · obtain ⟨⟨meaning,rest⟩,hstring,hadd⟩ := Option.bind_eq_some_iff.mp h
    obtain ⟨front,hfront,htext⟩ := string_eq_some_iff.mp hstring
    exact @hadded (.string meaning) _ _ hfront htext hadd
  split at h
  · rename_i rest htrue
    exact @hadded (.boolean true) _ _ rfl (literal_eq_some_iff.mp htrue) h
  split at h
  · rename_i rest hfalse
    exact @hadded (.boolean false) _ _ rfl (literal_eq_some_iff.mp hfalse) h
  split at h
  · rename_i rest hnull
    exact @hadded (.null) _ _ rfl (literal_eq_some_iff.mp hnull) h
  · obtain ⟨⟨front,rest⟩,hnumber,hadd⟩ := Option.bind_eq_some_iff.mp h
    obtain ⟨hfront,htext⟩ := number_sound hnumber
    exact @hadded (.number front) _ _ ⟨rfl,hfront⟩ htext hadd

lemma Blank.append {blank more : List Char} (h : Blank blank) (hmore : Blank more) : Blank (blank ++ more) :=
  List.forall_mem_append.mpr ⟨h,hmore⟩

/-- Blanks before the first element are blanks before its text. -/
lemma ElementsText.blank {V : Json → List Char → Prop} {values : List Json} {text blank : List Char}
    (h : ElementsText V values text) (hblank : Blank blank) : ElementsText V values (blank ++ text) := by
  cases h with
  | last hbefore head hafter =>
    rw [← List.append_assoc]
    exact .last (hblank.append hbefore) head hafter
  | next hbefore head hafter tail =>
    rw [← List.append_assoc]
    exact .next (hblank.append hbefore) head hafter tail

lemma MemberText.blank {V : Json → List Char → Prop} {member : List Char × Json} {text blank : List Char}
    (h : MemberText V member text) (hblank : Blank blank) : MemberText V member (blank ++ text) := by
  cases h with
  | mk hbefore named hcolon hvalue head hafter =>
    rw [← List.append_assoc]
    exact .mk (hblank.append hbefore) named hcolon hvalue head hafter

lemma MembersText.blank {V : Json → List Char → Prop} {members : List (List Char × Json)} {text blank : List Char}
    (h : MembersText V members text) (hblank : Blank blank) : MembersText V members (blank ++ text) := by
  cases h with
  | last head => exact .last (head.blank hblank)
  | next head tail =>
    rw [← List.append_assoc]
    exact .next (head.blank hblank) tail

lemma any_eq_false_iff {fields : List JsonField} {q : List Char} :
    ¬(fields.any fun field => field.path = q) = true ↔ ∀ field ∈ fields, field.path ≠ q := by
  simp

/-- The loop over the elements takes their texts up to the bracket. -/
lemma elements_sound {read : List Char → ParserState → Option ParserState} (hread : Sound levels read) {steps count : ℕ}
    {state taken : ParserState} {total : ℕ} (h : elements read path steps count state = some (taken,total)) :
    taken.fields.length ≤ maxJsonFields ∧ ∃ values inner, ElementsText (ValueText levels) values inner ∧
      state.text = inner ++ ']' :: taken.text ∧ total = count + values.length ∧
      taken.fields = state.fields ++ flattenElements path count values := by
  induction steps generalizing count state with
  | zero => cases h
  | succ steps ih =>
    unfold elements at h
    split at h
    · cases h
    rename_i after hvalue
    obtain ⟨hfew,blank,json,text,hblank,hjson,htext,hfields⟩ := hread _ _ _ hvalue
    obtain ⟨blankAfter,hblankAfter,hafter⟩ := exists_blank after.text
    split at h
    · rename_i rest hclose
      cases h
      rw [consume_eq_some_iff.mp hclose] at hafter
      refine ⟨hfew,[json],blank ++ (text ++ blankAfter),.last hblank hjson hblankAfter,?_,rfl,?_⟩
      · rw [htext,hafter]
        simp only [List.append_assoc]
      · rw [hfields,flattenElements,flattenElements,List.append_nil]
    split at h
    · rename_i rest hcomma
      rw [consume_eq_some_iff.mp hcomma] at hafter
      obtain ⟨hfew,values,inner,hvalues,hinner,htotal,hlater⟩ := ih h
      refine ⟨hfew,json :: values,_,.next hblank hjson hblankAfter hvalues,?_,?_,?_⟩
      · rw [htext,hafter]
        rw [show rest = _ from hinner]
        simp only [List.append_assoc,List.cons_append]
      · rw [htotal,List.length_cons]
        omega
      · rw [hlater,hfields,flattenElements,List.append_assoc]
    · cases h

/-- The loop over the members takes their texts up to the brace, and no member is named as a field before it. -/
lemma members_sound {read : List Char → ParserState → Option ParserState} (hread : Sound levels read) {steps count : ℕ}
    {state taken : ParserState} {total : ℕ} (h : members read path steps count state = some (taken,total)) :
    taken.fields.length ≤ maxJsonFields ∧ ∃ all inner, MembersText (ValueText levels) all inner ∧
      state.text = inner ++ '}' :: taken.text ∧ total = count + all.length ∧
      taken.fields = state.fields ++ flattenMembers path all ∧ (∀ member ∈ all, validKey member.1 = true) ∧
      (all.map Prod.fst).Nodup ∧ ∀ member ∈ all, ∀ field ∈ state.fields, field.path ≠ childPath path member.1 := by
  induction steps generalizing count state with
  | zero => cases h
  | succ steps ih =>
    unfold members at h
    split at h
    · cases h
    rename_i key named hstring
    split at h
    · cases h
    rename_i hinvalid
    have hvalid : validKey key = true := by simpa using hinvalid
    split at h
    · cases h
    rename_i valued hcolon
    split at h
    · cases h
    rename_i hfresh
    rw [any_eq_false_iff] at hfresh
    split at h
    · cases h
    rename_i after hvalue
    obtain ⟨before,hbefore,hstate⟩ := exists_blank state.text
    obtain ⟨name,hname,hfront⟩ := string_eq_some_iff.mp hstring
    obtain ⟨blankColon,hblankColon,hnamed⟩ := exists_blank named
    obtain ⟨hfew,blank,json,text,hblank,hjson,htext,hfields⟩ := hread _ _ _ hvalue
    obtain ⟨blankAfter,hblankAfter,hafter⟩ := exists_blank after.text
    rw [hfront,hnamed,consume_eq_some_iff.mp hcolon] at hstate
    have hmember := MemberText.mk hbefore hname hblankColon hblank hjson hblankAfter
    split at h
    · rename_i rest hclose
      cases h
      rw [consume_eq_some_iff.mp hclose] at hafter
      refine ⟨hfew,[(key,json)],_,.last hmember,?_,rfl,?_,?_,List.nodup_singleton _,?_⟩
      · rw [hstate,show valued = _ from htext,hafter]
        simp only [List.append_assoc,List.cons_append]
      · rw [hfields,flattenMembers,flattenMembers,List.append_nil]
      · exact List.forall_mem_singleton.mpr hvalid
      · exact List.forall_mem_singleton.mpr hfresh
    split at h
    · rename_i rest hcomma
      rw [consume_eq_some_iff.mp hcomma] at hafter
      obtain ⟨hfew,all,inner,hall,hinner,htotal,hlater,hvalids,hkeys,hnew⟩ := ih h
      refine ⟨hfew,(key,json) :: all,_,.next hmember hall,?_,?_,?_,?_,?_,?_⟩
      · rw [hstate,show valued = _ from htext,hafter,show rest = _ from hinner]
        simp only [List.append_assoc,List.cons_append]
      · rw [htotal,List.length_cons]
        omega
      · rw [hlater,hfields,flattenMembers,List.append_assoc]
      · exact List.forall_mem_cons.mpr ⟨hvalid,hvalids⟩
      · -- the value of this member is a field before those of the later ones
        refine List.nodup_cons.mpr ⟨fun hmem => ?_,hkeys⟩
        obtain ⟨member,hmem,hsame⟩ := List.mem_map.mp hmem
        obtain ⟨more,hhead⟩ := flatten_head (childPath path key) json
        refine hnew member hmem ⟨childPath path key,json.kind,json.fieldText⟩ ?_ (by rw [hsame])
        rw [show after.fields = _ from hfields,hhead]
        exact List.mem_append_right _ List.mem_cons_self
      · refine List.forall_mem_cons.mpr ⟨hfresh,fun member hmem field hfield => hnew member hmem field ?_⟩
        rw [show after.fields = _ from hfields]
        exact List.mem_append_left _ hfield
    · cases h

/-- The number of elements is written to the field that was added for them. -/
lemma setCount_fields {state : ParserState} {fields later : List JsonField} {kind : JsonKind} {text : List Char}
    (h : state.fields = fields ++ [⟨path,kind,text⟩] ++ later) (count : ℕ) :
    state.setCount fields.length count = ⟨state.text,fields ++ ⟨path,kind,(toString count).toList⟩ :: later⟩ := by
  rw [ParserState.setCount,h,List.append_assoc,List.singleton_append,modify_append]

lemma array_sound {read : List Char → ParserState → Option ParserState} (hread : Sound levels read)
    {state taken : ParserState} (h : array read path state = some taken) : taken.fields.length ≤ maxJsonFields ∧
      ∃ values text, ArrayText (ValueText levels) values text ∧ '[' :: state.text = text ++ taken.text ∧
        taken.fields = state.fields ++ flatten path (.array values) := by
  unfold array at h
  dsimp only at h
  split at h
  · cases h
  rename_i added hadd
  obtain ⟨hfew,rfl⟩ := add_sound hadd
  obtain ⟨blank,hblank,hstate⟩ := exists_blank state.text
  split at h
  · rename_i rest hclose
    cases h
    have hblanks : whitespace state.text = ']' :: rest := consume_eq_some_iff.mp hclose
    rw [hblanks] at hstate
    refine ⟨hfew,[],_,⟨blank,rfl,Or.inl ⟨rfl,hblank⟩⟩,?_,?_⟩
    · rw [hstate]
      simp only [List.append_assoc,List.cons_append,List.nil_append]
    · rw [flatten,flattenElements]
      rfl
  · obtain ⟨⟨last,total⟩,hloop,hcount⟩ := Option.map_eq_some_iff.mp h
    obtain ⟨hfew,values,inner,hvalues,hinner,htotal,hfields⟩ := elements_sound hread hloop
    change last.setCount state.fields.length total = taken at hcount
    rw [setCount_fields hfields] at hcount
    subst hcount
    refine ⟨?_,values,_,⟨blank ++ inner,rfl,Or.inr (hvalues.blank hblank)⟩,?_,?_⟩
    · rw [hfields] at hfew
      simpa using hfew
    · rw [hstate,show whitespace state.text = _ from hinner]
      simp only [List.append_assoc,List.cons_append,List.nil_append]
    · rw [flatten,htotal,Nat.zero_add]

lemma object_sound {read : List Char → ParserState → Option ParserState} (hread : Sound levels read)
    {state taken : ParserState} (h : object read path state = some taken) : taken.fields.length ≤ maxJsonFields ∧
      ∃ all text, ObjectText (ValueText levels) all text ∧ '{' :: state.text = text ++ taken.text ∧
        taken.fields = state.fields ++ flatten path (.object all) := by
  unfold object at h
  dsimp only at h
  split at h
  · cases h
  rename_i added hadd
  obtain ⟨hfew,rfl⟩ := add_sound hadd
  obtain ⟨blank,hblank,hstate⟩ := exists_blank state.text
  split at h
  · rename_i rest hclose
    cases h
    have hblanks : whitespace state.text = '}' :: rest := consume_eq_some_iff.mp hclose
    rw [hblanks] at hstate
    refine ⟨hfew,[],_,⟨⟨blank,rfl,Or.inl ⟨rfl,hblank⟩⟩,List.forall_mem_nil _,List.nodup_nil⟩,?_,?_⟩
    · rw [hstate]
      simp only [List.append_assoc,List.cons_append,List.nil_append]
    · rw [flatten,flattenMembers]
      rfl
  · obtain ⟨⟨last,total⟩,hloop,hcount⟩ := Option.map_eq_some_iff.mp h
    obtain ⟨hfew,all,inner,hall,hinner,htotal,hfields,hvalids,hkeys,-⟩ := members_sound hread hloop
    change last.setCount state.fields.length total = taken at hcount
    rw [setCount_fields hfields] at hcount
    subst hcount
    refine ⟨?_,all,_,⟨⟨blank ++ inner,rfl,Or.inr (hall.blank hblank)⟩,hvalids,hkeys⟩,?_,?_⟩
    · rw [hfields] at hfew
      simpa using hfew
    · rw [hstate,show whitespace state.text = _ from hinner]
      simp only [List.append_assoc,List.cons_append,List.nil_append]
    · rw [flatten,htotal,Nat.zero_add]

/-- The parser takes only texts of the grammar. -/
theorem value_sound (levels : ℕ) : Sound levels (value levels) := by
  have hscalar : ∀ {levels : ℕ} {path : List Char} {state taken : ParserState},
      scalar path ⟨whitespace state.text,state.fields⟩ = some taken →
      taken.fields.length ≤ maxJsonFields ∧ ∃ blank json text, Blank blank ∧ ValueText levels json text ∧
        state.text = blank ++ (text ++ taken.text) ∧ taken.fields = state.fields ++ flatten path json := by
    intro levels path state taken h
    obtain ⟨blank,hblank,hstate⟩ := exists_blank state.text
    obtain ⟨hfew,json,text,hjson,htext,hfields⟩ := scalar_sound h
    exact ⟨hfew,blank,json,text,hblank,valueText_of_scalar hjson,hstate.trans (congrArg (blank ++ ·) htext),hfields⟩
  induction levels with
  | zero =>
    intro path state taken h
    unfold value at h
    dsimp only at h
    split at h
    · cases h
    split at h
    · cases h
    exact hscalar h
  | succ levels ih =>
    intro path state taken h
    obtain ⟨blank,hblank,hstate⟩ := exists_blank state.text
    unfold value at h
    dsimp only at h
    split at h
    · rename_i rest hopen
      obtain ⟨hfew,all,text,hall,htext,hfields⟩ := object_sound ih h
      rw [consume_eq_some_iff.mp hopen] at hstate
      exact ⟨hfew,blank,.object all,text,hblank,hall,hstate.trans (congrArg (blank ++ ·) htext),hfields⟩
    split at h
    · rename_i rest hopen
      obtain ⟨hfew,values,text,hvalues,htext,hfields⟩ := array_sound ih h
      rw [consume_eq_some_iff.mp hopen] at hstate
      exact ⟨hfew,blank,.array values,text,hblank,hvalues,hstate.trans (congrArg (blank ++ ·) htext),hfields⟩
    · exact hscalar h

end Taken

section Fronts
variable {levels : ℕ} {json : Json} {text rest : List Char}

lemma NumberText.front (h : NumberText text) :
    ∃ character later, text = character :: later ∧ (character = '-' ∨ character.isDigit = true) := by
  obtain ⟨sign,whole,fraction,exponent,hsign,hwhole,-,-,rfl⟩ := h
  obtain rfl | rfl := hsign
  · obtain rfl | ⟨⟨hne,hdigits⟩,-⟩ := hwhole
    · exact ⟨'0',_,rfl,Or.inr rfl⟩
    · obtain ⟨character,later,rfl⟩ := List.exists_cons_of_ne_nil hne
      exact ⟨character,_,rfl,Or.inr (hdigits character List.mem_cons_self)⟩
  · exact ⟨'-',_,rfl,Or.inl rfl⟩

/-- A character that begins a number is none of another kind. -/
lemma lead_ne {character other : Char} (h : character = '-' ∨ character.isDigit = true) (hminus : other ≠ '-')
    (hdigit : other.isDigit = false) : character ≠ other := by
  rintro rfl
  obtain hsame | hdigit' := h
  · exact hminus hsame
  · rw [hdigit] at hdigit'
    cases hdigit'

lemma lead_not_blank {character : Char} (h : character = '-' ∨ character.isDigit = true) :
    isBlank character = false := by
  have hspace := @lead_ne _ ' ' h (by decide) (by decide)
  have htab := @lead_ne _ '\t' h (by decide) (by decide)
  have hreturn := @lead_ne _ '\r' h (by decide) (by decide)
  have hfeed := @lead_ne _ '\n' h (by decide) (by decide)
  simp [isBlank,hspace,htab,hreturn,hfeed]

lemma ScalarText.front (h : ScalarText json text) : ∃ character later, text = character :: later ∧
    isBlank character = false ∧ character ≠ ']' ∧ character ≠ '{' ∧ character ≠ '[' := by
  cases json with
  | array values => exact h.elim
  | object members => exact h.elim
  | null => exact ⟨'n',_,h,by decide⟩
  | boolean truth =>
    cases truth with
    | false => exact ⟨'f',_,h,by decide⟩
    | true => exact ⟨'t',_,h,by decide⟩
  | number number =>
    obtain ⟨rfl,hnumber⟩ := h
    obtain ⟨character,later,htext,hlead⟩ := hnumber.front
    exact ⟨character,later,htext,lead_not_blank hlead,lead_ne hlead (by decide) (by decide),
      lead_ne hlead (by decide) (by decide),lead_ne hlead (by decide) (by decide)⟩
  | string meaning =>
    obtain ⟨body,-,rfl⟩ := h
    exact ⟨'"',_,rfl,by decide⟩

lemma ValueText.front (h : ValueText levels json text) :
    ∃ character later, text = character :: later ∧ isBlank character = false ∧ character ≠ ']' := by
  obtain hscalar | ⟨lower,-,⟨values,-,inner,rfl,-⟩ | ⟨members,-,⟨inner,rfl,-⟩,-⟩⟩ := h.cases_levels
  · obtain ⟨character,later,htext,hblank,hclose,-⟩ := hscalar.front
    exact ⟨character,later,htext,hblank,hclose⟩
  · exact ⟨'[',_,rfl,by decide⟩
  · exact ⟨'{',_,rfl,by decide⟩

/-- A value that begins with a brace is an object. -/
lemma ValueText.object_of_brace {later : List Char} (h : ValueText levels json ('{' :: later)) :
    ∃ members, json = .object members := by
  obtain hscalar | ⟨lower,-,⟨values,-,inner,hinner,-⟩ | ⟨members,rfl,-⟩⟩ := h.cases_levels
  · obtain ⟨character,later,htext,-,-,hbrace,-⟩ := hscalar.front
    exact absurd (List.cons.inj htext).1.symm hbrace
  · cases hinner
  · exact ⟨members,rfl⟩

end Fronts

section Given
variable {levels : ℕ} {path rest : List Char} {fields : List JsonField}

/-- The text of a value after blanks is read to its end, and the fields of the value are added. -/
def Complete (levels : ℕ) (read : List Char → ParserState → Option ParserState) : Prop :=
  ∀ path fields blank json text rest, Blank blank → ValueText levels json text → Delimited rest → Fresh path fields →
    (fields ++ flatten path json).length ≤ maxJsonFields →
    read path ⟨blank ++ (text ++ rest),fields⟩ = some ⟨rest,fields ++ flatten path json⟩

lemma literal_of_ne {character expected : Char} (h : character ≠ expected) (more later : List Char) :
    literal (expected :: more) (character :: later) = none := by
  cases hliteral : literal (expected :: more) (character :: later) with
  | none => rfl
  | some rest => exact absurd (List.cons.inj (literal_eq_some_iff.mp hliteral)).1 h

lemma scalar_complete {json : Json} {text : List Char} (h : ScalarText json text) (hrest : Delimited rest)
    (hfew : (fields ++ flatten path json).length ≤ maxJsonFields) :
    scalar path ⟨text ++ rest,fields⟩ = some ⟨rest,fields ++ flatten path json⟩ := by
  have hadd : ParserState.add ⟨text ++ rest,fields⟩ path json.kind json.fieldText rest =
      some ⟨rest,fields ++ flatten path json⟩ := by
    rw [flatten_scalar h] at hfew ⊢
    rw [add_eq,within,if_pos hfew]
  cases json with
  | array values => exact h.elim
  | object members => exact h.elim
  | null =>
    obtain rfl := h
    exact hadd
  | boolean truth =>
    obtain rfl := h
    cases truth with
    | false => exact hadd
    | true => exact hadd
  | string meaning =>
    have hstring : string (text ++ rest) = some (meaning,rest) := string_eq_some_iff.mpr ⟨text,h,rfl⟩
    obtain ⟨body,-,rfl⟩ := h
    unfold scalar
    dsimp only
    rw [hstring]
    exact hadd
  | number number =>
    obtain ⟨rfl,hnumber⟩ := h
    have hread := number_complete hnumber hrest
    obtain ⟨character,later,rfl,hlead⟩ := hnumber.front
    unfold scalar
    dsimp only
    rw [hread,List.cons_append,consume_of_ne (lead_ne hlead (by decide) (by decide))]
    dsimp only
    rw [show "true".toList = 't' :: "rue".toList from rfl,show "false".toList = 'f' :: "alse".toList from rfl,
      show "null".toList = 'n' :: "ull".toList from rfl,literal_of_ne (lead_ne hlead (by decide) (by decide)),
      literal_of_ne (lead_ne hlead (by decide) (by decide)),literal_of_ne (lead_ne hlead (by decide) (by decide))]
    exact hadd

lemma Delimited.of_blank {blank rest : List Char} (h : Blank blank) (hrest : Delimited rest) :
    Delimited (blank ++ rest) := by
  cases blank with
  | nil => exact hrest
  | cons first blank =>
    intro character hcharacter
    cases hcharacter
    exact Or.inl (h first List.mem_cons_self)

lemma delimited_cons {character : Char} (h : character = ',' ∨ character = '}' ∨ character = ']') (rest : List Char) :
    Delimited (character :: rest) := by
  intro other hother
  cases hother
  exact Or.inr h

/-- What follows a value goes on at the sign after its blanks. -/
lemma consume_after {blank : List Char} (h : Blank blank) {sign expected : Char} (hsign : isBlank sign = false)
    (rest : List Char) :
    consume expected (whitespace (blank ++ sign :: rest)) = if sign = expected then some rest else none := by
  rw [whitespace_front h hsign]
  rfl

lemma Fresh.append {q : List Char} {later : List JsonField} (h : Fresh q fields) (hlater : Fresh q later) :
    Fresh q (fields ++ later) := List.forall_mem_append.mpr ⟨h,hlater⟩

/-- The loop over the elements reads all of their texts. -/
lemma elements_complete {read : List Char → ParserState → Option ParserState} (hread : Complete levels read)
    {values : List Json} {inner : List Char} (h : ElementsText (ValueText levels) values inner) {steps count : ℕ}
    (hsteps : values.length ≤ steps) (hfresh : ∀ i, count ≤ i → Fresh (elementPath path i) fields)
    (hfew : (fields ++ flattenElements path count values).length ≤ maxJsonFields) :
    elements read path steps count ⟨inner ++ ']' :: rest,fields⟩ =
      some (⟨rest,fields ++ flattenElements path count values⟩,count + values.length) := by
  induction h generalizing steps count fields with
  | @last json text before after blankBefore head blankAfter =>
    obtain ⟨more,rfl⟩ : ∃ more, steps = more + 1 := Nat.exists_eq_add_one.mpr hsteps
    rw [flattenElements,flattenElements,List.append_nil] at hfew ⊢
    have hdelimited : Delimited (after ++ ']' :: rest) :=
      Delimited.of_blank blankAfter (delimited_cons (Or.inr (Or.inr rfl)) rest)
    have hvalue := hread _ _ _ _ _ _ blankBefore head hdelimited (hfresh count (Nat.le_refl count)) hfew
    rw [elements]
    simp only [List.append_assoc]
    rw [hvalue]
    dsimp only
    rw [consume_after blankAfter (by decide)]
    rfl
  | @next json text before after values later blankBefore head blankAfter tail ih =>
    obtain ⟨more,rfl⟩ : ∃ more, steps = more + 1 := Nat.exists_eq_add_one.mpr (Nat.zero_lt_of_lt hsteps)
    rw [flattenElements,← List.append_assoc] at hfew ⊢
    have hdelimited : Delimited (after ++ ',' :: (later ++ ']' :: rest)) :=
      Delimited.of_blank blankAfter (delimited_cons (Or.inl rfl) _)
    have hvalue := hread _ _ _ _ _ _ blankBefore head hdelimited (hfresh count (Nat.le_refl count))
      (by rw [List.length_append] at hfew; omega)
    have hnext : ∀ i, count + 1 ≤ i → Fresh (elementPath path i) (fields ++ flatten (elementPath path count) json) := by
      intro i hi
      refine (hfresh i (by omega)).append fun field hfield hunder => ?_
      have hsame := under_elementPath hunder (flatten_under ⟨_,_,head⟩ _ field hfield)
      omega
    have hloop := ih (Nat.le_of_succ_le_succ hsteps) hnext hfew
    rw [elements]
    simp only [List.append_assoc,List.cons_append]
    rw [hvalue]
    dsimp only
    rw [consume_after blankAfter (by decide),consume_after blankAfter (by decide),if_neg (by decide),if_pos rfl]
    dsimp only
    rw [hloop,List.length_cons,Nat.add_assoc,Nat.add_comm 1,List.append_assoc]

/-- One turn of the loop over the members, up to the sign after the value. -/
lemma member_complete {read : List Char → ParserState → Option ParserState} (hread : Complete levels read)
    {member : List Char × Json} {text : List Char} {sign : Char} {later : List Char} {steps count : ℕ}
    (hmember : MemberText (ValueText levels) member text) (hsign : sign = ',' ∨ sign = '}')
    (hvalid : validKey member.1 = true) (hfresh : Fresh (childPath path member.1) fields)
    (hfew : (fields ++ flatten (childPath path member.1) member.2).length ≤ maxJsonFields) :
    members read path (steps + 1) count ⟨text ++ sign :: later,fields⟩ =
      if sign = '}' then some (⟨later,fields ++ flatten (childPath path member.1) member.2⟩,count + 1)
      else members read path steps (count + 1) ⟨later,fields ++ flatten (childPath path member.1) member.2⟩ := by
  cases hmember with
  | @mk key json name text before colon value after blankBefore named blankColon blankValue head blankAfter =>
    have hdelimited : Delimited (after ++ sign :: later) :=
      Delimited.of_blank blankAfter (delimited_cons (by tauto) later)
    have hvalue := hread _ _ _ _ _ _ blankValue head hdelimited hfresh hfew
    have hkey : string (whitespace (before ++
        (name ++ (colon ++ ':' :: (value ++ (text ++ (after ++ sign :: later))))))) =
        some (key,colon ++ ':' :: (value ++ (text ++ (after ++ sign :: later)))) := by
      obtain ⟨body,hbody,rfl⟩ := named
      rw [List.cons_append,whitespace_front blankBefore (by decide)]
      exact string_eq_some_iff.mpr ⟨_,⟨body,hbody,rfl⟩,rfl⟩
    have hblank : isBlank sign = false := by
      obtain rfl | rfl := hsign <;> rfl
    rw [members]
    simp only [List.append_assoc,List.cons_append]
    rw [hkey]
    dsimp only
    rw [hvalid,consume_after blankColon (by decide),if_pos rfl]
    dsimp only
    rw [any_path hfresh,hvalue]
    dsimp only
    rw [consume_after blankAfter hblank,consume_after blankAfter hblank]
    obtain rfl | rfl := hsign <;> rfl

/-- The loop over the members reads all of their texts, when none of them is named before. -/
lemma members_complete {read : List Char → ParserState → Option ParserState} (hread : Complete levels read)
    {all : List (List Char × Json)} {inner : List Char} (h : MembersText (ValueText levels) all inner) {steps count : ℕ}
    (hsteps : all.length ≤ steps) (hvalid : ∀ member ∈ all, validKey member.1 = true)
    (hkeys : (all.map Prod.fst).Nodup) (hfresh : ∀ member ∈ all, Fresh (childPath path member.1) fields)
    (hfew : (fields ++ flattenMembers path all).length ≤ maxJsonFields) :
    members read path steps count ⟨inner ++ '}' :: rest,fields⟩ =
      some (⟨rest,fields ++ flattenMembers path all⟩,count + all.length) := by
  induction h generalizing steps count fields with
  | @last member text head =>
    obtain ⟨more,rfl⟩ : ∃ more, steps = more + 1 := Nat.exists_eq_add_one.mpr hsteps
    rw [flattenMembers,flattenMembers,List.append_nil] at hfew ⊢
    rw [member_complete hread head (Or.inr rfl) (hvalid _ List.mem_cons_self) (hfresh _ List.mem_cons_self) hfew,
      if_pos rfl]
    rfl
  | @next member text all later head tail ih =>
    obtain ⟨more,rfl⟩ : ∃ more, steps = more + 1 := Nat.exists_eq_add_one.mpr (Nat.zero_lt_of_lt hsteps)
    obtain ⟨hvalid,hvalids⟩ := List.forall_mem_cons.mp hvalid
    obtain ⟨hfirst,hfresh⟩ := List.forall_mem_cons.mp hfresh
    obtain ⟨hkey,hkeys⟩ := List.nodup_cons.mp hkeys
    rw [flattenMembers,← List.append_assoc] at hfew ⊢
    have hwritten : member.2.Written := by
      obtain ⟨text,htext⟩ := (MembersText.last head).forall member List.mem_cons_self
      exact ⟨levels,text,htext⟩
    have hnext : ∀ other ∈ all, Fresh (childPath path other.1) (fields ++
        flatten (childPath path member.1) member.2) := by
      intro other hother
      refine (hfresh other hother).append fun field hfield hunder => hkey ?_
      rw [under_childPath hvalid (hvalids other hother) (flatten_under hwritten _ field hfield) hunder]
      exact List.mem_map_of_mem hother
    have hloop := @ih _ more (count + 1) (Nat.le_of_succ_le_succ hsteps) hvalids hkeys hnext hfew
    rw [List.append_assoc,List.cons_append,member_complete hread head (Or.inl rfl) hvalid hfirst
      (by rw [List.length_append] at hfew; omega),if_neg (by decide),hloop,List.length_cons,Nat.add_assoc,
        Nat.add_comm 1]

/-- Without the blanks before them, elements begin with the first value. -/
lemma ElementsText.trim {values : List Json} {inner : List Char} (h : ElementsText (ValueText levels) values inner) :
    ∃ blank trimmed, Blank blank ∧ inner = blank ++ trimmed ∧ ElementsText (ValueText levels) values trimmed ∧
      ∃ character later, trimmed = character :: later ∧ isBlank character = false ∧ character ≠ ']' := by
  have hnil : Blank [] := List.forall_mem_nil _
  cases h with
  | @last json text before after blankBefore head blankAfter =>
    obtain ⟨character,later,htext,hblank,hclose⟩ := head.front
    exact ⟨before,_,blankBefore,rfl,.last hnil head blankAfter,character,later ++ after,by rw [htext]; rfl,
      hblank,hclose⟩
  | @next json text before after values rest blankBefore head blankAfter tail =>
    obtain ⟨character,later,htext,hblank,hclose⟩ := head.front
    exact ⟨before,_,blankBefore,rfl,.next hnil head blankAfter tail,character,_,by rw [htext]; rfl,hblank,hclose⟩

/-- Without the blanks before them, members begin with the quote of the first name. -/
lemma MembersText.trim {all : List (List Char × Json)} {inner : List Char}
    (h : MembersText (ValueText levels) all inner) :
    ∃ blank later, Blank blank ∧ inner = blank ++ '"' :: later ∧ MembersText (ValueText levels) all ('"' :: later) := by
  have hone : ∀ {member : List Char × Json} {text : List Char}, MemberText (ValueText levels) member text →
      ∃ blank later, Blank blank ∧ text = blank ++
        '"' :: later ∧ MemberText (ValueText levels) member ('"' :: later) := by
    intro member text hmember
    cases hmember with
    | mk blankBefore named blankColon blankValue head blankAfter =>
      obtain ⟨body,hbody,rfl⟩ := named
      exact ⟨_,_,blankBefore,rfl,.mk (List.forall_mem_nil _) ⟨body,hbody,rfl⟩ blankColon blankValue head blankAfter⟩
  cases h with
  | last head =>
    obtain ⟨blank,later,hblank,rfl,hmember⟩ := hone head
    exact ⟨blank,later,hblank,rfl,.last hmember⟩
  | @next member text members rest head tail =>
    obtain ⟨blank,later,hblank,rfl,hmember⟩ := hone head
    exact ⟨blank,later ++ ',' :: rest,hblank,List.append_assoc _ _ _,.next hmember tail⟩

lemma ElementsText.length_le {values : List Json} {inner : List Char}
    (h : ElementsText (ValueText levels) values inner) :
    values.length ≤ inner.length := by
  induction h with
  | last _ head _ =>
    obtain ⟨character,later,rfl,-⟩ := head.front
    simp only [List.length_append,List.length_cons,List.length_nil]
    omega
  | next _ head _ _ ih =>
    simp only [List.length_append,List.length_cons]
    omega

lemma MembersText.length_le {all : List (List Char × Json)} {inner : List Char}
    (h : MembersText (ValueText levels) all inner) : all.length ≤ inner.length := by
  induction h with
  | last head =>
    cases head
    simp only [List.length_append,List.length_cons,List.length_nil]
    omega
  | next head _ ih =>
    simp only [List.length_append,List.length_cons]
    omega

lemma array_complete {read : List Char → ParserState → Option ParserState} (hread : Complete levels read)
    {values : List Json} {text : List Char} (h : ArrayText (ValueText levels) values ('[' :: text))
    (hfresh : Fresh path fields) (hfew : (fields ++ flatten path (.array values)).length ≤ maxJsonFields) :
    array read path ⟨text ++ rest,fields⟩ = some ⟨rest,fields ++ flatten path (.array values)⟩ := by
  obtain ⟨inner,hinner,hvalues⟩ := h
  obtain rfl := (List.cons.inj hinner).2
  rw [flatten] at hfew ⊢
  have hadd : ∀ later : List Char, ParserState.add ⟨inner ++ [']'] ++ rest,fields⟩ path .array "0".toList later =
      some ⟨later,fields ++ [⟨path,.array,"0".toList⟩]⟩ := by
    intro later
    have hroom : (fields ++ [(⟨path,.array,"0".toList⟩ : JsonField)]).length ≤ maxJsonFields := by
      rw [List.length_append,List.length_cons] at hfew
      rw [List.length_append,List.length_singleton]
      omega
    rw [add_eq,within,if_pos hroom]
  unfold array
  dsimp only
  rw [hadd]
  dsimp only
  rw [List.append_assoc,List.singleton_append]
  obtain ⟨rfl,hblank⟩ | hvalues := hvalues
  · rw [consume_after hblank (by decide),if_pos rfl,flattenElements]
    rfl
  · obtain ⟨blank,trimmed,hblank,rfl,hvalues,character,later,htrimmed,hcharacter,hclose⟩ := hvalues.trim
    have hwhite : whitespace (blank ++ trimmed ++ ']' :: rest) = trimmed ++ ']' :: rest := by
      rw [List.append_assoc,htrimmed,List.cons_append,whitespace_front hblank hcharacter]
    have hopen : consume ']' (trimmed ++ ']' :: rest) = none := by
      rw [htrimmed,List.cons_append,consume_of_ne hclose]
    have hentry : ∀ i, 0 ≤ i → Fresh (elementPath path i) (fields ++ [⟨path,.array,"0".toList⟩]) := by
      intro i _
      refine Fresh.append (fun field hfield hunder => hfresh field hfield hunder.of_element) ?_
      exact List.forall_mem_singleton.mpr (not_under_parent_element path i)
    have hlength : values.length ≤ (trimmed ++ ']' :: rest).length := by
      have hless := hvalues.length_le
      rw [List.length_append]
      omega
    have hloop := @elements_complete levels path rest _ read hread values _ hvalues _ 0 hlength hentry
      (by simpa using hfew)
    rw [hwhite,hopen]
    dsimp only
    rw [hloop,Option.map_some,Nat.zero_add]
    dsimp only
    rw [setCount_fields rfl]

lemma object_complete {read : List Char → ParserState → Option ParserState} (hread : Complete levels read)
    {all : List (List Char × Json)} {text : List Char} (h : ObjectText (ValueText levels) all ('{' :: text))
    (hfresh : Fresh path fields) (hfew : (fields ++ flatten path (.object all)).length ≤ maxJsonFields) :
    object read path ⟨text ++ rest,fields⟩ = some ⟨rest,fields ++ flatten path (.object all)⟩ := by
  obtain ⟨⟨inner,hinner,hall⟩,hvalid,hkeys⟩ := h
  obtain rfl := (List.cons.inj hinner).2
  rw [flatten] at hfew ⊢
  have hadd : ∀ later : List Char, ParserState.add ⟨inner ++ ['}'] ++ rest,fields⟩ path .object "0".toList later =
      some ⟨later,fields ++ [⟨path,.object,"0".toList⟩]⟩ := by
    intro later
    have hroom : (fields ++ [(⟨path,.object,"0".toList⟩ : JsonField)]).length ≤ maxJsonFields := by
      rw [List.length_append,List.length_cons] at hfew
      rw [List.length_append,List.length_singleton]
      omega
    rw [add_eq,within,if_pos hroom]
  unfold object
  dsimp only
  rw [hadd]
  dsimp only
  rw [List.append_assoc,List.singleton_append]
  obtain ⟨rfl,hblank⟩ | hall := hall
  · rw [consume_after hblank (by decide),if_pos rfl,flattenMembers]
    rfl
  · obtain ⟨blank,later,hblank,rfl,htrim⟩ := hall.trim
    have hwhite : whitespace (blank ++ '"' :: later ++ '}' :: rest) = '"' :: later ++ '}' :: rest := by
      rw [List.append_assoc,List.cons_append,whitespace_front hblank (by decide)]
    have hentry : ∀ member ∈ all, Fresh (childPath path member.1) (fields ++ [⟨path,.object,"0".toList⟩]) := by
      intro member hmember
      refine Fresh.append (fun field hfield hunder => hfresh field hfield (hunder.of_child (hvalid member hmember))) ?_
      exact List.forall_mem_singleton.mpr (not_under_parent (hvalid member hmember))
    have hlength : all.length ≤ ('"' :: later ++ '}' :: rest).length := by
      have hless := htrim.length_le
      rw [List.length_append]
      omega
    have hloop := @members_complete levels path rest _ read hread all _ htrim _ 0 hlength hvalid hkeys hentry
      (by simpa using hfew)
    rw [hwhite,show consume '}' ('"' :: later ++ '}' :: rest) = none from rfl]
    dsimp only
    rw [hloop,Option.map_some,Nat.zero_add]
    dsimp only
    rw [setCount_fields rfl]

/-- The parser takes every text of the grammar, as far as its fields are not too many. -/
theorem value_complete (levels : ℕ) : Complete levels (value levels) := by
  have hscalar : ∀ {levels : ℕ} {path : List Char} {fields : List JsonField} {blank : List Char} {json : Json}
      {text rest : List Char}, Blank blank → ScalarText json text → Delimited rest →
      (fields ++ flatten path json).length ≤ maxJsonFields →
      value levels path ⟨blank ++ (text ++ rest),fields⟩ = some ⟨rest,fields ++ flatten path json⟩ := by
    intro levels path fields blank json text rest hblank hjson hrest hfew
    have hread := scalar_complete hjson hrest hfew
    obtain ⟨character,later,rfl,hcharacter,-,hbrace,hbracket⟩ := hjson.front
    cases levels with
    | zero =>
      unfold value
      dsimp only
      rw [List.cons_append,whitespace_front hblank hcharacter,consume_of_ne hbrace,consume_of_ne hbracket]
      exact hread
    | succ levels =>
      unfold value
      dsimp only
      rw [List.cons_append,whitespace_front hblank hcharacter,consume_of_ne hbrace,consume_of_ne hbracket]
      exact hread
  induction levels with
  | zero => exact fun path fields blank json text rest hblank hjson hrest _ hfew => hscalar hblank hjson hrest hfew
  | succ levels ih =>
    intro path fields blank json text rest hblank hjson hrest hfresh hfew
    obtain h | ⟨lower,hlevels,⟨values,rfl,h⟩ | ⟨all,rfl,h⟩⟩ := hjson.cases_levels
    · exact hscalar hblank h hrest hfew
    · cases hlevels
      obtain ⟨inner,rfl,hinner⟩ := h
      unfold value
      dsimp only
      rw [List.cons_append,whitespace_front hblank (by decide)]
      exact array_complete ih ⟨inner,rfl,hinner⟩ hfresh hfew
    · cases hlevels
      obtain ⟨⟨inner,rfl,hinner⟩,hvalid,hkeys⟩ := h
      unfold value
      dsimp only
      rw [List.cons_append,whitespace_front hblank (by decide)]
      exact object_complete ih ⟨⟨inner,rfl,hinner⟩,hvalid,hkeys⟩ hfresh hfew

end Given

/-- What is accepted is a text of the grammar within the limits, and the fields are those of its object. -/
theorem parseJsonFields_eq_some_iff {text : List Char} {fields : List JsonField} : parseJsonFields text = some fields ↔
    text.length ≤ maxJsonBytes ∧ ∃ members, DocumentText members text ∧ fields = flatten [] (.object members) := by
  unfold parseJsonFields
  constructor
  · intro h
    split_ifs at h with hlarge
    split at h
    · cases h
    rename_i body hopen
    split at h
    · cases h
    rename_i last hvalue
    split_ifs at h with hend
    cases h
    obtain ⟨before,hbefore,htext⟩ := exists_blank text
    obtain ⟨after,hafter,hlast⟩ := exists_blank last.text
    obtain ⟨hfew,blank,json,inner,hblank,hjson,hinner,hfields⟩ := value_sound maxJsonDepth _ _ _ hvalue
    change whitespace text = blank ++ (inner ++ last.text) at hinner
    rw [hend,List.append_nil] at hlast
    rw [consume_eq_some_iff.mp hopen] at hinner
    cases blank with
    | cons first blank =>
      have hfirst := hblank first List.mem_cons_self
      rw [← (List.cons.inj hinner).1] at hfirst
      cases hfirst
    | nil =>
      obtain ⟨character,later,rfl,-⟩ := hjson.front
      obtain rfl := (List.cons.inj hinner).1
      obtain ⟨members,rfl⟩ := hjson.object_of_brace
      refine ⟨Nat.le_of_not_lt hlarge,members,⟨before,_,after,hbefore,hafter,?_,hjson,?_⟩,hfields⟩
      · rw [htext,consume_eq_some_iff.mp hopen,hinner,hlast,List.nil_append]
      · rw [hfields] at hfew
        exact hfew
  · rintro ⟨hsize,members,⟨before,body,after,hbefore,hafter,rfl,hbody,hfew⟩,rfl⟩
    obtain ⟨⟨inner,hinner,-⟩,-⟩ := id hbody
    have hwhite : whitespace (before ++ (body ++ after)) = body ++ after := by
      rw [hinner,List.cons_append,whitespace_front hbefore (by decide)]
    have hdelimited : Delimited after :=
      fun character hcharacter => Or.inl (hafter character (List.mem_of_mem_head? hcharacter))
    have hread := value_complete maxJsonDepth [] [] [] _ body after (List.forall_mem_nil _) hbody hdelimited
      (List.forall_mem_nil _) hfew
    rw [List.nil_append,List.nil_append] at hread
    rw [if_neg (Nat.not_lt.mpr hsize),hwhite,hread]
    dsimp only
    rw [if_pos (whitespace_blank hafter),hinner]
    rfl

/-- The parser accepts the texts of the grammar alone; the fields of an object are all that is in it, each at the path
of the steps to it and with its kind and its text, and no path is that of two fields. -/
theorem parseJsonFields_grammar (text : List Char) :
    (∀ fields, parseJsonFields text = some fields ↔
      text.length ≤ maxJsonBytes ∧ ∃ members, DocumentText members text ∧ fields = flatten [] (.object members)) ∧
      ∀ members, DocumentText members text → ((flatten [] (.object members)).map JsonField.path).Nodup ∧
        ∀ field, field ∈ flatten [] (.object members) ↔ ∃ steps inner, (Json.object members).at steps = some inner ∧
          field = ⟨pathOf [] steps,inner.kind,inner.fieldText⟩ := by
  refine ⟨fun fields => parseJsonFields_eq_some_iff,fun members hdocument => ?_⟩
  obtain ⟨before,body,after,-,-,-,hbody,-⟩ := hdocument
  have hwritten : (Json.object members).Written := ⟨_,_,hbody⟩
  exact ⟨nodup_flatten hwritten [],fun field => mem_flatten_iff hwritten []⟩

end AytherRuntime.Probe
