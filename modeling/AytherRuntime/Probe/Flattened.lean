import AytherRuntime.Probe.Nested
import AytherRuntime.Probe.Grammar
import Mathlib.Data.List.Nodup

/-! The fields of a value of the grammar: they are the values that are in it, each at the path of the steps to it, and
no two of them have one path. -/
namespace AytherRuntime.Probe

section Trees
variable {levels : ℕ} {json : Json} {text path : List Char}

lemma valueText_of_scalar (h : ScalarText json text) : ValueText levels json text := by
  cases levels with
  | zero => exact h
  | succ levels => cases json <;> first | exact h | exact h.elim

/-- A value is a scalar, or an array or an object of values that nest less. -/
lemma ValueText.cases_levels (h : ValueText levels json text) : ScalarText json text ∨
    ∃ lower, levels = lower + 1 ∧
      ((∃ values, json = .array values ∧ ArrayText (ValueText lower) values text) ∨
        ∃ members, json = .object members ∧ ObjectText (ValueText lower) members text) := by
  cases levels with
  | zero => exact Or.inl h
  | succ lower =>
    cases json with
    | array values => exact Or.inr ⟨lower,rfl,Or.inl ⟨values,rfl,h⟩⟩
    | object members => exact Or.inr ⟨lower,rfl,Or.inr ⟨members,rfl,h⟩⟩
    | null => exact Or.inl h
    | boolean truth => exact Or.inl h
    | number number => exact Or.inl h
    | string meaning => exact Or.inl h

lemma flatten_scalar (h : ScalarText json text) (path : List Char) :
    flatten path json = [⟨path,json.kind,json.fieldText⟩] := by
  cases json with
  | array values => exact h.elim
  | object members => exact h.elim
  | null => rw [flatten]; rfl
  | boolean truth => rw [flatten]; rfl
  | number number => rw [flatten]; rfl
  | string meaning => rw [flatten]; rfl

lemma flatten_head (path : List Char) (json : Json) :
    ∃ later, flatten path json = ⟨path,json.kind,json.fieldText⟩ :: later := by
  cases json with
  | null => exact ⟨[],by rw [flatten]; rfl⟩
  | boolean truth => exact ⟨[],by rw [flatten]; rfl⟩
  | number number => exact ⟨[],by rw [flatten]; rfl⟩
  | string meaning => exact ⟨[],by rw [flatten]; rfl⟩
  | array values => exact ⟨_,by rw [flatten]; rfl⟩
  | object members => exact ⟨_,by rw [flatten]; rfl⟩

lemma ElementsText.forall {V : Json → List Char → Prop} {values : List Json} (h : ElementsText V values text) :
    ∀ json ∈ values, ∃ text, V json text := by
  induction h with
  | last _ head _ => exact fun json hjson => List.mem_singleton.mp hjson ▸ ⟨_,head⟩
  | next _ head _ _ ih => exact List.forall_mem_cons.mpr ⟨⟨_,head⟩,ih⟩

lemma MembersText.forall {V : Json → List Char → Prop} {members : List (List Char × Json)}
    (h : MembersText V members text) : ∀ member ∈ members, ∃ text, V member.2 text := by
  have hone : ∀ {member : List Char × Json} {text : List Char}, MemberText V member text → ∃ text, V member.2 text := by
    intro member text hmember
    cases hmember with
    | mk _ _ _ _ head _ => exact ⟨_,head⟩
  induction h with
  | last head => exact fun member hmember => List.mem_singleton.mp hmember ▸ hone head
  | next head _ ih => exact List.forall_mem_cons.mpr ⟨hone head,ih⟩

/-- Some text of the grammar has the value. -/
def Json.Written (json : Json) : Prop := ∃ levels text, ValueText levels json text

/-- What holds of the scalars, and of arrays and objects with what is in them, holds of every value of the grammar. -/
theorem Json.Written.induction {motive : Json → Prop}
    (scalar : ∀ {json text}, ScalarText json text → motive json)
    (array : ∀ values : List Json, (∀ json ∈ values, json.Written ∧ motive json) → motive (.array values))
    (object : ∀ members : List (List Char × Json), (∀ member ∈ members, validKey member.1 = true) →
      (members.map Prod.fst).Nodup → (∀ member ∈ members, member.2.Written ∧ motive member.2) →
        motive (.object members))
    (h : json.Written) : motive json := by
  obtain ⟨levels,text,h⟩ := h
  induction levels generalizing json text with
  | zero => exact scalar h
  | succ levels ih =>
    obtain hscalar | ⟨lower,hlevels,hnested⟩ := h.cases_levels
    · exact scalar hscalar
    cases hlevels
    obtain ⟨values,rfl,inner,-,hinner⟩ | ⟨members,rfl,⟨inner,-,hinner⟩,hvalid,hkeys⟩ := hnested
    · apply array
      obtain ⟨rfl,-⟩ | helements := hinner
      · exact List.forall_mem_nil _
      · intro json hjson
        obtain ⟨text,htext⟩ := helements.forall json hjson
        exact ⟨⟨levels,text,htext⟩,ih text htext⟩
    · apply object members hvalid hkeys
      obtain ⟨rfl,-⟩ | hmembers := hinner
      · exact List.forall_mem_nil _
      · intro member hmember
        obtain ⟨text,htext⟩ := hmembers.forall member hmember
        exact ⟨⟨levels,text,htext⟩,ih text htext⟩

end Trees

section ElementPaths
variable {path q : List Char} {i j : ℕ}

lemma elementPath_append (path : List Char) (i : ℕ) (later : List Char) :
    elementPath path i ++ later = path ++ '[' :: (Nat.toDigits 10 i ++ ']' :: later) := by
  simp [elementPath]

lemma elementPath_ne_nil (path : List Char) (i : ℕ) : elementPath path i ≠ [] :=
  List.append_ne_nil_of_right_ne_nil _ (List.cons_ne_nil _ _)

lemma Under.of_element (h : Under (elementPath path i) q) : Under path q := by
  obtain hnil | ⟨later,hlater,-⟩ := h
  · exact absurd hnil (elementPath_ne_nil path i)
  · rw [elementPath_append] at hlater
    exact Or.inr ⟨_,hlater,Or.inr (Or.inr rfl)⟩

lemma not_under_parent_element (path : List Char) (i : ℕ) : ¬Under (elementPath path i) path := by
  rintro (hnil | ⟨later,hlater,-⟩)
  · exact elementPath_ne_nil path i hnil
  · have hlength := congrArg List.length hlater
    rw [elementPath_append,List.length_append,List.length_cons] at hlength
    omega

/-- What is under an element's path tells the element. -/
lemma under_elementPath (h : Under (elementPath path i) q) (h' : Under (elementPath path j) q) : i = j := by
  have htake : ∀ (k : ℕ) (later : List Char),
      (Nat.toDigits 10 k ++ ']' :: later).takeWhile Char.isDigit = Nat.toDigits 10 k := by
    intro k later
    have hdigits : ∀ character ∈ Nat.toDigits 10 k, character.isDigit = true :=
      fun character hmem => Nat.isDigit_of_mem_toDigits (by decide) (by decide) hmem
    rw [List.takeWhile_append_of_pos hdigits]
    exact List.append_nil _
  obtain hnil | ⟨later,hlater,-⟩ := h
  · exact absurd hnil (elementPath_ne_nil path i)
  obtain hnil | ⟨later',hlater',-⟩ := h'
  · exact absurd hnil (elementPath_ne_nil path j)
  rw [elementPath_append] at hlater hlater'
  have hsame := (List.cons.inj (List.append_cancel_left (hlater.symm.trans hlater'))).2
  have hdigits : Nat.toDigits 10 i = Nat.toDigits 10 j := by
    rw [← htake i later,hsame,htake j later']
  rw [← Nat.ofDigitChars_toDigits (b := 10) (n := i) (by decide) (by decide),hdigits,
    Nat.ofDigitChars_toDigits (by decide) (by decide)]

end ElementPaths

section Paths
variable {levels : ℕ} {path text : List Char} {json : Json} {field : JsonField}

lemma mem_flattenElements_iff {index : ℕ} {values : List Json} : field ∈ flattenElements path index values ↔
    ∃ i json, values[i]? = some json ∧ field ∈ flatten (elementPath path (index + i)) json := by
  induction values generalizing index with
  | nil =>
    rw [flattenElements]
    exact ⟨fun h => absurd h List.not_mem_nil,fun ⟨i,json,hjson,_⟩ => by cases hjson⟩
  | cons first values ih =>
    rw [flattenElements,List.mem_append,ih]
    constructor
    · rintro (hfirst | ⟨i,json,hjson,hfield⟩)
      · exact ⟨0,first,rfl,hfirst⟩
      · exact ⟨i + 1,json,hjson,by rwa [Nat.add_comm i 1,← Nat.add_assoc]⟩
    · rintro ⟨_ | i,json,hjson,hfield⟩
      · cases hjson
        exact Or.inl hfield
      · exact Or.inr ⟨i,json,hjson,by rwa [Nat.add_assoc,Nat.add_comm 1 i]⟩

lemma mem_flattenMembers_iff {members : List (List Char × Json)} : field ∈ flattenMembers path members ↔
    ∃ member ∈ members, field ∈ flatten (childPath path member.1) member.2 := by
  induction members with
  | nil =>
    rw [flattenMembers]
    exact ⟨fun h => absurd h List.not_mem_nil,fun ⟨member,hmember,_⟩ => absurd hmember List.not_mem_nil⟩
  | cons first members ih => rw [flattenMembers,List.mem_append,ih,List.exists_mem_cons_iff]

/-- The fields of a value are under its path. -/
theorem flatten_under (h : json.Written) (path : List Char) : ∀ field ∈ flatten path json, Under path field.path := by
  revert path
  apply h.induction
  · intro json text hscalar path field hfield
    rw [flatten_scalar hscalar,List.mem_singleton] at hfield
    exact hfield ▸ under_self path
  · intro values ih path field hfield
    rw [flatten,List.mem_cons,mem_flattenElements_iff] at hfield
    obtain rfl | ⟨i,json,hjson,hfield⟩ := hfield
    · exact under_self path
    · exact ((ih json (List.mem_of_getElem? hjson)).2 _ field hfield).of_element
  · intro members hvalid _ ih path field hfield
    rw [flatten,List.mem_cons,mem_flattenMembers_iff] at hfield
    obtain rfl | ⟨member,hmember,hfield⟩ := hfield
    · exact under_self path
    · exact ((ih member hmember).2 _ field hfield).of_child (hvalid member hmember)

lemma flattenElements_under {values : List Json} (h : ∀ json ∈ values, json.Written) {index : ℕ}
    (hfield : field ∈ flattenElements path index values) : ∃ i, index ≤ i ∧ Under (elementPath path i) field.path := by
  obtain ⟨i,json,hjson,hfield⟩ := mem_flattenElements_iff.mp hfield
  exact ⟨index + i,Nat.le_add_right _ _,flatten_under (h json (List.mem_of_getElem? hjson)) _ field hfield⟩

lemma flattenMembers_under {members : List (List Char × Json)} (h : ∀ member ∈ members, member.2.Written)
    (hfield : field ∈ flattenMembers path members) :
    ∃ member ∈ members, Under (childPath path member.1) field.path := by
  obtain ⟨member,hmember,hfield⟩ := mem_flattenMembers_iff.mp hfield
  exact ⟨member,hmember,flatten_under (h member hmember) _ field hfield⟩

lemma nodup_flattenElements {values : List Json} (hwritten : ∀ json ∈ values, json.Written)
    (hone : ∀ json ∈ values, ∀ path, ((flatten path json).map JsonField.path).Nodup) (path : List Char) (index : ℕ) :
    ((flattenElements path index values).map JsonField.path).Nodup := by
  induction values generalizing index with
  | nil =>
    rw [flattenElements]
    exact List.nodup_nil
  | cons first values ih =>
    obtain ⟨hfirst,hlater⟩ := List.forall_mem_cons.mp hwritten
    obtain ⟨hfirstNodup,hlaterNodup⟩ := List.forall_mem_cons.mp hone
    rw [flattenElements,List.map_append]
    refine (hfirstNodup _).append (ih hlater hlaterNodup (index + 1)) fun q hq hq' => ?_
    obtain ⟨field,hfield,rfl⟩ := List.mem_map.mp hq
    obtain ⟨other,hother,hsame⟩ := List.mem_map.mp hq'
    obtain ⟨i,hi,hunder⟩ := flattenElements_under hlater hother
    have hplace := under_elementPath (flatten_under hfirst _ field hfield) (hsame ▸ hunder)
    omega

lemma nodup_flattenMembers {members : List (List Char × Json)} (hvalid : ∀ member ∈ members, validKey member.1 = true)
    (hkeys : (members.map Prod.fst).Nodup) (hwritten : ∀ member ∈ members, member.2.Written)
    (hone : ∀ member ∈ members, ∀ path, ((flatten path member.2).map JsonField.path).Nodup) (path : List Char) :
    ((flattenMembers path members).map JsonField.path).Nodup := by
  induction members with
  | nil =>
    rw [flattenMembers]
    exact List.nodup_nil
  | cons first members ih =>
    obtain ⟨hfirst,hlater⟩ := List.forall_mem_cons.mp hwritten
    obtain ⟨hfirstNodup,hlaterNodup⟩ := List.forall_mem_cons.mp hone
    obtain ⟨hfirstValid,hlaterValid⟩ := List.forall_mem_cons.mp hvalid
    obtain ⟨hkey,hkeys⟩ := List.nodup_cons.mp hkeys
    rw [flattenMembers,List.map_append]
    refine (hfirstNodup _).append (ih hlaterValid hkeys hlater hlaterNodup) fun q hq hq' => hkey ?_
    obtain ⟨field,hfield,rfl⟩ := List.mem_map.mp hq
    obtain ⟨other,hother,hsame⟩ := List.mem_map.mp hq'
    obtain ⟨member,hmember,hunder⟩ := flattenMembers_under hlater hother
    rw [under_childPath hfirstValid (hlaterValid member hmember) (flatten_under hfirst _ field hfield) (hsame ▸ hunder)]
    exact List.mem_map_of_mem hmember

/-- No two fields of a value have one path. -/
theorem nodup_flatten (h : json.Written) (path : List Char) : ((flatten path json).map JsonField.path).Nodup := by
  revert path
  apply h.induction
  · intro json text hscalar path
    rw [flatten_scalar hscalar]
    exact List.nodup_singleton _
  · intro values ih path
    have hwritten := fun json hjson => (ih json hjson).1
    rw [flatten,List.map_cons,List.nodup_cons]
    refine ⟨fun hmem => ?_,nodup_flattenElements hwritten (fun json hjson => (ih json hjson).2) path 0⟩
    obtain ⟨field,hfield,hsame⟩ := List.mem_map.mp hmem
    obtain ⟨i,-,hunder⟩ := flattenElements_under hwritten hfield
    rw [hsame] at hunder
    exact not_under_parent_element path i hunder
  · intro members hvalid hkeys ih path
    have hwritten := fun member hmember => (ih member hmember).1
    rw [flatten,List.map_cons,List.nodup_cons]
    refine ⟨fun hmem => ?_,nodup_flattenMembers hvalid hkeys hwritten
      (fun member hmember => (ih member hmember).2) path⟩
    obtain ⟨field,hfield,hsame⟩ := List.mem_map.mp hmem
    obtain ⟨member,hmember,hunder⟩ := flattenMembers_under hwritten hfield
    rw [hsame] at hunder
    exact not_under_parent (hvalid member hmember) hunder

lemma at_object {members : List (List Char × Json)} (hkeys : (members.map Prod.fst).Nodup) {key : List Char}
    {steps : List Step} {inner : Json} : (Json.object members).at (.key key :: steps) = some inner ↔
      ∃ member ∈ members, member.1 = key ∧ member.2.at steps = some inner := by
  rw [Json.at,Option.bind_eq_some_iff]
  constructor
  · rintro ⟨json,hjson,hinner⟩
    obtain ⟨member,hfind,rfl⟩ := Option.map_eq_some_iff.mp hjson
    have hkey := List.find?_some hfind
    exact ⟨member,List.mem_of_find?_eq_some hfind,of_decide_eq_true hkey,hinner⟩
  · rintro ⟨member,hmember,rfl,hinner⟩
    refine ⟨member.2,Option.map_eq_some_iff.mpr ⟨member,?_,rfl⟩,hinner⟩
    cases hfind : members.find? fun other => other.1 = member.1 with
    | none => exact (List.find?_eq_none.mp hfind member hmember (decide_eq_true rfl)).elim
    | some other =>
      have hkey := List.find?_some hfind
      rw [List.inj_on_of_nodup_map hkeys (List.mem_of_find?_eq_some hfind) hmember (of_decide_eq_true hkey)]

/-- The fields of a value are those of the values that some steps lead to, each at the path of its steps. -/
theorem mem_flatten_iff (h : json.Written) (path : List Char) : field ∈ flatten path json ↔
    ∃ steps inner, json.at steps = some inner ∧ field = ⟨pathOf path steps,inner.kind,inner.fieldText⟩ := by
  revert path field
  apply h.induction
  · intro json text hscalar field path
    rw [flatten_scalar hscalar,List.mem_singleton]
    constructor
    · rintro rfl
      exact ⟨[],json,by rw [Json.at],rfl⟩
    · rintro ⟨_ | ⟨step,steps⟩,inner,hinner,rfl⟩
      · rw [Json.at] at hinner
        cases hinner
        rfl
      · cases json <;> first | exact hscalar.elim | (cases step <;> cases hinner)
  · intro values ih field path
    rw [flatten,List.mem_cons,mem_flattenElements_iff]
    constructor
    · rintro (rfl | ⟨i,json,hjson,hfield⟩)
      · exact ⟨[],.array values,by rw [Json.at],rfl⟩
      · obtain ⟨steps,inner,hinner,rfl⟩ := ((ih json (List.mem_of_getElem? hjson)).2 _).mp hfield
        rw [Nat.zero_add]
        exact ⟨.index i :: steps,inner,by rw [Json.at,hjson]; exact hinner,rfl⟩
    · rintro ⟨_ | ⟨step,steps⟩,inner,hinner,rfl⟩
      · rw [Json.at] at hinner
        cases hinner
        exact Or.inl rfl
      · cases step with
        | key key => cases hinner
        | index i =>
          rw [Json.at,Option.bind_eq_some_iff] at hinner
          obtain ⟨json,hjson,hinner⟩ := hinner
          refine Or.inr ⟨i,json,hjson,?_⟩
          rw [Nat.zero_add]
          exact ((ih json (List.mem_of_getElem? hjson)).2 _).mpr ⟨steps,inner,hinner,rfl⟩
  · intro members _ hkeys ih field path
    rw [flatten,List.mem_cons,mem_flattenMembers_iff]
    constructor
    · rintro (rfl | ⟨member,hmember,hfield⟩)
      · exact ⟨[],.object members,by rw [Json.at],rfl⟩
      · obtain ⟨steps,inner,hinner,rfl⟩ := ((ih member hmember).2 _).mp hfield
        exact ⟨.key member.1 :: steps,inner,(at_object hkeys).mpr ⟨member,hmember,rfl,hinner⟩,rfl⟩
    · rintro ⟨_ | ⟨step,steps⟩,inner,hinner,rfl⟩
      · rw [Json.at] at hinner
        cases hinner
        exact Or.inl rfl
      · cases step with
        | index i => cases hinner
        | key key =>
          obtain ⟨member,hmember,rfl,hreached⟩ := (at_object hkeys).mp hinner
          exact Or.inr ⟨member,hmember,((ih member hmember).2 _).mpr ⟨steps,inner,hreached,rfl⟩⟩

end Paths
end AytherRuntime.Probe
