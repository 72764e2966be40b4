import AytherRuntime.Probe.Reads

/-! Arrays of strings and objects that the writer prints read back as the fields of all that is in them, and each of
these is found under its own path. -/
namespace AytherRuntime.Probe

lemma modify_append (fields later : List JsonField) (field : JsonField) (change : JsonField → JsonField) :
    (fields ++ field :: later).modify fields.length change = fields ++ change field :: later := by
  induction fields with
  | nil => rfl
  | cons first fields ih => exact congrArg (first :: ·) ih

lemma within_none {state : ParserState} (h : within state = none) (rest : List Char) (later : List JsonField) :
    within ⟨rest,state.fields ++ later⟩ = none := by
  unfold within at h ⊢
  split_ifs at h with hfew
  rw [if_neg]
  rw [List.length_append]
  omega

lemma within_some {state other : ParserState} (h : within state = some other) :
    other = state ∧ state.fields.length ≤ maxJsonFields := by
  unfold within at h
  split_ifs at h with hfew
  exact ⟨(Option.some.inj h).symm,hfew⟩

/-- A collection that was read is given the number of its elements. -/
lemma map_setCount (rest path : List Char) (kind : JsonKind) (fields later : List JsonField) (count : ℕ) :
    ((within ⟨rest,fields ++ ⟨path,kind,"0".toList⟩ :: later⟩).map fun state => (state,count)).map
        (fun (state,count) => state.setCount fields.length count) =
      within ⟨rest,fields ++ ⟨path,kind,(toString count).toList⟩ :: later⟩ := by
  unfold within
  rw [List.length_append,List.length_append,List.length_cons,List.length_cons]
  split_ifs
  · have hset := modify_append fields later ⟨path,kind,"0".toList⟩ fun field =>
      { field with text := (toString count).toList }
    simp only [Option.map_some,ParserState.setCount]
    rw [hset]
  · rfl

section Arrays
variable {levels : ℕ} {path : List Char}

/-- The fields of the elements of an array of strings from one of its places on. -/
def elementsFlat (path : List Char) : ℕ → List (List Char) → List JsonField
  | _,[] => []
  | index,text :: texts => ⟨elementPath path index,.string,text⟩ :: elementsFlat path (index + 1) texts

def arrayFlat (texts : List (List Char)) (path : List Char) : List JsonField :=
  ⟨path,.array,(toString texts.length).toList⟩ :: elementsFlat path 0 texts

lemma length_elementsFlat (index : ℕ) (texts : List (List Char)) :
    (elementsFlat path index texts).length = texts.length := by
  induction texts generalizing index with
  | nil => rfl
  | cons text texts ih => exact congrArg Nat.succ (ih (index + 1))

/-- The elements of an array with what ends it. -/
def elementsText (rest : List Char) : List (List Char) → List Char
  | [] => ']' :: rest
  | [text] => jsonString text ++ ']' :: rest
  | text :: texts => jsonString text ++ ',' :: elementsText rest texts

lemma stringArray_eq (texts : List (List Char)) (rest : List Char) :
    stringArray texts ++ rest = '[' :: elementsText rest texts := by
  have helements : [','].intercalate (texts.map jsonString) ++ ']' :: rest = elementsText rest texts := by
    induction texts with
    | nil => rfl
    | cons text texts ih =>
      cases texts with
      | nil => simp [elementsText,List.intercalate]
      | cons other texts =>
        have hnext : [','].intercalate ((text :: other :: texts).map jsonString) =
            jsonString text ++ ',' :: [','].intercalate ((other :: texts).map jsonString) := by
          simp [List.intercalate]
        rw [hnext,List.append_assoc,List.cons_append,ih]
        rfl
  rw [← helements]
  simp [stringArray]

lemma elements_texts {text : List Char} {texts : List (List Char)} (rest : List Char) {fields : List JsonField}
    {steps : ℕ} (hsteps : (text :: texts).length ≤ steps) (count : ℕ) :
    elements (value levels) path steps count ⟨elementsText rest (text :: texts),fields⟩ =
      (within ⟨rest,fields ++ elementsFlat path count (text :: texts)⟩).map
        fun state => (state,count + (text :: texts).length) := by
  induction texts generalizing text fields steps count with
  | nil =>
    obtain ⟨more,rfl⟩ : ∃ more, steps = more + 1 := ⟨steps - 1,by rw [List.length_singleton] at hsteps; omega⟩
    unfold elements
    rw [show elementsText rest [text] = jsonString text ++ ']' :: rest from rfl,value_string]
    cases hwithin : within ⟨']' :: rest,fields ++ [⟨elementPath path count,.string,text⟩]⟩ with
    | none =>
      have hnone : within ⟨rest,fields ++ elementsFlat path count [text]⟩ = none := by
        have hlast := within_none hwithin rest []
        rw [List.append_nil] at hlast
        exact hlast
      rw [hnone]
      rfl
    | some state =>
      obtain ⟨rfl,hfew⟩ := within_some hwithin
      have hsome : within ⟨rest,fields ++ elementsFlat path count [text]⟩ =
          some ⟨rest,fields ++ elementsFlat path count [text]⟩ := if_pos hfew
      rw [hsome]
      rfl
  | cons other texts ih =>
    obtain ⟨more,rfl⟩ : ∃ more, steps = more + 1 := ⟨steps - 1,by rw [List.length_cons] at hsteps; omega⟩
    unfold elements
    rw [show elementsText rest (text :: other :: texts) = jsonString text ++ ',' :: elementsText rest (other :: texts)
      from rfl,value_string]
    cases hwithin : within ⟨',' :: elementsText rest (other :: texts),
        fields ++ [⟨elementPath path count,.string,text⟩]⟩ with
    | none =>
      have hnone : within ⟨rest,fields ++ elementsFlat path count (text :: other :: texts)⟩ = none := by
        have hlater := within_none hwithin rest (elementsFlat path (count + 1) (other :: texts))
        rw [List.append_assoc] at hlater
        exact hlater
      rw [hnone]
      rfl
    | some state =>
      obtain ⟨rfl,hfew⟩ := within_some hwithin
      have hrest := @ih other (fields ++ [⟨elementPath path count,.string,text⟩]) more
        (by rw [List.length_cons] at hsteps; omega) (count + 1)
      rw [List.append_assoc] at hrest
      have hcount : count + 1 + (other :: texts).length = count + (text :: other :: texts).length := by
        rw [List.length_cons (a := text)]
        omega
      rw [hcount] at hrest
      exact hrest

lemma whitespace_elementsText (rest : List Char) (texts : List (List Char)) :
    whitespace (elementsText rest texts) = elementsText rest texts := by
  cases texts with
  | nil => exact whitespace_cons (by decide)
  | cons text texts => cases texts <;> exact whitespace_cons (by decide)

lemma length_elementsText (rest : List Char) (texts : List (List Char)) :
    texts.length ≤ (elementsText rest texts).length := by
  induction texts with
  | nil => exact Nat.zero_le _
  | cons text texts ih =>
    cases texts with
    | nil =>
      simp only [elementsText,List.length_append,List.length_cons,List.length_nil]
      omega
    | cons other texts =>
      rw [show elementsText rest (text :: other :: texts) = jsonString text ++ ',' :: elementsText rest (other :: texts)
        from rfl]
      simp only [List.length_append,List.length_cons] at ih ⊢
      omega

/-- An array of strings reads back as its strings in order. -/
lemma reads_array (texts : List (List Char)) : Reads (levels + 1) (stringArray texts) (arrayFlat texts) := by
  intro path fields rest hfew _ _
  rw [stringArray_eq]
  unfold value
  dsimp only
  rw [whitespace_cons (by decide),consume_of_ne (by decide),consume_cons]
  unfold array
  dsimp only
  rw [add_eq,whitespace_elementsText]
  dsimp only
  cases hwithin : within ⟨elementsText rest texts,fields ++ [⟨path,.array,"0".toList⟩]⟩ with
  | none =>
    have hnone : within ⟨rest,fields ++ arrayFlat texts path⟩ = none := by
      unfold within at hwithin ⊢
      unfold arrayFlat
      rw [List.length_append,List.length_singleton] at hwithin
      rw [List.length_append,List.length_cons]
      split_ifs at hwithin with hmany
      rw [if_neg (by omega)]
    rw [hnone]
  | some added =>
    obtain ⟨rfl,hroom⟩ := within_some hwithin
    dsimp only
    cases texts with
    | nil => exact (if_pos hroom).symm
    | cons text texts =>
      have hopen : consume ']' (elementsText rest (text :: texts)) = none := by
        cases texts <;> exact consume_of_ne (by decide) _
      rw [hopen,elements_texts rest (length_elementsText rest (text :: texts)) 0,Nat.zero_add]
      have hset := map_setCount rest path .array fields (elementsFlat path 0 (text :: texts)) (text :: texts).length
      rw [List.append_cons fields ⟨path,.array,"0".toList⟩] at hset
      exact hset

end Arrays

section Paths
variable {path key other q : List Char}

lemma childPath_ne_nil (hkey : validKey key = true) : childPath path key ≠ [] := by
  unfold childPath
  split_ifs with hroot
  · intro hnil
    rw [hnil] at hkey
    cases hkey
  · exact List.append_ne_nil_of_left_ne_nil hroot _

lemma childPath_eq (path : List Char) : ∃ start, ∀ key, childPath path key = start ++ key := by
  by_cases hroot : path = []
  · exact ⟨[],fun key => if_pos hroot⟩
  · refine ⟨path ++ ['.'],fun key => ?_⟩
    rw [childPath,if_neg hroot,List.append_assoc]
    rfl

/-- What is under a member's path tells the member. -/
lemma under_childPath (hkey : validKey key = true) (hother : validKey other = true)
    (h : Under (childPath path key) q) (h' : Under (childPath path other) q) : key = other := by
  obtain ⟨start,hstart⟩ := childPath_eq path
  rcases h with hnil | ⟨later,hlater,hend⟩
  · exact absurd hnil (childPath_ne_nil hkey)
  rcases h' with hnil | ⟨later',hlater',hend'⟩
  · exact absurd hnil (childPath_ne_nil hother)
  have htake : ∀ {key later : List Char}, validKey key = true →
      (later = [] ∨ later.head? = some '.' ∨ later.head? = some '[') →
      (key ++ later).takeWhile (fun character => character ≠ '.' && character ≠ '[') = key := by
    intro key later hkey hend
    have hall : ∀ character ∈ key, (character ≠ '.' && character ≠ '[') = true := by
      intro character hmem
      unfold validKey at hkey
      have hcharacter := List.all_eq_true.mp (Bool.and_eq_true _ _ ▸ hkey).2 character hmem
      exact (Bool.and_eq_true _ _ ▸ hcharacter).1
    rw [List.takeWhile_append_of_pos hall]
    cases later with
    | nil => exact List.append_nil _
    | cons first later =>
      rcases hend with hnil | hdot | hbracket
      · cases hnil
      · obtain rfl : first = '.' := Option.some.inj hdot
        exact List.append_nil _
      · obtain rfl : first = '[' := Option.some.inj hbracket
        exact List.append_nil _
  rw [hstart,List.append_assoc] at hlater hlater'
  have hsame : key ++ later = other ++ later' := List.append_cancel_left (hlater.symm.trans hlater')
  rw [← htake hkey hend,hsame,htake hother hend']

lemma Under.of_child (h : Under (childPath path key) q) (hkey : validKey key = true) : Under path q := by
  by_cases hroot : path = []
  · exact Or.inl hroot
  · rcases h with hnil | ⟨later,hlater,_⟩
    · exact absurd hnil (childPath_ne_nil hkey)
    · rw [childPath,if_neg hroot,List.append_assoc] at hlater
      exact Or.inr ⟨'.' :: key ++ later,hlater,Or.inr (Or.inl rfl)⟩

lemma not_under_parent (hkey : validKey key = true) : ¬Under (childPath path key) path := by
  rintro (hnil | ⟨later,hlater,_⟩)
  · exact childPath_ne_nil hkey hnil
  · have hlength := congrArg List.length hlater
    have hpositive : 0 < key.length := by
      cases key with
      | nil => cases hkey
      | cons => exact Nat.succ_pos _
    unfold childPath at hlength
    split_ifs at hlength with hroot
    · rw [hroot,List.length_append] at hlength
      simp only [List.length_nil] at hlength
      omega
    · simp only [List.length_append,List.length_cons] at hlength
      omega

end Paths

/-- A member of an object: its key and what its value prints and reads back as. -/
structure Member (levels : ℕ) where
  key : List Char
  text : List Char
  flat : List Char → List JsonField
  valid : validKey key = true
  reads : Reads levels text flat
  under : ∀ path, ∀ field ∈ flat path, Under path field.path

section Objects
variable {levels : ℕ} {path : List Char}

def membersFlat (path : List Char) (all : List (Member levels)) : List JsonField :=
  all.flatMap fun member => member.flat (childPath path member.key)

def objectFlat (all : List (Member levels)) (path : List Char) : List JsonField :=
  ⟨path,.object,(toString all.length).toList⟩ :: membersFlat path all

/-- The members of an object with what ends it. -/
def membersText (rest : List Char) : List (Member levels) → List Char
  | [] => '}' :: rest
  | [member] => jsonString member.key ++ ':' :: (member.text ++ '}' :: rest)
  | member :: all => jsonString member.key ++ ':' :: (member.text ++ ',' :: membersText rest all)

lemma any_path {fields : List JsonField} (h : Fresh path fields) :
    (fields.any fun field => field.path = path) = false := by
  rw [List.any_eq_false]
  intro field hfield hsame
  exact h field hfield (of_decide_eq_true hsame ▸ under_self field.path)

/-- One turn of the loop over the members, up to what follows the value. -/
lemma members_step (member : Member levels) (after : List Char) {fields : List JsonField} (steps count : ℕ)
    (hfew : fields.length ≤ maxJsonFields) (hfresh : Fresh (childPath path member.key) fields) (hends : Ends after) :
    members (value levels) path (steps + 1) count ⟨jsonString member.key ++ ':' :: (member.text ++ after),fields⟩ =
      match within ⟨after,fields ++ member.flat (childPath path member.key)⟩ with
      | none => none
      | some state =>
        match consume '}' (whitespace state.text) with
        | some rest => some ({ state with text := rest },count + 1)
        | none =>
          match consume ',' (whitespace state.text) with
          | some rest => members (value levels) path steps (count + 1) { state with text := rest }
          | none => none := by
  have hspace : whitespace (jsonString member.key ++ ':' :: (member.text ++ after)) =
      jsonString member.key ++ ':' :: (member.text ++ after) := whitespace_cons (by decide)
  have hvalid : ¬(!validKey member.key) = true := by
    rw [member.valid]
    exact Bool.false_ne_true
  have hunused : ¬(fields.any fun field => field.path = childPath path member.key) = true := by
    rw [any_path hfresh]
    exact Bool.false_ne_true
  rw [members]
  dsimp only
  rw [hspace,string_jsonString]
  dsimp only
  rw [if_neg hvalid,whitespace_cons (by decide),consume_cons]
  dsimp only
  have hread := member.reads (childPath path member.key) fields after hfew hfresh hends
  rw [if_neg hunused]
  exact hread ▸ rfl

lemma members_all {member : Member levels} {all : List (Member levels)} (rest : List Char) {fields : List JsonField}
    {steps : ℕ} (hsteps : (member :: all).length ≤ steps) (count : ℕ) (hfew : fields.length ≤ maxJsonFields)
    (hfresh : ∀ other ∈ member :: all, Fresh (childPath path other.key) fields)
    (hkeys : ((member :: all).map Member.key).Nodup) :
    members (value levels) path steps count ⟨membersText rest (member :: all),fields⟩ =
      (within ⟨rest,fields ++ membersFlat path (member :: all)⟩).map
        fun state => (state,count + (member :: all).length) := by
  induction all generalizing member fields steps count with
  | nil =>
    obtain ⟨more,rfl⟩ : ∃ more, steps = more + 1 := ⟨steps - 1,by rw [List.length_singleton] at hsteps; omega⟩
    have hflat : membersFlat path [member] = member.flat (childPath path member.key) := List.append_nil _
    have hends : Ends ('}' :: rest) := fun character hcharacter => Or.inr (Or.inl (Option.some.inj hcharacter).symm)
    rw [hflat]
    refine (members_step member ('}' :: rest) more count hfew (hfresh member List.mem_cons_self) hends).trans ?_
    unfold within
    dsimp only
    split_ifs
    · dsimp only
      rw [whitespace_cons (by decide),consume_cons]
      rfl
    · rfl
  | cons other all ih =>
    obtain ⟨more,rfl⟩ : ∃ more, steps = more + 1 := ⟨steps - 1,by rw [List.length_cons] at hsteps; omega⟩
    have hflat : membersFlat path (member :: other :: all) =
        member.flat (childPath path member.key) ++ membersFlat path (other :: all) := List.flatMap_cons
    have hends : Ends (',' :: membersText rest (other :: all)) :=
      fun character hcharacter => Or.inl (Option.some.inj hcharacter).symm
    have hlater := List.nodup_cons.mp hkeys
    refine (members_step member _ more count hfew (hfresh member List.mem_cons_self) hends).trans ?_
    rw [hflat]
    cases hwithin : within ⟨',' :: membersText rest (other :: all),fields ++
      member.flat (childPath path member.key)⟩ with
    | none =>
      have hnone := within_none hwithin rest (membersFlat path (other :: all))
      rw [List.append_assoc] at hnone
      rw [hnone]
      rfl
    | some state =>
      obtain ⟨rfl,hroom⟩ := within_some hwithin
      dsimp only
      rw [whitespace_cons (by decide),consume_of_ne (by decide),consume_cons]
      dsimp only
      have hrest := @ih other (fields ++ member.flat (childPath path member.key)) more
        (by rw [List.length_cons] at hsteps; omega) (count + 1) hroom ?_ hlater.2
      · rw [hrest,List.append_assoc]
        congr 2
        funext state
        rw [List.length_cons (a := member)]
        congr 1
        omega
      · intro third hthird field hfield hunder
        rcases List.mem_append.mp hfield with hbefore | hown
        · exact hfresh third (List.mem_cons_of_mem _ hthird) field hbefore hunder
        · have hsame := under_childPath third.valid member.valid hunder (member.under _ field hown)
          exact hlater.1 (hsame ▸ List.mem_map_of_mem hthird)

def objectText (all : List (Member levels)) : List Char := '{' :: membersText [] all

lemma membersText_append (rest : List Char) (all : List (Member levels)) :
    membersText [] all ++ rest = membersText rest all := by
  induction all with
  | nil => rfl
  | cons member all ih =>
    cases all with
    | nil => simp [membersText]
    | cons other all =>
      rw [show membersText rest (member :: other :: all) =
        jsonString member.key ++ ':' :: (member.text ++ ',' :: membersText rest (other :: all)) from rfl,← ih]
      simp [membersText]

lemma length_membersText (rest : List Char) (all : List (Member levels)) :
    all.length ≤ (membersText rest all).length := by
  induction all with
  | nil => exact Nat.zero_le _
  | cons member all ih =>
    cases all with
    | nil =>
      simp only [membersText,List.length_append,List.length_cons,List.length_nil]
      omega
    | cons other all =>
      rw [show membersText rest (member :: other :: all) =
        jsonString member.key ++ ':' :: (member.text ++ ',' :: membersText rest (other :: all)) from rfl]
      simp only [List.length_append,List.length_cons] at ih ⊢
      omega

/-- An object reads back as its members in order. -/
lemma reads_object {member : Member levels} {all : List (Member levels)}
    (hkeys : ((member :: all).map Member.key).Nodup) :
    Reads (levels + 1) (objectText (member :: all)) (objectFlat (member :: all)) := by
  intro path fields rest hfew hfresh _
  have htext : objectText (member :: all) ++ rest = '{' :: membersText rest (member :: all) :=
    congrArg ('{' :: ·) (membersText_append rest (member :: all))
  have hopen : ∃ later, membersText rest (member :: all) = '"' :: later := by
    cases all with
    | nil => exact ⟨_,rfl⟩
    | cons other all => exact ⟨_,rfl⟩
  obtain ⟨later,hlater⟩ := hopen
  have hspace : whitespace (membersText rest (member :: all)) = membersText rest (member :: all) := by
    rw [hlater]
    exact whitespace_cons (by decide)
  have hnot : consume '}' (membersText rest (member :: all)) = none := by
    rw [hlater]
    exact consume_of_ne (by decide) _
  rw [htext]
  unfold value
  dsimp only
  rw [whitespace_cons (by decide),consume_cons]
  unfold object
  dsimp only
  rw [add_eq,hspace]
  dsimp only
  cases hwithin : within ⟨membersText rest (member :: all),fields ++ [⟨path,.object,"0".toList⟩]⟩ with
  | none =>
    have hnone : within ⟨rest,fields ++ objectFlat (member :: all) path⟩ = none := by
      unfold within at hwithin ⊢
      unfold objectFlat
      rw [List.length_append,List.length_singleton] at hwithin
      rw [List.length_append,List.length_cons]
      split_ifs at hwithin with hmany
      rw [if_neg (by omega)]
    rw [hnone]
  | some added =>
    obtain ⟨rfl,hroom⟩ := within_some hwithin
    dsimp only
    rw [hnot]
    dsimp only
    rw [members_all rest (length_membersText rest (member :: all)) 0 hroom ?_ hkeys,Nat.zero_add]
    · have hset := map_setCount rest path .object fields (membersFlat path (member :: all)) (member :: all).length
      rw [List.append_cons fields ⟨path,.object,"0".toList⟩] at hset
      exact hset
    · intro other _ field hfield hunder
      rcases List.mem_append.mp hfield with hbefore | hentry
      · exact hfresh field hbefore (hunder.of_child other.valid)
      · rw [List.mem_singleton.mp hentry] at hunder
        exact not_under_parent other.valid hunder

section Find
variable {all : List (Member levels)} {q : List Char}

/-- What is under the path of a member is looked up in its value. -/
lemma find_objectFlat {member : Member levels} (hmember : member ∈ all) (hkeys : (all.map Member.key).Nodup)
    (hunder : Under (childPath path member.key) q) :
    find (objectFlat all path) q = find (member.flat (childPath path member.key)) q := by
  have hself : ¬path = q := fun hsame => not_under_parent member.valid (hsame ▸ hunder)
  unfold find objectFlat membersFlat
  rw [List.find?_cons_of_neg (by simpa using hself)]
  induction all with
  | nil => cases hmember
  | cons first all ih =>
    rw [List.map_cons,List.nodup_cons] at hkeys
    rw [List.flatMap_cons,List.find?_append]
    rcases List.mem_cons.mp hmember with rfl | hlater
    · have hrest : (all.flatMap fun other => other.flat (childPath path other.key)).find?
          (fun field => field.path = q) = none := by
        rw [List.find?_eq_none]
        intro field hfield hsame
        obtain ⟨other,hother,hflat⟩ := List.mem_flatMap.mp hfield
        have hfound := other.under _ field hflat
        rw [of_decide_eq_true hsame] at hfound
        have hkey := under_childPath other.valid member.valid hfound hunder
        exact hkeys.1 (hkey ▸ List.mem_map_of_mem hother)
      rw [hrest,Option.or_none]
    · have hfirst : (first.flat (childPath path first.key)).find? (fun field => field.path = q) = none := by
        rw [List.find?_eq_none]
        intro field hfield hsame
        have hfound := first.under _ field hfield
        rw [of_decide_eq_true hsame] at hfound
        have hkey := under_childPath first.valid member.valid hfound hunder
        exact hkeys.1 (hkey ▸ List.mem_map_of_mem hlater)
      rw [hfirst,Option.none_or]
      exact ih hlater hkeys.2

/-- A key that no member has is not found. -/
lemma find_missing {key : List Char} (hkey : validKey key = true) (hmissing : key ∉ all.map Member.key)
    (hunder : Under (childPath path key) q) : find (objectFlat all path) q = none := by
  unfold find objectFlat membersFlat
  rw [List.find?_eq_none]
  intro field hfield hsame
  have hsame := of_decide_eq_true hsame
  rcases List.mem_cons.mp hfield with rfl | hmember
  · exact not_under_parent hkey (hsame ▸ hunder)
  · obtain ⟨other,hother,hflat⟩ := List.mem_flatMap.mp hmember
    have hfound := other.under _ field hflat
    rw [hsame] at hfound
    exact hmissing (under_childPath other.valid hkey hfound hunder ▸ List.mem_map_of_mem hother)

end Find
end Objects
end AytherRuntime.Probe
