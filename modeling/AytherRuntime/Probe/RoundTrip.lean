import AytherRuntime.Probe.Nested

/-! The line of a pack probe is an object of the members of its report, and its reader takes the fields of all of
them. -/
namespace AytherRuntime.Probe
open Lines

section Members
variable {levels : ℕ}

def stringMember (key text : List Char) (valid : validKey key = true) : Member levels where
  key := key
  text := jsonString text
  flat path := [⟨path,.string,text⟩]
  valid := valid
  reads := reads_string text
  under path _ hfield := List.mem_singleton.mp hfield ▸ under_self path

def booleanMember (key : List Char) (truth : Bool) (valid : validKey key = true) : Member levels where
  key := key
  text := if truth then "true".toList else "false".toList
  flat path := [⟨path,.boolean,if truth then "true".toList else "false".toList⟩]
  valid := valid
  reads := reads_boolean truth
  under path _ hfield := List.mem_singleton.mp hfield ▸ under_self path

def numberMember (key : List Char) (n : ℕ) (valid : validKey key = true) : Member levels where
  key := key
  text := (toString n).toList
  flat path := [⟨path,.number,(toString n).toList⟩]
  valid := valid
  reads := reads_number n
  under path _ hfield := List.mem_singleton.mp hfield ▸ under_self path

def nullMember (key : List Char) (valid : validKey key = true) : Member levels where
  key := key
  text := "null".toList
  flat path := [⟨path,.nullValue,[]⟩]
  valid := valid
  reads := reads_null
  under path _ hfield := List.mem_singleton.mp hfield ▸ under_self path

lemma elementsFlat_under {path : List Char} {index : ℕ} {texts : List (List Char)} :
    ∀ field ∈ elementsFlat path index texts, Under path field.path := by
  induction texts generalizing index with
  | nil => exact fun field hfield => by cases hfield
  | cons text texts ih =>
    intro field hfield
    rcases List.mem_cons.mp hfield with rfl | hlater
    · exact Or.inr ⟨'[' :: (toString index).toList ++ [']'],List.append_assoc _ _ _,Or.inr (Or.inr rfl)⟩
    · exact ih field hlater

def arrayMember (key : List Char) (texts : List (List Char)) (valid : validKey key = true) : Member (levels + 1) where
  key := key
  text := stringArray texts
  flat := arrayFlat texts
  valid := valid
  reads := reads_array texts
  under path field hfield := by
    rcases List.mem_cons.mp hfield with rfl | hlater
    · exact under_self path
    · exact elementsFlat_under field hlater

lemma objectFlat_under {path : List Char} {all : List (Member levels)} :
    ∀ field ∈ objectFlat all path, Under path field.path := by
  intro field hfield
  rcases List.mem_cons.mp hfield with rfl | hlater
  · exact under_self path
  · obtain ⟨member,_,hmember⟩ := List.mem_flatMap.mp hlater
    exact (member.under _ field hmember).of_child member.valid

def objectMember (key : List Char) (member : Member levels) (all : List (Member levels))
    (hkeys : ((member :: all).map Member.key).Nodup) (valid : validKey key = true) : Member (levels + 1) where
  key := key
  text := objectText (member :: all)
  flat := objectFlat (member :: all)
  valid := valid
  reads := reads_object hkeys
  under _ := objectFlat_under

end Members

section Report
variable (report : PackProbeReport)

def posesMember (catalog : PackCatalog) : Member 6 := numberMember "poses".toList catalog.poses.toNat (by decide)

def audioEventsMember (catalog : PackCatalog) : Member 6 :=
  numberMember "audio_events".toList catalog.audioEvents.toNat (by decide)

lemma catalogKeys_nodup (catalog : PackCatalog) :
    ([posesMember catalog,audioEventsMember catalog].map Member.key).Nodup := by
  have hkeys : ["poses".toList,"audio_events".toList].Nodup := by decide
  exact hkeys

def catalogMember : Option PackCatalog → Member 7
  | some catalog =>
    objectMember "catalog".toList (posesMember catalog) [audioEventsMember catalog] (catalogKeys_nodup catalog)
      (by decide)
  | none => nullMember "catalog".toList (by decide)

/-- The error of the registry, or else the message of the pack. -/
def carriedMessage : List Char := if report.trustRegistryError ≠ [] then report.trustRegistryError else report.message

def reasonMembers : List (Member 7) :=
  if packProbeReason report = [] then []
  else
    stringMember "reason".toList (packProbeReason report) (by decide) ::
      if carriedMessage report = [] then [] else [stringMember "message".toList (carriedMessage report) (by decide)]

/-- The members of the object of the line, after its first one. -/
def reportMembers : List (Member 7) :=
  [booleanMember "opened".toList report.opened (by decide),
    stringMember "signature".toList report.signature (by decide),
    stringMember "trust".toList report.trust (by decide),catalogMember report.catalog,
    arrayMember "unreadable_assets".toList report.unreadableAssets (by decide),
    arrayMember "profiles".toList report.profiles (by decide),
    stringMember "game_id".toList report.gameId (by decide),
    arrayMember "errors".toList report.errors (by decide)] ++ reasonMembers report

def schemaMember : Member 7 := stringMember "schema".toList "1.0".toList (by decide)

lemma reasonJson_eq : reasonJson report = (reasonMembers report).flatMap fun member =>
    ',' :: jsonString member.key ++ ':' :: member.text := by
  unfold reasonJson reasonMembers carriedMessage
  dsimp only
  by_cases hreason : packProbeReason report = []
  · rw [if_pos hreason,if_pos hreason]
    rfl
  · rw [if_neg hreason,if_neg hreason]
    by_cases hregistry : report.trustRegistryError ≠ []
    · rw [if_pos hregistry,if_pos hregistry,if_neg hregistry]
      simp [stringMember,jsonField]
    · rw [if_neg hregistry,if_neg hregistry]
      by_cases hmessage : report.message = []
      · rw [if_neg (not_not.mpr hmessage),if_pos hmessage]
        simp [stringMember,jsonField]
      · rw [if_pos hmessage,if_neg hmessage]
        simp [stringMember,jsonField]

lemma membersText_cons {levels : ℕ} (member : Member levels) (all : List (Member levels)) :
    membersText [] (member :: all) = jsonString member.key ++ ':' :: member.text ++
      (all.flatMap fun member => ',' :: jsonString member.key ++ ':' :: member.text) ++ ['}'] := by
  induction all generalizing member with
  | nil => simp [membersText]
  | cons other all ih =>
    rw [show membersText [] (member :: other :: all) =
      jsonString member.key ++ ':' :: (member.text ++ ',' :: membersText [] (other :: all)) from rfl,ih]
    simp

lemma catalogJson_eq (catalog : Option PackCatalog) : catalogJson catalog = (catalogMember catalog).text := by
  cases catalog with
  | none => rfl
  | some catalog =>
    have hposes : "\x7b\"poses\":".toList = '{' :: jsonString "poses".toList ++ [':'] := by decide +kernel
    have hevents : ",\"audio_events\":".toList = ',' :: jsonString "audio_events".toList ++ [':'] := by decide +kernel
    have htext : (catalogMember (some catalog)).text =
        '{' :: membersText [] [posesMember catalog,audioEventsMember catalog] := rfl
    rw [htext,membersText_cons]
    unfold catalogJson
    dsimp only
    rw [hposes,hevents]
    simp only [posesMember,audioEventsMember,numberMember,List.flatMap_cons,List.flatMap_nil,List.append_assoc,
      List.cons_append,List.nil_append,List.append_nil]

/-- The writer prints the object of the members. -/
lemma packProbeJson_eq : packProbeJson report = objectText (schemaMember :: reportMembers report) := by
  have hopened : "\x7b\"schema\":\"1.0\",\"opened\":".toList =
      '{' :: jsonString "schema".toList ++ ':' :: jsonString "1.0".toList ++ ',' :: jsonString "opened".toList ++
        [':'] := by
    decide +kernel
  have hcatalog : ",\"catalog\":".toList = ',' :: jsonString "catalog".toList ++ [':'] := by decide +kernel
  have hassets : ",\"unreadable_assets\":".toList = ',' :: jsonString "unreadable_assets".toList ++ [':'] := by
    decide +kernel
  have hprofiles : ",\"profiles\":".toList = ',' :: jsonString "profiles".toList ++ [':'] := by decide +kernel
  have herrors : ",\"errors\":".toList = ',' :: jsonString "errors".toList ++ [':'] := by decide +kernel
  have hkey : (catalogMember report.catalog).key = "catalog".toList := by cases report.catalog <;> rfl
  unfold packProbeJson objectText
  rw [membersText_cons,hopened,hcatalog,hassets,hprofiles,herrors,catalogJson_eq,reasonJson_eq]
  simp only [schemaMember,reportMembers,booleanMember,stringMember,arrayMember,jsonField,hkey,List.flatMap_cons,
    List.append_assoc,List.cons_append,List.nil_append]

/-- The fields of the line. -/
def packProbeFields : List JsonField := objectFlat (schemaMember :: reportMembers report) []

lemma map_key : (schemaMember :: reportMembers report).map Member.key =
    ["schema".toList,"opened".toList,"signature".toList,"trust".toList,"catalog".toList,"unreadable_assets".toList,
      "profiles".toList,"game_id".toList,"errors".toList] ++ (reasonMembers report).map Member.key := by
  unfold reportMembers
  rw [← List.cons_append,List.map_append]
  cases report.catalog <;> rfl

lemma map_key_reasonMembers : (reasonMembers report).map Member.key =
    if packProbeReason report = [] then []
    else if carriedMessage report = [] then ["reason".toList]
    else ["reason".toList,"message".toList] := by
  unfold reasonMembers
  split_ifs <;> rfl

lemma keys_nodup : ((schemaMember :: reportMembers report).map Member.key).Nodup := by
  rw [map_key,map_key_reasonMembers]
  split_ifs
  · decide
  · decide
  · decide

/-- The reader takes the fields of the line, unless there is too much of it. -/
lemma parseJsonFields_packProbeJson : parseJsonFields (packProbeJson report) =
    if (packProbeJson report).length ≤ maxJsonBytes ∧ (packProbeFields report).length ≤ maxJsonFields then
      some (packProbeFields report)
    else none := by
  have hreads := @reads_object 7 schemaMember (reportMembers report) (keys_nodup report) [] [] []
    (Nat.zero_le _) (fun _ hfield => by cases hfield) (fun _ hend => by cases hend)
  have hobject : objectText (schemaMember :: reportMembers report) = packProbeJson report :=
    (packProbeJson_eq report).symm
  rw [hobject,List.append_nil,List.nil_append] at hreads
  obtain ⟨later,hlater⟩ : ∃ later, packProbeJson report = '{' :: later := by
    rw [packProbeJson_eq]
    exact ⟨_,rfl⟩
  have hspace : whitespace (packProbeJson report) = packProbeJson report := by
    rw [hlater]
    exact whitespace_cons (by decide)
  have hopen : consume '{' (packProbeJson report) = some later := by
    rw [hlater]
    exact consume_cons _ _
  unfold parseJsonFields
  rw [hspace,hopen]
  dsimp only
  have hvalue : value maxJsonDepth [] ⟨packProbeJson report,[]⟩ = within ⟨[],packProbeFields report⟩ := hreads
  rw [hvalue]
  by_cases hlong : maxJsonBytes < (packProbeJson report).length
  · rw [if_pos hlong,if_neg (by omega)]
  · rw [if_neg hlong]
    unfold within
    dsimp only
    by_cases hmany : (packProbeFields report).length ≤ maxJsonFields
    · rw [if_pos hmany,if_pos ⟨by omega,hmany⟩]
      rfl
    · rw [if_neg hmany,if_neg fun hboth => hmany hboth.2]

end Report

section Line

lemma newline_escape (codeUnit : Char) : '\n' ∉ escape codeUnit := by
  unfold escape
  split_ifs with hquote hbackslash hbackspace hfeed hnewline hreturn htab hcontrol
  all_goals first
    | decide
    | skip
  · have hhex : ∀ n < 16, hexDigits.getD n '0' ≠ '\n' := by decide
    have hhigh := hhex (codeUnit.toNat / 16 % 16) (Nat.mod_lt _ (by decide))
    have hlow := hhex (codeUnit.toNat % 16) (Nat.mod_lt _ (by decide))
    intro hmem
    rcases List.mem_cons.mp hmem with hsame | hmem
    · cases hsame
    rcases List.mem_cons.mp hmem with hsame | hmem
    · cases hsame
    rcases List.mem_cons.mp hmem with hsame | hmem
    · cases hsame
    rcases List.mem_cons.mp hmem with hsame | hmem
    · cases hsame
    rcases List.mem_cons.mp hmem with hsame | hmem
    · exact hhigh hsame.symm
    · exact hlow (List.mem_singleton.mp hmem).symm
  · exact fun hmem => hnewline (List.mem_singleton.mp hmem).symm

lemma newline_jsonString (text : List Char) : '\n' ∉ jsonString text := by
  unfold jsonString
  intro hmem
  rcases List.mem_append.mp hmem with hopen | hclose
  · rcases List.mem_cons.mp hopen with hquote | hinside
    · cases hquote
    · obtain ⟨codeUnit,_,hescape⟩ := List.mem_flatMap.mp hinside
      exact newline_escape codeUnit hescape
  · cases List.mem_singleton.mp hclose

lemma newline_elementsText (texts : List (List Char)) : '\n' ∉ elementsText [] texts := by
  induction texts with
  | nil => decide
  | cons text texts ih =>
    have htext := newline_jsonString text
    cases texts with
    | nil =>
      intro hmem
      rcases List.mem_append.mp hmem with hfirst | hclose
      · exact htext hfirst
      · cases List.mem_singleton.mp hclose
    | cons other texts =>
      intro hmem
      rcases List.mem_append.mp hmem with hfirst | hlater
      · exact htext hfirst
      · rcases List.mem_cons.mp hlater with hcomma | hrest
        · cases hcomma
        · exact ih hrest

lemma newline_stringArray (texts : List (List Char)) : '\n' ∉ stringArray texts := by
  have helements := stringArray_eq texts []
  rw [List.append_nil] at helements
  rw [helements]
  intro hmem
  rcases List.mem_cons.mp hmem with hopen | hlater
  · cases hopen
  · exact newline_elementsText texts hlater

lemma newline_toString (n : ℕ) : '\n' ∉ (toString n).toList := by
  rw [toList_toString]
  intro hmem
  have hdigit : Char.isDigit '\n' = true := Nat.isDigit_of_mem_toDigits (by decide) (by decide) hmem
  cases hdigit

lemma newline_membersText {levels : ℕ} {all : List (Member levels)} (h : ∀ member ∈ all, '\n' ∉ member.text) :
    '\n' ∉ membersText [] all := by
  induction all with
  | nil => exact fun hmem => by cases List.mem_singleton.mp hmem
  | cons member all ih =>
    rw [membersText_cons]
    have hone : ∀ other ∈ member :: all, '\n' ∉ jsonString other.key ++ ':' :: other.text := by
      intro other hother hmem
      rcases List.mem_append.mp hmem with hkey | hvalue
      · exact newline_jsonString other.key hkey
      · rcases List.mem_cons.mp hvalue with hcolon | htext
        · cases hcolon
        · exact h other hother htext
    intro hmem
    rcases List.mem_append.mp hmem with hmembers | hclose
    · rcases List.mem_append.mp hmembers with hfirst | hlater
      · exact hone member List.mem_cons_self hfirst
      · obtain ⟨other,hother,htext⟩ := List.mem_flatMap.mp hlater
        rcases List.mem_cons.mp htext with hcomma | hrest
        · cases hcomma
        · exact hone other (List.mem_cons_of_mem _ hother) hrest
    · cases List.mem_singleton.mp hclose

lemma newline_catalog (catalog : Option PackCatalog) : '\n' ∉ (catalogMember catalog).text := by
  cases catalog with
  | none => decide
  | some catalog =>
    have hmembers : '\n' ∉ membersText [] [posesMember catalog,audioEventsMember catalog] :=
      newline_membersText (List.forall_mem_cons.mpr ⟨newline_toString _,
        List.forall_mem_cons.mpr ⟨newline_toString _,fun _ hmember => by cases hmember⟩⟩)
    intro hmem
    rcases List.mem_cons.mp hmem with hopen | hlater
    · cases hopen
    · exact hmembers hlater

lemma newline_packProbeJson (report : PackProbeReport) : '\n' ∉ packProbeJson report := by
  have hboolean : ∀ truth : Bool, '\n' ∉ (if truth then "true".toList else "false".toList) := by decide
  have hreason : ∀ member ∈ reasonMembers report, '\n' ∉ member.text := by
    unfold reasonMembers
    split_ifs
    · exact fun _ hmember => by cases hmember
    · exact List.forall_mem_cons.mpr ⟨newline_jsonString _,fun _ hmember => by cases hmember⟩
    · exact List.forall_mem_cons.mpr ⟨newline_jsonString _,
        List.forall_mem_cons.mpr ⟨newline_jsonString _,fun _ hmember => by cases hmember⟩⟩
  have hmembers : '\n' ∉ membersText [] (schemaMember :: reportMembers report) := by
    refine newline_membersText (List.forall_mem_cons.mpr ⟨newline_jsonString _,List.forall_mem_append.mpr ⟨?_,hreason⟩⟩)
    simp only [List.forall_mem_cons]
    exact ⟨hboolean _,newline_jsonString _,newline_jsonString _,newline_catalog _,newline_stringArray _,
      newline_stringArray _,newline_jsonString _,newline_stringArray _,fun _ hmember => by cases hmember⟩
  rw [packProbeJson_eq]
  intro hmem
  rcases List.mem_cons.mp hmem with hopen | hlater
  · cases hopen
  · exact hmembers hlater

/-- The line is found, with all of its object. -/
lemma lastLineWith_formatPackProbeLine (report : PackProbeReport) :
    lastLineWith (formatPackProbeLine report) packProbePrefix = some (packProbeJson report) := by
  have hbeginning : '\n' ∉ packProbePrefix := by decide
  have hline : '\n' ∉ packProbePrefix ++ packProbeJson report := fun hmem =>
    (List.mem_append.mp hmem).elim hbeginning (newline_packProbeJson report)
  have hlines : linesOf (formatPackProbeLine report) = [packProbePrefix ++ packProbeJson report] :=
    linesOf_line hline []
  obtain ⟨middle,hmiddle⟩ : ∃ middle, packProbePrefix ++ packProbeJson report = middle ++ ['}'] := by
    rw [packProbeJson_eq,objectText,membersText_cons]
    exact ⟨packProbePrefix ++ '{' :: (jsonString schemaMember.key ++ ':' :: schemaMember.text ++
      (reportMembers report).flatMap fun member => ',' :: jsonString member.key ++ ':' :: member.text),by
        simp only [List.append_assoc,List.cons_append]⟩
  have hlast : (packProbePrefix ++ packProbeJson report).getLast? = some '}' := by
    rw [hmiddle,List.getLast?_concat]
  have hprefixed : packProbePrefix.isPrefixOf (packProbePrefix ++ packProbeJson report) = true :=
    List.isPrefixOf_iff_prefix.mpr (List.prefix_append _ _)
  unfold lastLineWith
  rw [hlines]
  simp only [List.foldl_cons,List.foldl_nil]
  have hreturn : ¬(some '}' = some '\r') := by decide
  rw [hlast,if_neg hreturn,if_pos hprefixed,List.drop_left]

end Line

end AytherRuntime.Probe
