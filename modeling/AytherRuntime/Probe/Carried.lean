import AytherRuntime.Probe.RoundTrip

/-! The line of a pack probe reads back as all that it carries of the report, unless it is beyond the limits of its
reader. -/
namespace AytherRuntime.Probe

section Lookup
variable (report : PackProbeReport)

/-- A field of the line is looked up in the member that has it. -/
lemma find_member {member : Member 7} (i : ℕ) (h : (schemaMember :: reportMembers report)[i]? = some member)
    {q : List Char} (hunder : Under member.key q) : find (packProbeFields report) q = find (member.flat member.key) q :=
  find_objectFlat (List.mem_of_getElem? h) (keys_nodup report) hunder

lemma find_self (path : List Char) (kind : JsonKind) (text : List Char) (later : List JsonField) :
    find (⟨path,kind,text⟩ :: later) path = some ⟨path,kind,text⟩ :=
  List.find?_cons_of_pos (decide_eq_true rfl)

lemma stringField_member {key text : List Char} {valid : validKey key = true} (i : ℕ)
    (h : (schemaMember :: reportMembers report)[i]? = some (stringMember key text valid)) :
    stringField (packProbeFields report) key = some text := by
  have hfound := find_member report i h (under_self key)
  have hself := find_self key .string text []
  unfold stringField textOf
  rw [hfound.trans hself]
  rfl

lemma stringField_missing {key : List Char} (hkey : validKey key = true)
    (hmissing : key ∉ (schemaMember :: reportMembers report).map Member.key) :
    stringField (packProbeFields report) key = none := by
  have hunder : Under (childPath [] key) key := under_self key
  unfold stringField textOf packProbeFields
  rw [find_missing hkey hmissing hunder]

lemma elementPath_injective {path : List Char} {first second : ℕ}
    (h : elementPath path first = elementPath path second) :
    first = second := by
  unfold elementPath at h
  rw [List.append_assoc,List.append_assoc] at h
  have htext : (toString first).toList = (toString second).toList :=
    List.append_cancel_right (List.cons.inj (List.append_cancel_left h)).2
  rw [toList_toString,toList_toString] at htext
  have hvalue := congrArg (fun digits => Nat.ofDigitChars 10 digits 0) htext
  rw [Nat.ofDigitChars_ten_toDigits,Nat.ofDigitChars_ten_toDigits] at hvalue
  exact hvalue

lemma find_elementsFlat {path : List Char} (texts : List (List Char)) (start index : ℕ) :
    find (elementsFlat path start texts) (elementPath path (start + index)) =
      texts[index]?.map fun text => ⟨elementPath path (start + index),.string,text⟩ := by
  induction texts generalizing start index with
  | nil => rfl
  | cons text texts ih =>
    cases index with
    | zero => exact find_self _ _ _ _
    | succ index =>
      have hother : ¬elementPath path start = elementPath path (start + (index + 1)) :=
        fun hsame => absurd (elementPath_injective hsame) (by omega)
      have hnext := ih (start + 1) index
      rw [Nat.add_right_comm start 1 index] at hnext
      unfold find at hnext ⊢
      rw [elementsFlat,List.find?_cons_of_neg (by simpa using hother)]
      exact hnext

/-- The elements of a list by their places are the list. -/
lemma filterMap_range {α : Type} (xs : List α) : ((List.range xs.length).filterMap fun index => xs[index]?) = xs := by
  induction xs with
  | nil => rfl
  | cons x xs ih =>
    rw [List.length_cons,List.range_succ_eq_map,List.filterMap_cons,List.filterMap_map]
    exact congrArg (x :: ·) ih

lemma array_member {key : List Char} {texts : List (List Char)} {valid : validKey key = true} (i : ℕ)
    (h : (schemaMember :: reportMembers report)[i]? = some (arrayMember key texts valid))
    (hfew : texts.length < 2 ^ 64) :
    sizeField (packProbeFields report) key = some texts.length ∧ readList (packProbeFields report) key = texts := by
  have hsize : sizeField (packProbeFields report) key = some texts.length := by
    have hfound := find_member report i h (under_self key)
    have hself := find_self key .array (toString texts.length).toList (elementsFlat key 0 texts)
    unfold sizeField textOf
    rw [hfound.trans hself]
    have hcount := fromChars_toString (2 ^ 64) texts.length
    rw [if_pos hfew] at hcount
    exact hcount
  refine ⟨hsize,?_⟩
  unfold readList
  rw [hsize]
  dsimp only
  have helement : ∀ index, stringField (packProbeFields report) (elementPath key index) = texts[index]? := by
    intro index
    have hunder : Under key (elementPath key index) :=
      Or.inr ⟨'[' :: (toString index).toList ++ [']'],List.append_assoc _ _ _,Or.inr (Or.inr rfl)⟩
    have hfound := find_member report i h hunder
    have hflat : find (arrayFlat texts key) (elementPath key index) =
        texts[index]?.map fun text => ⟨elementPath key index,.string,text⟩ := by
      have helements := @find_elementsFlat key texts 0 index
      rw [Nat.zero_add] at helements
      have hother : ¬key = elementPath key index := by
        intro hsame
        have hlength := congrArg List.length hsame
        unfold elementPath at hlength
        simp only [List.length_append,List.length_cons] at hlength
        omega
      unfold find at helements ⊢
      rw [arrayFlat,List.find?_cons_of_neg (by simpa using hother)]
      exact helements
    unfold stringField textOf
    rw [hfound.trans hflat]
    cases texts[index]? <;> rfl
  rw [List.filterMap_congr fun index _ => helement index]
  exact filterMap_range texts

lemma booleanField_member {key : List Char} {truth : Bool} {valid : validKey key = true} (i : ℕ)
    (h : (schemaMember :: reportMembers report)[i]? = some (booleanMember key truth valid)) :
    booleanField (packProbeFields report) key = some truth := by
  have hfound := find_member report i h (under_self key)
  have hself := find_self key .boolean (if truth then "true".toList else "false".toList) []
  unfold booleanField textOf
  rw [hfound.trans hself]
  cases truth <;> rfl

lemma unsignedField_of_find {fields : List JsonField} {path : List Char} {n : UInt32}
    (h : find fields path = some ⟨path,.number,(toString n.toNat).toList⟩) :
    unsignedField fields path = some n.toNat := by
  have hless := n.toNat_lt
  have hvalue := fromChars_toString (2 ^ 64) n.toNat
  rw [if_pos (by omega)] at hvalue
  unfold unsignedField textOf
  rw [h]
  exact hvalue

lemma unsignedField_of_none {fields : List JsonField} {path : List Char} (h : find fields path = none) :
    unsignedField fields path = none := by
  unfold unsignedField textOf
  rw [h]
  rfl

/-- The counts of the catalog, or none without it. -/
lemma catalog_fields : unsignedField (packProbeFields report) "catalog.poses".toList =
      report.catalog.map (fun catalog => catalog.poses.toNat) ∧
    unsignedField (packProbeFields report) "catalog.audio_events".toList =
      report.catalog.map (fun catalog => catalog.audioEvents.toNat) := by
  have hmember : (schemaMember :: reportMembers report)[4]? = some (catalogMember report.catalog) := rfl
  have hkey : (catalogMember report.catalog).key = "catalog".toList := by cases report.catalog <;> rfl
  have hposes : Under "catalog".toList "catalog.poses".toList := Or.inr ⟨".poses".toList,by decide,Or.inr (Or.inl rfl)⟩
  have hevents : Under "catalog".toList "catalog.audio_events".toList :=
    Or.inr ⟨".audio_events".toList,by decide,Or.inr (Or.inl rfl)⟩
  have hfound := @find_member report _ 4 hmember
  rw [hkey] at hfound
  have hfirst := hfound hposes
  have hsecond := hfound hevents
  cases hcatalog : report.catalog with
  | none =>
    rw [hcatalog] at hfirst hsecond
    exact ⟨unsignedField_of_none (hfirst.trans (by decide)),unsignedField_of_none (hsecond.trans (by decide))⟩
  | some catalog =>
    have hkeys := catalogKeys_nodup catalog
    rw [hcatalog] at hfirst hsecond
    refine ⟨unsignedField_of_find (hfirst.trans ?_),unsignedField_of_find (hsecond.trans ?_)⟩
    · exact find_objectFlat List.mem_cons_self hkeys (under_self _)
    · exact find_objectFlat (List.mem_cons_of_mem _ List.mem_cons_self) hkeys (under_self _)

end Lookup

/-- What the line of a report carries: no message without a reason, and the error of the registry in its place. -/
def carried (report : PackProbeReport) : PackProbe where
  opened := report.opened
  signature := report.signature
  trust := report.trust
  poses := report.catalog.map fun catalog => catalog.poses.toNat
  audioEvents := report.catalog.map fun catalog => catalog.audioEvents.toNat
  unreadableAssets := report.unreadableAssets
  profiles := some report.profiles
  gameId := report.gameId
  errors := report.errors
  reason := packProbeReason report
  message := if packProbeReason report = [] then [] else carriedMessage report

/-- The fields of the line, those of the lists one by one. -/
def fieldCount (report : PackProbeReport) : ℕ :=
  9 + (if report.catalog = none then 1 else 3) + report.unreadableAssets.length + report.profiles.length +
    report.errors.length +
    if packProbeReason report = [] then 0 else if carriedMessage report = [] then 1 else 2

section Carried
variable (report : PackProbeReport)

lemma length_reasonMembers : (membersFlat [] (reasonMembers report)).length =
    if packProbeReason report = [] then 0 else if carriedMessage report = [] then 1 else 2 := by
  unfold reasonMembers
  split_ifs <;> rfl

lemma length_packProbeFields : (packProbeFields report).length = fieldCount report := by
  have hcatalog : ((catalogMember report.catalog).flat (childPath [] (catalogMember report.catalog).key)).length =
      if report.catalog = none then 1 else 3 := by
    cases report.catalog <;> rfl
  have harray : ∀ texts path, (arrayFlat texts path).length = texts.length + 1 :=
    fun texts path => congrArg Nat.succ (length_elementsFlat 0 texts)
  have hreason := length_reasonMembers report
  unfold membersFlat at hreason
  unfold packProbeFields objectFlat membersFlat reportMembers fieldCount
  simp only [List.length_cons,List.flatMap_cons,List.length_append,List.cons_append,List.nil_append,hcatalog,hreason,
    schemaMember,stringMember,booleanMember,arrayMember,harray]
  omega

lemma reason_field : (stringField (packProbeFields report) "reason".toList).getD [] = packProbeReason report := by
  by_cases hreason : packProbeReason report = []
  · have hmissing : "reason".toList ∉ (schemaMember :: reportMembers report).map Member.key := by
      rw [map_key,map_key_reasonMembers,if_pos hreason]
      decide
    rw [stringField_missing report (by decide) hmissing,hreason]
    rfl
  · have hmember : (schemaMember :: reportMembers report)[9]? =
        some (stringMember "reason".toList (packProbeReason report) (by decide)) := by
      unfold reportMembers reasonMembers
      rw [if_neg hreason]
      rfl
    rw [stringField_member report 9 hmember]
    rfl

lemma message_field : (stringField (packProbeFields report) "message".toList).getD [] =
    if packProbeReason report = [] then [] else carriedMessage report := by
  by_cases hreason : packProbeReason report = []
  · have hmissing : "message".toList ∉ (schemaMember :: reportMembers report).map Member.key := by
      rw [map_key,map_key_reasonMembers,if_pos hreason]
      decide
    rw [stringField_missing report (by decide) hmissing,if_pos hreason]
    rfl
  · rw [if_neg hreason]
    by_cases hmessage : carriedMessage report = []
    · have hmissing : "message".toList ∉ (schemaMember :: reportMembers report).map Member.key := by
        rw [map_key,map_key_reasonMembers,if_neg hreason,if_pos hmessage]
        decide
      rw [stringField_missing report (by decide) hmissing,hmessage]
      rfl
    · have hmember : (schemaMember :: reportMembers report)[10]? =
          some (stringMember "message".toList (carriedMessage report) (by decide)) := by
        unfold reportMembers reasonMembers
        rw [if_neg hreason,if_neg hmessage]
        rfl
      rw [stringField_member report 10 hmember]
      rfl

/-- The probe that is read from the fields of the line. -/
lemma packProbeOf_packProbeFields (hfew : fieldCount report ≤ maxJsonFields) :
    packProbeOf (packProbeFields report) = some (carried report) := by
  have hbound : maxJsonFields < 2 ^ 64 := by decide
  have hlists : report.unreadableAssets.length < 2 ^ 64 ∧ report.profiles.length < 2 ^ 64 ∧
      report.errors.length < 2 ^ 64 := by
    unfold fieldCount at hfew
    omega
  obtain ⟨hposes,hevents⟩ := catalog_fields report
  have hassets := (array_member report 5 rfl hlists.1).2
  obtain ⟨hprofiles,hprofileList⟩ := array_member report 6 rfl hlists.2.1
  have herrors := (array_member report 8 rfl hlists.2.2).2
  unfold packProbeOf
  rw [stringField_member report 0 rfl,booleanField_member report 1 rfl,stringField_member report 2 rfl,
    stringField_member report 3 rfl,stringField_member report 7 rfl,hposes,hevents,hassets,hprofiles,
      hprofileList,herrors,
    reason_field,message_field]
  rfl

lemma parsePackProbe_formatPackProbeLine : parsePackProbe (formatPackProbeLine report) =
    if (packProbeJson report).length ≤ maxJsonBytes ∧ fieldCount report ≤ maxJsonFields then some (carried report)
    else none := by
  unfold parsePackProbe
  rw [lastLineWith_formatPackProbeLine]
  dsimp only
  rw [parseJsonFields_packProbeJson,length_packProbeFields]
  by_cases hlimits : (packProbeJson report).length ≤ maxJsonBytes ∧ fieldCount report ≤ maxJsonFields
  · rw [if_pos hlimits,if_pos hlimits]
    exact packProbeOf_packProbeFields report hlimits.2
  · rw [if_neg hlimits,if_neg hlimits]

lemma packProbeExitCode_eq_zero : packProbeExitCode report = 0 ↔ packProbeReason report = [] := by
  unfold packProbeExitCode
  dsimp only
  split_ifs with hreason hregistry
  · exact ⟨fun _ => hreason,fun _ => rfl⟩
  · exact ⟨fun hcode => absurd hcode (by decide),fun hnone => absurd hnone hreason⟩
  · exact ⟨fun hcode => absurd hcode (by decide),fun hnone => absurd hnone hreason⟩

end Carried

/-- A report reads back as all that its line carries, lists in their order and any bytes in their strings, exactly
within the limits of the reader; and the probe exits with zero exactly without a reason. -/
theorem packProbe_reads_back (report : PackProbeReport) :
    parsePackProbe (formatPackProbeLine report) =
        (if (packProbeJson report).length ≤ maxJsonBytes ∧ fieldCount report ≤ maxJsonFields then some (carried report)
        else none) ∧
      (packProbeExitCode report = 0 ↔ packProbeReason report = []) :=
  ⟨parsePackProbe_formatPackProbeLine report,packProbeExitCode_eq_zero report⟩

/-- The message of a pack that can be used is not on its line, and a report of too many errors is not read at all. -/
theorem packProbe_loses_report :
    (parsePackProbe (formatPackProbeLine { opened := true, catalog := some ⟨217,14⟩, message := "m".toList })).map
        PackProbe.message = some [] ∧
      parsePackProbe (formatPackProbeLine { errors := List.replicate 4096 "zip".toList }) = none := by
  constructor
  · decide +kernel
  · have hmany : ¬fieldCount { errors := List.replicate 4096 "zip".toList } ≤ maxJsonFields := by
      have hbound : maxJsonFields = 4096 := rfl
      unfold fieldCount
      rw [List.length_replicate]
      omega
    rw [parsePackProbe_formatPackProbeLine,if_neg fun hlimits => hmany hlimits.2]

end AytherRuntime.Probe
