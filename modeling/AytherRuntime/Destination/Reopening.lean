import AytherRuntime.Destination.Documents

/-! What a destination is opened with again: a ledger that was written is read as it was, and what is read is always a
ledger that the operations keep. -/
namespace AytherRuntime.Destination
open Check (Toml mapM_map_some)
open Storage (tableSize)

section Sound

/-- The progress of a run fits the integers that the code keeps it in. -/
structure Run.Typed (run : Run) : Prop where
  frame : ∀ frame ∈ run.lastExecutedFrame, frame < 2 ^ 64
  sample : ∀ sample ∈ run.lastDurableSample, sample < 2 ^ 64

/-- Two entries share neither the request nor the run. -/
structure Apart (first second : Entry) : Prop where
  request : first.request.requestId ≠ second.request.requestId
  run : first.run.runId ≠ second.run.runId

/-- What holds of every ledger that a destination has in memory. -/
structure RequestLedger.Sound (bytes : DocumentBytes) (ledger : RequestLedger) : Prop where
  valid : ∀ entry ∈ ledger.entries, validPair bytes entry.request entry.run = true
  typed : ∀ entry ∈ ledger.entries, entry.run.Typed
  apart : ledger.entries.Pairwise Apart
  few : ledger.entries.length ≤ maxRegisteredRequests
  generation : ledger.generation < 2 ^ 64

/-- The library reads the documents of the ledgers that can be written. -/
def DocumentLibrary.Reads (library : DocumentLibrary) : Prop :=
  ∀ ledger, encodeLedger library.bytes ledger = true →
    library.parse (ledgerDocument library ledger) = some (ledgerTable library ledger) ∧
    ∀ entry ∈ ledger.entries, library.parse (requestDocument library entry.request) =
      some (requestTable entry.request) ∧
      library.parse (runDocument library entry.run) = some (runTable entry.run)

lemma Apart.symm {first second : Entry} (h : Apart first second) : Apart second first := ⟨h.request.symm,h.run.symm⟩

lemma fromChars_lt {bound n : ℕ} {digits : List Char} (h : fromChars bound digits = some n) : n < bound := by
  unfold fromChars at h
  split_ifs at h with hdigits
  dsimp only at h
  split_ifs at h with hbound
  rwa [← Option.some.inj h]

end Sound

section Fields
variable {table : Toml} {key : String}

lemma identityField_eq {value : String} (h : table.text key = some value) (hidentity : identity value = true) :
    identityField key table = some value := by
  rw [identityField,h,Option.filter_some,if_pos hidentity]

lemma progress_eq {value : Option ℕ} (h : table.get key = (value.map toString).map Toml.string)
    (hbound : ∀ n ∈ value, n < 2 ^ 64) : progress key table = some value := by
  unfold progress
  cases value with
  | none =>
    rw [h]
    rfl
  | some n =>
    rw [h]
    change ((fromChars (2 ^ 64) (toString n).toList).map some) = _
    rw [fromChars_toString,if_pos (hbound n rfl)]
    rfl

lemma progress_lt {value : Option ℕ} (h : progress key table = some value) : ∀ n ∈ value, n < 2 ^ 64 := by
  unfold progress at h
  cases hget : table.get key with
  | none =>
    rw [hget] at h
    cases h
    exact fun n hn => nomatch hn
  | some node =>
    rw [hget] at h
    obtain ⟨read,hread,rfl⟩ := Option.map_eq_some_iff.mp h
    obtain ⟨text,-,hchars⟩ := Option.bind_eq_some_iff.mp hread
    rintro n hn
    cases hn
    exact fromChars_lt hchars

lemma optionalName_eq {value : Option String} {names : List String} (h : table.get key = value.map Toml.string)
    (hnames : ∀ name ∈ value, name ∈ names) : optionalName key names table = some value := by
  unfold optionalName
  cases value with
  | none =>
    rw [h]
    rfl
  | some name =>
    rw [h]
    change ((some name).filter (· ∈ names)).map some = _
    rw [Option.filter_some,if_pos (decide_eq_true (hnames name rfl))]
    rfl

lemma takesField_eq {takes : List String} (h : table.rows "take_ids" = some (takes.map Toml.string))
    (hsome : takes ≠ []) (hfew : takes.length ≤ maxRequestTakes) (hall : takes.all identity = true) :
    takesField table = some takes := by
  have hread : (takes.map Toml.string).mapM (fun node => node.asString.filter identity) = some takes := by
    apply mapM_map_some
    intro take hmem
    change (some take).filter identity = _
    rw [Option.filter_some,if_pos (List.all_eq_true.mp hall take hmem)]
  unfold takesField
  rw [h,Option.bind_some,if_neg,hread]
  rw [List.isEmpty_iff,List.map_eq_nil_iff,List.length_map,not_or,Nat.not_lt]
  exact ⟨hsome,hfew⟩

end Fields

section Parts
variable {bytes : DocumentBytes}

lemma checkDocument_requestTable (request : Request) :
    checkDocument "request" requestFields (requestTable request) = true := by
  obtain ⟨requestId,sessionId,conditionsId,takeIds,admission,language,materialKind⟩ := request
  cases language <;> cases materialKind <;> rfl

lemma checkDocument_runTable (run : Run) : checkDocument "run" runFields (runTable run) = true := by
  obtain ⟨runId,requestId,takeId,phase,playback,evidence,equivalence,frame,sample,cessation⟩ := run
  cases frame <;> cases sample <;> rfl

lemma parseRequest_requestTable {request : Request} (h : request.encodes bytes = true) :
    parseRequest (requestTable request) = some request := by
  unfold Request.encodes at h
  simp only [Bool.and_eq_true,decide_eq_true_eq] at h
  obtain ⟨⟨⟨⟨⟨⟨⟨⟨hrequest,hsession⟩,hconditions⟩,htakes⟩,hfew⟩,hall⟩,hlanguage⟩,hkind⟩,-⟩ := h
  have hreadLanguage : optionalName "language" ["es","en"] (requestTable request) = some request.language := by
    refine optionalName_eq ?_ ?_
    · obtain ⟨_,_,_,_,_,language,kind⟩ := request
      cases language <;> cases kind <;> rfl
    · intro name hname
      rw [hname] at hlanguage
      simpa using hlanguage
  have hreadKind : optionalName "material_kind" ["take","timeline"] (requestTable request) =
      some request.materialKind := by
    refine optionalName_eq ?_ ?_
    · obtain ⟨_,_,_,_,_,language,kind⟩ := request
      cases language <;> cases kind <;> rfl
    · intro name hname
      rw [hname] at hkind
      simpa using hkind
  have hadmission : enumField admissionName [.pending,.accepted,.rejected] "admission" (requestTable request) =
      some request.admission := by
    change [Admission.pending,.accepted,.rejected].find?
        (fun value => admissionName value = admissionName request.admission) = _
    cases request.admission <;> decide
  have hrequestId : identityField "request_id" (requestTable request) = some request.requestId :=
    identityField_eq rfl hrequest
  have hsessionId : identityField "session_id" (requestTable request) = some request.sessionId :=
    identityField_eq rfl hsession
  have hconditionsId : identityField "conditions_id" (requestTable request) = some request.conditionsId :=
    identityField_eq rfl hconditions
  unfold parseRequest
  rw [if_pos (checkDocument_requestTable request),hreadLanguage,hreadKind,hrequestId,hsessionId,hconditionsId,
    hadmission,takesField_eq rfl htakes hfew hall]
  rfl

lemma parseRun_runTable {run : Run} (h : run.encodes bytes = true) (htyped : run.Typed) :
    parseRun (runTable run) = some run := by
  unfold Run.encodes at h
  simp only [Bool.and_eq_true] at h
  obtain ⟨⟨⟨hrun,hrequest⟩,htake⟩,-⟩ := h
  have hphase : enumField phaseName [.preparing,.ready,.playing,.closing,.closed] "phase" (runTable run) =
      some run.phase := by
    change [Phase.preparing,.ready,.playing,.closing,.closed].find?
        (fun value => phaseName value = phaseName run.phase) = _
    cases run.phase <;> decide
  have hplayback : enumField playbackName [.notStarted,.inProgress,.naturalEnd,.cancelled,.error] "playback_result"
      (runTable run) = some run.playbackResult := by
    change [PlaybackResult.notStarted,.inProgress,.naturalEnd,.cancelled,.error].find?
      (fun value => playbackName value = playbackName run.playbackResult) = _
    cases run.playbackResult <;> decide
  have hevidence : enumField evidenceName [.pending,.inProgress,.complete,.incomplete] "evidence_result"
      (runTable run) =
      some run.evidenceResult := by
    change [EvidenceResult.pending,.inProgress,.complete,.incomplete].find?
      (fun value => evidenceName value = evidenceName run.evidenceResult) = _
    cases run.evidenceResult <;> decide
  have hequivalence : enumField equivalenceName [.unknown,.verified,.incomplete] "equivalence_result" (runTable run) =
      some run.equivalenceResult := by
    change [EquivalenceResult.unknown,.verified,.incomplete].find?
      (fun value => equivalenceName value = equivalenceName run.equivalenceResult) = _
    cases run.equivalenceResult <;> decide
  have hframe : progress "last_executed_frame" (runTable run) = some run.lastExecutedFrame := by
    refine progress_eq ?_ htyped.frame
    obtain ⟨_,_,_,_,_,_,_,frame,sample,_⟩ := run
    cases frame <;> cases sample <;> rfl
  have hsample : progress "last_durable_sample" (runTable run) = some run.lastDurableSample := by
    refine progress_eq ?_ htyped.sample
    obtain ⟨_,_,_,_,_,_,_,frame,sample,_⟩ := run
    cases frame <;> cases sample <;> rfl
  have hrunId : identityField "run_id" (runTable run) = some run.runId := identityField_eq rfl hrun
  have hrequestId : identityField "request_id" (runTable run) = some run.requestId := identityField_eq rfl hrequest
  have htakeId : identityField "take_id" (runTable run) = some run.takeId := identityField_eq rfl htake
  have hcessation : (runTable run).flag "cessation_confirmed" = some run.cessationConfirmed := rfl
  unfold parseRun
  rw [if_pos (checkDocument_runTable run),hrunId,hrequestId,htakeId,hphase,hplayback,hevidence,hequivalence,
    hframe,hsample,
    hcessation]
  rfl

/-- A run that is read fits the integers that it is kept in. -/
lemma parseRun_typed {table : Toml} {run : Run} (h : parseRun table = some run) : run.Typed := by
  unfold parseRun at h
  split_ifs at h with hdocument
  simp only [Option.bind_eq_bind,Option.bind_eq_some_iff] at h
  obtain ⟨_,-,_,-,_,-,_,-,_,-,_,-,_,-,frame,hframe,sample,hsample,_,-,hrun⟩ := h
  obtain rfl := Option.some.inj hrun
  exact ⟨progress_lt hframe,progress_lt hsample⟩

end Parts

section Entries
variable {library : DocumentLibrary}

lemma readDocument_eq {α : Type} {decode : Toml → Option α} {text : String} {table : Toml} {value : α}
    (hsize : text.utf8ByteSize ≤ maxMetadataBytes) (hparse : library.parse text = some table)
    (hdecode : decode table = some value) : readDocument library decode text = some value := by
  rw [readDocument,if_neg (Nat.not_lt.mpr hsize),hparse,Option.bind_some,hdecode]

lemma Request.encodes_size {request : Request} (h : request.encodes library.bytes = true) :
    (requestDocument library request).utf8ByteSize ≤ maxMetadataBytes := by
  unfold Request.encodes at h
  rw [Bool.and_eq_true,decide_eq_true_eq] at h
  exact h.2

lemma Run.encodes_size {run : Run} (h : run.encodes library.bytes = true) :
    (runDocument library run).utf8ByteSize ≤ maxMetadataBytes := by
  unfold Run.encodes at h
  rw [Bool.and_eq_true,decide_eq_true_eq] at h
  exact h.2

lemma validPair_iff {bytes : DocumentBytes} {request : Request} {run : Run} : validPair bytes request run = true ↔
    request.admission = .accepted ∧ run.requestId = request.requestId ∧ request.encodes bytes = true ∧
      run.encodes bytes = true := by
  unfold validPair
  rw [Bool.and_eq_true,Bool.and_eq_true,Bool.and_eq_true,decide_eq_true_eq,decide_eq_true_eq,and_assoc,and_assoc]

lemma parseEntry_entryTable {entry : Entry} (h : validPair library.bytes entry.request entry.run = true)
    (htyped : entry.run.Typed)
    (hrequest : library.parse (requestDocument library entry.request) = some (requestTable entry.request))
    (hrun : library.parse (runDocument library entry.run) = some (runTable entry.run)) :
    parseEntry library (entryTable library entry) = some entry := by
  obtain ⟨-,-,hencodes,hrunEncodes⟩ := validPair_iff.mp h
  have hreadRequest : requestFromToml library (requestDocument library entry.request) = some entry.request :=
    readDocument_eq (Request.encodes_size hencodes) hrequest (parseRequest_requestTable hencodes)
  have hreadRun : runFromToml library (runDocument library entry.run) = some entry.run :=
    readDocument_eq (Run.encodes_size hrunEncodes) hrun (parseRun_runTable hrunEncodes htyped)
  have hid : (entryTable library entry).text "request_id" = some entry.request.requestId := rfl
  have hrequestText : (entryTable library entry).text "request_document" =
      some (requestDocument library entry.request) :=
    rfl
  have hrunText : (entryTable library entry).text "run_document" = some (runDocument library entry.run) := rfl
  unfold parseEntry
  rw [hid,hrequestText,hrunText]
  simp only [Option.bind_eq_bind,Option.bind_some,hreadRequest,hreadRun]
  exact if_pos ⟨rfl,trivial,h⟩

/-- An entry that is read is a pair that the ledger takes. -/
lemma parseEntry_sound {node : Toml} {entry : Entry} (h : parseEntry library node = some entry) :
    validPair library.bytes entry.request entry.run = true ∧ entry.run.Typed := by
  unfold parseEntry at h
  simp only [Option.bind_eq_bind,Option.bind_eq_some_iff] at h
  obtain ⟨requestId,-,request,-,run,hrun,hentry⟩ := h
  split_ifs at hentry with hvalid
  obtain rfl := Option.some.inj hentry
  obtain ⟨text,-,hread⟩ := hrun
  unfold runFromToml readDocument at hread
  split_ifs at hread with hsize
  obtain ⟨table,-,hparsed⟩ := Option.bind_eq_some_iff.mp hread
  exact ⟨hvalid.2.2,parseRun_typed hparsed⟩

lemma any_shared_iff {entry : Entry} {entries : List Entry} :
    (entries.any fun other => other.request.requestId = entry.request.requestId ∨ other.run.runId = entry.run.runId) =
      false ↔ ∀ other ∈ entries, Apart other entry := by
  rw [List.any_eq_false]
  refine forall₂_congr fun other _ => ?_
  rw [decide_eq_true_eq,not_or]
  exact ⟨fun h => ⟨h.1,h.2⟩,fun h => ⟨h.request,h.run⟩⟩

/-- The entries of a ledger are read one after another. -/
lemma decodeEntries_entryTable {entries front : List Entry}
    (hread : ∀ entry ∈ entries, parseEntry library (entryTable library entry) = some entry)
    (hapart : (front ++ entries).Pairwise Apart) :
    decodeEntries library (entries.map (entryTable library)) front = some (front ++ entries) := by
  induction entries generalizing front with
  | nil => rw [List.append_nil,List.map_nil,decodeEntries]
  | cons entry entries ih =>
    obtain ⟨hentry,hentries⟩ := List.forall_mem_cons.mp hread
    have hnew : ∀ other ∈ front, Apart other entry := fun other hother =>
      (List.pairwise_append.mp hapart).2.2 other hother entry List.mem_cons_self
    rw [List.map_cons,decodeEntries,hentry,Option.bind_some,any_shared_iff.mpr hnew,if_neg (by decide),
      ih hentries (by rwa [List.append_assoc]),List.append_assoc]
    rfl

/-- What is read is as long as what it is read of, and its entries are sound and apart. -/
lemma decodeEntries_sound {nodes : List Toml} {front entries : List Entry}
    (h : decodeEntries library nodes front = some entries)
    (hfront : ∀ entry ∈ front, validPair library.bytes entry.request entry.run = true ∧ entry.run.Typed)
    (hapart : front.Pairwise Apart) :
    (∀ entry ∈ entries, validPair library.bytes entry.request entry.run = true ∧ entry.run.Typed) ∧
      entries.Pairwise Apart ∧ entries.length = front.length + nodes.length := by
  induction nodes generalizing front with
  | nil =>
    rw [decodeEntries] at h
    obtain rfl := Option.some.inj h
    exact ⟨hfront,hapart,rfl⟩
  | cons node nodes ih =>
    rw [decodeEntries] at h
    obtain ⟨entry,hentry,hrest⟩ := Option.bind_eq_some_iff.mp h
    split_ifs at hrest with hshared
    have hnew := any_shared_iff.mp (Bool.eq_false_iff.mpr hshared)
    obtain ⟨hall,hpairs,hlength⟩ := ih hrest
      (List.forall_mem_append.mpr ⟨hfront,List.forall_mem_singleton.mpr (parseEntry_sound hentry)⟩)
      (List.pairwise_append.mpr ⟨hapart,List.pairwise_singleton _ _,fun other hother _ hmem =>
        List.mem_singleton.mp hmem ▸ hnew other hother⟩)
    refine ⟨hall,hpairs,?_⟩
    rw [hlength,List.length_append,List.length_singleton,List.length_cons]
    omega

end Entries
section Ledger
variable {library : DocumentLibrary} {ledger : RequestLedger} {text : String}

/-- A ledger that was written is read as it was. -/
theorem decodeLedgerDocument_ledgerDocument (hlibrary : library.Reads) (h : encodeLedger library.bytes ledger = true)
    (hsound : ledger.Sound library.bytes) :
    decodeLedgerDocument library (ledgerDocument library ledger) = .ok ledger := by
  obtain ⟨hparse,hdocuments⟩ := hlibrary ledger h
  unfold encodeLedger at h
  simp only [Bool.and_eq_true,decide_eq_true_eq] at h
  obtain ⟨⟨⟨⟨⟨hgeneration,hsome⟩,hfew⟩,-⟩,-⟩,hsize⟩ := h
  have hread : ∀ entry ∈ ledger.entries, parseEntry library (entryTable library entry) = some entry :=
    fun entry hentry =>
    parseEntry_entryTable (hsound.valid entry hentry) (hsound.typed entry hentry) (hdocuments entry hentry).1
      (hdocuments entry hentry).2
  have hentries : decodeEntries library (ledger.entries.map (entryTable library)) [] = some ledger.entries :=
    decodeEntries_entryTable hread hsound.apart
  have hnumber : generationField (ledgerTable library ledger) = some ledger.generation := by
    change (fromChars (2 ^ 64) (toString ledger.generation).toList).filter (· ≠ 0) = _
    rw [fromChars_toString,if_pos hsound.generation,Option.filter_some,if_pos (decide_eq_true hgeneration)]
  have hnodes : entriesField (ledgerTable library ledger) = some (ledger.entries.map (entryTable library)) := by
    change (some (ledger.entries.map (entryTable library))).filter _ = _
    rw [Option.filter_some,if_pos]
    rw [Bool.and_eq_true,Bool.not_eq_true',decide_eq_true_eq,List.isEmpty_eq_false_iff,List.length_map]
    exact ⟨fun hnil => hsome (List.map_eq_nil_iff.mp hnil),hfew⟩
  have hledger : parseLedger library (ledgerTable library ledger) = some ledger := by
    unfold parseLedger
    rw [if_pos ⟨rfl,rfl⟩,hnumber,hnodes]
    simp only [Option.bind_eq_bind,Option.bind_some,hentries]
  have hlarge : ¬maxRequestLedgerBytes < (ledgerDocument library ledger).utf8ByteSize := Nat.not_lt.mpr hsize
  unfold decodeLedgerDocument
  rw [if_neg hlarge,hparse]
  dsimp only
  have hversion : (ledgerTable library ledger).number "schema_version" = some 1 ∧
      (ledgerTable library ledger).number "schema_minor" = some 0 := ⟨rfl,rfl⟩
  rw [hversion.1,hversion.2,if_neg (by decide),hledger]

/-- Whatever is read is sound. -/
theorem decodeLedgerDocument_sound (h : decodeLedgerDocument library text = .ok ledger) :
    ledger.Sound library.bytes ∧ ledger.generation ≠ 0 := by
  unfold decodeLedgerDocument at h
  split_ifs at h with hsize
  cases hparse : library.parse text with
  | none =>
    rw [hparse] at h
    exact nomatch h
  | some document =>
    rw [hparse] at h
    dsimp only at h
    split_ifs at h with hversion
    cases hledger : parseLedger library document with
    | none =>
      rw [hledger] at h
      exact nomatch h
    | some read =>
      rw [hledger] at h
      obtain rfl := Except.ok.inj h
      unfold parseLedger at hledger
      split_ifs at hledger with hshape
      simp only [Option.bind_eq_bind,Option.bind_eq_some_iff] at hledger
      obtain ⟨generation,hgeneration,nodes,hnodes,entries,hentries,hread⟩ := hledger
      obtain rfl := Option.some.inj hread
      obtain ⟨hnumber,hpositive⟩ := Option.filter_eq_some_iff.mp hgeneration
      obtain ⟨_,-,hchars⟩ := Option.bind_eq_some_iff.mp hnumber
      obtain ⟨-,hfew⟩ := Option.filter_eq_some_iff.mp hnodes
      rw [Bool.and_eq_true,decide_eq_true_eq] at hfew
      obtain ⟨hall,hapart,hlength⟩ := decodeEntries_sound hentries (List.forall_mem_nil _) List.Pairwise.nil
      refine ⟨⟨fun entry hentry => (hall entry hentry).1,fun entry hentry => (hall entry hentry).2,hapart,?_,
        fromChars_lt hchars⟩,of_decide_eq_true hpositive⟩
      rw [hlength,List.length_nil,Nat.zero_add]
      exact hfew.2

end Ledger
end AytherRuntime.Destination
