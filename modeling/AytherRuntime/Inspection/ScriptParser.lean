import AytherRuntime.Fact.Model
import AytherRuntime.Inspection.InputScript
import AytherRuntime.Library.Lines

/-! The text of a script: a step a line, behind what it waits for. A character stands for one byte of the text. -/
namespace AytherRuntime.Inspection.Script
open Lines

structure ScriptError where
  line : ℕ
  reason : String
  deriving DecidableEq, Repr

section Words

def betweenWords (character : Char) : Bool := character = ' ' || character = '\t'

def words (line : List Char) : List (List Char) := (line.splitOnP betweenWords).filter (· ≠ [])

def number (text : List Char) : Option UInt64 := (fromChars (2 ^ 64) text).map UInt64.ofNat

/-- The text behind the first word that it begins with and that leaves a number. -/
def namedNumber {α : Type} (names : List (List Char × α)) (text : List Char) : Option (α × UInt64) :=
  names.findSome? fun (name,value) =>
    if name.isPrefixOf text then (number (text.drop name.length)).map (value,·) else none

end Words

section Steps

def triggerNames : List (List Char × ScriptTriggerKind) :=
  [("frame=".toList,.frame),("paused=".toList,.paused),("after=".toList,.afterMs)]

def trigger (text : List Char) : Option ScriptTrigger :=
  (namedNumber triggerNames text).map fun (kind,value) => { kind, value }

def keyNames : List (List Char × Key) :=
  [("space".toList,.space),("left".toList,.left),("right".toList,.right),("up".toList,.up),("down".toList,.down),
    ("i".toList,.info),("other".toList,.other)]

def pressNames : List (List Char × ScriptActionKind) :=
  [("down".toList,.keyDown),("up".toList,.keyUp),("repeat".toList,.keyRepeat)]

def focusNames : List (List Char × ScriptActionKind) := [("on".toList,.focusGained),("off".toList,.focusLost)]

/-- `scroll_key_of_name` -/
def scrollNames : List (List Char × ScrollKey) :=
  [("wheel_up".toList,.wheelUp),("wheel_down".toList,.wheelDown),("page_up".toList,.pageUp),
    ("page_down".toList,.pageDown),("home".toList,.home),("end".toList,.end)]

def simpleNames : List (List Char × ScriptActionKind) :=
  [("minimize".toList,.minimize),("restore".toList,.restore),("audio_removed".toList,.audioRemoved),
    ("audio_added".toList,.audioAdded),("close".toList,.close),("corrupt_checkpoints".toList,.corruptCheckpoints),
    ("corrupt_visual_state".toList,.corruptVisualState)]

/-- The action of a name and of the words behind it. -/
def action (name : List Char) : List (List Char) → Option ScriptAction
  | [pressed,how] =>
    if name = "key".toList then
      (keyNames.lookup pressed).bind fun key => (pressNames.lookup how).map fun kind => { kind, key }
    else none
  | [argument] =>
    if name = "focus".toList then (focusNames.lookup argument).map fun kind => { kind }
    else if name = "scroll".toList then
      (scrollNames.lookup argument).map fun scroll => { kind := .scroll, scroll }
    else if name = "video_fail".toList then
      (number argument).bind fun failures =>
        if failures = 0 ∨ 1000 < failures then none else some { kind := .videoFail, count := failures.toUInt32 }
    else none
  | [] => (simpleNames.lookup name).map fun kind => { kind }
  | _ => none

/-- The trigger of a line with its retry, if there is one, and the words behind them. -/
def retried (trigger : ScriptTrigger) : List (List Char) → Option (ScriptTrigger × List (List Char))
  | [] => some (trigger,[])
  | word :: rest =>
    if "retry=".toList.isPrefixOf word then
      (number (word.drop 6)).bind fun retry =>
        if trigger.kind = .paused then some ({ trigger with retryMs := some retry },rest) else none
    else some (trigger,word :: rest)

/-- The step of a line that is not blank. -/
def parseStep (first : List Char) (rest : List (List Char)) : Except String ScriptStep :=
  match trigger first with
  | none => .error "invalid_trigger"
  | some trigger =>
    match retried trigger rest with
    | none => .error "invalid_retry"
    | some (_,[]) => .error "missing_action"
    | some (trigger,name :: arguments) =>
      match action name arguments with
      | none => .error "invalid_action"
      | some action => .ok ⟨trigger,action⟩

/-- A line without its comment and without the carriage return at its end. -/
def stripped (line : List Char) : List Char :=
  let line := line.takeWhile (· ≠ '#')
  if line.getLast? = some '\r' then line.dropLast else line

def parseLines : ℕ → List (List Char) → Except ScriptError (List ScriptStep)
  | _, [] => .ok []
  | line, text :: lines =>
    match words (stripped text) with
    | [] => parseLines (line + 1) lines
    | first :: rest =>
      match parseStep first rest with
      | .error reason => .error ⟨line,reason⟩
      | .ok step => (parseLines (line + 1) lines).map (step :: ·)

def parseInputScript (text : List Char) : Except ScriptError (List ScriptStep) := parseLines 1 (linesOf text)

end Steps

section Spelled

/-- An action that a line can spell. -/
structure Spelled (action : ScriptAction) : Prop where
  key : action.key ≠ .other → action.kind = .keyDown ∨ action.kind = .keyUp ∨ action.kind = .keyRepeat
  count : if action.kind = .videoFail then 1 ≤ action.count ∧ action.count ≤ 1000 else action.count = 0
  scroll : action.scroll ≠ .home → action.kind = .scroll
  retry : action.retry = false

/-- A step that a line can spell: only a pause is asked for again. -/
structure SpelledStep (step : ScriptStep) : Prop where
  retry : step.trigger.retryMs.isSome = true → step.trigger.kind = .paused
  action : Spelled step.action

lemma spelled_simple {kind : ScriptActionKind} (h : kind ≠ .videoFail) : Spelled { kind } where
  key hkey := absurd rfl hkey
  count := by rw [if_neg h]
  scroll hscroll := absurd rfl hscroll
  retry := rfl

lemma mem_of_lookup {α : Type} {names : List (List Char × α)} {text : List Char} {value : α}
    (h : names.lookup text = some value) : (text,value) ∈ names := by
  induction names with
  | nil => cases h
  | cons named names ih =>
    obtain ⟨name,other⟩ := named
    rw [List.lookup_cons] at h
    cases hname : text == name with
    | true =>
      rw [hname] at h
      cases h
      rw [eq_of_beq hname]
      exact List.mem_cons_self
    | false =>
      rw [hname] at h
      exact List.mem_cons_of_mem _ (ih h)

lemma action_spelled {name : List Char} {arguments : List (List Char)} {spelled : ScriptAction}
    (h : action name arguments = some spelled) : Spelled spelled := by
  unfold action at h
  split at h
  · rename_i pressed how
    split_ifs at h
    obtain ⟨key,hkey,h⟩ := Option.bind_eq_some_iff.mp h
    obtain ⟨kind,hkind,rfl⟩ := Option.map_eq_some_iff.mp h
    have hpress : kind = .keyDown ∨ kind = .keyUp ∨ kind = .keyRepeat := by
      have hmem := mem_of_lookup hkind
      simp only [pressNames,List.mem_cons,List.not_mem_nil,or_false,Prod.mk.injEq] at hmem
      obtain ⟨-,h⟩ | ⟨-,h⟩ | ⟨-,h⟩ := hmem
      · exact Or.inl h
      · exact Or.inr (Or.inl h)
      · exact Or.inr (Or.inr h)
    refine ⟨fun _ => hpress,?_,fun hscroll => absurd rfl hscroll,rfl⟩
    obtain rfl | rfl | rfl := hpress <;> rfl
  · split_ifs at h
    · obtain ⟨kind,hkind,rfl⟩ := Option.map_eq_some_iff.mp h
      have hmem := mem_of_lookup hkind
      simp only [focusNames,List.mem_cons,List.not_mem_nil,or_false,Prod.mk.injEq] at hmem
      obtain ⟨-,rfl⟩ | ⟨-,rfl⟩ := hmem <;> exact spelled_simple (by decide)
    · obtain ⟨scroll,-,rfl⟩ := Option.map_eq_some_iff.mp h
      exact ⟨fun hkey => absurd rfl hkey,rfl,fun _ => rfl,rfl⟩
    · obtain ⟨failures,-,h⟩ := Option.bind_eq_some_iff.mp h
      split_ifs at h with hfailures
      cases h
      obtain ⟨hsome,hlimit⟩ := not_or.mp hfailures
      refine ⟨fun hkey => absurd rfl hkey,?_,fun hscroll => absurd rfl hscroll,rfl⟩
      rw [if_pos rfl,UInt32.le_iff_toNat_le,UInt32.le_iff_toNat_le,UInt64.toNat_toUInt32]
      have hpos : failures.toNat ≠ 0 := fun hzero => hsome (UInt64.toNat.inj hzero)
      have hbound : failures.toNat ≤ 1000 := by
        rw [UInt64.lt_iff_toNat_lt] at hlimit
        exact Nat.not_lt.mp hlimit
      rw [Nat.mod_eq_of_lt (by omega)]
      exact ⟨Nat.pos_of_ne_zero hpos,hbound⟩
  · obtain ⟨kind,hkind,rfl⟩ := Option.map_eq_some_iff.mp h
    have hmem := mem_of_lookup hkind
    simp only [simpleNames,List.mem_cons,List.not_mem_nil,or_false,Prod.mk.injEq] at hmem
    obtain ⟨-,rfl⟩ | ⟨-,rfl⟩ | ⟨-,rfl⟩ | ⟨-,rfl⟩ | ⟨-,rfl⟩ | ⟨-,rfl⟩ | ⟨-,rfl⟩ := hmem <;>
      exact spelled_simple (by decide)
  · cases h

lemma trigger_retryMs {text : List Char} {when_ : ScriptTrigger} (h : trigger text = some when_) :
    when_.retryMs = none := by
  obtain ⟨-,-,rfl⟩ := Option.map_eq_some_iff.mp h
  rfl

lemma retried_spelled {start last : ScriptTrigger} {words rest : List (List Char)} (hstart : start.retryMs = none)
    (h : retried start words = some (last,rest)) : last.retryMs.isSome = true → last.kind = .paused := by
  unfold retried at h
  split at h
  · cases h
    rw [hstart]
    exact fun hsome => absurd hsome Bool.false_ne_true
  · rename_i word later
    by_cases hretry : "retry=".toList.isPrefixOf word = true
    · rw [if_pos hretry] at h
      obtain ⟨wait,-,h⟩ := Option.bind_eq_some_iff.mp h
      by_cases hkind : start.kind = .paused
      · rw [if_pos hkind] at h
        cases h
        exact fun _ => hkind
      · rw [if_neg hkind] at h
        cases h
    · rw [if_neg hretry] at h
      cases h
      rw [hstart]
      exact fun hsome => absurd hsome Bool.false_ne_true

lemma parseStep_spelled {first : List Char} {rest : List (List Char)} {step : ScriptStep}
    (h : parseStep first rest = .ok step) : SpelledStep step := by
  unfold parseStep at h
  split at h
  · cases h
  rename_i start hstart
  split at h
  · cases h
  · cases h
  rename_i last name arguments hretried
  split at h
  · cases h
  rename_i spelled haction
  cases h
  exact ⟨retried_spelled (trigger_retryMs hstart) hretried,action_spelled haction⟩

lemma parseLines_spelled {line : ℕ} {lines : List (List Char)} {steps : List ScriptStep}
    (h : parseLines line lines = .ok steps) : ∀ step ∈ steps, SpelledStep step := by
  induction lines generalizing line steps with
  | nil =>
    cases h
    exact List.forall_mem_nil _
  | cons text lines ih =>
    unfold parseLines at h
    split at h
    · exact ih h
    · split at h
      · cases h
      · rename_i step hstep
        cases hlater : parseLines (line + 1) lines with
        | error error =>
          rw [hlater] at h
          cases h
        | ok later =>
          rw [hlater] at h
          cases h
          exact List.forall_mem_cons.mpr ⟨parseStep_spelled hstep,ih hlater⟩

end Spelled

section Spelling

def plainChar (c : Char) : Bool := c ≠ ' ' && c ≠ '\t' && c ≠ '#' && c ≠ '\n'

lemma plainChar_iff {c : Char} : plainChar c = true ↔ c ≠ ' ' ∧ c ≠ '\t' ∧ c ≠ '#' ∧ c ≠ '\n' := by
  simp [plainChar,and_assoc]

/-- A word that the parser keeps as it is. -/
def Plain (word : List Char) : Prop := word ≠ [] ∧ word.all plainChar = true

lemma Plain.chars {word : List Char} (h : Plain word) {c : Char} (hc : c ∈ word) :
    c ≠ ' ' ∧ c ≠ '\t' ∧ c ≠ '#' ∧ c ≠ '\n' := plainChar_iff.mp (List.all_eq_true.mp h.2 c hc)

instance plainDecidable (word : List Char) : Decidable (Plain word) := inferInstanceAs (Decidable (_ ∧ _))

/-- The words with a blank behind each. -/
def spellWords (words : List (List Char)) : List Char := words.flatMap (· ++ [' '])

lemma words_spellWords {parts : List (List Char)} (h : ∀ word ∈ parts, Plain word) :
    words (spellWords parts) = parts := by
  induction parts with
  | nil => rfl
  | cons word parts ih =>
    obtain ⟨hword,hparts⟩ := List.forall_mem_cons.mp h
    have hno : ∀ c ∈ word, betweenWords c = false := fun c hc => by
      obtain ⟨hblank,htab,-⟩ := hword.chars hc
      simp [betweenWords,hblank,htab]
    unfold words spellWords at ih ⊢
    rw [List.flatMap_cons,List.append_assoc,List.singleton_append,
      List.splitOnP_append_cons_of_forall_mem hno _ rfl,List.filter_cons_of_pos (by simp [hword.1]),ih hparts]

lemma getLast?_spellWords {parts : List (List Char)} {c : Char} (h : (spellWords parts).getLast? = some c) :
    c = ' ' := by
  obtain rfl | ⟨front,word,rfl⟩ := List.eq_nil_or_concat parts
  · cases h
  · unfold spellWords at h
    rw [List.concat_eq_append,List.flatMap_append,List.flatMap_singleton,← List.append_assoc,List.getLast?_concat] at h
    exact (Option.some.inj h).symm

lemma stripped_spellWords {parts : List (List Char)} (h : ∀ word ∈ parts, Plain word) :
    stripped (spellWords parts) = spellWords parts := by
  have hno : ∀ c ∈ spellWords parts, decide (c ≠ '#') = true := fun c hc => by
    obtain ⟨word,hword,hc⟩ := List.mem_flatMap.mp hc
    obtain hc | hc := List.mem_append.mp hc
    · exact decide_eq_true ((h word hword).chars hc).2.2.1
    · rw [List.mem_singleton.mp hc]
      rfl
  have hwhole : (spellWords parts).takeWhile (fun c => decide (c ≠ '#')) = spellWords parts := by
    have htake := @List.takeWhile_append_of_pos _ _ _ [] hno
    rwa [List.append_nil,List.takeWhile_nil,List.append_nil] at htake
  unfold stripped
  rw [hwhole]
  exact if_neg fun hlast => absurd (getLast?_spellWords hlast) (by decide)

lemma newline_not_mem_spellWords {parts : List (List Char)} (h : ∀ word ∈ parts, Plain word) :
    '\n' ∉ spellWords parts := by
  intro hmem
  obtain ⟨word,hword,hc⟩ := List.mem_flatMap.mp hmem
  obtain hc | hc := List.mem_append.mp hc
  · exact ((h word hword).chars hc).2.2.2 rfl
  · exact absurd (List.mem_singleton.mp hc) (by decide)

/-- `std::to_string` -/
def decimal (n : UInt64) : List Char := (toString n.toNat).toList

lemma number_decimal (n : UInt64) : number (decimal n) = some n := by
  unfold number decimal
  rw [fromChars_toString,if_pos n.toNat_lt]
  simp

lemma plain_append {front : List Char} (hfront : front.all plainChar = true) (n : UInt64) :
    Plain (front ++ decimal n) := by
  have hdigits : decimal n = Nat.toDigits 10 n.toNat := Nat.toList_repr
  refine ⟨fun hnil => Nat.toDigits_ne_nil (hdigits ▸ (List.append_eq_nil_iff.mp hnil).2),
    List.all_eq_true.mpr (List.forall_mem_append.mpr ⟨List.all_eq_true.mp hfront,fun c hc => plainChar_iff.mpr ?_⟩)⟩
  rw [hdigits] at hc
  have hdigit := Nat.isDigit_of_mem_toDigits (by decide) (by decide) hc
  refine ⟨?_,?_,?_,?_⟩ <;> rintro rfl <;> exact absurd hdigit (by decide)

def triggerName : ScriptTriggerKind → List Char
  | .frame => "frame=".toList
  | .paused => "paused=".toList
  | .afterMs => "after=".toList

def spellTrigger (trigger : ScriptTrigger) : List (List Char) :=
  (triggerName trigger.kind ++ decimal trigger.value) ::
    trigger.retryMs.toList.map fun wait => "retry=".toList ++ decimal wait

def keyName : Key → List Char
  | .space => "space".toList
  | .left => "left".toList
  | .right => "right".toList
  | .up => "up".toList
  | .down => "down".toList
  | .info => "i".toList
  | .other => "other".toList

def scrollName : ScrollKey → List Char
  | .wheelUp => "wheel_up".toList
  | .wheelDown => "wheel_down".toList
  | .pageUp => "page_up".toList
  | .pageDown => "page_down".toList
  | .home => "home".toList
  | .end => "end".toList

/-- The words of an action, behind its name. -/
def spellAction (action : ScriptAction) : List Char × List (List Char) :=
  match action.kind with
  | .keyDown => ("key".toList,[keyName action.key,"down".toList])
  | .keyUp => ("key".toList,[keyName action.key,"up".toList])
  | .keyRepeat => ("key".toList,[keyName action.key,"repeat".toList])
  | .focusLost => ("focus".toList,["off".toList])
  | .focusGained => ("focus".toList,["on".toList])
  | .scroll => ("scroll".toList,[scrollName action.scroll])
  | .videoFail => ("video_fail".toList,[decimal action.count.toUInt64])
  | .minimize => ("minimize".toList,[])
  | .restore => ("restore".toList,[])
  | .audioRemoved => ("audio_removed".toList,[])
  | .audioAdded => ("audio_added".toList,[])
  | .close => ("close".toList,[])
  | .corruptCheckpoints => ("corrupt_checkpoints".toList,[])
  | .corruptVisualState => ("corrupt_visual_state".toList,[])

def spellStep (step : ScriptStep) : List (List Char) :=
  spellTrigger step.trigger ++ (spellAction step.action).1 :: (spellAction step.action).2

lemma plain_trigger (trigger : ScriptTrigger) : ∀ word ∈ spellTrigger trigger, Plain word := by
  refine List.forall_mem_cons.mpr ⟨plain_append ?_ _,fun word hword => ?_⟩
  · cases trigger.kind <;> decide +kernel
  · obtain ⟨wait,-,rfl⟩ := List.mem_map.mp hword
    exact plain_append (by decide +kernel) wait

lemma plain_action (action : ScriptAction) :
    ∀ word ∈ (spellAction action).1 :: (spellAction action).2, Plain word := by
  have hkey : Plain (keyName action.key) := by cases action.key <;> decide +kernel
  have hscroll : Plain (scrollName action.scroll) := by cases action.scroll <;> decide +kernel
  have hcount : Plain (decimal action.count.toUInt64) := @plain_append [] rfl _
  unfold spellAction
  cases action.kind <;> simp [hkey,hscroll,hcount] <;> decide +kernel

lemma namedNumber_first {α : Type} (name : List Char) (value : α) (names : List (List Char × α)) (n : UInt64) :
    namedNumber ((name,value) :: names) (name ++ decimal n) = some (value,n) := by
  have hname : name.isPrefixOf (name ++ decimal n) = true := List.isPrefixOf_iff_prefix.mpr (List.prefix_append _ _)
  unfold namedNumber
  rw [List.findSome?_cons]
  dsimp only
  rw [if_pos hname,List.drop_left,number_decimal]
  rfl

lemma namedNumber_later {α : Type} {name text : List Char} (hname : name.isPrefixOf text = false) (value : α)
    (names : List (List Char × α)) : namedNumber ((name,value) :: names) text = namedNumber names text := by
  unfold namedNumber
  rw [List.findSome?_cons]
  dsimp only
  rw [hname,if_neg Bool.false_ne_true]

lemma trigger_spell (kind : ScriptTriggerKind) (value : UInt64) :
    trigger (triggerName kind ++ decimal value) = some { kind, value } := by
  unfold trigger triggerNames
  cases kind with
  | frame =>
    rw [show triggerName .frame = "frame=".toList from rfl,namedNumber_first]
    rfl
  | paused =>
    rw [namedNumber_later rfl,show triggerName .paused = "paused=".toList from rfl,namedNumber_first]
    rfl
  | afterMs =>
    rw [namedNumber_later rfl,namedNumber_later rfl,show triggerName .afterMs = "after=".toList from rfl,
      namedNumber_first]
    rfl

lemma action_spell {spelled : ScriptAction} (h : Spelled spelled) :
    action (spellAction spelled).1 (spellAction spelled).2 = some spelled := by
  obtain ⟨kind,key,count,scroll,retry⟩ := spelled
  obtain ⟨hkey,hcount,hscroll,hretry⟩ := h
  obtain rfl : retry = false := hretry
  have hother : ¬(kind = .keyDown ∨ kind = .keyUp ∨ kind = .keyRepeat) → key = .other :=
    fun hnot => by_contra fun hne =>
    hnot (hkey hne)
  have hhome : kind ≠ .scroll → scroll = .home := fun hnot => by_contra fun hne => hnot (hscroll hne)
  cases kind with
  | keyDown | keyUp | keyRepeat =>
    obtain rfl : count = 0 := hcount
    obtain rfl := hhome (by decide)
    cases key <;> rfl
  | scroll =>
    obtain rfl : count = 0 := hcount
    obtain rfl := hother (by decide)
    cases scroll <;> rfl
  | videoFail =>
    obtain rfl := hother (by decide)
    obtain rfl := hhome (by decide)
    rw [if_pos rfl] at hcount
    change (number (decimal count.toUInt64)).bind _ = _
    have hpos : 1 ≤ count.toNat := hcount.1
    have hbound : count.toNat ≤ 1000 := hcount.2
    have hfailures : ¬(count.toUInt64 = 0 ∨ 1000 < count.toUInt64) := by
      rintro (hzero | hmore)
      · have hnat := congrArg UInt64.toNat hzero
        rw [UInt32.toNat_toUInt64] at hnat
        exact Nat.not_lt.mpr (Nat.le_of_eq hnat) hpos
      · rw [UInt64.lt_iff_toNat_lt,UInt32.toNat_toUInt64] at hmore
        exact Nat.not_lt.mpr hbound hmore
    rw [number_decimal,Option.bind_some,if_neg hfailures,UInt32.toUInt32_toUInt64]
  | focusLost | focusGained | minimize | restore | audioRemoved | audioAdded | close | corruptCheckpoints
  | corruptVisualState =>
    obtain rfl : count = 0 := hcount
    obtain rfl := hother (by decide)
    obtain rfl := hhome (by decide)
    rfl

lemma retried_spell {trigger : ScriptTrigger} (h : trigger.retryMs.isSome = true → trigger.kind = .paused)
    (name : List Char)
    (hname : "retry=".toList.isPrefixOf name = false) (arguments : List (List Char)) :
    retried { trigger with retryMs := none }
      ((trigger.retryMs.toList.map fun wait => "retry=".toList ++ decimal wait) ++ name :: arguments) =
      some (trigger,name :: arguments) := by
  obtain ⟨kind,value,retryMs⟩ := trigger
  cases retryMs with
  | none =>
    rw [Option.toList_none,List.map_nil,List.nil_append,retried,hname,if_neg Bool.false_ne_true]
  | some wait =>
    obtain rfl : kind = .paused := h rfl
    rw [Option.toList_some,List.map_singleton,List.singleton_append,retried,
      if_pos (List.isPrefixOf_iff_prefix.mpr (List.prefix_append _ _)),
      show ("retry=".toList ++ decimal wait).drop 6 = decimal wait from rfl,number_decimal]
    rfl

lemma parseStep_spell {step : ScriptStep} (h : SpelledStep step) : ∃ first rest, spellStep step = first :: rest ∧
    parseStep first rest = .ok step := by
  refine ⟨triggerName step.trigger.kind ++ decimal step.trigger.value,
    (step.trigger.retryMs.toList.map fun wait => "retry=".toList ++ decimal wait) ++
      (spellAction step.action).1 :: (spellAction step.action).2,rfl,?_⟩
  unfold parseStep
  rw [trigger_spell]
  dsimp only
  rw [retried_spell h.retry _ (by unfold spellAction; cases step.action.kind <;> rfl)]
  dsimp only
  rw [action_spell h.action]

/-- A step a line. -/
def spellScript (steps : List ScriptStep) : List Char := (steps.map (spellWords ∘ spellStep)).flatMap (· ++ ['\n'])

lemma plain_step (step : ScriptStep) : ∀ word ∈ spellStep step, Plain word :=
  List.forall_mem_append.mpr ⟨plain_trigger step.trigger,plain_action step.action⟩

lemma parseLines_spell {steps : List ScriptStep} (h : ∀ step ∈ steps, SpelledStep step) (line : ℕ) :
    parseLines line (steps.map (spellWords ∘ spellStep)) = .ok steps := by
  induction steps generalizing line with
  | nil => rfl
  | cons step steps ih =>
    obtain ⟨hstep,hsteps⟩ := List.forall_mem_cons.mp h
    obtain ⟨first,rest,hspell,hparse⟩ := parseStep_spell hstep
    rw [List.map_cons,parseLines,Function.comp_apply,stripped_spellWords (plain_step step),
      words_spellWords (plain_step step),hspell]
    dsimp only
    rw [hparse]
    dsimp only
    rw [ih hsteps]
    rfl

/-- The scripts of the texts are the lists of steps that lines can spell. -/
theorem parsed_iff_spelled (steps : List ScriptStep) :
    (∃ text, parseInputScript text = .ok steps) ↔ ∀ step ∈ steps, SpelledStep step := by
  constructor
  · rintro ⟨text,htext⟩
    exact parseLines_spelled htext
  · intro h
    refine ⟨spellScript steps,?_⟩
    unfold parseInputScript spellScript
    rw [linesOf_flatMap]
    · exact parseLines_spell h 1
    · intro line hline
      obtain ⟨step,-,rfl⟩ := List.mem_map.mp hline
      exact newline_not_mem_spellWords (plain_step step)

end Spelling
end AytherRuntime.Inspection.Script
