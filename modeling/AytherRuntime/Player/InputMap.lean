import AytherRuntime.Player.GameInput
import Mathlib.Logic.Function.Basic

/-! The input map of a file: which files are read, and what each of them binds. -/
namespace AytherRuntime.Player

section Names

def inputActionKey : JoypadButton → String
  | .up => "up"
  | .down => "down"
  | .left => "left"
  | .right => "right"
  | .b => "b"
  | .a => "a"
  | .y => "y"
  | .x => "x"
  | .l => "l"
  | .r => "r"
  | .start => "start"
  | .select => "select"
  | .l2 | .r2 | .l3 | .r3 => ""

def keyedActions : List JoypadButton := [.up,.down,.left,.right,.b,.a,.y,.x,.l,.r,.start,.select]

def actionFromKey (key : String) : Option JoypadButton :=
  keyedActions.find? fun action => decide (inputActionKey action = key)

/-- The names of the buttons of a gamepad, with the numbers that SDL gives them. -/
def gamepadContract : List (String × ℕ) :=
  [("south",0),("east",1),("west",2),("north",3),("leftshoulder",9),("rightshoulder",10),("start",6),("back",4)]

def gamepadButtonFromContract (name : String) : Option ℕ := gamepadContract.lookup name

def gamepadButtonContractName (button : ℕ) : String :=
  ((gamepadContract.find? fun entry => decide (entry.2 = button)).map Prod.fst).getD ""

def InputMap.defaults : InputMap where
  keyboard index := [⟨.up,82⟩,⟨.down,81⟩,⟨.left,80⟩,⟨.right,79⟩,⟨.b,29⟩,⟨.a,27⟩,⟨.y,4⟩,⟨.x,22⟩,⟨.l,20⟩,⟨.r,26⟩,
    ⟨.start,40⟩,
    ⟨.select,229⟩].get index
  gamepad index := [⟨.b,0⟩,⟨.a,1⟩,⟨.y,2⟩,⟨.x,3⟩,⟨.l,9⟩,⟨.r,10⟩,⟨.start,6⟩,⟨.select,4⟩].get index
  legacySelectBackspace := true

end Names

section Load

inductive InputMapErrorCode
  | ioError | parseError | unknownSection | unknownAction | unsupportedGamepadAction | invalidValueType
  | invalidKeyboardName | invalidGamepadName | duplicateKeyboardBinding | duplicateGamepadBinding
  deriving DecidableEq, Repr

structure InputMapError where
  code : InputMapErrorCode
  path : String
  sectionKey : String := ""
  key : String := ""
  value : String := ""
  detail : String := ""

/-- A table of TOML: no key is there twice. -/
structure TomlTable (α : Type) where
  entries : List (String × α)
  unique : (entries.map Prod.fst).Nodup

/-- The file as the TOML library gives it: an entry that is no table, or a value that is no string, is none. -/
inductive InputMapFile
  | unreadable
  | malformed (description : String)
  | document (sections : TomlTable (Option (TomlTable (Option String))))

variable (scancodeFromName : String → ℕ) (scancodeName : ℕ → String) (path : String)

def findBinding {n : ℕ} (actions : Fin n → JoypadButton) (action : JoypadButton) : Option (Fin n) :=
  (List.finRange n).find? fun index => decide (actions index = action)

/-- One row of `parse_keyboard_table`. -/
def parseKeyboardRow (bindings : Fin inputKeyboardBindingCount → KeyboardBinding) (row : String × Option String) :
    Except InputMapError (Fin inputKeyboardBindingCount → KeyboardBinding) :=
  match actionFromKey row.1 with
  | none => .error ⟨.unknownAction,path,"keyboard",row.1,"",""⟩
  | some action =>
    match row.2 with
    | none => .error ⟨.invalidValueType,path,"keyboard",row.1,"",""⟩
    | some value =>
      if scancodeFromName value = 0 then .error ⟨.invalidKeyboardName,path,"keyboard",row.1,value,""⟩
      else
        match findBinding (fun index => (bindings index).action) action with
        | none => .error ⟨.unknownAction,path,"keyboard",row.1,value,""⟩
        | some index =>
          .ok (Function.update bindings index { bindings index with scancode := scancodeFromName value })

/-- One row of `parse_gamepad_table`: the directions have no binding there. -/
def parseGamepadRow (bindings : Fin inputGamepadBindingCount → GamepadBinding) (row : String × Option String) :
    Except InputMapError (Fin inputGamepadBindingCount → GamepadBinding) :=
  match actionFromKey row.1 with
  | none => .error ⟨.unknownAction,path,"gamepad",row.1,"",""⟩
  | some action =>
    match row.2 with
    | none => .error ⟨.invalidValueType,path,"gamepad",row.1,"",""⟩
    | some value =>
      match findBinding (fun index => (bindings index).action) action with
      | none => .error ⟨.unsupportedGamepadAction,path,"gamepad",row.1,value,""⟩
      | some index =>
        match gamepadButtonFromContract value with
        | none => .error ⟨.invalidGamepadName,path,"gamepad",row.1,value,""⟩
        | some button => .ok (Function.update bindings index { bindings index with button })

/-- The first two bindings, in the order of the two loops, that are the same. -/
def firstTwice {n : ℕ} (bound : Fin n → ℕ) : Option (Fin n × Fin n) :=
  ((List.finRange n).flatMap fun left =>
    ((List.finRange n).filter fun right => decide (left < right)).map (left,·)).find?
    fun pair => decide (bound pair.1 = bound pair.2)

def validateUniqueBindings (keyboard : Fin inputKeyboardBindingCount → KeyboardBinding)
    (gamepad : Fin inputGamepadBindingCount → GamepadBinding) : Option InputMapError :=
  match firstTwice fun index => (keyboard index).scancode with
  | some (left,right) =>
    some ⟨.duplicateKeyboardBinding,path,"keyboard",inputActionKey (keyboard right).action,
      scancodeName (keyboard right).scancode,inputActionKey (keyboard left).action⟩
  | none =>
    (firstTwice fun index => (gamepad index).button).map fun (left,right) =>
      ⟨.duplicateGamepadBinding,path,"gamepad",inputActionKey (gamepad right).action,
        gamepadButtonContractName (gamepad right).button,inputActionKey (gamepad left).action⟩

def sectionError (entry : String × Option (TomlTable (Option String))) : Option InputMapError :=
  if entry.1 ≠ "keyboard" ∧ entry.1 ≠ "gamepad" then some ⟨.unknownSection,path,entry.1,"","",""⟩
  else if entry.2.isNone then some ⟨.invalidValueType,path,entry.1,"","",""⟩
  else none

/-- The rows of a section that is there. -/
def sectionRows (document : TomlTable (Option (TomlTable (Option String)))) (name : String) :
    List (String × Option String) :=
  ((document.entries.lookup name).bind id).elim [] TomlTable.entries

def loadInputMap : InputMapFile → Except InputMapError InputMap
  | .unreadable => .error ⟨.ioError,path,"","","",""⟩
  | .malformed description => .error ⟨.parseError,path,"","","",description⟩
  | .document document =>
    match document.entries.findSome? (sectionError path) with
    | some error => .error error
    | none => do
      let keyboard ← (sectionRows document "keyboard").foldlM (parseKeyboardRow scancodeFromName path)
        InputMap.defaults.keyboard
      let gamepad ← (sectionRows document "gamepad").foldlM (parseGamepadRow path) InputMap.defaults.gamepad
      match validateUniqueBindings scancodeName path keyboard gamepad with
      | some error => .error error
      | none => .ok ⟨keyboard,gamepad,false⟩

end Load

section Rows
variable {n : ℕ} {β ε : Type}

lemma bind_ok {α : Type} {first : Except ε α} {next : α → Except ε β} {b : β} (h : first >>= next = .ok b) :
    ∃ a, first = .ok a ∧ next a = .ok b := by
  cases first with
  | error error => cases h
  | ok a => exact ⟨a,rfl,h⟩

/-- Every row is for one of the keys and can be read. -/
def RowsRead (key : Fin n → String) (read : Fin n → Option String → Option β)
    (rows : List (String × Option String)) : Prop :=
  ∀ row ∈ rows, ∃ index binding, row.1 = key index ∧ read index row.2 = some binding

/-- The bindings after the rows: each key has what its row says, or what it had. -/
def rebound (key : Fin n → String) (read : Fin n → Option String → Option β) (rows : List (String × Option String))
    (bindings : Fin n → β) (index : Fin n) : β :=
  ((rows.lookup (key index)).bind (read index)).getD (bindings index)

variable {key : Fin n → String} {read : Fin n → Option String → Option β}
    {step : (Fin n → β) → String × Option String → Except ε (Fin n → β)} {kept : (Fin n → β) → Prop}

lemma rebound_cons (hkey : Function.Injective key) {row : String × Option String} {rows : List (String × Option String)}
    {index : Fin n} {binding : β} (hrow : row.1 = key index) (hread : read index row.2 = some binding)
    (hnew : row.1 ∉ rows.map Prod.fst) (bindings : Fin n → β) :
    rebound key read (row :: rows) bindings = rebound key read rows (Function.update bindings index binding) := by
  obtain ⟨name,value⟩ := row
  dsimp only at hrow hread hnew
  subst hrow
  funext other
  unfold rebound
  by_cases hother : other = index
  · have hnone : rows.lookup (key index) = none := by
      rw [List.lookup_eq_none_iff]
      intro pair hpair
      exact bne_iff_ne.mpr fun h => hnew (List.mem_map.mpr ⟨pair,hpair,h.symm⟩)
    rw [hother,List.lookup_cons_self,hnone,Function.update_self,Option.bind_some,hread]
    rfl
  · rw [List.lookup_cons,beq_false_of_ne fun h => hother (hkey h),Function.update_of_ne hother]

/-- A loop over rows of distinct keys, where each row that can be read sets the binding of its key. -/
lemma foldlM_rebound (hkey : Function.Injective key)
    (hstep : ∀ {bindings row next}, kept bindings → (step bindings row = .ok next ↔ ∃ index binding, row.1 = key index ∧
      read index row.2 = some binding ∧ next = Function.update bindings index binding))
    (hkept : ∀ {bindings index value binding}, kept bindings → read index value = some binding →
      kept (Function.update bindings index binding))
    {rows : List (String × Option String)} (hunique : (rows.map Prod.fst).Nodup) {bindings next : Fin n → β}
    (h : kept bindings) :
    rows.foldlM step bindings = .ok next ↔ RowsRead key read rows ∧ next = rebound key read rows bindings := by
  induction rows generalizing bindings with
  | nil =>
    refine Iff.trans ⟨fun h => ?_,fun h => ?_⟩ (and_iff_right fun row hrow => absurd hrow List.not_mem_nil).symm
    · cases h
      rfl
    · rw [h]
      rfl
  | cons row rows ih =>
    obtain ⟨hnew,hrest⟩ := List.nodup_cons.mp hunique
    rw [List.foldlM_cons]
    cases hrow : step bindings row with
    | error error =>
      refine iff_of_false (by rintro ⟨⟩) ?_
      rintro ⟨hread,-⟩
      obtain ⟨index,binding,hindex,hbinding⟩ := hread row List.mem_cons_self
      have hok := (hstep h).mpr ⟨index,binding,hindex,hbinding,rfl⟩
      rw [hrow] at hok
      cases hok
    | ok after =>
      obtain ⟨index,binding,hindex,hbinding,rfl⟩ := (hstep h).mp hrow
      rw [rebound_cons hkey hindex hbinding hnew]
      refine (ih hrest (hkept h hbinding)).trans (and_congr_left' ?_)
      unfold RowsRead
      rw [List.forall_mem_cons]
      exact (and_iff_right ⟨index,binding,hindex,hbinding⟩).symm

end Rows

section Keys

/-- The key of a binding of the keyboard in the file. -/
def keyboardKey (index : Fin inputKeyboardBindingCount) : String :=
  inputActionKey (InputMap.defaults.keyboard index).action

def gamepadKey (index : Fin inputGamepadBindingCount) : String :=
  inputActionKey (InputMap.defaults.gamepad index).action

/-- What a value of the keyboard section binds: a key that SDL knows. -/
def readKeyboard (scancodeFromName : String → ℕ) (index : Fin inputKeyboardBindingCount) (value : Option String) :
    Option KeyboardBinding :=
  value.bind fun name => if scancodeFromName name = 0 then none
    else some ⟨(InputMap.defaults.keyboard index).action,scancodeFromName name⟩

def readGamepad (index : Fin inputGamepadBindingCount) (value : Option String) : Option GamepadBinding :=
  value.bind fun name => (gamepadButtonFromContract name).map fun button =>
    ⟨(InputMap.defaults.gamepad index).action,button⟩

lemma find_key {α β : Type} [DecidableEq β] {list : List α} {key : α → β} {wanted : β} {found : α}
    (hkey : ∀ a ∈ list, ∀ b ∈ list, key a = key b → a = b) :
    list.find? (fun a => decide (key a = wanted)) = some found ↔ found ∈ list ∧ key found = wanted := by
  constructor
  · exact fun h => ⟨List.mem_of_find?_eq_some h,by simpa using List.find?_some h⟩
  · rintro ⟨hfound,hwanted⟩
    cases h : list.find? fun a => decide (key a = wanted) with
    | none => exact absurd (decide_eq_true hwanted) (List.find?_eq_none.mp h found hfound)
    | some other =>
      have hother : key other = wanted := by simpa using List.find?_some h
      exact congrArg some (hkey _ (List.mem_of_find?_eq_some h) _ hfound (hother.trans hwanted.symm))

lemma inputActionKey_injective :
    ∀ action ∈ keyedActions, ∀ action' ∈ keyedActions, inputActionKey action = inputActionKey action' →
      action = action' := by
  decide

lemma actionFromKey_iff {name : String} {action : JoypadButton} :
    actionFromKey name = some action ↔ action ∈ keyedActions ∧ inputActionKey action = name :=
  @find_key _ _ _ keyedActions inputActionKey _ _ inputActionKey_injective

section Find
variable {n : ℕ} {actions : Fin n → JoypadButton} {action : JoypadButton} {index : Fin n}

lemma findBinding_iff (h : Function.Injective actions) : findBinding actions action = some index ↔
    actions index = action :=
  (find_key fun _ _ _ _ heq => h heq).trans (and_iff_right (List.mem_finRange index))

end Find

lemma keyboardActions_injective : Function.Injective fun index => (InputMap.defaults.keyboard index).action := by
  unfold Function.Injective
  decide

lemma gamepadActions_injective : Function.Injective fun index => (InputMap.defaults.gamepad index).action := by
  unfold Function.Injective
  decide

lemma keyboardActions_keyed (index : Fin inputKeyboardBindingCount) :
    (InputMap.defaults.keyboard index).action ∈ keyedActions := by
  revert index
  decide

lemma gamepadActions_keyed (index : Fin inputGamepadBindingCount) :
    (InputMap.defaults.gamepad index).action ∈ keyedActions := by
  revert index
  decide

lemma actionFromKey_keyboard (index : Fin inputKeyboardBindingCount) :
    actionFromKey (keyboardKey index) = some (InputMap.defaults.keyboard index).action :=
  actionFromKey_iff.mpr ⟨keyboardActions_keyed index,rfl⟩

lemma actionFromKey_gamepad (index : Fin inputGamepadBindingCount) :
    actionFromKey (gamepadKey index) = some (InputMap.defaults.gamepad index).action :=
  actionFromKey_iff.mpr ⟨gamepadActions_keyed index,rfl⟩

lemma keyboardKey_injective : Function.Injective keyboardKey := by
  intro index index' hkey
  exact keyboardActions_injective
    (inputActionKey_injective _ (keyboardActions_keyed index) _ (keyboardActions_keyed index') hkey)

lemma gamepadKey_injective : Function.Injective gamepadKey := by
  intro index index' hkey
  exact gamepadActions_injective
    (inputActionKey_injective _ (gamepadActions_keyed index) _ (gamepadActions_keyed index') hkey)

end Keys

section Tables
variable {scancodeFromName : String → ℕ} {scancodeName : ℕ → String} {path : String} {row : String × Option String}

lemma parseKeyboardRow_ok {bindings next : Fin inputKeyboardBindingCount → KeyboardBinding}
    (h : ∀ index, (bindings index).action = (InputMap.defaults.keyboard index).action) :
    parseKeyboardRow scancodeFromName path bindings row = .ok next ↔ ∃ index binding, row.1 = keyboardKey index ∧
      readKeyboard scancodeFromName index row.2 = some binding ∧ next = Function.update bindings index binding := by
  have hactions : (fun index => (bindings index).action) =
      fun index => (InputMap.defaults.keyboard index).action := funext h
  obtain ⟨name,value⟩ := row
  unfold parseKeyboardRow
  rw [hactions]
  constructor
  · intro hok
    dsimp only at hok
    cases haction : actionFromKey name with
    | none =>
      rw [haction] at hok
      cases hok
    | some action =>
      rw [haction] at hok
      obtain ⟨-,rfl⟩ := actionFromKey_iff.mp haction
      cases value with
      | none => cases hok
      | some value =>
        dsimp only at hok
        split_ifs at hok with hzero
        cases hfind : findBinding (fun index => (InputMap.defaults.keyboard index).action) action with
        | none =>
          rw [hfind] at hok
          cases hok
        | some index =>
          rw [hfind] at hok
          obtain rfl := (findBinding_iff keyboardActions_injective).mp hfind
          refine ⟨index,_,rfl,?_,(Except.ok.inj hok).symm⟩
          rw [h index]
          exact if_neg hzero
  · rintro ⟨index,binding,hname,hread,rfl⟩
    dsimp only at hname hread ⊢
    rw [hname,actionFromKey_keyboard]
    cases value with
    | none => cases hread
    | some value =>
      unfold readKeyboard at hread
      rw [Option.bind_some] at hread
      dsimp only
      split_ifs at hread ⊢ with hzero
      rw [(findBinding_iff keyboardActions_injective).mpr rfl]
      dsimp only
      rw [h index,← Option.some.inj hread]

lemma parseGamepadRow_ok {bindings next : Fin inputGamepadBindingCount → GamepadBinding}
    (h : ∀ index, (bindings index).action = (InputMap.defaults.gamepad index).action) :
    parseGamepadRow path bindings row = .ok next ↔ ∃ index binding, row.1 = gamepadKey index ∧
      readGamepad index row.2 = some binding ∧ next = Function.update bindings index binding := by
  have hactions : (fun index => (bindings index).action) =
      fun index => (InputMap.defaults.gamepad index).action := funext h
  obtain ⟨name,value⟩ := row
  unfold parseGamepadRow
  rw [hactions]
  constructor
  · intro hok
    dsimp only at hok
    cases haction : actionFromKey name with
    | none =>
      rw [haction] at hok
      cases hok
    | some action =>
      rw [haction] at hok
      obtain ⟨-,rfl⟩ := actionFromKey_iff.mp haction
      cases value with
      | none => cases hok
      | some value =>
        dsimp only at hok
        cases hfind : findBinding (fun index => (InputMap.defaults.gamepad index).action) action with
        | none =>
          rw [hfind] at hok
          cases hok
        | some index =>
          rw [hfind] at hok
          obtain rfl := (findBinding_iff gamepadActions_injective).mp hfind
          dsimp only at hok
          cases hbutton : gamepadButtonFromContract value with
          | none =>
            rw [hbutton] at hok
            cases hok
          | some button =>
            rw [hbutton] at hok
            refine ⟨index,_,rfl,?_,(Except.ok.inj hok).symm⟩
            rw [h index,readGamepad,Option.bind_some,hbutton]
            rfl
  · rintro ⟨index,binding,hname,hread,rfl⟩
    dsimp only at hname hread ⊢
    rw [hname,actionFromKey_gamepad]
    cases value with
    | none => cases hread
    | some value =>
      dsimp only
      rw [(findBinding_iff gamepadActions_injective).mpr rfl]
      dsimp only
      unfold readGamepad at hread
      rw [Option.bind_some] at hread
      cases hbutton : gamepadButtonFromContract value with
      | none =>
        rw [hbutton] at hread
        cases hread
      | some button =>
        rw [hbutton] at hread
        rw [h index,← Option.some.inj hread]

lemma readKeyboard_kept {bindings : Fin inputKeyboardBindingCount → KeyboardBinding}
    {index : Fin inputKeyboardBindingCount}
    {value : Option String} {binding : KeyboardBinding}
    (h : ∀ index, (bindings index).action = (InputMap.defaults.keyboard index).action)
    (hread : readKeyboard scancodeFromName index value = some binding) (other : Fin inputKeyboardBindingCount) :
    (Function.update bindings index binding other).action = (InputMap.defaults.keyboard other).action := by
  by_cases hother : other = index
  · obtain ⟨name,-,hname⟩ := Option.bind_eq_some_iff.mp hread
    split_ifs at hname
    rw [hother,Function.update_self,← Option.some.inj hname]
  · rw [Function.update_of_ne hother,h]

lemma readGamepad_kept {bindings : Fin inputGamepadBindingCount → GamepadBinding} {index : Fin inputGamepadBindingCount}
    {value : Option String} {binding : GamepadBinding}
    (h : ∀ index, (bindings index).action = (InputMap.defaults.gamepad index).action)
    (hread : readGamepad index value = some binding) (other : Fin inputGamepadBindingCount) :
    (Function.update bindings index binding other).action = (InputMap.defaults.gamepad other).action := by
  by_cases hother : other = index
  · obtain ⟨name,-,hname⟩ := Option.bind_eq_some_iff.mp hread
    obtain ⟨button,-,hbinding⟩ := Option.map_eq_some_iff.mp hname
    rw [hother,Function.update_self,← hbinding]
  · rw [Function.update_of_ne hother,h]

lemma firstTwice_none {n : ℕ} {bound : Fin n → ℕ} : firstTwice bound = none ↔ Function.Injective bound := by
  unfold firstTwice
  rw [List.find?_eq_none]
  have hmem : ∀ left right : Fin n, (left,right) ∈ ((List.finRange n).flatMap fun left =>
      ((List.finRange n).filter fun right => decide (left < right)).map (left,·)) ↔ left < right := by
    intro left right
    simp [List.mem_finRange]
  constructor
  · intro hnone left right heq
    by_contra hne
    rcases Nat.lt_or_gt_of_ne fun h => hne (Fin.ext h) with hlt | hgt
    · exact hnone (left,right) ((hmem _ _).mpr hlt) (decide_eq_true heq)
    · exact hnone (right,left) ((hmem _ _).mpr hgt) (decide_eq_true heq.symm)
  · rintro hinjective ⟨left,right⟩ hpair heq
    have hlt : left.val < right.val := (hmem _ _).mp hpair
    obtain rfl : left = right := hinjective (of_decide_eq_true heq)
    exact Nat.lt_irrefl _ hlt

lemma validateUniqueBindings_none {keyboard : Fin inputKeyboardBindingCount → KeyboardBinding}
    {gamepad : Fin inputGamepadBindingCount → GamepadBinding} :
    validateUniqueBindings scancodeName path keyboard gamepad = none ↔
      (Function.Injective fun index => (keyboard index).scancode) ∧
        Function.Injective fun index => (gamepad index).button := by
  unfold validateUniqueBindings
  rw [← firstTwice_none,← firstTwice_none]
  cases firstTwice fun index => (keyboard index).scancode with
  | some pair => exact iff_of_false (by rintro ⟨⟩) fun h => by cases h.1
  | none => exact Option.map_eq_none_iff.trans (and_iff_right rfl).symm

lemma sectionError_none {entry : String × Option (TomlTable (Option String))} :
    sectionError path entry = none ↔ (entry.1 = "keyboard" ∨ entry.1 = "gamepad") ∧ entry.2.isSome = true := by
  unfold sectionError
  split_ifs with hname htable
  · exact iff_of_false (by rintro ⟨⟩) fun h => h.1.elim hname.1 hname.2
  · exact iff_of_false (by rintro ⟨⟩) fun h => by simp_all
  · refine iff_of_true rfl ⟨by grind,?_⟩
    cases h : entry.2 with
    | none => exact absurd (h ▸ rfl) htable
    | some table => rfl

end Tables

section Loaded
variable (scancodeFromName : String → ℕ) (scancodeName : ℕ → String) (path : String)

lemma sectionRows_unique (document : TomlTable (Option (TomlTable (Option String)))) (name : String) :
    ((sectionRows document name).map Prod.fst).Nodup := by
  unfold sectionRows
  cases (document.entries.lookup name).bind id with
  | none => exact List.nodup_nil
  | some table => exact table.unique

/-- A file gives a map exactly where it is a document of the two sections, each row of them is for one of its keys with
a name that is known, and no two actions end with the same key or button: rows that swap two keys are taken, and every
action without a row keeps its default. -/
theorem loadInputMap_ok_iff (file : InputMapFile) (map : InputMap) :
    loadInputMap scancodeFromName scancodeName path file = .ok map ↔
      ∃ document, file = .document document ∧
        (∀ entry ∈ document.entries, (entry.1 = "keyboard" ∨ entry.1 = "gamepad") ∧ entry.2.isSome = true) ∧
        RowsRead keyboardKey (readKeyboard scancodeFromName) (sectionRows document "keyboard") ∧
        RowsRead gamepadKey readGamepad (sectionRows document "gamepad") ∧
        map = ⟨rebound keyboardKey (readKeyboard scancodeFromName) (sectionRows document "keyboard")
          InputMap.defaults.keyboard,
          rebound gamepadKey readGamepad (sectionRows document "gamepad") InputMap.defaults.gamepad,false⟩ ∧
        (Function.Injective fun index => (map.keyboard index).scancode) ∧
        Function.Injective fun index => (map.gamepad index).button := by
  cases file with
  | unreadable => exact iff_of_false (by rintro ⟨⟩) (by rintro ⟨_,⟨⟩,-⟩)
  | malformed description => exact iff_of_false (by rintro ⟨⟩) (by rintro ⟨_,⟨⟩,-⟩)
  | document document =>
    have hkeyboard := fun {next} => @foldlM_rebound _ _ _ keyboardKey (readKeyboard scancodeFromName)
      (parseKeyboardRow scancodeFromName path) _ keyboardKey_injective parseKeyboardRow_ok readKeyboard_kept _
      (sectionRows_unique document "keyboard") InputMap.defaults.keyboard next fun _ => rfl
    have hgamepad := fun {next} => @foldlM_rebound _ _ _ gamepadKey readGamepad (parseGamepadRow path) _
      gamepadKey_injective parseGamepadRow_ok readGamepad_kept _ (sectionRows_unique document "gamepad")
      InputMap.defaults.gamepad next fun _ => rfl
    have hsections : document.entries.findSome? (sectionError path) = none ↔ ∀ entry ∈ document.entries,
        (entry.1 = "keyboard" ∨ entry.1 = "gamepad") ∧ entry.2.isSome = true := by
      rw [List.findSome?_eq_none_iff]
      exact forall₂_congr fun entry _ => sectionError_none
    unfold loadInputMap
    dsimp only
    constructor
    · intro hok
      cases herror : document.entries.findSome? (sectionError path) with
      | some error =>
        rw [herror] at hok
        cases hok
      | none =>
        rw [herror] at hok
        dsimp only at hok
        obtain ⟨keyboard,hfirst,hok⟩ := bind_ok hok
        obtain ⟨gamepad,hsecond,hok⟩ := bind_ok hok
        cases htwice : validateUniqueBindings scancodeName path keyboard gamepad with
        | some error =>
          rw [htwice] at hok
          cases hok
        | none =>
          rw [htwice] at hok
          obtain rfl := Except.ok.inj hok
          obtain ⟨hrows,rfl⟩ := hkeyboard.mp hfirst
          obtain ⟨hothers,rfl⟩ := hgamepad.mp hsecond
          exact ⟨document,rfl,hsections.mp herror,hrows,hothers,rfl,validateUniqueBindings_none.mp htwice⟩
    · rintro ⟨_,⟨⟩,hentries,hrows,hothers,rfl,hunique⟩
      rw [hsections.mpr hentries]
      dsimp only
      rw [hkeyboard.mpr ⟨hrows,rfl⟩,hgamepad.mpr ⟨hothers,rfl⟩]
      dsimp only [bind,Except.bind]
      rw [validateUniqueBindings_none.mpr hunique]

/-- The two rows of a keyboard that swap the keys of their actions. -/
def swappedRows : TomlTable (Option String) := ⟨[("a",some "Z"),("b",some "X")],by decide⟩

example : ((loadInputMap (fun name => if name = "Z" then 29 else if name = "X" then 27 else 0) toString "input.toml"
    (.document ⟨[("keyboard",some swappedRows)],by decide⟩)).toOption.map fun map =>
      (List.finRange 12).map map.keyboard) =
      some [⟨.up,82⟩,⟨.down,81⟩,⟨.left,80⟩,⟨.right,79⟩,⟨.b,27⟩,⟨.a,29⟩,⟨.y,4⟩,⟨.x,22⟩,⟨.l,20⟩,⟨.r,26⟩,⟨.start,40⟩,
        ⟨.select,229⟩] := by
  decide +kernel

end Loaded
end AytherRuntime.Player
