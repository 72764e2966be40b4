import AytherRuntime.Fact.Model
import AytherRuntime.Library.Lines

/-! The player's preferences: the file that they are written to, and its strict reading line by line. Texts are the
characters of their bytes. -/
namespace AytherRuntime.Player
open Lines

section Source

def playerConfigFormatVersion : ℕ := 1

/-- One value for each of the four audio buses. -/
structure AudioBuses (α : Type) where
  first : α
  second : α
  third : α
  fourth : α
  deriving DecidableEq, Repr

def AudioBuses.toList {α : Type} (buses : AudioBuses α) : List α :=
  [buses.first,buses.second,buses.third,buses.fourth]

def AudioBuses.ofList {α : Type} : List α → Option (AudioBuses α)
  | [a,b,c,d] => some ⟨a,b,c,d⟩
  | _ => none

/-- The numbers of the gains: how they are printed with nine digits and read by `std::from_chars`, which of them
are finite and between zero and one, and the number one. -/
structure FloatText (F : Type) where
  print : F → List Char
  fromChars : List Char → Option F
  inUnit : F → Bool
  one : F

variable {F : Type}

structure PlayerConfig (F : Type) where
  profile : List Char := []
  subsystems : UInt32 := 0
  haveSubsystems : Bool := false
  busGain : AudioBuses F
  busMuted : AudioBuses Bool := ⟨false,false,false,false⟩
  shadersOn : Bool := true
  output : List Char := []
  hdOn : Bool := true
  deriving DecidableEq, Repr

def defaultConfig (format : FloatText F) : PlayerConfig F where
  busGain := ⟨format.one,format.one,format.one,format.one⟩

inductive PlayerConfigLoadStatus
  | loaded | missing | invalid | unsupportedVersion | ioError
  deriving DecidableEq, Repr

inductive PlayerConfigSaveFault
  | none | diskFull | beforePublish
  deriving DecidableEq, Repr

structure PlayerConfigLoadResult (F : Type) where
  config : PlayerConfig F
  status : PlayerConfigLoadStatus
  line : ℕ := 0
  diagnostic : List Char := []
  deriving DecidableEq, Repr

def whitespace (character : Char) : Bool :=
  character = ' ' || character = '\t' || character = '\r' || character = '\n'

/-- `trim` -/
def trim (value : List Char) : List Char := trimmed whitespace value

/-- `parse_unsigned` -/
def parseUnsigned (text : List Char) : Option UInt32 := (fromChars (2 ^ 32) (trim text)).map UInt32.ofNat

/-- `parse_float` -/
def parseFloat (format : FloatText F) (text : List Char) : Option F :=
  let value := trim text
  if value = [] then none
  else (format.fromChars value).filter format.inUnit

/-- `parse_bool` -/
def parseBool (text : List Char) : Option Bool :=
  let value := trim text
  if value = "true".toList then some true
  else if value = "false".toList then some false
  else none

/-- The character that an escape stands for. -/
def unescaped (escape : Char) : Option Char :=
  if escape = '"' then some '"'
  else if escape = '\\' then some '\\'
  else if escape = 'n' then some '\n'
  else if escape = 'r' then some '\r'
  else if escape = 't' then some '\t'
  else none

/-- What stands between the quotes, with its escapes undone. -/
def parseBody : List Char → Option (List Char)
  | [] => some []
  | '\\' :: [] => none
  | '\\' :: escape :: rest => do
    let character ← unescaped escape
    let parsed ← parseBody rest
    some (character :: parsed)
  | character :: rest =>
    if character.toNat < 0x20 then none
    else (parseBody rest).map (character :: ·)

/-- `parse_string` -/
def parseString (text : List Char) : Option (List Char) :=
  let value := trim text
  if value.length < 2 ∨ value.head? ≠ some '"' ∨ value.getLast? ≠ some '"' then none
  else parseBody value.tail.dropLast

def escaped (character : Char) : List Char :=
  if character = '"' then "\\\"".toList
  else if character = '\\' then "\\\\".toList
  else if character = '\n' then "\\n".toList
  else if character = '\r' then "\\r".toList
  else if character = '\t' then "\\t".toList
  else [character]

/-- `escape_string` -/
def escapeString (value : List Char) : List Char := value.flatMap escaped

/-- `split_array` -/
def splitArray (text : List Char) : Option (AudioBuses (List Char)) :=
  let value := trim text
  if value.length < 2 ∨ value.head? ≠ some '[' ∨ value.getLast? ≠ some ']' then none
  else
    let elements := (value.tail.dropLast.splitOn ',').map trim
    if [] ∈ elements then none else AudioBuses.ofList elements

/-- Each element of the array of a value, read in the same way. -/
def parseArray {α : Type} (parse : List Char → Option α) (value : List Char) : Option (AudioBuses α) := do
  let elements ← splitArray value
  some ⟨← parse elements.first,← parse elements.second,← parse elements.third,← parse elements.fourth⟩

/-- What the loop over the lines has read so far. -/
structure ReadState (F : Type) where
  candidate : PlayerConfig F
  version : UInt32 := 0
  seenKeys : List (List Char) := []

/-- The value of a key, if it is valid; other keys are ignored. -/
def readValue (format : FloatText F) (state : ReadState F) (key value : List Char) : Option (ReadState F) :=
  let candidate := state.candidate
  if key = "format_version".toList then (parseUnsigned value).map fun version => { state with version }
  else if key = "profile".toList then
    (parseString value).map fun profile => { state with candidate := { candidate with profile } }
  else if key = "output".toList then
    (parseString value).map fun output => { state with candidate := { candidate with output } }
  else if key = "subsystems".toList then
    (parseUnsigned value).map fun subsystems =>
      { state with candidate := { candidate with subsystems, haveSubsystems := true } }
  else if key = "shaders".toList then
    (parseBool value).map fun shadersOn => { state with candidate := { candidate with shadersOn } }
  else if key = "hd".toList then
    (parseBool value).map fun hdOn => { state with candidate := { candidate with hdOn } }
  else if key = "bus_gain".toList then
    (parseArray (parseFloat format) value).map fun busGain =>
      { state with candidate := { candidate with busGain } }
  else if key = "bus_muted".toList then
    (parseArray parseBool value).map fun busMuted => { state with candidate := { candidate with busMuted } }
  else some state

/-- One turn of the loop over the lines, or the diagnostic that ends it. -/
def readLine (format : FloatText F) (state : ReadState F) (line : List Char) : Except (List Char) (ReadState F) :=
  let text := trim line
  if text = [] ∨ text.head? = some '#' then .ok state
  else match text.dropWhile (· ≠ '=') with
    | [] => .error "se esperaba clave = valor".toList
    | _ :: after =>
      let key := trim (text.takeWhile (· ≠ '='))
      let value := trim after
      if key = [] ∨ value = [] then .error "la clave o el valor estan vacios".toList
      else if key ∈ state.seenKeys then .error ("la clave esta duplicada: ".toList ++ key)
      else match readValue format { state with seenKeys := key :: state.seenKeys } key value with
        | none => .error ("valor invalido para ".toList ++ key)
        | some state => .ok state

def invalidResult (format : FloatText F) (status : PlayerConfigLoadStatus) (line : ℕ) (diagnostic : List Char) :
    PlayerConfigLoadResult F := ⟨defaultConfig format,status,line,diagnostic⟩

/-- The loop over the lines after `line` of them, and what follows it. -/
def readLines (format : FloatText F) (bad : Bool) (state : ReadState F) (line : ℕ) :
    List (List Char) → PlayerConfigLoadResult F
  | [] =>
    if bad then invalidResult format .ioError line "fallo al leer el archivo completo".toList
    else if playerConfigFormatVersion < state.version.toNat then
      invalidResult format .unsupportedVersion line "version de configuracion no soportada".toList
    else { config := state.candidate, status := .loaded }
  | text :: rest =>
    match readLine format state text with
    | .error diagnostic => invalidResult format .invalid (line + 1) diagnostic
    | .ok state => readLines format bad state (line + 1) rest

/-- What the file system answers about the file of a configuration. -/
inductive ConfigFile
  | absent | unreachable | unopened
  | content (text : List Char) (bad : Bool)

/-- `player_config_load_checked` -/
def playerConfigLoadChecked (format : FloatText F) : ConfigFile → PlayerConfigLoadResult F
  | .unreachable => invalidResult format .ioError 0 "no se pudo consultar el archivo".toList
  | .absent => { config := defaultConfig format, status := .missing }
  | .unopened => invalidResult format .ioError 0 "no se pudo abrir el archivo".toList
  | .content text bad => readLines format bad { candidate := defaultConfig format } 0 (linesOf text)

def boolText (value : Bool) : List Char := if value then "true".toList else "false".toList

/-- The elements of an array, with a comma and a blank before each but the first. -/
def arrayText (texts : AudioBuses (List Char)) : List Char :=
  texts.first ++ ", ".toList ++ texts.second ++ ", ".toList ++ texts.third ++ ", ".toList ++ texts.fourth

def AudioBuses.map {α β : Type} (f : α → β) (buses : AudioBuses α) : AudioBuses β :=
  ⟨f buses.first,f buses.second,f buses.third,f buses.fourth⟩

/-- A line with a key and its value. -/
def entryLine (key : String) (value : List Char) : List Char := key.toList ++ " = ".toList ++ value

/-- What is written to the file, line by line. -/
def configLines (format : FloatText F) (config : PlayerConfig F) : List (List Char) :=
  ["# Configuracion de AYTHER para esta combinacion de juego y pack.".toList,
    "# La escribe el panel in-game; se puede editar a mano.".toList,
    [],
    entryLine "format_version" (toString playerConfigFormatVersion).toList,
    entryLine "profile" ('"' :: escapeString config.profile ++ ['"']),
    entryLine "output" ('"' :: escapeString config.output ++ ['"']),
    entryLine "subsystems" (toString config.subsystems.toNat).toList,
    entryLine "shaders" (boolText config.shadersOn),
    entryLine "hd" (boolText config.hdOn),
    entryLine "bus_gain" ('[' :: arrayText (config.busGain.map format.print) ++ [']']),
    entryLine "bus_muted" ('[' :: arrayText (config.busMuted.map boolText) ++ [']'])]

def configText (format : FloatText F) (config : PlayerConfig F) : List Char :=
  (configLines format config).flatMap (· ++ ['\n'])

/-- What the file system answers during a save. -/
structure SaveAnswers where
  creates : Bool
  opens : Bool
  writes : Bool
  queries : Bool
  hadPrevious : Bool
  backsUp : Bool
  publishes : Bool

/-- `player_config_save`: the text that it leaves in the file when it returns true. -/
def playerConfigSave (format : FloatText F) (config : PlayerConfig F) (fault : PlayerConfigSaveFault)
    (answers : SaveAnswers) : Option (List Char) :=
  if config.busGain.toList.any (!format.inUnit ·) then none
  else if fault = .diskFull then none
  else if !answers.creates || !answers.opens || !answers.writes then none
  else if fault = .beforePublish then none
  else if !answers.queries || answers.hadPrevious && !answers.backsUp || !answers.publishes then none
  else some (configText format config)

end Source

section Values
variable {F : Type} {format : FloatText F}

/-- A gain that is printed with nine digits is read back, and its text has the characters of numbers alone. -/
structure FloatText.Exact (format : FloatText F) : Prop where
  fromChars_print : ∀ gain, format.inUnit gain = true → format.fromChars (format.print gain) = some gain
  print_ne_nil : ∀ gain, format.inUnit gain = true → format.print gain ≠ []
  print_numeric : ∀ gain, format.inUnit gain = true → ∀ character ∈ format.print gain,
    character.isDigit = true ∨ character ∈ ['.','e','+','-']

/-- The characters that the reader of strings takes from what the writer of strings has written. -/
def loadable (character : Char) : Bool :=
  0x20 ≤ character.toNat || character = '\n' || character = '\r' || character = '\t'

lemma parseBody_plain {character : Char} (h : character ≠ '\\') (rest : List Char) :
    parseBody (character :: rest) =
      if character.toNat < 0x20 then none else (parseBody rest).map (character :: ·) := by
  rw [parseBody]
  · exact fun hsame _ => h hsame
  · exact fun _ _ hsame _ => h hsame

lemma parseBody_pair {character escape : Char} (hescaped : escaped character = ['\\',escape])
    (hunescaped : unescaped escape = some character) (hloadable : loadable character = true) (rest : List Char) :
    parseBody (escaped character ++ rest) =
      if loadable character then (parseBody rest).map (character :: ·) else none := by
  rw [hescaped,if_pos hloadable]
  change (unescaped escape).bind (fun c => (parseBody rest).bind fun parsed => some (c :: parsed)) = _
  rw [hunescaped]
  cases parseBody rest <;> rfl

/-- What a character is escaped as is read back as that character, where it can be read at all. -/
lemma parseBody_escaped (character : Char) (rest : List Char) :
    parseBody (escaped character ++ rest) =
      if loadable character then (parseBody rest).map (character :: ·) else none := by
  by_cases hquote : character = '"'
  · subst hquote
    exact parseBody_pair rfl rfl rfl rest
  by_cases hbackslash : character = '\\'
  · subst hbackslash
    exact parseBody_pair rfl rfl rfl rest
  by_cases hfeed : character = '\n'
  · subst hfeed
    exact parseBody_pair rfl rfl rfl rest
  by_cases hreturn : character = '\r'
  · subst hreturn
    exact parseBody_pair rfl rfl rfl rest
  by_cases htab : character = '\t'
  · subst htab
    exact parseBody_pair rfl rfl rfl rest
  have hescaped : escaped character = [character] := by
    unfold escaped
    rw [if_neg hquote,if_neg hbackslash,if_neg hfeed,if_neg hreturn,if_neg htab]
  rw [hescaped,List.singleton_append,parseBody_plain hbackslash]
  unfold loadable
  simp only [hfeed,hreturn,htab,decide_false,Bool.or_false,decide_eq_true_eq]
  by_cases hcontrol : character.toNat < 0x20
  · rw [if_pos hcontrol,if_neg (Nat.not_le.mpr hcontrol)]
  · rw [if_neg hcontrol,if_pos (Nat.not_lt.mp hcontrol)]

lemma parseBody_escapeString (value : List Char) :
    parseBody (escapeString value) = if value.all loadable then some value else none := by
  induction value with
  | nil => rfl
  | cons character rest ih =>
    unfold escapeString at ih ⊢
    rw [List.flatMap_cons,parseBody_escaped,ih,List.all_cons]
    cases loadable character <;> cases rest.all loadable <;> rfl

lemma whitespace_eq_false_of_digit {character : Char} (h : character.isDigit = true) :
    whitespace character = false := by
  unfold whitespace
  by_contra hblank
  simp only [Bool.not_eq_false,Bool.or_eq_true,decide_eq_true_eq] at hblank
  rcases hblank with ((rfl | rfl) | rfl) | rfl <;> exact absurd h (by decide)

/-- The digits of a number. -/
lemma solid_toString (n : ℕ) : Solid whitespace (toString n).toList := by
  have hdigits : (toString n).toList = Nat.toDigits 10 n := Nat.toList_repr
  rw [hdigits]
  exact solid_of_forall Nat.toDigits_ne_nil fun character hmem =>
    whitespace_eq_false_of_digit (Nat.isDigit_of_mem_toDigits (by decide) (by decide) hmem)

lemma parseUnsigned_toString (n : UInt32) : parseUnsigned (toString n.toNat).toList = some n := by
  unfold parseUnsigned trim
  rw [trimmed_of_solid (solid_toString _),fromChars_toString,if_pos n.toNat_lt,Option.map_some,UInt32.ofNat_toNat]

lemma parseBool_boolText (value : Bool) : parseBool (boolText value) = some value := by
  cases value <;> decide

lemma solid_quoted (value : List Char) : Solid whitespace ('"' :: value ++ ['"']) :=
  solid_between (by decide) (by decide) value

lemma parseString_quoted (value : List Char) :
    parseString ('"' :: escapeString value ++ ['"']) = if value.all loadable then some value else none := by
  unfold parseString trim
  dsimp only
  rw [trimmed_of_solid (solid_quoted _),if_neg]
  · rw [List.cons_append,List.tail_cons,List.dropLast_concat,parseBody_escapeString]
  · rintro (hshort | hfirst | hlast)
    · rw [List.length_append,List.length_cons,List.length_singleton] at hshort
      omega
    · exact hfirst rfl
    · exact hlast List.getLast?_concat

/-- The characters that the elements of an array may have. -/
def elementCharacter (character : Char) : Bool := !whitespace character && character ≠ ','

/-- An element of an array: some characters, without blanks and commas. -/
def Element (text : List Char) : Prop := text ≠ [] ∧ ∀ character ∈ text, elementCharacter character = true

lemma Element.solid {text : List Char} (h : Element text) : Solid whitespace text :=
  solid_of_forall h.1 fun character hmem => by
    have hcharacter := h.2 character hmem
    unfold elementCharacter at hcharacter
    rw [Bool.and_eq_true,Bool.not_eq_true'] at hcharacter
    exact hcharacter.1

lemma Element.comma {text : List Char} (h : Element text) : ',' ∉ text := by
  intro hmem
  exact absurd (h.2 ',' hmem) (by decide)

lemma Element.trim_blank {text : List Char} (h : Element text) : trim (' ' :: text) = text := by
  have htrimmed : trimmed whitespace ([' '] ++ text) = text :=
    trimmed_before h.solid (List.forall_mem_singleton.mpr rfl)
  exact htrimmed

lemma splitArray_arrayText {texts : AudioBuses (List Char)} (h : ∀ text ∈ texts.toList, Element text) :
    splitArray ('[' :: arrayText texts ++ [']']) = some texts := by
  obtain ⟨first,second,third,fourth⟩ := texts
  unfold AudioBuses.toList at h
  simp only [List.mem_cons,List.not_mem_nil,or_false,forall_eq_or_imp,forall_eq] at h
  obtain ⟨hfirst,hsecond,hthird,hfourth⟩ := h
  have hsplit : (arrayText ⟨first,second,third,fourth⟩).splitOn ',' =
      [first,' ' :: second,' ' :: third,' ' :: fourth] := by
    have hjoined : arrayText ⟨first,second,third,fourth⟩ =
        [','].intercalate [first,' ' :: second,' ' :: third,' ' :: fourth] := by
      unfold arrayText
      simp [List.intercalate]
    rw [hjoined]
    refine List.splitOn_intercalate ',' ?_ (List.cons_ne_nil _ _)
    simp only [List.mem_cons,List.not_mem_nil,or_false,forall_eq_or_imp,forall_eq,not_or]
    exact ⟨hfirst.comma,⟨by decide,hsecond.comma⟩,⟨by decide,hthird.comma⟩,⟨by decide,hfourth.comma⟩⟩
  have htrim : ([first,' ' :: second,' ' :: third,' ' :: fourth].map trim) = [first,second,third,fourth] := by
    rw [List.map_cons,List.map_cons,List.map_cons,List.map_cons,List.map_nil,hsecond.trim_blank,hthird.trim_blank,
      hfourth.trim_blank]
    unfold trim
    rw [trimmed_of_solid hfirst.solid]
  unfold splitArray
  dsimp only
  have hsolid : Solid whitespace ('[' :: arrayText ⟨first,second,third,fourth⟩ ++ [']']) :=
    solid_between (by decide) (by decide) _
  have hbrackets : trim ('[' :: arrayText ⟨first,second,third,fourth⟩ ++ [']']) =
      '[' :: arrayText ⟨first,second,third,fourth⟩ ++ [']'] := trimmed_of_solid hsolid
  rw [hbrackets,if_neg]
  · rw [List.cons_append,List.tail_cons,List.dropLast_concat,hsplit,htrim,if_neg]
    · rfl
    · simp only [List.mem_cons,List.not_mem_nil,or_false,not_or]
      exact ⟨hfirst.1.symm,hsecond.1.symm,hthird.1.symm,hfourth.1.symm⟩
  · rintro (hshort | hopen | hclose)
    · rw [List.length_append,List.length_cons,List.length_singleton] at hshort
      omega
    · exact hopen rfl
    · exact hclose List.getLast?_concat

/-- An array whose elements are read back one by one. -/
lemma parseArray_arrayText {α : Type} {parse : List Char → Option α} {show' : α → List Char} {values : AudioBuses α}
    (h : ∀ value ∈ values.toList, Element (show' value) ∧ parse (show' value) = some value) :
    parseArray parse ('[' :: arrayText (values.map show') ++ [']']) = some values := by
  obtain ⟨first,second,third,fourth⟩ := values
  unfold AudioBuses.toList at h
  simp only [List.mem_cons,List.not_mem_nil,or_false,forall_eq_or_imp,forall_eq] at h
  obtain ⟨⟨hfirst,hfirstRead⟩,⟨hsecond,hsecondRead⟩,⟨hthird,hthirdRead⟩,hfourth,hfourthRead⟩ := h
  unfold parseArray
  rw [splitArray_arrayText]
  · change (parse (show' first)).bind _ = _
    rw [hfirstRead,Option.bind_some]
    change (parse (show' second)).bind _ = _
    rw [hsecondRead,Option.bind_some]
    change (parse (show' third)).bind _ = _
    rw [hthirdRead,Option.bind_some]
    change (parse (show' fourth)).bind _ = _
    rw [hfourthRead,Option.bind_some]
  · unfold AudioBuses.map AudioBuses.toList
    simp only [List.mem_cons,List.not_mem_nil,or_false,forall_eq_or_imp,forall_eq]
    exact ⟨hfirst,hsecond,hthird,hfourth⟩

lemma element_boolText (value : Bool) : Element (boolText value) := by
  cases value with
  | false => exact ⟨by decide,List.all_eq_true.mp (by decide)⟩
  | true => exact ⟨by decide,List.all_eq_true.mp (by decide)⟩

lemma FloatText.Exact.element (h : format.Exact) {gain : F} (hgain : format.inUnit gain = true) :
    Element (format.print gain) := by
  refine ⟨h.print_ne_nil gain hgain,fun character hmem => ?_⟩
  unfold elementCharacter
  rcases h.print_numeric gain hgain character hmem with hdigit | hother
  · rw [whitespace_eq_false_of_digit hdigit,Bool.not_false,Bool.true_and,decide_eq_true_eq]
    rintro rfl
    exact absurd hdigit (by decide)
  · have hall : (['.','e','+','-'].all fun c => !whitespace c && decide (c ≠ ',')) = true := by decide
    exact List.all_eq_true.mp hall character hother

lemma FloatText.Exact.parseFloat_print (h : format.Exact) {gain : F} (hgain : format.inUnit gain = true) :
    parseFloat format (format.print gain) = some gain := by
  unfold parseFloat trim
  dsimp only
  rw [trimmed_of_solid (h.element hgain).solid,if_neg (h.print_ne_nil gain hgain),h.fromChars_print gain hgain]
  exact if_pos hgain

end Values

section Reading
variable {F : Type} {format : FloatText F} {bad : Bool} {line : ℕ} {rest : List (List Char)}

def keyCharacter (character : Char) : Bool := !whitespace character && character ≠ '=' && character ≠ '#'

/-- The name of a key: some characters, without blanks, equals and comment signs. -/
def KeyName (key : List Char) : Prop := key ≠ [] ∧ ∀ character ∈ key, keyCharacter character = true

instance (key : List Char) : Decidable (KeyName key) :=
  decidable_of_iff (key ≠ [] ∧ key.all keyCharacter = true) (and_congr_right fun _ => List.all_eq_true)

lemma KeyName.character {key : List Char} (h : KeyName key) {character : Char} (hmem : character ∈ key) :
    whitespace character = false ∧ character ≠ '=' ∧ character ≠ '#' := by
  have hcharacter := h.2 character hmem
  unfold keyCharacter at hcharacter
  simpa [and_assoc] using hcharacter

lemma KeyName.solid {key : List Char} (h : KeyName key) : Solid whitespace key :=
  solid_of_forall h.1 fun _ hmem => (h.character hmem).1

/-- A line with a key and its value is read as the value of the key, unless the key was there before. -/
lemma readLine_entry {key : String} (hkey : KeyName key.toList) {value : List Char} (hvalue : Solid whitespace value)
    (state : ReadState F) : readLine format state (entryLine key value) =
      if key.toList ∈ state.seenKeys then .error ("la clave esta duplicada: ".toList ++ key.toList)
      else match readValue format { state with seenKeys := key.toList :: state.seenKeys } key.toList value with
        | none => .error ("valor invalido para ".toList ++ key.toList)
        | some state => .ok state := by
  have hline : entryLine key value = (key.toList ++ [' ']) ++ '=' :: ([' '] ++ value) := by
    unfold entryLine
    simp
  have hbefore : ∀ character ∈ key.toList ++ [' '], decide (character ≠ '=') = true := by
    intro character hmem
    rcases List.mem_append.mp hmem with hmem | hmem
    · exact decide_eq_true (hkey.character hmem).2.1
    · rw [List.mem_singleton.mp hmem]
      decide
  have hsolid : Solid whitespace (entryLine key value) := hkey.solid.append hvalue _
  have htrim : trim (entryLine key value) = entryLine key value := trimmed_of_solid hsolid
  have hhead : (entryLine key value).head? ≠ some '#' := by
    obtain ⟨first,others,hfirst⟩ := List.exists_cons_of_ne_nil hkey.1
    have hsign := (hkey.character (hfirst ▸ List.mem_cons_self)).2.2
    unfold entryLine
    rw [hfirst]
    simpa using hsign
  have hkeyTrim : trim (key.toList ++ [' ']) = key.toList :=
    trimmed_after hkey.solid (List.forall_mem_singleton.mpr rfl)
  have hvalueTrim : trim ([' '] ++ value) = value := trimmed_before hvalue (List.forall_mem_singleton.mpr rfl)
  unfold readLine
  dsimp only
  rw [htrim,if_neg (not_or.mpr ⟨hsolid.ne_nil,hhead⟩),hline,
    List.dropWhile_append_of_pos hbefore,List.dropWhile_cons_of_neg (by decide),
    List.takeWhile_append_of_pos hbefore,List.takeWhile_cons_of_neg (by decide)]
  dsimp only
  rw [List.append_nil,hkeyTrim,hvalueTrim,if_neg (not_or.mpr ⟨hkey.1,hvalue.ne_nil⟩)]

lemma readLines_entry {key : String} (hkey : KeyName key.toList) {value : List Char} (hvalue : Solid whitespace value)
    {state next : ReadState F} (hnew : key.toList ∉ state.seenKeys)
    (hread : readValue format { state with seenKeys := key.toList :: state.seenKeys } key.toList value = some next) :
    readLines format bad state line (entryLine key value :: rest) = readLines format bad next (line + 1) rest := by
  rw [readLines,readLine_entry hkey hvalue,if_neg hnew,hread]

/-- A value that is not valid ends the reading. -/
lemma readLines_invalid {key : String} (hkey : KeyName key.toList) {value : List Char}
    (hvalue : Solid whitespace value) {state : ReadState F} (hnew : key.toList ∉ state.seenKeys)
    (hread : readValue format { state with seenKeys := key.toList :: state.seenKeys } key.toList value = none) :
    (readLines format bad state line (entryLine key value :: rest)).status = .invalid := by
  rw [readLines,readLine_entry hkey hvalue,if_neg hnew,hread]
  rfl

/-- Empty lines and comments are passed over. -/
lemma readLines_comment {text : List Char} {state : ReadState F} (h : trim text = [] ∨ (trim text).head? = some '#') :
    readLines format bad state line (text :: rest) = readLines format bad state (line + 1) rest := by
  have hread : readLine format state text = .ok state := by
    unfold readLine
    dsimp only
    rw [if_pos h]
  rw [readLines,hread]

end Reading

section Entries
variable {F : Type} {format : FloatText F}

/-- A line with a key and its value, and what it does to the configuration that is read. -/
structure Entry (F : Type) where
  key : String
  value : List Char
  apply : PlayerConfig F → PlayerConfig F

def Entry.line (entry : Entry F) : List Char := entryLine entry.key entry.value

/-- An entry that is read as what it does. -/
structure Entry.Good (format : FloatText F) (entry : Entry F) : Prop where
  name : KeyName entry.key.toList
  solid : Solid whitespace entry.value
  read : ∀ state : ReadState F, readValue format state entry.key.toList entry.value =
    some { state with candidate := entry.apply state.candidate }

/-- Good entries with new keys are read one after the other. -/
lemma readLines_good (bad : Bool) {entries : List (Entry F)} (hgood : ∀ entry ∈ entries, entry.Good format)
    {state : ReadState F} (hnodup : (entries.map (·.key.toList)).Nodup)
    (hnew : ∀ entry ∈ entries, entry.key.toList ∉ state.seenKeys) (line : ℕ) (rest : List (List Char)) :
    readLines format bad state line (entries.map Entry.line ++ rest) =
      readLines format bad
        { candidate := entries.foldl (fun candidate entry => entry.apply candidate) state.candidate
          version := state.version
          seenKeys := (entries.map (·.key.toList)).reverse ++ state.seenKeys }
        (line + entries.length) rest := by
  induction entries generalizing state line with
  | nil => rfl
  | cons entry entries ih =>
    obtain ⟨hentry,hentries⟩ := List.forall_mem_cons.mp hgood
    obtain ⟨hentryNew,hentriesNew⟩ := List.forall_mem_cons.mp hnew
    rw [List.map_cons,List.nodup_cons] at hnodup
    rw [List.map_cons,List.cons_append]
    refine (readLines_entry hentry.name hentry.solid hentryNew (hentry.read _)).trans ?_
    rw [ih hentries hnodup.2]
    · dsimp only
      rw [List.foldl_cons,List.map_cons,List.reverse_cons,List.append_assoc,List.singleton_append,List.length_cons,
        Nat.add_assoc,Nat.add_comm 1]
    · intro other hmem hseen
      rcases List.mem_cons.mp hseen with hsame | hbefore
      · exact hnodup.1 (hsame ▸ List.mem_map_of_mem hmem)
      · exact hentriesNew other hmem hbefore

def profileEntry (config : PlayerConfig F) : Entry F where
  key := "profile"
  value := '"' :: escapeString config.profile ++ ['"']
  apply candidate := { candidate with profile := config.profile }

def outputEntry (config : PlayerConfig F) : Entry F where
  key := "output"
  value := '"' :: escapeString config.output ++ ['"']
  apply candidate := { candidate with output := config.output }

/-- The entries after the two strings. -/
def laterEntries (format : FloatText F) (config : PlayerConfig F) : List (Entry F) :=
  [⟨"subsystems",(toString config.subsystems.toNat).toList,
      fun candidate => { candidate with subsystems := config.subsystems, haveSubsystems := true }⟩,
    ⟨"shaders",boolText config.shadersOn,fun candidate => { candidate with shadersOn := config.shadersOn }⟩,
    ⟨"hd",boolText config.hdOn,fun candidate => { candidate with hdOn := config.hdOn }⟩,
    ⟨"bus_gain",'[' :: arrayText (config.busGain.map format.print) ++ [']'],
      fun candidate => { candidate with busGain := config.busGain }⟩,
    ⟨"bus_muted",'[' :: arrayText (config.busMuted.map boolText) ++ [']'],
      fun candidate => { candidate with busMuted := config.busMuted }⟩]

variable {config : PlayerConfig F}

lemma readValue_profile (state : ReadState F) (value : List Char) : readValue format state "profile".toList value =
    (parseString value).map fun profile => { state with candidate := { state.candidate with profile } } := rfl

lemma readValue_output (state : ReadState F) (value : List Char) : readValue format state "output".toList value =
    (parseString value).map fun output => { state with candidate := { state.candidate with output } } := rfl

lemma readValue_subsystems (state : ReadState F) (value : List Char) :
    readValue format state "subsystems".toList value = (parseUnsigned value).map fun subsystems =>
      { state with candidate := { state.candidate with subsystems, haveSubsystems := true } } := rfl

lemma readValue_shaders (state : ReadState F) (value : List Char) : readValue format state "shaders".toList value =
    (parseBool value).map fun shadersOn => { state with candidate := { state.candidate with shadersOn } } := rfl

lemma readValue_hd (state : ReadState F) (value : List Char) : readValue format state "hd".toList value =
    (parseBool value).map fun hdOn => { state with candidate := { state.candidate with hdOn } } := rfl

lemma readValue_busGain (state : ReadState F) (value : List Char) : readValue format state "bus_gain".toList value =
    (parseArray (parseFloat format) value).map fun busGain =>
      { state with candidate := { state.candidate with busGain } } := rfl

lemma readValue_busMuted (state : ReadState F) (value : List Char) : readValue format state "bus_muted".toList value =
    (parseArray parseBool value).map fun busMuted =>
      { state with candidate := { state.candidate with busMuted } } := rfl

lemma good_profileEntry (h : config.profile.all loadable = true) : (profileEntry config).Good format where
  name := show KeyName "profile".toList by decide
  solid := solid_quoted _
  read state := by
    refine (readValue_profile state _).trans ?_
    unfold profileEntry
    rw [parseString_quoted,if_pos h,Option.map_some]

lemma good_outputEntry (h : config.output.all loadable = true) : (outputEntry config).Good format where
  name := show KeyName "output".toList by decide
  solid := solid_quoted _
  read state := by
    refine (readValue_output state _).trans ?_
    unfold outputEntry
    rw [parseString_quoted,if_pos h,Option.map_some]

lemma good_laterEntries (hexact : format.Exact)
    (hgain : ∀ gain ∈ config.busGain.toList, format.inUnit gain = true) :
    ∀ entry ∈ laterEntries format config, entry.Good format := by
  have hgains : parseArray (parseFloat format) ('[' :: arrayText (config.busGain.map format.print) ++ [']']) =
      some config.busGain :=
    parseArray_arrayText fun gain hmem => ⟨hexact.element (hgain gain hmem),hexact.parseFloat_print (hgain gain hmem)⟩
  have hmutes : parseArray parseBool ('[' :: arrayText (config.busMuted.map boolText) ++ [']']) =
      some config.busMuted :=
    parseArray_arrayText fun muted _ => ⟨element_boolText muted,parseBool_boolText muted⟩
  have hbracket : ∀ text, Solid whitespace ('[' :: text ++ [']']) := fun text =>
    solid_between (by decide) (by decide) text
  unfold laterEntries
  simp only [List.mem_cons,List.not_mem_nil,or_false,forall_eq_or_imp,forall_eq]
  refine ⟨⟨show KeyName "subsystems".toList by decide,solid_toString _,fun state => ?_⟩,
    ⟨show KeyName "shaders".toList by decide,(element_boolText _).solid,fun state => ?_⟩,
    ⟨show KeyName "hd".toList by decide,(element_boolText _).solid,fun state => ?_⟩,
    ⟨show KeyName "bus_gain".toList by decide,hbracket _,fun state => ?_⟩,
    ⟨show KeyName "bus_muted".toList by decide,hbracket _,fun state => ?_⟩⟩
  · rw [readValue_subsystems,parseUnsigned_toString,Option.map_some]
  · rw [readValue_shaders,parseBool_boolText,Option.map_some]
  · rw [readValue_hd,parseBool_boolText,Option.map_some]
  · rw [readValue_busGain,hgains,Option.map_some]
  · rw [readValue_busMuted,hmutes,Option.map_some]

end Entries

section RoundTrip
variable {F : Type} {format : FloatText F} {config : PlayerConfig F}

lemma not_mem_escapeString (value : List Char) : '\n' ∉ escapeString value := by
  intro hmem
  obtain ⟨character,-,hescaped⟩ := List.mem_flatMap.mp hmem
  unfold escaped at hescaped
  split_ifs at hescaped with hquote hbackslash hfeed hreturn htab
  · exact absurd hescaped (by decide)
  · exact absurd hescaped (by decide)
  · exact absurd hescaped (by decide)
  · exact absurd hescaped (by decide)
  · exact absurd hescaped (by decide)
  · exact hfeed (List.mem_singleton.mp hescaped).symm

lemma Element.newline {text : List Char} (h : Element text) : '\n' ∉ text := by
  intro hmem
  exact absurd (h.2 '\n' hmem) (by decide)

lemma not_mem_arrayText {texts : AudioBuses (List Char)} (h : ∀ text ∈ texts.toList, Element text) :
    '\n' ∉ arrayText texts := by
  obtain ⟨first,second,third,fourth⟩ := texts
  unfold AudioBuses.toList at h
  simp only [List.mem_cons,List.not_mem_nil,or_false,forall_eq_or_imp,forall_eq] at h
  obtain ⟨hfirst,hsecond,hthird,hfourth⟩ := h
  have hcomma : '\n' ∉ ", ".toList := by decide
  unfold arrayText
  simp only [List.mem_append,not_or]
  exact ⟨⟨⟨⟨⟨⟨hfirst.newline,hcomma⟩,hsecond.newline⟩,hcomma⟩,hthird.newline⟩,hcomma⟩,hfourth.newline⟩

lemma not_mem_toString (n : ℕ) : '\n' ∉ (toString n).toList := by
  have hdigits : (toString n).toList = Nat.toDigits 10 n := Nat.toList_repr
  rw [hdigits]
  intro hmem
  exact absurd (Nat.isDigit_of_mem_toDigits (by decide) (by decide) hmem) (by decide)

lemma not_mem_entryLine {key : String} {value : List Char} (hkey : '\n' ∉ key.toList) (hvalue : '\n' ∉ value) :
    '\n' ∉ entryLine key value := by
  have hequals : '\n' ∉ " = ".toList := by decide
  unfold entryLine
  simp only [List.mem_append,not_or]
  exact ⟨⟨hkey,hequals⟩,hvalue⟩

lemma not_mem_between {first last : Char} {inner : List Char} (hfirst : '\n' ≠ first) (hlast : '\n' ≠ last)
    (hinner : '\n' ∉ inner) : '\n' ∉ first :: inner ++ [last] := by
  simp only [List.mem_append,List.mem_cons,List.not_mem_nil,or_false,not_or]
  exact ⟨⟨hfirst,hinner⟩,hlast⟩

/-- The lines that are written hold no line feed. -/
lemma not_mem_configLines (hexact : format.Exact)
    (hgain : ∀ gain ∈ config.busGain.toList, format.inUnit gain = true) :
    ∀ line ∈ configLines format config, '\n' ∉ line := by
  have hgains : ∀ text ∈ (config.busGain.map format.print).toList, Element text := by
    intro text hmem
    obtain ⟨gain,hgainMem,rfl⟩ := List.mem_map.mp (show text ∈ config.busGain.toList.map format.print from hmem)
    exact hexact.element (hgain gain hgainMem)
  have hmutes : ∀ text ∈ (config.busMuted.map boolText).toList, Element text := by
    intro text hmem
    obtain ⟨muted,-,rfl⟩ := List.mem_map.mp (show text ∈ config.busMuted.toList.map boolText from hmem)
    exact element_boolText muted
  unfold configLines
  simp only [List.mem_cons,List.not_mem_nil,or_false,forall_eq_or_imp,forall_eq]
  exact ⟨by decide,by decide,by decide,not_mem_entryLine (by decide) (not_mem_toString _),
    not_mem_entryLine (by decide) (not_mem_between (by decide) (by decide) (not_mem_escapeString _)),
    not_mem_entryLine (by decide) (not_mem_between (by decide) (by decide) (not_mem_escapeString _)),
    not_mem_entryLine (by decide) (not_mem_toString _),
    not_mem_entryLine (by decide) (element_boolText _).newline,
    not_mem_entryLine (by decide) (element_boolText _).newline,
    not_mem_entryLine (by decide) (not_mem_between (by decide) (by decide) (not_mem_arrayText hgains)),
    not_mem_entryLine (by decide) (not_mem_between (by decide) (by decide) (not_mem_arrayText hmutes))⟩

/-- What has been read once the version is known. -/
def versioned (format : FloatText F) : ReadState F where
  candidate := defaultConfig format
  version := 1
  seenKeys := ["format_version".toList]

lemma load_configText (hexact : format.Exact)
    (hgain : ∀ gain ∈ config.busGain.toList, format.inUnit gain = true) :
    playerConfigLoadChecked format (.content (configText format config) false) =
      readLines format false (versioned format) 4
        ((profileEntry config :: outputEntry config :: laterEntries format config).map Entry.line) := by
  unfold playerConfigLoadChecked configText
  dsimp only
  rw [linesOf_flatMap (not_mem_configLines hexact hgain)]
  unfold configLines
  rw [readLines_comment (.inr (by decide)),readLines_comment (.inr (by decide)),readLines_comment (.inl rfl)]
  exact readLines_entry (show KeyName "format_version".toList by decide) (solid_toString _) (List.not_mem_nil) rfl

/-- All entries together give the configuration with its mask set. -/
lemma readLines_entries (hexact : format.Exact)
    (hgain : ∀ gain ∈ config.busGain.toList, format.inUnit gain = true)
    (hprofile : config.profile.all loadable = true) (houtput : config.output.all loadable = true) :
    readLines format false (versioned format) 4
        ((profileEntry config :: outputEntry config :: laterEntries format config).map Entry.line) =
      { config := { config with haveSubsystems := true }, status := .loaded } := by
  have hgood : ∀ entry ∈ profileEntry config :: outputEntry config :: laterEntries format config,
      entry.Good format :=
    List.forall_mem_cons.mpr ⟨good_profileEntry hprofile,
      List.forall_mem_cons.mpr ⟨good_outputEntry houtput,good_laterEntries hexact hgain⟩⟩
  have hkeys : (profileEntry config :: outputEntry config :: laterEntries format config).map (·.key.toList) =
      ["profile","output","subsystems","shaders","hd","bus_gain","bus_muted"].map String.toList := rfl
  have hnodup : ((profileEntry config :: outputEntry config :: laterEntries format config).map
      (·.key.toList)).Nodup := by
    rw [hkeys]
    decide
  have hnew : ∀ entry ∈ profileEntry config :: outputEntry config :: laterEntries format config,
      entry.key.toList ∉ (versioned format).seenKeys := by
    intro entry hmem
    have hkey := List.mem_map_of_mem (f := fun entry : Entry F => entry.key.toList) hmem
    rw [hkeys] at hkey
    have hall : ∀ key ∈ ["profile","output","subsystems","shaders","hd","bus_gain","bus_muted"].map String.toList,
        key ∉ ["format_version".toList] := by decide
    exact hall _ hkey
  have hread := readLines_good false hgood hnodup hnew 4 []
  rw [List.append_nil] at hread
  exact hread

/-- A string that is not loadable makes the file invalid. -/
lemma readLines_string_invalid {key : String} (hkey : KeyName key.toList) {value : List Char} {state : ReadState F}
    {line : ℕ} {rest : List (List Char)} (hnew : key.toList ∉ state.seenKeys) (hvalue : ¬value.all loadable = true)
    (hread : ∀ text, parseString text = none →
      readValue format { state with seenKeys := key.toList :: state.seenKeys } key.toList text = none) :
    (readLines format false state line
      (entryLine key ('"' :: escapeString value ++ ['"']) :: rest)).status ≠ .loaded := by
  rw [readLines_invalid hkey (solid_quoted _) hnew (hread _ (by rw [parseString_quoted,if_neg hvalue]))]
  simp

/-- A configuration that was saved is loaded as itself exactly when its subsystem mask is set and its two strings
have no other control characters than tabs, line feeds and returns. -/
theorem playerConfig_loads_back_iff (hexact : format.Exact) {fault : PlayerConfigSaveFault} {answers : SaveAnswers}
    {stored : List Char} (h : playerConfigSave format config fault answers = some stored) :
    playerConfigLoadChecked format (.content stored false) = { config, status := .loaded } ↔
      config.haveSubsystems = true ∧ config.profile.all loadable = true ∧ config.output.all loadable = true := by
  have hsaved : (∀ gain ∈ config.busGain.toList, format.inUnit gain = true) ∧ stored = configText format config := by
    unfold playerConfigSave at h
    split_ifs at h with hgains
    cases h
    refine ⟨fun gain hmem => ?_,rfl⟩
    by_contra hout
    exact hgains (List.any_eq_true.mpr ⟨gain,hmem,by simpa using hout⟩)
  obtain ⟨hgain,rfl⟩ := hsaved
  rw [load_configText hexact hgain]
  by_cases hprofile : config.profile.all loadable = true
  · by_cases houtput : config.output.all loadable = true
    · rw [readLines_entries hexact hgain hprofile houtput]
      simp only [PlayerConfigLoadResult.mk.injEq,and_true,hprofile,houtput]
      obtain ⟨profile,subsystems,haveSubsystems,busGain,busMuted,shadersOn,output,hdOn⟩ := config
      simp [eq_comm]
    · refine iff_of_false (fun hload => ?_) fun hall => houtput hall.2.2
      have hgood : (profileEntry config).Good format := good_profileEntry hprofile
      have hnew : (profileEntry config).key.toList ∉ (versioned format).seenKeys :=
        show "profile".toList ∉ ["format_version".toList] by decide
      rw [List.map_cons] at hload
      have hload := (readLines_entry hgood.name hgood.solid hnew (hgood.read _)).symm.trans hload
      refine absurd (congrArg PlayerConfigLoadResult.status hload) ?_
      exact readLines_string_invalid (show KeyName "output".toList by decide)
        (show "output".toList ∉ ["profile".toList,"format_version".toList] by decide) houtput fun text htext => by
          rw [readValue_output,htext]
          rfl
  · refine iff_of_false (fun hload => ?_) fun hall => hprofile hall.2.1
    refine absurd (congrArg PlayerConfigLoadResult.status hload) ?_
    exact readLines_string_invalid (show KeyName "profile".toList by decide)
      (show "profile".toList ∉ ["format_version".toList] by decide) hprofile fun text htext => by
        rw [readValue_profile,htext]
        rfl

/-- Gains in quarters, which nine digits print exactly. -/
def quarters : FloatText (Fin 5) where
  print gain := (["0","0.25","0.5","0.75","1"].getD gain.val "1").toList
  fromChars text := [0,1,2,3,4].find? fun gain : Fin 5 =>
    (["0","0.25","0.5","0.75","1"].getD gain.val "1").toList = text
  inUnit _ := true
  one := 4

lemma quarters_exact : quarters.Exact where
  fromChars_print := by decide
  print_ne_nil := by decide
  print_numeric := by
    intro gain _
    have hall : ∀ gain : Fin 5, ((quarters.print gain).all fun character =>
        character.isDigit || ['.','e','+','-'].contains character) = true := by decide
    intro character hmem
    simpa using List.all_eq_true.mp (hall gain) character hmem

def savedAnswers : SaveAnswers := ⟨true,true,true,true,false,true,true⟩

/-- A profile with a tab, a quote and a backslash, a mask and two gains that are not one. -/
def plainConfig : PlayerConfig (Fin 5) where
  profile := "noche\t\"\\".toList
  subsystems := 11
  haveSubsystems := true
  busGain := ⟨4,1,2,4⟩

theorem plainConfig_loads_back : playerConfigLoadChecked quarters (.content (configText quarters plainConfig) false) =
    { config := plainConfig, status := .loaded } :=
  (playerConfig_loads_back_iff quarters_exact (show playerConfigSave quarters plainConfig .none savedAnswers = _
    from rfl)).mpr ⟨rfl,by decide,by decide⟩

/-- A profile that holds the first control character. -/
def controlConfig : PlayerConfig (Fin 5) := { plainConfig with profile := [Char.ofNat 1] }

/-- The player has chosen an output, but no subsystems. -/
def unsetConfig : PlayerConfig (Fin 5) := { defaultConfig quarters with output := "crt".toList }

theorem saved_configs_not_loaded_back :
    (∃ stored, playerConfigSave quarters controlConfig .none savedAnswers = some stored ∧
      (playerConfigLoadChecked quarters (.content stored false)).status = .invalid) ∧
    ∃ stored, playerConfigSave quarters unsetConfig .none savedAnswers = some stored ∧
      playerConfigLoadChecked quarters (.content stored false) =
        { config := { unsetConfig with haveSubsystems := true }, status := .loaded } ∧
          unsetConfig.haveSubsystems = false :=
  ⟨⟨configText quarters controlConfig,rfl,by decide +kernel⟩,configText quarters unsetConfig,rfl,
    by decide +kernel,rfl⟩

end RoundTrip

end AytherRuntime.Player
