import AytherRuntime.Fact.Model

/-! The answers of the Runtime probes: one JSON object a line, flattened into paths. A character stands for one byte of
the text. -/
namespace AytherRuntime.Probe

inductive JsonKind
  | nullValue | boolean | number | string | array | object
  deriving DecidableEq, Repr

structure JsonField where
  path : List Char
  kind : JsonKind
  text : List Char
  deriving DecidableEq, Repr

def maxJsonDepth : ℕ := 8
def maxJsonFields : ℕ := 4096
def maxJsonBytes : ℕ := 256 * 1024

section Tokens

def whitespace (text : List Char) : List Char :=
  text.dropWhile fun character => character = ' ' || character = '\t' || character = '\r' || character = '\n'

def consume (expected : Char) : List Char → Option (List Char)
  | [] => none
  | character :: rest => if character = expected then some rest else none

/-- The text after a character that may stand there. -/
def skip (expected : Char) (text : List Char) : List Char := (consume expected text).getD text

def literal (expected text : List Char) : Option (List Char) :=
  if expected.isPrefixOf text then some (text.drop expected.length) else none

def hexValue (character : Char) : Option ℕ :=
  if '0' ≤ character ∧ character ≤ '9' then some (character.toNat - '0'.toNat)
  else if 'a' ≤ character ∧ character ≤ 'f' then some (character.toNat - 'a'.toNat + 10)
  else if 'A' ≤ character ∧ character ≤ 'F' then some (character.toNat - 'A'.toNat + 10)
  else none

/-- `hex4`: four hexadecimal digits and the text after them. -/
def hex4 : List Char → Option (ℕ × List Char)
  | first :: second :: third :: fourth :: rest => do
    let first ← hexValue first
    let second ← hexValue second
    let third ← hexValue third
    let fourth ← hexValue fourth
    some (((first * 16 + second) * 16 + third) * 16 + fourth,rest)
  | _ => none

def appendUtf8 (codePoint : ℕ) : List Char :=
  if codePoint < 0x80 then [Char.ofNat codePoint]
  else if codePoint < 0x800 then
    [Char.ofNat (0xc0 ||| codePoint >>> 6),Char.ofNat (0x80 ||| (codePoint &&& 0x3f))]
  else if codePoint < 0x10000 then
    [Char.ofNat (0xe0 ||| codePoint >>> 12),Char.ofNat (0x80 ||| (codePoint >>> 6 &&& 0x3f)),
      Char.ofNat (0x80 ||| (codePoint &&& 0x3f))]
  else
    [Char.ofNat (0xf0 ||| codePoint >>> 18),Char.ofNat (0x80 ||| (codePoint >>> 12 &&& 0x3f)),
      Char.ofNat (0x80 ||| (codePoint >>> 6 &&& 0x3f)),Char.ofNat (0x80 ||| (codePoint &&& 0x3f))]

/-- The character of an escape of one letter. -/
def escaped (letter : Char) : Option Char :=
  if letter = '"' ∨ letter = '\\' ∨ letter = '/' then some letter
  else if letter = 'b' then some '\x08'
  else if letter = 'f' then some '\x0c'
  else if letter = 'n' then some '\n'
  else if letter = 'r' then some '\r'
  else if letter = 't' then some '\t'
  else none

/-- The escape of a code point after its letter, with the low surrogate that must follow a high one. -/
def unicode (text : List Char) : Option (List Char × List Char) :=
  match hex4 text with
  | none => none
  | some (codePoint,rest) =>
    if 0xdc00 ≤ codePoint ∧ codePoint ≤ 0xdfff then none
    else if 0xd800 ≤ codePoint ∧ codePoint ≤ 0xdbff then
      match (literal "\\u".toList rest).bind hex4 with
      | none => none
      | some (low,rest) =>
        if low < 0xdc00 ∨ 0xdfff < low then none
        else some (appendUtf8 (0x10000 + (codePoint - 0xd800) * 1024 + (low - 0xdc00)),rest)
    else some (appendUtf8 codePoint,rest)

/-- The next piece of a string before its quote, what it stands for and the text after it. -/
def piece : List Char → Option (List Char × List Char)
  | [] => none
  | character :: rest =>
    if character.toNat < 0x20 then none
    else if character ≠ '\\' then some ([character],rest)
    else
      match rest with
      | [] => none
      | letter :: rest =>
        match escaped letter with
        | some character => some ([character],rest)
        | none => if letter = 'u' then unicode rest else none

/-- The loop of `string`; each piece takes a character at least, so that as many steps as characters are enough. -/
def stringFrom (result : List Char) : ℕ → List Char → Option (List Char × List Char)
  | 0,_ => none
  | steps + 1,text =>
    match consume '"' text with
    | some rest => some (result,rest)
    | none =>
      match piece text with
      | none => none
      | some (characters,rest) => stringFrom (result ++ characters) steps rest

def string (text : List Char) : Option (List Char × List Char) :=
  match consume '"' text with
  | none => none
  | some rest => stringFrom [] rest.length rest

def digits (text : List Char) : Option (List Char) :=
  let rest := text.dropWhile Char.isDigit
  if rest.length = text.length then none else some rest

/-- The text after a number. -/
def afterNumber (text : List Char) : Option (List Char) := do
  let signed := skip '-' text
  let whole ← (consume '0' signed).or (digits signed)
  let fraction ←
    match consume '.' whole with
    | some rest => digits rest
    | none => some whole
  match (consume 'e' fraction).or (consume 'E' fraction) with
  | some rest =>
    match consume '+' rest with
    | some rest => digits rest
    | none => digits (skip '-' rest)
  | none => some fraction

/-- `number`: its text and the text after it. -/
def number (text : List Char) : Option (List Char × List Char) :=
  (afterNumber text).map fun rest => (text.take (text.length - rest.length),rest)

end Tokens

/-- The text that is left and the fields so far. -/
structure ParserState where
  text : List Char
  fields : List JsonField
  deriving DecidableEq, Repr

namespace ParserState
variable (state : ParserState) (path : List Char)

/-- `add`, after which the text goes on at the one given. -/
def add (kind : JsonKind) (text rest : List Char) : Option ParserState :=
  if maxJsonFields ≤ state.fields.length then none else some ⟨rest,state.fields ++ [⟨path,kind,text⟩]⟩

/-- The number of its elements is written to the field of an object or an array. -/
def setCount (entry count : ℕ) : ParserState :=
  { state with fields := state.fields.modify entry fun field => { field with text := (toString count).toList } }

end ParserState

def childPath (path key : List Char) : List Char := if path = [] then key else path ++ '.' :: key

def elementPath (path : List Char) (index : ℕ) : List Char := path ++ '[' :: (toString index).toList ++ [']']

section Values
variable (value : List Char → ParserState → Option ParserState) (path : List Char)

/-- A key that names one step of a path alone. -/
def validKey (key : List Char) : Bool :=
  key ≠ [] && key.all fun character => character ≠ '.' && character ≠ '[' && character ≠ ']'

/-- The loop of `object` over its members; each takes a character at least. -/
def members : ℕ → ℕ → ParserState → Option (ParserState × ℕ)
  | 0,_,_ => none
  | steps + 1,count,state =>
    match string (whitespace state.text) with
    | none => none
    | some (key,rest) =>
      if !validKey key then none
      else
        match consume ':' (whitespace rest) with
        | none => none
        | some rest =>
          if state.fields.any fun field => field.path = childPath path key then none
          else
            match value (childPath path key) { state with text := rest } with
            | none => none
            | some state =>
              match consume '}' (whitespace state.text) with
              | some rest => some ({ state with text := rest },count + 1)
              | none =>
                match consume ',' (whitespace state.text) with
                | some rest => members steps (count + 1) { state with text := rest }
                | none => none

/-- `object`, after its brace. -/
def object (state : ParserState) : Option ParserState :=
  let entry := state.fields.length
  match state.add path .object "0".toList (whitespace state.text) with
  | none => none
  | some added =>
    match consume '}' added.text with
    | some rest => some { added with text := rest }
    | none => (members value path added.text.length 0 added).map fun (state,count) => state.setCount entry count

/-- The loop of `array` over its elements; each takes a character at least. -/
def elements : ℕ → ℕ → ParserState → Option (ParserState × ℕ)
  | 0,_,_ => none
  | steps + 1,count,state =>
    match value (elementPath path count) state with
    | none => none
    | some state =>
      match consume ']' (whitespace state.text) with
      | some rest => some ({ state with text := rest },count + 1)
      | none =>
        match consume ',' (whitespace state.text) with
        | some rest => elements steps (count + 1) { state with text := rest }
        | none => none

/-- `array`, after its bracket. -/
def array (state : ParserState) : Option ParserState :=
  let entry := state.fields.length
  match state.add path .array "0".toList (whitespace state.text) with
  | none => none
  | some added =>
    match consume ']' added.text with
    | some rest => some { added with text := rest }
    | none => (elements value path added.text.length 0 added).map fun (state,count) => state.setCount entry count

/-- `value`, of what is no object and no array. -/
def scalar (state : ParserState) : Option ParserState :=
  match consume '"' state.text with
  | some _ => (string state.text).bind fun (text,rest) => state.add path .string text rest
  | none =>
    match literal "true".toList state.text with
    | some rest => state.add path .boolean "true".toList rest
    | none =>
      match literal "false".toList state.text with
      | some rest => state.add path .boolean "false".toList rest
      | none =>
        match literal "null".toList state.text with
        | some rest => state.add path .nullValue [] rest
        | none => (number state.text).bind fun (text,rest) => state.add path .number text rest

end Values

/-- `value`, with the levels that objects and arrays may still nest. -/
def value : ℕ → List Char → ParserState → Option ParserState
  | 0,path,state =>
    let text := whitespace state.text
    match consume '{' text with
    | some _ => none
    | none =>
      match consume '[' text with
      | some _ => none
      | none => scalar path { state with text := text }
  | levels + 1,path,state =>
    let text := whitespace state.text
    match consume '{' text with
    | some rest => object (value levels) path { state with text := rest }
    | none =>
      match consume '[' text with
      | some rest => array (value levels) path { state with text := rest }
      | none => scalar path { state with text := text }

/-- `parse_json_fields` -/
def parseJsonFields (text : List Char) : Option (List JsonField) :=
  if maxJsonBytes < text.length then none
  else
    match consume '{' (whitespace text) with
    | none => none
    | some _ =>
      match value maxJsonDepth [] ⟨whitespace text,[]⟩ with
      | none => none
      | some state => if whitespace state.text = [] then some state.fields else none

section Fields
variable (fields : List JsonField) (path : List Char)

def find : Option JsonField := fields.find? fun field => field.path = path

/-- The text of a field of one of some kinds. -/
def textOf (kinds : List JsonKind) : Option (List Char) :=
  match find fields path with
  | none => none
  | some field => if field.kind ∈ kinds then some field.text else none

def stringField : Option (List Char) := textOf fields path [.string]

def booleanField : Option Bool := (textOf fields path [.boolean]).map fun text => text = "true".toList

def unsignedField : Option ℕ := (textOf fields path [.number]).bind (fromChars (2 ^ 64))

/-- `size`, the number of elements of an array or an object. -/
def sizeField : Option ℕ := (textOf fields path [.array,.object]).bind (fromChars (2 ^ 64))

end Fields

example : (parseJsonFields "\x7b\"a\": [\"\\u00e9\", -1.5e3], \"b\": \x7b\"c\": null\x7d\x7d".toList).map
    (fun fields => fields.map fun field => (String.ofList field.path,String.ofList field.text)) =
    some [("","2"),("a","2"),("a[0]",String.ofList [Char.ofNat 0xc3,Char.ofNat 0xa9]),("a[1]","-1.5e3"),("b","1"),
      ("b.c","")] := by decide +kernel

end AytherRuntime.Probe
