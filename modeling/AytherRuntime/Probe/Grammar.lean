import AytherRuntime.Probe.Json
import Mathlib.Data.Nat.Digits.Defs

/-! The grammar of the answers of the probes: the JSON texts of a value, up to some levels of objects and arrays, and
the fields that a value is flattened into. -/
namespace AytherRuntime.Probe

/-- A JSON value; a number is its text, and a string what it stands for. -/
inductive Json
  | null
  | boolean (truth : Bool)
  | number (text : List Char)
  | string (text : List Char)
  | array (values : List Json)
  | object (members : List (List Char × Json))

section Strings

/-- The escapes of one letter with their meanings. -/
def letterEscapes : List (Char × Char) :=
  [('"','"'),('\\','\\'),('/','/'),('b','\x08'),('f','\x0c'),('n','\n'),('r','\r'),('t','\t')]

/-- Four hexadecimal digits of a number. -/
inductive HexQuad : List Char → ℕ → Prop
  | mk {p q r s a b c d} (first : hexValue p = some a) (second : hexValue q = some b) (third : hexValue r = some c)
      (fourth : hexValue s = some d) : HexQuad [p,q,r,s] (Nat.ofDigits 16 [d,c,b,a])

/-- The bytes of a code point in UTF-8. -/
def utf8 (codePoint : ℕ) : List Char :=
  (String.utf8EncodeChar (Char.ofNat codePoint)).map fun byte => Char.ofNat byte.toNat

/-- A piece of a string with its meaning: a character that is no control character, no quote and no backslash, or an
escape; surrogates are escaped in pairs. -/
inductive PieceText : List Char → List Char → Prop
  | plain {c} (control : 0x20 ≤ c.toNat) (quote : c ≠ '"') (backslash : c ≠ '\\') : PieceText [c] [c]
  | letter {letter c} (known : (letter,c) ∈ letterEscapes) : PieceText [c] ['\\',letter]
  | codePoint {digits n} (quad : HexQuad digits n) (scalar : n < 0xd800 ∨ 0xdfff < n) :
      PieceText (utf8 n) ('\\' :: 'u' :: digits)
  | pair {high low m n} (highQuad : HexQuad high m) (lowQuad : HexQuad low n) (highRange : 0xd800 ≤ m ∧ m ≤ 0xdbff)
      (lowRange : 0xdc00 ≤ n ∧ n ≤ 0xdfff) :
      PieceText (utf8 (0x10000 + (m - 0xd800) * 0x400 + (n - 0xdc00))) ('\\' :: 'u' :: (high ++ '\\' :: 'u' :: low))

inductive BodyText : List Char → List Char → Prop
  | nil : BodyText [] []
  | cons {meaning piece meanings pieces} (head : PieceText meaning piece) (tail : BodyText meanings pieces) :
      BodyText (meaning ++ meanings) (piece ++ pieces)

/-- A string of the text between its quotes. -/
def StringText (meaning text : List Char) : Prop := ∃ body, BodyText meaning body ∧ text = '"' :: (body ++ ['"'])

end Strings

section Numbers

def DigitsText (text : List Char) : Prop := text ≠ [] ∧ ∀ character ∈ text, character.isDigit = true

/-- Digits that begin with a zero only as the zero. -/
def WholeText (text : List Char) : Prop := text = ['0'] ∨ DigitsText text ∧ text.head? ≠ some '0'

def FractionText (text : List Char) : Prop := text = [] ∨ ∃ digits, DigitsText digits ∧ text = '.' :: digits

def ExponentText (text : List Char) : Prop :=
  text = [] ∨ ∃ letter sign digits, (letter = 'e' ∨ letter = 'E') ∧ (sign = [] ∨ sign = ['+'] ∨ sign = ['-']) ∧
    DigitsText digits ∧ text = letter :: (sign ++ digits)

def NumberText (text : List Char) : Prop :=
  ∃ sign whole fraction exponent, (sign = [] ∨ sign = ['-']) ∧ WholeText whole ∧ FractionText fraction ∧
    ExponentText exponent ∧ text = sign ++ (whole ++ (fraction ++ exponent))

end Numbers

section Values

def isBlank (character : Char) : Bool :=
  character = ' ' || character = '\t' || character = '\r' || character = '\n'

def Blank (text : List Char) : Prop := ∀ character ∈ text, isBlank character = true

variable (ValueText : Json → List Char → Prop)

/-- Elements with the commas between them, and blanks around each. -/
inductive ElementsText : List Json → List Char → Prop
  | last {json text before after} (blankBefore : Blank before) (head : ValueText json text) (blankAfter : Blank after) :
      ElementsText [json] (before ++ (text ++ after))
  | next {json text before after values rest} (blankBefore : Blank before) (head : ValueText json text)
      (blankAfter : Blank after) (tail : ElementsText values rest) :
      ElementsText (json :: values) (before ++ (text ++ (after ++ ',' :: rest)))

/-- One member: a string, a colon and a value, with blanks around each. -/
inductive MemberText : List Char × Json → List Char → Prop
  | mk {key json name text before colon value after} (blankBefore : Blank before) (named : StringText key name)
      (blankColon : Blank colon) (blankValue : Blank value) (head : ValueText json text) (blankAfter : Blank after) :
      MemberText (key,json) (before ++ (name ++ (colon ++ ':' :: (value ++ (text ++ after)))))

inductive MembersText : List (List Char × Json) → List Char → Prop
  | last {member text} (head : MemberText ValueText member text) : MembersText [member] text
  | next {member text members rest} (head : MemberText ValueText member text) (tail : MembersText members rest) :
      MembersText (member :: members) (text ++ ',' :: rest)

def ArrayText (values : List Json) (text : List Char) : Prop :=
  ∃ inner, text = '[' :: (inner ++ [']']) ∧ (values = [] ∧ Blank inner ∨ ElementsText ValueText values inner)

/-- The keys of an object are valid and do not repeat. -/
def ObjectText (members : List (List Char × Json)) (text : List Char) : Prop :=
  (∃ inner, text = '{' :: (inner ++ ['}']) ∧ (members = [] ∧ Blank inner ∨ MembersText ValueText members inner)) ∧
    (∀ member ∈ members, validKey member.1 = true) ∧ (members.map Prod.fst).Nodup

def ScalarText : Json → List Char → Prop
  | .null,text => text = "null".toList
  | .boolean truth,text => text = if truth then "true".toList else "false".toList
  | .number number,text => number = text ∧ NumberText text
  | .string meaning,text => StringText meaning text
  | _,_ => False

end Values

/-- The texts of a value whose objects and arrays nest at most so many levels. -/
def ValueText : ℕ → Json → List Char → Prop
  | levels + 1,.array values,text => ArrayText (ValueText levels) values text
  | levels + 1,.object members,text => ObjectText (ValueText levels) members text
  | _,json,text => ScalarText json text

section Flattened

mutual

/-- The fields of a value, each object and array before what is in it. -/
def flatten (path : List Char) : Json → List JsonField
  | .null => [⟨path,.nullValue,[]⟩]
  | .boolean truth => [⟨path,.boolean,if truth then "true".toList else "false".toList⟩]
  | .number text => [⟨path,.number,text⟩]
  | .string text => [⟨path,.string,text⟩]
  | .array values => ⟨path,.array,(toString values.length).toList⟩ :: flattenElements path 0 values
  | .object members => ⟨path,.object,(toString members.length).toList⟩ :: flattenMembers path members

def flattenElements (path : List Char) (index : ℕ) : List Json → List JsonField
  | [] => []
  | json :: values => flatten (elementPath path index) json ++ flattenElements path (index + 1) values

def flattenMembers (path : List Char) : List (List Char × Json) → List JsonField
  | [] => []
  | (key,json) :: members => flatten (childPath path key) json ++ flattenMembers path members

end

/-- A step from a value to one that is in it. -/
inductive Step
  | key (key : List Char)
  | index (index : ℕ)
  deriving DecidableEq, Repr

/-- The path of some steps from another one. -/
def pathOf (path : List Char) : List Step → List Char
  | [] => path
  | .key key :: steps => pathOf (childPath path key) steps
  | .index index :: steps => pathOf (elementPath path index) steps

/-- The value that some steps lead to. -/
def Json.at : List Step → Json → Option Json
  | [],json => some json
  | .key key :: steps,.object members =>
    ((members.find? fun member => member.1 = key).map Prod.snd).bind (Json.at steps)
  | .index index :: steps,.array values => values[index]?.bind (Json.at steps)
  | _ :: _,_ => none

def Json.kind : Json → JsonKind
  | .null => .nullValue
  | .boolean _ => .boolean
  | .number _ => .number
  | .string _ => .string
  | .array _ => .array
  | .object _ => .object

/-- The text of the field of a value: a scalar as it is, and an object or an array as the number of its elements. -/
def Json.fieldText : Json → List Char
  | .null => []
  | .boolean truth => if truth then "true".toList else "false".toList
  | .number text => text
  | .string text => text
  | .array values => (toString values.length).toList
  | .object members => (toString members.length).toList

end Flattened

/-- The texts that are accepted with the members of their object: the object with blanks around it, within the limits of
nesting and of fields. -/
def DocumentText (members : List (List Char × Json)) (text : List Char) : Prop :=
  ∃ before body after, Blank before ∧ Blank after ∧ text = before ++ (body ++ after) ∧
    ValueText maxJsonDepth (.object members) body ∧ (flatten [] (.object members)).length ≤ maxJsonFields

end AytherRuntime.Probe
