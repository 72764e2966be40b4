import AytherRuntime.Fact.Model
import AytherRuntime.Library.Lines
import AytherRuntime.Replay.Inputs
import Mathlib.Data.Rat.Init
import Mathlib.Algebra.Order.Ring.Rat
import Mathlib.Data.Nat.Digits.Defs

/-! Pad timelines: a text of one step a line drives the game instead of a recorded take. A character stands for one byte
of the text, and durations are exact. -/
namespace AytherRuntime.Timeline
open Lines Replay

def maxTimelineBytes : ℕ := 64 * 1024
def maxTimelineSteps : ℕ := 4096
def defaultPressFrames : ℕ := 4
def maxStepSeconds : ℚ := 1000000

/-- `genesis_buttons` -/
def genesisButtons : List (List Char × UInt16) :=
  [("a".toList,0x0002),("b".toList,0x0001),("c".toList,0x0100),("x".toList,0x0400),("y".toList,0x0200),
    ("z".toList,0x0800),("start".toList,0x0008),("mode".toList,0x0004),("up".toList,0x0010),("down".toList,0x0020),
    ("left".toList,0x0040),("right".toList,0x0080)]

inductive TimelineStart
  | powerOn
  | state (path : List Char)
  deriving DecidableEq, Repr

inductive TimelineStepKind
  | wait | press | down | up
  deriving DecidableEq, Repr

inductive TimelineDurationUnit
  | seconds | frames
  deriving DecidableEq, Repr

structure TimelineDuration where
  unit : TimelineDurationUnit
  seconds : ℚ := 0
  frames : ℕ := 0
  deriving DecidableEq, Repr

structure TimelineStep where
  kind : TimelineStepKind
  buttons : UInt16 := 0
  duration : Option TimelineDuration := none
  line : ℕ
  deriving DecidableEq, Repr

structure PadTimeline where
  start : TimelineStart := .powerOn
  steps : List TimelineStep := []
  deriving DecidableEq, Repr

inductive TimelineParseError
  | fileTooLarge | unknownKeyword | unknownButton | invalidDuration | missingDuration | unexpectedArgument
  | invalidStart | startNotFirst | startRepeated | buttonAlreadyDown | buttonNotDown | tooManySteps | noSteps
  deriving DecidableEq, Repr

section Text

def isSpace (character : Char) : Bool :=
  character = ' ' || character = '\t' || character = '\r' || character = '\x0c' || character = '\x0b'

def trim (text : List Char) : List Char :=
  let text := text.dropWhile isSpace
  (text.reverse.dropWhile isSpace).reverse

def lowered (text : List Char) : List Char :=
  text.map fun character => if 'A' ≤ character ∧ character ≤ 'Z' then Char.ofNat (character.toNat + 32) else character

/-- The rest of a line without its comment, which begins after a blank and outside of quotes. -/
def withoutCommentFrom (quoted blank : Bool) : List Char → List Char
  | [] => []
  | character :: rest =>
    if character = '"' then character :: withoutCommentFrom (!quoted) (isSpace character) rest
    else if !quoted && character = '#' && blank then []
    else character :: withoutCommentFrom quoted (isSpace character) rest

def withoutComment (line : List Char) : List Char := withoutCommentFrom false true line

def splitToken (text : List Char) : List Char × List Char :=
  let text := trim text
  (text.takeWhile fun character => !isSpace character,trim (text.dropWhile fun character => !isSpace character))

def unquoted (text : List Char) : List Char :=
  if 2 ≤ text.length ∧ text.head? = some '"' ∧ text.getLast? = some '"' then text.tail.dropLast else text

end Text

section Numbers

def decimalDigit (character : Char) : Option ℕ := if character.isDigit then some (character.toNat - '0'.toNat) else none

/-- The value of digits, the first one the highest; none of none. -/
def decimal (digits : List Char) : Option ℕ :=
  if digits = [] then none else (digits.mapM decimalDigit).map fun digits => Nat.ofDigits 10 digits.reverse

/-- The exponent after its letter. -/
def fromCharsExponent : List Char → Option ℤ
  | '-' :: digits => (decimal digits).map fun value => -(value : ℤ)
  | '+' :: digits => (decimal digits).map Int.ofNat
  | digits => (decimal digits).map Int.ofNat

/-- `from_chars` of a whole text without a sign, of the finite numbers: digits with a point among them or not, then an
exponent or none. -/
def fromCharsDecimal (text : List Char) : Option ℚ :=
  let whole := text.takeWhile Char.isDigit
  let rest := text.dropWhile Char.isDigit
  let (fraction,rest) :=
    match rest with
    | '.' :: rest => (rest.takeWhile Char.isDigit,rest.dropWhile Char.isDigit)
    | rest => ([],rest)
  (decimal (whole ++ fraction)).bind fun digits =>
    let value := (digits : ℚ) / 10 ^ fraction.length
    match rest with
    | [] => some value
    | 'e' :: exponent => (fromCharsExponent exponent).map fun exponent => value * 10 ^ exponent
    | _ => none

end Numbers

def parseFrames (number : List Char) : Option TimelineDuration :=
  match fromChars (2 ^ 32) number with
  | none => none
  | some frames =>
    if frames < minRecordingFrames ∨ maxRecordingFrames < frames then none else some ⟨.frames,0,frames⟩

def parseSeconds (number : List Char) (scale : ℚ) : Option TimelineDuration :=
  match fromCharsDecimal number with
  | none => none
  | some seconds =>
    let seconds := seconds * scale
    if seconds ≤ 0 ∨ maxStepSeconds < seconds then none else some ⟨.seconds,seconds,0⟩

def parseDuration (text : List Char) : Option TimelineDuration :=
  let value := lowered text
  let signed := fun number : List Char => number = [] ∨ number.head? = some '-' ∨ number.head? = some '+'
  if "ms".toList.isSuffixOf value then
    let number := value.dropLast.dropLast
    if signed number then none else parseSeconds number (1 / 1000)
  else if "s".toList.isSuffixOf value then
    let number := value.dropLast
    if signed number then none else parseSeconds number 1
  else if "f".toList.isSuffixOf value then
    let number := value.dropLast
    if signed number then none else parseFrames number
  else none

/-- The mask of names, the buttons of which must differ; an empty name, as after the last `+`, is of no button. -/
def parseButtonNames (mask : UInt16) : List (List Char) → Option UInt16
  | [] => some mask
  | name :: names =>
    match genesisButtons.find? fun button => button.1 = lowered name with
    | none => none
    | some (_,found) => if mask &&& found ≠ 0 then none else parseButtonNames (mask ||| found) names

def parseTimelineButtons (text : List Char) : Option UInt16 :=
  if text = [] then none else parseButtonNames 0 (text.splitOn '+')

/-- What `parse_pad_timeline` keeps between two lines. -/
structure ParseState where
  startSeen : Bool := false
  held : UInt16 := 0
  lineNumber : ℕ := 0
  timeline : PadTimeline := {}
  deriving DecidableEq, Repr

namespace ParseState
variable (state : ParseState)

def push (step : TimelineStep) : ParseState :=
  { state with timeline := { state.timeline with steps := state.timeline.steps ++ [step] } }

def parseStart (arguments : List Char) : Except TimelineParseError ParseState :=
  if state.startSeen then .error .startRepeated
  else if state.timeline.steps ≠ [] then .error .startNotFirst
  else
    let (kind,path) := splitToken arguments
    if lowered kind = "power_on".toList then
      if path ≠ [] then .error .unexpectedArgument
      else .ok { state with startSeen := true, timeline := { state.timeline with start := .powerOn } }
    else if lowered kind = "state".toList then
      if unquoted path = [] then .error .invalidStart
      else .ok { state with startSeen := true, timeline := { state.timeline with start := .state (unquoted path) } }
    else .error .invalidStart

def parseWait (arguments : List Char) : Except TimelineParseError ParseState :=
  let (duration,rest) := splitToken arguments
  if duration = [] then .error .missingDuration
  else if rest ≠ [] then .error .unexpectedArgument
  else
    match parseDuration duration with
    | none => .error .invalidDuration
    | some duration => .ok (state.push { kind := .wait, duration := some duration, line := state.lineNumber })

def parsePress (hold : Bool) (buttons : UInt16) (duration : List Char) : Except TimelineParseError ParseState :=
  if duration = [] then
    if hold then .error .missingDuration
    else
      .ok (state.push
        { kind := .press, buttons := buttons, duration := some ⟨.frames,0,defaultPressFrames⟩,
          line := state.lineNumber })
  else
    match parseDuration duration with
    | none => .error .invalidDuration
    | some duration =>
      .ok (state.push { kind := .press, buttons := buttons, duration := some duration, line := state.lineNumber })

def parseDown (buttons : UInt16) : Except TimelineParseError ParseState :=
  if state.held &&& buttons ≠ 0 then .error .buttonAlreadyDown
  else
    .ok ({ state with held := state.held ||| buttons }.push
      { kind := .down, buttons := buttons, line := state.lineNumber })

def parseUp (buttons : UInt16) : Except TimelineParseError ParseState :=
  if state.held &&& buttons ≠ buttons then .error .buttonNotDown
  else
    .ok ({ state with held := state.held &&& ~~~buttons }.push
      { kind := .up, buttons := buttons, line := state.lineNumber })

def parseButtons (keyword arguments : List Char) : Except TimelineParseError ParseState :=
  if keyword ≠ "press".toList ∧ keyword ≠ "hold".toList ∧ keyword ≠ "down".toList ∧ keyword ≠ "up".toList then
    .error .unknownKeyword
  else
    let (names,afterButtons) := splitToken arguments
    if names = [] then .error .unknownButton
    else
      match parseTimelineButtons names with
      | none => .error .unknownButton
      | some buttons =>
        let (duration,rest) := splitToken afterButtons
        if rest ≠ [] then .error .unexpectedArgument
        else if keyword = "press".toList ∨ keyword = "hold".toList then
          state.parsePress (keyword = "hold".toList) buttons duration
        else if duration ≠ [] then .error .unexpectedArgument
        else if keyword = "down".toList then state.parseDown buttons
        else state.parseUp buttons

/-- One line of the loop of `parse_pad_timeline`, which is numbered already. -/
def parseContent (raw : List Char) : Except TimelineParseError ParseState :=
  let content := trim (withoutComment raw)
  if content = [] then .ok state
  else
    let (keyword,arguments) := splitToken content
    let keyword := lowered keyword
    if keyword = "start".toList then state.parseStart arguments
    else if state.timeline.steps.length = maxTimelineSteps then .error .tooManySteps
    else if keyword = "wait".toList then state.parseWait arguments
    else state.parseButtons keyword arguments

def parseLine (raw : List Char) : Except (TimelineParseError × ℕ) ParseState :=
  { state with lineNumber := state.lineNumber + 1 }.parseContent raw |>.mapError fun error =>
    (error,state.lineNumber + 1)

end ParseState

/-- The loop of `parse_pad_timeline`. -/
def parseLines (state : ParseState) (lines : List (List Char)) : Except (TimelineParseError × ℕ) ParseState :=
  lines.foldlM ParseState.parseLine state

/-- `parse_pad_timeline`, with the error and its line. -/
def parsePadTimeline (text : List Char) : Except (TimelineParseError × ℕ) PadTimeline :=
  if maxTimelineBytes < text.length then .error (.fileTooLarge,0)
  else
    match parseLines {} (linesOf text) with
    | .error error => .error error
    | .ok state => if state.timeline.steps = [] then .error (.noSteps,0) else .ok state.timeline

example : (parsePadTimeline "start power_on\nDOWN a # held\nwait 1.5s\nup a\npress b+start 20ms".toList).map
    (fun timeline => timeline.steps.map fun step => (step.kind,step.buttons,step.line)) =
    .ok [(.down,2,2),(.wait,0,3),(.up,2,4),(.press,9,5)] := by decide +kernel

end AytherRuntime.Timeline
