import Mathlib.Algebra.Ring.Nat
import Mathlib.Data.Nat.Notation

/-! The recorded inputs of a take, read one by one from the bytes of its recording. -/
namespace AytherRuntime.Replay

def minRecordingFrames : ℕ := 1
def maxRecordingFrames : ℕ := 54000

structure RecordingByteRange where
  offset : ℕ
  size : ℕ
  deriving DecidableEq, Repr

/-- `RecordingLayout`, its inputs alone. -/
structure RecordingLayout where
  frameCount : ℕ
  inputs : RecordingByteRange
  deriving DecidableEq, Repr

inductive RecordingInputSourceError
  | invalidFrameCount | invalidInputRange | truncatedInputRange
  deriving DecidableEq, Repr

structure RecordingFrameInput where
  frame : ℕ
  buttons : UInt16
  deriving DecidableEq, Repr

/-- `RecordingInputSource`, over the bytes of the inputs alone. -/
structure RecordingInputSource where
  bytes : List UInt8
  frameCount : ℕ
  cursor : ℕ := 0
  sized : bytes.length = 2 * frameCount

namespace RecordingInputSource
variable (source : RecordingInputSource)

def exhausted : Bool := source.frameCount ≤ source.cursor

/-- The input of a frame, the low byte first. -/
def input (frame : ℕ) (h : frame < source.frameCount) : RecordingFrameInput :=
  have hsized := source.sized
  let low := source.bytes[2 * frame].toUInt16
  let high := source.bytes[2 * frame + 1].toUInt16
  ⟨frame,low ||| high <<< 8⟩

def next : Option RecordingFrameInput × RecordingInputSource :=
  if h : source.cursor < source.frameCount then
    (some (source.input source.cursor h),{ source with cursor := source.cursor + 1 })
  else (none,source)

/-- The source after a number of reads. -/
def advance : ℕ → RecordingInputSource
  | 0 => source
  | count + 1 => (advance count).next.2

variable {source}

lemma next_of_lt (hmore : source.cursor < source.frameCount) :
    source.next = (some (source.input source.cursor hmore),{ source with cursor := source.cursor + 1 }) := dif_pos hmore

lemma next_of_ge (hnone : source.frameCount ≤ source.cursor) : source.next = (none,source) :=
  dif_neg (Nat.not_lt.mpr hnone)

lemma advance_eq (h : source.cursor = 0) (count : ℕ) :
    source.advance count = { source with cursor := min count source.frameCount } := by
  induction count with
  | zero =>
    cases source
    cases h
    rw [Nat.zero_min]
    rfl
  | succ count ih =>
    have hnext : source.advance (count + 1) = (source.advance count).next.2 := rfl
    rw [hnext,ih]
    by_cases hmore : count < source.frameCount
    · rw [Nat.min_eq_left (Nat.le_of_lt hmore),next_of_lt hmore,Nat.min_eq_left hmore]
    · rw [Nat.min_eq_right (Nat.le_of_not_lt hmore),next_of_ge (Nat.le_refl _),Nat.min_eq_right (by omega)]

/-- The inputs are read one after the other from the first, and then there is none. -/
lemma next_advance (h : source.cursor = 0) (count : ℕ) : (source.advance count).next.1 =
    if hmore : count < source.frameCount then some (source.input count hmore) else none := by
  rw [advance_eq h]
  by_cases hmore : count < source.frameCount
  · rw [Nat.min_eq_left (Nat.le_of_lt hmore),next_of_lt hmore,dif_pos hmore]
    rfl
  · rw [Nat.min_eq_right (Nat.le_of_not_lt hmore),next_of_ge (Nat.le_refl _),dif_neg hmore]

end RecordingInputSource

def RecordingByteRange.within (range : RecordingByteRange) (bytes : List UInt8) : Bool :=
  range.offset ≤ bytes.length && range.size ≤ bytes.length - range.offset

/-- `make_recording_input_source` -/
def makeRecordingInputSource (recording : List UInt8) (layout : RecordingLayout) :
    Except RecordingInputSourceError RecordingInputSource :=
  if layout.frameCount < minRecordingFrames ∨ maxRecordingFrames < layout.frameCount then .error .invalidFrameCount
  else if hrange : layout.inputs.size ≠ 2 * layout.frameCount ∨ 2 ^ 64 ≤ layout.inputs.offset then
    .error .invalidInputRange
  else if hwithin : !layout.inputs.within recording then .error .truncatedInputRange
  else
    .ok
      { bytes := (recording.drop layout.inputs.offset).take layout.inputs.size
        frameCount := layout.frameCount
        sized := by
          unfold RecordingByteRange.within at hwithin
          rw [List.length_take,List.length_drop]
          simp only [ne_eq,not_or,Decidable.not_not,Bool.not_eq_true',Bool.not_eq_false,Bool.and_eq_true,
            decide_eq_true_eq] at hrange hwithin
          omega }
end AytherRuntime.Replay
