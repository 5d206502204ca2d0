import Gazette.Json.Blank
import Gazette.Json.Number
import Gazette.Json.Text
import Gazette.Json.Word

/-!
# Passing over JSON values

`Json.skipValue` passes over a value of any kind and depth. The lists and objects that are still open are kept as a
list of `Frame`s, the innermost first.
-/

namespace Gazette.Json

open Fallible (bind_eq_ok)

/-! ## Frames -/

inductive Frame
  | list
  | object
  deriving DecidableEq, Repr

def Frame.closer : Frame → UInt8
  | .list => 0x5D
  | .object => 0x7D

def Frame.endError : Frame → JsonError
  | .list => .endInList
  | .object => .endInObject

def Frame.commaError : Frame → JsonError
  | .list => .expectedCommaOrListEnd
  | .object => .expectedCommaOrObjectEnd

/-! ## Keys -/

def expectColon (octets : Bytes) : Except JsonError Bytes :=
  match skipBlankOctets octets with
  | [] => .error .endInObject
  | octet :: rest => if octet = 0x3A then .ok rest else .error .expectedColon

def skipKey (octets : Bytes) : Except JsonError Bytes :=
  match skipBlankOctets octets with
  | [] => .error .endInObject
  | octet :: rest =>
    if octet = 0x22 then do
      let rest ← skipText rest
      expectColon rest
    else .error .keyNotString

def Frame.skipToValue : Frame → Bytes → Except JsonError Bytes
  | .list, octets => .ok octets
  | .object, octets => skipKey octets

theorem length_of_expectColon {octets rest : Bytes} (taken : expectColon octets = .ok rest) :
    rest.length < octets.length := by
  rw [expectColon] at taken
  split at taken
  · cases taken
  · rename_i octet tail skipped
    have := length_lt_of_skipBlankOctets skipped
    split at taken
    · cases taken
      exact this
    · cases taken

theorem length_of_skipKey {octets rest : Bytes} (skipped : skipKey octets = .ok rest) :
    rest.length < octets.length := by
  rw [skipKey] at skipped
  split at skipped
  · cases skipped
  · rename_i octet tail blanks
    have := length_lt_of_skipBlankOctets blanks
    split at skipped
    · obtain ⟨_, key, colon⟩ := bind_eq_ok.mp skipped
      have := length_of_skipText key
      have := length_of_expectColon colon
      omega
    · cases skipped

theorem length_of_skipToValue {frame : Frame} {octets rest : Bytes}
    (skipped : frame.skipToValue octets = .ok rest) : rest.length ≤ octets.length := by
  cases frame with
  | list => cases skipped; exact Nat.le_refl _
  | object => exact Nat.le_of_lt (length_of_skipKey skipped)

/-! ## Between values -/

/-- After a value: goes on to the next one in the frames that are still open, closing those that end here. -/
def skipAfterValue : List Frame → Bytes → Except JsonError (List Frame × Bytes)
  | [], octets => .ok ([], octets)
  | frame :: frames, octets =>
    match skipBlankOctets octets with
    | [] => .error frame.endError
    | octet :: rest =>
      if octet = 0x2C then do
        let rest ← frame.skipToValue rest
        .ok (frame :: frames, rest)
      else if octet = frame.closer then skipAfterValue frames rest
      else .error frame.commaError

def skipAfterOpening (frame : Frame) (frames : List Frame) (octets : Bytes) :
    Except JsonError (List Frame × Bytes) :=
  match skipBlankOctets octets with
  | [] => .error frame.endError
  | octet :: rest =>
    if octet = frame.closer then skipAfterValue frames rest
    else do
      let rest ← frame.skipToValue (octet :: rest)
      .ok (frame :: frames, rest)

def skipScalar (octet : UInt8) (rest : Bytes) : Except JsonError Bytes :=
  if octet = 0x6E then expectNull rest
  else if octet = 0x74 then expectTrue rest
  else if octet = 0x66 then expectFalse rest
  else if octet = 0x22 then skipText rest
  else if octet = 0x2D || isDigitOctet octet then skipNumber (octet :: rest)
  else .error .expectedValue

/-- Passes over a value without parts, or over the bracket that opens one with parts, and what follows it up to
the next value. -/
def skipStep (frames : List Frame) (octets : Bytes) : Except JsonError (List Frame × Bytes) :=
  match skipBlankOctets octets with
  | [] => .error .endInValue
  | octet :: rest =>
    if octet = 0x5B then skipAfterOpening .list frames rest
    else if octet = 0x7B then skipAfterOpening .object frames rest
    else do
      let rest ← skipScalar octet rest
      skipAfterValue frames rest

theorem length_of_skipAfterValue {frames after : List Frame} {octets rest : Bytes}
    (skipped : skipAfterValue frames octets = .ok (after, rest)) : rest.length ≤ octets.length := by
  induction frames generalizing octets with
  | nil => cases skipped; exact Nat.le_refl _
  | cons frame frames inductionHypothesis =>
    rw [skipAfterValue] at skipped
    split at skipped
    · cases skipped
    · rename_i octet tail blanks
      have := length_lt_of_skipBlankOctets blanks
      split at skipped
      · obtain ⟨_, next, last⟩ := bind_eq_ok.mp skipped
        have := length_of_skipToValue next
        cases last
        omega
      · split at skipped
        · have := inductionHypothesis skipped
          omega
        · cases skipped

theorem length_of_skipAfterOpening {frame : Frame} {frames after : List Frame} {octets rest : Bytes}
    (skipped : skipAfterOpening frame frames octets = .ok (after, rest)) :
    rest.length ≤ octets.length := by
  rw [skipAfterOpening] at skipped
  split at skipped
  · cases skipped
  · rename_i octet tail blanks
    have := length_lt_of_skipBlankOctets blanks
    split at skipped
    · have := length_of_skipAfterValue skipped
      omega
    · obtain ⟨_, next, last⟩ := bind_eq_ok.mp skipped
      have := length_of_skipToValue next
      cases last
      simp only [List.length_cons] at this
      omega

theorem length_of_skipScalar {octet : UInt8} {tail rest : Bytes}
    (skipped : skipScalar octet tail = .ok rest) : rest.length ≤ tail.length := by
  rw [skipScalar] at skipped
  repeat' split at skipped
  · exact length_of_expectWord skipped
  · exact length_of_expectWord skipped
  · exact length_of_expectWord skipped
  · exact Nat.le_of_lt (length_of_skipText skipped)
  · exact Nat.le_of_lt_succ (length_of_skipNumber skipped)
  · cases skipped

theorem length_of_skipStep {frames after : List Frame} {octets rest : Bytes}
    (skipped : skipStep frames octets = .ok (after, rest)) : rest.length < octets.length := by
  rw [skipStep] at skipped
  split at skipped
  · cases skipped
  · rename_i octet tail blanks
    have := length_lt_of_skipBlankOctets blanks
    split at skipped
    · have := length_of_skipAfterOpening skipped
      omega
    · split at skipped
      · have := length_of_skipAfterOpening skipped
        omega
      · obtain ⟨_, scalar, next⟩ := bind_eq_ok.mp skipped
        have := length_of_skipScalar scalar
        have := length_of_skipAfterValue next
        omega

/-! ## Values -/

/-- Passes over a value and over what is left of the frames around it. -/
def skipFrames (frames : List Frame) (octets : Bytes) : Except JsonError Bytes :=
  match skipped : skipStep frames octets with
  | .ok ([], rest) => .ok rest
  | .ok (frame :: frames, rest) =>
    have := length_of_skipStep skipped
    skipFrames (frame :: frames) rest
  | .error e => .error e
termination_by octets.length

def skipValue (octets : Bytes) : Except JsonError Bytes := skipFrames [] octets

theorem length_of_skipFrames {frames : List Frame} {octets rest : Bytes}
    (skipped : skipFrames frames octets = .ok rest) : rest.length < octets.length := by
  fun_induction skipFrames frames octets with
  | case1 _ _ _ step => cases skipped; exact length_of_skipStep step
  | case2 _ _ _ _ _ step shorter inductionHypothesis =>
    have := inductionHypothesis skipped
    omega
  | case3 => cases skipped

theorem length_of_skipValue {octets rest : Bytes} (skipped : skipValue octets = .ok rest) :
    rest.length < octets.length :=
  length_of_skipFrames skipped

end Gazette.Json
