import Gazette.Fallible

/-!
# Texts as octets

* `Utf8.encode` writes a text as octets, `Utf8.decode` reads octets as a text, and `Utf8.decodeLeniently` replaces what
  is no text.
* `Utf8.Fault` says where octets stop being a text: the first octet that belongs to no character, and how
  many octets up to there could still have begun one.
-/

namespace Gazette

abbrev Bytes := List UInt8

namespace Utf8

open Fallible (bind_eq_ok)

/-! ## Writing -/

/-- One to four octets; every octet after the first carries six bits. -/
def encodeChar (c : Char) : Bytes :=
  let code := c.toNat
  if code < 0x80 then [code.toUInt8]
  else if code < 0x800 then [(0xC0 + code / 0x40).toUInt8, (0x80 + code % 0x40).toUInt8]
  else if code < 0x10000 then
    [(0xE0 + code / 0x1000).toUInt8, (0x80 + code / 0x40 % 0x40).toUInt8, (0x80 + code % 0x40).toUInt8]
  else
    [(0xF0 + code / 0x40000).toUInt8, (0x80 + code / 0x1000 % 0x40).toUInt8,
      (0x80 + code / 0x40 % 0x40).toUInt8, (0x80 + code % 0x40).toUInt8]

def encode (text : String) : Bytes := text.toList.flatMap encodeChar

/-! ## Reading -/

inductive Fault
  /-- The `width` octets at `position` begin no character. -/
  | invalid (position width : Nat)
  /-- The octets end inside the character at `position`. -/
  | incomplete (position : Nat)
  deriving DecidableEq, Repr

def Fault.message : Fault → String
  | .invalid position width => s!"invalid utf-8 sequence of {width} bytes from index {position}"
  | .incomplete position => s!"incomplete utf-8 byte sequence from index {position}"

def isContinuation (octet : UInt8) : Bool := 0x80 ≤ octet && octet ≤ 0xBF

def payload (octet : UInt8) : Nat := octet.toNat - 0x80

/-- The second octets that may follow `lead`: they keep out longer spellings of small codes, the surrogates and
codes past the last one. -/
def secondAllowed (lead second : UInt8) : Bool :=
  if lead = 0xE0 then 0xA0 ≤ second && second ≤ 0xBF
  else if lead = 0xED then 0x80 ≤ second && second ≤ 0x9F
  else if lead = 0xF0 then 0x90 ≤ second && second ≤ 0xBF
  else if lead = 0xF4 then 0x80 ≤ second && second ≤ 0x8F
  else isContinuation second

/-- Takes the next octet of a character. A refusal carries how many octets begin no character, or nothing when
the octets end too early. -/
def takePayload (width : Nat) (allowed : UInt8 → Bool) : Bytes → Except (Option Nat) (Nat × Bytes)
  | [] => .error none
  | octet :: rest => if allowed octet then .ok (payload octet, rest) else .error (some width)

def decodeChar (lead : UInt8) (tail : Bytes) : Except (Option Nat) (Char × Bytes) :=
  if lead < 0x80 then .ok (Char.ofNat lead.toNat, tail)
  else if 0xC2 ≤ lead && lead ≤ 0xDF then do
    let (second, rest) ← takePayload 1 isContinuation tail
    .ok (Char.ofNat ((lead.toNat - 0xC0) * 0x40 + second), rest)
  else if 0xE0 ≤ lead && lead ≤ 0xEF then do
    let (second, rest) ← takePayload 1 (secondAllowed lead) tail
    let (third, rest) ← takePayload 2 isContinuation rest
    .ok (Char.ofNat (((lead.toNat - 0xE0) * 0x40 + second) * 0x40 + third), rest)
  else if 0xF0 ≤ lead && lead ≤ 0xF4 then do
    let (second, rest) ← takePayload 1 (secondAllowed lead) tail
    let (third, rest) ← takePayload 2 isContinuation rest
    let (fourth, rest) ← takePayload 3 isContinuation rest
    .ok (Char.ofNat
      ((((lead.toNat - 0xF0) * 0x40 + second) * 0x40 + third) * 0x40 + fourth), rest)
  else .error (some 1)

theorem length_of_takePayload {width : Nat} {allowed : UInt8 → Bool} {octets rest : Bytes} {n : Nat}
    (taken : takePayload width allowed octets = .ok (n, rest)) : rest.length < octets.length := by
  cases octets with
  | nil => simp [takePayload] at taken
  | cons octet tail =>
    simp only [takePayload] at taken
    split at taken <;> simp_all

theorem length_of_decodeChar {lead : UInt8} {tail rest : Bytes} {c : Char}
    (read : decodeChar lead tail = .ok (c, rest)) : rest.length ≤ tail.length := by
  rw [decodeChar] at read
  split at read
  · cases read
    exact Nat.le_refl _
  split at read
  · obtain ⟨_, taken, last⟩ := bind_eq_ok.mp read
    cases last
    exact Nat.le_of_lt (length_of_takePayload taken)
  split at read
  · obtain ⟨_, second, read⟩ := bind_eq_ok.mp read
    obtain ⟨_, third, last⟩ := bind_eq_ok.mp read
    cases last
    have := length_of_takePayload second
    have := length_of_takePayload third
    omega
  split at read
  · obtain ⟨_, second, read⟩ := bind_eq_ok.mp read
    obtain ⟨_, third, read⟩ := bind_eq_ok.mp read
    obtain ⟨_, fourth, last⟩ := bind_eq_ok.mp read
    cases last
    have := length_of_takePayload second
    have := length_of_takePayload third
    have := length_of_takePayload fourth
    omega
  · cases read

def decodeFrom (position : Nat) (before : List Char) (octets : Bytes) : Except Fault String :=
  match octets with
  | [] => .ok (String.ofList before.reverse)
  | lead :: tail =>
    match read : decodeChar lead tail with
    | .ok (c, rest) =>
      have := length_of_decodeChar read
      decodeFrom (position + c.utf8Size) (c :: before) rest
    | .error (some width) => .error (.invalid position width)
    | .error none => .error (.incomplete position)
termination_by octets.length

def decode (octets : Bytes) : Except Fault String := decodeFrom 0 [] octets

def replacement : Char := Char.ofNat 0xFFFD

/-- Reads characters, with one replacement for all the octets of each fault. -/
def decodeCharsLeniently (octets : Bytes) : List Char :=
  match octets with
  | [] => []
  | lead :: tail =>
    match read : decodeChar lead tail with
    | .ok (c, rest) =>
      have := length_of_decodeChar read
      c :: decodeCharsLeniently rest
    | .error (some width) => replacement :: decodeCharsLeniently (tail.drop (width - 1))
    | .error none => [replacement]
termination_by octets.length

def decodeLeniently (octets : Bytes) : String := String.ofList (decodeCharsLeniently octets)

end Utf8

end Gazette
