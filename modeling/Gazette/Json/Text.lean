import Gazette.Fallible
import Gazette.Json.Blank
import Gazette.Json.Error

/-!
# Reading JSON strings

* `Json.readText` reads a string after its opening quote: escapes give way to what they stand for, and what results
  must be UTF-8.
* `Json.skipText` passes over one. Escapes must have the right letters and digits, but need not make up
  characters.
-/

namespace Gazette.Json

open Fallible (bind_eq_ok)

/-! ## Escapes -/

def hexOctet? (octet : UInt8) : Option Nat := hexValue? (Char.ofNat octet.toNat)

def readHex : Bytes → Except JsonError (Nat × Bytes)
  | a :: b :: c :: d :: rest =>
    match hexOctet? a, hexOctet? b, hexOctet? c, hexOctet? d with
    | some a, some b, some c, some d => .ok (((a * 16 + b) * 16 + c) * 16 + d, rest)
    | _, _, _, _ => .error .invalidEscape
  | _ => .error .endInString

def isLeadingSurrogate (code : Nat) : Bool := 0xD800 ≤ code && code ≤ 0xDBFF

def isTrailingSurrogate (code : Nat) : Bool := 0xDC00 ≤ code && code ≤ 0xDFFF

def expectInPair (expected : UInt8) : Bytes → Except JsonError Bytes
  | [] => .error .endInString
  | octet :: rest => if octet = expected then .ok rest else .error .unpairedSurrogate

def pairedChar (leading trailing : Nat) : Char :=
  Char.ofNat (0x10000 + (leading - 0xD800) * 0x400 + (trailing - 0xDC00))

/-- The escape that continues a character begun by a leading surrogate. -/
def readTrailing (leading : Nat) (octets : Bytes) : Except JsonError (Char × Bytes) := do
  let rest ← expectInPair 0x5C octets
  let rest ← expectInPair 0x75 rest
  let (trailing, rest) ← readHex rest
  if isTrailingSurrogate trailing then
    .ok (pairedChar leading trailing, rest)
  else .error .loneSurrogate

def readCode (octets : Bytes) : Except JsonError (Char × Bytes) := do
  let (code, rest) ← readHex octets
  if isTrailingSurrogate code then .error .loneSurrogate
  else if isLeadingSurrogate code then readTrailing code rest
  else .ok (Char.ofNat code, rest)

def shortEscape? (letter : UInt8) : Option Char :=
  if letter = 0x22 then some '"'
  else if letter = 0x5C then some '\\'
  else if letter = 0x2F then some '/'
  else if letter = 0x62 then some (Char.ofNat 0x8)
  else if letter = 0x66 then some (Char.ofNat 0xC)
  else if letter = 0x6E then some '\n'
  else if letter = 0x72 then some '\r'
  else if letter = 0x74 then some '\t'
  else none

def readEscape : Bytes → Except JsonError (Char × Bytes)
  | [] => .error .endInString
  | letter :: rest =>
    if letter = 0x75 then readCode rest
    else
      match shortEscape? letter with
      | some c => .ok (c, rest)
      | none => .error .invalidEscape

theorem length_of_readHex {octets rest : Bytes} {code : Nat}
    (read : readHex octets = .ok (code, rest)) : rest.length < octets.length := by
  simp only [readHex] at read
  split at read
  · split at read
    · cases read
      simp only [List.length_cons]
      omega
    · cases read
  · cases read

theorem length_of_expectInPair {expected : UInt8} {octets rest : Bytes}
    (taken : expectInPair expected octets = .ok rest) : rest.length < octets.length := by
  cases octets with
  | nil => cases taken
  | cons octet tail =>
    simp only [expectInPair] at taken
    split at taken
    · injection taken with taken
      rw [← taken]
      exact Nat.lt_succ_self _
    · cases taken

theorem length_of_readTrailing {octets rest : Bytes} {leading : Nat} {c : Char}
    (read : readTrailing leading octets = .ok (c, rest)) : rest.length < octets.length := by
  obtain ⟨_, backslash, read⟩ := bind_eq_ok.mp read
  obtain ⟨_, letter, read⟩ := bind_eq_ok.mp read
  obtain ⟨⟨trailing, _⟩, hex, last⟩ := bind_eq_ok.mp read
  have := length_of_expectInPair backslash
  have := length_of_expectInPair letter
  have := length_of_readHex hex
  simp only at last
  split at last
  · simp only [Except.ok.injEq, Prod.mk.injEq] at last
    rw [← last.2]
    omega
  · cases last

theorem length_of_readEscape {octets rest : Bytes} {c : Char}
    (read : readEscape octets = .ok (c, rest)) : rest.length < octets.length := by
  simp only [readEscape] at read
  split at read
  · cases read
  · split at read
    · obtain ⟨_, hex, last⟩ := bind_eq_ok.mp read
      have := length_of_readHex hex
      dsimp only at last
      split at last
      · cases last
      · split at last
        · have := length_of_readTrailing last
          simp only [List.length_cons]
          omega
        · cases last
          simp only [List.length_cons]
          omega
    · split at read
      · cases read
        simp only [List.length_cons]
        omega
      · cases read

/-! ## Strings -/

def readOctets (before octets : Bytes) : Except JsonError (Bytes × Bytes) :=
  match octets with
  | [] => .error .endInString
  | octet :: tail =>
    if octet = 0x22 then .ok (before.reverse, tail)
    else if octet = 0x5C then
      match read : readEscape tail with
      | .ok (c, rest) =>
        have := length_of_readEscape read
        readOctets ((Utf8.encodeChar c).reverse ++ before) rest
      | .error e => .error e
    else if octet < 0x20 then .error .controlInString
    else readOctets (octet :: before) tail
termination_by octets.length

def readText (octets : Bytes) : Except JsonError (String × Bytes) := do
  let (content, rest) ← readOctets [] octets
  match Utf8.decode content with
  | .ok value => .ok (value, rest)
  | .error _ => .error .notUtf8

def skipEscape : Bytes → Except JsonError Bytes
  | [] => .error .endInString
  | letter :: rest =>
    if letter = 0x75 then do
      let (_, rest) ← readHex rest
      .ok rest
    else
      match shortEscape? letter with
      | some _ => .ok rest
      | none => .error .invalidEscape

theorem length_of_skipEscape {octets rest : Bytes}
    (skipped : skipEscape octets = .ok rest) : rest.length < octets.length := by
  simp only [skipEscape] at skipped
  split at skipped
  · cases skipped
  · split at skipped
    · obtain ⟨_, hex, last⟩ := bind_eq_ok.mp skipped
      have := length_of_readHex hex
      cases last
      simp only [List.length_cons]
      omega
    · split at skipped
      · cases skipped
        simp only [List.length_cons]
        omega
      · cases skipped

def skipText (octets : Bytes) : Except JsonError Bytes :=
  match octets with
  | [] => .error .endInString
  | octet :: tail =>
    if octet = 0x22 then .ok tail
    else if octet = 0x5C then
      match skipped : skipEscape tail with
      | .ok rest =>
        have := length_of_skipEscape skipped
        skipText rest
      | .error e => .error e
    else if octet < 0x20 then .error .controlInString
    else skipText tail
termination_by octets.length

theorem length_of_readOctets {before octets content rest : Bytes}
    (read : readOctets before octets = .ok (content, rest)) : rest.length < octets.length := by
  fun_induction readOctets before octets with
  | case1 => cases read
  | case2 => cases read; exact Nat.lt_succ_self _
  | case3 before tail _ c rest' escape shorter inductionHypothesis =>
    have := inductionHypothesis read
    simp only [List.length_cons]
    omega
  | case4 => cases read
  | case5 => cases read
  | case6 before octet tail _ _ _ inductionHypothesis =>
    have := inductionHypothesis read
    simp only [List.length_cons]
    omega

theorem length_of_readText {octets rest : Bytes} {text : String}
    (read : readText octets = .ok (text, rest)) : rest.length < octets.length := by
  obtain ⟨_, content, last⟩ := bind_eq_ok.mp read
  have := length_of_readOctets content
  dsimp only at last
  split at last
  · cases last
    assumption
  · cases last

theorem length_of_skipText {octets rest : Bytes}
    (skipped : skipText octets = .ok rest) : rest.length < octets.length := by
  fun_induction skipText octets with
  | case1 => cases skipped
  | case2 => cases skipped; exact Nat.lt_succ_self _
  | case3 tail _ rest' escape shorter inductionHypothesis =>
    have := inductionHypothesis skipped
    simp only [List.length_cons]
    omega
  | case4 => cases skipped
  | case5 => cases skipped
  | case6 octet tail _ _ _ inductionHypothesis =>
    have := inductionHypothesis skipped
    simp only [List.length_cons]
    omega

end Gazette.Json
