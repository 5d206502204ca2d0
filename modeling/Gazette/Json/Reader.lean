import Gazette.Json.Skip

/-!
# Readers of JSON values

* A `Reader` reads a value of a type from the front of octets and never leaves as many as there were.
* There are readers for strings, truth values, bounded natural numbers, optional values and lists.
* `Reader.decode` reads octets that hold one value and blanks around it.
-/

namespace Gazette.Json

open Fallible (bind_eq_ok)

structure Reader (α : Type) where
  /-- The value at the front, and the octets after it. -/
  run : Bytes → Except JsonError (α × Bytes)
  shortens : ∀ {octets rest : Bytes} {a : α}, run octets = .ok (a, rest) → rest.length < octets.length

/-! ## Values of the wrong kind -/

def readFound : Bytes → Except JsonError Found
  | [] => .error .endInValue
  | octet :: rest =>
    if octet = 0x6E then (expectNull rest).map fun _ => .null
    else if octet = 0x74 then (expectTrue rest).map fun _ => .flag true
    else if octet = 0x66 then (expectFalse rest).map fun _ => .flag false
    else if octet = 0x22 then (readText rest).map fun read => .text read.1
    else if octet = 0x5B then .ok .list
    else if octet = 0x7B then .ok .object
    else if octet = 0x2D || isDigitOctet octet then
      (readNumber (octet :: rest)).map fun read => read.1.found
    else .error .expectedValue

def refusal (expected : String) (octets : Bytes) : JsonError :=
  match readFound octets with
  | .ok found => .mismatch found expected
  | .error e => e

namespace Reader

variable {α β : Type}

def startingWith (expected : String) (accepts : UInt8 → Bool)
    (read : UInt8 → Bytes → Except JsonError (α × Bytes))
    (shortens : ∀ {octet : UInt8} {tail rest : Bytes} {a : α},
      read octet tail = .ok (a, rest) → rest.length ≤ tail.length) : Reader α where
  run octets :=
    match skipBlankOctets octets with
    | [] => .error .endInValue
    | octet :: tail => if accepts octet then read octet tail else .error (refusal expected (octet :: tail))
  shortens := by
    intro octets rest a found
    split at found
    · cases found
    · rename_i octet tail blanks
      split at found
      · exact Nat.lt_of_le_of_lt (shortens found) (length_lt_of_skipBlankOctets blanks)
      · cases found

def refine (reader : Reader α) (compute : α → Except JsonError β) : Reader β where
  run octets := do
    let (a, rest) ← reader.run octets
    let b ← compute a
    .ok (b, rest)
  shortens := by
    intro octets rest b found
    obtain ⟨_, read, found⟩ := bind_eq_ok.mp found
    obtain ⟨_, _, last⟩ := bind_eq_ok.mp found
    cases last
    exact reader.shortens read

def map (reader : Reader α) (f : α → β) : Reader β := reader.refine fun a => .ok (f a)

/-! ## Values without parts -/

def text (expected : String) : Reader String :=
  startingWith expected (· == 0x22) (fun _ tail => readText tail)
    (fun read => Nat.le_of_lt (length_of_readText read))

def readFlag (octet : UInt8) (tail : Bytes) : Except JsonError (Bool × Bytes) := do
  if octet = 0x74 then
    let rest ← expectTrue tail
    .ok (true, rest)
  else
    let rest ← expectFalse tail
    .ok (false, rest)

theorem length_of_readFlag {octet : UInt8} {tail rest : Bytes} {flag : Bool}
    (read : readFlag octet tail = .ok (flag, rest)) : rest.length ≤ tail.length := by
  rw [readFlag] at read
  split at read
  · obtain ⟨_, word, last⟩ := bind_eq_ok.mp read
    cases last
    exact length_of_expectWord word
  · obtain ⟨_, word, last⟩ := bind_eq_ok.mp read
    cases last
    exact length_of_expectWord word

def flag : Reader Bool :=
  startingWith "a boolean" (fun octet => octet == 0x74 || octet == 0x66) readFlag length_of_readFlag

def readBounded (expected : String) (bound : Nat) (octet : UInt8) (tail : Bytes) :
    Except JsonError (Nat × Bytes) := do
  let (numeral, rest) ← readNumber (octet :: tail)
  match numeral with
  | .natural value =>
    if value < bound then .ok (value, rest) else .error (.notInRange numeral.found expected)
  | .negative _ => .error (.notInRange numeral.found expected)
  | .fractional _ _ => .error (.mismatch numeral.found expected)

theorem length_of_readBounded {expected : String} {bound n : Nat} {octet : UInt8} {tail rest : Bytes}
    (read : readBounded expected bound octet tail = .ok (n, rest)) : rest.length ≤ tail.length := by
  obtain ⟨⟨numeral, _⟩, scanned, last⟩ := bind_eq_ok.mp read
  have := length_of_readNumber scanned
  simp only [List.length_cons] at this
  cases numeral with
  | natural value =>
    simp only at last
    split at last
    · cases last
      omega
    · cases last
  | negative magnitude => cases last
  | fractional isNegative magnitude => cases last

def bounded (expected : String) (bound : Nat) : Reader Nat :=
  startingWith expected (fun octet => octet == 0x2D || isDigitOctet octet) (readBounded expected bound)
    length_of_readBounded

def optional (reader : Reader α) : Reader (Option α) where
  run octets :=
    match skipBlankOctets octets with
    | [] => .error .endInValue
    | octet :: tail =>
      if octet = 0x6E then do
        let rest ← expectNull tail
        .ok (none, rest)
      else do
        let (a, rest) ← reader.run (octet :: tail)
        .ok (some a, rest)
  shortens := by
    intro octets rest a found
    split at found
    · cases found
    · rename_i octet tail blanks
      have shorter := length_lt_of_skipBlankOctets blanks
      split at found
      · obtain ⟨_, word, last⟩ := bind_eq_ok.mp found
        have := length_of_expectWord word
        cases last
        omega
      · obtain ⟨_, read, last⟩ := bind_eq_ok.mp found
        have := reader.shortens read
        simp only [List.length_cons] at this
        cases last
        omega

/-! ## Lists -/

inductive Next
  | closed (rest : Bytes)
  | part (rest : Bytes)

def Next.rest : Next → Bytes
  | closed rest => rest
  | part rest => rest

def nextItem (first : Bool) (octets : Bytes) : Except JsonError Next :=
  match skipBlankOctets octets with
  | [] => .error .endInList
  | octet :: rest =>
    if octet = 0x5D then .ok (.closed rest)
    else if first then .ok (.part (octet :: rest))
    else if octet = 0x2C then
      match skipBlankOctets rest with
      | [] => .error .endInValue
      | octet :: rest => if octet = 0x5D then .error .trailingComma else .ok (.part (octet :: rest))
    else .error .expectedCommaOrListEnd

theorem length_of_nextItem {first : Bool} {octets : Bytes} {next : Next}
    (found : nextItem first octets = .ok next) : next.rest.length ≤ octets.length := by
  rw [nextItem] at found
  split at found
  · cases found
  · rename_i octet tail blanks
    have shorter := length_lt_of_skipBlankOctets blanks
    split at found
    · cases found
      exact Nat.le_of_lt shorter
    · split at found
      · cases found
        exact shorter
      · split at found
        · split at found
          · cases found
          · rename_i blanks
            have := length_lt_of_skipBlankOctets blanks
            split at found
            · cases found
            · cases found
              simp only [Next.rest, List.length_cons]
              omega
        · cases found

def readItems (item : Reader α) (first : Bool) (octets : Bytes) : Except JsonError (List α × Bytes) :=
  match next : nextItem first octets with
  | .error e => .error e
  | .ok (.closed rest) => .ok ([], rest)
  | .ok (.part start) =>
    match read : item.run start with
    | .error e => .error e
    | .ok (a, rest) =>
      have := length_of_nextItem next
      have := item.shortens read
      match readItems item false rest with
      | .error e => .error e
      | .ok (others, rest) => .ok (a :: others, rest)
termination_by octets.length
decreasing_by simp only [Next.rest] at *; omega

theorem length_of_readItems {item : Reader α} {first : Bool} {octets rest : Bytes} {items : List α}
    (read : readItems item first octets = .ok (items, rest)) : rest.length ≤ octets.length := by
  fun_induction readItems item first octets generalizing items rest with
  | case1 => cases read
  | case2 _ _ _ next =>
    cases read
    exact length_of_nextItem next
  | case3 => cases read
  | case4 => cases read
  | case5 first octets start next a afterItem scanned atStart shorter others afterItems inner inductionHypothesis =>
    have := inductionHypothesis inner
    have := item.shortens scanned
    have := length_of_nextItem next
    simp only [Next.rest] at this
    cases read
    omega

def list (item : Reader α) : Reader (List α) :=
  startingWith "a sequence" (· == 0x5B) (fun _ tail => readItems item true tail) length_of_readItems

/-! ## Whole texts -/

def decode (reader : Reader α) (octets : Bytes) : Except JsonError α := do
  let (a, rest) ← reader.run octets
  if (skipBlankOctets rest).isEmpty then .ok a else .error .trailingOctets

end Reader

end Gazette.Json
