import Gazette.Json.Record
import Gazette.Proofs.Json.Skip

/-!
# Reading octets behind which more come

What is read from octets is read from them as well when more octets come behind: one lemma for each function that takes
octets from the front.

* `steady_readText`: so it is with strings, which end in a quote.
* `steady_skipNumber`: with numbers it is so only if something is left behind them.
* `steady_skipValue`: hence also with what is passed over, which may be a number.
-/

namespace Gazette.Json

open Fallible (bind_eq_ok)

variable {octets rest : Bytes}

/-! ## Blanks and words -/

theorem steady_skipBlankOctets {octet : UInt8} (skipped : skipBlankOctets octets = octet :: rest) (more : Bytes) :
    skipBlankOctets (octets ++ more) = octet :: (rest ++ more) := by
  induction octets with
  | nil => cases skipped
  | cons first octets inductionHypothesis =>
    rw [skipBlankOctets] at skipped
    rw [List.cons_append, skipBlankOctets]
    split at skipped
    · rw [if_pos ‹_›, inductionHypothesis skipped]
    · cases skipped
      rw [if_neg ‹_›]

theorem steady_expectWord {word : Bytes} (taken : expectWord word octets = .ok rest) (more : Bytes) :
    expectWord word (octets ++ more) = .ok (rest ++ more) := by
  fun_induction expectWord word octets with
  | case1 =>
    cases taken
    rw [expectWord]
  | case2 => cases taken
  | case3 _ _ _ inductionHypothesis =>
    rw [List.cons_append, expectWord, if_pos rfl]
    exact inductionHypothesis taken
  | case4 => cases taken

/-! ## Strings -/

theorem steady_readHex {code : Nat} (read : readHex octets = .ok (code, rest)) (more : Bytes) :
    readHex (octets ++ more) = .ok (code, rest ++ more) := by
  rw [readHex.eq_def] at read
  split at read
  · split at read
    · rename_i first second third fourth
      cases read
      simp only [List.cons_append, readHex, first, second, third, fourth]
    · cases read
  · cases read

theorem steady_expectInPair {expected : UInt8} (taken : expectInPair expected octets = .ok rest) (more : Bytes) :
    expectInPair expected (octets ++ more) = .ok (rest ++ more) := by
  cases octets with
  | nil => cases taken
  | cons octet tail =>
    rw [expectInPair] at taken
    split at taken
    · cases taken
      rw [List.cons_append, expectInPair, if_pos ‹_›]
    · cases taken

theorem steady_readTrailing {leading : Nat} {c : Char} (read : readTrailing leading octets = .ok (c, rest))
    (more : Bytes) : readTrailing leading (octets ++ more) = .ok (c, rest ++ more) := by
  obtain ⟨_, backslash, read⟩ := bind_eq_ok.mp read
  obtain ⟨_, letter, read⟩ := bind_eq_ok.mp read
  obtain ⟨⟨trailing, _⟩, hex, last⟩ := bind_eq_ok.mp read
  simp only [readTrailing, steady_expectInPair backslash more, steady_expectInPair letter more,
    steady_readHex hex more, Fallible.ok_bind]
  dsimp only at last
  split at last
  · rw [if_pos ‹_›]
    simp only [Except.ok.injEq, Prod.mk.injEq] at last ⊢
    exact ⟨last.1, congrArg (· ++ more) last.2⟩
  · cases last

theorem steady_readCode {c : Char} (read : readCode octets = .ok (c, rest)) (more : Bytes) :
    readCode (octets ++ more) = .ok (c, rest ++ more) := by
  obtain ⟨⟨code, _⟩, hex, last⟩ := bind_eq_ok.mp read
  simp only [readCode, steady_readHex hex more, Fallible.ok_bind]
  dsimp only at last
  split at last
  · cases last
  · rw [if_neg ‹_›]
    split at last
    · rw [if_pos ‹_›, steady_readTrailing last more]
    · cases last
      rw [if_neg ‹_›]

theorem steady_readEscape {c : Char} (read : readEscape octets = .ok (c, rest)) (more : Bytes) :
    readEscape (octets ++ more) = .ok (c, rest ++ more) := by
  cases octets with
  | nil => cases read
  | cons letter tail =>
    rw [readEscape] at read
    rw [List.cons_append, readEscape]
    split at read
    · rw [if_pos ‹_›, steady_readCode read more]
    · rw [if_neg ‹_›]
      cases meaning : shortEscape? letter with
      | none =>
        rw [meaning] at read
        cases read
      | some c =>
        rw [meaning] at read
        cases read
        rfl

theorem steady_readOctets {before content : Bytes} (read : readOctets before octets = .ok (content, rest))
    (more : Bytes) : readOctets before (octets ++ more) = .ok (content, rest ++ more) := by
  fun_induction readOctets before octets with
  | case1 => cases read
  | case2 =>
    cases read
    rw [List.cons_append, readOctets, if_pos rfl]
  | case3 _ _ _ _ escape _ _ inductionHypothesis =>
    rw [List.cons_append, readOctets_escaped (steady_readEscape escape more)]
    exact inductionHypothesis read
  | case4 => cases read
  | case5 => cases read
  | case6 _ _ _ notQuote notBackslash notControl inductionHypothesis =>
    rw [List.cons_append, readOctets, if_neg notQuote, if_neg notBackslash, if_neg notControl]
    exact inductionHypothesis read

theorem steady_readText {text : String} (read : readText octets = .ok (text, rest)) (more : Bytes) :
    readText (octets ++ more) = .ok (text, rest ++ more) := by
  obtain ⟨⟨content, _⟩, scanned, last⟩ := bind_eq_ok.mp read
  simp only [readText, steady_readOctets scanned more, Fallible.ok_bind]
  cases decoded : Utf8.decode content with
  | error wrong =>
    simp only [decoded] at last
    cases last
  | ok value =>
    simp only [decoded] at last
    cases last
    rfl

theorem steady_skipEscape (skipped : skipEscape octets = .ok rest) (more : Bytes) :
    skipEscape (octets ++ more) = .ok (rest ++ more) := by
  cases octets with
  | nil => cases skipped
  | cons letter tail =>
    rw [skipEscape] at skipped
    rw [List.cons_append, skipEscape]
    split at skipped
    · obtain ⟨⟨code, _⟩, hex, last⟩ := bind_eq_ok.mp skipped
      cases last
      rw [if_pos ‹_›, steady_readHex hex more]
      rfl
    · rw [if_neg ‹_›]
      cases meaning : shortEscape? letter with
      | none =>
        rw [meaning] at skipped
        cases skipped
      | some c =>
        rw [meaning] at skipped
        cases skipped
        rfl

theorem steady_skipText (skipped : skipText octets = .ok rest) (more : Bytes) :
    skipText (octets ++ more) = .ok (rest ++ more) := by
  fun_induction skipText octets with
  | case1 => cases skipped
  | case2 =>
    cases skipped
    rw [List.cons_append, skipText, if_pos rfl]
  | case3 _ _ escape _ _ inductionHypothesis =>
    have escaped := steady_skipEscape escape more
    rw [List.cons_append, skipText, if_neg (by decide), if_pos rfl]
    split
    · rename_i found
      cases escaped.symm.trans found
      exact inductionHypothesis skipped
    · rename_i found
      cases escaped.symm.trans found
  | case4 => cases skipped
  | case5 => cases skipped
  | case6 _ _ notQuote notBackslash notControl inductionHypothesis =>
    rw [List.cons_append, skipText, if_neg notQuote, if_neg notBackslash, if_neg notControl]
    exact inductionHypothesis skipped

/-! ## Numbers -/

-- A number goes on as long as digits come, so it must not be the last of the octets.

theorem ne_nil_of_le {left right : Bytes} (some : left ≠ []) (shorter : left.length ≤ right.length) : right ≠ [] := by
  rintro rfl
  exact some (List.eq_nil_of_length_eq_zero (Nat.le_zero.mp shorter))

theorem steady_digits (left : skipDigits octets ≠ []) (more : Bytes) :
    leadingDigits (octets ++ more) = leadingDigits octets ∧ skipDigits (octets ++ more) = skipDigits octets ++ more := by
  induction octets with
  | nil => exact absurd rfl left
  | cons octet octets inductionHypothesis =>
    simp only [leadingDigits, skipDigits, List.cons_append] at left inductionHypothesis ⊢
    by_cases digit : isDigitOctet octet = true
    · rw [List.dropWhile_cons_of_pos digit] at left ⊢
      obtain ⟨digits, after⟩ := inductionHypothesis left
      rw [List.takeWhile_cons_of_pos digit, List.map_cons, digits, List.dropWhile_cons_of_pos digit, after,
        List.takeWhile_cons_of_pos digit, List.map_cons]
      exact ⟨rfl, rfl⟩
    · rw [List.takeWhile_cons_of_neg digit, List.takeWhile_cons_of_neg digit, List.dropWhile_cons_of_neg digit,
        List.dropWhile_cons_of_neg digit]
      exact ⟨rfl, rfl⟩

theorem steady_readSomeDigits {atEnd : JsonError} {digits : List Nat}
    (read : readSomeDigits atEnd octets = .ok (digits, rest)) (left : rest ≠ []) (more : Bytes) :
    readSomeDigits atEnd (octets ++ more) = .ok (digits, rest ++ more) := by
  cases octets with
  | nil => cases read
  | cons octet tail =>
    rw [readSomeDigits] at read
    split at read
    · cases read
      have behind (others : Bytes) : skipDigits (octet :: others) = skipDigits others :=
        List.dropWhile_cons_of_pos ‹_›
      rw [← behind] at left
      obtain ⟨same, after⟩ := steady_digits left more
      rw [List.cons_append] at same after
      rw [List.cons_append, readSomeDigits, if_pos ‹_›, same, ← behind (tail ++ more), after, behind]
    · cases read

theorem steady_readWhole {atEnd : JsonError} {digits : List Nat} (read : readWhole atEnd octets = .ok (digits, rest))
    (left : rest ≠ []) (more : Bytes) : readWhole atEnd (octets ++ more) = .ok (digits, rest ++ more) := by
  cases octets with
  | nil => cases read
  | cons octet tail =>
    rw [readWhole] at read
    rw [List.cons_append, readWhole]
    split at read
    · rw [if_pos ‹_›]
      split at read
      · rename_i noMore
        cases read
        -- After a zero no digit was read, and none comes with what is appended, for something was left.
        have untouched : skipDigits rest = rest := by
          have parts := List.takeWhile_append_dropWhile (p := isDigitOctet) (l := rest)
          rw [List.map_eq_nil_iff.mp noMore] at parts
          exact parts
        rw [← untouched] at left
        rw [if_pos ((steady_digits left more).1.trans noMore)]
      · cases read
    · rw [if_neg ‹_›]
      split at read
      · have scanned : readSomeDigits atEnd (octet :: tail) = .ok (digits, rest) := by
          rw [readSomeDigits, if_pos ‹_›]
          exact read
        have more := steady_readSomeDigits scanned left more
        rw [List.cons_append, readSomeDigits, if_pos ‹_›] at more
        rw [if_pos ‹_›]
        exact more
      · cases read

theorem steady_readFraction {atEnd : JsonError} {digits : List Nat}
    (read : readFraction atEnd octets = .ok (digits, rest)) (left : rest ≠ []) (more : Bytes) :
    readFraction atEnd (octets ++ more) = .ok (digits, rest ++ more) := by
  cases octets with
  | nil =>
    cases read
    exact absurd rfl left
  | cons octet tail =>
    rw [readFraction] at read
    rw [List.cons_append, readFraction]
    split at read
    · rw [if_pos ‹_›, steady_readSomeDigits read left more]
    · cases read
      rw [if_neg ‹_›]
      rfl

theorem steady_readSigned {atEnd : JsonError} {power : Int} (read : readSigned atEnd octets = .ok (power, rest))
    (left : rest ≠ []) (more : Bytes) : readSigned atEnd (octets ++ more) = .ok (power, rest ++ more) := by
  cases octets with
  | nil => cases read
  | cons octet tail =>
    rw [readSigned] at read
    rw [List.cons_append, readSigned]
    split at read
    · obtain ⟨⟨digits, _⟩, scanned, last⟩ := bind_eq_ok.mp read
      cases last
      rw [if_pos ‹_›, steady_readSomeDigits scanned left more]
      rfl
    · obtain ⟨⟨digits, _⟩, scanned, last⟩ := bind_eq_ok.mp read
      cases last
      have behind : (if octet = 0x2B then tail ++ more else octet :: (tail ++ more))
          = (if octet = 0x2B then tail else octet :: tail) ++ more := by
        split <;> rfl
      rw [if_neg ‹_›, behind, steady_readSomeDigits scanned left more]
      rfl

theorem steady_readPower {atEnd : JsonError} {power : Option Int}
    (read : readPower atEnd octets = .ok (power, rest)) (left : rest ≠ []) (more : Bytes) :
    readPower atEnd (octets ++ more) = .ok (power, rest ++ more) := by
  cases octets with
  | nil =>
    cases read
    exact absurd rfl left
  | cons octet tail =>
    rw [readPower] at read
    rw [List.cons_append, readPower]
    split at read
    · obtain ⟨⟨power, _⟩, signed, last⟩ := bind_eq_ok.mp read
      cases last
      rw [if_pos ‹_›, steady_readSigned signed left more]
      rfl
    · cases read
      rw [if_neg ‹_›]
      rfl

theorem steady_readMagnitude {atEnd : JsonError} {negative : Bool} {numeral : Numeral}
    (read : readMagnitude atEnd negative octets = .ok (numeral, rest)) (left : rest ≠ []) (more : Bytes) :
    readMagnitude atEnd negative (octets ++ more) = .ok (numeral, rest ++ more) := by
  obtain ⟨⟨wholeDigits, afterWhole⟩, whole, read⟩ := bind_eq_ok.mp read
  obtain ⟨⟨fractionDigits, afterFraction⟩, fraction, read⟩ := bind_eq_ok.mp read
  obtain ⟨⟨power, _⟩, powered, last⟩ := bind_eq_ok.mp read
  cases last
  have afterFractionLeft := ne_nil_of_le left (length_of_readPower powered)
  have afterWholeLeft := ne_nil_of_le afterFractionLeft (length_of_readFraction fraction)
  simp only [readMagnitude, steady_readWhole whole afterWholeLeft more,
    steady_readFraction fraction afterFractionLeft more, steady_readPower powered left more, Fallible.ok_bind]

theorem steady_skipNumber (skipped : skipNumber octets = .ok rest) (left : rest ≠ []) (more : Bytes) :
    skipNumber (octets ++ more) = .ok (rest ++ more) := by
  obtain ⟨⟨numeral, _⟩, read, last⟩ := bind_eq_ok.mp skipped
  cases last
  have scanned : readNumeral .invalidNumber (octets ++ more) = .ok (numeral, rest ++ more) := by
    cases octets with
    | nil => cases read
    | cons octet tail =>
      rw [readNumeral] at read
      rw [List.cons_append, readNumeral]
      split at read
      · rw [if_pos ‹_›, steady_readMagnitude read left more]
      · rw [if_neg ‹_›, ← List.cons_append, steady_readMagnitude read left more]
  rw [skipNumber, scanned]
  rfl

/-! ## Values of any kind -/

theorem steady_expectColon (taken : expectColon octets = .ok rest) (more : Bytes) :
    expectColon (octets ++ more) = .ok (rest ++ more) := by
  rw [expectColon] at taken
  split at taken
  · cases taken
  · rename_i blanks
    simp only [expectColon, steady_skipBlankOctets blanks more]
    split at taken
    · cases taken
      rw [if_pos ‹_›]
    · cases taken

theorem steady_skipKey (skipped : skipKey octets = .ok rest) (more : Bytes) :
    skipKey (octets ++ more) = .ok (rest ++ more) := by
  rw [skipKey] at skipped
  split at skipped
  · cases skipped
  · rename_i blanks
    simp only [skipKey, steady_skipBlankOctets blanks more]
    split at skipped
    · obtain ⟨_, key, colon⟩ := bind_eq_ok.mp skipped
      rw [if_pos ‹_›, steady_skipText key more, Fallible.ok_bind, steady_expectColon colon more]
    · cases skipped

theorem steady_skipToValue {frame : Frame} (skipped : frame.skipToValue octets = .ok rest) (more : Bytes) :
    frame.skipToValue (octets ++ more) = .ok (rest ++ more) := by
  cases frame with
  | list =>
    cases skipped
    rfl
  | object => exact steady_skipKey skipped more

theorem steady_skipAfterValue {frames after : List Frame} (skipped : skipAfterValue frames octets = .ok (after, rest))
    (more : Bytes) : skipAfterValue frames (octets ++ more) = .ok (after, rest ++ more) := by
  induction frames generalizing octets with
  | nil =>
    cases skipped
    rfl
  | cons frame frames inductionHypothesis =>
    rw [skipAfterValue] at skipped
    split at skipped
    · cases skipped
    · rename_i blanks
      simp only [skipAfterValue, steady_skipBlankOctets blanks more]
      split at skipped
      · obtain ⟨_, next, last⟩ := bind_eq_ok.mp skipped
        cases last
        rw [if_pos ‹_›, steady_skipToValue next more]
        rfl
      · rw [if_neg ‹_›]
        split at skipped
        · rw [if_pos ‹_›]
          exact inductionHypothesis skipped
        · cases skipped

theorem steady_skipAfterOpening {frame : Frame} {frames after : List Frame}
    (skipped : skipAfterOpening frame frames octets = .ok (after, rest)) (more : Bytes) :
    skipAfterOpening frame frames (octets ++ more) = .ok (after, rest ++ more) := by
  rw [skipAfterOpening] at skipped
  split at skipped
  · cases skipped
  · rename_i blanks
    simp only [skipAfterOpening, steady_skipBlankOctets blanks more]
    split at skipped
    · rw [if_pos ‹_›, steady_skipAfterValue skipped more]
    · obtain ⟨_, next, last⟩ := bind_eq_ok.mp skipped
      cases last
      rw [if_neg ‹_›, ← List.cons_append, steady_skipToValue next more]
      rfl

theorem steady_skipScalar {octet : UInt8} (skipped : skipScalar octet octets = .ok rest) (left : rest ≠ [])
    (more : Bytes) : skipScalar octet (octets ++ more) = .ok (rest ++ more) := by
  rw [skipScalar] at skipped ⊢
  split at skipped
  · rw [if_pos ‹_›]
    exact steady_expectWord skipped more
  rw [if_neg ‹_›]
  split at skipped
  · rw [if_pos ‹_›]
    exact steady_expectWord skipped more
  rw [if_neg ‹_›]
  split at skipped
  · rw [if_pos ‹_›]
    exact steady_expectWord skipped more
  rw [if_neg ‹_›]
  split at skipped
  · rw [if_pos ‹_›]
    exact steady_skipText skipped more
  rw [if_neg ‹_›]
  split at skipped
  · rw [if_pos ‹_›, ← List.cons_append]
    exact steady_skipNumber skipped left more
  · cases skipped

theorem steady_skipStep {frames after : List Frame} (skipped : skipStep frames octets = .ok (after, rest))
    (left : rest ≠ []) (more : Bytes) : skipStep frames (octets ++ more) = .ok (after, rest ++ more) := by
  rw [skipStep] at skipped
  split at skipped
  · cases skipped
  · rename_i blanks
    simp only [skipStep, steady_skipBlankOctets blanks more]
    split at skipped
    · rw [if_pos ‹_›, steady_skipAfterOpening skipped more]
    rw [if_neg ‹_›]
    split at skipped
    · rw [if_pos ‹_›, steady_skipAfterOpening skipped more]
    · obtain ⟨_, scalar, next⟩ := bind_eq_ok.mp skipped
      have afterScalarLeft := ne_nil_of_le left (length_of_skipAfterValue next)
      rw [if_neg ‹_›, steady_skipScalar scalar afterScalarLeft more, Fallible.ok_bind,
        steady_skipAfterValue next more]

theorem steady_skipFrames {frames : List Frame} (skipped : skipFrames frames octets = .ok rest) (left : rest ≠ [])
    (more : Bytes) : skipFrames frames (octets ++ more) = .ok (rest ++ more) := by
  fun_induction skipFrames frames octets with
  | case1 _ _ _ step =>
    cases skipped
    rw [skipFrames_eq, steady_skipStep step left more]
    rfl
  | case2 _ _ _ _ _ step _ inductionHypothesis =>
    have afterStepLeft := ne_nil_of_le left (Nat.le_of_lt (length_of_skipFrames skipped))
    rw [skipFrames_eq, steady_skipStep step afterStepLeft more]
    exact inductionHypothesis skipped
  | case3 => cases skipped

theorem steady_skipValue (skipped : skipValue octets = .ok rest) (left : rest ≠ []) (more : Bytes) :
    skipValue (octets ++ more) = .ok (rest ++ more) := steady_skipFrames skipped left more

end Gazette.Json
