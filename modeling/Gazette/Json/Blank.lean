import Gazette.Text.Utf8

/-!
# Blanks between the parts of JSON
-/

namespace Gazette.Json

def isBlankOctet (octet : UInt8) : Bool := octet == 0x20 || octet == 0x09 || octet == 0x0A || octet == 0x0D

def skipBlankOctets : Bytes → Bytes
  | [] => []
  | octet :: rest => if isBlankOctet octet then skipBlankOctets rest else octet :: rest

theorem length_skipBlankOctets (octets : Bytes) : (skipBlankOctets octets).length ≤ octets.length := by
  induction octets with
  | nil => exact Nat.le_refl _
  | cons octet rest inductionHypothesis =>
    simp only [skipBlankOctets]
    split
    · exact Nat.le_succ_of_le inductionHypothesis
    · exact Nat.le_refl _

/-- After a blank-free octet there is less left than before the blanks. -/
theorem length_lt_of_skipBlankOctets {octets rest : Bytes} {octet : UInt8}
    (skipped : skipBlankOctets octets = octet :: rest) : rest.length < octets.length := by
  have := length_skipBlankOctets octets
  rw [skipped] at this
  exact this

end Gazette.Json
