import Gazette.Text.Case

/-!
# Texts with the capitals of ASCII

* `Case.Simple`: a character that lower-cases by itself, and only if it is a letter of ASCII.
* `Case.toLower_of_simple`: a text of such characters is lower-cased one character at a time.
-/

namespace Gazette.Case

def Simple (c : Char) : Prop := lowerChar c = [c.toLower]

instance (c : Char) : Decidable (Simple c) := by unfold Simple; infer_instance

/-- A capital sigma is not simple, so that the neighbours of a character do not matter. -/
theorem ne_capitalSigma_of_simple {c : Char} (simple : Simple c) : c ≠ capitalSigma := by
  rintro rfl
  revert simple
  decide

theorem lowerAfter_of_simple {before text : List Char} (simple : ∀ c ∈ text, Simple c) :
    lowerAfter before text = text.map Char.toLower := by
  induction text generalizing before with
  | nil => rfl
  | cons c text inductionHypothesis =>
    have first : Simple c := simple c List.mem_cons_self
    rw [lowerAfter, if_neg (ne_capitalSigma_of_simple first), first, List.map_cons, List.singleton_append,
      inductionHypothesis fun other among => simple other (List.mem_cons_of_mem c among)]

theorem toLower_of_simple {text : String} (simple : ∀ c ∈ text.toList, Simple c) :
    toLower text = text.toList.map Char.toLower := lowerAfter_of_simple simple

theorem toNat_toLower (c : Char) :
    c.toLower.toNat = if 0x41 ≤ c.toNat ∧ c.toNat ≤ 0x5A then c.toNat + 0x20 else c.toNat := by
  have capital : c.val ≥ 'A'.val ∧ c.val ≤ 'Z'.val ↔ 0x41 ≤ c.toNat ∧ c.toNat ≤ 0x5A := by
    simp only [ge_iff_le, UInt32.le_iff_toNat_le]
    exact Iff.rfl
  delta Char.toLower
  by_cases letter : 0x41 ≤ c.toNat ∧ c.toNat ≤ 0x5A
  · rw [if_pos letter, dif_pos (capital.mpr letter)]
    show (c.val + 0x20).toNat = c.toNat + 0x20
    rw [UInt32.toNat_add]
    show (c.toNat + 0x20) % 2 ^ 32 = c.toNat + 0x20
    omega
  · rw [if_neg letter, dif_neg (mt capital.mp letter)]

end Gazette.Case
