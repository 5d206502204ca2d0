import Gazette.Proofs.Database.Pattern
import Gazette.Proofs.Text.Case

/-!
# Needles in titles

* `Pattern.plain`: a character as patterns tell it from others. Capitals of ASCII are the same as small letters, and the
  last two characters of the first plane the same as the replacement of what is no character.
* `Pattern.accepts_iff_within`: the pattern of a needle without NUL accepts the titles in which the needle stands, as
  far as patterns see. Of texts without the characters that are seen as others, that is a search for a substring.
-/

namespace Gazette.Database.Pattern

/-! ## Characters that count as the same -/

def shown (c : Char) : Char := if c.toNat = 0xFFFE ∨ c.toNat = 0xFFFF then Char.ofNat replacement else c

def plain (c : Char) : Char := (shown c).toLower

theorem toNat_shown (c : Char) : (shown c).toNat = codeOf c := by
  rw [shown, codeOf]
  split
  · rfl
  · rfl

theorem toNat_plain (c : Char) : (plain c).toNat = folded c := by
  rw [plain, Case.toNat_toLower, toNat_shown, folded, fold]

theorem map_folded (text : List Char) : text.map folded = (text.map plain).map Char.toNat := by
  rw [List.map_map]
  apply List.map_congr_left
  intro c _
  exact (toNat_plain c).symm

theorem contains_iff_within {text needle : List Char} (whole : nul ∉ needle) :
    Contains text needle ↔ needle.map plain <:+: (seen text).map plain := by
  rw [Contains, if_neg whole, seen_eq_self whole, map_folded, map_folded, infix_map_toNat]

/-- What stands in a text that is seen as a whole is seen there. -/
theorem contains_of_within {text needle : List Char} (whole : nul ∉ text) (within : needle <:+: text) :
    Contains text needle := by
  rw [contains_iff_within fun among => whole (within.subset among), seen_eq_self whole]
  exact within.map plain

/-- A wildcard is the same as no other character. -/
theorem plain_eq_plain_wildcard {c other : Char} (wildcard : c ∈ ['%', '_', '\\']) :
    plain other = plain c ↔ other = c := by
  have number : (plain c).toNat = c.toNat ∧ (c.toNat = 0x25 ∨ c.toNat = 0x5F ∨ c.toNat = 0x5C) := by
    simp only [List.mem_cons, List.not_mem_nil, or_false] at wildcard
    rcases wildcard with rfl | rfl | rfl <;> decide
  rw [← Char.toNat_inj, ← Char.toNat_inj, number.1, toNat_plain, folded, fold, codeOf, replacement]
  split <;> split <;> omega

/-! ## Texts that are seen as they are -/

/-- No character of a text ends it, or is seen as another. -/
def Legible (text : List Char) : Prop := ∀ c ∈ text, c ≠ nul ∧ c.toNat ≠ 0xFFFE ∧ c.toNat ≠ 0xFFFF

instance (text : List Char) : Decidable (Legible text) := List.decidableBAll _ text

namespace Legible

variable {text needle : List Char}

theorem not_mem_nul (legible : Legible text) : nul ∉ text := fun among => (legible _ among).1 rfl

theorem map_plain (legible : Legible text) : text.map plain = text.map Char.toLower := by
  apply List.map_congr_left
  intro c among
  obtain ⟨_, notSecondLast, notLast⟩ := legible c among
  rw [plain, shown, if_neg (not_or.mpr ⟨notSecondLast, notLast⟩)]

theorem contains_iff_within (legibleNeedle : Legible needle) (legible : Legible text) :
    Contains text needle ↔ needle.map Char.toLower <:+: text.map Char.toLower := by
  rw [Pattern.contains_iff_within legibleNeedle.not_mem_nul, seen_eq_self legible.not_mem_nul, legible.map_plain,
    legibleNeedle.map_plain]

end Legible

/-! ## Titles that are accepted -/

/-- The pattern of a needle tests for a substring, as far as patterns see, with each wildcard for itself only. -/
theorem accepts_iff_within {title needle : String} (whole : nul ∉ needle.toList) :
    (accepts (Utf8.encode (containing needle)) (Utf8.encode title) = true ↔
      needle.toList.map plain <:+: (seen title.toList).map plain) ∧
    (∀ c ∈ ['%', '_', '\\'], ∀ other, plain other = plain c ↔ other = c) ∧
    (Legible title.toList → Legible needle.toList →
      (accepts (Utf8.encode (containing needle)) (Utf8.encode title) = true ↔
        needle.toList.map Char.toLower <:+: title.toList.map Char.toLower)) := by
  refine ⟨?_, fun c wildcard other => plain_eq_plain_wildcard wildcard, ?_⟩
  · rw [accepts_containing, contains_iff_within whole]
  · intro legibleTitle legibleNeedle
    rw [accepts_containing, legibleNeedle.contains_iff_within legibleTitle]

/-- A percent sign is found where it stands, and nothing else is taken for it. -/
theorem accepts_iff_within_aDiscount :
    nul ∉ "50%_\\".toList ∧
      accepts (Utf8.encode (containing "50%_\\")) (Utf8.encode "UP TO 50%_\\ OFF") = true ∧
      accepts (Utf8.encode (containing "50%_\\")) (Utf8.encode "UP TO 500 OFF") = false := by
  have whole : nul ∉ "50%_\\".toList := by decide
  refine ⟨whole, (accepts_iff_within whole).1.mpr (by decide), ?_⟩
  rw [Bool.eq_false_iff]
  intro accepted
  exact absurd ((accepts_iff_within whole).1.mp accepted) (by decide)

/-- The last character of the first plane is found for the one before it, and nothing is found behind a NUL. -/
theorem accepts_noCharacter :
    (nul ∉ "\uFFFE".toList ∧ nul ∉ "\uFFFF".toList ∧
      accepts (Utf8.encode (containing "\uFFFE")) (Utf8.encode "\uFFFF") = true ∧
      ¬ "\uFFFE".toList.map Char.toLower <:+: "\uFFFF".toList.map Char.toLower) ∧
    (nul ∉ "b".toList ∧
      accepts (Utf8.encode (containing "b")) (Utf8.encode "a\x00b") = false ∧
      "b".toList.map Char.toLower <:+: "a\x00b".toList.map Char.toLower) := by
  refine ⟨⟨by decide, by decide, (accepts_containing _ _).mpr (by decide), by decide⟩, by decide, ?_, by decide⟩
  rw [Bool.eq_false_iff, Ne, accepts_containing]
  decide

end Gazette.Database.Pattern
