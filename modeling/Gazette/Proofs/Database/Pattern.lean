import Gazette.Database.Pattern
import Gazette.Proofs.Text.Utf8
import Mathlib.Data.List.Infix
import Mathlib.Data.List.TakeWhile

/-!
# What the pattern of a needle accepts

* `Pattern.codes_encode`: of a text, a pattern sees the characters up to the first NUL, each as its number.
* `Pattern.Contains`: the characters that are seen of a needle stand among those that are seen of a text, or at their
  end if the needle has a NUL, with which the pattern loses its last percent sign.
* `Pattern.accepts_containing`: such texts are those that the pattern of a needle accepts.
-/

namespace Gazette.Database.Pattern

/-! ## Characters as patterns see them -/

def nul : Char := Char.ofNat 0

def seen (text : List Char) : List Char := text.takeWhile (· ≠ nul)

/-- The number of a character. The last two of the first plane count as the replacement of what is no character. -/
def codeOf (c : Char) : Nat := if c.toNat = 0xFFFE ∨ c.toNat = 0xFFFF then replacement else c.toNat

def Fresh (octets : Bytes) : Prop := ∀ octet ∈ octets.head?, isTrailer octet = false

theorem isTrailer_six : ∀ bits < 0x40, isTrailer (0x80 + bits).toUInt8 = true := by decide

theorem sixBits_six : ∀ bits < 0x40, ((0x80 + bits).toUInt8 &&& 0x3F).toNat = bits := by decide

theorem isTrailer_of_ascii : ∀ code < 0x80, isTrailer code.toUInt8 = false := by decide

theorem isTrailer_of_lead {lead : Nat} (least : 0xC0 ≤ lead) (octet : lead < 0x100) :
    isTrailer lead.toUInt8 = false := by
  have all : ∀ bits < 0x40, isTrailer (0xC0 + bits).toUInt8 = false := by decide
  obtain ⟨bits, rfl⟩ := Nat.exists_eq_add_of_le least
  exact all bits (by omega)

theorem leadingBits_of_two : ∀ bits < 0x20, leadingBits (0xC0 + bits).toUInt8 = bits := by decide

theorem leadingBits_of_three : ∀ bits < 0x10, leadingBits (0xE0 + bits).toUInt8 = bits := by decide

theorem leadingBits_of_four : ∀ bits < 0x08, leadingBits (0xF0 + bits).toUInt8 = bits := by decide

theorem fresh_encode (text : List Char) : Fresh (text.flatMap Utf8.encodeChar) := by
  intro octet first
  cases text with
  | nil => cases first
  | cons c text =>
    have bounds := Utf8.bounds_of_char c
    rw [List.flatMap_cons, Utf8.encodeChar] at first
    split at first
    · cases first
      exact isTrailer_of_ascii _ ‹_›
    split at first
    · cases first
      exact isTrailer_of_lead (by omega) (by omega)
    split at first
    · cases first
      exact isTrailer_of_lead (by omega) (by omega)
    · cases first
      exact isTrailer_of_lead (by omega) (by omega)

theorem settle_eq_codeOf {c : Char} (notAscii : 0x80 ≤ c.toNat) : settle c.toNat = codeOf c := by
  have bounds := Utf8.bounds_of_char c
  rw [settle, codeOf]
  congr 1
  exact propext (by omega)

def trailers (sixes : List Nat) : Bytes := sixes.map fun six => (0x80 + six).toUInt8

theorem isTrailer_of_mem_trailers {sixes : List Nat} (small : ∀ six ∈ sixes, six < 0x40) {octet : UInt8}
    (among : octet ∈ trailers sixes) : isTrailer octet = true := by
  obtain ⟨six, there, rfl⟩ := List.mem_map.mp among
  exact isTrailer_six six (small six there)

theorem codes_lead {lead : Nat} {sixes : List Nat} {rest : Bytes} (least : 0xC0 ≤ lead) (octet : lead < 0x100)
    (small : ∀ six ∈ sixes, six < 0x40) (fresh : Fresh rest) :
    codes (lead.toUInt8 :: (trailers sixes ++ rest))
      = settle (gather (leadingBits lead.toUInt8) (trailers sixes)) :: codes rest := by
  have value : lead.toUInt8.toNat = lead := Utf8.toNat_toUInt8 octet
  have notNul : lead.toUInt8 ≠ 0 := by
    rw [Ne, ← UInt8.toNat_inj, value]
    exact Nat.ne_of_gt (Nat.lt_of_lt_of_le (by decide) least)
  have notSmall : ¬ lead.toUInt8 < 0xC0 := by
    rw [UInt8.lt_iff_toNat_lt, value]
    exact Nat.not_lt.mpr least
  have all (octet : UInt8) (among : octet ∈ trailers sixes) : isTrailer octet = true :=
    isTrailer_of_mem_trailers small among
  -- The octets that carry on end where those of the next character begin.
  have next : rest.takeWhile isTrailer = [] ∧ rest.dropWhile isTrailer = rest := by
    cases rest with
    | nil => exact ⟨rfl, rfl⟩
    | cons octet rest =>
      have starts : ¬ isTrailer octet = true := Bool.eq_false_iff.mp (fresh octet rfl)
      exact ⟨List.takeWhile_cons_of_neg starts, List.dropWhile_cons_of_neg starts⟩
  rw [codes, if_neg notNul, if_neg notSmall, List.takeWhile_append_of_pos all, List.dropWhile_append_of_pos all,
    next.1, next.2, List.append_nil]

theorem gather_trailers {sixes : List Nat} (small : ∀ six ∈ sixes, six < 0x40) (bits : Nat) :
    gather bits (trailers sixes) = sixes.foldl (fun bits six => (bits * 0x40 + six) % UInt32.size) bits := by
  rw [gather, trailers, List.foldl_map]
  apply List.foldl_ext
  intro bits six among
  rw [sixBits_six six (small six among)]

/-- The octets of a character are read as its number. -/
theorem codes_encodeChar {c : Char} {rest : Bytes} (notNul : c ≠ nul) (fresh : Fresh rest) :
    codes (Utf8.encodeChar c ++ rest) = codeOf c :: codes rest := by
  have bounds := Utf8.bounds_of_char c
  rw [Utf8.encodeChar]
  split
  · -- One octet.
    rename_i ascii
    have value : c.toNat.toUInt8.toNat = c.toNat := Utf8.toNat_toUInt8 (by omega)
    have positive : c.toNat.toUInt8 ≠ 0 := by
      intro same
      rw [same] at value
      exact notNul (Char.toNat_inj.mp value.symm)
    have small : c.toNat.toUInt8 < 0xC0 := by
      rw [UInt8.lt_iff_toNat_lt, value]
      exact Nat.lt_trans ascii (by decide)
    rw [List.singleton_append, codes, if_neg positive, if_pos small, value, codeOf, if_neg (by omega)]
  -- The bits of a character are in its first octet and in those that carry on.
  have whole (lead : Nat) (sixes : List Nat) (least : 0xC0 ≤ lead) (octet : lead < 0x100)
      (small : ∀ six ∈ sixes, six < 0x40)
      (gathered : sixes.foldl (fun bits six => (bits * 0x40 + six) % UInt32.size) (leadingBits lead.toUInt8)
        = c.toNat) :
      codes (lead.toUInt8 :: (trailers sixes ++ rest)) = codeOf c :: codes rest := by
    rw [codes_lead least octet small fresh, gather_trailers small, gathered, settle_eq_codeOf (by omega)]
  split
  · -- Two octets.
    apply whole _ [c.toNat % 0x40] (by omega) (by omega)
    · simp
      omega
    · rw [leadingBits_of_two _ (by omega)]
      simp [UInt32.size]
      omega
  split
  · -- Three octets.
    apply whole _ [c.toNat / 0x40 % 0x40, c.toNat % 0x40] (by omega) (by omega)
    · simp
      omega
    · rw [leadingBits_of_three _ (by omega)]
      simp [UInt32.size]
      omega
  · -- Four octets.
    apply whole _ [c.toNat / 0x1000 % 0x40, c.toNat / 0x40 % 0x40, c.toNat % 0x40] (by omega) (by omega)
    · simp
      omega
    · rw [leadingBits_of_four _ (by omega)]
      simp [UInt32.size]
      omega

/-- Of a text, patterns see the characters up to the first NUL. -/
theorem codes_encode (text : List Char) : codes (text.flatMap Utf8.encodeChar) = (seen text).map codeOf := by
  induction text with
  | nil => simp [codes, seen]
  | cons c text inductionHypothesis =>
    by_cases ends : c = nul
    · subst ends
      simp [codes, seen, Utf8.encodeChar, nul]
    · rw [List.flatMap_cons, codes_encodeChar ends (fresh_encode text), inductionHypothesis, seen, seen,
        List.takeWhile_cons_of_pos (by simpa using ends), List.map_cons]

/-! ## Patterns of needles -/

/-- A character by which patterns know texts: its number, or that of the small letter of ASCII. -/
def folded (c : Char) : Nat := fold (codeOf c)

/-- Whether the pattern of a needle is to accept a text. -/
def Contains (text needle : List Char) : Prop :=
  if nul ∈ needle then (seen needle).map folded <:+ (seen text).map folded
  else (seen needle).map folded <:+: (seen text).map folded

instance (text needle : List Char) : Decidable (Contains text needle) := by unfold Contains; infer_instance

/-- Characters with the same numbers are the same. -/
theorem infix_map_toNat {text needle : List Char} :
    needle.map Char.toNat <:+: text.map Char.toNat ↔ needle <:+: text := by
  constructor
  · intro within
    obtain ⟨part, among, same⟩ := List.infix_map_iff.mp within
    rw [(List.map_inj_right fun _ _ => Char.toNat_inj.mp).mp same]
    exact among
  · intro within
    exact within.map Char.toNat

theorem mem_suffixes {α : Type} {text rest : List α} : rest ∈ suffixes text ↔ rest <:+ text := by
  induction text with
  | nil => simp [suffixes]
  | cons a text inductionHypothesis => rw [suffixes, List.mem_cons, List.suffix_cons_iff, inductionHypothesis]

theorem fits_anyText {parts : List Part} {text : List Nat} :
    fits (.anyText :: parts) text = true ↔ ∃ rest, rest <:+ text ∧ fits parts rest = true := by
  simp only [fits, List.any_eq_true, mem_suffixes]

theorem fits_exactly {codes text : List Nat} :
    fits (codes.map .exactly) text = true ↔ codes.map fold = text.map fold := by
  induction codes generalizing text with
  | nil => cases text <;> simp [fits]
  | cons code codes inductionHypothesis =>
    cases text with
    | nil => simp [fits]
    | cons other text => simp [fits, inductionHypothesis]

theorem fits_exactly_anyText {codes text : List Nat} :
    fits (codes.map .exactly ++ [.anyText]) text = true ↔ codes.map fold <+: text.map fold := by
  induction codes generalizing text with
  | nil =>
    have last : ∃ rest, rest <:+ text ∧ fits [] rest = true := ⟨[], List.nil_suffix, rfl⟩
    simp [fits_anyText, last]
  | cons code codes inductionHypothesis =>
    cases text with
    | nil => simp [fits]
    | cons other text => simp [fits, inductionHypothesis, List.cons_prefix_cons]

theorem codeOf_eq {c : Char} {code : Nat} (small : code < 0xFFFD) : codeOf c = code ↔ c.toNat = code := by
  rw [codeOf, replacement]
  split <;> omega

theorem parts?_plain {code : Nat} {rest : List Nat} (notEscape : code ≠ 0x5C) (notAnyText : code ≠ 0x25)
    (notAnyCharacter : code ≠ 0x5F) : parts? (code :: rest) = (parts? rest).map (.exactly code :: ·) := by
  rw [parts?.eq_def]
  split <;> simp_all

/-- A text without a NUL is seen as a whole. -/
theorem seen_eq_self {text : List Char} (whole : nul ∉ text) : seen text = text := by
  rw [seen, List.takeWhile_eq_self_iff]
  intro c among
  refine decide_eq_true ?_
  rintro rfl
  exact whole among

theorem seen_cons {c : Char} (notNul : c ≠ nul) (text : List Char) : seen (c :: text) = c :: seen text := by
  rw [seen, seen, List.takeWhile_cons_of_pos (by simpa using notNul)]

/-- Any character but NUL is read from a pattern as the one that stands there. -/
theorem parts?_escape {c : Char} (notNul : c ≠ nul) (text : List Char) :
    parts? ((seen (escape c ++ text)).map codeOf)
      = (parts? ((seen text).map codeOf)).map (.exactly (codeOf c) :: ·) := by
  rw [escape]
  split
  · rw [List.cons_append, List.singleton_append, seen_cons (by decide), seen_cons notNul]
    rfl
  · rename_i plain
    simp only [Bool.or_eq_true, decide_eq_true_eq, not_or] at plain
    have apart (other : Char) (small : other.toNat < 0xFFFD) (different : c ≠ other) : codeOf c ≠ other.toNat := by
      rw [Ne, codeOf_eq small, Char.toNat_inj]
      exact different
    rw [List.singleton_append, seen_cons notNul, List.map_cons]
    exact parts?_plain (apart '\\' (by decide) plain.2) (apart '%' (by decide) plain.1.1)
      (apart '_' (by decide) plain.1.2)

/-- The parts of a needle's pattern behind the first percent sign. -/
theorem parts?_needle (needle : List Char) :
    parts? ((seen (needle.flatMap escape ++ ['%'])).map codeOf)
      = some (((seen needle).map codeOf).map .exactly ++ if nul ∈ needle then [] else [.anyText]) := by
  induction needle with
  | nil => rfl
  | cons c needle inductionHypothesis =>
    by_cases ends : c = nul
    · subst ends
      rw [if_pos List.mem_cons_self]
      rfl
    · have same : nul ∈ c :: needle ↔ nul ∈ needle := by simp [eq_comm, ends]
      rw [List.flatMap_cons, List.append_assoc, parts?_escape ends, inductionHypothesis, seen_cons ends]
      simp only [same, Option.map_some, List.map_cons, List.cons_append]

/-- A needle's pattern accepts the texts that contain the needle, as far as patterns see. -/
theorem accepts_containing (needle text : String) :
    accepts (Utf8.encode (containing needle)) (Utf8.encode text) = true ↔ Contains text.toList needle.toList := by
  have fold_codes (chars : List Char) : (chars.map codeOf).map fold = chars.map folded := List.map_map
  have parts : parts? (codes (Utf8.encode (containing needle))) = some (.anyText ::
      (((seen needle.toList).map codeOf).map .exactly ++ if nul ∈ needle.toList then [] else [.anyText])) := by
    rw [containing, Utf8.encode_ofList, codes_encode, List.cons_append, seen_cons (by decide)]
    show (parts? _).map _ = _
    rw [parts?_needle, Option.map_some]
  rw [accepts, parts, Utf8.encode, codes_encode]
  simp only [fits_anyText]
  by_cases ends : nul ∈ needle.toList
  · -- The pattern has lost its last percent sign.
    simp only [Contains, if_pos ends, List.append_nil, fits_exactly, fold_codes]
    rw [← fold_codes (seen text.toList), List.suffix_map_iff]
  · simp only [Contains, if_neg ends, fits_exactly_anyText, fold_codes]
    rw [List.infix_iff_prefix_suffix, ← fold_codes (seen text.toList)]
    simp only [List.suffix_map_iff]
    constructor
    · rintro ⟨rest, last, first⟩
      exact ⟨rest.map fold, first, rest, last, rfl⟩
    · rintro ⟨_, first, rest, last, rfl⟩
      exact ⟨rest, last, first⟩

end Gazette.Database.Pattern
