import Gazette.Proofs.Text.Digits

/-!
# The order of written texts

* `Compares`: two texts have the same length, and their octets are in a given order. It is found part by part.
* `Compares.fixedDigits` and `Compares.fixedHex`: numbers of a fixed width are in the order of their texts.
-/

namespace Gazette

/-! ## Lexicographic order -/

/-- Lists of the same length are compared before what follows them. -/
theorem compare_append {α : Type} [Ord α] {left right : List α} (more others : List α)
    (same : left.length = right.length) :
    compare (left ++ more) (right ++ others) = (compare left right).then (compare more others) := by
  induction left generalizing right with
  | nil =>
    obtain rfl := List.length_eq_zero_iff.mp same.symm
    rw [List.nil_append, List.nil_append, List.compare_nil_nil, Ordering.eq_then]
  | cons a left inductionHypothesis =>
    cases right with
    | nil => cases same
    | cons b right =>
      rw [List.cons_append, List.cons_append, List.compare_cons_cons, List.compare_cons_cons,
        inductionHypothesis (Nat.succ.inj same), Ordering.then_assoc]

/-- Numbers are in the order of others if whenever they differ they differ alike. -/
theorem compare_congr {a b c d : Int} (smaller : a < b ↔ c < d) (larger : b < a ↔ d < c) :
    compare a b = compare c d := by
  rcases Int.lt_trichotomy a b with less | rfl | more
  · rw [Int.compare_eq_lt.mpr less, Int.compare_eq_lt.mpr (smaller.mp less)]
  · have same : c = d := by omega
    rw [same, Int.compare_eq_eq.mpr rfl, Int.compare_eq_eq.mpr rfl]
  · rw [Int.compare_eq_gt.mpr more, Int.compare_eq_gt.mpr (larger.mp more)]

theorem compare_natCast (a b : Nat) : compare (a : Int) (b : Int) = compare a b := by
  rcases Nat.lt_trichotomy a b with less | rfl | more
  · rw [Nat.compare_eq_lt.mpr less, Int.compare_eq_lt.mpr (Int.ofNat_lt.mpr less)]
  · rw [Nat.compare_eq_eq.mpr rfl, Int.compare_eq_eq.mpr rfl]
  · rw [Nat.compare_eq_gt.mpr more, Int.compare_eq_gt.mpr (Int.ofNat_lt.mpr more)]

/-- Two numbers, of which the second ones are small, are compared as one. -/
theorem then_compare {a b c d k : Int} (left : 0 ≤ c ∧ c < k) (right : 0 ≤ d ∧ d < k) :
    (compare a b).then (compare c d) = compare (k * a + c) (k * b + d) := by
  have step {x y : Int} (less : x < y) : k * x + k ≤ k * y := by
    have le := Int.mul_le_mul_of_nonneg_left (Int.add_one_le_of_lt less) (by omega : 0 ≤ k)
    rwa [Int.mul_add, Int.mul_one] at le
  -- The second numbers cannot make up for a difference of the first.
  rcases Int.lt_trichotomy a b with less | rfl | more
  · have between := step less
    have whole : k * a + c < k * b + d := by omega
    rw [Int.compare_eq_lt.mpr less, Int.compare_eq_lt.mpr whole, Ordering.lt_then]
  · rw [Int.compare_eq_eq.mpr rfl, Ordering.eq_then]
    apply compare_congr <;> omega
  · have between := step more
    have whole : k * b + d < k * a + c := by omega
    rw [Int.compare_eq_gt.mpr more, Int.compare_eq_gt.mpr whole, Ordering.gt_then]

/-! ## Texts -/

def asciiOctets (text : List Char) : Bytes := text.map fun c => c.toNat.toUInt8

theorem encode_ofList_of_ascii {text : List Char} (ascii : Ascii text) :
    Utf8.encode (String.ofList text) = asciiOctets text := by
  rw [Utf8.encode_ofList, flatMap_encodeChar_of_ascii ascii, asciiOctets]

structure Compares (left right : List Char) (order : Ordering) : Prop where
  length : left.length = right.length
  octets : compare (asciiOctets left) (asciiOctets right) = order

namespace Compares

/-- The order of the octets of two texts is that of their characters. -/
theorem encode {left right : List Char} {order : Ordering} (ascii : Ascii left) (alsoAscii : Ascii right)
    (compares : Compares left right order) :
    compare (Utf8.encode (String.ofList left)) (Utf8.encode (String.ofList right)) = order := by
  rw [encode_ofList_of_ascii ascii, encode_ofList_of_ascii alsoAscii, compares.octets]

theorem refl (text : List Char) : Compares text text .eq := by
  refine ⟨rfl, ?_⟩
  induction text with
  | nil => rfl
  | cons c text inductionHypothesis =>
    rw [asciiOctets, List.map_cons, List.compare_cons_cons, Std.ReflOrd.compare_self, Ordering.eq_then]
    exact inductionHypothesis

theorem append {left right more others : List Char} {first second : Ordering} (before : Compares left right first)
    (after : Compares more others second) : Compares (left ++ more) (right ++ others) (first.then second) := by
  refine ⟨by rw [List.length_append, List.length_append, before.length, after.length], ?_⟩
  have same : (asciiOctets left).length = (asciiOctets right).length := by
    simp only [asciiOctets, List.length_map, before.length]
  rw [asciiOctets, asciiOctets, List.map_append, List.map_append, ← before.octets, ← after.octets]
  exact compare_append _ _ same

theorem cons {left right : List Char} {order : Ordering} (c : Char) (rest : Compares left right order) :
    Compares (c :: left) (c :: right) order := (refl [c]).append rest

/-- The order of two texts is that of their beginnings and then that of their ends. -/
theorem split {left right : List Char} {order : Ordering} (whole : Compares left right order) (n : Nat) :
    ∃ first second, Compares (left.take n) (right.take n) first ∧ Compares (left.drop n) (right.drop n) second ∧
      first.then second = order := by
  have begins : Compares (left.take n) (right.take n) _ := ⟨by simp [whole.length], rfl⟩
  have ends : Compares (left.drop n) (right.drop n) _ := ⟨by simp [whole.length], rfl⟩
  have parts := (begins.append ends).octets
  rw [List.take_append_drop, List.take_append_drop, whole.octets] at parts
  exact ⟨_, _, begins, ends, parts.symm⟩

theorem singleton {left right : Char} (small : left.toNat < 0x80) (alsoSmall : right.toNat < 0x80) :
    Compares [left] [right] (compare left.toNat right.toNat) := by
  have octet : left.toNat.toUInt8.toNat = left.toNat := Utf8.toNat_toUInt8 (by omega)
  have alsoOctet : right.toNat.toUInt8.toNat = right.toNat := Utf8.toNat_toUInt8 (by omega)
  refine ⟨rfl, ?_⟩
  show compare [left.toNat.toUInt8] [right.toNat.toUInt8] = _
  rw [List.compare_cons_cons, List.compare_nil_nil, Ordering.then_eq]
  simp only [compare, compareOfLessAndEq, UInt8.lt_iff_toNat_lt, ← UInt8.toNat_inj, octet, alsoOctet]

/-- Digits are compared before the last one, and then that one. -/
theorem digits {write : Nat → Nat → List Char} {digit : Nat → Char} {base : Nat} (writes : Writes base digit write)
    (order : ∀ a b, a < base → b < base → Compares [digit a] [digit b] (compare a b)) {width m n : Nat}
    (left : m < base ^ width) (right : n < base ^ width) :
    Compares (write width m) (write width n) (compare m n) := by
  induction width generalizing m n with
  | zero =>
    obtain rfl : m = 0 := by simpa using left
    obtain rfl : n = 0 := by simpa using right
    rw [writes.none]
    exact refl []
  | succ width inductionHypothesis =>
    -- The induction is on the width: all digits but the last write the quotients.
    have leading := inductionHypothesis (Nat.div_lt_of_lt_mul (Nat.pow_succ' ▸ left))
      (Nat.div_lt_of_lt_mul (Nat.pow_succ' ▸ right))
    have last := order (m % base) (n % base) (Nat.mod_lt m writes.positive) (Nat.mod_lt n writes.positive)
    rw [writes.more, writes.more]
    have whole := leading.append last
    have parts (n : Nat) : (base : Int) * (n / base : Nat) + (n % base : Nat) = n := by
      have whole := Nat.div_add_mod n base
      omega
    rw [← compare_natCast, ← compare_natCast, then_compare (k := base), parts, parts, compare_natCast] at whole
    · exact whole
    · exact ⟨by omega, Int.ofNat_lt.mpr (Nat.mod_lt m writes.positive)⟩
    · exact ⟨by omega, Int.ofNat_lt.mpr (Nat.mod_lt n writes.positive)⟩

theorem fixedDigits {width m n : Nat} (left : m < 10 ^ width) (right : n < 10 ^ width) :
    Compares (fixedDigits width m) (fixedDigits width n) (compare m n) := by
  refine digits writes_fixedDigits ?_ left right
  intro a b small alsoSmall
  have same : compare (digitChar a).toNat (digitChar b).toNat = compare a b := by
    rw [toNat_digitChar small, toNat_digitChar alsoSmall, ← compare_natCast, ← compare_natCast]
    apply compare_congr <;> omega
  rw [← same]
  apply singleton
  · rw [toNat_digitChar small]
    omega
  · rw [toNat_digitChar alsoSmall]
    omega

theorem fixedHex {width m n : Nat} (left : m < 16 ^ width) (right : n < 16 ^ width) :
    Compares (fixedHex width m) (fixedHex width n) (compare m n) := by
  refine digits writes_fixedHex ?_ left right
  intro a b small alsoSmall
  -- The letters come after the ten digits.
  have same : compare (hexChar a).toNat (hexChar b).toNat = compare a b := by
    rw [toNat_hexChar small, toNat_hexChar alsoSmall, ← compare_natCast, ← compare_natCast]
    apply compare_congr <;> split <;> split <;> omega
  rw [← same]
  apply singleton
  · rw [toNat_hexChar small]
    split <;> omega
  · rw [toNat_hexChar alsoSmall]
    split <;> omega

end Compares

end Gazette
