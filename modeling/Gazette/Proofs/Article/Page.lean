import Gazette.Article.Listing
import Gazette.Store.Request
import Mathlib.Algebra.Group.Nat.Defs

/-!
# Pages as parts of a list

* `Page.pageOf_eq`: which rows of a list are on a page.
* `Page.flatMap_upTo`: the first pages of one size have the first rows, each row on one page.
* `Page.filled`: how many pages the rows fill, which is what `Page.pageCount` gives.
* `Page.hasMore_iff`: when there are rows beyond a page.
-/

namespace Gazette.Page

variable {α : Type}

/-! ## Numbers -/

theorem toNat_pos {word : UInt32} (nonzero : word ≠ 0) : 0 < word.toNat :=
  UInt32.lt_iff_toNat_lt.mp (UInt32.pos_iff_ne_zero.mpr nonzero)

theorem number_pos (page : Page) : 0 < page.number.toNat := toNat_pos page.number_ne_zero

theorem size_pos (page : Page) : 0 < page.size.toNat := toNat_pos page.size_ne_zero

/-- Numbers of pages and sizes are so small that nothing overflows. -/
theorem toNat_mul_toUInt64 (number size : UInt32) :
    (number.toUInt64 * size.toUInt64).toNat = number.toNat * size.toNat := by
  have bound : number.toNat * size.toNat < 2 ^ 64 :=
    calc number.toNat * size.toNat
        < 2 ^ 32 * 2 ^ 32 := Nat.mul_lt_mul'' number.toNat_lt size.toNat_lt
      _ = 2 ^ 64 := by decide
  rw [UInt64.toNat_mul, UInt32.toNat_toUInt64, UInt32.toNat_toUInt64, Nat.mod_eq_of_lt bound]

theorem toNat_limit (page : Page) : page.limit.toNat = page.size.toNat := UInt32.toNat_toUInt64 page.size

theorem toNat_offset (page : Page) : page.offset.toNat = (page.number.toNat - 1) * page.size.toNat := by
  have least : 1 ≤ page.number := UInt32.le_iff_toNat_le.mpr page.number_pos
  rw [offset, toNat_mul_toUInt64, UInt32.toNat_sub_of_le _ _ least]
  rfl

theorem hasMore_iff {page : Page} {total : UInt64} :
    page.hasMore total = true ↔ page.number.toNat * page.size.toNat < total.toNat := by
  rw [hasMore, decide_eq_true_eq, UInt64.lt_iff_toNat_lt, toNat_mul_toUInt64]

def filled (size : UInt32) (rows : Nat) : Nat := (rows + size.toNat - 1) / size.toNat

theorem add_sub_one_div {n d : Nat} (positive : 0 < d) :
    (n + d - 1) / d = if n % d = 0 then n / d else n / d + 1 := by
  have parts := Nat.div_add_mod n d
  have less := Nat.mod_lt n positive
  by_cases full : n % d = 0
  · have sum : n + d - 1 = d * (n / d) + (d - 1) := by omega
    have rest : (d - 1) / d = 0 := Nat.div_eq_of_lt (by omega)
    rw [if_pos full, sum, Nat.mul_add_div positive, rest, Nat.add_zero]
  · have sum : n + d - 1 = d * (n / d) + (n % d - 1 + d) := by omega
    have rest : (n % d - 1) / d = 0 := Nat.div_eq_of_lt (by omega)
    rw [if_neg full, sum, Nat.mul_add_div positive, Nat.add_div_right _ positive, rest]

theorem le_filled_mul {size : UInt32} (sized : size ≠ 0) (rows : Nat) : rows ≤ filled size rows * size.toNat := by
  have positive := toNat_pos sized
  have parts := Nat.div_add_mod' (rows + size.toNat - 1) size.toNat
  have less := Nat.mod_lt (rows + size.toNat - 1) positive
  rw [filled]
  omega

theorem toNat_pageCount (page : Page) (total : UInt64) :
    (page.pageCount total).toNat = filled page.size total.toNat := by
  have same : total % page.limit = 0 ↔ total.toNat % page.size.toNat = 0 := by
    rw [← UInt64.toNat_inj, UInt64.toNat_mod, toNat_limit, UInt64.toNat_zero]
  have quotient : (total / page.limit).toNat = total.toNat / page.size.toNat := by
    rw [UInt64.toNat_div, toNat_limit]
  rw [pageCount, filled, add_sub_one_div page.size_pos]
  by_cases full : total % page.limit = 0
  · rw [if_pos full, if_pos (same.mp full), quotient]
  · rw [if_neg full, if_neg (mt same.mpr full), UInt64.toNat_add, quotient]
    -- There is a remainder, so that a page has more than one row.
    have several : 1 < page.size.toNat := by
      apply Nat.lt_of_le_of_ne page.size_pos
      intro one
      rw [same, ← one, Nat.mod_one] at full
      exact full rfl
    have half : total.toNat / page.size.toNat ≤ total.toNat / 2 := Nat.div_le_div_left several (by decide)
    have bound := total.toNat_lt
    exact Nat.mod_eq_of_lt (show _ + 1 < _ by omega)

/-! ## Rows -/

theorem pageOf_eq (page : Page) (rows : List α) :
    pageOf rows page.offset page.limit
      = (rows.drop ((page.number.toNat - 1) * page.size.toNat)).take page.size.toNat := by
  rw [pageOf, toNat_offset, toNat_limit]

def upTo (size : UInt32) (count : Nat) : List Page :=
  (List.range count).filterMap fun before => (make (before + 1).toUInt32 size).toOption

/-- There is a page with every number that has 32 bits. -/
theorem exists_make_succ {size : UInt32} {count : Nat} (sized : size ≠ 0) (few : count + 1 < 2 ^ 32) :
    ∃ page : Page, make (count + 1).toUInt32 size = .ok page ∧ page.number.toNat = count + 1 ∧ page.size = size := by
  have value : (count + 1).toUInt32.toNat = count + 1 := UInt32.toNat_ofNat_of_lt few
  have numbered : (count + 1).toUInt32 ≠ 0 := by
    rw [Ne, ← UInt32.toNat_inj, value]
    exact Nat.succ_ne_zero count
  have made : make (count + 1).toUInt32 size = .ok ⟨(count + 1).toUInt32, size, numbered, sized⟩ := by
    rw [make, dif_pos numbered, dif_pos sized]
  exact ⟨_, made, value, rfl⟩

theorem upTo_succ {size : UInt32} {count : Nat} (sized : size ≠ 0) (few : count + 1 < 2 ^ 32) :
    ∃ page : Page, page.number.toNat = count + 1 ∧ page.size = size ∧
      upTo size (count + 1) = upTo size count ++ [page] := by
  obtain ⟨page, made, value, same⟩ := exists_make_succ sized few
  refine ⟨page, value, same, ?_⟩
  rw [upTo, List.range_succ, List.filterMap_append, ← upTo, List.filterMap_cons, made]
  rfl

/-- The first pages have the first rows, one page after another. -/
theorem flatMap_upTo {size : UInt32} {count : Nat} (sized : size ≠ 0) (few : count < 2 ^ 32) (rows : List α) :
    ((upTo size count).flatMap fun page => pageOf rows page.offset page.limit) = rows.take (count * size.toNat) := by
  induction count with
  | zero => simp [upTo]
  | succ count inductionHypothesis =>
    obtain ⟨page, number, rfl, last⟩ := upTo_succ sized few
    rw [last, List.flatMap_append, inductionHypothesis (by omega), List.flatMap_singleton, pageOf_eq, number,
      Nat.add_sub_cancel, Nat.succ_mul, List.take_add]

/-- Pages whose rows would come after the last one are empty. -/
theorem pageOf_eq_nil {page : Page} {rows : List α} :
    pageOf rows page.offset page.limit = [] ↔ rows.length ≤ (page.number.toNat - 1) * page.size.toNat := by
  have size := page.size_pos
  rw [pageOf_eq, List.take_eq_nil_iff, List.drop_eq_nil_iff]
  omega

end Gazette.Page
