import Gazette.Proofs.Article.Page
import Mathlib.Data.Rat.Floor

/-!
# Counting rows and pages

* `Page.filled_le_iff`: so many pages have room for so many rows. All that is said of pages and rows here comes from it.
* `Page.filled_eq_ceil`: the pages that rows fill are the quotient, rounded up.
* `Page.counted_exactly`: the words that a page is made of give the same numbers as integers do, and the ways to ask for
  more rows agree.
-/

namespace Gazette.Page

/-! ## Pages with room for rows -/

theorem filled_le_iff {size : UInt32} (sized : size ≠ 0) {rows count : Nat} :
    filled size rows ≤ count ↔ rows ≤ count * size.toNat := by
  have positive := toNat_pos sized
  constructor
  · intro enough
    exact Nat.le_trans (le_filled_mul sized rows) (Nat.mul_le_mul_right size.toNat enough)
  · intro room
    rw [filled, ← Nat.lt_succ_iff, Nat.div_lt_iff_lt_mul positive, Nat.succ_mul]
    omega

/-- The pages that rows fill are the quotient, rounded up. -/
theorem filled_eq_ceil {size : UInt32} (sized : size ≠ 0) (rows : Nat) :
    filled size rows = ⌈(rows : ℚ) / size.toNat⌉₊ := by
  have positive : (0 : ℚ) < size.toNat := Nat.cast_pos.mpr (toNat_pos sized)
  apply eq_of_forall_ge_iff
  intro count
  rw [filled_le_iff sized, Nat.ceil_le, div_le_iff₀ positive]
  norm_cast

theorem hasMore_iff_lt_pageCount {page : Page} {total : UInt64} :
    page.hasMore total = true ↔ page.number.toNat < (page.pageCount total).toNat := by
  rw [hasMore_iff, toNat_pageCount, ← Nat.not_le, ← Nat.not_le, filled_le_iff page.size_ne_zero]

/-- There are rows on just those pages that the rows fill. -/
theorem offset_lt_iff_le_pageCount {page : Page} {total : UInt64} :
    page.offset < total ↔ page.number.toNat ≤ (page.pageCount total).toNat := by
  have first := page.number_pos
  -- The rows before the page are those that the pages before it have room for.
  have before : (page.pageCount total).toNat ≤ page.number.toNat - 1 ↔ total.toNat ≤ page.offset.toNat := by
    rw [toNat_pageCount, filled_le_iff page.size_ne_zero, toNat_offset]
  rw [UInt64.lt_iff_toNat_lt]
  omega

theorem hasMore_listing_iff {page : Page} {total : UInt64} {articles : List Article} :
    (page.listing total articles).hasMore = true ↔ page.offset.toNat + page.limit.toNat < total.toNat := by
  have rows : (page.number.toNat - 1) * page.size.toNat + page.size.toNat = page.number.toNat * page.size.toNat := by
    rw [← Nat.succ_mul, Nat.succ_eq_add_one, Nat.sub_add_cancel page.number_pos]
  rw [listing, hasMore_iff, toNat_offset, toNat_limit, rows]

/-! ## Words and integers -/

/-- Every number and size from one on make a page, and no word is too narrow for what is reckoned of it: differences,
products and quotients are those of integers, and nothing is divided by zero. There are more rows just if there are more
pages, and just if the rows go beyond the last one of the page. -/
theorem counted_exactly {number size : UInt32} (numbered : 1 ≤ number) (sized : 1 ≤ size) (total : UInt64)
    (articles : List Article) :
    ∃ page, make number size = .ok page ∧ page.number = number ∧ page.size = size ∧
      (page.number - 1).toNat = number.toNat - 1 ∧
      page.offset.toNat = (number.toNat - 1) * size.toNat ∧
      (page.number.toUInt64 * page.size.toUInt64).toNat = number.toNat * size.toNat ∧
      page.limit ≠ 0 ∧
      (page.pageCount total).toNat = ⌈(total.toNat : ℚ) / size.toNat⌉₊ ∧
      (page.hasMore total = true ↔ page.number.toNat < (page.pageCount total).toNat) ∧
      (page.offset < total ↔ page.number.toNat ≤ (page.pageCount total).toNat) ∧
      ((page.listing total articles).hasMore = true ↔ page.offset.toNat + page.limit.toNat < total.toNat) := by
  have notZero {word : UInt32} (positive : 1 ≤ word) : word ≠ 0 := by
    rintro rfl
    exact absurd positive (by decide)
  let page : Page := ⟨number, size, notZero numbered, notZero sized⟩
  have made : make number size = .ok page := by rw [make, dif_pos (notZero numbered), dif_pos (notZero sized)]
  -- The only difference is one from a number that is not zero.
  have before : (page.number - 1).toNat = number.toNat - 1 := UInt32.toNat_sub_of_le _ _ numbered
  have divisor : page.limit ≠ 0 := by
    rw [Ne, ← UInt64.toNat_inj, toNat_limit]
    exact Nat.ne_of_gt page.size_pos
  have pages : (page.pageCount total).toNat = ⌈(total.toNat : ℚ) / size.toNat⌉₊ := by
    rw [toNat_pageCount, filled_eq_ceil page.size_ne_zero]
  exact ⟨page, made, rfl, rfl, before, page.toNat_offset, toNat_mul_toUInt64 number size, divisor, pages,
    hasMore_iff_lt_pageCount, offset_lt_iff_le_pageCount, hasMore_listing_iff⟩

/-- The largest page of the largest size, and the most rows that a word can count: two pages are behind it. -/
theorem counted_exactly_theLastPage :
    ∃ page, make 4294967295 4294967295 = .ok page ∧ page.offset.toNat = 4294967294 * 4294967295 ∧
      page.pageCount 18446744073709551615 = 4294967297 ∧ page.hasMore 18446744073709551615 = true := by
  have positive : (1 : UInt32) ≤ 4294967295 := by decide
  obtain ⟨page, made, number, size, _, offset, _, _, _, more, _⟩ :=
    counted_exactly positive positive 18446744073709551615 []
  have count : page.pageCount 18446744073709551615 = 4294967297 := by
    rw [pageCount, limit, size]
    decide
  refine ⟨page, made, offset, count, more.mpr ?_⟩
  rw [number, count]
  decide

end Gazette.Page
