import Gazette.Store.Memory

/-!
# The order of listings

* `MemoryStore.ascending_sorted`: articles with different identifiers are listed in strictly ascending order.
* `MemoryStore.sorted_of_perm`: how they are listed does not depend on the order in which they are kept.
* `MemoryStore.sorted_map`: an article that changes stays where it is listed.
-/

namespace Gazette

/-! ## Comparing -/

instance : Std.TransCmp Article.compare :=
  inferInstanceAs (Std.TransCmp
    (compareLex
      (compareLex (compareOn fun article : Article => article.createdAt.second)
        (compareOn fun article : Article => article.createdAt.nano))
      (compareOn fun article : Article => article.id.bits.toNat)))

theorem Uuid.compare_eq_eq {left right : Uuid} : left.compare right = .eq ↔ left = right := by
  rw [Uuid.compare, Nat.compare_eq_eq, BitVec.toNat_inj, Uuid.mk.injEq]

theorem Article.id_of_compare_eq {left right : Article} (same : left.compare right = .eq) : left.id = right.id := by
  rw [Article.compare, Ordering.then_eq_eq] at same
  exact Uuid.compare_eq_eq.mp same.2

namespace MemoryStore

variable {articles others : List Article}

/-! ## Sorting -/

theorem perm_sorted (articles : List Article) : (sorted articles).Perm articles := List.mergeSort_perm articles _

theorem length_sorted (articles : List Article) : (sorted articles).length = articles.length :=
  (perm_sorted articles).length_eq

theorem pairwise_sorted (articles : List Article) :
    (sorted articles).Pairwise fun left right => (left.compare right).isLE = true := by
  apply List.pairwise_mergeSort
  · intro first second third
    exact Std.TransCmp.isLE_trans
  · intro left right
    have swapped : right.compare left = (left.compare right).swap := Std.OrientedCmp.eq_swap
    rw [swapped]
    cases left.compare right <;> rfl

theorem nodup_sorted (distinct : (articles.map Article.id).Nodup) : ((sorted articles).map Article.id).Nodup :=
  ((perm_sorted articles).map Article.id).nodup_iff.mpr distinct

/-- No two articles are listed at the same place. -/
theorem ascending_sorted (distinct : (articles.map Article.id).Nodup) :
    (sorted articles).Pairwise fun left right => left.compare right = .lt := by
  have apart := List.pairwise_map.mp (nodup_sorted distinct)
  apply (apart.and (pairwise_sorted articles)).imp
  rintro left right ⟨different, order⟩
  cases compared : left.compare right with
  | lt => rfl
  | eq => exact absurd (Article.id_of_compare_eq compared) different
  | gt =>
    rw [compared] at order
    cases order

theorem sorted_of_perm (distinct : (articles.map Article.id).Nodup) (same : articles.Perm others) :
    sorted articles = sorted others := by
  have distinctOthers : (others.map Article.id).Nodup := (same.map Article.id).nodup_iff.mp distinct
  refine List.Perm.eq_of_pairwise ?_ (ascending_sorted distinct) (ascending_sorted distinctOthers)
    ((perm_sorted articles).trans (same.trans (perm_sorted others).symm))
  -- Of two articles, only one can be listed before the other.
  intro left right _ _ before after
  have later : left.compare right = .gt := Std.OrientedCmp.gt_iff_lt.mpr after
  cases before.symm.trans later

/-- A change that leaves alone what articles are compared by. -/
theorem sorted_map {change : Article → Article} (id : ∀ article ∈ articles, (change article).id = article.id)
    (created : ∀ article ∈ articles, (change article).createdAt = article.createdAt) :
    sorted (articles.map change) = (sorted articles).map change := by
  symm
  apply List.map_mergeSort
  intro left leftThere right rightThere
  rw [Article.compare, Article.compare, id left leftThere, id right rightThere, created left leftThere,
    created right rightThere]

end MemoryStore

end Gazette
