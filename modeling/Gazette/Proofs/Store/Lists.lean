/-!
# Finding rows after a change

How a row is found in a list after rows were replaced, removed or added.
-/

namespace Gazette

variable {α : Type} {rows : List α} {p q : α → Bool}

theorem find?_map_of_same (p : α → Bool) (f : α → α) (keeps : ∀ a, p (f a) = p a) :
    (rows.map f).find? p = (rows.find? p).map f := by
  rw [List.find?_map]
  have same : p ∘ f = p := funext keeps
  rw [same]

theorem find?_filter_of_imp (kept : ∀ a, p a = true → q a = true) : (rows.filter q).find? p = rows.find? p := by
  rw [List.find?_filter]
  congr 1
  funext a
  cases found : p a with
  | false => simp
  | true => simp [kept a found]

theorem find?_append_of_some {row : α} {more : List α} (found : rows.find? p = some row) :
    (rows ++ more).find? p = some row := by
  rw [List.find?_append, found, Option.some_or]

/-- A row that differs from all others in what it is found by. -/
theorem find?_of_mem {β : Type} [DecidableEq β] {key : α → β} {row : α} (distinct : (rows.map key).Nodup)
    (member : row ∈ rows) : (rows.find? fun other => key other = key row) = some row := by
  induction rows with
  | nil => cases member
  | cons first rows inductionHypothesis =>
    obtain ⟨apart, distinct⟩ := List.nodup_cons.mp distinct
    rcases List.mem_cons.mp member with rfl | member
    · simp
    · have other : key first ≠ key row := by
        intro same
        exact apart (same ▸ List.mem_map_of_mem member)
      rw [List.find?_cons_of_neg (by simpa using other)]
      exact inductionHypothesis distinct member

/-- A row that comes last, with what no other is found by. -/
theorem nodup_map_append_singleton {β : Type} {key : α → β} {row : α} (distinct : (rows.map key).Nodup)
    (new : key row ∉ rows.map key) : ((rows ++ [row]).map key).Nodup := by
  rw [List.map_append, List.map_singleton, List.nodup_append]
  refine ⟨distinct, by simp, ?_⟩
  intro left leftThere right rightThere
  rw [List.mem_singleton] at rightThere
  rintro rfl
  exact new (rightThere ▸ leftThere)

theorem length_filter_pos (found : (rows.find? p).isSome) : 0 < (rows.filter p).length := by
  obtain ⟨row, there⟩ := Option.isSome_iff_exists.mp found
  have member : row ∈ rows.filter p := List.mem_filter.mpr ⟨List.mem_of_find?_eq_some there, List.find?_some there⟩
  exact List.length_pos_of_mem member

/-- Of rows that differ in what they are found by, no two are found. -/
theorem length_filter_le_one (distinct : rows.Pairwise fun left right => ¬(p left = true ∧ p right = true)) :
    (rows.filter p).length ≤ 1 := by
  have among : (rows.filter p).Pairwise fun left right => ¬(p left = true ∧ p right = true) :=
    distinct.sublist List.filter_sublist
  cases chosen : rows.filter p with
  | nil => exact Nat.zero_le 1
  | cons first others =>
    cases others with
    | nil => exact Nat.le_refl 1
    | cons second others =>
      have holds (row : α) (member : row ∈ rows.filter p) : p row = true := (List.mem_filter.mp member).2
      -- The first two of them would be found both.
      rw [chosen] at among holds
      have apart := (List.pairwise_cons.mp among).1 second List.mem_cons_self
      exact absurd ⟨holds first List.mem_cons_self, holds second (List.mem_cons_of_mem _ List.mem_cons_self)⟩ apart

/-- The rows that are removed and those that are left. -/
theorem length_sub_length_filter_not :
    rows.length - (rows.filter fun row => !p row).length = (rows.filter p).length := by
  have parts : rows.length = rows.countP p + rows.countP fun row => ¬p row := List.length_eq_countP_add_countP p
  simp only [List.countP_eq_length_filter, Bool.not_eq_true, Bool.decide_eq_false] at parts
  omega

end Gazette
