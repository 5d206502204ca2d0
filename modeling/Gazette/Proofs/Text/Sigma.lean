import Gazette.Text.Case
import Mathlib.Data.List.Infix
import Mathlib.Tactic.ByContra

/-!
# Texts that stand in other texts, lower-cased

* `Case.lowerWithin`: a part of a text lower-cased where it stands.
* `Case.Settled`: no capital sigma of a text is lower-cased otherwise for what stands around the text.
* `Case.settled_iff`: these are the texts that are found, lower-cased, in every lower-cased text in which they stand.
-/

namespace Gazette.Case

/-- Lower-cases a text that stands between two others. The last character of the first one comes first. -/
def lowerWithin (before : List Char) : List Char → List Char → List Char
  | [], _ => []
  | c :: text, after =>
    (if c = capitalSigma then [lowerSigma before (text ++ after)] else lowerChar c) ++
      lowerWithin (c :: before) text after

theorem lowerAfter_append (before text after : List Char) :
    lowerAfter before (text ++ after) = lowerWithin before text after ++ lowerAfter (text.reverse ++ before) after := by
  induction text generalizing before with
  | nil => rfl
  | cons c text inductionHypothesis =>
    rw [List.cons_append, lowerAfter, lowerWithin, inductionHypothesis, List.reverse_cons, List.append_assoc,
      List.append_assoc, List.singleton_append]

theorem lowerWithin_nil (before text : List Char) : lowerWithin before text [] = lowerAfter before text := by
  have whole := lowerAfter_append before text []
  rw [List.append_nil, lowerAfter, List.append_nil] at whole
  exact whole.symm

/-! ## What a sigma looks at -/

/-- A text with a character that is not ignorable, behind which nothing is looked at. -/
def Speaks (text : List Char) : Prop := ∃ c ∈ text, isIgnorable c = false

instance (text : List Char) : Decidable (Speaks text) :=
  decidable_of_iff (text.any fun c => !isIgnorable c) (by simp [Speaks])

theorem not_speaks_cons {c : Char} {text : List Char} :
    ¬Speaks (c :: text) ↔ isIgnorable c = true ∧ ¬Speaks text := by
  simp [Speaks]

theorem speaks_reverse {text : List Char} : Speaks text.reverse ↔ Speaks text := by
  simp [Speaks]

theorem isIgnorable_capitalSigma : isIgnorable capitalSigma = false := by decide +kernel

theorem speaks_of_mem_capitalSigma {text : List Char} (among : capitalSigma ∈ text) : Speaks text :=
  ⟨capitalSigma, among, isIgnorable_capitalSigma⟩

theorem cased_append_of_speaks {text : List Char} (speaks : Speaks text) (more : List Char) :
    cased (text ++ more) = cased text := by
  induction text with
  | nil =>
    obtain ⟨_, among, _⟩ := speaks
    cases among
  | cons c text inductionHypothesis =>
    rw [List.cons_append, cased, cased]
    by_cases ignorable : isIgnorable c = true
    · have rest : Speaks text := by
        by_contra silent
        exact not_speaks_cons.mpr ⟨ignorable, silent⟩ speaks
      rw [inductionHypothesis rest]
    · rw [if_neg ignorable, if_neg ignorable]

theorem cased_append_of_not_speaks {text : List Char} (silent : ¬Speaks text) (more : List Char) :
    cased (text ++ more) = cased more := by
  induction text with
  | nil => rfl
  | cons c text inductionHypothesis =>
    obtain ⟨ignorable, silent⟩ := not_speaks_cons.mp silent
    rw [List.cons_append, cased, if_pos ignorable, inductionHypothesis silent]

theorem cased_of_not_speaks {text : List Char} (silent : ¬Speaks text) : cased text = false := by
  rw [← List.append_nil text, cased_append_of_not_speaks silent, cased]

theorem speaks_of_cased {text : List Char} (isCased : cased text = true) : Speaks text := by
  by_contra silent
  rw [cased_of_not_speaks silent] at isCased
  cases isCased

/-- What stands next to a sigma settles how it is lower-cased, whatever stands farther off. -/
def Decided (before after : List Char) : Prop :=
  Speaks before ∧ Speaks after ∨ Speaks before ∧ cased before = false ∨ cased after = true

instance (before after : List Char) : Decidable (Decided before after) := inferInstanceAs (Decidable (_ ∨ _))

theorem Decided.lowerSigma_append {before after : List Char} (decided : Decided before after) (front back : List Char) :
    lowerSigma (before ++ front) (after ++ back) = lowerSigma before after := by
  rcases decided with ⟨speaksBefore, speaksAfter⟩ | ⟨speaks, notCased⟩ | isCased
  · rw [lowerSigma, cased_append_of_speaks speaksBefore, cased_append_of_speaks speaksAfter, lowerSigma]
  · rw [lowerSigma, cased_append_of_speaks speaks, lowerSigma, notCased, Bool.false_and, Bool.false_and]
  · rw [lowerSigma, cased_append_of_speaks (speaks_of_cased isCased), lowerSigma, isCased, Bool.not_true,
      Bool.and_false, Bool.and_false]

/-! ## Texts that are lower-cased alike everywhere -/

def SettledAfter (before : List Char) : List Char → Prop
  | [] => True
  | c :: after => (c = capitalSigma → Decided before after) ∧ SettledAfter (c :: before) after

instance instDecidableSettledAfter : (before text : List Char) → Decidable (SettledAfter before text)
  | _, [] => inferInstanceAs (Decidable True)
  | before, c :: after =>
    have := instDecidableSettledAfter (c :: before) after
    inferInstanceAs (Decidable (_ ∧ _))

def Settled (text : List Char) : Prop := SettledAfter [] text

instance (text : List Char) : Decidable (Settled text) := instDecidableSettledAfter [] text

theorem SettledAfter.lowerWithin_eq {before text : List Char} (settled : SettledAfter before text)
    (front back : List Char) : lowerWithin (before ++ front) text back = lowerAfter before text := by
  induction text generalizing before with
  | nil => rfl
  | cons c text inductionHypothesis =>
    obtain ⟨decided, settled⟩ := settled
    have rest := inductionHypothesis settled
    rw [List.cons_append] at rest
    rw [lowerWithin, lowerAfter, rest]
    by_cases sigma : c = capitalSigma
    · rw [if_pos sigma, if_pos sigma, (decided sigma).lowerSigma_append]
    · rw [if_neg sigma, if_neg sigma]

/-- A settled text is found in lower case wherever it stands. -/
theorem Settled.infix_lowerAfter {needle title : List Char} (settled : Settled needle) (within : needle <:+: title) :
    lowerAfter [] needle <:+: lowerAfter [] title := by
  obtain ⟨front, back, rfl⟩ := within
  have middle : lowerWithin ([] ++ front.reverse) needle back = lowerAfter [] needle := settled.lowerWithin_eq _ _
  rw [List.nil_append] at middle
  rw [List.append_assoc, lowerAfter_append, List.append_nil, lowerAfter_append, middle]
  exact ⟨_, _, (List.append_assoc _ _ _)⟩

/-! ## Texts that are not -/

theorem exists_undecided {before text : List Char} (unsettled : ¬SettledAfter before text) :
    ∃ front back, text = front ++ capitalSigma :: back ∧ ¬Decided (front.reverse ++ before) back := by
  induction text generalizing before with
  | nil => exact absurd trivial unsettled
  | cons c text inductionHypothesis =>
    rw [SettledAfter, Classical.not_and_iff_not_or_not] at unsettled
    rcases unsettled with undecided | unsettled
    · obtain ⟨sigma, undecided⟩ := Classical.not_imp.mp undecided
      exact ⟨[], text, congrArg (· :: text) sigma, undecided⟩
    · obtain ⟨front, back, rfl, undecided⟩ := inductionHypothesis unsettled
      refine ⟨c :: front, back, rfl, ?_⟩
      rwa [List.reverse_cons, List.append_assoc, List.singleton_append]

/-- Nothing is looked at behind a character that is not ignorable. -/
theorem lowerAfter_of_speaks {before : List Char} (speaks : Speaks before) (front text : List Char) :
    lowerAfter (before ++ front) text = lowerAfter before text := by
  induction text generalizing before with
  | nil => rfl
  | cons c text inductionHypothesis =>
    have more : Speaks (c :: before) := by
      obtain ⟨other, among, notIgnorable⟩ := speaks
      exact ⟨other, List.mem_cons_of_mem c among, notIgnorable⟩
    have rest := inductionHypothesis more
    rw [List.cons_append] at rest
    rw [lowerAfter, lowerAfter, rest, lowerSigma, lowerSigma, cased_append_of_speaks speaks]

theorem lowerWithin_of_speaks {after : List Char} (speaks : Speaks after) (before text back : List Char) :
    lowerWithin before text (after ++ back) = lowerWithin before text after := by
  induction text generalizing before with
  | nil => rfl
  | cons c text inductionHypothesis =>
    have more : Speaks (text ++ after) := by
      obtain ⟨other, among, notIgnorable⟩ := speaks
      exact ⟨other, List.mem_append_right text among, notIgnorable⟩
    rw [lowerWithin, lowerWithin, inductionHypothesis, ← List.append_assoc, lowerSigma, lowerSigma,
      cased_append_of_speaks more]

/-- Without a sigma the neighbours of a text make no difference. -/
theorem lowerWithin_of_not_speaks {text : List Char} (silent : ¬Speaks text) (before after : List Char) :
    lowerWithin before text after = text.flatMap lowerChar := by
  induction text generalizing before with
  | nil => rfl
  | cons c text inductionHypothesis =>
    obtain ⟨ignorable, silent⟩ := not_speaks_cons.mp silent
    have notSigma : c ≠ capitalSigma := by
      rintro rfl
      rw [isIgnorable_capitalSigma] at ignorable
      cases ignorable
    rw [lowerWithin, if_neg notSigma, inductionHypothesis silent, List.flatMap_cons]

theorem not_infix_of_count_lt {needle title : List Char} {c : Char} (fewer : title.count c < needle.count c) :
    ¬needle <:+: title := by
  intro within
  exact absurd (within.sublist.count_le c) (Nat.not_le.mpr fewer)

/-- A letter before a sigma with nothing but ignorable characters in between makes it final. -/
theorem not_infix_of_letterBefore {front back : List Char} (silent : ¬Speaks front) (notCased : cased back = false) :
    ¬lowerAfter [] (front ++ capitalSigma :: back) <:+: lowerAfter [] ('A' :: (front ++ capitalSigma :: back)) := by
  have silentBefore : ¬Speaks front.reverse := mt speaks_reverse.mp silent
  have alone : lowerAfter [] (front ++ capitalSigma :: back)
      = front.flatMap lowerChar ++ smallSigma :: lowerAfter (capitalSigma :: front.reverse) back := by
    rw [lowerAfter_append, lowerWithin_of_not_speaks silent, lowerAfter, if_pos rfl, List.append_nil, lowerSigma,
      cased_of_not_speaks silentBefore]
    rfl
  have behind : lowerAfter ['A'] (front ++ capitalSigma :: back)
      = front.flatMap lowerChar ++ finalSigma :: lowerAfter (capitalSigma :: front.reverse) back := by
    have letter : cased (front.reverse ++ ['A']) = true := by
      rw [cased_append_of_not_speaks silentBefore]
      decide +kernel
    have rest : lowerAfter (capitalSigma :: (front.reverse ++ ['A'])) back
        = lowerAfter (capitalSigma :: front.reverse) back :=
      lowerAfter_of_speaks (speaks_of_mem_capitalSigma List.mem_cons_self) ['A'] back
    rw [lowerAfter_append, lowerWithin_of_not_speaks silent, lowerAfter, if_pos rfl, lowerSigma, letter, notCased, rest]
    rfl
  have first : lowerAfter [] ('A' :: (front ++ capitalSigma :: back))
      = 'a' :: lowerAfter ['A'] (front ++ capitalSigma :: back) := rfl
  -- The text has one sigma that is not final less than the needle.
  apply not_infix_of_count_lt (c := smallSigma)
  rw [first, alone, behind]
  have notLetter : ('a' == smallSigma) = false := by decide
  have notFinal : (finalSigma == smallSigma) = false := by decide
  simp only [List.count_cons, List.count_append, notLetter, notFinal, beq_self_eq_true]
  simp

/-- A letter after a sigma that was final, with nothing but ignorable characters in between, makes it one that is
not. -/
theorem not_infix_of_letterAfter {front back : List Char} (isCased : cased front.reverse = true)
    (silent : ¬Speaks back) :
    ¬lowerAfter [] (front ++ capitalSigma :: back) <:+: lowerAfter [] (front ++ capitalSigma :: (back ++ ['A'])) := by
  have speaks : Speaks (capitalSigma :: back) := speaks_of_mem_capitalSigma List.mem_cons_self
  have alone : lowerAfter [] (front ++ capitalSigma :: back)
      = lowerWithin [] front (capitalSigma :: back) ++ finalSigma :: back.flatMap lowerChar := by
    rw [lowerAfter_append, lowerAfter, if_pos rfl, List.append_nil, lowerSigma, isCased, cased_of_not_speaks silent,
      ← lowerWithin_nil, lowerWithin_of_not_speaks silent]
    rfl
  have followed : lowerAfter [] (front ++ capitalSigma :: (back ++ ['A']))
      = lowerWithin [] front (capitalSigma :: back) ++ smallSigma :: (back.flatMap lowerChar ++ ['a']) := by
    have same : lowerWithin [] front (capitalSigma :: (back ++ ['A'])) = lowerWithin [] front (capitalSigma :: back) :=
      lowerWithin_of_speaks speaks [] front ['A']
    have letter : cased (back ++ ['A']) = true := by
      rw [cased_append_of_not_speaks silent]
      decide +kernel
    rw [lowerAfter_append, same, lowerAfter, if_pos rfl, List.append_nil, lowerSigma, isCased, letter,
      lowerAfter_append, lowerWithin_of_not_speaks silent]
    rfl
  -- The text has one final sigma less than the needle.
  apply not_infix_of_count_lt (c := finalSigma)
  rw [alone, followed]
  have notLetter : ('a' == finalSigma) = false := by decide
  have notFinal : (smallSigma == finalSigma) = false := by decide
  simp only [List.count_cons, List.count_append, notLetter, notFinal, beq_self_eq_true]
  simp

/-- The texts that are found in lower case wherever they stand are those in which every sigma is decided. -/
theorem settled_iff {needle : List Char} :
    Settled needle ↔ ∀ title, needle <:+: title → lowerAfter [] needle <:+: lowerAfter [] title := by
  constructor
  · intro settled title within
    exact settled.infix_lowerAfter within
  · intro found
    by_contra unsettled
    obtain ⟨front, back, rfl, undecided⟩ := exists_undecided unsettled
    rw [List.append_nil, Decided, speaks_reverse, not_or, not_or, Bool.not_eq_true] at undecided
    obtain ⟨notBoth, notBefore, notAfter⟩ := undecided
    by_cases speaks : Speaks front
    · have silent : ¬Speaks back := fun alsoSpeaks => notBoth ⟨speaks, alsoSpeaks⟩
      have isCased : cased front.reverse = true := by
        rw [← Bool.not_eq_false]
        exact fun notCased => notBefore ⟨speaks, notCased⟩
      refine not_infix_of_letterAfter isCased silent (found _ ⟨[], ['A'], ?_⟩)
      simp
    · refine not_infix_of_letterBefore speaks notAfter (found _ ⟨['A'], [], ?_⟩)
      simp

end Gazette.Case
