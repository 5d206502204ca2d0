import Gazette.Article.Text
import Gazette.Proofs.Article.Page

/-!
# How the text of a listing ends

* `EndsWithLine`: a text ends with a line. One that has a line break ends with just one line.
* `Listing.endsWithLine_toText_iff`: below its articles, a listing ends with the line that refers the reader to the next
  page if it has more articles, and otherwise with none.
* `Listing.toText_eq_error_iff`: it has no text if there are more articles and the next page has no number.
* `Page.FollowedBy`: a number that a reader can ask for to get the rows behind a page.
* `Page.refers_to_next`: when a reader is referred to another page, and when to the one that follows.
-/

namespace Gazette

/-! ## Lines -/

/-- The text ends with this line, and there is a line break before it. -/
def EndsWithLine (text line : String) : Prop := ∃ above, text = above ++ "\n" ++ line

theorem eq_of_cons_eq_append_cons {α : Type} {mark : α} {more back rest : List α} (noMark : mark ∉ back)
    (same : mark :: back = more ++ mark :: rest) : back = rest := by
  cases more with
  | nil => exact List.tail_eq_of_cons_eq same
  | cons first more =>
    have tails : back = more ++ mark :: rest := List.tail_eq_of_cons_eq same
    rw [tails] at noMark
    exact absurd (List.mem_append_right more List.mem_cons_self) noMark

/-- What stands behind the last of some marks is the same in lists that are the same. -/
theorem eq_of_append_cons_eq {α : Type} {mark : α} {front other back rest : List α} (noMark : mark ∉ back)
    (none : mark ∉ rest) (same : front ++ mark :: back = other ++ mark :: rest) : back = rest := by
  -- One of the lists before the marks goes on where the other one ends.
  rcases List.append_eq_append_iff.mp same with ⟨more, _, split⟩ | ⟨more, _, split⟩
  · exact eq_of_cons_eq_append_cons noMark split
  · exact (eq_of_cons_eq_append_cons none split).symm

theorem endsWithLine_iff {above line other : String} (one : '\n' ∉ line.toList) (another : '\n' ∉ other.toList) :
    EndsWithLine (above ++ "\n" ++ line) other ↔ other = line := by
  constructor
  · rintro ⟨before, same⟩
    have characters := congrArg String.toList same
    simp only [String.toList_append, List.append_assoc] at characters
    exact String.toList_inj.mp (eq_of_append_cons_eq one another characters).symm
  · rintro rfl
    exact ⟨above, rfl⟩

def referral (number : Nat) : String := s!"More results on page {number}."

theorem referral_inj {number other : Nat} : referral number = referral other ↔ number = other := by
  constructor
  · intro same
    have written : toString number = toString other :=
      (String.append_right_inj _).mp ((String.append_left_inj _).mp same)
    rw [Nat.toString_eq_ofList_toDigits, Nat.toString_eq_ofList_toDigits, String.ofList_inj] at written
    -- Digits write one number only.
    have values := congrArg (fun digits => Nat.ofDigitChars 10 digits 0) written
    simpa only [Nat.ofDigitChars_toDigits (b := 10) (by decide) (by decide)] using values
  · rintro rfl
    rfl

theorem noBreak_referral (number : Nat) : '\n' ∉ (referral number).toList := by
  have digits : '\n' ∉ (toString number).toList := by
    intro among
    rw [Nat.toString_eq_ofList_toDigits, String.toList_ofList] at among
    exact absurd (Nat.isDigit_of_mem_toDigits (by decide) (by decide) among) (by decide)
  unfold referral
  rw [String.toList_append, String.toList_append, List.mem_append, List.mem_append]
  rintro ((start | among) | stop)
  · exact absurd start (by decide)
  · exact digits among
  · exact absurd stop (by decide)

theorem referral_ne_empty (number : Nat) : referral number ≠ "" := by
  intro same
  have length := congrArg String.length same
  unfold referral at length
  rw [String.length_append, String.length_append] at length
  exact absurd length (Nat.ne_of_gt (Nat.lt_add_left _ (by decide)))

/-! ## Listings -/

namespace Listing

variable {listing : Listing} {text : String}

theorem nextPageLine_of_hasMore (more : listing.hasMore = true) (few : listing.page.toNat + 1 < UInt32.size) :
    listing.nextPageLine = .ok ("\n" ++ referral (listing.page.toNat + 1)) := by
  have split : "\nMore results on page " = "\n" ++ "More results on page " := by decide
  unfold nextPageLine referral
  rw [if_pos more, if_pos few]
  show Except.ok ("\nMore results on page " ++ _ ++ _) = _
  rw [split, String.append_assoc, String.append_assoc, String.append_assoc]
  rfl

theorem nextPageLine_of_last (last : ¬listing.hasMore = true) : listing.nextPageLine = .ok "" := by
  unfold nextPageLine
  exact if_neg last

/-- The number of the largest page has no successor. -/
theorem nextPageLine_of_overflow (more : listing.hasMore = true) (many : ¬listing.page.toNat + 1 < UInt32.size) :
    listing.nextPageLine = .error .sumOverflow := by
  unfold nextPageLine
  rw [if_pos more, if_neg many]

/-- There is a line break behind every article. -/
theorem exists_join_eq {articles : List Article} (shown : articles ≠ []) :
    ∃ above, String.join (articles.map fun article => s!"\n{article.toText}\n") = above ++ "\n" := by
  obtain ⟨earlier, last, rfl⟩ := (List.eq_nil_or_concat articles).resolve_left shown
  refine ⟨String.join (earlier.map fun article => s!"\n{article.toText}\n") ++ ("\n" ++ last.toText), ?_⟩
  rw [List.concat_eq_append, List.map_append, String.join_append, List.map_singleton, String.join_cons, String.join_nil,
    String.append_empty]
  exact String.append_assoc.symm

/-- Below its articles a listing has the line that refers to the next page, or nothing. There is no text if it would
refer to a page without a number. -/
theorem toText_cases (shown : listing.articles ≠ []) :
    (listing.hasMore = true ∧ ¬listing.page.toNat + 1 < UInt32.size ∧ listing.toText = .error .sumOverflow) ∨
      ∃ above, listing.toText = .ok (above ++ "\n" ++
        if listing.hasMore then referral (listing.page.toNat + 1) else "") ∧
        (listing.hasMore = true → listing.page.toNat + 1 < UInt32.size) := by
  have some : ¬listing.articles.isEmpty = true := by simpa using shown
  unfold toText
  extract_lets page pages total
  rw [if_neg some]
  by_cases more : listing.hasMore = true
  · by_cases few : listing.page.toNat + 1 < UInt32.size
    · rw [nextPageLine_of_hasMore more few, if_pos more]
      exact .inr ⟨_, congrArg Except.ok String.append_assoc.symm, fun _ => few⟩
    · rw [nextPageLine_of_overflow more few]
      exact .inl ⟨more, few, rfl⟩
  · -- Nothing stands behind the line break of the last article.
    obtain ⟨above, lines⟩ := exists_join_eq shown
    rw [nextPageLine_of_last more, if_neg more, lines]
    exact .inr ⟨_, congrArg (Except.ok <| · ++ "") String.append_assoc.symm, fun isMore => absurd isMore more⟩

theorem toText_eq_error_iff (shown : listing.articles ≠ []) :
    listing.toText = .error .sumOverflow ↔ listing.hasMore = true ∧ listing.page = 4294967295 := by
  have bound := listing.page.toNat_lt
  have largest : ¬listing.page.toNat + 1 < UInt32.size ↔ listing.page = 4294967295 := by
    rw [← UInt32.toNat_inj]
    show ¬listing.page.toNat + 1 < 4294967296 ↔ listing.page.toNat = 4294967295
    omega
  rcases toText_cases shown with ⟨more, many, crashes⟩ | ⟨above, text, few⟩
  · exact iff_of_true crashes ⟨more, largest.mp many⟩
  · rw [text]
    exact iff_of_false nofun fun both => largest.mpr both.2 (few both.1)

theorem endsWithLine_toText_iff (shown : listing.articles ≠ []) (printed : listing.toText = .ok text) {number : Nat} :
    EndsWithLine text (referral number) ↔ listing.hasMore = true ∧ number = listing.page.toNat + 1 := by
  rcases toText_cases shown with ⟨_, _, crashes⟩ | ⟨above, same, _⟩
  · cases crashes.symm.trans printed
  · obtain rfl := Except.ok.inj (same.symm.trans printed)
    by_cases more : listing.hasMore = true
    · rw [if_pos more, endsWithLine_iff (noBreak_referral _) (noBreak_referral _), referral_inj]
      exact (and_iff_right more).symm
    · rw [if_neg more, endsWithLine_iff (by decide) (noBreak_referral _)]
      exact iff_of_false (referral_ne_empty number) fun both => more both.1

end Listing

/-! ## Pages -/

namespace Page

/-- A reader who asks for this number gets the rows behind the page: it is the next integer, and there is a page with
that number, which starts where this one ends. -/
structure FollowedBy (page : Page) (number : Nat) : Prop where
  succ : number = page.number.toNat + 1
  made : ∃ next, make number.toUInt32 page.size = .ok next ∧ next.number.toNat = number ∧
    next.offset.toNat = page.number.toNat * page.size.toNat

/-- Any page is followed by another one, as long as there is a number for that. -/
theorem followedBy_iff {page : Page} {number : Nat} :
    page.FollowedBy number ↔ number = page.number.toNat + 1 ∧ number < 2 ^ 32 := by
  constructor
  · rintro ⟨succ, next, _, numbered, _⟩
    exact ⟨succ, numbered ▸ next.number.toNat_lt⟩
  · rintro ⟨rfl, few⟩
    obtain ⟨next, made, numbered, sized⟩ := exists_make_succ page.size_ne_zero few
    refine ⟨rfl, next, made, numbered, ?_⟩
    rw [toNat_offset, numbered, sized, Nat.add_sub_cancel]

/-- A listing of articles has a text, unless there are rows beyond the page with the largest number. Below the articles,
a reader is referred to another page just if there are rows beyond this one, and then to the one that follows. -/
theorem refers_to_next (page : Page) (total : UInt64) {articles : List Article} (shown : articles ≠ []) :
    let printed := (page.listing total articles).toText
    (∀ crash, printed = .error crash ↔ crash = .sumOverflow ∧ page.number = 4294967295 ∧
        page.number.toNat * page.size.toNat < total.toNat) ∧
      ∀ text, printed = .ok text →
        ((∃ number, EndsWithLine text (referral number)) ↔ page.number.toNat * page.size.toNat < total.toNat) ∧
          ∀ number, EndsWithLine text (referral number) → page.FollowedBy number := by
  intro printed
  have overflow : printed = .error .sumOverflow ↔ page.hasMore total = true ∧ page.number = 4294967295 :=
    Listing.toText_eq_error_iff shown
  have outcomes := @Listing.toText_cases (page.listing total articles) shown
  constructor
  · intro crash
    constructor
    · intro crashes
      rcases outcomes with ⟨_, _, same⟩ | ⟨_, same, _⟩
      · obtain rfl := Except.error.inj (crashes.symm.trans same)
        obtain ⟨more, largest⟩ := overflow.mp crashes
        exact ⟨rfl, largest, hasMore_iff.mp more⟩
      · cases crashes.symm.trans same
    · rintro ⟨rfl, largest, more⟩
      exact overflow.mpr ⟨hasMore_iff.mpr more, largest⟩
  · intro text isText
    -- A text refers to at most one page, the one behind this.
    have ends (number : Nat) : EndsWithLine text (referral number) ↔
        page.number.toNat * page.size.toNat < total.toNat ∧ number = page.number.toNat + 1 := by
      rw [← hasMore_iff]
      exact Listing.endsWithLine_toText_iff shown isText
    constructor
    · constructor
      · rintro ⟨number, ending⟩
        exact ((ends number).mp ending).1
      · intro more
        exact ⟨_, (ends _).mpr ⟨more, rfl⟩⟩
    · intro number ending
      obtain ⟨more, rfl⟩ := (ends number).mp ending
      refine followedBy_iff.mpr ⟨rfl, ?_⟩
      rcases outcomes with ⟨_, _, crashes⟩ | ⟨_, _, few⟩
      · cases crashes.symm.trans isText
      · exact few (hasMore_iff.mpr more)

def aHeadline : Article :=
  let morning := (Timestamp.ofParts? 1718451000 0).get rfl
  ⟨⟨7⟩, ⟨1⟩, "Launch", "We have liftoff", none, "space", morning, morning⟩

/-- The page of ten rows with the largest number but one. -/
def theLastButOne : Page := { first with number := 4294967294, number_ne_zero := by decide }

def theVeryLast : Page := { first with number := 4294967295, number_ne_zero := by decide }

theorem refers_to_next_theLastButOne : [aHeadline] ≠ [] ∧
    ∃ text, (theLastButOne.listing 42949672951 [aHeadline]).toText = .ok text ∧
      EndsWithLine text (referral 4294967295) ∧ theLastButOne.FollowedBy 4294967295 := by
  have shown : [aHeadline] ≠ [] := List.cons_ne_nil _ _
  obtain ⟨crashes, refers⟩ := theLastButOne.refers_to_next 42949672951 shown
  cases printed : (theLastButOne.listing 42949672951 [aHeadline]).toText with
  | error crash => exact absurd ((crashes crash).mp printed).2.1 (by decide)
  | ok text =>
    obtain ⟨more, next⟩ := refers text printed
    obtain ⟨number, ends⟩ := more.mpr (by decide)
    have followed := next number ends
    obtain rfl : number = 4294967295 := followed.succ
    exact ⟨shown, text, rfl, ends, followed⟩

/-- There is one row more, and no text that refers a reader to a page, or to none. -/
theorem crashes_theVeryLast :
    theVeryLast.number.toNat * theVeryLast.size.toNat < (42949672951 : UInt64).toNat ∧
      (theVeryLast.listing 42949672951 [aHeadline]).toText = .error .sumOverflow :=
  ⟨by decide, (Listing.toText_eq_error_iff (List.cons_ne_nil _ _)).mpr ⟨rfl, rfl⟩⟩

end Page

end Gazette
