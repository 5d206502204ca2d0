import Gazette.Proofs.Service.Paging
import Gazette.Proofs.Text.Sigma

/-!
# Titles in which a needle stands

* `StoreKind.Heeds`: a store of a kind finds a needle in a title whenever it stands there, character by character.
* `found_or_refused`: in whatever state a new store came to, a search gives the articles whose titles are heeded, and
  they are counted, unless the database refuses the pattern.
* `missed_aLesson`: sigmas may keep a store in memory from finding a needle, and a NUL a database.
-/

namespace Gazette

open Database (Pattern.Contains Pattern.nul)

/-! ## Needles that are heeded -/

/-- What keeps a needle from being missed in a title: in memory its sigmas are settled, a database sees all of the
title. -/
def StoreKind.Heeds : StoreKind → String → String → Prop
  | memory, needle, _ => Case.Settled needle.toList
  | database, _, title => Pattern.nul ∉ title.toList

theorem MemoryStore.titleContains_of_settled {needle title : String} (settled : Case.Settled needle.toList)
    (within : needle.toList <:+: title.toList) : titleContains title needle = true :=
  titleContains_iff.mpr (settled.infix_lowerAfter within)

/-- No other needles are found in every title in which they stand. -/
theorem MemoryStore.settled_iff_titleContains {needle : String} : Case.Settled needle.toList ↔
    ∀ title : String, needle.toList <:+: title.toList → titleContains title needle = true := by
  constructor
  · intro settled title within
    exact titleContains_of_settled settled within
  · intro found
    rw [Case.settled_iff]
    intro title within
    have whole : (String.ofList title).toList = title := String.toList_ofList
    have lowered := titleContains_iff.mp (found (String.ofList title) (whole.symm ▸ within))
    rwa [Case.toLower, Case.toLower, whole] at lowered

theorem Query.finds_of_heeds {kind : StoreKind} {needle : String} {article : Article}
    (heeds : kind.Heeds needle article.title) (within : needle.toList <:+: article.title.toList) :
    (titled needle).finds kind article = true := by
  cases kind with
  | memory => exact MemoryStore.titleContains_of_settled heeds within
  | database => exact decide_eq_true (Database.Pattern.contains_of_within heeds within)

/-! ## Searches -/

structure StoreKind.Searched (kind : StoreKind) (needle : String) (store : kind.State) (articles found : List Article) :
    Prop where
  shown : ∀ world, (kind.backend world (.search needle 0 0xFFFFFFFFFFFFFFFF) store).1 = .ok (.ok found)
  counted : ∀ world, ∃ count : UInt64, (kind.backend world (.countByTitle needle) store).1 = .ok (.ok count) ∧
    count.toNat = found.length
  exactly : ∀ article, article ∈ found ↔ article ∈ articles ∧ (Query.titled needle).finds kind article = true
  heeded : ∀ article ∈ articles, kind.Heeds needle article.title → needle.toList <:+: article.title.toList →
    article ∈ found

/-- The store is a database that does not take the pattern of a needle, for which it neither searches nor counts. -/
structure StoreKind.Refuses (kind : StoreKind) (needle : String) (store : kind.State) (articles : List Article) :
    Prop where
  database : kind = .database
  tooLong : ¬Takes needle articles
  shown : ∀ world, (kind.backend world (.search needle 0 0xFFFFFFFFFFFFFFFF) store).1
    = .ok (.error (.queryFailed "LIKE or GLOB pattern too complex"))
  counted : ∀ world, (kind.backend world (.countByTitle needle) store).1
    = .ok (.error (.queryFailed "LIKE or GLOB pattern too complex"))

variable {kind : StoreKind} {store : kind.State} {original : MemoryStore} {articles : List Article} {needle : String}

theorem StoreKind.Mirrored.eq_of_keeps (mirrored : kind.Mirrored original store) (keeps : kind.Keeps store articles) :
    original.articles = articles := by
  have also := mirrored.keeps
  cases kind with
  | memory => exact also.symm.trans keeps
  | database =>
    obtain ⟨rows, there, read⟩ := keeps
    obtain ⟨others, alsoThere, alsoRead⟩ := also
    cases there.symm.trans alsoThere
    cases read.symm.trans alsoRead
    rfl

theorem StoreKind.Mirrored.searched (mirrored : kind.Mirrored original store) (few : original.articles.length < 2 ^ 63)
    (takes : kind = .database → Takes needle original.articles) :
    ∃ found, kind.Searched needle store original.articles found := by
  have answers := Query.answers_titled mirrored few takes
  have fewer : (MemoryStore.sorted (original.articles.filter ((Query.titled needle).finds kind))).length < 2 ^ 63 := by
    rw [MemoryStore.length_sorted]
    exact Nat.lt_of_le_of_lt (List.length_filter_le _ _) few
  have exactly (article : Article) :
      article ∈ MemoryStore.sorted (original.articles.filter ((Query.titled needle).finds kind)) ↔
        article ∈ original.articles ∧ (Query.titled needle).finds kind article = true := by
    rw [(MemoryStore.perm_sorted _).mem_iff, List.mem_filter]
  refine ⟨_, ?_, ?_, exactly, ?_⟩
  · intro world
    have rows := answers.rows world 0 0xFFFFFFFFFFFFFFFF
    rwa [pageOf_of_length_le (Nat.le_of_lt (Nat.lt_trans fewer (by decide)))] at rows
  · intro world
    exact ⟨_, answers.count world, Query.toNat_toUInt64_of_few fewer⟩
  · intro article there heeds within
    exact (exactly article).mpr ⟨there, Query.finds_of_heeds heeds within⟩

/-- Whatever a new store came to, a search that is not refused finds a needle in the titles in which it stands, as far
as they are heeded. In memory none but settled needles are found in all of them. -/
theorem found_or_refused (reached : kind.Reached store) (keeps : kind.Keeps store articles) :
    ((∃ found, kind.Searched needle store articles found) ∨ kind.Refuses needle store articles) ∧
      (Case.Settled needle.toList ↔
        ∀ title : String, needle.toList <:+: title.toList → MemoryStore.titleContains title needle = true) := by
  refine ⟨?_, MemoryStore.settled_iff_titleContains⟩
  obtain ⟨original, mirrored⟩ := reached.exists_mirrored
  have few : original.articles.length < 2 ^ 63 := mirrored.articleCount_eq ▸ reached.few
  obtain rfl := mirrored.eq_of_keeps keeps
  by_cases takes : kind = .database → Takes needle original.articles
  · exact .inl (mirrored.searched few takes)
  · obtain ⟨rfl, refuses⟩ := Classical.not_imp.mp takes
    have holds := Mirrors.holds mirrored
    exact .inr ⟨rfl, refuses, fun world => holds.page_of_not_takes refuses world 0 (by decide),
      fun world => holds.count_of_not_takes refuses world⟩

/-- A store with an article whose title has a sigma between two letters. -/
def aLesson : MemoryStore :=
  let world : Surroundings := ⟨⟨1700000000123456789⟩, 7⟩
  let known := (StoreKind.memory.meet world StoreKind.memory.new (.addAuthor ⟨⟨1⟩, "Ada", "Lovelace"⟩)).2
  (StoreKind.memory.meet world known (.request (.insert ⟨⟨1⟩, "ΑΣΑ", "On letters", none, "science"⟩))).2

theorem reached_aLesson : StoreKind.memory.Reached aLesson :=
  .meet (.meet .new _ _ (by decide) (by decide)) _ _ (by decide) (by decide)

theorem found_or_refused_aLesson :
    StoreKind.memory.Reached aLesson ∧ StoreKind.memory.Keeps aLesson aLesson.articles ∧ Case.Settled "ΣΑ".toList ∧
      ∃ found, StoreKind.memory.Searched "ΣΑ" aLesson aLesson.articles found ∧
        ∀ article ∈ aLesson.articles, article ∈ found := by
  have settled : Case.Settled "ΣΑ".toList := by decide +kernel
  have within : ∀ article ∈ aLesson.articles, "ΣΑ".toList <:+: article.title.toList := by decide
  refine ⟨reached_aLesson, rfl, settled, ?_⟩
  have outcome : (∃ found, StoreKind.memory.Searched "ΣΑ" aLesson aLesson.articles found) ∨
      StoreKind.memory.Refuses "ΣΑ" aLesson aLesson.articles := (found_or_refused reached_aLesson rfl).1
  rcases outcome with ⟨found, searched⟩ | refuses
  · exact ⟨found, searched, fun article there => searched.heeded article there settled (within article there)⟩
  · cases refuses.database

theorem missed_aLesson :
    StoreKind.memory.Reached aLesson ∧
      (∀ article ∈ aLesson.articles, "ΑΣ".toList <:+: article.title.toList) ∧ aLesson.articles.length = 1 ∧
      (StoreKind.memory.backend ⟨⟨0⟩, 0⟩ (.search "ΑΣ" 0 0xFFFFFFFFFFFFFFFF) aLesson).1 = .ok (.ok []) ∧
      (StoreKind.memory.backend ⟨⟨0⟩, 0⟩ (.countByTitle "ΑΣ") aLesson).1 = .ok (.ok 0) ∧
      "b".toList <:+: "a\x00b".toList ∧ ¬Pattern.Contains "a\x00b".toList "b".toList := by
  refine ⟨reached_aLesson, by decide, by decide, by decide +kernel, by decide +kernel, by decide, by decide⟩

end Gazette
