import Gazette.Proofs.Database.Needle
import Gazette.Proofs.Store.Mirror
import Gazette.Proofs.Store.Order

/-!
# Searches by title in both kinds of stores

* `Holds`: a database has the rows of the articles in a store in memory.
* `alike_searches`: the two answer all searches for a needle alike exactly if the pattern is not too long and accepts
  the titles that contain the needle when both are lower-cased. That is so if all characters are plain.
* `counts_aSchool`: letters past those of ASCII make a difference.
-/

namespace Gazette

open Database (Tables ArticleRow Pattern.Contains Pattern.accepts Pattern.containing Pattern.maxLength articleError)

/-! ## Titles -/

theorem MemoryStore.occursIn_iff {needle text : List Char} : occursIn needle text = true ↔ needle <:+: text := by
  induction text with
  | nil => rw [occursIn, List.isEmpty_iff, List.infix_nil]
  | cons c text inductionHypothesis =>
    rw [occursIn, Bool.or_eq_true, List.isPrefixOf_iff_prefix, inductionHypothesis, List.infix_cons_iff]

theorem MemoryStore.titleContains_iff {title needle : String} :
    titleContains title needle = true ↔ Case.toLower needle <:+: Case.toLower title := occursIn_iff

/-- Characters that patterns see as they are, and whose only capitals are those of ASCII. -/
def Plain (text : String) : Prop :=
  ∀ c ∈ text.toList, Case.Simple c ∧ c ≠ Database.Pattern.nul ∧ c.toNat ≠ 0xFFFE ∧ c.toNat ≠ 0xFFFF

instance (text : String) : Decidable (Plain text) := List.decidableBAll _ text.toList

namespace Plain

variable {text title needle : String}

theorem toLower (plain : Plain text) : Case.toLower text = text.toList.map Char.toLower :=
  Case.toLower_of_simple fun c among => (plain c among).1

theorem legible (plain : Plain text) : Database.Pattern.Legible text.toList := fun c among => (plain c among).2

theorem titleContains_iff (plainTitle : Plain title) (plainNeedle : Plain needle) :
    MemoryStore.titleContains title needle = true ↔ Pattern.Contains title.toList needle.toList := by
  rw [MemoryStore.titleContains_iff, plainTitle.toLower, plainNeedle.toLower,
    plainNeedle.legible.contains_iff_within plainTitle.legible]

end Plain

/-! ## Rows -/

def accepted (needle : String) (articles : List Article) : List Article :=
  articles.filter fun article => Pattern.Contains article.title.toList needle.toList

/-- Whether the database takes the pattern of a needle. Among no rows it is not looked at. -/
def Takes (needle : String) (articles : List Article) : Prop :=
  articles = [] ∨ (Utf8.encode (Pattern.containing needle)).length ≤ Pattern.maxLength

section Rows

variable {tables : Tables} {articles others : List Article} {needle : String}

theorem takes_of_perm (same : articles.Perm others) : Takes needle articles ↔ Takes needle others := by
  rw [Takes, Takes, ← List.length_eq_zero_iff, same.length_eq, List.length_eq_zero_iff]

theorem filter_ofArticle (needle : String) (articles : List Article) :
    (articles.map ArticleRow.ofArticle).filter
        (fun row => Pattern.accepts (Utf8.encode (Pattern.containing needle)) row.title.octets)
      = (accepted needle articles).map ArticleRow.ofArticle := by
  rw [List.filter_map, accepted]
  congr 2
  funext article
  rw [Bool.eq_iff_iff, decide_eq_true_eq]
  exact Database.Pattern.accepts_containing needle article.title

theorem rowsMatching_of_takes (rows : tables.articles = some (articles.map ArticleRow.ofArticle))
    (takes : Takes needle articles) :
    tables.rowsMatching (Pattern.containing needle) = .ok ((accepted needle articles).map ArticleRow.ofArticle) := by
  rw [Tables.rowsMatching, Tables.articleRows, rows]
  simp only [Fallible.ok_bind]
  rw [if_neg, filter_ofArticle]
  rcases takes with rfl | short
  · simp
  · simp [Nat.not_lt.mpr short]

theorem rowsMatching_of_not_takes (rows : tables.articles = some (articles.map ArticleRow.ofArticle))
    (refuses : ¬ Takes needle articles) :
    tables.rowsMatching (Pattern.containing needle) = .error (.failure 1 "LIKE or GLOB pattern too complex") := by
  rw [Takes, not_or, Nat.not_le] at refuses
  rw [Tables.rowsMatching, Tables.articleRows, rows]
  simp only [Fallible.ok_bind]
  rw [if_pos]
  simp [refuses]

theorem search_of_takes (rows : tables.articles = some (articles.map ArticleRow.ofArticle))
    (created : ∀ article ∈ articles, article.createdAt.Columnar)
    (updated : ∀ article ∈ articles, article.updatedAt.Columnar) (few : articles.length < 2 ^ 63)
    (takes : Takes needle articles) (offset limit : UInt64) :
    tables.search needle offset limit
      = .ok (pageOf (MemoryStore.sorted (accepted needle articles)) offset limit) := by
  have among (article : Article) (there : article ∈ accepted needle articles) : article ∈ articles :=
    List.mem_of_mem_filter there
  have fewer : (accepted needle articles).length ≤ articles.length := List.length_filter_le _ _
  have read := readRows_page (fun article there => created article (among article there))
    (fun article there => updated article (among article there)) (by omega) offset limit
  have page : tables.pageMatching (Pattern.containing needle) (Database.rowCount offset) (Database.rowCount limit)
      = .ok (((Tables.sortRows ((accepted needle articles).map ArticleRow.ofArticle)).drop
        (Database.rowCount offset)).take (Database.rowCount limit)) := by
    rw [Tables.pageMatching, Tables.articleRows, rows]
    rw [Fallible.ok_bind, rowsMatching_of_takes rows takes]
    split
    · rename_i none
      rw [none, List.take_zero]
    · rfl
  rw [Tables.search, page, Fallible.ok_bind, read]

end Rows

/-! ## Answers -/

/-- The tables have the rows of the stored articles, in whatever order. -/
structure Holds (store : MemoryStore) (tables : Tables) : Prop where
  rows : ∃ articles : List Article,
    tables.articles = some (articles.map ArticleRow.ofArticle) ∧ articles.Perm store.articles
  keyed : store.Keyed
  created : ∀ article ∈ store.articles, article.createdAt.Columnar
  updated : ∀ article ∈ store.articles, article.updatedAt.Columnar

theorem Mirrors.holds {store : MemoryStore} {tables : Tables} (mirrors : Mirrors store tables) : Holds store tables :=
  ⟨⟨store.articles, mirrors.articles, .refl _⟩, mirrors.keyed, mirrors.created, mirrors.updated⟩

namespace Holds

variable {store : MemoryStore} {tables : Tables} {needle : String}

/-- What the pattern accepts is counted. In which order the rows are kept makes no difference. -/
theorem count (holds : Holds store tables) (takes : Takes needle store.articles) (world : Surroundings) :
    (Tables.backend world (.countByTitle needle) tables).1
      = .ok (.ok (accepted needle store.articles).length.toUInt64) := by
  obtain ⟨articles, rows, same⟩ := holds.rows
  have found : (accepted needle articles).Perm (accepted needle store.articles) := same.filter _
  show Except.ok (((tables.rowsMatching _).map _).mapError _) = _
  rw [rowsMatching_of_takes rows ((takes_of_perm same).mpr takes), Except.map, List.length_map, found.length_eq]
  rfl

theorem page (holds : Holds store tables) (few : store.articles.length < 2 ^ 63) (takes : Takes needle store.articles)
    (world : Surroundings) (offset limit : UInt64) :
    (Tables.backend world (.search needle offset limit) tables).1
      = .ok (.ok (pageOf (MemoryStore.sorted (accepted needle store.articles)) offset limit)) := by
  obtain ⟨articles, rows, same⟩ := holds.rows
  have found : (accepted needle articles).Perm (accepted needle store.articles) := same.filter _
  have distinct : ((accepted needle store.articles).map Article.id).Nodup :=
    holds.keyed.sublist (List.filter_sublist.map _)
  have created (article : Article) (there : article ∈ articles) := holds.created article (same.mem_iff.mp there)
  have updated (article : Article) (there : article ∈ articles) := holds.updated article (same.mem_iff.mp there)
  show Except.ok ((tables.search needle offset limit).mapError _) = _
  rw [search_of_takes rows created updated (same.length_eq ▸ few) ((takes_of_perm same).mpr takes),
    ← MemoryStore.sorted_of_perm distinct found.symm]
  rfl

/-- A pattern that is not taken makes for an error. -/
theorem count_of_not_takes (holds : Holds store tables) (refuses : ¬ Takes needle store.articles)
    (world : Surroundings) : (Tables.backend world (.countByTitle needle) tables).1
      = .ok (.error (.queryFailed "LIKE or GLOB pattern too complex")) := by
  obtain ⟨articles, rows, same⟩ := holds.rows
  show Except.ok (((tables.rowsMatching _).map _).mapError _) = _
  rw [rowsMatching_of_not_takes rows (mt (takes_of_perm same).mp refuses)]
  rfl

theorem page_of_not_takes (holds : Holds store tables) (refuses : ¬ Takes needle store.articles)
    (world : Surroundings) (offset : UInt64) {limit : UInt64} (room : Database.rowCount limit ≠ 0) :
    (Tables.backend world (.search needle offset limit) tables).1
      = .ok (.error (.queryFailed "LIKE or GLOB pattern too complex")) := by
  obtain ⟨articles, rows, same⟩ := holds.rows
  show Except.ok ((tables.search needle offset limit).mapError _) = _
  rw [Tables.search, Tables.pageMatching, if_neg room,
    rowsMatching_of_not_takes rows (mt (takes_of_perm same).mp refuses), Tables.articleRows, rows]
  rfl

end Holds

/-! ## Agreement -/

/-- The two stores count alike the articles whose titles contain a needle, and give the same ones on every page. -/
structure AlikeByTitle (needle : String) (store : MemoryStore) (tables : Tables) : Prop where
  count : ∀ world, AlikeOutcomes (MemoryStore.backend world (.countByTitle needle) store).1
    (Tables.backend world (.countByTitle needle) tables).1
  page : ∀ world offset limit, AlikeOutcomes (MemoryStore.backend world (.search needle offset limit) store).1
    (Tables.backend world (.search needle offset limit) tables).1

def SeenAlike (needle : String) (article : Article) : Prop :=
  MemoryStore.titleContains article.title needle = true ↔ Pattern.Contains article.title.toList needle.toList

section Agreement

variable {store : MemoryStore} {tables : Tables} {needle : String}

theorem AlikeOutcomes.eq_of_answers {α : Type} {answer other : α}
    (alike : AlikeOutcomes (.ok (.ok answer)) (.ok (.ok other))) : answer = other := by
  cases alike with
  | replies alike =>
    cases alike with
    | answers answer => rfl

/-- All that is found among not too many articles is on one page if it is long enough. -/
theorem pageOf_whole {articles found : List Article} (few : articles.length < 2 ^ 63)
    (among : found.Sublist articles) :
    pageOf (MemoryStore.sorted found) 0 0x8000000000000000 = MemoryStore.sorted found := by
  apply pageOf_of_length_le
  rw [MemoryStore.length_sorted]
  exact Nat.le_of_lt (Nat.lt_of_le_of_lt among.length_le few)

theorem AlikeByTitle.takes (alike : AlikeByTitle needle store tables) (holds : Holds store tables) :
    Takes needle store.articles := by
  by_contra refuses
  have count := alike.count ⟨⟨0⟩, 0⟩
  rw [holds.count_of_not_takes refuses] at count
  cases count with
  | replies count => cases count

theorem AlikeByTitle.seenAlike (alike : AlikeByTitle needle store tables) (holds : Holds store tables)
    (few : store.articles.length < 2 ^ 63) {article : Article} (there : article ∈ store.articles) :
    SeenAlike needle article := by
  -- One page shows all that is found, and so whether the article is among it.
  have page := alike.page ⟨⟨0⟩, 0⟩ 0 0x8000000000000000
  rw [holds.page few (alike.takes holds)] at page
  have found := page.eq_of_answers
  rw [MemoryStore.matching, accepted, pageOf_whole few List.filter_sublist, pageOf_whole few List.filter_sublist]
    at found
  have among := congrArg (article ∈ ·) found
  simp only [(MemoryStore.perm_sorted _).mem_iff, List.mem_filter, there, true_and, decide_eq_true_eq] at among
  exact iff_of_eq among

theorem alikeByTitle_of_seenAlike (holds : Holds store tables) (few : store.articles.length < 2 ^ 63)
    (takes : Takes needle store.articles) (seen : ∀ article ∈ store.articles, SeenAlike needle article) :
    AlikeByTitle needle store tables := by
  have same : store.matching needle = accepted needle store.articles := by
    apply List.filter_congr
    intro article there
    rw [Bool.eq_iff_iff, decide_eq_true_eq]
    exact seen article there
  constructor
  · intro world
    rw [holds.count takes, ← same]
    exact .replies (.answers _)
  · intro world offset limit
    rw [holds.page few takes, ← same]
    exact .replies (.answers _)

end Agreement

/-- How far searches by title agree: exactly as far as all titles are seen alike, and so among plain texts. -/
theorem alike_searches {store : MemoryStore} {tables : Tables} {needle : String} (holds : Holds store tables)
    (few : store.articles.length < 2 ^ 63) :
    (AlikeByTitle needle store tables ↔
      Takes needle store.articles ∧ ∀ article ∈ store.articles, SeenAlike needle article) ∧
    (Takes needle store.articles → Plain needle → (∀ article ∈ store.articles, Plain article.title) →
      AlikeByTitle needle store tables) := by
  refine ⟨⟨?_, ?_⟩, ?_⟩
  · intro alike
    exact ⟨alike.takes holds, fun article there => alike.seenAlike holds few there⟩
  · rintro ⟨takes, seen⟩
    exact alikeByTitle_of_seenAlike holds few takes seen
  · intro takes plainNeedle plainTitles
    apply alikeByTitle_of_seenAlike holds few takes
    intro article there
    exact (plainTitles article there).titleContains_iff plainNeedle

/-- An article with a title in capitals, one of them past ASCII. -/
def aSchool : MemoryStore :=
  let created : Timestamp := ⟨1700000000, 123456000, by decide, by decide, by decide⟩
  ⟨[⟨⟨1⟩, "Ada", "Lovelace"⟩], [⟨⟨7⟩, ⟨1⟩, "ÉCOLE", "On teaching", none, "science", created, created⟩], by decide⟩

def rowsOfASchool : Tables := ⟨some (aSchool.authors.map .ofAuthor), some (aSchool.articles.map .ofArticle)⟩

theorem holds_aSchool : Holds aSchool rowsOfASchool where
  rows := ⟨aSchool.articles, rfl, .refl _⟩
  keyed := List.pairwise_singleton _ _
  created := by
    intro article there
    cases List.mem_singleton.mp there
    exact ⟨by decide, by decide, by decide, by decide⟩
  updated := by
    intro article there
    cases List.mem_singleton.mp there
    exact ⟨by decide, by decide, by decide, by decide⟩

/-- The store in memory finds the school under its name in small letters, the database does not. -/
theorem counts_aSchool :
    Holds aSchool rowsOfASchool ∧
      (MemoryStore.backend ⟨⟨0⟩, 0⟩ (.countByTitle "école") aSchool).1 = .ok (.ok 1) ∧
      (Tables.backend ⟨⟨0⟩, 0⟩ (.countByTitle "école") rowsOfASchool).1 = .ok (.ok 0) := by
  refine ⟨holds_aSchool, by decide, ?_⟩
  rw [holds_aSchool.count (.inr (by decide))]
  decide

theorem alike_searches_aSchool :
    Holds aSchool rowsOfASchool ∧ aSchool.articles.length < 2 ^ 63 ∧ AlikeByTitle "École" aSchool rowsOfASchool := by
  have few : aSchool.articles.length < 2 ^ 63 := by decide
  refine ⟨holds_aSchool, few, (alike_searches holds_aSchool few).1.mpr ⟨.inr (by decide), ?_⟩⟩
  intro article there
  cases List.mem_singleton.mp there
  unfold SeenAlike
  decide

end Gazette
