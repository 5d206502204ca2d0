import Gazette.Proofs.Store.Run

/-!
# New articles

* `StoreKind.Adds`: an article is refused and nothing changes, or it is added and all else stays.
* `adds_iff`: so it is in whatever state a new store came to, unless the store is in memory and the identifier taken.
* `displaced_of_taken`: there an article takes the place of the one that had its identifier.
-/

namespace Gazette

open Database (Tables ArticleRow AuthorRow idCell)

namespace StoreKind

variable {kind : StoreKind} {store : kind.State} {world : Surroundings} {draft : Draft} {now : Timestamp}

/-! ## Tables that stay -/

def Complete : (kind : StoreKind) → kind.State → Prop
  | memory, _ => True
  | database, tables => ∃ authors articles, tables = ⟨some authors, some articles⟩

theorem complete_new (kind : StoreKind) : kind.Complete kind.new := by
  cases kind with
  | memory => exact trivial
  | database => exact ⟨[], [], rfl⟩

theorem complete_meet {demand : Demand} (complete : kind.Complete store) :
    kind.Complete (kind.meet world store demand).2 := by
  cases kind with
  | memory => exact trivial
  | database =>
    obtain ⟨authors, articles, rfl⟩ := complete
    cases demand with
    | addAuthor author =>
      rcases Tables.addAuthor_eq author ⟨some authors, some articles⟩ with same | ⟨_, _, added⟩
      · exact ⟨_, _, same⟩
      · exact ⟨_, _, added⟩
    | request request =>
      -- Every change puts tables in the place of tables.
      by_cases reading : request.isReading
      · exact ⟨_, _, state_of_isReading reading⟩
      · cases request with
        | insert draft =>
          rcases Tables.insert_eq world draft ⟨some authors, some articles⟩ with same | ⟨_, _, _, _, added⟩
          · exact ⟨_, _, same⟩
          · exact ⟨_, _, added⟩
        | update revision =>
          rcases Tables.update_state world revision ⟨some authors, some articles⟩ with same | ⟨_, _, _, changed⟩
          · exact ⟨_, _, same⟩
          · exact ⟨_, _, changed⟩
        | delete id =>
          rcases Tables.delete_eq id ⟨some authors, some articles⟩ with same | ⟨_, _, _, _, left⟩
          · exact ⟨_, _, same⟩
          · exact ⟨_, _, congrArg Prod.snd left⟩
        | _ => exact absurd rfl reading

theorem complete_run (demands : List (Surroundings × Demand)) (complete : kind.Complete store) :
    kind.Complete (kind.run demands store) := by
  induction demands generalizing store with
  | nil => exact complete
  | cons first demands inductionHypothesis => exact inductionHypothesis (complete_meet complete)

theorem keyed_meet {demand : Demand} (keyed : kind.Keyed store) : kind.Keyed (kind.meet world store demand).2 := by
  cases demand with
  | addAuthor author => exact keyed_addAuthor keyed
  | request request => exact keyed_backend keyed

theorem keyed_run (demands : List (Surroundings × Demand)) (keyed : kind.Keyed store) :
    kind.Keyed (kind.run demands store) := by
  induction demands generalizing store with
  | nil => exact keyed
  | cons first demands inductionHypothesis => exact inductionHypothesis (keyed_meet keyed)

theorem count_of_complete (complete : kind.Complete store) (world : Surroundings) :
    (kind.backend world .count store).1 = .ok (.ok (kind.rows store).length.toUInt64) := by
  cases kind with
  | memory => rfl
  | database =>
    obtain ⟨authors, articles, rfl⟩ := complete
    rfl

/-! ## Adding an article -/

/-- What may become of a draft: its identifier is taken, its author unknown, or it is an article after all others. -/
inductive Adds (kind : StoreKind) (id : Uuid) (draft : Draft) (now : Timestamp) (store : kind.State) :
    Except StoreError Article → kind.State → Prop
  | taken (there : kind.holds id store = true) :
    Adds kind id draft now store (.error (.alreadyExists "Article" id.toText)) store
  | unknown (reason : String) (new : kind.holds id store = false) (nobody : kind.knows draft.authorId store = false) :
    Adds kind id draft now store (.error (.invalidData reason)) store
  | added {after : kind.State} (new : kind.holds id store = false) (known : kind.knows draft.authorId store = true)
    (rows : kind.rows after = kind.rows store ++ [kind.row (draft.toArticle id now)])
    (authors : kind.authorRows after = kind.authorRows store)
    (counts : ∀ world, ∃ count : UInt64, (kind.backend world .count store).1 = .ok (.ok count) ∧
      (kind.backend world .count after).1 = .ok (.ok (count + 1))) :
    Adds kind id draft now store (.ok (draft.toArticle id now)) after

/-- Whatever else the reply is, the identifier is not taken. -/
theorem Adds.new_of_ne {id : Uuid} {reply : Except StoreError Article} {after : kind.State}
    (adds : kind.Adds id draft now store reply after)
    (other : reply ≠ .error (.alreadyExists "Article" id.toText)) : kind.holds id store = false := by
  cases adds with
  | taken there => exact absurd rfl other
  | unknown _ new _ => exact new
  | added new _ _ _ _ => exact new

/-- One row more is counted as one more. -/
theorem counts_of_rows {after : kind.State} {row : kind.Row} (complete : kind.Complete store)
    (completeAfter : kind.Complete after) (rows : kind.rows after = kind.rows store ++ [row]) (world : Surroundings) :
    ∃ count : UInt64, (kind.backend world .count store).1 = .ok (.ok count) ∧
      (kind.backend world .count after).1 = .ok (.ok (count + 1)) := by
  refine ⟨_, count_of_complete complete world, ?_⟩
  rw [count_of_complete completeAfter, rows, List.length_append, List.length_singleton]
  exact congrArg (fun count => Except.ok (Except.ok count)) (UInt64.ofNat_add _ 1)

theorem adds_database {tables : Tables} (draft : Draft) (complete : database.Complete tables)
    (readable : world.clock.timestamp = .ok now) : ∃ reply after, tables.insert world draft = (.ok reply, after) ∧
      database.Adds (.random world.random) draft now tables reply after := by
  obtain ⟨authors, articles, rfl⟩ := complete
  rw [Tables.insert_of_there draft rfl rfl readable]
  split
  · rename_i there
    exact ⟨_, _, rfl, .taken there⟩
  · rename_i new
    rw [Bool.not_eq_true] at new
    split
    · rename_i known
      exact ⟨_, _, rfl, .added new known rfl rfl (counts_of_rows ⟨_, _, rfl⟩ ⟨_, _, rfl⟩ rfl)⟩
    · rename_i nobody
      rw [Bool.not_eq_true] at nobody
      exact ⟨_, _, rfl, .unknown _ new nobody⟩

/-- A store in memory looks at the author only. -/
theorem adds_memory (store : MemoryStore) (draft : Draft) (readable : world.clock.timestamp = .ok now) :
    ∃ reply after, store.insert world draft = (.ok reply, after) ∧
      (memory.Adds (.random world.random) draft now store reply after ↔
        memory.holds (.random world.random) store = false) := by
  cases known : store.author? draft.authorId with
  | none =>
    have nobody : memory.knows draft.authorId store = false := congrArg Option.isSome known
    exact ⟨_, _, MemoryStore.insert_of_unknown world known, fun adds => adds.new_of_ne nofun,
      fun new => .unknown _ new nobody⟩
  | some author =>
    have knows : memory.knows draft.authorId store = true := congrArg Option.isSome known
    obtain ⟨timed, inserted⟩ := MemoryStore.insert_of_known known readable
    refine ⟨_, _, inserted, fun adds => adds.new_of_ne nofun, ?_⟩
    intro new
    have absent : store.article? (.random world.random) = none := by
      simpa [holds, Option.isSome_eq_false_iff] using new
    have rows : memory.rows (store.put (draft.toArticle (.random world.random) now) timed)
        = memory.rows store ++ [draft.toArticle (.random world.random) now] :=
      MemoryStore.articles_put_of_absent timed absent
    exact .added new knows rows (MemoryStore.authors_put store _ timed) (counts_of_rows trivial trivial rows)

end StoreKind

variable {kind : StoreKind} {world : Surroundings} {draft : Draft} {now : Timestamp}

/-- An article with an identifier that is taken in memory takes the place of the article that had it. -/
theorem MemoryStore.displaced_of_taken {store : MemoryStore} {author : Author} {old : Article}
    (known : store.author? draft.authorId = some author) (readable : world.clock.timestamp = .ok now)
    (taken : store.article? (.random world.random) = some old) :
    ∃ article, (store.insert world draft).1 = .ok (.ok article) ∧
      (store.insert world draft).2.articles = replaceIn article store.articles := by
  obtain ⟨timed, inserted⟩ := insert_of_known known readable
  rw [inserted]
  exact ⟨draft.toArticle (.random world.random) now, rfl, articles_put_of_there timed taken⟩

/-- Whatever a new store came to, a draft destroys nothing, unless the store is in memory and the identifier taken. -/
theorem adds_iff (demands : List (Surroundings × Demand)) (draft : Draft)
    (readable : world.clock.timestamp = .ok now) :
    ∃ reply after, kind.backend world (.insert draft) (kind.run demands kind.new) = (.ok reply, after) ∧
      (kind.Adds (.random world.random) draft now (kind.run demands kind.new) reply after ↔
        (kind = .memory → kind.holds (.random world.random) (kind.run demands kind.new) = false)) := by
  cases kind with
  | memory =>
    obtain ⟨reply, after, inserted, adds⟩ := StoreKind.adds_memory _ draft readable
    exact ⟨reply, after, inserted, adds.trans (by simp)⟩
  | database =>
    have complete := StoreKind.complete_run demands (StoreKind.complete_new .database)
    obtain ⟨reply, after, inserted, adds⟩ := StoreKind.adds_database draft complete readable
    exact ⟨reply, after, inserted, iff_of_true adds nofun⟩

def halfPastTen : Timestamp := (Timestamp.ofParts? 1718447400 0).get rfl

/-- It is half past ten, and the random bits are those of 7. -/
def aMorningInJune : Surroundings := ⟨⟨1718447400000000000⟩, 7⟩

def aNote : List (Surroundings × Demand) :=
  [(aMorningInJune, .addAuthor ⟨⟨1⟩, "Ada", "Lovelace"⟩),
    (aMorningInJune, .request (.insert ⟨⟨1⟩, "Notes", "On the engine", none, "science"⟩))]

def anotherNote : Draft := ⟨⟨1⟩, "More notes", "On its cards", none, "science"⟩

theorem adds_iff_anotherNote : aMorningInJune.clock.timestamp = .ok halfPastTen ∧
    let store := StoreKind.database.run aNote StoreKind.database.new
    ∃ reply after, StoreKind.database.backend aMorningInJune (.insert anotherNote) store = (.ok reply, after) ∧
      (StoreKind.database.Adds (.random 7) anotherNote halfPastTen store reply after ↔
        (StoreKind.database = .memory → StoreKind.database.holds (.random 7) store = false)) := by
  have readable : aMorningInJune.clock.timestamp = .ok halfPastTen := rfl
  exact ⟨readable, adds_iff aNote anotherNote readable⟩

/-- In memory the first article is lost, and the second is answered. -/
theorem lost_aNote :
    let store := StoreKind.memory.run aNote StoreKind.memory.new
    let article := anotherNote.toArticle (.random 7) halfPastTen
    ∃ after, aMorningInJune.clock.timestamp = .ok halfPastTen ∧
      StoreKind.memory.backend aMorningInJune (.insert anotherNote) store = (.ok (.ok article), after) ∧
      ¬StoreKind.memory.Adds (.random 7) anotherNote halfPastTen store (.ok article) after ∧
      StoreKind.memory.articleCount store = 1 ∧ StoreKind.memory.rows after = [article] ∧
      article ∉ StoreKind.memory.rows store := by
  intro store article
  have taken : StoreKind.memory.holds (.random 7) store = true := rfl
  refine ⟨_, rfl, rfl, ?_, rfl, rfl, by decide⟩
  intro adds
  exact absurd taken (Bool.eq_false_iff.mp (adds.new_of_ne nofun))

end Gazette
