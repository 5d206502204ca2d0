import Gazette.Proofs.Store.Lists
import Gazette.Proofs.Time.Clock
import Gazette.Store.Memory

/-!
# What requests do to the store in memory

For each change of `MemoryStore`, what is found in it afterwards, and that no two articles get the same identifier.
-/

namespace Gazette

theorem map_id_replaceIn (article : Article) (articles : List Article) :
    (replaceIn article articles).map Article.id = articles.map Article.id := by
  rw [replaceIn, List.map_map]
  apply List.map_congr_left
  intro other _
  rw [Function.comp_apply]
  split
  · rename_i same
    exact same.symm
  · rfl

namespace MemoryStore

variable {store : MemoryStore} {article : Article} {author : Author} {id : Uuid} {found : BylinedArticle}
  {timed : article.LeapsEndMinutes}

def Keyed (store : MemoryStore) : Prop := (store.articles.map Article.id).Nodup

theorem keyed_empty : empty.Keyed := List.nodup_nil

/-! ## Finding -/

theorem id_of_article? (there : store.article? id = some article) : article.id = id := by
  have same := List.find?_some there
  simpa using same

theorem bylined?_eq_some : store.bylined? id = some found ↔
    ∃ article author, store.article? id = some article ∧ store.author? article.authorId = some author ∧
      article.withByline author.displayName = found := by
  simp [bylined?, Option.bind_eq_some_iff]

theorem id_of_bylined? (there : store.bylined? id = some found) : found.id = id := by
  obtain ⟨article, author, articleThere, _, rfl⟩ := bylined?_eq_some.mp there
  exact id_of_article? articleThere

/-- What is found depends on the article and on the author only. -/
theorem bylined?_of_same {after : MemoryStore} (article : after.article? id = store.article? id)
    (author : ∀ {author : Author} {authorId : Uuid}, store.author? authorId = some author →
      after.author? authorId = some author)
    (there : store.bylined? id = some found) : after.bylined? id = some found := by
  obtain ⟨row, byline, articleThere, authorThere, rfl⟩ := bylined?_eq_some.mp there
  exact bylined?_eq_some.mpr ⟨row, byline, article.trans articleThere, author authorThere, rfl⟩

theorem leapsEndMinutes_of_bylined? (there : store.bylined? id = some found) : found.LeapsEndMinutes := by
  obtain ⟨article, author, articleThere, _, rfl⟩ := bylined?_eq_some.mp there
  exact store.timed article (List.mem_of_find?_eq_some articleThere)

theorem article?_of_mem (keyed : store.Keyed) (member : article ∈ store.articles) :
    store.article? article.id = some article := find?_of_mem keyed member

/-! ## Putting articles -/

theorem articles_put_of_absent (timed : article.LeapsEndMinutes) (absent : store.article? article.id = none) :
    (store.put article timed).articles = store.articles ++ [article] := by
  rw [put, absent]
  rfl

theorem articles_put_of_there {old : Article} (timed : article.LeapsEndMinutes)
    (there : store.article? article.id = some old) :
    (store.put article timed).articles = replaceIn article store.articles := by
  rw [put, there]
  rfl

@[simp] theorem authors_put (store : MemoryStore) (article : Article) (timed : article.LeapsEndMinutes) :
    (store.put article timed).authors = store.authors := by
  simp only [put]
  split <;> rfl

@[simp] theorem author?_put (store : MemoryStore) (article : Article) (timed : article.LeapsEndMinutes) (id : Uuid) :
    (store.put article timed).author? id = store.author? id := by
  simp only [author?, authors_put]

theorem article?_put (store : MemoryStore) (article : Article) (timed : article.LeapsEndMinutes) (id : Uuid) :
    (store.put article timed).article? id = if article.id = id then some article else store.article? id := by
  simp only [put]
  split
  · rename_i there
    obtain ⟨old, oldThere⟩ := Option.isSome_iff_exists.mp there
    -- The article that gives way has the identifier of the new one, so that finding goes on as before.
    have keeps (other : Article) :
        decide ((if other.id = article.id then article else other).id = id) = decide (other.id = id) := by
      split
      · rename_i same
        rw [same]
      · rfl
    simp only [article?, replaceIn]
    rw [find?_map_of_same (fun other : Article => decide (other.id = id)) _ keeps]
    by_cases same : article.id = id
    · subst same
      have oldId := id_of_article? oldThere
      rw [article?] at oldThere
      simp [oldThere, oldId]
    · rw [if_neg same]
      cases other : store.articles.find? fun article => article.id = id with
      | none => rfl
      | some row =>
        have rowId : row.id = id := id_of_article? other
        have apart : row.id ≠ article.id := fun equal => same (equal.symm.trans rowId)
        rw [Option.map_some, if_neg apart]
  · rename_i absent
    rw [Bool.not_eq_true, Option.isSome_eq_false_iff, Option.isNone_iff_eq_none] at absent
    simp only [article?] at absent ⊢
    rw [List.find?_append]
    by_cases same : article.id = id
    · subst same
      simp [absent]
    · simp [same]

theorem bylined?_put_of_ne (other : article.id ≠ id) :
    (store.put article timed).bylined? id = store.bylined? id := by
  simp only [bylined?, article?_put, if_neg other, author?_put]

theorem bylined?_put (other : article.id ≠ id) (there : store.bylined? id = some found) :
    (store.put article timed).bylined? id = some found :=
  (bylined?_put_of_ne other).trans there

theorem mem_put {other : Article} (there : other ∈ (store.put article timed).articles) :
    other = article ∨ other ∈ store.articles := by
  simp only [put] at there
  split at there
  · obtain ⟨old, among, replaced⟩ := List.mem_map.mp there
    split at replaced
    · exact .inl replaced.symm
    · exact .inr (replaced ▸ among)
  · rcases List.mem_append.mp there with old | new
    · exact .inr old
    · exact .inl (List.mem_singleton.mp new)

theorem keyed_put (keyed : store.Keyed) : (store.put article timed).Keyed := by
  simp only [put]
  split
  · -- An article that gives way leaves its identifier to the new one.
    show ((replaceIn article store.articles).map Article.id).Nodup
    rw [map_id_replaceIn]
    exact keyed
  · rename_i absent
    have new : article.id ∉ store.articles.map Article.id := by
      intro member
      obtain ⟨other, there, same⟩ := List.mem_map.mp member
      apply absent
      rw [article?, List.find?_isSome]
      exact ⟨other, there, by simpa using same⟩
    exact nodup_map_append_singleton keyed new

/-! ## Requests -/

theorem bylined?_insertAuthor (there : store.bylined? id = some found) :
    (store.insertAuthor author).2.bylined? id = some found := by
  simp only [insertAuthor]
  split
  · exact there
  · refine bylined?_of_same (by simp only [article?]) ?_ there
    intro other otherId otherThere
    exact find?_append_of_some otherThere

theorem keyed_insertAuthor (keyed : store.Keyed) : (store.insertAuthor author).2.Keyed := by
  simp only [insertAuthor]
  split <;> exact keyed

theorem insert_of_unknown {draft : Draft} (world : Surroundings) (unknown : store.author? draft.authorId = none) :
    store.insert world draft
      = (.ok (.error (.invalidData s!"Unknown author {draft.authorId.toText} for Article")), store) := by
  rw [insert, unknown]
  rfl

theorem insert_of_unreadable {world : Surroundings} {draft : Draft} {crash : Crash}
    (known : store.author? draft.authorId = some author) (clock : world.clock.timestamp = .error crash) :
    store.insert world draft = (.error crash, store) := by
  rw [insert, if_pos (Option.isSome_of_mem known)]
  split
  · rename_i readable
    cases clock.symm.trans readable
    rfl
  · rename_i readable
    cases clock.symm.trans readable

theorem insert_of_known {world : Surroundings} {draft : Draft} {now : Timestamp}
    (known : store.author? draft.authorId = some author) (clock : world.clock.timestamp = .ok now) :
    ∃ timed, store.insert world draft = (.ok (.ok (draft.toArticle (.random world.random) now)),
      store.put (draft.toArticle (.random world.random) now) timed) := by
  refine ⟨draft.leapsEndMinutes_toArticle _ (WallClock.leapEndsMinute_of_timestamp clock), ?_⟩
  rw [insert, if_pos (Option.isSome_of_mem known)]
  split
  · rename_i readable
    cases clock.symm.trans readable
  · rename_i readable
    cases clock.symm.trans readable
    rfl

theorem insert_state (world : Surroundings) (draft : Draft) (store : MemoryStore) :
    (store.insert world draft).2 = store ∨ ∃ article, ∃ timed : article.LeapsEndMinutes,
      article.id = .random world.random ∧ (store.insert world draft).2 = store.put article timed := by
  cases known : store.author? draft.authorId with
  | none => exact .inl (congrArg Prod.snd (insert_of_unknown world known))
  | some author =>
    cases clock : world.clock.timestamp with
    | error crash => exact .inl (congrArg Prod.snd (insert_of_unreadable known clock))
    | ok now =>
      obtain ⟨timed, inserted⟩ := insert_of_known known clock
      exact .inr ⟨_, timed, rfl, congrArg Prod.snd inserted⟩

theorem bylined?_insert {world : Surroundings} {draft : Draft} (fresh : store.article? (.random world.random) = none)
    (there : store.bylined? id = some found) : (store.insert world draft).2.bylined? id = some found := by
  rcases insert_state world draft store with same | ⟨article, timed, new, added⟩
  · rw [same, there]
  · rw [added]
    refine bylined?_put ?_ there
    rintro rfl
    obtain ⟨row, _, rowThere, _, _⟩ := bylined?_eq_some.mp there
    rw [new, fresh] at rowThere
    cases rowThere

/-- An article that is answered is found, with the name of its author. -/
theorem bylined?_of_insert {world : Surroundings} {draft : Draft}
    (inserted : (store.insert world draft).1 = .ok (.ok article)) :
    ∃ author : Author, (store.insert world draft).2.bylined? article.id
      = some (article.withByline author.displayName) := by
  cases known : store.author? draft.authorId with
  | none =>
    rw [insert_of_unknown world known] at inserted
    cases inserted
  | some author =>
    cases clock : world.clock.timestamp with
    | error crash =>
      rw [insert_of_unreadable known clock] at inserted
      cases inserted
    | ok now =>
      obtain ⟨timed, added⟩ := insert_of_known known clock
      rw [added] at inserted ⊢
      cases inserted
      refine ⟨author, bylined?_eq_some.mpr ⟨_, author, ?_, ?_, rfl⟩⟩
      · exact (article?_put store _ timed _).trans (if_pos rfl)
      · exact (author?_put store _ timed _).trans known

theorem keyed_insert {world : Surroundings} {draft : Draft} (keyed : store.Keyed) :
    (store.insert world draft).2.Keyed := by
  rcases insert_state world draft store with same | ⟨article, _, _, added⟩
  · rw [same]
    exact keyed
  · rw [added]
    exact keyed_put keyed

theorem update_of_absent {world : Surroundings} {revision : Revision} (absent : store.article? revision.id = none) :
    store.update world revision = (.ok (.ok none), store) := by
  rw [update]
  split
  · rfl
  · rename_i there
    cases absent.symm.trans there

theorem update_of_unreadable {world : Surroundings} {revision : Revision} {crash : Crash}
    (there : store.article? revision.id = some article) (clock : world.clock.timestamp = .error crash) :
    store.update world revision = (.error crash, store) := by
  rw [update]
  split
  · rename_i absent
    cases there.symm.trans absent
  · split
    · rename_i readable
      cases clock.symm.trans readable
      rfl
    · rename_i readable
      cases clock.symm.trans readable

theorem update_of_there {world : Surroundings} {revision : Revision} {now : Timestamp}
    (there : store.article? revision.id = some article) (clock : world.clock.timestamp = .ok now) :
    ∃ timed, store.update world revision = (.ok (.ok (some (article.revise revision now))),
      store.put (article.revise revision now) timed) := by
  refine ⟨(leapsEndMinutes_of_article? there).revise revision (WallClock.leapEndsMinute_of_timestamp clock), ?_⟩
  rw [update]
  split
  · rename_i absent
    cases there.symm.trans absent
  · rename_i found
    cases there.symm.trans found
    split
    · rename_i readable
      cases clock.symm.trans readable
    · rename_i readable
      cases clock.symm.trans readable
      rfl

theorem update_state (world : Surroundings) (revision : Revision) (store : MemoryStore) :
    (store.update world revision).2 = store ∨ ∃ article, ∃ timed : article.LeapsEndMinutes,
      article.id = revision.id ∧ (store.update world revision).2 = store.put article timed := by
  cases there : store.article? revision.id with
  | none => exact .inl (congrArg Prod.snd (update_of_absent there))
  | some article =>
    cases clock : world.clock.timestamp with
    | error crash => exact .inl (congrArg Prod.snd (update_of_unreadable there clock))
    | ok now =>
      have meant := id_of_article? there
      obtain ⟨timed, updated⟩ := update_of_there there clock
      exact .inr ⟨_, timed, meant, congrArg Prod.snd updated⟩

theorem id_of_update {world : Surroundings} {revision : Revision}
    (updated : (store.update world revision).1 = .ok (.ok (some article))) : article.id = revision.id := by
  cases there : store.article? revision.id with
  | none =>
    rw [update_of_absent there] at updated
    cases updated
  | some old =>
    cases clock : world.clock.timestamp with
    | error crash =>
      rw [update_of_unreadable there clock] at updated
      cases updated
    | ok now =>
      have meant := id_of_article? there
      obtain ⟨timed, changed⟩ := update_of_there there clock
      rw [changed] at updated
      cases updated
      exact meant

theorem bylined?_update {world : Surroundings} {revision : Revision} (other : id ≠ revision.id)
    (there : store.bylined? id = some found) : (store.update world revision).2.bylined? id = some found := by
  rcases update_state world revision store with same | ⟨article, _, meant, changed⟩
  · rw [same, there]
  · rw [changed]
    exact bylined?_put (fun same => other (same.symm.trans meant)) there

theorem keyed_update {world : Surroundings} {revision : Revision} (keyed : store.Keyed) :
    (store.update world revision).2.Keyed := by
  rcases update_state world revision store with same | ⟨article, _, _, changed⟩
  · rw [same]
    exact keyed
  · rw [changed]
    exact keyed_put keyed

theorem exists_of_update {world : Surroundings} {revision : Revision} (inRange : world.clock.InRange)
    (there : store.bylined? revision.id = some found) :
    ∃ article, (store.update world revision).1 = .ok (.ok (some article)) := by
  obtain ⟨now, clock, _⟩ := inRange.timestamp_eq_ok
  obtain ⟨row, _, rowThere, _, _⟩ := bylined?_eq_some.mp there
  obtain ⟨_, changed⟩ := update_of_there rowThere clock
  rw [changed]
  exact ⟨_, rfl⟩

/-- An article that could be found is found as it was answered, with the byline that it had. -/
theorem bylined?_of_update {world : Surroundings} {revision : Revision}
    (there : store.bylined? revision.id = some found)
    (updated : (store.update world revision).1 = .ok (.ok (some article))) :
    (store.update world revision).2.bylined? revision.id = some (article.withByline found.author) := by
  obtain ⟨row, author, rowThere, authorThere, rfl⟩ := bylined?_eq_some.mp there
  cases clock : world.clock.timestamp with
  | error crash =>
    rw [update_of_unreadable rowThere clock] at updated
    cases updated
  | ok now =>
    have meant := id_of_article? rowThere
    obtain ⟨timed, changed⟩ := update_of_there rowThere clock
    rw [changed] at updated ⊢
    cases updated
    refine bylined?_eq_some.mpr ⟨row.revise revision now, author, ?_, ?_, rfl⟩
    · exact (article?_put store _ timed revision.id).trans (if_pos meant)
    · exact (author?_put store _ timed _).trans authorThere

theorem article?_delete {other : Uuid} (apart : id ≠ other) :
    (store.delete other).2.article? id = store.article? id := by
  simp only [delete]
  split
  · apply find?_filter_of_imp
    intro row found
    simp only [decide_eq_true_eq] at found
    simpa [found] using apart
  · rfl

theorem bylined?_delete {other : Uuid} (apart : id ≠ other) (there : store.bylined? id = some found) :
    (store.delete other).2.bylined? id = some found := by
  refine bylined?_of_same (article?_delete apart) ?_ there
  intro author authorId authorThere
  simp only [delete]
  split <;> exact authorThere

theorem keyed_delete (keyed : store.Keyed) : (store.delete id).2.Keyed := by
  simp only [delete]
  split
  · exact keyed.sublist (List.filter_sublist.map _)
  · exact keyed

theorem count_delete (there : store.bylined? id = some found) : (store.delete id).1 = 1 := by
  obtain ⟨row, _, rowThere, _, _⟩ := bylined?_eq_some.mp there
  simp [delete, rowThere]

theorem bylined?_of_delete (there : store.bylined? id = some found) : (store.delete id).2.bylined? id = none := by
  obtain ⟨row, _, rowThere, _, _⟩ := bylined?_eq_some.mp there
  have present : (store.article? id).isSome = true := Option.isSome_of_mem rowThere
  have gone : (store.delete id).2.article? id = none := by
    rw [delete, if_pos present, article?, List.find?_filter]
    simp
  rw [bylined?, gone]
  rfl

/-! ## Authors of articles -/

def Attributed (store : MemoryStore) : Prop := ∀ article ∈ store.articles, (store.author? article.authorId).isSome

theorem attributed_empty : empty.Attributed := by
  intro article there
  cases there

theorem attributed_put (attributed : store.Attributed) (timed : article.LeapsEndMinutes)
    (known : (store.author? article.authorId).isSome) :
    (store.put article timed).Attributed := by
  intro other there
  rw [author?_put]
  rcases mem_put there with rfl | old
  · exact known
  · exact attributed other old

theorem attributed_insertAuthor (attributed : store.Attributed) : (store.insertAuthor author).2.Attributed := by
  simp only [insertAuthor]
  split
  · exact attributed
  · intro article there
    obtain ⟨known, found⟩ := Option.isSome_iff_exists.mp (attributed article there)
    exact Option.isSome_of_mem (find?_append_of_some found)

theorem attributed_insert {world : Surroundings} {draft : Draft} (attributed : store.Attributed) :
    (store.insert world draft).2.Attributed := by
  cases known : store.author? draft.authorId with
  | none =>
    rw [insert_of_unknown world known]
    exact attributed
  | some author =>
    cases clock : world.clock.timestamp with
    | error crash =>
      rw [insert_of_unreadable known clock]
      exact attributed
    | ok now =>
      obtain ⟨timed, added⟩ := insert_of_known known clock
      rw [added]
      exact attributed_put attributed timed (Option.isSome_of_mem known)

theorem attributed_update {world : Surroundings} {revision : Revision} (attributed : store.Attributed) :
    (store.update world revision).2.Attributed := by
  cases there : store.article? revision.id with
  | none =>
    rw [update_of_absent there]
    exact attributed
  | some article =>
    cases clock : world.clock.timestamp with
    | error crash =>
      rw [update_of_unreadable there clock]
      exact attributed
    | ok now =>
      obtain ⟨timed, changed⟩ := update_of_there there clock
      rw [changed]
      exact attributed_put attributed timed (attributed article (List.mem_of_find?_eq_some there))

theorem attributed_delete (attributed : store.Attributed) : (store.delete id).2.Attributed := by
  simp only [delete]
  split
  · intro article there
    exact attributed article (List.mem_filter.mp there).1
  · exact attributed

/-- Whatever is asked for, articles stay with authors who are there. -/
theorem attributed_backend {world : Surroundings} {request : StoreRequest} (attributed : store.Attributed) :
    (backend world request store).2.Attributed := by
  cases request with
  | insert draft => exact attributed_insert attributed
  | update revision => exact attributed_update attributed
  | delete id => exact attributed_delete attributed
  | get id => exact attributed
  | count => exact attributed
  | list offset limit => exact attributed
  | countByTitle needle => exact attributed
  | search needle offset limit => exact attributed

/-- No request but that for a new author changes the authors. -/
theorem authors_backend (world : Surroundings) (request : StoreRequest) (store : MemoryStore) :
    (backend world request store).2.authors = store.authors := by
  cases request with
  | insert draft =>
    rcases insert_state world draft store with same | ⟨article, timed, _, added⟩
    · exact congrArg MemoryStore.authors same
    · exact (congrArg MemoryStore.authors added).trans (authors_put store article timed)
  | update revision =>
    rcases update_state world revision store with same | ⟨article, timed, _, changed⟩
    · exact congrArg MemoryStore.authors same
    · exact (congrArg MemoryStore.authors changed).trans (authors_put store article timed)
  | delete id =>
    simp only [backend, delete]
    split <;> rfl
  | get id => rfl
  | count => rfl
  | list offset limit => rfl
  | countByTitle needle => rfl
  | search needle offset limit => rfl

end MemoryStore

end Gazette
