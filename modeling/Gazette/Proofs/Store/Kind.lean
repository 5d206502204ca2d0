import Gazette.Proofs.Database.Tables
import Gazette.Proofs.Store.Memory

/-!
# The two kinds of stores

`StoreKind` names the store in memory and the store in a database, so that what holds of both is stated once. What is
found in a store stays after each change that is not meant for it.
-/

namespace Gazette

open Database (Tables)

def StoreRequest.isReading : StoreRequest → Bool
  | .insert _ => false
  | .update _ => false
  | .delete _ => false
  | _ => true

inductive StoreKind
  | memory
  | database
  deriving DecidableEq, Repr

namespace StoreKind

abbrev State : StoreKind → Type
  | memory => MemoryStore
  | database => Tables

def backend : (kind : StoreKind) → StoreBackend kind.State
  | memory => MemoryStore.backend
  | database => Tables.backend

def addAuthor : (kind : StoreKind) → Author → kind.State → Except StoreError Unit × kind.State
  | memory => MemoryStore.insertAuthor
  | database => Tables.addAuthor

def new : (kind : StoreKind) → kind.State
  | memory => MemoryStore.empty
  | database => Tables.empty.create

def find : (kind : StoreKind) → Uuid → kind.State → Except StoreError (Option BylinedArticle)
  | memory, id, store => .ok (store.bylined? id)
  | database, id, tables => (tables.get id).mapError (Database.articleError (some id))

def holds : (kind : StoreKind) → Uuid → kind.State → Bool
  | memory, id, store => (store.article? id).isSome
  | database, id, tables => (tables.articles.getD []).any (Tables.isOf id)

def Keyed : (kind : StoreKind) → kind.State → Prop
  | memory => MemoryStore.Keyed
  | database => Tables.Keyed

variable {kind : StoreKind} {store : kind.State} {id : Uuid} {found : BylinedArticle} {world : Surroundings}

theorem keyed_new (kind : StoreKind) : kind.Keyed kind.new := by
  cases kind with
  | memory => exact MemoryStore.keyed_empty
  | database => exact Tables.keyed_create_empty

theorem find_database {tables : Tables} :
    find .database id tables = .ok (some found) ↔ tables.get id = .ok (some found) := by
  simp only [find]
  cases tables.get id <;> simp

theorem find_memory {store : MemoryStore} :
    find .memory id store = .ok (some found) ↔ store.bylined? id = some found := by
  simp [find]

/-! ## Reading -/

@[simp] theorem backend_get (kind : StoreKind) (world : Surroundings) (id : Uuid) (store : kind.State) :
    kind.backend world (.get id) store = (.ok (kind.find id store), store) := by
  cases kind <;> rfl

theorem id_of_find (there : kind.find id store = .ok (some found)) : found.id = id := by
  cases kind with
  | memory => exact MemoryStore.id_of_bylined? (find_memory.mp there)
  | database => exact Tables.id_of_get (find_database.mp there)

theorem leapsEndMinutes_of_find (there : kind.find id store = .ok (some found)) : found.LeapsEndMinutes := by
  cases kind with
  | memory => exact MemoryStore.leapsEndMinutes_of_bylined? (find_memory.mp there)
  | database => exact Tables.leapsEndMinutes_of_get (find_database.mp there)

theorem state_of_isReading {request : StoreRequest} (reading : request.isReading) :
    (kind.backend world request store).2 = store := by
  cases kind <;> cases request <;> first | rfl | cases reading

theorem backend_of_isReading (world : Surroundings) {request : StoreRequest} (reading : request.isReading)
    (store : kind.State) : kind.backend world request store = ((kind.backend world request store).1, store) :=
  Prod.ext rfl (state_of_isReading reading)

/-! ## Changes -/

theorem find_addAuthor {author : Author} (there : kind.find id store = .ok (some found)) :
    kind.find id (kind.addAuthor author store).2 = .ok (some found) := by
  cases kind with
  | memory => exact find_memory.mpr (MemoryStore.bylined?_insertAuthor (find_memory.mp there))
  | database => exact find_database.mpr (Tables.get_addAuthor (find_database.mp there))

/-- A store in memory has to be given a new identifier. A database refuses one that is taken. -/
theorem find_insert {draft : Draft} (fresh : kind = .memory → kind.holds (.random world.random) store = false)
    (there : kind.find id store = .ok (some found)) :
    kind.find id (kind.backend world (.insert draft) store).2 = .ok (some found) := by
  cases kind with
  | memory =>
    have fresh := fresh rfl
    simp only [holds, Option.isSome_eq_false_iff, Option.isNone_iff_eq_none] at fresh
    exact find_memory.mpr (MemoryStore.bylined?_insert fresh (find_memory.mp there))
  | database => exact find_database.mpr (Tables.get_insert (find_database.mp there))

theorem find_update {revision : Revision} (other : id ≠ revision.id) (there : kind.find id store = .ok (some found)) :
    kind.find id (kind.backend world (.update revision) store).2 = .ok (some found) := by
  cases kind with
  | memory => exact find_memory.mpr (MemoryStore.bylined?_update other (find_memory.mp there))
  | database => exact find_database.mpr (Tables.get_update other (find_database.mp there))

theorem find_delete {other : Uuid} (apart : id ≠ other) (there : kind.find id store = .ok (some found)) :
    kind.find id (kind.backend world (.delete other) store).2 = .ok (some found) := by
  cases kind with
  | memory => exact find_memory.mpr (MemoryStore.bylined?_delete apart (find_memory.mp there))
  | database => exact find_database.mpr (Tables.get_delete apart (find_database.mp there))

theorem keyed_addAuthor {author : Author} (keyed : kind.Keyed store) : kind.Keyed (kind.addAuthor author store).2 := by
  cases kind with
  | memory => exact MemoryStore.keyed_insertAuthor keyed
  | database => exact Tables.keyed_addAuthor keyed

theorem keyed_backend {request : StoreRequest} (keyed : kind.Keyed store) :
    kind.Keyed (kind.backend world request store).2 := by
  by_cases reading : request.isReading
  · rw [state_of_isReading reading]
    exact keyed
  · cases request with
    | insert draft =>
      cases kind with
      | memory => exact MemoryStore.keyed_insert keyed
      | database => exact Tables.keyed_insert keyed
    | update revision =>
      cases kind with
      | memory => exact MemoryStore.keyed_update keyed
      | database => exact Tables.keyed_update keyed
    | delete id =>
      cases kind with
      | memory => exact MemoryStore.keyed_delete keyed
      | database => exact Tables.keyed_delete keyed
    | _ => exact absurd rfl reading

/-! ## Answers -/

/-- An article that can be found is answered when it is revised. -/
theorem exists_of_update {revision : Revision} (inRange : world.clock.InRange)
    (there : kind.find revision.id store = .ok (some found)) :
    ∃ article, (kind.backend world (.update revision) store).1 = .ok (.ok (some article)) := by
  cases kind with
  | memory => exact MemoryStore.exists_of_update inRange (find_memory.mp there)
  | database => exact Tables.exists_of_update inRange (find_database.mp there)

theorem id_of_update {revision : Revision} {article : Article}
    (updated : (kind.backend world (.update revision) store).1 = .ok (.ok (some article))) :
    article.id = revision.id := by
  cases kind with
  | memory => exact MemoryStore.id_of_update updated
  | database => exact Tables.id_of_update updated

theorem count_delete (keyed : kind.Keyed store) (there : kind.find id store = .ok (some found)) :
    (kind.backend world (.delete id) store).1 = .ok (.ok 1) := by
  cases kind with
  | memory =>
    have count := MemoryStore.count_delete (find_memory.mp there)
    show Except.ok (Except.ok (MemoryStore.delete id store).1) = _
    rw [count]
  | database =>
    have count := Tables.count_delete keyed (find_database.mp there)
    show Except.ok (Tables.delete id store).1 = _
    rw [count]

/-- An article that could be found is found as it was answered when it was revised, with the byline that it had. -/
theorem find_of_update {revision : Revision} {article : Article}
    (there : kind.find revision.id store = .ok (some found))
    (updated : (kind.backend world (.update revision) store).1 = .ok (.ok (some article))) :
    kind.find revision.id (kind.backend world (.update revision) store).2
      = .ok (some (article.withByline found.author)) := by
  cases kind with
  | memory => exact find_memory.mpr (MemoryStore.bylined?_of_update (find_memory.mp there) updated)
  | database => exact find_database.mpr (Tables.get_of_update (find_database.mp there) updated)

theorem find_of_delete (there : kind.find id store = .ok (some found)) :
    kind.find id (kind.backend world (.delete id) store).2 = .ok none := by
  cases kind with
  | memory =>
    have gone := MemoryStore.bylined?_of_delete (find_memory.mp there)
    show Except.ok _ = _
    exact congrArg Except.ok gone
  | database =>
    have gone := Tables.get_of_delete (find_database.mp there)
    show (Tables.get id (Tables.delete id store).2).mapError _ = _
    rw [gone]
    rfl

end StoreKind

end Gazette
