import Gazette.Cache.Lru
import Gazette.Proofs.Service.Session
import Gazette.Proofs.Store.Kind

/-!
# Turns

* A `Turn` is something done with a store and a cache at a time: an operation, whose calls have their fates, a new
  author, or a change of the store by others.
* `Turn.play` does it through the cache, `Turn.direct` on the store alone. `play` and `direct` do one turn after
  another.
* `FromStore`: a run that gives what the store gives alone and leaves the cache alone, as that of a listing does.
-/

namespace Gazette

/-! ## Operations on a store alone -/

def orNotFound {α : Type} (id : Uuid) : Option α → Except StoreError α
  | some a => .ok a
  | none => .error (.articleNotFound id)

namespace Operation

variable {σ : Type}

def listing (page : Page) (rows : σ → StoreOutcome (List Article) × σ) :
    StoreOutcome UInt64 × σ → StoreOutcome Listing × σ
  | (.error crash, store) => (.error crash, store)
  | (.ok (.error error), store) => (.ok (.error error), store)
  | (.ok (.ok total), store) =>
    let (outcome, store) := rows store
    (outcome.map (·.map (page.listing total)), store)

def direct (backend : StoreBackend σ) (world : Surroundings) (store : σ) :
    (operation : Operation) → StoreOutcome operation.Result × σ
  | .create draft => backend world (.insert draft) store
  | .update revision =>
    let (outcome, store) := backend world (.update revision) store
    (outcome.map (·.bind (orNotFound revision.id)), store)
  | .get id =>
    let (outcome, store) := backend world (.get id) store
    (outcome.map (·.bind (orNotFound id)), store)
  | .delete id =>
    let (outcome, store) := backend world (.delete id) store
    (outcome.map (·.bind fun rows => if rows = 0 then .error (.articleNotFound id) else .ok ()), store)
  | .list page => listing page (backend world (.list page.offset page.limit)) (backend world .count store)
  | .search needle page =>
    listing page (backend world (.search needle page.offset page.limit)) (backend world (.countByTitle needle) store)

theorem invariant_listing {invariant : σ → Prop} {page : Page} {rows : σ → StoreOutcome (List Article) × σ}
    {counted : StoreOutcome UInt64 × σ} (before : invariant counted.2) (after : invariant (rows counted.2).2) :
    invariant (listing page rows counted).2 := by
  match counted with
  | (.error crash, store) => exact before
  | (.ok (.error error), store) => exact before
  | (.ok (.ok total), store) => exact after

theorem state_listing {page : Page} {rows : σ → StoreOutcome (List Article) × σ} {counted : StoreOutcome UInt64 × σ}
    {store : σ} (before : counted.2 = store) (after : (rows counted.2).2 = counted.2) :
    (listing page rows counted).2 = store :=
  @invariant_listing σ (· = store) page rows counted before (after.trans before)

/-- What every request preserves is preserved by every operation. -/
theorem invariant_direct {backend : StoreBackend σ} {world : Surroundings} {invariant : σ → Prop} {store : σ}
    (operation : Operation)
    (preserved : ∀ request store, invariant store → invariant (backend world request store).2)
    (start : invariant store) : invariant (operation.direct backend world store).2 := by
  cases operation with
  | create draft => exact preserved _ _ start
  | update revision => exact preserved _ _ start
  | get id => exact preserved _ _ start
  | delete id => exact preserved _ _ start
  | list page => exact invariant_listing (preserved _ _ start) (preserved _ _ (preserved _ _ start))
  | search needle page => exact invariant_listing (preserved _ _ start) (preserved _ _ (preserved _ _ start))

end Operation

/-! ## Pages -/

/-- A run gives what the store gives alone, and leaves the cache alone. -/
structure FromStore {α σ τ : Type} (result : Except Crash α × Session σ τ) (direct : Except Crash α × σ) (cache : τ) :
    Prop where
  outcome : result.1 = direct.1
  store : result.2.store = direct.2
  cache : result.2.cache = cache

namespace Service

open Program (call)

variable {α σ τ : Type} {collaborators : Collaborators σ τ} {fates : (call : Call) → Fate call}
  {session : Session σ τ} {handler : Program.Handler (Session σ τ)} {page : Page}

/-- A program that asks the store for something, and has what `direct` makes of the answer. -/
theorem fromStore_call {request : StoreRequest} {next : Except StoreError request.Answer → Program α}
    (direct : StoreOutcome request.Answer × σ → Except Crash α × σ) (live : session.cancelled = false)
    (served : fates (.store request) = .served)
    (crashed : ∀ crash store, direct (.error crash, store) = (.error crash, store))
    (goesOn : ∀ reply store, FromStore
      ((next reply).final (Session.handler collaborators fates) (session.stored request store))
      (direct (.ok reply, store)) session.cache) :
    FromStore ((call (.store request) next).final (Session.handler collaborators fates) session)
      (direct (collaborators.store collaborators.surroundings request session.store)) session.cache := by
  rw [Session.final_store live served]
  cases collaborators.store collaborators.surroundings request session.store with
  | mk outcome store =>
    cases outcome with
    | ok reply => exact goesOn reply store
    | error crash =>
      rw [crashed]
      exact ⟨rfl, rfl, rfl⟩

theorem fromStore_afterRows (event : Event) (total : UInt64) (reply : Except StoreError (List Article)) :
    FromStore ((afterRows event page total reply).final handler session)
      (.ok (reply.map (page.listing total)), session.store) session.cache := by
  cases reply with
  | error error => exact ⟨rfl, rfl, rfl⟩
  | ok articles => exact ⟨rfl, rfl, rfl⟩

/-- The rows are read only if the count was given. -/
theorem fromStore_afterCount {rows : σ → StoreOutcome (List Article) × σ}
    {rest : UInt64 → Program (Except StoreError Listing)} {reply : Except StoreError UInt64}
    (read : ∀ total, FromStore ((rest total).final handler session)
      ((rows session.store).1.map (·.map (page.listing total)), (rows session.store).2) session.cache) :
    FromStore ((afterCount rest reply).final handler session)
      (Operation.listing page rows (.ok reply, session.store)) session.cache := by
  cases reply with
  | error error => exact ⟨rfl, rfl, rfl⟩
  | ok total => exact read total

theorem fromStore_list (live : session.cancelled = false) (served : ∀ request, fates (.store request) = .served) :
    FromStore ((list page).final (Session.handler collaborators fates) session)
      ((Operation.list page).direct collaborators.store collaborators.surroundings session.store) session.cache := by
  rw [list_eq]
  show FromStore _ (Operation.listing page _ (collaborators.store _ .count _)) _
  refine fromStore_call _ live (served _) (fun _ _ => rfl) fun _ _ => fromStore_afterCount fun _ => ?_
  exact fromStore_call (fun answered => (answered.1.map _, answered.2)) (Session.live_stored live _ _) (served _)
    (fun _ _ => rfl) fun _ _ => fromStore_afterRows _ _ _

theorem fromStore_search {needle : String} (live : session.cancelled = false)
    (served : ∀ request, fates (.store request) = .served) :
    FromStore ((search needle page).final (Session.handler collaborators fates) session)
      ((Operation.search needle page).direct collaborators.store collaborators.surroundings session.store)
      session.cache := by
  rw [search_eq]
  show FromStore _ (Operation.listing page _ (collaborators.store _ (.countByTitle needle) _)) _
  refine fromStore_call _ live (served _) (fun _ _ => rfl) fun _ _ => fromStore_afterCount fun _ => ?_
  exact fromStore_call (fun answered => (answered.1.map _, answered.2)) (Session.live_stored live _ _) (served _)
    (fun _ _ => rfl) fun _ _ => fromStore_afterRows _ _ _

end Service

/-! ## Turns -/

inductive Work (σ : Type)
  /-- An operation. The caller may have cancelled before. -/
  | perform (operation : Operation) (cancelled : Bool) (fates : (call : Call) → Fate call)
  | insertAuthor (author : Author)
  /-- Others change the store. -/
  | change (edit : σ → σ)

inductive Outcome
  | performed (operation : Operation) (outcome : StoreOutcome operation.Result)
  | author (outcome : Except StoreError Unit)
  | changed

structure Turn (kind : StoreKind) where
  surroundings : Surroundings
  now : Instant
  work : Work kind.State

structure System (kind : StoreKind) where
  store : kind.State
  cache : LruCache

def servers (kind : StoreKind) (world : Surroundings) (now : Instant) : Collaborators kind.State LruCache :=
  ⟨kind.backend, LruCache.backend, world, now⟩

namespace Turn

variable {kind : StoreKind}

def play (service : Service) (turn : Turn kind) (system : System kind) : Outcome × System kind :=
  match turn.work with
  | .perform operation cancelled fates =>
    let run := Session.run (servers kind turn.surroundings turn.now) fates cancelled (service.perform operation)
      system.store system.cache
    (.performed operation run.outcome, ⟨run.state.store, run.state.cache⟩)
  | .insertAuthor author =>
    let (outcome, store) := kind.addAuthor author system.store
    (.author outcome, { system with store })
  | .change edit => (.changed, { system with store := edit system.store })

def direct (turn : Turn kind) (store : kind.State) : Outcome × kind.State :=
  match turn.work with
  | .perform operation _ _ =>
    let (outcome, store) := operation.direct kind.backend turn.surroundings store
    (.performed operation outcome, store)
  | .insertAuthor author =>
    let (outcome, store) := kind.addAuthor author store
    (.author outcome, store)
  | .change edit => (.changed, edit store)

end Turn

variable {kind : StoreKind}

def play (service : Service) : List (Turn kind) → System kind → List Outcome × System kind
  | [], system => ([], system)
  | turn :: turns, system =>
    let (outcome, system) := turn.play service system
    let (outcomes, system) := play service turns system
    (outcome :: outcomes, system)

def direct : List (Turn kind) → kind.State → List Outcome × kind.State
  | [], store => ([], store)
  | turn :: turns, store =>
    let (outcome, store) := turn.direct store
    let (outcomes, store) := direct turns store
    (outcome :: outcomes, store)

def roomForOne : LruCache := ⟨1, Nat.one_pos, []⟩

/-- 2023-11-14T22:13:20Z. -/
def oneEvening : Timestamp := (Timestamp.ofParts? 1700000000 0).get rfl

def aShelf : MemoryStore :=
  ⟨[⟨⟨1⟩, "Ada", "Lovelace"⟩],
    [⟨⟨7⟩, ⟨1⟩, "Notes", "On the engine", none, "science", oneEvening, oneEvening⟩], by decide⟩

def onTheShelf : BylinedArticle :=
  ⟨⟨7⟩, ⟨1⟩, "Ada Lovelace", "Notes", "On the engine", none, "science", oneEvening, oneEvening⟩

def forAWeek : Service := ⟨"article:", .ofSeconds 604800⟩

end Gazette
