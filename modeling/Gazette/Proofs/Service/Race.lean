import Gazette.Proofs.Service.Cached
import Gazette.Proofs.Service.Interleaving

/-!
# Look-ups while an article changes

An article is changed while others look it up, and when all have returned it is looked up again.

* `Raced`: one of the others asked the store before the change, and cached what it found after the article had left
  the cache.
* `current_or_raced_of_get`: the look-ups afterwards give what the change left, or what was there before it if there
  was such a race.
-/

namespace Gazette

open Program (call note done)

inductive Operation.Changes (id : Uuid) : Operation → StoreRequest → Prop
  | update {revision : Revision} (meant : revision.id = id) : Changes id (.update revision) (.update revision)
  | delete : Changes id (.delete id) (.delete id)

def Operation.leaves (before : BylinedArticle) : (operation : Operation) → operation.Result → Option BylinedArticle
  | .update _, article => some (article.withByline before.author)
  | .delete _, _ => none
  | _, _ => some before

/-- Another thread than the first found an article in the store before the first one changed it there, and cached it
after the first one had removed it from the cache. -/
def Raced (service : Service) (id : Uuid) (request : StoreRequest) (before : BylinedArticle) (acts : List Act) : Prop :=
  ∃ other, [⟨other, .store (.get id)⟩, ⟨0, .store request⟩, ⟨0, .cache (.delete (service.key id))⟩,
    ⟨other, .cache (.set (service.key id) before.toCached service.ttl)⟩].Sublist acts

variable {kind : StoreKind} {service : Service} {id : Uuid} {world : Surroundings} {now : Instant}
  {system after : System kind} {thread next : Thread} {made : Call} {before : BylinedArticle} {request : StoreRequest}

theorem Raced.append {acts : List Act} (raced : Raced service id request before acts) (more : List Act) :
    Raced service id request before (acts ++ more) := by
  obtain ⟨other, sublist⟩ := raced
  exact ⟨other, sublist.trans (List.sublist_append_left acts more)⟩

/-! ## Look-ups -/

/-- A look-up on its way. What it is about to cache is known, and what it has returned is given. -/
inductive LookingUp (service : Service) (id : Uuid) (known : BylinedArticle → Prop)
    (given : Except StoreError BylinedArticle → Prop) : Thread → Prop
  | inCache : LookingUp service id known given
      ⟨.get id, call (.cache (.get (service.key id))) fun reply => service.afterLookUp id (Service.readHit reply)⟩
  | inStore : LookingUp service id known given ⟨.get id, call (.store (.get id)) (service.afterFetch id)⟩
  | found {article : BylinedArticle} (isKnown : known article) : LookingUp service id known given
      ⟨.get id, call (.cache (.set (service.key article.id) article.toCached service.ttl))
        (Service.finish (Service.notCached article.id) (done (.ok article)))⟩
  | returned {result : Except StoreError BylinedArticle} (isGiven : given result) :
      LookingUp service id known given ⟨.get id, done result⟩

namespace LookingUp

variable {known later : BylinedArticle → Prop} {given : Except StoreError BylinedArticle → Prop}

theorem start (service : Service) (id : Uuid) (known : BylinedArticle → Prop)
    (given : Except StoreError BylinedArticle → Prop) :
    LookingUp service id known given (Thread.start service (.get id)) := by
  rw [Thread.start, Service.perform, Service.get_eq]
  exact .inCache

theorem imp (lookingUp : LookingUp service id known given thread)
    (implies : ∀ article, known article → later article) : LookingUp service id later given thread := by
  cases lookingUp with
  | inCache => exact .inCache
  | inStore => exact .inStore
  | found isKnown => exact .found (implies _ isKnown)
  | returned isGiven => exact .returned isGiven

theorem of_returned {result : Except StoreError BylinedArticle}
    (lookingUp : LookingUp service id known given ⟨.get id, done result⟩) : given result := by
  cases lookingUp with
  | returned isGiven => exact isGiven

theorem settled_fetch (service : Service) (id : Uuid) :
    (service.fetch id).settled = call (.store (.get id)) (service.afterFetch id) := by
  rw [Service.fetch_eq]
  rfl

theorem settled_afterLookUp (service : Service) (id : Uuid) (reply : Except CacheError (Option BylinedArticle)) :
    (service.afterLookUp id reply).settled = call (.store (.get id)) (service.afterFetch id) ∨
      ∃ result, (service.afterLookUp id reply).settled = done result := by
  rcases service.afterLookUp_cases id reply with ⟨article, _, same⟩ | ⟨_, same⟩ | ⟨event, same⟩
  · exact .inr ⟨.ok article, congrArg Program.settled same⟩
  · exact .inr ⟨.error .cancelled, congrArg Program.settled same⟩
  · exact .inl ((congrArg Program.settled same).trans (settled_fetch service id))

/-- A look-up changes nothing in the store. It goes on knowing what it finds there, and gives what it knew or hit
upon. -/
theorem advance (lookingUp : LookingUp service id known given thread)
    (advanced : thread.advance world now system = some (made, next, after))
    (finds : ∀ article, made = .store (.get id) → kind.find id system.store = .ok (some article) → later article)
    (gives : ∀ article, known article → given (.ok article))
    (hits : ∀ value result, (system.cache.get now (service.key id)).1 = some value →
      (service.afterLookUp id (Service.readHit (.ok (some value)))).settled = done result → given result)
    (misses : ∀ result, (service.afterFetch id (kind.find id system.store)).settled = done result → given result) :
    after.store = system.store ∧ LookingUp service id later given next := by
  cases lookingUp with
  | inCache =>
    obtain ⟨reply, answered, sameStore, rfl, rfl⟩ := Thread.advance_cache advanced
    obtain ⟨rfl, _⟩ : Except.ok (system.cache.get now (service.key id)).1 = reply ∧ _ := by
      simpa only [LruCache.backend_get, Prod.mk.injEq, Except.ok.injEq] using answered
    -- A hit that can be read is given. Otherwise the store is asked.
    refine ⟨sameStore, ?_⟩
    cases hit : (system.cache.get now (service.key id)).1 with
    | none =>
      show LookingUp service id later given ⟨.get id, (service.fetch id).settled⟩
      rw [settled_fetch]
      exact .inStore
    | some value =>
      rcases settled_afterLookUp service id (Service.readHit (.ok (some value))) with asks | ⟨result, gave⟩
      · rw [asks]
        exact .inStore
      · rw [gave]
        exact .returned (hits value result hit gave)
  | inStore =>
    obtain ⟨reply, answered, sameCache, rfl, rfl⟩ := Thread.advance_store advanced
    rw [StoreKind.backend_get, Prod.mk.injEq, Except.ok.injEq] at answered
    obtain ⟨rfl, sameStore⟩ := answered
    refine ⟨sameStore.symm, ?_⟩
    -- Only what is found goes on to be cached.
    match found : kind.find id system.store with
    | .error error =>
      apply LookingUp.returned
      apply misses
      rw [found]
      rfl
    | .ok none =>
      apply LookingUp.returned
      apply misses
      rw [found]
      rfl
    | .ok (some article) => exact .found (finds article rfl found)
  | found isKnown =>
    obtain ⟨reply, answered, sameStore, rfl, rfl⟩ := Thread.advance_cache advanced
    -- The article was known before this call and is given after it.
    obtain ⟨_, rfl⟩ := LruCache.backend_set_eq_ok answered
    exact ⟨sameStore, .returned (gives _ isKnown)⟩
  | returned isGiven => cases advanced

theorem finishes_found (service : Service) (id : Uuid) (article : BylinedArticle) :
    (⟨.get id, call (.cache (.set (service.key article.id) article.toCached service.ttl))
      (Service.finish (Service.notCached article.id) (done (.ok article)))⟩ : Thread).Finishes kind service.ttl 1 := by
  refine .inr fun world now system reached => ?_
  obtain ⟨full, stored⟩ := LruCache.exists_set (service.key article.id) article.toCached system.cache reached
  exact ⟨_, _, _, Thread.advance_cache_of_served world (LruCache.backend_set_of_eq_ok stored), rfl⟩

theorem finishes_inStore (service : Service) (id : Uuid) :
    (⟨.get id, call (.store (.get id)) (service.afterFetch id)⟩ : Thread).Finishes kind service.ttl 2 := by
  refine .inr fun world now system _ => ?_
  refine ⟨_, _, _, Thread.advance_store_of_served now (StoreKind.backend_get kind world id system.store), ?_⟩
  match kind.find id system.store with
  | .error error => exact .inl rfl
  | .ok none => exact .inl rfl
  | .ok (some article) => exact finishes_found service id article

/-- A look-up on its way returns after three calls, if not before. -/
theorem finishes (lookingUp : LookingUp service id known given thread) : thread.Finishes kind service.ttl 3 := by
  cases lookingUp with
  | inCache =>
    refine .inr fun world now system _ => ?_
    refine ⟨_, _, _, Thread.advance_cache_of_served world (LruCache.backend_get now (service.key id) system.cache), ?_⟩
    rcases settled_afterLookUp service id (Service.readHit (.ok (system.cache.get now (service.key id)).1)) with
      asks | ⟨result, gave⟩
    · rw [asks]
      exact finishes_inStore service id
    · rw [gave]
      exact .inl rfl
  | inStore => exact (finishes_inStore service id).mono
  | found _ => exact (finishes_found service id _).mono.mono
  | returned _ => exact .inl rfl

/-- Of the article only what is known gets cached. -/
theorem holdsAt_advance {property : BylinedArticle → Instant → Prop}
    (lookingUp : LookingUp service id known given thread)
    (advanced : thread.advance world now system = some (made, next, after))
    (holds : HoldsAt service id property system.cache)
    (sets : ∀ article deadline, known article → article.id = id →
      made = .cache (.set (service.key id) article.toCached service.ttl) → property article deadline) :
    HoldsAt service id property after.cache := by
  -- Only a look-up that has found the article is about to cache something.
  cases lookingUp with
  | inCache =>
    obtain ⟨reply, answered, _⟩ := Thread.advance_cache advanced
    rw [LruCache.backend_get, Prod.mk.injEq] at answered
    rw [← answered.2]
    exact holds.get now (service.key id)
  | inStore =>
    obtain ⟨_, _, sameCache, _⟩ := Thread.advance_store advanced
    rw [sameCache]
    exact holds
  | found isKnown =>
    obtain ⟨reply, answered, _, rfl, _⟩ := Thread.advance_cache advanced
    obtain ⟨stored, _⟩ := LruCache.backend_set_eq_ok answered
    apply holds.set ?_ stored
    rintro same deadline _
    exact sets _ deadline isKnown same (by rw [same])
  | returned isGiven => cases advanced

end LookingUp

/-! ## The change -/

def invalidating (service : Service) (id : Uuid) (writer : Operation) (answer : writer.Result)
    (event : Event) : Thread :=
  ⟨writer, call (.cache (.delete (service.key id)))
    (Service.finish (Service.notInvalidated id) (note event (done (.ok answer))))⟩

/-- The first call of a change goes to the store. If it succeeds the article is left as the answer has it. -/
theorem Operation.Changes.advance {writer : Operation} (changes : writer.Changes id request)
    (there : kind.find id system.store = .ok (some before))
    (advanced : (Thread.start service writer).advance world now system = some (made, next, after)) :
    made = .store request ∧ after.cache = system.cache ∧
      ((∃ answer event, next = invalidating service id writer answer event ∧
          kind.find id after.store = .ok (writer.leaves before answer)) ∨
        ∃ error, next = ⟨writer, done (.error error)⟩) := by
  cases changes with
  | @update revision meant =>
    subst meant
    rw [Thread.start, Service.perform, Service.update_eq] at advanced
    obtain ⟨reply, answered, sameCache, rfl, rfl⟩ := Thread.advance_store advanced
    refine ⟨rfl, sameCache, ?_⟩
    match reply with
    | .error error => exact .inr ⟨error, rfl⟩
    | .ok none => exact .inr ⟨_, rfl⟩
    | .ok (some article) =>
      -- The article that is answered is the one that is found from now on.
      have outcome : (kind.backend world (.update revision) system.store).1 = .ok (.ok (some article)) := by
        rw [answered]
      have sameId := StoreKind.id_of_update outcome
      have left := StoreKind.find_of_update there outcome
      rw [answered] at left
      refine .inl ⟨article, Service.updated article, ?_, left⟩
      rw [invalidating, ← sameId]
      rfl
  | delete =>
    rw [Thread.start, Service.perform, Service.delete_eq] at advanced
    obtain ⟨reply, answered, sameCache, rfl, rfl⟩ := Thread.advance_store advanced
    refine ⟨rfl, sameCache, ?_⟩
    match reply with
    | .error error => exact .inr ⟨error, rfl⟩
    | .ok rows =>
      by_cases absent : rows = 0
      · refine .inr ⟨.articleNotFound id, ?_⟩
        simp only [Service.afterDelete, if_pos absent]
        rfl
      · have left : kind.find id (kind.backend world (.delete id) system.store).2 = .ok none :=
          StoreKind.find_of_delete there
        rw [answered] at left
        refine .inl ⟨(), Service.deleted id, ?_, left⟩
        simp only [Service.afterDelete, if_neg absent]
        rfl

theorem Operation.Changes.not_hasReturned_start {writer : Operation} (changes : writer.Changes id request) :
    ¬(Thread.start service writer).hasReturned := by
  cases changes with
  | update meant =>
    rw [Thread.start, Service.perform, Service.update_eq]
    exact Bool.false_ne_true
  | delete =>
    rw [Thread.start, Service.perform, Service.delete_eq]
    exact Bool.false_ne_true

/-- The second call of a change goes to the cache. -/
theorem advance_invalidating {writer : Operation} {answer : writer.Result} {event : Event}
    (advanced : (invalidating service id writer answer event).advance world now system = some (made, next, after)) :
    made = .cache (.delete (service.key id)) ∧ after.cache = system.cache.delete (service.key id) ∧
      after.store = system.store ∧ next = ⟨writer, done (.ok answer)⟩ := by
  obtain ⟨reply, answered, sameStore, rfl, rfl⟩ := Thread.advance_cache advanced
  rw [LruCache.backend_delete, Prod.mk.injEq, Except.ok.injEq] at answered
  obtain ⟨rfl, deleted⟩ := answered
  exact ⟨rfl, deleted.symm, sameStore, rfl⟩

/-! ## All of them together -/

def LookUps (service : Service) (id : Uuid) (bound : Nat) (known : Nat → BylinedArticle → Prop)
    (given : Except StoreError BylinedArticle → Prop) (threads : List Thread) : Prop :=
  ∀ index thread, bound ≤ index → threads[index]? = some thread → LookingUp service id (known index) given thread

/-- A thread has found in the store what was there before, and since then some calls were made. -/
def Remembers (id : Uuid) (before : BylinedArticle) (past since : List Act) (index : Nat) (article : BylinedArticle) :
    Prop :=
  article = before ∧ (⟨index, .store (.get id)⟩ :: since).Sublist past

section Together

variable {known later : Nat → BylinedArticle → Prop} {given : Except StoreError BylinedArticle → Prop}
  {threads : List Thread} {bound index : Nat} {past since : List Act} {act : Act} {article : BylinedArticle}

theorem LookUps.set (lookUps : LookUps service id bound known given threads)
    (implies : ∀ index article, known index article → later index article)
    (goesOn : bound ≤ index → LookingUp service id (later index) given next) :
    LookUps service id bound later given (threads.set index next) := by
  intro other thread above there
  rw [List.getElem?_set] at there
  by_cases same : index = other
  · subst same
    rw [if_pos rfl] at there
    split at there
    · cases there
      exact goesOn above
    · cases there
  · rw [if_neg same] at there
    exact (lookUps other thread above there).imp (implies other)

theorem lookUps_start (service : Service) (id : Uuid) (known : Nat → BylinedArticle → Prop)
    (given : Except StoreError BylinedArticle → Prop) (threads : List Thread) (others : Nat) :
    LookUps service id threads.length known given
      (threads ++ (List.replicate others (.get id)).map (Thread.start service)) := by
  intro index thread above there
  rw [List.getElem?_append_right above] at there
  obtain ⟨operation, among, rfl⟩ := List.mem_map.mp (List.mem_of_getElem? there)
  rw [List.eq_of_mem_replicate among]
  exact .start service id (known index) given

theorem Remembers.append (remembers : Remembers id before past since index article) (act : Act) :
    Remembers id before (past ++ [act]) since index article :=
  ⟨remembers.1, remembers.2.trans (List.sublist_append_left past [act])⟩

theorem Remembers.since_append (remembers : Remembers id before past since index article) (act : Act) :
    Remembers id before (past ++ [act]) (since ++ [act]) index article :=
  ⟨remembers.1, remembers.2.append (List.Sublist.refl [act])⟩

end Together

/-- How far the first thread has come with its change, and what the others may know. -/
inductive Stage (service : Service) (id : Uuid) (before : BylinedArticle) (writer : Operation) (request : StoreRequest)
    (past : List Act) : Pool kind → Prop
  | begun {threads : List Thread} {system : System kind}
      (there : kind.find id system.store = .ok (some before))
      (first : threads[0]? = some (.start service writer))
      (lookUps : LookUps service id 1 (Remembers id before past []) (fun _ => True) threads) :
      Stage service id before writer request past ⟨threads, system⟩
  | stored {threads : List Thread} {system : System kind} {answer : writer.Result} {event : Event}
      (left : kind.find id system.store = .ok (writer.leaves before answer))
      (first : threads[0]? = some (invalidating service id writer answer event))
      (lookUps : LookUps service id 1 (fun index article => writer.leaves before answer = some article ∨
        Remembers id before past [⟨0, .store request⟩] index article) (fun _ => True) threads) :
      Stage service id before writer request past ⟨threads, system⟩
  | invalidated {threads : List Thread} {system : System kind} {answer : writer.Result}
      (left : kind.find id system.store = .ok (writer.leaves before answer))
      (first : threads[0]? = some ⟨writer, done (.ok answer)⟩)
      (lookUps : LookUps service id 1 (fun index article => writer.leaves before answer = some article ∨
        Remembers id before past [⟨0, .store request⟩, ⟨0, .cache (.delete (service.key id))⟩] index article)
        (fun _ => True) threads)
      (cached : HoldsAt service id (fun article _ => writer.leaves before answer = some article ∨
        article = before ∧ Raced service id request before past) system.cache) :
      Stage service id before writer request past ⟨threads, system⟩
  | failed {threads : List Thread} {system : System kind} {error : StoreError}
      (first : threads[0]? = some ⟨writer, done (.error error)⟩) :
      Stage service id before writer request past ⟨threads, system⟩

namespace Stage

variable {writer : Operation} {past : List Act} {threads : List Thread} {index : Nat}

theorem step_first (changes : writer.Changes id request)
    (stage : Stage service id before writer request past ⟨threads, system⟩) (first : threads[0]? = some thread)
    (advanced : thread.advance world now system = some (made, next, after)) :
    Stage service id before writer request (past ++ [⟨0, made⟩]) ⟨threads.set 0 next, after⟩ := by
  obtain ⟨inside, _⟩ := List.getElem?_eq_some_iff.mp first
  have set : (threads.set 0 next)[0]? = some next := List.getElem?_set_self inside
  -- The stage tells which call is the next one of the first thread, if it still has one to make.
  cases stage with
  | begun there begins lookUps =>
    obtain rfl := Option.some.inj (begins.symm.trans first)
    obtain ⟨rfl, sameCache, ⟨answer, event, rfl, left⟩ | ⟨error, rfl⟩⟩ := changes.advance there advanced
    · -- What the look-ups remember they found before this call.
      refine .stored left set (lookUps.set ?_ (by simp))
      intro index article remembers
      exact .inr (remembers.since_append _)
    · exact .failed set
  | @stored _ _ answer event left invalidates lookUps =>
    obtain rfl := Option.some.inj (invalidates.symm.trans first)
    obtain ⟨rfl, deleted, sameStore, rfl⟩ := advance_invalidating advanced
    refine .invalidated (sameStore ▸ left) set (lookUps.set ?_ (by simp)) ?_
    · rintro index article (current | remembers)
      · exact .inl current
      · exact .inr (remembers.since_append _)
    · -- The cache has lost the article, whatever was cached before.
      rw [deleted]
      exact HoldsAt.of_delete service id _ system.cache
  | invalidated left returned lookUps cached =>
    obtain rfl := Option.some.inj (returned.symm.trans first)
    cases advanced
  | failed returned =>
    obtain rfl := Option.some.inj (returned.symm.trans first)
    cases advanced

theorem step_other (stage : Stage service id before writer request past ⟨threads, system⟩) (other : 1 ≤ index)
    (there : threads[index]? = some thread) (advanced : thread.advance world now system = some (made, next, after)) :
    Stage service id before writer request (past ++ [⟨index, made⟩]) ⟨threads.set index next, after⟩ := by
  have stays : (threads.set index next)[0]? = threads[0]? := List.getElem?_set_ne (Nat.ne_of_gt other)
  cases stage with
  | begun found begins lookUps =>
    have finds (article : BylinedArticle) (asked : made = .store (.get id))
        (current : kind.find id system.store = .ok (some article)) :
        Remembers id before (past ++ [⟨index, made⟩]) [] index article := by
      -- This is the call by which the article was found.
      cases found.symm.trans current
      rw [asked]
      exact ⟨rfl, List.sublist_append_right past _⟩
    obtain ⟨sameStore, goesOn⟩ := (lookUps index thread other there).advance advanced finds (fun _ _ => trivial)
      (fun _ _ _ _ => trivial) (fun _ _ => trivial)
    refine .begun (sameStore ▸ found) (stays.trans begins) (lookUps.set ?_ fun _ => goesOn)
    intro other article remembers
    exact remembers.append _
  | @stored _ _ answer event left invalidates lookUps =>
    have finds (article : BylinedArticle) (_ : made = .store (.get id))
        (current : kind.find id system.store = .ok (some article)) : writer.leaves before answer = some article ∨
          Remembers id before (past ++ [⟨index, made⟩]) [⟨0, .store request⟩] index article :=
      .inl (Except.ok.inj (left.symm.trans current))
    obtain ⟨sameStore, goesOn⟩ := (lookUps index thread other there).advance advanced finds (fun _ _ => trivial)
      (fun _ _ _ _ => trivial) (fun _ _ => trivial)
    refine .stored (sameStore ▸ left) (stays.trans invalidates) (lookUps.set ?_ fun _ => goesOn)
    rintro other article (current | remembers)
    · exact .inl current
    · exact .inr (remembers.append _)
  | @invalidated _ _ answer left returned lookUps cached =>
    have lookingUp := lookUps index thread other there
    have finds (article : BylinedArticle) (_ : made = .store (.get id))
        (current : kind.find id system.store = .ok (some article)) : writer.leaves before answer = some article ∨
          Remembers id before (past ++ [⟨index, made⟩]) [⟨0, .store request⟩, ⟨0, .cache (.delete (service.key id))⟩]
            index article :=
      .inl (Except.ok.inj (left.symm.trans current))
    obtain ⟨sameStore, goesOn⟩ := lookingUp.advance advanced finds (fun _ _ => trivial)
      (fun _ _ _ _ => trivial) (fun _ _ => trivial)
    refine .invalidated (sameStore ▸ left) (stays.trans returned) (lookUps.set ?_ fun _ => goesOn) ?_
    · rintro other article (current | remembers)
      · exact .inl current
      · exact .inr (remembers.append _)
    · apply lookingUp.holdsAt_advance advanced (cached.imp ?_)
      · -- What is cached now is what the store has, or it was found before the change.
        rintro article deadline (current | ⟨rfl, sublist⟩) same rfl
        · exact .inl current
        · exact .inr ⟨rfl, index, sublist.append (List.Sublist.refl _)⟩
      · rintro article deadline (current | ⟨same, raced⟩)
        · exact .inl current
        · exact .inr ⟨same, raced.append _⟩
  | failed returned => exact .failed (stays.trans returned)

/-- Every call brings the change on or leaves it where it is. -/
theorem step {tick : Tick} {pool later : Pool kind} {act : Act} (changes : writer.Changes id request)
    (stage : Stage service id before writer request past pool) (stepped : pool.step tick = some (act, later)) :
    Stage service id before writer request (past ++ [act]) later := by
  obtain ⟨thread, made, next, after, there, advanced, rfl, rfl⟩ := Pool.step_eq_some.mp stepped
  by_cases first : tick.thread = 0
  · rw [first] at there ⊢
    exact step_first changes stage there advanced
  · exact step_other stage (Nat.pos_of_ne_zero first) there advanced

theorem run {schedule : List Tick} {pool later : Pool kind} {acts : List Act} (changes : writer.Changes id request)
    (stage : Stage service id before writer request [] pool) (ran : pool.run schedule = some (acts, later)) :
    Stage service id before writer request acts later :=
  Pool.invariant_run (Stage service id before writer request)
    (fun _ _ _ _ _ stage stepped => stage.step changes stepped) stage ran

end Stage

/-! ## Afterwards -/

/-- A change is over, and the threads from the bound on look the article up. What they may give is the same whether
they find it in the store or in the cache. -/
structure Aftermath (service : Service) (id : Uuid) (left : Option BylinedArticle)
    (possible : Except StoreError BylinedArticle → Prop) (bound : Nat) (pool : Pool kind) : Prop where
  found : kind.find id pool.system.store = .ok left
  returned : ∀ index thread, index < bound → pool.threads[index]? = some thread → thread.hasReturned = true
  lookUps : LookUps service id bound (fun _ article => possible (.ok article)) possible pool.threads
  cached : HoldsAt service id (fun article _ => possible (.ok article)) pool.system.cache

namespace Aftermath

variable {left : Option BylinedArticle} {possible : Except StoreError BylinedArticle → Prop} {bound : Nat}

theorem step {tick : Tick} {pool later : Pool kind} {act : Act} (current : possible (orNotFound id left))
    (timed : ∀ article, possible (.ok article) → article.LeapsEndMinutes) (aftermath : Aftermath service id left possible bound pool) (stepped : pool.step tick = some (act, later)) :
    Aftermath service id left possible bound later := by
  obtain ⟨found, returned, lookUps, cached⟩ := aftermath
  obtain ⟨thread, made, next, after, there, advanced, rfl, rfl⟩ := Pool.step_eq_some.mp stepped
  -- Those that have returned make no more calls.
  have above : bound ≤ tick.thread := by
    rw [← Nat.not_lt]
    intro below
    exact Thread.not_advance (returned tick.thread thread below there) advanced
  have lookingUp := lookUps tick.thread thread above there
  have finds (article : BylinedArticle) (_ : made = .store (.get id))
      (there : kind.find id pool.system.store = .ok (some article)) : possible (.ok article) := by
    cases found.symm.trans there
    exact current
  have hits (value : Bytes) (result : Except StoreError BylinedArticle)
      (hit : (pool.system.cache.get tick.now (service.key id)).1 = some value)
      (gave : (service.afterLookUp id (Service.readHit (.ok (some value)))).settled = done result) :
      possible result := by
    obtain ⟨article, _, written, isPossible, _⟩ := cached.of_hit hit
    rw [Service.readHit, written, BylinedArticle.ofCached_toCached (timed article isPossible)] at gave
    cases gave
    exact isPossible
  have misses (result : Except StoreError BylinedArticle)
      (gave : (service.afterFetch id (kind.find id pool.system.store)).settled = done result) : possible result := by
    rw [found] at gave
    cases left with
    | none =>
      cases gave
      exact current
    | some article => cases gave
  obtain ⟨sameStore, goesOn⟩ := lookingUp.advance advanced finds (fun _ known => known) hits misses
  refine ⟨sameStore ▸ found, ?_, lookUps.set (fun _ _ known => known) fun _ => goesOn, ?_⟩
  · intro index thread below there
    have apart : tick.thread ≠ index := Nat.ne_of_gt (Nat.lt_of_lt_of_le below above)
    exact returned index thread below ((List.getElem?_set_ne apart).symm.trans there)
  · exact lookingUp.holdsAt_advance advanced cached fun _ _ known _ _ => known

theorem run {schedule : List Tick} {pool later : Pool kind} {acts : List Act} (current : possible (orNotFound id left))
    (timed : ∀ article, possible (.ok article) → article.LeapsEndMinutes) (aftermath : Aftermath service id left possible bound pool) (ran : pool.run schedule = some (acts, later)) :
    Aftermath service id left possible bound later :=
  Pool.invariant_run (fun _ => Aftermath service id left possible bound)
    (fun _ _ _ _ _ aftermath stepped => aftermath.step current timed stepped) aftermath ran

end Aftermath

/-- A change of an article and any number of look-ups are begun together, and their calls are made in any order. Once
they have all returned, look-ups come to their end and give what the change left, or else what was there before it, if
one of the others raced it. -/
theorem current_or_raced_of_get {writer : Operation} (changes : writer.Changes id request) {start middle : System kind}
    (found : kind.find id start.store = .ok (some before)) {others : Nat} {schedule : List Tick} {acts : List Act}
    {ended : List Thread}
    (ran : Pool.run schedule ⟨(writer :: List.replicate others (.get id)).map (Thread.start service), start⟩
      = some (acts, ⟨ended, middle⟩))
    (returned : ∀ thread ∈ ended, thread.hasReturned) {answer : writer.Result}
    (written : ended[0]? = some ⟨writer, .done (.ok answer)⟩) {more : Nat} {later : List Tick} {moreActs : List Act}
    {last : Pool kind}
    (ranOn : Pool.run later ⟨ended ++ (List.replicate more (.get id)).map (Thread.start service), middle⟩
      = some (moreActs, last))
    {index : Nat} (begun : ended.length ≤ index) {thread : Thread} (there : last.threads[index]? = some thread) :
    kind.find id middle.store = .ok (writer.leaves before answer) ∧ thread.Finishes kind service.ttl 3 ∧
      ∀ result, thread = ⟨.get id, .done result⟩ → result = orNotFound id (writer.leaves before answer) ∨
        result = .ok before ∧ Raced service id request before acts := by
  have begins : Stage service id before writer request []
      ⟨(writer :: List.replicate others (.get id)).map (Thread.start service), start⟩ :=
    .begun found rfl (lookUps_start service id _ _ [Thread.start service writer] others)
  have atEnd := begins.run changes ran
  have first := returned _ (List.mem_of_getElem? written)
  cases atEnd with
  -- At the earlier stages the first thread has not returned, or has returned an error.
  | begun _ begins _ =>
    rw [← Option.some.inj (begins.symm.trans written)] at first
    exact absurd first changes.not_hasReturned_start
  | stored _ invalidates _ =>
    rw [← Option.some.inj (invalidates.symm.trans written)] at first
    exact absurd first Bool.false_ne_true
  | failed fails =>
    have same := Option.some.inj (fails.symm.trans written)
    simp only [Thread.mk.injEq, heq_eq_eq, Program.done.injEq, true_and, reduceCtorEq] at same
  | @invalidated _ _ given left returns lookUps cached =>
    have same := Option.some.inj (returns.symm.trans written)
    simp only [Thread.mk.injEq, heq_eq_eq, Program.done.injEq, true_and, Except.ok.injEq] at same
    subst same
    refine ⟨left, ?_⟩
    have aftermath : Aftermath service id (writer.leaves before given)
        (fun result => result = orNotFound id (writer.leaves before given) ∨
          result = .ok before ∧ Raced service id request before acts)
        ended.length ⟨ended ++ (List.replicate more (.get id)).map (Thread.start service), middle⟩ := by
      refine ⟨left, ?_, lookUps_start service id _ _ ended more, cached.imp ?_⟩
      · intro index thread below there
        rw [List.getElem?_append_left below] at there
        exact returned thread (List.mem_of_getElem? there)
      · rintro article _ (current | ⟨old, raced⟩)
        · rw [current]
          exact .inl rfl
        · rw [old]
          exact .inr ⟨rfl, raced⟩
    have timed : ∀ article : BylinedArticle, (.ok article = orNotFound id (writer.leaves before given) ∨
        .ok article = (.ok before : Except StoreError _) ∧ Raced service id request before acts) →
        article.LeapsEndMinutes := by
      rintro article (current | ⟨old, _⟩)
      · cases kept : writer.leaves before given with
        | none =>
          rw [kept] at current
          cases current
        | some row =>
          rw [kept] at current left
          cases current
          exact StoreKind.leapsEndMinutes_of_find left
      · cases old
        exact StoreKind.leapsEndMinutes_of_find found
    have lookingUp := (aftermath.run (.inl rfl) timed ranOn).lookUps index thread begun there
    refine ⟨lookingUp.finishes, ?_⟩
    rintro result rfl
    exact lookingUp.of_returned

/-! ## A race -/

theorem Thread.advance_of_hit {article : BylinedArticle} (leaps : article.LeapsEndMinutes) (world : Surroundings)
    (hit : (system.cache.get now (service.key id)).1 = some article.toCached) :
    (Thread.start service (.get id)).advance world now system = some (.cache (.get (service.key id)),
      ⟨.get id, done (.ok article)⟩, ⟨system.store, (system.cache.get now (service.key id)).2⟩) := by
  rw [start, Service.perform, Service.get_eq]
  simp only [Program.settled, advance, Session.serve, servers, LruCache.backend_get, hit, Service.readHit,
    BylinedArticle.ofCached_toCached leaps]
  rfl

def inPrint : Article := ⟨⟨7⟩, ⟨1⟩, "Notes", "On the engine", none, "science", oneEvening, oneEvening⟩

def correction : Revision := ⟨⟨7⟩, "Notes", "Corrected", none, "science"⟩

def corrected : Article := inPrint.revise correction oneEvening

def archive (article : Article) (timed : article.LeapsEndMinutes) : MemoryStore :=
  ⟨[⟨⟨1⟩, "Ada", "Lovelace"⟩], [article], List.forall_mem_singleton.mpr timed⟩

def forADay : Service := ⟨"article:", .ofSeconds 86400⟩

/-- A correction and a look-up, which finds the article before it is corrected and caches it after. -/
def aRace : List Tick :=
  let world : Surroundings := ⟨⟨1700000000000000000⟩, 9⟩
  [⟨1, world, ⟨1⟩⟩, ⟨1, world, ⟨2⟩⟩, ⟨0, world, ⟨3⟩⟩, ⟨0, world, ⟨4⟩⟩, ⟨1, world, ⟨5⟩⟩]

def aLaterLook : Tick := ⟨2, ⟨⟨1700000070000000000⟩, 10⟩, ⟨6⟩⟩

def beforeTheRace : System .memory := ⟨archive inPrint (by decide), roomForOne⟩

def afterTheRace : Pool .memory where
  threads := [⟨.update correction, done (.ok corrected)⟩, ⟨.get ⟨7⟩, done (.ok (inPrint.withByline "Ada Lovelace"))⟩]
  system := ⟨archive corrected (by decide), { roomForOne with
    entries := [⟨forADay.key ⟨7⟩, (inPrint.withByline "Ada Lovelace").toCached, ⟨86400000000005⟩⟩] }⟩

theorem run_aRace : Pool.run aRace
    ⟨(.update correction :: List.replicate 1 (.get ⟨7⟩)).map (Thread.start forADay), beforeTheRace⟩
    = some ([⟨1, .cache (.get (forADay.key ⟨7⟩))⟩, ⟨1, .store (.get ⟨7⟩)⟩, ⟨0, .store (.update correction)⟩,
      ⟨0, .cache (.delete (forADay.key ⟨7⟩))⟩,
      ⟨1, .cache (.set (forADay.key ⟨7⟩) (inPrint.withByline "Ada Lovelace").toCached forADay.ttl)⟩],
      afterTheRace) := rfl

theorem returned_aRace : ∀ thread ∈ afterTheRace.threads, thread.hasReturned := by
  intro thread there
  rcases List.mem_cons.mp there with rfl | there
  · rfl
  · rw [List.mem_singleton.mp there]
    rfl

/-- The look-up after the race finds the article in the cache as it was before. -/
theorem run_afterTheRace : ∃ last,
    Pool.run [aLaterLook]
      ⟨afterTheRace.threads ++ (List.replicate 1 (.get ⟨7⟩)).map (Thread.start forADay), afterTheRace.system⟩
      = some ([⟨2, .cache (.get (forADay.key ⟨7⟩))⟩], last) ∧
    last.threads[2]? = some ⟨.get ⟨7⟩, done (.ok (inPrint.withByline "Ada Lovelace"))⟩ := by
  have hit : (afterTheRace.system.cache.get ⟨6⟩ (forADay.key ⟨7⟩)).1
      = some (inPrint.withByline "Ada Lovelace").toCached := by
    apply LruCache.get_of_head
    decide
  have advanced := Thread.advance_of_hit (by decide) aLaterLook.surroundings hit
  have stepped : Pool.step aLaterLook
      ⟨afterTheRace.threads ++ (List.replicate 1 (.get ⟨7⟩)).map (Thread.start forADay), afterTheRace.system⟩
      = some (_, _) := Pool.step_eq_some.mpr ⟨_, _, _, _, rfl, advanced, rfl, rfl⟩
  exact ⟨_, Pool.run_cons_eq_some.mpr ⟨_, _, [], stepped, rfl, rfl⟩, rfl⟩

/-- After the race the article is corrected in the store, but not for those who look it up. -/
theorem stale_afterTheRace : ∃ acts last,
    Pool.run aRace ⟨(.update correction :: List.replicate 1 (.get ⟨7⟩)).map (Thread.start forADay), beforeTheRace⟩
      = some (acts, afterTheRace) ∧
    (∀ thread ∈ afterTheRace.threads, thread.hasReturned) ∧
    StoreKind.find .memory ⟨7⟩ afterTheRace.system.store = .ok (some (corrected.withByline "Ada Lovelace")) ∧
    Pool.run [aLaterLook]
      ⟨afterTheRace.threads ++ (List.replicate 1 (.get ⟨7⟩)).map (Thread.start forADay), afterTheRace.system⟩
      = some ([⟨2, .cache (.get (forADay.key ⟨7⟩))⟩], last) ∧
    last.threads[2]? = some ⟨.get ⟨7⟩, done (.ok (inPrint.withByline "Ada Lovelace"))⟩ ∧
    inPrint.withByline "Ada Lovelace" ≠ corrected.withByline "Ada Lovelace" := by
  obtain ⟨last, ranOn, gave⟩ := run_afterTheRace
  exact ⟨_, last, run_aRace, returned_aRace, rfl, ranOn, gave, by decide⟩

theorem current_or_raced_afterTheRace : ∃ acts,
    Pool.run aRace ⟨(.update correction :: List.replicate 1 (.get ⟨7⟩)).map (Thread.start forADay), beforeTheRace⟩
      = some (acts, afterTheRace) ∧
    StoreKind.find .memory ⟨7⟩ afterTheRace.system.store = .ok (some (corrected.withByline "Ada Lovelace")) ∧
    (⟨.get ⟨7⟩, done (.ok (inPrint.withByline "Ada Lovelace"))⟩ : Thread).Finishes .memory forADay.ttl 3 ∧
    ((.ok (inPrint.withByline "Ada Lovelace") : Except StoreError BylinedArticle)
        = .ok (corrected.withByline "Ada Lovelace") ∨
      (.ok (inPrint.withByline "Ada Lovelace") : Except StoreError BylinedArticle)
        = .ok (inPrint.withByline "Ada Lovelace") ∧
        Raced forADay ⟨7⟩ (.update correction) (inPrint.withByline "Ada Lovelace") acts) := by
  obtain ⟨last, ranOn, gave⟩ := run_afterTheRace
  have found : StoreKind.find .memory ⟨7⟩ beforeTheRace.store = .ok (some (inPrint.withByline "Ada Lovelace")) := rfl
  have changes : Operation.Changes ⟨7⟩ (.update correction) (.update correction) := .update rfl
  have begun : afterTheRace.threads.length ≤ 2 := Nat.le_refl 2
  obtain ⟨left, finishes, given⟩ :=
    current_or_raced_of_get changes found run_aRace returned_aRace rfl ranOn begun gave
  exact ⟨_, run_aRace, left, finishes, given _ rfl⟩

end Gazette
