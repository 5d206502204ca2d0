import Gazette.Proofs.Service.Session
import Gazette.Proofs.Store.Kind

/-!
# What operations ask

* `Operation.Asks`: what an operation asks the store.
* `Call.IsOf`: a call that an operation may make, when it has been told of some articles. It asks the cache under the
  keys of those alone, and stores nothing there but what it has been told.
* `Service.follows_isOf`: operations make no other calls.
* `tells_of_handler`: what the store tells of an article is what it finds, or what it was asked to change.
-/

namespace Gazette

def Operation.Asks : Operation → StoreRequest → Prop
  | .create draft, request => request = .insert draft
  | .update revision, request => request = .update revision
  | .get id, request => request = .get id
  | .delete id, request => request = .delete id
  | .list page, request => request = .count ∨ request = .list page.offset page.limit
  | .search needle page, request => request = .countByTitle needle ∨ request = .search needle page.offset page.limit

def Operation.article? : Operation → Option Uuid
  | .update revision => some revision.id
  | .get id => some id
  | .delete id => some id
  | _ => none

def StoreRequest.article? : StoreRequest → Option Uuid
  | .update revision => some revision.id
  | .get id => some id
  | .delete id => some id
  | _ => none

theorem Operation.Asks.article_eq {operation : Operation} {request : StoreRequest} (asks : operation.Asks request) :
    operation.article? = request.article? := by
  cases operation with
  | list page => rcases asks with rfl | rfl <;> rfl
  | search needle page => rcases asks with rfl | rfl <;> rfl
  | _ =>
    obtain rfl := asks
    rfl

theorem Operation.Asks.eq_get {operation : Operation} {id : Uuid} (asks : operation.Asks (.get id)) :
    operation = .get id := by
  cases operation with
  | get other =>
    cases asks
    rfl
  | list page => rcases asks with same | same <;> cases same
  | search needle page => rcases asks with same | same <;> cases same
  | _ => cases asks

/-- A call of an operation that has seen some articles in the store, and has changed some. -/
def Call.IsOf (service : Service) (operation : Operation) (seen : BylinedArticle → Prop) (changed : Uuid → Prop) :
    Call → Prop
  | .store request => operation.Asks request
  | .cache (.get key) => ∃ id, operation = .get id ∧ key = service.key id
  | .cache (.set key value ttl) =>
    ∃ article, seen article ∧ key = service.key article.id ∧ value = article.toCached ∧ ttl = service.ttl
  | .cache (.delete key) => ∃ id, changed id ∧ key = service.key id

/-- A reply in which the store shows none but these articles, and changes none but those. -/
def Call.Tells (seen : BylinedArticle → Prop) (changed : Uuid → Prop) : (call : Call) → call.Reply → Prop
  | .store (.get _), .ok (some article) => seen article
  | .store (.update _), .ok (some article) => changed article.id
  | .store (.delete id), .ok _ => changed id
  | _, _ => True

namespace Service

variable (service : Service) (seen : BylinedArticle → Prop) (changed : Uuid → Prop)

theorem follows_isOf_fetch (id : Uuid) : (service.fetch id).Follows (Call.IsOf service (.get id) seen changed)
    (Call.Tells seen changed) fun _ => True := by
  rw [fetch_eq]
  refine ⟨rfl, fun reply told => ?_⟩
  match reply with
  | .error error => trivial
  | .ok none => trivial
  | .ok (some article) =>
    refine ⟨⟨article, told, rfl, rfl, rfl⟩, fun reply _ => ?_⟩
    cases reply <;> trivial

theorem follows_isOf_afterLookUp (id : Uuid) (found : Except CacheError (Option BylinedArticle)) :
    (service.afterLookUp id found).Follows (Call.IsOf service (.get id) seen changed) (Call.Tells seen changed)
      fun _ => True := by
  rcases service.afterLookUp_cases id found with ⟨article, _, same⟩ | ⟨_, same⟩ | ⟨event, same⟩
  · rw [same]
    trivial
  · rw [same]
    trivial
  · rw [same]
    exact service.follows_isOf_fetch seen changed id

theorem follows_isOf_afterRows {operation : Operation} (event : Event) (page : Page) (total : UInt64)
    (reply : Except StoreError (List Article)) :
    (afterRows event page total reply).Follows (Call.IsOf service operation seen changed) (Call.Tells seen changed)
      fun _ => True := by
  cases reply <;> trivial

/-- Whatever an operation is told of, it makes no other calls than its own. -/
theorem follows_isOf (operation : Operation) :
    (service.perform operation).Follows (Call.IsOf service operation seen changed) (Call.Tells seen changed)
      fun _ => True := by
  -- A cached article is one that a reply of the store has told of, which is why the replies are kept.
  cases operation with
  | create draft =>
    rw [perform, create_eq]
    refine ⟨rfl, fun reply _ => ?_⟩
    cases reply <;> trivial
  | update revision =>
    rw [perform, update_eq]
    refine ⟨rfl, fun reply told => ?_⟩
    match reply with
    | .error error => trivial
    | .ok none => trivial
    | .ok (some article) =>
      refine ⟨⟨article.id, told, rfl⟩, fun reply _ => ?_⟩
      cases reply <;> trivial
  | get id =>
    rw [perform, get_eq]
    exact ⟨⟨id, rfl, rfl⟩, fun reply _ => service.follows_isOf_afterLookUp seen changed id (readHit reply)⟩
  | delete id =>
    rw [perform, delete_eq]
    refine ⟨rfl, fun reply told => ?_⟩
    cases reply with
    | error error => trivial
    | ok rows =>
      rw [afterDelete]
      split
      · trivial
      · refine ⟨⟨id, told, rfl⟩, fun reply _ => ?_⟩
        cases reply <;> trivial
  | list page =>
    rw [perform, list_eq]
    refine ⟨.inl rfl, fun reply _ => ?_⟩
    cases reply with
    | error error => trivial
    | ok total => exact ⟨.inr rfl, fun reply _ => service.follows_isOf_afterRows seen changed _ page total reply⟩
  | search needle page =>
    rw [perform, search_eq]
    refine ⟨.inl rfl, fun reply _ => ?_⟩
    cases reply with
    | error error => trivial
    | ok total => exact ⟨.inr rfl, fun reply _ => service.follows_isOf_afterRows seen changed _ page total reply⟩

/-- An operation that is about no article asks nothing but the store. -/
theorem follows_asksStore {operation : Operation} (none : operation.article? = none) :
    (service.perform operation).Follows (fun request => ∃ asked, request = .store asked) (fun _ _ => True)
      fun _ => True := by
  apply (service.follows_isOf (fun _ => False) (fun _ => False) operation).imp
  · intro request isOf
    match request with
    | .store asked => exact ⟨asked, rfl⟩
    | .cache (.get _) =>
      obtain ⟨id, rfl, _⟩ := isOf
      cases none
    | .cache (.set _ _ _) =>
      obtain ⟨_, told, _⟩ := isOf
      exact told.elim
    | .cache (.delete _) =>
      obtain ⟨_, told, _⟩ := isOf
      exact told.elim
  · intro request reply isOf _
    simp only [Call.Tells]
    -- The requests whose replies tell of an article are about one.
    split
    · cases none.symm.trans isOf.article_eq
    · cases none.symm.trans isOf.article_eq
    · cases none.symm.trans isOf.article_eq
    · trivial
  · exact fun _ _ => trivial

end Service

/-- The store shows what it finds, and changes what it is asked to change. -/
theorem tells_of_handler {τ : Type} {kind : StoreKind} {cache : CacheBackend τ} {world : Surroundings} {now : Instant}
    {fates : (call : Call) → Fate call} {session : Session kind.State τ} {seen : BylinedArticle → Prop}
    {changed : Uuid → Prop} {request : Call} {reply : request.Reply}
    (finds : ∀ id article, request = .store (.get id) → kind.find id session.store = .ok (some article) → seen article)
    (updates : ∀ revision, request = .store (.update revision) → changed revision.id)
    (deletes : ∀ id, request = .store (.delete id) → changed id)
    (replied : (Session.handler ⟨kind.backend, cache, world, now⟩ fates request session).1 = .ok reply) :
    request.Tells seen changed reply := by
  -- Only these three replies tell of an article.
  match request, reply with
  | .store (.get id), .ok (some article) =>
    have answered := Session.handler_answer replied
    simp only [Session.serve, StoreKind.backend_get] at answered
    exact finds id article rfl (Except.ok.inj answered)
  | .store (.update revision), .ok (some article) =>
    have sameId : article.id = revision.id := StoreKind.id_of_update (Session.handler_answer replied)
    show changed article.id
    rw [sameId]
    exact updates revision rfl
  | .store (.delete id), .ok _ => exact deletes id rfl
  | .store (.get _), .ok none => trivial
  | .store (.get _), .error _ => trivial
  | .store (.update _), .ok none => trivial
  | .store (.update _), .error _ => trivial
  | .store (.delete _), .error _ => trivial
  | .store (.insert _), _ => trivial
  | .store .count, _ => trivial
  | .store (.list _ _), _ => trivial
  | .store (.countByTitle _), _ => trivial
  | .store (.search _ _ _), _ => trivial
  | .cache _, _ => trivial

end Gazette
