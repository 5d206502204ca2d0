import Gazette.Command.Run
import Gazette.Proofs.Service.Isolation

/-!
# Deadlines that are never reached

* `Instant.isSome_after?_ofSeconds`: a span of whole seconds ends if the clock can count the seconds up to its end.
* `outcome_lookUpWith`: what comes of a look-up through a cache in memory.
* `lookUpWith_of_uncached`: an article that is not cached yet is given if the span for which it is configured to be
  cached ends. If it does not, the program gives up.
-/

namespace Gazette

theorem Instant.isSome_after?_ofSeconds {now : Instant} {seconds : UInt64} :
    (now.after? (.ofSeconds seconds)).isSome ↔ now.nanoseconds / 1000000000 + seconds.toNat < 2 ^ 63 := by
  have whole : (now.nanoseconds + (Duration.ofSeconds seconds).total) / 1000000000
      = now.nanoseconds / 1000000000 + seconds.toNat := by
    simp only [Duration.ofSeconds, Duration.total]
    omega
  simp [after?, whole]

/-! ## Look-ups -/

def LruCache.article? (now : Instant) (key : String) (cache : LruCache) : Option BylinedArticle :=
  Service.hit? (.ok (cache.get now key).1)

def Service.lookUpWith (service : Service) (kind : StoreKind) (world : Surroundings) (now : Instant)
    (store : kind.State) (cache : LruCache) (id : Uuid) : StoreOutcome BylinedArticle :=
  (Session.run (servers kind world now) Session.undisturbed false (service.get id) store cache).outcome

section LookUps

variable {kind : StoreKind} {service : Service} {world : Surroundings} {now : Instant} {store : kind.State}
  {cache : LruCache} {id : Uuid}

/-- The store has answered when the article is put into the cache. -/
theorem outcome_fetch {session : Session kind.State LruCache} (live : session.cancelled = false) :
    ((service.fetch id).final (Session.handler (servers kind world now) Session.undisturbed) session).1 =
      match kind.find id session.store with
      | .error error => .ok (.error error)
      | .ok none => .ok (.error (.articleNotFound id))
      | .ok (some article) =>
        if (now.after? service.ttl).isSome then .ok (.ok article) else .error .deadlineOverflow := by
  rw [Service.fetch_eq, Session.final_store live (Session.served_undisturbed _)]
  simp only [servers, StoreKind.backend_get]
  cases kind.find id session.store with
  | error error => rfl
  | ok row =>
    cases row with
    | none => rfl
    | some article =>
      simp only [Service.afterFetch]
      rw [Session.final_cache (Session.live_stored live _ _) (Session.served_undisturbed _)]
      cases reached : now.after? service.ttl with
      | none => simp [LruCache.backend, LruCache.set, reached]
      | some deadline => simp [LruCache.backend, LruCache.set, reached, Service.finish]

theorem outcome_lookUpWith : service.lookUpWith kind world now store cache id =
    match cache.article? now (service.key id) with
    | some article => .ok (.ok article)
    | none =>
      match kind.find id store with
      | .error error => .ok (.error error)
      | .ok none => .ok (.error (.articleNotFound id))
      | .ok (some article) =>
        if (now.after? service.ttl).isSome then .ok (.ok article) else .error .deadlineOverflow := by
  have start : service.lookUpWith kind world now store cache id =
      ((service.get id).final (Session.handler (servers kind world now) Session.undisturbed)
        ⟨store, cache, false, []⟩).1 := rfl
  rw [start, Service.get_eq, Session.final_cache rfl (Session.served_undisturbed _)]
  simp only [servers, LruCache.backend]
  have replied : (.ok (cache.get now (service.key id)).1 : Except CacheError (Option Bytes)) ≠ .error .cancelled := by
    intro same
    cases same
  rw [Service.final_afterLookUp _ _ _ _ replied, LruCache.article?]
  cases Service.hit? (.ok (cache.get now (service.key id)).1) with
  | some article => rfl
  | none => exact outcome_fetch rfl

/-- An article that is not cached yet is given exactly if the clock can count the seconds for which it is configured to
be cached. Otherwise the program gives up, though the store has answered. -/
theorem lookUpWith_of_uncached {value? : String → Option String} {article : BylinedArticle}
    (found : kind.find id store = .ok (some article))
    (uncached : cache.article? now ((Command.service (.ofVariables value?)).key id) = none) :
    (Command.service (.ofVariables value?)).lookUpWith kind world now store cache id =
      if now.nanoseconds / 1000000000 + (Config.ofVariables value?).cacheTtlSeconds.toNat < 2 ^ 63
      then .ok (.ok article) else .error .deadlineOverflow := by
  rw [outcome_lookUpWith, uncached]
  simp only [found, Command.service, Config.cacheTtl, Instant.isSome_after?_ofSeconds]

end LookUps

/-- Variables that have articles cached for the longest span that there is. -/
def forEver : String → Option String
  | "CACHE_TTL_SECONDS" => some "18446744073709551615"
  | _ => none

/-- The article is stored and not cached, and the program gives up when it is looked up. -/
theorem crashes_forEver :
    StoreKind.find .memory ⟨7⟩ aShelf = .ok (some onTheShelf) ∧
      roomForOne.article? ⟨5⟩ ((Command.service (.ofVariables forEver)).key ⟨7⟩) = none ∧
      (Command.service (.ofVariables forEver)).lookUpWith .memory ⟨⟨1700000000000000000⟩, 8⟩ ⟨5⟩ aShelf roomForOne ⟨7⟩
        = .error .deadlineOverflow :=
  ⟨rfl, rfl, rfl⟩

theorem lookUpWith_of_uncached_forEver :
    StoreKind.find .memory ⟨7⟩ aShelf = .ok (some onTheShelf) ∧
      roomForOne.article? ⟨5⟩ ((Command.service (.ofVariables forEver)).key ⟨7⟩) = none ∧
      (Command.service (.ofVariables forEver)).lookUpWith .memory ⟨⟨1700000000000000000⟩, 8⟩ ⟨5⟩ aShelf roomForOne ⟨7⟩
        = if 5 / 1000000000 + (Config.ofVariables forEver).cacheTtlSeconds.toNat < 2 ^ 63
          then .ok (.ok onTheShelf) else .error .deadlineOverflow :=
  ⟨rfl, rfl, lookUpWith_of_uncached rfl rfl⟩

end Gazette
