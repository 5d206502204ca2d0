import Gazette.Proofs.Cache.Codec
import Gazette.Proofs.Cache.Lru
import Gazette.Service.Operation

/-!
# Articles in a cache

* `HoldsAt`: whatever is cached of one article has a property.
* `HoldsOnly`: whatever is cached of any article has a property.

What a request to the cache in memory does to that, and what a hit tells then.
-/

namespace Gazette

theorem Service.key_injective {service : Service} {left right : Uuid} (same : service.key left = service.key right) :
    left = right := by
  simp only [key, articleKey] at same
  exact Uuid.toText_injective (String.append_right_inj _ |>.mp same)

def HoldsAt (service : Service) (id : Uuid) (property : BylinedArticle → Instant → Prop) (cache : LruCache) : Prop :=
  ∀ entry ∈ cache.entries, entry.key = service.key id →
    ∃ article : BylinedArticle, entry.value = article.toCached ∧ property article entry.deadline

/-- Whatever is cached of an article has the property of that article. -/
def HoldsOnly (service : Service) (property : Uuid → BylinedArticle → Instant → Prop) (cache : LruCache) : Prop :=
  ∀ id, HoldsAt service id (property id) cache

variable {service : Service} {cache full : LruCache} {now : Instant} {id : Uuid}

namespace HoldsAt

variable {property weaker : BylinedArticle → Instant → Prop}

theorem imp (holds : HoldsAt service id property cache)
    (implies : ∀ {article : BylinedArticle} {deadline : Instant}, property article deadline → weaker article deadline) :
    HoldsAt service id weaker cache := by
  intro entry there key
  obtain ⟨article, written, has⟩ := holds entry there key
  exact ⟨article, written, implies has⟩

theorem get (holds : HoldsAt service id property cache) (now : Instant) (key : String) :
    HoldsAt service id property (cache.get now key).2 :=
  fun entry there => holds entry (LruCache.mem_of_mem_get there)

/-- A hit is an article with the property that has not expired. -/
theorem of_hit {value : Bytes} (holds : HoldsAt service id property cache)
    (hit : (cache.get now (service.key id)).1 = some value) :
    ∃ (article : BylinedArticle) (deadline : Instant), value = article.toCached ∧ property article deadline ∧
      now.nanoseconds < deadline.nanoseconds := by
  obtain ⟨entry, there, key, rfl, alive⟩ := LruCache.exists_entry_of_hit hit
  obtain ⟨article, written, has⟩ := holds entry there key
  exact ⟨article, entry.deadline, written, has, alive⟩

theorem set {other : Uuid} {article : BylinedArticle} (holds : HoldsAt service id property cache)
    (has : other = id → ∀ {deadline : Instant}, now.after? service.ttl = some deadline → property article deadline)
    (stored : cache.set now (service.key other) article.toCached service.ttl = .ok full) :
    HoldsAt service id property full := by
  intro entry there key
  rcases LruCache.mem_of_mem_set stored there with ⟨deadline, reached, rfl⟩ | ⟨old, _⟩
  · exact ⟨article, by dsimp only, has (Service.key_injective key) reached⟩
  · exact holds entry old key

theorem delete (holds : HoldsAt service id property cache) (key : String) :
    HoldsAt service id property (cache.delete key) :=
  fun entry there => holds entry (LruCache.mem_of_mem_delete there).1

theorem of_delete (service : Service) (id : Uuid) (property : BylinedArticle → Instant → Prop) (cache : LruCache) :
    HoldsAt service id property (cache.delete (service.key id)) := by
  intro entry there key
  exact absurd key (LruCache.mem_of_mem_delete there).2

end HoldsAt

namespace HoldsOnly

variable {property weaker : Uuid → BylinedArticle → Instant → Prop}

theorem of_empty (empty : cache.entries = []) : HoldsOnly service property cache := by
  intro id entry there
  rw [empty] at there
  cases there

theorem imp (holds : HoldsOnly service property cache)
    (implies : ∀ {id : Uuid} {article : BylinedArticle} {deadline : Instant},
      property id article deadline → weaker id article deadline) : HoldsOnly service weaker cache :=
  fun id => (holds id).imp implies

theorem get (holds : HoldsOnly service property cache) (now : Instant) (key : String) :
    HoldsOnly service property (cache.get now key).2 :=
  fun id => (holds id).get now key

theorem set {article : BylinedArticle} (holds : HoldsOnly service property cache)
    (has : ∀ {deadline : Instant}, now.after? service.ttl = some deadline → property id article deadline)
    (stored : cache.set now (service.key id) article.toCached service.ttl = .ok full) :
    HoldsOnly service property full := by
  intro other
  apply (holds other).set ?_ stored
  rintro rfl deadline reached
  exact has reached

/-- The property may give way to another that holds of all articles but the one that leaves the cache. -/
theorem delete (holds : HoldsOnly service property cache)
    (implies : ∀ {other : Uuid} {article : BylinedArticle} {deadline : Instant}, other ≠ id →
      property other article deadline → weaker other article deadline) :
    HoldsOnly service weaker (cache.delete (service.key id)) := by
  intro other
  by_cases same : other = id
  · rw [same]
    exact HoldsAt.of_delete service id (weaker id) cache
  · exact ((holds other).delete (service.key id)).imp (implies same)

end HoldsOnly

end Gazette
