import Gazette.Cache.Lru

/-!
# Entries of the cache in memory

What a request to `LruCache` leaves among its entries, and what a hit tells of them. An entry is never changed: a
request keeps it or drops it, and storing a value adds one in the place of those under its key.
-/

namespace Gazette

theorem nanoseconds_after? {now deadline : Instant} {span : Duration} (reached : now.after? span = some deadline) :
    deadline.nanoseconds = now.nanoseconds + span.total := by
  simp only [Instant.after?] at reached
  split at reached
  · cases reached
    rfl
  · cases reached

def CacheRequest.key : CacheRequest → String
  | get key => key
  | set key _ _ => key
  | delete key => key

namespace LruCache

variable {cache after : LruCache} {now : Instant} {key : String} {value : Bytes} {ttl : Duration} {entry : CacheEntry}

theorem mem_others : entry ∈ cache.others key ↔ entry ∈ cache.entries ∧ entry.key ≠ key := by
  simp [others]

theorem mem_of_found (found : cache.entry? key = some entry) : entry ∈ cache.entries ∧ entry.key = key := by
  have there := List.mem_of_find?_eq_some found
  have same := List.find?_some found
  exact ⟨there, by simpa using same⟩

/-- A hit is the value of an entry that has not expired. -/
theorem exists_entry_of_hit (hit : (cache.get now key).1 = some value) :
    ∃ entry ∈ cache.entries, entry.key = key ∧ entry.value = value ∧
      now.nanoseconds < entry.deadline.nanoseconds := by
  simp only [get] at hit
  cases found : cache.entry? key with
  | none => simp [found] at hit
  | some entry =>
    -- An entry is no hit once its time is over.
    obtain ⟨there, same⟩ := mem_of_found found
    simp only [found] at hit
    split at hit
    · cases hit
    · cases hit
      exact ⟨entry, there, same, rfl, by omega⟩

theorem mem_of_mem_get (there : entry ∈ (cache.get now key).2.entries) : entry ∈ cache.entries := by
  simp only [get] at there
  cases found : cache.entry? key with
  | none => simpa [found] using there
  | some hit =>
    simp only [found] at there
    -- What has expired is dropped, and a hit moves to the front.
    split at there
    · exact (mem_others.mp there).1
    · rcases List.mem_cons.mp there with rfl | other
      · exact (mem_of_found found).1
      · exact (mem_others.mp other).1

theorem mem_of_mem_delete (there : entry ∈ (cache.delete key).entries) : entry ∈ cache.entries ∧ entry.key ≠ key :=
  mem_others.mp there

/-- After a value is stored its entry is new, and every other entry is one that was there under another key. -/
theorem mem_of_mem_set (stored : cache.set now key value ttl = .ok after) (there : entry ∈ after.entries) :
    (∃ deadline, now.after? ttl = some deadline ∧ entry = ⟨key, value, deadline⟩) ∨
      entry ∈ cache.entries ∧ entry.key ≠ key := by
  cases reached : now.after? ttl with
  | none =>
    rw [set, reached] at stored
    cases stored
  | some deadline =>
    rw [set, reached] at stored
    obtain rfl := Except.ok.inj stored
    rcases List.mem_cons.mp (List.mem_of_mem_take there) with rfl | other
    · exact .inl ⟨deadline, rfl, rfl⟩
    · exact .inr (mem_others.mp other)

theorem get_of_head {capacity : Nat} {positive : 0 < capacity} {deadline : Instant} {entries : List CacheEntry}
    (key : String) (value : Bytes) (alive : now.nanoseconds < deadline.nanoseconds) :
    (LruCache.get now key ⟨capacity, positive, ⟨key, value, deadline⟩ :: entries⟩).1 = some value := by
  have later : ¬ deadline.nanoseconds ≤ now.nanoseconds := Nat.not_le.mpr alive
  simp [get, entry?, later]

theorem exists_set (key : String) (value : Bytes) (cache : LruCache) (reached : (now.after? ttl).isSome) :
    ∃ after, cache.set now key value ttl = .ok after := by
  obtain ⟨deadline, reading⟩ := Option.isSome_iff_exists.mp reached
  exact ⟨_, by rw [set, reading]⟩

theorem exists_deadline_of_set (stored : cache.set now key value ttl = .ok after) :
    ∃ deadline, now.after? ttl = some deadline := by
  cases reached : now.after? ttl with
  | none =>
    rw [set, reached] at stored
    cases stored
  | some deadline => exact ⟨deadline, rfl⟩

/-! ## Requests -/

theorem backend_get (now : Instant) (key : String) (cache : LruCache) :
    LruCache.backend now (.get key) cache = (.ok (.ok (cache.get now key).1), (cache.get now key).2) := rfl

theorem backend_delete (now : Instant) (key : String) (cache : LruCache) :
    LruCache.backend now (.delete key) cache = (.ok (.ok ()), cache.delete key) := rfl

theorem backend_set_of_eq_ok (stored : cache.set now key value ttl = .ok after) :
    LruCache.backend now (.set key value ttl) cache = (.ok (.ok ()), after) := by
  simp only [backend, stored]

theorem backend_set_eq_ok {reply : Except CacheError Unit}
    (answered : LruCache.backend now (.set key value ttl) cache = (.ok reply, after)) :
    cache.set now key value ttl = .ok after ∧ reply = .ok () := by
  simp only [backend] at answered
  cases stored : cache.set now key value ttl with
  | error crash =>
    rw [stored] at answered
    cases answered
  | ok full =>
    rw [stored] at answered
    cases answered
    exact ⟨rfl, rfl⟩

end LruCache

end Gazette
