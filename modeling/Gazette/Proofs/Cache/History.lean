import Gazette.Proofs.Cache.Lru

/-!
# What the cache in memory has been told

* `LruCache.run` and `LruCache.history`: the cache after requests, and what was asked and answered.
* `LruCache.StoredLast`: an entry is what was stored last under its key, and nothing has happened to that key since.
* `LruCache.stored_last_of_hit`: the cache keeps to its capacity and has no key twice, and a hit is the value stored
  last, neither deleted since nor past its time.
-/

namespace Gazette

structure CacheEvent where
  now : Instant
  request : CacheRequest
  outcome : CacheOutcome request.Answer

/-- A value was stored under the key, or what was there was deleted. What could not be stored changes nothing. -/
def CacheEvent.Changes (key : String) : CacheEvent → Prop
  | ⟨_, .set other _ _, .ok (.ok ())⟩ => other = key
  | ⟨_, .delete other, _⟩ => other = key
  | _ => False

instance (key : String) : DecidablePred (CacheEvent.Changes key)
  | ⟨_, .set other _ _, .ok (.ok ())⟩ => inferInstanceAs (Decidable (other = key))
  | ⟨_, .set _ _ _, .ok (.error _)⟩ => .isFalse id
  | ⟨_, .set _ _ _, .error _⟩ => .isFalse id
  | ⟨_, .get _, _⟩ => .isFalse id
  | ⟨_, .delete other, _⟩ => inferInstanceAs (Decidable (other = key))

namespace LruCache

def run : List (Instant × CacheRequest) → LruCache → LruCache
  | [], cache => cache
  | (now, request) :: steps, cache => run steps (LruCache.backend now request cache).2

def history : List (Instant × CacheRequest) → LruCache → List CacheEvent
  | [], _ => []
  | (now, request) :: steps, cache =>
    ⟨now, request, (LruCache.backend now request cache).1⟩ :: history steps (LruCache.backend now request cache).2

variable {cache after : LruCache} {past : List CacheEvent} {entry : CacheEntry} {now : Instant} {key : String}

/-! ## What an entry tells of the past -/

/-- The value was stored under the key, to expire at the deadline, and the key has not changed since. -/
def StoredLast (past : List CacheEvent) (entry : CacheEntry) : Prop :=
  ∃ before stored ttl since, past = before ++ ⟨stored, .set entry.key entry.value ttl, .ok (.ok ())⟩ :: since ∧
    (∀ event ∈ since, ¬ event.Changes entry.key) ∧ stored.after? ttl = some entry.deadline

/-- The cache has no more than it has room for, no key twice, and nothing but what it was told. -/
structure Truthful (past : List CacheEvent) (cache : LruCache) : Prop where
  fits : cache.size ≤ cache.capacity
  keyed : (cache.entries.map CacheEntry.key).Nodup
  told : ∀ entry ∈ cache.entries, StoredLast past entry

theorem StoredLast.append {event : CacheEvent} (told : StoredLast past entry) (other : ¬ event.Changes entry.key) :
    StoredLast (past ++ [event]) entry := by
  obtain ⟨before, stored, ttl, since, rfl, unchanged, reached⟩ := told
  refine ⟨before, stored, ttl, since ++ [event], by rw [List.append_assoc, List.cons_append], ?_, reached⟩
  intro later there
  rcases List.mem_append.mp there with earlier | last
  · exact unchanged later earlier
  · rw [List.mem_singleton.mp last]
    exact other

theorem stored_last_of_set {stored deadline : Instant} {ttl : Duration} {value : Bytes} (past : List CacheEvent)
    (reached : stored.after? ttl = some deadline) :
    StoredLast (past ++ [⟨stored, .set key value ttl, .ok (.ok ())⟩]) ⟨key, value, deadline⟩ :=
  ⟨past, stored, ttl, [], rfl, nofun, reached⟩

/-! ## Room and keys -/

theorem nodup_others (keyed : (cache.entries.map CacheEntry.key).Nodup) (key : String) :
    ((cache.others key).map CacheEntry.key).Nodup :=
  keyed.sublist (List.filter_sublist.map _)

/-- An entry in front of those under other keys. -/
theorem nodup_cons_others (keyed : (cache.entries.map CacheEntry.key).Nodup) (entry : CacheEntry) :
    ((entry :: cache.others entry.key).map CacheEntry.key).Nodup := by
  rw [List.map_cons, List.nodup_cons]
  refine ⟨?_, nodup_others keyed entry.key⟩
  intro there
  obtain ⟨other, among, same⟩ := List.mem_map.mp there
  exact (mem_others.mp among).2 same

theorem length_others_le (cache : LruCache) (key : String) : (cache.others key).length ≤ cache.size :=
  List.length_filter_le _ _

/-- An entry is not among the others. -/
theorem length_others_lt (there : entry ∈ cache.entries) : (cache.others entry.key).length < cache.size := by
  refine List.length_filter_lt_length_iff_exists.mpr ⟨entry, there, ?_⟩
  simp

/-- A look-up that finds nothing changes nothing. What it finds it drops if that has expired, and else gives and brings
to the front. -/
theorem get_cases (now : Instant) (key : String) (cache : LruCache) :
    (∀ entry ∈ cache.entries, entry.key ≠ key) ∧ cache.get now key = (none, cache) ∨
    ∃ entry ∈ cache.entries, entry.key = key ∧
      (entry.deadline.nanoseconds ≤ now.nanoseconds ∧
          cache.get now key = (none, { cache with entries := cache.others key }) ∨
        now.nanoseconds < entry.deadline.nanoseconds ∧
          cache.get now key = (some entry.value, { cache with entries := entry :: cache.others key })) := by
  simp only [get]
  cases found : cache.entry? key with
  | none =>
    refine .inl ⟨?_, rfl⟩
    simpa [ entry?] using found
  | some entry =>
    obtain ⟨there, same⟩ := mem_of_found found
    refine .inr ⟨entry, there, same, ?_⟩
    by_cases expired : entry.deadline.nanoseconds ≤ now.nanoseconds
    · exact .inl ⟨expired, if_pos expired⟩
    · exact .inr ⟨Nat.not_le.mp expired, if_neg expired⟩

/-! ## One request -/

namespace Truthful

theorem get (truthful : Truthful past cache) (now : Instant) (key : String) :
    Truthful (past ++ [⟨now, .get key, .ok (.ok (cache.get now key).1)⟩]) (cache.get now key).2 := by
  have told (entry : CacheEntry) (there : entry ∈ (cache.get now key).2.entries) :
      StoredLast (past ++ [⟨now, .get key, .ok (.ok (cache.get now key).1)⟩]) entry :=
    (truthful.told entry (mem_of_mem_get there)).append id
  have fits := truthful.fits
  rcases get_cases now key cache with ⟨_, same⟩ | ⟨entry, there, rfl, ⟨_, dropped⟩ | ⟨_, front⟩⟩
  · rw [same] at told ⊢
    exact ⟨truthful.fits, truthful.keyed, told⟩
  · rw [dropped] at told ⊢
    exact ⟨Nat.le_trans (length_others_le cache _) fits, nodup_others truthful.keyed _, told⟩
  · rw [front] at told ⊢
    exact ⟨Nat.lt_of_lt_of_le (length_others_lt there) fits, nodup_cons_others truthful.keyed entry, told⟩

theorem set {ttl : Duration} {value : Bytes} (truthful : Truthful past cache)
    (stored : cache.set now key value ttl = .ok after) :
    Truthful (past ++ [⟨now, .set key value ttl, .ok (.ok ())⟩]) after := by
  have told (entry : CacheEntry) (there : entry ∈ after.entries) :
      StoredLast (past ++ [⟨now, .set key value ttl, .ok (.ok ())⟩]) entry := by
    rcases mem_of_mem_set stored there with ⟨deadline, reached, rfl⟩ | ⟨old, other⟩
    · exact stored_last_of_set past reached
    · exact (truthful.told entry old).append fun same => other same.symm
  cases reached : now.after? ttl with
  | none =>
    rw [LruCache.set, reached] at stored
    cases stored
  | some deadline =>
    rw [LruCache.set, reached] at stored
    obtain rfl := Except.ok.inj stored
    refine ⟨List.length_take_le .., ?_, told⟩
    -- What is stored last is cut off, so that no key comes in by that.
    exact (nodup_cons_others truthful.keyed ⟨key, value, deadline⟩).sublist ((List.take_sublist _ _).map _)

theorem delete (truthful : Truthful past cache) (now : Instant) (key : String) :
    Truthful (past ++ [⟨now, .delete key, .ok (.ok ())⟩]) (cache.delete key) where
  fits := Nat.le_trans (length_others_le cache key) truthful.fits
  keyed := nodup_others truthful.keyed key
  told entry there :=
    have kept := mem_of_mem_delete there
    (truthful.told entry kept.1).append fun same => kept.2 same.symm

/-- Every request leaves the cache truthful to what it has been told then. -/
theorem step (truthful : Truthful past cache) (now : Instant) (request : CacheRequest) :
    Truthful (past ++ [⟨now, request, (LruCache.backend now request cache).1⟩])
      (LruCache.backend now request cache).2 := by
  cases request with
  | get key => exact truthful.get now key
  | delete key => exact truthful.delete now key
  | set key value ttl =>
    cases stored : cache.set now key value ttl with
    | ok after =>
      rw [backend_set_of_eq_ok stored]
      exact truthful.set stored
    | error crash =>
      have crashes : LruCache.backend now (.set key value ttl) cache = (.error crash, cache) := by
        simp only [backend, stored]
      rw [crashes]
      exact ⟨truthful.fits, truthful.keyed, fun entry there => (truthful.told entry there).append id⟩

/-! ## Runs -/

theorem run (truthful : Truthful past cache) (steps : List (Instant × CacheRequest)) :
    Truthful (past ++ history steps cache) (run steps cache) := by
  induction steps generalizing past cache with
  | nil =>
    rw [history, List.append_nil]
    exact truthful
  | cons first steps inductionHypothesis =>
    have later := inductionHypothesis (truthful.step first.1 first.2)
    rw [List.append_assoc, List.singleton_append] at later
    exact later

/-- Whatever is hit among the requests was told before. -/
theorem stored_last_of_mem {steps : List (Instant × CacheRequest)} {more later : List CacheEvent} {value : Bytes}
    (truthful : Truthful past cache)
    (split : history steps cache = more ++ ⟨now, .get key, .ok (.ok (some value))⟩ :: later) :
    ∃ entry, StoredLast (past ++ more) entry ∧ entry.key = key ∧ entry.value = value ∧
      now.nanoseconds < entry.deadline.nanoseconds := by
  induction steps generalizing past cache more with
  | nil => simp [history] at split
  | cons first steps inductionHypothesis =>
    obtain ⟨time, request⟩ := first
    rw [history] at split
    cases more with
    | nil =>
      -- The first request is the look-up, and its hit is among the entries of the cache.
      obtain ⟨rfl, rfl, hit⟩ := CacheEvent.mk.inj (List.cons.inj split).1
      have answered : (cache.get time key).1 = some value := Except.ok.inj (Except.ok.inj (eq_of_heq hit))
      obtain ⟨entry, there, same, written, alive⟩ := exists_entry_of_hit answered
      rw [List.append_nil]
      exact ⟨entry, truthful.told entry there, same, written, alive⟩
    | cons event more =>
      rw [List.cons_append] at split
      obtain ⟨rfl, rest⟩ := List.cons.inj split
      have told := inductionHypothesis (truthful.step time request) rest
      rw [List.append_assoc, List.singleton_append] at told
      exact told

end Truthful

theorem capacity_backend (now : Instant) (request : CacheRequest) (cache : LruCache) :
    (LruCache.backend now request cache).2.capacity = cache.capacity := by
  cases request with
  | get key =>
    rw [backend_get]
    rcases get_cases now key cache with ⟨_, same⟩ | ⟨entry, _, _, ⟨_, dropped⟩ | ⟨_, front⟩⟩
    · rw [same]
    · rw [dropped]
    · rw [front]
  | delete key => rfl
  | set key value ttl =>
    simp only [backend, set]
    cases now.after? ttl <;> rfl

theorem run_append (steps : List (Instant × CacheRequest)) (now : Instant) (request : CacheRequest)
    (cache : LruCache) :
    run (steps ++ [(now, request)]) cache = (LruCache.backend now request (run steps cache)).2 := by
  induction steps generalizing cache with
  | nil => rfl
  | cons step steps inductionHypothesis => exact inductionHypothesis _

theorem capacity_run (steps : List (Instant × CacheRequest)) (cache : LruCache) :
    (run steps cache).capacity = cache.capacity := by
  induction steps generalizing cache with
  | nil => rfl
  | cons first steps inductionHypothesis => exact (inductionHypothesis _).trans (capacity_backend ..)

/-- Whatever is asked of an empty cache, it keeps to its capacity and has no key twice, and a hit is the value that
was stored last under its key, neither deleted since nor past its time. -/
theorem stored_last_of_hit {capacity : Nat} (positive : 0 < capacity) (steps : List (Instant × CacheRequest)) :
    (run steps ⟨capacity, positive, []⟩).size ≤ capacity ∧
    ((run steps ⟨capacity, positive, []⟩).entries.map CacheEntry.key).Nodup ∧
    ∀ (past later : List CacheEvent) (now : Instant) (key : String) (value : Bytes),
      history steps ⟨capacity, positive, []⟩ = past ++ ⟨now, .get key, .ok (.ok (some value))⟩ :: later →
        ∃ before stored ttl since, past = before ++ ⟨stored, .set key value ttl, .ok (.ok ())⟩ :: since ∧
          (∀ event ∈ since, ¬ event.Changes key) ∧ now.nanoseconds < stored.nanoseconds + ttl.total := by
  have empty : Truthful [] ⟨capacity, positive, []⟩ := ⟨Nat.zero_le _, List.nodup_nil, nofun⟩
  have whole := empty.run steps
  refine ⟨?_, whole.keyed, ?_⟩
  · have room := whole.fits
    rwa [capacity_run] at room
  · intro past later now key value split
    obtain ⟨entry, told, rfl, rfl, alive⟩ := empty.stored_last_of_mem split
    obtain ⟨before, stored, ttl, since, told, unchanged, reached⟩ := told
    rw [nanoseconds_after? reached] at alive
    exact ⟨before, stored, ttl, since, told, unchanged, alive⟩

/-- A value that is replaced, one that is deleted and one that would expire after the last reading of the clock. -/
def someRequests : List (Instant × CacheRequest) :=
  [(⟨1⟩, .set "notes" [1] (.ofSeconds 1)), (⟨2⟩, .set "cards" [2] (.ofSeconds 1)),
    (⟨3⟩, .set "notes" [3] (.ofSeconds 2)), (⟨4⟩, .delete "cards"),
    (⟨5⟩, .set "notes" [4] (.ofSeconds 0xFFFFFFFFFFFFFFFF))]

theorem stored_last_of_hit_someRequests :
    0 < 2 ∧ history (someRequests ++ [(⟨2000000002⟩, .get "notes")]) ⟨2, Nat.two_pos, []⟩
        = history someRequests ⟨2, Nat.two_pos, []⟩ ++ [⟨⟨2000000002⟩, .get "notes", .ok (.ok (some [3]))⟩] ∧
      ∃ before stored ttl since, history someRequests ⟨2, Nat.two_pos, []⟩
          = before ++ ⟨stored, .set "notes" [3] ttl, .ok (.ok ())⟩ :: since ∧
        (∀ event ∈ since, ¬ event.Changes "notes") ∧ 2000000002 < stored.nanoseconds + ttl.total := by
  have hit : history (someRequests ++ [(⟨2000000002⟩, .get "notes")]) ⟨2, Nat.two_pos, []⟩
      = history someRequests ⟨2, Nat.two_pos, []⟩ ++ [⟨⟨2000000002⟩, .get "notes", .ok (.ok (some [3]))⟩] := rfl
  exact ⟨Nat.two_pos, hit, (stored_last_of_hit Nat.two_pos _).2.2 _ _ _ _ _ hit⟩

end LruCache

end Gazette
