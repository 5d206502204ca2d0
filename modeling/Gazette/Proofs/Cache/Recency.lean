import Gazette.Proofs.Cache.History
import Mathlib.Data.Finset.Card

/-!
# What the cache in memory keeps

* `CacheEntry.Trails`: an entry stands in a list, behind entries under some keys and no others.
* `CacheEvent.used?` and `LruCache.usedSince`: the key that a request uses, and the keys used after one was used last.
* `LruCache.hit_of_used_lately`: a value is a hit until it expires, as long as not too many other keys have been used
  since its own was.

An entry moves back in the list only when another one is put in front of it, which uses the key of that one.
-/

namespace Gazette

/-! ## Places in the list -/

/-- The entry stands among these, and whatever stands in front of it is under one of the keys. -/
def CacheEntry.Trails (keys : List String) (entries : List CacheEntry) (entry : CacheEntry) : Prop :=
  ∃ front back, entries = front ++ entry :: back ∧ ∀ other ∈ front, other.key ∈ keys

variable {cache : LruCache} {entry : CacheEntry} {entries : List CacheEntry} {keys : List String} {key : String}
  {now : Instant}

namespace CacheEntry.Trails

theorem front (entry : CacheEntry) (entries : List CacheEntry) : entry.Trails [] (entry :: entries) :=
  ⟨[], entries, rfl, nofun⟩

theorem mem (trails : entry.Trails keys entries) : entry ∈ entries := by
  obtain ⟨front, back, rfl, _⟩ := trails
  simp

theorem cons (trails : entry.Trails keys entries) (first : CacheEntry) :
    entry.Trails (first.key :: keys) (first :: entries) := by
  obtain ⟨front, back, rfl, known⟩ := trails
  refine ⟨first :: front, back, rfl, ?_⟩
  intro other there
  rcases List.mem_cons.mp there with rfl | behind
  · exact List.mem_cons_self
  · exact List.mem_cons_of_mem first.key (known other behind)

theorem others (trails : entry.Trails keys cache.entries) (apart : entry.key ≠ key) :
    entry.Trails keys (cache.others key) := by
  obtain ⟨front, back, split, known⟩ := trails
  refine ⟨front.filter (·.key ≠ key), back.filter (·.key ≠ key), ?_, fun other there =>
    known other (List.mem_of_mem_filter there)⟩
  rw [LruCache.others, split, List.filter_append, List.filter_cons_of_pos (by simpa using apart)]

/-- Entries with different keys are in front of it, so that it is not cut off as long as there are fewer keys. -/
theorem take {count : Nat} (trails : entry.Trails keys entries) (keyed : (entries.map CacheEntry.key).Nodup)
    (few : keys.toFinset.card < count) : entry.Trails keys (entries.take count) := by
  obtain ⟨front, back, rfl, known⟩ := trails
  rw [List.map_append] at keyed
  have room : front.length < count := by
    calc front.length = (front.map CacheEntry.key).toFinset.card := by
          rw [List.toFinset_card_of_nodup keyed.of_append_left, List.length_map]
      _ ≤ keys.toFinset.card := by
          apply Finset.card_le_card
          intro key there
          obtain ⟨other, among, rfl⟩ := List.mem_map.mp (List.mem_toFinset.mp there)
          exact List.mem_toFinset.mpr (known other among)
      _ < count := few
  obtain ⟨rest, rfl⟩ := Nat.exists_eq_add_of_lt room
  refine ⟨front, back.take rest, ?_, known⟩
  rw [Nat.add_assoc, List.take_length_add_append, List.take_succ_cons]

end CacheEntry.Trails

/-! ## What a request uses -/

/-- The key that a request has used: a value was stored under it, or a look-up of it was a hit. -/
def CacheEvent.used? : CacheEvent → Option String
  | ⟨_, .set key _ _, .ok (.ok ())⟩ => some key
  | ⟨_, .get key, .ok (.ok (some _))⟩ => some key
  | _ => none

/-- The keys that were used after the last use of this one, the latest first. -/
def LruCache.usedSince (key : String) (past : List CacheEvent) : List String :=
  (past.reverse.filterMap CacheEvent.used?).takeWhile (· ≠ key)

namespace LruCache

/-! ## One request -/

theorem get_of_trails (keyed : (cache.entries.map CacheEntry.key).Nodup) (trails : entry.Trails keys cache.entries)
    (alive : now.nanoseconds < entry.deadline.nanoseconds) :
    cache.get now entry.key = (some entry.value, { cache with entries := entry :: cache.others entry.key }) := by
  rcases get_cases now entry.key cache with ⟨absent, _⟩ | ⟨found, there, same, outcome⟩
  · exact absurd rfl (absent entry trails.mem)
  · obtain rfl : found = entry := List.inj_on_of_nodup_map keyed there trails.mem same
    rcases outcome with ⟨expired, _⟩ | ⟨_, hit⟩
    · exact absurd alive (Nat.not_lt.mpr expired)
    · exact hit

end LruCache

/-- A request for another key leaves an entry where it is or puts the key in front of it. -/
theorem CacheEntry.Trails.step {request : CacheRequest} (trails : entry.Trails keys cache.entries)
    (keyed : (cache.entries.map CacheEntry.key).Nodup) (apart : entry.key ≠ request.key)
    (few : ((CacheEvent.mk now request (LruCache.backend now request cache).1).used?.toList ++ keys).toFinset.card
      < cache.capacity) :
    entry.Trails ((CacheEvent.mk now request (LruCache.backend now request cache).1).used?.toList ++ keys)
      (LruCache.backend now request cache).2.entries := by
  cases request with
  | get key =>
    rw [LruCache.backend_get] at few ⊢
    rcases LruCache.get_cases now key cache with ⟨_, same⟩ | ⟨found, _, rfl, ⟨_, dropped⟩ | ⟨_, hit⟩⟩
    · rw [same]
      exact trails
    · rw [dropped]
      exact trails.others apart
    · rw [hit]
      exact (trails.others apart).cons found
  | delete key => exact trails.others apart
  | set key value ttl =>
    cases reached : now.after? ttl with
    | none =>
      simp only [LruCache.backend, LruCache.set, reached]
      exact trails
    | some deadline =>
      simp only [LruCache.backend, LruCache.set, reached] at few ⊢
      exact ((trails.others apart).cons ⟨key, value, deadline⟩).take
        (LruCache.nodup_cons_others keyed ⟨key, value, deadline⟩) few

theorem CacheEvent.key_of_used {event : CacheEvent} (used : event.used? = some key) : event.request.key = key := by
  simp only [used?] at used
  split at used
  · exact Option.some.inj used
  · exact Option.some.inj used
  · cases used

namespace LruCache

variable {past : List CacheEvent} {event : CacheEvent} {limit : Instant}

/-! ## What was stored last -/

/-- What was stored last after one more request was stored by it, or was stored last before. -/
theorem StoredLast.of_append (told : StoredLast (past ++ [event]) entry) :
    (∃ stored ttl, event = ⟨stored, .set entry.key entry.value ttl, .ok (.ok ())⟩ ∧
        stored.after? ttl = some entry.deadline) ∨
      StoredLast past entry ∧ ¬ event.Changes entry.key := by
  obtain ⟨before, stored, ttl, since, split, unchanged, reached⟩ := told
  rcases List.eq_nil_or_concat since with rfl | ⟨middle, last, rfl⟩
  · obtain ⟨_, same⟩ := List.append_inj' split rfl
    exact .inl ⟨stored, ttl, List.head_eq_of_cons_eq same, reached⟩
  · rw [List.concat_eq_append, ← List.cons_append, ← List.append_assoc] at split
    obtain ⟨rfl, same⟩ := List.append_inj' split rfl
    obtain rfl := List.head_eq_of_cons_eq same
    refine .inr ⟨⟨before, stored, ttl, middle, rfl, fun other there => unchanged other ?_, reached⟩, unchanged event ?_⟩
    · simp [there]
    · simp

theorem StoredLast.unique {other : CacheEntry} (told : StoredLast past entry) (otherTold : StoredLast past other)
    (same : entry.key = other.key) : entry = other := by
  induction past using List.reverseRecOn with
  | nil =>
    obtain ⟨before, stored, ttl, since, split, _⟩ := told
    simp at split
  | append_singleton past event inductionHypothesis =>
    rcases told.of_append with ⟨stored, ttl, rfl, reached⟩ | ⟨earlier, unchanged⟩
    · rcases otherTold.of_append with ⟨otherStored, otherTtl, again, otherReached⟩ | ⟨_, unchanged⟩
      · obtain ⟨rfl, sameRequest, _⟩ := CacheEvent.mk.inj again
        obtain ⟨_, sameValue, rfl⟩ := CacheRequest.set.inj sameRequest
        have sameDeadline := Option.some.inj (reached.symm.trans otherReached)
        cases entry
        cases other
        simp_all
      · exact absurd same unchanged
    · rcases otherTold.of_append with ⟨otherStored, otherTtl, rfl, _⟩ | ⟨otherEarlier, _⟩
      · exact absurd same.symm unchanged
      · exact inductionHypothesis earlier otherEarlier

/-! ## What was used since -/

theorem usedSince_append_self (past : List CacheEvent) (used : event.used? = some key) :
    usedSince key (past ++ [event]) = [] := by
  simp [usedSince, used]

theorem usedSince_append_of_ne (past : List CacheEvent) (other : event.used? ≠ some key) :
    usedSince key (past ++ [event]) = event.used?.toList ++ usedSince key past := by
  cases used : event.used? with
  | none => simp [usedSince, used]
  | some first =>
    have apart : first ≠ key := fun same => other (used.trans (congrArg some same))
    simp [usedSince, used, apart]

theorem usedSince_append_of_none (key : String) (past : List CacheEvent) (unused : event.used? = none) :
    usedSince key (past ++ [event]) = usedSince key past := by
  simp [usedSince, unused]

/-- What was stored last under its key is behind what was used since, as long as it does not expire before a time and
there is room for all that was used. -/
def Retains (limit : Instant) (past : List CacheEvent) (cache : LruCache) : Prop :=
  ∀ entry, StoredLast past entry → limit.nanoseconds < entry.deadline.nanoseconds →
    (usedSince entry.key past).toFinset.card < cache.capacity →
      entry.Trails (usedSince entry.key past) cache.entries

/-- Until it expires, a look-up finds what was stored last or nothing. -/
theorem get_of_told (truthful : Truthful past cache) (told : StoredLast past entry)
    (alive : now.nanoseconds < entry.deadline.nanoseconds) :
    cache.get now entry.key = (none, cache) ∨
      cache.get now entry.key = (some entry.value, { cache with entries := entry :: cache.others entry.key }) := by
  rcases get_cases now entry.key cache with ⟨_, missed⟩ | ⟨found, there, same, outcome⟩
  · exact .inl missed
  · obtain rfl : found = entry := (truthful.told found there).unique told same
    rcases outcome with ⟨expired, _⟩ | ⟨_, hit⟩
    · exact absurd alive (Nat.not_lt.mpr expired)
    · exact .inr hit

namespace Retains

/-- A request for the key of an entry that does not change what is stored there: it is a look-up, or comes to nothing. -/
theorem step_same {request : CacheRequest} (retains : Retains limit past cache) (truthful : Truthful past cache)
    (told : StoredLast past entry) (alive : limit.nanoseconds < entry.deadline.nanoseconds)
    (forward : now.nanoseconds ≤ limit.nanoseconds)
    (unchanged : ¬ (CacheEvent.mk now request (LruCache.backend now request cache).1).Changes entry.key)
    (same : request.key = entry.key)
    (few : (usedSince entry.key (past ++ [⟨now, request, (LruCache.backend now request cache).1⟩])).toFinset.card
      < cache.capacity) :
    entry.Trails (usedSince entry.key (past ++ [⟨now, request, (LruCache.backend now request cache).1⟩]))
      (LruCache.backend now request cache).2.entries := by
  cases request with
  | get key =>
    obtain rfl : key = entry.key := same
    rw [backend_get] at few ⊢
    rcases get_of_told truthful told (Nat.lt_of_le_of_lt forward alive) with missed | hit
    · rw [missed, usedSince_append_of_none entry.key past rfl] at few ⊢
      exact retains entry told alive few
    · rw [hit, usedSince_append_self past rfl]
      exact .front entry _
  | delete key => exact absurd same unchanged
  | set key value ttl =>
    cases reached : now.after? ttl with
    | none =>
      simp only [LruCache.backend, LruCache.set, reached] at few ⊢
      rw [usedSince_append_of_none entry.key past rfl] at few ⊢
      exact retains entry told alive few
    | some deadline =>
      simp only [LruCache.backend, LruCache.set, reached] at unchanged
      exact absurd same unchanged

theorem step {request : CacheRequest} (retains : Retains limit past cache) (truthful : Truthful past cache)
    (forward : now.nanoseconds ≤ limit.nanoseconds) :
    Retains limit (past ++ [⟨now, request, (LruCache.backend now request cache).1⟩])
      (LruCache.backend now request cache).2 := by
  intro entry told alive few
  rw [capacity_backend] at few
  rcases told.of_append with ⟨stored, ttl, stores, reached⟩ | ⟨told, unchanged⟩
  · -- It was stored just now and is in front.
    obtain ⟨rfl, rfl, _⟩ := CacheEvent.mk.inj stores
    rw [stores, usedSince_append_self past rfl]
    simp only [LruCache.backend, LruCache.set, reached]
    obtain ⟨rest, room⟩ := Nat.exists_eq_add_of_lt cache.capacity_pos
    rw [room, List.take_succ_cons]
    exact .front entry _
  · by_cases same : request.key = entry.key
    · exact retains.step_same truthful told alive forward unchanged same few
    · have other : (CacheEvent.mk now request (LruCache.backend now request cache).1).used? ≠ some entry.key :=
        fun used => same (CacheEvent.key_of_used used)
      rw [usedSince_append_of_ne past other] at few ⊢
      -- Before the request no more keys had been used than after it.
      have before : (usedSince entry.key past).toFinset.card < cache.capacity := by
        refine Nat.lt_of_le_of_lt (Finset.card_le_card ?_) few
        rw [List.toFinset_append]
        exact Finset.subset_union_right
      exact (retains entry told alive before).step truthful.keyed (Ne.symm same) few

theorem run {steps : List (Instant × CacheRequest)} (retains : Retains limit past cache)
    (truthful : Truthful past cache) (forward : ∀ step ∈ steps, step.1.nanoseconds ≤ limit.nanoseconds) :
    Retains limit (past ++ history steps cache) (LruCache.run steps cache) := by
  induction steps generalizing past cache with
  | nil =>
    rw [history, List.append_nil]
    exact retains
  | cons first steps inductionHypothesis =>
    have later := inductionHypothesis (retains.step truthful (forward first List.mem_cons_self))
      (truthful.step first.1 first.2) fun step there => forward step (List.mem_cons_of_mem first there)
    rw [List.append_assoc, List.singleton_append] at later
    exact later

end Retains

/-! ## Runs -/

/-- What was stored will expire at a time that the clock can tell. -/
theorem exists_deadline_of_mem {steps : List (Instant × CacheRequest)} {stored : Instant} {value : Bytes}
    {ttl : Duration} (there : ⟨stored, .set key value ttl, .ok (.ok ())⟩ ∈ history steps cache) :
    ∃ deadline, stored.after? ttl = some deadline := by
  induction steps generalizing cache with
  | nil => cases there
  | cons first steps inductionHypothesis =>
    rcases List.mem_cons.mp there with now | later
    · obtain ⟨time, request⟩ := first
      obtain ⟨rfl, rfl, outcome⟩ := CacheEvent.mk.inj now
      cases reached : stored.after? ttl with
      | some deadline => exact ⟨deadline, rfl⟩
      | none =>
        simp only [LruCache.backend, LruCache.set, reached] at outcome
        cases outcome
    · exact inductionHypothesis later

/-- Whatever is asked of an empty cache: the value that was stored last under a key and has not been deleted since is a
hit until it expires, as long as there is room for all other keys that were used since its own was. What has been asked
before was asked no later. -/
theorem hit_of_used_lately {capacity : Nat} (positive : 0 < capacity) (steps : List (Instant × CacheRequest))
    {before since : List CacheEvent} {stored : Instant} {value : Bytes} {ttl : Duration}
    (split : history steps ⟨capacity, positive, []⟩
      = before ++ ⟨stored, .set key value ttl, .ok (.ok ())⟩ :: since)
    (unchanged : ∀ event ∈ since, ¬ event.Changes key)
    (alive : now.nanoseconds < stored.nanoseconds + ttl.total)
    (forward : ∀ step ∈ steps, step.1.nanoseconds ≤ now.nanoseconds)
    (few : (usedSince key (history steps ⟨capacity, positive, []⟩)).toFinset.card < capacity) :
    ((run steps ⟨capacity, positive, []⟩).get now key).1 = some value := by
  have empty : Truthful [] ⟨capacity, positive, []⟩ := ⟨Nat.zero_le _, List.nodup_nil, nofun⟩
  have begun : Retains now [] ⟨capacity, positive, []⟩ := by
    rintro entry ⟨before, stored, ttl, since, nothing, _⟩
    simp at nothing
  obtain ⟨deadline, reached⟩ := exists_deadline_of_mem (split ▸ List.mem_append_right before List.mem_cons_self)
  rw [← nanoseconds_after? reached] at alive
  have told : StoredLast (history steps ⟨capacity, positive, []⟩) ⟨key, value, deadline⟩ :=
    ⟨before, stored, ttl, since, split, unchanged, reached⟩
  have trails := begun.run empty forward ⟨key, value, deadline⟩ told alive (by rwa [capacity_run])
  exact congrArg Prod.fst (get_of_trails (empty.run steps).keyed trails alive)

/-- The cards are used twice after the notes were looked up, and nothing else that is asked for then is there. -/
def someUses : List (Instant × CacheRequest) :=
  [(⟨1⟩, .set "notes" [1] (.ofSeconds 1)), (⟨2⟩, .set "notes" [2] (.ofSeconds 2)),
    (⟨3⟩, .set "cards" [3] (.ofSeconds 9)), (⟨4⟩, .get "notes"), (⟨5⟩, .get "maps"), (⟨6⟩, .delete "maps"),
    (⟨7⟩, .get "cards"), (⟨8⟩, .set "cards" [4] (.ofSeconds 1))]

theorem hit_of_used_lately_someUses :
    (∃ before since, history someUses ⟨2, Nat.two_pos, []⟩
        = before ++ ⟨⟨2⟩, .set "notes" [2] (.ofSeconds 2), .ok (.ok ())⟩ :: since ∧
      ∀ event ∈ since, ¬ event.Changes "notes") ∧
    (∀ step ∈ someUses, step.1.nanoseconds ≤ 2000000001) ∧
    usedSince "notes" (history someUses ⟨2, Nat.two_pos, []⟩) = ["cards", "cards"] ∧
    ((run someUses ⟨2, Nat.two_pos, []⟩).get ⟨2000000001⟩ "notes").1 = some [2] := by
  have split : history someUses ⟨2, Nat.two_pos, []⟩
      = [⟨⟨1⟩, .set "notes" [1] (.ofSeconds 1), .ok (.ok ())⟩] ++
        ⟨⟨2⟩, .set "notes" [2] (.ofSeconds 2), .ok (.ok ())⟩ :: history (someUses.drop 2)
          (run (someUses.take 2) ⟨2, Nat.two_pos, []⟩) := rfl
  have unchanged : ∀ event ∈ history (someUses.drop 2) (run (someUses.take 2) ⟨2, Nat.two_pos, []⟩),
      ¬ event.Changes "notes" := by decide
  have used : usedSince "notes" (history someUses ⟨2, Nat.two_pos, []⟩) = ["cards", "cards"] := rfl
  have forward : ∀ step ∈ someUses, step.1.nanoseconds ≤ 2000000001 := by decide
  exact ⟨⟨_, _, split, unchanged⟩, forward, used,
    hit_of_used_lately Nat.two_pos someUses split unchanged (by decide) forward (by rw [used]; decide)⟩

/-- A third key takes the place of the one that was used longest ago. -/
example : ((run (someUses ++ [(⟨9⟩, .set "maps" [5] (.ofSeconds 1))]) ⟨2, Nat.two_pos, []⟩).get ⟨10⟩ "notes").1 = none :=
  rfl

end LruCache

end Gazette
