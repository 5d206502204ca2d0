import Gazette.Proofs.Cache.History
import Mathlib.Data.List.Nodup

/-!
# Caches of different capacities

* `LruCache.Includes`: one cache has the entries of another in the same order, and has not got more entries beyond
  those than it has room beyond that one's.
* `LruCache.Includes.step`: a request keeps to that, and what it hits in the smaller cache it hits in the larger one.
* `LruCache.included_of_le`: so a cache with more room gives all that one with less room gives.

A look-up may hit in the larger cache alone, so that the entries of the smaller one need not be the first ones of the
larger one. What counts is how many entries the larger one has beyond them: a value that leaves room free in the
smaller cache leaves room free in the larger one.
-/

namespace Gazette.LruCache

variable {large small after : LruCache} {now : Instant} {key : String}

/-- Where less is cut off the end of a list than off the end of one within it, what is left is still within it. -/
theorem take_sublist_take {α : Type} {inner outer : List α} {few many : Nat} (within : inner.Sublist outer)
    (room : outer.length + few ≤ inner.length + many) : (inner.take few).Sublist (outer.take many) := by
  induction within generalizing few many with
  | slnil => simp
  | cons first within inductionHypothesis =>
    have shorter := within.length_le
    simp only [List.length_cons] at room
    obtain ⟨rest, rfl⟩ : ∃ rest, many = rest + 1 := ⟨many - 1, by omega⟩
    rw [List.take_succ_cons]
    exact (inductionHypothesis (by omega)).cons first
  | cons_cons first within inductionHypothesis =>
    have shorter := within.length_le
    simp only [List.length_cons] at room
    cases few with
    | zero => simp
    | succ few =>
      obtain ⟨rest, rfl⟩ : ∃ rest, many = rest + 1 := ⟨many - 1, by omega⟩
      rw [List.take_succ_cons, List.take_succ_cons]
      exact (inductionHypothesis (by omega)).cons_cons first

/-- The larger cache has the entries of the smaller one in the same order, and has at most as many others as it has
room beyond that of the smaller one. -/
structure Includes (large small : LruCache) : Prop where
  ordered : small.entries.Sublist large.entries
  keyed : (large.entries.map CacheEntry.key).Nodup
  room : large.size + small.capacity ≤ small.size + large.capacity

/-- As many entries are under another key as there are without those under this one. -/
theorem length_others_add_countP (cache : LruCache) (key : String) :
    (cache.others key).length + cache.entries.countP (·.key = key) = cache.size := by
  have parts := List.length_eq_countP_add_countP (fun entry : CacheEntry => entry.key = key) (l := cache.entries)
  rw [size, parts, others, ← List.countP_eq_length_filter, Nat.add_comm]
  simp

namespace Includes

/-- No key is lost from the smaller cache alone. -/
theorem length_others (includes : Includes large small) (key : String) :
    (large.others key).length + small.capacity ≤ (small.others key).length + large.capacity := by
  have room := includes.room
  have fewer := includes.ordered.countP_le (p := fun entry => decide (entry.key = key))
  have ofLarge := large.length_others_add_countP key
  have ofSmall := small.length_others_add_countP key
  omega

theorem others (includes : Includes large small) (key : String) : (small.others key).Sublist (large.others key) :=
  includes.ordered.filter _

theorem delete (includes : Includes large small) (key : String) : Includes (large.delete key) (small.delete key) where
  ordered := includes.others key
  keyed := nodup_others includes.keyed key
  room := includes.length_others key

/-- The same entry is put in front of the others in both caches, and what has no room is cut off. -/
theorem put (includes : Includes large small) (entry : CacheEntry) :
    Includes { large with entries := (entry :: large.others entry.key).take large.capacity }
      { small with entries := (entry :: small.others entry.key).take small.capacity } where
  ordered := by
    apply take_sublist_take ((includes.others entry.key).cons_cons entry)
    have room := includes.length_others entry.key
    simp only [List.length_cons]
    omega
  keyed := (nodup_cons_others includes.keyed entry).sublist ((List.take_sublist _ _).map _)
  room := by
    have room := includes.length_others entry.key
    simp only [size, List.length_take, List.length_cons]
    omega

/-- A hit in both caches brings the same entry to the front in both. -/
theorem bringToFront (includes : Includes large small) (entry : CacheEntry) :
    Includes { large with entries := entry :: large.others entry.key }
      { small with entries := entry :: small.others entry.key } where
  ordered := (includes.others entry.key).cons_cons entry
  keyed := nodup_cons_others includes.keyed entry
  room := by
    have room := includes.length_others entry.key
    simp only [size, List.length_cons]
    omega

/-- Without entries under a key, the smaller cache does not notice what becomes of one in the larger cache. -/
theorem ordered_others (includes : Includes large small) (absent : ∀ entry ∈ small.entries, entry.key ≠ key) :
    small.entries.Sublist (large.others key) := by
  have all : small.others key = small.entries := List.filter_eq_self.mpr (by simpa using absent)
  rw [← all]
  exact includes.others key

theorem get (includes : Includes large small) (now : Instant) (key : String) :
    Includes (large.get now key).2 (small.get now key).2 ∧
      ∀ value, (small.get now key).1 = some value → (large.get now key).1 = some value := by
  have room := includes.room
  rcases get_cases now key small with ⟨absent, missed⟩ | ⟨entry, there, rfl, outcome⟩
  · -- Only the larger cache may hold the key. What it does with the entry takes no room away.
    have within := includes.ordered_others absent
    rw [missed]
    refine ⟨?_, nofun⟩
    rcases get_cases now key large with ⟨_, alsoMissed⟩ | ⟨found, held, rfl, ⟨_, dropped⟩ | ⟨_, hit⟩⟩
    · rw [alsoMissed]
      exact includes
    · have fewer := large.length_others_le found.key
      rw [dropped]
      refine ⟨within, nodup_others includes.keyed found.key, ?_⟩
      simp only [size] at room fewer ⊢
      omega
    · have fewer := length_others_lt held
      rw [hit]
      refine ⟨within.cons found, nodup_cons_others includes.keyed found, ?_⟩
      simp only [size, List.length_cons] at room fewer ⊢
      omega
  · -- Both caches hold the same entry under the key, and it expires in both at the same time.
    have held := includes.ordered.subset there
    rcases get_cases now entry.key large with ⟨absent, _⟩ | ⟨found, alsoHeld, same, otherwise⟩
    · exact absurd rfl (absent entry held)
    · obtain rfl : found = entry := List.inj_on_of_nodup_map includes.keyed alsoHeld held same
      rcases outcome with ⟨expired, dropped⟩ | ⟨alive, hit⟩
      · rcases otherwise with ⟨_, alsoDropped⟩ | ⟨alive, _⟩
        · rw [dropped, alsoDropped]
          exact ⟨includes.delete found.key, nofun⟩
        · exact absurd alive (Nat.not_lt.mpr expired)
      · rcases otherwise with ⟨expired, _⟩ | ⟨_, alsoHit⟩
        · exact absurd alive (Nat.not_lt.mpr expired)
        · rw [hit, alsoHit]
          exact ⟨includes.bringToFront found, fun _ given => given⟩

/-- Every request keeps to the inclusion. -/
theorem step (includes : Includes large small) (now : Instant) (request : CacheRequest) :
    Includes (LruCache.backend now request large).2 (LruCache.backend now request small).2 := by
  cases request with
  | get key => exact (includes.get now key).1
  | delete key => exact includes.delete key
  | set key value ttl =>
    cases reached : now.after? ttl with
    | none =>
      simp only [LruCache.backend, set, reached]
      exact includes
    | some deadline =>
      simp only [LruCache.backend, set, reached]
      exact includes.put ⟨key, value, deadline⟩

theorem run (includes : Includes large small) (steps : List (Instant × CacheRequest)) :
    Includes (LruCache.run steps large) (LruCache.run steps small) := by
  induction steps generalizing large small with
  | nil => exact includes
  | cons first steps inductionHypothesis => exact inductionHypothesis (includes.step first.1 first.2)

end Includes

/-! ## Runs -/

/-- What a request is answered among others is what the cache answers it after those before. -/
theorem getElem?_history (steps : List (Instant × CacheRequest)) (cache : LruCache) (place : Nat) :
    (history steps cache)[place]? = steps[place]?.map fun step =>
      ⟨step.1, step.2, (LruCache.backend step.1 step.2 (run (steps.take place) cache)).1⟩ := by
  induction steps generalizing cache place with
  | nil => rfl
  | cons first steps inductionHypothesis =>
    cases place with
    | zero => rfl
    | succ place => exact inductionHypothesis _ place

/-- A cache with more room gives whatever one with less room gives to the same requests: after each of them it holds
the same entries and maybe others between them, and a look-up that hits there hits here and finds the same. -/
theorem included_of_le {less more : Nat} (positive : 0 < less) (le : less ≤ more)
    (steps : List (Instant × CacheRequest)) (place : Nat) :
    (run (steps.take place) ⟨less, positive, []⟩).entries.Sublist
        (run (steps.take place) ⟨more, Nat.lt_of_lt_of_le positive le, []⟩).entries ∧
      ∀ (now : Instant) (key : String) (value : Bytes),
        (history steps ⟨less, positive, []⟩)[place]? = some ⟨now, .get key, .ok (.ok (some value))⟩ →
          (history steps ⟨more, Nat.lt_of_lt_of_le positive le, []⟩)[place]?
            = some ⟨now, .get key, .ok (.ok (some value))⟩ := by
  have empty : Includes ⟨more, Nat.lt_of_lt_of_le positive le, []⟩ ⟨less, positive, []⟩ :=
    ⟨.refl [], List.nodup_nil, by simp [size, le]⟩
  have before := empty.run (steps.take place)
  refine ⟨before.ordered, ?_⟩
  intro now key value hit
  rw [getElem?_history, Option.map_eq_some_iff] at hit ⊢
  obtain ⟨⟨time, request⟩, there, same⟩ := hit
  obtain ⟨rfl, rfl, given⟩ := CacheEvent.mk.inj same
  have found := Except.ok.inj (Except.ok.inj (eq_of_heq given))
  refine ⟨(time, .get key), there, ?_⟩
  rw [backend_get, (before.get time key).2 value found]

/-- The notes are looked up when only the larger cache still has them, which puts them in front of the cards there. -/
def aReshuffle : List (Instant × CacheRequest) :=
  [(⟨1⟩, .set "notes" [1] (.ofSeconds 1)), (⟨2⟩, .set "cards" [2] (.ofSeconds 1)), (⟨3⟩, .get "notes"),
    (⟨4⟩, .get "cards")]

theorem included_of_le_aReshuffle :
    0 < 1 ∧ 1 ≤ 2 ∧
      (run (aReshuffle.take 3) ⟨1, Nat.one_pos, []⟩).entries.map CacheEntry.key = ["cards"] ∧
      (run (aReshuffle.take 3) ⟨2, Nat.two_pos, []⟩).entries.map CacheEntry.key = ["notes", "cards"] ∧
      (run (aReshuffle.take 3) ⟨1, Nat.one_pos, []⟩).entries.Sublist
        (run (aReshuffle.take 3) ⟨2, Nat.two_pos, []⟩).entries ∧
      (history aReshuffle ⟨1, Nat.one_pos, []⟩)[3]? = some ⟨⟨4⟩, .get "cards", .ok (.ok (some [2]))⟩ ∧
      (history aReshuffle ⟨2, Nat.two_pos, []⟩)[3]? = some ⟨⟨4⟩, .get "cards", .ok (.ok (some [2]))⟩ := by
  have included := included_of_le Nat.one_pos (by decide : 1 ≤ 2) aReshuffle 3
  have hit : (history aReshuffle ⟨1, Nat.one_pos, []⟩)[3]? = some ⟨⟨4⟩, .get "cards", .ok (.ok (some [2]))⟩ := rfl
  exact ⟨Nat.one_pos, by decide, rfl, rfl, included.1, hit, included.2 _ _ _ hit⟩

end Gazette.LruCache
