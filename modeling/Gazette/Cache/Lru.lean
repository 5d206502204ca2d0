import Gazette.Cache.Request

/-!
# The cache in memory

`LruCache` holds values until they expire, and no more than a number of them: what was used longest ago gives way to
what is new. A value that has expired stays until it is asked for.
-/

namespace Gazette

structure CacheEntry where
  key : String
  value : Bytes
  deadline : Instant
  deriving DecidableEq, Repr

/-- Values, the one used last in front. -/
structure LruCache where
  capacity : Nat
  capacity_pos : 0 < capacity
  entries : List CacheEntry
  deriving DecidableEq, Repr

namespace LruCache

def maxTablePlaces : Nat := 0x400000000000000

/-- Whether a table with room for so many entries has places for them. An eighth of the places stays empty. -/
def fitsTable (capacity : Nat) : Bool := capacity * 8 / 7 ≤ maxTablePlaces

def ofCapacity (capacity : Nat) : CacheOutcome LruCache :=
  if positive : 0 < capacity then
    if fitsTable capacity then .ok (.ok ⟨capacity, positive, []⟩) else .error .tableOverflow
  else .ok (.error (.operationFailed "max_entries must be > 0"))

def size (cache : LruCache) : Nat := cache.entries.length

def entry? (cache : LruCache) (key : String) : Option CacheEntry :=
  cache.entries.find? fun entry => entry.key = key

def others (cache : LruCache) (key : String) : List CacheEntry :=
  cache.entries.filter fun entry => entry.key ≠ key

/-- The value under a key. An entry is gone once the clock has reached its deadline. -/
def get (now : Instant) (key : String) (cache : LruCache) : Option Bytes × LruCache :=
  match cache.entry? key with
  | none => (none, cache)
  | some entry =>
    if entry.deadline.nanoseconds ≤ now.nanoseconds then
      (none, { cache with entries := cache.others key })
    else (some entry.value, { cache with entries := entry :: cache.others key })

def set (now : Instant) (key : String) (value : Bytes) (ttl : Duration) (cache : LruCache) :
    Except Crash LruCache :=
  match now.after? ttl with
  | none => .error .deadlineOverflow
  | some deadline =>
    .ok { cache with entries := (⟨key, value, deadline⟩ :: cache.others key).take cache.capacity }

def delete (key : String) (cache : LruCache) : LruCache := { cache with entries := cache.others key }

def backend : CacheBackend LruCache := fun now request cache =>
  match request with
  | .get key =>
    let (value, cache) := cache.get now key
    (.ok (.ok value), cache)
  | .set key value ttl =>
    match cache.set now key value ttl with
    | .ok cache => (.ok (.ok ()), cache)
    | .error crash => (.error crash, cache)
  | .delete key => (.ok (.ok ()), cache.delete key)

end LruCache

end Gazette
