import Gazette.Cache.Remote.Command
import Gazette.Proofs.Cache.Lru

/-!
# How long a cache server keeps a value

* `Duration.CoveredBy`: seconds that are enough for a span, and less than one second too many.
* `Duration.wholeSeconds_cases`: the seconds that a server is told cover the span. There are none if they are more than
  a word can count.
* `LruCache.get_of_set`: how long the cache in memory gives a value that was put there.
* `CacheRequest.sent_seconds`: a server is told to keep a value as long as the cache in memory would, and less than a
  second longer.
-/

namespace Gazette

namespace Duration

variable {span : Duration}

/-! ## Whole seconds -/

/-- So many seconds are as long as the span, and less than a second longer. They are one second at least, which is what
becomes of no time at all. -/
structure CoveredBy (span : Duration) (seconds : Nat) : Prop where
  positive : 1 ≤ seconds
  enough : span.total ≤ 1000000000 * seconds
  close : 0 < span.total → 1000000000 * seconds < span.total + 1000000000
  least : span.total = 0 → seconds = 1

def ceiling (span : Duration) : Nat :=
  if 0 < span.nanos then span.seconds.toNat + 1 else max 1 span.seconds.toNat

/-- No other number of seconds covers a span. -/
theorem coveredBy_iff {seconds : Nat} : span.CoveredBy seconds ↔ seconds = span.ceiling := by
  have bound := span.nanos_lt
  have parts : span.total = 1000000000 * span.seconds.toNat + span.nanos := rfl
  constructor
  · rintro ⟨positive, enough, close, least⟩
    rw [ceiling]
    split <;> omega
  · rintro rfl
    constructor <;> rw [ceiling] <;> split <;> omega

theorem wholeSeconds_cases (span : Duration) :
    (0 < span.nanos ∧ span.seconds = 18446744073709551615 ∧ span.wholeSeconds = .error .sumOverflow) ∨
      ∃ seconds, span.wholeSeconds = .ok seconds ∧ span.CoveredBy seconds.toNat := by
  have bound := span.seconds.toNat_lt
  simp only [coveredBy_iff, wholeSeconds, ceiling]
  by_cases rest : 0 < span.nanos
  · rw [if_pos rest, if_pos rest]
    by_cases few : span.seconds.toNat + 1 < UInt64.size
    · rw [if_pos few]
      exact .inr ⟨_, rfl, (UInt64.toNat_add span.seconds 1).trans (Nat.mod_eq_of_lt few)⟩
    · have largest : span.seconds.toNat = (18446744073709551615 : UInt64).toNat := by
        show span.seconds.toNat = 18446744073709551615
        rw [UInt64.size] at few
        omega
      rw [if_neg few]
      exact .inl ⟨rest, UInt64.toNat_inj.mp largest, rfl⟩
  · rw [if_neg rest, if_neg rest]
    by_cases none : span.seconds = 0
    · rw [if_pos none, none]
      exact .inr ⟨1, rfl, rfl⟩
    · have positive : span.seconds.toNat ≠ 0 := fun zero => none (UInt64.toNat_inj.mp zero)
      rw [if_neg none]
      exact .inr ⟨_, rfl, (Nat.max_eq_right (Nat.one_le_iff_ne_zero.mpr positive)).symm⟩

theorem wholeSeconds_eq_error_iff {crash : Crash} : span.wholeSeconds = .error crash ↔
    crash = .sumOverflow ∧ 0 < span.nanos ∧ span.seconds = 18446744073709551615 := by
  rcases span.wholeSeconds_cases with ⟨rest, largest, crashes⟩ | ⟨seconds, told, _⟩
  · rw [crashes, Except.error.injEq]
    exact ⟨fun same => ⟨same.symm, rest, largest⟩, fun same => same.1.symm⟩
  · refine iff_of_false (fun crashes => nomatch told.symm.trans crashes) ?_
    rintro ⟨_, rest, largest⟩
    rw [wholeSeconds, if_pos rest, largest, if_neg (by decide)] at told
    cases told

/-- The end of a span that a word cannot count is out of the reach of the clock. -/
theorem exists_wholeSeconds_of_after? {now deadline : Instant} (reached : now.after? span = some deadline) :
    ∃ seconds, span.wholeSeconds = .ok seconds := by
  rcases span.wholeSeconds_cases with ⟨rest, largest, _⟩ | ⟨seconds, told, _⟩
  · simp only [Instant.after?] at reached
    split at reached
    · -- The clock counts its seconds in one bit less than a word has.
      rename_i ends
      have many : span.seconds.toNat = 18446744073709551615 := congrArg UInt64.toNat largest
      rw [total] at ends
      omega
    · cases reached
  · exact ⟨seconds, told⟩

end Duration

/-! ## The cache in memory -/

namespace LruCache

variable {cache kept : LruCache} {now : Instant} {key : String} {value : Bytes} {ttl : Duration}

/-- A value that was put into the cache is given as long as it was to be kept, if nothing else happens. -/
theorem get_of_set (stored : cache.set now key value ttl = .ok kept) (later : Instant) :
    (kept.get later key).1 = if later.nanoseconds < now.nanoseconds + ttl.total then some value else none := by
  obtain ⟨deadline, reached⟩ := exists_deadline_of_set stored
  rw [set, reached] at stored
  obtain rfl := Except.ok.inj stored
  -- There is room for one entry at least, so that the new one in front is not cut off.
  have first : (⟨key, value, deadline⟩ :: cache.others key).take cache.capacity
      = ⟨key, value, deadline⟩ :: (cache.others key).take (cache.capacity - 1) :=
    List.take_cons cache.capacity_pos
  rw [← nanoseconds_after? reached]
  simp only [get, entry?, first, List.find?_cons_of_pos, decide_true]
  by_cases expired : deadline.nanoseconds ≤ later.nanoseconds
  · rw [if_pos expired, if_neg (Nat.not_lt.mpr expired)]
  · rw [if_neg expired, if_pos (Nat.not_le.mp expired)]

end LruCache

/-! ## What a server is told -/

namespace CacheRequest

/-- There is a command to keep a value unless it takes one second more than a word can count, and for whatever the cache
in memory keeps. A server is told seconds that cover the span for which the value is to be kept. What the cache in memory
would give, a server that keeps it for these seconds has too, and it has it less than a second longer, or for a second
if it was not to be kept at all. -/
theorem sent_seconds (key : String) (value : Bytes) (ttl : Duration) :
    let sent := (CacheRequest.set key value ttl).command
    (∀ crash, sent = .error crash ↔
        crash = .sumOverflow ∧ 0 < ttl.nanos ∧ ttl.seconds = 18446744073709551615) ∧
      (∀ (now : Instant) (cache kept : LruCache), cache.set now key value ttl = .ok kept →
        ∃ command, sent = .ok command) ∧
      ∀ command, sent = .ok command → ∃ seconds, command.words =
          [commandWord "SETEX", Utf8.encode key, commandWord (String.ofList (decimal seconds)), value] ∧
        ttl.CoveredBy seconds ∧
        ∀ (now later : Instant) (cache kept : LruCache), cache.set now key value ttl = .ok kept →
          ((kept.get later key).1 = some value → later.nanoseconds < now.nanoseconds + 1000000000 * seconds) ∧
          (0 < ttl.total → later.nanoseconds + 1000000000 ≤ now.nanoseconds + 1000000000 * seconds →
            (kept.get later key).1 = some value) := by
  intro sent
  have isSent : sent = ttl.wholeSeconds.map fun seconds => .setFor (Utf8.encode key) seconds value := rfl
  refine ⟨?_, ?_, ?_⟩
  · intro crash
    rw [isSent, ← Duration.wholeSeconds_eq_error_iff]
    cases ttl.wholeSeconds <;> simp
  · intro now cache kept stored
    -- Whatever is put into the cache in memory has a deadline.
    obtain ⟨deadline, reached⟩ := LruCache.exists_deadline_of_set stored
    obtain ⟨seconds, told⟩ := Duration.exists_wholeSeconds_of_after? reached
    rw [isSent, told]
    exact ⟨_, rfl⟩
  · intro command isCommand
    rcases ttl.wholeSeconds_cases with ⟨_, _, crashes⟩ | ⟨seconds, told, covered⟩
    · rw [isSent, crashes] at isCommand
      cases isCommand
    · rw [isSent, told] at isCommand
      obtain rfl := Except.ok.inj isCommand
      refine ⟨seconds.toNat, rfl, covered, ?_⟩
      intro now later cache kept stored
      have given : (kept.get later key).1 = some value ↔ later.nanoseconds < now.nanoseconds + ttl.total := by
        simp [LruCache.get_of_set stored later]
      rw [given]
      constructor
      · intro alive
        exact Nat.lt_of_lt_of_le alive (Nat.add_le_add_left covered.enough now.nanoseconds)
      · intro some early
        have close := covered.close some
        omega

def aMomentAndAHalf : Duration := ⟨1, 500000000, by decide⟩

def anEmptyBox : LruCache := ⟨1, Nat.one_pos, []⟩

theorem sent_seconds_aMomentAndAHalf :
    ∃ kept command seconds, anEmptyBox.set ⟨5⟩ "note" [0x21] aMomentAndAHalf = .ok kept ∧
      (CacheRequest.set "note" [0x21] aMomentAndAHalf).command = .ok command ∧
      command.words = [commandWord "SETEX", Utf8.encode "note", commandWord (String.ofList (decimal seconds)), [0x21]] ∧
      aMomentAndAHalf.CoveredBy seconds ∧
      (kept.get ⟨1500000004⟩ "note").1 = some [0x21] ∧ 1500000004 < 5 + 1000000000 * seconds := by
  obtain ⟨_, tells, told⟩ := sent_seconds "note" [0x21] aMomentAndAHalf
  obtain ⟨command, isCommand⟩ := tells ⟨5⟩ anEmptyBox _ rfl
  obtain ⟨seconds, words, covered, lasts⟩ := told command isCommand
  have given : (LruCache.get ⟨1500000004⟩ "note" ⟨1, Nat.one_pos, [⟨"note", [0x21], ⟨1500000005⟩⟩]⟩).1
      = some [0x21] := rfl
  exact ⟨_, command, seconds, rfl, isCommand, words, covered, given,
    (lasts ⟨5⟩ ⟨1500000004⟩ anEmptyBox _ rfl).1 given⟩

/-- As many seconds as a span can have, and a nanosecond. -/
def almostForEver : Duration := ⟨18446744073709551615, 1, by decide⟩

/-- There is no command to keep the value for one second more than a word can count, which would cover the span. -/
theorem crashes_almostForEver :
    (CacheRequest.set "note" [0x21] almostForEver).command = .error .sumOverflow ∧
      almostForEver.CoveredBy 18446744073709551616 :=
  ⟨rfl, Duration.coveredBy_iff.mpr rfl⟩

end CacheRequest

end Gazette
