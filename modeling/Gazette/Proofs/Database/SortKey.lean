import Gazette.Proofs.Database.Row
import Gazette.Proofs.Store.Order

/-!
# What listings are sorted by

* `SortKey` is a moment and an identifier, `SortKey.octets` the two texts in which the columns hold them.
* `SortKey.sorts_and_reads`: the texts are in the order of what they stand for, and it is read back from them.
-/

namespace Gazette

namespace Timestamp

def IsPlain (t : Timestamp) : Prop := t.LeapEndsMinute ∧ 0 ≤ t.face.date.year ∧ t.face.date.year ≤ 9999

instance (t : Timestamp) : Decidable t.IsPlain := inferInstanceAs (Decidable (_ ∧ _))

/-- A column keeps all of a moment but what does not fill a microsecond. -/
theorem IsPlain.columnar {t : Timestamp} (plain : t.IsPlain) : t.truncateToMicros.Columnar where
  micros := t.truncateToMicros_idem
  leapEndsMinute := plain.1.truncateToMicros
  low := by rw [face_truncateToMicros]; exact plain.2.1
  high := by rw [face_truncateToMicros]; exact plain.2.2

theorem compare_eq_eq {left right : Timestamp} : left.compare right = .eq ↔ left = right := by
  rw [compare, Ordering.then_eq_eq, Int.compare_eq_eq, Nat.compare_eq_eq, Timestamp.ext_iff]

end Timestamp

namespace Database

structure SortKey where
  createdAt : Timestamp
  id : Uuid
  deriving DecidableEq, Repr

namespace SortKey

/-- Earlier moments come first, then smaller identifiers. -/
def compare (left right : SortKey) : Ordering :=
  (left.createdAt.compare right.createdAt).then (left.id.compare right.id)

def octets (key : SortKey) : Bytes × Bytes := (Utf8.encode key.createdAt.toColumn, Utf8.encode key.id.toText)

/-- The first texts are compared octet by octet, and the second ones if those are the same. -/
def compareOctets (left right : Bytes × Bytes) : Ordering :=
  (Ord.compare left.1 right.1).then (Ord.compare left.2 right.2)

theorem compare_eq_eq {left right : SortKey} : left.compare right = .eq ↔ left = right := by
  cases left
  cases right
  rw [compare, Ordering.then_eq_eq, Timestamp.compare_eq_eq, Uuid.compare_eq_eq, SortKey.mk.injEq]

theorem compareOctets_octets {left right : SortKey} (columnar : left.createdAt.Columnar)
    (alsoColumnar : right.createdAt.Columnar) : compareOctets left.octets right.octets = left.compare right := by
  rw [compareOctets, octets, octets, Timestamp.compare_encode_toColumn columnar alsoColumnar,
    Uuid.compare_encode_toText, compare]

/-- Moments of the years 0 to 9999, leap seconds among them, are kept to the microsecond. With an identifier behind
each of them their texts are in the same order as they are, so that only the same keys have the same texts, and
everything is read back from its text. -/
theorem sorts_and_reads {moment other : Timestamp} (plain : moment.IsPlain) (alsoPlain : other.IsPlain)
    (id otherId : Uuid) :
    compareOctets (octets ⟨moment.truncateToMicros, id⟩) (octets ⟨other.truncateToMicros, otherId⟩)
        = compare ⟨moment.truncateToMicros, id⟩ ⟨other.truncateToMicros, otherId⟩ ∧
      (compareOctets (octets ⟨moment.truncateToMicros, id⟩) (octets ⟨other.truncateToMicros, otherId⟩) = .eq ↔
        moment.truncateToMicros = other.truncateToMicros ∧ id = otherId) ∧
      readTime moment.truncateToMicros.toColumn = .ok moment.truncateToMicros ∧
      readTime moment.toColumn = .ok moment.truncateToMicros ∧
      readId id.toText = .ok id := by
  have order : compareOctets (octets ⟨moment.truncateToMicros, id⟩) (octets ⟨other.truncateToMicros, otherId⟩)
      = compare ⟨moment.truncateToMicros, id⟩ ⟨other.truncateToMicros, otherId⟩ :=
    compareOctets_octets plain.columnar alsoPlain.columnar
  have readFull : readTime moment.toColumn = .ok moment.truncateToMicros := by
    rw [readTime, Timestamp.parseStrict_toColumn plain.2.1 plain.2.2,
      Timestamp.asShown_eq_iff.mpr plain.columnar.leapEndsMinute]
    rfl
  refine ⟨order, ?_, readTime_toColumn plain.columnar, readFull, readId_toText id⟩
  rw [order, compare_eq_eq, SortKey.mk.injEq]

/-- The leap second after the last second of the year 9999, with a fraction that a column cuts off. -/
def theLastMoment : Timestamp := ⟨253402300799, 1999999999, by decide, by decide, by decide⟩

/-- Within the first microsecond of the year 0. -/
def theFirstMoment : Timestamp := ⟨-62167219200, 999, by decide, by decide, by decide⟩

theorem sorts_and_reads_theLastMoment :
    theLastMoment.IsPlain ∧ theFirstMoment.IsPlain ∧
      theLastMoment.toColumn = "9999-12-31T23:59:60.999999Z" ∧ theFirstMoment.toColumn = "0000-01-01T00:00:00.000000Z" ∧
      compareOctets (octets ⟨theLastMoment.truncateToMicros, ⟨7⟩⟩) (octets ⟨theFirstMoment.truncateToMicros, ⟨8⟩⟩)
        = .gt ∧
      readTime theLastMoment.toColumn = .ok theLastMoment.truncateToMicros := by
  have plain : theLastMoment.IsPlain := by decide
  have alsoPlain : theFirstMoment.IsPlain := by decide
  obtain ⟨order, _, _, read, _⟩ := sorts_and_reads plain alsoPlain ⟨7⟩ ⟨8⟩
  exact ⟨plain, alsoPlain, by decide, by decide, order.trans (by decide), read⟩

end SortKey

end Database

end Gazette
