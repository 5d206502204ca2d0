import Gazette.Proofs.Json.Skip

/-!
# What is read from JSON that anyone wrote

* `Reader.Reads reader means`: from any JSON, the reader reads exactly what its octets mean, and no further.
* `Format.Exact`: the reader of a format reads the same values wherever their octets stand.
* `Format.reads_text`, `Format.reads_uuid`, `Format.reads_time`: strings are read as what they spell, identifiers and
  moments from strings.
-/

namespace Gazette.Json

open Fallible (bind_eq_ok)

variable {α β : Type}

/-! ## What octets mean -/

def SpelledAs {ε : Type} (read : String → Except ε α) (octets : Bytes) (a : α) : Prop :=
  ∃ text, Spells octets text ∧ read text = .ok a

def OrNull (means : Bytes → α → Prop) (octets : Bytes) : Option α → Prop
  | none => octets = octetsOf nullText
  | some a => octets ≠ octetsOf nullText ∧ means octets a

/-! ## Exact readers -/

namespace Reader

structure Reads (reader : Reader α) (means : Bytes → α → Prop) : Prop where
  run_iff : ∀ {blanks octets rest : Bytes}, Blanks blanks → IsValue octets → Ends rest → ∀ {a : α} {after : Bytes},
    reader.run (blanks ++ (octets ++ rest)) = .ok (a, after) ↔ means octets a ∧ after = rest

variable {reader : Reader α} {means : Bytes → α → Prop}

theorem Reads.decode_iff (reads : reader.Reads means) {octets : Bytes} (isValue : IsValue octets) {a : α} :
    reader.decode octets = .ok a ↔ means octets a := by
  have run {other : α} {left : Bytes} : reader.run octets = .ok (other, left) ↔ means octets other ∧ left = [] := by
    rw [← reads.run_iff blanks_nil isValue ends_nil, List.nil_append, List.append_nil]
  constructor
  · intro decoded
    obtain ⟨⟨other, left⟩, read, last⟩ := bind_eq_ok.mp decoded
    dsimp only at last
    split at last
    · cases last
      exact (run.mp read).1
    · cases last
  · intro is
    rw [decode, run.mpr ⟨is, rfl⟩]
    rfl

theorem reads_text (expected : String) : (text expected).Reads Spells where
  run_iff := by
    intro blanks octets rest allBlank isValue ends value after
    obtain ⟨first, others, start, notBlank, _, _, string⟩ := isValue.exists_cons
    by_cases quote : first = 0x22
    · obtain ⟨pieces, rfl⟩ := string quote
      rw [spells_quoted, ← readText_eq_ok, quoted, List.cons_append, List.append_assoc, List.singleton_append]
      simp only [text, startingWith, skipBlankOctets_to 0x22 _ allBlank rfl, BEq.rfl, if_true]
    · have notText : (first == 0x22) = false := by simpa using quote
      have noSpelling : ¬Spells octets value := by
        rintro ⟨pieces, same, _⟩
        exact quote (List.cons.inj (start.symm.trans same)).1
      rw [start, List.cons_append]
      simp only [text, startingWith, skipBlankOctets_to first _ allBlank notBlank, notText, ← start, noSpelling]
      simp

theorem Reads.refine (reads : reader.Reads means) (compute : α → Except JsonError β) :
    (reader.refine compute).Reads fun octets b => ∃ a, means octets a ∧ compute a = .ok b where
  run_iff := by
    intro blanks octets rest allBlank isValue ends b after
    simp only [Reader.refine, bind_eq_ok]
    constructor
    · rintro ⟨⟨a, left⟩, read, _, computed, same⟩
      obtain ⟨is, rfl⟩ := (reads.run_iff allBlank isValue ends).mp read
      cases same
      exact ⟨⟨a, is, computed⟩, rfl⟩
    · rintro ⟨⟨a, is, computed⟩, rfl⟩
      exact ⟨(a, after), (reads.run_iff allBlank isValue ends).mpr ⟨is, rfl⟩, b, computed, rfl⟩

theorem Reads.map (reads : reader.Reads means) (f : α → β) :
    (reader.map f).Reads fun octets b => ∃ a, means octets a ∧ f a = b := by
  have refined := reads.refine fun a => .ok (f a)
  simp only [Except.ok.injEq] at refined
  exact refined

theorem Reads.congr (reads : reader.Reads means) {others : Bytes → α → Prop}
    (same : ∀ octets a, means octets a ↔ others octets a) : reader.Reads others := by
  obtain rfl : means = others := funext fun octets => funext fun a => propext (same octets a)
  exact reads

theorem Reads.optional (reads : reader.Reads means) : reader.optional.Reads (OrNull means) where
  run_iff := by
    intro blanks octets rest allBlank isValue ends value after
    obtain ⟨first, others, start, notBlank, _, null, _⟩ := isValue.exists_cons
    have run : reader.optional.run (blanks ++ (octets ++ rest))
        = if first = 0x6E then expectNull (others ++ rest) >>= fun rest => .ok (none, rest)
          else reader.run (octets ++ rest) >>= fun read => .ok (some read.1, read.2) := by
      rw [start, List.cons_append]
      simp only [Reader.optional, skipBlankOctets_to first _ allBlank notBlank]
    rw [run]
    -- The letter n begins null and no other value, so the first octet tells them apart.
    by_cases letter : first = 0x6E
    · have isNull := null letter
      obtain rfl : others = [0x75, 0x6C, 0x6C] := (List.cons.inj (start.symm.trans isNull)).2
      rw [if_pos letter]
      cases value <;> simp [Format.expectNull_null, OrNull, isNull, eq_comm]
    · have notNull : octets ≠ octetsOf nullText := fun same => letter (List.cons.inj (start.symm.trans same)).1
      have read {a : α} : reader.run (octets ++ rest) = .ok (a, after) ↔ means octets a ∧ after = rest :=
        reads.run_iff blanks_nil isValue ends
      rw [if_neg letter]
      cases value with
      | none => simp [bind_eq_ok, OrNull, notNull]
      | some a =>
        simp only [OrNull, ne_eq, notNull, not_false_eq_true, true_and, ← read, bind_eq_ok]
        constructor
        · rintro ⟨⟨_, _⟩, found, same⟩
          cases same
          exact found
        · exact fun found => ⟨_, found, rfl⟩

end Reader

/-- What is read from octets that stand alone is also read from them where they are a part. -/
def Format.Exact (format : Format α) : Prop := format.reader.Reads fun octets a => format.decode octets = .ok a

theorem Reader.Reads.exact {format : Format α} {means : Bytes → α → Prop} (reads : format.reader.Reads means) :
    format.Exact where
  run_iff := by
    intro blanks octets rest allBlank isValue ends a after
    rw [reads.run_iff allBlank isValue ends]
    exact and_congr_left' (reads.decode_iff isValue).symm

namespace Format

theorem reads_spelling {ε : Type} (expected : String) (read : String → Except ε α) (wrong : ε → JsonError) :
    ((Reader.text expected).refine fun text => (read text).mapError wrong).Reads (SpelledAs read) := by
  apply ((Reader.reads_text expected).refine _).congr
  intro octets a
  have given (text : String) : (read text).mapError wrong = .ok a ↔ read text = .ok a := by
    cases read text <;> simp
  simp only [given, SpelledAs]

theorem reads_text : text.reader.Reads Spells := Reader.reads_text _

theorem reads_uuid : uuid.reader.Reads (SpelledAs Uuid.parse) := reads_spelling _ _ _

theorem reads_time : time.reader.Reads (SpelledAs Timestamp.parseRelaxed) := reads_spelling _ _ _

end Format

end Gazette.Json
