import Gazette.Proofs.Json.Whole
import Gazette.Proofs.Service.Isolation

/-!
# Damaged cache entries

* `BylinedArticle.Damaged`: octets that are left of an article's when some at the end are lost, or that others have come
  behind.
* `BylinedArticle.refused_of_damaged`: no article is read from them.
* `Errand.met_of_refused`: if none is read from what the cache answers, the store answers in its place.
* `BylinedArticle.damage_noticed`: damaged octets are never taken for an article.
-/

namespace Gazette

open Json (Format)

/-! ## Octets -/

namespace BylinedArticle

inductive Damaged (article : BylinedArticle) : Bytes → Prop
  /-- Some octets at the end are lost. -/
  | cut {octets lost : Bytes} (some : lost ≠ []) (whole : octets ++ lost = article.toCached) : article.Damaged octets
  /-- Other octets have come behind, and not only blanks. -/
  | trailed {suffix : Bytes} (notBlank : ¬Json.Blanks suffix) : article.Damaged (article.toCached ++ suffix)

theorem steady_fields : fields.Steady :=
  ⟨Format.steady_uuid, Format.steady_uuid, Format.steady_text, Format.steady_text, Format.steady_text,
    Format.steady_text.optional, Format.steady_text, Format.steady_time, Format.steady_time, trivial⟩

theorem steady_format : format.reader.Steady := Format.steady_via (Format.steady_record steady_fields) _ _

/-- The reader of articles takes all the octets of one. -/
theorem run_toCached (article : BylinedArticle) : format.reader.run article.toCached = .ok (article.asShown, []) :=
  article.gives_format.run_of_written (Json.written_compact (format.write article))

theorem toCached_ne_nil (article : BylinedArticle) : article.toCached ≠ [] := by
  intro none
  have shorter := format.reader.shortens article.run_toCached
  rw [none] at shorter
  exact absurd shorter (Nat.not_lt_zero _)

variable {article : BylinedArticle} {octets : Bytes}

theorem refused_of_decode {error : JsonError} (refused : format.decode octets = .error error) :
    ∃ reason, ofCached octets = .error (.serialization reason) := by
  rw [ofCached, refused]
  exact ⟨_, rfl⟩

theorem refused_of_damaged (damaged : article.Damaged octets) :
    ∃ reason, ofCached octets = .error (.serialization reason) := by
  cases damaged with
  | cut some whole =>
    have run := article.run_toCached
    rw [← whole] at run
    obtain ⟨error, refused⟩ := steady_format.refused_of_cut some run
    exact refused_of_decode refused
  | trailed notBlank => exact refused_of_decode (steady_format.decode_trailed article.run_toCached notBlank)

/-- Blanks behind an article do no harm. -/
theorem ofCached_of_blanks (article : BylinedArticle) {blanks : Bytes} (allBlank : Json.Blanks blanks) :
    ofCached (article.toCached ++ blanks) = .ok article.asShown := by
  rw [ofCached, Format.decode, steady_format.decode_blanks article.run_toCached allBlank]
  rfl

end BylinedArticle

/-! ## Look-ups -/

section LookUps

variable {σ τ : Type} {service : Service} {store : StoreBackend σ} {cache : CacheBackend τ} {errand : Errand}
  {held : σ × τ} {id : Uuid} {octets : Bytes}

structure Errand.MetDirectly (service : Service) (store : StoreBackend σ) (cache : CacheBackend τ) (errand : Errand)
    (held : σ × τ) : Prop where
  outcome : (errand.meet service store cache held).1 = (errand.meetDirectly store held.1).1
  store : (errand.meet service store cache held).2.1 = (errand.meetDirectly store held.1).2

theorem Errand.met_of_refused (asks : errand.operation = .get id) (fair : errand.Fair service cache)
    (heard : errand.hears store cache held (service.key id) = .ok (.ok (some octets))) {error : CacheError}
    (refused : BylinedArticle.ofCached octets = .error error) : errand.MetDirectly service store cache held := by
  obtain ⟨operation, world, now, fates⟩ := errand
  obtain ⟨uncancelled, answers⟩ := fair
  cases asks
  have missed : Matches ((service.get id).final (Session.handler ⟨store, cache, world, now⟩ fates)
      ⟨held.1, held.2, false, []⟩) ((Operation.get id).direct store world held.1) := by
    apply matches_get_of_miss uncancelled answers rfl
    intro reply replied
    cases heard.symm.trans replied
    rw [Service.hit?, refused]
    rfl
  exact ⟨missed.outcome, missed.store⟩

end LookUps

/-- An article that is cut off anywhere, or that anything but blanks follows, is not read as an article, neither itself
nor another one. Whoever looks it up gets what the store has. With blanks behind it, it is read as without them. -/
theorem BylinedArticle.damage_noticed (article : BylinedArticle) :
    (∀ octets, article.Damaged octets → ∃ reason, ofCached octets = .error (.serialization reason)) ∧
      (∀ blanks, Json.Blanks blanks → ofCached (article.toCached ++ blanks) = .ok article.asShown) ∧
      (article.asShown = article ↔ article.LeapsEndMinutes) ∧
      ∀ {σ τ : Type} (service : Service) (store : StoreBackend σ) (cache : CacheBackend τ) (held : σ × τ)
        (errand : Errand) (id : Uuid) (octets : Bytes), errand.operation = .get id → errand.Fair service cache →
        errand.hears store cache held (service.key id) = .ok (.ok (some octets)) → article.Damaged octets →
        errand.MetDirectly service store cache held := by
  refine ⟨fun octets => refused_of_damaged, fun blanks => article.ofCached_of_blanks, asShown_eq_iff, ?_⟩
  intro σ τ service store cache held errand id octets asks fair heard damaged
  obtain ⟨reason, refused⟩ := refused_of_damaged damaged
  exact Errand.met_of_refused asks fair heard refused

def aCardWith (content : Bytes) : LruCache := ⟨1, Nat.one_pos, [⟨forAWeek.key ⟨7⟩, content, ⟨10⟩⟩]⟩

theorem damage_noticed_aCardWithoutBrace :
    onTheShelf.Damaged onTheShelf.toCached.dropLast ∧ Json.Blanks [0x20] ∧
      aSecondLook.Fair forAWeek LruCache.backend ∧
      aSecondLook.hears (StoreKind.backend .memory) LruCache.backend
        (aShelf, aCardWith onTheShelf.toCached.dropLast) (forAWeek.key ⟨7⟩)
          = .ok (.ok (some onTheShelf.toCached.dropLast)) ∧
      (∃ reason, BylinedArticle.ofCached onTheShelf.toCached.dropLast = .error (.serialization reason)) ∧
      BylinedArticle.ofCached (onTheShelf.toCached ++ [0x20]) = .ok onTheShelf ∧
      aSecondLook.MetDirectly forAWeek (StoreKind.backend .memory) LruCache.backend
        (aShelf, aCardWith onTheShelf.toCached.dropLast) := by
  have damaged : onTheShelf.Damaged onTheShelf.toCached.dropLast := by
    have some := onTheShelf.toCached_ne_nil
    exact .cut (List.cons_ne_nil _ _) (List.dropLast_concat_getLast some)
  have blank : Json.Blanks [0x20] := Json.blanks_space
  have fair : aSecondLook.Fair forAWeek LruCache.backend := by
    refine ⟨?_, LruCache.answersAt (by decide)⟩
    intro call
    cases call with
    | store request => exact rfl
    | cache request => exact .inl rfl
  have heard (content : Bytes) : aSecondLook.hears (StoreKind.backend .memory) LruCache.backend
      (aShelf, aCardWith content) (forAWeek.key ⟨7⟩) = .ok (.ok (some content)) := rfl
  obtain ⟨refused, read, _, met⟩ := onTheShelf.damage_noticed
  exact ⟨damaged, blank, fair, heard _, refused _ damaged, read _ blank,
    met forAWeek _ _ _ aSecondLook ⟨7⟩ _ rfl fair (heard _) damaged⟩

/-- With a blank behind it or not, the note is read with the moment that is shown. -/
theorem BylinedArticle.shifted_aStrayNote :
    ofCached (aStrayNote.toCached ++ [0x20]) = .ok { aStrayNote with createdAt := aStrayNote.updatedAt } ∧
      aStrayNote.updatedAt ≠ aStrayNote.createdAt :=
  ⟨aStrayNote.ofCached_of_blanks Json.blanks_space, by decide⟩

end Gazette
