import Gazette.Proofs.Article.Format
import Gazette.Service.Operation

/-!
# Cached octets of articles

* `BylinedArticle.members`: an article's object as the cache holds it.
* `BylinedArticle.ofCached_of_written`: from octets that anyone made of that object, the article is read as it is shown.
* `BylinedArticle.ofCached_toCached`: that is the article itself if its leap seconds end minutes.
-/

namespace Gazette.BylinedArticle

open Json (Format)

/-! ## An article and its octets -/

def members (article : BylinedArticle) : List (String × Json) :=
  [("id", .text article.id.toText), ("authorId", .text article.authorId.toText), ("author", .text article.author),
    ("title", .text article.title), ("content", .text article.content),
    ("imageUrl", (article.imageUrl.map Json.text).getD .null),
    ("category", .text article.category), ("createdAt", .text article.createdAt.toRfc3339),
    ("updatedAt", .text article.updatedAt.toRfc3339)]

theorem write_format (article : BylinedArticle) : format.write article = .object article.members := by
  have optional : (Format.optional Format.text).write article.imageUrl = (article.imageUrl.map Json.text).getD .null := by
    cases article.imageUrl <;> rfl
  rw [members, ← optional]
  rfl

/-- Whoever wrote the article's object, and with whatever blanks between its parts, the article is read from it. -/
theorem ofCached_of_written {article : BylinedArticle} {octets : Bytes}
    (written : Json.Written (.object article.members) octets) : ofCached octets = .ok article.asShown := by
  rw [← write_format] at written
  rw [ofCached, article.gives_format.decode_of_written written]
  rfl

theorem written_toCached (article : BylinedArticle) : Json.Written (.object article.members) article.toCached := by
  rw [← write_format]
  exact Json.written_compact (format.write article)

theorem ofCached_toCached {article : BylinedArticle} (leaps : article.LeapsEndMinutes) :
    ofCached article.toCached = .ok article := by
  rw [ofCached_of_written article.written_toCached, asShown_eq_iff.mpr leaps]

/-- The cache's octets of an article are its object, and the article comes out of them as it is shown. That is the same
article unless one of its moments is in a leap second in the midst of a minute. -/
theorem written_and_restored (article : BylinedArticle) :
    Json.Written (.object article.members) article.toCached ∧ ofCached article.toCached = .ok article.asShown ∧
      (article.asShown = article ↔ article.LeapsEndMinutes) :=
  ⟨article.written_toCached, ofCached_of_written article.written_toCached, asShown_eq_iff⟩

theorem not_restored_aStrayNote :
    ofCached aStrayNote.toCached = .ok { aStrayNote with createdAt := aStrayNote.updatedAt } ∧
      ofCached aStrayNote.toCached ≠ .ok aStrayNote := by
  have read : ofCached aStrayNote.toCached = .ok { aStrayNote with createdAt := aStrayNote.updatedAt } :=
    ofCached_of_written aStrayNote.written_toCached
  have apart : aStrayNote.createdAt ≠ aStrayNote.updatedAt := by decide
  rw [read]
  refine ⟨rfl, ?_⟩
  intro same
  exact apart (congrArg createdAt (Except.ok.inj same)).symm

/-- All that can be wrong with octets is that they do not decode. -/
theorem exists_reason_of_ofCached {octets : Bytes} {error : CacheError} (failed : ofCached octets = .error error) :
    ∃ reason, error = .serialization reason := by
  rw [ofCached] at failed
  cases decoded : format.decode octets with
  | ok article =>
    rw [decoded] at failed
    cases failed
  | error wrong =>
    rw [decoded] at failed
    cases failed
    exact ⟨_, rfl⟩

end Gazette.BylinedArticle
