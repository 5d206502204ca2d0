import Gazette.Article.Format
import Gazette.Proofs.Json.Items
import Gazette.Proofs.Json.Number
import Gazette.Proofs.Json.Record

/-!
# Articles that are read as they are shown

* The formats of authors, drafts and revisions are faithful.
* `Article.asShown`, `BylinedArticle.asShown` and `Listing.asShown` have the moments that are shown. Their formats give
  them, which is what was written just if all leap seconds end minutes.
-/

namespace Gazette

open Json (Format)

theorem faithful_imageUrl : (Format.optional Format.text).Faithful := by
  apply Format.faithful_text.optional
  intro url same
  cases same

/-! ## What has no moments -/

theorem Author.faithful_format : Author.format.Faithful := by
  intro author
  have ofFields : Author.fields.Gives (author.id, author.firstName, author.lastName, ())
      (author.id, author.firstName, author.lastName, ()) :=
    ⟨Format.faithful_uuid _, Format.faithful_text _, Format.faithful_text _, trivial⟩
  exact .via (Format.gives_record ofFields (by decide)) rfl

theorem Draft.faithful_format : Draft.format.Faithful := by
  intro draft
  let parts : Json.Values [Uuid, String, String, Option String, String] :=
    (draft.authorId, draft.title, draft.content, draft.imageUrl, draft.category, ())
  have ofFields : Draft.fields.Gives parts parts :=
    ⟨Format.faithful_uuid _, Format.faithful_text _, Format.faithful_text _, faithful_imageUrl _,
      Format.faithful_text _, trivial⟩
  exact .via (Format.gives_record ofFields (by decide)) rfl

theorem Revision.faithful_format : Revision.format.Faithful := by
  intro revision
  let parts : Json.Values [Uuid, String, String, Option String, String] :=
    (revision.id, revision.title, revision.content, revision.imageUrl, revision.category, ())
  have ofFields : Revision.fields.Gives parts parts :=
    ⟨Format.faithful_uuid _, Format.faithful_text _, Format.faithful_text _, faithful_imageUrl _,
      Format.faithful_text _, trivial⟩
  exact .via (Format.gives_record ofFields (by decide)) rfl

/-! ## Articles -/

namespace Article

def asShown (article : Article) : Article :=
  { article with createdAt := article.createdAt.asShown, updatedAt := article.updatedAt.asShown }

theorem asShown_eq_iff {article : Article} : article.asShown = article ↔ article.LeapsEndMinutes := by
  simp only [asShown, Article.ext_iff, Timestamp.asShown_eq_iff, true_and, LeapsEndMinutes]

theorem gives_format (article : Article) : format.Gives article article.asShown := by
  have ofFields : fields.Gives
      (article.id, article.authorId, article.title, article.content, article.imageUrl, article.category,
        article.createdAt, article.updatedAt, ())
      (article.id, article.authorId, article.title, article.content, article.imageUrl, article.category,
        article.createdAt.asShown, article.updatedAt.asShown, ()) :=
    ⟨Format.faithful_uuid _, Format.faithful_uuid _, Format.faithful_text _, Format.faithful_text _,
      faithful_imageUrl _, Format.faithful_text _, Format.gives_time _, Format.gives_time _, trivial⟩
  exact .via (Format.gives_record ofFields (by decide)) rfl

end Article

namespace BylinedArticle

def asShown (article : BylinedArticle) : BylinedArticle :=
  { article with createdAt := article.createdAt.asShown, updatedAt := article.updatedAt.asShown }

theorem asShown_eq_iff {article : BylinedArticle} : article.asShown = article ↔ article.LeapsEndMinutes := by
  simp only [asShown, BylinedArticle.ext_iff, Timestamp.asShown_eq_iff, true_and, LeapsEndMinutes]

theorem distinct_names : fields.names.Nodup := by decide

theorem gives_format (article : BylinedArticle) : format.Gives article article.asShown := by
  have ofFields : fields.Gives
      (article.id, article.authorId, article.author, article.title, article.content, article.imageUrl,
        article.category, article.createdAt, article.updatedAt, ())
      (article.id, article.authorId, article.author, article.title, article.content, article.imageUrl,
        article.category, article.createdAt.asShown, article.updatedAt.asShown, ()) :=
    ⟨Format.faithful_uuid _, Format.faithful_uuid _, Format.faithful_text _, Format.faithful_text _,
      Format.faithful_text _, faithful_imageUrl _, Format.faithful_text _, Format.gives_time _, Format.gives_time _,
      trivial⟩
  exact .via (Format.gives_record ofFields distinct_names) rfl

/-- An article that was made in a leap second after 2024-06-15T10:30:30Z, and changed in the second after that. -/
def aStrayNote : BylinedArticle where
  id := ⟨7⟩
  authorId := ⟨1⟩
  author := "Ada Lovelace"
  title := "Notes"
  content := "On the engine"
  imageUrl := none
  category := "science"
  createdAt := ⟨1718447430, 1500000000, by decide, by decide, by decide⟩
  updatedAt := ⟨1718447431, 500000000, by decide, by decide, by decide⟩

end BylinedArticle

/-! ## Listings -/

namespace Listing

def asShown (listing : Listing) : Listing := { listing with articles := listing.articles.map Article.asShown }

theorem asShown_eq_iff {listing : Listing} :
    listing.asShown = listing ↔ ∀ article ∈ listing.articles, article.LeapsEndMinutes := by
  have each : listing.articles.map Article.asShown = listing.articles ↔
      ∀ article ∈ listing.articles, article.asShown = article := by
    simpa only [List.map_id, id] using
      (List.map_inj_left (l := listing.articles) (f := Article.asShown) (g := id))
  simp only [asShown, Listing.ext_iff, true_and, each, Article.asShown_eq_iff]

theorem gives_format (listing : Listing) : format.Gives listing listing.asShown := by
  have ofFields : fields.Gives
      (listing.totalCount, listing.totalPages, listing.page, listing.size, listing.hasMore, listing.articles, ())
      (listing.totalCount, listing.totalPages, listing.page, listing.size, listing.hasMore,
        listing.articles.map Article.asShown, ()) :=
    ⟨Format.faithful_word64 _, Format.faithful_word64 _, Format.faithful_word32 _, Format.faithful_word32 _,
      Format.faithful_flag _, Format.gives_list Article.gives_format _, trivial⟩
  exact .via (Format.gives_record ofFields (by decide)) rfl

end Listing

end Gazette
