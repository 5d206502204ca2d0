import Gazette.Article.Listing
import Gazette.Json.Record

/-!
# Articles in JSON

The JSON formats of authors, articles, drafts, revisions, articles with bylines and listings.
-/

namespace Gazette

open Json (Field Fields Format)

namespace Author

def fields : Fields [Uuid, String, String] :=
  .cons (.required "id" .uuid) <|
  .cons (.required "firstName" .text) <|
  .cons (.required "lastName" .text) .nil

def format : Format Author :=
  (Format.record "Author" fields).via
    (fun (id, firstName, lastName, ()) => ⟨id, firstName, lastName⟩)
    (fun author => (author.id, author.firstName, author.lastName, ()))

end Author

namespace Draft

def fields : Fields [Uuid, String, String, Option String, String] :=
  .cons (.required "authorId" .uuid) <|
  .cons (.required "title" .text) <|
  .cons (.required "content" .text) <|
  .cons (.optional "imageUrl" .text) <|
  .cons (.required "category" .text) .nil

def format : Format Draft :=
  (Format.record "NewArticle" fields).via
    (fun (authorId, title, content, imageUrl, category, ()) => ⟨authorId, title, content, imageUrl, category⟩)
    (fun draft => (draft.authorId, draft.title, draft.content, draft.imageUrl, draft.category, ()))

end Draft

namespace Revision

def fields : Fields [Uuid, String, String, Option String, String] :=
  .cons (.required "id" .uuid) <|
  .cons (.required "title" .text) <|
  .cons (.required "content" .text) <|
  .cons (.optional "imageUrl" .text) <|
  .cons (.required "category" .text) .nil

def format : Format Revision :=
  (Format.record "ArticleUpdate" fields).via
    (fun (id, title, content, imageUrl, category, ()) => ⟨id, title, content, imageUrl, category⟩)
    (fun revision =>
      (revision.id, revision.title, revision.content, revision.imageUrl, revision.category, ()))

end Revision

namespace Article

def fields : Fields [Uuid, Uuid, String, String, Option String, String, Timestamp, Timestamp] :=
  .cons (.required "id" .uuid) <|
  .cons (.required "authorId" .uuid) <|
  .cons (.required "title" .text) <|
  .cons (.required "content" .text) <|
  .cons (.optional "imageUrl" .text) <|
  .cons (.required "category" .text) <|
  .cons (.required "createdAt" .time) <|
  .cons (.required "updatedAt" .time) .nil

def format : Format Article :=
  (Format.record "Article" fields).via
    (fun (id, authorId, title, content, imageUrl, category, createdAt, updatedAt, ()) =>
      ⟨id, authorId, title, content, imageUrl, category, createdAt, updatedAt⟩)
    (fun article =>
      (article.id, article.authorId, article.title, article.content, article.imageUrl, article.category,
        article.createdAt, article.updatedAt, ()))

end Article

namespace BylinedArticle

def fields : Fields [Uuid, Uuid, String, String, String, Option String, String, Timestamp, Timestamp] :=
  .cons (.required "id" .uuid) <|
  .cons (.required "authorId" .uuid) <|
  .cons (.required "author" .text) <|
  .cons (.required "title" .text) <|
  .cons (.required "content" .text) <|
  .cons (.optional "imageUrl" .text) <|
  .cons (.required "category" .text) <|
  .cons (.required "createdAt" .time) <|
  .cons (.required "updatedAt" .time) .nil

def format : Format BylinedArticle :=
  (Format.record "ArticleWithAuthor" fields).via
    (fun (id, authorId, author, title, content, imageUrl, category, createdAt, updatedAt, ()) =>
      ⟨id, authorId, author, title, content, imageUrl, category, createdAt, updatedAt⟩)
    (fun article =>
      (article.id, article.authorId, article.author, article.title, article.content, article.imageUrl,
        article.category, article.createdAt, article.updatedAt, ()))

end BylinedArticle

namespace Listing

def fields : Fields [UInt64, UInt64, UInt32, UInt32, Bool, List Article] :=
  .cons (.required "totalCount" .word64) <|
  .cons (.required "totalPages" .word64) <|
  .cons (.required "page" .word32) <|
  .cons (.required "size" .word32) <|
  .cons (.required "hasMore" .flag) <|
  .cons (.required "articles" (.list Article.format)) .nil

def format : Format Listing :=
  (Format.record "ArticleList" fields).via
    (fun (totalCount, totalPages, page, size, hasMore, articles, ()) =>
      ⟨totalCount, totalPages, page, size, hasMore, articles⟩)
    (fun listing =>
      (listing.totalCount, listing.totalPages, listing.page, listing.size, listing.hasMore,
        listing.articles, ()))

end Listing

end Gazette
