import Gazette.Article.Format
import Gazette.Service.Program

/-!
# Operations on articles

* An `Operation` is what a caller may ask for, and `Operation.Result` what a successful one gives.
* `Service.perform` is the program for an operation: articles are looked up in the cache before the store and
  cached when they come from the store; one that is changed or deleted leaves the cache; listings come from the
  store.

Nothing that goes wrong with the cache reaches the caller. It is noted, and a look-up goes on to the store, unless it
was cancelled.
-/

namespace Gazette

inductive Operation
  | create (draft : Draft)
  | update (revision : Revision)
  | get (id : Uuid)
  | delete (id : Uuid)
  | list (page : Page)
  | search (needle : String) (page : Page)
  deriving DecidableEq, Repr

abbrev Operation.Result : Operation → Type
  | create _ => Article
  | update _ => Article
  | get _ => BylinedArticle
  | delete _ => Unit
  | list _ => Listing
  | search _ _ => Listing

/-- How articles are cached: what their keys begin with, and for how long. -/
structure Service where
  keyPrefix : String
  ttl : Duration
  deriving DecidableEq, Repr

def articleKey (start : String) (id : Uuid) : String := start ++ id.toText

namespace BylinedArticle

def toCached (article : BylinedArticle) : Bytes := format.encode article

def ofCached (octets : Bytes) : Except CacheError BylinedArticle :=
  (format.decode octets).mapError fun error => .notDeserialized error.message

end BylinedArticle

namespace Service

open Program (askStore askCache tell)

def key (service : Service) (id : Uuid) : String := articleKey service.keyPrefix id

/-! ## The cache -/

def invalidate (service : Service) (id : Uuid) : Program Unit := do
  match ← askCache (.delete (service.key id)) with
  | .ok () => return ()
  | .error error =>
    tell .warn "Failed to invalidate article cache" [("article_id", id.toText), ("error", error.message)]

def readHit : Except CacheError (Option Bytes) → Except CacheError (Option BylinedArticle)
  | .error error => .error error
  | .ok none => .ok none
  | .ok (some octets) => (BylinedArticle.ofCached octets).map some

/-- Looks an article up in the cache. Only a cancelled look-up fails. -/
def lookUp (service : Service) (id : Uuid) : Program (Except StoreError (Option BylinedArticle)) := do
  match readHit (← askCache (.get (service.key id))) with
  | .ok (some article) =>
    tell .trace "Cache hit for article" [("article_id", id.toText)]
    return .ok (some article)
  | .ok none =>
    tell .trace "Cache miss for article" [("article_id", id.toText)]
    return .ok none
  | .error .cancelled => return .error .cancelled
  | .error error =>
    tell .warn "Cache lookup failed" [("article_id", id.toText), ("error", error.message)]
    return .ok none

def populate (service : Service) (article : BylinedArticle) : Program Unit := do
  match ← askCache (.set (service.key article.id) article.toCached service.ttl) with
  | .ok () => return ()
  | .error error =>
    tell .warn "Failed to cache article" [("article_id", article.id.toText), ("error", error.message)]

/-! ## Single articles -/

def create (draft : Draft) : Program (Except StoreError Article) := do
  match ← askStore (.insert draft) with
  | .error error => return .error error
  | .ok article =>
    tell .debug "Article created" [("article_id", article.id.toText), ("author_id", article.authorId.toText)]
    return .ok article

def update (service : Service) (revision : Revision) : Program (Except StoreError Article) := do
  match ← askStore (.update revision) with
  | .error error => return .error error
  | .ok none => return .error (.articleNotFound revision.id)
  | .ok (some article) =>
    service.invalidate article.id
    tell .debug "Article updated" [("article_id", article.id.toText)]
    return .ok article

def fetch (service : Service) (id : Uuid) : Program (Except StoreError BylinedArticle) := do
  match ← askStore (.get id) with
  | .error error => return .error error
  | .ok none => return .error (.articleNotFound id)
  | .ok (some article) =>
    service.populate article
    return .ok article

def get (service : Service) (id : Uuid) : Program (Except StoreError BylinedArticle) := do
  match ← service.lookUp id with
  | .error error => return .error error
  | .ok (some article) => return .ok article
  | .ok none => service.fetch id

def delete (service : Service) (id : Uuid) : Program (Except StoreError Unit) := do
  match ← askStore (.delete id) with
  | .error error => return .error error
  | .ok rows =>
    if rows = 0 then return .error (.articleNotFound id)
    else
      service.invalidate id
      tell .debug "Article deleted" [("article_id", id.toText)]
      return .ok ()

/-! ## Listings -/

def pageDetails (page : Page) (total : UInt64) : List (String × String) :=
  [("page", toString page.number), ("size", toString page.size), ("total_count", toString total)]

def list (page : Page) : Program (Except StoreError Listing) := do
  match ← askStore .count with
  | .error error => return .error error
  | .ok total =>
    match ← askStore (.list page.offset page.limit) with
    | .error error => return .error error
    | .ok articles =>
      tell .trace "Listed articles" (pageDetails page total)
      return .ok (page.listing total articles)

def search (needle : String) (page : Page) : Program (Except StoreError Listing) := do
  match ← askStore (.countByTitle needle) with
  | .error error => return .error error
  | .ok total =>
    match ← askStore (.search needle page.offset page.limit) with
    | .error error => return .error error
    | .ok articles =>
      tell .trace "Searched articles by title" (("title", needle) :: pageDetails page total)
      return .ok (page.listing total articles)

def perform (service : Service) : (operation : Operation) → Program (Except StoreError operation.Result)
  | .create draft => create draft
  | .update revision => service.update revision
  | .get id => service.get id
  | .delete id => service.delete id
  | .list page => list page
  | .search needle page => search needle page

end Service

end Gazette
