import Gazette.Article.Basic
import Gazette.Article.Page

/-!
# Listings

A `Listing` is one page of articles with what a reader needs to find the others.
-/

namespace Gazette

@[ext] structure Listing where
  /-- The articles on all pages. -/
  totalCount : UInt64
  totalPages : UInt64
  page : UInt32
  size : UInt32
  hasMore : Bool
  articles : List Article
  deriving DecidableEq, Repr

def Page.listing (page : Page) (totalCount : UInt64) (articles : List Article) : Listing where
  totalCount := totalCount
  totalPages := page.pageCount totalCount
  page := page.number
  size := page.size
  hasMore := page.hasMore totalCount
  articles := articles

end Gazette
