import Gazette.Article.Listing
import Gazette.Time.Clock
import Gazette.Time.Printer

/-!
# Articles as people read them

The text of an author, an article and a listing: a headline and indented lines below it. A listing names the page after
it, for which there has to be a word of 32 bits.
-/

namespace Gazette

def Author.toText (author : Author) : String := s!"{author.displayName}\n  ID: {author.id.toText}"

def imageLine : Option String → String
  | some url => "\n  Image: " ++ url
  | none => ""

def timeLines (createdAt updatedAt : Timestamp) : String :=
  s!"\n  Created: {createdAt.toText}\n  Updated: {updatedAt.toText}"

def Article.toText (article : Article) : String :=
  s!"{article.title} [{article.category}]\n  ID: {article.id.toText}\n  Author ID: {article.authorId.toText}"
    ++ imageLine article.imageUrl ++ timeLines article.createdAt article.updatedAt

def BylinedArticle.toText (article : BylinedArticle) : String :=
  s!"{article.title} [{article.category}]\n  ID: {article.id.toText}\n  By: {article.author}"
    ++ imageLine article.imageUrl ++ timeLines article.createdAt article.updatedAt
    ++ "\n\n" ++ article.content

namespace Listing

def rule : String := String.ofList (List.replicate 40 '-')

/-- The line that names the next page, if there are more articles. -/
def nextPageLine (listing : Listing) : Except Crash String :=
  if listing.hasMore then
    let next := listing.page.toNat + 1
    if next < UInt32.size then .ok s!"\nMore results on page {next}." else .error .sumOverflow
  else .ok ""

def toText (listing : Listing) : Except Crash String :=
  let page := listing.page.toNat
  let pages := listing.totalPages.toNat
  let total := listing.totalCount.toNat
  if listing.articles.isEmpty then .ok s!"No articles on page {page} of {pages} ({total} total)."
  else
    listing.nextPageLine.map fun nextPage =>
      s!"ARTICLES page {page}/{pages} ({total} total)\n" ++ rule
        ++ String.join (listing.articles.map fun article => s!"\n{article.toText}\n")
        ++ nextPage

end Listing

end Gazette
