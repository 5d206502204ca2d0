import Gazette.Time.Timestamp
import Gazette.Uuid.Basic

/-!
# Articles and their authors

* `Article` is an article as it is kept, `Draft` what is known of one before it is kept, and `Revision` what
  replaces the parts of one that may change.
* `BylinedArticle` is an article with the name of its author, the form in which readers get it.
-/

namespace Gazette

@[ext] structure Author where
  id : Uuid
  firstName : String
  lastName : String
  deriving DecidableEq, Repr

def Author.displayName (author : Author) : String := author.firstName ++ " " ++ author.lastName

@[ext] structure Article where
  id : Uuid
  authorId : Uuid
  title : String
  content : String
  imageUrl : Option String
  category : String
  createdAt : Timestamp
  updatedAt : Timestamp
  deriving DecidableEq, Repr

@[ext] structure Draft where
  authorId : Uuid
  title : String
  content : String
  imageUrl : Option String
  category : String
  deriving DecidableEq, Repr

@[ext] structure Revision where
  id : Uuid
  title : String
  content : String
  imageUrl : Option String
  category : String
  deriving DecidableEq, Repr

@[ext] structure BylinedArticle where
  id : Uuid
  authorId : Uuid
  author : String
  title : String
  content : String
  imageUrl : Option String
  category : String
  createdAt : Timestamp
  updatedAt : Timestamp
  deriving DecidableEq, Repr

/-- The article that a draft becomes when it gets an identifier. It counts as updated when it is created. -/
def Draft.toArticle (draft : Draft) (id : Uuid) (now : Timestamp) : Article where
  id := id
  authorId := draft.authorId
  title := draft.title
  content := draft.content
  imageUrl := draft.imageUrl
  category := draft.category
  createdAt := now
  updatedAt := now

def Article.revise (article : Article) (revision : Revision) (now : Timestamp) : Article :=
  { article with
    title := revision.title
    content := revision.content
    imageUrl := revision.imageUrl
    category := revision.category
    updatedAt := now }

def Article.withByline (article : Article) (author : String) : BylinedArticle where
  id := article.id
  authorId := article.authorId
  author := author
  title := article.title
  content := article.content
  imageUrl := article.imageUrl
  category := article.category
  createdAt := article.createdAt
  updatedAt := article.updatedAt

def BylinedArticle.toArticle (article : BylinedArticle) : Article where
  id := article.id
  authorId := article.authorId
  title := article.title
  content := article.content
  imageUrl := article.imageUrl
  category := article.category
  createdAt := article.createdAt
  updatedAt := article.updatedAt

/-- Neither moment is in a leap second that UTC does not have. -/
def BylinedArticle.LeapsEndMinutes (article : BylinedArticle) : Prop :=
  article.createdAt.LeapEndsMinute ∧ article.updatedAt.LeapEndsMinute

instance (article : BylinedArticle) : Decidable article.LeapsEndMinutes := inferInstanceAs (Decidable (_ ∧ _))

namespace Article

def LeapsEndMinutes (article : Article) : Prop :=
  article.createdAt.LeapEndsMinute ∧ article.updatedAt.LeapEndsMinute

instance (article : Article) : Decidable article.LeapsEndMinutes := inferInstanceAs (Decidable (_ ∧ _))

theorem LeapsEndMinutes.revise {article : Article} {now : Timestamp} (leaps : article.LeapsEndMinutes)
    (revision : Revision) (nowLeaps : now.LeapEndsMinute) : (article.revise revision now).LeapsEndMinutes :=
  ⟨leaps.1, nowLeaps⟩

/-- The order of listings: older articles first, then smaller identifiers. -/
def compare (left right : Article) : Ordering :=
  (left.createdAt.compare right.createdAt).then (left.id.compare right.id)

end Article

theorem Draft.leapsEndMinutes_toArticle {now : Timestamp} (draft : Draft) (id : Uuid) (leaps : now.LeapEndsMinute) :
    (draft.toArticle id now).LeapsEndMinutes :=
  ⟨leaps, leaps⟩

end Gazette
