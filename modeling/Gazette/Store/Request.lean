import Gazette.Article.Basic
import Gazette.Store.Error
import Gazette.Time.Clock

/-!
# Requests to a store of articles

* `StoreRequest` is what a store can be asked for, and `StoreRequest.Answer` what it answers.
* `Surroundings` are what a store takes from the world: the time, and random bits for identifiers.
* `StoreBackend` is a store as a transition of its states.
-/

namespace Gazette

inductive StoreRequest
  | insert (draft : Draft)
  | update (revision : Revision)
  | delete (id : Uuid)
  | get (id : Uuid)
  | count
  | list (offset limit : UInt64)
  | countByTitle (needle : String)
  | search (needle : String) (offset limit : UInt64)
  deriving DecidableEq, Repr

/-- What a request is answered with: the article inserted, the article updated if there is one, how many were
deleted, the article found if there is one, how many there are, or some of them. -/
abbrev StoreRequest.Answer : StoreRequest → Type
  | insert _ => Article
  | update _ => Option Article
  | delete _ => UInt64
  | get _ => Option BylinedArticle
  | count => UInt64
  | list _ _ => List Article
  | countByTitle _ => UInt64
  | search _ _ _ => List Article

structure Surroundings where
  clock : WallClock
  random : BitVec 128
  deriving DecidableEq, Repr

abbrev StoreOutcome (α : Type) := Except Crash (Except StoreError α)

/-- A store: how it answers a request, and its state afterwards. -/
abbrev StoreBackend (σ : Type) := Surroundings → (request : StoreRequest) → σ → StoreOutcome request.Answer × σ

def pageOf {α : Type} (rows : List α) (offset limit : UInt64) : List α :=
  (rows.drop offset.toNat).take limit.toNat

end Gazette
