import Gazette.Proofs.Service.Attribution
import Gazette.Proofs.Service.Cached
import Gazette.Proofs.Service.Requests

/-!
# Services that share a cache

* `IsMap`: a cache answers a request from what it has in a slot for its key, and changes no other slot.
* `Sharing.run` lets two services go on visits, in any order, and records what comes of those of the first.
* `Service.key_ne_key`: keys that begin differently are different, whatever they begin with.
* `separated_of_prefixes`: the first service notices nothing of the second, and no operation anything of other articles
  than its own.
-/

namespace Gazette

open Program (call)

variable {σ ρ τ α : Type}

/-! ## Caches -/

structure IsMap (cache : CacheBackend τ) (slot : String → τ → α) : Prop where
  own : ∀ now request {left right}, slot request.key left = slot request.key right →
    (cache now request left).1 = (cache now request right).1 ∧
      slot request.key (cache now request left).2 = slot request.key (cache now request right).2
  apart : ∀ now request held {key}, key ≠ request.key → slot key (cache now request held).2 = slot key held

/-! ## Keys -/

theorem Uuid.length_toText (id : Uuid) : id.toText.toList.length = 36 := by
  rw [toText, String.toList_ofList]
  exact length_hyphenate (length_fixedHex 32 id.bits.toNat)

/-- The text of an identifier has always the same length, so that a key tells where it begins. -/
theorem articleKey_inj {start other : String} {left right : Uuid} :
    articleKey start left = articleKey other right ↔ start = other ∧ left = right := by
  refine ⟨fun same => ?_, fun ⟨sameStart, sameId⟩ => by rw [sameStart, sameId]⟩
  have texts := congrArg String.toList same
  simp only [articleKey, String.toList_append] at texts
  obtain ⟨starts, ids⟩ := List.append_inj' texts (by rw [Uuid.length_toText, Uuid.length_toText])
  exact ⟨String.toList_inj.mp starts, Uuid.toText_injective (String.toList_inj.mp ids)⟩

theorem Service.key_ne_key {service other : Service} (apart : service.keyPrefix ≠ other.keyPrefix) (left right : Uuid) :
    service.key left ≠ other.key right :=
  fun same => apart (articleKey_inj.mp same).1

/-! ## Two runs at once -/

/-- Sessions that differ at most in what is cached under keys of others. -/
structure AlikeFor (service : Service) (slot : String → τ → α) (left right : Session σ τ) : Prop where
  store : left.store = right.store
  cancelled : left.cancelled = right.cancelled
  calls : left.calls = right.calls
  slots : ∀ id, slot (service.key id) left.cache = slot (service.key id) right.cache

def Call.StaysWithin (service : Service) : Call → Prop
  | .store _ => True
  | .cache request => ∃ id, request.key = service.key id

theorem Service.follows_staysWithin (service : Service) (operation : Operation) :
    (service.perform operation).Follows (Call.StaysWithin service) (fun _ _ => True) fun _ => True := by
  apply (service.follows_isOf (fun _ => True) (fun _ => True) operation).imp
  · intro request isOf
    match request with
    | .store _ => trivial
    | .cache (.get _) =>
      obtain ⟨id, _, key⟩ := isOf
      exact ⟨id, key⟩
    | .cache (.set _ _ _) =>
      obtain ⟨article, _, key, _⟩ := isOf
      exact ⟨article.id, key⟩
    | .cache (.delete _) =>
      obtain ⟨id, _, key⟩ := isOf
      exact ⟨id, key⟩
  · intro request reply _ _
    simp only [Call.Tells]
    split <;> trivial
  · exact fun _ _ => trivial

section Calls

variable {service : Service} {slot : String → τ → α} {collaborators : Collaborators σ τ} {request : Call}
  {fates : (call : Call) → Fate call} {left right session : Session σ τ}

theorem AlikeFor.serve (isMap : IsMap collaborators.cache slot) (within : request.StaysWithin service)
    (alike : AlikeFor service slot left right) :
    (Session.serve collaborators request left).1 = (Session.serve collaborators request right).1 ∧
      AlikeFor service slot (Session.serve collaborators request left).2
        (Session.serve collaborators request right).2 := by
  obtain ⟨store, cancelled, calls, slots⟩ := alike
  cases request with
  | store request =>
    simp only [Session.serve, store]
    exact ⟨trivial, ⟨rfl, cancelled, calls, slots⟩⟩
  | cache request =>
    obtain ⟨id, key⟩ := within
    have sameSlot : slot request.key left.cache = slot request.key right.cache := by
      rw [key]
      exact slots id
    obtain ⟨sameAnswer, sameLeft⟩ := isMap.own collaborators.now request sameSlot
    refine ⟨sameAnswer, ⟨store, cancelled, calls, fun other => ?_⟩⟩
    -- The slots of our other keys are apart from the one that is asked for.
    by_cases same : service.key other = request.key
    · rw [same]
      exact sameLeft
    · calc slot (service.key other) (collaborators.cache collaborators.now request left.cache).2
          = slot (service.key other) left.cache := isMap.apart _ _ _ same
        _ = slot (service.key other) right.cache := slots other
        _ = slot (service.key other) (collaborators.cache collaborators.now request right.cache).2 :=
          (isMap.apart _ _ _ same).symm

theorem AlikeFor.cancel (alike : AlikeFor service slot left right) :
    AlikeFor service slot { left with cancelled := true } { right with cancelled := true } :=
  ⟨alike.store, rfl, alike.calls, alike.slots⟩

theorem AlikeFor.meet (isMap : IsMap collaborators.cache slot) (within : request.StaysWithin service)
    (fate : Fate request) (alike : AlikeFor service slot left right) :
    (Session.meet collaborators request fate left).1 = (Session.meet collaborators request fate right).1 ∧
      AlikeFor service slot (Session.meet collaborators request fate left).2
        (Session.meet collaborators request fate right).2 := by
  obtain ⟨same, kept⟩ := alike.serve isMap within
  cases first : Session.serve collaborators request left with
  | mk outcome after =>
    cases second : Session.serve collaborators request right with
    | mk other later =>
      rw [first, second] at same kept
      obtain rfl : outcome = other := same
      -- The fate is the same on both sides, and so is what the call has come to before it is cut off.
      cases fate with
      | served =>
        simp only [Session.meet, first, second]
        exact ⟨trivial, kept⟩
      | failed error => exact ⟨rfl, alike⟩
      | cutOff worked =>
        cases worked with
        | false => exact ⟨rfl, alike.cancel⟩
        | true =>
          simp only [Session.meet, first, second]
          cases outcome with
          | ok reply => exact ⟨rfl, kept.cancel⟩
          | error crash => exact ⟨rfl, kept⟩
      | servedLast =>
        simp only [Session.meet, first, second]
        cases outcome with
        | ok reply => exact ⟨rfl, kept.cancel⟩
        | error crash => exact ⟨rfl, kept⟩

theorem AlikeFor.handler (isMap : IsMap collaborators.cache slot) (within : request.StaysWithin service)
    (alike : AlikeFor service slot left right) :
    (Session.handler collaborators fates request left).1 = (Session.handler collaborators fates request right).1 ∧
      AlikeFor service slot (Session.handler collaborators fates request left).2
        (Session.handler collaborators fates request right).2 := by
  cases cancelled : right.cancelled with
  | true =>
    rw [Session.handler_of_cancelled cancelled, Session.handler_of_cancelled (alike.cancelled.trans cancelled)]
    exact ⟨rfl, alike⟩
  | false =>
    rw [Session.handler_live _ _ _ cancelled, Session.handler_live _ _ _ (alike.cancelled.trans cancelled)]
    have logged : AlikeFor service slot (left.logged request) (right.logged request) :=
      ⟨alike.store, alike.cancelled, congrArg (· ++ [request]) alike.calls, alike.slots⟩
    exact logged.meet isMap within (fates request)

/-- A call leaves the slots of all keys but its own. -/
theorem slot_handler {key : String} (isMap : IsMap collaborators.cache slot)
    (other : ∀ asked, request = .cache asked → key ≠ asked.key) :
    slot key (Session.handler collaborators fates request session).2.cache = slot key session.cache := by
  rcases Session.handler_cases collaborators fates request session with ⟨_, same, _⟩ | ⟨_, same, _⟩
  · rw [same]
  · rw [same]
    cases request with
    | store request => rfl
    | cache asked => exact isMap.apart _ _ _ (other asked rfl)

end Calls

/-! ## Visits -/

/-- An errand for one of two services. Its caller may have cancelled before. -/
structure Visit where
  isOurs : Bool
  cancelled : Bool
  errand : Errand

def Visit.meet (service : Service) (store : StoreBackend σ) (cache : CacheBackend τ) (visit : Visit) (held : σ × τ) :
    Program.Run (Except StoreError visit.errand.operation.Result) (Session σ τ) :=
  Session.run ⟨store, cache, visit.errand.surroundings, visit.errand.now⟩ visit.errand.fates visit.cancelled
    (service.perform visit.errand.operation) held.1 held.2

/-- Two services that share a cache, each over a store of its own. -/
structure Sharing (σ ρ τ : Type) where
  ours : Service
  theirs : Service
  ourStore : StoreBackend σ
  theirStore : StoreBackend ρ
  cache : CacheBackend τ

namespace Sharing

structure Holdings (σ ρ τ : Type) where
  ours : σ
  theirs : ρ
  cache : τ

/-- What comes of one of our visits, and what it finds and leaves in the cache under our keys. -/
structure Account (α : Type) where
  operation : Operation
  outcome : StoreOutcome operation.Result
  events : List Event
  calls : List Call
  found : Uuid → α
  left : Uuid → α

variable (sharing : Sharing σ ρ τ) (slot : String → τ → α)

def meetOurs (visit : Visit) (held : Holdings σ ρ τ) : Account α × Holdings σ ρ τ :=
  let run := visit.meet sharing.ours sharing.ourStore sharing.cache (held.ours, held.cache)
  (⟨visit.errand.operation, run.outcome, run.events, run.state.calls, fun id => slot (sharing.ours.key id) held.cache,
      fun id => slot (sharing.ours.key id) run.state.cache⟩,
    { held with ours := run.state.store, cache := run.state.cache })

def meetTheirs (visit : Visit) (held : Holdings σ ρ τ) : Holdings σ ρ τ :=
  let run := visit.meet sharing.theirs sharing.theirStore sharing.cache (held.theirs, held.cache)
  { held with theirs := run.state.store, cache := run.state.cache }

def run : List Visit → Holdings σ ρ τ → List (Account α) × Holdings σ ρ τ
  | [], held => ([], held)
  | visit :: visits, held =>
    if visit.isOurs then
      let (account, held) := sharing.meetOurs slot visit held
      let (accounts, held) := run visits held
      (account :: accounts, held)
    else run visits (sharing.meetTheirs visit held)

structure Agree (held other : Holdings σ ρ τ) : Prop where
  store : held.ours = other.ours
  slots : ∀ id, slot (sharing.ours.key id) held.cache = slot (sharing.ours.key id) other.cache

variable {sharing slot} {held other : Holdings σ ρ τ}

theorem Agree.meetOurs (isMap : IsMap sharing.cache slot) (agree : sharing.Agree slot held other) (visit : Visit) :
    (sharing.meetOurs slot visit held).1 = (sharing.meetOurs slot visit other).1 ∧
      sharing.Agree slot (sharing.meetOurs slot visit held).2 (sharing.meetOurs slot visit other).2 := by
  have start : AlikeFor sharing.ours slot (⟨held.ours, held.cache, visit.cancelled, []⟩ : Session σ τ)
      ⟨other.ours, other.cache, visit.cancelled, []⟩ := ⟨agree.store, rfl, rfl, agree.slots⟩
  obtain ⟨outcome, events, alike⟩ := (sharing.ours.follows_staysWithin visit.errand.operation).run_alike
    (Session.handler ⟨sharing.ourStore, sharing.cache, visit.errand.surroundings, visit.errand.now⟩
      visit.errand.fates)
    (Session.handler ⟨sharing.ourStore, sharing.cache, visit.errand.surroundings, visit.errand.now⟩
      visit.errand.fates)
    (AlikeFor sharing.ours slot) (fun _ _ _ within alike => alike.handler isMap within) (fun _ _ => trivial) start
  refine ⟨?_, alike.store, alike.slots⟩
  simp only [Sharing.meetOurs, Visit.meet, Session.run, outcome, events, alike.calls, alike.slots, agree.slots]

theorem Agree.meetTheirs (isMap : IsMap sharing.cache slot)
    (apart : sharing.ours.keyPrefix ≠ sharing.theirs.keyPrefix) (agree : sharing.Agree slot held other)
    (visit : Visit) : sharing.Agree slot (sharing.meetTheirs visit held) other := by
  refine ⟨agree.store, fun id => ?_⟩
  have start : slot (sharing.ours.key id) (Session.mk held.theirs held.cache visit.cancelled []).cache
    = slot (sharing.ours.key id) held.cache := rfl
  have kept := (sharing.theirs.follows_staysWithin visit.errand.operation).final
    (Session.handler ⟨sharing.theirStore, sharing.cache, visit.errand.surroundings, visit.errand.now⟩
      visit.errand.fates)
    (fun session => slot (sharing.ours.key id) session.cache = slot (sharing.ours.key id) held.cache)
    (fun request session within same => by
      refine ⟨(slot_handler isMap ?_).trans same, fun _ _ => trivial⟩
      rintro asked rfl
      obtain ⟨their, key⟩ := within
      rw [key]
      exact Service.key_ne_key apart id their)
    start
  exact kept.1.trans (agree.slots id)

/-- Our visits go as if there were no others. -/
theorem Agree.run (isMap : IsMap sharing.cache slot) (apart : sharing.ours.keyPrefix ≠ sharing.theirs.keyPrefix)
    (agree : sharing.Agree slot held other) (visits : List Visit) :
    (sharing.run slot visits held).1 = (sharing.run slot (visits.filter Visit.isOurs) other).1 ∧
      sharing.Agree slot (sharing.run slot visits held).2 (sharing.run slot (visits.filter Visit.isOurs) other).2 := by
  induction visits generalizing held other with
  | nil => exact ⟨rfl, agree⟩
  | cons visit visits inductionHypothesis =>
    cases ours : visit.isOurs with
    | true =>
      obtain ⟨account, met⟩ := agree.meetOurs isMap visit
      obtain ⟨accounts, last⟩ := inductionHypothesis met
      rw [List.filter_cons_of_pos ours]
      simp only [Sharing.run, ours, if_true, account, accounts]
      exact ⟨trivial, last⟩
    | false =>
      rw [List.filter_cons_of_neg (by simp [ours])]
      simp only [Sharing.run, ours, Bool.false_eq_true, if_false]
      exact inductionHypothesis (agree.meetTheirs isMap apart visit)

end Sharing

/-! ## Other articles -/

/-- An operation asks the cache nothing unless it is about an article. It asks then about that one, and leaves the
others there as they were. -/
structure Visit.KeepsToItself (visit : Visit) (service : Service) (slot : String → τ → α) (before : τ)
    (after : Session σ τ) : Prop where
  silent : visit.errand.operation.article? = none → ∀ request, .cache request ∉ after.calls
  spared : ∀ id, visit.errand.operation.article? ≠ some id →
    (∀ request, .cache request ∈ after.calls → request.key ≠ service.key id) ∧
      slot (service.key id) after.cache = slot (service.key id) before

def Call.StaysWithinArticle (service : Service) (operation : Operation) : Call → Prop
  | .store request => operation.Asks request
  | .cache request => ∃ id, operation.article? = some id ∧ request.key = service.key id

theorem Service.follows_staysWithinArticle (service : Service) (operation : Operation) :
    (service.perform operation).Follows (Call.StaysWithinArticle service operation)
      (Call.Tells (fun article => operation.article? = some article.id) fun id => operation.article? = some id)
      fun _ => True := by
  apply (service.follows_isOf (fun article => operation.article? = some article.id)
    (fun id => operation.article? = some id) operation).imp
  · intro request isOf
    match request with
    | .store _ => exact isOf
    | .cache (.get _) =>
      obtain ⟨id, rfl, key⟩ := isOf
      exact ⟨id, rfl, key⟩
    | .cache (.set _ _ _) =>
      obtain ⟨article, own, key, _⟩ := isOf
      exact ⟨article.id, own, key⟩
    | .cache (.delete _) => exact isOf
  · exact fun _ _ _ => id
  · exact fun _ => id

theorem tells_of_staysWithinArticle {kind : StoreKind} {cache : CacheBackend τ} {world : Surroundings} {now : Instant}
    {fates : (call : Call) → Fate call} {session : Session kind.State τ} {service : Service} {operation : Operation}
    {request : Call} {reply : request.Reply} (within : request.StaysWithinArticle service operation)
    (replied : (Session.handler ⟨kind.backend, cache, world, now⟩ fates request session).1 = .ok reply) :
    request.Tells (fun article => operation.article? = some article.id) (fun id => operation.article? = some id)
      reply := by
  apply tells_of_handler ?_ ?_ ?_ replied
  · rintro id article rfl found
    rw [within.article_eq, StoreKind.id_of_find found]
    rfl
  · rintro revision rfl
    exact within.article_eq
  · rintro id rfl
    exact within.article_eq

structure Session.Restrained (service : Service) (operation : Operation) (slot : String → τ → α) (before : τ)
    (session : Session σ τ) : Prop where
  calls : ∀ asked, .cache asked ∈ session.calls → ∃ id, operation.article? = some id ∧ asked.key = service.key id
  others : ∀ id, operation.article? ≠ some id → slot (service.key id) session.cache = slot (service.key id) before

theorem Session.Restrained.handler {collaborators : Collaborators σ τ} {fates : (call : Call) → Fate call}
    {slot : String → τ → α} {before : τ} {session : Session σ τ} {service : Service} {operation : Operation}
    {request : Call} (isMap : IsMap collaborators.cache slot) (within : request.StaysWithinArticle service operation)
    (restrained : session.Restrained service operation slot before) :
    (Session.handler collaborators fates request session).2.Restrained service operation slot before := by
  refine ⟨?_, ?_⟩
  · intro asked made
    rcases Session.mem_calls_of_handler made with earlier | rfl
    · exact restrained.calls asked earlier
    · exact within
  · intro id other
    refine (slot_handler isMap ?_).trans (restrained.others id other)
    rintro asked rfl sameKey
    obtain ⟨own, sameArticle, key⟩ := within
    rw [Service.key_injective (sameKey.trans key)] at other
    exact other sameArticle

theorem Visit.keepsToItself {cache : CacheBackend τ} {slot : String → τ → α} (isMap : IsMap cache slot)
    (kind : StoreKind) (service : Service) (visit : Visit) (held : kind.State × τ) :
    visit.KeepsToItself service slot held.2 (visit.meet service kind.backend cache held).state := by
  obtain ⟨isOurs, cancelled, operation, world, now, fates⟩ := visit
  have start : Session.Restrained service operation slot held.2 (⟨held.1, held.2, cancelled, []⟩ : Session _ τ) :=
    ⟨nofun, fun _ _ => rfl⟩
  obtain ⟨⟨calls, others⟩, _⟩ := (service.follows_staysWithinArticle operation).final
    (Session.handler ⟨kind.backend, cache, world, now⟩ fates) (Session.Restrained service operation slot held.2)
    (fun _ _ within restrained => ⟨restrained.handler isMap within, fun _ => tells_of_staysWithinArticle within⟩) start
  refine ⟨?_, fun id other => ⟨?_, others id other⟩⟩
  · intro none request made
    obtain ⟨id, some, _⟩ := calls request made
    rw [none] at some
    cases some
  · intro request made sameKey
    obtain ⟨own, sameArticle, key⟩ := calls request made
    rw [Service.key_injective (key.symm.trans sameKey)] at sameArticle
    exact other sameArticle

/-- Services with keys that begin differently, whatever they begin with, do not notice each other in a cache that is a
map. In such a cache an operation leaves all articles alone but its own. -/
theorem separated_of_prefixes (sharing : Sharing σ ρ τ) {slot : String → τ → α} (isMap : IsMap sharing.cache slot)
    (apart : sharing.ours.keyPrefix ≠ sharing.theirs.keyPrefix) (visits : List Visit)
    (held : Sharing.Holdings σ ρ τ) :
    ((sharing.run slot visits held).1 = (sharing.run slot (visits.filter Visit.isOurs) held).1 ∧
        sharing.Agree slot (sharing.run slot visits held).2
          (sharing.run slot (visits.filter Visit.isOurs) held).2) ∧
      ∀ (kind : StoreKind) (service : Service) (visit : Visit) (held : kind.State × τ),
        visit.KeepsToItself service slot held.2 (visit.meet service kind.backend sharing.cache held).state :=
  have agree : sharing.Agree slot held held := ⟨rfl, fun _ => rfl⟩
  ⟨agree.run isMap apart visits, Visit.keepsToItself isMap⟩

def aCardIndex : CacheBackend (String → Option (Bytes × Instant)) := fun now request held =>
  match request with
  | .get key => (.ok (.ok (((held key).filter fun value => now.nanoseconds < value.2.nanoseconds).map Prod.fst)), held)
  | .delete key => (.ok (.ok ()), fun other => if other = key then none else held other)
  | .set key value ttl =>
    match now.after? ttl with
    | none => (.error .deadlineOverflow, held)
    | some deadline => (.ok (.ok ()), fun other => if other = key then some (value, deadline) else held other)

theorem isMap_aCardIndex : IsMap aCardIndex fun key held => held key where
  own now request left right same := by
    cases request with
    | get key =>
      have sameValue : left key = right key := same
      simp only [aCardIndex, CacheRequest.key, sameValue, and_self]
    | delete key => simp [aCardIndex, CacheRequest.key]
    | set key value ttl => cases reached : now.after? ttl <;> simp_all [aCardIndex, CacheRequest.key]
  apart now request held key other := by
    cases request with
    | get _ => rfl
    | delete asked => exact if_neg other
    | set asked value ttl =>
      cases reached : now.after? ttl with
      | none => simp only [aCardIndex, reached]
      | some deadline =>
        simp only [aCardIndex, reached]
        exact if_neg other

/-- Our keys begin with nothing. Theirs begin with one of our keys. -/
def twoDesks : Sharing MemoryStore MemoryStore (String → Option (Bytes × Instant)) :=
  ⟨⟨"", .ofSeconds 60⟩, ⟨"00000000-0000-0000-0000-000000000007", .ofSeconds 60⟩, MemoryStore.backend,
    MemoryStore.backend, aCardIndex⟩

/-- We look an article up and delete it. Between that they delete theirs of the same name. -/
def threeVisits : List Visit :=
  let world : Surroundings := ⟨⟨1700000000000000000⟩, 9⟩
  [⟨true, false, ⟨.get ⟨7⟩, world, ⟨1⟩, Session.undisturbed⟩⟩,
    ⟨false, false, ⟨.delete ⟨7⟩, world, ⟨2⟩, Session.undisturbed⟩⟩,
    ⟨true, false, ⟨.delete ⟨7⟩, world, ⟨3⟩, Session.undisturbed⟩⟩]

theorem separated_of_prefixes_twoDesks :
    IsMap twoDesks.cache (fun key held => held key) ∧ twoDesks.ours.keyPrefix ≠ twoDesks.theirs.keyPrefix ∧
      threeVisits.filter Visit.isOurs ≠ threeVisits ∧
      (twoDesks.run (fun key held => held key) threeVisits ⟨aShelf, aShelf, fun _ => none⟩).1
        = (twoDesks.run (fun key held => held key) (threeVisits.filter Visit.isOurs)
            ⟨aShelf, aShelf, fun _ => none⟩).1 := by
  have apart : twoDesks.ours.keyPrefix ≠ twoDesks.theirs.keyPrefix := by decide
  have fewer : threeVisits.filter Visit.isOurs ≠ threeVisits := by
    intro same
    have lengths := congrArg List.length same
    cases lengths
  exact ⟨isMap_aCardIndex, apart, fewer,
    (separated_of_prefixes twoDesks isMap_aCardIndex apart threeVisits ⟨aShelf, aShelf, fun _ => none⟩).1.1⟩

example : ((twoDesks.run (fun key held => held key) threeVisits ⟨aShelf, aShelf, fun _ => none⟩).1.map
    fun account => account.calls.length) = [3, 2] := rfl

end Gazette
