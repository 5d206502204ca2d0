import Gazette.Service.Session

/-!
# Operations call by call

* `Program.final` is what comes of a program besides its events, with an equation for each way to go on.
* Each operation is a call and a function of its reply. The equations here say so, and which notes are taken between.
-/

namespace Gazette

/-! ## Running -/

namespace Program

variable {α σ : Type} {handler : Handler σ} {state after : σ}

def final (handler : Handler σ) (program : Program α) (state : σ) : Except Crash α × σ :=
  ((program.run handler state).outcome, (program.run handler state).state)

@[simp] theorem final_done (result : α) : (done result).final handler state = (.ok result, state) := rfl

@[simp] theorem final_note (event : Event) (next : Program α) :
    (note event next).final handler state = next.final handler state := rfl

theorem final_call_ok {request : Call} {next : request.Reply → Program α} {reply : request.Reply}
    (answered : handler request state = (.ok reply, after)) :
    (call request next).final handler state = (next reply).final handler after := by
  simp only [final, run, answered]

theorem final_call_error {request : Call} {next : request.Reply → Program α} {crash : Crash}
    (ended : handler request state = (.error crash, after)) :
    (call request next).final handler state = (.error crash, after) := by
  simp only [final, run, ended]

/-- A program that makes only calls that are allowed and returns only what is promised, as long as it gets only replies
that are possible. -/
def Follows (allowed : Call → Prop) (possible : (call : Call) → call.Reply → Prop) (promised : α → Prop) :
    Program α → Prop
  | done result => promised result
  | note _ next => next.Follows allowed possible promised
  | call request next =>
    allowed request ∧ ∀ reply, possible request reply → (next reply).Follows allowed possible promised

theorem Follows.imp {allowed wider : Call → Prop} {possible narrower : (call : Call) → call.Reply → Prop}
    {promised weaker : α → Prop} {program : Program α} (follows : program.Follows allowed possible promised)
    (calls : ∀ request, allowed request → wider request)
    (replies : ∀ request reply, allowed request → narrower request reply → possible request reply)
    (results : ∀ result, promised result → weaker result) : program.Follows wider narrower weaker := by
  induction program with
  | done result => exact results result follows
  | note event next inductionHypothesis => exact inductionHypothesis follows
  | call request next inductionHypothesis =>
    obtain ⟨isAllowed, onReply⟩ := follows
    exact ⟨calls request isAllowed, fun reply isPossible =>
      inductionHypothesis reply (onReply reply (replies request reply isAllowed isPossible))⟩

/-- What allowed calls preserve is preserved by the program, and what is promised is returned. -/
theorem Follows.final {allowed : Call → Prop} {possible : (call : Call) → call.Reply → Prop} {promised : α → Prop}
    {program : Program α} (handler : Handler σ) (invariant : σ → Prop)
    (follows : program.Follows allowed possible promised)
    (preserved : ∀ request state, allowed request → invariant state → invariant (handler request state).2 ∧
      ∀ reply, (handler request state).1 = .ok reply → possible request reply)
    (start : invariant state) :
    invariant (program.final handler state).2 ∧
      ∀ result, (program.final handler state).1 = .ok result → promised result := by
  induction program generalizing state with
  | done result =>
    refine ⟨start, ?_⟩
    rintro _ ⟨⟩
    exact follows
  | note event next inductionHypothesis => exact inductionHypothesis follows start
  | call request next inductionHypothesis =>
    obtain ⟨isAllowed, onReply⟩ := follows
    -- The reply is a possible one, so that the rest of the program follows, too.
    obtain ⟨kept, isPossible⟩ := preserved request state isAllowed start
    cases answered : handler request state with
    | mk outcome after =>
      rw [answered] at kept isPossible
      cases outcome with
      | ok reply =>
        rw [final_call_ok answered]
        exact inductionHypothesis reply (onReply reply (isPossible reply rfl)) kept
      | error crash =>
        rw [final_call_error answered]
        exact ⟨kept, nofun⟩

/-- Two runs of a program go alike, if calls are replied to alike in states that are alike. -/
theorem Follows.run_alike {τ : Type} {allowed : Call → Prop} {possible : (call : Call) → call.Reply → Prop}
    {promised : α → Prop} {program : Program α} {left : σ} {right : τ} (handler : Handler σ) (other : Handler τ)
    (alike : σ → τ → Prop)
    (preserved : ∀ request left right, allowed request → alike left right →
      (handler request left).1 = (other request right).1 ∧ alike (handler request left).2 (other request right).2)
    (all : ∀ request reply, possible request reply) (follows : program.Follows allowed possible promised)
    (start : alike left right) :
    (program.run handler left).outcome = (program.run other right).outcome ∧
      (program.run handler left).events = (program.run other right).events ∧
      alike (program.run handler left).state (program.run other right).state := by
  -- The programs are one and the same as long as the replies are, and equal replies lead to equal rests.
  induction program generalizing left right with
  | done result => exact ⟨rfl, rfl, start⟩
  | note event next inductionHypothesis =>
    obtain ⟨outcome, events, last⟩ := inductionHypothesis follows start
    exact ⟨outcome, congrArg (event :: ·) events, last⟩
  | call request next inductionHypothesis =>
    obtain ⟨isAllowed, onReply⟩ := follows
    obtain ⟨same, kept⟩ := preserved request left right isAllowed start
    cases first : handler request left with
    | mk outcome after =>
      cases second : other request right with
      | mk otherwise later =>
        rw [first, second] at same kept
        obtain rfl : outcome = otherwise := same
        cases outcome with
        | ok reply =>
          simp only [run, first, second]
          exact inductionHypothesis reply (onReply reply (all request reply)) kept
        | error crash =>
          simp only [run, first, second]
          exact ⟨trivial, trivial, kept⟩

def Ends (result : α) : Program α → Prop
  | done other => other = result
  | note _ next => next.Ends result
  | call _ _ => False

theorem ends_done (result : α) : (done result).Ends result := rfl

/-- Such a program leaves the state as it is, and notes the same whoever replies to calls. -/
theorem Ends.exists_run {result : α} {program : Program α} (ends : program.Ends result) :
    ∃ events, ∀ {σ : Type} (handler : Handler σ) (state : σ),
      program.run handler state = ⟨.ok result, state, events⟩ := by
  induction program with
  | done other =>
    obtain rfl : other = result := ends
    exact ⟨[], fun _ _ => rfl⟩
  | note event next inductionHypothesis =>
    obtain ⟨events, ran⟩ := inductionHypothesis ends
    refine ⟨event :: events, fun handler state => ?_⟩
    simp only [run, ran handler state]
  | call request next => exact ends.elim

theorem Ends.final_eq {result : α} {program : Program α} (ends : program.Ends result) (handler : Handler σ)
    (state : σ) : program.final handler state = (.ok result, state) := by
  obtain ⟨events, ran⟩ := ends.exists_run
  simp only [final, ran handler state]

end Program

/-! ## Operations -/

namespace Service

open Program (call note done)

variable (service : Service)

def missed (id : Uuid) : Event := ⟨.trace, "Cache miss for article", [("article_id", id.toText)]⟩

def hit (id : Uuid) : Event := ⟨.trace, "Cache hit for article", [("article_id", id.toText)]⟩

def lookUpFailed (id : Uuid) (error : CacheError) : Event :=
  ⟨.warn, "Cache lookup failed", [("article_id", id.toText), ("error", error.message)]⟩

def notCached (id : Uuid) (error : CacheError) : Event :=
  ⟨.warn, "Failed to cache article", [("article_id", id.toText), ("error", error.message)]⟩

def notInvalidated (id : Uuid) (error : CacheError) : Event :=
  ⟨.warn, "Failed to invalidate article cache", [("article_id", id.toText), ("error", error.message)]⟩

def finish {α : Type} (failed : CacheError → Event) (next : Program α) : Except CacheError Unit → Program α
  | .ok () => next
  | .error error => note (failed error) next

theorem ends_finish {α : Type} {failed : CacheError → Event} {next : Program α} {result : α}
    (ends : next.Ends result) (reply : Except CacheError Unit) : (finish failed next reply).Ends result := by
  match reply with
  | .ok () => exact ends
  | .error error => exact ends

def afterFetch (id : Uuid) : Except StoreError (Option BylinedArticle) → Program (Except StoreError BylinedArticle)
  | .error error => done (.error error)
  | .ok none => done (.error (.articleNotFound id))
  | .ok (some article) =>
    call (.cache (.set (service.key article.id) article.toCached service.ttl))
      (finish (notCached article.id) (done (.ok article)))

def afterLookUp (id : Uuid) : Except CacheError (Option BylinedArticle) → Program (Except StoreError BylinedArticle)
  | .ok (some article) => note (hit id) (done (.ok article))
  | .ok none => note (missed id) (service.fetch id)
  | .error .cancelled => done (.error .cancelled)
  | .error error => note (lookUpFailed id error) (service.fetch id)

def created (article : Article) : Event :=
  ⟨.debug, "Article created", [("article_id", article.id.toText), ("author_id", article.authorId.toText)]⟩

def updated (article : Article) : Event := ⟨.debug, "Article updated", [("article_id", article.id.toText)]⟩

def deleted (id : Uuid) : Event := ⟨.debug, "Article deleted", [("article_id", id.toText)]⟩

def afterInsert : Except StoreError Article → Program (Except StoreError Article)
  | .error error => done (.error error)
  | .ok article => note (created article) (done (.ok article))

def afterUpdate (id : Uuid) : Except StoreError (Option Article) → Program (Except StoreError Article)
  | .error error => done (.error error)
  | .ok none => done (.error (.articleNotFound id))
  | .ok (some article) =>
    call (.cache (.delete (service.key article.id)))
      (finish (notInvalidated article.id) (note (updated article) (done (.ok article))))

def afterDelete (id : Uuid) : Except StoreError UInt64 → Program (Except StoreError Unit)
  | .error error => done (.error error)
  | .ok rows =>
    if rows = 0 then done (.error (.articleNotFound id))
    else
      call (.cache (.delete (service.key id))) (finish (notInvalidated id) (note (deleted id) (done (.ok ()))))

def afterRows (event : Event) (page : Page) (total : UInt64) :
    Except StoreError (List Article) → Program (Except StoreError Listing)
  | .error error => done (.error error)
  | .ok articles => note event (done (.ok (page.listing total articles)))

def afterCount (rest : UInt64 → Program (Except StoreError Listing)) :
    Except StoreError UInt64 → Program (Except StoreError Listing)
  | .error error => done (.error error)
  | .ok total => rest total

theorem fetch_eq (id : Uuid) : service.fetch id = call (.store (.get id)) (service.afterFetch id) := by
  simp only [fetch]
  show call (.store (.get id)) _ = _
  congr 1
  funext reply
  match reply with
  | .error error => rfl
  | .ok none => rfl
  | .ok (some article) =>
    show call (.cache (.set (service.key article.id) article.toCached service.ttl)) _ = _
    congr 1
    funext reply
    match reply with
    | .ok () => rfl
    | .error error => rfl

theorem get_eq (id : Uuid) :
    service.get id = call (.cache (.get (service.key id))) fun reply => service.afterLookUp id (readHit reply) := by
  simp only [get, lookUp]
  show call (.cache (.get (service.key id))) _ = _
  congr 1
  funext reply
  show Program.bind (Program.bind (done reply) _) _ = _
  simp only [Program.bind]
  cases readHit reply with
  | ok found =>
    cases found with
    | none => rfl
    | some article => rfl
  | error error => cases error <;> rfl

/-- A hit is given, and a look-up that is cancelled is given up. After any other the store is asked. -/
theorem afterLookUp_cases (id : Uuid) (found : Except CacheError (Option BylinedArticle)) :
    (∃ article, found = .ok (some article) ∧ service.afterLookUp id found = note (hit id) (done (.ok article))) ∨
      (found = .error .cancelled ∧ service.afterLookUp id found = done (.error .cancelled)) ∨
      ∃ event, service.afterLookUp id found = note event (service.fetch id) := by
  match found with
  | .ok (some article) => exact .inl ⟨article, rfl, rfl⟩
  | .ok none => exact .inr (.inr ⟨missed id, rfl⟩)
  | .error .cancelled => exact .inr (.inl ⟨rfl, rfl⟩)
  | .error (.connectionFailed _) => exact .inr (.inr ⟨_, rfl⟩)
  | .error (.operationFailed _) => exact .inr (.inr ⟨_, rfl⟩)
  | .error (.serialization _) => exact .inr (.inr ⟨_, rfl⟩)

theorem create_eq (draft : Draft) : create draft = call (.store (.insert draft)) afterInsert := by
  show call (.store (.insert draft)) _ = _
  congr 1
  funext reply
  match reply with
  | .error error => rfl
  | .ok article => rfl

theorem update_eq (revision : Revision) :
    service.update revision = call (.store (.update revision)) (service.afterUpdate revision.id) := by
  show call (.store (.update revision)) _ = _
  congr 1
  funext reply
  match reply with
  | .error error => rfl
  | .ok none => rfl
  | .ok (some article) =>
    show call (.cache (.delete (service.key article.id))) _ = _
    congr 1
    funext reply
    match reply with
    | .ok () => rfl
    | .error error => rfl

theorem delete_eq (id : Uuid) : service.delete id = call (.store (.delete id)) (service.afterDelete id) := by
  show call (.store (.delete id)) _ = _
  congr 1
  funext reply
  match reply with
  | .error error => rfl
  | .ok rows =>
    show ite (rows = 0) _ _ = _
    rw [afterDelete]
    congr 1
    show call (.cache (.delete (service.key id))) _ = _
    congr 1
    funext reply
    match reply with
    | .ok () => rfl
    | .error error => rfl

def listed (page : Page) (total : UInt64) : Event := ⟨.trace, "Listed articles", pageDetails page total⟩

def searched (needle : String) (page : Page) (total : UInt64) : Event :=
  ⟨.trace, "Searched articles by title", ("title", needle) :: pageDetails page total⟩

theorem list_eq (page : Page) : list page = call (.store .count) (afterCount fun total =>
    call (.store (.list page.offset page.limit)) (afterRows (listed page total) page total)) := by
  show call (.store .count) _ = _
  congr 1
  funext reply
  match reply with
  | .error error => rfl
  | .ok total =>
    show call (.store (.list page.offset page.limit)) _ = call _ _
    congr 1
    funext reply
    match reply with
    | .error error => rfl
    | .ok articles => rfl

theorem search_eq (needle : String) (page : Page) :
    search needle page = call (.store (.countByTitle needle)) (afterCount fun total =>
      call (.store (.search needle page.offset page.limit)) (afterRows (searched needle page total) page total)) := by
  show call (.store (.countByTitle needle)) _ = _
  congr 1
  funext reply
  match reply with
  | .error error => rfl
  | .ok total =>
    show call (.store (.search needle page.offset page.limit)) _ = call _ _
    congr 1
    funext reply
    match reply with
    | .error error => rfl
    | .ok articles => rfl

end Service

end Gazette
