import Gazette.Proofs.Service.Cancellation
import Gazette.Proofs.Service.Isolation

/-!
# Who has cancelled

* `Program.invariant_final`: what every call preserves is preserved by every program.
* `Program.Follows.promised_of_final`: replies need to be possible only as long as something holds that never holds
  again once it fails, such as that the caller has not cancelled.
* `cancelled_iff`: a caller who has not cancelled is told so exactly if the cache says so when an article is looked up.
  After any other failure of the cache the store is asked.
-/

namespace Gazette

open Program (call)

variable {σ τ : Type}

/-! ## Programs -/

namespace Program

variable {α : Type} {handler : Handler σ} {state : σ} {program : Program α}

theorem invariant_final (invariant : σ → Prop)
    (preserved : ∀ request state, invariant state → invariant (handler request state).2) (start : invariant state) :
    invariant (program.final handler state).2 := by
  induction program generalizing state with
  | done result => exact start
  | note event next inductionHypothesis => exact inductionHypothesis start
  | call request next inductionHypothesis =>
    have kept := preserved request state start
    cases answered : handler request state with
    | mk outcome after =>
      rw [answered] at kept
      cases outcome with
      | ok reply =>
        rw [final_call_ok answered]
        exact inductionHypothesis reply kept
      | error crash =>
        rw [final_call_error answered]
        exact kept

/-- What a program promises it keeps if something holds in the end that no call brings about, and that makes the
replies possible. -/
theorem Follows.promised_of_final {allowed : Call → Prop} {possible : (call : Call) → call.Reply → Prop}
    {promised : α → Prop} (alive : σ → Prop)
    (stays : ∀ request state, ¬ alive state → ¬ alive (handler request state).2)
    (replies : ∀ request state, alive (handler request state).2 →
      ∀ reply, (handler request state).1 = .ok reply → possible request reply)
    (follows : program.Follows allowed possible promised) (last : alive (program.final handler state).2) {result : α}
    (returned : (program.final handler state).1 = .ok result) : promised result := by
  induction program generalizing state with
  | done other =>
    cases returned
    exact follows
  | note event next inductionHypothesis => exact inductionHypothesis follows last returned
  | call request next inductionHypothesis =>
    have isPossible := replies request state
    cases answered : handler request state with
    | mk outcome after =>
      rw [answered] at isPossible
      cases outcome with
      | ok reply =>
        rw [final_call_ok answered] at last returned
        -- It has held after the call, for otherwise it would not hold in the end.
        have held : alive after := by
          by_contra dead
          exact invariant_final (fun state => ¬ alive state) stays dead last
        exact inductionHypothesis reply (follows.2 reply (isPossible held reply rfl)) last returned
      | error crash =>
        rw [final_call_error answered] at returned
        cases returned

end Program

/-! ## Stores -/

/-- A store that never answers as if the caller had cancelled. -/
def NeverCancels (store : StoreBackend σ) : Prop :=
  ∀ (world : Surroundings) (request : StoreRequest) (held : σ), (store world request held).1 ≠ .ok (.error .cancelled)

theorem Database.DatabaseError.toStoreError_ne_cancelled (error : DatabaseError) (entity : String)
    (id : Option String) : error.toStoreError entity id ≠ .cancelled := by
  cases error with
  | failure code text =>
    rw [toStoreError]
    repeat' split
    all_goals nofun
  | _ => nofun

theorem Database.Tables.answer_ne_cancelled {α : Type} (id : Option Uuid) (result : Except DatabaseError α)
    (tables : Tables) : (answer id result tables).1 ≠ .ok (.error .cancelled) := by
  cases result with
  | ok value => nofun
  | error error =>
    intro same
    exact error.toStoreError_ne_cancelled "Article" (id.map Uuid.toText) (Except.error.inj (Except.ok.inj same))

theorem MemoryStore.neverCancels : NeverCancels MemoryStore.backend := by
  intro world request store
  cases request with
  | insert draft =>
    simp only [backend, insert]
    repeat' split
    all_goals
      intro same
      cases same
  | update revision =>
    simp only [backend, update]
    repeat' split
    all_goals
      intro same
      cases same
  | _ =>
    intro same
    cases same

theorem Database.Tables.neverCancels : NeverCancels Tables.backend := by
  have refused (id : Option Uuid) (error : DatabaseError) : articleError id error ≠ .cancelled :=
    error.toStoreError_ne_cancelled "Article" _
  intro world request tables
  cases request with
  | insert draft =>
    simp only [backend, insert]
    repeat' split
    all_goals simp [refused]
  | update revision =>
    simp only [backend, update]
    repeat' split
    all_goals simp [refused]
  | delete id =>
    simp only [backend, delete]
    repeat' split
    all_goals simp [refused]
  | _ => exact answer_ne_cancelled _ _ tables

theorem StoreKind.neverCancels (kind : StoreKind) : NeverCancels kind.backend := by
  cases kind with
  | memory => exact MemoryStore.neverCancels
  | database => exact Database.Tables.neverCancels

/-! ## Calls -/

def Call.Uncancelled : (call : Call) → call.Reply → Prop
  | .store _, reply => reply ≠ .error .cancelled
  | .cache _, _ => True

namespace Session

variable {collaborators : Collaborators σ τ} {fates : (call : Call) → Fate call} {request : Call}
  {session : Session σ τ}

theorem handler_of_cancelled (cancelled : session.cancelled = true) :
    handler collaborators fates request session = (.ok (.error request.cancelled), session) := by
  rw [handler, if_pos cancelled]

/-- A caller who has not cancelled after a call has not done so before. -/
theorem live_of_handler (live : (handler collaborators fates request session).2.cancelled = false) :
    session.cancelled = false := by
  cases cancelled : session.cancelled with
  | false => rfl
  | true =>
    rw [handler_of_cancelled cancelled, cancelled] at live
    exact live

/-- Whatever becomes of a call, it is made. -/
theorem calls_handler (live : session.cancelled = false) :
    (handler collaborators fates request session).2.calls = session.calls ++ [request] := by
  rw [handler_live collaborators fates request live]
  cases answered : serve collaborators request (session.logged request) with
  | mk outcome after =>
    have kept : after.calls = session.calls ++ [request] := (serve_keeps answered).2
    cases fates request with
    | served => simp only [meet, answered, kept]
    | failed error => rfl
    | cutOff worked =>
      cases worked with
      | false => rfl
      | true => cases outcome <;> simp only [meet, answered, kept]
    | servedLast => cases outcome <;> simp only [meet, answered, kept]

theorem mem_calls_handler {made : Call} (there : made ∈ session.calls) :
    made ∈ (handler collaborators fates request session).2.calls := by
  cases cancelled : session.cancelled with
  | true => rwa [handler_of_cancelled cancelled]
  | false =>
    rw [calls_handler cancelled]
    exact List.mem_append_left _ there

theorem mem_calls_of_handler {made : Call} (there : made ∈ (handler collaborators fates request session).2.calls) :
    made ∈ session.calls ∨ made = request := by
  cases cancelled : session.cancelled with
  | true =>
    rw [handler_of_cancelled cancelled] at there
    exact .inl there
  | false =>
    rw [calls_handler cancelled] at there
    exact (List.mem_append.mp there).imp_right List.mem_singleton.mp

/-- As long as the caller has not cancelled, the store does not answer as if. -/
theorem uncancelled_of_live (never : NeverCancels collaborators.store)
    (spared : ∀ request, fates (.store request) ≠ .failed .cancelled)
    (live : (handler collaborators fates request session).2.cancelled = false) {reply : request.Reply}
    (replied : (handler collaborators fates request session).1 = .ok reply) : request.Uncancelled reply := by
  cases request with
  | cache request => trivial
  | store request =>
    have start := live_of_handler live
    rw [handler_live collaborators fates _ start] at live replied
    have served : (serve collaborators (.store request) (session.logged (.store request))).1
        ≠ .ok (.error .cancelled) := never _ request _
    rintro rfl
    -- A call that is cut off or served last has made the caller one who has cancelled.
    cases fate : fates (.store request) with
    | served =>
      rw [fate] at replied
      exact served replied
    | failed error =>
      rw [fate] at replied
      cases replied
      exact spared request fate
    | cutOff worked =>
      rw [fate] at live replied
      cases worked with
      | false => cases live
      | true =>
        simp only [meet] at live replied
        split at live
        · rename_i crash after ended
          simp only [ended] at replied
          cases replied
        · cases live
    | servedLast =>
      rw [fate] at live replied
      simp only [meet] at live replied
      split at live
      · rename_i crash after ended
        simp only [ended] at replied
        cases replied
      · cases live

end Session

/-! ## Operations -/

theorem StoreError.error_ne_cancelled {α β : Type} {error : StoreError}
    (uncancelled : (.error error : Except StoreError α) ≠ .error .cancelled) :
    (.error error : Except StoreError β) ≠ .error .cancelled := by
  rintro ⟨⟩
  exact uncancelled rfl

theorem StoreError.ok_ne_cancelled {α : Type} (answer : α) :
    (.ok answer : Except StoreError α) ≠ .error .cancelled := by
  intro same
  cases same

theorem StoreError.articleNotFound_ne_cancelled {α : Type} (id : Uuid) :
    (.error (.articleNotFound id) : Except StoreError α) ≠ .error .cancelled := by
  intro same
  cases same

namespace Service

open StoreError (error_ne_cancelled ok_ne_cancelled articleNotFound_ne_cancelled)

/-- A program that gives up as cancelled only if the store has answered so. -/
def Accuses {α : Type} (program : Program (Except StoreError α)) : Prop :=
  program.Follows (fun _ => True) Call.Uncancelled (· ≠ .error .cancelled)

variable (service : Service)

theorem accuses_fetch (id : Uuid) : Accuses (service.fetch id) := by
  rw [fetch_eq]
  refine ⟨trivial, fun reply uncancelled => ?_⟩
  cases reply with
  | error error => exact error_ne_cancelled uncancelled
  | ok row =>
    cases row with
    | none => exact articleNotFound_ne_cancelled id
    | some article =>
      refine ⟨trivial, fun reply _ => ?_⟩
      cases reply <;> exact ok_ne_cancelled article

theorem accuses_afterRows (event : Event) (page : Page) (total : UInt64)
    {reply : Except StoreError (List Article)} (uncancelled : reply ≠ .error .cancelled) :
    Accuses (afterRows event page total reply) := by
  cases reply with
  | error error => exact error_ne_cancelled uncancelled
  | ok articles => exact ok_ne_cancelled _

theorem accuses_perform {operation : Operation} (notGet : ∀ id, operation ≠ .get id) :
    Accuses (service.perform operation) := by
  -- Each of these begins with the store, and goes on whatever becomes of a call to the cache.
  cases operation with
  | create draft =>
    rw [perform, create_eq]
    refine ⟨trivial, fun reply uncancelled => ?_⟩
    cases reply with
    | error error => exact error_ne_cancelled uncancelled
    | ok article => exact ok_ne_cancelled article
  | update revision =>
    rw [perform, update_eq]
    refine ⟨trivial, fun reply uncancelled => ?_⟩
    cases reply with
    | error error => exact error_ne_cancelled uncancelled
    | ok row =>
      cases row with
      | none => exact articleNotFound_ne_cancelled revision.id
      | some article =>
        refine ⟨trivial, fun reply _ => ?_⟩
        cases reply <;> exact ok_ne_cancelled article
  | get id => exact absurd rfl (notGet id)
  | delete id =>
    rw [perform, delete_eq]
    refine ⟨trivial, fun reply uncancelled => ?_⟩
    cases reply with
    | error error => exact error_ne_cancelled uncancelled
    | ok rows =>
      simp only [afterDelete]
      split
      · exact articleNotFound_ne_cancelled id
      · refine ⟨trivial, fun reply _ => ?_⟩
        cases reply <;> exact ok_ne_cancelled ()
  | list page =>
    rw [perform, list_eq]
    refine ⟨trivial, fun reply uncancelled => ?_⟩
    cases reply with
    | error error => exact error_ne_cancelled uncancelled
    | ok total => exact ⟨trivial, fun reply => accuses_afterRows _ page total⟩
  | search needle page =>
    rw [perform, search_eq]
    refine ⟨trivial, fun reply uncancelled => ?_⟩
    cases reply with
    | error error => exact error_ne_cancelled uncancelled
    | ok total => exact ⟨trivial, fun reply => accuses_afterRows _ page total⟩

end Service

namespace Session

variable {service : Service} {collaborators : Collaborators σ τ} {fates : (call : Call) → Fate call}
  {session : Session σ τ}

theorem ne_cancelled_of_accuses {α : Type} {program : Program (Except StoreError α)} (accuses : Service.Accuses program)
    (never : NeverCancels collaborators.store) (spared : ∀ request, fates (.store request) ≠ .failed .cancelled)
    (live : (program.final (handler collaborators fates) session).2.cancelled = false) :
    (program.final (handler collaborators fates) session).1 ≠ .ok (.error .cancelled) := by
  intro returned
  have promised : (.error .cancelled : Except StoreError α) ≠ .error .cancelled :=
    Program.Follows.promised_of_final (fun session : Session σ τ => session.cancelled = false)
      (fun _ _ => mt live_of_handler) (fun _ _ live _ => uncancelled_of_live never spared live) accuses live returned
  exact promised rfl

/-- A program that begins with a call makes it, unless the caller has cancelled in the end. -/
theorem mem_calls_final {α : Type} {next : request.Reply → Program α}
    (live : ((call request next).final (handler collaborators fates) session).2.cancelled = false) :
    request ∈ ((call request next).final (handler collaborators fates) session).2.calls := by
  have start : session.cancelled = false := by
    by_contra cancelled
    exact Program.invariant_final (fun session : Session σ τ => ¬ session.cancelled = false)
      (fun _ _ => mt live_of_handler) cancelled live
  have made : request ∈ (handler collaborators fates request session).2.calls := by
    rw [calls_handler start]
    exact List.mem_append_right _ (List.mem_singleton_self request)
  cases answered : handler collaborators fates request session with
  | mk outcome after =>
    rw [answered] at made
    cases outcome with
    | ok reply =>
      rw [Program.final_call_ok answered]
      exact Program.invariant_final (fun session : Session σ τ => request ∈ session.calls)
        (fun _ _ => mem_calls_handler) made
    | error crash =>
      rw [Program.final_call_error answered]
      exact made

theorem cancelled_iff_get (id : Uuid) (never : NeverCancels collaborators.store)
    (spared : ∀ request, fates (.store request) ≠ .failed .cancelled)
    (live : ((service.get id).final (handler collaborators fates) session).2.cancelled = false) :
    (((service.get id).final (handler collaborators fates) session).1 = .ok (.error .cancelled) ↔
        (handler collaborators fates (.cache (.get (service.key id))) session).1 = .ok (.error .cancelled)) ∧
      ∀ reply, (handler collaborators fates (.cache (.get (service.key id))) session).1 = .ok reply →
        reply ≠ .error .cancelled → Service.hit? reply = none →
          .store (.get id) ∈ ((service.get id).final (handler collaborators fates) session).2.calls := by
  rw [Service.get_eq] at live ⊢
  cases answered : handler collaborators fates (.cache (.get (service.key id))) session with
  | mk outcome after =>
    cases outcome with
    | error crash =>
      rw [Program.final_call_error answered]
      exact ⟨⟨nofun, nofun⟩, nofun⟩
    | ok reply =>
      rw [Program.final_call_ok answered] at live ⊢
      -- The cache is heard only if it says that the caller has cancelled, or gives an article.
      by_cases notCancelled : reply = .error .cancelled
      · subst notCancelled
        exact ⟨⟨fun _ => rfl, fun _ => rfl⟩, fun other same apart => absurd (Except.ok.inj same).symm apart⟩
      · rw [Service.final_afterLookUp _ _ _ _ notCancelled] at live ⊢
        cases found : Service.hit? reply with
        | some article =>
          refine ⟨⟨nofun, fun same => absurd (Except.ok.inj same) notCancelled⟩, ?_⟩
          rintro _ ⟨⟩ _ missed
          rw [found] at missed
          cases missed
        | none =>
          rw [found] at live
          -- What is left is asked of the store, which never says so.
          have kept := ne_cancelled_of_accuses (service.accuses_fetch id) never spared live
          refine ⟨⟨fun told => absurd told kept, fun same => absurd (Except.ok.inj same) notCancelled⟩, ?_⟩
          rintro _ ⟨⟩ _ _
          simp only
          rw [Service.fetch_eq] at live ⊢
          exact mem_calls_final live

end Session

def Errand.attempt (service : Service) (store : StoreBackend σ) (cache : CacheBackend τ) (errand : Errand)
    (held : σ × τ) : Program.Run (Except StoreError errand.operation.Result) (Session σ τ) :=
  Session.run ⟨store, cache, errand.surroundings, errand.now⟩ errand.fates false (service.perform errand.operation)
    held.1 held.2

/-- A caller who has not cancelled is told that she has exactly when the cache says so to a look-up. Whatever else but a
hit comes of a look-up, the store is asked. -/
theorem cancelled_iff {service : Service} {store : StoreBackend σ} {cache : CacheBackend τ} {errand : Errand}
    {held : σ × τ} (never : NeverCancels store)
    (spared : ∀ request, errand.fates (.store request) ≠ .failed .cancelled)
    (live : (errand.attempt service store cache held).state.cancelled = false) :
    ((errand.attempt service store cache held).outcome = .ok (.error .cancelled) ↔
        ∃ id, errand.operation = .get id ∧ errand.hears store cache held (service.key id) = .ok (.error .cancelled)) ∧
      ∀ id reply, errand.operation = .get id → errand.hears store cache held (service.key id) = .ok reply →
        reply ≠ .error .cancelled → Service.hit? reply = none →
          .store (.get id) ∈ (errand.attempt service store cache held).state.calls := by
  obtain ⟨operation, world, now, fates⟩ := errand
  -- A look-up is the only operation that begins with the cache.
  by_cases look : ∃ id, operation = .get id
  · obtain ⟨id, rfl⟩ := look
    obtain ⟨told, asked⟩ := Session.cancelled_iff_get id never spared live
    refine ⟨told.trans ⟨fun heard => ⟨id, rfl, heard⟩, ?_⟩, ?_⟩
    · rintro ⟨_, ⟨⟩, heard⟩
      exact heard
    · rintro _ reply ⟨⟩
      exact asked reply
  · have notGet : ∀ id, operation ≠ .get id := fun id same => look ⟨id, same⟩
    have kept := Session.ne_cancelled_of_accuses (service.accuses_perform notGet) never spared live
    refine ⟨⟨fun told => absurd told kept, ?_⟩, ?_⟩
    · rintro ⟨id, same, _⟩
      exact absurd same (notGet id)
    · intro id _ same
      exact absurd same (notGet id)

/-- A cache that answers as if the caller had cancelled. -/
def aTimidCache : CacheBackend Unit := fun _ _ held => (.ok (.error .cancelled), held)

/-- Nobody has cancelled, the article is stored, and yet the caller is told that she has cancelled. -/
theorem cancelled_of_aTimidCache :
    (aSecondLook.attempt forAWeek (StoreKind.backend .memory) aTimidCache (aShelf, ())).state.cancelled = false ∧
      StoreKind.find .memory ⟨7⟩ aShelf = .ok (some onTheShelf) ∧
      (aSecondLook.attempt forAWeek (StoreKind.backend .memory) aTimidCache (aShelf, ())).outcome
        = .ok (.error .cancelled) :=
  ⟨rfl, rfl, rfl⟩

def aLookInTheDark : Errand where
  operation := .get ⟨7⟩
  surroundings := ⟨⟨1700000000000000000⟩, 9⟩
  now := ⟨6⟩
  fates
    | .cache _ => .failed (.connectionFailed "refused")
    | _ => .served

theorem cancelled_iff_aLookInTheDark :
    NeverCancels (StoreKind.backend .memory) ∧
      (∀ request, aLookInTheDark.fates (.store request) ≠ .failed .cancelled) ∧
      (aLookInTheDark.attempt forAWeek (StoreKind.backend .memory) LruCache.backend (aShelf, aMuddle)).state.cancelled
        = false ∧
      (aLookInTheDark.attempt forAWeek (StoreKind.backend .memory) LruCache.backend (aShelf, aMuddle)).outcome
        ≠ .ok (.error .cancelled) ∧
      .store (.get ⟨7⟩) ∈
        (aLookInTheDark.attempt forAWeek (StoreKind.backend .memory) LruCache.backend (aShelf, aMuddle)).state.calls := by
  have spared : ∀ request, aLookInTheDark.fates (.store request) ≠ .failed .cancelled := nofun
  have live : (aLookInTheDark.attempt forAWeek (StoreKind.backend .memory) LruCache.backend
      (aShelf, aMuddle)).state.cancelled = false := rfl
  obtain ⟨told, asked⟩ := cancelled_iff (StoreKind.neverCancels .memory) spared live
  refine ⟨StoreKind.neverCancels .memory, spared, live, ?_, asked ⟨7⟩ _ rfl rfl nofun rfl⟩
  intro cancelled
  obtain ⟨id, _, heard⟩ := told.mp cancelled
  cases heard

end Gazette
