import Gazette.Proofs.Service.Interleaving
import Gazette.Proofs.Service.Staleness

/-!
# Operations that are cancelled while others go on

* A `Caller` has asked for an operation, which is on its way, and may cancel it at any time.
* A `Scene` has callers over one store and one cache. What a `Happening` changes there is a step: somebody asks for an
  operation, a caller's next call is made and meets its fate, a caller cancels, or others change the store.
* `Scene.Obeys`: every caller asks only what its operation asks, and whatever is cached has a property.
* A caller who is alone in the scene gets what a session gets (`Scene.exists_run_alone`).

A caller goes on to its next call in the same step, so that the calls of all callers are in some order.
-/

namespace Gazette

open Program (call note done)

/-! ## Callers -/

structure Caller where
  operation : Operation
  /-- What is left to do, unless the program has ended before its time. -/
  rest : Except Crash (Program (Except StoreError operation.Result))
  cancelled : Bool

namespace Caller

variable {kind : StoreKind}

def start (service : Service) (operation : Operation) : Caller := ⟨operation, .ok (service.perform operation), false⟩

def HasEnded (caller : Caller) : Prop := ∀ program, caller.rest = .ok program → ∃ result, program.Ends result

def advance (world : Surroundings) (now : Instant) (fates : (call : Call) → Fate call) (caller : Caller)
    (system : System kind) : Caller × System kind :=
  match caller.rest with
  | .error _ => (caller, system)
  | .ok program =>
    match program.settled with
    | .call request next =>
      let (outcome, after) := Session.handler (servers kind world now) fates request
        ⟨system.store, system.cache, caller.cancelled, []⟩
      ({ caller with rest := outcome.map next, cancelled := after.cancelled }, ⟨after.store, after.cache⟩)
    | _ => (caller, system)

end Caller

/-! ## Scenes -/

inductive Happening (kind : StoreKind)
  /-- Somebody asks for an operation. -/
  | begin (operation : Operation)
  /-- The next call of a caller is made, at a time. -/
  | call (caller : Nat) (world : Surroundings) (now : Instant) (fates : (call : Call) → Fate call)
  | cancel (caller : Nat)
  /-- Others change the store. -/
  | change (edit : kind.State → kind.State)

structure Scene (kind : StoreKind) where
  callers : List Caller
  system : System kind

namespace Scene

variable {kind : StoreKind}

def step (service : Service) (scene : Scene kind) : Happening kind → Scene kind
  | .begin operation => { scene with callers := scene.callers ++ [Caller.start service operation] }
  | .call index world now fates =>
    match scene.callers[index]? with
    | none => scene
    | some caller =>
      let (caller, system) := caller.advance world now fates scene.system
      ⟨scene.callers.set index caller, system⟩
  | .cancel index =>
    match scene.callers[index]? with
    | none => scene
    | some caller => { scene with callers := scene.callers.set index { caller with cancelled := true } }
  | .change edit => { scene with system := { scene.system with store := edit scene.system.store } }

def run (service : Service) (happenings : List (Happening kind)) (scene : Scene kind) : Scene kind :=
  happenings.foldl (step service) scene

end Scene

/-! ## Programs -/

namespace Program

variable {α : Type} {program : Program α}

theorem settled_cases (program : Program α) :
    (∃ result, program.Ends result ∧ program.settled = done result) ∨
      ∃ request next, program.settled = call request next := by
  induction program with
  | done result => exact .inl ⟨result, rfl, rfl⟩
  | note event next inductionHypothesis => exact inductionHypothesis
  | call request next => exact .inr ⟨request, next, rfl⟩

theorem ends_of_settled {result : α} (settled : program.settled = done result) : program.Ends result := by
  rcases program.settled_cases with ⟨other, ends, same⟩ | ⟨request, next, same⟩
  · cases same.symm.trans settled
    exact ends
  · cases same.symm.trans settled

def hasEnded : Program α → Bool
  | done _ => true
  | note _ next => next.hasEnded
  | call _ _ => false

theorem hasEnded_iff : program.hasEnded = true ↔ ∃ result, program.Ends result := by
  induction program with
  | done result => exact ⟨fun _ => ⟨result, rfl⟩, fun _ => rfl⟩
  | note event next inductionHypothesis => exact inductionHypothesis
  | call request next => exact ⟨nofun, fun ⟨_, ends⟩ => ends.elim⟩

theorem Follows.settled {allowed : Call → Prop} {possible : (call : Call) → call.Reply → Prop} {promised : α → Prop}
    (follows : program.Follows allowed possible promised) : program.settled.Follows allowed possible promised := by
  induction program with
  | note event next inductionHypothesis => exact inductionHypothesis follows
  | _ => exact follows

theorem Ends.follows {allowed : Call → Prop} {possible : (call : Call) → call.Reply → Prop} {promised : α → Prop}
    {result : α} (ends : program.Ends result) (holds : promised result) :
    program.Follows allowed possible promised := by
  induction program with
  | done other =>
    obtain rfl : other = result := ends
    exact holds
  | note event next inductionHypothesis => exact inductionHypothesis ends
  | call request next => exact ends.elim

theorem Follows.promised_of_ends {allowed : Call → Prop} {possible : (call : Call) → call.Reply → Prop}
    {promised : α → Prop} {result : α} (follows : program.Follows allowed possible promised)
    (ends : program.Ends result) : promised result := by
  induction program with
  | done other =>
    obtain rfl : other = result := ends
    exact follows
  | note event next inductionHypothesis => exact inductionHypothesis follows ends
  | call request next => exact ends.elim

end Program

/-! ## One call -/

namespace Caller

instance (caller : Caller) : Decidable caller.HasEnded :=
  match left : caller.rest with
  | .error _ => .isTrue fun _ same => nomatch left.symm.trans same
  | .ok program => decidable_of_iff (program.hasEnded = true) <| Program.hasEnded_iff.trans
      ⟨fun ended _ same => Except.ok.inj (left.symm.trans same) ▸ ended, fun ended => ended program left⟩

variable {kind : StoreKind} {service : Service} {world : Surroundings} {now : Instant}
  {fates : (call : Call) → Fate call} {system : System kind} {seen : BylinedArticle → Prop}
  {property : Uuid → BylinedArticle → Instant → Prop}

/-- Either there is no next call, or it is made, and what is left is told by the reply. -/
theorem advance_cases (world : Surroundings) (now : Instant) (fates : (call : Call) → Fate call) (caller : Caller)
    (system : System kind) :
    caller.HasEnded ∧ caller.advance world now fates system = (caller, system) ∨
      ∃ program request next outcome after, caller.rest = .ok program ∧ program.settled = call request next ∧
        Session.handler (servers kind world now) fates request ⟨system.store, system.cache, caller.cancelled, []⟩
          = (outcome, after) ∧
        caller.advance world now fates system
          = ({ caller with rest := outcome.map next, cancelled := after.cancelled }, ⟨after.store, after.cache⟩) := by
  obtain ⟨operation, rest, cancelled⟩ := caller
  cases rest with
  | error crash => exact .inl ⟨nofun, rfl⟩
  | ok program =>
    rcases program.settled_cases with ⟨result, ends, settled⟩ | ⟨request, next, settled⟩
    · refine .inl ⟨?_, by simp only [advance, settled]⟩
      rintro _ ⟨⟩
      exact ⟨result, ends⟩
    · refine .inr ⟨program, request, next,
        (Session.handler (servers kind world now) fates request ⟨system.store, system.cache, cancelled, []⟩).1,
        (Session.handler (servers kind world now) fates request ⟨system.store, system.cache, cancelled, []⟩).2,
        rfl, settled, rfl, ?_⟩
      simp only [advance, settled]

/-- What is left of an operation makes only calls of its own, and stores what it has been told of. -/
def Follows (service : Service) (seen : BylinedArticle → Prop) (caller : Caller) : Prop :=
  ∀ program, caller.rest = .ok program →
    program.Follows (Call.IsOf service caller.operation seen fun _ => True) (Call.Tells seen fun _ => True)
      fun _ => True

theorem follows_start (service : Service) (seen : BylinedArticle → Prop) (operation : Operation) :
    (start service operation).Follows service seen := by
  rintro _ ⟨⟩
  exact service.follows_isOf seen (fun _ => True) operation

theorem HasEnded.follows {caller : Caller} (ended : caller.HasEnded) (service : Service)
    (seen : BylinedArticle → Prop) : caller.Follows service seen := by
  intro program left
  obtain ⟨result, ends⟩ := ended program left
  exact ends.follows trivial

/-- A call leaves an operation to be one, and the cache to hold only what has the property. -/
theorem Follows.advance {caller : Caller} (follows : caller.Follows service seen)
    (holds : HoldsOnly service property system.cache)
    (finds : ∀ id article, kind.find id system.store = .ok (some article) → seen article)
    (caches : ∀ article deadline, seen article → now.after? service.ttl = some deadline →
      property article.id article deadline) :
    (caller.advance world now fates system).1.Follows service seen ∧
      HoldsOnly service property (caller.advance world now fates system).2.cache := by
  rcases caller.advance_cases world now fates system with
    ⟨_, same⟩ | ⟨program, request, next, outcome, after, left, settled, met, advanced⟩
  · rw [same]
    exact ⟨follows, holds⟩
  · obtain ⟨isOf, onReply⟩ : (call request next).Follows _ _ _ := settled ▸ (follows program left).settled
    rw [advanced]
    refine ⟨?_, ?_⟩
    · -- There is something left only if there was a reply, which tells of an article in the store.
      rintro _ remaining
      cases outcome with
      | error crash => cases remaining
      | ok reply =>
        cases remaining
        exact onReply reply (tells_of_handler (fun id article _ => finds id article) (fun _ _ => trivial)
          (fun _ _ => trivial) (congrArg Prod.fst met))
    -- The cache changes only by what the caller asks of it.
    · have sameCache := congrArg (·.2.cache) met
      dsimp only at sameCache ⊢
      rw [← sameCache]
      cases request with
      | store request =>
        rw [cache_handler_store]
        exact holds
      | cache request =>
        apply HoldsOnly.handler_cache holds
        rintro key value ttl rfl
        obtain ⟨article, told, sameKey, written, sameTtl⟩ := isOf
        exact ⟨article.id, article, sameKey, written, sameTtl, caches article _ told⟩

end Caller

/-! ## Scenes -/

namespace Scene

variable {kind : StoreKind} {service : Service} {scene : Scene kind} {happening : Happening kind}
  {happenings : List (Happening kind)} {seen : BylinedArticle → Prop}
  {property : Uuid → BylinedArticle → Instant → Prop}

/-- All callers keep to their operations, and all that is cached has the property. -/
structure Obeys (service : Service) (seen : BylinedArticle → Prop) (property : Uuid → BylinedArticle → Instant → Prop)
    (scene : Scene kind) : Prop where
  callers : ∀ caller ∈ scene.callers, caller.Follows service seen
  cache : HoldsOnly service property scene.system.cache

theorem Obeys.step (obeys : scene.Obeys service seen property)
    (finds : ∀ id article, kind.find id scene.system.store = .ok (some article) → seen article)
    (caches : ∀ index world now fates article deadline, happening = .call index world now fates → seen article →
      now.after? service.ttl = some deadline → property article.id article deadline) :
    (scene.step service happening).Obeys service seen property := by
  -- A happening changes one caller at most, and the cache only through a call.
  cases happening with
  | begin operation =>
    refine ⟨fun caller there => ?_, obeys.cache⟩
    rcases List.mem_append.mp there with before | new
    · exact obeys.callers caller before
    · rw [List.mem_singleton.mp new]
      exact Caller.follows_start service seen operation
  | call index world now fates =>
    simp only [Scene.step]
    cases found : scene.callers[index]? with
    | none => exact obeys
    | some caller =>
      obtain ⟨follows, holds⟩ : (caller.advance world now fates scene.system).1.Follows service seen ∧
          HoldsOnly service property (caller.advance world now fates scene.system).2.cache :=
        (obeys.callers caller (List.mem_of_getElem? found)).advance obeys.cache finds fun article deadline =>
          caches index world now fates article deadline rfl
      refine ⟨fun other there => ?_, holds⟩
      rcases List.mem_or_eq_of_mem_set there with before | rfl
      · exact obeys.callers other before
      · exact follows
  | cancel index =>
    simp only [Scene.step]
    cases found : scene.callers[index]? with
    | none => exact obeys
    | some caller =>
      refine ⟨fun other there => ?_, obeys.cache⟩
      rcases List.mem_or_eq_of_mem_set there with before | rfl
      · exact obeys.callers other before
      · exact obeys.callers caller (List.mem_of_getElem? found)
  | change edit => exact ⟨obeys.callers, obeys.cache⟩

end Scene

/-! ## One caller -/

def Caller.ComesTo {α : Type} : Except Crash (Program α) → Except Crash α → Prop
  | .ok program, .ok result => program.Ends result
  | .error crash, .error other => crash = other
  | _, _ => False

namespace Scene

variable {kind : StoreKind}

def alone (operation : Operation) (rest : Except Crash (Program (Except StoreError operation.Result)))
    (session : Session kind.State LruCache) : Scene kind :=
  ⟨[⟨operation, rest, session.cancelled⟩], ⟨session.store, session.cache⟩⟩

theorem step_alone {operation : Operation} {left : Program (Except StoreError operation.Result)} {request : Call}
    {next : request.Reply → Program (Except StoreError operation.Result)} (settled : left.settled = call request next)
    (service : Service) (world : Surroundings) (now : Instant) (fates : (call : Call) → Fate call)
    (session : Session kind.State LruCache) :
    (alone operation (.ok left) session).step service (.call 0 world now fates) =
      alone operation ((Session.handler (servers kind world now) fates request session).1.map next)
        (Session.handler (servers kind world now) fates request session).2 := by
  obtain ⟨later, alike⟩ := Session.exists_handler_calls (servers kind world now) fates request session []
  simp only [step, alone, Caller.advance, settled, alike, List.getElem?_cons_zero, List.set_cons_zero]

theorem exists_run_calls (service : Service) (world : Surroundings) (now : Instant) (fates : (call : Call) → Fate call)
    {operation : Operation} (program left : Program (Except StoreError operation.Result))
    (same : left.settled = program.settled) (session : Session kind.State LruCache) :
    ∃ count rest,
      (alone operation (.ok left) session).run service (List.replicate count (.call 0 world now fates)) =
        alone operation rest (program.final (Session.handler (servers kind world now) fates) session).2 ∧
      Caller.ComesTo rest (program.final (Session.handler (servers kind world now) fates) session).1 := by
  -- A caller has settled what is left only when it makes the next call, so `left` may still take notes.
  induction program generalizing left session with
  | done result => exact ⟨0, .ok left, rfl, Program.ends_of_settled same⟩
  | note event next inductionHypothesis => exact inductionHypothesis left same session
  | call request next inductionHypothesis =>
    have made := step_alone same service world now fates session
    cases met : Session.handler (servers kind world now) fates request session with
    | mk outcome after =>
      rw [met] at made
      cases outcome with
      | error crash =>
        rw [Program.final_call_error met]
        exact ⟨1, .error crash, made, rfl⟩
      | ok reply =>
        rw [Program.final_call_ok met]
        obtain ⟨count, rest, ran, ended⟩ := inductionHypothesis reply (next reply) rfl after
        refine ⟨count + 1, rest, ?_, ended⟩
        rw [List.replicate_succ, run, List.foldl_cons, made]
        exact ran

/-- Whoever asks for an operation and is alone gets what a session gets, and leaves what it leaves. -/
theorem exists_run_alone (service : Service) (world : Surroundings) (now : Instant) (fates : (call : Call) → Fate call)
    (operation : Operation) (system : System kind) :
    let session :=
      Session.run (servers kind world now) fates false (service.perform operation) system.store system.cache
    ∃ count rest,
      Scene.run service (.begin operation :: List.replicate count (.call 0 world now fates)) ⟨[], system⟩ =
        alone operation rest session.state ∧
      Caller.ComesTo rest session.outcome :=
  exists_run_calls service world now fates (service.perform operation) (service.perform operation) rfl
    ⟨system.store, system.cache, false, []⟩

end Scene

end Gazette
