import RequestChain.Plugin.Secrets
import RequestChain.Proofs.Journal

/-! # Cached secrets

All resolvers that are cached share one cache and one key for a name, so a resolver can answer with
what another one has found. This does no harm as long as each of them would answer the same whenever
it is asked: what is cached under a name is then what the list of resolvers finds for it, and this
stays so whatever is read, stored or dropped. Nothing is assumed about the clock, and the cache may
hold other things than secrets.
-/

namespace RequestChain

/-- Whether a cache stands before a resolver. -/
inductive Caching where
  | uncached
  | cached (lifetime : Option Nat)

/-- The cache entry of a secret. -/
def World.cachedSecret? {σ : Type} (world : World σ) (name : String) : Option CacheEntry :=
  world.cache.entries.get? (SecretResolver.cacheKey name)

/-- A resolver whose answers do not depend on the world, and that does not touch cached secrets. -/
structure FixedResolver (σ : Type) where
  /-- What its calls are written down under, which may tell it from all others. -/
  label : String
  inner : SecretResolver σ
  answer : String → Except Failure (Option String)
  caching : Caching
  answers : ∀ name world, ((inner name).run world).1 = answer name
  keepsSecrets : ∀ name world other,
    ((inner name).run world).2.cachedSecret? other = world.cachedSecret? other

namespace FixedResolver

variable {σ : Type}

/-- The resolver without a cache, its calls written down. -/
def bare (resolver : FixedResolver σ) : String × SecretResolver (σ × Journal) :=
  SecretResolver.journaled (resolver.label, resolver.inner)

/-- The resolver behind its cache, if it has one. Only calls that get through are written down. -/
def guarded (resolver : FixedResolver σ) : String × SecretResolver (σ × Journal) :=
  match resolver.caching with
  | .uncached => resolver.bare
  | .cached lifetime => (resolver.label, .cached resolver.bare.2 lifetime)

/-- The line for a call of a resolver. -/
def asking (resolver : FixedResolver σ) (name : String) : Entry :=
  ⟨.secret resolver.label name, .ofOutcome .ofText (resolver.answer name)⟩

/-- The answer of the first resolver that finds something or fails. -/
def decision (name : String) : List (FixedResolver σ) → Except Failure (Option String)
  | [] => .ok none
  | resolver :: rest =>
    match resolver.answer name with
    | .ok none => decision name rest
    | decided => decided

/-- The lines for the calls up to the first resolver that finds something or fails. -/
def consulted (name : String) : List (FixedResolver σ) → Journal
  | [] => []
  | resolver :: rest =>
    resolver.asking name ::
      match resolver.answer name with
      | .ok none => consulted name rest
      | _ => []

end FixedResolver

/-- A reference to a secret. -/
structure SecretReference where
  raw : String
  optional : Bool := false
  name : String

/-- The reference as templates have it. -/
def SecretReference.reference (secret : SecretReference) : Reference :=
  .mk secret.raw secret.optional (.scoped .secret secret.name)

/-- The outcomes of looking up one secret after the other, a failure being just one of them. -/
def lookUpSecrets {σ : Type} (registry : Registry σ) (context : Context) :
    List SecretReference → World σ → List (Except ResolutionError (Option String)) × World σ
  | [], world => ([], world)
  | secret :: rest, world =>
    let (outcome, after) := (lookupReference registry context
      (expandWithin registry context maxDepth) 0 secret.reference).run world
    let (outcomes, last) := lookUpSecrets registry context rest after
    (outcome :: outcomes, last)

/-- A line about a failure. -/
def Entry.isFailure (entry : Entry) : Bool :=
  match entry.answer with
  | .failed _ => true
  | _ => false

/-- How often a resolver of that label was asked for that name. -/
def Journal.timesAsked (journal : Journal) (label name : String) : Nat :=
  journal.countP fun entry =>
    match entry.call with
    | .secret other asked => other == label && asked == name
    | _ => false

/-! ## Cached and decided -/

/-- Different names have different keys. -/
theorem SecretResolver.cacheKey_injective : Function.Injective SecretResolver.cacheKey := by
  intro left right same
  have texts := congrArg String.toList same
  simp only [cacheKey, String.toList_append, List.append_cancel_left_eq] at texts
  exact String.toList_injective texts

section Remembers

variable {σ : Type} {decided : String → Except Failure (Option String)}

/-- What is cached of secrets is what is decided about them. -/
def World.Remembers (decided : String → Except Failure (Option String)) (world : World σ) : Prop :=
  ∀ name entry, world.cachedSecret? name = some entry → decided name = .ok (some entry.value)

namespace World.Remembers

variable {world after : World σ}

theorem of_same (remembers : world.Remembers decided)
    (same : ∀ name, after.cachedSecret? name = world.cachedSecret? name) :
    after.Remembers decided :=
  fun name entry held => remembers name entry ((same name).symm.trans held)

/-- Reading drops entries at most. -/
theorem run_cached (remembers : world.Remembers decided) (key : String) :
    ((Action.cached key).run world).2.Remembers decided :=
  fun name entry held => remembers name entry (Cache.of_get?_get held)

/-- What is stored has to be decided. -/
theorem run_store (remembers : world.Remembers decided) {name value : String}
    (known : decided name = .ok (some value)) (lifetime : Option Nat) :
    ((Action.store (SecretResolver.cacheKey name) value lifetime).run world).2.Remembers
      decided := by
  intro other entry held
  rw [Action.run_store, World.cachedSecret?, Cache.set, OrderedMap.get?_insert] at held
  split at held
  · rename_i same
    obtain rfl := SecretResolver.cacheKey_injective same
    cases held
    exact known
  · exact remembers other entry held

/-- What is read is decided. -/
theorem decided_of_cached (remembers : world.Remembers decided) {name value : String}
    (read : ((Action.cached (SecretResolver.cacheKey name)).run world).1 = .ok (some value)) :
    decided name = .ok (some value) := by
  rw [Action.run_cached] at read
  obtain ⟨-, expiry, held⟩ := Cache.of_get_eq_some (Except.ok.inj read)
  exact remembers name ⟨value, expiry⟩ held

end World.Remembers

end Remembers

/-! ## One resolver -/

namespace FixedResolver

variable {σ : Type} {decided : String → Except Failure (Option String)}

/-- How a resolver comes to its answer: it is asked, or what is decided is cached. -/
inductive Replies (decided : String → Except Failure (Option String)) (resolver : FixedResolver σ)
    (name : String) (journal : Journal) : Except Failure (Option String) → Journal → Prop
  | asked :
      Replies decided resolver name journal (resolver.answer name)
        (journal ++ [resolver.asking name])
  | remembered {value : String} (known : decided name = .ok (some value)) :
      Replies decided resolver name journal (.ok (some value)) journal

section

variable (resolver : FixedResolver σ) (name : String) (world : World (σ × Journal))

theorem run_bare :
    (resolver.bare.2 name).run world =
      (resolver.answer name, ((resolver.inner name).run world.plain).2.withJournal
        (world.journal ++ [resolver.asking name])) := by
  have noted := Action.run_noted (.secret resolver.label name) .ofText (resolver.inner name) world
  rw [resolver.answers] at noted
  exact noted

variable {world}

theorem run_bare_remembers (remembers : world.Remembers decided) :
    ((resolver.bare.2 name).run world).2.Remembers decided := by
  rw [run_bare]
  exact remembers.of_same (resolver.keepsSecrets name world.plain)

/-- Where nothing is cached, a resolver is asked, and what it finds is stored. -/
private theorem replies_of_miss {before : World (σ × Journal)} (lifetime : Option Nat)
    (remembers : before.Remembers decided)
    (decides : ∀ value, resolver.answer name = .ok (some value) →
      decided name = .ok (some value))
    (miss : (Action.cached (SecretResolver.cacheKey name)).run world = (.ok none, before)) :
    ((resolver.bare.2.cached lifetime name).run world).2.Remembers decided ∧
      resolver.Replies decided name before.journal
        ((resolver.bare.2.cached lifetime name).run world).1
        ((resolver.bare.2.cached lifetime name).run world).2.journal := by
  have kept := resolver.run_bare_remembers name remembers
  rw [SecretResolver.run_cached_of_miss miss]
  rw [run_bare] at kept ⊢
  have replies : resolver.Replies decided name before.journal (resolver.answer name)
      (before.journal ++ [resolver.asking name]) := .asked
  rcases answered : resolver.answer name with failure | (_ | value)
  · rw [answered] at replies
    exact ⟨kept, replies⟩
  · rw [answered] at replies
    exact ⟨kept, replies⟩
  · rw [answered] at replies
    exact ⟨kept.run_store (decides value answered) lifetime, replies⟩

/-- A resolver behind a cache answers for itself or with what is decided. -/
theorem run_guarded (remembers : world.Remembers decided)
    (decides : ∀ value, resolver.answer name = .ok (some value) →
      decided name = .ok (some value)) :
    ((resolver.guarded.2 name).run world).2.Remembers decided ∧
      resolver.Replies decided name world.journal ((resolver.guarded.2 name).run world).1
        ((resolver.guarded.2 name).run world).2.journal := by
  unfold guarded
  cases resolver.caching with
  | uncached =>
    refine ⟨resolver.run_bare_remembers name remembers, ?_⟩
    rw [run_bare]
    exact .asked
  | cached lifetime =>
    have remembered := remembers.run_cached (SecretResolver.cacheKey name)
    rcases read : (Action.cached (SecretResolver.cacheKey name)).run world with ⟨found, before⟩
    have sameJournal : before.journal = world.journal := by
      rw [Action.run_cached] at read
      cases read
      rfl
    rw [read] at remembered
    rw [← sameJournal]
    rcases found with failure | (_ | value)
    · rw [Action.run_cached] at read
      cases read
    · exact resolver.replies_of_miss name lifetime remembered decides read
    · rw [SecretResolver.run_cached_of_hit read]
      exact ⟨remembered, .remembered (remembers.decided_of_cached (congrArg Prod.fst read))⟩

end

/-! ## Lists of resolvers -/

/-- Nothing fails before something is found. -/
theorem filter_isFailure_consulted {name : String} {resolvers : List (FixedResolver σ)}
    {found : Option String} (decided : decision name resolvers = .ok found) :
    (consulted name resolvers).filter Entry.isFailure = [] := by
  induction resolvers with
  | nil => rfl
  | cons resolver rest ih =>
    unfold decision at decided
    unfold consulted
    cases answered : resolver.answer name with
    | error failure =>
      rw [answered] at decided
      cases decided
    | ok answer? =>
      rw [answered] at decided
      have passes : (resolver.asking name).isFailure = false := by
        cases answer? with
        | none => simp [asking, answered, Entry.isFailure, Answer.ofOutcome, Answer.ofText]
        | some value => simp [asking, answered, Entry.isFailure, Answer.ofOutcome, Answer.ofText]
      rw [List.filter_cons_of_neg (by simp [passes])]
      cases answer? with
      | none => exact ih decided
      | some value => rfl

/-- Resolvers without caches are asked up to the first that finds something or fails. -/
theorem firstSecret_bare (reference : Reference) (name : String)
    (resolvers : List (FixedResolver σ)) (world : World (σ × Journal)) :
    ((firstSecret reference name (resolvers.map bare)).run world).1 =
        (decision name resolvers).mapError (ResolutionError.secretFailed reference.raw) ∧
      ((firstSecret reference name (resolvers.map bare)).run world).2.journal =
        world.journal ++ consulted name resolvers := by
  induction resolvers generalizing world with
  | nil => exact ⟨rfl, (List.append_nil _).symm⟩
  | cons resolver rest ih =>
    have asked :
        ((resolver.bare.2 name).mapError (ResolutionError.secretFailed reference.raw)).run world =
        ((resolver.answer name).mapError (ResolutionError.secretFailed reference.raw),
          ((resolver.inner name).run world.plain).2.withJournal
            (world.journal ++ [resolver.asking name])) := by
      rw [Effect.run_mapError, run_bare]
    simp only [List.map_cons, firstSecret, decision, consulted]
    cases answered : resolver.answer name with
    | error failure =>
      rw [answered] at asked
      rw [Effect.run_bind_of_error asked]
      exact ⟨rfl, rfl⟩
    | ok answer? =>
      rw [answered] at asked
      rw [Effect.run_bind_of_ok asked]
      cases answer? with
      | some value => exact ⟨rfl, rfl⟩
      | none =>
        obtain ⟨outcome, journal⟩ := ih (((resolver.inner name).run world.plain).2.withJournal
          (world.journal ++ [resolver.asking name]))
        refine ⟨outcome, journal.trans ?_⟩
        rw [World.journal_withJournal, List.append_assoc, List.singleton_append]

/-- What a list of resolvers does in a world that remembers what it decides: it decides the same,
asks no other resolvers, and misses no failure. -/
structure Decides (decided : String → Except Failure (Option String)) (reference : Reference)
    (name : String) (resolvers : List (FixedResolver σ)) (world : World (σ × Journal))
    (ended : Except ResolutionError (Option String) × World (σ × Journal)) : Prop where
  outcome : ended.1 = (decision name resolvers).mapError (ResolutionError.secretFailed reference.raw)
  remembers : ended.2.Remembers decided
  asked : ∃ lines, ended.2.journal = world.journal ++ lines ∧
    lines.Sublist (consulted name resolvers) ∧
    lines.filter Entry.isFailure = (consulted name resolvers).filter Entry.isFailure

/-- A cache before any of the resolvers does not change what is decided. The list shrinks along the
proof, and what is decided about the name stays the same. -/
theorem firstSecret_guarded (reference : Reference) {name : String}
    {resolvers : List (FixedResolver σ)} (decides : decided name = decision name resolvers)
    {world : World (σ × Journal)} (remembers : world.Remembers decided) :
    Decides decided reference name resolvers world
      ((firstSecret reference name (resolvers.map guarded)).run world) := by
  induction resolvers generalizing world with
  | nil => exact ⟨rfl, remembers, [], (List.append_nil _).symm, .slnil, rfl⟩
  | cons resolver rest ih =>
    have finds : ∀ value, resolver.answer name = .ok (some value) →
        decided name = .ok (some value) := by
      intro value answered
      rw [decides, decision, answered]
    obtain ⟨remembered, replies⟩ := resolver.run_guarded name remembers finds
    have mapped := Effect.run_mapError (ResolutionError.secretFailed reference.raw)
      (resolver.guarded.2 name) world
    simp only [List.map_cons, firstSecret]
    generalize (resolver.guarded.2 name).run world = ended at remembered replies mapped
    obtain ⟨reply, after⟩ := ended
    simp only at remembered replies mapped
    generalize written : after.journal = journal at replies
    cases replies with
    | remembered known =>
      -- The resolvers that are passed over have nothing to say or find just this, so none fails.
      rw [Effect.run_bind_of_ok mapped]
      have found : decision name (resolver :: rest) = .ok (some _) := decides.symm.trans known
      refine ⟨?_, remembered, [], ?_, List.nil_sublist _, ?_⟩
      · rw [found]
        rfl
      · rw [List.append_nil]
        exact written
      · exact (filter_isFailure_consulted found).symm
    | asked =>
      cases answered : resolver.answer name with
      | error failure =>
        rw [answered] at mapped
        rw [Effect.run_bind_of_error mapped]
        refine ⟨?_, remembered, [resolver.asking name], written, ?_, ?_⟩
        · simp only [decision, answered]
          rfl
        · simp only [consulted, answered, List.Sublist.refl]
        · simp only [consulted, answered]
      | ok answer? =>
        rw [answered] at mapped
        rw [Effect.run_bind_of_ok mapped]
        cases answer? with
        | some value =>
          refine ⟨?_, remembered, [resolver.asking name], written, ?_, ?_⟩
          · simp only [decision, answered]
            rfl
          · simp only [consulted, answered, List.Sublist.refl]
          · simp only [consulted, answered]
        | none =>
          have passes : decision name (resolver :: rest) = decision name rest := by
            simp only [decision, answered]
          obtain ⟨outcome, keeps, lines, journal, fewer, failures⟩ :=
            ih (decides.trans passes) remembered
          refine ⟨?_, keeps, resolver.asking name :: lines, ?_, ?_, ?_⟩
          · rw [passes]
            exact outcome
          · rw [journal, written, List.append_assoc, List.singleton_append]
          · simp only [consulted, answered]
            exact fewer.cons_cons _
          · simp only [consulted, answered, List.filter_cons, failures]

end FixedResolver

/-! ## Sequences of lookups -/

namespace FixedResolver

variable {σ : Type} (registry : Registry (σ × Journal)) (context : Context)
  (resolvers : List (FixedResolver σ))

/-- The registry with these resolvers, none of them cached. -/
def registryBare : Registry (σ × Journal) :=
  { registry with secretResolvers := resolvers.map bare }

/-- The registry with these resolvers, each behind its cache if it has one. -/
def registryGuarded : Registry (σ × Journal) :=
  { registry with secretResolvers := resolvers.map guarded }

/-- What is decided about the secrets of a sequence. -/
def decisions (secrets : List SecretReference) : List (Except ResolutionError (Option String)) :=
  secrets.map fun secret =>
    (decision secret.name resolvers).mapError (ResolutionError.secretFailed secret.raw)

theorem lookUpSecrets_bare (secrets : List SecretReference) (world : World (σ × Journal)) :
    (lookUpSecrets (registryBare registry resolvers) context secrets world).1 =
        decisions resolvers secrets ∧
      (lookUpSecrets (registryBare registry resolvers) context secrets world).2.journal =
        world.journal ++ secrets.flatMap fun secret => consulted secret.name resolvers := by
  induction secrets generalizing world with
  | nil => exact ⟨rfl, (List.append_nil _).symm⟩
  | cons secret rest ih =>
    obtain ⟨outcome, journal⟩ :=
      firstSecret_bare secret.reference secret.name resolvers world
    obtain ⟨outcomes, journals⟩ :=
      ih ((firstSecret secret.reference secret.name (resolvers.map bare)).run world).2
    constructor
    · exact List.cons_eq_cons.mpr ⟨outcome, outcomes⟩
    · refine journals.trans ?_
      rw [journal, List.flatMap_cons, List.append_assoc]

/-- The cache holds along the sequence what is decided, so the lookups of a sequence do what a single
one does. -/
theorem lookUpSecrets_guarded (secrets : List SecretReference) {world : World (σ × Journal)}
    (remembers : world.Remembers fun name => decision name resolvers) :
    (lookUpSecrets (registryGuarded registry resolvers) context secrets world).1 =
        decisions resolvers secrets ∧
      ∃ lines,
        (lookUpSecrets (registryGuarded registry resolvers) context secrets world).2.journal =
          world.journal ++ lines ∧
        lines.Sublist (secrets.flatMap fun secret => consulted secret.name resolvers) ∧
        lines.filter Entry.isFailure =
          (secrets.flatMap fun secret => consulted secret.name resolvers).filter
            Entry.isFailure := by
  induction secrets generalizing world with
  | nil => exact ⟨rfl, [], (List.append_nil _).symm, .slnil, rfl⟩
  | cons secret rest ih =>
    have decides : (fun name => decision name resolvers) secret.name =
        decision secret.name resolvers := rfl
    obtain ⟨outcome, remembered, first, journal, fewer, failures⟩ :=
      firstSecret_guarded secret.reference decides remembers
    obtain ⟨outcomes, others, journals, fewerOthers, failuresOthers⟩ := ih remembered
    refine ⟨List.cons_eq_cons.mpr ⟨outcome, outcomes⟩, first ++ others, ?_, ?_, ?_⟩
    · refine journals.trans ?_
      rw [journal, List.append_assoc]
    · rw [List.flatMap_cons]
      exact fewer.append fewerOthers
    · rw [List.flatMap_cons, List.filter_append, List.filter_append, failures, failuresOthers]

/-- A cache before any of the resolvers changes no lookup: each has the value, the absence or the
error that the first resolver decides that finds something or fails. Every call that gets through is
made without caches as well, so no resolver is asked more often, and the calls that fail are the
same. -/
theorem lookUpSecrets_cached (secrets : List SecretReference) {world : World σ}
    (fresh : ∀ name, world.cachedSecret? name = none) :
    let bare := lookUpSecrets (registryBare registry resolvers) context secrets
      (world.withJournal [])
    let guarded := lookUpSecrets (registryGuarded registry resolvers) context secrets
      (world.withJournal [])
    bare.1 = decisions resolvers secrets ∧ guarded.1 = bare.1 ∧
      guarded.2.journal.Sublist bare.2.journal ∧
      (∀ label name,
        guarded.2.journal.timesAsked label name ≤ bare.2.journal.timesAsked label name) ∧
      guarded.2.journal.filter Entry.isFailure = bare.2.journal.filter Entry.isFailure := by
  intro bare guarded
  have remembers : (world.withJournal []).Remembers fun name => decision name resolvers := by
    intro name entry held
    rw [show (world.withJournal []).cachedSecret? name = none from fresh name] at held
    cases held
  obtain ⟨outcomes, journal⟩ :=
    lookUpSecrets_bare registry context resolvers secrets (world.withJournal [])
  obtain ⟨outcomes', lines, journal', fewer, failures⟩ :=
    lookUpSecrets_guarded registry context resolvers secrets remembers
  rw [World.journal_withJournal, List.nil_append] at journal journal'
  rw [← journal, ← journal'] at fewer failures
  exact ⟨outcomes, outcomes'.trans outcomes.symm, fewer, fun _ _ => fewer.countP_le, failures⟩

/-- A resolver that does nothing but answer. -/
def ofAnswers (label : String) (caching : Caching) (answer : String → Except Failure (Option String)) :
    FixedResolver σ where
  label
  inner name := .ofExcept (answer name)
  answer
  caching
  answers _ _ := rfl
  keepsSecrets _ _ _ := rfl

/-- Two of three resolvers are cached. The first answers the second time with what the last one has
found, and asks again once that has expired. -/
theorem lookUpSecrets_cached_twice :
    let resolvers : List (FixedResolver Unit) := [
      ofAnswers "first" (.cached none) fun _ => .ok none,
      ofAnswers "second" .uncached fun name =>
        if name = "broken" then .error ⟨["denied"]⟩ else .ok none,
      ofAnswers "third" (.cached (some 5)) fun name => .ok (some (name ++ "!"))]
    let secrets : List SecretReference := [
      { raw := "secret.token", name := "token" }, { raw := "secret.token", name := "token" },
      { raw := "secret.broken", name := "broken" }, { raw := "secret.token", name := "token" }]
    let world : World Unit := { host := (), clock := ⟨fun reading => 3 * reading, 0⟩ }
    let bare := lookUpSecrets (registryBare .empty resolvers) {} secrets (world.withJournal [])
    let guarded := lookUpSecrets (registryGuarded .empty resolvers) {} secrets
      (world.withJournal [])
    (∀ name, world.cachedSecret? name = none) ∧ guarded.1 = bare.1 ∧
      guarded.1.map Except.toOption =
        [some (some "token!"), some (some "token!"), none, some (some "token!")] ∧
      bare.2.journal.timesAsked "third" "token" = 3 ∧
      guarded.2.journal.timesAsked "third" "token" = 2 := by
  intro resolvers secrets world bare guarded
  have fresh : ∀ name, world.cachedSecret? name = none := fun _ => rfl
  have same := (lookUpSecrets_cached .empty {} resolvers secrets fresh).2.1
  exact ⟨fresh, same, by decide +kernel, by decide +kernel, by decide +kernel⟩

end FixedResolver

end RequestChain
