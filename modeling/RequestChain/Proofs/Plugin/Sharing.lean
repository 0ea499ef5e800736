import RequestChain.Proofs.Plugin.Caching

/-! # Resolvers that share a cache

Several cached resolvers are asked directly, in any order and for any names. What one of them stores
is found by all of them, since the key of a secret names the secret and not the resolver. So a value
that a resolver gives has been found for that name by one of the resolvers that were asked for it,
which need not be the one that gives it. Failures and missing secrets are never stored, and a stored
value is given without a call as long as it has not expired.

What stands behind the caches may do anything but touch cached secrets and turn the clock back to an
earlier reading. The clock itself may go backwards.
-/

namespace RequestChain

/-- A resolver that is put behind the shared cache. -/
structure CachedResolver (σ : Type) where
  inner : SecretResolver σ
  lifetime : Option Nat
  keepsSecrets : ∀ name world other,
    ((inner name).run world).2.cachedSecret? other = world.cachedSecret? other
  keepsInstants : ∀ name world,
    ((inner name).run world).2.clock.instants = world.clock.instants
  readsOn : ∀ name world,
    world.clock.readings ≤ ((inner name).run world).2.clock.readings

/-- A direct call of a cached resolver. -/
structure SecretCall (σ : Type) where
  /-- The resolver that is called. -/
  label : String
  name : String
  before : World (σ × Journal)
  outcome : Except Failure (Option String)
  after : World (σ × Journal)

namespace SecretCall

variable {σ : Type} (call : SecretCall σ)

/-- The value that is given, unless there is none or the call fails. -/
def value? : Option String :=
  match call.outcome with
  | .ok found => found
  | .error _ => none

theorem value?_eq_some_iff {call : SecretCall σ} {value : String} :
    call.value? = some value ↔ call.outcome = .ok (some value) := by
  unfold value?
  split
  · rename_i found returned
    rw [returned, Except.ok.injEq]
  · rename_i failure failed
    rw [failed]
    exact iff_of_false nofun nofun

/-- The line for the call of what stands behind the cache. -/
def line : Entry :=
  ⟨.secret call.label call.name, .ofOutcome .ofText call.outcome⟩

/-- What stands behind the cache was called, once, and gave the answer. -/
def Asked : Prop :=
  call.after.journal = call.before.journal ++ [call.line]

/-- Nothing behind the cache was called. -/
def Silent : Prop :=
  call.after.journal = call.before.journal

theorem Asked.not_silent {call : SecretCall σ} (asked : call.Asked) : ¬call.Silent := by
  intro silent
  have longer := congrArg List.length (asked.symm.trans silent)
  simp at longer

/-- The instant that the clock showed last, at which a value that was found was stored. -/
def lastInstant : Nat :=
  call.after.clock.instants (call.after.clock.readings - 1)

/-- No reading of the clock from the end of one call to the beginning of a later one finds that the
span of time has run out which began with the end of the first. -/
def LastsUntil (stored : SecretCall σ) (lifetime : Option Nat) (later : SecretCall σ) : Prop :=
  ∀ span, lifetime = some span → ∀ reading, stored.after.clock.readings ≤ reading →
    reading ≤ later.before.clock.readings →
    stored.after.clock.instants reading < stored.lastInstant + span

end SecretCall

namespace CachedResolver

variable {σ : Type} (resolvers : String → CachedResolver σ)

/-- Asks the resolver of a label. Calls that get through the cache are written down. -/
def ask (label name : String) : Action (σ × Journal) (Option String) :=
  SecretResolver.cached (SecretResolver.journaled (label, (resolvers label).inner)).2
    (resolvers label).lifetime name

/-- The call of one resolver for one name. -/
def call (label name : String) (world : World (σ × Journal)) : SecretCall σ where
  label
  name
  before := world
  outcome := ((ask resolvers label name).run world).1
  after := ((ask resolvers label name).run world).2

/-- The calls for labels and names in turn, each in the world that the one before it leaves. -/
def calls : List (String × String) → World (σ × Journal) → List (SecretCall σ)
  | [], _ => []
  | (label, name) :: rest, world =>
    call resolvers label name world :: calls rest (call resolvers label name world).after

/-! ## One call -/

/-- What a call does to the cached secrets. -/
inductive Handled (call : SecretCall σ) : Prop where
  /-- The cache holds a value that has not expired, and stays as it is. -/
  | remembered {entry : CacheEntry} (held : call.before.cachedSecret? call.name = some entry)
      (fresh : entry.isExpired call.before.clock.read.1 = false)
      (outcome : call.outcome = .ok (some entry.value)) (silent : call.Silent)
      (secrets : ∀ name, call.after.cachedSecret? name = call.before.cachedSecret? name)
  /-- The resolver is asked, and only what it finds is cached. -/
  | asked
      (missing : ∀ entry, call.before.cachedSecret? call.name = some entry →
        entry.isExpired call.before.clock.read.1 = true)
      (asked : call.Asked)
      (secret : call.after.cachedSecret? call.name =
        call.value?.map fun value =>
          ⟨value, (resolvers call.label).lifetime.map (call.lastInstant + ·)⟩)
      (others : ∀ name, name ≠ call.name →
        call.after.cachedSecret? name = call.before.cachedSecret? name)

/-- A call reads the clock and leaves its instants as they are. -/
structure KeepsTime (call : SecretCall σ) : Prop where
  instants : call.after.clock.instants = call.before.clock.instants
  readings : call.before.clock.readings < call.after.clock.readings

/-- What a reading leaves of the cached secrets when it finds nothing. -/
structure Missed (name : String) (world read : World (σ × Journal)) : Prop where
  journal : read.journal = world.journal
  instants : read.clock.instants = world.clock.instants
  readings : read.clock.readings = world.clock.readings + 1
  own : read.cachedSecret? name = none
  others : ∀ other, other ≠ name → read.cachedSecret? other = world.cachedSecret? other

/-- A reading that finds nothing removes an expired entry of its own at most. -/
theorem missed_of_missing {name : String} {world : World (σ × Journal)}
    (missing : ∀ entry, world.cachedSecret? name = some entry →
      entry.isExpired world.clock.read.1 = true) :
    ∃ read, (Action.cached (SecretResolver.cacheKey name)).run world = (.ok none, read) ∧
      Missed name world read := by
  have ran := Action.run_cached (SecretResolver.cacheKey name) world
  cases held : world.cachedSecret? name with
  | none =>
    rw [Cache.get_of_absent held] at ran
    exact ⟨_, ran, rfl, rfl, rfl, held, fun _ _ => rfl⟩
  | some entry =>
    rw [Cache.get_of_expired held (missing entry held)] at ran
    refine ⟨_, ran, rfl, rfl, rfl, ?_, ?_⟩
    · exact (OrderedMap.get?_erase _ _ _).trans (if_pos rfl)
    · intro other differ
      have keys : SecretResolver.cacheKey other ≠ SecretResolver.cacheKey name :=
        fun equal => differ (SecretResolver.cacheKey_injective equal)
      exact (OrderedMap.get?_erase _ _ _).trans (if_neg keys)

/-- What stands behind the cache is called and written down, and cached secrets stay. -/
structure Consulted (resolver : CachedResolver σ) (label name : String)
    (world after : World (σ × Journal)) (outcome : Except Failure (Option String)) : Prop where
  ran : ((SecretResolver.journaled (label, resolver.inner)).2 name).run world = (outcome, after)
  journal : after.journal =
    world.journal ++ [⟨.secret label name, .ofOutcome .ofText outcome⟩]
  instants : after.clock.instants = world.clock.instants
  readings : world.clock.readings ≤ after.clock.readings
  secrets : ∀ other, after.cachedSecret? other = world.cachedSecret? other

theorem exists_consulted (resolver : CachedResolver σ) (label name : String)
    (world : World (σ × Journal)) :
    ∃ outcome after, Consulted resolver label name world after outcome :=
  ⟨_, _, Action.run_noted (.secret label name) .ofText (resolver.inner name) world, rfl,
    resolver.keepsInstants name world.plain, resolver.readsOn name world.plain,
    resolver.keepsSecrets name world.plain⟩

/-- A call that finds nothing in the cache asks, and stores what it gets. -/
theorem handled_of_missing {label name : String} {world : World (σ × Journal)}
    (missing : ∀ entry, world.cachedSecret? name = some entry →
      entry.isExpired world.clock.read.1 = true) :
    Handled resolvers (call resolvers label name world) ∧
      KeepsTime (call resolvers label name world) := by
  obtain ⟨read, miss, missed⟩ := missed_of_missing missing
  obtain ⟨outcome, after, consulted⟩ := exists_consulted (resolvers label) label name read
  have ran : ((SecretResolver.journaled (label, (resolvers label).inner)).2.cached
      (resolvers label).lifetime name).run world = _ :=
    SecretResolver.run_cached_of_miss miss (resolvers label).lifetime
  rw [consulted.ran] at ran
  have journal := consulted.journal
  rw [missed.journal] at journal
  have instants := consulted.instants.trans missed.instants
  have readings := missed.readings ▸ consulted.readings
  have own := (consulted.secrets name).trans missed.own
  have others := fun other differ => (consulted.secrets other).trans (missed.others other differ)
  unfold call ask
  rw [ran]
  rcases outcome with failure | (_ | value)
  · exact ⟨.asked missing journal own others, instants, readings⟩
  · exact ⟨.asked missing journal own others, instants, readings⟩
  · refine ⟨.asked missing journal ?_ ?_, instants, ?_⟩
    · exact (OrderedMap.get?_insert _ _ _ _).trans (if_pos rfl)
    · intro other differ
      have keys : SecretResolver.cacheKey other ≠ SecretResolver.cacheKey name :=
        fun equal => differ (SecretResolver.cacheKey_injective equal)
      exact ((OrderedMap.get?_insert _ _ _ _).trans (if_neg keys)).trans (others other differ)
    · exact Nat.lt_succ_of_lt readings

theorem call_handled (label name : String) (world : World (σ × Journal)) :
    Handled resolvers (call resolvers label name world) ∧
      KeepsTime (call resolvers label name world) := by
  cases held : world.cachedSecret? name with
  | none =>
    apply handled_of_missing
    intro entry found
    rw [held] at found
    cases found
  | some entry =>
    cases expired : entry.isExpired world.clock.read.1 with
    | true =>
      apply handled_of_missing
      intro other found
      rw [held] at found
      cases found
      exact expired
    | false =>
      have ran := Action.run_cached (SecretResolver.cacheKey name) world
      rw [Cache.get_of_fresh held expired] at ran
      have answered : ((SecretResolver.journaled (label, (resolvers label).inner)).2.cached
          (resolvers label).lifetime name).run world = _ :=
        SecretResolver.run_cached_of_hit ran (resolvers label).lifetime
      unfold call ask
      rw [answered]
      exact ⟨.remembered held expired rfl rfl fun _ => rfl, rfl, Nat.lt_succ_self _⟩

/-! ## Sequences of calls -/

/-- A value that one of the resolvers found which were asked for that name. -/
def Found (asked : List (String × String)) (name value : String) (world : World (σ × Journal)) :
    Prop :=
  ∃ label, (label, name) ∈ asked ∧ ⟨.secret label name, .defined value⟩ ∈ world.journal

theorem Found.mono {asked more : List (String × String)} {name value : String}
    {world after : World (σ × Journal)} (found : Found asked name value world)
    (others : asked ⊆ more) (journal : world.journal ⊆ after.journal) :
    Found more name value after := by
  obtain ⟨label, member, written⟩ := found
  exact ⟨label, others member, journal written⟩

/-- What is cached has been found. -/
def Sourced (asked : List (String × String)) (world : World (σ × Journal)) : Prop :=
  ∀ name entry, world.cachedSecret? name = some entry → Found asked name entry.value world

variable {resolvers}

/-- One more call gives and caches nothing that has not been found. -/
theorem Sourced.call {earlier : List (String × String)} {world : World (σ × Journal)}
    (sourced : Sourced earlier world) (label name : String) :
    let made := CachedResolver.call resolvers label name world
    Sourced (earlier ++ [(label, name)]) made.after ∧
      ∀ value, made.outcome = .ok (some value) →
        Found (earlier ++ [(label, name)]) name value made.after := by
  intro made
  have more : earlier ⊆ earlier ++ [(label, name)] := List.subset_append_left _ _
  cases (call_handled resolvers label name world).1 with
  | remembered held fresh outcome silent secrets =>
    have journal : world.journal ⊆ made.after.journal := fun _ member => silent.symm ▸ member
    constructor
    · intro other entry cached
      exact (sourced other entry ((secrets other).symm.trans cached)).mono more journal
    · intro value returned
      cases outcome.symm.trans returned
      exact (sourced name _ held).mono more journal
  | asked missing asked secret others =>
    have journal : made.after.journal = world.journal ++ [made.line] := asked
    have found : ∀ value, made.outcome = .ok (some value) →
        Found (earlier ++ [(label, name)]) name value made.after := by
      intro value returned
      refine ⟨label, List.mem_append_right _ (List.mem_singleton_self _), ?_⟩
      rw [journal, SecretCall.line, returned]
      exact List.mem_append_right _ (List.mem_singleton_self _)
    refine ⟨?_, found⟩
    intro other entry cached
    by_cases own : other = name
    · subst own
      obtain ⟨value, given, rfl⟩ := Option.map_eq_some_iff.mp (secret.symm.trans cached)
      exact found value (SecretCall.value?_eq_some_iff.mp given)
    · have longer : world.journal ⊆ made.after.journal := by
        rw [journal]
        exact List.subset_append_left _ _
      exact (sourced other entry ((others other own).symm.trans cached)).mono more longer

/-- The calls of a sequence are those that are requested. -/
theorem eq_call_of_found {requests : List (String × String)} {world : World (σ × Journal)}
    {index : Nat} {made : SecretCall σ}
    (found : (calls resolvers requests world)[index]? = some made) :
    made = call resolvers made.label made.name made.before ∧
      requests[index]? = some (made.label, made.name) := by
  induction requests generalizing world index with
  | nil => cases found
  | cons request rest ih =>
    cases index with
    | zero =>
      cases found
      exact ⟨rfl, rfl⟩
    | succ index => exact ih found

/-- A call in the middle of a sequence is made in a world in which what is cached has been found by
the calls before it. -/
theorem sourced_before {earlier requests : List (String × String)} {world : World (σ × Journal)}
    (sourced : Sourced earlier world) {index : Nat} {made : SecretCall σ}
    (found : (calls resolvers requests world)[index]? = some made) :
    Sourced (earlier ++ requests.take index) made.before := by
  induction requests generalizing earlier world index with
  | nil => cases found
  | cons request rest ih =>
    obtain ⟨label, name⟩ := request
    cases index with
    | zero =>
      cases found
      rw [List.take_zero, List.append_nil]
      exact sourced
    | succ index =>
      have step := ih (sourced.call label name).1 found
      rw [List.append_assoc, List.singleton_append] at step
      exact step

/-- Along a sequence the clock is read on. -/
theorem keepsTime_before {requests : List (String × String)} {world : World (σ × Journal)}
    {index : Nat} {made : SecretCall σ}
    (found : (calls resolvers requests world)[index]? = some made) :
    made.before.clock.instants = world.clock.instants ∧
      world.clock.readings ≤ made.before.clock.readings := by
  induction requests generalizing world index with
  | nil => cases found
  | cons request rest ih =>
    obtain ⟨label, name⟩ := request
    cases index with
    | zero =>
      cases found
      exact ⟨rfl, Nat.le_refl _⟩
    | succ index =>
      have time := (call_handled resolvers label name world).2
      obtain ⟨instants, readings⟩ := ih found
      exact ⟨instants.trans time.instants, Nat.le_trans (Nat.le_of_lt time.readings) readings⟩

/-- A cached value is given without a call until a reading of the clock finds it expired. -/
theorem silent_of_cached {requests : List (String × String)} {world : World (σ × Journal)}
    {entry : CacheEntry} {index : Nat} {made : SecretCall σ}
    (found : (calls resolvers requests world)[index]? = some made)
    (cached : world.cachedSecret? made.name = some entry)
    (fresh : ∀ reading, world.clock.readings ≤ reading → reading ≤ made.before.clock.readings →
      entry.isExpired (world.clock.instants reading) = false) :
    made.outcome = .ok (some entry.value) ∧ made.Silent := by
  induction requests generalizing world index with
  | nil => cases found
  | cons request rest ih =>
    obtain ⟨label, name⟩ := request
    have present : entry.isExpired world.clock.read.1 = false := by
      refine fresh world.clock.readings (Nat.le_refl _) ?_
      exact (keepsTime_before found).2
    obtain ⟨handled, time⟩ := call_handled resolvers label name world
    cases index with
    | zero =>
      cases found
      cases handled with
      | remembered held _ outcome silent _ =>
        cases held.symm.trans cached
        exact ⟨outcome, silent⟩
      | asked missing _ _ _ =>
        exact absurd (present.symm.trans (missing entry cached)) Bool.false_ne_true
    | succ index =>
      -- Neither kind of call removes the entry: one that asks is about another name.
      have kept : (call resolvers label name world).after.cachedSecret? made.name = some entry := by
        cases handled with
        | remembered _ _ _ _ secrets => exact (secrets made.name).trans cached
        | asked missing _ _ others =>
          refine (others made.name ?_).trans cached
          intro same
          have expired := missing entry (same ▸ cached)
          exact absurd (present.symm.trans expired) Bool.false_ne_true
      refine ih found kept ?_
      intro reading start stop
      rw [time.instants]
      exact fresh reading (Nat.le_trans (Nat.le_of_lt time.readings) start) stop

/-- What follows a call is the sequence of the remaining calls. -/
theorem calls_behind {requests : List (String × String)} {world : World (σ × Journal)}
    {index : Nat} {made : SecretCall σ}
    (found : (calls resolvers requests world)[index]? = some made) (further : Nat) :
    (calls resolvers requests world)[index + 1 + further]? =
      (calls resolvers (requests.drop (index + 1)) made.after)[further]? := by
  induction requests generalizing world index with
  | nil => cases found
  | cons request rest ih =>
    obtain ⟨label, name⟩ := request
    cases index with
    | zero =>
      cases found
      rw [Nat.zero_add, Nat.add_comm 1 further]
      rfl
    | succ index =>
      rw [Nat.add_right_comm (index + 1)]
      exact ih found

/-- A value that a call found and stored is given by every later call for that name, without asking,
until it expires. -/
theorem silent_of_stored {requests : List (String × String)} {world : World (σ × Journal)}
    {first last : Nat} {stored later : SecretCall σ} {value : String} (order : first < last)
    (earlier : (calls resolvers requests world)[first]? = some stored)
    (found : (calls resolvers requests world)[last]? = some later)
    (same : stored.name = later.name) (asked : stored.Asked)
    (returned : stored.outcome = .ok (some value))
    (lasts : stored.LastsUntil (resolvers stored.label).lifetime later) :
    later.outcome = .ok (some value) ∧ later.Silent := by
  obtain ⟨further, rfl⟩ := Nat.exists_eq_add_of_lt order
  rw [Nat.add_right_comm, calls_behind earlier] at found
  have cached : stored.after.cachedSecret? later.name =
      some ⟨value, (resolvers stored.label).lifetime.map (stored.lastInstant + ·)⟩ := by
    have handled := (call_handled resolvers stored.label stored.name stored.before).1
    rw [← (eq_call_of_found earlier).1] at handled
    cases handled with
    | remembered _ _ _ silent _ => exact absurd silent asked.not_silent
    | asked _ _ secret _ =>
      rw [← same, secret, SecretCall.value?_eq_some_iff.mpr returned]
      rfl
  refine silent_of_cached found cached ?_
  intro reading start stop
  rw [CacheEntry.isExpired, Option.any_map, Option.any_eq_false]
  intro span isLifetime
  have before := lasts span isLifetime reading start stop
  simpa using before

/-- Whatever the resolvers do and whatever the clock shows: a value that is given has been found for
that name by a resolver that was asked for it, in this call or an earlier one, and by the very
resolver that gives it if no other was asked for that name. What is cached has been found, so
failures and missing secrets are not stored, and a call that gives no value leaves none under the
name. After a value has been stored, it is given without a call until it expires. -/
theorem calls_found (resolvers : String → CachedResolver σ) (requests : List (String × String))
    {world : World σ} (noSecrets : ∀ name, world.cachedSecret? name = none) :
    let made := calls resolvers requests (world.withJournal [])
    (∀ (index : Nat) (call : SecretCall σ), made[index]? = some call →
      let asked := requests.take (index + 1)
      (∀ value, call.outcome = .ok (some value) →
        Found asked call.name value call.after ∧
        ((∀ label, (label, call.name) ∈ asked → label = call.label) →
          ⟨.secret call.label call.name, .defined value⟩ ∈ call.after.journal)) ∧
      Sourced asked call.after ∧
      (call.value? = none → call.after.cachedSecret? call.name = none)) ∧
    ∀ (first last : Nat) (stored later : SecretCall σ) (value : String), first < last →
      made[first]? = some stored → made[last]? = some later → stored.name = later.name →
      stored.Asked → stored.outcome = .ok (some value) →
      stored.LastsUntil (resolvers stored.label).lifetime later →
      later.outcome = .ok (some value) ∧ later.Silent := by
  intro made
  have start : Sourced [] (world.withJournal []) := by
    intro name entry cached
    rw [show (world.withJournal []).cachedSecret? name = none from noSecrets name] at cached
    cases cached
  refine ⟨?_, ?_⟩
  · intro index call found asked
    obtain ⟨isCall, requested⟩ := eq_call_of_found found
    obtain ⟨cached, given⟩ := (sourced_before start found).call call.label call.name
    have upTo : [] ++ requests.take index ++ [(call.label, call.name)] = asked := by
      rw [List.nil_append]
      simp only [asked, List.take_add_one, requested, Option.toList_some]
    rw [upTo, ← isCall] at cached given
    refine ⟨?_, cached, ?_⟩
    · intro value returned
      have hasFound := given value returned
      refine ⟨hasFound, ?_⟩
      intro alone
      obtain ⟨label, member, written⟩ := hasFound
      rw [alone label member] at written
      exact written
    · intro none
      have handled := (call_handled resolvers call.label call.name call.before).1
      rw [← isCall] at handled
      cases handled with
      | remembered held fresh outcome silent secrets =>
        rw [SecretCall.value?_eq_some_iff.mpr outcome] at none
        cases none
      | asked missing asked secret others =>
        rw [secret, none]
        rfl
  · intro first last stored later value order earlier found same asked returned lasts
    exact silent_of_stored order earlier found same asked returned lasts

section

variable (answer : String → Except Failure (Option String)) (name : String) (world : World σ)

private theorem keepsSecrets_answer (other : String) :
    ((Effect.ofExcept (answer name) : Action σ _).run world).2.cachedSecret? other =
      world.cachedSecret? other := rfl

private theorem keepsInstants_answer :
    ((Effect.ofExcept (answer name) : Action σ _).run world).2.clock.instants =
      world.clock.instants := rfl

private theorem readsOn_answer : world.clock.readings ≤
    ((Effect.ofExcept (answer name) : Action σ _).run world).2.clock.readings := Nat.le_refl _

end

/-- A resolver that does nothing but answer. -/
def ofAnswers (lifetime : Option Nat) (answer : String → Except Failure (Option String)) :
    CachedResolver σ where
  inner name := .ofExcept (answer name)
  lifetime
  keepsSecrets := keepsSecrets_answer answer
  keepsInstants := keepsInstants_answer answer
  readsOn := readsOn_answer answer

/-- Two resolvers for different secrets, and a failure; the first value is stored at the instant 1 and
asked for again at the instant 4. -/
theorem calls_found_disjoint :
    let resolvers : String → CachedResolver Unit := fun label =>
      if label = "vault" then ofAnswers (some 5) fun _ => .ok (some "1")
      else ofAnswers none fun name =>
        if name = "L" then .ok (some "2") else .error ⟨["denied"]⟩
    let requests := [("vault", "K"), ("file", "L"), ("vault", "K"), ("file", "M")]
    let world : World Unit := { host := (), clock := ⟨id, 0⟩ }
    let made := calls resolvers requests (world.withJournal [])
    (∀ name, world.cachedSecret? name = none) ∧
      made.map (·.value?) = [some "1", some "2", some "1", none] ∧
      (∃ call, made[1]? = some call ∧
        ⟨.secret "file" "L", .defined "2"⟩ ∈ call.after.journal) ∧
      ∃ stored later, made[0]? = some stored ∧ made[2]? = some later ∧ stored.Asked ∧
        stored.LastsUntil (some 5) later ∧ later.outcome = .ok (some "1") ∧ later.Silent := by
  intro resolvers requests world made
  have noSecrets : ∀ name, world.cachedSecret? name = none := fun _ => rfl
  obtain ⟨given, remembered⟩ := calls_found resolvers requests noSecrets
  obtain ⟨stored, isFirst⟩ : ∃ call, made[0]? = some call := ⟨_, rfl⟩
  obtain ⟨later, isThird⟩ : ∃ call, made[2]? = some call := ⟨_, rfl⟩
  have asked : stored.Asked := by
    cases isFirst
    rfl
  have lasts : stored.LastsUntil (some 5) later := by
    cases isFirst
    cases isThird
    intro span isLifetime reading start stop
    cases isLifetime
    have atMost : reading ≤ 4 := stop
    change reading < 1 + 5
    omega
  refine ⟨noSecrets, by decide +kernel, ⟨_, rfl, ?_⟩, stored, later, isFirst, isThird, asked, lasts,
    ?_⟩
  · refine ((given 1 _ rfl).1 "2" rfl).2 ?_
    change ∀ label, (label, "L") ∈ [("vault", "K"), ("file", "L")] → label = "file"
    intro label member
    simpa using member
  · have returned : stored.outcome = .ok (some "1") := by
      cases isFirst
      rfl
    have same : stored.name = later.name := by
      cases isFirst
      cases isThird
      rfl
    have isVault : (resolvers stored.label).lifetime = some 5 := by
      cases isFirst
      rfl
    rw [← isVault] at lasts
    exact remembered 0 2 stored later "1" (by omega) isFirst isThird same asked returned lasts

/-- Two resolvers know different values of one secret. The second gives the value of the first and is
never asked for its own. -/
theorem calls_otherValue :
    let resolvers : String → CachedResolver Unit := fun label =>
      ofAnswers none fun _ => .ok (some (if label = "vault" then "1" else "2"))
    let world : World Unit := { host := () }
    let made := calls resolvers [("vault", "K"), ("file", "K")] (world.withJournal [])
    (∀ name, world.cachedSecret? name = none) ∧
      (((resolvers "file").inner "K").run world).1.toOption = some (some "2") ∧
      made.map (fun call => (call.label, call.value?)) =
        [("vault", some "1"), ("file", some "1")] ∧
      made.map (·.after.journal.timesAsked "file" "K") = [0, 0] := by
  intro resolvers world made
  exact ⟨fun _ => rfl, by decide +kernel, by decide +kernel, by decide +kernel⟩

end CachedResolver

end RequestChain
