import RequestChain.Plugin.Basic

/-! # Secrets

Secrets from the environment of the process, and a resolver that remembers in the cache what
another one found. What was not found is not remembered.
-/

namespace RequestChain

/-- The environment variable that holds the prefix of secrets. -/
def secretPrefixVariable : String := "RELAY_SECRET_PREFIX"

namespace SecretResolver

variable {σ : Type}

/-- The environment variable that bears the prefix and the name of the secret. -/
def environment (leading : String) : SecretResolver σ :=
  fun name => Effect.query fun world => world.environment.get? (leading ++ name)

/-- The key of a secret in the cache. -/
def cacheKey (name : String) : String :=
  "secret:" ++ name

/-- Asks another resolver only for what the cache does not hold, and stores what it finds. -/
def cached (inner : SecretResolver σ) (lifetime : Option Nat) : SecretResolver σ :=
  fun name => do
    match ← Action.cached (cacheKey name) with
    | some value => pure (some value)
    | none =>
      match ← inner name with
      | some value => do
        Action.store (cacheKey name) value lifetime
        pure (some value)
      | none => pure none

variable {inner : SecretResolver σ} {name : String} {world after : World σ}

theorem run_cached_of_hit {value : String}
    (hit : (Action.cached (cacheKey name)).run world = (.ok (some value), after))
    (lifetime : Option Nat) :
    (inner.cached lifetime name).run world = (.ok (some value), after) :=
  Effect.run_bind_of_ok hit _

/-- Without an entry the other resolver is asked, and its answer is stored if there is one. -/
theorem run_cached_of_miss
    (miss : (Action.cached (cacheKey name)).run world = (.ok none, after))
    (lifetime : Option Nat) :
    (inner.cached lifetime name).run world =
      match (inner name).run after with
      | (.ok (some value), last) =>
        (.ok (some value), ((Action.store (cacheKey name) value lifetime).run last).2)
      | ended => ended := by
  refine (Effect.run_bind_of_ok miss _).trans ?_
  rcases asked : (inner name).run after with ⟨failure | value?, last⟩
  · exact Effect.run_bind_of_error asked _
  · refine (Effect.run_bind_of_ok asked _).trans ?_
    cases value? with
    | none => rfl
    | some value => rfl

end SecretResolver

/-- The plugin of secrets from the environment. The prefix is the one that the environment names
when the plugin is made. -/
def Plugin.environmentSecrets {σ : Type} (environment : OrderedMap String)
    (lifetime : Option Nat) : Plugin σ :=
  let leading := (environment.get? secretPrefixVariable).getD ""
  { name := "env-secrets"
    setup := .ok [.secretResolver (.cached (.environment leading) lifetime)] }

end RequestChain
