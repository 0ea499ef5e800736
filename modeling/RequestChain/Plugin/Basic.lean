import RequestChain.Effect
import RequestChain.Exchange
import RequestChain.Plugin.Cache
import RequestChain.Time.Calendar

/-! # Plugins

A plugin has a name and registers what it offers: variables, functions, resolvers of secrets, and
hooks that see every request before it is sent and every response that comes back. What it offers
are effects in a world that all plugins share: a cache with its clock, the environment of the
process, the time of day, and a state `σ` of their own.
-/

namespace RequestChain

/-- A failure of a collaborator, its causes from the outermost to the root. -/
structure Failure where
  causes : List String
  deriving DecidableEq, Repr, Inhabited

/-- The causes in a row. -/
def Failure.message (failure : Failure) : String :=
  ": ".intercalate failure.causes

/-- What collaborators act in. -/
structure World (σ : Type) where
  host : σ
  cache : Cache := {}
  clock : Clock := ⟨fun _ => 0, 0⟩
  /-- The environment of the process. -/
  environment : OrderedMap String := .empty
  /-- The time of day. -/
  time : Time.Instant := ⟨0, 0⟩

/-- An effect of a collaborator. -/
abbrev Action (σ α : Type) := Effect (World σ) Failure α

/-- A source of a value without arguments. -/
abbrev VariableSource (σ : Type) := Action σ Json

/-- A source of a value with arguments, which arrive resolved. -/
abbrev FunctionSource (σ : Type) := List String → Action σ Json

/-- Finds the text of a secret, or leaves it to the next resolver. -/
abbrev SecretResolver (σ : Type) := String → Action σ (Option String)

/-- Changes a request before it is sent. What it changed before a failure stays changed. -/
abbrev PreRequestHook (σ : Type) := Effect (Request × World σ) Failure Unit

/-- Changes the response to a request. What it changed before a failure stays changed. -/
abbrev PostResponseHook (σ : Type) := Request → Effect (Response × World σ) Failure Unit

/-- Sends a request. Every response is an answer, whatever its status. -/
abbrev Transport (σ : Type) := Request → Action σ Response

/-- The transport that sends nothing. -/
def Transport.noop {σ : Type} : Transport σ :=
  fun _ => pure Response.dryRun

/-- Something that a plugin offers. -/
inductive Registration (σ : Type) where
  | variableSource (name : String) (source : VariableSource σ)
  | functionSource (name : String) (source : FunctionSource σ)
  | secretResolver (resolver : SecretResolver σ)
  | preRequestHook (hook : PreRequestHook σ)
  | postResponseHook (hook : PostResponseHook σ)

/-- A named list of registrations, unless the plugin cannot be set up. -/
structure Plugin (σ : Type) where
  name : String
  setup : Except Failure (List (Registration σ))

namespace Action

variable {σ α : Type}

/-- A failure with a single cause. -/
def failWith (cause : String) : Action σ α :=
  Effect.fail ⟨[cause]⟩

/-- The present instant. -/
def readClock : Action σ Nat :=
  fun world =>
    let (now, clock) := world.clock.read
    (.ok now, { world with clock })

/-- An effect on the state of the collaborators. -/
def onHost (effect : Effect σ Failure α) : Action σ α :=
  effect.onPart World.host fun host world => { world with host }

/-- The cached text under a key. -/
def cached (key : String) : Action σ (Option String) := do
  let now ← readClock
  fun world =>
    let (found, cache) := world.cache.get now key
    (.ok found, { world with cache })

/-- Stores a text in the cache. -/
def store (key value : String) (lifetime : Option Nat) : Action σ Unit := do
  let now ← readClock
  Effect.modify fun world => { world with cache := world.cache.set now key value lifetime }

/-- Removes a key from the cache. -/
def forget (key : String) : Action σ Unit :=
  Effect.modify fun world => { world with cache := world.cache.delete key }

theorem run_cached (key : String) (world : World σ) :
    (cached key).run world =
      (.ok (world.cache.get world.clock.read.1 key).1,
        { world with
          clock := world.clock.read.2
          cache := (world.cache.get world.clock.read.1 key).2 }) := rfl

theorem run_store (key value : String) (lifetime : Option Nat) (world : World σ) :
    (store key value lifetime).run world =
      (.ok (), { world with
        clock := world.clock.read.2
        cache := world.cache.set world.clock.read.1 key value lifetime }) := rfl

end Action

end RequestChain
