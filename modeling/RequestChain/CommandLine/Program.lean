import RequestChain.CommandLine.Listing
import RequestChain.CommandLine.Location
import RequestChain.CommandLine.Reading
import RequestChain.Config.Document
import RequestChain.Execution.Chain
import RequestChain.Plugin.Core
import RequestChain.Plugin.Secrets

/-! # The program

The program reads its command line, finds and loads the configuration, and does what it is asked.
A run prints its result as JSON, whether it succeeded or not.
-/

namespace RequestChain.CommandLine

variable {σ : Type}

/-- How long secrets from the environment are remembered, in milliseconds. -/
def secretLifetime : Nat := 300000

/-- Why nothing is run. -/
inductive RunError where
  | invalidCall (call : String)
  | registry (error : RegistryError)
  | unknownProfile (name : String)
  | unknownChain (name : String)
  deriving DecidableEq, Repr

/-- The wording of an error. -/
def RunError.message : RunError → String
  | invalidCall call => invalidCallMessage call
  | registry error => error.message
  | unknownProfile name => Context.unknownProfileMessage name
  | unknownChain name => unknownChainMessage name

/-- What sends the requests of a run: the core functions and the secrets of the environment can be
used in it. -/
def runExecutor (transport : Transport σ) (environment : OrderedMap String)
    (arguments : RunArguments) : Except RunError (Executor σ) := do
  let registry ← (Registry.ofPlugins
    [.core, .environmentSecrets environment (some secretLifetime)]).mapError .registry
  return { registry, transport, dryRun := arguments.dryRun }

/-- The context of a run: the environment, the given variables, and the profiles. -/
def runContext (config : Config) (environment : OrderedMap String) (arguments : RunArguments) :
    Except RunError Context :=
  let context : Context := { cli := .ofList arguments.assignments, env := environment }
  match context.applyProfiles config arguments.profiles with
  | (_, some name) => .error (.unknownProfile name)
  | (context, none) => .ok context

/-- Calls an endpoint. -/
def runCall (transport : Transport σ) (config : Config) (target : String)
    (arguments : RunArguments) (world : World σ) : Except RunError (StepResult × World σ) := do
  match parseCall? target with
  | none => .error (.invalidCall target)
  | some (api, endpoint) =>
    let executor ← runExecutor transport world.environment arguments
    let context ← runContext config world.environment arguments
    return executor.callEndpoint config context api endpoint world

/-- Runs a chain. -/
def runChain (transport : Transport σ) (config : Config) (name : String)
    (arguments : RunArguments) (world : World σ) : Except RunError (ChainResult × World σ) := do
  let executor ← runExecutor transport world.environment arguments
  let context ← runContext config world.environment arguments
  match executor.run? config context name world with
  | some outcome => return outcome
  | none => .error (.unknownChain name)

/-- The outcome of a run that has a result. -/
def Outcome.ofResult (succeeded : Bool) (result : Json) : Outcome :=
  { status := .ofSuccess succeeded, output := result.pretty ++ "\n" }

/-- Does what a command asks. -/
def perform (transport : Transport σ) (config : Config) (command : Command) (world : World σ) :
    Except RunError Outcome :=
  match command with
  | .call target arguments => do
    let (result, _) ← runCall transport config target arguments world
    return .ofResult result.success result.toJson
  | .chain name arguments => do
    let (result, _) ← runChain transport config name arguments world
    return .ofResult result.success result.toJson
  | .list => .ok { output := lines (listing config) }
  | .validate => .ok (validationReport config)

/-- Why the program does not get to do what it is asked. -/
inductive ProgramError where
  | noConfig (searched : List String)
  | load (error : Config.LoadError)
  | run (error : RunError)
  deriving DecidableEq, Repr

/-- The wording of an error. -/
def ProgramError.message : ProgramError → String
  | noConfig searched => noConfigMessage searched
  | load error => error.message
  | run error => error.message

/-- The outcome of a command line that leads to a command. -/
def invoke (transport : Transport σ) (files : Files) (invocation : Invocation)
    (world : World σ) : Except ProgramError Outcome := do
  let path ← (locateConfig files world.environment invocation.config).mapError .noConfig
  let config ← (Config.load path (files.octets? path)).mapError .load
  (perform transport config invocation.command world).mapError .run

/-- The outcome of a command line that leads to no command. -/
def Halt.outcome (halt : Halt) : Outcome :=
  if halt.isAnswer then { output := halt.text } else { status := .usage, errors := halt.text }

/-- The outcome of a command that is not carried out. -/
def ProgramError.outcome (error : ProgramError) : Outcome :=
  { status := .failure, errors := "Error: " ++ error.message ++ "\n" }

/-- The outcome of a command line. -/
def program (transport : Transport σ) (files : Files) (words : List String) (world : World σ) :
    Outcome :=
  match read words with
  | .error halt => halt.outcome
  | .ok invocation =>
    match invoke transport files invocation world with
    | .error error => error.outcome
    | .ok outcome => outcome

end RequestChain.CommandLine
