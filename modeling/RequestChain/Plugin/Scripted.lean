import RequestChain.Plugin.Secrets

/-! # Scripted collaborators

Plugins and a transport that answer from a description, for trials of a configuration without the
systems that it names. Every call is written into a journal before it is answered.
-/

namespace RequestChain.Scripted

/-- What scripted collaborators share. -/
structure Script where
  /-- One line for every call, in order. -/
  journal : List String := []
  /-- How often each counting source has answered. -/
  counts : OrderedMap Nat := {}
  /-- What the transport is still to answer. -/
  replies : List (Except Failure Response) := []

/-- What a source answers. -/
inductive Answer where
  | value (value : Json)
  /-- The arguments between brackets, as one string. -/
  | joined
  /-- The list of the arguments. -/
  | echoed
  /-- The number of the arguments. -/
  | argumentCount
  /-- How often the source has answered, this time included. -/
  | callCount
  | failure (failure : Failure)
  deriving Repr

/-- What a resolver of secrets answers. -/
inductive SecretAnswer where
  | values (values : OrderedMap String)
  | failure (failure : Failure)
  /-- Reads the environment of the process, and writes no journal. -/
  | environment (leading : String)
  deriving Repr

/-- A resolver of secrets, possibly behind the cache. -/
structure SecretScript where
  answer : SecretAnswer
  cached : Bool := false
  lifetime : Option Nat := none
  deriving Repr

/-- What a pre-request hook changes, part after part, before it fails if it is to fail. -/
structure RequestEdit where
  method : Option String := none
  url : Option String := none
  body : Option Json := none
  headers : OrderedMap String := {}
  removedHeaders : List String := []
  failure : Option Failure := none
  deriving Repr

/-- What a post-response hook changes, part after part, before it fails if it is to fail. -/
structure ResponseEdit where
  status : Option Nat := none
  statusText : Option String := none
  body : Option String := none
  headers : OrderedMap String := {}
  removedHeaders : List String := []
  failure : Option Failure := none
  deriving Repr

/-- The description of a plugin. -/
structure PluginScript where
  name : String
  variableAnswers : OrderedMap Answer := {}
  functionAnswers : OrderedMap Answer := {}
  secrets : List SecretScript := []
  requestEdits : List RequestEdit := []
  responseEdits : List ResponseEdit := []
  setupFailure : Option Failure := none
  deriving Repr

/-- Writes a line into the journal. -/
def note (line : String) : Action Script Unit :=
  .onHost <| .modify fun script => { script with journal := script.journal ++ [line] }

/-- Counts an answer of a source. -/
def count (source : String) : Action Script Nat :=
  .onHost fun script =>
    let answers := (script.counts.get? source).getD 0 + 1
    (.ok answers, { script with counts := script.counts.insert source answers })

/-- The answer of a source to its arguments. -/
def Answer.give (source : String) (arguments : List String) : Answer → Action Script Json
  | .value held => pure held
  | .joined => pure (.string ("[" ++ ",".intercalate arguments ++ "]"))
  | .echoed => pure (Json.ofStrings arguments)
  | .argumentCount => pure (Json.ofNat arguments.length)
  | .callCount => do return Json.ofNat (← count source)
  | .failure cause => Effect.fail cause

/-- A scripted variable. -/
def variableSource (plugin name : String) (answer : Answer) : Action Script Json := do
  let source := "var " ++ plugin ++ " " ++ name
  note source
  answer.give source []

/-- A scripted function. -/
def functionSource (plugin name : String) (answer : Answer) : FunctionSource Script :=
  fun arguments => do
    let source := "fn " ++ plugin ++ " " ++ name
    note (source ++ " " ++ (Json.ofStrings arguments).compact)
    answer.give source arguments

/-- The resolver in front of which a cache may stand. -/
def SecretAnswer.resolver (plugin : String) : SecretAnswer → SecretResolver Script
  | .environment leading => .environment leading
  | .values known => fun name => do
    note ("secret " ++ plugin ++ " " ++ name)
    return known.get? name
  | .failure cause => fun name => do
    note ("secret " ++ plugin ++ " " ++ name)
    Effect.fail cause

/-- A scripted resolver of secrets. -/
def SecretScript.resolver (plugin : String) (secret : SecretScript) : SecretResolver Script :=
  let inner := secret.answer.resolver plugin
  if secret.cached then .cached inner secret.lifetime else inner

/-- An effect on the world beside an exchange. -/
def besides {ρ α : Type} (action : Action Script α) : Effect (ρ × World Script) Failure α :=
  action.onPart Prod.snd fun world pair => (pair.1, world)

/-- Fails if there is a failure. -/
def failWhen {ω : Type} : Option Failure → Effect ω Failure Unit
  | some failure => Effect.fail failure
  | none => pure ()

/-- The headers of a message after an edit. -/
def editHeaders (headers additions : OrderedMap String) (removed : List String) :
    OrderedMap String :=
  removed.foldl OrderedMap.erase (headers.union additions)

/-- The request after an edit. -/
def RequestEdit.apply (edit : RequestEdit) (request : Request) : Request :=
  { method := edit.method.getD request.method
    url := edit.url.getD request.url
    headers := editHeaders request.headers edit.headers edit.removedHeaders
    body := edit.body.or request.body }

/-- The response after an edit. -/
def ResponseEdit.apply (edit : ResponseEdit) (response : Response) : Response :=
  { status := edit.status.getD response.status
    statusText := edit.statusText.getD response.statusText
    headers := editHeaders response.headers edit.headers edit.removedHeaders
    body := edit.body.getD response.body }

/-- A scripted pre-request hook. -/
def RequestEdit.hook (plugin : String) (edit : RequestEdit) :
    Effect (Request × World Script) Failure Unit := do
  let request ← Effect.query Prod.fst
  besides (note ("pre " ++ plugin ++ " " ++ request.method ++ " " ++ request.url))
  Effect.modify fun (request, world) => (edit.apply request, world)
  failWhen edit.failure

/-- A scripted post-response hook. -/
def ResponseEdit.hook (plugin : String) (edit : ResponseEdit) : PostResponseHook Script :=
  fun request => do
    let response ← Effect.query Prod.fst
    besides (note ("post " ++ plugin ++ " " ++ toString response.status ++ " " ++ request.url))
    Effect.modify fun (response, world) => (edit.apply response, world)
    failWhen edit.failure

/-- What a scripted plugin offers, in the order in which it is registered. -/
def PluginScript.registrations (script : PluginScript) : List (Registration Script) :=
  script.variableAnswers.entries.map (fun (name, answer) =>
    .variableSource name (variableSource script.name name answer)) ++
  script.functionAnswers.entries.map (fun (name, answer) =>
    .functionSource name (functionSource script.name name answer)) ++
  script.secrets.map (fun secret => .secretResolver (secret.resolver script.name)) ++
  script.requestEdits.map (fun edit => .preRequestHook (edit.hook script.name)) ++
  script.responseEdits.map fun edit => .postResponseHook (edit.hook script.name)

/-- The plugin of a description. -/
def PluginScript.plugin (script : PluginScript) : Plugin Script :=
  { name := script.name
    setup :=
      match script.setupFailure with
      | some failure => .error failure
      | none => .ok script.registrations }

/-- Answers every request with the next reply, as long as there is one. -/
def transport : Transport Script :=
  fun request => do
    note ("http " ++ request.method ++ " " ++ request.url)
    Action.onHost fun script =>
      match script.replies with
      | [] => (.error ⟨["no reply left"]⟩, script)
      | reply :: rest => (reply, { script with replies := rest })

end RequestChain.Scripted
