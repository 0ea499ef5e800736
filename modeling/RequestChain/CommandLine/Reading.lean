import RequestChain.CommandLine.Basic

/-! # Reading command lines

The words before a command and the words behind it are read alike: options, which may stand
anywhere, and words that are something by themselves. A parameter has its value behind an equals
sign or in the next word; in the second case the value is only looked at when the word after it has
been understood. Behind two dashes no word is an option.

The configuration may be named before the command and behind it; the second place counts.
-/

namespace RequestChain.CommandLine

/-- The part of a command line that is read: the words of a command, or those before any command. -/
inductive Place where
  | program
  | command (name : CommandName)
  deriving DecidableEq, Repr, Inhabited

namespace Place

/-- What `help` explains at a place. -/
def topic : Place → Topic
  | program => .program
  | command name => .command name

/-- The parameters that can stand at a place. -/
def parameters : Place → List Parameter
  | program => [.config]
  | command name =>
    if name.hasTarget then [.config, .assignment, .profile, .timeout] else [.config]

/-- The switches that can stand at a place. -/
def switches : Place → List Switch
  | program => [.help, .version]
  | command name => if name.hasTarget then [.dryRun, .help] else [.help]

/-- The switch of a letter behind a single dash. -/
def shortSwitch? (place : Place) : Char → Option Switch
  | 'h' => some .help
  | 'V' => if place.switches.contains .version then some .version else none
  | _ => none

end Place

/-- What a word is. -/
inductive Item where
  /-- Something by itself. -/
  | plain (word : String)
  /-- Two dashes: no option comes behind them. -/
  | endOfOptions
  | parameter (parameter : Parameter) (value : Option String)
  | switch (switch : Switch) (value : Option String)
  /-- An option that is not known at this place. -/
  | unknown (option : String)
  deriving DecidableEq, Repr

namespace Item

/-- An option of that name, with what stands behind its equals sign. -/
def ofOption (place : Place) (name : String) (value : Option String) : Item :=
  match place.parameters.find? (·.word == name), place.switches.find? (·.word == name) with
  | some found, _ => .parameter found value
  | none, some found => .switch found value
  | none, none => .unknown ("--" ++ name)

/-- A word of a command line. A single dash is nothing special. -/
def ofWord (place : Place) (word : String) : Item :=
  match word.toList with
  | ['-', '-'] => .endOfOptions
  | '-' :: '-' :: option =>
    let name := String.ofList (option.takeWhile (· ≠ '='))
    match option.dropWhile (· ≠ '=') with
    | [] => ofOption place name none
    | _ :: value => ofOption place name (some (String.ofList value))
  | '-' :: letter :: _ =>
    match place.shortSwitch? letter with
    | some found => .switch found none
    | none => .unknown (String.ofList ['-', letter])
  | _ => .plain word

end Item

/-- What the options and the target read so far amount to. -/
structure Draft where
  config : Option String := none
  assignments : List (String × String) := []
  profiles : List String := []
  dryRun : Bool := false
  timeout : Option Nat := none
  target : Option String := none
  /-- The parameter read last, and the word behind it, if it has not been looked at yet. -/
  pending : Option (Parameter × Option String) := none
  deriving DecidableEq, Repr, Inhabited

namespace Draft

/-- A draft with the value of a parameter. -/
def setParameter (draft : Draft) (parameter : Parameter) (value : String) :
    Except UsageError Draft :=
  match parameter with
  | .config =>
    if draft.config.isSome then .error (.repeatedParameter .config)
    else if value.isEmpty then .error (.missingValue .config)
    else .ok { draft with config := some value }
  | .assignment =>
    match parseAssignment value with
    | .error error => .error (.invalidAssignment value error)
    | .ok assignment => .ok { draft with assignments := draft.assignments ++ [assignment] }
  | .profile => .ok { draft with profiles := draft.profiles ++ [value] }
  | .timeout =>
    if draft.timeout.isSome then .error (.repeatedParameter .timeout)
    else
      match parseSeconds value with
      | .error error => .error (.invalidTimeout value error)
      | .ok seconds => .ok { draft with timeout := some seconds }

/-- The parameter read last gets its value, if there is one that has not been looked at. -/
def settle (draft : Draft) : Except UsageError Draft :=
  match draft.pending with
  | none => .ok draft
  | some (parameter, none) => .error (.missingValue parameter)
  | some (parameter, some value) => { draft with pending := none }.setParameter parameter value

/-- The parameter whose value is the next word, unless that is an option. -/
def awaiting? (draft : Draft) : Option Parameter :=
  match draft.pending with
  | some (parameter, none) => some parameter
  | _ => none

/-- A draft with a parameter. -/
def addParameter (draft : Draft) (parameter : Parameter) (value : Option String) :
    Except UsageError Draft := do
  let settled ← draft.settle
  match value with
  | some value => settled.setParameter parameter value
  | none => return { settled with pending := some (parameter, none) }

/-- A draft with a switch. -/
def addSwitch (place : Place) (draft : Draft) (switch : Switch) : Except Halt Draft := do
  let settled ← draft.settle.mapError .fault
  match switch with
  | .dryRun =>
    if settled.dryRun then .error (.fault .repeatedDryRun)
    else return { settled with dryRun := true }
  | .help => .error (.help place.topic)
  | .version => .error .version

/-- A draft with a word that is neither an option nor the value of one. -/
def addTarget (name : CommandName) (draft : Draft) (word : String) : Except UsageError Draft :=
  if name.hasTarget && draft.target.isNone then do
    let settled ← draft.settle
    return { settled with target := some word }
  else .error (.unexpectedArgument word)

/-- The arguments of a run. -/
def runArguments (draft : Draft) : RunArguments :=
  { assignments := draft.assignments
    profiles := draft.profiles
    dryRun := draft.dryRun
    timeout := draft.timeout.getD defaultTimeout }

end Draft

/-- The words of a command behind two dashes. -/
def readTargets (name : CommandName) (draft : Draft) (words : List String) :
    Except UsageError Draft :=
  words.foldlM (Draft.addTarget name) draft

/-- The words of a command. -/
def readCommandWords (name : CommandName) (draft : Draft) : List String → Except Halt Draft
  | [] => .ok draft
  | word :: rest =>
    match Item.ofWord (.command name) word, draft.awaiting? with
    | .endOfOptions, _ => (readTargets name draft rest).mapError .fault
    | .unknown option, _ => .error (.fault (.unexpectedArgument option))
    | .switch switch (some value), _ => .error (.fault (.unexpectedValue switch value))
    | .switch switch none, _ => do
      readCommandWords name (← draft.addSwitch (.command name) switch) rest
    | .parameter parameter value, _ => do
      readCommandWords name (← (draft.addParameter parameter value).mapError .fault) rest
    | .plain word, some parameter =>
      readCommandWords name { draft with pending := some (parameter, some word) } rest
    | .plain word, none => do
      readCommandWords name (← (draft.addTarget name word).mapError .fault) rest

/-- The command that a draft amounts to. -/
def Draft.command (name : CommandName) (draft : Draft) : Except UsageError Command :=
  match name, draft.target with
  | .call, some target => .ok (.call target draft.runArguments)
  | .chain, some target => .ok (.chain target draft.runArguments)
  | .call, none | .chain, none => .error (.missingTarget name)
  | .list, _ => .ok .list
  | .validate, _ => .ok .validate

/-- A command from the words behind its name. -/
def readCommand (name : CommandName) (words : List String) : Except Halt Invocation := do
  let draft ← readCommandWords name {} words
  let settled ← draft.settle.mapError .fault
  return { config := settled.config, command := ← (settled.command name).mapError .fault }

/-- What the words behind `help` ask about. -/
def readTopic : List String → Halt
  | [] => .help .program
  | word :: rest =>
    match (CommandName.ofWord? word).map Topic.command,
        if word == "help" then some Topic.help else none with
    | some topic, _ | none, some topic =>
      match rest with
      | [] => .help topic
      | further :: _ => .fault (.unknownCommand further)
    | none, none => .fault (.unknownCommand word)

/-- What the end of a command line without a command means. -/
def Draft.haltAtEnd (draft : Draft) : Halt :=
  match draft.settle with
  | .error error => .fault error
  | .ok settled => if settled.config.isSome then .fault .missingCommand else .nothingAsked

/-- What two dashes before any command mean: the word behind them is no command. -/
def haltBehindDashes (draft : Draft) : List String → Halt
  | [] => draft.haltAtEnd
  | word :: _ =>
    if word == "help" || (CommandName.ofWord? word).isSome then .fault (.unexpectedArgument word)
    else .fault (.unknownCommand word)

/-- The words of a command line. -/
def readWords (draft : Draft) : List String → Except Halt Invocation
  | [] => .error draft.haltAtEnd
  | word :: rest =>
    match Item.ofWord .program word, draft.awaiting? with
    | .endOfOptions, _ => .error (haltBehindDashes draft rest)
    | .unknown option, _ => .error (.fault (.unexpectedArgument option))
    | .switch switch (some value), _ => .error (.fault (.unexpectedValue switch value))
    | .switch switch none, _ => do
      readWords (← draft.addSwitch .program switch) rest
    | .parameter parameter value, _ => do
      readWords (← (draft.addParameter parameter value).mapError .fault) rest
    | .plain word, some parameter =>
      readWords { draft with pending := some (parameter, some word) } rest
    | .plain word, none =>
      match CommandName.ofWord? word with
      | some name => do
        let invocation ← readCommand name rest
        let settled ← draft.settle.mapError .fault
        return { invocation with config := invocation.config.or settled.config }
      | none =>
        if word == "help" then .error (readTopic rest)
        else .error (.fault (.unknownCommand word))

/-- What a command line asks for. -/
def read (words : List String) : Except Halt Invocation :=
  readWords {} words

end RequestChain.CommandLine
