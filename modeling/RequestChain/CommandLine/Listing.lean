import RequestChain.Assembly
import RequestChain.CommandLine.Outcome
import RequestChain.Config.Validation

/-! # Reports about a configuration

What a configuration offers, a line for each API, endpoint and chain, and what is wrong with it, a
line for each problem.
-/

namespace RequestChain.CommandLine

/-- Texts as lines. -/
def lines (texts : List String) : String :=
  String.join (texts.map (· ++ "\n"))

/-- The lines about an API. -/
def apiLines (name : String) (api : Api) : List String :=
  (name ++ " (" ++ api.baseUrl ++ ")") ::
    api.endpoints.entries.map fun (endpointName, endpoint) =>
      "  " ++ name ++ "." ++ endpointName ++ "  " ++ asciiUpper endpoint.method ++ " " ++
        endpoint.path

/-- The line about a chain. -/
def chainLine (name : String) (chain : Chain) : String :=
  let description := match chain.description with
    | some description => " - " ++ description
    | none => ""
  "  " ++ name ++ " (" ++ toString chain.steps.length ++ " steps)" ++ description

/-- The lines about a configuration: its APIs, the names of its profiles, and its chains. -/
def listing (config : Config) : List String :=
  let profiles :=
    if config.profiles.entries.isEmpty then []
    else ["", "profiles: " ++ ", ".intercalate config.profiles.keys]
  let chains :=
    if config.chains.entries.isEmpty then []
    else
      ["", "chains:"] ++ config.chains.entries.map fun (name, chain) => chainLine name chain
  config.apis.entries.flatMap (fun (name, api) => apiLines name api) ++ profiles ++ chains

/-- What is printed about the problems of a configuration. -/
def validationReport (config : Config) : Outcome :=
  match config.problems with
  | [] => { output := lines ["configuration is valid"] }
  | problems => { status := .failure, errors := lines (problems.map Problem.message) }

end RequestChain.CommandLine
