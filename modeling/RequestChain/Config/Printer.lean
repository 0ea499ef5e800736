import RequestChain.Config.Basic

/-! # The JSON form of a configuration

All parts are written, also the ones that were left out: an absent body, description or override is
null. Maps keep their order.
-/

namespace RequestChain

/-- A map as a JSON object in the order of the map. -/
def OrderedMap.toObject {α : Type} (value : α → Json) (map : OrderedMap α) : Json :=
  .object (map.entries.map fun (name, held) => (name, value held))

/-- The JSON form of a map of scalars. -/
def ScalarMap.toJson (map : ScalarMap) : Json :=
  map.toObject id

/-- The JSON form of an endpoint. -/
def Endpoint.toJson (endpoint : Endpoint) : Json :=
  .object [("method", .string endpoint.method), ("path", .string endpoint.path),
    ("headers", ScalarMap.toJson endpoint.headers), ("params", ScalarMap.toJson endpoint.params),
    ("body", endpoint.body.getD .null), ("variables", ScalarMap.toJson endpoint.vars)]

/-- The JSON form of an API. -/
def Api.toJson (api : Api) : Json :=
  .object [("baseUrl", .string api.baseUrl), ("headers", ScalarMap.toJson api.headers),
    ("params", ScalarMap.toJson api.params), ("variables", ScalarMap.toJson api.vars),
    ("endpoints", api.endpoints.toObject Endpoint.toJson)]

/-- The JSON form of what a step changes. -/
def Overrides.toJson (overrides : Overrides) : Json :=
  .object [("headers", ScalarMap.toJson overrides.headers),
    ("params", ScalarMap.toJson overrides.params),
    ("pathParams", ScalarMap.toJson overrides.pathParams),
    ("body", overrides.body.getD .null)]

/-- The JSON form of a step. -/
def Step.toJson (step : Step) : Json :=
  .object [("id", .string step.id), ("call", .string step.call),
    ("with", (step.overrides.map Overrides.toJson).getD .null)]

/-- The JSON form of a chain. -/
def Chain.toJson (chain : Chain) : Json :=
  .object [("description", (chain.description.map Json.string).getD .null),
    ("vars", ScalarMap.toJson chain.vars), ("steps", .array (chain.steps.map Step.toJson))]

/-- The JSON form of a configuration. -/
def Config.toJson (config : Config) : Json :=
  .object [("apis", config.apis.toObject Api.toJson),
    ("profiles", config.profiles.toObject ScalarMap.toJson),
    ("chains", config.chains.toObject Chain.toJson)]

end RequestChain
