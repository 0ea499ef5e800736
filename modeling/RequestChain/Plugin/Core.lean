import RequestChain.Plugin.Basic
import RequestChain.Text.Case
import RequestChain.Time.Format

/-! # The core plugin

The time of day in several forms, upper and lower case, concatenation, and a default for blank
text.
-/

namespace RequestChain.Plugin.Core

variable {σ : Type}

/-- The only argument of a function. -/
def singleArgument (function : String) : List String → Action σ String
  | [argument] => pure argument
  | arguments => Action.failWith
      (function ++ "() expects exactly one argument, got " ++ toString arguments.length)

/-- The time of day in a format. -/
def now (arguments : List String) : Action σ Json := do
  let format ← singleArgument "now" arguments
  match ← Effect.query fun world => world.time.format? format with
  | some text => pure (.string text)
  | none => Action.failWith ("invalid time format '" ++ format ++ "'")

/-- The second argument in place of a blank first one. -/
def default : List String → Action σ Json
  | [value, fallback] => pure (.string (if Text.isBlankText value then fallback else value))
  | arguments => Action.failWith
      ("default() expects two arguments, got " ++ toString arguments.length)

/-- What the plugin offers. -/
def registrations : List (Registration σ) :=
  [.variableSource "timestamp"
      (Effect.query fun world => Json.ofNat world.time.seconds),
    .variableSource "isoTimestamp"
      (Effect.query fun world => .string (Time.isoTimestamp world.time)),
    .functionSource "now" now,
    .functionSource "upper" fun arguments => do
      return .string (Text.toUpper (← singleArgument "upper" arguments)),
    .functionSource "lower" fun arguments => do
      return .string (Text.toLower (← singleArgument "lower" arguments)),
    .functionSource "concat" fun arguments => pure (.string (String.join arguments)),
    .functionSource "default" default]

end RequestChain.Plugin.Core

/-- The core plugin. -/
def RequestChain.Plugin.core {σ : Type} : RequestChain.Plugin σ :=
  { name := "core", setup := .ok RequestChain.Plugin.Core.registrations }
