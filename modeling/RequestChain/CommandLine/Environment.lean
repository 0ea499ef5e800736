import RequestChain.OrderedMap
import RequestChain.Text.Utf8

/-! # The environment of a process

The system hands the variables of a process over in one row of octets, each as a name, an equals
sign and a value, with a zero octet at its end.
-/

namespace RequestChain.CommandLine

/-- The name and the value of a variable; without an equals sign behind a name there is none. -/
def parseVariable? (text : List Char) : Option (String × String) :=
  match text with
  | [] => none
  | first :: rest =>
    match rest.dropWhile (· ≠ '=') with
    | [] => none
    | _ :: value => some (String.ofList (first :: rest.takeWhile (· ≠ '=')), String.ofList value)

/-- The variables of a process. -/
def parseEnvironment (octets : List UInt8) : OrderedMap String :=
  .ofList ((octets.splitOn 0).filterMap (parseVariable? ∘ Text.utf8Decode))

end RequestChain.CommandLine
