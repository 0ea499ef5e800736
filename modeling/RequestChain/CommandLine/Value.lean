import RequestChain.Json.Reader
import RequestChain.Text.Blank

/-! # Values on the command line

A variable is given as a name and a value with an equals sign between them, and a number of seconds
as digits. What is wrong with such a text is told in a sentence about it.
-/

namespace RequestChain.CommandLine

/-- Why a text gives no variable a value. -/
inductive AssignmentError where
  | missingSign (text : String)
  | blankName (text : String)
  deriving DecidableEq, Repr

/-- The wording of an error. -/
def AssignmentError.message : AssignmentError → String
  | missingSign text => "expected KEY=VALUE, got '" ++ text ++ "'"
  | blankName text => "empty variable name in '" ++ text ++ "'"

/-- The name and the value on the two sides of the first equals sign. Blanks around the name do not
belong to it, blanks around the value do. -/
def parseAssignment (text : String) : Except AssignmentError (String × String) :=
  let name := Text.trim (text.toList.takeWhile (· ≠ '='))
  match text.toList.dropWhile (· ≠ '=') with
  | [] => .error (.missingSign text)
  | _ :: value =>
    if name.isEmpty then .error (.blankName text)
    else .ok (String.ofList name, String.ofList value)

/-- Why a text is no number of seconds. -/
inductive SecondsError where
  | empty
  | invalidDigit
  | tooLarge
  deriving DecidableEq, Repr

/-- The wording of an error. -/
def SecondsError.message : SecondsError → String
  | empty => "cannot parse integer from empty string"
  | invalidDigit => "invalid digit found in string"
  | tooLarge => "number too large to fit in target type"

/-- The number of all digits from those read already. The first character that is no digit, or that
takes the number beyond a 64-bit word, decides which error it is. -/
def readSeconds (known : Nat) : List Char → Except SecondsError Nat
  | [] => .ok known
  | c :: rest =>
    if !c.isDigit then .error .invalidDigit
    else
      let number := known * 10 + Json.digitValue c
      if Json.maxWord < number then .error .tooLarge else readSeconds number rest

/-- A number of seconds, possibly behind a plus sign, that fits a 64-bit word. -/
def parseSeconds (text : String) : Except SecondsError Nat :=
  match text.toList with
  | [] => .error .empty
  | ['+'] => .error .invalidDigit
  | '+' :: digits => readSeconds 0 digits
  | digits => readSeconds 0 digits

end RequestChain.CommandLine
