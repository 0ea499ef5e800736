/-! # What the program leaves behind

A program ends with a status and two texts: its output, and what it has to say about it.
-/

namespace RequestChain.CommandLine

/-- How a program ends. -/
inductive Status where
  | success
  | failure
  /-- The command line is at fault. -/
  | usage
  deriving DecidableEq, Repr, Inhabited

namespace Status

/-- The number of a status. -/
def code : Status → UInt8
  | success => 0
  | failure => 1
  | usage => 2

/-- The status of something that succeeded or not. -/
def ofSuccess (succeeded : Bool) : Status :=
  if succeeded then success else failure

end Status

/-- How a program ends, and what it prints. -/
structure Outcome where
  status : Status := .success
  output : String := ""
  errors : String := ""
  deriving DecidableEq, Repr, Inhabited

end RequestChain.CommandLine
