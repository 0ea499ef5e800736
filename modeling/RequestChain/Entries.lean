import RequestChain.Resolve

/-! # Headers and parameters

Each entry of a map is a template. An entry that consists of optional references without values is
left out; an entry whose value is null is absent.
-/

namespace RequestChain

/-- An entry is kept unless all its optional references are undefined and its text is blank. -/
def shouldInclude (rendered : Rendered) : Bool :=
  rendered.optionalReferences == 0 || 0 < rendered.definedOptional ||
    !Text.isBlankText rendered.text

variable {σ : Type} (registry : Registry σ) (context : Context)

/-- The entries rendered in order, those left out that `keep` refuses. -/
def resolveKept (keep : Rendered → Bool) :
    List (String × Json) → Resolving σ (List (String × String))
  | [] => pure []
  | (name, value) :: rest =>
    match renderScalar value with
    | none => resolveKept keep rest
    | some template => do
      let rendered ← render registry context template
      let others ← resolveKept keep rest
      return if keep rendered then (name, rendered.text) :: others else others

/-- The entries of a map, those left out that have only undefined optional references. -/
def resolveEntriesWithOptional (entries : ScalarMap) : Resolving σ (OrderedMap String) := do
  return .ofList (← resolveKept registry context shouldInclude entries.entries)

/-- The entries of a map. -/
def resolveEntries (entries : ScalarMap) : Resolving σ (OrderedMap String) := do
  return .ofList (← resolveKept registry context (fun _ => true) entries.entries)

end RequestChain
