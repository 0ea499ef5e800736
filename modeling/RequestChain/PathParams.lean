import RequestChain.Resolve

/-! # Path parameters

A path parameter takes the place of every placeholder of its name in a URL template, literally.
While the rest of the template is resolved, tokens without braces stand in for the values, so that
no value is resolved a second time.
-/

namespace RequestChain.PathParams

open Template Text

/-- Tries to match behind as many blanks as possible, then behind fewer. -/
def skipBlanksThen (next : List Char → Option (List Char)) : List Char → Option (List Char)
  | [] => next []
  | c :: rest => (if isBlank c then skipBlanksThen next rest else none).or (next (c :: rest))

/-- The text behind a placeholder of that name, blanks around the name allowed. -/
def matchPlaceholder? (name : List Char) (text : List Char) : Option (List Char) :=
  (dropPrefix? ['{', '{'] text).bind <|
    skipBlanksThen fun text =>
      (dropPrefix? name text).bind (skipBlanksThen (dropPrefix? ['}', '}']))

/-- The text with `value` in place of every match, from left to right. A match gives the text behind
it. -/
def replaceMatches (match? : List Char → Option (List Char)) (value : List Char) :
    List Char → List Char
  | [] => []
  | c :: rest =>
    match match? (c :: rest) with
    | some behind =>
      if behind.length ≤ rest.length then value ++ replaceMatches match? value behind
      else c :: replaceMatches match? value rest
    | none => c :: replaceMatches match? value rest
  termination_by text => text.length
  decreasing_by all_goals simp <;> omega

/-- A parameter in place of its placeholders. -/
def applyOne (template : List Char) (param : String × String) : List Char :=
  replaceMatches (matchPlaceholder? param.1.toList) param.2.toList template

/-- Each parameter in turn in place of its placeholders. -/
def apply (template : String) (params : OrderedMap String) : String :=
  String.ofList (params.entries.foldl applyOne template.toList)

/-- What stands in for the parameter of that index. -/
def token (index : Nat) : String :=
  "\x01path-param-" ++ toString index ++ "\x01"

/-- The parameters with tokens as their values. -/
def tokens (params : OrderedMap String) : OrderedMap String :=
  .ofList (params.keys.zipIdx.map fun (name, index) => (name, token index))

/-- A text with every occurrence of another one replaced. -/
def replaceText (old new : String) (text : List Char) : List Char :=
  replaceMatches (dropPrefix? old.toList) new.toList text

/-- The values in place of their tokens. -/
def unmask (params : OrderedMap String) (text : String) : String :=
  String.ofList <| params.values.zipIdx.foldl
    (fun text (value, index) => replaceText (token index) value text) text.toList

/-- A URL template resolved, with the parameters in place of their placeholders. -/
def resolveWith {σ : Type} (registry : Registry σ) (context : Context) (template : String)
    (params : OrderedMap String) : Resolving σ String :=
  if params.isEmpty then resolve registry context template
  else do
    let resolved ← resolve registry context (apply template (tokens params))
    return unmask params resolved

end RequestChain.PathParams
