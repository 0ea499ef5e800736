import RequestChain.Template.Basic
import RequestChain.Template.Scan
import RequestChain.Text.Blank
import RequestChain.Text.Digit

/-! # Reading templates

The inner text of a placeholder is read as a reference. The arguments of a call are templates
again, in texts shorter than the one they stand in, so a reader of shorter texts is all that the
reader of a reference needs. `Template.parse` ties the knot with a bound that the length of the
text pays for.
-/

namespace RequestChain.Template

open Text

/-- The text behind a given beginning. -/
def dropPrefix? : List Char → List Char → Option (List Char)
  | [], text => some text
  | _ :: _, [] => none
  | c :: rest, d :: text => if c = d then dropPrefix? rest text else none

/-- The text in front of a given last character. -/
def dropLast? (last : Char) (text : List Char) : Option (List Char) :=
  if text.getLast? = some last then some text.dropLast else none

/-- Characters that no name holds: blanks, parentheses, quotation marks, braces and commas. -/
def isNameChar (c : Char) : Bool :=
  !isBlank c && !(['(', ')', '"', '\'', '{', '}', ','].contains c)

/-- A name of a variable. -/
def isName (text : List Char) : Bool :=
  !text.isEmpty && text.all isNameChar

/-- The characters of identifiers. -/
def isIdentifierChar (c : Char) : Bool :=
  c.isAlphanum || c == '_' || c == '-'

/-- A name of a plugin, of one of its members, or of a step. -/
def isIdentifier (text : List Char) : Bool :=
  !text.isEmpty && text.all isIdentifierChar

/-- The text behind an optional sign. -/
def dropSign : List Char → List Char
  | '+' :: rest | '-' :: rest => rest
  | text => text

/-- Nothing, or an exponent with at least one digit. -/
def isExponent : List Char → Bool
  | [] => true
  | mark :: rest =>
    (mark == 'e' || mark == 'E') && !(dropSign rest).isEmpty && (dropSign rest).all isDecimalDigit

/-- A decimal number: a sign, digits with a point among them or in front of them or behind them,
and an exponent, where only the digits are required. -/
def isNumber (text : List Char) : Bool :=
  let unsigned := dropSign text
  let whole := unsigned.takeWhile isDecimalDigit
  match unsigned.dropWhile isDecimalDigit with
  | '.' :: rest =>
    (!whole.isEmpty || !(rest.takeWhile isDecimalDigit).isEmpty) &&
      isExponent (rest.dropWhile isDecimalDigit)
  | rest => !whole.isEmpty && isExponent rest

/-- The text with each escaped backslash or quotation mark in place of its escape. -/
def unescape : List Char → List Char
  | '\\' :: '\\' :: rest => '\\' :: unescape rest
  | '\\' :: '"' :: rest => '"' :: unescape rest
  | '\\' :: '\'' :: rest => '\'' :: unescape rest
  | c :: rest => c :: unescape rest
  | [] => []

/-- Whether the character is a quotation mark. -/
def isQuote (c : Char) : Bool :=
  c == '"' || c == '\''

/-- The text between two equal quotation marks. -/
def unquote? : List Char → Option (List Char)
  | first :: rest => if isQuote first then dropLast? first rest else none
  | [] => none

/-- A text of several characters in double braces. -/
def isBraced (text : List Char) : Bool :=
  (dropPrefix? ['{', '{'] text).isSome && (dropPrefix? ['}', '}'] text.reverse).isSome

/-- The result of reading a template. -/
abbrev Parsed (α : Type) := Except TemplateError α

/-- One argument of a call in the reference `body`: a text in quotes, a template in braces, or a
number. -/
def parseArgument (parse : List Char → Parsed Template) (body argument : List Char) :
    Parsed Template :=
  if argument.isEmpty then .error (.malformed (String.ofList body) .emptyArgument)
  else
    match unquote? argument with
    | some content => parse (unescape content)
    | none =>
      if isBraced argument then parse argument
      else if isNumber argument then .ok (literal (String.ofList argument))
      else .error (.malformed (String.ofList body) (.unknownArgument (String.ofList argument)))

/-- The arguments of a call; blanks alone are no argument. -/
def parseArguments (parse : List Char → Parsed Template) (body source : List Char) :
    Parsed (List Template) :=
  if source.all isBlank then .ok []
  else
    match splitArguments 0 0 none source with
    | none => .error (.malformed (String.ofList body) .unterminatedText)
    | some arguments => arguments.mapM fun argument => parseArgument parse body (trim argument)

/-- A plugin's name, a point, and a member or a call. -/
def parsePlugin (parse : List Char → Parsed Template) (body rest : List Char) : Parsed Target :=
  let fail cause := Except.error (.malformed (String.ofList body) cause)
  let plugin := rest.takeWhile (· ≠ '.')
  match rest.dropWhile (· ≠ '.') with
  | [] => fail .pluginShape
  | _ :: member =>
    if !isIdentifier plugin then fail .pluginName
    else
      match member.dropWhile (· ≠ '(') with
      | [] =>
        if isIdentifier member then
          .ok (.pluginVariable (String.ofList plugin) (String.ofList member))
        else fail .pluginMember
      | _ :: call =>
        let function := trim (member.takeWhile (· ≠ '('))
        if !isIdentifier function then fail .pluginFunction
        else
          match dropLast? ')' call with
          | none => fail .unclosedCall
          | some source => do
            let arguments ← parseArguments parse body source
            .ok (.pluginCall (String.ofList plugin) (String.ofList function) arguments)

/-- A segment that has been collected, unless it is empty. -/
def finished (segment : List Char) : List (List Char) :=
  if segment.isEmpty then [] else [segment]

/-- What an index holds: blanks at its ends do not count, and quotation marks inside them neither.
-/
def indexText (inner : List Char) : List Char :=
  trimLeft isQuote (trimRight isQuote (trim inner))

/-- The segments of a path: texts between points, and indices in brackets. `current` is what has
been collected, inside brackets or outside. Nothing when a bracket stays open. -/
def splitPath (inside : Bool) (current : List Char) : List Char → Option (List (List Char))
  | [] => if inside then none else some (finished current)
  | c :: rest =>
    if inside then
      if c = ']' then (splitPath false [] rest).map (indexText current :: ·)
      else splitPath true (current ++ [c]) rest
    else if c = '.' then (splitPath false [] rest).map (finished current ++ ·)
    else if c = '[' then (splitPath true [] rest).map (finished current ++ ·)
    else splitPath false (current ++ [c]) rest

/-- The name of a step and a path. -/
def parseStep (body rest : List Char) : Parsed Target :=
  let stepId := rest.takeWhile fun c => c ≠ '.' && c ≠ '['
  if !isIdentifier stepId then .error (.malformed (String.ofList body) .stepId)
  else
    match splitPath false [] (rest.dropWhile fun c => c ≠ '.' && c ≠ '[') with
    | none => .error (.malformed (String.ofList body) .unterminatedIndex)
    | some path => .ok (.step (String.ofList stepId) (path.map String.ofList))

/-- The scope that a reference names, and the text behind it. -/
def scoped? (body : List Char) : Option (Scope × List Char) :=
  Scope.all.findSome? fun scope =>
    (dropPrefix? scope.qualifier.toList body).map fun name => (scope, name)

/-- What a reference refers to. -/
def parseTarget (parse : List Char → Parsed Template) (body : List Char) : Parsed Target :=
  match dropPrefix? "plugins.".toList body with
  | some rest => parsePlugin parse body rest
  | none =>
    match dropPrefix? "steps.".toList body with
    | some rest => parseStep body rest
    | none =>
      match scoped? body with
      | some (scope, name) =>
        if isName name then .ok (.scoped scope (String.ofList name))
        else .error (.malformed (String.ofList body) (.scopedName scope))
      | none =>
        if isName body then .ok (.variable (String.ofList body))
        else .error (.malformed (String.ofList body) .variableName)

/-- The text of a reference and whether it ends in the optional mark. -/
def splitOptional (inner : List Char) : List Char × Bool :=
  match dropLast? '?' (trim inner) with
  | some body => (trimEnd body, true)
  | none => (trim inner, false)

/-- The inner text of a placeholder as a reference. -/
def parseReference (parse : List Char → Parsed Template) (inner : List Char) :
    Parsed Reference :=
  let (body, optional) := splitOptional inner
  if body.isEmpty then .error .emptyReference
  else do
    let target ← parseTarget parse body
    .ok (.mk (String.ofList body) optional target)

/-- A piece as a segment. -/
def parsePiece (parse : List Char → Parsed Template) : Piece → Parsed Segment
  | .literal text => .ok (.literal (String.ofList text))
  | .placeholder inner => do
    let reference ← parseReference parse inner
    .ok (.placeholder reference)

/-- A text shorter than the bound as a template. -/
def parseWithin : Nat → List Char → Parsed Template
  | 0, _ => .ok []
  | bound + 1, source => (pieces source).mapM (parsePiece (parseWithin bound))

/-- A list of characters as a template. -/
def parseChars (source : List Char) : Parsed Template :=
  parseWithin (source.length + 1) source

/-- A text as a template. -/
def parse (source : String) : Parsed Template :=
  parseChars source.toList

/-- Whether a text can hold placeholders at all. -/
def containsPlaceholder (text : String) : Bool :=
  containsBraces text.toList

end RequestChain.Template
