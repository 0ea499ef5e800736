import RequestChain.Template.Parser

/-! # Writing templates

The source text of a template. Double braces in a literal are escaped, arguments of calls are
written in quotation marks with their own source inside, and the segments of a path stand behind
points or, if they hold characters with a meaning, in brackets. `source` writes what
`Template.parse` reads, up to the texts of references, which a reader takes from its own source.
-/

namespace RequestChain.Template

open Text

/-- A literal text, with a backslash before every two opening braces. -/
def escapeBraces : List Char → List Char
  | '{' :: '{' :: rest => '\\' :: '{' :: '{' :: escapeBraces rest
  | c :: rest => c :: escapeBraces rest
  | [] => []

/-- A text with a backslash before every backslash and every quotation mark. -/
def escapeQuotes : List Char → List Char
  | [] => []
  | c :: rest =>
    if c = '\\' ∨ c = '"' then '\\' :: c :: escapeQuotes rest else c :: escapeQuotes rest

/-- A text in quotation marks. -/
def quoted (text : List Char) : List Char :=
  '"' :: escapeQuotes text ++ ['"']

/-- Characters that mean nothing in a path. -/
def isPlainPathChar (c : Char) : Bool :=
  !isBlank c && !(['.', '[', ']', '"', '\'', '{', '}', '?'].contains c)

/-- The source of a segment of a path. -/
def pathSegmentSource (segment : List Char) : List Char :=
  if !segment.isEmpty && segment.all isPlainPathChar then '.' :: segment
  else '[' :: '"' :: segment ++ ['"', ']']

mutual

/-- The source of a segment. -/
def segmentSource : Segment → List Char
  | .literal text => escapeBraces text.toList
  | .placeholder reference => '{' :: '{' :: referenceSource reference ++ ['}', '}']

/-- The source of a reference. -/
def referenceSource : Reference → List Char
  | .mk _ optional target => targetSource target ++ if optional then ['?'] else []

/-- The source of what a reference refers to. -/
def targetSource : Target → List Char
  | .variable name => name.toList
  | .scoped scope name => scope.qualifier.toList ++ name.toList
  | .pluginVariable plugin member => "plugins.".toList ++ plugin.toList ++ '.' :: member.toList
  | .pluginCall plugin function arguments =>
    "plugins.".toList ++ plugin.toList ++ '.' :: function.toList ++
      '(' :: List.intercalate [',', ' '] (argumentSources arguments) ++ [')']
  | .step id path =>
    "steps.".toList ++ id.toList ++ path.flatMap fun segment => pathSegmentSource segment.toList

/-- The sources of arguments. -/
def argumentSources : List (List Segment) → List (List Char)
  | [] => []
  | argument :: rest => quoted (segmentsSource argument) :: argumentSources rest

/-- The source of segments in a row. -/
def segmentsSource : List Segment → List Char
  | [] => []
  | segment :: rest => segmentSource segment ++ segmentsSource rest

end

theorem targetSource_variable (name : String) : targetSource (.variable name) = name.toList := rfl

theorem targetSource_scoped (scope : Scope) (name : String) :
    targetSource (.scoped scope name) = scope.qualifier.toList ++ name.toList := rfl

theorem targetSource_pluginVariable (plugin member : String) :
    targetSource (.pluginVariable plugin member) =
      "plugins.".toList ++ plugin.toList ++ '.' :: member.toList := rfl

theorem targetSource_pluginCall (plugin function : String) (arguments : List (List Segment)) :
    targetSource (.pluginCall plugin function arguments) =
      "plugins.".toList ++ plugin.toList ++ '.' :: function.toList ++
        '(' :: List.intercalate [',', ' '] (argumentSources arguments) ++ [')'] := rfl

theorem targetSource_step (id : String) (path : List String) :
    targetSource (.step id path) =
      "steps.".toList ++ id.toList ++ path.flatMap fun segment => pathSegmentSource segment.toList :=
  rfl

/-- The source text of a template. -/
def source (template : Template) : String :=
  String.ofList (segmentsSource template)

end RequestChain.Template
