import RequestChain.Proofs.Template.Scanning

/-! # The ways to write a template

`Written template source` says that `source` is a way to write `template`. All freedom is in the
paths of steps, whose segments may stand behind points or in brackets; a literal is written with
its double braces escaped, and an argument in quotation marks around a way to write it. The text
that a reference carries is the way in which its target is written.

`wellFormed` decides whether a template is as the printer expects it; the source of a well-formed
template is then one of the ways to write it.
-/

namespace RequestChain.Template

open Text

/-- What qualified references begin with. -/
def qualifiers : List String :=
  ["plugins.", "steps."] ++ Scope.all.map Scope.qualifier

/-- A name that a reader does not take for an optional one. -/
def isPlainName (name : List Char) : Bool :=
  isName name && name.getLast? != some '?'

/-- A name that a reader does not take for a qualified one. -/
def isUnqualified (name : List Char) : Bool :=
  qualifiers.all fun qualifier => !qualifier.toList.isPrefixOf name

/-- A segment that can stand behind a point. -/
def isPointSegment (segment : List Char) : Bool :=
  !segment.isEmpty && segment.all isPlainPathChar

/-- A segment that can stand in brackets and quotation marks. -/
def isBracketSegment (segment : List Char) : Bool :=
  segment.all fun c => !([']', '"', '\'', '\\'].contains c)

/-- Whether a segment can be told from those behind it. -/
def isSeparate : Segment → List Segment → Bool
  | .literal _, .literal _ :: _ => false
  | .literal text, .placeholder _ :: _ => leavesBraces text.toList
  | _, _ => true

/-! ## Ways to write -/

/-- The ways to write a path. -/
inductive WrittenPath : List String → List Char → Prop
  | nil : WrittenPath [] []
  | point {segment : String} {path : List String} {source : List Char}
      (plain : isPointSegment segment.toList = true) (others : WrittenPath path source) :
      WrittenPath (segment :: path) ('.' :: (segment.toList ++ source))
  | brackets {segment : String} {path : List String} {source : List Char}
      (clean : isBracketSegment segment.toList = true) (others : WrittenPath path source) :
      WrittenPath (segment :: path) ('[' :: '"' :: (segment.toList ++ '"' :: ']' :: source))

mutual

/-- The ways to write a template. -/
inductive Written : List Segment → List Char → Prop
  | nil : Written [] []
  | literal {text : String} {rest : List Segment} {source : List Char}
      (nonempty : text.toList ≠ []) (separate : isSeparate (.literal text) rest = true)
      (others : Written rest source) :
      Written (.literal text :: rest) (escapeBraces text.toList ++ source)
  | placeholder {raw : String} {target : Target} {rest : List Segment} {source : List Char}
      (optional : Bool) (body : WrittenTarget target raw.toList) (others : Written rest source) :
      Written (.placeholder (.mk raw optional target) :: rest)
        ('{' :: '{' :: ((raw.toList ++ if optional then ['?'] else []) ++ '}' :: '}' :: source))

/-- The ways to write what a reference refers to. -/
inductive WrittenTarget : Target → List Char → Prop
  | unqualified {name : String} (plain : isPlainName name.toList = true)
      (unqualified : isUnqualified name.toList = true) :
      WrittenTarget (.variable name) name.toList
  | qualified (scope : Scope) {name : String} (plain : isPlainName name.toList = true) :
      WrittenTarget (.scoped scope name) (scope.qualifier.toList ++ name.toList)
  | pluginVariable {plugin member : String} (pluginName : isIdentifier plugin.toList = true)
      (memberName : isIdentifier member.toList = true) :
      WrittenTarget (.pluginVariable plugin member)
        ("plugins.".toList ++ (plugin.toList ++ '.' :: member.toList))
  | pluginCall {plugin function : String} {arguments : List (List Segment)}
      {sources : List (List Char)} (pluginName : isIdentifier plugin.toList = true)
      (functionName : isIdentifier function.toList = true)
      (written : WrittenArguments arguments sources) :
      WrittenTarget (.pluginCall plugin function arguments)
        ("plugins.".toList ++ (plugin.toList ++ '.' :: (function.toList ++
          '(' :: (List.intercalate [',', ' '] (sources.map quoted) ++ [')']))))
  | step {id : String} {path : List String} {source : List Char}
      (stepName : isIdentifier id.toList = true) (written : WrittenPath path source) :
      WrittenTarget (.step id path) ("steps.".toList ++ (id.toList ++ source))

/-- The ways to write the arguments of a call, each without its quotation marks. -/
inductive WrittenArguments : List (List Segment) → List (List Char) → Prop
  | nil : WrittenArguments [] []
  | cons {argument : List Segment} {arguments : List (List Segment)} {source : List Char}
      {sources : List (List Char)} (written : Written argument source)
      (others : WrittenArguments arguments sources) :
      WrittenArguments (argument :: arguments) (source :: sources)

end

/-! ## Templates that the printer can write -/

mutual

/-- A literal that is not empty, or a placeholder with a well-formed reference. -/
def wellFormedSegment : Segment → Bool
  | .literal text => !text.toList.isEmpty
  | .placeholder reference => wellFormedReference reference

/-- A reference with the text that is written for it. -/
def wellFormedReference : Reference → Bool
  | .mk raw _ target => raw.toList == targetSource target && wellFormedTarget target

/-- Names that are names, identifiers that are identifiers, and segments of a path that can be
written. -/
def wellFormedTarget : Target → Bool
  | .variable name => isPlainName name.toList && isUnqualified name.toList
  | .scoped _ name => isPlainName name.toList
  | .pluginVariable plugin member => isIdentifier plugin.toList && isIdentifier member.toList
  | .pluginCall plugin function arguments =>
    isIdentifier plugin.toList && isIdentifier function.toList && wellFormedArguments arguments
  | .step id path =>
    isIdentifier id.toList &&
      path.all fun segment => isPointSegment segment.toList || isBracketSegment segment.toList

/-- Arguments that are well-formed templates. -/
def wellFormedArguments : List (List Segment) → Bool
  | [] => true
  | argument :: rest => wellFormed argument && wellFormedArguments rest

/-- Well-formed segments of which the literals can be told from what follows them. -/
def wellFormed : List Segment → Bool
  | [] => true
  | segment :: rest =>
    wellFormedSegment segment && isSeparate segment rest && wellFormed rest

end

end RequestChain.Template
