/-! # Templates

A template is literal text interleaved with placeholders. A placeholder holds a reference: a name
that is looked up in several scopes or in one, a plugin's variable, a call of a plugin's function
whose arguments are templates again, or a path into a recorded step.
-/

namespace RequestChain

/-- The scopes that a reference can name. -/
inductive Scope where
  | env
  | profile
  | api
  | endpoint
  | secret
  deriving DecidableEq, Repr, Inhabited

namespace Scope

/-- The name of the scope. -/
def name : Scope → String
  | env => "env"
  | profile => "profile"
  | api => "api"
  | endpoint => "endpoint"
  | secret => "secret"

/-- What a reference to the scope begins with. -/
def qualifier (scope : Scope) : String :=
  scope.name ++ "."

/-- Every scope. -/
def all : List Scope := [env, profile, api, endpoint, secret]

end Scope

mutual

/-- One piece of a template. -/
inductive Segment where
  | literal (text : String)
  | placeholder (reference : Reference)

/-- What stands inside a placeholder. -/
inductive Reference where
  /-- The text without surrounding blanks and without the optional mark, the mark, and what is
  referred to. -/
  | mk (raw : String) (optional : Bool) (target : Target)

/-- What a reference refers to. -/
inductive Target where
  /-- A name that is looked up in the scopes by precedence. -/
  | variable (name : String)
  /-- A name in one scope. -/
  | scoped (scope : Scope) (name : String)
  /-- A source without arguments. -/
  | pluginVariable (plugin member : String)
  /-- A source with arguments. -/
  | pluginCall (plugin function : String) (arguments : List (List Segment))
  /-- A path into a recorded step. -/
  | step (id : String) (path : List String)

end

deriving instance Repr for Segment, Reference, Target
deriving instance BEq for Segment, Reference, Target

instance : Inhabited Target := ⟨.variable ""⟩
instance : Inhabited Reference := ⟨.mk "" false default⟩
instance : Inhabited Segment := ⟨.literal ""⟩

/-- A list of segments. -/
abbrev Template := List Segment

namespace Reference

/-- The text of the reference, which errors quote. -/
def raw : Reference → String
  | mk raw _ _ => raw

/-- Whether the reference may be undefined. -/
def optional : Reference → Bool
  | mk _ optional _ => optional

/-- What the reference refers to. -/
def target : Reference → Target
  | mk _ _ target => target

end Reference

/-- The reference of a placeholder. -/
def Segment.reference? : Segment → Option Reference
  | .literal _ => none
  | .placeholder reference => some reference

namespace Template

/-- The template of a text that is taken as it is. -/
def literal (text : String) : Template :=
  if text.isEmpty then [] else [.literal text]

/-- The references of the placeholders, without those inside arguments. -/
def references (template : Template) : List Reference :=
  template.filterMap Segment.reference?

/-- A template without placeholders. -/
def isLiteral (template : Template) : Bool :=
  (references template).isEmpty

end Template

/-- Why a text is no reference. -/
inductive Malformation where
  | pluginShape
  | pluginName
  | pluginMember
  | pluginFunction
  | unclosedCall
  | unterminatedText
  | emptyArgument
  | unknownArgument (argument : String)
  | scopedName (scope : Scope)
  | variableName
  | stepId
  | unterminatedIndex
  deriving DecidableEq, Repr

/-- The wording of a malformation. -/
def Malformation.message : Malformation → String
  | pluginShape => "expected 'plugins.<plugin>.<member>'"
  | pluginName => "plugin name must be alphanumeric"
  | pluginMember => "plugin member must be alphanumeric"
  | pluginFunction => "plugin function name must be alphanumeric"
  | unclosedCall => "missing closing ')' in plugin call"
  | unterminatedText => "unterminated string argument"
  | emptyArgument => "empty argument in plugin call"
  | unknownArgument argument =>
    "argument '" ++ argument ++ "' must be a quoted string, a number, or a template"
  | scopedName scope => "expected a variable name after '" ++ scope.qualifier ++ "'"
  | variableName => "not a valid variable name"
  | stepId => "step id must be alphanumeric"
  | unterminatedIndex => "unterminated '[' in step path"

/-- Why a text is no template. -/
inductive TemplateError where
  /-- A placeholder holds no reference. -/
  | emptyReference
  /-- A placeholder holds a text that is no reference. -/
  | malformed (reference : String) (cause : Malformation)
  deriving DecidableEq, Repr

/-- The wording of an error. -/
def TemplateError.message : TemplateError → String
  | emptyReference => "empty template reference"
  | malformed reference cause =>
    "malformed reference '" ++ reference ++ "': " ++ cause.message

end RequestChain
