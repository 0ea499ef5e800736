import RequestChain.Template.Parser
import RequestChain.Text.Octets

/-! # Reading templates octet by octet

The reader of `RequestChain.Template.Parser` as a program with positions: its loops look at one
octet after the other, jump over the one behind a backslash, and take parts of the text between the
positions they have found. Nothing is taken for granted about a position. To look at an octet that
does not exist, or to cut a text inside a character, is a fault, and a fault ends the reading.
-/

namespace RequestChain.Template.Octets

open Text

/-- Why reading ends without a result. -/
inductive Halt where
  /-- A position was out of bounds or inside a character. -/
  | fault
  /-- The text is no template. -/
  | refusal (error : TemplateError)
  deriving DecidableEq, Repr

/-- The result of reading with positions. -/
abbrev Guarded (α : Type) := Except Halt α

/-- The result of reading characters, as one of reading with positions. -/
def guarded {α : Type} (parsed : Parsed α) : Guarded α :=
  parsed.mapError .refusal

/-- The reference `body` is refused. -/
def refuse {α : Type} (body : List Char) (cause : Malformation) : Guarded α :=
  .error (.refusal (.malformed (String.ofList body) cause))

/-- The octet at a position. -/
def octetAt (octets : List UInt8) (position : Nat) : Guarded UInt8 :=
  match octets[position]? with
  | some octet => .ok octet
  | none => .error .fault

@[simp] theorem ok_bind {α β : Type} (value : α) (next : α → Guarded β) :
    ((Except.ok value : Guarded α) >>= next) = next value := rfl

theorem octetAt_of_found {octets : List UInt8} {position : Nat} {octet : UInt8}
    (found : octets[position]? = some octet) : octetAt octets position = .ok octet := by
  rw [octetAt, found]

/-- The part of a text between two positions. -/
def slice (text : List Char) (start stop : Nat) : Guarded (List Char) :=
  match slice? text start stop with
  | some part => .ok part
  | none => .error .fault

/-- Whether an octet is a quotation mark. -/
def isMark (octet : UInt8) : Bool :=
  octet == '"'.toUInt8 || octet == '\''.toUInt8

/-! ## Quoted texts -/

/-- The position behind the next `mark`. A backslash is passed together with the octet behind it. -/
def closeFrom (octets : List UInt8) (mark : UInt8) (position : Nat) : Guarded (Option Nat) :=
  if position < octets.length then do
    let octet ← octetAt octets position
    if octet = '\\'.toUInt8 then closeFrom octets mark (position + 2)
    else if octet = mark then .ok (some (position + 1))
    else closeFrom octets mark (position + 1)
  else .ok none
  termination_by octets.length - position

/-- The position behind the quoted text that starts at a position. -/
def skipQuoted (octets : List UInt8) (start : Nat) : Guarded (Option Nat) := do
  let mark ← octetAt octets start
  closeFrom octets mark (start + 1)

theorem lt_of_closeFrom {octets : List UInt8} {mark : UInt8} {position behind : Nat}
    (closed : closeFrom octets mark position = .ok (some behind)) : position < behind := by
  fun_induction closeFrom octets mark position with
  | case1 position inside jump next =>
    rw [octetAt_of_found (List.getElem?_eq_getElem inside), ok_bind] at closed
    split at closed
    · exact Nat.lt_of_add_right_lt (jump closed)
    · split at closed
      · cases closed
        exact Nat.lt_succ_self position
      · exact Nat.lt_of_add_right_lt (next closed)
  | case2 => cases closed

theorem lt_of_skipQuoted {octets : List UInt8} {start behind : Nat}
    (skipped : skipQuoted octets start = .ok (some behind)) : start < behind := by
  by_cases inside : start < octets.length
  · rw [skipQuoted, octetAt_of_found (List.getElem?_eq_getElem inside), ok_bind] at skipped
    exact Nat.lt_of_add_right_lt (lt_of_closeFrom skipped)
  · rw [skipQuoted, octetAt, List.getElem?_eq_none (Nat.le_of_not_lt inside)] at skipped
    cases skipped

/-! ## Placeholders -/

/-- The position of the two braces that close a placeholder. `depth` counts the pairs of braces
opened on the way. -/
def endFrom (octets : List UInt8) (depth position : Nat) : Guarded (Option Nat) :=
  if position < octets.length then do
    let octet ← octetAt octets position
    if isMark octet then
      match _skipped : skipQuoted octets position with
      | .error halt => .error halt
      | .ok none => .ok none
      | .ok (some behind) => endFrom octets depth behind
    else if octet = '{'.toUInt8 ∧ octets[position + 1]? = some '{'.toUInt8 then
      endFrom octets (depth + 1) (position + 2)
    else if octet = '}'.toUInt8 ∧ octets[position + 1]? = some '}'.toUInt8 then
      if depth = 0 then .ok (some position) else endFrom octets (depth - 1) (position + 2)
    else endFrom octets depth (position + 1)
  else .ok none
  termination_by octets.length - position
  decreasing_by
    all_goals try omega
    have := lt_of_skipQuoted _skipped
    omega

theorem le_of_endFrom {octets : List UInt8} {depth position stop : Nat}
    (found : endFrom octets depth position = .ok (some stop)) : position ≤ stop := by
  fun_induction endFrom octets depth position with
  | case1 depth position inside quoted opened closed plain =>
    rw [octetAt_of_found (List.getElem?_eq_getElem inside), ok_bind] at found
    split at found
    · split at found
      · cases found
      · cases found
      · rename_i behind skipped
        exact Nat.le_trans (Nat.le_of_lt (lt_of_skipQuoted skipped)) (quoted behind skipped found)
    · split at found
      · exact Nat.le_of_add_right_le (opened found)
      · split at found
        · split at found
          · cases found
            exact Nat.le_refl _
          · exact Nat.le_of_add_right_le (closed found)
        · exact Nat.le_of_add_right_le (plain found)
  | case2 => cases found

/-- Literal text that has been collected, as a segment, unless it is empty. -/
def literalSegment (text : List Char) : List Segment :=
  if text.isEmpty then [] else [.literal (String.ofList text)]

/-- The segments from a position on, behind the literal text that has been collected. -/
def segmentsFrom (read : List Char → Guarded Reference) (source collected : List Char)
    (position : Nat) : Guarded Template :=
  if position < octetCount source then do
    let rest ← slice source position (octetCount source)
    if ['\\', '{', '{'].isPrefixOf rest then
      segmentsFrom read source (collected ++ ['{', '{']) (position + 3)
    else if ['{', '{'].isPrefixOf rest then
      match _found : endFrom (utf8Encode source) 0 (position + 2) with
      | .error halt => .error halt
      | .ok none => .ok (literalSegment (collected ++ rest))
      | .ok (some stop) => do
        let inner ← slice source (position + 2) stop
        let reference ← read inner
        let others ← segmentsFrom read source [] (stop + 2)
        .ok (literalSegment collected ++ .placeholder reference :: others)
    else
      match rest with
      | [] => .ok (literalSegment collected)
      | c :: _ => segmentsFrom read source (collected ++ [c]) (position + c.utf8Size)
  else .ok (literalSegment collected)
  termination_by octetCount source - position
  decreasing_by
    · omega
    · have := le_of_endFrom _found
      omega
    · have := c.utf8Size_pos
      omega

/-! ## Arguments -/

/-- The texts between the commas outside nested braces, parentheses and quotes, from a position on,
where the first of them starts at `start`; nothing when a quotation mark stays open. -/
def argumentsFrom (source : List Char) (start braces parentheses position : Nat) :
    Guarded (Option (List (List Char))) :=
  if position < octetCount source then do
    let octet ← octetAt (utf8Encode source) position
    if isMark octet then
      match _skipped : skipQuoted (utf8Encode source) position with
      | .error halt => .error halt
      | .ok none => .ok none
      | .ok (some behind) => argumentsFrom source start braces parentheses behind
    else if octet = '{'.toUInt8 ∧ (utf8Encode source)[position + 1]? = some '{'.toUInt8 then
      argumentsFrom source start (braces + 1) parentheses (position + 2)
    else if octet = '}'.toUInt8 ∧ 0 < braces ∧
        (utf8Encode source)[position + 1]? = some '}'.toUInt8 then
      argumentsFrom source start (braces - 1) parentheses (position + 2)
    else if octet = '('.toUInt8 then
      argumentsFrom source start braces (parentheses + 1) (position + 1)
    else if octet = ')'.toUInt8 then
      argumentsFrom source start braces (parentheses - 1) (position + 1)
    else if octet = ','.toUInt8 ∧ braces = 0 ∧ parentheses = 0 then do
      let argument ← slice source start position
      let others ← argumentsFrom source (position + 1) braces parentheses (position + 1)
      .ok (others.map (argument :: ·))
    else argumentsFrom source start braces parentheses (position + 1)
  else do
    let argument ← slice source start (octetCount source)
    .ok (some [argument])
  termination_by octetCount source - position
  decreasing_by
    all_goals try omega
    have := lt_of_skipQuoted _skipped
    omega

/-- The text between two equal quotation marks. -/
def quotedText? (argument : List Char) : Guarded (Option (List Char)) := do
  let octets := utf8Encode argument
  let first ← octetAt octets 0
  if isMark first ∧ 2 ≤ octets.length then do
    let last ← octetAt octets (octets.length - 1)
    if last = first then do
      let content ← slice argument 1 (octets.length - 1)
      .ok (some content)
    else .ok none
  else .ok none

/-- One argument of a call in the reference `body`. -/
def parseArgument (parse : List Char → Guarded Template) (body argument : List Char) :
    Guarded Template :=
  if argument.isEmpty then refuse body .emptyArgument
  else do
    match ← quotedText? argument with
    | some content => parse (unescape content)
    | none =>
      if isBraced argument then parse argument
      else if isNumber argument then .ok (literal (String.ofList argument))
      else refuse body (.unknownArgument (String.ofList argument))

/-- The arguments of a call. -/
def parseArguments (parse : List Char → Guarded Template) (body source : List Char) :
    Guarded (List Template) :=
  if source.all isBlank then .ok []
  else do
    match ← argumentsFrom source 0 0 0 0 with
    | none => refuse body .unterminatedText
    | some arguments => arguments.mapM fun argument => parseArgument parse body (trim argument)

/-! ## References -/

/-- A plugin's name, a point, and a member or a call. -/
def parsePlugin (parse : List Char → Guarded Template) (body rest : List Char) : Guarded Target :=
  let plugin := rest.takeWhile (· ≠ '.')
  match rest.dropWhile (· ≠ '.') with
  | [] => refuse body .pluginShape
  | _ :: behind =>
    if !isIdentifier plugin then refuse body .pluginName
    else
      let member := trimEnd behind
      match position? (· = '(') member with
      | none =>
        if isIdentifier member then
          .ok (.pluginVariable (String.ofList plugin) (String.ofList member))
        else refuse body .pluginMember
      | some opening => do
        let function := trim (← slice member 0 opening)
        if !isIdentifier function then refuse body .pluginFunction
        else do
          let call ← slice member (opening + 1) (octetCount member)
          match dropLast? ')' call with
          | none => refuse body .unclosedCall
          | some source => do
            let arguments ← parseArguments parse body source
            .ok (.pluginCall (String.ofList plugin) (String.ofList function) arguments)

/-- The name of a step and a path. -/
def parseStep (body rest : List Char) : Guarded Target := do
  let stop := (position? (fun c => c = '.' || c = '[') rest).getD (octetCount rest)
  let stepId ← slice rest 0 stop
  if !isIdentifier stepId then refuse body .stepId
  else do
    let path ← slice rest stop (octetCount rest)
    match splitPath false [] path with
    | none => refuse body .unterminatedIndex
    | some path => .ok (.step (String.ofList stepId) (path.map String.ofList))

/-- What a reference refers to. -/
def parseTarget (parse : List Char → Guarded Template) (body : List Char) : Guarded Target :=
  match dropPrefix? "plugins.".toList body with
  | some rest => parsePlugin parse body rest
  | none =>
    match dropPrefix? "steps.".toList body with
    | some rest => parseStep body rest
    | none =>
      match scoped? body with
      | some (scope, name) =>
        if isName name then .ok (.scoped scope (String.ofList name))
        else refuse body (.scopedName scope)
      | none =>
        if isName body then .ok (.variable (String.ofList body))
        else refuse body .variableName

/-- The inner text of a placeholder as a reference. -/
def parseReference (parse : List Char → Guarded Template) (inner : List Char) :
    Guarded Reference :=
  let (body, optional) := splitOptional inner
  if body.isEmpty then .error (.refusal .emptyReference)
  else do
    let target ← parseTarget parse body
    .ok (.mk (String.ofList body) optional target)

/-- A text shorter than the bound as a template, with the bound of the reader of characters. -/
def parseWithin : Nat → List Char → Guarded Template
  | 0, _ => .ok []
  | bound + 1, source => segmentsFrom (parseReference (parseWithin bound)) source [] 0

/-- A text as a template. -/
def parse (source : String) : Guarded Template :=
  parseWithin (source.toList.length + 1) source.toList

end RequestChain.Template.Octets
