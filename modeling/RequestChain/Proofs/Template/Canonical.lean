import RequestChain.Proofs.Template.Composition
import RequestChain.Proofs.Template.Grammar
import RequestChain.Proofs.Text.Cutting

/-! # The form of templates that have been read

There are many ways to write a template, and readers are given texts that no printer has written:
with blanks around references, braces that are never closed, escapes without need, and arguments in
quotation marks, in braces or as numbers. Whatever the text, the template that is read from it is in
one form, and so are the templates in its arguments, at any depth.
-/

namespace RequestChain.Template

open Text

/-! ## The form -/

/-- What can stand in front of a segment. Two literals in a row would be one, and a backslash would
take its braces from a placeholder. -/
def Precedes : Segment → Segment → Prop
  | .literal _, .literal _ => False
  | .literal text, .placeholder _ => text.toList.getLast? ≠ some '\\'
  | .placeholder _, _ => True

mutual

/-- Literals that are not empty and do not meet, and references in canonical form. -/
inductive Canonical : List Segment → Prop
  | segments {template : List Segment} (filled : ∀ text, .literal text ∈ template → text ≠ "")
      (apart : template.IsChain Precedes)
      (references : ∀ reference, .placeholder reference ∈ template →
        CanonicalReference reference) :
      Canonical template

/-- A text with no blanks at its ends, and a target that goes with it. -/
inductive CanonicalReference : Reference → Prop
  | reference {raw : String} {target : Target} (optional : Bool) (nonempty : raw ≠ "")
      (bare : trimmed raw = raw) (reads : CanonicalTarget raw target) :
      CanonicalReference (.mk raw optional target)

/-- Names and identifiers that are such. The text of a reference that looks a name up is this name,
behind the qualifier of its scope if it is qualified. -/
inductive CanonicalTarget : String → Target → Prop
  | unqualified {name : String} (isName : isName name.toList = true)
      (unqualified : isUnqualified name.toList = true) :
      CanonicalTarget name (.variable name)
  | qualified (scope : Scope) {name : String} (isName : isName name.toList = true) :
      CanonicalTarget (scope.qualifier ++ name) (.scoped scope name)
  | pluginVariable {raw plugin member : String} (pluginName : isIdentifier plugin.toList = true)
      (memberName : isIdentifier member.toList = true) :
      CanonicalTarget raw (.pluginVariable plugin member)
  | pluginCall {raw plugin function : String} {arguments : List (List Segment)}
      (pluginName : isIdentifier plugin.toList = true)
      (functionName : isIdentifier function.toList = true)
      (each : ∀ argument ∈ arguments, Canonical argument) :
      CanonicalTarget raw (.pluginCall plugin function arguments)
  | step {raw id : String} {path : List String} (stepName : isIdentifier id.toList = true) :
      CanonicalTarget raw (.step id path)

end

theorem canonical_nil : Canonical [] := by
  refine .segments ?_ .nil ?_ <;> exact fun _ member => absurd member List.not_mem_nil

theorem canonical_literal (text : String) : Canonical (literal text) := by
  by_cases empty : text.isEmpty = true
  · rw [literal, if_pos empty]
    exact canonical_nil
  · rw [literal, if_neg empty]
    refine .segments (fun other member => ?_) (.singleton _) (by simp)
    cases List.mem_singleton.mp member
    simpa using empty

/-! ## Pieces -/

/-- What can stand in front of a piece. -/
def Piece.Precedes : Piece → Piece → Prop
  | .literal _, .literal _ => False
  | .literal text, .placeholder _ => text.getLast? ≠ some '\\'
  | .placeholder _, _ => True

/-- Pieces of which the literals are not empty and do not meet. -/
structure CutWell (pieces : List Piece) : Prop where
  filled : ∀ text, .literal text ∈ pieces → text ≠ []
  apart : pieces.IsChain Piece.Precedes

namespace CutWell

theorem nil : CutWell [] where
  filled _ member := by cases member
  apart := .nil

theorem singleton {text : List Char} (nonempty : text ≠ []) : CutWell [.literal text] where
  filled other member := by
    cases List.mem_singleton.mp member
    exact nonempty
  apart := .singleton _

theorem placeholder {others : List Piece} (cut : CutWell others) (inner : List Char) :
    CutWell (.placeholder inner :: others) where
  filled text member := cut.filled text ((List.mem_cons.mp member).resolve_left (by simp))
  apart := by
    cases others with
    | nil => exact .singleton _
    | cons next rest => exact .cons_cons trivial cut.apart

/-- A literal in front takes in a literal that follows, and may stand before a placeholder. -/
theorem consLiteral {others : List Piece} (cut : CutWell others) {text : List Char}
    (nonempty : text ≠ [])
    (unescaped : ∀ inner rest, others = .placeholder inner :: rest → text.getLast? ≠ some '\\') :
    CutWell (consLiteral text others) := by
  match others with
  | [] => exact singleton nonempty
  | .placeholder inner :: rest =>
    refine ⟨fun other member => ?_, .cons_cons (unescaped inner rest rfl) cut.apart⟩
    obtain same | member := List.mem_cons.mp member
    · cases same
      exact nonempty
    · exact cut.filled other member
  | .literal next :: rest =>
    have nextFilled : next ≠ [] := cut.filled next List.mem_cons_self
    refine ⟨fun other member => ?_, ?_⟩
    · obtain same | member := List.mem_cons.mp member
      · cases same
        simp [nonempty]
      · exact cut.filled other (List.mem_cons_of_mem _ member)
    · match rest with
      | [] => exact .singleton _
      | .literal _ :: _ => exact absurd (List.isChain_cons_cons.mp cut.apart).1 id
      | .placeholder inner :: rest =>
        obtain ⟨first, others⟩ := List.isChain_cons_cons.mp cut.apart
        refine .cons_cons ?_ others
        change (text ++ next).getLast? ≠ some '\\'
        rw [List.getLast?_append_of_ne_nil _ nextFilled]
        exact first

end CutWell

private theorem consLiteral_ne_placeholder (text inner : List Char) (others rest : List Piece) :
    consLiteral text others ≠ .placeholder inner :: rest := by
  match others with
  | [] => simp [consLiteral]
  | .literal next :: rest => simp [consLiteral]
  | .placeholder inner :: rest => simp [consLiteral]

/-- A source that is cut into a placeholder first begins with its braces. -/
theorem opening_of_pieces {source inner : List Char} {rest : List Piece}
    (cut : pieces source = .placeholder inner :: rest) : ∃ tail, source = '{' :: '{' :: tail := by
  revert cut
  fun_cases pieces source with
  | case1 => exact nofun
  | case2 tail => exact fun cut => absurd cut (consLiteral_ne_placeholder _ _ _ _)
  | case3 tail => exact fun _ => ⟨tail, rfl⟩
  | case4 tail => exact fun _ => ⟨tail, rfl⟩
  | case5 c tail => exact fun cut => absurd cut (consLiteral_ne_placeholder _ _ _ _)

theorem cutWell_pieces (source : List Char) : CutWell (pieces source) := by
  fun_induction pieces source with
  | case1 => exact .nil
  | case2 rest ih => exact ih.consLiteral (by simp) (by simp)
  | case3 => exact .singleton (by simp)
  | case4 rest inner behind found ih => exact ih.placeholder inner
  | case5 c rest unescaped unopened ih =>
    refine ih.consLiteral (by simp) fun inner others cut => ?_
    obtain ⟨tail, rfl⟩ := opening_of_pieces cut
    simpa using fun same => unescaped tail same rfl

/-! ## Readers -/

private theorem canonical_parseStep {body rest : List Char} {target : Target} {raw : String}
    (read : parseStep body rest = .ok target) : CanonicalTarget raw target := by
  simp only [parseStep] at read
  split at read
  · cases read
  · rename_i stepName
    split at read
    · cases read
    · cases read
      exact .step (by simpa using stepName)

private theorem eq_of_scoped? {body name : List Char} {scope : Scope}
    (found : scoped? body = some (scope, name)) : body = scope.qualifier.toList ++ name := by
  obtain ⟨other, -, qualified⟩ := List.exists_of_findSome?_eq_some found
  obtain ⟨rest, dropped, same⟩ := Option.map_eq_some_iff.mp qualified
  cases same
  exact dropPrefix?_eq_some_iff.mp dropped

private theorem not_isPrefixOf_of_dropPrefix? {start text : List Char}
    (other : dropPrefix? start text = none) : start.isPrefixOf text = false := by
  rw [Bool.eq_false_iff]
  intro begins
  obtain ⟨rest, rfl⟩ := List.isPrefixOf_iff_prefix.mp begins
  rw [dropPrefix?_eq_some_iff.mpr rfl] at other
  cases other

/-- What no reader of qualified references has taken is unqualified. -/
private theorem isUnqualified_of_none {body : List Char}
    (noPlugin : dropPrefix? "plugins.".toList body = none)
    (noStep : dropPrefix? "steps.".toList body = none) (noScope : scoped? body = none) :
    isUnqualified body = true := by
  refine List.all_eq_true.mpr fun qualifier member => ?_
  have other : dropPrefix? qualifier.toList body = none := by
    rcases List.mem_append.mp member with fixed | ofScope
    · rcases List.mem_cons.mp fixed with rfl | last
      · exact noPlugin
      · cases List.mem_singleton.mp last
        exact noStep
    · obtain ⟨scope, isScope, rfl⟩ := List.mem_map.mp ofScope
      exact Option.map_eq_none_iff.mp (List.findSome?_eq_none_iff.mp noScope scope isScope)
  rw [not_isPrefixOf_of_dropPrefix? other]
  rfl

/-- The text of a reference has no blanks at its ends, in front of an optional mark neither. -/
private theorem trim_splitOptional (inner : List Char) :
    trim (splitOptional inner).1 = (splitOptional inner).1 := by
  simp only [splitOptional]
  cases marked : dropLast? '?' (trim inner) with
  | none => exact trim_eq_self (fun _ => head?_trim) fun _ => getLast?_trim
  | some body =>
    obtain ⟨after, whole, -⟩ := exists_trimEnd body
    refine trim_eq_self (fun c first => ?_) fun _ => getLast?_trimEnd
    have start : (trim inner).head? = some c := by
      rw [dropLast?_eq_some_iff.mp marked, whole, List.append_assoc, List.head?_append, first]
      rfl
    exact head?_trim start

/-- What can stand in front of a piece can stand in front of its segment. -/
private theorem Piece.Precedes.read {parse : List Char → Parsed Template} {left right : Piece}
    {first second : Segment} (precedes : left.Precedes right)
    (isFirst : parsePiece parse left = .ok first)
    (isSecond : parsePiece parse right = .ok second) : Template.Precedes first second := by
  cases left with
  | literal text =>
    cases isFirst
    cases right with
    | literal other => exact precedes.elim
    | placeholder inner =>
      obtain ⟨reference, -, returned⟩ := exists_of_bind_eq_ok isSecond
      cases returned
      change (String.ofList text).toList.getLast? ≠ some '\\'
      rw [String.toList_ofList]
      exact precedes
  | placeholder inner =>
    obtain ⟨reference, -, returned⟩ := exists_of_bind_eq_ok isFirst
    cases returned
    trivial

section Readers

variable {parse : List Char → Parsed Template}
  (canonical : ∀ {source template}, parse source = .ok template → Canonical template)
include canonical

private theorem canonical_parseArgument {body argument : List Char} {template : Template}
    (read : parseArgument parse body argument = .ok template) : Canonical template := by
  rw [parseArgument] at read
  split at read
  · cases read
  · split at read
    · exact canonical read
    · split at read
      · exact canonical read
      · split at read
        · cases read
          exact canonical_literal _
        · cases read

private theorem canonical_parseArguments {body source : List Char} {templates : List Template}
    (read : parseArguments parse body source = .ok templates) :
    ∀ template ∈ templates, Canonical template := by
  rw [parseArguments] at read
  split at read
  · cases read
    exact fun _ member => absurd member List.not_mem_nil
  · split at read
    · cases read
    · exact forall_of_mapM (fun _ _ _ => canonical_parseArgument canonical) read

private theorem canonical_parsePlugin {body rest : List Char} {target : Target} {raw : String}
    (read : parsePlugin parse body rest = .ok target) : CanonicalTarget raw target := by
  simp only [parsePlugin] at read
  split at read
  · cases read
  · split at read
    · cases read
    · rename_i pluginName
      split at read
      · split at read
        · rename_i memberName
          cases read
          exact .pluginVariable (by simpa using pluginName) (by simpa using memberName)
        · cases read
      · split at read
        · cases read
        · rename_i functionName
          split at read
          · cases read
          · obtain ⟨arguments, areRead, returned⟩ := exists_of_bind_eq_ok read
            cases returned
            exact .pluginCall (by simpa using pluginName) (by simpa using functionName)
              (canonical_parseArguments canonical areRead)

private theorem canonical_parseTarget {body : List Char} {target : Target}
    (read : parseTarget parse body = .ok target) :
    CanonicalTarget (String.ofList body) target := by
  rw [parseTarget] at read
  split at read
  · exact canonical_parsePlugin canonical read
  · rename_i noPlugin
    split at read
    · exact canonical_parseStep read
    · rename_i noStep
      split at read
      · rename_i scope name qualified
        split at read
        · rename_i isName
          cases read
          have raw : String.ofList body = scope.qualifier ++ String.ofList name := by
            rw [eq_of_scoped? qualified, String.ofList_append, String.ofList_toList]
          exact raw ▸ .qualified scope (by simpa using isName)
        · cases read
      · rename_i noScope
        split at read
        · rename_i isName
          cases read
          exact .unqualified (by simpa using isName)
            (by simpa using isUnqualified_of_none noPlugin noStep noScope)
        · cases read

private theorem canonical_parseReference {inner : List Char} {reference : Reference}
    (read : parseReference parse inner = .ok reference) : CanonicalReference reference := by
  have bare := trim_splitOptional inner
  rw [parseReference] at read
  split at read
  rename_i body optional marked
  rw [marked] at bare
  split at read
  · cases read
  · rename_i nonempty
    obtain ⟨target, isRead, returned⟩ := exists_of_bind_eq_ok read
    cases returned
    refine .reference optional ?_ ?_ (canonical_parseTarget canonical isRead)
    · simpa using nonempty
    · rw [trimmed, String.toList_ofList, bare]

/-- Pieces are read in the order in which they stand. -/
private theorem canonical_mapM {pieces : List Piece} {template : Template} (cut : CutWell pieces)
    (read : pieces.mapM (parsePiece parse) = .ok template) : Canonical template := by
  have each : ∀ segment ∈ template, (∀ text, segment = .literal text → text ≠ "") ∧
      ∀ reference, segment = .placeholder reference → CanonicalReference reference := by
    refine forall_of_mapM (fun piece member segment isRead => ?_) read
    cases piece with
    | literal text =>
      cases isRead
      refine ⟨fun other same => ?_, nofun⟩
      cases same
      simpa using cut.filled text member
    | placeholder inner =>
      obtain ⟨reference, isReference, returned⟩ := exists_of_bind_eq_ok isRead
      cases returned
      refine ⟨nofun, fun other same => ?_⟩
      cases same
      exact canonical_parseReference canonical isReference
  have chain : template.IsChain Precedes :=
    isChain_of_mapM (fun precedes isFirst isSecond => precedes.read isFirst isSecond) cut.apart read
  exact .segments (fun text member => (each _ member).1 text rfl) chain
    fun reference member => (each _ member).2 reference rfl

end Readers

/-- The template of a text is in canonical form, and so are those of the arguments in it. -/
theorem canonical_of_parse {source : String} {template : Template}
    (read : parse source = .ok template) : Canonical template := by
  have within (bound : Nat) {source : List Char} {template : Template}
      (read : parseWithin bound source = .ok template) : Canonical template := by
    induction bound generalizing source template with
    | zero =>
      cases read
      exact canonical_nil
    | succ bound ih => exact canonical_mapM ih (cutWell_pieces source) read
  exact within _ read

/-- Escaped braces, blanks around a reference and around its optional mark, arguments of all three
kinds, and braces that are never closed. -/
def unevenSource : String :=
  "\\\x7b\x7ba\x7b\x7b b ? \x7d\x7d" ++
    "\x7b\x7bplugins.p.f('\\\\', 1e3, \x7b\x7bc\x7d\x7d)\x7d\x7d\x7b\x7bd"

/-- The same template as the printer writes it. -/
def evenSource : String :=
  "\\\x7b\x7ba\x7b\x7bb?\x7d\x7d" ++
    "\x7b\x7bplugins.p.f(\"\\\\\", \"1e3\", \"\x7b\x7bc\x7d\x7d\")\x7d\x7d\\\x7b\x7bd"

theorem canonical_of_parse_uneven :
    ∃ template, parse unevenSource = .ok template ∧ source template = evenSource ∧
      Canonical template := by
  have written : (parse unevenSource).map source = .ok evenSource := by decide +kernel
  cases read : parse unevenSource with
  | error error =>
    rw [read] at written
    cases written
  | ok template =>
    rw [read] at written
    exact ⟨template, rfl, Except.ok.inj written, canonical_of_parse read⟩

end RequestChain.Template
