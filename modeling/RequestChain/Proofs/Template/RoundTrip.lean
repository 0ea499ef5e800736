import RequestChain.Proofs.Template.Grammar
import RequestChain.Proofs.Template.Nesting
import RequestChain.Proofs.Text.Cutting

/-! # Reading what was written

Every way to write a template is read back as that template, and the printer's way is one of them.
The argument follows the three scans: the body of a placeholder is inert, so the end that was
written is the end that is found; written arguments come back one by one, and one level of escapes
comes off each; and each reference is told by what it begins with. The induction is on the
derivation of the written text, with a bound on nesting that the length of the text pays for.
-/

namespace RequestChain.Template

open Text

/-! ## Characters of names -/

private theorem isBlank_of_isIdentifierChar {c : Char} (identifier : isIdentifierChar c = true) :
    isBlank c = false := by
  have bounds : 0x2d ≤ c.toNat ∧ c.toNat ≤ 0x7a := by
    simp only [isIdentifierChar, Bool.or_eq_true, beq_iff_eq] at identifier
    obtain (alphanumeric | rfl) | rfl := identifier
    · have classes : (decide ('A'.val ≤ c.val ∧ c.val ≤ 'Z'.val) ||
          (decide ('a'.val ≤ c.val) && decide (c.val ≤ 'z'.val)) ||
          (decide ('0'.val ≤ c.val) && decide (c.val ≤ '9'.val))) = true := alphanumeric
      simp only [Bool.or_eq_true, Bool.and_eq_true, decide_eq_true_eq, UInt32.le_iff_toNat_le,
        Char.toNat_val, Char.reduceToNat] at classes
      omega
    · decide
    · decide
  simp only [isBlank, Bool.or_eq_false_iff, Bool.and_eq_false_iff, decide_eq_false_iff_not,
    beq_eq_false_iff_ne]
  omega

private theorem ne_of_isIdentifierChar {c other : Char} (identifier : isIdentifierChar c = true)
    (special : isIdentifierChar other = false) : c ≠ other := by
  rintro rfl
  simp [identifier] at special

private theorem isIdentifier_iff {text : List Char} :
    isIdentifier text = true ↔ text ≠ [] ∧ ∀ c ∈ text, isIdentifierChar c = true := by
  simp [isIdentifier]

/-! ## Bodies of placeholders -/

/-- A text from whose ends a reader takes nothing. -/
structure IsBody (text : List Char) : Prop where
  start : ∃ c, text.head? = some c ∧ isBlank c = false
  stop : ∃ c, text.getLast? = some c ∧ isBlank c = false ∧ c ≠ '?'

theorem IsBody.ne_nil {text : List Char} (body : IsBody text) : text ≠ [] := by
  rintro rfl
  obtain ⟨c, head, -⟩ := body.start
  simp at head

theorem IsBody.trim_eq {text : List Char} (body : IsBody text) : trim text = text := by
  obtain ⟨first, head, visible⟩ := body.start
  obtain ⟨last, tail, kept, -⟩ := body.stop
  exact trim_eq_self (by simpa [head] using visible) (by simpa [tail] using kept)

theorem IsBody.trim_space {text : List Char} (body : IsBody text) : trim (' ' :: text) = text := by
  obtain ⟨last, tail, kept, -⟩ := body.stop
  have stop : trimEnd (' ' :: text) = ' ' :: text :=
    trimRight_eq_self (by simpa [List.getLast?_cons, tail] using kept)
  have start : trimStart (' ' :: text) = trimStart (trimEnd text) := by
    have blank : isBlank ' ' = true := by decide
    rw [trimEnd, trimRight_eq_self (by simpa [tail] using kept)]
    simp [trimStart, trimLeft, blank]
  rw [trim, stop, start, ← trim, body.trim_eq]

theorem IsBody.trim_blanks {text before after : List Char} (body : IsBody text)
    (beforeBlank : ∀ c ∈ before, isBlank c = true) (afterBlank : ∀ c ∈ after, isBlank c = true) :
    trim (before ++ text ++ after) = text := by
  obtain ⟨first, head, visible⟩ := body.start
  obtain ⟨last, tail, kept, -⟩ := body.stop
  exact Text.trim_blanks body.ne_nil (by simpa [head] using visible) (by simpa [tail] using kept)
    beforeBlank afterBlank

theorem splitOptional_blanks {text before after : List Char} (body : IsBody text)
    (beforeBlank : ∀ c ∈ before, isBlank c = true) (afterBlank : ∀ c ∈ after, isBlank c = true) :
    splitOptional (before ++ text ++ after) = (text, false) := by
  obtain ⟨last, tail, -, notMark⟩ := body.stop
  have required : dropLast? '?' text = none := if_neg (by simpa [tail] using notMark)
  rw [splitOptional, body.trim_blanks beforeBlank afterBlank, required]

theorem splitOptional_of_isBody {text : List Char} (body : IsBody text) (optional : Bool) :
    splitOptional (text ++ if optional then ['?'] else []) = (text, optional) := by
  obtain ⟨first, head, visible⟩ := body.start
  obtain ⟨last, tail, kept, notMark⟩ := body.stop
  cases optional with
  | false =>
    have required : dropLast? '?' text = none := if_neg (by simpa [tail] using notMark)
    simp [splitOptional, body.trim_eq, required]
  | true =>
    have marked : trim (text ++ ['?']) = text ++ ['?'] :=
      trim_eq_self (by simpa [head] using visible) (by simp; decide)
    have unmarked : trimEnd text = text := trimRight_eq_self (by simpa [tail] using kept)
    simp [splitOptional, marked, dropLast?_append, unmarked]

/-- Anything may stand in a body between a beginning and an end that are bodies. -/
theorem IsBody.between {start stop : List Char} (first : IsBody start)
    (middle : List Char) (last : IsBody stop) : IsBody (start ++ (middle ++ stop)) where
  start := by
    obtain ⟨c, head, visible⟩ := first.start
    exact ⟨c, by simp [head], visible⟩
  stop := by
    obtain ⟨c, tail, kept⟩ := last.stop
    exact ⟨c, by simp [tail], kept⟩

private theorem isBody_of_all {text : List Char} (nonempty : text ≠ [])
    (plain : ∀ c ∈ text, isBlank c = false ∧ c ≠ '?') : IsBody text where
  start := ⟨text.head nonempty, List.head?_eq_some_head nonempty,
    (plain _ (List.head_mem nonempty)).1⟩
  stop := ⟨text.getLast nonempty, List.getLast?_eq_some_getLast nonempty,
    plain _ (List.getLast_mem nonempty)⟩

theorem isBody_of_isIdentifier {text : List Char} (identifier : isIdentifier text = true) :
    IsBody text := by
  obtain ⟨nonempty, characters⟩ := isIdentifier_iff.mp identifier
  exact isBody_of_all nonempty fun c member =>
    ⟨isBlank_of_isIdentifierChar (characters c member),
      ne_of_isIdentifierChar (characters c member) (by decide)⟩

theorem isBody_of_isPlainName {text : List Char} (plain : isPlainName text = true) :
    IsBody text := by
  simp only [isPlainName, isName, Bool.and_eq_true, Bool.not_eq_true', List.isEmpty_eq_false_iff,
    List.all_eq_true, isNameChar, bne_iff_ne] at plain
  obtain ⟨⟨nonempty, characters⟩, required⟩ := plain
  have tail := List.getLast?_eq_some_getLast nonempty
  exact ⟨⟨text.head nonempty, List.head?_eq_some_head nonempty,
      (characters _ (List.head_mem nonempty)).1⟩,
    ⟨text.getLast nonempty, tail, (characters _ (List.getLast_mem nonempty)).1,
      fun same => required (same ▸ tail)⟩⟩

/-! ## What references begin with -/

theorem dropPrefix?_append (start text : List Char) :
    dropPrefix? start (start ++ text) = some text := by
  induction start with
  | nil => rfl
  | cons c rest ih => simp [dropPrefix?, ih]

theorem dropPrefix?_eq_none {start text : List Char} (other : start.isPrefixOf text = false) :
    dropPrefix? start text = none := by
  induction start generalizing text with
  | nil => simp at other
  | cons c rest ih =>
    cases text with
    | nil => rfl
    | cons d behind =>
      by_cases same : c = d
      · subst same
        simp only [List.isPrefixOf, beq_self_eq_true, Bool.true_and] at other
        simp [dropPrefix?, ih other]
      · simp [dropPrefix?, same]

section Reader

variable {parse : List Char → Parsed Template}

theorem parseTarget_unqualified {name : String} (plain : isPlainName name.toList = true)
    (unqualified : isUnqualified name.toList = true) :
    parseTarget parse name.toList = .ok (.variable name) := by
  have other : ∀ qualifier ∈ qualifiers, dropPrefix? qualifier.toList name.toList = none := by
    intro qualifier member
    refine dropPrefix?_eq_none ?_
    simpa using List.all_eq_true.mp unqualified qualifier member
  have noScope : scoped? name.toList = none := by
    refine List.findSome?_eq_none_iff.mpr fun scope member => ?_
    rw [other scope.qualifier (by cases scope <;> simp [qualifiers, Scope.all]), Option.map_none]
  have isName : isName name.toList = true := (Bool.and_eq_true_iff.mp plain).1
  rw [parseTarget, other _ (by simp [qualifiers]), other _ (by simp [qualifiers]), noScope]
  simp [isName]

theorem parseTarget_qualified (scope : Scope) {name : String}
    (plain : isPlainName name.toList = true) :
    parseTarget parse (scope.qualifier.toList ++ name.toList) = .ok (.scoped scope name) := by
  have noPlugin : dropPrefix? "plugins.".toList (scope.qualifier.toList ++ name.toList) = none := by
    cases scope <;> rfl
  have noStep : dropPrefix? "steps.".toList (scope.qualifier.toList ++ name.toList) = none := by
    cases scope <;> rfl
  have qualified : scoped? (scope.qualifier.toList ++ name.toList) = some (scope, name.toList) := by
    cases scope <;> rfl
  have isName : isName name.toList = true := (Bool.and_eq_true_iff.mp plain).1
  rw [parseTarget, noPlugin, noStep, qualified]
  simp [isName]

/-! ## Plugins -/

private theorem not_mem_identifier {text : List Char} (identifier : isIdentifier text = true)
    {special : Char} (other : isIdentifierChar special = false) : special ∉ text := fun member =>
  ne_of_isIdentifierChar ((isIdentifier_iff.mp identifier).2 special member) other rfl

private theorem point_special : isIdentifierChar '.' = false := by decide

private theorem parenthesis_special : isIdentifierChar '(' = false := by decide

private theorem bracket_special : isIdentifierChar '[' = false := by decide

private theorem parsePlugin_variable {body : List Char} {plugin member : String}
    (pluginName : isIdentifier plugin.toList = true)
    (memberName : isIdentifier member.toList = true) :
    parsePlugin parse body (plugin.toList ++ '.' :: member.toList) =
      .ok (.pluginVariable plugin member) := by
  have noCall : member.toList.dropWhile (· ≠ '(') = [] :=
    dropWhile_ne_of_not_mem (not_mem_identifier memberName parenthesis_special)
  have pointless := not_mem_identifier pluginName point_special
  simp only [parsePlugin, takeWhile_ne_append pointless, dropWhile_ne_append pointless, pluginName,
    noCall, memberName]
  simp

private theorem parsePlugin_call {body : List Char} {plugin function : String}
    (pluginName : isIdentifier plugin.toList = true)
    (functionName : isIdentifier function.toList = true) (source : List Char) :
    parsePlugin parse body
        (plugin.toList ++ '.' :: (function.toList ++ '(' :: (source ++ [')']))) =
      (parseArguments parse body source).map (.pluginCall plugin function) := by
  have pointless := not_mem_identifier pluginName point_special
  have uncalled := not_mem_identifier functionName parenthesis_special
  simp only [parsePlugin, takeWhile_ne_append pointless, dropWhile_ne_append pointless, pluginName,
    takeWhile_ne_append uncalled, dropWhile_ne_append uncalled,
    (isBody_of_isIdentifier functionName).trim_eq, functionName, dropLast?_append]
  cases parseArguments parse body source <;> simp [bind, Except.bind, Except.map]

/-- What a call begins with, up to its opening parenthesis. -/
def callStart (plugin function : String) : String :=
  "plugins." ++ plugin ++ "." ++ function ++ "("

theorem toList_callStart (plugin function : String) :
    (callStart plugin function).toList =
      "plugins.".toList ++ (plugin.toList ++ '.' :: (function.toList ++ ['('])) := by
  simp [callStart]

/-- A call is read by reading its arguments. -/
theorem parseTarget_call {plugin function : String} (pluginName : isIdentifier plugin.toList = true)
    (functionName : isIdentifier function.toList = true) (source : List Char) :
    parseTarget parse ((callStart plugin function).toList ++ (source ++ [')'])) =
      (parseArguments parse ((callStart plugin function).toList ++ (source ++ [')'])) source).map
        (.pluginCall plugin function) := by
  have shape : (callStart plugin function).toList ++ (source ++ [')']) = "plugins.".toList ++
      (plugin.toList ++ '.' :: (function.toList ++ '(' :: (source ++ [')']))) := by
    rw [toList_callStart, List.append_assoc, List.append_assoc, List.cons_append, List.append_assoc,
      List.singleton_append]
  rw [shape, parseTarget, dropPrefix?_append]
  dsimp only
  rw [parsePlugin_call pluginName functionName]

private theorem isBody_quoted (text : List Char) : IsBody (quoted text) :=
  have mark : IsBody ['"'] := ⟨⟨'"', by decide⟩, ⟨'"', by decide⟩⟩
  mark.between (escapeQuotes text) mark

private theorem parseArgument_quoted (body text : List Char) :
    parseArgument parse body (quoted text) = parse text := by
  have nonempty : (quoted text).isEmpty = false := rfl
  simp [parseArgument, nonempty, unquote?_quoted, unescape_escapeQuotes]

/-- Arguments in quotation marks are read one by one, each without its escapes. -/
private theorem parseArguments_quoted (body : List Char) {sources : List (List Char)}
    {arguments : List Template} (parsed : sources.mapM parse = .ok arguments) :
    parseArguments parse body (List.intercalate [',', ' '] (sources.map quoted)) =
      .ok arguments := by
  cases sources with
  | nil =>
    rw [List.mapM_nil] at parsed
    exact parsed
  | cons first others =>
    have visible :
        (List.intercalate [',', ' '] ((first :: others).map quoted)).all isBlank = false := by
      refine List.all_eq_false.mpr ⟨'"', ?_, by decide⟩
      cases others <;> simp [List.intercalate_cons_cons, quoted]
    have pieces : (quoted first :: others.map fun text => ' ' :: quoted text).mapM
        (fun argument => parseArgument parse body (trim argument)) =
          (first :: others).mapM parse := by
      simp [List.mapM_cons, List.mapM_map, Function.comp_def, (isBody_quoted _).trim_eq,
        (isBody_quoted _).trim_space, parseArgument_quoted]
    rw [parseArguments, visible, List.map_cons, splitArguments_intercalate]
    exact pieces.trans parsed

/-! ## Steps -/

theorem splitPath_point (current rest : List Char) :
    splitPath false current ('.' :: rest) =
      (splitPath false [] rest).map (finished current ++ ·) := by
  rw [splitPath, if_neg (by simp), if_pos rfl]

theorem splitPath_plain {segment : List Char} (plain : segment.all isPlainPathChar = true)
    (current rest : List Char) :
    splitPath false current (segment ++ rest) = splitPath false (current ++ segment) rest := by
  induction segment generalizing current with
  | nil => simp
  | cons c others ih =>
    simp only [List.all_cons, Bool.and_eq_true] at plain
    have notPoint : c ≠ '.' := by rintro rfl; simp [isPlainPathChar] at plain
    have notBracket : c ≠ '[' := by rintro rfl; simp [isPlainPathChar] at plain
    rw [List.cons_append, splitPath, if_neg (by simp), if_neg notPoint, if_neg notBracket,
      ih plain.2, List.append_assoc, List.singleton_append]

private theorem splitPath_inside {text : List Char} (unclosed : ∀ c ∈ text, c ≠ ']')
    (current rest : List Char) :
    splitPath true current (text ++ ']' :: rest) =
      (splitPath false [] rest).map (indexText (current ++ text) :: ·) := by
  induction text generalizing current with
  | nil => simp [splitPath]
  | cons c others ih =>
    have tail := ih (fun other member => unclosed other (List.mem_cons_of_mem _ member))
    rw [List.cons_append, splitPath, if_pos rfl, if_neg (unclosed c List.mem_cons_self), tail,
      List.append_assoc, List.singleton_append]

theorem splitPath_bracket {text : List Char} (unclosed : ']' ∉ text) (current rest : List Char) :
    splitPath false current ('[' :: (text ++ ']' :: rest)) =
      (splitPath false [] rest).map fun path => finished current ++ indexText text :: path := by
  have other : ∀ c ∈ text, c ≠ ']' := fun c member => ne_of_mem_of_not_mem member unclosed
  rw [splitPath, if_neg (by simp), if_neg (by decide), if_pos rfl, splitPath_inside other,
    Option.map_map]
  rfl

private theorem trimRight_concat {skipped : Char → Bool} {c : Char} (skip : skipped c = true)
    (text : List Char) : trimRight skipped (text ++ [c]) = trimRight skipped text := by
  simp [trimRight, skip]

/-- Without quotation marks of its own, a segment in brackets loses only those around it. -/
theorem indexText_quoted {segment : List Char}
    (clean : ∀ c ∈ segment, isQuote c = false) :
    indexText ('"' :: (segment ++ ['"'])) = segment := by
  have mark : IsBody ['"'] := ⟨⟨'"', by decide⟩, ⟨'"', by decide⟩⟩
  have trimmed : trim ('"' :: (segment ++ ['"'])) = '"' :: (segment ++ ['"']) :=
    (mark.between segment mark).trim_eq
  rw [indexText, trimmed, ← List.cons_append, trimRight_concat (by decide)]
  by_cases empty : segment = []
  · subst empty
    rfl
  · have last := List.getLast?_eq_some_getLast empty
    have stop : trimRight isQuote ('"' :: segment) = '"' :: segment :=
      trimRight_eq_self (by simpa [List.getLast?_cons, last] using clean _ (List.getLast_mem empty))
    have start : trimLeft isQuote segment = segment :=
      trimLeft_eq_self fun c head => clean c (List.mem_of_head? head)
    rw [stop, trimLeft, List.dropWhile_cons_of_pos (by rfl), ← trimLeft, start]

/-- The segments of a path come back, whichever way each is written. -/
private theorem splitPath_written {path : List String} {source : List Char}
    (written : WrittenPath path source) (current : List Char) :
    splitPath false current source = some (finished current ++ path.map String.toList) := by
  induction written generalizing current with
  | nil => simp [splitPath]
  | @point segment path source plain _ ih =>
    obtain ⟨nonempty, characters⟩ := Bool.and_eq_true_iff.mp plain
    have collected : finished segment.toList = [segment.toList] := by
      simpa [finished] using nonempty
    rw [splitPath_point, splitPath_plain characters, ih]
    simp [collected]
  | @brackets segment path source clean _ ih =>
    simp only [isBracketSegment, List.all_eq_true, Bool.not_eq_true',
      List.contains_eq_mem, decide_eq_false_iff_not, List.mem_cons, List.not_mem_nil, or_false,
      not_or] at clean
    have unquoted : ∀ c ∈ segment.toList, isQuote c = false := fun c member => by
      simp [isQuote, (clean c member).2.1, (clean c member).2.2.1]
    have unclosed : ']' ∉ '"' :: (segment.toList ++ ['"']) := by
      simpa using fun member => (clean ']' member).1 rfl
    have shape : '"' :: (segment.toList ++ '"' :: ']' :: source) =
        '"' :: (segment.toList ++ ['"']) ++ ']' :: source := by simp
    rw [shape, splitPath_bracket unclosed, ih, indexText_quoted unquoted]
    simp [finished]

private theorem head_of_writtenPath {path : List String} {source : List Char}
    (written : WrittenPath path source) :
    ∀ c ∈ source.head?, c = '.' ∨ c = '[' := by
  cases written <;> simp

/-- A reference to a step is read as its path is read. -/
theorem parseTarget_step {id : String} (stepName : isIdentifier id.toList = true)
    {source : List Char} (separate : ∀ c ∈ source.head?, c = '.' ∨ c = '[') :
    parseTarget parse ("steps.".toList ++ (id.toList ++ source)) =
      (splitPath false [] source).elim
        (.error (.malformed (String.ofList ("steps.".toList ++ (id.toList ++ source)))
          .unterminatedIndex))
        fun path => .ok (.step id (path.map String.ofList)) := by
  have noPlugin : dropPrefix? "plugins.".toList ("steps.".toList ++ (id.toList ++ source)) = none :=
    rfl
  have outside : ∀ c ∈ id.toList, (decide (c ≠ '.') && decide (c ≠ '[')) = true := by
    intro c member
    have notPoint := ne_of_mem_of_not_mem member (not_mem_identifier stepName point_special)
    have notBracket := ne_of_mem_of_not_mem member (not_mem_identifier stepName bracket_special)
    simp [notPoint, notBracket]
  have start : source.takeWhile (fun c => c ≠ '.' && c ≠ '[') = [] ∧
      source.dropWhile (fun c => c ≠ '.' && c ≠ '[') = source := by
    cases source with
    | nil => exact ⟨rfl, rfl⟩
    | cons c rest => obtain rfl | rfl := separate c rfl <;> simp
  rw [parseTarget, noPlugin, dropPrefix?_append]
  simp only [parseStep, List.takeWhile_append_of_pos outside, List.dropWhile_append_of_pos outside,
    start, List.append_nil, stepName]
  cases splitPath false [] source <;> simp

end Reader

/-! ## Whole references -/

theorem unmarked_of_isIdentifier {text : List Char} (identifier : isIdentifier text = true) :
    Unmarked text := by
  intro c member
  have character := (isIdentifier_iff.mp identifier).2 c member
  have other (special : Char) (isSpecial : isIdentifierChar special = false) : c ≠ special :=
    ne_of_isIdentifierChar character isSpecial
  simp [isScanned, isQuote, other '"' (by decide), other '\'' (by decide), other '{' (by decide),
    other '}' (by decide), other '\\' (by decide)]

theorem inert_of_isIdentifier {text : List Char} (identifier : isIdentifier text = true) :
    Inert text :=
  (unmarked_of_isIdentifier identifier).inert

theorem unmarked_callStart {plugin function : String}
    (pluginName : isIdentifier plugin.toList = true)
    (functionName : isIdentifier function.toList = true) :
    Unmarked (callStart plugin function).toList := by
  have qualifier : Unmarked "plugins.".toList := by decide
  have point : Unmarked ['.'] := by decide
  have parenthesis : Unmarked ['('] := by decide
  rw [toList_callStart]
  exact qualifier.append ((unmarked_of_isIdentifier pluginName).append
    (point.append ((unmarked_of_isIdentifier functionName).append parenthesis)))

theorem inert_of_isPlainName {text : List Char} (plain : isPlainName text = true) :
    Inert text :=
  inert_of_plain fun c member => by
    simp only [isPlainName, isName, Bool.and_eq_true, List.all_eq_true] at plain
    have character := plain.1.2 c member
    simp only [isNameChar, Bool.and_eq_true, Bool.not_eq_true', List.contains_eq_mem,
      decide_eq_false_iff_not, List.mem_cons, List.not_mem_nil, or_false, not_or] at character
    simp [isScanned, isQuote, character]

private theorem isPlainPathChar_iff {c : Char} :
    isPlainPathChar c = true ↔ (isBlank c = false ∧ c ≠ '?') ∧ isScanned c = false ∧
      c ≠ '.' ∧ c ≠ '[' ∧ c ≠ ']' := by
  simp only [isPlainPathChar, isScanned, isQuote, Bool.and_eq_true, Bool.not_eq_true',
    List.contains_eq_mem, decide_eq_false_iff_not, List.mem_cons, List.not_mem_nil, or_false,
    Bool.or_eq_false_iff, beq_eq_false_iff_ne]
  grind

/-- A path ends where a reader of its reference stops. -/
private theorem isBody_of_writtenPath {path : List String} {source : List Char}
    (written : WrittenPath path source) : source = [] ∨ IsBody source := by
  have bracket : IsBody [']'] := ⟨⟨']', by decide⟩, ⟨']', by decide⟩⟩
  induction written with
  | nil => exact .inl rfl
  | @point segment path source plain _ ih =>
    have point : IsBody ['.'] := ⟨⟨'.', by decide⟩, ⟨'.', by decide⟩⟩
    simp only [isPointSegment, Bool.and_eq_true, Bool.not_eq_true', List.isEmpty_eq_false_iff,
      List.all_eq_true, isPlainPathChar_iff] at plain
    obtain rfl | body := ih
    · have last := isBody_of_all plain.1 fun c member => (plain.2 c member).1
      exact .inr (by simpa using point.between [] last)
    · exact .inr (point.between segment.toList body)
  | @brackets segment path source clean _ ih =>
    have opening : IsBody ['['] := ⟨⟨'[', by decide⟩, ⟨'[', by decide⟩⟩
    obtain rfl | body := ih
    · exact .inr (by simpa using opening.between ('"' :: (segment.toList ++ ['"'])) bracket)
    · exact .inr (by simpa using opening.between ('"' :: (segment.toList ++ ['"', ']'])) body)

private theorem inert_of_writtenPath {path : List String} {source : List Char}
    (written : WrittenPath path source) : Inert source := by
  induction written with
  | nil => exact inert_nil
  | @point segment path source plain _ ih =>
    simp only [isPointSegment, Bool.and_eq_true, List.all_eq_true, isPlainPathChar_iff] at plain
    have start : Inert ('.' :: segment.toList) := inert_of_plain fun c member => by
      obtain rfl | member := List.mem_cons.mp member
      · decide
      · exact (plain.2 c member).2.1
    exact start.append ih
  | @brackets segment path source clean _ ih =>
    have opening : Inert ['['] := inert_of_any (by decide)
    have closing : Inert [']'] := inert_of_any (by decide)
    have unescaped : escapeQuotes segment.toList = segment.toList :=
      escapeQuotes_of_plain fun c member => by
        have character := List.all_eq_true.mp clean c member
        simp only [Bool.not_eq_true', List.contains_eq_mem, decide_eq_false_iff_not, List.mem_cons,
          List.not_mem_nil, or_false, not_or] at character
        exact ⟨character.2.2.2, character.2.1⟩
    have whole := (opening.append (inert_quoted segment.toList)).append (closing.append ih)
    simpa [quoted, unescaped] using whole

private theorem inert_intercalate (sources : List (List Char)) :
    Inert (List.intercalate [',', ' '] (sources.map quoted)) := by
  have comma : Inert [',', ' '] := inert_of_any (by decide)
  induction sources with
  | nil => exact inert_nil
  | cons first others ih =>
    cases others with
    | nil => simpa using inert_quoted first
    | cons second rest =>
      rw [List.map_cons, List.map_cons, List.intercalate_cons_cons]
      exact ((inert_quoted first).append comma).append ih

theorem isBody_step {id : String} (stepName : isIdentifier id.toList = true) {source : List Char}
    (ends : source = [] ∨ IsBody source) : IsBody ("steps.".toList ++ (id.toList ++ source)) := by
  have steps : IsBody "steps.".toList := ⟨⟨'s', by decide⟩, ⟨'.', by decide⟩⟩
  obtain rfl | body := ends
  · simpa using steps.between [] (isBody_of_isIdentifier stepName)
  · exact steps.between id.toList body

theorem isBody_of_writtenTarget {target : Target} {source : List Char}
    (written : WrittenTarget target source) : IsBody source := by
  have plugins : IsBody "plugins.".toList := ⟨⟨'p', by decide⟩, ⟨'.', by decide⟩⟩
  cases written with
  | unqualified plain _ => exact isBody_of_isPlainName plain
  | qualified scope plain =>
    have qualifier : IsBody scope.qualifier.toList := by
      cases scope <;> exact ⟨⟨_, rfl, by decide⟩, ⟨_, rfl, by decide⟩⟩
    exact qualifier.between [] (isBody_of_isPlainName plain)
  | @pluginVariable plugin member _ memberName =>
    simpa using plugins.between (plugin.toList ++ ['.']) (isBody_of_isIdentifier memberName)
  | @pluginCall plugin function arguments sources _ _ _ =>
    have closing : IsBody [')'] := ⟨⟨')', by decide⟩, ⟨')', by decide⟩⟩
    simpa using plugins.between (plugin.toList ++ '.' :: (function.toList ++
      '(' :: List.intercalate [',', ' '] (sources.map quoted))) closing
  | step stepName path => exact isBody_step stepName (isBody_of_writtenPath path)

theorem inert_step {id : String} (stepName : isIdentifier id.toList = true) {source : List Char}
    (inert : Inert source) : Inert ("steps.".toList ++ (id.toList ++ source)) :=
  Inert.append (inert_of_any (by decide)) ((inert_of_isIdentifier stepName).append inert)

theorem inert_of_writtenTarget {target : Target} {source : List Char}
    (written : WrittenTarget target source) : Inert source := by
  have plugins : Inert "plugins.".toList := inert_of_any (by decide)
  have point : Inert ['.'] := inert_of_any (by decide)
  cases written with
  | unqualified plain _ => exact inert_of_isPlainName plain
  | qualified scope plain =>
    have qualifier : Inert scope.qualifier.toList := inert_of_any (by cases scope <;> decide)
    exact qualifier.append (inert_of_isPlainName plain)
  | pluginVariable pluginName memberName =>
    exact plugins.append ((inert_of_isIdentifier pluginName).append
      (point.append (inert_of_isIdentifier memberName)))
  | @pluginCall plugin function arguments sources pluginName functionName _ =>
    have opening : Inert ['('] := inert_of_any (by decide)
    have closing : Inert [')'] := inert_of_any (by decide)
    exact plugins.append ((inert_of_isIdentifier pluginName).append
      (point.append ((inert_of_isIdentifier functionName).append
        (opening.append ((inert_intercalate sources).append closing)))))
  | step stepName path => exact inert_step stepName (inert_of_writtenPath path)

/-! ## Whole templates -/

private theorem inert_marked {target : Target} {source : List Char}
    (written : WrittenTarget target source) (optional : Bool) :
    Inert (source ++ if optional then ['?'] else []) :=
  (inert_of_writtenTarget written).append (inert_of_any (by cases optional <;> decide))

/-- A placeholder is read as what it refers to. -/
theorem parsePiece_of_splitOptional (parse : List Char → Parsed Template) {inner text : List Char}
    {optional : Bool} (marked : splitOptional inner = (text, optional)) (nonempty : text ≠ []) :
    parsePiece parse (.placeholder inner) =
      (parseTarget parse text).map fun target =>
        .placeholder (.mk (String.ofList text) optional target) := by
  have visible : text.isEmpty = false := List.isEmpty_eq_false_iff.mpr nonempty
  rw [parsePiece, parseReference, marked]
  cases parsed : parseTarget parse text <;>
    simp [visible, parsed, bind, Except.bind, Except.map]

theorem parsePiece_placeholder (parse : List Char → Parsed Template) {text : List Char}
    (body : IsBody text) (optional : Bool) :
    parsePiece parse (.placeholder (text ++ if optional then ['?'] else [])) =
      (parseTarget parse text).map fun target =>
        .placeholder (.mk (String.ofList text) optional target) :=
  parsePiece_of_splitOptional parse (splitOptional_of_isBody body optional) body.ne_nil

/-- A placeholder on its own is read as what it refers to, with any bound above its length. -/
theorem parseChars_placeholder {inner text : List Char} {optional : Bool} {bound : Nat}
    (inert : Inert inner) (marked : splitOptional inner = (text, optional)) (nonempty : text ≠ [])
    (within : inner.length + 4 ≤ bound) :
    parseChars ('{' :: '{' :: (inner ++ ['}', '}'])) =
      (parseTarget (parseWithin bound) text).map fun target =>
        [.placeholder (.mk (String.ofList text) optional target)] := by
  have alone := pieces_placeholder inert []
  have read := parsePiece_of_splitOptional (parseWithin bound) marked nonempty
  have whole : ('{' :: '{' :: (inner ++ ['}', '}'])).length ≤ bound := by
    simp only [List.length_cons, List.length_append, List.length_nil]
    omega
  rw [parseChars_eq whole, alone, pieces, List.mapM_cons,
    List.mapM_nil, read]
  cases parseTarget (parseWithin bound) text <;> rfl

private theorem pieces_literal {text : String} {rest : List Segment} {source : List Char}
    (nonempty : text.toList ≠ []) (separate : isSeparate (.literal text) rest = true)
    (others : Written rest source) :
    pieces (escapeBraces text.toList ++ source) = .literal text.toList :: pieces source := by
  cases others with
  | nil =>
    rw [pieces_escapeBraces nonempty (.inl rfl), pieces]
    rfl
  | literal => simp [isSeparate] at separate
  | placeholder optional body _ =>
    rw [pieces_escapeBraces nonempty (.inr separate), pieces_placeholder (inert_marked body optional)]
    rfl

private theorem length_lt_intercalate {source : List Char} {sources : List (List Char)}
    (member : source ∈ sources) :
    source.length < (List.intercalate [',', ' '] (sources.map quoted)).length := by
  have escaped (text : List Char) : text.length < (quoted text).length := by
    induction text with
    | nil => simp [quoted]
    | cons c rest ih =>
      by_cases special : c = '\\' ∨ c = '"' <;>
        simp [quoted, escapeQuotes, special] at ih ⊢ <;> omega
  induction sources with
  | nil => simp at member
  | cons first others ih =>
    have start := escaped first
    cases others with
    | nil => simpa [List.mem_singleton.mp member] using start
    | cons second rest =>
      rw [List.map_cons, List.map_cons, List.intercalate_cons_cons]
      simp only [List.length_append]
      obtain rfl | member := List.mem_cons.mp member
      · omega
      · have shorter := ih member
        rw [List.map_cons] at shorter
        omega

mutual

/-- The arguments of a call stand in shorter texts, which the bound leaves room for. -/
private theorem mapM_pieces {template : List Segment} {source : List Char}
    (written : Written template source) (bound : Nat) (within : source.length ≤ bound) :
    (pieces source).mapM (parsePiece (parseWithin bound)) = .ok template := by
  cases written with
  | nil =>
    rw [pieces]
    rfl
  | @literal text rest source nonempty separate others =>
    have tail := mapM_pieces others bound (by simp at within; omega)
    rw [pieces_literal nonempty separate others, List.mapM_cons, tail]
    simp [parsePiece, bind, Except.bind, pure, Except.pure]
  | @placeholder raw target rest source optional body others =>
    simp only [List.length_cons, List.length_append] at within
    have tail := mapM_pieces others bound (by omega)
    have head := parseTarget_written body bound (by omega)
    have reference := parsePiece_placeholder (parseWithin bound) (isBody_of_writtenTarget body)
      optional
    rw [head, String.ofList_toList] at reference
    rw [pieces_placeholder (inert_marked body optional), List.mapM_cons, tail, reference]
    simp [bind, Except.bind, pure, Except.pure, Except.map]

private theorem parseTarget_written {target : Target} {source : List Char}
    (written : WrittenTarget target source) (bound : Nat) (within : source.length ≤ bound) :
    parseTarget (parseWithin bound) source = .ok target := by
  cases written with
  | unqualified plain isUnqualified => exact parseTarget_unqualified plain isUnqualified
  | qualified scope plain => exact parseTarget_qualified scope plain
  | pluginVariable pluginName memberName =>
    rw [parseTarget, dropPrefix?_append]
    exact parsePlugin_variable pluginName memberName
  | pluginCall pluginName functionName arguments =>
    rw [parseTarget, dropPrefix?_append]
    have read := mapM_arguments arguments bound fun source member => by
      have shorter := length_lt_intercalate member
      simp only [List.length_cons, List.length_append] at within
      omega
    dsimp only
    rw [parsePlugin_call pluginName functionName, parseArguments_quoted _ read]
    rfl
  | step stepName path =>
    rw [parseTarget_step stepName (head_of_writtenPath path), splitPath_written path]
    simp [finished]

private theorem mapM_arguments {arguments : List (List Segment)} {sources : List (List Char)}
    (written : WrittenArguments arguments sources) (bound : Nat)
    (within : ∀ source ∈ sources, source.length < bound) :
    sources.mapM (parseWithin bound) = .ok arguments := by
  cases written with
  | nil => rfl
  | @cons argument arguments source sources written others =>
    have first := within source List.mem_cons_self
    obtain ⟨inner, rfl⟩ : ∃ inner, bound = inner + 1 := ⟨bound - 1, by omega⟩
    have head := mapM_pieces written inner (by omega)
    have tail := mapM_arguments others (inner + 1) fun other member =>
      within other (List.mem_cons_of_mem _ member)
    rw [List.mapM_cons, tail, parseWithin, head]
    rfl

end

/-- Reading gives back what was written. -/
theorem parseChars_written {template : Template} {source : List Char}
    (written : Written template source) : parseChars source = .ok template :=
  mapM_pieces written _ le_rfl

/-! ## The printer -/

private theorem written_pathSource {path : List String}
    (well : (path.all fun segment =>
      isPointSegment segment.toList || isBracketSegment segment.toList) = true) :
    WrittenPath path (path.flatMap fun segment => pathSegmentSource segment.toList) := by
  induction path with
  | nil => exact .nil
  | cons segment rest ih =>
    simp only [List.all_cons, Bool.and_eq_true, Bool.or_eq_true] at well
    rw [List.flatMap_cons, pathSegmentSource, ← isPointSegment]
    by_cases plain : isPointSegment segment.toList = true
    · rw [if_pos plain]
      exact .point plain (ih well.2)
    · rw [if_neg plain]
      simpa using WrittenPath.brackets (well.1.resolve_left plain) (ih well.2)

mutual

private theorem written_segmentsSource {template : List Segment}
    (well : wellFormed template = true) : Written template (segmentsSource template) := by
  cases template with
  | nil => exact .nil
  | cons segment rest =>
    simp only [wellFormed, Bool.and_eq_true] at well
    obtain ⟨⟨first, separate⟩, others⟩ := well
    have tail := written_segmentsSource others
    cases segment with
    | literal text =>
      have nonempty : text.toList ≠ [] := by simpa [wellFormedSegment] using first
      exact .literal nonempty separate tail
    | placeholder reference =>
      obtain ⟨raw, optional, target⟩ := reference
      simp only [wellFormedSegment, wellFormedReference, Bool.and_eq_true, beq_iff_eq] at first
      have body := written_targetSource first.2
      rw [← first.1] at body
      simpa [segmentsSource, segmentSource, referenceSource, first.1] using
        Written.placeholder optional body tail

private theorem written_targetSource {target : Target} (well : wellFormedTarget target = true) :
    WrittenTarget target (targetSource target) := by
  cases target with
  | «variable» name =>
    obtain ⟨plain, unqualified⟩ := Bool.and_eq_true_iff.mp well
    exact targetSource_variable name ▸ .unqualified plain unqualified
  | «scoped» scope name => exact targetSource_scoped scope name ▸ .qualified scope well
  | pluginVariable plugin member =>
    obtain ⟨pluginName, memberName⟩ := Bool.and_eq_true_iff.mp well
    simpa [targetSource_pluginVariable] using WrittenTarget.pluginVariable pluginName memberName
  | pluginCall plugin function arguments =>
    simp only [wellFormedTarget, Bool.and_eq_true] at well
    obtain ⟨⟨pluginName, functionName⟩, arguments⟩ := well
    obtain ⟨sources, written, same⟩ := written_argumentSources arguments
    simpa [targetSource_pluginCall, same] using
      WrittenTarget.pluginCall pluginName functionName written
  | step id path =>
    obtain ⟨stepName, path⟩ := Bool.and_eq_true_iff.mp well
    simpa [targetSource_step] using WrittenTarget.step stepName (written_pathSource path)

private theorem written_argumentSources {arguments : List (List Segment)}
    (well : wellFormedArguments arguments = true) :
    ∃ sources, WrittenArguments arguments sources ∧
      argumentSources arguments = sources.map quoted := by
  cases arguments with
  | nil => exact ⟨[], .nil, rfl⟩
  | cons argument rest =>
    obtain ⟨first, others⟩ := Bool.and_eq_true_iff.mp well
    obtain ⟨sources, written, same⟩ := written_argumentSources others
    exact ⟨segmentsSource argument :: sources, .cons (written_segmentsSource first) written,
      by rw [argumentSources, same, List.map_cons]⟩

end

/-- Reading undoes writing, by the printer or in any other way that the grammar allows. -/
theorem parse_written (template : Template) :
    (wellFormed template = true → parse (source template) = .ok template) ∧
      ∀ text, Written template text → parse (String.ofList text) = .ok template := by
  refine ⟨fun well => ?_, fun text written => ?_⟩
  · rw [parse, source, String.toList_ofList]
    exact parseChars_written (written_segmentsSource well)
  · rw [parse, String.toList_ofList]
    exact parseChars_written written

/-- A call whose argument holds braces, quotation marks, a comma and another call. -/
def nestedCall : Template :=
  [.literal "/\x7b\x7bx\x7d\x7d ",
    .placeholder (.mk
      "plugins.p.f(\"say \\\"\\\\\x7b\x7bhi\\\", \x7b\x7bplugins.q.g(\\\"'\\\")?\x7d\x7d\", \"\")" true
      (.pluginCall "p" "f"
        [[.literal "say \"\x7b\x7bhi\", ",
          .placeholder (.mk "plugins.q.g(\"'\")" true (.pluginCall "q" "g" [[.literal "'"]]))],
          []]))]

/-- A path with a plain segment in brackets, where the printer would write a point. -/
def bracketed : Template :=
  [.placeholder (.mk "steps.a[\"b\"]" false (.step "a" ["b"]))]

theorem parse_nestedCall_bracketed :
    (wellFormed nestedCall = true ∧ parse (source nestedCall) = .ok nestedCall) ∧
      Written bracketed "\x7b\x7bsteps.a[\"b\"]\x7d\x7d".toList ∧
        parse (String.ofList "\x7b\x7bsteps.a[\"b\"]\x7d\x7d".toList) = .ok bracketed := by
  have well : wellFormed nestedCall = true := by decide
  have path : WrittenPath ["b"] "[\"b\"]".toList := .brackets (by decide) .nil
  have written : Written bracketed "\x7b\x7bsteps.a[\"b\"]\x7d\x7d".toList :=
    .placeholder false (.step (by decide) path) .nil
  exact ⟨⟨well, (parse_written nestedCall).1 well⟩, written,
    (parse_written bracketed).2 _ written⟩

end RequestChain.Template
