import RequestChain.Proofs.Template.OctetScans
import RequestChain.Proofs.Text.Cutting

/-! # Reading octets is reading characters

Function by function, the reader that works with positions gives what the reader of characters
gives. Its positions come from the scans, which leave them in front of characters, so that no part
is cut inside a character and nothing is looked at out of bounds.
-/

namespace RequestChain.Template.Octets

open Text

/-! ## Results -/

section Results

variable {α β : Type}

@[simp] theorem guarded_ok (value : α) : guarded (.ok value) = .ok value := rfl

theorem guarded_malformed (body : List Char) (cause : Malformation) :
    guarded (.error (.malformed (String.ofList body) cause) : Parsed α) = refuse body cause := rfl

theorem guarded_bind (parsed : Parsed α) (next : α → Parsed β) :
    guarded (parsed >>= next) = guarded parsed >>= fun value => guarded (next value) := by
  cases parsed <;> rfl

theorem guarded_mapM (read : α → Parsed β) (items : List α) :
    guarded (items.mapM read) = items.mapM fun item => guarded (read item) := by
  induction items with
  | nil => rfl
  | cons item others ih =>
    rw [List.mapM_cons, List.mapM_cons, guarded_bind, ← ih]
    congr 1
    funext value
    rw [guarded_bind]
    rfl

theorem guarded_ne_fault (parsed : Parsed α) : guarded parsed ≠ .error .fault := by
  cases parsed <;> simp [guarded, Except.mapError]

end Results

/-! ## Arguments -/

/-- Where a text ends in an ASCII character, its last octet is the one of this character. -/
private theorem octetAt_last {text : List Char} {c : Char} (ascii : c.toNat < 0x80)
    (last : text.getLast? = some c) :
    octetAt (utf8Encode text) ((utf8Encode text).length - 1) = .ok c.toUInt8 := by
  apply octetAt_of_found
  rw [← List.getLast?_eq_getElem?]
  exact (getLast?_utf8Encode_iff ascii).mpr last

/-- Where it ends in another character, its last octet is another one. -/
private theorem exists_last_ne {text : List Char} {c : Char} (ascii : c.toNat < 0x80)
    (nonempty : 0 < (utf8Encode text).length) (other : text.getLast? ≠ some c) :
    ∃ octet, octetAt (utf8Encode text) ((utf8Encode text).length - 1) = .ok octet ∧
      octet ≠ c.toUInt8 := by
  have last := List.getElem?_eq_getElem (Nat.sub_one_lt_of_lt nonempty)
  refine ⟨_, octetAt_of_found last, fun same => other ?_⟩
  rw [← getLast?_utf8Encode_iff ascii, List.getLast?_eq_getElem?, last, same]

/-- The quotation marks around an argument are found at its first and its last octet. -/
theorem quotedText?_eq {argument : List Char} (nonempty : argument ≠ []) :
    quotedText? argument = .ok (unquote? argument) := by
  obtain ⟨c, rest, rfl⟩ := List.exists_cons_of_ne_nil nonempty
  obtain ⟨octet, found, same⟩ := (reads_start (c :: rest)).exists_octet
  have isMark : isMark octet = isQuote c := by
    rw [Bool.eq_iff_iff, isMark_iff same]
    simp [isQuote]
  rw [quotedText?, octetAt_of_found found, ok_bind, isMark, unquote?]
  by_cases quotes : isQuote c = true
  · have ascii : c.toNat < 0x80 := isAscii_of_quotes ((isMark_iff same).mp (isMark ▸ quotes)) c rfl
    obtain rfl := (same c ascii).mpr rfl
    rw [if_pos quotes]
    by_cases closed : rest.getLast? = some c
    · obtain ⟨content, rfl⟩ := List.getLast?_eq_some_iff.mp closed
      have whole : c :: (content ++ [c]) = [c] ++ content ++ [c] := rfl
      have size :
          (utf8Encode ([c] ++ content ++ [c])).length = octetCount ([c] ++ content) + 1 := by
        rw [← octetCount, octetCount_append, octetCount_of_ascii ascii]
      have part := slice_append [c] content [c]
      rw [octetCount_of_ascii ascii] at part
      have two : 2 ≤ octetCount ([c] ++ content) + 1 := by
        rw [octetCount_append, octetCount_of_ascii ascii]
        omega
      rw [whole, octetAt_last ascii List.getLast?_concat, size, if_pos ⟨quotes, two⟩, ok_bind,
        if_pos rfl, Nat.add_sub_cancel, part, ok_bind, dropLast?_append]
    · rw [dropLast?, if_neg closed]
      split
      · rename_i long
        have more : rest ≠ [] := by
          rintro rfl
          have single := octetCount_of_ascii ascii
          rw [octetCount] at single
          omega
        rw [← List.getLast?_cons_of_ne_nil more] at closed
        have filled : 0 < (utf8Encode (c :: rest)).length := by omega
        obtain ⟨octet, last, other⟩ := exists_last_ne ascii filled closed
        rw [last, ok_bind, if_neg other]
      · rfl
  · rw [if_neg quotes, if_neg fun quoted => quotes quoted.1]

section Readers

variable {parse : List Char → Parsed Template}

theorem parseArgument_eq (body argument : List Char) :
    parseArgument (fun text => guarded (parse text)) body argument =
      guarded (Template.parseArgument parse body argument) := by
  rw [parseArgument, Template.parseArgument]
  by_cases empty : argument.isEmpty
  · rw [if_pos empty, if_pos empty, guarded_malformed]
  · rw [if_neg empty, if_neg empty, quotedText?_eq (by simpa using empty), ok_bind]
    cases unquote? argument with
    | some content => rfl
    | none =>
      dsimp only
      split
      · rfl
      · split <;> rfl

theorem parseArguments_eq (body source : List Char) :
    parseArguments (fun text => guarded (parse text)) body source =
      guarded (Template.parseArguments parse body source) := by
  rw [parseArguments, Template.parseArguments]
  by_cases blank : source.all isBlank
  · rw [if_pos blank, if_pos blank, guarded_ok]
  · rw [if_neg blank, if_neg blank, argumentsFrom_eq, ok_bind]
    cases splitArguments 0 0 none source with
    | none => rfl
    | some arguments =>
      simp only [parseArgument_eq, guarded_mapM]

/-! ## References -/

/-- A plugin, its member and the arguments of a call are cut apart where the characters are. No
blank stands behind the member. -/
theorem parsePlugin_eq {rest : List Char} (body : List Char)
    (stop : ∀ c, rest.getLast? = some c → isBlank c = false) :
    parsePlugin (fun text => guarded (parse text)) body rest =
      guarded (Template.parsePlugin parse body rest) := by
  rw [parsePlugin, Template.parsePlugin]
  have whole := List.takeWhile_append_dropWhile (p := (· ≠ '.')) (l := rest)
  cases behind : rest.dropWhile (· ≠ '.') with
  | nil => rfl
  | cons point member =>
    have kept : trimEnd member = member := by
      refine trimRight_eq_self fun c last => stop c ?_
      rw [← whole, behind, List.getLast?_append, List.getLast?_cons, last]
      rfl
    dsimp only
    rw [kept]
    by_cases name : (!isIdentifier (rest.takeWhile (· ≠ '.'))) = true
    · rw [if_pos name, if_pos name]
      rfl
    rw [if_neg name, if_neg name]
    by_cases isCall : '(' ∈ member
    · obtain ⟨front, call, rfl, absent⟩ := List.eq_append_cons_of_mem isCall
      have function := slice_start front ('(' :: call)
      have arguments := slice_end (front ++ ['(']) call
      rw [octetCount_append, octetCount_of_ascii (by decide), List.append_assoc] at arguments
      rw [position?_append absent, dropWhile_ne_append absent, takeWhile_ne_append absent]
      dsimp only
      rw [function, ok_bind]
      by_cases functionName : (!isIdentifier (trim front)) = true
      · rw [if_pos functionName, if_pos functionName]
        rfl
      rw [if_neg functionName, if_neg functionName, ← List.singleton_append, arguments, ok_bind]
      cases dropLast? ')' call with
      | none => rfl
      | some source =>
        dsimp only
        rw [parseArguments_eq, guarded_bind]
        rfl
    · rw [position?_of_not_mem isCall, dropWhile_ne_of_not_mem isCall]
      dsimp only
      split <;> rfl

/-- The name of a step is cut off where the characters are. -/
theorem parseStep_eq (body rest : List Char) :
    parseStep body rest = guarded (Template.parseStep body rest) := by
  have front : (fun c => !(decide (c = '.') || decide (c = '['))) =
      fun c => c ≠ '.' && c ≠ '[' := by
    funext c
    simp
  have whole := List.takeWhile_append_dropWhile (p := fun c => c ≠ '.' && c ≠ '[') (l := rest)
  have name := slice_start (rest.takeWhile fun c => c ≠ '.' && c ≠ '[')
    (rest.dropWhile fun c => c ≠ '.' && c ≠ '[')
  have path := slice_end (rest.takeWhile fun c => c ≠ '.' && c ≠ '[')
    (rest.dropWhile fun c => c ≠ '.' && c ≠ '[')
  rw [whole] at name path
  rw [parseStep, Template.parseStep, getD_position?, front, name, ok_bind, path, ok_bind]
  split
  · rfl
  · cases splitPath false [] (rest.dropWhile fun c => c ≠ '.' && c ≠ '[') <;> rfl

theorem parseTarget_eq {body : List Char} (stop : ∀ c, body.getLast? = some c → isBlank c = false) :
    parseTarget (fun text => guarded (parse text)) body =
      guarded (Template.parseTarget parse body) := by
  rw [parseTarget, Template.parseTarget]
  cases plugin : dropPrefix? "plugins.".toList body with
  | some rest =>
    refine parsePlugin_eq body fun c last => stop c ?_
    rw [dropPrefix?_eq_some_iff.mp plugin, List.getLast?_append, last, Option.some_or]
  | none =>
    dsimp only
    cases dropPrefix? "steps.".toList body with
    | some rest => exact parseStep_eq body rest
    | none =>
      dsimp only
      cases scoped? body with
      | some found =>
        dsimp only
        split <;> rfl
      | none =>
        dsimp only
        split <;> rfl

private theorem getLast?_splitOptional (inner : List Char) (c : Char)
    (last : (splitOptional inner).1.getLast? = some c) : isBlank c = false := by
  rw [splitOptional] at last
  split at last
  · exact getLast?_trimEnd last
  · exact getLast?_trim last

theorem parseReference_eq (inner : List Char) :
    parseReference (fun text => guarded (parse text)) inner =
      guarded (Template.parseReference parse inner) := by
  rw [parseReference, Template.parseReference]
  have stop := getLast?_splitOptional inner
  generalize splitOptional inner = parts at stop
  obtain ⟨body, optional⟩ := parts
  dsimp only at stop ⊢
  split
  · rfl
  · rw [parseTarget_eq stop, guarded_bind]
    rfl

/-! ## Templates -/

/-- Pieces behind literal text that has been collected. -/
def withLiteral (collected : List Char) (rest : List Piece) : List Piece :=
  if collected.isEmpty then rest else consLiteral collected rest

theorem withLiteral_consLiteral (collected : List Char) {text : List Char} (nonempty : text ≠ [])
    (rest : List Piece) :
    withLiteral collected (consLiteral text rest) = withLiteral (collected ++ text) rest := by
  cases collected with
  | nil => simp [withLiteral, nonempty]
  | cons c others => simp [withLiteral, consLiteral_consLiteral]

/-- The collected text is a segment of its own in front of a placeholder. -/
theorem mapM_withLiteral (collected inner : List Char) (rest : List Piece) :
    (withLiteral collected (.placeholder inner :: rest)).mapM (parsePiece parse) =
      (do
        let reference ← Template.parseReference parse inner
        let others ← rest.mapM (parsePiece parse)
        .ok (literalSegment collected ++ .placeholder reference :: others)) := by
  have literal : ∀ text, parsePiece parse (.literal text) = pure (.literal (String.ofList text)) :=
    fun _ => rfl
  cases collected with
  | nil =>
    simp [withLiteral, literalSegment, parsePiece, List.mapM_cons]
    rfl
  | cons c others =>
    simp [withLiteral, literalSegment, consLiteral, parsePiece, List.mapM_cons]
    rfl

theorem mapM_withLiteral_nil (collected : List Char) :
    (withLiteral collected []).mapM (parsePiece parse) = .ok (literalSegment collected) := by
  cases collected <;> rfl

/-! ### One step, by what the text begins with -/

section Steps

variable {read : List Char → Guarded Reference} {front collected rest : List Char}

private theorem octetCount_lt {text : List Char} (nonempty : text ≠ []) :
    octetCount front < octetCount (front ++ text) := by
  obtain ⟨c, rest, rfl⟩ := List.exists_cons_of_ne_nil nonempty
  have positive := c.utf8Size_pos
  rw [octetCount_append, octetCount_cons]
  omega

theorem segmentsFrom_escape :
    segmentsFrom read (front ++ '\\' :: '{' :: '{' :: rest) collected (octetCount front) =
      segmentsFrom read (front ++ '\\' :: '{' :: '{' :: rest) (collected ++ ['{', '{'])
        (octetCount (front ++ ['\\', '{', '{'])) := by
  rw [segmentsFrom, if_pos (octetCount_lt (by simp)), slice_end, ok_bind, if_pos (by simp),
    octetCount_append]
  rfl

theorem segmentsFrom_unclosed (unclosed : splitPlaceholder 0 none rest = none) :
    segmentsFrom read (front ++ '{' :: '{' :: rest) collected (octetCount front) =
      .ok (literalSegment (collected ++ '{' :: '{' :: rest)) := by
  have found := endFrom_eq (front ++ ['{', '{']) rest 0
  rw [unclosed, List.append_assoc, octetCount_append] at found
  rw [segmentsFrom, if_pos (octetCount_lt (by simp)), slice_end, ok_bind, if_neg (by simp),
    if_pos (by simp)]
  split
  · rename_i halted
    cases found.symm.trans halted
  · rfl
  · rename_i ended
    cases found.symm.trans ended

theorem segmentsFrom_placeholder {inner behind : List Char}
    (closed : splitPlaceholder 0 none rest = some (inner, behind)) :
    segmentsFrom read (front ++ '{' :: '{' :: rest) collected (octetCount front) =
      (do
        let reference ← read inner
        let others ← segmentsFrom read (front ++ '{' :: '{' :: rest) []
          (octetCount (front ++ ['{', '{'] ++ inner ++ ['}', '}']))
        .ok (literalSegment collected ++ .placeholder reference :: others)) := by
  have found := endFrom_eq (front ++ ['{', '{']) rest 0
  rw [closed, List.append_assoc, octetCount_append] at found
  have part : slice (front ++ '{' :: '{' :: rest) (octetCount front + 2)
      (octetCount (front ++ ['{', '{'] ++ inner)) = .ok inner := by
    have between := slice_append (front ++ ['{', '{']) inner ('}' :: '}' :: behind)
    rw [List.append_assoc, ← splitPlaceholder_eq closed, List.append_assoc,
      octetCount_append front] at between
    exact between
  rw [segmentsFrom, if_pos (octetCount_lt (by simp)), slice_end, ok_bind, if_neg (by simp),
    if_pos (by simp)]
  split
  · rename_i halted
    cases found.symm.trans halted
  · rename_i unended
    cases found.symm.trans unended
  · rename_i ended
    cases found.symm.trans ended
    dsimp only
    rw [part, ok_bind, octetCount_append _ ['}', '}']]
    rfl

theorem segmentsFrom_plain {c : Char}
    (escaped : ∀ tail, c = '\\' → rest = '{' :: '{' :: tail → False)
    (opened : ∀ tail, c = '{' → rest = '{' :: tail → False) :
    segmentsFrom read (front ++ c :: rest) collected (octetCount front) =
      segmentsFrom read (front ++ c :: rest) (collected ++ [c]) (octetCount (front ++ [c])) := by
  have noEscape : ¬ ['\\', '{', '{'].isPrefixOf (c :: rest) := by
    rw [List.isPrefixOf_iff_prefix]
    rintro ⟨tail, same⟩
    cases same
    exact escaped tail rfl rfl
  have noOpening : ¬ ['{', '{'].isPrefixOf (c :: rest) := by
    rw [List.isPrefixOf_iff_prefix]
    rintro ⟨tail, same⟩
    cases same
    exact opened tail rfl rfl
  rw [segmentsFrom, if_pos (octetCount_lt (by simp)), slice_end, ok_bind, if_neg noEscape,
    if_neg noOpening, octetCount_append, octetCount_cons, octetCount_nil, Nat.add_zero]

end Steps

/-! ### The whole text -/

/-- In front of a text, the segments are those of its pieces. -/
theorem segmentsFrom_eq (front text collected : List Char) :
    segmentsFrom (fun inner => guarded (Template.parseReference parse inner)) (front ++ text)
        collected (octetCount front) =
      guarded ((withLiteral collected (pieces text)).mapM (parsePiece parse)) := by
  generalize whole : front ++ text = source
  fun_induction pieces text generalizing front collected with
  | case1 =>
    rw [List.append_nil] at whole
    rw [whole, segmentsFrom, if_neg (Nat.lt_irrefl _), mapM_withLiteral_nil]
    rfl
  | case2 rest ih =>
    rw [← whole, segmentsFrom_escape, whole, withLiteral_consLiteral _ (by simp)]
    exact ih _ _ (by simp [← whole])
  | case3 rest unclosed =>
    have single : [.literal ('{' :: '{' :: rest)] = consLiteral ('{' :: '{' :: rest) [] := rfl
    rw [← whole, segmentsFrom_unclosed unclosed, single, withLiteral_consLiteral _ (by simp),
      mapM_withLiteral_nil, guarded_ok]
  | case4 rest inner behind closed ih =>
    have next := ih (front ++ ['{', '{'] ++ inner ++ ['}', '}']) []
      (by simp [← whole, splitPlaceholder_eq closed])
    rw [← whole, segmentsFrom_placeholder closed, whole, next, mapM_withLiteral]
    simp only [guarded_bind, guarded_ok]
    rfl
  | case5 c rest escaped opened ih =>
    rw [← whole, segmentsFrom_plain escaped opened, whole, withLiteral_consLiteral _ (by simp)]
    exact ih _ _ (by simp [← whole])

end Readers

theorem parseWithin_eq (bound : Nat) :
    parseWithin bound = fun source => guarded (Template.parseWithin bound source) := by
  induction bound with
  | zero => rfl
  | succ bound ih =>
    funext source
    have references : parseReference (parseWithin bound) =
        fun inner => guarded (Template.parseReference (Template.parseWithin bound) inner) := by
      funext inner
      rw [ih, parseReference_eq]
    rw [parseWithin, references]
    exact segmentsFrom_eq [] source []

/-- The reader of octets reads what the reader of characters reads. -/
theorem parse_eq (source : String) : parse source = guarded (Template.parse source) :=
  congrFun (parseWithin_eq _) _

/-- Positions are safe in every text. Behind any beginning, the scan over octets finds the end of a
placeholder at the boundary behind the characters that the scan over characters takes; the arguments
it cuts out between its positions are the arguments of characters; and with all its positions and
parts, the reader of octets never faults but reads, or refuses, what the reader of characters reads
or refuses. -/
theorem octets_read_as_characters :
    (∀ (front back : List Char) (depth : Nat),
      endFrom (utf8Encode (front ++ back)) depth (octetCount front) =
        .ok ((splitPlaceholder depth none back).map fun parts => octetCount (front ++ parts.1))) ∧
    (∀ source : List Char,
      argumentsFrom source 0 0 0 0 = .ok (splitArguments 0 0 none source)) ∧
    ∀ source : String,
      parse source = guarded (Template.parse source) ∧ parse source ≠ .error .fault := by
  refine ⟨endFrom_eq, argumentsFrom_eq, fun source => ⟨parse_eq source, ?_⟩⟩
  rw [parse_eq]
  exact guarded_ne_fault _

end RequestChain.Template.Octets
