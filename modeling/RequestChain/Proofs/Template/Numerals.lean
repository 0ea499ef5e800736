import RequestChain.Proofs.Template.Crossing
import RequestChain.Proofs.Template.RoundTrip
import RequestChain.Proofs.Template.Selectors

/-! # Numbers as arguments

An argument of a call that stands neither in quotation marks nor in braces has to be a number: digits
behind an optional sign, with an optional point among them or at their ends, and an optional
exponent. The grammar is stated for any class of digits, and the reader follows it with the decimal
digits of every script. So for texts without digits of other scripts it follows the grammar with the
digits of ASCII, but a number in digits of another script is an argument as well.
-/

namespace RequestChain.Template

open Text

/-! ## The grammar of numbers -/

/-- Nothing, or a sign. -/
def IsSign (text : List Char) : Prop :=
  text = [] ∨ text = ['+'] ∨ text = ['-']

section

variable (isDigit : Char → Bool)

/-- Digits, maybe with a point behind or among them, or a point and digits. -/
inductive Mantissa : List Char → Prop
  | whole {digits : List Char} (run : IsRun isDigit digits) : Mantissa digits
  | point {digits fraction : List Char} (run : IsRun isDigit digits)
      (more : ∀ c ∈ fraction, isDigit c = true) : Mantissa (digits ++ '.' :: fraction)
  | fraction {digits : List Char} (run : IsRun isDigit digits) : Mantissa ('.' :: digits)

/-- Nothing, or the letter e in either case, an optional sign and digits. -/
inductive Exponent : List Char → Prop
  | none : Exponent []
  | some {mark : Char} {sign digits : List Char} (isMark : mark = 'e' ∨ mark = 'E')
      (signed : IsSign sign) (run : IsRun isDigit digits) : Exponent (mark :: (sign ++ digits))

/-- An optional sign, digits with an optional point, and an optional exponent. -/
inductive Numeral : List Char → Prop
  | mk {sign digits exponent : List Char} (signed : IsSign sign)
      (mantissa : Mantissa isDigit digits) (scaled : Exponent isDigit exponent) :
      Numeral (sign ++ (digits ++ exponent))

end

section

variable {isDigit other : Char → Bool} {text : List Char}

/-- A number has a digit. -/
theorem Numeral.exists_digit (numeral : Numeral isDigit text) : ∃ c ∈ text, isDigit c = true := by
  obtain ⟨-, mantissa, -⟩ := numeral
  have digit {digits : List Char} (run : IsRun isDigit digits) : ∃ c ∈ digits, isDigit c = true := by
    obtain ⟨c, others, rfl, isDigit⟩ := run.exists_cons
    exact ⟨c, List.mem_cons_self, isDigit⟩
  cases mantissa with
  | whole run =>
    obtain ⟨c, member, isDigit⟩ := digit run
    exact ⟨c, by simp [member], isDigit⟩
  | point run _ =>
    obtain ⟨c, member, isDigit⟩ := digit run
    exact ⟨c, by simp [member], isDigit⟩
  | fraction run =>
    obtain ⟨c, member, isDigit⟩ := digit run
    exact ⟨c, by simp [member], isDigit⟩

/-- What a number is depends only on which of its characters are digits. -/
theorem Numeral.mono (numeral : Numeral isDigit text)
    (also : ∀ c ∈ text, isDigit c = true → other c = true) : Numeral other text := by
  have run {digits : List Char} (run : IsRun isDigit digits) (part : digits ⊆ text) :
      IsRun other digits :=
    ⟨run.1, fun c member => also c (part member) (run.2 c member)⟩
  obtain ⟨signed, mantissa, scaled⟩ := numeral
  refine ⟨signed, ?_, ?_⟩
  · cases mantissa with
    | whole digits => exact .whole (run digits (by simp))
    | @point _ fraction digits more =>
      exact .point (run digits (by simp)) fun c member =>
        also c (by simp [member]) (more c member)
    | fraction digits =>
      exact .fraction (run digits fun c member => by simp [member])
  · cases scaled with
    | none => exact .none
    | @some mark sign _ isMark signed digits =>
      exact .some isMark signed (run digits fun c member => by simp [member])

end

/-! ## Reading numbers -/

private theorem exists_sign (text : List Char) :
    ∃ sign, IsSign sign ∧ text = sign ++ dropSign text := by
  fun_cases dropSign text with
  | case1 rest => exact ⟨['+'], .inr (.inl rfl), rfl⟩
  | case2 rest => exact ⟨['-'], .inr (.inr rfl), rfl⟩
  | case3 => exact ⟨[], .inl rfl, rfl⟩

private theorem dropSign_append {sign text : List Char} (signed : IsSign sign)
    (unsigned : ∀ c ∈ text.head?, c ≠ '+' ∧ c ≠ '-') : dropSign (sign ++ text) = text := by
  obtain rfl | rfl | rfl := signed
  · cases text with
    | nil => rfl
    | cons c rest =>
      obtain ⟨notPlus, notMinus⟩ := unsigned c rfl
      rw [List.nil_append, dropSign]
      · exact fun _ same => notPlus (List.cons.inj same).1
      · exact fun _ same => notMinus (List.cons.inj same).1
  · rfl
  · rfl

private theorem unsigned_of_digit {c : Char} (digit : isDecimalDigit c = true) :
    c ≠ '+' ∧ c ≠ '-' := by
  constructor <;> (rintro rfl; exact absurd digit (by decide))

theorem isExponent_iff {text : List Char} :
    isExponent text = true ↔ Exponent isDecimalDigit text := by
  constructor
  · intro accepted
    cases text with
    | nil => exact .none
    | cons mark rest =>
      simp only [isExponent, Bool.and_eq_true, Bool.or_eq_true, beq_iff_eq, Bool.not_eq_true',
        List.isEmpty_eq_false_iff, List.all_eq_true] at accepted
      obtain ⟨⟨isMark, nonempty⟩, digits⟩ := accepted
      obtain ⟨sign, signed, shape⟩ := exists_sign rest
      rw [shape]
      exact .some isMark signed ⟨nonempty, digits⟩
  · rintro (_ | ⟨isMark, signed, run⟩)
    · rfl
    · obtain ⟨first, others, rfl, digit⟩ := run.exists_cons
      have cut : dropSign (_ ++ first :: others) = first :: others :=
        dropSign_append signed (by simpa using unsigned_of_digit digit)
      have digits := List.all_eq_true.mpr run.2
      simp [isExponent, isMark, cut, digits]

/-- An exponent does not go on with the digits in front of it, nor with a point. -/
private theorem Exponent.start {text : List Char} (scaled : Exponent isDecimalDigit text) :
    Stops isDecimalDigit text ∧ ∀ rest, text ≠ '.' :: rest := by
  cases scaled with
  | none => exact ⟨nofun, nofun⟩
  | some isMark signed run =>
    obtain rfl | rfl := isMark
    · exact ⟨fun c same => by cases same; decide, nofun⟩
    · exact ⟨fun c same => by cases same; decide, nofun⟩

private theorem mantissa_of_point {digits fraction : List Char}
    (before : ∀ c ∈ digits, isDecimalDigit c = true)
    (behind : ∀ c ∈ fraction, isDecimalDigit c = true) (some : digits ≠ [] ∨ fraction ≠ []) :
    Mantissa isDecimalDigit (digits ++ '.' :: fraction) := by
  by_cases none : digits = []
  · subst none
    exact .fraction ⟨some.resolve_left (· rfl), behind⟩
  · exact .point ⟨none, before⟩ behind

private theorem isNumber_unsigned {text : List Char} (accepted : isNumber text = true) :
    ∃ digits exponent, dropSign text = digits ++ exponent ∧ Mantissa isDecimalDigit digits ∧
      Exponent isDecimalDigit exponent := by
  rw [isNumber] at accepted
  generalize dropSign text = unsigned at accepted ⊢
  have cut := List.takeWhile_append_dropWhile (p := isDecimalDigit) (l := unsigned)
  have digits : ∀ c ∈ unsigned.takeWhile isDecimalDigit, isDecimalDigit c = true :=
    fun c => List.mem_takeWhile_imp
  split at accepted
  next rest pointed =>
    simp only [Bool.and_eq_true, Bool.or_eq_true, Bool.not_eq_true', List.isEmpty_eq_false_iff]
      at accepted
    refine ⟨unsigned.takeWhile isDecimalDigit ++ '.' :: rest.takeWhile isDecimalDigit,
      rest.dropWhile isDecimalDigit, ?_, ?_, isExponent_iff.mp accepted.2⟩
    · rw [List.append_assoc, List.cons_append, List.takeWhile_append_dropWhile, ← pointed, cut]
    · exact mantissa_of_point digits (fun c => List.mem_takeWhile_imp) accepted.1
  next =>
    simp only [Bool.and_eq_true, Bool.not_eq_true', List.isEmpty_eq_false_iff] at accepted
    exact ⟨_, _, cut.symm, .whole ⟨accepted.1, digits⟩, isExponent_iff.mp accepted.2⟩

private theorem isNumber_pointed {sign digits fraction exponent : List Char} (signed : IsSign sign)
    (before : ∀ c ∈ digits, isDecimalDigit c = true)
    (behind : ∀ c ∈ fraction, isDecimalDigit c = true) (some : digits ≠ [] ∨ fraction ≠ [])
    (scaled : Exponent isDecimalDigit exponent) :
    isNumber (sign ++ (digits ++ '.' :: (fraction ++ exponent))) = true := by
  have unsigned : ∀ c ∈ (digits ++ '.' :: (fraction ++ exponent)).head?, c ≠ '+' ∧ c ≠ '-' := by
    cases digits with
    | nil => simp
    | cons first others => simpa using unsigned_of_digit (before first List.mem_cons_self)
  have point : Stops isDecimalDigit ('.' :: (fraction ++ exponent)) :=
    fun c same => by cases same; decide
  have stops := scaled.start.1
  rw [isNumber, dropSign_append signed unsigned]
  simp only [takeWhile_append_of_stops before point, dropWhile_append_of_stops before point,
    takeWhile_append_of_stops behind stops, dropWhile_append_of_stops behind stops]
  simp [some, isExponent_iff.mpr scaled]

/-- The reader of numbers follows the grammar. -/
theorem isNumber_iff {text : List Char} : isNumber text = true ↔ Numeral isDecimalDigit text := by
  constructor
  · intro accepted
    obtain ⟨sign, signed, shape⟩ := exists_sign text
    obtain ⟨digits, exponent, unsigned, mantissa, scaled⟩ := isNumber_unsigned accepted
    rw [shape, unsigned]
    exact ⟨signed, mantissa, scaled⟩
  · rintro @⟨sign, digits, exponent, signed, mantissa, scaled⟩
    cases mantissa with
    | whole run =>
      obtain ⟨stops, notPoint⟩ := scaled.start
      have unsigned : ∀ c ∈ (digits ++ exponent).head?, c ≠ '+' ∧ c ≠ '-' := by
        obtain ⟨first, others, rfl, digit⟩ := run.exists_cons
        simpa using unsigned_of_digit digit
      have nonempty := run.1
      rw [isNumber, dropSign_append signed unsigned]
      -- By `notPoint`, what stands behind the digits is all exponent.
      simp only [takeWhile_append_of_stops run.2 stops, dropWhile_append_of_stops run.2 stops]
      simp [nonempty, isExponent_iff.mpr scaled]
    | point run more =>
      rw [List.append_assoc, List.cons_append]
      exact isNumber_pointed signed run.2 more (.inl run.1) scaled
    | fraction run =>
      have pointed := isNumber_pointed signed (List.forall_mem_nil _) run.2 (.inr run.1) scaled
      exact pointed

/-! ## Bare arguments -/

/-- The characters of a bare argument mean nothing to either scan. -/
private theorem of_isNameChar {c : Char} (plain : isNameChar c = true) :
    isBlank c = false ∧ ¬ (c = '"' ∨ c = '\'') ∧ c ≠ '{' ∧ c ≠ '}' ∧ c ≠ '(' ∧ c ≠ ')' ∧ c ≠ ',' := by
  simp only [isNameChar, Bool.and_eq_true, Bool.not_eq_true', List.contains_eq_mem,
    decide_eq_false_iff_not, List.mem_cons, List.not_mem_nil, or_false, not_or] at plain
  obtain ⟨visible, notOpen, notClose, notDouble, notSingle, notOpening, notClosing, notComma⟩ := plain
  exact ⟨visible, by simp [notDouble, notSingle], notOpening, notClosing, notOpen, notClose, notComma⟩

section

variable {word : List Char} (plain : ∀ c ∈ word, isNameChar c = true)
include plain

theorem splitArguments_word : splitArguments 0 0 none word = some [word] := by
  induction word with
  | nil => rfl
  | cons c rest ih =>
    obtain ⟨first, others⟩ := List.forall_mem_cons.mp plain
    obtain ⟨-, notMark, notOpening, notClosing, notOpen, notClose, notComma⟩ := of_isNameChar first
    rw [splitArguments_plain notMark notOpening notClosing notOpen notClose notComma, ih others]
    rfl

theorem trim_word : trim word = word :=
  trim_eq_self (fun c first => (of_isNameChar (plain c (List.mem_of_head? first))).1)
    fun c last => (of_isNameChar (plain c (List.mem_of_getLast? last))).1

/-- A bare argument is a number or is refused. -/
theorem parseArguments_word (nonempty : word ≠ []) (parse : List Char → Parsed Template)
    (body : List Char) :
    parseArguments parse body word =
      if isNumber word then .ok [literal (String.ofList word)]
      else .error (.malformed (String.ofList body) (.unknownArgument (String.ofList word))) := by
  obtain ⟨first, others, rfl⟩ := List.exists_cons_of_ne_nil nonempty
  obtain ⟨visible, notMark, notOpening, -⟩ := of_isNameChar (plain first List.mem_cons_self)
  have some : (first :: others).all isBlank = false :=
    List.all_eq_false.mpr ⟨first, List.mem_cons_self, by simp [visible]⟩
  have bare : unquote? (first :: others) = none := by
    rw [unquote?, if_neg (by simpa [isQuote] using notMark)]
  have unbraced : isBraced (first :: others) = false := by
    simp [isBraced, dropPrefix?, Ne.symm notOpening]
  have argument : parseArgument parse body (first :: others) =
      if isNumber (first :: others) then .ok (literal (String.ofList (first :: others)))
      else .error (.malformed (String.ofList body)
        (.unknownArgument (String.ofList (first :: others)))) := by
    simp [parseArgument, bare, unbraced]
  rw [parseArguments, some, splitArguments_word plain]
  simp only [Bool.false_eq_true, if_false, List.mapM_cons, List.mapM_nil, trim_word plain, argument]
  split <;> rfl

end

/-- The inner text of a placeholder that calls a function with one bare argument. -/
def bareCall (plugin function word : String) : String :=
  callStart plugin function ++ word ++ ")"

/-- What such a call is meant to be read as. -/
def bareReading (plugin function word : String) : Template :=
  [.placeholder (.mk (bareCall plugin function word) false
    (.pluginCall plugin function [[.literal word]]))]

private theorem toList_bareCall (plugin function word : String) :
    (bareCall plugin function word).toList =
      (callStart plugin function).toList ++ (word.toList ++ [')']) := by
  simp [bareCall]

private theorem isBody_bareCall (plugin function word : String) :
    IsBody (bareCall plugin function word).toList := by
  have qualifier : IsBody "plugins.".toList := ⟨⟨'p', by decide⟩, ⟨'.', by decide⟩⟩
  have closing : IsBody [')'] := ⟨⟨')', by decide⟩, ⟨')', by decide⟩⟩
  have whole := qualifier.between
    (plugin.toList ++ '.' :: (function.toList ++ '(' :: word.toList)) closing
  rw [toList_bareCall, toList_callStart]
  simpa using whole

/-- A call with a bare argument is read if the argument is a number. -/
theorem parse_bareCall {plugin function word : String}
    (pluginName : isIdentifier plugin.toList = true)
    (functionName : isIdentifier function.toList = true) (plain : isName word.toList = true) :
    parse (placeholderOf (bareCall plugin function word)) =
      if isNumber word.toList then .ok (bareReading plugin function word)
      else .error (.malformed (bareCall plugin function word) (.unknownArgument word)) := by
  simp only [isName, Bool.and_eq_true, Bool.not_eq_true', List.isEmpty_eq_false_iff,
    List.all_eq_true] at plain
  obtain ⟨nonempty, characters⟩ := plain
  have body := isBody_bareCall plugin function word
  have inert : Inert (bareCall plugin function word).toList := by
    have between : Inert word.toList := inert_of_plain fun c member => by
      obtain ⟨-, notMark, notOpening, notClosing, -⟩ := of_isNameChar (characters c member)
      exact isScanned_eq_false_iff.mpr ⟨notMark, notOpening, notClosing⟩
    have closing : Inert [')'] := inert_of_any (by decide)
    rw [toList_bareCall]
    exact (unmarked_callStart pluginName functionName).inert.append (between.append closing)
  have marked : splitOptional (bareCall plugin function word).toList =
      ((bareCall plugin function word).toList, false) := by
    simpa using splitOptional_of_isBody body false
  have visible : word ≠ "" := by
    rintro rfl
    exact nonempty rfl
  have literally : literal (String.ofList word.toList) = [.literal word] := by
    simp [literal, visible]
  rw [parse, placeholderOf, String.toList_ofList,
    parseChars_placeholder inert marked body.ne_nil le_rfl, toList_bareCall,
    parseTarget_call pluginName functionName, parseArguments_word characters nonempty,
    ← toList_bareCall, String.ofList_toList]
  split
  · rw [literally]
    rfl
  · rw [String.ofList_toList]
    rfl

/-- A bare argument is read if it is a number in the decimal digits of any scripts, and then it is
the only argument and stands as it was written; any other bare argument is refused. Without digits of
other scripts, these are the numbers in the digits of ASCII. -/
theorem parse_bareArgument {plugin function word : String}
    (pluginName : isIdentifier plugin.toList = true)
    (functionName : isIdentifier function.toList = true) (plain : isName word.toList = true) :
    let source := placeholderOf (bareCall plugin function word)
    (Numeral isDecimalDigit word.toList → parse source = .ok (bareReading plugin function word)) ∧
      (¬ Numeral isDecimalDigit word.toList → parse source =
        .error (.malformed (bareCall plugin function word) (.unknownArgument word))) ∧
      ((∀ c ∈ word.toList, isDecimalDigit c = true → c.isDigit = true) →
        (Numeral isDecimalDigit word.toList ↔ Numeral Char.isDigit word.toList)) := by
  intro source
  have read := parse_bareCall pluginName functionName plain
  refine ⟨fun numeral => ?_, fun other => ?_, fun ascii => ⟨(·.mono ascii), fun numeral => ?_⟩⟩
  · rw [if_pos (isNumber_iff.mpr numeral)] at read
    exact read
  · rw [if_neg (mt isNumber_iff.mp other)] at read
    exact read
  · exact numeral.mono fun c _ => isDecimalDigit_of_isDigit

/-- A number with everything that a number can have, and a text that lacks the digits of its
exponent. -/
theorem parse_bareArgument_exponent :
    isIdentifier "p".toList = true ∧ isIdentifier "f".toList = true ∧
      isName "-6.02E+23".toList = true ∧ isName "1e".toList = true ∧
      Numeral isDecimalDigit "-6.02E+23".toList ∧ ¬ Numeral isDecimalDigit "1e".toList ∧
      parse (placeholderOf (bareCall "p" "f" "-6.02E+23")) =
        .ok (bareReading "p" "f" "-6.02E+23") ∧
      parse (placeholderOf (bareCall "p" "f" "1e")) =
        .error (.malformed (bareCall "p" "f" "1e") (.unknownArgument "1e")) ∧
      (∀ c ∈ "-6.02E+23".toList, isDecimalDigit c = true → c.isDigit = true) ∧
      Numeral Char.isDigit "-6.02E+23".toList := by
  have pluginName : isIdentifier "p".toList = true := by decide
  have functionName : isIdentifier "f".toList = true := by decide
  have plain : isName "-6.02E+23".toList = true := by decide
  have plain' : isName "1e".toList = true := by decide
  have numeral : Numeral isDecimalDigit "-6.02E+23".toList := isNumber_iff.mp (by decide)
  have other : ¬ Numeral isDecimalDigit "1e".toList := mt isNumber_iff.mpr (by decide)
  have ascii : ∀ c ∈ "-6.02E+23".toList, isDecimalDigit c = true → c.isDigit = true := by
    have all : "-6.02E+23".toList.all (fun c => !isDecimalDigit c || c.isDigit) = true := by decide
    intro c member digit
    simpa [digit] using List.all_eq_true.mp all c member
  exact ⟨pluginName, functionName, plain, plain', numeral, other,
    (parse_bareArgument pluginName functionName plain).1 numeral,
    (parse_bareArgument pluginName functionName plain').2.1 other, ascii,
    ((parse_bareArgument pluginName functionName plain).2.2 ascii).mp numeral⟩

/-- A digit of another script is a number, though it has no digit of ASCII. -/
theorem parse_bareCall_otherScript :
    isIdentifier "p".toList = true ∧ isIdentifier "f".toList = true ∧
      isName "\u0663".toList = true ∧ ¬ Numeral Char.isDigit "\u0663".toList ∧
      parse (placeholderOf (bareCall "p" "f" "\u0663")) = .ok (bareReading "p" "f" "\u0663") := by
  have plain : isName "\u0663".toList = true := by decide
  have number : isNumber "\u0663".toList = true := by decide
  refine ⟨by decide, by decide, plain, fun numeral => ?_, ?_⟩
  · obtain ⟨c, member, digit⟩ := numeral.exists_digit
    have none : "\u0663".toList.any Char.isDigit = false := by decide
    exact List.any_eq_false.mp none c member digit
  · rw [parse_bareCall (by decide) (by decide) plain, if_pos number]

end RequestChain.Template
