import RequestChain.Template.Printer

/-! # Scanning what was written

A text is inert when the scan for the end of a placeholder passes over it unchanged, whatever
stands behind. Texts in quotation marks are inert once their own marks are escaped, and so are
texts without quotation marks and braces; inert texts in a row are inert. The scan that splits
arguments passes over quoted texts in the same way, so written arguments come back one by one,
and an escaped literal comes back as one piece.
-/

namespace RequestChain.Template

open Text

/-! ## Quotation marks -/

/-- Escaped backslashes and quotation marks are read back. -/
theorem unescape_escapeQuotes (text : List Char) : unescape (escapeQuotes text) = text := by
  induction text with
  | nil => rfl
  | cons c rest ih =>
    by_cases special : c = '\\' ∨ c = '"'
    · rw [escapeQuotes, if_pos special]
      rcases special with rfl | rfl <;> simp [unescape, ih]
    · rw [escapeQuotes, if_neg special]
      obtain ⟨notBackslash, -⟩ := not_or.mp special
      rw [unescape, ih]
      all_goals exact fun _ same => absurd same notBackslash

/-- A text without backslashes holds no escapes. -/
theorem unescape_of_not_mem {text : List Char} (plain : '\\' ∉ text) : unescape text = text := by
  induction text with
  | nil => rfl
  | cons c rest ih =>
    rw [List.mem_cons, not_or] at plain
    rw [unescape, ih plain.2]
    all_goals exact fun _ same => absurd same.symm plain.1

/-- Texts without backslashes and double quotation marks need no escapes. -/
theorem escapeQuotes_of_plain {text : List Char} (plain : ∀ c ∈ text, c ≠ '\\' ∧ c ≠ '"') :
    escapeQuotes text = text := by
  induction text with
  | nil => rfl
  | cons c rest ih =>
    obtain ⟨notBackslash, notMark⟩ := plain c List.mem_cons_self
    rw [escapeQuotes, if_neg (by simp [notBackslash, notMark]),
      ih fun other member => plain other (List.mem_cons_of_mem _ member)]

theorem dropLast?_append (last : Char) (text : List Char) :
    dropLast? last (text ++ [last]) = some text := by
  simp [dropLast?]

theorem unquote?_quoted (text : List Char) : unquote? (quoted text) = some (escapeQuotes text) := by
  simp only [quoted, List.cons_append, unquote?]
  rw [if_pos (by rfl), dropLast?_append]

/-! ## The end of a placeholder -/

theorem prependFirst_prependFirst (first second : List Char)
    (division : Option (List Char × List Char)) :
    prependFirst first (prependFirst second division) = prependFirst (first ++ second) division := by
  simp [prependFirst, Option.map_map, Function.comp_def, List.append_assoc]

/-- The scan for the end of a placeholder takes the text as a whole. -/
def Inert (text : List Char) : Prop :=
  ∀ rest, splitPlaceholder 0 none (text ++ rest) = prependFirst text (splitPlaceholder 0 none rest)

theorem inert_nil : Inert [] := fun rest => by simp [prependFirst]

theorem Inert.append {first second : List Char} (inertFirst : Inert first)
    (inertSecond : Inert second) : Inert (first ++ second) := by
  intro rest
  rw [List.append_assoc, inertFirst, inertSecond, prependFirst_prependFirst]

/-- Characters that mean something to the scan. -/
def isScanned (c : Char) : Bool :=
  isQuote c || c == '{' || c == '}'

theorem isScanned_eq_false_iff {c : Char} :
    isScanned c = false ↔ ¬ (c = '"' ∨ c = '\'') ∧ c ≠ '{' ∧ c ≠ '}' := by
  simp [isScanned, isQuote, and_assoc]

theorem splitPlaceholder_of_plain {text : List Char} (plain : ∀ c ∈ text, isScanned c = false)
    (depth : Nat) (rest : List Char) :
    splitPlaceholder depth none (text ++ rest) =
      prependFirst text (splitPlaceholder depth none rest) := by
  induction text with
  | nil => simp [prependFirst]
  | cons c others ih =>
    obtain ⟨head, tail⟩ := List.forall_mem_cons.mp plain
    obtain ⟨notMark, notOpening, notClosing⟩ := isScanned_eq_false_iff.mp head
    rw [List.cons_append, splitPlaceholder_plain notMark notOpening notClosing, ih tail,
      prependFirst_prependFirst, List.singleton_append]

theorem inert_of_plain {text : List Char} (plain : ∀ c ∈ text, isScanned c = false) :
    Inert text :=
  splitPlaceholder_of_plain plain 0

theorem inert_of_any {text : List Char} (plain : text.any isScanned = false) : Inert text :=
  inert_of_plain fun c member => Bool.eq_false_iff.mpr (List.any_eq_false.mp plain c member)

/-- A text without quotation marks, braces and backslashes. -/
def Unmarked (text : List Char) : Prop :=
  ∀ c ∈ text, isScanned c = false ∧ c ≠ '\\'

instance (text : List Char) : Decidable (Unmarked text) :=
  List.decidableBAll _ text

namespace Unmarked

variable {first second : List Char}

theorem append (unmarkedFirst : Unmarked first) (unmarkedSecond : Unmarked second) :
    Unmarked (first ++ second) :=
  List.forall_mem_append.mpr ⟨unmarkedFirst, unmarkedSecond⟩

theorem inert (unmarked : Unmarked first) : Inert first :=
  inert_of_plain fun c member => (unmarked c member).1

end Unmarked

/-- An open quotation mark is closed by the first mark behind an escaped text. -/
private theorem splitPlaceholder_escapeQuotes (text rest : List Char) :
    splitPlaceholder 0 (some '"') (escapeQuotes text ++ '"' :: rest) =
      prependFirst (escapeQuotes text ++ ['"']) (splitPlaceholder 0 none rest) := by
  induction text with
  | nil => simp [escapeQuotes, splitPlaceholder_inside]
  | cons c behind ih =>
    by_cases special : c = '\\' ∨ c = '"'
    · rw [escapeQuotes, if_pos special, List.cons_append, List.cons_append,
        splitPlaceholder_escape, ih, prependFirst_prependFirst]
      rfl
    · obtain ⟨notBackslash, notMark⟩ := not_or.mp special
      rw [escapeQuotes, if_neg special, List.cons_append, splitPlaceholder_inside notBackslash,
        if_neg notMark, ih, prependFirst_prependFirst]
      rfl

theorem inert_quoted (text : List Char) : Inert (quoted text) := by
  intro rest
  have shape : quoted text ++ rest = '"' :: (escapeQuotes text ++ '"' :: rest) := by simp [quoted]
  rw [shape, splitPlaceholder_quote (.inl rfl), splitPlaceholder_escapeQuotes,
    prependFirst_prependFirst]
  rfl

/-- The first closing braces behind an inert text are found. -/
theorem splitPlaceholder_of_inert {text : List Char} (inert : Inert text) (rest : List Char) :
    splitPlaceholder 0 none (text ++ '}' :: '}' :: rest) = some (text, rest) := by
  rw [inert, splitPlaceholder_close]
  simp [prependFirst]

/-! ## Arguments -/

theorem foldr_consFirst (text first : List Char) (others : List (List Char)) :
    text.foldr consFirst (first :: others) = (text ++ first) :: others := by
  induction text with
  | nil => rfl
  | cons c rest ih => rw [List.foldr_cons, ih, consFirst, List.cons_append]

private theorem splitArguments_escapeQuotes (text rest : List Char) :
    splitArguments 0 0 (some '"') (escapeQuotes text ++ '"' :: rest) =
      (splitArguments 0 0 none rest).map ((escapeQuotes text ++ ['"']).foldr consFirst) := by
  induction text with
  | nil => simp [escapeQuotes, splitArguments_inside]
  | cons c behind ih =>
    by_cases special : c = '\\' ∨ c = '"'
    · rw [escapeQuotes, if_pos special, List.cons_append, List.cons_append,
        splitArguments_escape, ih, Option.map_map]
      rfl
    · obtain ⟨notBackslash, notMark⟩ := not_or.mp special
      rw [escapeQuotes, if_neg special, List.cons_append, splitArguments_inside notBackslash,
        if_neg notMark, ih, Option.map_map]
      rfl

/-- The scan for arguments passes over a quoted text. -/
theorem splitArguments_quoted (text rest : List Char) :
    splitArguments 0 0 none (quoted text ++ rest) =
      (splitArguments 0 0 none rest).map ((quoted text).foldr consFirst) := by
  have shape : quoted text ++ rest = '"' :: (escapeQuotes text ++ '"' :: rest) := by simp [quoted]
  rw [shape, splitArguments_quote (.inl rfl), splitArguments_escapeQuotes, Option.map_map]
  rfl

/-- Quoted texts with commas between them are split at the commas. -/
theorem splitArguments_intercalate (first : List Char) (others : List (List Char)) :
    splitArguments 0 0 none (List.intercalate [',', ' '] (quoted first :: others.map quoted)) =
      some (quoted first :: others.map fun text => ' ' :: quoted text) := by
  induction others generalizing first with
  | nil =>
    have alone := splitArguments_quoted first []
    simpa [splitArguments, foldr_consFirst] using alone
  | cons second rest ih =>
    rw [List.map_cons, List.intercalate_cons_cons, List.append_assoc, splitArguments_quoted,
      List.cons_append, splitArguments_comma, List.cons_append, splitArguments_space,
      List.nil_append, ih]
    simp [consFirst, foldr_consFirst]

/-! ## Literals -/

theorem consLiteral_consLiteral (first second : List Char) (rest : List Piece) :
    consLiteral first (consLiteral second rest) = consLiteral (first ++ second) rest := by
  cases rest with
  | nil => rfl
  | cons piece others => cases piece <;> simp [consLiteral]

/-- Whether a literal leaves the braces behind it alone: it ends in neither a backslash nor an
opening brace. -/
def leavesBraces (text : List Char) : Bool :=
  text.getLast? != some '\\' && text.getLast? != some '{'

private theorem leavesBraces_cons {c : Char} {rest : List Char} (nonempty : rest ≠ []) :
    leavesBraces (c :: rest) = leavesBraces rest := by
  obtain ⟨last, found⟩ := Option.ne_none_iff_exists'.mp (mt List.getLast?_eq_none_iff.mp nonempty)
  simp [leavesBraces, List.getLast?_cons, found]

private theorem escapeBraces_cons {c : Char} {rest : List Char}
    (single : ∀ tail, c = '{' → rest = '{' :: tail → False) :
    escapeBraces (c :: rest) = c :: escapeBraces rest := by
  rw [escapeBraces]
  exact single

/-- An escaped literal opens no placeholder, neither alone nor together with what follows. -/
private theorem escapeBraces_append_ne {text source : List Char} (nonempty : text ≠ [])
    (separate : source = [] ∨ leavesBraces text = true) (tail : List Char) :
    escapeBraces text ++ source ≠ '{' :: '{' :: tail := by
  match text, nonempty with
  | [c], _ =>
    intro same
    simp only [escapeBraces, List.cons_append, List.nil_append, List.cons.injEq] at same
    obtain ⟨rfl, rfl⟩ := same
    simp [leavesBraces] at separate
  | c :: d :: rest, _ =>
    by_cases double : c = '{' ∧ d = '{'
    · obtain ⟨rfl, rfl⟩ := double
      simp [escapeBraces]
    · rw [escapeBraces_cons fun _ head tail => double ⟨head, (List.cons.inj tail).1⟩]
      intro same
      simp only [List.cons_append, List.cons.injEq] at same
      obtain ⟨rfl, same⟩ := same
      have other : d ≠ '{' := fun head => double ⟨rfl, head⟩
      rw [escapeBraces_cons fun _ head => absurd head other] at same
      exact other (List.cons.inj same).1

/-- An escaped literal is read as one piece, up to a literal that follows. -/
theorem pieces_escapeBraces {text source : List Char} (nonempty : text ≠ [])
    (separate : source = [] ∨ leavesBraces text = true) :
    pieces (escapeBraces text ++ source) = consLiteral text (pieces source) := by
  fun_induction escapeBraces text with
  | case1 rest ih =>
    rw [List.cons_append, List.cons_append, List.cons_append, pieces]
    by_cases empty : rest = []
    · subst empty
      rfl
    · have shorter : leavesBraces ('{' :: '{' :: rest) = leavesBraces rest := by
        rw [leavesBraces_cons (by simp), leavesBraces_cons empty]
      rw [ih empty (shorter ▸ separate), consLiteral_consLiteral]
      rfl
  | case2 c rest single ih =>
    have unopened := escapeBraces_append_ne nonempty separate
    rw [escapeBraces_cons single, List.cons_append] at unopened
    have unescaped : ∀ tail, c = '\\' → escapeBraces rest ++ source ≠ '{' :: '{' :: tail := by
      rintro tail rfl
      by_cases empty : rest = []
      · subst empty
        obtain rfl | leaves := separate
        · simp [escapeBraces]
        · simp [leavesBraces] at leaves
      · exact escapeBraces_append_ne empty (leavesBraces_cons empty ▸ separate) tail
    rw [List.cons_append, pieces]
    · by_cases empty : rest = []
      · subst empty
        rfl
      · rw [ih empty (leavesBraces_cons empty ▸ separate), consLiteral_consLiteral]
        rfl
    · exact fun tail head same => unescaped tail head same
    · exact fun tail head same => unopened tail (by rw [head, same])
  | case3 => exact absurd rfl nonempty

/-- The text between the braces of a placeholder, and what stands behind it. -/
theorem pieces_placeholder {inner : List Char} (inert : Inert inner) (source : List Char) :
    pieces ('{' :: '{' :: (inner ++ '}' :: '}' :: source)) = .placeholder inner :: pieces source := by
  rw [pieces, splitPlaceholder_of_inert inert]

end RequestChain.Template
