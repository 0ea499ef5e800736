/-! # Finding placeholders and arguments

A source text is cut into literal pieces and the inner texts of placeholders, and the text between
the parentheses of a call into arguments. Both scans count nested double braces and skip quoted
texts, in which a backslash takes the next character with it.

`splitPlaceholder_length` says that a placeholder leaves less to scan, so `pieces` ends.
-/

namespace RequestChain.Template

/-- A source text has a placeholder only if it holds two opening braces in a row. -/
def containsBraces : List Char → Bool
  | '{' :: '{' :: _ => true
  | _ :: rest => containsBraces rest
  | [] => false

/-- Puts a text in front of the first part of a division. -/
def prependFirst (text : List Char) (division : Option (List Char × List Char)) :
    Option (List Char × List Char) :=
  division.map fun (inner, rest) => (text ++ inner, rest)

theorem exists_of_prependFirst {text inner rest : List Char}
    {division : Option (List Char × List Char)}
    (split : prependFirst text division = some (inner, rest)) :
    ∃ inner', division = some (inner', rest) ∧ inner = text ++ inner' := by
  obtain ⟨⟨inner', rest'⟩, found, same⟩ := Option.map_eq_some_iff.mp split
  cases same
  exact ⟨inner', found, rfl⟩

/-- The text up to the two braces that close a placeholder, and the text behind them. `depth`
counts the pairs of braces opened on the way, `quote` is the quotation mark that is open. -/
def splitPlaceholder (depth : Nat) (quote : Option Char) :
    List Char → Option (List Char × List Char)
  | [] => none
  | c :: rest =>
    match quote with
    | some mark =>
      if c = '\\' then
        match rest with
        | [] => none
        | next :: rest => prependFirst [c, next] (splitPlaceholder depth (some mark) rest)
      else prependFirst [c] (splitPlaceholder depth (if c = mark then none else some mark) rest)
    | none =>
      if c = '"' ∨ c = '\'' then prependFirst [c] (splitPlaceholder depth (some c) rest)
      else
        match c, rest with
        | '{', '{' :: rest => prependFirst ['{', '{'] (splitPlaceholder (depth + 1) none rest)
        | '}', '}' :: rest =>
          if depth = 0 then some ([], rest)
          else prependFirst ['}', '}'] (splitPlaceholder (depth - 1) none rest)
        | c, rest => prependFirst [c] (splitPlaceholder depth none rest)

/-- Both parts of a division together with the closing braces are the divided text. -/
theorem splitPlaceholder_eq {depth : Nat} {quote : Option Char} {source inner rest : List Char}
    (split : splitPlaceholder depth quote source = some (inner, rest)) :
    source = inner ++ '}' :: '}' :: rest := by
  fun_induction splitPlaceholder depth quote source generalizing inner rest with
  | case1 => simp at split
  | case2 => simp at split
  | case3 depth mark next rest' ih =>
    obtain ⟨inner', found, rfl⟩ := exists_of_prependFirst split
    simp [ih found]
  | case4 depth c rest' mark plain ih =>
    obtain ⟨inner', found, rfl⟩ := exists_of_prependFirst split
    simp [ih found]
  | case5 depth c rest' opening ih =>
    obtain ⟨inner', found, rfl⟩ := exists_of_prependFirst split
    simp [ih found]
  | case6 depth rest' plain ih =>
    obtain ⟨inner', found, rfl⟩ := exists_of_prependFirst split
    simp [ih found]
  | case7 rest' plain =>
    simp only [Option.some.injEq, Prod.mk.injEq] at split
    obtain ⟨rfl, rfl⟩ := split
    rfl
  | case8 depth rest' plain positive ih =>
    obtain ⟨inner', found, rfl⟩ := exists_of_prependFirst split
    simp [ih found]
  | case9 depth c rest' plain _ _ ih =>
    obtain ⟨inner', found, rfl⟩ := exists_of_prependFirst split
    simp [ih found]

/-- The text behind a placeholder is shorter. -/
theorem splitPlaceholder_length {depth : Nat} {quote : Option Char}
    {source inner rest : List Char}
    (split : splitPlaceholder depth quote source = some (inner, rest)) :
    rest.length < source.length := by
  have := congrArg List.length (splitPlaceholder_eq split)
  simp at this
  omega

section Steps

variable {depth : Nat} {mark c next : Char} {rest : List Char}

theorem splitPlaceholder_escape :
    splitPlaceholder depth (some mark) ('\\' :: next :: rest) =
      prependFirst ['\\', next] (splitPlaceholder depth (some mark) rest) := by
  rw [splitPlaceholder.eq_def]
  simp

theorem splitPlaceholder_inside (notBackslash : c ≠ '\\') :
    splitPlaceholder depth (some mark) (c :: rest) =
      prependFirst [c] (splitPlaceholder depth (if c = mark then none else some mark) rest) := by
  rw [splitPlaceholder.eq_def]
  simp [notBackslash]

theorem splitPlaceholder_quote (isMark : c = '"' ∨ c = '\'') :
    splitPlaceholder depth none (c :: rest) =
      prependFirst [c] (splitPlaceholder depth (some c) rest) := by
  rw [splitPlaceholder.eq_def]
  simp [isMark]

theorem splitPlaceholder_plain (notMark : ¬ (c = '"' ∨ c = '\'')) (notOpening : c ≠ '{')
    (notClosing : c ≠ '}') :
    splitPlaceholder depth none (c :: rest) =
      prependFirst [c] (splitPlaceholder depth none rest) := by
  rw [splitPlaceholder.eq_def]
  simp [notMark, notOpening, notClosing]

theorem splitPlaceholder_close :
    splitPlaceholder 0 none ('}' :: '}' :: rest) = some ([], rest) := by
  rw [splitPlaceholder.eq_def]
  simp

end Steps

/-- A piece of a source text. -/
inductive Piece where
  | literal (text : List Char)
  /-- The text between the braces. -/
  | placeholder (inner : List Char)
  deriving DecidableEq, Repr

/-- Puts a text that is not empty in front; neighbouring literal texts are one piece. -/
def consLiteral (text : List Char) : List Piece → List Piece
  | .literal next :: rest => .literal (text ++ next) :: rest
  | rest => .literal text :: rest

/-- The pieces of a source text. A backslash before two opening braces makes them literal, and a
placeholder that is never closed is literal as well. -/
def pieces : List Char → List Piece
  | [] => []
  | '\\' :: '{' :: '{' :: rest => consLiteral ['{', '{'] (pieces rest)
  | '{' :: '{' :: rest =>
    match _found : splitPlaceholder 0 none rest with
    | none => [.literal ('{' :: '{' :: rest)]
    | some (inner, behind) => .placeholder inner :: pieces behind
  | c :: rest => consLiteral [c] (pieces rest)
  termination_by source => source.length
  decreasing_by
    all_goals simp
    all_goals try omega
    have := splitPlaceholder_length _found
    omega

/-- Puts a character in front of the first argument. -/
def consFirst (c : Char) : List (List Char) → List (List Char)
  | [] => [[c]]
  | first :: rest => (c :: first) :: rest

/-- The texts between the commas that stand outside nested braces, parentheses and quotes, and
nothing when a quotation mark stays open. -/
def splitArguments (braces parentheses : Nat) (quote : Option Char) :
    List Char → Option (List (List Char))
  | [] => if quote.isNone then some [[]] else none
  | c :: rest =>
    match quote with
    | some mark =>
      if c = '\\' then
        match rest with
        | [] => none
        | next :: rest =>
          (splitArguments braces parentheses (some mark) rest).map
            fun parts => consFirst c (consFirst next parts)
      else
        (splitArguments braces parentheses (if c = mark then none else some mark) rest).map
          (consFirst c)
    | none =>
      if c = '"' ∨ c = '\'' then
        (splitArguments braces parentheses (some c) rest).map (consFirst c)
      else
        let single := fun braces parentheses =>
          (splitArguments braces parentheses none rest).map (consFirst c)
        match c, rest with
        | '{', '{' :: behind =>
          (splitArguments (braces + 1) parentheses none behind).map
            fun parts => consFirst '{' (consFirst '{' parts)
        | '}', '}' :: behind =>
          if braces = 0 then single braces parentheses
          else
            (splitArguments (braces - 1) parentheses none behind).map
              fun parts => consFirst '}' (consFirst '}' parts)
        | '(', _ => single braces (parentheses + 1)
        | ')', _ => single braces (parentheses - 1)
        | ',', rest =>
          if braces = 0 ∧ parentheses = 0 then
            (splitArguments braces parentheses none rest).map ([] :: ·)
          else single braces parentheses
        | _, _ => single braces parentheses

section Steps

variable {braces parentheses : Nat} {mark c next : Char} {rest : List Char}

theorem splitArguments_escape :
    splitArguments braces parentheses (some mark) ('\\' :: next :: rest) =
      (splitArguments braces parentheses (some mark) rest).map
        fun parts => consFirst '\\' (consFirst next parts) := by
  rw [splitArguments.eq_def]
  simp

theorem splitArguments_inside (notBackslash : c ≠ '\\') :
    splitArguments braces parentheses (some mark) (c :: rest) =
      (splitArguments braces parentheses (if c = mark then none else some mark) rest).map
        (consFirst c) := by
  rw [splitArguments.eq_def]
  simp [notBackslash]

theorem splitArguments_quote (isMark : c = '"' ∨ c = '\'') :
    splitArguments braces parentheses none (c :: rest) =
      (splitArguments braces parentheses (some c) rest).map (consFirst c) := by
  rw [splitArguments.eq_def]
  simp [isMark]

theorem splitArguments_comma :
    splitArguments 0 0 none (',' :: rest) = (splitArguments 0 0 none rest).map ([] :: ·) := by
  rw [splitArguments.eq_def]
  simp

theorem splitArguments_space :
    splitArguments braces parentheses none (' ' :: rest) =
      (splitArguments braces parentheses none rest).map (consFirst ' ') := by
  rw [splitArguments.eq_def]
  simp

end Steps

end RequestChain.Template
