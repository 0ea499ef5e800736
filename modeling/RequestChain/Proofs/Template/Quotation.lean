import RequestChain.Proofs.Template.Nesting
import RequestChain.Proofs.Text.Cutting

/-! # Quotation marks that are closed

Two scans skip quoted texts: the one that looks for the end of a placeholder, and the one that cuts
the arguments of a call apart. Both take the same characters for quotation marks, and no mark stands
among the characters that are cut off between them, so what a placeholder holds has closed its marks
before its arguments are looked at. That a quoted argument does not end is an error of the second
scan, and no text is ever refused with it.
-/

namespace RequestChain.Template

open Text

/-! ## Closed quotation marks -/

/-- Whether the quotation marks in a text are closed at its end. `quote` is the mark that is open at
its beginning, and a backslash between two marks takes the next character with it. -/
def closesQuotes (quote : Option Char) : List Char → Bool
  | [] => quote.isNone
  | c :: rest =>
    match quote with
    | some mark =>
      if c = '\\' then
        match rest with
        | [] => false
        | _ :: rest => closesQuotes (some mark) rest
      else closesQuotes (if c = mark then none else some mark) rest
    | none => closesQuotes (if c = '"' ∨ c = '\'' then some c else none) rest

section Steps

variable {mark c next : Char} {rest : List Char}

theorem closesQuotes_escape :
    closesQuotes (some mark) ('\\' :: next :: rest) = closesQuotes (some mark) rest := rfl

theorem closesQuotes_inside (notBackslash : c ≠ '\\') :
    closesQuotes (some mark) (c :: rest) =
      closesQuotes (if c = mark then none else some mark) rest := by
  rw [closesQuotes.eq_def]
  simp [notBackslash]

theorem closesQuotes_opening (isMark : c = '"' ∨ c = '\'') :
    closesQuotes none (c :: rest) = closesQuotes (some c) rest := by
  change closesQuotes (if c = '"' ∨ c = '\'' then some c else none) rest = _
  rw [if_pos isMark]

theorem closesQuotes_plain (notMark : ¬ (c = '"' ∨ c = '\'')) :
    closesQuotes none (c :: rest) = closesQuotes none rest := by
  change closesQuotes (if c = '"' ∨ c = '\'' then some c else none) rest = _
  rw [if_neg notMark]

end Steps

/-- A placeholder ends outside its quotation marks. -/
theorem closesQuotes_of_splitPlaceholder {depth : Nat} {quote : Option Char}
    {source inner rest : List Char}
    (split : splitPlaceholder depth quote source = some (inner, rest)) :
    closesQuotes quote inner = true := by
  fun_induction splitPlaceholder depth quote source generalizing inner rest with
  | case1 => cases split
  | case2 => cases split
  | case3 depth mark next rest' ih =>
    obtain ⟨inner', found, rfl⟩ := exists_of_prependFirst split
    exact closesQuotes_escape.trans (ih found)
  | case4 depth c rest' mark plain ih =>
    obtain ⟨inner', found, rfl⟩ := exists_of_prependFirst split
    exact (closesQuotes_inside plain).trans (ih found)
  | case5 depth c rest' opening ih =>
    obtain ⟨inner', found, rfl⟩ := exists_of_prependFirst split
    exact (closesQuotes_opening opening).trans (ih found)
  | case6 depth rest' plain ih =>
    obtain ⟨inner', found, rfl⟩ := exists_of_prependFirst split
    exact (closesQuotes_plain plain).trans ((closesQuotes_plain plain).trans (ih found))
  | case7 =>
    cases split
    rfl
  | case8 depth rest' positive plain ih =>
    obtain ⟨inner', found, rfl⟩ := exists_of_prependFirst split
    exact (closesQuotes_plain plain).trans ((closesQuotes_plain plain).trans (ih found))
  | case9 depth c rest' _ _ plain ih =>
    obtain ⟨inner', found, rfl⟩ := exists_of_prependFirst split
    exact (closesQuotes_plain plain).trans (ih found)

/-- The scan for arguments agrees: they can be cut apart if and only if all marks are closed. -/
theorem isSome_splitArguments (braces parentheses : Nat) (quote : Option Char)
    (source : List Char) :
    (splitArguments braces parentheses quote source).isSome = closesQuotes quote source := by
  have one {c : Char} {rest : List Char} {parts? : Option (List (List Char))}
      (collect : List (List Char) → List (List Char)) (plain : ¬ (c = '"' ∨ c = '\''))
      (same : parts?.isSome = closesQuotes none rest) :
      (parts?.map collect).isSome = closesQuotes none (c :: rest) := by
    rw [Option.isSome_map, same, closesQuotes_plain plain]
  fun_induction splitArguments braces parentheses quote source with
  | case1 _ _ quote closed =>
    rw [closesQuotes, closed]
    rfl
  | case2 _ _ quote opened =>
    rw [closesQuotes, Bool.eq_false_iff.mpr opened]
    rfl
  | case3 => rfl
  | case4 _ _ mark next rest ih => rw [Option.isSome_map, ih, closesQuotes_escape]
  | case5 _ _ c rest mark plain ih => rw [Option.isSome_map, ih, closesQuotes_inside plain]
  | case6 _ _ c rest opening ih => rw [Option.isSome_map, ih, closesQuotes_opening opening]
  | case7 _ _ behind plain _ ih =>
    rw [Option.isSome_map, ih, closesQuotes_plain plain, closesQuotes_plain plain]
  | case8 _ behind plain _ ih => exact one _ plain (ih _ _)
  | case9 _ _ behind _ plain _ ih =>
    rw [Option.isSome_map, ih, closesQuotes_plain plain, closesQuotes_plain plain]
  | case10 _ _ rest plain _ ih => exact one _ plain (ih _ _)
  | case11 _ _ rest plain _ ih => exact one _ plain (ih _ _)
  | case12 _ _ rest _ plain _ ih => exact one _ plain ih
  | case13 _ _ rest _ plain _ ih => exact one _ plain (ih _ _)
  | case14 _ _ c rest plain _ _ _ _ _ _ ih => exact one _ plain (ih _ _)

private theorem not_mark {c : Char} (plain : isQuote c = false) : ¬ (c = '"' ∨ c = '\'') := by
  simpa [isQuote] using plain

/-- A mark that does not come again is not closed. -/
theorem closesQuotes_of_not_mem {mark : Char} {text : List Char} (absent : mark ∉ text) :
    closesQuotes (some mark) text = false := by
  generalize opened : some mark = quote
  fun_induction closesQuotes quote text with
  | case1 =>
    subst opened
    rfl
  | case2 => rfl
  | case3 other next rest ih =>
    exact ih (fun member => absent (by simp [member])) opened
  | case4 c rest other plain ih =>
    cases opened
    have different : c ≠ mark := fun same => absent (by simp [same])
    rw [if_neg different] at ih ⊢
    exact ih (fun member => absent (List.mem_cons_of_mem c member)) rfl
  | case5 => cases opened

/-- Nothing ends behind a mark that does not come again. -/
theorem splitPlaceholder_of_not_mem {depth : Nat} {mark : Char} {text : List Char}
    (absent : mark ∉ text) : splitPlaceholder depth (some mark) text = none := by
  cases split : splitPlaceholder depth (some mark) text with
  | none => rfl
  | some division =>
    have closed := closesQuotes_of_splitPlaceholder split
    rw [splitPlaceholder_eq split, List.mem_append, not_or] at absent
    rw [closesQuotes_of_not_mem absent.1] at closed
    cases closed

/-! ## Texts within texts -/

theorem closesQuotes_append {front : List Char} (plain : ∀ c ∈ front, isQuote c = false)
    (back : List Char) : closesQuotes none (front ++ back) = closesQuotes none back := by
  induction front with
  | nil => rfl
  | cons c rest ih =>
    obtain ⟨first, others⟩ := List.forall_mem_cons.mp plain
    rw [List.cons_append, closesQuotes_plain (not_mark first), ih others]

/-- Without marks of its own a text behind another one closes nothing. -/
private theorem closesQuotes_of_append {quote : Option Char} {front back : List Char}
    (isMark : ∀ mark, quote = some mark → isQuote mark = true)
    (plain : ∀ c ∈ back, isQuote c = false) (closed : closesQuotes quote (front ++ back) = true) :
    closesQuotes quote front = true := by
  have absent {mark : Char} (isMark : isQuote mark = true) : mark ∉ back := fun member => by
    rw [plain mark member] at isMark
    cases isMark
  fun_induction closesQuotes quote front with
  | case1 quote =>
    cases quote with
    | none => rfl
    | some mark =>
      have opened := closesQuotes_of_not_mem (absent (isMark mark rfl))
      rw [List.nil_append, opened] at closed
      cases closed
  | case2 mark =>
    have other : mark ∉ '\\' :: back := by
      rw [List.mem_cons, not_or]
      constructor
      · rintro rfl
        exact absurd (isMark _ rfl) (by decide)
      · exact absent (isMark mark rfl)
    rw [List.singleton_append, closesQuotes_of_not_mem other] at closed
    cases closed
  | case3 mark next rest ih =>
    rw [List.cons_append, List.cons_append, closesQuotes_escape] at closed
    exact ih isMark closed
  | case4 c rest mark notBackslash ih =>
    rw [List.cons_append, closesQuotes_inside notBackslash] at closed
    apply ih _ closed
    intro other opened
    split at opened
    · cases opened
    · exact isMark other opened
  | case5 c rest ih =>
    apply ih _ closed
    intro other opened
    split at opened
    · rename_i mark
      cases opened
      simpa [isQuote] using mark
    · cases opened

/-- A text whose marks are closed, without a beginning and an end that hold no marks. -/
theorem closesQuotes_between {before text after : List Char}
    (beforePlain : ∀ c ∈ before, isQuote c = false) (afterPlain : ∀ c ∈ after, isQuote c = false)
    (closed : closesQuotes none (before ++ text ++ after) = true) :
    closesQuotes none text = true := by
  rw [List.append_assoc, closesQuotes_append beforePlain] at closed
  exact closesQuotes_of_append (by simp) afterPlain closed

private theorem not_quote_of {p : Char → Bool} {c : Char} (double : p '"' = false)
    (single : p '\'' = false) (holds : p c = true) : isQuote c = false := by
  rw [Bool.eq_false_iff]
  intro mark
  simp only [isQuote, Bool.or_eq_true, beq_iff_eq] at mark
  rcases mark with rfl | rfl
  · rw [holds] at double
    cases double
  · rw [holds] at single
    cases single

private theorem not_quote_of_isBlank {c : Char} (blank : isBlank c = true) : isQuote c = false :=
  not_quote_of (by decide) (by decide) blank

private theorem not_quote_of_isIdentifier {text : List Char} (identifier : isIdentifier text = true) :
    ∀ c ∈ text, isQuote c = false := by
  intro c member
  simp only [isIdentifier, Bool.and_eq_true, List.all_eq_true] at identifier
  exact not_quote_of (by decide) (by decide) (identifier.2 c member)

private theorem not_quote_of_trim {text : List Char} (identifier : isIdentifier (trim text) = true) :
    ∀ c ∈ text, isQuote c = false := by
  obtain ⟨before, after, whole, beforeBlank, afterBlank⟩ := exists_trim text
  intro c member
  rw [whole, List.mem_append, List.mem_append] at member
  rcases member with (member | member) | member
  · exact not_quote_of_isBlank (beforeBlank c member)
  · exact not_quote_of_isIdentifier identifier c member
  · exact not_quote_of_isBlank (afterBlank c member)

theorem closesQuotes_trimEnd {text : List Char} (closed : closesQuotes none text = true) :
    closesQuotes none (trimEnd text) = true := by
  obtain ⟨after, whole, blank⟩ := exists_trimEnd text
  rw [whole] at closed
  exact closesQuotes_of_append (by simp) (fun c member => not_quote_of_isBlank (blank c member)) closed

theorem closesQuotes_trim {text : List Char} (closed : closesQuotes none text = true) :
    closesQuotes none (trim text) = true := by
  obtain ⟨before, after, whole, beforeBlank, afterBlank⟩ := exists_trim text
  rw [whole] at closed
  exact closesQuotes_between (fun c member => not_quote_of_isBlank (beforeBlank c member))
    (fun c member => not_quote_of_isBlank (afterBlank c member)) closed

theorem closesQuotes_dropLast? {last : Char} {text rest : List Char} (plain : isQuote last = false)
    (found : dropLast? last text = some rest) (closed : closesQuotes none text = true) :
    closesQuotes none rest = true := by
  rw [dropLast?_eq_some_iff.mp found] at closed
  exact closesQuotes_of_append (by simp) (by simpa using plain) closed

/-- The reference in a placeholder has closed its marks where the placeholder has. -/
theorem closesQuotes_splitOptional {inner : List Char} (closed : closesQuotes none inner = true) :
    closesQuotes none (splitOptional inner).1 = true := by
  simp only [splitOptional]
  cases marked : dropLast? '?' (trim inner) with
  | none => exact closesQuotes_trim closed
  | some body =>
    exact closesQuotes_trimEnd (closesQuotes_dropLast? (by decide) marked (closesQuotes_trim closed))

/-- The marks in a placeholder are closed. -/
theorem closesQuotes_of_mem_pieces {source inner : List Char}
    (member : .placeholder inner ∈ pieces source) : closesQuotes none inner = true := by
  fun_induction pieces source with
  | case1 => cases member
  | case2 rest ih => exact ih (placeholder_mem_consLiteral.mp member)
  | case3 => simp at member
  | case4 rest first behind found ih =>
    cases List.mem_cons.mp member with
    | inl itself =>
      cases itself
      exact closesQuotes_of_splitPlaceholder found
    | inr later => exact ih later
  | case5 c rest _ _ ih => exact ih (placeholder_mem_consLiteral.mp member)

/-! ## Readers -/

/-- Not the error that a text in quotation marks does not end. -/
def Terminated {α : Type} (parsed : Parsed α) : Prop :=
  ∀ body, parsed ≠ .error (.malformed body .unterminatedText)

namespace Terminated

variable {α β : Type}

theorem ok (value : α) : Terminated (.ok value) := by
  rintro body ⟨⟩

theorem emptyReference : Terminated (.error .emptyReference : Parsed α) := by
  rintro body ⟨⟩

theorem malformed {body : String} {cause : Malformation}
    (other : cause ≠ .unterminatedText := by simp) :
    Terminated (.error (.malformed body cause) : Parsed α) := by
  rintro body' ⟨⟩
  exact other rfl

theorem bind {parsed : Parsed α} {next : α → Parsed β} (first : Terminated parsed)
    (others : ∀ value, Terminated (next value)) : Terminated (parsed >>= next) := by
  cases parsed with
  | error error =>
    intro body same
    exact first body (congrArg Except.error (Except.error.inj same))
  | ok value => exact others value

theorem mapM {f : α → Parsed β} {items : List α} (each : ∀ item ∈ items, Terminated (f item)) :
    Terminated (items.mapM f) := by
  induction items with
  | nil => exact ok []
  | cons item rest ih =>
    obtain ⟨first, others⟩ := List.forall_mem_cons.mp each
    rw [List.mapM_cons]
    exact first.bind fun _ => (ih others).bind fun _ => ok _

end Terminated

private theorem terminated_parseStep (body rest : List Char) : Terminated (parseStep body rest) := by
  rw [parseStep]
  split
  · exact .malformed
  · split
    · exact .malformed
    · exact .ok _

section Readers

variable {parse : List Char → Parsed Template} (terminated : ∀ text, Terminated (parse text))
include terminated

private theorem terminated_parseArgument (body argument : List Char) :
    Terminated (parseArgument parse body argument) := by
  rw [parseArgument]
  split
  · exact .malformed
  · split
    · exact terminated _
    · split
      · exact terminated _
      · split
        · exact .ok _
        · exact .malformed

private theorem terminated_parseArguments (body : List Char) {source : List Char}
    (closed : closesQuotes none source = true) : Terminated (parseArguments parse body source) := by
  rw [parseArguments]
  split
  · exact .ok _
  · have split := isSome_splitArguments 0 0 none source
    rw [closed, Option.isSome_iff_exists] at split
    obtain ⟨arguments, found⟩ := split
    rw [found]
    exact .mapM fun argument _ => terminated_parseArgument terminated body (trim argument)

private theorem terminated_parsePlugin (body : List Char) {rest : List Char}
    (closed : closesQuotes none rest = true) : Terminated (parsePlugin parse body rest) := by
  by_cases point : '.' ∈ rest
  · obtain ⟨plugin, member, rfl, pointless⟩ := List.eq_append_cons_of_mem point
    simp only [parsePlugin, takeWhile_ne_append pointless, dropWhile_ne_append pointless]
    split
    · exact .malformed
    · rename_i pluginName
      rw [Bool.not_eq_true', Bool.not_eq_false] at pluginName
      rw [closesQuotes_append (not_quote_of_isIdentifier pluginName),
        closesQuotes_plain (by decide)] at closed
      by_cases call : '(' ∈ member
      · obtain ⟨function, arguments, rfl, uncalled⟩ := List.eq_append_cons_of_mem call
        simp only [takeWhile_ne_append uncalled, dropWhile_ne_append uncalled]
        split
        · exact .malformed
        · rename_i functionName
          rw [Bool.not_eq_true', Bool.not_eq_false] at functionName
          rw [closesQuotes_append (not_quote_of_trim functionName),
            closesQuotes_plain (by decide)] at closed
          split
          · exact .malformed
          · rename_i source ends
            have inside := closesQuotes_dropLast? (by decide) ends closed
            exact (terminated_parseArguments terminated body inside).bind fun _ => .ok _
      · simp only [dropWhile_ne_of_not_mem call]
        split
        · exact .ok _
        · exact .malformed
  · simp only [parsePlugin, dropWhile_ne_of_not_mem point]
    exact .malformed

private theorem terminated_parseTarget {body : List Char}
    (closed : closesQuotes none body = true) : Terminated (parseTarget parse body) := by
  rw [parseTarget]
  split
  · rename_i rest qualified
    have unquoted : "plugins.".toList.any isQuote = false := by decide
    have plain : ∀ c ∈ "plugins.".toList, isQuote c = false := by simpa using unquoted
    rw [dropPrefix?_eq_some_iff.mp qualified, closesQuotes_append plain] at closed
    exact terminated_parsePlugin terminated body closed
  · split
    · exact terminated_parseStep body _
    · split
      · split
        · exact .ok _
        · exact .malformed
      · split
        · exact .ok _
        · exact .malformed

private theorem terminated_parseReference {inner : List Char}
    (closed : closesQuotes none inner = true) : Terminated (parseReference parse inner) := by
  rw [parseReference]
  split
  rename_i body optional marked
  split
  · exact .emptyReference
  · have inside := closesQuotes_splitOptional closed
    rw [marked] at inside
    exact (terminated_parseTarget terminated inside).bind fun _ => .ok _

end Readers

/-- No text is refused because a text in quotation marks in it does not end. -/
theorem terminated_parse (source : String) : Terminated (parse source) := by
  have within (bound : Nat) (source : List Char) : Terminated (parseWithin bound source) := by
    induction bound generalizing source with
    | zero => exact .ok []
    | succ bound ih =>
      refine .mapM fun piece member => ?_
      cases piece with
      | literal text => exact .ok _
      | placeholder inner =>
        have closed := closesQuotes_of_mem_pieces member
        exact (terminated_parseReference ih closed).bind fun _ => .ok _
  exact within _ _

end RequestChain.Template
