import RequestChain.Proofs.Template.Composition
import RequestChain.Proofs.Template.Crossing
import RequestChain.Proofs.Template.RoundTrip

/-! # Calls in calls in plain quotation marks

A call whose argument is another call in quotation marks that are not escaped: the inner marks close
the outer ones, so from call to call the text stands inside and outside quotation marks by turns.
Both scans get over such a tower and are as they were before it, but for one thing. For the second
call from the inside, the innermost text stands outside all quotation marks and braces, and a comma
in it separates arguments unless it has parentheses around it. Towers of two and more calls are read
as they are meant exactly when the innermost text has no such comma.
-/

namespace RequestChain.Template

open Text

/-! ## Towers -/

/-- A function by the names of its plugin and its own. -/
structure FunctionName where
  plugin : String
  function : String
  pluginName : isIdentifier plugin.toList = true
  functionName : isIdentifier function.toList = true

/-- A text in quotation marks, with nothing in it escaped. -/
def inMarks (text : List Char) : List Char :=
  '"' :: (text ++ ['"'])

/-- A call with one argument in quotation marks. -/
def FunctionName.callSource (name : FunctionName) (argument : List Char) : List Char :=
  (callStart name.plugin name.function).toList ++ (inMarks argument ++ [')'])

/-- Calls in each other, outermost first, around a text. -/
def towerSource (text : String) : List FunctionName → List Char
  | [] => text.toList
  | name :: rest => '{' :: '{' :: (name.callSource (towerSource text rest) ++ ['}', '}'])

/-- What is meant by a tower: every call has the next one as its only argument. -/
def tower (text : String) : List FunctionName → Template
  | [] => [.literal text]
  | name :: rest =>
    [.placeholder (.mk (String.ofList (name.callSource (towerSource text rest))) false
      (.pluginCall name.plugin name.function [tower text rest]))]

theorem FunctionName.unmarked (name : FunctionName) :
    Unmarked (callStart name.plugin name.function).toList :=
  unmarked_callStart name.pluginName name.functionName

/-- A placeholder with a call, cut at the quotation marks around its argument. -/
private theorem quoted_shape (name : FunctionName) (argument : List Char) :
    '{' :: '{' :: (name.callSource argument ++ ['}', '}']) =
      ('{' :: '{' :: (callStart name.plugin name.function).toList) ++
        (['"'] ++ (argument ++ (['"'] ++ [')', '}', '}']))) := by
  simp [FunctionName.callSource, inMarks]

private theorem quotable_start (name : FunctionName) :
    ∀ c ∈ '{' :: '{' :: (callStart name.plugin name.function).toList, c ≠ '"' ∧ c ≠ '\\' := by
  intro c member
  rcases List.mem_cons.mp member with rfl | member
  · decide
  rcases List.mem_cons.mp member with rfl | member
  · decide
  · exact name.unmarked.quotable c member

/-- A call is got over if its argument is got over inside quotation marks. -/
private theorem crosses_callSource (name : FunctionName) {argument : List Char} {depth : Nat}
    (quoted : Crosses (depth, some '"') argument (depth, some '"')) :
    Crosses (depth, none) (name.callSource argument) (depth, none) := by
  have closing : Unmarked [')'] := by decide
  have marked : Crosses (depth, none) (['"'] ++ (argument ++ ['"'])) (depth, none) :=
    (Crosses.mark depth).trans (quoted.trans (.unmark depth))
  exact (Crosses.outside depth name.unmarked).trans (marked.trans (.outside depth closing))

/-- A tower changes neither the depth nor the quotation mark, inside marks or outside. -/
theorem crosses_tower {text : String} (unmarked : Unmarked text.toList) (names : List FunctionName)
    (depth : Nat) :
    Crosses (depth, none) (towerSource text names) (depth, none) ∧
      Crosses (depth, some '"') (towerSource text names) (depth, some '"') := by
  induction names generalizing depth with
  | nil => exact ⟨.outside depth unmarked, .inside depth unmarked.quotable⟩
  | cons name rest ih =>
    constructor
    · have call := crosses_callSource name (ih (depth + 1)).2
      exact (Crosses.braced depth).trans (call.trans (.unbraced depth))
    · -- The marks around the argument close the marks that are open, and open them again.
      rw [towerSource, quoted_shape]
      have argument := (Crosses.unmark depth).trans ((ih depth).1.trans (.mark depth))
      have before := Crosses.inside depth (quotable_start name)
      have behind : Crosses (depth, some '"') [')', '}', '}'] (depth, some '"') :=
        .inside depth (by simp)
      simpa using before.trans (argument.trans behind)

theorem inert_callSource {text : String} (unmarked : Unmarked text.toList) (name : FunctionName)
    (names : List FunctionName) : Inert (name.callSource (towerSource text names)) :=
  crosses_callSource name (crosses_tower unmarked names 0).2

/-! ## Arguments -/

/-- Inside quotation marks a call leaves its argument outside. -/
private theorem passes_call_inside (name : FunctionName) {argument : List Char}
    {braces parentheses : Nat} (outside : Passes braces parentheses none argument) :
    Passes braces parentheses (some '"')
      ('{' :: '{' :: (name.callSource argument ++ ['}', '}'])) := by
  obtain ⟨after, collects⟩ := outside
  refine ⟨after, ?_⟩
  rw [quoted_shape]
  have before : Collects ⟨braces, parentheses, some '"'⟩
      ('{' :: '{' :: (callStart name.plugin name.function).toList)
      ⟨braces, parentheses, some '"'⟩ :=
    .inside (quotable_start name)
  have behind : Collects ⟨braces, after, some '"'⟩ [')', '}', '}'] ⟨braces, after, some '"'⟩ :=
    .inside (by simp)
  exact before.trans (Collects.unmark.trans (collects.trans (Collects.mark.trans behind)))

/-- Outside quotation marks a call leaves its argument inside, and in braces. -/
private theorem passes_call_outside (name : FunctionName) {argument : List Char} {braces : Nat}
    (inside : ∀ parentheses, Passes (braces + 1) parentheses (some '"') argument)
    (parentheses : Nat) :
    Passes braces parentheses none ('{' :: '{' :: (name.callSource argument ++ ['}', '}'])) := by
  have closing : Unmarked [')'] := by decide
  have positive : 0 < braces + 1 := Nat.succ_pos braces
  obtain ⟨first, start⟩ : Passes (braces + 1) parentheses none
      (callStart name.plugin name.function).toList := .outside name.unmarked (.inl positive)
  obtain ⟨second, collects⟩ := inside first
  obtain ⟨third, stop⟩ : Passes (braces + 1) second none [')'] := .outside closing (.inl positive)
  refine ⟨third, ?_⟩
  have marked := Collects.mark.trans (collects.trans .unmark)
  have call := start.trans (marked.trans stop)
  exact Collects.braced.trans (call.trans .unbraced)

section Scan

variable {text : String} (unmarked : Unmarked text.toList)
include unmarked

/-- Inside braces no comma separates. -/
private theorem passes_tower_inBraces (names : List FunctionName) {braces : Nat}
    (positive : 0 < braces) (parentheses : Nat) :
    Passes braces parentheses none (towerSource text names) ∧
      Passes braces parentheses (some '"') (towerSource text names) := by
  induction names generalizing braces parentheses with
  | nil =>
    exact ⟨.outside unmarked (.inl positive), _, .inside unmarked.quotable⟩
  | cons name rest ih =>
    constructor
    · exact passes_call_outside name (fun within => (ih (Nat.succ_pos braces) within).2) parentheses
    · exact passes_call_inside name (ih positive parentheses).1

/-- Towers in quotation marks are one argument, except for one call around an open comma. -/
theorem splitArguments_tower (names : List FunctionName)
    (whole : names.length = 1 → hasOpenComma 0 text.toList = false) :
    splitArguments 0 0 none (inMarks (towerSource text names)) =
      some [inMarks (towerSource text names)] := by
  have passes : Passes 0 0 (some '"') (towerSource text names) := by
    match names, whole with
    | [], _ => exact ⟨0, .inside unmarked.quotable⟩
    | [name], whole =>
      exact passes_call_inside name (.outside unmarked (.inr (whole rfl)))
    | outer :: inner :: rest, _ =>
      refine passes_call_inside outer (passes_call_outside inner (fun parentheses => ?_) 0)
      exact (passes_tower_inBraces unmarked rest Nat.one_pos parentheses).2
  obtain ⟨after, collects⟩ := passes
  have marked := Collects.mark.trans (collects.trans .unmark)
  have split := marked []
  rw [List.append_nil] at split
  have parts : splitArguments 0 after none [] = some [[]] := rfl
  refine split.trans ?_
  rw [parts, Option.map_some, foldr_consFirst, List.append_nil]
  rfl

end Scan

/-- One call in quotation marks around an open comma is taken for several arguments. -/
theorem splitArguments_openComma {text : String} (unmarked : Unmarked text.toList)
    (comma : hasOpenComma 0 text.toList = true) {name : FunctionName} {parts : List (List Char)}
    (split : splitArguments 0 0 none (inMarks (towerSource text [name])) = some parts) :
    2 ≤ parts.length := by
  have shape : inMarks (towerSource text [name]) =
      (['"'] ++ (('{' :: '{' :: (callStart name.plugin name.function).toList) ++ ['"'])) ++
        (text.toList ++ (['"'] ++ ([')', '}', '}'] ++ ['"']))) := by
    rw [inMarks, towerSource, towerSource, quoted_shape]
    simp
  have before : Collects ⟨0, 0, none⟩
      (['"'] ++ (('{' :: '{' :: (callStart name.plugin name.function).toList) ++ ['"']))
      ⟨0, 0, none⟩ :=
    Collects.mark.trans ((Collects.inside (quotable_start name)).trans .unmark)
  rw [shape, before] at split
  obtain ⟨others, found, rfl⟩ := Option.map_eq_some_iff.mp split
  rw [length_foldr_consFirst (splitArguments_ne_nil found)]
  exact two_le_length_of_hasOpenComma unmarked comma found

/-! ## Readers -/

theorem FunctionName.isBody_callSource (name : FunctionName) (argument : List Char) :
    IsBody (name.callSource argument) := by
  have qualifier : IsBody "plugins.".toList := ⟨⟨'p', by decide⟩, ⟨'.', by decide⟩⟩
  have closing : IsBody [')'] := ⟨⟨')', by decide⟩, ⟨')', by decide⟩⟩
  have whole := qualifier.between
    (name.plugin.toList ++ '.' :: (name.function.toList ++ '(' :: inMarks argument)) closing
  rw [FunctionName.callSource, toList_callStart]
  simpa using whole

theorem isBody_inMarks (argument : List Char) : IsBody (inMarks argument) :=
  have mark : IsBody ['"'] := ⟨⟨'"', by decide⟩, ⟨'"', by decide⟩⟩
  mark.between argument mark

/-- A call on its own is read by reading its arguments, with any bound above its length. -/
theorem parseChars_call (name : FunctionName) {argument : List Char} {bound : Nat}
    (inert : Inert (name.callSource argument))
    (within : (name.callSource argument).length + 4 ≤ bound) :
    parseChars ('{' :: '{' :: (name.callSource argument ++ ['}', '}'])) =
      (parseArguments (parseWithin bound) (name.callSource argument) (inMarks argument)).map
        fun arguments => [.placeholder (.mk (String.ofList (name.callSource argument)) false
          (.pluginCall name.plugin name.function arguments))] := by
  have body := name.isBody_callSource argument
  have marked : splitOptional (name.callSource argument) = (name.callSource argument, false) := by
    simpa using splitOptional_of_isBody body false
  have read : parseTarget (parseWithin bound) (name.callSource argument) =
      (parseArguments (parseWithin bound) (name.callSource argument) (inMarks argument)).map
        (.pluginCall name.plugin name.function) :=
    parseTarget_call name.pluginName name.functionName (inMarks argument)
  rw [parseChars_placeholder inert marked body.ne_nil within, read]
  cases parseArguments (parseWithin bound) (name.callSource argument) (inMarks argument) <;> rfl

section Arguments

variable {parse : List Char → Parsed Template} {body argument : List Char}

private theorem parseArguments_inMarks :
    parseArguments parse body (inMarks argument) =
      match splitArguments 0 0 none (inMarks argument) with
      | none => .error (.malformed (String.ofList body) .unterminatedText)
      | some parts => parts.mapM fun part => parseArgument parse body (trim part) := by
  have visible : (inMarks argument).all isBlank = false :=
    List.all_eq_false.mpr ⟨'"', List.mem_cons_self, by decide⟩
  rw [parseArguments, visible]
  rfl

/-- The whole text between the parentheses is one argument in quotation marks. -/
theorem parseArguments_of_whole
    (whole : splitArguments 0 0 none (inMarks argument) = some [inMarks argument])
    (plain : '\\' ∉ argument) :
    parseArguments parse body (inMarks argument) = (parse argument).map fun only => [only] := by
  have content : unquote? (inMarks argument) = some argument := by
    rw [inMarks, unquote?, if_pos (by decide), dropLast?_append]
  have visible : (inMarks argument).isEmpty = false := rfl
  rw [parseArguments_inMarks, whole]
  dsimp only
  rw [List.mapM_cons, List.mapM_nil, (isBody_inMarks argument).trim_eq, parseArgument, visible,
    content]
  simp only [unescape_of_not_mem plain]
  cases parse argument <;> rfl

private theorem length_of_mapM {α β : Type} {f : α → Parsed β} {items : List α} {results : List β}
    (read : items.mapM f = .ok results) : results.length = items.length := by
  induction items generalizing results with
  | nil =>
    cases read
    rfl
  | cons item rest ih =>
    obtain ⟨first, others, -, tail, rfl⟩ := mapM_cons_eq_ok_iff.mp read
    rw [List.length_cons, List.length_cons, ih tail]

/-- As many arguments are read as were separated. -/
theorem length_of_parseArguments {arguments : List Template}
    (read : parseArguments parse body (inMarks argument) = .ok arguments) :
    ∃ parts, splitArguments 0 0 none (inMarks argument) = some parts ∧
      arguments.length = parts.length := by
  rw [parseArguments_inMarks] at read
  cases split : splitArguments 0 0 none (inMarks argument) with
  | none =>
    rw [split] at read
    cases read
  | some parts =>
    rw [split] at read
    exact ⟨parts, rfl, length_of_mapM read⟩

end Arguments

/-! ## Towers that are read -/

private theorem exists_of_map_eq_ok {α β : Type} {parsed : Parsed α} {f : α → β} {result : β}
    (read : parsed.map f = .ok result) : ∃ value, parsed = .ok value ∧ f value = result := by
  cases parsed with
  | error error => cases read
  | ok value => exact ⟨value, rfl, Except.ok.inj read⟩

section Towers

variable {text : String} (unmarked : Unmarked text.toList)
include unmarked

private theorem not_mem_towerSource (names : List FunctionName) :
    '\\' ∉ towerSource text names := by
  induction names with
  | nil => exact fun member => (unmarked _ member).2 rfl
  | cons name rest ih =>
    have start : '\\' ∉ (callStart name.plugin name.function).toList :=
      fun member => (name.unmarked _ member).2 rfl
    simp [towerSource, FunctionName.callSource, inMarks, ih, start]

/-- A tower is read by reading the next one, unless that is one call around an open comma. -/
theorem parseChars_towerSource_cons (name : FunctionName) {names : List FunctionName}
    (whole : names.length = 1 → hasOpenComma 0 text.toList = false) :
    parseChars (towerSource text (name :: names)) =
      (parseChars (towerSource text names)).map fun argument =>
        [.placeholder (.mk (String.ofList (name.callSource (towerSource text names))) false
          (.pluginCall name.plugin name.function [argument]))] := by
  have inert := inert_callSource unmarked name names
  have shorter : (towerSource text names).length <
      (name.callSource (towerSource text names)).length + 4 := by
    simp only [FunctionName.callSource, inMarks, List.length_append, List.length_cons]
    omega
  have alone := parseWithin_congr shorter (Nat.lt_succ_self _)
  rw [towerSource, parseChars_call name inert le_rfl,
    parseArguments_of_whole (splitArguments_tower unmarked names whole)
      (not_mem_towerSource unmarked names), alone, ← parseChars]
  cases parseChars (towerSource text names) <;> rfl

/-- A tower is read as it is meant if it has at most one call or its text has no open comma. -/
private theorem parseChars_tower (nonempty : text ≠ "") {names : List FunctionName}
    (whole : 2 ≤ names.length → hasOpenComma 0 text.toList = false) :
    parseChars (towerSource text names) = .ok (tower text names) := by
  induction names with
  | nil =>
    have bare : Bare text.toList :=
      ⟨fun member => (unmarked _ member).2 rfl, fun member => by cases (unmarked _ member).1⟩
    have visible : text.isEmpty = false := by simpa using nonempty
    have read := parse_of_bare bare
    rw [literal, visible] at read
    exact read
  | cons name rest ih =>
    rw [parseChars_towerSource_cons unmarked name, ih]
    · rfl
    · intro deep
      apply whole
      rw [List.length_cons]
      omega
    · intro single
      apply whole
      rw [List.length_cons]
      omega

/-- A tower of two and more calls around an open comma is not read as it is meant. -/
private theorem parseChars_tower_ne (comma : hasOpenComma 0 text.toList = true)
    {names : List FunctionName} (deep : 2 ≤ names.length) :
    parseChars (towerSource text names) ≠ .ok (tower text names) := by
  induction names with
  | nil => cases deep
  | cons name rest ih =>
    intro read
    by_cases single : rest.length = 1
    · -- Here the comma separates: the call has more arguments than the one that is meant.
      obtain ⟨inner, rfl⟩ := List.length_eq_one_iff.mp single
      rw [towerSource, parseChars_call name (inert_callSource unmarked name [inner]) le_rfl] at read
      obtain ⟨arguments, parsed, same⟩ := exists_of_map_eq_ok read
      obtain ⟨parts, split, length⟩ := length_of_parseArguments parsed
      have several := splitArguments_openComma unmarked comma split
      cases same
      rw [List.length_singleton] at length
      omega
    · have step := parseChars_towerSource_cons unmarked name (fun one => absurd one single)
      rw [step] at read
      obtain ⟨argument, parsed, same⟩ := exists_of_map_eq_ok read
      have next : 2 ≤ rest.length := by
        rw [List.length_cons] at deep
        omega
      cases same
      exact ih next parsed

end Towers

/-- Calls in calls, each the only argument of the one around it and in plain quotation marks, around
a text without quotation marks, braces and backslashes. They are read as calls in calls, as deep as
they were written and with the text as the innermost argument, if there is at most one of them or
the text has no comma outside its parentheses; and otherwise they are not. -/
theorem parse_towerSource_iff (names : List FunctionName) {text : String} (nonempty : text ≠ "")
    (unmarked : Unmarked text.toList) :
    parse (String.ofList (towerSource text names)) = .ok (tower text names) ↔
      names.length < 2 ∨ hasOpenComma 0 text.toList = false := by
  rw [parse, String.toList_ofList]
  constructor
  · intro read
    by_contra other
    rw [not_or, Nat.not_lt, Bool.not_eq_false] at other
    exact parseChars_tower_ne unmarked other.2 other.1 read
  · intro may
    apply parseChars_tower unmarked nonempty
    intro deep
    rcases may with short | whole
    · omega
    · exact whole

/-- A comma in parentheses separates nothing. -/
theorem parse_towerSource_parentheses :
    let names : List FunctionName := [⟨"p", "f", by decide, by decide⟩,
      ⟨"q", "g", by decide, by decide⟩, ⟨"r", "h", by decide, by decide⟩]
    "(a, b) c" ≠ "" ∧ Unmarked "(a, b) c".toList ∧
      parse (String.ofList (towerSource "(a, b) c" names)) = .ok (tower "(a, b) c" names) := by
  intro names
  have nonempty : "(a, b) c" ≠ "" := by decide
  have unmarked : Unmarked "(a, b) c".toList := by decide
  have inner : hasOpenComma 0 "(a, b) c".toList = false := by decide
  exact ⟨nonempty, unmarked, (parse_towerSource_iff names nonempty unmarked).mpr (.inr inner)⟩

/-- Two calls around a comma are refused: the first argument ends at the comma. -/
theorem parse_towerSource_comma :
    let names : List FunctionName := [⟨"p", "f", by decide, by decide⟩,
      ⟨"q", "g", by decide, by decide⟩]
    Unmarked "a,b".toList ∧
      (parse (String.ofList (towerSource "a,b" names))).map (fun _ => ()) =
        .error (.malformed "plugins.p.f(\"\x7b\x7bplugins.q.g(\"a,b\")\x7d\x7d\")"
          (.unknownArgument "\"\x7b\x7bplugins.q.g(\"a")) ∧
      parse (String.ofList (towerSource "a,b" names)) ≠ .ok (tower "a,b" names) := by
  intro names
  have unmarked : Unmarked "a,b".toList := by decide
  have refused : (parse (String.ofList (towerSource "a,b" names))).map (fun _ => ()) =
      .error (.malformed "plugins.p.f(\"\x7b\x7bplugins.q.g(\"a,b\")\x7d\x7d\")"
        (.unknownArgument "\"\x7b\x7bplugins.q.g(\"a")) := by decide +kernel
  refine ⟨unmarked, refused, fun read => ?_⟩
  rw [read] at refused
  cases refused

end RequestChain.Template
