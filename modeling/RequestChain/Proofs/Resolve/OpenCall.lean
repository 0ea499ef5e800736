import RequestChain.Proofs.Resolve.Composition
import RequestChain.Proofs.Template.Quotation
import RequestChain.Proofs.Template.RoundTrip

/-! # Calls with an open quotation mark

A quotation mark that stays open hides all closing braces behind it. The placeholder around it is
never closed, so its text is literal from the opening braces on, and a call in it reaches a request
as it was written.
-/

namespace RequestChain

namespace Template

/-- Opening braces that no placeholder closes are literal, and so is what stands around them. -/
theorem pieces_of_unclosed {before rest : List Char} (noBrace : '{' ∉ before)
    (settled : before.getLast? ≠ some '\\') (unclosed : splitPlaceholder 0 none rest = none) :
    pieces (before ++ '{' :: '{' :: rest) = [.literal (before ++ '{' :: '{' :: rest)] := by
  have opened : pieces ('{' :: '{' :: rest) = [.literal ('{' :: '{' :: rest)] := by
    rw [pieces, unclosed]
  rw [pieces_append (closed_of_not_mem noBrace settled),
    pieces_of_plain (containsBraces_of_not_mem noBrace), opened]
  cases before with
  | nil => rfl
  | cons c others => rfl

/-- A call whose argument begins with a quotation mark and does not end with one. -/
def openCall (plugin function argument : String) : String :=
  "\x7b\x7b" ++ callStart plugin function ++ "\"" ++ argument ++ ")\x7d\x7d"

/-- A call that stays open is no call: the text is literal. -/
theorem parse_openCall {before plugin function argument after : String}
    (pluginName : isIdentifier plugin.toList = true)
    (functionName : isIdentifier function.toList = true)
    (noBrace : '{' ∉ before.toList) (settled : before.toList.getLast? ≠ some '\\')
    (argumentOpen : '"' ∉ argument.toList) (afterOpen : '"' ∉ after.toList) :
    parse (before ++ openCall plugin function argument ++ after) =
      .ok [.literal (before ++ openCall plugin function argument ++ after)] := by
  have behind : '"' ∉ argument.toList ++ ')' :: '}' :: '}' :: after.toList := by
    simp [argumentOpen, afterOpen]
  have unclosed := (unmarked_callStart pluginName functionName).inert
    ('"' :: (argument.toList ++ ')' :: '}' :: '}' :: after.toList))
  rw [splitPlaceholder_quote (.inl rfl), splitPlaceholder_of_not_mem behind] at unclosed
  have literal := pieces_of_unclosed noBrace settled unclosed
  have shape : (before ++ openCall plugin function argument ++ after).toList =
      before.toList ++ '{' :: '{' :: ((callStart plugin function).toList ++
        '"' :: (argument.toList ++ ')' :: '}' :: '}' :: after.toList)) := by
    simp [openCall]
  rw [← shape] at literal
  rw [parse, parseChars_eq le_rfl, literal, List.mapM_cons, List.mapM_nil, parsePiece,
    String.ofList_toList]
  rfl

end Template

/-- A call whose quoted argument does not end is passed on as it stands, and so is the text around
it: as the quotation mark stays open, the braces behind it close nothing. A text in quotation marks
that does not end is a reason to refuse a text that no reader ever gives. -/
theorem render_openCall {before plugin function argument after : String}
    (pluginName : Template.isIdentifier plugin.toList = true)
    (functionName : Template.isIdentifier function.toList = true)
    (noBrace : '{' ∉ before.toList) (settled : before.toList.getLast? ≠ some '\\')
    (argumentOpen : '"' ∉ argument.toList) (afterOpen : '"' ∉ after.toList) :
    let source := before ++ Template.openCall plugin function argument ++ after
    Template.parse source = .ok [.literal source] ∧
      (∀ {σ : Type} (registry : Registry σ) (context : Context),
        render registry context source = pure (.literal source)) ∧
      ∀ other body, Template.parse other ≠ .error (.malformed body .unterminatedText) := by
  intro source
  have read := Template.parse_openCall pluginName functionName noBrace settled argumentOpen afterOpen
  refine ⟨read, fun registry context => ?_, Template.terminated_parse⟩
  rw [render_eq, read]
  change renderTemplate registry context [.literal source] = _
  rw [renderTemplate, renderSegments, renderSegments, renderSegment]
  simp only [pure_bind, Rendered.append_empty]

/-- A backslash, a comma and other marks change nothing. -/
theorem render_openCall_between :
    let source := "a\\b 'c' " ++ Template.openCall "p" "f" "x, \x7b(1" ++ " end\x7d"
    Template.isIdentifier "p".toList = true ∧ Template.isIdentifier "f".toList = true ∧
      '{' ∉ "a\\b 'c' ".toList ∧ "a\\b 'c' ".toList.getLast? ≠ some '\\' ∧
      '"' ∉ "x, \x7b(1".toList ∧ '"' ∉ " end\x7d".toList ∧
      Template.parse source = .ok [.literal source] := by
  intro source
  have pluginName : Template.isIdentifier "p".toList = true := by decide
  have functionName : Template.isIdentifier "f".toList = true := by decide
  have noBrace : '{' ∉ "a\\b 'c' ".toList := by decide
  have settled : "a\\b 'c' ".toList.getLast? ≠ some '\\' := by decide
  have argumentOpen : '"' ∉ "x, \x7b(1".toList := by decide
  have afterOpen : '"' ∉ " end\x7d".toList := by decide
  exact ⟨pluginName, functionName, noBrace, settled, argumentOpen, afterOpen,
    (render_openCall pluginName functionName noBrace settled argumentOpen afterOpen).1⟩

/-- A short call that stays open is read, not refused. -/
theorem parse_openCall_not_malformed :
    Template.isIdentifier "p".toList = true ∧ Template.isIdentifier "f".toList = true ∧
      ∀ body cause, Template.parse (Template.openCall "p" "f" "a") ≠
        .error (.malformed body cause) := by
  have isRead : (Template.parse (Template.openCall "p" "f" "a")).isOk = true := by decide +kernel
  refine ⟨by decide, by decide, fun body cause refused => ?_⟩
  rw [refused] at isRead
  cases isRead

end RequestChain
