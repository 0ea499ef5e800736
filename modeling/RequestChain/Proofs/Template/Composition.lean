import RequestChain.Proofs.Template.Nesting
import RequestChain.Proofs.Template.Scanning

/-! # Texts in a row

A text is closed when its reader waits for nothing at its end: every placeholder that opens in it
ends in it, and its last character is neither a backslash nor an opening brace. What is read from a
closed text and one behind it is what is read from each of them; literals that meet become one.
-/

namespace RequestChain.Template

/-! ## Pieces -/

private theorem prependFirst_append {text inner rest more : List Char}
    {division division' : Option (List Char × List Char)}
    (split : prependFirst text division = some (inner, rest))
    (longer : ∀ {inner rest}, division = some (inner, rest) →
      division' = some (inner, rest ++ more)) :
    prependFirst text division' = some (inner, rest ++ more) := by
  obtain ⟨inner', found, rfl⟩ := exists_of_prependFirst split
  rw [longer found]
  rfl

/-- What a scan has found does not depend on what follows. -/
theorem splitPlaceholder_append {depth : Nat} {quote : Option Char}
    {source inner rest : List Char}
    (split : splitPlaceholder depth quote source = some (inner, rest)) (more : List Char) :
    splitPlaceholder depth quote (source ++ more) = some (inner, rest ++ more) := by
  fun_induction splitPlaceholder depth quote source generalizing inner rest with
  | case1 => cases split
  | case2 => cases split
  | case3 depth mark next rest' ih =>
    rw [List.cons_append, List.cons_append, splitPlaceholder_escape]
    exact prependFirst_append split ih
  | case4 depth c rest' mark plain ih =>
    rw [List.cons_append, splitPlaceholder_inside plain]
    exact prependFirst_append split ih
  | case5 depth c rest' opening ih =>
    rw [List.cons_append, splitPlaceholder_quote opening]
    exact prependFirst_append split ih
  | case6 depth rest' plain ih =>
    rw [List.cons_append, List.cons_append, splitPlaceholder, if_neg plain]
    exact prependFirst_append split ih
  | case7 rest' plain =>
    cases split
    exact splitPlaceholder_close
  | case8 depth rest' plain positive ih =>
    rw [List.cons_append, List.cons_append, splitPlaceholder, if_neg plain, if_neg positive]
    exact prependFirst_append split ih
  | case9 depth c rest' opening closing plain ih =>
    -- The scan goes on behind the character, so there is one more to look at.
    cases rest' with
    | nil => cases split
    | cons d behind =>
      rw [List.cons_append, splitPlaceholder, if_neg plain]
      · exact prependFirst_append split ih
      · rintro tail rfl same
        exact opening behind rfl (by rw [(List.cons.inj same).1])
      · rintro tail rfl same
        exact closing behind rfl (by rw [(List.cons.inj same).1])

/-- A text whose reader waits for nothing at its end. -/
inductive Closed : List Char → Prop
  | nil : Closed []
  | escape {rest : List Char} (others : Closed rest) : Closed ('\\' :: '{' :: '{' :: rest)
  | placeholder {rest inner behind : List Char}
      (split : splitPlaceholder 0 none rest = some (inner, behind)) (others : Closed behind) :
      Closed ('{' :: '{' :: rest)
  | character {c : Char} {rest : List Char} (settled : c = '\\' ∨ c = '{' → rest ≠ [])
      (unescaped : ∀ tail, c = '\\' → rest ≠ '{' :: '{' :: tail)
      (unopened : ∀ tail, c = '{' → rest ≠ '{' :: tail) (others : Closed rest) :
      Closed (c :: rest)

/-- A text without backslashes and opening braces, in which nothing can open. -/
def Bare (text : List Char) : Prop :=
  '\\' ∉ text ∧ '{' ∉ text

instance (text : List Char) : Decidable (Bare text) :=
  inferInstanceAs (Decidable (_ ∧ _))

/-- Without opening braces nothing opens, and a backslash at the end would wait for braces. -/
theorem closed_of_not_mem {text : List Char} (noBrace : '{' ∉ text)
    (settled : text.getLast? ≠ some '\\') : Closed text := by
  induction text with
  | nil => exact .nil
  | cons c rest ih =>
    rw [List.mem_cons, not_or] at noBrace
    refine .character ?_ ?_ (fun _ same => absurd same.symm noBrace.1) (ih noBrace.2 ?_)
    · rintro (rfl | same) rfl
      · exact settled rfl
      · exact noBrace.1 same.symm
    · rintro tail - rfl
      exact noBrace.2 List.mem_cons_self
    · intro last
      rw [List.getLast?_cons, last] at settled
      exact settled rfl

theorem closed_of_bare {text : List Char} (bare : Bare text) : Closed text :=
  closed_of_not_mem bare.2 fun last => bare.1 (List.mem_of_getLast? last)

/-- Whether every placeholder that opens in a text ends in it. -/
def closes : List Char → Bool
  | [] => true
  | '\\' :: '{' :: '{' :: rest => closes rest
  | '{' :: '{' :: rest =>
    match _found : splitPlaceholder 0 none rest with
    | none => false
    | some (_, behind) => closes behind
  | _ :: rest => closes rest
  termination_by source => source.length
  decreasing_by
    all_goals simp only [List.length_cons]
    all_goals try omega
    have shorter := splitPlaceholder_length _found
    omega

private theorem leavesBraces_of_append (front : List Char) {back : List Char}
    (leaves : leavesBraces (front ++ back) = true) : leavesBraces back = true := by
  cases back with
  | nil => rfl
  | cons c rest => simpa [leavesBraces, List.getLast?_append] using leaves

/-- Nothing is left open if all placeholders are closed and the last character cannot begin
another. -/
theorem closed_of_closes {text : List Char} (closing : closes text = true)
    (leaves : leavesBraces text = true) : Closed text := by
  fun_induction closes text with
  | case1 => exact .nil
  | case2 rest ih =>
    exact .escape (ih closing (leavesBraces_of_append ['\\', '{', '{'] leaves))
  | case3 => cases closing
  | case4 rest inner behind found ih =>
    refine .placeholder found (ih closing ?_)
    rw [splitPlaceholder_eq found] at leaves
    exact leavesBraces_of_append ('{' :: '{' :: (inner ++ ['}', '}'])) (by simpa using leaves)
  | case5 c rest unescaped unopened ih =>
    refine .character ?_ (fun tail first same => ?_) (fun tail first same => ?_)
      (ih closing (leavesBraces_of_append [c] leaves))
    · rintro (rfl | rfl) rfl
      · simp [leavesBraces] at leaves
      · simp [leavesBraces] at leaves
    · exact unescaped tail first same
    · exact unopened tail first same

/-- A placeholder that ends where it is closed. -/
theorem closed_of_placeholder {inner : List Char}
    (split : splitPlaceholder 0 none (inner ++ ['}', '}']) = some (inner, [])) :
    Closed ('{' :: '{' :: (inner ++ ['}', '}'])) :=
  .placeholder split .nil

/-- A piece in front of others; literals that meet become one. -/
def consPiece : Piece → List Piece → List Piece
  | .literal text, others => consLiteral text others
  | .placeholder inner, others => .placeholder inner :: others

/-- Pieces in a row; literals that meet become one. -/
def joinPieces (first next : List Piece) : List Piece :=
  first.foldr consPiece next

private theorem consLiteral_joinPieces (text : List Char) (first next : List Piece) :
    consLiteral text (joinPieces first next) = joinPieces (consLiteral text first) next := by
  cases first with
  | nil => rfl
  | cons piece rest =>
    cases piece with
    | literal other => exact consLiteral_consLiteral text other (joinPieces rest next)
    | placeholder inner => rfl

/-- The pieces of a closed text do not depend on what follows. -/
theorem pieces_append {source : List Char} (closed : Closed source) (next : List Char) :
    pieces (source ++ next) = joinPieces (pieces source) (pieces next) := by
  induction closed with
  | nil =>
    rw [pieces]
    rfl
  | @escape rest _ ih =>
    rw [List.cons_append, List.cons_append, List.cons_append, pieces, ih, pieces,
      consLiteral_joinPieces]
  | @placeholder rest inner behind split _ ih =>
    rw [List.cons_append, List.cons_append, pieces, splitPlaceholder_append split, pieces, split]
    simp only [ih]
    rfl
  | @character c rest settled unescaped unopened others ih =>
    have notEscaped : ∀ tail, c = '\\' → rest ++ next ≠ '{' :: '{' :: tail := by
      rintro tail rfl same
      cases rest with
      | nil => exact settled (.inl rfl) rfl
      | cons d behind =>
        obtain ⟨rfl, opened⟩ := List.cons.inj same
        cases behind with
        | nil =>
          cases others with
          | character settled _ _ _ => exact settled (.inr rfl) rfl
        | cons e behind =>
          obtain ⟨rfl, -⟩ := List.cons.inj opened
          exact unescaped behind rfl rfl
    have notOpened : ∀ tail, c = '{' → rest ++ next ≠ '{' :: tail := by
      rintro tail rfl same
      cases rest with
      | nil => exact settled (.inr rfl) rfl
      | cons d rest =>
        obtain ⟨rfl, -⟩ := List.cons.inj same
        exact unopened rest rfl rfl
    have first : pieces (c :: rest) = consLiteral [c] (pieces rest) := by
      rw [pieces]
      · exact fun tail => unescaped tail
      · exact fun tail => unopened tail
    have whole : pieces (c :: (rest ++ next)) = consLiteral [c] (pieces (rest ++ next)) := by
      rw [pieces]
      · exact fun tail => notEscaped tail
      · exact fun tail => notOpened tail
    rw [List.cons_append, whole, ih, first, consLiteral_joinPieces]

/-! ## Templates -/

/-- A segment in front of others; literals that meet become one. -/
def consSegment : Segment → Template → Template
  | .literal text, .literal other :: rest => .literal (text ++ other) :: rest
  | segment, others => segment :: others

/-- Templates in a row; literals that meet become one. -/
def joinTemplates (first next : Template) : Template :=
  first.foldr consSegment next

private theorem mapM_consPiece (parse : List Char → Parsed Template) (piece : Piece)
    (others : List Piece) :
    (consPiece piece others).mapM (parsePiece parse) = (do
      let segment ← parsePiece parse piece
      let template ← others.mapM (parsePiece parse)
      return consSegment segment template) := by
  cases piece with
  | literal text =>
    cases others with
    | nil => rfl
    | cons other rest =>
      cases other with
      | literal next =>
        have parsed (text : List Char) : parsePiece parse (.literal text) =
          (pure (.literal (String.ofList text)) : Parsed Segment) := rfl
        simp only [consPiece, consLiteral, List.mapM_cons, parsed, pure_bind, bind_assoc,
          consSegment, String.ofList_append]
      | placeholder inner =>
        simp only [consPiece, consLiteral, List.mapM_cons, parsePiece]
        cases parseReference parse inner with
        | error error => rfl
        | ok reference =>
          cases rest.mapM (parsePiece parse) with
          | error error => rfl
          | ok template => rfl
  | placeholder inner =>
    rw [consPiece, List.mapM_cons, parsePiece]
    cases parseReference parse inner with
    | error error => rfl
    | ok reference => rfl

/-- Pieces in a row are read from left to right. -/
private theorem mapM_joinPieces (parse : List Char → Parsed Template) (first next : List Piece) :
    (joinPieces first next).mapM (parsePiece parse) = (do
      let left ← first.mapM (parsePiece parse)
      let right ← next.mapM (parsePiece parse)
      return joinTemplates left right) := by
  induction first with
  | nil => simp [joinPieces, joinTemplates]
  | cons piece rest ih =>
    change (consPiece piece (joinPieces rest next)).mapM (parsePiece parse) = _
    rw [mapM_consPiece, ih, List.mapM_cons]
    simp only [bind_assoc, pure_bind]
    rfl

/-- A closed text is read first, then the one behind it. -/
theorem parseChars_append {source : List Char} (closed : Closed source) (next : List Char) :
    parseChars (source ++ next) = (do
      let left ← parseChars source
      let right ← parseChars next
      return joinTemplates left right) := by
  have first : source.length ≤ (source ++ next).length := by simp
  have second : next.length ≤ (source ++ next).length := by simp
  rw [parseChars_eq le_rfl, parseChars_eq first, parseChars_eq second, pieces_append closed,
    mapM_joinPieces]

/-! ## Seams -/

/-- Templates in a row; a literal at the end and one at the beginning are joined. -/
def joinAtSeam : Template → Template → Template
  | [], next => next
  | [.literal text], .literal other :: rest => .literal (text ++ other) :: rest
  | segment :: rest, next => segment :: joinAtSeam rest next

/-- Two pieces that are not both literals. -/
def Piece.Apart (left right : Piece) : Prop :=
  ∀ text other, left = .literal text → right ≠ .literal other

theorem Piece.Apart.of_placeholder {inner : List Char} {right : Piece} :
    Piece.Apart (.placeholder inner) right := by
  rintro text other ⟨⟩

theorem Piece.Apart.placeholder {left : Piece} {inner : List Char} :
    Piece.Apart left (.placeholder inner) := by
  rintro text other - ⟨⟩

/-- Two segments that are not both literals. -/
def Segment.Apart (left right : Segment) : Prop :=
  ∀ text other, left = .literal text → right ≠ .literal other

private theorem isChain_consLiteral {text : List Char} {others : List Piece}
    (apart : others.IsChain Piece.Apart) : (consLiteral text others).IsChain Piece.Apart := by
  match others with
  | [] => exact .singleton _
  | .placeholder inner :: rest => exact .cons_cons .placeholder apart
  | [.literal next] => exact .singleton _
  | .literal next :: second :: rest =>
    obtain ⟨first, others⟩ := List.isChain_cons_cons.mp apart
    exact .cons_cons (fun _ other _ => first next other rfl) others

/-- The reader of pieces leaves no two literals in a row. -/
theorem isChain_pieces (source : List Char) : (pieces source).IsChain Piece.Apart := by
  fun_induction pieces source with
  | case1 => exact .nil
  | case2 rest ih => exact isChain_consLiteral ih
  | case3 => exact .singleton _
  | case4 rest inner behind found ih =>
    cases behind' : pieces behind with
    | nil => exact .singleton _
    | cons second others => exact .cons_cons .of_placeholder (behind' ▸ ih)
  | case5 c rest _ _ ih => exact isChain_consLiteral ih

private theorem isLiteral_of_parsePiece {parse : List Char → Parsed Template} {piece : Piece}
    {text : String} (parsed : parsePiece parse piece = .ok (.literal text)) :
    piece = .literal text.toList := by
  cases piece with
  | literal other =>
    cases parsed
    rw [String.toList_ofList]
  | placeholder inner =>
    rw [parsePiece] at parsed
    cases read : parseReference parse inner with
    | error error =>
      rw [read] at parsed
      cases parsed
    | ok reference =>
      rw [read] at parsed
      cases parsed

/-- A template that has been read has no two literals in a row. -/
theorem isChain_of_parseChars {source : List Char} {template : Template}
    (parsed : parseChars source = .ok template) : template.IsChain Segment.Apart := by
  refine isChain_of_mapM (fun apart isFirst isSecond => ?_) (isChain_pieces source) parsed
  rintro text other rfl rfl
  exact apart _ _ (isLiteral_of_parsePiece isFirst) (isLiteral_of_parsePiece isSecond)

private theorem joinAtSeam_cons_cons (first second : Segment) (rest next : Template) :
    joinAtSeam (first :: second :: rest) next = first :: joinAtSeam (second :: rest) next := by
  rw [joinAtSeam]
  intros
  contradiction

private theorem joinAtSeam_placeholder (reference : Reference) (rest next : Template) :
    joinAtSeam (.placeholder reference :: rest) next =
      .placeholder reference :: joinAtSeam rest next := by
  rw [joinAtSeam]
  intros
  contradiction

/-- Without literals in a row, the seam is the only place where literals meet. -/
theorem joinTemplates_eq_joinAtSeam {first : Template} (apart : first.IsChain Segment.Apart)
    (next : Template) : joinTemplates first next = joinAtSeam first next := by
  induction apart with
  | nil => rfl
  | singleton segment =>
    cases segment with
    | placeholder reference =>
      rw [joinAtSeam_placeholder]
      rfl
    | literal text =>
      match next with
      | [] => rfl
      | .literal other :: rest => rfl
      | .placeholder reference :: rest => rfl
  | @cons_cons first second rest apart _ ih =>
    change consSegment first (joinTemplates (second :: rest) next) = _
    rw [ih, joinAtSeam_cons_cons]
    cases first with
    | placeholder reference => rfl
    | literal text =>
      cases second with
      | literal other => exact absurd rfl (apart text other rfl)
      | placeholder reference =>
        rw [joinAtSeam_placeholder]
        rfl

/-- A closed text is read first, then the one behind it; their literals are joined at the seam. -/
theorem parse_append {first : String} (closed : Closed first.toList) (next : String) :
    parse (first ++ next) = (do
      let left ← parse first
      let right ← parse next
      return joinAtSeam left right) := by
  rw [parse, String.toList_append, parseChars_append closed, parse]
  cases isLeft : parseChars first.toList with
  | error error => rfl
  | ok left =>
    change (parse next >>= fun right => .ok (joinTemplates left right)) =
      parse next >>= fun right => .ok (joinAtSeam left right)
    simp only [joinTemplates_eq_joinAtSeam (isChain_of_parseChars isLeft)]

/-! ## Texts without placeholders -/

private theorem containsBraces_cons {c : Char} {rest : List Char}
    (plain : containsBraces (c :: rest) = false) :
    (∀ tail, c = '{' → rest ≠ '{' :: tail) ∧ containsBraces rest = false := by
  have unopened : ∀ tail, c = '{' → rest ≠ '{' :: tail := by
    rintro tail rfl rfl
    simp [containsBraces] at plain
  refine ⟨unopened, ?_⟩
  rwa [containsBraces] at plain
  exact unopened

theorem containsBraces_append {rest : List Char} (found : containsBraces rest = true)
    (front : List Char) : containsBraces (front ++ rest) = true := by
  induction front with
  | nil => exact found
  | cons c front ih =>
    rw [List.cons_append]
    by_contra absent
    rw [Bool.not_eq_true] at absent
    exact absurd ih (Bool.eq_false_iff.mp (containsBraces_cons absent).2)

theorem pieces_of_plain {text : List Char} (plain : containsBraces text = false) :
    pieces text = if text.isEmpty then [] else [.literal text] := by
  induction text with
  | nil =>
    rw [pieces]
    rfl
  | cons c rest ih =>
    obtain ⟨unopened, others⟩ := containsBraces_cons plain
    have unescaped : ∀ tail, c = '\\' → rest ≠ '{' :: '{' :: tail := by
      rintro tail - rfl
      simp [containsBraces] at others
    have single : pieces (c :: rest) = consLiteral [c] (pieces rest) := by
      rw [pieces]
      · exact fun tail => unescaped tail
      · exact fun tail => unopened tail
    rw [single, ih others]
    cases rest with
    | nil => rfl
    | cons d behind => rfl

/-- A text without braces is read as it is. -/
theorem parse_of_plain {text : String} (plain : containsPlaceholder text = false) :
    parse text = .ok (literal text) := by
  have empty : text.toList.isEmpty = text.isEmpty := by
    rw [Bool.eq_iff_iff]
    simp
  rw [parse, parseChars_eq le_rfl, pieces_of_plain plain, literal, empty]
  split
  · rfl
  · exact congrArg (fun read => Except.ok [Segment.literal read]) String.ofList_toList

theorem containsBraces_of_not_mem {text : List Char} (noBrace : '{' ∉ text) :
    containsBraces text = false := by
  induction text with
  | nil => rfl
  | cons c rest ih =>
    rw [List.mem_cons, not_or] at noBrace
    rw [containsBraces, ih noBrace.2]
    exact fun _ opening => absurd opening.symm noBrace.1

/-- A bare text is read as it is. -/
theorem parse_of_bare {text : String} (bare : Bare text.toList) :
    parse text = .ok (literal text) :=
  parse_of_plain (containsBraces_of_not_mem bare.2)

end RequestChain.Template
