import RequestChain.Proofs.PathParams.Unmasking
import RequestChain.Proofs.Resolve.Composition

/-! # Values of path parameters are literal

With tokens or with values in place of its parameters, a URL template is read and rendered in the
same way: the pieces that are no parameters are rendered from left to right, and what stands in
place of a parameter is no template. So nothing that is done depends on the values, and what is
returned is the row of the texts with the values in their places, as long as the tokens can be told
from the texts. Where a parameter stands inside another placeholder this does not hold, since a
function gets to see the token.
-/

namespace RequestChain.PathParams

open Template

/-- The source of a template made of pieces. -/
def sourceOf (pieces : List Piece) : String :=
  String.ofList (fillPieces (fun _ => none) pieces)

/-! ## Reading -/

/-- What is read from a piece: a part that is known, or a template. -/
def readPiece (names : List String) : Piece → Parsed (Part ⊕ Template)
  | .literal text => .ok (.inl (.literal (String.ofList text)))
  | .placeholder inner =>
    if nameOf inner ∈ names then .ok (.inl (.param (nameOf inner)))
    else (parse (String.ofList (inBraces inner))).map .inr

/-- The template of what is read from a piece. -/
def templateOf (value : String → String) : Part ⊕ Template → Template
  | .inl part => literal (part.fill value)
  | .inr template => template

section

variable {names : List String} {pieces : List Piece} {value? : String → Option String}

private theorem sourceOf_eq_join (value? : String → Option String) (pieces : List Piece) :
    String.ofList (fillPieces value? pieces) =
      String.join (pieces.map fun piece => String.ofList (fillPiece value? piece)) := by
  induction pieces with
  | nil => rfl
  | cons piece rest ih =>
    rw [fillPieces, List.flatMap_cons, String.ofList_append, List.map_cons, String.join_cons, ← ih]
    rfl

/-- With bare values in their places, every piece is closed. -/
private theorem closed_fillPiece (url : IsUrlTemplate names pieces)
    (covers : ∀ name ∈ names, (value? name).isSome)
    (bare : ∀ name value, value? name = some value → Bare value.toList)
    {piece : Piece} (member : piece ∈ pieces) : Closed (fillPiece value? piece) := by
  cases piece with
  | literal text =>
    exact closed_of_bare (url.literals text member).1
  | placeholder inner =>
    rw [fillPiece]
    cases found : value? (nameOf inner) with
    | some value => exact closed_of_bare (bare _ value found)
    | none =>
      refine closed_of_placeholder (url.closed inner member fun known => ?_)
      have covered := covers _ known
      rw [found] at covered
      cases covered

/-- What is read does not depend on the values. -/
private theorem parse_fillPiece (url : IsUrlTemplate names pieces)
    (covers : ∀ name, (value? name).isSome ↔ name ∈ names)
    (bare : ∀ name value, value? name = some value → Bare value.toList)
    {piece : Piece} (member : piece ∈ pieces) :
    parse (String.ofList (fillPiece value? piece)) =
      templateOf (fun name => (value? name).getD "") <$> readPiece names piece := by
  cases piece with
  | literal text =>
    refine parse_of_bare ?_
    rw [String.toList_ofList]
    exact (url.literals text member).1
  | placeholder inner =>
    rw [fillPiece, readPiece]
    cases found : value? (nameOf inner) with
    | some value =>
      have known : nameOf inner ∈ names := (covers _).mp (by rw [found]; rfl)
      rw [if_pos known, Option.map_some, Option.getD_some, String.ofList_toList,
        parse_of_bare (bare _ _ found)]
      change _ = Except.ok (literal ((value? (nameOf inner)).getD ""))
      rw [found]
      rfl
    | none =>
      have unknown : nameOf inner ∉ names := by
        rw [← covers, found]
        exact Bool.false_ne_true
      rw [if_neg unknown, Option.map_none, Option.getD_none]
      cases parse (String.ofList (inBraces inner)) <;> rfl

end

private theorem mapM_map_of_each {m : Type → Type} [Monad m] [LawfulMonad m] {α β γ : Type}
    {f : α → m β} {g : α → m γ} {h : γ → β} {items : List α}
    (each : ∀ item ∈ items, f item = h <$> g item) :
    items.mapM f = List.map h <$> items.mapM g := by
  induction items with
  | nil => simp
  | cons item rest ih =>
    obtain ⟨first, others⟩ := List.forall_mem_cons.mp each
    rw [List.mapM_cons, List.mapM_cons, first, ih others]
    simp only [map_eq_pure_bind, bind_assoc, pure_bind, List.map_cons]

/-! ## Rendering -/

section

variable {σ : Type} (registry : Registry σ) (context : Context)

/-- The part that what is read from a piece gives. -/
def renderPart : Part ⊕ Template → Resolving σ Part
  | .inl part => pure part
  | .inr template => do return .literal (← renderTemplate registry context template).text

/-- The parts of a URL template: the pieces are read, and those that are templates are rendered. -/
def resolveParts (names : List String) (pieces : List Piece) : Resolving σ (List Part) := do
  let read ← Effect.ofExcept ((pieces.mapM (readPiece names)).mapError .template)
  read.mapM (renderPart registry context)

/-- The text of one piece: the value of a parameter as it is, and every other placeholder resolved.
-/
def resolvePiece (params : OrderedMap String) : Piece → Resolving σ String
  | .literal text => pure (String.ofList text)
  | .placeholder inner =>
    match params.get? (nameOf inner) with
    | some value => pure value
    | none => resolve registry context (String.ofList (inBraces inner))

variable {registry context} {names : List String} {pieces : List Piece}

private theorem renderTemplate_templateOf (value : String → String) (read : Part ⊕ Template) :
    Rendered.text <$> renderTemplate registry context (templateOf value read) =
      Part.fill value <$> renderPart registry context read := by
  cases read with
  | inl part =>
    rw [templateOf, renderTemplate, renderSegments_literal, renderPart, map_pure, map_pure]
    rfl
  | inr template =>
    rw [templateOf, renderPart]
    simp only [map_eq_pure_bind, bind_assoc, pure_bind]
    rfl

/-- With bare values in place of its parameters, a URL template gives its parts, filled with the
values. -/
theorem resolve_fillPieces (url : IsUrlTemplate names pieces) {value? : String → Option String}
    (covers : ∀ name, (value? name).isSome ↔ name ∈ names)
    (bare : ∀ name value, value? name = some value → Bare value.toList) :
    resolve registry context (String.ofList (fillPieces value? pieces)) = do
      let parts ← resolveParts registry context names pieces
      return fillParts (fun name => (value? name).getD "") parts := by
  have closed : ∀ text ∈ pieces.map fun piece => String.ofList (fillPiece value? piece),
      Closed text.toList := by
    intro text member
    obtain ⟨piece, inside, rfl⟩ := List.mem_map.mp member
    rw [String.toList_ofList]
    exact closed_fillPiece url (fun name => (covers name).mpr) bare inside
  have parsed : (pieces.map fun piece => String.ofList (fillPiece value? piece)).mapM parse =
      List.map (templateOf fun name => (value? name).getD "") <$>
        pieces.mapM (readPiece names) := by
    rw [List.mapM_map]
    exact mapM_map_of_each fun piece inside => parse_fillPiece url covers bare inside
  rw [sourceOf_eq_join, resolve_join registry context closed, readAll, parsed, resolveParts]
  cases pieces.mapM (readPiece names) with
  | error error => rfl
  | ok read =>
    have rendered : List.map Rendered.text <$>
          (read.map (templateOf fun name => (value? name).getD "")).mapM
            (renderTemplate registry context) =
        List.map (Part.fill fun name => (value? name).getD "") <$>
          read.mapM (renderPart registry context) := by
      rw [List.mapM_map]
      exact (mapM_map_of_each fun _ _ => rfl).symm.trans
        (mapM_map_of_each fun item _ => renderTemplate_templateOf _ item)
    have joined := congrArg (String.join <$> ·) rendered
    simp only [map_eq_pure_bind, bind_assoc, pure_bind] at joined
    exact joined

/-! ## Parameters -/

section

variable {params : OrderedMap String}

/-- A URL template with bare values in place of its parameters. -/
theorem resolve_apply (url : IsUrlTemplate params.keys pieces)
    (areNames : ∀ name ∈ params.keys, isName name.toList = true)
    (bare : ∀ value ∈ params.values, Bare value.toList) :
    resolve registry context (apply (sourceOf pieces) params) = do
      let parts ← resolveParts registry context params.keys pieces
      return fillParts (valueOf params) parts := by
  rw [sourceOf, apply_eq params url areNames fun value member => (bare value member).2]
  exact resolve_fillPieces url (fun _ => params.isSome_get?_iff) fun name value found =>
    bare value (OrderedMap.mem_values_of_get? found)

/-- A URL template with parameters: its parts do not depend on the values. -/
theorem resolveWith_eq (nonempty : params.isEmpty = false) (url : IsUrlTemplate params.keys pieces)
    (areNames : ∀ name ∈ params.keys, isName name.toList = true) :
    resolveWith registry context (sourceOf pieces) params = do
      let parts ← resolveParts registry context params.keys pieces
      return unmask params (fillParts (valueOf (tokens params)) parts) := by
  rw [← keys_tokens params] at url areNames
  rw [resolveWith, nonempty, if_neg Bool.false_ne_true,
    resolve_apply url areNames (bare_of_mem_values_tokens params), keys_tokens]
  simp only [bind_assoc, pure_bind]

/-- Whatever the template is, what is done and whether it succeeds does not depend on the values. -/
theorem resolveWith_run_of_keys (template : String) {other : OrderedMap String}
    (same : other.keys = params.keys) (world : World σ) :
    ((resolveWith registry context template other).run world).2 =
        ((resolveWith registry context template params).run world).2 ∧
      ((resolveWith registry context template other).run world).1.map (fun _ => ()) =
        ((resolveWith registry context template params).run world).1.map fun _ => () := by
  have empty : other.isEmpty = params.isEmpty := by
    have lengths := congrArg List.isEmpty same
    rwa [OrderedMap.keys, OrderedMap.keys, List.isEmpty_map, List.isEmpty_map] at lengths
  have masked : tokens other = tokens params := by rw [tokens, tokens, same]
  rw [resolveWith, resolveWith, empty, masked]
  by_cases none : params.isEmpty = true
  · rw [if_pos none, if_pos none]
    exact ⟨rfl, rfl⟩
  · rw [if_neg none, if_neg none, Effect.run_bind, Effect.run_bind]
    rcases (resolve registry context (apply template (tokens params))).run world with
      ⟨error | text, after⟩
    · exact ⟨rfl, rfl⟩
    · exact ⟨rfl, rfl⟩

/-- What is read from a piece gives its text. -/
private theorem resolvePiece_of_read {piece : Piece} {read : Part ⊕ Template}
    (isRead : readPiece params.keys piece = .ok read) :
    resolvePiece registry context params piece =
      Part.fill (valueOf params) <$> renderPart registry context read := by
  cases piece with
  | literal text =>
    cases isRead
    rw [resolvePiece, renderPart, map_pure]
    rfl
  | placeholder inner =>
    rw [readPiece] at isRead
    rw [resolvePiece]
    by_cases known : nameOf inner ∈ params.keys
    · rw [if_pos known] at isRead
      cases isRead
      obtain ⟨value, found⟩ := Option.isSome_iff_exists.mp (params.isSome_get?_iff.mpr known)
      rw [renderPart, map_pure, Part.fill, valueOf, found]
      rfl
    · rw [if_neg known] at isRead
      rw [params.get?_eq_none_of_not_mem known]
      cases parsed : parse (String.ofList (inBraces inner)) with
      | error error =>
        rw [parsed] at isRead
        cases isRead
      | ok template =>
        rw [parsed] at isRead
        cases isRead
        rw [resolve, render_eq, parsed, renderPart]
        simp only [map_eq_pure_bind, bind_assoc, pure_bind]
        rfl

/-- Once all pieces are read, they give their texts one after the other. -/
private theorem mapM_resolvePiece {read : List (Part ⊕ Template)}
    (isRead : pieces.mapM (readPiece params.keys) = .ok read) :
    pieces.mapM (resolvePiece registry context params) =
      List.map (Part.fill (valueOf params)) <$> read.mapM (renderPart registry context) := by
  induction pieces generalizing read with
  | nil =>
    cases isRead
    simp
  | cons piece rest ih =>
    rw [List.mapM_cons] at isRead
    cases first : readPiece params.keys piece with
    | error error =>
      rw [first] at isRead
      cases isRead
    | ok item =>
      cases others : rest.mapM (readPiece params.keys) with
      | error error =>
        rw [first, others] at isRead
        cases isRead
      | ok items =>
        rw [first, others] at isRead
        cases isRead
        rw [List.mapM_cons, List.mapM_cons, resolvePiece_of_read first, ih others]
        simp only [map_eq_pure_bind, bind_assoc, pure_bind, List.map_cons]

/-- When a URL template succeeds, so does every piece of it, and their texts are those of its
parts. -/
private theorem of_resolveParts_eq_ok {world after : World σ} {parts : List Part}
    (returned : (resolveParts registry context params.keys pieces).run world = (.ok parts, after)) :
    (pieces.mapM (resolvePiece registry context params)).run world =
      (.ok (parts.map (Part.fill (valueOf params))), after) := by
  rw [resolveParts] at returned
  cases isRead : pieces.mapM (readPiece params.keys) with
  | error error =>
    rw [isRead] at returned
    cases returned
  | ok read =>
    rw [isRead] at returned
    have ran : (read.mapM (renderPart registry context)).run world = (.ok parts, after) := returned
    rw [mapM_resolvePiece isRead, map_eq_pure_bind, Effect.run_bind_of_ok ran, Effect.run_pure]

/-- The values of the parameters are literal. What a URL template does and whether it succeeds
depends on their names only. When it succeeds, its pieces have been resolved one after the other,
without the values; if the row of their texts and of the values, as they are, can be told from the
tokens, it is the result. -/
theorem resolveWith_literal (nonempty : params.isEmpty = false)
    (url : IsUrlTemplate params.keys pieces)
    (areNames : ∀ name ∈ params.keys, isName name.toList = true) (world : World σ) :
    (∀ other : OrderedMap String, other.keys = params.keys →
      ((resolveWith registry context (sourceOf pieces) other).run world).2 =
          ((resolveWith registry context (sourceOf pieces) params).run world).2 ∧
        ((resolveWith registry context (sourceOf pieces) other).run world).1.map (fun _ => ()) =
          ((resolveWith registry context (sourceOf pieces) params).run world).1.map fun _ => ()) ∧
    ∀ text after,
      (resolveWith registry context (sourceOf pieces) params).run world = (.ok text, after) →
        ∃ texts, (pieces.mapM (resolvePiece registry context params)).run world =
            (.ok texts, after) ∧
          ((∀ piece ∈ texts, '\x01' ∉ piece.toList) →
            ¬maskWord.toList <:+: (String.join texts).toList → text = String.join texts) := by
  refine ⟨fun other same => resolveWith_run_of_keys (sourceOf pieces) same world, ?_⟩
  intro text after returned
  rw [resolveWith_eq nonempty url areNames] at returned
  obtain ⟨parts, afterParts, resolved, unmasked⟩ := Effect.of_run_bind_eq_ok returned
  rw [Effect.run_pure, Prod.mk.injEq, Except.ok.injEq] at unmasked
  obtain ⟨rfl, rfl⟩ := unmasked
  refine ⟨_, of_resolveParts_eq_ok resolved, fun clean apart => ?_⟩
  refine unmask_fillParts params (fun inside => ?_) apart
  rw [fillParts, String.toList_join] at inside
  obtain ⟨piece, member, control⟩ := List.mem_flatMap.mp inside
  exact clean piece member control

/-- Braces in a value are taken as they are. -/
theorem resolveWith_literal_braces :
    let params := OrderedMap.ofList [("id", "\x7b\x7bx\x7d\x7d")]
    let pieces := [.literal "/items/".toList, .placeholder " id ".toList]
    params.isEmpty = false ∧ IsUrlTemplate params.keys pieces ∧
    (∀ name ∈ params.keys, isName name.toList = true) ∧
    ∀ text after, (resolveWith Registry.empty {} (sourceOf pieces) params).run
      ({ host := () } : World Unit) = (.ok text, after) → text = "/items/\x7b\x7bx\x7d\x7d" := by
  intro params pieces
  have areNames : ∀ name ∈ params.keys, isName name.toList = true := by decide +kernel
  have url : IsUrlTemplate params.keys pieces :=
    isUrlTemplate_of_plain (by decide +kernel) areNames
  refine ⟨by decide +kernel, url, areNames, fun text after returned => ?_⟩
  obtain ⟨texts, resolved, literal⟩ :=
    (resolveWith_literal (by decide +kernel) url areNames _).2 text after returned
  have isLiteral : Except.ok texts = Except.ok ["/items/", "\x7b\x7bx\x7d\x7d"] :=
    (congrArg Prod.fst resolved).symm
  obtain rfl := Except.ok.inj isLiteral
  exact literal (by decide +kernel) (by decide +kernel)

/-- It is not enough that no text of its own holds the control character or the word of the tokens:
here two texts make a token where they meet a third. -/
theorem resolveWith_seam :
    let params := OrderedMap.ofList [("a", "A"), ("id", "7")]
    let context : Context := { cli := .ofList [("v", "param-0")] }
    let pieces := [.literal "/".toList, .placeholder "id".toList, .literal "path-".toList,
      .placeholder "v".toList, .placeholder "id".toList]
    let texts := ["/", "7", "path-", "param-0", "7"]
    let world : World Unit := { host := () }
    params.isEmpty = false ∧ IsUrlTemplate params.keys pieces ∧
    (∀ name ∈ params.keys, isName name.toList = true) ∧
    ((pieces.mapM (resolvePiece Registry.empty context params)).run world).1 = .ok texts ∧
    (∀ text ∈ texts ++ params.values,
      '\x01' ∉ text.toList ∧ ¬maskWord.toList <:+: text.toList) ∧
    ((resolveWith Registry.empty context (sourceOf pieces) params).run world).1 =
      .ok "/\x01path-param-1Apath-param-1\x01" ∧
    "/\x01path-param-1Apath-param-1\x01" ≠ String.join texts := by
  intro params context pieces texts world
  have areNames : ∀ name ∈ params.keys, isName name.toList = true := by decide +kernel
  have url : IsUrlTemplate params.keys pieces :=
    isUrlTemplate_of_plain (by decide +kernel) areNames
  refine ⟨by decide +kernel, url, areNames, by decide +kernel, by decide +kernel,
    by decide +kernel, by decide +kernel⟩

/-- Resolving with parameters and resolving a template in which they are in place already is the
same, in what is done and in what comes of it, if the result can be told from the tokens. -/
theorem resolveWith_direct (nonempty : params.isEmpty = false)
    (url : IsUrlTemplate params.keys pieces)
    (areNames : ∀ name ∈ params.keys, isName name.toList = true)
    (bare : ∀ value ∈ params.values, Bare value.toList) (world : World σ) :
    (∀ error after,
      (resolve registry context (apply (sourceOf pieces) params)).run world =
          (.error error, after) →
        (resolveWith registry context (sourceOf pieces) params).run world = (.error error, after)) ∧
    ∀ text after,
      (resolve registry context (apply (sourceOf pieces) params)).run world = (.ok text, after) →
        ∃ unmasked, (resolveWith registry context (sourceOf pieces) params).run world =
            (.ok unmasked, after) ∧
          ('\x01' ∉ text.toList → ¬maskWord.toList <:+: text.toList → unmasked = text) := by
  rw [resolve_apply url areNames bare, resolveWith_eq nonempty url areNames, Effect.run_bind,
    Effect.run_bind]
  rcases (resolveParts registry context params.keys pieces).run world with ⟨failure | parts, last⟩
  · refine ⟨fun error after failed => failed, fun text after returned => ?_⟩
    cases returned
  · refine ⟨fun error after failed => ?_, fun text after returned => ?_⟩
    · cases failed
    · cases returned
      exact ⟨_, rfl, unmask_fillParts params⟩

/-- A value in place of its placeholder, twice. -/
theorem resolveWith_direct_twice :
    let params := OrderedMap.ofList [("id", "a1")]
    let pieces := [.placeholder "id".toList, .literal "/".toList, .placeholder "id".toList]
    let world : World Unit := { host := () }
    params.isEmpty = false ∧ IsUrlTemplate params.keys pieces ∧
    (∀ name ∈ params.keys, isName name.toList = true) ∧
    (∀ value ∈ params.values, Bare value.toList) ∧
    ∀ text after,
      (resolve Registry.empty {} (apply (sourceOf pieces) params)).run world = (.ok text, after) →
        ∃ unmasked, (resolveWith Registry.empty {} (sourceOf pieces) params).run world =
            (.ok unmasked, after) ∧
          ('\x01' ∉ text.toList → ¬maskWord.toList <:+: text.toList → unmasked = text) := by
  intro params pieces world
  have areNames : ∀ name ∈ params.keys, isName name.toList = true := by decide +kernel
  have url : IsUrlTemplate params.keys pieces :=
    isUrlTemplate_of_plain (by decide +kernel) areNames
  have bare : ∀ value ∈ params.values, Bare value.toList := by decide +kernel
  exact ⟨by decide +kernel, url, areNames, bare,
    (resolveWith_direct (by decide +kernel) url areNames bare world).2⟩

/-- A function that gives its arguments as they arrive. -/
def echoRegistry : Registry Unit :=
  Registry.empty.register "p" (.functionSource "f" fun arguments =>
    pure (.array (arguments.map .string)))

/-- A function sees the token of a parameter in its argument, and what it makes of the token is not
put right. -/
theorem resolveWith_argument :
    let params := OrderedMap.ofList [("id", "a1")]
    let template := "/\x7b\x7bplugins.p.f(\"\x7b\x7bid\x7d\x7d\")\x7d\x7d"
    let world : World Unit := { host := () }
    ((resolve echoRegistry {} (apply template params)).run world).1 = .ok "/[\"a1\"]" ∧
      ((resolveWith echoRegistry {} template params).run world).1 =
        .ok "/[\"\\u0001path-param-0\\u0001\"]" := by
  decide +kernel

end

end

end RequestChain.PathParams
