import RequestChain.Proofs.Resolve.BodyValue
import RequestChain.Proofs.Resolve.Composition
import RequestChain.Proofs.Template.Selectors

/-! # Values of recorded bodies

A response whose body is the compact form of an array or an object is recorded with that very
value. A path of names and positions that leads to a part of it can be written into a reference, and
the reference renders to the text of that part. The one thing that stands in the way is a name with
a closing bracket: its path is read as another one.

A body may as well be written with blanks between its tokens and strings spelled in any way. A body
that writes no array and no object is recorded as it is, and a reference to it renders to the very
same text: nothing in it is read as a template, and nothing is cut off. Numbers that are not whole
are recorded as what their parts are read as; nothing is said about how close that is to the text.
-/

namespace RequestChain

/-! ## Paths into a value -/

namespace Json

/-- The field of exactly that name, or the item at exactly that position. -/
def part? : Json → Selector → Option Json
  | .object fields, .key name => fields.lookup name
  | .array items, .index position => items[position]?
  | _, _ => none

/-- The value that a path leads to. -/
def follow? (value : Json) : List Selector → Option Json
  | [] => some value
  | selector :: path => (value.part? selector).bind (·.follow? path)

/-- A position is read back from its digits. -/
theorem parseIndex?_toString {position : Nat} (fits : position ≤ maxWord) :
    parseIndex? (toString position) = some position := by
  have unsigned : ∀ rest, Decimal.digitsOf position ≠ '+' :: rest := by
    intro rest same
    have digit := isDigit_of_mem_digitsOf (show '+' ∈ Decimal.digitsOf position by simp [same])
    exact absurd digit (by decide)
  have digit : ∀ c ∈ Decimal.digitsOf position, c.isDigit = true :=
    fun c => isDigit_of_mem_digitsOf
  have all : (Decimal.digitsOf position).all Char.isDigit = true := List.all_eq_true.mpr digit
  have some : (Decimal.digitsOf position).isEmpty = false := List.isEmpty_eq_false_iff.mpr (digitsOf_ne_nil _)
  simp only [parseIndex?, toList_toString, all, some, natOfDigits_digitsOf, if_pos fits]
  rfl

theorem select?_segment {value part : Json} {selector : Selector}
    (writable : selector.isWritable = true) (leads : value.part? selector = some part) :
    value.select? selector.segment = some part := by
  cases value with
  | object fields =>
    cases selector with
    | key name =>
      have found : fields.lookup name = some part := leads
      rw [Selector.segment, select?, found, Option.some_or]
    | index position => cases leads
  | array items =>
    cases selector with
    | key name => cases leads
    | index position =>
      have fits : position ≤ maxWord := of_decide_eq_true writable
      rw [Selector.segment, select?, parseIndex?_toString fits]
      exact leads
  | _ => cases leads

/-- The segments of a path select what the path leads to. -/
theorem atPath?_of_follow? {value found : Json} {path : List Selector}
    (writable : ∀ selector ∈ path, selector.isWritable = true)
    (leads : value.follow? path = some found) :
    value.atPath? (path.map Selector.segment) = some found := by
  induction path generalizing value with
  | nil => exact leads
  | cons selector rest ih =>
    obtain ⟨first, others⟩ := List.forall_mem_cons.mp writable
    obtain ⟨part, taken, behind⟩ := Option.bind_eq_some_iff.mp leads
    rw [List.map_cons, atPath?, select?_segment first taken]
    exact ih others behind

/-! ## Objects made of fields -/

theorem lookup_insertField_of_ne {name other : String} (differ : name ≠ other) (value : Json)
    (fields : List (String × Json)) :
    (insertField other value fields).lookup name = fields.lookup name := by
  have unequal : (name == other) = false := beq_false_of_ne differ
  induction fields with
  | nil => rw [insertField, List.lookup_cons, unequal]
  | cons field rest ih =>
    rw [insertField]
    split
    · rfl
    split
    · rw [List.lookup_cons, unequal]
    · rw [List.lookup_cons, List.lookup_cons, ih]

theorem lookup_insertField_of_fresh {name : String} {fields : List (String × Json)}
    (fresh : fields.lookup name = none) (value : Json) :
    (insertField name value fields).lookup name = some value := by
  induction fields with
  | nil => simp [insertField]
  | cons field rest ih =>
    rw [List.lookup_cons] at fresh
    split at fresh
    · cases fresh
    rename_i unequal
    rw [insertField, if_neg (ne_of_beq_false unequal)]
    split
    · simp
    · rw [List.lookup_cons, unequal]
      exact ih fresh

/-- An object that is made of fields with distinct names holds each of them. -/
theorem lookup_ofFields {fields : List (String × Json)} (distinct : (fields.map Prod.fst).Nodup)
    (name : String) :
    (fields.foldr (fun field rest => insertField field.1 field.2 rest) []).lookup name =
      fields.lookup name := by
  induction fields with
  | nil => rfl
  | cons field rest ih =>
    obtain ⟨fresh, others⟩ := List.nodup_cons.mp distinct
    rw [List.foldr_cons]
    by_cases same : name = field.1
    · subst same
      rw [lookup_insertField_of_fresh ((ih others).trans (lookup_eq_none_of_fresh fresh)),
        List.lookup_cons, beq_self_eq_true]
    · rw [lookup_insertField_of_ne same, ih others, List.lookup_cons, beq_false_of_ne same]

theorem select?_ofFields {fields : List (String × Json)} (distinct : (fields.map Prod.fst).Nodup)
    {name : String} {value : Json} (found : fields.lookup name = some value) :
    (ofFields fields).select? name = some value := by
  rw [ofFields, select?, lookup_ofFields distinct, found, Option.some_or]

end Json

/-! ## Recorded bodies -/

theorem atPath?_stepRecord (result : StepResult) (path : List String) :
    (stepRecord result).atPath? ("response" :: "body" :: path) =
      result.response.bodyValue.atPath? path := by
  have response : (stepRecord result).select? "response" = some _ :=
    Json.select?_ofFields (by simp) rfl
  rw [Json.atPath?, response, Option.bind_some, Json.atPath?,
    Json.select?_ofFields (by simp) rfl, Option.bind_some]

/-- The compact form of an array or an object is read back as it was. -/
theorem Response.bodyValue_compact {response : Response} {value : Json}
    (printed : response.body = value.compact) (tree : value.isScalar = false)
    (fit : value.fits Json.maxLevels = true) (ordered : value.sorted = value) :
    response.bodyValue = value := by
  have written : Json.WrittenText Json.maxLevels value response.body.toList :=
    printed ▸ Json.writtenText_compact fit
  rw [bodyValue_of_writtenText written tree, ordered]

/-- A step of that id has been recorded with a response whose body is the compact form of a value:
of an array or an object with fields in order, as deep as the reader of JSON goes and with whole
numbers that fit a word. The id is one that a reference can name. -/
structure RecordsBody (context : Context) (id : String) (body : Json) : Prop where
  stepName : Template.isIdentifier id.toList = true
  recorded : ∃ result, context.steps.get? id = some (stepRecord result) ∧
    result.response.body = body.compact
  tree : body.isScalar = false
  fits : body.fits Json.maxLevels = true
  ordered : body.sorted = body

theorem RecordsBody.stepValue {context : Context} {id : String} {body : Json}
    (records : RecordsBody context id body) (path : List String) :
    context.stepValue id ("response" :: "body" :: path) = body.atPath? path := by
  obtain ⟨result, found, printed⟩ := records.recorded
  have read := result.response.bodyValue_compact printed records.tree records.fits records.ordered
  rw [Context.stepValue, found, Option.bind_some, atPath?_stepRecord, read]

/-! ## References into recorded bodies -/

/-- The path of a body, as it is written behind the id of a step. -/
def bodyPath (path : List Selector) : List Char :=
  '.' :: ("response".toList ++ '.' :: ("body".toList ++ path.flatMap Selector.source))

/-- The template that refers to a part of the body of a step. -/
def bodyTemplate (id : String) (path : List Selector) : String :=
  Template.placeholderOf (Template.stepReference id (bodyPath path))

/-- What that template is meant to be read as. -/
def bodyReading (id : String) (path : List Selector) : Template :=
  [.placeholder (.mk (Template.stepReference id (bodyPath path)) false
    (.step id ("response" :: "body" :: path.map Selector.segment)))]

open Template in
private theorem splitPath_bodyPath (path : List Selector) :
    splitPath false [] (bodyPath path) =
      (splitPath false "body".toList (path.flatMap Selector.source)).map
        ("response".toList :: ·) := by
  rw [bodyPath, splitPath_point, splitPath_plain (by decide), splitPath_point,
    splitPath_plain (by decide), Option.map_map]
  rfl

private theorem isBody_bodyPath (path : List Selector) : Template.IsBody (bodyPath path) := by
  have point : Template.IsBody ['.'] := ⟨⟨'.', by decide⟩, ⟨'.', by decide⟩⟩
  have body : Template.IsBody "body".toList := ⟨⟨'b', by decide⟩, ⟨'y', by decide⟩⟩
  have ends : Template.IsBody ("body".toList ++ path.flatMap Selector.source) := by
    obtain rfl | ⟨rest, last, rfl⟩ := List.eq_nil_or_concat path
    · simpa using body
    · rw [List.concat_eq_append, List.flatMap_append, List.flatMap_singleton]
      exact body.between _ (Selector.isBody_source last)
  rw [bodyPath, List.append_cons]
  exact point.between ("response".toList ++ ['.']) ends

private theorem inert_bodyPath {path : List Selector}
    (writable : ∀ selector ∈ path, selector.isWritable = true) :
    Template.Inert (bodyPath path) := by
  have point : Template.Inert ['.'] := Template.inert_of_any (by decide)
  have response : Template.Inert "response".toList := Template.inert_of_any (by decide)
  have body : Template.Inert "body".toList := Template.inert_of_any (by decide)
  rw [bodyPath]
  have sources := Selector.inert_sources writable
  exact point.append (response.append (point.append (body.append sources)))

/-- A path into a body is read back exactly if no name in it holds a closing bracket. -/
theorem parse_bodyTemplate_iff {id : String} (stepName : Template.isIdentifier id.toList = true)
    {path : List Selector} (writable : ∀ selector ∈ path, selector.isWritable = true) :
    Template.parse (bodyTemplate id path) = .ok (bodyReading id path) ↔
      ∀ selector ∈ path, selector.isClosed = true := by
  have separate : ∀ c ∈ (bodyPath path).head?, c = '.' ∨ c = '[' := by
    simp [bodyPath]
  rw [bodyTemplate, Template.parse_stepReference stepName (inert_bodyPath writable)
    (isBody_bodyPath path) separate, splitPath_bodyPath]
  constructor
  · intro read
    cases found : Template.splitPath false "body".toList (path.flatMap Selector.source) with
    | none =>
      rw [found] at read
      cases read
    | some segments =>
      rw [found, Option.map_some, Option.elim_some, bodyReading] at read
      have same : ("response".toList :: segments).map String.ofList =
          "response" :: "body" :: path.map Selector.segment := by
        simpa only [Except.ok.injEq, List.cons.injEq, Segment.placeholder.injEq,
          Reference.mk.injEq, Target.step.injEq, and_true, true_and] using read
      -- Each name with a closing bracket would cost a segment that is not there.
      have long := Selector.length_le_of_splitPath found
      have short := congrArg List.length same
      have collected : (Template.finished "body".toList).length = 1 := rfl
      simp only [List.length_map, List.length_cons] at short
      have none := List.countP_eq_zero.mp (show path.countP (fun s => !s.isClosed) = 0 by omega)
      exact fun selector member => by simpa using none selector member
  · intro closed
    rw [Selector.splitPath_sources writable closed]
    have body : Template.finished "body".toList = ["body".toList] := rfl
    simp only [Option.map_some, Option.elim_some, body, List.singleton_append, List.map_cons,
      List.map_map, Function.comp_def, String.ofList_toList]
    rfl

/-! ## Rendering -/

/-- A reference to a recorded step gives the text of the value at the end of its path. -/
theorem render_step {σ : Type} (registry : Registry σ) (context : Context)
    {template raw id : String} {path : List String} {value : Json} {text : String}
    (expands : Template.containsPlaceholder template = true)
    (parsed : Template.parse template = .ok [.placeholder (.mk raw false (.step id path))])
    (found : context.stepValue id path = some value) (rendered : renderScalar value = some text) :
    render registry context template = pure (.literal text) := by
  rw [render_of_parsed _ _ expands parsed]
  have reference : lookupReference registry context (expandWithin registry context maxDepth) 0
      (.mk raw false (.step id path)) = pure (some text) := by
    rw [lookupReference, lookupTarget, found, Option.bind_some, rendered]
  simp only [renderTemplate, renderSegments, renderSegment, reference, pure_bind,
    Option.isNone_some, Bool.false_and, Bool.false_eq_true, if_false, Reference.optional]
  rw [Rendered.append_empty]
  rfl

/-- Every part of a recorded body renders to its text, without asking a collaborator, if no name on
the way holds a closing bracket; and exactly then the path is read back as it was written. -/
theorem render_recordedBody {σ : Type} (registry : Registry σ) {context : Context} {id : String}
    {body : Json} (records : RecordsBody context id body) {path : List Selector}
    (writable : ∀ selector ∈ path, selector.isWritable = true) :
    (Template.parse (bodyTemplate id path) = .ok (bodyReading id path) ↔
      ∀ selector ∈ path, selector.isClosed = true) ∧
    ∀ found, body.follow? path = some found → found ≠ .null →
      (∀ selector ∈ path, selector.isClosed = true) →
      ∃ text, renderScalar found = some text ∧
        render registry context (bodyTemplate id path) = pure (.literal text) := by
  refine ⟨parse_bodyTemplate_iff records.stepName writable, fun found leads present closed => ?_⟩
  have parsed := (parse_bodyTemplate_iff records.stepName writable).mpr closed
  have value : context.stepValue id ("response" :: "body" :: path.map Selector.segment) =
      some found := by
    rw [records.stepValue, Json.atPath?_of_follow? writable leads]
  have expands : Template.containsPlaceholder (bodyTemplate id path) = true := by
    rw [Template.containsPlaceholder, bodyTemplate, Template.placeholderOf, String.toList_ofList]
    rfl
  obtain ⟨text, rendered⟩ : ∃ text, renderScalar found = some text := by
    cases found with
    | null => exact absurd rfl present
    | _ => exact ⟨_, rfl⟩
  exact ⟨text, rendered, render_step registry context expands parsed value rendered⟩

/-- A context in which a step `s` has been recorded with a body. -/
private def withBody (body : String) : Context :=
  { steps := ⟨[("s", stepRecord { response := { body } })], by simp⟩ }

/-- Names may be empty and hold points, opening brackets, braces, commas, blanks and marks. -/
theorem render_recordedBody_strangeNames :
    let strange := "a.b [c,\x7b\x7d\x7d?"
    let body : Json := .object [("", .object [(strange, .array [.null, Json.ofNat 7])])]
    let path : List Selector := [.key "", .key strange, .index 1]
    RecordsBody (withBody body.compact) "s" body ∧ body.follow? path = some (Json.ofNat 7) ∧
      render (Registry.empty : Registry Unit) (withBody body.compact) (bodyTemplate "s" path) =
        pure (.literal "7") := by
  intro strange body path
  have records : RecordsBody (withBody body.compact) "s" body := {
    stepName := by decide
    recorded := ⟨_, rfl, rfl⟩
    tree := rfl
    fits := by decide
    ordered := by rfl }
  have writable : ∀ selector ∈ path, selector.isWritable = true := by decide
  have closed : ∀ selector ∈ path, selector.isClosed = true := by decide
  have leads : body.follow? path = some (Json.ofNat 7) := by rfl
  have seven : renderScalar (Json.ofNat 7) = some "7" := by decide
  obtain ⟨text, rendered, same⟩ :=
    (render_recordedBody Registry.empty records writable).2 _ leads (by simp [Json.ofNat]) closed
  obtain rfl := Option.some.inj (seven.symm.trans rendered)
  exact ⟨records, leads, same⟩

/-- The reader of paths takes a closing bracket for the end of a name, though it is quoted. -/
theorem render_recordedBody_closingBracket :
    let body : Json := .object [("a]", Json.ofNat 1)]
    let path : List Selector := [.key "a]"]
    RecordsBody (withBody body.compact) "s" body ∧
      (∀ selector ∈ path, selector.isWritable = true) ∧
      body.follow? path = some (Json.ofNat 1) ∧ renderScalar (Json.ofNat 1) = some "1" ∧
      ((render Registry.empty (withBody body.compact) (bodyTemplate "s" path)).run
        ({ host := () } : World Unit)).1 =
          .error (.unresolved "steps.s.response.body[\"a]\"]") := by
  intro body path
  refine ⟨⟨by decide, ⟨_, rfl, rfl⟩, rfl, by decide, by rfl⟩, by decide, by rfl, by decide, ?_⟩
  decide +kernel

/-! ## Whole bodies -/

/-- Every body survives being recorded. If it writes an array or an object, it is recorded as that
value, with fields in the order of their names and the last one of equal names. Else it is recorded
as its text, and a reference to it renders to that text. -/
theorem Response.bodyValue_survives (response : Response) :
    (∀ value, Json.WrittenText Json.maxLevels value response.body.toList →
      value.isScalar = false → response.bodyValue = value.sorted) ∧
    ((∀ value, Json.WrittenText Json.maxLevels value response.body.toList →
        value.isScalar = true) →
      response.bodyValue = .string response.body ∧
      ∀ {σ : Type} (registry : Registry σ) (context : Context) (id : String) (result : StepResult),
        result.response = response → Template.isIdentifier id.toList = true →
        context.steps.get? id = some (stepRecord result) →
        render registry context (bodyTemplate id []) = pure (.literal response.body)) := by
  refine ⟨fun value written tree => bodyValue_of_writtenText written tree, fun plain => ?_⟩
  have text := bodyValue_of_plain plain
  refine ⟨text, fun registry context id result same stepName recorded => ?_⟩
  subst same
  have parsed :=
    (parse_bodyTemplate_iff stepName (List.forall_mem_nil _)).mpr (List.forall_mem_nil _)
  have value : context.stepValue id ["response", "body"] = some (.string result.response.body) := by
    rw [Context.stepValue, recorded, Option.bind_some, atPath?_stepRecord, text]
    rfl
  have expands : Template.containsPlaceholder (bodyTemplate id []) = true := by
    rw [Template.containsPlaceholder, bodyTemplate, Template.placeholderOf, String.toList_ofList]
    rfl
  exact render_step registry context expands parsed value rfl

/-- An object with blanks, a code in two halves and a repeated name, before the least word; and a
text with braces, marks and a control character that is broken off. -/
theorem Response.bodyValue_survives_wholeAndBroken :
    let whole : Response := { body :=
      " [\t\x7b\"b\" :1, \"\\u0062\":\r\"\\uD834\\udd1e\\/\" \x7d,-9223372036854775808 \n] " }
    let broken : Response := { body := "\x7b\"a\" : [\x7b\x7bx\x7d\x7d, \\\"\x01\n" }
    let context := (Context.recordStep {} { stepId := "s", response := broken }).1
    whole.bodyValue =
      .array [.object [("b", .string "𝄞/")], .number (.whole (-9223372036854775808))] ∧
    broken.bodyValue = .string broken.body ∧
    render (Registry.empty : Registry Unit) context (bodyTemplate "s" []) =
      pure (.literal broken.body) := by
  intro whole broken context
  have written : Json.WrittenText Json.maxLevels
      (.array [.object [("b", Json.ofNat 1), ("b", .string "𝄞/")],
        .number (.whole (-9223372036854775808))]) whole.body.toList := by
    refine Json.read?_iff.mp ?_
    dsimp only [whole]
    rfl
  have plain : ∀ value, Json.WrittenText Json.maxLevels value broken.body.toList →
      value.isScalar = true := by
    intro value written
    have unread : Json.read? Json.maxLevels broken.body.toList = none := by
      dsimp only [broken]
      rfl
    rw [written.read] at unread
    cases unread
  obtain ⟨text, rendered⟩ := broken.bodyValue_survives.2 plain
  refine ⟨?_, text, rendered Registry.empty context "s" _ rfl (by decide) rfl⟩
  exact whole.bodyValue_survives.1 _ written rfl

end RequestChain
