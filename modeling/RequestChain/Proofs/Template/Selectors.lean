import RequestChain.Proofs.Json.Numbers
import RequestChain.Proofs.Template.RoundTrip

/-! # Paths in brackets

A path into a value is a list of selectors: names of fields, each written in brackets and quotation
marks, and positions of items in brackets. The reader of paths closes a bracket at the first
closing bracket, quoted or not. So it reads back exactly the paths in which no name holds a closing
bracket; any other path comes back with more segments than it has selectors.
-/

namespace RequestChain

/-- One step of a path into a value. -/
inductive Selector where
  /-- The field of that name. -/
  | key (name : String)
  /-- The item at that position. -/
  | index (position : Nat)
  deriving DecidableEq, Repr

namespace Selector

open Template Text

/-- The segment that stands for a selector in a path that has been read. -/
def segment : Selector → String
  | key name => name
  | index position => toString position

/-- What stands between the brackets. -/
def inner : Selector → List Char
  | key name => '"' :: (name.toList ++ ['"'])
  | index position => (toString position).toList

/-- How a selector is written. -/
def source (selector : Selector) : List Char :=
  '[' :: (selector.inner ++ [']'])

/-- Names without quotation marks and backslashes, and positions that fit a word. -/
def isWritable : Selector → Bool
  | key name => name.toList.all fun c => !(['"', '\'', '\\'].contains c)
  | index position => decide (position ≤ Json.maxWord)

/-- Names without closing brackets, and positions. -/
def isClosed : Selector → Bool
  | key name => !name.toList.contains ']'
  | index _ => true

theorem isWritable_key_iff {name : String} :
    (key name).isWritable = true ↔ ∀ c ∈ name.toList, isQuote c = false ∧ c ≠ '\\' := by
  simp [isWritable, isQuote, and_assoc]

/-! ## Scanning -/

private theorem isQuote_of_isDigit {c : Char} (digit : c.isDigit = true) : isQuote c = false := by
  refine Bool.eq_false_iff.mpr fun quote => ?_
  simp only [isQuote, Bool.or_eq_true, beq_iff_eq] at quote
  obtain rfl | rfl := quote <;> exact absurd digit (by decide)

private theorem isIdentifier_digitsOf (position : Nat) :
    isIdentifier (Decimal.digitsOf position) = true := by
  have characters : ∀ c ∈ Decimal.digitsOf position, isIdentifierChar c = true := fun c member => by
    simp [isIdentifierChar, Char.isAlphanum, Json.isDigit_of_mem_digitsOf member]
  simpa [isIdentifier, Json.digitsOf_ne_nil] using characters

theorem inert_source {selector : Selector} (writable : selector.isWritable = true) :
    Inert selector.source := by
  have opening : Inert ['['] := inert_of_any (by decide)
  have closing : Inert [']'] := inert_of_any (by decide)
  have inside : Inert selector.inner := by
    cases selector with
    | key name =>
      have unescaped : escapeQuotes name.toList = name.toList :=
        escapeQuotes_of_plain fun c member => by
          obtain ⟨notQuote, notBackslash⟩ := isWritable_key_iff.mp writable c member
          exact ⟨notBackslash, (not_or.mp (by simpa [isQuote] using notQuote)).1⟩
      simpa [inner, quoted, unescaped] using inert_quoted name.toList
    | index position =>
      rw [inner, Json.toList_toString]
      exact inert_of_isIdentifier (isIdentifier_digitsOf position)
  exact opening.append (inside.append closing)

theorem inert_sources {path : List Selector}
    (writable : ∀ selector ∈ path, selector.isWritable = true) :
    Inert (path.flatMap source) := by
  induction path with
  | nil => exact inert_nil
  | cons selector rest ih =>
    obtain ⟨first, others⟩ := List.forall_mem_cons.mp writable
    exact (inert_source first).append (ih others)

theorem isBody_source (selector : Selector) : IsBody selector.source := by
  have opening : IsBody ['['] := ⟨⟨'[', by decide⟩, ⟨'[', by decide⟩⟩
  have closing : IsBody [']'] := ⟨⟨']', by decide⟩, ⟨']', by decide⟩⟩
  exact opening.between selector.inner closing

/-! ## Reading -/

/-- The text in brackets stands for the selector, unless its name has quotation marks. -/
private theorem indexText_inner {selector : Selector} (writable : selector.isWritable = true) :
    indexText selector.inner = selector.segment.toList := by
  cases selector with
  | key name =>
    exact indexText_quoted fun c member => (isWritable_key_iff.mp writable c member).1
  | index position =>
    have body : IsBody (Decimal.digitsOf position) :=
      isBody_of_isIdentifier (isIdentifier_digitsOf position)
    have unquoted : ∀ c ∈ Decimal.digitsOf position, isQuote c = false := fun c member =>
      isQuote_of_isDigit (Json.isDigit_of_mem_digitsOf member)
    rw [segment, inner, Json.toList_toString, indexText, body.trim_eq,
      trimRight_eq_self fun c last => unquoted c (List.mem_of_getLast? last),
      trimLeft_eq_self fun c head => unquoted c (List.mem_of_head? head)]

theorem isClosed_iff {selector : Selector} : selector.isClosed = true ↔ ']' ∉ selector.inner := by
  cases selector with
  | key name => simp [isClosed, inner]
  | index position =>
    refine iff_of_true rfl fun member => ?_
    rw [inner, Json.toList_toString] at member
    exact absurd (Json.isDigit_of_mem_digitsOf member) (by decide)

theorem source_append (selector : Selector) (rest : List Char) :
    selector.source ++ rest = '[' :: (selector.inner ++ ']' :: rest) := by
  simp [source]

/-- A path without closing brackets in its names is read back. -/
theorem splitPath_sources {path : List Selector}
    (writable : ∀ selector ∈ path, selector.isWritable = true)
    (closed : ∀ selector ∈ path, selector.isClosed = true) (current : List Char) :
    splitPath false current (path.flatMap source) =
      some (finished current ++ path.map fun selector => selector.segment.toList) := by
  induction path generalizing current with
  | nil => simp [splitPath]
  | cons selector rest ih =>
    obtain ⟨first, others⟩ := List.forall_mem_cons.mp writable
    obtain ⟨plain, behind⟩ := List.forall_mem_cons.mp closed
    rw [List.flatMap_cons, source_append, splitPath_bracket (isClosed_iff.mp plain),
      ih others behind, indexText_inner first]
    simp [finished]

/-- Behind a text and a closing bracket, the reader of paths has finished a segment or collected
something. -/
private theorem splitPath_closing {inside : Bool} {current text rest : List Char}
    {segments : List (List Char)}
    (read : splitPath inside current (text ++ ']' :: rest) = some segments) :
    ∃ left others, splitPath false left rest = some others ∧
      others.length + 1 ≤ segments.length + (finished left).length := by
  induction text generalizing inside current segments with
  | nil =>
    rw [List.nil_append, splitPath] at read
    split at read
    · rw [if_pos rfl, Option.map_eq_some_iff] at read
      obtain ⟨others, found, rfl⟩ := read
      exact ⟨[], others, found, by simp⟩
    · rw [if_neg (by decide), if_neg (by decide)] at read
      exact ⟨current ++ [']'], segments, read, by simp [finished]⟩
  | cons c text ih =>
    -- Whatever was read in front only makes the list of segments longer.
    have longer {inside : Bool} {current : List Char} {add : List (List Char) → List (List Char)}
        (adds : ∀ path, path.length ≤ (add path).length)
        (read : (splitPath inside current (text ++ ']' :: rest)).map add = some segments) :
        ∃ left others, splitPath false left rest = some others ∧
          others.length + 1 ≤ segments.length + (finished left).length := by
      obtain ⟨path, found, rfl⟩ := Option.map_eq_some_iff.mp read
      obtain ⟨left, others, behind, short⟩ := ih found
      exact ⟨left, others, behind, short.trans (Nat.add_le_add_right (adds path) _)⟩
    rw [List.cons_append, splitPath] at read
    split at read
    · split at read
      · exact longer (by simp) read
      · exact ih read
    · split at read
      · exact longer (by simp) read
      split at read
      · exact longer (by simp) read
      · exact ih read

/-- Every name with a closing bracket costs a segment more than it stands for. -/
theorem length_le_of_splitPath {path : List Selector} {current : List Char}
    {segments : List (List Char)}
    (read : splitPath false current (path.flatMap source) = some segments) :
    path.length + path.countP (fun selector => !selector.isClosed) + (finished current).length ≤
      segments.length := by
  induction path generalizing current segments with
  | nil =>
    rw [List.flatMap_nil, splitPath, if_neg (by simp), Option.some.injEq] at read
    simp [← read]
  | cons selector rest ih =>
    rw [List.flatMap_cons, source_append] at read
    by_cases closed : selector.isClosed = true
    · rw [splitPath_bracket (isClosed_iff.mp closed), Option.map_eq_some_iff] at read
      obtain ⟨others, found, rfl⟩ := read
      have tail := ih found
      simp only [List.length_cons, List.length_append, finished, closed, Bool.not_true,
        List.countP_cons, Bool.false_eq_true, if_false] at tail ⊢
      omega
    · have bracket : ']' ∈ selector.inner := by simpa using mt isClosed_iff.mpr closed
      obtain ⟨front, back, shape, unclosed⟩ := List.eq_append_cons_of_mem bracket
      rw [shape, List.append_assoc, List.cons_append, splitPath_bracket unclosed,
        Option.map_eq_some_iff] at read
      obtain ⟨segments, found, rfl⟩ := read
      obtain ⟨left, others, behind, short⟩ := splitPath_closing found
      have tail := ih behind
      simp only [List.length_cons, List.length_append, closed, Bool.not_false, List.countP_cons,
        if_true] at tail ⊢
      omega

end Selector

/-! ## References to steps -/

namespace Template

/-- The inner text of a placeholder for a path, as it is written, into a recorded step. -/
def stepReference (id : String) (path : List Char) : String :=
  "steps." ++ (id ++ String.ofList path)

theorem toList_stepReference (id : String) (path : List Char) :
    (stepReference id path).toList = "steps.".toList ++ (id.toList ++ path) := by
  rw [stepReference, String.toList_append, String.toList_append, String.toList_ofList (l := path)]

/-- The template of one placeholder. -/
def placeholderOf (inner : String) : String :=
  String.ofList ('\x7b' :: '\x7b' :: (inner.toList ++ ['\x7d', '\x7d']))

/-- A reference to a step is read as its path is read. -/
theorem parse_stepReference {id : String} (stepName : isIdentifier id.toList = true)
    {path : List Char} (inert : Inert path) (body : IsBody path)
    (separate : ∀ c ∈ path.head?, c = '.' ∨ c = '[') :
    parse (placeholderOf (stepReference id path)) =
      (splitPath false [] path).elim
        (.error (.malformed (stepReference id path) .unterminatedIndex))
        fun segments => .ok [.placeholder (.mk (stepReference id path) false
          (.step id (segments.map String.ofList)))] := by
  have split := splitOptional_of_isBody (isBody_step stepName (.inr body)) false
  have read := parseChars_placeholder (inert_step stepName inert)
    (by simpa using split) (isBody_step stepName (.inr body)).ne_nil le_rfl
  rw [← toList_stepReference, String.ofList_toList] at read
  rw [parse, placeholderOf, String.toList_ofList, read, toList_stepReference,
    parseTarget_step stepName separate, ← toList_stepReference, String.ofList_toList]
  cases splitPath false [] path <;> rfl

end Template

end RequestChain
