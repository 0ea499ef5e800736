import RequestChain.Entries
import RequestChain.Proofs.Resolve.Composition
import RequestChain.Proofs.Template.RoundTrip

/-! # Optional references through variables

A variable may hold nothing but an optional reference to the next name, and so on, up to a name that
is not defined. An optional reference to that name is undefined, and an entry made of it is left
out. Through a variable it is not: the variable has a value, in which the undefined name leaves no
text, so the reference counts as defined and its entry is kept without a text. Nothing is said here
about variables that hold more than a reference.
-/

namespace RequestChain

/-- A name that a reference without a qualifier can ask for. -/
structure IsVariable (name : String) : Prop where
  plain : Template.isPlainName name.toList = true
  unqualified : Template.isUnqualified name.toList = true

/-- An optional reference to a name. -/
def optionalTo (name : String) : Reference :=
  .mk name true (.variable name)

/-- The text of an optional reference to a name. -/
def optionalText (name : String) : String :=
  String.ofList ('{' :: '{' :: ((name.toList ++ ['?']) ++ ['}', '}']))

/-- A name leads to another one through so many variables, each of which holds an optional reference
to the next name. -/
inductive LeadsTo (context : Context) : Nat → String → String → Prop
  | itself {name : String} (isVariable : IsVariable name) : LeadsTo context 0 name name
  | through {count : Nat} {name next last : String} (isVariable : IsVariable name)
      (held : context.lookup name = some (optionalText next))
      (others : LeadsTo context count next last) : LeadsTo context (count + 1) name last

namespace LeadsTo

variable {context : Context} {count : Nat} {name last : String}

/-- A name that leads somewhere is the name of a variable. -/
theorem isVariable (chain : LeadsTo context count name last) : IsVariable name := by
  cases chain with
  | itself isVariable => exact isVariable
  | through isVariable _ _ => exact isVariable

end LeadsTo

private theorem containsPlaceholder_optionalText (name : String) :
    Template.containsPlaceholder (optionalText name) = true := by
  rw [Template.containsPlaceholder, optionalText, String.toList_ofList]
  rfl

private theorem parse_optionalText {name : String} (isVariable : IsVariable name) :
    Template.parse (optionalText name) = .ok [.placeholder (optionalTo name)] := by
  rw [Template.parse, optionalText, String.toList_ofList]
  exact Template.parseChars_written
    (.placeholder true (.unqualified isVariable.plain isVariable.unqualified) .nil)

section

variable {σ : Type} {registry : Registry σ} {context : Context}

/-- A placeholder of a reference whose value is known beforehand. -/
private theorem renderSegments_of_value {expand : Expander σ} {depth : Nat} {name : String}
    {value : Option String}
    (found : lookupReference registry context expand depth (optionalTo name) = pure value) :
    renderSegments registry context expand depth [.placeholder (optionalTo name)] =
      pure (.ofReference true value) := by
  rw [renderSegments, renderSegment, found, renderSegments]
  simp only [pure_bind, Rendered.append_empty]
  rw [optionalTo, Reference.optional, Bool.not_true, Bool.and_false, if_neg Bool.false_ne_true,
    pure_bind]

/-- What an optional reference finds at the end of a chain of variables: nothing if there is no
variable, and otherwise the empty text. -/
private theorem lookupReference_of_leadsTo {count : Nat} {name last : String}
    (chain : LeadsTo context count name last) (undefined : context.lookup last = none) :
    ∀ levels depth, count ≤ levels → depth + count < maxDepth →
      lookupReference registry context (expandWithin registry context levels) depth
          (optionalTo name) =
        pure (if count = 0 then none else some "") := by
  induction chain with
  | itself isVariable =>
    intro levels depth _ _
    rw [optionalTo, lookupReference, lookupTarget, undefined]
    rfl
  | @through count name next last isVariable held others ih =>
    intro levels depth within shallow
    obtain ⟨levels, rfl⟩ : ∃ lower, levels = lower + 1 := ⟨levels - 1, by omega⟩
    have nested := ih undefined levels (depth + 1) (by omega) (by omega)
    rw [optionalTo, lookupReference, lookupTarget, held, expandValue,
      if_pos (containsPlaceholder_optionalText next),
      expandWithin_of_parsed _ _ (by omega) (parse_optionalText others.isVariable),
      renderSegments_of_value nested, pure_bind]
    split <;> rfl

/-- An optional reference that leads to an undefined name is rendered without a text. It counts as
undefined only if it names the undefined name itself. -/
theorem render_of_leadsTo {count : Nat} {name last : String}
    (chain : LeadsTo context count name last) (short : count < maxDepth)
    (undefined : context.lookup last = none) :
    render registry context (optionalText name) = pure
      { text := "", optionalReferences := 1, undefinedOptional := if count = 0 then 1 else 0 } := by
  have found : lookupReference registry context (expandWithin registry context maxDepth) 0
      (optionalTo name) = pure (if count = 0 then none else some "") :=
    lookupReference_of_leadsTo chain undefined maxDepth 0 short.le (by omega)
  rw [render_of_parsed _ _ (containsPlaceholder_optionalText name)
    (parse_optionalText chain.isVariable), renderTemplate, renderSegments_of_value found]
  by_cases direct : count = 0
  · rw [if_pos direct, if_pos direct]
    rfl
  · rw [if_neg direct, if_neg direct]
    rfl

/-! ## Entries -/

variable {keep : Rendered → Bool}

/-- No name comes from elsewhere than the entries, and none comes twice. -/
theorem names_resolveKept_sublist {entries : List (String × Json)} {world after : World σ}
    {kept : List (String × String)}
    (returned : (resolveKept registry context keep entries).run world = (.ok kept, after)) :
    (kept.map Prod.fst).Sublist (entries.map Prod.fst) := by
  induction entries generalizing world kept with
  | nil =>
    cases returned
    exact .slnil
  | cons entry rest ih =>
    obtain ⟨name, value⟩ := entry
    rw [resolveKept] at returned
    cases scalar : renderScalar value with
    | none =>
      rw [scalar] at returned
      exact (ih returned).cons _
    | some template =>
      rw [scalar] at returned
      obtain ⟨rendered, middle, -, returned⟩ := Effect.of_run_bind_eq_ok returned
      obtain ⟨others, last, returned, result⟩ := Effect.of_run_bind_eq_ok returned
      cases result
      split
      · exact (ih returned).cons_cons _
      · exact (ih returned).cons _

/-- An entry of which the rendering is known beforehand is in the result if it is to be kept. -/
theorem lookup_resolveKept {entries : List (String × Json)} {world after : World σ}
    {kept : List (String × String)} (distinct : (entries.map Prod.fst).Nodup)
    {key template : String} (held : entries.lookup key = some (.string template))
    {rendered : Rendered} (known : render registry context template = pure rendered)
    (returned : (resolveKept registry context keep entries).run world = (.ok kept, after)) :
    kept.lookup key = if keep rendered then some rendered.text else none := by
  induction entries generalizing world kept with
  | nil => cases held
  | cons entry rest ih =>
    obtain ⟨name, value⟩ := entry
    obtain ⟨fresh, apart⟩ := List.nodup_cons.mp distinct
    rw [resolveKept] at returned
    by_cases asked : key = name
    · subst asked
      rw [List.lookup_cons_self, Option.some.injEq] at held
      subst held
      simp only [renderScalar, known] at returned
      obtain ⟨first, middle, isFirst, returned⟩ := Effect.of_run_bind_eq_ok returned
      cases isFirst
      obtain ⟨others, last, returned, result⟩ := Effect.of_run_bind_eq_ok returned
      cases result
      have absent := lookup_eq_none_of_fresh fun known =>
        fresh ((names_resolveKept_sublist returned).subset known)
      split
      · exact List.lookup_cons_self
      · exact absent
    · have differ : (key == name) = false := beq_eq_false_iff_ne.mpr asked
      rw [List.lookup_cons, differ] at held
      cases scalar : renderScalar value with
      | none =>
        rw [scalar] at returned
        exact ih apart held returned
      | some text =>
        rw [scalar] at returned
        obtain ⟨first, middle, -, returned⟩ := Effect.of_run_bind_eq_ok returned
        obtain ⟨others, last, returned, result⟩ := Effect.of_run_bind_eq_ok returned
        cases result
        have found := ih apart held returned
        split
        · rw [List.lookup_cons, differ]
          exact found
        · exact found

/-- An entry that is an optional reference to an undefined name is left out. If the reference leads
there through variables the entry is kept, with an empty text. -/
theorem resolveEntriesWithOptional_of_leadsTo {count : Nat} {name last : String}
    (chain : LeadsTo context count name last) (short : count < maxDepth)
    (undefined : context.lookup last = none) {entries : ScalarMap} {key : String}
    (held : entries.get? key = some (.string (optionalText name))) {world after : World σ}
    {result : OrderedMap String}
    (returned : (resolveEntriesWithOptional registry context entries).run world =
      (.ok result, after)) :
    result.get? key = if count = 0 then none else some "" := by
  obtain ⟨kept, middle, resolved, collected⟩ := Effect.of_run_bind_eq_ok returned
  cases collected
  have distinct : (kept.map Prod.fst).Nodup :=
    entries.nodup.sublist (names_resolveKept_sublist resolved)
  have known : render registry context (optionalText name) = _ :=
    render_of_leadsTo chain short undefined
  rw [OrderedMap.get?, OrderedMap.entries_ofList distinct,
    lookup_resolveKept entries.nodup held known resolved]
  by_cases direct : count = 0
  · rw [if_pos direct, if_pos direct]
    rfl
  · rw [if_neg direct, if_neg direct]
    rfl

/-- A name that is not defined, behind one variable. -/
theorem resolveEntriesWithOptional_leadsTo_one :
    let context : Context := { cli := .ofList [("a", optionalText "x")] }
    let entries : ScalarMap := .ofList [("H", .string (optionalText "a"))]
    LeadsTo context 1 "a" "x" ∧ 1 < maxDepth ∧ context.lookup "x" = none ∧
    entries.get? "H" = some (.string (optionalText "a")) ∧
    ∃ result after, (resolveEntriesWithOptional Registry.empty context entries).run
      ({ host := () } : World Unit) = (.ok result, after) ∧ result.get? "H" = some "" := by
  intro context entries
  have chain : LeadsTo context 1 "a" "x" :=
    .through ⟨by decide, by decide⟩ (by decide +kernel) (.itself ⟨by decide, by decide⟩)
  have undefined : context.lookup "x" = none := by decide +kernel
  have held : entries.get? "H" = some (.string (optionalText "a")) := rfl
  have succeeds : ((resolveEntriesWithOptional Registry.empty context entries).run
      ({ host := () } : World Unit)).1.isOk = true := by decide +kernel
  refine ⟨chain, by decide, undefined, held, ?_⟩
  rcases ran : (resolveEntriesWithOptional Registry.empty context entries).run
    ({ host := () } : World Unit) with ⟨error | result, after⟩
  · rw [ran] at succeeds
    cases succeeds
  · exact ⟨result, after, rfl,
      resolveEntriesWithOptional_of_leadsTo chain (by decide) undefined held ran⟩

/-- Through one variable, an entry that is made of an undefined optional reference is kept. -/
theorem resolveEntriesWithOptional_keeps_empty :
    let context : Context := { cli := .ofList [("a", "\x7b\x7bx?\x7d\x7d")] }
    let world : World Unit := { host := () }
    let run (value : String) := ((resolveEntriesWithOptional Registry.empty context
      (.ofList [("H", .string value)])).run world).1.map OrderedMap.entries
    context.lookup "x" = none ∧ run "\x7b\x7bx?\x7d\x7d" = .ok [] ∧
      run "\x7b\x7ba?\x7d\x7d" = .ok [("H", "")] := by
  decide +kernel

end

end RequestChain
