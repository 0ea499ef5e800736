import RequestChain.Proofs.Layers
import RequestChain.Proofs.Resolve.Composition
import RequestChain.Proofs.Template.Selectors

/-! # Values that refer to values

A variable may hold a text around a reference to the next variable, and so on. The expansion of such
a row of variables asks for one of them at each depth, so a row of ten is resolved to the texts put
into each other, and the eleventh variable is never looked up: the tenth is out of depth. A cycle of
variables goes on for ever and is out of depth at the same place, also under an optional reference,
which forgives what is undefined and nothing else.
-/

namespace RequestChain

open Template Text

/-- A name in a layer. -/
structure Variable where
  layer : Layer
  name : String

namespace Variable

/-- The text of a reference to a variable, alone or behind a qualifier. -/
def reference (asked : Variable) : Option Scope → String
  | none => asked.name
  | some scope => scope.qualifier ++ asked.name

/-- What a reference to a variable refers to. -/
def target (asked : Variable) : Option Scope → Target
  | none => .variable asked.name
  | some scope => .scoped scope asked.name

/-- A reference that finds the variable: its name is a name, and a qualifier names its layer. -/
structure Named (asked : Variable) (qualifier : Option Scope) : Prop where
  plain : isPlainName asked.name.toList = true
  unqualified : qualifier = none → isUnqualified asked.name.toList = true
  ofLayer : ∀ scope ∈ qualifier, Layer.ofScope? scope = some asked.layer

instance (asked : Variable) (qualifier : Option Scope) : Decidable (asked.Named qualifier) :=
  decidable_of_iff (_ ∧ _ ∧ _)
    ⟨fun ⟨plain, unqualified, ofLayer⟩ => ⟨plain, unqualified, ofLayer⟩,
      fun named => ⟨named.plain, named.unqualified, named.ofLayer⟩⟩

/-- The reference to a variable. -/
def referTo (asked : Variable) (qualifier : Option Scope) (optional : Bool) : Reference :=
  .mk (asked.reference qualifier) optional (asked.target qualifier)

end Variable

/-- The text that a variable has for those who look it up: no layer above has one for its name. -/
structure Context.Shows (context : Context) (asked : Variable) (text : String) : Prop where
  held : context.layerText? asked.layer asked.name = some text
  unshadowed : ∀ higher ∈ asked.layer.above, context.layerText? higher asked.name = none

instance (context : Context) (asked : Variable) (text : String) :
    Decidable (context.Shows asked text) :=
  decidable_of_iff (_ ∧ _)
    ⟨fun ⟨held, unshadowed⟩ => ⟨held, unshadowed⟩, fun shows => ⟨shows.held, shows.unshadowed⟩⟩

/-- A text around a reference, which may have blanks at its sides. -/
structure Link where
  before : String := ""
  leading : String := ""
  qualifier : Option Scope := none
  trailing : String := ""
  after : String := ""

namespace Link

/-- The text with a reference to a variable in it. -/
def text (link : Link) (next : Variable) : String :=
  link.before ++
    (placeholderOf (link.leading ++ next.reference link.qualifier ++ link.trailing) ++ link.after)

/-- The text with another text in place of the reference. -/
def around (link : Link) (inner : String) : String :=
  link.before ++ (inner ++ link.after)

end Link

/-- A variable whose text leads to another variable. -/
structure Context.Leads (context : Context) (current : Variable) (link : Link) (next : Variable) :
    Prop where
  shown : context.Shows current (link.text next)
  before : Bare link.before.toList
  leading : ∀ c ∈ link.leading.toList, isBlank c = true
  named : next.Named link.qualifier
  trailing : ∀ c ∈ link.trailing.toList, isBlank c = true
  after : Bare link.after.toList

instance (context : Context) (current : Variable) (link : Link) (next : Variable) :
    Decidable (context.Leads current link next) :=
  decidable_of_iff (context.Shows current (link.text next) ∧ Bare link.before.toList ∧
      link.leading.toList.all isBlank = true ∧ next.Named link.qualifier ∧
      link.trailing.toList.all isBlank = true ∧ Bare link.after.toList)
    ⟨fun ⟨shown, before, leading, named, trailing, after⟩ =>
        ⟨shown, before, List.all_eq_true.mp leading, named, List.all_eq_true.mp trailing, after⟩,
      fun leads => ⟨leads.shown, leads.before, List.all_eq_true.mpr leads.leading, leads.named,
        List.all_eq_true.mpr leads.trailing, leads.after⟩⟩

/-- Variables in a row, each of which leads to the next one, up to a text without placeholders. -/
structure Context.Row (context : Context) (count : Nat) (members : Nat → Variable)
    (links : Nat → Link) (last : String) : Prop where
  leads : ∀ index < count, context.Leads (members index) (links index) (members (index + 1))
  shown : context.Shows (members count) last
  plain : containsPlaceholder last = false

/-- Variables in a circle, each of which leads to the next one. -/
structure Context.Cycle (context : Context) (length : Nat) (members : Nat → Variable)
    (links : Nat → Link) : Prop where
  nonempty : 0 < length
  leads : ∀ index < length,
    context.Leads (members index) (links index) (members ((index + 1) % length))

/-- The text at the end of a row, with the texts of the others around it. -/
def nestedText : Nat → (Nat → Link) → String → String
  | 0, _, last => last
  | count + 1, links, last =>
    (links 0).around (nestedText count (fun index => links (index + 1)) last)

/-! ## Reading -/

namespace Variable

variable {asked : Variable} {qualifier : Option Scope}

theorem Named.written (named : asked.Named qualifier) :
    WrittenTarget (asked.target qualifier) (asked.reference qualifier).toList := by
  cases qualifier with
  | none => exact .unqualified named.plain (named.unqualified rfl)
  | some scope =>
    rw [reference, String.toList_append]
    exact .qualified scope named.plain

theorem Named.parseTarget (named : asked.Named qualifier) (parse : List Char → Parsed Template) :
    Template.parseTarget parse (asked.reference qualifier).toList = .ok (asked.target qualifier) := by
  cases qualifier with
  | none => exact parseTarget_unqualified named.plain (named.unqualified rfl)
  | some scope =>
    rw [reference, String.toList_append]
    exact parseTarget_qualified scope named.plain

/-- The text of a placeholder for a variable. -/
def source (asked : Variable) (qualifier : Option Scope) (optional : Bool) : String :=
  placeholderOf (asked.reference qualifier ++ if optional then "?" else "")

theorem Named.parse_source (named : asked.Named qualifier) (optional : Bool) :
    parse (asked.source qualifier optional) =
      .ok [.placeholder (asked.referTo qualifier optional)] := by
  have mark : (if optional then "?" else "").toList = if optional then ['?'] else [] := by
    cases optional <;> rfl
  rw [parse, source, placeholderOf, String.toList_ofList, String.toList_append, mark]
  exact parseChars_written (.placeholder optional named.written .nil)

end Variable

theorem inert_of_blank {text : List Char} (blank : ∀ c ∈ text, isBlank c = true) : Inert text :=
  inert_of_plain fun c member => by
    refine Bool.eq_false_iff.mpr fun scanned => ?_
    simp only [isScanned, isQuote, Bool.or_eq_true, beq_iff_eq] at scanned
    have visible : isBlank c = false := by rcases scanned with ((rfl | rfl) | rfl) | rfl <;> rfl
    rw [blank c member] at visible
    cases visible

namespace Context.Leads

variable {context : Context} {current next : Variable} {link : Link}

/-- A text that leads to a variable is its literals with one placeholder between them. -/
theorem parse_text (leads : context.Leads current link next) :
    Template.parse (link.text next) = .ok (joinTemplates (literal link.before)
      (joinTemplates [.placeholder (next.referTo link.qualifier false)] (literal link.after))) := by
  have written := leads.named.written
  have inert : Inert (link.leading ++ next.reference link.qualifier ++ link.trailing).toList := by
    rw [String.toList_append, String.toList_append]
    exact ((inert_of_blank leads.leading).append (inert_of_writtenTarget written)).append
      (inert_of_blank leads.trailing)
  have required : splitOptional (link.leading ++ next.reference link.qualifier ++
      link.trailing).toList = ((next.reference link.qualifier).toList, false) := by
    rw [String.toList_append, String.toList_append]
    exact splitOptional_blanks (isBody_of_writtenTarget written) leads.leading leads.trailing
  have between := parseChars_placeholder inert required (isBody_of_writtenTarget written).ne_nil
    le_rfl
  rw [leads.named.parseTarget, String.ofList_toList] at between
  have closed := closed_of_placeholder (splitPlaceholder_of_inert inert [])
  have first : parseChars link.before.toList = .ok (literal link.before) := parse_of_bare leads.before
  have last : parseChars link.after.toList = .ok (literal link.after) := parse_of_bare leads.after
  rw [parse, Link.text, String.toList_append, String.toList_append, placeholderOf,
    String.toList_ofList, parseChars_append (closed_of_bare leads.before), parseChars_append closed,
    first, between, last]
  rfl

end Context.Leads

theorem containsPlaceholder_text (link : Link) (next : Variable) :
    containsPlaceholder (link.text next) = true := by
  rw [containsPlaceholder, Link.text, String.toList_append, String.toList_append, placeholderOf,
    String.toList_ofList]
  exact containsBraces_append rfl link.before.toList

/-! ## Lookups -/

namespace Context.Shows

variable {context : Context} {asked : Variable} {text : String}

theorem lookup (shows : context.Shows asked text) : context.lookup asked.name = some text := by
  have split : Layer.precedence = asked.layer.above ++ asked.layer ::
      (Layer.precedence.dropWhile (· ≠ asked.layer)).tail := by
    cases asked.layer <;> rfl
  have above : asked.layer.above.findSome? (context.layerText? · asked.name) = none :=
    List.findSome?_eq_none_iff.mpr shows.unshadowed
  rw [Context.lookup_eq_findSome?, split, List.findSome?_append, above, Option.none_or,
    List.findSome?_cons, shows.held]

theorem lookupScoped (shows : context.Shows asked text) {scope : Scope}
    (ofLayer : Layer.ofScope? scope = some asked.layer) :
    context.lookupScoped scope asked.name = some text := by
  rw [Context.lookupScoped_eq, ofLayer]
  exact shows.held

end Context.Shows

section

variable {σ : Type} (registry : Registry σ) {context : Context}

/-- A reference to a variable finds its text. -/
theorem lookupReference_referTo (expand : Expander σ) (depth : Nat) {asked : Variable}
    {qualifier : Option Scope} {text : String} (named : asked.Named qualifier)
    (shows : context.Shows asked text) (optional : Bool) :
    lookupReference registry context expand depth (asked.referTo qualifier optional) =
      expandValue expand depth (asked.referTo qualifier optional) (some text) := by
  rw [Variable.referTo, lookupReference]
  cases qualifier with
  | none => rw [Variable.target, lookupTarget, shows.lookup]
  | some scope =>
    have ofLayer := named.ofLayer scope rfl
    have held : scope ≠ .secret := by
      rintro rfl
      cases ofLayer
    rw [Variable.target, lookupTarget_scoped _ _ _ _ _ _ held, shows.lookupScoped ofLayer]

/-- A placeholder alone has the outcome of looking up its reference. -/
private theorem renderSegments_of_found {expand : Expander σ} {depth : Nat} {reference : Reference}
    {text : String}
    (found : lookupReference registry context expand depth reference = pure (some text)) :
    renderSegments registry context expand depth [.placeholder reference] =
      pure (.ofReference reference.optional (some text)) := by
  rw [renderSegments, renderSegment, found, renderSegments]
  simp only [pure_bind, Rendered.append_empty, Option.isNone_some, Bool.false_and,
    Bool.false_eq_true, if_false]

private theorem renderSegments_of_failed {expand : Expander σ} {depth : Nat}
    {reference : Reference} {error : ResolutionError}
    (failed : lookupReference registry context expand depth reference = Effect.fail error) :
    renderSegments registry context expand depth [.placeholder reference] = Effect.fail error := by
  rw [renderSegments, renderSegment, failed, Effect.fail_bind, Effect.fail_bind]

end

/-! ## One variable after the other -/

section

variable {σ : Type} (registry : Registry σ) {context : Context}

private theorem renderSegments_around (expand : Expander σ) (depth : Nat) (link : Link)
    (reference : Reference) :
    renderSegments registry context expand depth (joinTemplates (literal link.before)
        (joinTemplates [.placeholder reference] (literal link.after))) = (do
      let inner ← renderSegments registry context expand depth [.placeholder reference]
      return .literal link.before ++ (inner ++ .literal link.after)) := by
  rw [renderSegments_joinTemplates, renderSegments_joinTemplates, renderSegments_literal,
    renderSegments_literal]
  simp only [pure_bind, bind_assoc]

section Step

variable {current next : Variable} {link : Link} {qualifier : Option Scope} {levels depth : Nat}

/-- A variable is out of depth if it leads to another one too deep. -/
private theorem lookupReference_tooDeep (named : current.Named qualifier)
    (leads : context.Leads current link next) (deep : maxDepth ≤ depth + 1) (optional : Bool) :
    lookupReference registry context (expandWithin registry context levels) depth
        (current.referTo qualifier optional) =
      Effect.fail (.depthExceeded (current.reference qualifier)) := by
  rw [lookupReference_referTo registry _ depth named leads.shown, expandValue,
    if_pos (containsPlaceholder_text link next)]
  cases levels with
  | zero => rfl
  | succ levels =>
    simp only [expandWithin, if_pos deep]
    rfl

private theorem lookupReference_leads (named : current.Named qualifier)
    (leads : context.Leads current link next) (shallow : depth + 1 < maxDepth) (optional : Bool) :
    lookupReference registry context (expandWithin registry context (levels + 1)) depth
        (current.referTo qualifier optional) =
      (do
        let inner ← renderSegments registry context (expandWithin registry context levels)
          (depth + 1) [.placeholder (next.referTo link.qualifier false)]
        return some (Rendered.literal link.before ++ (inner ++ Rendered.literal link.after)).text).recover
          fun error => if optional && error.isUndefined then some none else none := by
  rw [lookupReference_referTo registry _ depth named leads.shown, expandValue,
    if_pos (containsPlaceholder_text link next),
    expandWithin_of_parsed _ _ (Nat.not_le.mpr shallow) leads.parse_text, renderSegments_around]
  simp only [bind_assoc, pure_bind]
  rfl

/-- What is found for the next variable is put in place of the reference. -/
private theorem lookupReference_of_found {inner : String} (named : current.Named qualifier)
    (leads : context.Leads current link next) (shallow : depth + 1 < maxDepth)
    (found : lookupReference registry context (expandWithin registry context levels) (depth + 1)
      (next.referTo link.qualifier false) = pure (some inner)) (optional : Bool) :
    lookupReference registry context (expandWithin registry context (levels + 1)) depth
        (current.referTo qualifier optional) = pure (some (link.around inner)) := by
  rw [lookupReference_leads registry named leads shallow, renderSegments_of_found registry found,
    pure_bind, Effect.recover_pure]
  rfl

/-- That the next variable is out of depth is not forgiven. -/
private theorem lookupReference_of_tooDeep {name : String} (named : current.Named qualifier)
    (leads : context.Leads current link next) (shallow : depth + 1 < maxDepth)
    (failed : lookupReference registry context (expandWithin registry context levels) (depth + 1)
      (next.referTo link.qualifier false) = Effect.fail (.depthExceeded name)) (optional : Bool) :
    lookupReference registry context (expandWithin registry context (levels + 1)) depth
        (current.referTo qualifier optional) = Effect.fail (.depthExceeded name) := by
  rw [lookupReference_leads registry named leads shallow, renderSegments_of_failed registry failed,
    Effect.fail_bind]
  exact Effect.recover_fail (by cases optional <;> rfl)

end Step

/-- A row within the depth is found with all its texts around each other. -/
theorem lookupReference_of_row {count : Nat} {members : Nat → Variable} {links : Nat → Link}
    {last : String} (row : context.Row count members links last) {qualifier : Option Scope}
    (named : (members 0).Named qualifier) (optional : Bool) {levels depth : Nat}
    (enough : count ≤ levels) (within : depth + count < maxDepth) :
    lookupReference registry context (expandWithin registry context levels) depth
        ((members 0).referTo qualifier optional) = pure (some (nestedText count links last)) := by
  induction count generalizing members links qualifier optional levels depth with
  | zero =>
    rw [lookupReference_referTo registry _ depth named row.shown, expandValue, row.plain,
      if_neg Bool.false_ne_true]
    rfl
  | succ count ih =>
    obtain ⟨levels, rfl⟩ : ∃ lower, levels = lower + 1 := ⟨levels - 1, by omega⟩
    have leads := row.leads 0 (Nat.succ_pos count)
    have behind : context.Row count (fun index => members (index + 1))
        (fun index => links (index + 1)) last :=
      ⟨fun index below => row.leads (index + 1) (Nat.succ_lt_succ below), row.shown, row.plain⟩
    have found := ih behind leads.named false (Nat.le_of_succ_le_succ enough)
      (by omega : depth + 1 + count < maxDepth)
    exact lookupReference_of_found registry named leads (by omega) found optional

/-- The qualifier that the reference to each of the variables has. -/
def qualifierAt (qualifier : Option Scope) (links : Nat → Link) : Nat → Option Scope
  | 0 => qualifier
  | index + 1 => (links index).qualifier

/-- If every variable up to the limit leads to another one, the one at the limit is out of depth. -/
theorem lookupReference_of_endless {steps : Nat} {members : Nat → Variable} {links : Nat → Link}
    (leads : ∀ index ≤ steps,
      context.Leads (members index) (links index) (members (index + 1)))
    {qualifier : Option Scope} (named : (members 0).Named qualifier) (optional : Bool)
    {levels depth : Nat} (enough : steps ≤ levels) (limit : depth + steps + 1 = maxDepth) :
    lookupReference registry context (expandWithin registry context levels) depth
        ((members 0).referTo qualifier optional) =
      Effect.fail (.depthExceeded
        ((members steps).reference (qualifierAt qualifier links steps))) := by
  induction steps generalizing members links qualifier optional levels depth with
  | zero => exact lookupReference_tooDeep registry named (leads 0 le_rfl) limit.ge optional
  | succ steps ih =>
    obtain ⟨levels, rfl⟩ : ∃ lower, levels = lower + 1 := ⟨levels - 1, by omega⟩
    have first := leads 0 (Nat.zero_le _)
    have failed := ih (fun index within => leads (index + 1) (Nat.succ_le_succ within)) first.named
      false (Nat.le_of_succ_le_succ enough) (by omega : depth + 1 + steps + 1 = maxDepth)
    have last : qualifierAt (links 0).qualifier (fun index => links (index + 1)) steps =
        qualifierAt qualifier links (steps + 1) := by
      cases steps <;> rfl
    rw [last] at failed
    exact lookupReference_of_tooDeep registry named first (by omega) failed optional

/-- From a variable on, a row of at most ten variables is resolved to its texts around each other. In
a longer row the tenth variable is out of depth, and so is the one that comes tenth in a cycle, even
under an optional reference. No collaborator is asked in any case. -/
theorem render_row_cycle {members : Nat → Variable} {links : Nat → Link} {qualifier : Option Scope}
    (named : (members 0).Named qualifier) :
    (∀ count last, context.Row count members links last →
      (count + 1 ≤ 10 →
        render registry context ((members 0).source qualifier false) =
          pure (.literal (nestedText count links last))) ∧
      (10 < count + 1 →
        render registry context ((members 0).source qualifier false) =
          Effect.fail (.depthExceeded ((members 9).reference (links 8).qualifier)))) ∧
    (∀ length, context.Cycle length members links → ∀ optional,
      render registry context ((members 0).source qualifier optional) =
        Effect.fail (.depthExceeded
          ((members (9 % length)).reference (links (8 % length)).qualifier))) ∧
    ∀ reference, (ResolutionError.depthExceeded reference).message =
      "template nesting exceeded 10 levels while resolving '" ++ reference ++ "'" := by
  have read (optional : Bool) : render registry context ((members 0).source qualifier optional) =
      renderSegments registry context (expandWithin registry context maxDepth) 0
        [.placeholder ((members 0).referTo qualifier optional)] := by
    rw [render_eq, named.parse_source]
    rfl
  refine ⟨fun count last row => ⟨fun short => ?_, fun long => ?_⟩, fun length cycle optional => ?_,
    fun reference => ?_⟩
  · have found : lookupReference registry context (expandWithin registry context maxDepth) 0
        ((members 0).referTo qualifier false) = pure (some (nestedText count links last)) :=
      lookupReference_of_row registry row named false (by simp only [maxDepth]; omega)
        (by simp only [maxDepth]; omega)
    rw [read, renderSegments_of_found registry found]
    rfl
  · have failed : lookupReference registry context (expandWithin registry context maxDepth) 0
        ((members 0).referTo qualifier false) =
          Effect.fail (.depthExceeded ((members 9).reference (qualifierAt qualifier links 9))) :=
      lookupReference_of_endless registry (fun index within => row.leads index (by omega)) named
        false (by decide) rfl
    rw [read, renderSegments_of_failed registry failed]
    rfl
  · -- A cycle goes round as a row of which the positions are taken modulo its length.
    have around : ∀ index ≤ 9, context.Leads (members (index % length)) (links (index % length))
        (members ((index + 1) % length)) := by
      intro index _
      have leads := cycle.leads (index % length) (Nat.mod_lt index cycle.nonempty)
      rwa [Nat.mod_add_mod] at leads
    have first : (members (0 % length)).Named qualifier := by rwa [Nat.zero_mod]
    have failed : lookupReference registry context (expandWithin registry context maxDepth) 0
        ((members (0 % length)).referTo qualifier optional) =
          Effect.fail (.depthExceeded ((members (9 % length)).reference
            (qualifierAt qualifier (fun index => links (index % length)) 9))) :=
      lookupReference_of_endless registry around first optional (by decide) rfl
    rw [Nat.zero_mod] at failed
    rw [read, renderSegments_of_failed registry failed]
    rfl
  · rfl

end

/-- Variables in three layers by turns. -/
private def turns (index : Nat) : Variable where
  layer := if index % 3 = 0 then .cli else if index % 3 = 1 then .profile else .env
  name := "v" ++ toString index

/-- The variables of the profile are asked for by their scope. -/
private def turnLinks (index : Nat) : Link where
  before := "<"
  leading := " "
  qualifier := if index % 3 = 0 then some .profile else none
  after := ">"

/-- Eleven variables in a row, and two in a circle. -/
private def turnContext : Context :=
  let entries layer := ((List.range 11).filter fun index => (turns index).layer = layer).map
    fun index => ((turns index).name,
      if index = 10 then "x" else (turnLinks index).text (turns (index + 1)))
  { cli := .ofList (entries .cli ++ [("a", "\x7b\x7bprofile.b\x7d\x7d")])
    profile := .ofList ((entries .profile ++ [("b", "\x7b\x7ba\x7d\x7d")]).map
      fun (name, text) => (name, .string text))
    env := .ofList (entries .env) }

private def circle (index : Nat) : Variable :=
  if index = 0 then ⟨.cli, "a"⟩ else ⟨.profile, "b"⟩

private def circleLinks (index : Nat) : Link :=
  { qualifier := if index = 0 then some .profile else none }

theorem render_row_cycle_turns :
    let ten := fun index => turns (index + 1)
    let tenLinks := fun index => turnLinks (index + 1)
    (turnContext.Row 9 ten tenLinks "x" ∧
      render Registry.empty turnContext "\x7b\x7bprofile.v1\x7d\x7d" =
        (pure (.literal "<<<<<<<<<x>>>>>>>>>") : Resolving Unit Rendered)) ∧
    (turnContext.Row 10 turns turnLinks "x" ∧
      render Registry.empty turnContext "\x7b\x7bv0\x7d\x7d" =
        (Effect.fail (.depthExceeded "v9") : Resolving Unit Rendered)) ∧
    turnContext.Cycle 2 circle circleLinks ∧
      render Registry.empty turnContext "\x7b\x7ba?\x7d\x7d" =
        (Effect.fail (.depthExceeded "profile.b") : Resolving Unit Rendered) := by
  intro ten tenLinks
  have row : turnContext.Row 9 ten tenLinks "x" :=
    ⟨by decide +kernel, by decide +kernel, by decide⟩
  have longer : turnContext.Row 10 turns turnLinks "x" :=
    ⟨by decide +kernel, by decide +kernel, by decide⟩
  have cycle : turnContext.Cycle 2 circle circleLinks := ⟨by decide, by decide +kernel⟩
  have ofTen := @render_row_cycle Unit Registry.empty turnContext ten tenLinks (some .profile)
    (by decide)
  have ofTurns := @render_row_cycle Unit Registry.empty turnContext turns turnLinks none (by decide)
  have ofCircle := @render_row_cycle Unit Registry.empty turnContext circle circleLinks none
    (by decide)
  have sources : (ten 0).source (some .profile) false = "\x7b\x7bprofile.v1\x7d\x7d" ∧
      (turns 0).source none false = "\x7b\x7bv0\x7d\x7d" ∧
      (circle 0).source none true = "\x7b\x7ba?\x7d\x7d" := by decide +kernel
  have whole : nestedText 9 tenLinks "x" = "<<<<<<<<<x>>>>>>>>>" := by decide +kernel
  have tenth : (turns 9).reference (turnLinks 8).qualifier = "v9" ∧
      (circle (9 % 2)).reference (circleLinks (8 % 2)).qualifier = "profile.b" := by decide +kernel
  rw [← sources.1, ← sources.2.1, ← sources.2.2, ← whole, ← tenth.1, ← tenth.2]
  exact ⟨⟨row, (ofTen.1 9 "x" row).1 (by decide)⟩,
    ⟨longer, (ofTurns.1 10 "x" longer).2 (by decide)⟩,
    cycle, ofCircle.2.1 2 cycle true⟩

end RequestChain
