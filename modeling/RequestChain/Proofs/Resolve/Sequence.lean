import RequestChain.Proofs.Resolve.Answers
import RequestChain.Proofs.Resolve.Composition
import RequestChain.Proofs.Resolve.Repetition
import RequestChain.Proofs.Template.RoundTrip

/-! # Renderings one after the other

A text is put in front of another one. If the first text closes all its placeholders and ends in a
character that begins none, no reader can tell that there is more to come: both texts are read as
they are read alone, and the rendering of the whole is the rendering of the first text and then, in
the world which that leaves, of the second. A failure of the first text is all that happens.
-/

namespace RequestChain

section

variable {σ : Type}

/-- A world that differs from another one by what its journal has in front. -/
def World.Behind (front : Journal) (left right : World (σ × Journal)) : Prop :=
  left.plain = right.plain ∧ left.journal = front ++ right.journal

/-- A call adds the same line to a journal, whatever stands in it already. -/
theorem Action.noted_mirrors_behind {α : Type} (front : Journal) (call : Call) (answer : α → Answer)
    (action : Action σ α) :
    (action.noted call answer).Mirrors (World.Behind front) (action.noted call answer) := by
  rintro left right ⟨same, ahead⟩
  rw [Action.run_noted, Action.run_noted, same, ahead]
  exact ⟨rfl, rfl, List.append_assoc ..⟩

/-- A rendering adds the same lines to a journal, whatever stands in it already. -/
theorem render_journaled_behind (registry : Registry σ) (context : Context) (text : String)
    (front : Journal) :
    (render registry.journaled context text).Mirrors (World.Behind front)
      (render registry.journaled context text) := by
  have registries : Registry.Coupled (.ofRelation (World.Behind front)) .same Eq registry.journaled
      registry.journaled := by
    apply Registry.coupled_self
    · intro plugin member source found
      rw [registry.variableSource?_journaled] at found
      obtain ⟨behind, -, rfl⟩ := Option.map_eq_some_iff.mp found
      exact Action.noted_mirrors_behind front _ _ behind
    · intro plugin function source found arguments
      rw [registry.functionSource?_journaled] at found
      obtain ⟨behind, -, rfl⟩ := Option.map_eq_some_iff.mp found
      exact Action.noted_mirrors_behind front _ _ (behind arguments)
    · intro resolver member name
      obtain ⟨behind, -, rfl⟩ := List.mem_map.mp member
      exact Action.noted_mirrors_behind front _ _ (behind.2 name)
  intro left right together
  exact outcome_eq_of_renderingsEnd (render_ends registries text together (.refl context _))

/-- In a world with a journal, a rendering that is written down goes on with the journal. -/
theorem run_render_journaled (registry : Registry σ) (context : Context) (text : String)
    (world : World (σ × Journal)) :
    (render registry.journaled context text).run world =
      ((renderJournaled registry context text world.plain).1,
        (renderJournaled registry context text world.plain).2.plain.withJournal
          (world.journal ++ (renderJournaled registry context text world.plain).2.journal)) := by
  have behind : World.Behind world.journal world (world.plain.withJournal []) :=
    ⟨rfl, (List.append_nil _).symm⟩
  obtain ⟨outcome, left, journal⟩ :=
    render_journaled_behind registry context text world.journal world _ behind
  refine Prod.ext outcome ?_
  rw [renderJournaled, ← left, ← journal]
  rfl

/-- Two templates are rendered one after the other. -/
theorem render_append {first next : String} {left right : Template}
    (closed : Template.Closed first.toList) (isLeft : Template.parse first = .ok left)
    (isRight : Template.parse next = .ok right) (registry : Registry σ) (context : Context) :
    render registry context (first ++ next) = (do
      let before ← render registry context first
      let after ← render registry context next
      return before ++ after) := by
  have apart := Template.isChain_of_parseChars isLeft
  rw [render_eq, render_eq, render_eq, Template.parse_append closed, isLeft, isRight]
  change renderTemplate registry context (Template.joinAtSeam left right) = _
  rw [← Template.joinTemplates_eq_joinAtSeam apart]
  exact renderSegments_joinTemplates registry context _ 0 left right

/-- What is written down of two templates in a row: if the first fails, nothing else, and otherwise
its calls and then those of the second in the world that the first leaves. -/
theorem renderJournaled_append {first next : String} {left right : Template}
    (closed : Template.Closed first.toList) (isLeft : Template.parse first = .ok left)
    (isRight : Template.parse next = .ok right) (registry : Registry σ) (context : Context)
    (world : World σ) :
    let before := renderJournaled registry context first world
    let whole := renderJournaled registry context (first ++ next) world
    (∀ error, before.1 = .error error → whole = before) ∧
      ∀ rendered, before.1 = .ok rendered →
        let after := renderJournaled registry context next before.2.plain
        whole.1 = after.1.map (rendered ++ ·) ∧
          whole.2.journal = before.2.journal ++ after.2.journal ∧
          whole.2.plain = after.2.plain := by
  intro before whole
  have split : whole = _ := congrArg (Effect.run · (world.withJournal []))
    (render_append closed isLeft isRight registry.journaled context)
  constructor
  · intro error failed
    have ran : before = (.error error, _) := Prod.ext failed rfl
    rw [split, ran]
    exact Effect.run_bind_of_error ran _
  · intro rendered returned
    have ran : before = (.ok rendered, _) := Prod.ext returned rfl
    rw [split, Effect.run_bind_of_ok ran, Effect.run_bind,
      run_render_journaled registry context next]
    dsimp only
    cases (renderJournaled registry context next before.2.plain).1 with
    | error error => exact ⟨rfl, rfl, rfl⟩
    | ok other => exact ⟨rfl, rfl, rfl⟩

end

/-- A text in front of another one, which closes all its placeholders and ends in neither a backslash
nor an opening brace. If one of the texts is no template, the whole is none either, with the error of
the first such text. Otherwise the whole is the two templates in a row, and it is rendered by
rendering one after the other: the calls of the first are followed by those of the second in the
world that is left, texts and counts are put together, and a failure of the first is all there is. -/
theorem render_sequence {first : String} (leaves : Template.leavesBraces first.toList = true)
    (closes : Template.closes first.toList = true) (next : String) :
    (∀ error, Template.parse first = .error error →
      Template.parse (first ++ next) = .error error) ∧
    ∀ left, Template.parse first = .ok left →
      (∀ error, Template.parse next = .error error →
        Template.parse (first ++ next) = .error error) ∧
      ∀ right, Template.parse next = .ok right →
        Template.parse (first ++ next) = .ok (Template.joinAtSeam left right) ∧
        ∀ {σ : Type} (registry : Registry σ) (context : Context),
          render registry context (first ++ next) = (do
            let before ← render registry context first
            let after ← render registry context next
            return before ++ after) ∧
          ∀ world : World σ,
            let before := renderJournaled registry context first world
            let whole := renderJournaled registry context (first ++ next) world
            (∀ error, before.1 = .error error → whole = before) ∧
            ∀ rendered, before.1 = .ok rendered →
              let after := renderJournaled registry context next before.2.plain
              whole.1 = after.1.map (rendered ++ ·) ∧
                whole.2.journal = before.2.journal ++ after.2.journal ∧
                whole.2.plain = after.2.plain := by
  have closed := Template.closed_of_closes closes leaves
  have read := Template.parse_append closed next
  refine ⟨fun error malformed => ?_, fun left isLeft => ⟨fun error malformed => ?_, ?_⟩⟩
  · rw [read, malformed]
    rfl
  · rw [read, isLeft, malformed]
    rfl
  · intro right isRight
    refine ⟨?_, fun registry context => ⟨?_, fun world => ?_⟩⟩
    · rw [read, isLeft, isRight]
      rfl
    · exact render_append closed isLeft isRight registry context
    · exact renderJournaled_append closed isLeft isRight registry context world

/-- Braces in a quoted argument close nothing, and two literals meet at the seam. -/
theorem render_sequence_quotedBraces :
    let first := "\x7b\x7bplugins.p.f(\"\x7d\x7d\")\x7d\x7d a"
    let next := "\x7d\x7d\"\x7b\x7bz?\x7d\x7d"
    Template.leavesBraces first.toList = true ∧ Template.closes first.toList = true ∧
      Template.parse (first ++ next) = .ok [
        .placeholder (.mk "plugins.p.f(\"\x7d\x7d\")" false
          (.pluginCall "p" "f" [[.literal "\x7d\x7d"]])),
        .literal " a\x7d\x7d\"", .placeholder (.mk "z" true (.variable "z"))] := by
  intro first next
  have leaves : Template.leavesBraces first.toList = true := by decide
  have closes : Template.closes first.toList = true := by decide +kernel
  have braces : Template.Written [.literal "\x7d\x7d"] "\x7d\x7d".toList :=
    .literal (by decide) rfl .nil
  have call : Template.WrittenTarget (.pluginCall "p" "f" [[.literal "\x7d\x7d"]])
      "plugins.p.f(\"\x7d\x7d\")".toList :=
    .pluginCall (by decide) (by decide) (.cons braces .nil)
  have behind : Template.Written [.literal " a"] " a".toList := .literal (by decide) rfl .nil
  have left : Template.Written [.placeholder (.mk "plugins.p.f(\"\x7d\x7d\")" false
      (.pluginCall "p" "f" [[.literal "\x7d\x7d"]])), .literal " a"]
      "\x7b\x7bplugins.p.f(\"\x7d\x7d\")\x7d\x7d a".toList :=
    .placeholder false call behind
  have name : Template.Written [.placeholder (.mk "z" true (.variable "z"))]
      "\x7b\x7bz?\x7d\x7d".toList :=
    .placeholder true (.unqualified (by decide) (by decide)) .nil
  have visible : "\x7d\x7d\"".toList ≠ [] := by decide
  have right : Template.Written [.literal "\x7d\x7d\"",
      .placeholder (.mk "z" true (.variable "z"))] "\x7d\x7d\"\x7b\x7bz?\x7d\x7d".toList :=
    .literal visible rfl name
  have isLeft : Template.parse first = _ := Template.parseChars_written left
  have isRight : Template.parse next = _ := Template.parseChars_written right
  exact ⟨leaves, closes, ((render_sequence leaves closes next).2 _ isLeft).2 _ isRight |>.1⟩

end RequestChain
