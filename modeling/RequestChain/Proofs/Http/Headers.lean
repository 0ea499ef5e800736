import RequestChain.Http.Message
import RequestChain.Proofs.Text.FormEncoding

/-! # The headers of an answer

Headers arrive one by one, and a name may come again, next to the first time or behind other names.
All values of a name are kept, in the order in which they arrive, in one text under that name. The
names stand in the order in which each comes first, and a header has no effect on the text of
another name.

`Collected` holds after every header, and so of all of them.
-/

namespace RequestChain.Http

/-- The values of the headers of a name, in order. -/
def valuesUnder {α : Type} (headers : List (String × α)) (name : String) : List α :=
  (headers.filter (·.1 = name)).map Prod.snd

/-- Values in one text, with commas between them; no value leaves no text. -/
def joined? (values : List String) : Option String :=
  if values.isEmpty then none else some (", ".intercalate values)

/-- Headers with the octets of their values. -/
def onWire (headers : List (String × String)) : List (String × List UInt8) :=
  headers.map fun header => (header.1, Text.utf8Encode header.2.toList)

/-- A further value stands behind a comma, unless it is the first. -/
theorem joined?_concat (values : List String) (value : String) :
    joined? (values ++ [value]) =
      some ((joined? values).elim value fun text => text ++ ", " ++ value) := by
  by_cases first : values = []
  · simp [first, joined?]
  · rw [joined?, joined?, if_neg (by simp), if_neg (by simpa using first),
      String.intercalate_append_of_ne_nil first (by simp), String.intercalate_singleton]
    rfl

theorem valuesUnder_concat {α : Type} (headers : List (String × α)) (header : String × α)
    (name : String) :
    valuesUnder (headers ++ [header]) name =
      valuesUnder headers name ++ if header.1 = name then [header.2] else [] := by
  by_cases same : header.1 = name
  · simp [valuesUnder, same]
  · simp [valuesUnder, same]

/-- Headers of other names may be left out. -/
theorem valuesUnder_filter {α : Type} (headers : List (String × α)) (name : String) :
    valuesUnder (headers.filter (·.1 = name)) name = valuesUnder headers name := by
  simp [valuesUnder]

theorem valuesUnder_onWire (headers : List (String × String)) (name : String) :
    valuesUnder (onWire headers) name =
      (valuesUnder headers name).map fun value => Text.utf8Encode value.toList := by
  simp [valuesUnder, onWire, List.filter_map, Function.comp_def]

/-- The octets of a text are read as this text. -/
theorem headerText_utf8Encode (text : String) :
    headerText (Text.utf8Encode text.toList) = text := by
  rw [headerText, Text.utf8Decode_utf8Encode, String.ofList_toList]

/-! ## One header after the other -/

/-- What has been collected from headers: every name where it comes first, with all its values. -/
structure Collected (headers : List (String × List UInt8)) (collected : OrderedMap String) :
    Prop where
  order : collected.keys = (headers.map Prod.fst).eraseDups
  value : ∀ name, collected.get? name = joined? ((valuesUnder headers name).map headerText)

/-- A header is inserted under its name, behind the values that are there. -/
theorem collectHeader_eq (collected : OrderedMap String) (header : String × List UInt8) :
    collectHeader collected header =
      collected.insert header.1 ((collected.get? header.1).elim (headerText header.2)
        fun known => known ++ ", " ++ headerText header.2) := by
  rw [collectHeader]
  cases collected.get? header.1 <;> rfl

private theorem eraseDups_concat (names : List String) (name : String) :
    (names ++ [name]).eraseDups =
      if name ∈ names.eraseDups then names.eraseDups else names.eraseDups ++ [name] := by
  rw [List.eraseDups_append]
  by_cases known : name ∈ names
  · simp [known, List.removeAll, List.mem_eraseDups]
  · simp [known, List.removeAll, List.mem_eraseDups, List.eraseDups_cons]

namespace Collected

theorem nil : Collected [] {} where
  order := rfl
  value _ := rfl

theorem add {headers : List (String × List UInt8)} {collected : OrderedMap String}
    (isCollected : Collected headers collected) (header : String × List UInt8) :
    Collected (headers ++ [header]) (collectHeader collected header) where
  order := by
    rw [collectHeader_eq, OrderedMap.keys_insert, isCollected.order, List.map_append,
      List.map_singleton, eraseDups_concat]
  value name := by
    rw [collectHeader_eq, OrderedMap.get?_insert, valuesUnder_concat]
    by_cases same : header.1 = name
    · subst same
      rw [if_pos rfl, if_pos rfl, List.map_append, List.map_singleton, joined?_concat,
        isCollected.value]
    · rw [if_neg (Ne.symm same), if_neg same, List.append_nil, isCollected.value]

/-- The headers behind those that have been collected are added from left to right. -/
theorem foldl {before : List (String × List UInt8)} {collected : OrderedMap String}
    (isCollected : Collected before collected) (behind : List (String × List UInt8)) :
    Collected (before ++ behind) (behind.foldl collectHeader collected) := by
  induction behind generalizing before collected with
  | nil => simpa using isCollected
  | cons header rest ih => simpa using ih (isCollected.add header)

end Collected

theorem collected_collectHeaders (headers : List (String × List UInt8)) :
    Collected headers (collectHeaders headers) :=
  Collected.nil.foldl headers

/-- The names of headers, each once and where it comes first; under each name all its values in
order, with commas between them, whatever headers of other names there are. -/
theorem collectHeaders_joins (headers : List (String × String)) :
    (collectHeaders (onWire headers)).keys = (headers.map Prod.fst).eraseDups ∧
    (∀ name, (collectHeaders (onWire headers)).get? name = joined? (valuesUnder headers name)) ∧
    ∀ name, (collectHeaders (onWire headers)).get? name =
      (collectHeaders (onWire (headers.filter (·.1 = name)))).get? name := by
  have value (headers : List (String × String)) (name : String) :
      (collectHeaders (onWire headers)).get? name = joined? (valuesUnder headers name) := by
    rw [(collected_collectHeaders (onWire headers)).value, valuesUnder_onWire, List.map_map]
    simp only [Function.comp_def, headerText_utf8Encode, List.map_id']
  refine ⟨?_, value headers, fun name => ?_⟩
  · rw [(collected_collectHeaders (onWire headers)).order, onWire, List.map_map]
    rfl
  · rw [value, value, valuesUnder_filter]

/-- A repeated name with another one in between. -/
example :
    (collectHeaders (onWire [("set-cookie", "a=1"), ("age", "0"), ("set-cookie", "é")])).entries =
      [("set-cookie", "a=1, é"), ("age", "0")] := by
  decide

end RequestChain.Http
