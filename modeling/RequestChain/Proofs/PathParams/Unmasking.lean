import RequestChain.Proofs.PathParams.Masking
import RequestChain.Proofs.Text.Cutting

/-! # Values in place of their tokens

What is resolved with tokens in place of the parameters is a row of texts and tokens. Putting the
values in place of their tokens, one after the other, gives the row of texts and values, provided
that row holds neither the control character of the tokens nor the word in them. Texts without
either are not enough: they can spell the word where they meet, and then the control character at
the end of one token begins another.
-/

namespace RequestChain.PathParams

open Template

/-! ## Tokens -/

/-- The word in every token. -/
def maskWord : String := "path-param-"

private def tokenBody (index : Nat) : List Char :=
  maskWord.toList ++ Nat.toDigits 10 index

private theorem toList_token (index : Nat) :
    (token index).toList = '\x01' :: (tokenBody index ++ ['\x01']) := by
  simp [token, tokenBody, maskWord, Nat.repr]

private theorem control_not_mem_tokenBody (index : Nat) : '\x01' ∉ tokenBody index := by
  intro member
  rcases List.mem_append.mp member with inWord | inDigits
  · exact absurd inWord (by decide)
  · exact absurd (Nat.isDigit_of_mem_toDigits (by decide) (by decide) inDigits) (by decide)

private theorem bare_token (index : Nat) : Bare (token index).toList := by
  have absent {c : Char} (noControl : c ≠ '\x01') (noWord : c ∉ maskWord.toList)
      (noDigit : c.isDigit = false) : c ∉ (token index).toList := by
    intro member
    rw [toList_token, tokenBody, List.mem_cons, List.mem_append, List.mem_append,
      List.mem_singleton] at member
    rcases member with control | (inWord | inDigits) | control
    · exact noControl control
    · exact noWord inWord
    · have digit := Nat.isDigit_of_mem_toDigits (by decide) (by decide) inDigits
      rw [noDigit] at digit
      cases digit
    · exact noControl control
  exact ⟨absent (by decide) (by decide) rfl, absent (by decide) (by decide) rfl⟩

private theorem tokenBody_inj {index other : Nat} (same : tokenBody index = tokenBody other) :
    index = other := by
  have digits := List.append_cancel_left same
  rw [← Nat.ofDigitChars_ten_toDigits (n := index), digits, Nat.ofDigitChars_ten_toDigits]

private theorem eq_of_append_control {left right behind behind' : List Char}
    (leftClean : '\x01' ∉ left) (rightClean : '\x01' ∉ right)
    (same : left ++ '\x01' :: behind = right ++ '\x01' :: behind') : left = right := by
  rw [← Text.takeWhile_ne_append leftClean behind, same, Text.takeWhile_ne_append rightClean]

private theorem dropPrefix?_token_of_ne {index : Nat} {c : Char} (other : c ≠ '\x01')
    (rest : List Char) : dropPrefix? (token index).toList (c :: rest) = none := by
  simp [toList_token, dropPrefix?, Ne.symm other]

private theorem replaces_of_noControl {index : Nat} {value text : List Char}
    (clean : '\x01' ∉ text) :
    Replaces (dropPrefix? (token index).toList) value text text :=
  replaces_of_unmatched fun c member =>
    dropPrefix?_token_of_ne fun same : c = '\x01' => clean (same ▸ member)

/-! ## Rows of texts and parameters -/

/-- A text, or the place of a parameter. -/
inductive Part where
  | literal (text : String)
  | param (name : String)

/-- The text of a part. -/
def Part.fill (value : String → String) : Part → String
  | .literal text => text
  | .param name => value name

/-- The text of a row of parts. -/
def fillParts (value : String → String) (parts : List Part) : String :=
  String.join (parts.map (Part.fill value))

private theorem toList_fillParts_cons (value : String → String) (part : Part) (rest : List Part) :
    (fillParts value (part :: rest)).toList =
      (part.fill value).toList ++ (fillParts value rest).toList := by
  rw [fillParts, List.map_cons, String.join_cons, String.toList_append]
  rfl

/-- A beginning without control characters is that of the row in which tokens are replaced. -/
private theorem prefix_fillParts {value value' : String → String} {parts : List Part}
    (same : ∀ name, .param name ∈ parts →
      value name = value' name ∨ ∃ rest, (value name).toList = '\x01' :: rest)
    {word : List Char} (clean : '\x01' ∉ word) (start : word <+: (fillParts value parts).toList) :
    word <+: (fillParts value' parts).toList := by
  induction parts generalizing word with
  | nil => exact start
  | cons part rest ih =>
    have others := fun name member => same name (List.mem_cons_of_mem _ member)
    have alike (equal : part.fill value = part.fill value') :
        word <+: (fillParts value' (part :: rest)).toList := by
      rw [toList_fillParts_cons] at start ⊢
      rw [← equal]
      obtain ⟨behind, shape⟩ := start
      rcases List.append_eq_append_iff.mp shape with ⟨left, whole, -⟩ | ⟨left, rfl, whole⟩
      · rw [whole, List.append_assoc]
        exact List.prefix_append _ _
      · refine (List.prefix_append_right_inj _).mpr (ih others ?_ ⟨behind, whole.symm⟩)
        exact fun member => clean (List.mem_append_right _ member)
    cases part with
    | literal text => exact alike rfl
    | param name =>
      rcases same name List.mem_cons_self with equal | ⟨tail, control⟩
      · exact alike equal
      · cases word with
        | nil => exact List.nil_prefix
        | cons c word =>
          rw [toList_fillParts_cons, Part.fill, control, List.cons_append] at start
          obtain ⟨isControl, -⟩ := List.cons_prefix_cons.mp start
          exact absurd (List.mem_cons_self : c ∈ c :: word) (isControl ▸ clean)

section Stages

variable (keys : List String) (value : String → String)

/-- The tokens of the parameters from an index on, and the values of the others. -/
private def stage (count : Nat) (name : String) : String :=
  if count ≤ keys.idxOf name ∧ name ∈ keys then token (keys.idxOf name) else value name

private theorem stage_of_waiting {count : Nat} {name : String} (known : name ∈ keys)
    (waiting : count ≤ keys.idxOf name) :
    stage keys value count name = token (keys.idxOf name) :=
  if_pos ⟨waiting, known⟩

private theorem stage_of_done {count : Nat} {name : String}
    (done : name ∈ keys → keys.idxOf name < count) : stage keys value count name = value name :=
  if_neg fun waiting => Nat.not_lt.mpr waiting.1 (done waiting.2)

private theorem dropPrefix?_token_of_lt {count index : Nat} (later : count < index)
    (rest : List Char) :
    dropPrefix? (token count).toList ('\x01' :: (tokenBody index ++ '\x01' :: rest)) = none := by
  refine Option.eq_none_iff_forall_ne_some.mpr fun left found => ?_
  have shape := dropPrefix?_eq_some_iff.mp found
  rw [toList_token, List.cons_append, List.append_assoc] at shape
  have same := eq_of_append_control (control_not_mem_tokenBody index)
    (control_not_mem_tokenBody count) (List.cons.inj shape).2
  exact absurd (tokenBody_inj same) (Nat.ne_of_gt later)

variable {value} {parts : List Part}

/-- The control character that ends a token begins none. -/
private theorem dropPrefix?_token_closing
    (apart : ¬maskWord.toList <:+: (fillParts value parts).toList) (index count : Nat) :
    dropPrefix? (token index).toList
      ('\x01' :: (fillParts (stage keys value count) parts).toList) = none := by
  refine Option.eq_none_iff_forall_ne_some.mpr fun left found => apart ?_
  have shape := dropPrefix?_eq_some_iff.mp found
  rw [toList_token, List.cons_append] at shape
  have start : maskWord.toList <+: (fillParts (stage keys value count) parts).toList := by
    rw [(List.cons.inj shape).2, tokenBody, List.append_assoc, List.append_assoc]
    exact List.prefix_append _ _
  refine (prefix_fillParts (fun name _ => ?_) (by decide) start).isInfix
  by_cases waiting : count ≤ keys.idxOf name ∧ name ∈ keys
  · rw [stage, if_pos waiting]
    exact .inr ⟨_, toList_token _⟩
  · exact .inl (if_neg waiting)

variable {keys}

/-- One more value in place of its token. -/
private theorem replaceText_stage {count : Nat} {held : String}
    (isHeld : ∀ name ∈ keys, keys.idxOf name = count → value name = held)
    (clean : '\x01' ∉ (fillParts value parts).toList)
    (apart : ¬maskWord.toList <:+: (fillParts value parts).toList) :
    replaceText (token count) held (fillParts (stage keys value count) parts).toList =
      (fillParts (stage keys value (count + 1)) parts).toList := by
  induction parts with
  | nil =>
    exact replaceMatches.eq_def _ _ _
  | cons part rest ih =>
    rw [toList_fillParts_cons] at clean apart
    rw [List.mem_append, not_or] at clean
    have apart' : ¬maskWord.toList <:+: (fillParts value rest).toList :=
      fun inside => apart (inside.trans (List.suffix_append _ _).isInfix)
    have others := ih clean.2 apart'
    have settled {text : String} (isClean : '\x01' ∉ text.toList)
        (before : part.fill (stage keys value count) = text)
        (after : part.fill (stage keys value (count + 1)) = text) :
        replaceText (token count) held
            (fillParts (stage keys value count) (part :: rest)).toList =
          (fillParts (stage keys value (count + 1)) (part :: rest)).toList := by
      rw [toList_fillParts_cons, toList_fillParts_cons, before, after, ← others]
      exact replaces_of_noControl isClean _
    cases part with
    | literal text => exact settled clean.1 rfl rfl
    | param name =>
      by_cases waiting : name ∈ keys ∧ count ≤ keys.idxOf name
      · obtain ⟨known, notEarlier⟩ := waiting
        rw [toList_fillParts_cons, toList_fillParts_cons, Part.fill, Part.fill,
          stage_of_waiting keys value known notEarlier, ← others]
        rcases notEarlier.eq_or_lt with now | later
        · rw [stage_of_done keys value fun _ => by omega, isHeld name known now.symm, ← now]
          refine replaceMatches_of_some (dropPrefix?_eq_some_iff.mpr rfl) ?_
          simp only [toList_token, List.length_append, List.length_cons]
          omega
        · rw [stage_of_waiting keys value known later, toList_token]
          have opening := dropPrefix?_token_of_lt later
            (fillParts (stage keys value count) rest).toList
          have body : Replaces (dropPrefix? (token count).toList) held.toList
              (tokenBody (keys.idxOf name)) (tokenBody (keys.idxOf name)) :=
            replaces_of_noControl (control_not_mem_tokenBody _)
          have closing := dropPrefix?_token_closing keys apart' count count
          simp only [List.cons_append, List.append_assoc, List.nil_append, replaceText]
          rw [replaceMatches_of_none opening, body, replaceMatches_of_none closing]
      · have done (known : name ∈ keys) : keys.idxOf name < count :=
          Nat.not_le.mp fun notEarlier => waiting ⟨known, notEarlier⟩
        exact settled clean.1 (stage_of_done keys value done)
          (stage_of_done keys value fun known => Nat.lt_succ_of_lt (done known))

/-- All values in place of their tokens, from some index on. -/
private theorem foldl_replaceText {values : List String} {count : Nat}
    (isHeld : ∀ name ∈ keys, ∀ index held, values[index]? = some held →
      keys.idxOf name = count + index → value name = held)
    (clean : '\x01' ∉ (fillParts value parts).toList)
    (apart : ¬maskWord.toList <:+: (fillParts value parts).toList) :
    (values.zipIdx count).foldl (fun text (value, index) => replaceText (token index) value text)
        (fillParts (stage keys value count) parts).toList =
      (fillParts (stage keys value (count + values.length)) parts).toList := by
  induction values generalizing count with
  | nil => rfl
  | cons held rest ih =>
    have first : replaceText (token count) held (fillParts (stage keys value count) parts).toList =
        (fillParts (stage keys value (count + 1)) parts).toList :=
      replaceText_stage (fun name known now => isHeld name known 0 held rfl now) clean apart
    have isHeld' : ∀ name ∈ keys, ∀ index held, rest[index]? = some held →
        keys.idxOf name = count + 1 + index → value name = held :=
      fun name known index held found now => isHeld name known (index + 1) held found (by omega)
    rw [List.zipIdx_cons, List.foldl_cons]
    dsimp only
    rw [first, ih isHeld', List.length_cons, Nat.add_right_comm, Nat.add_assoc]

end Stages

/-! ## All tokens -/

private theorem entries_tokens (params : OrderedMap String) :
    (tokens params).entries =
      params.keys.zipIdx.map fun (name, index) => (name, token index) := by
  have names : (params.keys.zipIdx.map fun (name, index) => (name, token index)).map Prod.fst =
      params.keys := by
    rw [List.map_map]
    exact List.zipIdx_map_fst 0 params.keys
  refine OrderedMap.entries_ofList ?_
  rw [names]
  exact params.nodup

theorem keys_tokens (params : OrderedMap String) : (tokens params).keys = params.keys := by
  rw [OrderedMap.keys, entries_tokens, List.map_map]
  exact List.zipIdx_map_fst 0 params.keys

/-- The token of a parameter is that of its index. -/
private theorem get?_tokens {params : OrderedMap String} {name : String}
    (known : name ∈ params.keys) :
    (tokens params).get? name = some (token (params.keys.idxOf name)) := by
  have within := List.idxOf_lt_length_iff.mpr known
  rw [OrderedMap.get?_eq_getElem? _ (keys_tokens params ▸ known), keys_tokens,
    OrderedMap.values, entries_tokens, List.map_map]
  simp [List.getElem?_eq_getElem within]

/-- Whatever the values are, their tokens are bare. -/
theorem bare_of_mem_values_tokens (params : OrderedMap String) :
    ∀ value ∈ (tokens params).values, Bare value.toList := by
  intro value member
  rw [OrderedMap.values, entries_tokens, List.map_map] at member
  obtain ⟨⟨name, index⟩, -, rfl⟩ := List.mem_map.mp member
  exact bare_token index

/-- The value of a parameter. -/
def valueOf (params : OrderedMap String) (name : String) : String :=
  (params.get? name).getD ""

/-- In a row without the control character and the word of the tokens, the values come to stand in
place of the tokens. -/
theorem unmask_fillParts (params : OrderedMap String) {parts : List Part}
    (clean : '\x01' ∉ (fillParts (valueOf params) parts).toList)
    (apart : ¬maskWord.toList <:+: (fillParts (valueOf params) parts).toList) :
    unmask params (fillParts (valueOf (tokens params)) parts) =
      fillParts (valueOf params) parts := by
  have lengths : params.values.length = params.keys.length := by
    simp [OrderedMap.values, OrderedMap.keys]
  have masked : valueOf (tokens params) = stage params.keys (valueOf params) 0 := by
    funext name
    by_cases known : name ∈ params.keys
    · rw [valueOf, get?_tokens known, stage_of_waiting _ _ known (Nat.zero_le _)]
      rfl
    · rw [stage_of_done _ _ fun isKnown => absurd isKnown known, valueOf, valueOf,
        params.get?_eq_none_of_not_mem known,
        (tokens params).get?_eq_none_of_not_mem (keys_tokens params ▸ known)]
  have filled : stage params.keys (valueOf params) (0 + params.values.length) = valueOf params := by
    funext name
    refine stage_of_done _ _ fun known => ?_
    have within := List.idxOf_lt_length_iff.mpr known
    omega
  have isHeld : ∀ name ∈ params.keys, ∀ index held, params.values[index]? = some held →
      params.keys.idxOf name = 0 + index → valueOf params name = held := by
    intro name known index held found now
    rw [valueOf, params.get?_eq_getElem? known, now, Nat.zero_add, found]
    rfl
  rw [unmask, masked, foldl_replaceText isHeld clean apart, filled, String.ofList_toList]

end RequestChain.PathParams
