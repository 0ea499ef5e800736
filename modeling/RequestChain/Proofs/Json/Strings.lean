import RequestChain.Json.Printer
import RequestChain.Json.Reader

/-! # Strings of JSON

`Spelled text spelling` says that `spelling` is a way to write `text` between quotation marks. Each
character stands for itself, or is written behind a backslash by a letter or by its code; a code
that does not fit four digits comes in two halves. The reader takes exactly the spellings, each up
to the first mark that is not escaped, and what the printer writes is one of them.
-/

namespace RequestChain.Json

/-! ## Ways to write -/

/-- Four hexadecimal digits, in either case, and the number they stand for. -/
inductive HexCode : Nat → List Char → Prop
  | mk {a b c d : Char} {i j k l : Nat} (first : hexDigit? a = some i)
      (second : hexDigit? b = some j) (third : hexDigit? c = some k)
      (fourth : hexDigit? d = some l) :
      HexCode (((i * 16 + j) * 16 + k) * 16 + l) [a, b, c, d]

/-- Each letter behind a backslash, with the character that it names. -/
def namedEscapes : List (Char × Char) :=
  [('"', '"'), ('\\', '\\'), ('/', '/'), ('b', Char.ofNat 8), ('f', Char.ofNat 12), ('n', '\n'),
    ('r', '\r'), ('t', '\t')]

/-- The ways to write a character between quotation marks. -/
inductive SpelledChar (c : Char) : List Char → Prop
  | itself (notMark : c ≠ '"') (notBackslash : c ≠ '\\') (visible : ¬c.toNat < 0x20) :
      SpelledChar c [c]
  | named {letter : Char} (named : (letter, c) ∈ namedEscapes) : SpelledChar c ['\\', letter]
  | code {digits : List Char} (hex : HexCode c.toNat digits) : SpelledChar c ('\\' :: 'u' :: digits)
  | halves {high low : List Char} (beyond : 0x10000 ≤ c.toNat)
      (first : HexCode (0xd800 + (c.toNat - 0x10000) / 0x400) high)
      (second : HexCode (0xdc00 + (c.toNat - 0x10000) % 0x400) low) :
      SpelledChar c ('\\' :: 'u' :: (high ++ '\\' :: 'u' :: low))

/-- The ways to write a text between quotation marks. -/
inductive Spelled : List Char → List Char → Prop
  | nil : Spelled [] []
  | cons {c : Char} {text first others : List Char} (char : SpelledChar c first)
      (rest : Spelled text others) : Spelled (c :: text) (first ++ others)

/-! ## Codes -/

section

variable {code : Nat} {text rest : List Char}

theorem HexCode.read (hex : HexCode code text) (rest : List Char) :
    readCode (text ++ rest) = some (code, rest) := by
  obtain ⟨first, second, third, fourth⟩ := hex
  simp [readCode, first, second, third, fourth]

theorem readCode_iff :
    readCode text = some (code, rest) ↔ ∃ digits, HexCode code digits ∧ text = digits ++ rest := by
  constructor
  · intro read
    unfold readCode at read
    split at read
    next a b c d behind =>
      simp only [Option.bind_eq_bind, Option.bind_eq_some_iff, Option.some.injEq,
        Prod.mk.injEq] at read
      obtain ⟨i, first, j, second, k, third, l, fourth, rfl, rfl⟩ := read
      exact ⟨_, .mk first second third fourth, rfl⟩
    next => cases read
  · rintro ⟨digits, hex, rfl⟩
    exact hex.read rest

theorem HexCode.lt (hex : HexCode code text) : code < 0x10000 := by
  have small {c : Char} {value : Nat} (digit : hexDigit? c = some value) : value < 16 := by
    simp only [hexDigit?, Char.le_def, Char.toNat, UInt32.le_iff_toNat_le] at digit
    have bounds : '9'.val.toNat = 0x39 ∧ 'f'.val.toNat = 0x66 ∧ 'F'.val.toNat = 0x46 :=
      ⟨rfl, rfl, rfl⟩
    grind
  obtain ⟨first, second, third, fourth⟩ := hex
  have leading := small first
  have next := small second
  have further := small third
  have last := small fourth
  omega

private theorem isHighSurrogate_iff :
    isHighSurrogate code = true ↔ 0xd800 ≤ code ∧ code < 0xdc00 := by
  rw [isHighSurrogate, Bool.and_eq_true, decide_eq_true_iff, decide_eq_true_iff]

private theorem isLowSurrogate_iff :
    isLowSurrogate code = true ↔ 0xdc00 ≤ code ∧ code < 0xe000 := by
  rw [isLowSurrogate, Bool.and_eq_true, decide_eq_true_iff, decide_eq_true_iff]

private theorem toNat_bounds (c : Char) :
    c.toNat < 0xd800 ∨ 0xdfff < c.toNat ∧ c.toNat < 0x110000 :=
  c.valid

/-- No character has the code of a half. -/
private theorem not_surrogate (c : Char) :
    ¬isLowSurrogate c.toNat = true ∧ ¬isHighSurrogate c.toNat = true := by
  have bounds := toNat_bounds c
  rw [isLowSurrogate_iff, isHighSurrogate_iff]
  omega

private theorem toNat_ofNat (valid : code < 0xd800 ∨ 0xdfff < code ∧ code < 0x110000) :
    (Char.ofNat code).toNat = code := by
  rw [Char.ofNat, dif_pos valid]
  rfl

private theorem readEscapedCode_of_hexCode {c : Char} (hex : HexCode c.toNat text) :
    readEscapedCode (text ++ rest) = some (c, rest) := by
  have read := hex.read rest
  obtain ⟨notLow, notHigh⟩ := not_surrogate c
  simp [readEscapedCode, read, notLow, notHigh, Char.ofNat_toNat]

private theorem readEscapedCode_of_halves {c : Char} {upper lower : Nat} {high low : List Char}
    (first : HexCode upper high) (second : HexCode lower low)
    (isHigh : isHighSurrogate upper = true) (isLow : isLowSurrogate lower = true)
    (whole : 0x10000 + (upper - 0xd800) * 0x400 + (lower - 0xdc00) = c.toNat) :
    readEscapedCode (high ++ '\\' :: 'u' :: (low ++ rest)) = some (c, rest) := by
  have notLow : ¬isLowSurrogate upper = true := by
    rw [isLowSurrogate_iff]
    rw [isHighSurrogate_iff] at isHigh
    omega
  rw [readEscapedCode, first.read, Option.bind_eq_bind, Option.bind_some]
  dsimp only
  rw [if_neg notLow, if_pos isHigh]
  refine Option.bind_eq_some_iff.mpr ⟨(lower, rest), second.read rest, ?_⟩
  rw [if_pos isLow, whole, Char.ofNat_toNat]

private theorem spelledChar_of_halves {upper lower : Nat} {high low : List Char}
    (first : HexCode upper high) (second : HexCode lower low)
    (isHigh : isHighSurrogate upper = true) (isLow : isLowSurrogate lower = true) :
    SpelledChar (Char.ofNat (0x10000 + (upper - 0xd800) * 0x400 + (lower - 0xdc00)))
      ('\\' :: 'u' :: (high ++ '\\' :: 'u' :: low)) := by
  rw [isHighSurrogate_iff] at isHigh
  rw [isLowSurrogate_iff] at isLow
  generalize whole : 0x10000 + (upper - 0xd800) * 0x400 + (lower - 0xdc00) = code
  have value : (Char.ofNat code).toNat = code := toNat_ofNat (by omega)
  refine .halves ?_ ?_ ?_
  · omega
  · rwa [value, show 0xd800 + (code - 0x10000) / 0x400 = upper by omega]
  · rwa [value, show 0xdc00 + (code - 0x10000) % 0x400 = lower by omega]

private theorem spelledChar_of_readEscapedCode {c : Char}
    (read : readEscapedCode text = some (c, rest)) :
    ∃ code, SpelledChar c ('\\' :: 'u' :: code) ∧ text = code ++ rest := by
  obtain ⟨⟨first, behind⟩, readFirst, found⟩ := Option.bind_eq_some_iff.mp read
  obtain ⟨digits, hex, rfl⟩ := readCode_iff.mp readFirst
  have small := hex.lt
  dsimp only at found
  split at found
  next => cases found
  next notLow =>
  rw [isLowSurrogate_iff] at notLow
  split at found
  next isHigh =>
    split at found
    next others =>
      obtain ⟨⟨second, behind⟩, readSecond, pair⟩ := Option.bind_eq_some_iff.mp found
      obtain ⟨more, hexSecond, rfl⟩ := readCode_iff.mp readSecond
      dsimp only at pair
      split at pair
      next isLow =>
        obtain ⟨rfl, rfl⟩ := Prod.mk.inj (Option.some.inj pair)
        exact ⟨_, spelledChar_of_halves hex hexSecond isHigh isLow, by simp⟩
      next => cases pair
    next => cases found
  next notHigh =>
    rw [isHighSurrogate_iff] at notHigh
    obtain ⟨rfl, rfl⟩ := Prod.mk.inj (Option.some.inj found)
    have value : (Char.ofNat first).toNat = first := toNat_ofNat (by omega)
    exact ⟨digits, .code (value.symm ▸ hex), rfl⟩

end

/-! ## Characters -/

section

variable {c : Char} {text rest : List Char}

private theorem readEscape_of_named {letter : Char} (named : (letter, c) ∈ namedEscapes) :
    readEscape (letter :: rest) = some (c, rest) := by
  simp only [namedEscapes, List.mem_cons, Prod.mk.injEq, List.not_mem_nil, or_false] at named
  obtain ⟨rfl, rfl⟩ | ⟨rfl, rfl⟩ | ⟨rfl, rfl⟩ | ⟨rfl, rfl⟩ | ⟨rfl, rfl⟩ | ⟨rfl, rfl⟩ | ⟨rfl, rfl⟩ |
    ⟨rfl, rfl⟩ := named <;> rfl

theorem readEscape_iff : readEscape text = some (c, rest) ↔
    ∃ code, SpelledChar c ('\\' :: code) ∧ text = code ++ rest := by
  constructor
  · intro read
    have named {letter held : Char} {behind : List Char} (member : (letter, held) ∈ namedEscapes)
        (same : some (held, behind) = some (c, rest)) :
        ∃ code, SpelledChar c ('\\' :: code) ∧ letter :: behind = code ++ rest := by
      obtain ⟨rfl, rfl⟩ := Prod.mk.inj (Option.some.inj same)
      exact ⟨[letter], .named member, rfl⟩
    unfold readEscape at read
    split at read
    case h_9 behind =>
      obtain ⟨code, spelled, rfl⟩ := spelledChar_of_readEscapedCode read
      exact ⟨'u' :: code, spelled, rfl⟩
    case h_10 => cases read
    all_goals exact named (by decide) read
  · rintro ⟨code, spelled, rfl⟩
    cases spelled with
    | itself _ notBackslash _ => exact absurd rfl notBackslash
    | named member => exact readEscape_of_named member
    | code hex => exact readEscapedCode_of_hexCode hex
    | @halves high low beyond first second =>
      have bounds := toNat_bounds c
      rw [List.cons_append, List.append_assoc, List.cons_append, List.cons_append, readEscape]
      refine readEscapedCode_of_halves first second ?_ ?_ ?_
      · rw [isHighSurrogate_iff]
        omega
      · rw [isLowSurrogate_iff]
        omega
      · omega

theorem SpelledChar.read {spelling : List Char} (spelled : SpelledChar c spelling) (bound : Nat) :
    readQuoted (bound + 1) (spelling ++ rest) =
      (readQuoted bound rest).map fun (text, behind) => (c :: text, behind) := by
  have escaped {code : List Char} (spelled : SpelledChar c ('\\' :: code)) :
      readQuoted (bound + 1) ('\\' :: code ++ rest) =
        (readQuoted bound rest).map fun (text, behind) => (c :: text, behind) := by
    have read : readEscape (code ++ rest) = some (c, rest) :=
      readEscape_iff.mpr ⟨code, spelled, rfl⟩
    rw [List.cons_append, readQuoted, read, Option.map_eq_bind]
    rfl
  cases spelled with
  | itself notMark notBackslash visible =>
    rw [List.singleton_append, readQuoted, if_neg visible, Option.map_eq_bind]
    · rfl
    · exact notMark
    · exact notBackslash
  | named named => exact escaped (.named named)
  | code hex => exact escaped (.code hex)
  | halves beyond first second => exact escaped (.halves beyond first second)

end

/-! ## Texts -/

theorem SpelledChar.ne_nil {c : Char} {spelling : List Char} (spelled : SpelledChar c spelling) :
    spelling ≠ [] := by
  cases spelled <;> exact List.cons_ne_nil _ _

/-- A spelling is at least as long as the text. -/
theorem Spelled.length_le {text spelling : List Char} (spelled : Spelled text spelling) :
    text.length ≤ spelling.length := by
  induction spelled with
  | nil => exact Nat.le_refl _
  | cons char rest ih =>
    have some := List.length_pos_iff.mpr char.ne_nil
    rw [List.length_cons, List.length_append]
    omega

private theorem readQuoted_spelled {text spelling : List Char} (spelled : Spelled text spelling)
    {bound : Nat} (within : text.length < bound) (rest : List Char) :
    readQuoted bound (spelling ++ '"' :: rest) = some (text, rest) := by
  induction spelled generalizing bound with
  | nil =>
    obtain ⟨left, rfl⟩ := Nat.exists_eq_add_of_lt within
    rfl
  | cons char others ih =>
    obtain ⟨left, rfl⟩ : ∃ left, bound = left + 1 := ⟨bound - 1, by omega⟩
    rw [List.append_assoc, char.read, ih (by simp at within; omega), Option.map_some]

private theorem spelled_of_readQuoted {bound : Nat} {source text rest : List Char}
    (read : readQuoted bound source = some (text, rest)) :
    ∃ spelling, Spelled text spelling ∧ source = spelling ++ '"' :: rest := by
  induction bound generalizing source text with
  | zero => cases read
  | succ bound ih =>
    have step {c : Char} {first behind : List Char} (char : SpelledChar c first)
        (others : (readQuoted bound behind).map (fun (text, behind) => (c :: text, behind)) =
          some (text, rest)) :
        ∃ spelling, Spelled text spelling ∧ first ++ behind = spelling ++ '"' :: rest := by
      obtain ⟨⟨content, left⟩, found, same⟩ := Option.map_eq_some_iff.mp others
      obtain ⟨rfl, rfl⟩ := Prod.mk.inj same
      obtain ⟨spelling, spelled, rfl⟩ := ih found
      exact ⟨first ++ spelling, .cons char spelled, (List.append_assoc ..).symm⟩
    cases source with
    | nil => cases read
    | cons c behind =>
      by_cases mark : c = '"'
      · subst mark
        obtain ⟨rfl, rfl⟩ := Prod.mk.inj (Option.some.inj read)
        exact ⟨[], .nil, rfl⟩
      by_cases backslash : c = '\\'
      · subst backslash
        obtain ⟨⟨c, left⟩, escaped, others⟩ := Option.bind_eq_some_iff.mp read
        obtain ⟨code, char, rfl⟩ := readEscape_iff.mp escaped
        exact step char (Option.map_eq_bind.trans others)
      · rw [readQuoted.eq_5 _ _ _ mark backslash] at read
        split at read
        next => cases read
        next visible =>
          exact step (.itself mark backslash visible) (Option.map_eq_bind.trans read)

/-- A string is read exactly if it is spelled, up to the first mark that is not escaped. -/
theorem readString_iff {source rest : List Char} {text : String} :
    readString source = some (text, rest) ↔
      ∃ spelling, Spelled text.toList spelling ∧ source = spelling ++ '"' :: rest := by
  constructor
  · intro read
    obtain ⟨⟨content, behind⟩, found, same⟩ := Option.bind_eq_some_iff.mp read
    obtain ⟨rfl, rfl⟩ := Prod.mk.inj (Option.some.inj same)
    rw [String.toList_ofList]
    exact spelled_of_readQuoted found
  · rintro ⟨spelling, spelled, rfl⟩
    have within : text.toList.length < (spelling ++ '"' :: rest).length + 1 := by
      have short := spelled.length_le
      rw [List.length_append]
      omega
    refine Option.bind_eq_some_iff.mpr ⟨_, readQuoted_spelled spelled within rest, ?_⟩
    simp only [String.ofList_toList]

/-! ## The printed form -/

private theorem hexCode_control {code : Nat} (control : code < 0x20) :
    HexCode code ['0', '0', Nat.digitChar (code / 16), Nat.digitChar (code % 16)] := by
  have each : ∀ d < 16, hexDigit? (Nat.digitChar d) = some d := by decide
  have zero : hexDigit? '0' = some 0 := by decide
  have hex := HexCode.mk zero zero (each (code / 16) (by omega)) (each (code % 16) (by omega))
  rwa [show ((0 * 16 + 0) * 16 + code / 16) * 16 + code % 16 = code by omega] at hex

/-- The printer spells each character. -/
theorem spelledChar_escapeChar (c : Char) : SpelledChar c (escapeChar c) := by
  have named {value : Nat} {letter : Char} (same : c.toNat = value)
      (named : (letter, Char.ofNat value) ∈ namedEscapes) : SpelledChar c ['\\', letter] := by
    rw [← same, Char.ofNat_toNat] at named
    exact .named named
  rw [escapeChar]
  split
  · subst c
    exact .named (by decide)
  split
  · subst c
    exact .named (by decide)
  split
  next control =>
    split
    · exact named ‹_› (by decide)
    · exact named ‹_› (by decide)
    · exact named ‹_› (by decide)
    · exact named ‹_› (by decide)
    · exact named ‹_› (by decide)
    · exact .code (hexCode_control control)
  next visible => exact .itself ‹_› ‹_› visible

theorem spelled_escaped (text : List Char) : Spelled text (text.flatMap escapeChar) := by
  induction text with
  | nil => exact .nil
  | cons c rest ih => exact .cons (spelledChar_escapeChar c) ih

theorem toList_quote (text : String) :
    (quote text).toList = '"' :: (text.toList.flatMap escapeChar ++ ['"']) := by
  rw [quote, String.toList_ofList, List.cons_append]

end RequestChain.Json
