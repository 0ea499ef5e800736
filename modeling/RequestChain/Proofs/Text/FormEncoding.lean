import RequestChain.Proofs.Text.Cutting

/-! # Reading what was written

The octets of a text decode to the text, a form-encoded text decodes to the text, and a line of
form-encoded pairs decodes to the pairs. The texts are arbitrary: what has a meaning in a line or in
a URL is not left in an encoded text.
-/

namespace RequestChain.Text

/-! ## Octets of a character -/

section Octets

variable {octet bits code more low high : Nat} {rest : List UInt8}

/-- The first of several octets. -/
private theorem utf8DecodeAfter_lead (small : octet < 256)
    (lead : leadOctet? octet = some (bits, more + 1, low, high)) :
    utf8DecodeAfter 0 0 0 0 (UInt8.ofNat octet :: rest) =
      utf8DecodeAfter bits (more + 1) low high rest := by
  have value : (UInt8.ofNat octet).toNat = octet := by simp [Nat.mod_eq_of_lt small]
  rw [utf8DecodeAfter, if_neg (by simp)]
  simp only [value, lead, if_true, List.nil_append]

/-- An octet behind which more are expected. -/
private theorem utf8DecodeAfter_inner (small : octet < 256) (within : low ≤ octet ∧ octet ≤ high) :
    utf8DecodeAfter code (more + 2) low high (UInt8.ofNat octet :: rest) =
      utf8DecodeAfter (code * 0x40 + (octet - 0x80)) (more + 1) 0x80 0xbf rest := by
  have value : (UInt8.ofNat octet).toNat = octet := by simp [Nat.mod_eq_of_lt small]
  rw [utf8DecodeAfter, value, if_pos ⟨by omega, within⟩, if_neg (by omega)]
  rfl

/-- The last octet. -/
private theorem utf8DecodeAfter_last (small : octet < 256) (within : low ≤ octet ∧ octet ≤ high) :
    utf8DecodeAfter code 1 low high (UInt8.ofNat octet :: rest) =
      Char.ofNat (code * 0x40 + (octet - 0x80)) :: utf8Decode rest := by
  have value : (UInt8.ofNat octet).toNat = octet := by simp [Nat.mod_eq_of_lt small]
  rw [utf8DecodeAfter, value, if_pos ⟨by omega, within⟩, if_pos rfl]
  rfl

/-- The first octet of three: behind the least and behind the one of the surrogates the bounds are
narrower. -/
private theorem leadOctet?_of_three (small : bits < 16) :
    ∃ low high, leadOctet? (bits + 0xe0) = some (bits, 2, low, high) ∧
      ∀ next, 0x80 ≤ next → next ≤ 0xbf → (bits = 0 → 0xa0 ≤ next) → (bits = 0xd → next ≤ 0x9f) →
        low ≤ next ∧ next ≤ high := by
  unfold leadOctet?
  by_cases least : bits = 0
  · subst least
    exact ⟨0xa0, 0xbf, rfl, fun next _ below above _ => ⟨above rfl, below⟩⟩
  · by_cases surrogates : bits = 0xd
    · subst surrogates
      exact ⟨0x80, 0x9f, rfl, fun next above _ _ below => ⟨above, below rfl⟩⟩
    · refine ⟨0x80, 0xbf, ?_, fun next above below _ _ => ⟨above, below⟩⟩
      rw [if_neg (by omega), if_neg (by omega), if_neg (by omega), if_neg (by omega),
        if_pos (by omega), Nat.add_sub_cancel]

/-- The first octet of four: behind the least and the greatest the bounds are narrower. -/
private theorem leadOctet?_of_four (small : bits < 5) :
    ∃ low high, leadOctet? (bits + 0xf0) = some (bits, 3, low, high) ∧
      ∀ next, 0x80 ≤ next → next ≤ 0xbf → (bits = 0 → 0x90 ≤ next) → (bits = 4 → next ≤ 0x8f) →
        low ≤ next ∧ next ≤ high := by
  unfold leadOctet?
  by_cases least : bits = 0
  · subst least
    exact ⟨0x90, 0xbf, rfl, fun next _ below above _ => ⟨above rfl, below⟩⟩
  · by_cases greatest : bits = 4
    · subst greatest
      exact ⟨0x80, 0x8f, rfl, fun next above _ _ below => ⟨above, below rfl⟩⟩
    · refine ⟨0x80, 0xbf, ?_, fun next above below _ _ => ⟨above, below⟩⟩
      rw [if_neg (by omega), if_neg (by omega), if_neg (by omega), if_neg (by omega),
        if_neg (by omega), if_neg (by omega), if_pos (by omega), Nat.add_sub_cancel]

end Octets

/-- The octets of a character are read as this character. -/
theorem utf8Decode_char (c : Char) (rest : List UInt8) :
    utf8Decode (String.utf8EncodeChar c ++ rest) = c :: utf8Decode rest := by
  have valid := c.valid
  have same : Char.ofNat c.val.toNat = c := Char.ofNat_toNat c
  change c.val.toNat < 0xd800 ∨ (0xdfff < c.val.toNat ∧ c.val.toNat < 0x110000) at valid
  rw [utf8Decode, String.utf8EncodeChar]
  generalize c.val.toNat = v at valid same
  by_cases one : v ≤ 0x7f
  · have value : (UInt8.ofNat v).toNat = v := by simp; omega
    have lead : leadOctet? v = some (v, 0, 0, 0) := if_pos (by omega)
    rw [if_pos one, List.singleton_append, utf8DecodeAfter, if_neg (by simp)]
    simp only [value, lead, if_true, List.nil_append, same]
    rfl
  rw [if_neg one]
  by_cases two : v ≤ 0x7ff
  · have lead : leadOctet? (v / 64 % 32 + 192) = some (v / 64 % 32, 0 + 1, 0x80, 0xbf) := by
      rw [leadOctet?, if_neg (by omega), if_pos (by omega), Nat.add_sub_cancel]
    have code : v / 64 % 32 * 0x40 + (v % 64 + 128 - 0x80) = v := by omega
    rw [if_pos two, List.cons_append, List.singleton_append,
      utf8DecodeAfter_lead (by omega) lead, utf8DecodeAfter_last (by omega) (by omega), code, same]
  rw [if_neg two]
  -- Where the bounds are narrower the code would be too small, a surrogate, or too large.
  by_cases three : v ≤ 0xffff
  · obtain ⟨low, high, lead, within⟩ := leadOctet?_of_three (show v / 4096 % 16 < 16 by omega)
    have code : (v / 4096 % 16 * 0x40 + (v / 64 % 64 + 128 - 0x80)) * 0x40 +
        (v % 64 + 128 - 0x80) = v := by omega
    rw [if_pos three, List.cons_append, List.cons_append, List.singleton_append,
      utf8DecodeAfter_lead (by omega) lead,
      utf8DecodeAfter_inner (by omega)
        (within _ (by omega) (by omega) (by omega) (by omega)),
      utf8DecodeAfter_last (by omega) (by omega), code, same]
  · obtain ⟨low, high, lead, within⟩ := leadOctet?_of_four (show v / 262144 % 8 < 5 by omega)
    have code : ((v / 262144 % 8 * 0x40 + (v / 4096 % 64 + 128 - 0x80)) * 0x40 +
        (v / 64 % 64 + 128 - 0x80)) * 0x40 + (v % 64 + 128 - 0x80) = v := by omega
    rw [if_neg three, List.cons_append, List.cons_append, List.cons_append, List.singleton_append,
      utf8DecodeAfter_lead (by omega) lead,
      utf8DecodeAfter_inner (by omega)
        (within _ (by omega) (by omega) (by omega) (by omega)),
      utf8DecodeAfter_inner (by omega) (by omega),
      utf8DecodeAfter_last (by omega) (by omega), code, same]

/-- The octets of a text are read as this text. -/
theorem utf8Decode_utf8Encode (text : List Char) : utf8Decode (utf8Encode text) = text := by
  induction text with
  | nil => rfl
  | cons c rest ih =>
    rw [utf8Encode, List.flatMap_cons, utf8Decode_char]
    exact congrArg (c :: ·) ih

/-! ## Octets as digits -/

private theorem hexValue?_hexDigitUpper :
    ∀ n < 16, hexValue? (hexDigitUpper n) = some n := by
  decide

private theorem isFormPlain_hexDigitUpper :
    ∀ n < 16, isFormPlain (hexDigitUpper n) = true := by
  decide

theorem percentDecode_percentOctet (octet : UInt8) (rest : List Char) :
    percentDecode (percentOctet octet ++ rest) = octet :: percentDecode rest := by
  have bound : octet.toNat < 256 := octet.toNat_lt
  have value : octet.toNat / 16 * 16 + octet.toNat % 16 = octet.toNat := by omega
  simp only [percentOctet, List.cons_append, List.nil_append, percentDecode,
    hexValue?_hexDigitUpper (octet.toNat / 16) (by omega),
    hexValue?_hexDigitUpper (octet.toNat % 16) (by omega), value, UInt8.ofNat_toNat]

theorem percentDecode_cons_of_ne {c : Char} (plain : c ≠ '%') (rest : List Char) :
    percentDecode (c :: rest) = String.utf8EncodeChar c ++ percentDecode rest := by
  rw [percentDecode]
  intro high low behind same
  exact absurd same plain

/-! ## One side of a pair -/

/-- The characters of encoded texts. -/
def isFormChar (c : Char) : Bool :=
  isFormPlain c || c == '+' || c == '%'

theorem plain_or_percent_of_mem {octet : UInt8} {c : Char} (member : c ∈ percentOctet octet) :
    isFormPlain c = true ∨ c = '%' := by
  have bound : octet.toNat < 256 := octet.toNat_lt
  simp only [percentOctet, List.mem_cons, List.not_mem_nil, or_false] at member
  rcases member with rfl | rfl | rfl
  · exact .inr rfl
  · exact .inl (isFormPlain_hexDigitUpper _ (by omega))
  · exact .inl (isFormPlain_hexDigitUpper _ (by omega))

theorem isFormChar_of_mem_formEncode {text : List Char} {c : Char}
    (member : c ∈ formEncode text) : isFormChar c = true := by
  obtain ⟨source, -, written⟩ := List.mem_flatMap.mp member
  unfold formEncodeChar at written
  split at written
  · rename_i plain
    obtain rfl := List.mem_singleton.mp written
    simp [isFormChar, plain]
  · split at written
    · obtain rfl := List.mem_singleton.mp written
      rfl
    · obtain ⟨octet, -, digit⟩ := List.mem_flatMap.mp written
      rcases plain_or_percent_of_mem digit with plain | rfl
      · simp [isFormChar, plain]
      · rfl

/-- A plus sign is read as a space. -/
private def plusAsSpace (c : Char) : Char :=
  if c = '+' then ' ' else c

private theorem plusAsSpace_of_plain {c : Char} (plain : isFormPlain c = true) :
    plusAsSpace c = c :=
  if_neg fun same => by rw [same] at plain; cases plain

private theorem map_plusAsSpace_percentOctet (octet : UInt8) :
    (percentOctet octet).map plusAsSpace = percentOctet octet := by
  have same : ∀ c ∈ percentOctet octet, plusAsSpace c = id c := by
    intro c member
    rcases plain_or_percent_of_mem member with plain | rfl
    · exact plusAsSpace_of_plain plain
    · rfl
  rw [List.map_congr_left same, List.map_id]

private theorem percentDecode_octets (octets : List UInt8) (rest : List Char) :
    percentDecode ((octets.flatMap percentOctet ++ rest).map plusAsSpace) =
      octets ++ percentDecode (rest.map plusAsSpace) := by
  induction octets with
  | nil => rfl
  | cons octet others ih =>
    rw [List.flatMap_cons, List.append_assoc, List.map_append, map_plusAsSpace_percentOctet,
      percentDecode_percentOctet, ih, List.cons_append]

private theorem percentDecode_formEncodeChar (c : Char) (rest : List Char) :
    percentDecode ((formEncodeChar c ++ rest).map plusAsSpace) =
      String.utf8EncodeChar c ++ percentDecode (rest.map plusAsSpace) := by
  unfold formEncodeChar
  split
  · rename_i plain
    have notPercent : c ≠ '%' := fun same => by rw [same] at plain; cases plain
    rw [List.singleton_append, List.map_cons, plusAsSpace_of_plain plain,
      percentDecode_cons_of_ne notPercent]
  · split
    · rename_i space
      subst space
      exact percentDecode_cons_of_ne (by decide) _
    · exact percentDecode_octets _ rest

/-- An encoded text is read as the text. -/
theorem formDecode_formEncode (text : List Char) :
    formDecode (formEncode text) = String.ofList text := by
  have octets : percentDecode ((formEncode text).map plusAsSpace) = utf8Encode text := by
    induction text with
    | nil => rfl
    | cons c rest ih =>
      rw [formEncode, List.flatMap_cons, percentDecode_formEncodeChar, ← formEncode, ih, utf8Encode,
        utf8Encode, List.flatMap_cons]
  exact congrArg String.ofList ((congrArg utf8Decode octets).trans (utf8Decode_utf8Encode text))

/-! ## Pairs -/

/-- What a piece between ampersands says. -/
def formDecodePiece? (piece : List Char) : Option (String × String) :=
  if piece.isEmpty then none
  else some (formDecode (splitAtFirst '=' piece).1, formDecode (splitAtFirst '=' piece).2)

theorem formDecodePairs_eq (line : List Char) :
    formDecodePairs line = (line.splitOn '&').filterMap formDecodePiece? := rfl

@[simp] theorem formDecodePairs_nil : formDecodePairs [] = [] := by
  rw [formDecodePairs_eq, List.splitOn_nil]
  rfl

/-- Two lines with an ampersand between them say what both say. -/
theorem formDecodePairs_append (line rest : List Char) :
    formDecodePairs (line ++ '&' :: rest) = formDecodePairs line ++ formDecodePairs rest := by
  simp only [formDecodePairs_eq, List.splitOn_append_cons_self, List.filterMap_append]

theorem formDecodePairs_of_piece {piece : List Char} (whole : '&' ∉ piece) :
    formDecodePairs piece = (formDecodePiece? piece).toList := by
  rw [formDecodePairs_eq, List.splitOn_eq_singleton whole]
  cases said : formDecodePiece? piece with
  | none => simp [said]
  | some pair => simp [said]

theorem formDecodePiece?_formEncodePair (pair : String × String) :
    formDecodePiece? (formEncodePair pair) = some pair := by
  have unequal : '=' ∉ formEncode pair.1.toList := fun member => by
    cases isFormChar_of_mem_formEncode member
  have filled : (formEncodePair pair).isEmpty = false := by
    simp [formEncodePair]
  rw [formDecodePiece?, filled, if_neg Bool.false_ne_true, formEncodePair,
    splitAtFirst_append unequal, formDecode_formEncode, formDecode_formEncode, String.ofList_toList,
    String.ofList_toList]

/-- In a pair, only the sign between its sides is no character of an encoded text. -/
theorem not_mem_formEncodePair {pair : String × String} {c : Char} (foreign : isFormChar c = false)
    (other : c ≠ '=') : c ∉ formEncodePair pair := by
  intro member
  rcases List.mem_append.mp member with name | behind
  · rw [isFormChar_of_mem_formEncode name] at foreign
    cases foreign
  · rcases List.mem_cons.mp behind with same | value
    · exact other same
    · rw [isFormChar_of_mem_formEncode value] at foreign
      cases foreign

theorem formEncodePairs_cons (pair : String × String) {rest : List (String × String)}
    (more : rest ≠ []) :
    formEncodePairs (pair :: rest) = formEncodePair pair ++ '&' :: formEncodePairs rest := by
  cases rest with
  | nil => exact absurd rfl more
  | cons next others => rfl

/-- In a line, only the signs between sides and between pairs are no characters of encoded texts. -/
theorem not_mem_formEncodePairs {pairs : List (String × String)} {c : Char}
    (foreign : isFormChar c = false) (notEqual : c ≠ '=') (notAmpersand : c ≠ '&') :
    c ∉ formEncodePairs pairs := by
  induction pairs with
  | nil => exact List.not_mem_nil
  | cons pair rest ih =>
    by_cases last : rest = []
    · rw [last]
      exact not_mem_formEncodePair foreign notEqual
    · rw [formEncodePairs_cons pair last]
      intro member
      rcases List.mem_append.mp member with first | behind
      · exact not_mem_formEncodePair foreign notEqual first
      · rcases List.mem_cons.mp behind with same | others
        · exact notAmpersand same
        · exact ih others

/-- Encoded pairs are read as the pairs. -/
theorem formDecodePairs_formEncodePairs (pairs : List (String × String)) :
    formDecodePairs (formEncodePairs pairs) = pairs := by
  induction pairs with
  | nil => exact formDecodePairs_nil
  | cons pair rest ih =>
    have single : formDecodePairs (formEncodePair pair) = [pair] := by
      rw [formDecodePairs_of_piece (not_mem_formEncodePair (by decide) (by decide)),
        formDecodePiece?_formEncodePair, Option.toList_some]
    by_cases last : rest = []
    · rw [last]
      exact single
    · rw [formEncodePairs_cons pair last, formDecodePairs_append, single, ih, List.singleton_append]

end RequestChain.Text
