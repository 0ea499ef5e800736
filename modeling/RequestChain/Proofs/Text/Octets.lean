import RequestChain.Proofs.Text.FormEncoding
import RequestChain.Text.Octets

/-! # Boundaries

A character has one octet below 0x80, or a first octet from 0xc0 on with continuations behind it. So
an ASCII character is found by its octet alone, the positions in front of characters are boundaries,
and what stands between two of them is the text that was written there.
-/

namespace RequestChain.Text

/-! ## Octets of a character -/

section Characters

variable {c mark : Char}

theorem utf8EncodeChar_of_ascii (ascii : c.toNat < 0x80) :
    String.utf8EncodeChar c = [c.toUInt8] :=
  if_pos (Nat.le_of_lt_succ ascii)

theorem octetCount_of_ascii (ascii : c.toNat < 0x80) : octetCount [c] = 1 := by
  rw [octetCount, utf8Encode, List.flatMap_singleton, utf8EncodeChar_of_ascii ascii,
    List.length_singleton]

theorem toNat_toUInt8_of_ascii (ascii : c.toNat < 0x80) : c.toUInt8.toNat = c.toNat := by
  change c.val.toUInt8.toNat = c.val.toNat
  change c.val.toNat < 0x80 at ascii
  rw [UInt32.toNat_toUInt8]
  omega

/-- Outside ASCII there are a first octet and continuations. -/
theorem exists_utf8EncodeChar (wide : 0x80 ≤ c.toNat) :
    ∃ first others, String.utf8EncodeChar c = first :: others ∧ 0xc0 ≤ first.toNat ∧
      ∀ octet ∈ others, isContinuation octet = true := by
  have value : ∀ n < 256, (UInt8.ofNat n).toNat = n := fun n small => by
    simp [Nat.mod_eq_of_lt small]
  have continues : ∀ n, isContinuation (UInt8.ofNat (n % 64 + 128)) = true := fun n => by
    rw [isContinuation, value _ (by omega), Bool.and_eq_true, decide_eq_true_eq, decide_eq_true_eq]
    omega
  change 0x80 ≤ c.val.toNat at wide
  rw [String.utf8EncodeChar]
  generalize c.val.toNat = v at wide
  rw [if_neg (by omega)]
  split
  · refine ⟨_, _, rfl, ?_, by simp [continues, -UInt8.ofNat_add]⟩
    rw [value _ (by omega)]
    omega
  · split
    · refine ⟨_, _, rfl, ?_, by simp [continues, -UInt8.ofNat_add]⟩
      rw [value _ (by omega)]
      omega
    · refine ⟨_, _, rfl, ?_, by simp [continues, -UInt8.ofNat_add]⟩
      rw [value _ (by omega)]
      omega

/-- A character starts with an octet that is no continuation. -/
theorem exists_first (c : Char) :
    ∃ first others, String.utf8EncodeChar c = first :: others ∧ isContinuation first = false ∧
      ∀ octet ∈ others, isContinuation octet = true := by
  by_cases ascii : c.toNat < 0x80
  · refine ⟨_, [], utf8EncodeChar_of_ascii ascii, ?_, List.forall_mem_nil _⟩
    rw [isContinuation, toNat_toUInt8_of_ascii ascii, decide_eq_false (by omega), Bool.false_and]
  · obtain ⟨first, others, octets, large, continuations⟩ :=
      exists_utf8EncodeChar (Nat.le_of_not_lt ascii)
    refine ⟨first, others, octets, ?_, continuations⟩
    rw [isContinuation, decide_eq_false (show ¬ first.toNat < 0xc0 by omega), Bool.and_false]

theorem le_toNat_of_isContinuation {octet : UInt8} (continues : isContinuation octet = true) :
    0x80 ≤ octet.toNat := by
  rw [isContinuation, Bool.and_eq_true, decide_eq_true_eq] at continues
  exact continues.1

/-- No octet outside ASCII is one of an ASCII character. -/
theorem ne_toUInt8_of_le {octet : UInt8} (ascii : mark.toNat < 0x80) (large : 0x80 ≤ octet.toNat) :
    octet ≠ mark.toUInt8 := by
  rintro rfl
  rw [toNat_toUInt8_of_ascii ascii] at large
  omega

/-- The octet of an ASCII character is in no other character. -/
theorem eq_of_toUInt8_mem (ascii : mark.toNat < 0x80)
    (member : mark.toUInt8 ∈ String.utf8EncodeChar c) : c = mark := by
  by_cases narrow : c.toNat < 0x80
  · rw [utf8EncodeChar_of_ascii narrow, List.mem_singleton] at member
    have same := congrArg UInt8.toNat member
    rw [toNat_toUInt8_of_ascii ascii, toNat_toUInt8_of_ascii narrow] at same
    exact Char.toNat_inj.mp same.symm
  · obtain ⟨first, others, octets, large, continuations⟩ :=
      exists_utf8EncodeChar (Nat.le_of_not_lt narrow)
    rw [octets] at member
    rcases List.mem_cons.mp member with head | tail
    · exact absurd head.symm (ne_toUInt8_of_le ascii (by omega))
    · exact absurd rfl
        (ne_toUInt8_of_le ascii (le_toNat_of_isContinuation (continuations _ tail)))

end Characters

/-! ## Counting octets -/

section Counts

variable (c : Char) (text front back : List Char)

theorem utf8Encode_cons : utf8Encode (c :: text) = String.utf8EncodeChar c ++ utf8Encode text :=
  List.flatMap_cons

theorem utf8Encode_append : utf8Encode (front ++ back) = utf8Encode front ++ utf8Encode back :=
  List.flatMap_append

@[simp] theorem octetCount_nil : octetCount [] = 0 := rfl

@[simp] theorem octetCount_cons : octetCount (c :: text) = c.utf8Size + octetCount text := by
  rw [octetCount, utf8Encode_cons, List.length_append, String.length_utf8EncodeChar, octetCount]

@[simp] theorem octetCount_append :
    octetCount (front ++ back) = octetCount front + octetCount back := by
  rw [octetCount, utf8Encode_append, List.length_append, octetCount, octetCount]

end Counts

/-- The last octet is the one of an ASCII character exactly if the text ends in this character. -/
theorem getLast?_utf8Encode_iff {text : List Char} {mark : Char} (ascii : mark.toNat < 0x80) :
    (utf8Encode text).getLast? = some mark.toUInt8 ↔ text.getLast? = some mark := by
  rcases text.eq_nil_or_concat with rfl | ⟨front, last, rfl⟩
  · simp [utf8Encode]
  · rw [List.concat_eq_append]
    obtain ⟨first, others, octets, -⟩ := exists_first last
    have ends : (utf8Encode (front ++ [last])).getLast? =
        (String.utf8EncodeChar last).getLast? := by
      rw [utf8Encode_append, utf8Encode, utf8Encode, List.flatMap_singleton, octets,
        List.getLast?_append, List.getLast?_cons, Option.some_or]
    rw [ends, List.getLast?_concat, Option.some.injEq]
    constructor
    · exact fun found => eq_of_toUInt8_mem ascii (List.mem_of_getLast? found)
    · rintro rfl
      rw [utf8EncodeChar_of_ascii ascii, List.getLast?_singleton]

/-! ## Parts of a text -/

/-- In front of a character, and at the end, is a boundary. -/
theorem isBoundary_append (front back : List Char) :
    isBoundary (utf8Encode (front ++ back)) (octetCount front) = true := by
  rw [isBoundary, utf8Encode_append, octetCount, List.getElem?_append_right (Nat.le_refl _),
    Nat.sub_self]
  cases back with
  | nil => simp [utf8Encode]
  | cons c rest =>
    obtain ⟨first, others, octets, starts, -⟩ := exists_first c
    rw [utf8Encode_cons, octets]
    simp [starts]

/-- Between the two ends of a part of a text stands this part. -/
theorem slice?_append (front middle back : List Char) :
    slice? (front ++ middle ++ back) (octetCount front) (octetCount (front ++ middle)) =
      some middle := by
  have starts : isBoundary (utf8Encode (front ++ middle ++ back)) (octetCount front) = true := by
    rw [List.append_assoc]
    exact isBoundary_append front (middle ++ back)
  rw [slice?, if_pos ⟨by simp, starts, isBoundary_append (front ++ middle) back⟩]
  have taken : (utf8Encode (front ++ middle ++ back)).take (octetCount (front ++ middle)) =
      utf8Encode front ++ utf8Encode middle := by
    rw [utf8Encode_append, octetCount, List.take_left, utf8Encode_append]
  rw [taken, octetCount, List.drop_left, utf8Decode_utf8Encode]

-- The second octet of a character is no boundary.
example : slice? ['é'] 1 2 = none := by
  decide

/-! ## Positions of characters -/

private theorem not_decide_eq (stop : Char) :
    (fun c => !decide (c = stop)) = fun c => decide (c ≠ stop) := by
  funext c
  exact decide_not.symm

theorem position?_append {stop : Char} {front : List Char} (absent : stop ∉ front)
    (back : List Char) :
    position? (fun c => c = stop) (front ++ stop :: back) = some (octetCount front) := by
  rw [position?, not_decide_eq, dropWhile_ne_append absent, takeWhile_ne_append absent]

theorem position?_of_not_mem {stop : Char} {text : List Char} (absent : stop ∉ text) :
    position? (fun c => c = stop) text = none := by
  rw [position?, not_decide_eq, dropWhile_ne_of_not_mem absent]

/-- Without a character of the class, the whole text is in front of it. -/
theorem getD_position? (sought : Char → Bool) (text : List Char) :
    (position? sought text).getD (octetCount text) =
      octetCount (text.takeWhile fun c => !sought c) := by
  have whole := List.takeWhile_append_dropWhile (p := fun c => !sought c) (l := text)
  rw [position?]
  cases behind : text.dropWhile fun c => !sought c with
  | nil =>
    rw [behind, List.append_nil] at whole
    rw [whole]
    rfl
  | cons c rest => rfl

end RequestChain.Text
