import Mathlib.Data.List.Induction
import RequestChain.Json.Printer
import RequestChain.Json.Reader
import RequestChain.Proofs.Text.Cutting

/-! # Numbers of JSON

`WrittenNumber syn text` says that `text` is a number with the parts `syn`: maybe a minus sign,
digits of which a zero leads no others, maybe a point with digits behind it, and maybe an exponent.
The reader takes exactly the numbers from the front of a text, as long as what stands behind does
not go on with them. A whole number that fits a 64-bit word is written in its decimal digits and in
no other way. What other numbers are read as is left to binary floating point and not treated here.
-/

namespace RequestChain.Json

open Decimal (digitsOf)
open Text (IsRun Stops)

/-! ## Decimal digits -/

theorem toList_toString (n : Nat) : (toString n).toList = digitsOf n := by
  rw [Nat.toString_eq_ofList_toDigits, String.toList_ofList, digitsOf]

theorem isDigit_of_mem_digitsOf {n : Nat} {c : Char} (member : c ∈ digitsOf n) : c.isDigit = true :=
  Nat.isDigit_of_mem_toDigits (by omega) (by omega) member

theorem bounds_of_isDigit {c : Char} (digit : c.isDigit = true) :
    0x30 ≤ c.toNat ∧ c.toNat ≤ 0x39 := by
  simpa [Char.isDigit, UInt32.le_iff_toNat_le] using digit

theorem digitsOf_ne_nil (n : Nat) : digitsOf n ≠ [] := Nat.toDigits_ne_nil

/-- No zero stands in front of other digits. -/
private theorem head?_digitsOf {n : Nat} (positive : 0 < n) : (digitsOf n).head? ≠ some '0' := by
  induction n using Nat.strongRecOn with
  | ind n ih =>
    rw [digitsOf, Nat.toDigits_eq_if (by omega)]
    split
    · simp only [List.head?_cons, ne_eq, Option.some.injEq, Nat.digitChar_eq_zero]
      omega
    · obtain ⟨first, others, shape⟩ := List.exists_cons_of_ne_nil (digitsOf_ne_nil (n / 10))
      have ahead := ih (n / 10) (by omega) (by omega)
      rw [← digitsOf, shape] at *
      exact ahead

private theorem foldl_eq_ofDigitChars (start : Nat) (text : List Char) :
    text.foldl (fun value digit => value * 10 + digitValue digit) start =
      Nat.ofDigitChars 10 text start := by
  rw [Nat.ofDigitChars_eq_foldl]
  simp only [Nat.mul_comm, digitValue]
  rfl

/-- The digits of a number stand for it. -/
theorem natOfDigits_digitsOf (n : Nat) : natOfDigits (digitsOf n) = n := by
  rw [natOfDigits, foldl_eq_ofDigitChars, digitsOf, Nat.ofDigitChars_ten_toDigits]

/-- All digits are taken exactly if the number fits a word. -/
private theorem wordOf_eq_iff {text : List Char} {start word : Nat} (small : start ≤ maxWord) :
    wordOf start text = (word, []) ↔ word = Nat.ofDigitChars 10 text start ∧ word ≤ maxWord := by
  induction text generalizing start with
  | nil =>
    rw [wordOf, Nat.ofDigitChars_nil, Prod.mk.injEq, eq_comm (b := word)]
    constructor
    · rintro ⟨rfl, -⟩
      exact ⟨rfl, small⟩
    · exact fun ⟨same, _⟩ => ⟨same, rfl⟩
  | cons digit rest ih =>
    have next : start * 10 + digitValue digit = 10 * start + (digit.toNat - '0'.toNat) := by
      rw [Nat.mul_comm]
      rfl
    rw [wordOf, Nat.ofDigitChars_cons, ← next]
    split
    next tooLarge =>
      -- More digits only make a number larger.
      have grows : start * 10 + digitValue digit ≤
          Nat.ofDigitChars 10 rest (start * 10 + digitValue digit) := by
        rw [Nat.ofDigitChars_eq_ofDigitChars_zero]
        exact Nat.le_trans (Nat.le_mul_of_pos_left _ (Nat.pow_pos (by decide)))
          (Nat.le_add_right _ _)
      constructor
      · exact fun same => nomatch (Prod.mk.inj same).2
      · omega
    next fits => exact ih (Nat.le_of_not_lt fits)

/-! ## Ways to write -/

/-- Digits, of which a zero leads no others. -/
structure IsInteger (digits : List Char) : Prop where
  run : IsRun Char.isDigit digits
  leading : ∀ rest, digits = '0' :: rest → rest = []

/-- Nothing, or a point and digits. -/
inductive WrittenFraction : Option (List Char) → List Char → Prop
  | none : WrittenFraction none []
  | some {digits : List Char} (run : IsRun Char.isDigit digits) :
      WrittenFraction (some digits) ('.' :: digits)

/-- The signs of an exponent, and whether they make it negative. -/
inductive WrittenSign : Bool → List Char → Prop
  | none : WrittenSign false []
  | plus : WrittenSign false ['+']
  | minus : WrittenSign true ['-']

/-- Nothing, or the letter e in either case, maybe a sign, and digits. -/
inductive WrittenExponent : Option (Bool × List Char) → List Char → Prop
  | none : WrittenExponent none []
  | some {mark : Char} {negative : Bool} {sign digits : List Char}
      (isMark : mark = 'e' ∨ mark = 'E') (signed : WrittenSign negative sign)
      (run : IsRun Char.isDigit digits) :
      WrittenExponent (some (negative, digits)) (mark :: (sign ++ digits))

/-- The parts of a number in a row. -/
inductive WrittenNumber : NumberSyntax → List Char → Prop
  | mk (negative : Bool) {integer behind scale : List Char} {fraction : Option (List Char)}
      {exponent : Option (Bool × List Char)} (isInteger : IsInteger integer)
      (pointed : WrittenFraction fraction behind) (scaled : WrittenExponent exponent scale) :
      WrittenNumber ⟨negative, integer, fraction, exponent⟩
        ((if negative then ['-'] else []) ++ (integer ++ (behind ++ scale)))

/-! ## Reading numbers -/

theorem readDigits_iff {source digits rest : List Char} : readDigits source = some (digits, rest) ↔
    IsRun Char.isDigit digits ∧ source = digits ++ rest ∧ Stops Char.isDigit rest := by
  constructor
  · intro read
    unfold readDigits at read
    split at read
    next => cases read
    next nonempty =>
      obtain ⟨rfl, rfl⟩ := Prod.mk.inj (Option.some.inj read)
      exact ⟨⟨nonempty, fun c => List.mem_takeWhile_imp⟩, List.takeWhile_append_dropWhile.symm,
        Text.stops_dropWhile source⟩
  · rintro ⟨run, rfl, stops⟩
    have taken := Text.takeWhile_append_of_stops run.2 stops
    have left := Text.dropWhile_append_of_stops run.2 stops
    obtain ⟨first, others, rfl, -⟩ := run.exists_cons
    simp only [readDigits, taken, left]

theorem readInteger_iff {source digits rest : List Char} :
    readInteger source = some (digits, rest) ↔
      IsInteger digits ∧ source = digits ++ rest ∧ Stops Char.isDigit rest := by
  by_cases zero : source.head? = some '0'
  · obtain ⟨behind, rfl⟩ := List.head?_eq_some_iff.mp zero
    have isZero : IsInteger ['0'] := ⟨⟨List.cons_ne_nil _ _, by simp⟩, by simp⟩
    have read : readInteger ('0' :: behind) = some (digits, rest) ↔
        Stops Char.isDigit behind ∧ ['0'] = digits ∧ behind = rest := by
      cases behind with
      | nil => simp [readInteger, Stops]
      | cons c others => cases digit : c.isDigit <;> simp [readInteger, Stops, digit]
    rw [read]
    constructor
    · rintro ⟨stops, rfl, rfl⟩
      exact ⟨isZero, rfl, stops⟩
    · rintro ⟨isInteger, same, stops⟩
      obtain ⟨first, others, rfl, -⟩ := isInteger.run.exists_cons
      obtain ⟨rfl, rfl⟩ := List.cons.inj same
      obtain rfl := isInteger.leading _ rfl
      exact ⟨stops, rfl, rfl⟩
  · have read : readInteger source = readDigits source := by
      rw [readInteger]
      rintro behind rfl
      exact zero rfl
    rw [read, readDigits_iff]
    constructor
    · rintro ⟨run, rfl, stops⟩
      refine ⟨⟨run, ?_⟩, rfl, stops⟩
      rintro behind rfl
      exact absurd rfl zero
    · exact fun ⟨isInteger, same, stops⟩ => ⟨isInteger.run, same, stops⟩

section

variable {source text rest : List Char}

private theorem exists_writtenFraction {fraction : Option (List Char)}
    (read : readFraction source = some (fraction, rest)) :
    ∃ text, WrittenFraction fraction text ∧ source = text ++ rest := by
  unfold readFraction at read
  split at read
  next behind =>
    obtain ⟨⟨digits, left⟩, found, same⟩ := Option.map_eq_some_iff.mp read
    obtain ⟨rfl, rfl⟩ := Prod.mk.inj same
    obtain ⟨run, rfl, -⟩ := readDigits_iff.mp found
    exact ⟨_, .some run, rfl⟩
  next =>
    obtain ⟨rfl, rfl⟩ := Prod.mk.inj (Option.some.inj read)
    exact ⟨[], .none, rfl⟩

private theorem exists_writtenExponent {exponent : Option (Bool × List Char)}
    (read : readExponent source = some (exponent, rest)) :
    ∃ text, WrittenExponent exponent text ∧ source = text ++ rest := by
  have finish {mark : Char} {negative : Bool} {sign behind : List Char}
      (isMark : mark = 'e' ∨ mark = 'E') (signed : WrittenSign negative sign)
      (read : (readDigits behind).map (fun found => (some (negative, found.1), found.2)) =
        some (exponent, rest)) :
      ∃ text, WrittenExponent exponent text ∧ mark :: (sign ++ behind) = text ++ rest := by
    obtain ⟨⟨digits, left⟩, found, same⟩ := Option.map_eq_some_iff.mp read
    obtain ⟨rfl, rfl⟩ := Prod.mk.inj same
    obtain ⟨run, rfl, -⟩ := readDigits_iff.mp found
    exact ⟨_, .some isMark signed run, by simp⟩
  unfold readExponent at read
  split at read
  next =>
    dsimp only at read
    split at read
    · exact finish (.inl rfl) .minus read
    · exact finish (.inl rfl) .plus read
    · exact finish (.inl rfl) .none read
  next =>
    dsimp only at read
    split at read
    · exact finish (.inr rfl) .minus read
    · exact finish (.inr rfl) .plus read
    · exact finish (.inr rfl) .none read
  next =>
    obtain ⟨rfl, rfl⟩ := Prod.mk.inj (Option.some.inj read)
    exact ⟨[], .none, rfl⟩

/-- What is read from the front of a text is a number. -/
theorem exists_writtenNumber {syn : NumberSyntax}
    (read : readNumberSyntax source = some (syn, rest)) :
    ∃ text, WrittenNumber syn text ∧ source = text ++ rest := by
  have unsigned {negative : Bool} {source : List Char}
      (read : ((readInteger source).bind fun integer =>
        (readFraction integer.2).bind fun fraction => (readExponent fraction.2).bind fun exponent =>
          some (NumberSyntax.mk negative integer.1 fraction.1 exponent.1, exponent.2)) =
        some (syn, rest)) :
      ∃ text, WrittenNumber syn text ∧
        (if negative then ['-'] else []) ++ source = text ++ rest := by
    obtain ⟨⟨integer, behind⟩, readInteger, read⟩ := Option.bind_eq_some_iff.mp read
    obtain ⟨⟨fraction, others⟩, readFraction, read⟩ := Option.bind_eq_some_iff.mp read
    obtain ⟨⟨exponent, left⟩, readExponent, same⟩ := Option.bind_eq_some_iff.mp read
    obtain ⟨rfl, rfl⟩ := Prod.mk.inj (Option.some.inj same)
    obtain ⟨isInteger, rfl, -⟩ := readInteger_iff.mp readInteger
    obtain ⟨point, pointed, rfl⟩ := exists_writtenFraction readFraction
    obtain ⟨scale, scaled, rfl⟩ := exists_writtenExponent readExponent
    exact ⟨_, .mk negative isInteger pointed scaled, by simp⟩
  unfold readNumberSyntax at read
  dsimp only at read
  split at read
  · exact unsigned read
  · exact unsigned read

end

/-! ## Delimiters -/

/-- Blanks, commas and the characters that close arrays and objects. -/
def isDelimiter (c : Char) : Bool :=
  isSpace c || [',', ']', '\x7d'].contains c

/-- The text is empty or begins with a delimiter, so it does not go on with a number. -/
def Delimited (text : List Char) : Prop :=
  ∀ c ∈ text.head?, isDelimiter c = true

theorem delimited_nil : Delimited [] := by simp [Delimited]

theorem delimited_cons {c : Char} {rest : List Char} (delimiter : isDelimiter c = true) :
    Delimited (c :: rest) := by
  simpa [Delimited] using delimiter

private theorem eq_of_isDelimiter {c : Char} (delimiter : isDelimiter c = true) :
    c = ' ' ∨ c = '\n' ∨ c = '\t' ∨ c = '\r' ∨ c = ',' ∨ c = ']' ∨ c = '\x7d' := by
  simpa [isDelimiter, isSpace, or_assoc] using delimiter

/-- A delimiter does not go on with a number. -/
private theorem Delimited.stops {rest : List Char} (delimited : Delimited rest) :
    Stops Char.isDigit rest ∧ ∀ behind,
      rest ≠ '.' :: behind ∧ rest ≠ 'e' :: behind ∧ rest ≠ 'E' :: behind := by
  constructor
  · intro c first
    obtain rfl | rfl | rfl | rfl | rfl | rfl | rfl := eq_of_isDelimiter (delimited c first) <;> rfl
  · refine fun behind => ⟨?_, ?_, ?_⟩ <;>
      (rintro rfl; exact absurd (delimited _ rfl) (by decide))

/-! ## Numbers are read back -/

section

variable {text rest : List Char}

private theorem readFraction_append {fraction : Option (List Char)}
    (written : WrittenFraction fraction text) (stops : Stops Char.isDigit rest)
    (notPoint : ∀ behind, rest ≠ '.' :: behind) :
    readFraction (text ++ rest) = some (fraction, rest) := by
  cases written with
  | none =>
    rw [List.nil_append, readFraction]
    exact notPoint
  | some run =>
    rw [List.cons_append, readFraction, readDigits_iff.mpr ⟨run, rfl, stops⟩]
    rfl

private theorem readExponent_append {exponent : Option (Bool × List Char)}
    (written : WrittenExponent exponent text) (stops : Stops Char.isDigit rest)
    (notMark : ∀ behind, rest ≠ 'e' :: behind ∧ rest ≠ 'E' :: behind) :
    readExponent (text ++ rest) = some (exponent, rest) := by
  cases written with
  | none =>
    rw [List.nil_append, readExponent]
    · exact fun behind => (notMark behind).1
    · exact fun behind => (notMark behind).2
  | @some mark negative sign digits isMark signed run =>
    have found := readDigits_iff.mpr ⟨run, rfl, stops⟩
    obtain ⟨first, others, rfl, digit⟩ := run.exists_cons
    have notSign : first ≠ '-' ∧ first ≠ '+' := by
      constructor <;> (rintro rfl; exact absurd digit (by decide))
    obtain rfl | rfl := isMark <;> cases signed <;>
      simp_all [readExponent]

private theorem WrittenExponent.stops {exponent : Option (Bool × List Char)}
    (written : WrittenExponent exponent text) (delimited : Delimited rest) :
    Stops Char.isDigit (text ++ rest) ∧ ∀ behind, text ++ rest ≠ '.' :: behind := by
  cases written with
  | none => exact ⟨delimited.stops.1, fun behind => (delimited.stops.2 behind).1⟩
  | some isMark signed run =>
    obtain rfl | rfl := isMark <;> exact ⟨fun c first => by cases first; rfl, nofun⟩

private theorem WrittenFraction.stops {fraction : Option (List Char)}
    (written : WrittenFraction fraction text) (stops : Stops Char.isDigit rest) :
    Stops Char.isDigit (text ++ rest) := by
  cases written with
  | none => exact stops
  | some run => exact fun c first => by cases first; rfl

/-- A number is read in front of any delimiter. -/
theorem WrittenNumber.read {syn : NumberSyntax} (written : WrittenNumber syn text)
    (delimited : Delimited rest) : readNumberSyntax (text ++ rest) = some (syn, rest) := by
  obtain @⟨negative, integer, behind, scale, fraction, exponent, isInteger, pointed, scaled⟩ :=
    written
  obtain ⟨stops, notMark⟩ := delimited.stops
  obtain ⟨stopsScale, notPoint⟩ := scaled.stops delimited
  have readInteger := readInteger_iff.mpr ⟨isInteger, rfl, pointed.stops stopsScale⟩
  have readFraction := readFraction_append pointed stopsScale notPoint
  have readExponent := readExponent_append scaled stops fun behind => (notMark behind).2
  have unsigned : ∀ others, integer ++ (behind ++ (scale ++ rest)) ≠ '-' :: others := by
    obtain ⟨first, others, rfl, digit⟩ := isInteger.run.exists_cons
    rintro _ same
    obtain ⟨rfl, -⟩ := List.cons.inj same
    exact absurd digit (by decide)
  -- By `unsigned`, a number without a minus sign is not read as one with it.
  cases negative <;>
    simp [readNumberSyntax, readInteger, readFraction, readExponent]

/-- A number begins with a digit or a minus sign. -/
theorem WrittenNumber.start {syn : NumberSyntax} (written : WrittenNumber syn text) :
    ∃ c others, text = c :: others ∧ (c.isDigit = true ∨ c = '-') := by
  obtain @⟨negative, integer, behind, scale, fraction, exponent, isInteger, -, -⟩ := written
  obtain ⟨first, others, rfl, digit⟩ := isInteger.run.exists_cons
  cases negative with
  | true => exact ⟨'-', _, rfl, .inr rfl⟩
  | false => exact ⟨first, _, rfl, .inl digit⟩

theorem isDelimiter_of_numeral {c : Char} (numeral : c.isDigit = true ∨ c = '-') :
    isDelimiter c = false := by
  obtain digit | rfl := numeral
  · refine Bool.eq_false_iff.mpr fun delimiter => ?_
    obtain rfl | rfl | rfl | rfl | rfl | rfl | rfl := eq_of_isDelimiter delimiter <;>
      exact absurd digit (by decide)
  · rfl

end

/-! ## Whole numbers -/

/-- The digits of a number lead no zero. -/
theorem isInteger_digitsOf (n : Nat) : IsInteger (digitsOf n) := by
  refine ⟨⟨digitsOf_ne_nil n, fun c => isDigit_of_mem_digitsOf⟩, fun rest shape => ?_⟩
  obtain rfl | positive := Nat.eq_zero_or_pos n
  · exact (List.cons.inj ((Nat.toDigits_zero 10).symm.trans shape)).2.symm
  · exact absurd (by rw [shape]; rfl) (head?_digitsOf positive)

private theorem digitsOf_digitValue {c : Char} (digit : c.isDigit = true) :
    digitValue c < 10 ∧ digitsOf (digitValue c) = [c] := by
  have bounds := bounds_of_isDigit digit
  have small : digitValue c < 10 := by
    rw [digitValue]
    omega
  refine ⟨small, ?_⟩
  have same : Nat.digitChar (digitValue c) = c := by
    apply Char.toNat_inj.mp
    rw [Nat.toNat_digitChar_of_lt_ten small, digitValue]
    omega
  rw [digitsOf, Nat.toDigits_of_lt_base small, same]

/-- The digits of a whole number are determined by it. -/
theorem digitsOf_natOfDigits {digits : List Char} (isInteger : IsInteger digits) :
    digitsOf (natOfDigits digits) = digits := by
  induction digits using List.reverseRecOn with
  | nil => exact absurd rfl isInteger.run.1
  | append_singleton front last ih =>
    obtain ⟨before, isLast⟩ := List.forall_mem_append.mp isInteger.run.2
    obtain ⟨small, last'⟩ := digitsOf_digitValue (isLast last List.mem_cons_self)
    have value : natOfDigits (front ++ [last]) = 10 * natOfDigits front + digitValue last := by
      rw [natOfDigits, List.foldl_append, Nat.mul_comm]
      rfl
    rw [value]
    by_cases alone : front = []
    · subst alone
      rw [show 10 * natOfDigits [] + digitValue last = digitValue last from Nat.zero_add _]
      exact last'
    have notZero : ∀ rest, front ≠ '0' :: rest := by
      rintro rest rfl
      exact absurd (isInteger.leading _ rfl) (by simp)
    have shape := ih ⟨⟨alone, before⟩, fun rest same => absurd same (notZero rest)⟩
    have positive : 0 < natOfDigits front := by
      refine Nat.pos_of_ne_zero fun zero => ?_
      rw [zero] at shape
      exact notZero [] (shape.symm.trans (Nat.toDigits_zero 10))
    rw [digitsOf, ← Nat.toDigits_append_toDigits (by omega) positive small, ← digitsOf, shape,
      ← digitsOf, last']

/-- The whole numbers that fit a 64-bit word, signed or not. -/
def IsWord (value : Int) : Prop :=
  -(Nat.pow 2 63 : Nat) ≤ value ∧ value ≤ maxWord

instance (value : Int) : Decidable (IsWord value) := inferInstanceAs (Decidable (_ ∧ _))

private theorem parts_whole {negative : Bool} {digits : List Char} {word : Nat} :
    NumberSyntax.parts ⟨negative, digits, none, none⟩ = (word, 0) ↔
      word = natOfDigits digits ∧ word ≤ maxWord := by
  rw [natOfDigits, foldl_eq_ofDigitChars, ← wordOf_eq_iff (Nat.zero_le _)]
  cases taken : wordOf 0 digits
  simp [NumberSyntax.parts, taken, wordOf]

/-- A number is whole if it has neither a fraction nor an exponent and fits a word; with a minus
sign it is neither zero nor less than the least. -/
private theorem value?_eq_whole_iff {syn : NumberSyntax} {value : Int} :
    syn.value? = some (.whole value) ↔ syn.fraction = none ∧ syn.exponent = none ∧
      natOfDigits syn.integer ≤ maxWord ∧
      if syn.negative then natOfDigits syn.integer ≠ 0 ∧ natOfDigits syn.integer ≤ Nat.pow 2 63 ∧
        value = -(natOfDigits syn.integer : Int)
      else value = natOfDigits syn.integer := by
  obtain ⟨negative, integer, fraction, exponent⟩ := syn
  constructor
  · intro read
    cases parts : NumberSyntax.parts ⟨negative, integer, fraction, exponent⟩ with
    | mk word power =>
    rw [NumberSyntax.value?, parts] at read
    dsimp only at read
    split at read
    next whole =>
      simp only [Bool.and_eq_true, Option.isNone_iff_eq_none, beq_iff_eq, Bool.not_eq_true']
        at whole
      obtain ⟨⟨⟨rfl, rfl⟩, rfl⟩, rfl⟩ := whole
      obtain ⟨rfl, fits⟩ := parts_whole.mp parts
      obtain rfl := JsonNumber.whole.inj (Option.some.inj read)
      exact ⟨rfl, rfl, fits, by simp⟩
    split at read
    next whole =>
      simp only [Bool.and_eq_true, Option.isNone_iff_eq_none, beq_iff_eq, decide_eq_true_eq]
        at whole
      obtain ⟨⟨⟨⟨⟨rfl, rfl⟩, rfl⟩, rfl⟩, nonzero⟩, least⟩ := whole
      obtain ⟨rfl, fits⟩ := parts_whole.mp parts
      obtain rfl := JsonNumber.whole.inj (Option.some.inj read)
      exact ⟨rfl, rfl, fits, by simpa using ⟨nonzero, least⟩⟩
    next =>
      obtain ⟨x, -, same⟩ := Option.map_eq_some_iff.mp read
      cases same
  · rintro ⟨rfl, rfl, fits, signed⟩
    have parts : NumberSyntax.parts ⟨negative, integer, none, none⟩ = (natOfDigits integer, 0) :=
      parts_whole.mpr ⟨rfl, fits⟩
    cases negative with
    | false => simpa [NumberSyntax.value?, parts, eq_comm (a := value)] using signed
    | true =>
      obtain ⟨nonzero, least, rfl⟩ : natOfDigits integer ≠ 0 ∧ natOfDigits integer ≤ Nat.pow 2 63 ∧
        value = -(natOfDigits integer : Int) := by simpa using signed
      rw [NumberSyntax.value?, parts]
      dsimp only
      simp [nonzero, least]

private theorem toList_toString_neg {n : Nat} (positive : 0 < n) :
    (toString (-(n : Int))).toList = '-' :: digitsOf n := by
  obtain ⟨less, rfl⟩ : ∃ less, n = less + 1 := ⟨n - 1, by omega⟩
  rw [show toString (-((less + 1 : Nat) : Int)) = "-" ++ toString (less + 1) from rfl,
    String.toList_append, toList_toString]
  rfl

/-- A whole number that fits a word is written in its digits, and in no other way. -/
theorem exists_writtenNumber_whole_iff {text : List Char} {value : Int} :
    (∃ syn, WrittenNumber syn text ∧ syn.value? = some (.whole value)) ↔
      IsWord value ∧ text = (toString value).toList := by
  constructor
  · rintro ⟨_, @⟨negative, integer, _, _, _, _, isInteger, pointed, scaled⟩, read⟩
    obtain ⟨rfl, rfl, fits, signed⟩ := value?_eq_whole_iff.mp read
    cases pointed
    cases scaled
    dsimp only at fits signed
    cases negative with
    | false =>
      obtain rfl : value = natOfDigits integer := signed
      refine ⟨⟨by omega, by omega⟩, ?_⟩
      rw [List.append_nil, List.append_nil]
      exact ((toList_toString _).trans (digitsOf_natOfDigits isInteger)).symm
    | true =>
      obtain ⟨nonzero, least, rfl⟩ : natOfDigits integer ≠ 0 ∧
        natOfDigits integer ≤ Nat.pow 2 63 ∧ value = -(natOfDigits integer : Int) := signed
      refine ⟨⟨by omega, by omega⟩, ?_⟩
      rw [toList_toString_neg (Nat.pos_of_ne_zero nonzero), digitsOf_natOfDigits isInteger]
      simp
  · rintro ⟨⟨least, greatest⟩, rfl⟩
    have written (negative : Bool) (n : Nat) : WrittenNumber ⟨negative, digitsOf n, none, none⟩
        ((if negative then ['-'] else []) ++ digitsOf n) := by
      simpa using WrittenNumber.mk negative (isInteger_digitsOf n) .none .none
    have shape : (∃ n : Nat, value = n) ∨ ∃ n : Nat, 0 < n ∧ value = -(n : Int) := by
      cases value with
      | ofNat n => exact .inl ⟨n, rfl⟩
      | negSucc n => exact .inr ⟨n + 1, n.succ_pos, rfl⟩
    obtain ⟨n, rfl⟩ | ⟨n, positive, rfl⟩ := shape
    · have text : (toString (n : Int)).toList = digitsOf n := toList_toString n
      refine ⟨⟨false, digitsOf n, none, none⟩, text ▸ written false n, value?_eq_whole_iff.mpr ?_⟩
      rw [natOfDigits_digitsOf]
      exact ⟨rfl, rfl, Int.ofNat_le.mp greatest, rfl⟩
    · have text : (toString (-(n : Int))).toList = '-' :: digitsOf n := toList_toString_neg positive
      have smaller : Nat.pow 2 63 ≤ maxWord := by decide
      refine ⟨⟨true, digitsOf n, none, none⟩, text ▸ written true n, value?_eq_whole_iff.mpr ?_⟩
      rw [natOfDigits_digitsOf]
      exact ⟨rfl, rfl, by omega, Nat.ne_of_gt positive, by omega, rfl⟩

end RequestChain.Json
