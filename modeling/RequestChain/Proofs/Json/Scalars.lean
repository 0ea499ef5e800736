import RequestChain.Context
import RequestChain.Proofs.Json.Numbers
import RequestChain.Proofs.Template.Composition

/-! # The texts of numbers and truth values

A number is written in digits, points, signs and the mark of an exponent. So neither numbers nor
truth values can hold anything that a reader of templates would take for more than plain text.
Nothing is said here about which number a text stands for.
-/

namespace RequestChain

open Template (Bare)

/-! ## Numbers -/

/-- The characters of numbers. -/
def isNumeral (c : Char) : Bool :=
  c.isDigit || ['.', '-', '+', 'e'].contains c

/-- A text in the characters of numbers. -/
def Numeric (text : List Char) : Prop :=
  ∀ c ∈ text, isNumeral c = true

instance (text : List Char) : Decidable (Numeric text) :=
  decidable_of_iff (text.all isNumeral = true) List.all_eq_true

namespace Numeric

theorem append {first second : List Char} (left : Numeric first) (right : Numeric second) :
    Numeric (first ++ second) := by
  intro c member
  cases List.mem_append.mp member with
  | inl before => exact left c before
  | inr behind => exact right c behind

theorem of_subset {text whole : List Char} (numeric : Numeric whole) (part : text ⊆ whole) :
    Numeric text :=
  fun c member => numeric c (part member)

theorem cons {c : Char} {rest : List Char} (first : isNumeral c = true) (others : Numeric rest) :
    Numeric (c :: rest) :=
  List.forall_mem_cons.mpr ⟨first, others⟩

theorem replicate_zero (count : Nat) : Numeric (List.replicate count '0') := by
  intro c member
  rw [List.eq_of_mem_replicate member]
  rfl

/-- Numbers hold no braces and no backslashes. -/
theorem bare {text : List Char} (numeric : Numeric text) : Bare text := by
  refine ⟨fun backslash => ?_, fun brace => ?_⟩
  · exact absurd (numeric _ backslash) (by decide)
  · exact absurd (numeric _ brace) (by decide)

end Numeric

namespace Decimal

private theorem numeric_digitsOf (n : Nat) : Numeric (digitsOf n) := by
  intro c member
  rw [isNumeral, Json.isDigit_of_mem_digitsOf member, Bool.true_or]

private theorem numeric_toString (n : Nat) : Numeric (toString n).toList := by
  rw [Json.toList_toString]
  exact numeric_digitsOf n

private theorem dropTrailingZeros_subset (digits : List Char) :
    dropTrailingZeros digits ⊆ digits := by
  intro c member
  rw [dropTrailingZeros, List.mem_reverse] at member
  exact List.mem_reverse.mp ((List.dropWhile_sublist _).subset member)

private theorem numeric_significant (x : Binary64) : Numeric x.significant.digits := by
  unfold Binary64.significant
  split
  · decide
  · exact (numeric_digitsOf _).of_subset (dropTrailingZeros_subset _)

variable {s : Significant}

private theorem numeric_positional (digits : Numeric s.digits) {wholeSuffix : String}
    (suffix : Numeric wholeSuffix.toList) : Numeric (s.positional wholeSuffix).toList := by
  simp only [Significant.positional]
  split
  · have ahead : Numeric (s.digits.take (s.power.toNat + 1) ++
        List.replicate (s.power.toNat + 1 - s.digits.length) '0') :=
      (digits.of_subset (List.take_subset _ _)).append (.replicate_zero _)
    split
    · rw [String.toList_append, String.toList_ofList]
      exact ahead.append suffix
    · have fraction := digits.of_subset (List.drop_subset (s.power.toNat + 1) _)
      simp only [String.toList_append, String.toList_ofList]
      exact (ahead.append (by decide)).append fraction
  · rw [String.toList_append, String.toList_ofList (l := List.replicate _ '0' ++ s.digits)]
    exact Numeric.append (by decide) ((Numeric.replicate_zero _).append digits)

private theorem numeric_scientific (digits : Numeric s.digits) {exponentPlus : String}
    (plus : Numeric exponentPlus.toList) : Numeric (s.scientific exponentPlus).toList := by
  simp only [Significant.scientific, String.toList_append]
  refine (Numeric.append ?_ (by decide)).append ?_
  · split
    · decide
    · rename_i digit single
      rw [String.toList_ofList, ← single]
      exact digits
    · rename_i digit rest several
      rw [several] at digits
      obtain ⟨first, others⟩ := List.forall_mem_cons.mp digits
      rw [String.toList_ofList]
      exact .cons first (.cons rfl others)
  · split
    · rw [String.toList_append]
      exact plus.append (numeric_toString _)
    · rw [String.toList_append]
      exact Numeric.append (by decide) (numeric_toString _)

/-- A number with a fraction is written in the characters of numbers. -/
theorem numeric_format (x : Binary64) {format : NumberFormat}
    (suffix : Numeric format.wholeSuffix.toList) (plus : Numeric format.exponentPlus.toList) :
    Numeric (x.format format).toList := by
  have digits := numeric_significant x
  have magnitude : Numeric (if format.leastPositional ≤ x.significant.power ∧
      x.significant.power ≤ format.greatestPositional then
        x.significant.positional format.wholeSuffix
      else x.significant.scientific format.exponentPlus).toList := by
    split
    · exact numeric_positional digits suffix
    · exact numeric_scientific digits plus
  simp only [Binary64.format]
  split
  · rw [String.toList_append]
    exact Numeric.append (by decide) magnitude
  · exact magnitude

end Decimal

/-! ## Scalars -/

namespace Json

theorem numeric_numberText (number : JsonNumber) : Numeric (numberText number).toList := by
  cases number with
  | whole value =>
    rw [numberText]
    cases value with
    | ofNat n => exact Decimal.numeric_toString n
    | negSucc n =>
      rw [show toString (Int.negSucc n) = "-" ++ toString (n + 1) from rfl, String.toList_append]
      exact Numeric.append (by decide) (Decimal.numeric_toString _)
  | real value => exact Decimal.numeric_format value (by decide) (by decide)

/-- Values that are neither arrays nor objects. -/
def isScalar : Json → Bool
  | .array _ | .object _ => false
  | .null | .bool _ | .number _ | .string _ => true

/-- The text of a scalar is that of a string, or is bare. -/
theorem renderScalar_of_isScalar {value : Json} {text : String} (scalar : value.isScalar = true)
    (rendered : renderScalar value = some text) : value = .string text ∨ Bare text.toList := by
  cases value with
  | null => cases rendered
  | bool value =>
    cases rendered
    cases value with
    | true => exact .inr (by decide)
    | false => exact .inr (by decide)
  | number value =>
    cases rendered
    exact .inr (numeric_numberText value).bare
  | string value =>
    cases rendered
    exact .inl rfl
  | array items => cases scalar
  | object fields => cases scalar

end Json

end RequestChain
