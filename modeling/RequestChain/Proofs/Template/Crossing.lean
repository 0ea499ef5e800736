import RequestChain.Proofs.Template.Nesting
import RequestChain.Proofs.Template.Scanning

/-! # Getting over a text

A scan gets over a text from one place to another if it takes the text as a whole and goes on at the
other place, whatever stands behind. For the end of a placeholder a place is a depth and a quotation
mark, for arguments also a number of open parentheses. Texts in a row are got over one by one, so
what a scan does with a written text is put together from what it does with its parts.
-/

namespace RequestChain.Template

open Text

/-! ## Braces and parentheses -/

section Steps

variable {depth braces parentheses : Nat} {c : Char} {rest : List Char}

theorem splitPlaceholder_open :
    splitPlaceholder depth none ('{' :: '{' :: rest) =
      prependFirst ['{', '{'] (splitPlaceholder (depth + 1) none rest) := by
  rw [splitPlaceholder.eq_def]
  simp

theorem splitPlaceholder_closeNested :
    splitPlaceholder (depth + 1) none ('}' :: '}' :: rest) =
      prependFirst ['}', '}'] (splitPlaceholder depth none rest) := by
  rw [splitPlaceholder.eq_def]
  simp

theorem splitArguments_open :
    splitArguments braces parentheses none ('{' :: '{' :: rest) =
      (splitArguments (braces + 1) parentheses none rest).map
        fun parts => consFirst '{' (consFirst '{' parts) := by
  rw [splitArguments.eq_def]
  simp

theorem splitArguments_close :
    splitArguments (braces + 1) parentheses none ('}' :: '}' :: rest) =
      (splitArguments braces parentheses none rest).map
        fun parts => consFirst '}' (consFirst '}' parts) := by
  rw [splitArguments.eq_def]
  simp

theorem splitArguments_openParenthesis :
    splitArguments braces parentheses none ('(' :: rest) =
      (splitArguments braces (parentheses + 1) none rest).map (consFirst '(') := by
  rw [splitArguments.eq_def]
  simp

theorem splitArguments_closeParenthesis :
    splitArguments braces parentheses none (')' :: rest) =
      (splitArguments braces (parentheses - 1) none rest).map (consFirst ')') := by
  rw [splitArguments.eq_def]
  simp

/-- A comma inside braces or parentheses is part of its argument. -/
theorem splitArguments_innerComma (inside : ¬ (braces = 0 ∧ parentheses = 0)) :
    splitArguments braces parentheses none (',' :: rest) =
      (splitArguments braces parentheses none rest).map (consFirst ',') := by
  rw [splitArguments.eq_def]
  simp [inside]

theorem splitArguments_plain (notMark : ¬ (c = '"' ∨ c = '\'')) (notOpening : c ≠ '{')
    (notClosing : c ≠ '}') (notOpen : c ≠ '(') (notClose : c ≠ ')') (notComma : c ≠ ',') :
    splitArguments braces parentheses none (c :: rest) =
      (splitArguments braces parentheses none rest).map (consFirst c) := by
  rw [splitArguments.eq_def]
  simp [notMark, notOpening, notClosing]

end Steps

variable {text : List Char}

theorem Unmarked.quotable (unmarked : Unmarked text) : ∀ c ∈ text, c ≠ '"' ∧ c ≠ '\\' := by
  intro c member
  obtain ⟨unscanned, notBackslash⟩ := unmarked c member
  constructor
  · rintro rfl
    cases unscanned
  · exact notBackslash

/-! ## The end of a placeholder -/

/-- The scan for the end of a placeholder gets over a text, from one depth and quotation mark to
another. -/
def Crosses (start : Nat × Option Char) (text : List Char) (stop : Nat × Option Char) : Prop :=
  ∀ rest, splitPlaceholder start.1 start.2 (text ++ rest) =
    prependFirst text (splitPlaceholder stop.1 stop.2 rest)

namespace Crosses

variable {start middle stop : Nat × Option Char} (depth : Nat)

theorem trans {front back : List Char} (first : Crosses start front middle)
    (second : Crosses middle back stop) : Crosses start (front ++ back) stop := by
  intro rest
  rw [List.append_assoc, first, second, prependFirst_prependFirst]

theorem outside (unmarked : Unmarked text) : Crosses (depth, none) text (depth, none) :=
  splitPlaceholder_of_plain (fun c member => (unmarked c member).1) depth

theorem inside (quotable : ∀ c ∈ text, c ≠ '"' ∧ c ≠ '\\') :
    Crosses (depth, some '"') text (depth, some '"') := by
  intro rest
  induction text with
  | nil => simp [prependFirst]
  | cons c others ih =>
    obtain ⟨⟨notMark, notBackslash⟩, tail⟩ := List.forall_mem_cons.mp quotable
    rw [List.cons_append, splitPlaceholder_inside notBackslash, if_neg notMark]
    exact (congrArg _ (ih tail)).trans (prependFirst_prependFirst [c] others _)

theorem mark : Crosses (depth, none) ['"'] (depth, some '"') := fun _ =>
  splitPlaceholder_quote (.inl rfl)

theorem unmark : Crosses (depth, some '"') ['"'] (depth, none) := fun _ =>
  splitPlaceholder_inside (by decide)

theorem braced : Crosses (depth, none) ['{', '{'] (depth + 1, none) := fun _ =>
  splitPlaceholder_open

theorem unbraced : Crosses (depth + 1, none) ['}', '}'] (depth, none) := fun _ =>
  splitPlaceholder_closeNested

end Crosses

/-! ## Arguments -/

/-- Whether a comma stands outside the parentheses of a text. `parentheses` counts those that are
open; one that closes none counts for nothing. -/
def hasOpenComma (parentheses : Nat) : List Char → Bool
  | [] => false
  | '(' :: rest => hasOpenComma (parentheses + 1) rest
  | ')' :: rest => hasOpenComma (parentheses - 1) rest
  | ',' :: rest => parentheses == 0 || hasOpenComma parentheses rest
  | _ :: rest => hasOpenComma parentheses rest

/-- Where the scan for arguments is: how many braces and parentheses are open, and which mark. -/
structure Place where
  braces : Nat
  parentheses : Nat
  quote : Option Char

/-- The scan for arguments gets over a text from one place to another, and all of the text is part
of one argument. -/
def Collects (start : Place) (text : List Char) (stop : Place) : Prop :=
  ∀ rest, splitArguments start.braces start.parentheses start.quote (text ++ rest) =
    (splitArguments stop.braces stop.parentheses stop.quote rest).map (text.foldr consFirst)

namespace Collects

variable {start middle stop : Place} {braces parentheses : Nat}

theorem trans {front back : List Char} (first : Collects start front middle)
    (second : Collects middle back stop) : Collects start (front ++ back) stop := by
  intro rest
  rw [List.append_assoc, first, second, Option.map_map]
  congr 1
  funext parts
  exact List.foldr_append.symm

theorem cons {c : Char} {rest : List Char} (first : Collects start [c] middle)
    (others : Collects middle rest stop) : Collects start (c :: rest) stop :=
  first.trans others

theorem refl (place : Place) : Collects place [] place := by
  intro rest
  simp

theorem inside (quotable : ∀ c ∈ text, c ≠ '"' ∧ c ≠ '\\') :
    Collects ⟨braces, parentheses, some '"'⟩ text ⟨braces, parentheses, some '"'⟩ := by
  induction text with
  | nil => exact refl _
  | cons c others ih =>
    obtain ⟨⟨notMark, notBackslash⟩, tail⟩ := List.forall_mem_cons.mp quotable
    refine cons (fun rest => ?_) (ih tail)
    exact (splitArguments_inside notBackslash).trans (by rw [if_neg notMark]; rfl)

theorem mark : Collects ⟨braces, parentheses, none⟩ ['"'] ⟨braces, parentheses, some '"'⟩ :=
  fun _ => splitArguments_quote (.inl rfl)

theorem unmark : Collects ⟨braces, parentheses, some '"'⟩ ['"'] ⟨braces, parentheses, none⟩ :=
  fun _ => splitArguments_inside (by decide)

theorem braced : Collects ⟨braces, parentheses, none⟩ ['{', '{'] ⟨braces + 1, parentheses, none⟩ :=
  fun _ => splitArguments_open

theorem unbraced :
    Collects ⟨braces + 1, parentheses, none⟩ ['}', '}'] ⟨braces, parentheses, none⟩ :=
  fun _ => splitArguments_close

end Collects

/-- The scan for arguments is behind a text where it was before, but for parentheses. -/
def Passes (braces parentheses : Nat) (quote : Option Char) (text : List Char) : Prop :=
  ∃ after, Collects ⟨braces, parentheses, quote⟩ text ⟨braces, after, quote⟩

/-- Outside quotation marks, a text is part of one argument if it has no open comma or if braces are
open. -/
theorem Passes.outside {braces parentheses : Nat} (unmarked : Unmarked text)
    (whole : 0 < braces ∨ hasOpenComma parentheses text = false) :
    Passes braces parentheses none text := by
  induction text generalizing parentheses with
  | nil => exact ⟨parentheses, .refl _⟩
  | cons c others ih =>
    obtain ⟨⟨unscanned, -⟩, tail⟩ := List.forall_mem_cons.mp unmarked
    have next {parentheses' : Nat}
        (first : Collects ⟨braces, parentheses, none⟩ [c] ⟨braces, parentheses', none⟩)
        (whole : 0 < braces ∨ hasOpenComma parentheses' others = false) :
        Passes braces parentheses none (c :: others) := by
      obtain ⟨after, rest⟩ := ih tail whole
      exact ⟨after, first.cons rest⟩
    by_cases opening : c = '('
    · subst opening
      exact next (fun _ => splitArguments_openParenthesis) (by simpa [hasOpenComma] using whole)
    by_cases closing : c = ')'
    · subst closing
      exact next (fun _ => splitArguments_closeParenthesis) (by simpa [hasOpenComma] using whole)
    by_cases comma : c = ','
    · subst comma
      have inner : ¬ (braces = 0 ∧ parentheses = 0) := by
        rintro ⟨rfl, rfl⟩
        simp [hasOpenComma] at whole
      apply next fun _ => splitArguments_innerComma inner
      simp only [hasOpenComma, Bool.or_eq_false_iff] at whole
      exact whole.imp_right And.right
    · obtain ⟨notMark, notOpening, notClosing⟩ := isScanned_eq_false_iff.mp unscanned
      apply next fun _ => splitArguments_plain notMark notOpening notClosing opening closing comma
      rwa [hasOpenComma] at whole
      · exact opening
      · exact closing
      · exact comma

/-! ## How many arguments there are -/

theorem consFirst_ne_nil (c : Char) (parts : List (List Char)) : consFirst c parts ≠ [] := by
  cases parts <;> exact List.cons_ne_nil _ _

theorem length_foldr_consFirst {parts : List (List Char)} (nonempty : parts ≠ [])
    (text : List Char) : (text.foldr consFirst parts).length = parts.length := by
  obtain ⟨first, others, rfl⟩ := List.exists_cons_of_ne_nil nonempty
  rw [foldr_consFirst]
  rfl

/-- There is at least one argument, be it empty. -/
theorem splitArguments_ne_nil {braces parentheses : Nat} {quote : Option Char}
    {source : List Char} {parts : List (List Char)}
    (split : splitArguments braces parentheses quote source = some parts) : parts ≠ [] := by
  have collected {parts? : Option (List (List Char))}
      {collect : List (List Char) → List (List Char)} (never : ∀ parts, collect parts ≠ [])
      (split : parts?.map collect = some parts) : parts ≠ [] := by
    obtain ⟨others, -, rfl⟩ := Option.map_eq_some_iff.mp split
    exact never others
  revert split
  fun_cases splitArguments braces parentheses quote source with
  | case1 => rintro ⟨⟩; exact List.cons_ne_nil _ _
  | case2 => rintro ⟨⟩
  | case3 => rintro ⟨⟩
  | case12 => exact collected fun _ => List.cons_ne_nil _ _
  | _ => exact collected fun _ => consFirst_ne_nil _ _

/-- An open comma separates arguments, whatever stands behind the text. -/
theorem two_le_length_of_hasOpenComma {parentheses : Nat} {rest : List Char}
    {parts : List (List Char)} (unmarked : Unmarked text)
    (comma : hasOpenComma parentheses text = true)
    (split : splitArguments 0 parentheses none (text ++ rest) = some parts) :
    2 ≤ parts.length := by
  have behind {c : Char} {parentheses' : Nat} {others : List Char} {parts : List (List Char)}
      (split : (splitArguments 0 parentheses' none (others ++ rest)).map (consFirst c) = some parts)
      (later : ∀ {parts}, splitArguments 0 parentheses' none (others ++ rest) = some parts →
        2 ≤ parts.length) : 2 ≤ parts.length := by
    obtain ⟨others, found, rfl⟩ := Option.map_eq_some_iff.mp split
    have length := length_foldr_consFirst (splitArguments_ne_nil found) [c]
    exact Nat.le_trans (later found) (Nat.le_of_eq length.symm)
  fun_induction hasOpenComma parentheses text generalizing parts with
  | case1 => cases comma
  | case2 parentheses others ih =>
    obtain ⟨-, tail⟩ := List.forall_mem_cons.mp unmarked
    rw [List.cons_append, splitArguments_openParenthesis] at split
    exact behind split (ih tail comma)
  | case3 parentheses others ih =>
    obtain ⟨-, tail⟩ := List.forall_mem_cons.mp unmarked
    rw [List.cons_append, splitArguments_closeParenthesis] at split
    exact behind split (ih tail comma)
  | case4 parentheses others ih =>
    obtain ⟨-, tail⟩ := List.forall_mem_cons.mp unmarked
    rw [List.cons_append] at split
    by_cases outside : parentheses = 0
    · subst outside
      rw [splitArguments_comma] at split
      obtain ⟨others, found, rfl⟩ := Option.map_eq_some_iff.mp split
      have positive := List.length_pos_iff.mpr (splitArguments_ne_nil found)
      rw [List.length_cons]
      omega
    · rw [splitArguments_innerComma (by omega)] at split
      exact behind split (ih tail (by simpa [outside] using comma))
  | case5 parentheses c others opening closing comma' ih =>
    obtain ⟨⟨unscanned, -⟩, tail⟩ := List.forall_mem_cons.mp unmarked
    obtain ⟨notMark, notOpening, notClosing⟩ := isScanned_eq_false_iff.mp unscanned
    rw [List.cons_append, splitArguments_plain notMark notOpening notClosing opening closing
      comma'] at split
    exact behind split (ih tail comma)

end RequestChain.Template
