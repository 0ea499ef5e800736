import Mathlib.Data.List.TakeWhile
import RequestChain.Text.Blank
import RequestChain.Text.FormEncoding

/-! # Texts cut at a character

A text is cut at the first place where a character stands. What is cut off behind it may hold the
character again, and a text without the character is not cut. A run of characters of one class is
cut off where it ends. Trimming cuts off the blanks at both ends and nothing else.
-/

namespace RequestChain.Text

variable {stop : Char} {text : List Char}

private theorem ne_of_not_mem (absent : stop ∉ text) : ∀ c ∈ text, decide (c ≠ stop) = true :=
  fun _ member => decide_eq_true (ne_of_mem_of_not_mem member absent)

theorem takeWhile_ne_append (absent : stop ∉ text) (rest : List Char) :
    (text ++ stop :: rest).takeWhile (· ≠ stop) = text := by
  rw [List.takeWhile_append_of_pos (ne_of_not_mem absent), List.takeWhile_cons_of_neg (by simp),
    List.append_nil]

theorem dropWhile_ne_append (absent : stop ∉ text) (rest : List Char) :
    (text ++ stop :: rest).dropWhile (· ≠ stop) = stop :: rest := by
  rw [List.dropWhile_append_of_pos (ne_of_not_mem absent), List.dropWhile_cons_of_neg (by simp)]

theorem takeWhile_ne_of_not_mem (absent : stop ∉ text) : text.takeWhile (· ≠ stop) = text :=
  List.takeWhile_eq_self_iff.mpr (ne_of_not_mem absent)

theorem dropWhile_ne_of_not_mem (absent : stop ∉ text) : text.dropWhile (· ≠ stop) = [] :=
  List.dropWhile_eq_nil_iff.mpr (ne_of_not_mem absent)

theorem splitAtFirst_append (absent : stop ∉ text) (rest : List Char) :
    splitAtFirst stop (text ++ stop :: rest) = (text, rest) := by
  rw [splitAtFirst, takeWhile_ne_append absent, dropWhile_ne_append absent, List.drop_one,
    List.tail_cons]

theorem splitAtFirst_of_not_mem (absent : stop ∉ text) : splitAtFirst stop text = (text, []) := by
  rw [splitAtFirst, takeWhile_ne_of_not_mem absent, dropWhile_ne_of_not_mem absent, List.drop_nil]

/-! ## Runs -/

/-- At least one character, and all of them of a class. -/
def IsRun (inside : Char → Bool) (text : List Char) : Prop :=
  text ≠ [] ∧ ∀ c ∈ text, inside c = true

/-- A text that does not go on with characters of a class. -/
def Stops (inside : Char → Bool) (rest : List Char) : Prop :=
  ∀ c ∈ rest.head?, inside c = false

section

variable {inside : Char → Bool} {rest : List Char}

theorem IsRun.exists_cons (run : IsRun inside text) :
    ∃ c others, text = c :: others ∧ inside c = true := by
  obtain ⟨nonempty, all⟩ := run
  obtain ⟨c, others, rfl⟩ := List.exists_cons_of_ne_nil nonempty
  exact ⟨c, others, rfl, all c List.mem_cons_self⟩

theorem takeWhile_append_of_stops (all : ∀ c ∈ text, inside c = true) (stops : Stops inside rest) :
    (text ++ rest).takeWhile inside = text := by
  rw [List.takeWhile_append_of_pos all]
  cases rest with
  | nil => simp
  | cons c behind => rw [List.takeWhile_cons_of_neg (by simp [stops c rfl]), List.append_nil]

theorem dropWhile_append_of_stops (all : ∀ c ∈ text, inside c = true) (stops : Stops inside rest) :
    (text ++ rest).dropWhile inside = rest := by
  rw [List.dropWhile_append_of_pos all]
  cases rest with
  | nil => rfl
  | cons c behind => rw [List.dropWhile_cons_of_neg (by simp [stops c rfl])]

theorem stops_dropWhile (text : List Char) : Stops inside (text.dropWhile inside) := by
  intro c first
  have stop := List.head?_dropWhile_not inside text
  rw [Option.mem_def.mp first] at stop
  exact stop

end

/-! ## Blanks at the ends -/

/-- What trimming cuts off is blank. -/
theorem exists_trimEnd (text : List Char) :
    ∃ after, text = trimEnd text ++ after ∧ ∀ c ∈ after, isBlank c = true := by
  refine ⟨(text.reverse.takeWhile isBlank).reverse, ?_, ?_⟩
  · rw [trimEnd, trimRight, ← List.reverse_append, List.takeWhile_append_dropWhile,
      List.reverse_reverse]
  · intro c member
    exact List.mem_takeWhile_imp (List.mem_reverse.mp member)

theorem exists_trim (text : List Char) :
    ∃ before after, text = before ++ trim text ++ after ∧
      (∀ c ∈ before, isBlank c = true) ∧ ∀ c ∈ after, isBlank c = true := by
  obtain ⟨after, stop, afterBlank⟩ := exists_trimEnd text
  have start : trimEnd text = (trimEnd text).takeWhile isBlank ++ trim text :=
    List.takeWhile_append_dropWhile.symm
  refine ⟨(trimEnd text).takeWhile isBlank, after, ?_, ?_, afterBlank⟩
  · rw [← start, ← stop]
  · exact fun c => List.mem_takeWhile_imp

/-- What is left begins and ends with a character that is not blank. -/
theorem head?_trim {c : Char} (first : (trim text).head? = some c) : isBlank c = false :=
  stops_dropWhile (trimEnd text) c first

theorem getLast?_trimEnd {c : Char} (last : (trimEnd text).getLast? = some c) :
    isBlank c = false := by
  rw [trimEnd, trimRight, List.getLast?_reverse] at last
  exact stops_dropWhile text.reverse c last

theorem getLast?_trim {c : Char} (last : (trim text).getLast? = some c) : isBlank c = false := by
  have cut : trimEnd text = (trimEnd text).takeWhile isBlank ++ trim text :=
    List.takeWhile_append_dropWhile.symm
  have kept : (trimEnd text).getLast? = some c := by
    rw [cut, List.getLast?_append, last]
    rfl
  exact getLast?_trimEnd kept

theorem trim_eq_nil_iff : trim text = [] ↔ ∀ c ∈ text, isBlank c = true := by
  constructor
  · intro empty
    obtain ⟨before, after, shape, beforeBlank, afterBlank⟩ := exists_trim text
    rw [shape, empty, List.append_nil, List.forall_mem_append]
    exact ⟨beforeBlank, afterBlank⟩
  · intro blank
    have cut : trimEnd text = [] := by
      rw [trimEnd, trimRight, List.reverse_eq_nil_iff, List.dropWhile_eq_nil_iff]
      intro c member
      exact blank c (List.mem_reverse.mp member)
    rw [trim, cut]
    rfl

theorem trimmed_eq_empty_iff {text : String} : trimmed text = "" ↔ isBlankText text = true := by
  rw [trimmed, isBlankText, List.all_eq_true, ← trim_eq_nil_iff, ← String.toList_inj,
    String.toList_ofList]
  rfl

/-- Blanks around a text that has none at its ends are cut off. -/
theorem trim_blanks {before after : List Char} (nonempty : text ≠ [])
    (start : ∀ c, text.head? = some c → isBlank c = false)
    (stop : ∀ c, text.getLast? = some c → isBlank c = false)
    (beforeBlank : ∀ c ∈ before, isBlank c = true) (afterBlank : ∀ c ∈ after, isBlank c = true) :
    trim (before ++ text ++ after) = text := by
  have last := List.getLast?_eq_some_getLast nonempty
  have kept : trimRight isBlank (before ++ text) = before ++ text :=
    trimRight_eq_self (by simpa [last] using stop)
  have cut : trimEnd (before ++ text ++ after) = before ++ text := by
    rw [← kept, trimEnd, trimRight, List.reverse_append,
      List.dropWhile_append_of_pos (by simpa using afterBlank), ← trimRight, kept, kept]
  rw [trim, cut, trimStart, trimLeft, List.dropWhile_append_of_pos beforeBlank, ← trimLeft,
    trimLeft_eq_self start]

end RequestChain.Text
