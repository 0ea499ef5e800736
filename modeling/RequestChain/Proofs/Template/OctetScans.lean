import RequestChain.Proofs.Template.Crossing
import RequestChain.Proofs.Text.Octets
import RequestChain.Template.Octets

/-! # Scans over octets

What a scan does at an octet depends on ASCII characters alone, and no octet of another character is
one of those. So a scan passes the continuations of a character, also where a jump behind a
backslash has left it between them, and it stands in front of a character again whenever it decides
something. A step of a scan over octets is then a step of the scan over characters, and both scans
come to the same ends.

`resume` is where a scan stands: outside quoted texts, or inside one whose mark it looks for.
-/

namespace RequestChain.Template.Octets

open Text

/-! ## Octets of characters -/

/-- From a position on, octets are those of a text. -/
def Reads (octets : List UInt8) (position : Nat) (text : List Char) : Prop :=
  octets.drop position = utf8Encode text

section Reads

variable {octets : List UInt8} {position : Nat} {c mark : Char} {text rest : List Char}

theorem reads_append (front back : List Char) :
    Reads (utf8Encode (front ++ back)) (octetCount front) back := by
  rw [Reads, utf8Encode_append, octetCount, List.drop_left]

theorem reads_start (text : List Char) : Reads (utf8Encode text) 0 text := rfl

namespace Reads

theorem behind (front : List Char) (reads : Reads octets position (front ++ rest)) :
    Reads octets (position + octetCount front) rest := by
  rw [Reads, ← List.drop_drop, reads, utf8Encode_append, octetCount, List.drop_left]

theorem length_le (reads : Reads octets position []) : octets.length ≤ position :=
  List.drop_eq_nil_iff.mp reads

/-- An octet of ASCII is the character. -/
theorem getElem?_eq_iff (reads : Reads octets position text) (ascii : mark.toNat < 0x80) :
    octets[position]? = some mark.toUInt8 ↔ text.head? = some mark := by
  have first : octets[position]? = (utf8Encode text).head? := by
    rw [← reads, List.head?_drop]
  rw [first]
  cases text with
  | nil => simp [utf8Encode]
  | cons c rest =>
    obtain ⟨octet, others, shape, -⟩ := exists_first c
    rw [utf8Encode_cons, shape, List.cons_append, List.head?_cons, List.head?_cons,
      Option.some.injEq, Option.some.injEq]
    constructor
    · rintro rfl
      exact eq_of_toUInt8_mem ascii (shape ▸ List.mem_cons_self)
    · rintro rfl
      rw [utf8EncodeChar_of_ascii ascii] at shape
      exact (List.cons.inj shape).1.symm

/-- At a character there is an octet, and it is the one of an ASCII character exactly if that is the
character. -/
theorem exists_octet (reads : Reads octets position (c :: rest)) :
    ∃ octet, octets[position]? = some octet ∧
      ∀ mark : Char, mark.toNat < 0x80 → (octet = mark.toUInt8 ↔ c = mark) := by
  obtain ⟨octet, others, shape, -⟩ := exists_first c
  have found : octets[position]? = some octet := by
    rw [← List.head?_drop, reads, utf8Encode_cons, shape, List.cons_append, List.head?_cons]
  refine ⟨octet, found, fun mark ascii => ?_⟩
  rw [← Option.some.injEq octet, ← found, reads.getElem?_eq_iff ascii, List.head?_cons,
    Option.some.injEq]

/-- Two octets of an ASCII character in a row are this character twice. -/
theorem pair_iff {octet : UInt8} (reads : Reads octets position (c :: rest))
    (same : octet = mark.toUInt8 ↔ c = mark) (ascii : mark.toNat < 0x80) :
    octet = mark.toUInt8 ∧ octets[position + 1]? = some mark.toUInt8 ↔
      c = mark ∧ rest.head? = some mark := by
  rw [same, and_congr_right_iff]
  rintro rfl
  exact octetCount_of_ascii ascii ▸ (reads.behind [c]).getElem?_eq_iff ascii

/-- What passes the continuations one by one passes the rest of a character. -/
theorem pass {β : Type} {next : Nat → β} (reads : Reads octets position (c :: rest))
    (step : ∀ {position octet}, octets[position]? = some octet → isContinuation octet = true →
      next position = next (position + 1)) :
    next (position + 1) = next (position + octetCount [c]) := by
  have run : ∀ (others : List UInt8) {position : Nat}, (∀ octet ∈ others, isContinuation octet) →
      octets.drop position = others ++ utf8Encode rest →
      next position = next (position + others.length) := by
    intro others
    induction others with
    | nil => exact fun _ _ => rfl
    | cons octet others ih =>
      intro position continuations shape
      obtain ⟨head, tail⟩ := List.forall_mem_cons.mp continuations
      have found : octets[position]? = some octet := by
        rw [← List.head?_drop, shape, List.cons_append, List.head?_cons]
      have behind : octets.drop (position + 1) = others ++ utf8Encode rest := by
        rw [← List.drop_drop, shape, List.cons_append, List.drop_one, List.tail_cons]
      rw [step found head, ih tail behind, List.length_cons, Nat.add_right_comm, Nat.add_assoc]
  obtain ⟨octet, others, shape, -, continuations⟩ := exists_first c
  have size : octetCount [c] = others.length + 1 := by
    rw [octetCount, utf8Encode_cons, shape, utf8Encode, List.flatMap_nil, List.append_nil,
      List.length_cons]
  rw [size, Nat.add_comm others.length, ← Nat.add_assoc]
  apply run others continuations
  rw [← List.drop_drop, reads, utf8Encode_cons, shape, List.cons_append, List.drop_one,
    List.tail_cons]

end Reads

end Reads

/-- The brace that is not written twice. -/
private theorem not_pair {c brace : Char} {rest : List Char}
    (single : ∀ tail, c = brace → rest = brace :: tail → False) :
    ¬ (c = brace ∧ rest.head? = some brace) := by
  rintro ⟨rfl, next⟩
  obtain ⟨tail, rfl⟩ := List.head?_eq_some_iff.mp next
  exact single tail rfl rfl

theorem isMark_iff {octet : UInt8} {c : Char}
    (same : ∀ mark : Char, mark.toNat < 0x80 → (octet = mark.toUInt8 ↔ c = mark)) :
    isMark octet = true ↔ c = '"' ∨ c = '\'' := by
  rw [isMark, Bool.or_eq_true, beq_iff_eq, beq_iff_eq, same _ (by decide), same _ (by decide)]

theorem isMark_of_isContinuation {octet : UInt8} (continues : isContinuation octet = true) :
    isMark octet = false := by
  have large := le_toNat_of_isContinuation continues
  rw [isMark, beq_eq_false_iff_ne.mpr (ne_toUInt8_of_le (by decide) large),
    beq_eq_false_iff_ne.mpr (ne_toUInt8_of_le (by decide) large), Bool.false_or]

/-! ## Quoted texts -/

section Quoted

variable {octets : List UInt8} {position : Nat} {c mark : Char} {rest : List Char}

theorem closeFrom_of_found {octet mark : UInt8} (found : octets[position]? = some octet) :
    closeFrom octets mark position =
      if octet = '\\'.toUInt8 then closeFrom octets mark (position + 2)
      else if octet = mark then .ok (some (position + 1))
      else closeFrom octets mark (position + 1) := by
  rw [closeFrom, if_pos (List.getElem?_eq_some_iff.mp found).1, octetAt_of_found found, ok_bind]

theorem skipQuoted_of_found {octet : UInt8} (found : octets[position]? = some octet) :
    skipQuoted octets position = closeFrom octets octet (position + 1) := by
  rw [skipQuoted, octetAt_of_found found, ok_bind]

theorem closeFrom_of_le {mark : UInt8} (ended : octets.length ≤ position) :
    closeFrom octets mark position = .ok none := by
  rw [closeFrom, if_neg (Nat.not_lt.mpr ended)]

theorem closeFrom_of_isContinuation {octet : UInt8} (ascii : mark.toNat < 0x80)
    (found : octets[position]? = some octet) (continues : isContinuation octet = true) :
    closeFrom octets mark.toUInt8 position = closeFrom octets mark.toUInt8 (position + 1) := by
  have large := le_toNat_of_isContinuation continues
  rw [closeFrom_of_found found, if_neg (ne_toUInt8_of_le (by decide) large),
    if_neg (ne_toUInt8_of_le ascii large)]

/-- Character by character: a backslash is passed together with the character behind it. -/
theorem closeFrom_escape (ascii : mark.toNat < 0x80) {next : Char}
    (reads : Reads octets position ('\\' :: next :: rest)) :
    closeFrom octets mark.toUInt8 position =
      closeFrom octets mark.toUInt8 (position + octetCount ['\\', next]) := by
  obtain ⟨octet, found, same⟩ := reads.exists_octet
  rw [closeFrom_of_found found, if_pos ((same '\\' (by decide)).mpr rfl)]
  calc
    closeFrom octets mark.toUInt8 (position + octetCount ['\\'] + 1)
    _ = closeFrom octets mark.toUInt8 (position + octetCount ['\\'] + octetCount [next]) :=
      (reads.behind ['\\']).pass (closeFrom_of_isContinuation ascii)
    _ = _ := by
      rw [Nat.add_assoc, ← octetCount_append, List.singleton_append]

theorem closeFrom_inside (ascii : mark.toNat < 0x80) (notBackslash : c ≠ '\\')
    (reads : Reads octets position (c :: rest)) :
    closeFrom octets mark.toUInt8 position =
      if c = mark then .ok (some (position + octetCount [c]))
      else closeFrom octets mark.toUInt8 (position + octetCount [c]) := by
  obtain ⟨octet, found, same⟩ := reads.exists_octet
  rw [closeFrom_of_found found, if_neg (mt (same '\\' (by decide)).mp notBackslash)]
  by_cases closing : c = mark
  · rw [if_pos ((same mark ascii).mpr closing), if_pos closing,
      octetCount_of_ascii (closing ▸ ascii)]
  · rw [if_neg (mt (same mark ascii).mp closing), if_neg closing]
    exact reads.pass (closeFrom_of_isContinuation ascii)

/-- The mark that is open, if one is, belongs to ASCII. -/
def IsAscii (quote : Option Char) : Prop :=
  ∀ mark ∈ quote, mark.toNat < 0x80

theorem isAscii_none : IsAscii none := by
  simp [IsAscii]

theorem isAscii_of_quotes (quotes : c = '"' ∨ c = '\'') : IsAscii (some c) := by
  rintro mark ⟨⟩
  rcases quotes with rfl | rfl <;> decide

theorem IsAscii.inside (ascii : IsAscii (some mark)) (c : Char) :
    IsAscii (if c = mark then none else some mark) := by
  split
  · exact isAscii_none
  · exact ascii

/-- Inside a quoted text, a scan looks for its mark first and goes on behind it. -/
def resume {β : Type} (octets : List UInt8) (scan : Nat → Guarded (Option β))
    (quote : Option Char) (position : Nat) : Guarded (Option β) :=
  match quote with
  | none => scan position
  | some mark => do
    match ← closeFrom octets mark.toUInt8 position with
    | none => .ok none
    | some behind => scan behind

variable {β : Type} {scan : Nat → Guarded (Option β)}

theorem resume_of_le (ended : octets.length ≤ position) :
    resume octets scan (some mark) position = .ok none := by
  rw [resume, closeFrom_of_le ended, ok_bind]

theorem resume_backslash (reads : Reads octets position ['\\']) :
    resume octets scan (some mark) position = .ok none := by
  obtain ⟨octet, found, same⟩ := reads.exists_octet
  have ended : octets.length ≤ position + 2 := Nat.le_succ_of_le (reads.behind ['\\']).length_le
  rw [resume, closeFrom_of_found found, if_pos ((same '\\' (by decide)).mpr rfl),
    closeFrom_of_le ended, ok_bind]

theorem resume_escape (ascii : mark.toNat < 0x80) {next : Char}
    (reads : Reads octets position ('\\' :: next :: rest)) :
    resume octets scan (some mark) position =
      resume octets scan (some mark) (position + octetCount ['\\', next]) := by
  rw [resume, closeFrom_escape ascii reads, resume]

theorem resume_inside (ascii : mark.toNat < 0x80) (notBackslash : c ≠ '\\')
    (reads : Reads octets position (c :: rest)) :
    resume octets scan (some mark) position =
      resume octets scan (if c = mark then none else some mark) (position + octetCount [c]) := by
  rw [resume, closeFrom_inside ascii notBackslash reads]
  by_cases closing : c = mark
  · rw [if_pos closing, if_pos closing, ok_bind, resume]
  · rw [if_neg closing, if_neg closing, resume]

/-- A scan that skips a quoted text from the octet of its mark on skips it from the character on. -/
theorem eq_resume_of_quotes
    (skip : ∀ {mark position}, octets[position]? = some mark.toUInt8 →
      isMark mark.toUInt8 = true → scan position = resume octets scan (some mark) (position + 1))
    (reads : Reads octets position (c :: rest)) (quotes : c = '"' ∨ c = '\'') :
    scan position = resume octets scan (some c) (position + octetCount [c]) := by
  obtain ⟨octet, found, same⟩ := reads.exists_octet
  have ascii := isAscii_of_quotes quotes c rfl
  obtain rfl := (same c ascii).mpr rfl
  rw [octetCount_of_ascii ascii]
  exact skip found ((isMark_iff same).mpr quotes)

end Quoted

/-! ## The end of a placeholder -/

section EndFrom

variable {octets : List UInt8} {octet : UInt8} {depth position : Nat} {c : Char} {rest : List Char}

theorem endFrom_of_isMark {mark : Char} (found : octets[position]? = some mark.toUInt8)
    (quotes : isMark mark.toUInt8 = true) :
    endFrom octets depth position =
      resume octets (endFrom octets depth) (some mark) (position + 1) := by
  rw [endFrom, if_pos (List.getElem?_eq_some_iff.mp found).1, octetAt_of_found found, ok_bind,
    if_pos quotes, resume, ← skipQuoted_of_found found]
  split <;> rename_i skipped <;> rw [skipped] <;> rfl

theorem endFrom_of_not_isMark (found : octets[position]? = some octet)
    (plain : isMark octet = false) :
    endFrom octets depth position =
      if octet = '{'.toUInt8 ∧ octets[position + 1]? = some '{'.toUInt8 then
        endFrom octets (depth + 1) (position + 2)
      else if octet = '}'.toUInt8 ∧ octets[position + 1]? = some '}'.toUInt8 then
        if depth = 0 then .ok (some position) else endFrom octets (depth - 1) (position + 2)
      else endFrom octets depth (position + 1) := by
  rw [endFrom, if_pos (List.getElem?_eq_some_iff.mp found).1, octetAt_of_found found, ok_bind,
    if_neg (Bool.eq_false_iff.mp plain)]

theorem endFrom_of_isContinuation (found : octets[position]? = some octet)
    (continues : isContinuation octet = true) :
    endFrom octets depth position = endFrom octets depth (position + 1) := by
  have large := le_toNat_of_isContinuation continues
  rw [endFrom_of_not_isMark found (isMark_of_isContinuation continues),
    if_neg fun opening => ne_toUInt8_of_le (by decide) large opening.1,
    if_neg fun closing => ne_toUInt8_of_le (by decide) large closing.1]

/-- One character outside quoted texts. -/
theorem endFrom_cons (reads : Reads octets position (c :: rest)) (plain : ¬ (c = '"' ∨ c = '\'')) :
    endFrom octets depth position =
      if c = '{' ∧ rest.head? = some '{' then endFrom octets (depth + 1) (position + 2)
      else if c = '}' ∧ rest.head? = some '}' then
        if depth = 0 then .ok (some position) else endFrom octets (depth - 1) (position + 2)
      else endFrom octets depth (position + octetCount [c]) := by
  obtain ⟨octet, found, same⟩ := reads.exists_octet
  rw [endFrom_of_not_isMark found (Bool.eq_false_iff.mpr (mt (isMark_iff same).mp plain)),
    reads.pass endFrom_of_isContinuation]
  simp only [reads.pair_iff (same '{' (by decide)) (by decide),
    reads.pair_iff (same '}' (by decide)) (by decide)]

private theorem map_prependFirst (text : List Char) (division : Option (List Char × List Char)) :
    (prependFirst text division).map (fun parts => position + octetCount parts.1) =
      division.map fun parts => position + octetCount text + octetCount parts.1 := by
  simp [prependFirst, Function.comp_def, Nat.add_assoc]

/-- The octets lead to the end that the characters lead to. -/
theorem resume_endFrom {quote : Option Char} {text : List Char}
    (ascii : IsAscii quote) (reads : Reads octets position text) :
    resume octets (endFrom octets depth) quote position =
      .ok ((splitPlaceholder depth quote text).map fun parts => position + octetCount parts.1) := by
  fun_induction splitPlaceholder depth quote text generalizing position with
  | case1 depth quote =>
    cases quote with
    | none => rw [resume, endFrom, if_neg (Nat.not_lt.mpr reads.length_le), Option.map_none]
    | some mark => rw [resume_of_le reads.length_le, Option.map_none]
  | case2 depth mark => rw [resume_backslash reads, Option.map_none]
  | case3 depth mark next rest ih =>
    rw [resume_escape (ascii mark rfl) reads, ih ascii (reads.behind ['\\', next]),
      map_prependFirst]
  | case4 depth c rest mark plain ih =>
    rw [resume_inside (ascii mark rfl) plain reads, ih (ascii.inside c) (reads.behind [c]),
      map_prependFirst]
  | case5 depth c rest quotes ih =>
    rw [resume, eq_resume_of_quotes endFrom_of_isMark reads quotes,
      ih (isAscii_of_quotes quotes) (reads.behind [c]), map_prependFirst]
  | case6 depth rest plain ih =>
    rw [resume, endFrom_cons reads plain, if_pos ⟨rfl, rfl⟩, map_prependFirst]
    exact ih ascii (reads.behind ['{', '{'])
  | case7 rest plain =>
    rw [resume, endFrom_cons reads plain, if_neg (by simp), if_pos ⟨rfl, rfl⟩, if_pos rfl]
    rfl
  | case8 depth rest nested plain ih =>
    rw [resume, endFrom_cons reads plain, if_neg (by simp), if_pos ⟨rfl, rfl⟩, if_neg nested,
      map_prependFirst]
    exact ih ascii (reads.behind ['}', '}'])
  | case9 depth c rest notOpening notClosing plain ih =>
    rw [resume, endFrom_cons reads plain, if_neg (not_pair notOpening),
      if_neg (not_pair notClosing), map_prependFirst]
    exact ih ascii (reads.behind [c])

end EndFrom

/-! ## Parts of a text -/

theorem slice_append (front middle back : List Char) :
    slice (front ++ middle ++ back) (octetCount front) (octetCount (front ++ middle)) =
      .ok middle := by
  rw [slice, slice?_append]

theorem slice_start (front back : List Char) :
    slice (front ++ back) 0 (octetCount front) = .ok front :=
  slice_append [] front back

theorem slice_end (front back : List Char) :
    slice (front ++ back) (octetCount front) (octetCount (front ++ back)) = .ok back := by
  have whole := slice_append front back []
  rwa [List.append_nil] at whole

/-! ## Arguments -/

section ArgumentsFrom

variable {source : List Char} {start braces parentheses position : Nat} {octet : UInt8} {c : Char}
  {rest : List Char}

private theorem lt_octetCount (found : (utf8Encode source)[position]? = some octet) :
    position < octetCount source :=
  (List.getElem?_eq_some_iff.mp found).1

theorem argumentsFrom_of_isMark {mark : Char}
    (found : (utf8Encode source)[position]? = some mark.toUInt8)
    (quotes : isMark mark.toUInt8 = true) :
    argumentsFrom source start braces parentheses position =
      resume (utf8Encode source) (argumentsFrom source start braces parentheses) (some mark)
        (position + 1) := by
  rw [argumentsFrom, if_pos (lt_octetCount found), octetAt_of_found found, ok_bind,
    if_pos quotes, resume, ← skipQuoted_of_found found]
  split <;> rename_i skipped <;> rw [skipped] <;> rfl

theorem argumentsFrom_of_not_isMark (found : (utf8Encode source)[position]? = some octet)
    (plain : isMark octet = false) :
    argumentsFrom source start braces parentheses position =
      if octet = '{'.toUInt8 ∧ (utf8Encode source)[position + 1]? = some '{'.toUInt8 then
        argumentsFrom source start (braces + 1) parentheses (position + 2)
      else if octet = '}'.toUInt8 ∧ 0 < braces ∧
          (utf8Encode source)[position + 1]? = some '}'.toUInt8 then
        argumentsFrom source start (braces - 1) parentheses (position + 2)
      else if octet = '('.toUInt8 then
        argumentsFrom source start braces (parentheses + 1) (position + 1)
      else if octet = ')'.toUInt8 then
        argumentsFrom source start braces (parentheses - 1) (position + 1)
      else if octet = ','.toUInt8 ∧ braces = 0 ∧ parentheses = 0 then do
        let argument ← slice source start position
        let others ← argumentsFrom source (position + 1) braces parentheses (position + 1)
        .ok (others.map (argument :: ·))
      else argumentsFrom source start braces parentheses (position + 1) := by
  rw [argumentsFrom, if_pos (lt_octetCount found), octetAt_of_found found, ok_bind,
    if_neg (Bool.eq_false_iff.mp plain)]

theorem argumentsFrom_of_isContinuation (found : (utf8Encode source)[position]? = some octet)
    (continues : isContinuation octet = true) :
    argumentsFrom source start braces parentheses position =
      argumentsFrom source start braces parentheses (position + 1) := by
  have foreign {mark : Char} (ascii : mark.toNat < 0x80) : octet ≠ mark.toUInt8 :=
    ne_toUInt8_of_le ascii (le_toNat_of_isContinuation continues)
  rw [argumentsFrom_of_not_isMark found (isMark_of_isContinuation continues),
    if_neg fun opening => foreign (by decide) opening.1,
    if_neg fun closing => foreign (by decide) closing.1,
    if_neg (foreign (by decide)), if_neg (foreign (by decide)),
    if_neg fun comma => foreign (by decide) comma.1]

/-- One character outside quoted texts. -/
theorem argumentsFrom_cons (reads : Reads (utf8Encode source) position (c :: rest))
    (plain : ¬ (c = '"' ∨ c = '\'')) :
    argumentsFrom source start braces parentheses position =
      if c = '{' ∧ rest.head? = some '{' then
        argumentsFrom source start (braces + 1) parentheses (position + 2)
      else if c = '}' ∧ 0 < braces ∧ rest.head? = some '}' then
        argumentsFrom source start (braces - 1) parentheses (position + 2)
      else if c = '(' then argumentsFrom source start braces (parentheses + 1) (position + 1)
      else if c = ')' then argumentsFrom source start braces (parentheses - 1) (position + 1)
      else if c = ',' ∧ braces = 0 ∧ parentheses = 0 then do
        let argument ← slice source start position
        let others ← argumentsFrom source (position + 1) braces parentheses (position + 1)
        .ok (others.map (argument :: ·))
      else argumentsFrom source start braces parentheses (position + octetCount [c]) := by
  obtain ⟨octet, found, same⟩ := reads.exists_octet
  have pair := reads.pair_iff (same '{' (by decide)) (by decide)
  have nested : octet = '}'.toUInt8 ∧ 0 < braces ∧
      (utf8Encode source)[position + 1]? = some '}'.toUInt8 ↔
        c = '}' ∧ 0 < braces ∧ rest.head? = some '}' := by
    rw [and_left_comm, reads.pair_iff (same '}' (by decide)) (by decide), and_left_comm]
  rw [argumentsFrom_of_not_isMark found (Bool.eq_false_iff.mpr (mt (isMark_iff same).mp plain)),
    ← reads.pass argumentsFrom_of_isContinuation]
  simp only [pair, nested, same '(' (by decide), same ')' (by decide), same ',' (by decide)]

/-- In front of a text, the scan over octets finds the arguments that the scan over characters
finds, where `held` is what stands in front of it in the same argument. -/
def Agrees (source : List Char) (braces parentheses : Nat) (quote : Option Char)
    (text : List Char) : Prop :=
  ∀ front held, source = front ++ held ++ text →
    resume (utf8Encode source) (argumentsFrom source (octetCount front) braces parentheses) quote
      (octetCount (front ++ held)) =
    .ok ((splitArguments braces parentheses quote text).map (held.foldr consFirst))

/-- A text that is part of the argument is passed. -/
theorem Agrees.advance {quote : Option Char} {front held : List Char}
    (agrees : Agrees source braces parentheses quote rest) (taken : List Char)
    (whole : source = front ++ held ++ (taken ++ rest)) :
    resume (utf8Encode source) (argumentsFrom source (octetCount front) braces parentheses) quote
      (octetCount (front ++ held) + octetCount taken) =
    .ok (((splitArguments braces parentheses quote rest).map (taken.foldr consFirst)).map
      (held.foldr consFirst)) := by
  have joined : (held.foldr consFirst ∘ taken.foldr consFirst : List (List Char) → _) =
      (held ++ taken).foldr consFirst := by
    funext parts
    exact List.foldr_append.symm
  rw [← octetCount_append, List.append_assoc, agrees front (held ++ taken) (by simp [whole]),
    Option.map_map, joined]

theorem agrees {quote : Option Char} {text : List Char} (ascii : IsAscii quote) :
    Agrees source braces parentheses quote text := by
  intro front held whole
  fun_induction splitArguments braces parentheses quote text generalizing front held with
  | case1 braces parentheses quote closed =>
    subst whole
    obtain rfl := Option.isNone_iff_eq_none.mp closed
    have ended : octetCount (front ++ held ++ []) ≤ octetCount (front ++ held) :=
      (reads_append (front ++ held) []).length_le
    rw [resume, argumentsFrom, if_neg (Nat.not_lt.mpr ended), List.append_nil, slice_end, ok_bind,
      Option.map_some, foldr_consFirst, List.append_nil]
  | case2 braces parentheses quote opened =>
    subst whole
    obtain ⟨mark, rfl⟩ := Option.ne_none_iff_exists'.mp (mt Option.isNone_iff_eq_none.mpr opened)
    rw [resume_of_le (reads_append _ _).length_le, Option.map_none]
  | case3 braces parentheses mark =>
    subst whole
    rw [resume_backslash (reads_append _ _), Option.map_none]
  | case4 braces parentheses mark next rest ih =>
    subst whole
    rw [resume_escape (ascii mark rfl) (reads_append _ _)]
    exact Agrees.advance (ih ascii) ['\\', next] rfl
  | case5 braces parentheses c rest mark plain ih =>
    subst whole
    rw [resume_inside (ascii mark rfl) plain (reads_append _ _)]
    exact Agrees.advance (ih (ascii.inside c)) [c] rfl
  | case6 braces parentheses c rest quotes ih =>
    subst whole
    rw [resume, eq_resume_of_quotes argumentsFrom_of_isMark (reads_append _ _) quotes]
    exact Agrees.advance (ih (isAscii_of_quotes quotes)) [c] rfl
  | case7 braces parentheses rest plain single ih =>
    subst whole
    rw [resume, argumentsFrom_cons (reads_append _ _) plain, if_pos ⟨rfl, rfl⟩]
    exact Agrees.advance (ih ascii) ['{', '{'] rfl
  | case8 parentheses rest plain single ih =>
    subst whole
    rw [resume, argumentsFrom_cons (reads_append _ _) plain, if_neg (by simp), if_neg (by simp),
      if_neg (by simp), if_neg (by simp), if_neg (by simp)]
    exact Agrees.advance (ih 0 parentheses ascii) ['}'] rfl
  | case9 braces parentheses rest nested plain single ih =>
    subst whole
    rw [resume, argumentsFrom_cons (reads_append _ _) plain, if_neg (by simp),
      if_pos ⟨rfl, Nat.pos_of_ne_zero nested, rfl⟩]
    exact Agrees.advance (ih ascii) ['}', '}'] rfl
  | case10 braces parentheses rest plain single ih =>
    subst whole
    rw [resume, argumentsFrom_cons (reads_append _ _) plain, if_neg (by simp), if_neg (by simp),
      if_pos rfl]
    exact Agrees.advance (ih braces (parentheses + 1) ascii) ['('] rfl
  | case11 braces parentheses rest plain single ih =>
    subst whole
    rw [resume, argumentsFrom_cons (reads_append _ _) plain, if_neg (by simp), if_neg (by simp),
      if_neg (by simp), if_pos rfl]
    exact Agrees.advance (ih braces (parentheses - 1) ascii) [')'] rfl
  | case12 braces parentheses rest outside plain single ih =>
    -- The next argument starts behind the comma.
    have behind := ih ascii (front ++ held ++ [',']) [] (by simp [whole])
    rw [List.append_nil, octetCount_append (front ++ held), octetCount_of_ascii (by decide),
      resume] at behind
    subst whole
    rw [resume, argumentsFrom_cons (reads_append _ _) plain, if_neg (by simp), if_neg (by simp),
      if_neg (by simp), if_neg (by simp), if_pos ⟨rfl, outside⟩, slice_append, ok_bind, behind,
      ok_bind, Option.map_map, Option.map_map]
    simp only [Function.comp_def, List.foldr_nil, foldr_consFirst, List.append_nil]
  | case13 braces parentheses rest inner plain single ih =>
    subst whole
    rw [resume, argumentsFrom_cons (reads_append _ _) plain, if_neg (by simp), if_neg (by simp),
      if_neg (by simp), if_neg (by simp), if_neg fun comma => inner comma.2]
    exact Agrees.advance (ih braces parentheses ascii) [','] rfl
  | case14 braces parentheses c rest plain _ notOpen notClose notComma notOpening notClosing ih =>
    subst whole
    rw [resume, argumentsFrom_cons (reads_append _ _) plain, if_neg (not_pair notOpening),
      if_neg fun closing => not_pair notClosing ⟨closing.1, closing.2.2⟩, if_neg notOpen,
      if_neg notClose, if_neg fun comma => notComma comma.1]
    exact Agrees.advance (ih braces parentheses ascii) [c] rfl

end ArgumentsFrom

/-! ## The scans of the reader -/

/-- Behind any text, the position of the end is the one of the characters. -/
theorem endFrom_eq (front back : List Char) (depth : Nat) :
    endFrom (utf8Encode (front ++ back)) depth (octetCount front) =
      .ok ((splitPlaceholder depth none back).map fun parts => octetCount (front ++ parts.1)) := by
  simp only [octetCount_append]
  exact resume_endFrom isAscii_none (reads_append front back)

-- The octet behind the backslash is the first of two, and the scan goes on with the second.
example : (endFrom (utf8Encode "'\\é'\x7d\x7d".toList) 0 0).toOption = some (some 5) := by
  decide +kernel

/-- The arguments are those of the characters. -/
theorem argumentsFrom_eq (source : List Char) :
    argumentsFrom source 0 0 0 0 = .ok (splitArguments 0 0 none source) := by
  have same : Agrees source 0 0 none source := agrees isAscii_none
  simpa [resume] using same [] [] rfl

end RequestChain.Template.Octets
