import RequestChain.Assembly
import RequestChain.Proofs.Text.FormEncoding

/-! # Parameters behind a query

Parameters are put at the very end of a URL. That is the end of its query, and they are read as a
continuation of it, unless the URL has a fragment or its query ends in a question mark. Behind a
fragment the parameters become part of it; and as a question mark at the end is taken for the
beginning of the query, the last pair of such a query and the first parameter become one.
-/

namespace RequestChain

open Text

/-! ## Parts of a URL -/

/-- A URL as far as queries are concerned. -/
structure UrlParts where
  /-- What stands in front of the query. -/
  address : List Char
  query : List Char
  /-- The fragment and the sign in front of it. -/
  fragment : List Char
  deriving DecidableEq, Repr

/-- The fragment begins at the first number sign, and the query behind the first question mark that
is not in the fragment. -/
def UrlParts.of (url : String) : UrlParts :=
  let (address, query) := splitAtFirst '?' (url.toList.takeWhile (· ≠ '#'))
  { address, query, fragment := url.toList.dropWhile (· ≠ '#') }

/-- The parameters are in the query, and all else is as it was. -/
structure AppendsParams (url : String) (params : OrderedMap String) (changed : String) : Prop where
  address : (UrlParts.of changed).address = (UrlParts.of url).address
  query : formDecodePairs (UrlParts.of changed).query =
    formDecodePairs (UrlParts.of url).query ++ params.entries
  fragment : (UrlParts.of changed).fragment = (UrlParts.of url).fragment

/-- A URL without a query. -/
theorem UrlParts.of_address {url : String} {address : List Char} (noFragment : '#' ∉ address)
    (noQuery : '?' ∉ address) (text : url.toList = address) : UrlParts.of url = ⟨address, [], []⟩ := by
  rw [UrlParts.of, text, takeWhile_ne_of_not_mem noFragment, dropWhile_ne_of_not_mem noFragment,
    splitAtFirst_of_not_mem noQuery]

/-- A URL with a query. -/
theorem UrlParts.of_query {url : String} {address query : List Char} (noFragment : '#' ∉ address)
    (noFragment' : '#' ∉ query) (noQuery : '?' ∉ address)
    (text : url.toList = address ++ '?' :: query) : UrlParts.of url = ⟨address, query, []⟩ := by
  have whole : '#' ∉ address ++ '?' :: query := by
    simp [noFragment, noFragment']
  rw [UrlParts.of, text, takeWhile_ne_of_not_mem whole, dropWhile_ne_of_not_mem whole,
    splitAtFirst_append noQuery]

/-! ## Lines that run into each other -/

/-- A piece that is not empty says one pair. -/
private theorem length_formDecodePairs_of_piece {piece : List Char} (whole : '&' ∉ piece)
    (filled : piece ≠ []) : (formDecodePairs piece).length = 1 := by
  have notEmpty : piece.isEmpty = false := by simpa using filled
  rw [formDecodePairs_of_piece whole, formDecodePiece?, notEmpty]
  rfl

private theorem length_formDecodePairs_cons {piece : List Char} (whole : '&' ∉ piece)
    (filled : piece ≠ []) (pair : String × String) (rest : List (String × String)) :
    (formDecodePairs (piece ++ formEncodePairs (pair :: rest))).length = 1 + rest.length := by
  have whole' : '&' ∉ piece ++ formEncodePair pair := by
    rw [List.mem_append, not_or]
    exact ⟨whole, not_mem_formEncodePair (by decide) (by decide)⟩
  have filled' : piece ++ formEncodePair pair ≠ [] := by simp [filled]
  have merged := length_formDecodePairs_of_piece whole' filled'
  by_cases last : rest = []
  · rw [last]
    exact merged
  · rw [formEncodePairs_cons pair last, ← List.append_assoc, formDecodePairs_append,
      List.length_append, merged, formDecodePairs_formEncodePairs]

/-- Behind anything but an ampersand, the first pair of a line belongs to the piece before it. -/
theorem length_formDecodePairs_merged {line : List Char} {last : Char}
    (ends : line.getLast? = some last) (merging : last ≠ '&') (pair : String × String)
    (rest : List (String × String)) :
    (formDecodePairs (line ++ formEncodePairs (pair :: rest))).length =
      (formDecodePairs line).length + rest.length := by
  -- All pieces but the last are read in the same way on both sides.
  by_cases pieces : '&' ∈ line
  · obtain ⟨piece, behind, split, -⟩ := List.eq_append_cons_of_mem pieces
    have ends' : behind.getLast? = some last := by
      rw [split] at ends
      cases behind with
      | nil =>
        rw [List.getLast?_concat] at ends
        exact absurd (Option.some.inj ends).symm merging
      | cons c others => simpa [List.getLast?_append, List.getLast?_cons_cons] using ends
    have shorter : behind.length < line.length := by
      rw [split, List.length_append, List.length_cons]
      omega
    have ih := length_formDecodePairs_merged ends' merging pair rest
    rw [split, List.append_assoc, List.cons_append, formDecodePairs_append, formDecodePairs_append,
      List.length_append, List.length_append, ih, Nat.add_assoc]
  · have filled : line ≠ [] := by
      rintro rfl
      cases ends
    rw [length_formDecodePairs_cons pieces filled, length_formDecodePairs_of_piece pieces filled]
termination_by line.length

/-! ## Appending -/

/-- What is put between a URL and its parameters. -/
def querySeparator (url : List Char) : List Char :=
  if '?' ∉ url then ['?']
  else if url.getLast? = some '?' ∨ url.getLast? = some '&' then []
  else ['&']

theorem toList_appendQuery (url : String) {params : OrderedMap String}
    (nonempty : params.isEmpty = false) :
    (appendQuery url params).toList =
      url.toList ++ (querySeparator url.toList ++ formEncodePairs params.entries) := by
  rw [appendQuery, nonempty, if_neg Bool.false_ne_true, querySeparator]
  by_cases noQuery : '?' ∈ url.toList
  · by_cases joined : url.toList.getLast? = some '?' ∨ url.toList.getLast? = some '&'
    · simp [noQuery, joined]
    · simp [noQuery, joined]
  · simp [noQuery]

/-- What a URL looks like that has parameters behind an address. -/
structure WrittenBehind (address : String) (params : OrderedMap String) (url : String) : Prop where
  /-- If there are none, it is the address. -/
  bare : params.entries = [] → url = address
  /-- Otherwise a line with all of them stands at its end. -/
  text : params.entries ≠ [] →
    url.toList = address.toList ++ (querySeparator address.toList ++ formEncodePairs params.entries)
  /-- The line says the names and the texts in their order. -/
  line : formDecodePairs (formEncodePairs params.entries) = params.entries

theorem appendQuery_writtenBehind (address : String) (params : OrderedMap String) :
    WrittenBehind address params (appendQuery address params) where
  bare none := by
    rw [appendQuery, OrderedMap.isEmpty, none]
    rfl
  text filled := toList_appendQuery address (List.isEmpty_eq_false_iff.mpr filled)
  line := formDecodePairs_formEncodePairs params.entries

private theorem not_mem_querySeparator (url : List Char) : '#' ∉ querySeparator url := by
  unfold querySeparator
  split
  · decide
  · split
    · decide
    · decide

/-- Behind a query that does not end in a question mark the parameters are read. -/
private theorem formDecodePairs_behind_iff (address query : List Char)
    {pairs : List (String × String)} (filled : pairs ≠ []) :
    formDecodePairs (query ++ (querySeparator (address ++ '?' :: query) ++ formEncodePairs pairs)) =
        formDecodePairs query ++ pairs ↔
      query.getLast? ≠ some '?' := by
  rcases List.eq_nil_or_concat query with rfl | ⟨line, last, rfl⟩
  · have nothing : querySeparator (address ++ ['?']) = [] := by simp [querySeparator]
    rw [nothing, List.nil_append, List.nil_append, formDecodePairs_formEncodePairs, formDecodePairs_nil,
      List.nil_append]
    simp
  have ends : (address ++ '?' :: (line ++ [last])).getLast? = some last := by
    simp [List.getLast?_append, List.getLast?_cons]
  rw [List.concat_eq_append, List.getLast?_concat, querySeparator, if_neg (by simp), ends]
  simp only [ne_eq, Option.some.injEq]
  by_cases mark : last = '?'
  -- Nothing is put between, so the first parameter is read as part of the last pair.
  · subst mark
    obtain ⟨pair, rest, rfl⟩ := List.exists_cons_of_ne_nil filled
    simp only [true_or, if_true, List.nil_append, not_true_eq_false, iff_false]
    intro same
    have length := congrArg List.length same
    rw [length_formDecodePairs_merged List.getLast?_concat (by decide), List.length_append,
      List.length_cons] at length
    omega
  · refine iff_of_true ?_ mark
    by_cases ampersand : last = '&'
    · subst ampersand
      simp only [or_true, if_true, List.nil_append, List.append_assoc, List.singleton_append,
        formDecodePairs_append, formDecodePairs_formEncodePairs, formDecodePairs_nil, List.append_nil]
    · rw [if_neg (by simp [mark, ampersand]), List.singleton_append, formDecodePairs_append,
        formDecodePairs_formEncodePairs]

/-- Parameters behind a fragment become part of it. -/
private theorem not_appends_of_fragment {url : String} {params : OrderedMap String}
    (nonempty : params.isEmpty = false) (fragment : '#' ∈ url.toList) :
    ¬AppendsParams url params (appendQuery url params) ∧ (UrlParts.of url).fragment ≠ [] := by
  obtain ⟨before, behind, text, first⟩ := List.eq_append_cons_of_mem fragment
  have whole : (UrlParts.of url).fragment = '#' :: behind := by
    rw [UrlParts.of, text, dropWhile_ne_append first]
  refine ⟨fun appends => ?_, by simp [whole]⟩
  have same := appends.fragment
  rw [whole, UrlParts.of, toList_appendQuery url nonempty, text, List.append_assoc, List.cons_append,
    dropWhile_ne_append first, List.cons.injEq, List.append_right_eq_self] at same
  have written : formEncodePairs params.entries = [] := (List.append_eq_nil_iff.mp same.2).2
  have none : params.entries = [] := by
    rw [← formDecodePairs_formEncodePairs params.entries, written, formDecodePairs_nil]
  rw [OrderedMap.isEmpty, none] at nonempty
  cases nonempty

/-- A URL with a query and without a fragment. -/
private theorem appends_iff_of_query {url : String} {address query : List Char}
    {params : OrderedMap String} (nonempty : params.isEmpty = false)
    (text : url.toList = address ++ '?' :: query) (first : '?' ∉ address)
    (noFragment : '#' ∉ address) (noFragment' : '#' ∉ query) :
    AppendsParams url params (appendQuery url params) ↔ query.getLast? ≠ some '?' := by
  have changed := toList_appendQuery url nonempty
  rw [text, List.append_assoc, List.cons_append] at changed
  have clean : '#' ∉ query ++
      (querySeparator (address ++ '?' :: query) ++ formEncodePairs params.entries) := by
    simp only [List.mem_append, not_or]
    exact ⟨noFragment', not_mem_querySeparator _,
      not_mem_formEncodePairs (by decide) (by decide) (by decide)⟩
  have parts := UrlParts.of_query noFragment noFragment' first text
  have parts' := UrlParts.of_query noFragment clean first changed
  have filled : params.entries ≠ [] := by simpa [OrderedMap.isEmpty] using nonempty
  have read := formDecodePairs_behind_iff address query filled
  constructor
  · intro appends
    have behind := appends.query
    rw [parts', parts] at behind
    exact read.mp behind
  · intro ends
    refine ⟨by rw [parts', parts], ?_, by rw [parts', parts]⟩
    rw [parts', parts]
    exact read.mpr ends

/-- A URL without a query and without a fragment. -/
private theorem appends_of_address {url : String} {params : OrderedMap String}
    (nonempty : params.isEmpty = false) (noFragment : '#' ∉ url.toList)
    (noQuery : '?' ∉ url.toList) : AppendsParams url params (appendQuery url params) := by
  have separator : querySeparator url.toList = ['?'] := if_pos noQuery
  have changed := toList_appendQuery url nonempty
  rw [separator, List.singleton_append] at changed
  have clean : '#' ∉ formEncodePairs params.entries :=
    not_mem_formEncodePairs (by decide) (by decide) (by decide)
  have parts := UrlParts.of_address noFragment noQuery rfl
  have parts' := UrlParts.of_query noFragment clean noQuery changed
  refine ⟨by rw [parts', parts], ?_, by rw [parts', parts]⟩
  rw [parts', parts, formDecodePairs_formEncodePairs, formDecodePairs_nil, List.nil_append]

/-- The parameters are read behind the query exactly if there is no fragment and the query does not
end in a question mark. -/
theorem appendQuery_appends_iff (url : String) {params : OrderedMap String}
    (nonempty : params.isEmpty = false) :
    AppendsParams url params (appendQuery url params) ↔
      (UrlParts.of url).fragment = [] ∧ (UrlParts.of url).query.getLast? ≠ some '?' := by
  by_cases fragment : '#' ∈ url.toList
  · obtain ⟨lost, present⟩ := not_appends_of_fragment nonempty fragment
    exact iff_of_false lost fun complete => present complete.1
  by_cases asked : '?' ∈ url.toList
  · obtain ⟨address, query, text, first⟩ := List.eq_append_cons_of_mem asked
    rw [text, List.mem_append, not_or, List.mem_cons, not_or] at fragment
    obtain ⟨noFragment, -, noFragment'⟩ := fragment
    rw [appends_iff_of_query nonempty text first noFragment noFragment',
      UrlParts.of_query noFragment noFragment' first text]
    exact (and_iff_right rfl).symm
  · refine iff_of_true (appends_of_address nonempty fragment asked) ?_
    rw [UrlParts.of_address fragment asked rfl]
    exact ⟨rfl, nofun⟩

/-- A parameter with a space behind another one. -/
theorem appendQuery_appends_behind :
    let params : OrderedMap String := .ofList [("q", "a b&c")]
    params.isEmpty = false ∧
      AppendsParams "http://h/s?x=1" params (appendQuery "http://h/s?x=1" params) := by
  intro params
  have nonempty : params.isEmpty = false := by decide
  exact ⟨nonempty, (appendQuery_appends_iff "http://h/s?x=1" nonempty).mpr (by decide +kernel)⟩

/-- A value that ends in a question mark and the parameter behind it are read as one value. -/
theorem appendQuery_merges :
    let url := "http://h/s?a=x?"
    let params : OrderedMap String := .ofList [("q", "1")]
    params.isEmpty = false ∧ formDecodePairs (UrlParts.of url).query = [("a", "x?")] ∧
      formDecodePairs (UrlParts.of (appendQuery url params)).query = [("a", "x?q=1")] ∧
      ¬AppendsParams url params (appendQuery url params) := by
  intro url params
  have before : formDecodePairs (UrlParts.of url).query = [("a", "x?")] := by decide +kernel
  have behind : formDecodePairs (UrlParts.of (appendQuery url params)).query = [("a", "x?q=1")] := by
    decide +kernel
  refine ⟨by decide, before, behind, fun appends => ?_⟩
  have read := appends.query
  rw [before, behind] at read
  revert read
  decide

end RequestChain
