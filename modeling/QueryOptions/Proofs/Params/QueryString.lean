import QueryOptions.Proofs.Params.Percent
import QueryOptions.Proofs.Text.Cutting
import QueryOptions.Query

/-!
# Query strings read back

A query string is read piece by piece. As long as no key has an equals sign,
the parameters that it was written for come back in order, repeated and empty
keys included.
-/

namespace QueryOptions

theorem Percent.ampersand_not_mem (raw : String) : '&' ∉ (encodeComponent raw).toList := by
  intro written
  have readable := (mem_of_mem_encodeComponent written (by decide)).1
  revert readable
  decide

theorem Percent.equals_not_mem {raw : String} (absent : '=' ∉ raw.toList) :
    '=' ∉ (encodeComponent raw).toList :=
  fun written => absent (mem_of_mem_encodeComponent written (by decide)).2

namespace Params

/-- The key before the first equals sign of a piece, and the value after it. -/
def readPair? (piece : List Char) : Option (String × String) := do
  let key ← Percent.decodeComponent? (piece.takeWhile (· ≠ '='))
  let value ← Percent.decodeComponent? ((piece.dropWhile (· ≠ '=')).drop 1)
  some (key, value)

/-- The parameters in a query string; an empty one has none. -/
def read? (query : String) : Option Params :=
  if query = "" then some {} else ((Text.cut '&' query.toList).mapM readPair?).map Params.mk

def pairText (pair : String × String) : String :=
  Percent.encodeComponent pair.1 ++ "=" ++ Percent.encodeComponent pair.2

theorem toList_pairText (key value : String) :
    (pairText (key, value)).toList =
      (Percent.encodeComponent key).toList ++ '=' :: (Percent.encodeComponent value).toList := by
  simp [pairText]

theorem pairText_ne_empty (pair : String × String) : pairText pair ≠ "" := by
  intro empty
  have none := congrArg String.toList empty
  rw [toList_pairText] at none
  simp at none

theorem ampersand_not_mem_pairText (pair : String × String) : '&' ∉ (pairText pair).toList := by
  rw [toList_pairText]
  simp [Percent.ampersand_not_mem]

theorem readPair?_pairText {key : String} (noEquals : '=' ∉ key.toList) (value : String) :
    readPair? (pairText (key, value)).toList = some (key, value) := by
  have before : ∀ c ∈ (Percent.encodeComponent key).toList, decide (c ≠ '=') = true := by
    intro c written
    have absent := Percent.equals_not_mem noEquals
    exact decide_eq_true fun equals => absent (equals ▸ written)
  rw [toList_pairText, readPair?, List.takeWhile_append_of_pos before,
    List.dropWhile_append_of_pos before]
  simp [Percent.decodeComponent?_encodeComponent]

theorem mapM_readPair? {pairs : List (String × String)}
    (noEquals : ∀ pair ∈ pairs, '=' ∉ pair.1.toList) :
    ((pairs.map pairText).map String.toList).mapM readPair? = some pairs := by
  induction pairs with
  | nil => rfl
  | cons pair rest inductionHypothesis =>
      have first := readPair?_pairText (noEquals pair List.mem_cons_self) pair.2
      have others := inductionHypothesis fun other later => noEquals other (.tail pair later)
      rw [List.map_cons, List.map_cons, List.mapM_cons, first, others]
      rfl

theorem cut_queryString {p : Params} (nonempty : p.pairs ≠ []) :
    Text.cut '&' p.queryString.toList = (p.pairs.map pairText).map String.toList := by
  refine Text.cut_join rfl (by simpa using nonempty) ?_
  intro text present
  obtain ⟨pair, _, rfl⟩ := List.mem_map.mp present
  exact ampersand_not_mem_pairText pair

theorem queryString_ne_empty {p : Params} (nonempty : p.pairs ≠ []) : p.queryString ≠ "" := by
  intro empty
  have pieces := cut_queryString nonempty
  rw [empty, List.map_map] at pieces
  -- The only piece of the empty text has no equals sign.
  have single : [] ∈ p.pairs.map (String.toList ∘ pairText) := pieces ▸ List.mem_cons_self
  obtain ⟨pair, _, blank⟩ := List.mem_map.mp single
  exact pairText_ne_empty pair (String.toList_eq_nil_iff.mp blank)

theorem read?_queryString {p : Params} (noEquals : ∀ key ∈ p.keys, '=' ∉ key.toList) :
    read? p.queryString = some p := by
  by_cases none : p.pairs = []
  · obtain ⟨pairs⟩ := p
    cases none
    rfl
  · have pairs : ∀ pair ∈ p.pairs, '=' ∉ pair.1.toList :=
      fun pair present => noEquals pair.1 (List.mem_map_of_mem present)
    rw [read?, if_neg (queryString_ne_empty none), cut_queryString none, mapM_readPair? pairs]
    rfl

theorem pairs_extend (p : Params) (compiled : Compiled) :
    (p.extend compiled).pairs =
      p.pairs ++ compiled.pairs.map fun pair => (pair.1.name, pair.2) := by
  obtain ⟨pairs⟩ := compiled
  unfold extend
  induction pairs generalizing p with
  | nil => simp
  | cons pair rest inductionHypothesis =>
      rw [List.foldl_cons, inductionHypothesis]
      simp [append]

theorem ofCompiled_eq (compiled : Compiled) :
    ofCompiled compiled = ⟨compiled.pairs.map fun (key, value) => (key.name, value)⟩ :=
  congrArg Params.mk (pairs_extend {} compiled)

theorem equals_not_mem_name (key : QueryKey) : '=' ∉ key.name.toList := by
  cases key <;> decide

theorem read?_queryString_ofCompiled (compiled : Compiled) :
    read? (ofCompiled compiled).queryString = some (ofCompiled compiled) := by
  refine read?_queryString fun key present => ?_
  rw [ofCompiled_eq] at present
  obtain ⟨pair, written, rfl⟩ := List.mem_map.mp present
  obtain ⟨parameter, _, rfl⟩ := List.mem_map.mp written
  exact equals_not_mem_name parameter.1

/-- Parameters whose keys have no equals sign are recovered from their query string, whatever
characters keys and values have. So are the parameters of every query that compiles, from the
query string of the query. -/
theorem queryString_reads_back :
    (∀ p : Params, (∀ key ∈ p.keys, '=' ∉ key.toList) → read? p.queryString = some p) ∧
    ∀ q : Query, q.queryString.map read? =
      q.compile.map fun compiled =>
        some ⟨compiled.pairs.map fun (key, value) => (key.name, value)⟩ := by
  refine ⟨fun p noEquals => read?_queryString noEquals, fun q => ?_⟩
  cases compiles : q.compile with
  | error error => simp [Query.queryString, Query.params, compiles, Except.map]
  | ok compiled =>
      simp only [Query.queryString, Query.params, compiles, Except.map]
      rw [read?_queryString_ofCompiled, ofCompiled_eq]

/-- What looks like an escape, a separator or another key stays part of its value. -/
theorem queryString_reads_back_escapes :
    let p : Params := ⟨[("$filter", "Name eq 'a&b=%26'"), ("", "é😀"), ("", "+"), ("$filter", "")]⟩
    p.queryString = "$filter=Name%20eq%20'a%26b=%2526'&=%C3%A9%F0%9F%98%80&=%2B&$filter=" ∧
    read? p.queryString = some p := by
  intro p
  exact ⟨by decide, queryString_reads_back.1 p (by decide)⟩

end Params

end QueryOptions
