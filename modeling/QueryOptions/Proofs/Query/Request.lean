import QueryOptions.Proofs.Params.QueryString
import QueryOptions.Proofs.Url.Escape
import QueryOptions.Query.Request

/-!
# What becomes of a request

A request needs an address, one that can be read, and a query that compiles, in
this order. Without parameters it is the address as it was read. With some, the
query of the address is replaced, and although it has been encoded twice it
still reads as the parameters.

Reading an address and replacing its query are left open: of the one nothing is
assumed, of the other what the standard for addresses says.
-/

namespace QueryOptions

open Url (escapeWhere KeepsPairs)

namespace Percent

theorem not_isBreak_of_mem {raw : String} {c : Char}
    (written : c ∈ (encodeComponent raw).toList) : Url.isBreak c = false := by
  by_contra isBreak
  have listed : (c = '\t' ∨ c = '\n') ∨ c = '\r' := by
    simpa [Url.isBreak] using Bool.of_not_eq_false isBreak
  -- None of the three is readable, and none belongs to an escape.
  rcases listed with (rfl | rfl) | rfl <;>
    exact absurd (mem_of_mem_encodeComponent written (by decide)).1 (by decide)

end Percent

namespace Params

variable {escaped : Char → Bool}

/-- The parameters in the query of an address. -/
def readPairs? (query : String) : Option (List (String × String)) :=
  (Text.cut '&' query.toList).mapM readPair?

theorem readPair?_escapeWhere (keeps : KeepsPairs escaped) (piece : List Char) :
    readPair? (escapeWhere escaped piece) = readPair? piece := by
  have equals := Url.keeps_separator (keeps.sign (c := '=') (by decide)) (by decide)
  have key : (escapeWhere escaped piece).takeWhile (· ≠ '=') =
      escapeWhere escaped (piece.takeWhile (· ≠ '=')) := equals.takeWhile_flatMap piece
  have value : ((escapeWhere escaped piece).dropWhile (· ≠ '=')).drop 1 =
      escapeWhere escaped ((piece.dropWhile (· ≠ '=')).drop 1) := by
    rw [escapeWhere, equals.dropWhile_flatMap]
    cases rest : piece.dropWhile (· ≠ '=') with
    | nil => rfl
    | cons sign others =>
        have isEquals : sign = '=' := by
          have stops := List.head?_dropWhile_not (· ≠ '=') piece
          rw [rest] at stops
          simpa using stops
        rw [isEquals, List.flatMap_cons, equals.separator_eq]
        rfl
  rw [readPair?, key, value, Url.decodeComponent?_escapeWhere keeps,
    Url.decodeComponent?_escapeWhere keeps, readPair?]

theorem readPairs?_escapeWhere (keeps : KeepsPairs escaped) (query : String) :
    readPairs? (String.ofList (escapeWhere escaped query.toList)) = readPairs? query := by
  have ampersand := Url.keeps_separator (keeps.sign (c := '&') (by decide)) (by decide)
  rw [readPairs?, String.toList_ofList, escapeWhere, ampersand.cut_flatMap, List.mapM_map,
    readPairs?]
  congr 1
  funext piece
  exact readPair?_escapeWhere keeps piece

theorem readPairs?_queryString {compiled : Compiled} (nonempty : compiled.pairs ≠ []) :
    readPairs? (ofCompiled compiled).queryString =
      some (compiled.pairs.map fun (key, value) => (key.name, value)) := by
  have nonempty : (ofCompiled compiled).pairs ≠ [] := by simpa [ofCompiled_eq] using nonempty
  rw [readPairs?, cut_queryString nonempty, mapM_readPair?, ofCompiled_eq]
  intro pair present
  rw [ofCompiled_eq] at present
  obtain ⟨parameter, _, rfl⟩ := List.mem_map.mp present
  exact equals_not_mem_name parameter.1

theorem isEmpty_queryString_iff {compiled : Compiled} :
    (ofCompiled compiled).queryString.isEmpty = true ↔ compiled.pairs = [] := by
  constructor
  · intro blank
    by_contra nonempty
    have written : (ofCompiled compiled).pairs ≠ [] := by simpa [ofCompiled_eq] using nonempty
    apply queryString_ne_empty written
    simpa using blank
  · intro empty
    rw [ofCompiled_eq, empty]
    rfl

theorem not_isBreak_of_mem_pairText {pair : String × String} {c : Char}
    (written : c ∈ (pairText pair).toList) : Url.isBreak c = false := by
  rw [toList_pairText, List.mem_append, List.mem_cons] at written
  rcases written with key | rfl | value
  · exact Percent.not_isBreak_of_mem key
  · rfl
  · exact Percent.not_isBreak_of_mem value

theorem not_isBreak_of_mem_queryString {p : Params} {c : Char}
    (written : c ∈ p.queryString.toList) : Url.isBreak c = false := by
  rcases Text.mem_join written with between | ⟨part, present, inside⟩
  · rw [List.mem_singleton.mp between]
    rfl
  · obtain ⟨pair, _, rfl⟩ := List.mem_map.mp present
    exact not_isBreak_of_mem_pairText inside

end Params

namespace Url

/-- What the standard for addresses says of replacing the query of an address: nothing else
changes, and a text without line breaks and tabulators is written with more of its characters
escaped, but none of those that escapes and pairs are made of. -/
structure ReplacesQuery (setQuery : Url → String → Url) : Prop where
  others : ∀ base text, setQuery base text = { base with query := (setQuery base text).query }
  query : ∀ base text, (∀ c ∈ text.toList, isBreak c = false) →
    ∃ escaped, KeepsPairs escaped ∧
      (setQuery base text).query = some (String.ofList (escapeWhere escaped text.toList))

theorem ReplacesQuery.readPairs?_eq {setQuery : Url → String → Url}
    (replaces : ReplacesQuery setQuery) (base : Url) (p : Params) :
    ∃ query, setQuery base p.queryString = { base with query := some query } ∧
      Params.readPairs? query = Params.readPairs? p.queryString := by
  obtain ⟨escaped, keeps, written⟩ := replaces.query base p.queryString
    fun c present => Params.not_isBreak_of_mem_queryString present
  refine ⟨_, ?_, Params.readPairs?_escapeWhere keeps p.queryString⟩
  rw [replaces.others, written]

theorem replacesQuery_withQuery : ReplacesQuery withQuery where
  others _ _ := rfl
  query base _ _ := ⟨escapedInQuery base.kind.isSpecial, keepsPairs_escapedInQuery _, rfl⟩

end Url

namespace Query

/-- The address of a request, for any way to read an address and to replace its query. -/
def requestUrlBy (parse : String → Except UrlError Url) (setQuery : Url → String → Url)
    (q : Query) : Except RequestError Url :=
  match q.url with
  | none => .error .missingUrl
  | some text =>
    match parse text with
    | .error error => .error (.invalidUrl error)
    | .ok base =>
      match q.queryString with
      | .error error => .error (.unterminated error)
      | .ok query => .ok (if query.isEmpty then base else setQuery base query)

theorem requestUrl_eq (q : Query) : q.requestUrl = q.requestUrlBy Url.parse Url.withQuery := rfl

/-- What a request comes to. -/
inductive Requests (parse : String → Except UrlError Url) (q : Query) :
    Except RequestError Url → Prop
  | missingUrl (absent : q.url = none) : Requests parse q (.error .missingUrl)
  | invalidUrl {text : String} {error : UrlError} (given : q.url = some text)
      (unread : parse text = .error error) : Requests parse q (.error (.invalidUrl error))
  | unterminated {text : String} {base : Url} {error : UnterminatedScope}
      (given : q.url = some text) (read : parse text = .ok base)
      (fails : q.compile = .error error) : Requests parse q (.error (.unterminated error))
  | plain {text : String} {base : Url} {compiled : Compiled} (given : q.url = some text)
      (read : parse text = .ok base) (compiles : q.compile = .ok compiled)
      (empty : compiled.pairs = []) : Requests parse q (.ok base)
  | parameters {text : String} {base : Url} {compiled : Compiled} {query : String}
      (given : q.url = some text) (read : parse text = .ok base)
      (compiles : q.compile = .ok compiled) (nonempty : compiled.pairs ≠ [])
      (pairs : Params.readPairs? query =
        some (compiled.pairs.map fun (key, value) => (key.name, value))) :
      Requests parse q (.ok { base with query := some query })

theorem requests_requestUrlBy {parse : String → Except UrlError Url}
    {setQuery : Url → String → Url} (replaces : Url.ReplacesQuery setQuery) (q : Query) :
    q.Requests parse (q.requestUrlBy parse setQuery) := by
  unfold requestUrlBy
  cases given : q.url with
  | none => exact .missingUrl given
  | some text =>
      cases read : parse text with
      | error error => simpa [read] using Requests.invalidUrl given read
      | ok base =>
          cases compiles : q.compile with
          | error error =>
              simpa [read, queryString, params, compiles, Except.map] using
                Requests.unterminated given read compiles
          | ok compiled =>
              simp only [read, queryString, params, compiles, Except.map]
              by_cases empty : compiled.pairs = []
              · rw [if_pos (Params.isEmpty_queryString_iff.mpr empty)]
                exact .plain given read compiles empty
              · obtain ⟨query, replaced, same⟩ :=
                  replaces.readPairs?_eq base (Params.ofCompiled compiled)
                rw [if_neg (mt Params.isEmpty_queryString_iff.mp empty), replaced]
                apply Requests.parameters given read compiles empty
                rw [same, Params.readPairs?_queryString empty]

/-- A request without an address, with one that cannot be read or with a query that does not
compile fails for the first of these reasons; any other succeeds. Without parameters it is the
address as it was read, with its own query; with some, only the query differs, and it is cut
and decoded into them. This holds of every way to read an address and of every way to replace
a query that keeps to the standard, and of those that requests use. -/
theorem requestUrl_requests :
    (∀ (parse : String → Except UrlError Url) (setQuery : Url → String → Url),
      Url.ReplacesQuery setQuery → ∀ q : Query, q.Requests parse (q.requestUrlBy parse setQuery)) ∧
    ∀ q : Query, q.Requests Url.parse q.requestUrl := by
  constructor
  · intro parse setQuery replaces q
    exact requests_requestUrlBy replaces q
  · intro q
    rw [requestUrl_eq]
    exact requests_requestUrlBy Url.replacesQuery_withQuery q

/-- The quotes are escaped by the address only, the other characters before; the query that the
address had is gone and its fragment stays. -/
theorem requestUrl_requests_encoded_twice :
    let comparison : Comparison := { field := "Name", op := .eq, value := .text "rock & roll" }
    let q : Query :=
      { filter := Filter.compare {} comparison false
        url := some "HTTPS://shop.example/Products?old=1#part" }
    q.Requests Url.parse (q.requestUrlBy Url.parse Url.withQuery) ∧
      q.requestUrl.map Url.text =
        .ok "https://shop.example/Products?$filter=Name%20eq%20%27rock%20%26%20roll%27#part" := by
  intro comparison q
  refine ⟨requestUrl_requests.1 Url.parse Url.withQuery Url.replacesQuery_withQuery q, ?_⟩
  decide +kernel

end Query

end QueryOptions
