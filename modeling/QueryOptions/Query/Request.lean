import QueryOptions.Query
import QueryOptions.Url.Basic

/-!
Request addresses: the base address of a query with its parameters attached.
-/

namespace QueryOptions

inductive RequestError where
  | missingUrl
  | invalidUrl (error : UrlError)
  | unterminated (error : UnterminatedScope)
  deriving DecidableEq, Repr

def RequestError.message : RequestError → String
  | .missingUrl => "no base url configured for the query"
  | .invalidUrl error => "invalid base url: " ++ error.message
  | .unterminated error => error.message

/-- The base address with the query string in place of its own query. A query
without parameters leaves the base as it is. -/
def Query.requestUrl (q : Query) : Except RequestError Url :=
  match q.url with
  | none => .error .missingUrl
  | some text =>
    match Url.parse text with
    | .error error => .error (.invalidUrl error)
    | .ok base =>
      match q.queryString with
      | .error error => .error (.unterminated error)
      | .ok query => .ok (if query.isEmpty then base else base.withQuery query)

end QueryOptions
