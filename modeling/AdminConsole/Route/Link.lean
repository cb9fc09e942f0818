import AdminConsole.Route.Table

/-!
# Links

A link to a named route is the URL of its pattern with the parameters filled in: those of the path
always, those of the query list in its order, unless they are absent or equal to a default that is left
out. Reading a URL takes it apart again. A query that is not properly encoded spoils the whole URL: it is
read as the empty path, without parameters.
-/

set_option autoImplicit false

namespace AdminConsole

namespace RouteTable

/-- A query parameter as `name=value`. -/
def queryPair (name value : String) : String :=
  Percent.encode name ++ "=" ++ Percent.encode value

/-- The query parameters that a link carries, in the order of the query list. -/
def linkQuery (schema : ParamSchema) (values : RouteParams) (names : List String) : List String :=
  names.filterMap fun name => do
    let value ← values.get? name
    if (schema.descriptor? name).any fun d => d.isSquashed (some value) then none
    else some (queryPair name value)

/-- The URL of a named route with these parameters. -/
def href (t : RouteTable) (name : String) (params : RouteParams) : Except RouterError String := do
  let r ← t.concrete name
  let some pattern := r.pattern | throw (.invalidRouteName name)
  let values := r.schema.materialize Dictionary.empty params
  match pattern.reverse values with
  | some path =>
      match linkQuery r.schema values pattern.queryNames with
      | [] => return path
      | pairs => return path ++ "?" ++ Text.join "&" pairs
  | none =>
      let missing := pattern.paramNames.find? fun param => !values.contains param
      throw (.missingParameter (missing.getD "") name)

end RouteTable

namespace RouteUrl

/-- The name and value of a query piece; a piece without `=` has the empty value. -/
def cutPair (piece : List Char) : List Char × List Char :=
  (Text.cutFirst '=' piece).getD (piece, [])

/-- The decoded parameters of a query, put into a dictionary in order; none if one is not UTF-8. -/
def decodePieces : List (List Char) → Dictionary String → Option (Dictionary String)
  | [], values => some values
  | piece :: more, values => do
      let (name, value) := cutPair piece
      let name ← Percent.decodeChars name
      let value ← Percent.decodeChars value
      decodePieces more (values.insert name value)

/-- The path and the query parameters of a URL. -/
def split (url : String) : String × Dictionary String :=
  match Text.cutFirst '?' url.toList with
  | none => (url, Dictionary.empty)
  | some (path, query) =>
      match decodePieces (Pattern.queryPieces query) Dictionary.empty with
      | some values => (String.ofList path, values)
      | none => ("", Dictionary.empty)

end RouteUrl

end AdminConsole
