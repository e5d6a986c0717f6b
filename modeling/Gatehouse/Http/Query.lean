import Gatehouse.Text.Percent

/-!
# Query parameters

The parameters in a query are `name=value` pairs between ampersands, in which a plus sign stands for
a space and any byte may be percent-coded.
-/

namespace Gatehouse

namespace Http

/-- The text that a part of a query stands for. -/
def queryText (s : List Char) : String :=
  let spaced := s.map fun c => if c = '+' then ' ' else c
  String.ofList (Text.ofBytes (Text.percentDecode (Text.toBytes spaced)))

/-- A pair in a query. Without an equals sign the value is empty. -/
def queryPair (s : List Char) : String × String :=
  match Text.cutFirst '=' s with
  | some (k, v) => (queryText k, queryText v)
  | none => (queryText s, "")

/-- The parameters in a query, in order. -/
def queryParams (query : String) : List (String × String) :=
  ((List.splitOn '&' query.toList).filter (· ≠ [])).map queryPair

/-- The value of the first parameter of a name. -/
def queryParam? (query name : String) : Option String := (queryParams query).lookup name

end Http

end Gatehouse
