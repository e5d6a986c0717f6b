import Gatehouse.Http.Header

/-!
# Cookies

Cookies come as `name=value` pairs between semicolons. A client may spread them over several header
fields; a server sets each in a field of its own, with attributes after the first semicolon.
-/

namespace Gatehouse

namespace Http

/-- Drops the double quotes around a text. -/
def unquote (s : List Char) : List Char := Text.trimWhere (· == '"') s

/-- A `name=value` pair: the name trimmed, the value as it stands. -/
def cookiePair? (s : List Char) : Option (List Char × List Char) :=
  (Text.cutFirst '=' (Text.trimWhere Text.isBlank s)).map fun p =>
    (Text.trimWhere Text.isBlank p.1, p.2)

/-- The text of a cookie's value: without blanks around it, and then without quotes. -/
def cookieText (v : List Char) : String :=
  String.ofList (unquote (Text.trimWhere Text.isBlank v))

/-- The pairs in one field. -/
def cookiesIn (field : String) : List (List Char × List Char) :=
  (List.splitOn ';' field.toList).filterMap cookiePair?

namespace Headers

/-- All the cookies that a client sent, field by field. -/
def cookies (h : Headers) : List (List Char × List Char) :=
  (h.readAll "cookie").flatMap cookiesIn

/-- The value of the first cookie of a name. -/
def cookie? (h : Headers) (name : String) : Option String :=
  ((h.cookies.find? fun p => p.1 = name.toList).map Prod.snd).map cookieText

/-- The pairs that a server set, each field up to its first semicolon. -/
def issuedCookies (h : Headers) : List (List Char × List Char) :=
  (h.readAll "set-cookie").filterMap fun field =>
    cookiePair? (field.toList.takeWhile (· ≠ ';'))

/-- The value that a server gave a cookie: the last one that is not blank. -/
def issuedCookie? (h : Headers) (name : String) : Option String :=
  ((h.issuedCookies.filter fun p =>
    p.1 = name.toList && !(Text.trimWhere Text.isBlank p.2).isEmpty).getLast?.map
      Prod.snd).map cookieText

end Headers

end Http

end Gatehouse
