/-!
# Web addresses

An address of the `http` or `https` scheme in its canonical parts.  Every part is
kept as it is written: percent-encoded, lower-cased and with the default port
left out.
-/

namespace ShapeQuery

inductive Scheme where
  | http
  | https
  deriving DecidableEq, Repr

namespace Scheme

def name : Scheme → String
  | .http => "http"
  | .https => "https"

/-- The port that is not written. -/
def defaultPort : Scheme → Nat
  | .http => 80
  | .https => 443

end Scheme

structure Url where
  scheme : Scheme
  credentials : String
  host : String
  port : Option Nat
  path : String
  query : Option String
  fragment : Option String
  deriving DecidableEq, Repr

namespace Url

/-- What a request asks the host for: the path and the query. -/
def target (url : Url) : String :=
  url.path ++
    (match url.query with
      | some query => "?" ++ query
      | none => "")

/-- The text of an address; `credentials` carries its own separator. -/
def render (url : Url) : String :=
  url.scheme.name ++ "://" ++ url.credentials ++ url.host ++
    (match url.port with
      | some port => ":" ++ Nat.repr port
      | none => "") ++
    url.path ++
    (match url.query with
      | some query => "?" ++ query
      | none => "") ++
    (match url.fragment with
      | some fragment => "#" ++ fragment
      | none => "")

end Url

end ShapeQuery
