/-
  DocumentStore.Http.CrossOrigin — what pages of other origins may do: everything.

  A request from a page names the page's origin. Before a request that is not a plain one a
  page asks for leave with a preflight, which is answered without looking at its path:
  every origin and every header is allowed, the methods are the routed ones and the
  preflight's own. A page on a public network asks in vain for a private one.

  That everything is allowed is the server's own setting; what is answered under it is the web
  framework's part, and is assumed here as it documents it.
-/

import DocumentStore.Http.Route

namespace DocumentStore.Http

def originHeader : String := "origin"

def askedMethodHeader : String := "access-control-request-method"

def askedHeadersHeader : String := "access-control-request-headers"

def askedNetworkHeader : String := "access-control-request-private-network"

/-- The method that a preflight asks leave for. -/
def preflight? (request : Request) : Option String :=
  if request.method = "OPTIONS" ∧ request.headers.has originHeader then
    request.headers.get? askedMethodHeader
  else none

def allowedMethods : List String := routedMethods ++ ["OPTIONS"]

/-- What a preflight asks for in vain. -/
def refusedParts (request : Request) (method : String) : List String :=
  (if allowedMethods.contains method then [] else ["method"]) ++
    if request.headers.has askedNetworkHeader then ["private-network"] else []

def preflightHeaders (request : Request) : Headers :=
  [("vary", "Origin, Access-Control-Request-Method, Access-Control-Request-Headers, " ++
      "Access-Control-Request-Private-Network"),
    ("access-control-allow-origin", "*"),
    ("access-control-allow-methods", String.intercalate ", " allowedMethods),
    ("access-control-max-age", "86400")] ++
    match request.headers.get? askedHeadersHeader with
    | some headers => [("access-control-allow-headers", headers)]
    | none => []

def answerPreflight (request : Request) (method : String) : Response :=
  match refusedParts request method with
  | [] => .make 200 (.plain "OK") (preflightHeaders request)
  | parts =>
    .make 400 (.plain ("Disallowed CORS " ++ String.intercalate ", " parts))
      (preflightHeaders request)

/-- The headers that let the page of a request read the answer. -/
def shareHeaders (request : Request) : Headers :=
  ("vary", "Origin") ::
    if request.headers.has originHeader then [("access-control-allow-origin", "*")] else []

end DocumentStore.Http
