/-
  DocumentStore.Http.Route — what a path leads to.

  A path names an area of the server and, behind a slash, a place in it. The place has no
  line feed, but for one at its end, which does not count. Empty parts of a place are left
  out. Only five methods are routed.

  A path that leads nowhere because of the slashes at its end is redirected to the path
  without them, at the host that the request names.

  The parts of a place and the methods are the server's own; the matching of paths, the
  redirection and the answers to what is not routed are the web framework's, and are assumed
  here as it documents them.
-/

import DocumentStore.Http.Message
import DocumentStore.Text.Blank

namespace DocumentStore.Http

structure Route where
  area : String
  place : List String
  deriving DecidableEq, Repr

/-- The place without the line feed at its end, if it has no other one. -/
def singleLine? : List Char → Option (List Char)
  | [] => some []
  | ['\n'] => some []
  | c :: cs => if c = '\n' then none else (singleLine? cs).map (c :: ·)

/-- The parts of a place. -/
def placeParts (cs : List Char) : List String :=
  ((Text.splitAt '/' cs).filter fun part => !part.isEmpty).map String.ofList

/-- The area and the place that a path leads to. -/
def Route.ofPath? (path : List Char) : Option Route :=
  match path with
  | '/' :: cs =>
    let area := cs.takeWhile (· ≠ '/')
    if area.isEmpty then none
    else
      match cs.dropWhile (· ≠ '/') with
      | [] => some ⟨String.ofList area, []⟩
      | _ :: place => (singleLine? place).map fun p => ⟨String.ofList area, placeParts p⟩
  | _ => none

def routedMethods : List String := ["GET", "POST", "PUT", "PATCH", "DELETE"]

/-- The path without the slashes at its end. -/
def dropEndSlashes (path : List Char) : List Char := Text.dropEndWhile (· = '/') path

/-- The path that leads somewhere in place of one that does not. -/
def redirectPath? (path : List Char) : Option (List Char) :=
  if path.getLast? = some '/' then
    let path := dropEndSlashes path
    if (Route.ofPath? path).isSome then some path else none
  else none

def hostHeader : String := "host"

/-- What comes before the path in an address at the host of a request, if it names one. -/
def hostAddress (headers : Headers) : List Char :=
  match headers.get? hostHeader with
  | some host => "http://".toList ++ host.toList
  | none => []

def redirectTo (request : Request) (path : List Char) : Response :=
  let query := if request.target.query.isEmpty then [] else '?' :: request.target.query
  let address := hostAddress request.headers ++ path ++ query
  .make 307 .nothing [("location", String.ofList (percentEncode address))]

/-- The answer to a path that leads nowhere. -/
def astray (request : Request) : Response :=
  match redirectPath? request.target.path with
  | some path => redirectTo request path
  | none => .detail 404 "Not Found" []

def methodRefused : Response :=
  .detail 405 "Method Not Allowed" [("allow", "DELETE, GET, PATCH, POST, PUT")]

/-- The route of a request, or the answer to a request that has none. -/
def route (request : Request) : Except Response Route :=
  match Route.ofPath? request.target.path with
  | none => .error (astray request)
  | some r => if routedMethods.contains request.method then .ok r else .error methodRefused

end DocumentStore.Http
