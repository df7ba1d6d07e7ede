import SessionOperator.Cluster.Http

/-!
# An API server in memory

Objects by their paths, and prepared responses that win over them.  A merge patch that changes an object raises the
number in its resource version; a patch of another type changes nothing.

* `ApiServer.answer`: the response to a request and the server after it.
-/

namespace SessionOperator

/-- A response that is given to every request of a method and a path. -/
structure PreparedResponse where
  method : String
  path : String
  response : HttpResponse
  deriving DecidableEq

structure ApiServer where
  objects : Dict Json
  prepared : List PreparedResponse

namespace ApiServer

def ok (object : Json) : HttpResponse := ⟨200, object.compact⟩

def lastSegment (path : String) : String := String.ofList ((path.toList.reverse.takeWhile fun c => c ≠ '/').reverse)

def notFound (path : String) : HttpResponse :=
  ⟨404, (Json.object [("kind", .str "Status"), ("apiVersion", .str "v1"), ("status", .str "Failure"),
    ("message", .str (lastSegment path ++ " not found")), ("reason", .str "NotFound"), ("code", .int 404)]).compact⟩

def setVersion (object : Json) (version : Nat) : Json :=
  object.set "metadata" (((object.get? "metadata").getD .empty).set "resourceVersion" (.str (toString version)))

/-- A number of 64 bits, which may have a plus sign. -/
def number? (text : String) : Option Nat :=
  let digits := if text.startsWith "+" then text.toList.drop 1 else text.toList
  if digits.all Char.isDigit then (String.ofList digits).toNat?.filter fun n => n < Nat.pow 2 64 else none

/-- The version of an object; one that is no number counts as zero. -/
def version (object : Json) : Nat :=
  (((object.path? ["metadata", "resourceVersion"]).bind Json.str?).bind number?).getD 0

def nameOf (object : Json) : String := ((object.path? ["metadata", "name"]).bind Json.str?).getD ""

/-- The object that a path is about; the status of an object is a part of it. -/
def subject (path : String) : String :=
  if path.endsWith "/status" then String.ofList (path.toList.take (path.length - "/status".length)) else path

/-- The object after a patch. -/
def patched (r : HttpRequest) (object : Json) : Json :=
  match r.contentType, r.content? with
  | some "application/merge-patch+json", some patch =>
    let changed := object.mergePatch patch
    if changed = object then object else setVersion changed (version object + 1)
  | _, _ => object

/-- The response to a request that nothing is prepared for. -/
def serve (s : ApiServer) (r : HttpRequest) : HttpResponse × ApiServer :=
  if r.method = "POST" then
    let object := setVersion (r.content?.getD .empty) 1
    (⟨201, object.compact⟩, { s with objects := s.objects.insert (r.target.path ++ "/" ++ nameOf object) object })
  else
    let path := if r.method = "PATCH" then subject r.target.path else r.target.path
    match s.objects.get? path with
    | none => (notFound path, s)
    | some object =>
      if r.method = "PATCH" then
        let object := patched r object
        (ok object, { s with objects := s.objects.insert path object })
      else if r.method = "DELETE" then (ok object, { s with objects := s.objects.erase path })
      else (ok object, s)

def respond (s : ApiServer) (r : HttpRequest) : HttpResponse × ApiServer :=
  match s.prepared.find? fun p => p.method = r.method && p.path = r.target.path with
  | some p => (p.response, s)
  | none => s.serve r

/-- No other service is within reach of this server. -/
def answer : Handler wireInterface ApiServer
  | .api r, s => s.respond r
  | .fetch _, s => (none, s)

end ApiServer

end SessionOperator
