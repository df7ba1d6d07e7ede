import SessionOperator.Child
import SessionOperator.Cluster.Request
import SessionOperator.Form.Reader
import SessionOperator.Session.Codec

/-!
# Responses of the API server

What the texts mean that requests are answered by.  An answer between 400 and 599 is a refusal; its account of why is
read from the body, or made up from the status line and the body when the body does not say.

* `HttpResponse.accept`: what a response holds, or why the request failed;
* `HttpResponse.refusal`: what a refusal says.
-/

namespace SessionOperator

structure HttpResponse where
  status : Nat
  body : String
  deriving DecidableEq

/-! ### Refusals -/

namespace ApiError

def form : Form := .record "struct ErrorResponse" [
  ("status", .required, .text), ("message", .defaulted, .text), ("reason", .defaulted, .text),
  ("code", .required, .natural 16)]

def decode : Decoder ApiError := fun j => do
  let r ← Record.ofForm form j
  let status ← r.required "status" Decoder.text
  let message ← r.withDefault "message" "" Decoder.text
  let reason ← r.withDefault "reason" "" Decoder.text
  let code ← r.required "code" Decoder.nat16
  .ok (.refused status message reason code)

def document : Document ApiError := ⟨form, decode⟩

end ApiError

namespace HttpResponse

/-- The phrases of the status codes of refusals. -/
def phrases : List (Nat × String) := [
  (400, "Bad Request"), (401, "Unauthorized"), (402, "Payment Required"), (403, "Forbidden"), (404, "Not Found"),
  (405, "Method Not Allowed"), (406, "Not Acceptable"), (407, "Proxy Authentication Required"),
  (408, "Request Timeout"), (409, "Conflict"), (410, "Gone"), (411, "Length Required"), (412, "Precondition Failed"),
  (413, "Payload Too Large"), (414, "URI Too Long"), (415, "Unsupported Media Type"), (416, "Range Not Satisfiable"),
  (417, "Expectation Failed"), (418, "I'm a teapot"), (421, "Misdirected Request"), (422, "Unprocessable Entity"),
  (423, "Locked"), (424, "Failed Dependency"), (425, "Too Early"), (426, "Upgrade Required"),
  (428, "Precondition Required"), (429, "Too Many Requests"), (431, "Request Header Fields Too Large"),
  (451, "Unavailable For Legal Reasons"), (500, "Internal Server Error"), (501, "Not Implemented"),
  (502, "Bad Gateway"), (503, "Service Unavailable"), (504, "Gateway Timeout"), (505, "HTTP Version Not Supported"),
  (506, "Variant Also Negotiates"), (507, "Insufficient Storage"), (508, "Loop Detected"), (510, "Not Extended"),
  (511, "Network Authentication Required")]

def phrase (status : Nat) : String := ((phrases.find? fun p => p.1 = status).map (·.2)).getD "<unknown status code>"

def isRefusal (r : HttpResponse) : Bool := 400 ≤ r.status && r.status < 600

def refusal (r : HttpResponse) : ApiError :=
  match ApiError.document.read r.body with
  | .ok e => e
  | .error _ =>
    .refused (toString r.status ++ " " ++ phrase r.status) (Text.quoted r.body) "Failed to parse error data" r.status

/-- What a response holds, or why the request failed. -/
def accept {α : Type} (read : String → Except Json.Misread α) (r : HttpResponse) : Except ApiError α :=
  if r.isRefusal then .error r.refusal else (read r.body).mapError .unreadable

end HttpResponse

/-! ### Objects and lists -/

/-- An object that is not there is no failure. -/
def ApiError.ifFound {α : Type} : Except ApiError α → Except ApiError (Option α)
  | .ok a => .ok (some a)
  | .error (.refused status message reason code) =>
    if reason = "NotFound" then .ok none else .error (.refused status message reason code)
  | .error e => .error e

def Child.document (kind : ChildKind) : Document Child := ⟨.part kind.schema, Child.decode kind⟩

/-- A list of objects; without items it may also hold `null`. -/
def Schema.listDocument (item : Schema) : Document (List Json) where
  form := .extensible "struct ObjectList" false [
    ("metadata", .defaulted, .part Kubernetes.listMeta), ("items", .stated, .parts item)]
  decode j := .ok (j.list "items")

/-! ### Deletions -/

namespace Deletion

/-- One of the causes of a refusal. -/
def causeForm : Form := .record "struct StatusCause" [
  ("reason", .defaulted, .text), ("message", .defaulted, .text), ("field", .defaulted, .text)]

def detailsForm : Form := .record "struct StatusDetails" [
  ("name", .defaulted, .text), ("group", .defaulted, .text), ("kind", .defaulted, .text), ("uid", .defaulted, .text),
  ("causes", .defaulted, .list causeForm), ("retryAfterSeconds", .defaulted, .natural 32)]

/-- A report on what has been done; it has to be in order, but nothing depends on what it says. -/
def report : Document Unit where
  form := .record "struct Status" [
    ("status", .optional, .choice ["Success", "Failure"]), ("code", .defaulted, .natural 16),
    ("message", .defaulted, .text), ("reason", .defaulted, .text), ("details", .optional, detailsForm)]
  decode _ := .ok ()

/-- A deletion is answered by a report or by the object. -/
def read {α : Type} (object : Document α) (text : String) : Except Json.Misread Unit := do
  let j ← Json.read text
  if j.text? "kind" = some "Status" then report.read text else (object.read text).map fun _ => ()

/-- Whether there was anything to delete. -/
def wasThere : Except ApiError Unit → Except ApiError Bool
  | .ok _ => .ok true
  | .error e => if e.isGone then .ok false else .error e

end Deletion

end SessionOperator
