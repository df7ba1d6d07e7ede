import SessionOperator.Session.Basic
import SessionOperator.Hash.Sha256
import SessionOperator.Text.Trim

/-!
# Names

Names and labels of the objects that belong to a session.  A name that is too long keeps a readable beginning and
ends in the first digits of its SHA-256 digest.

* `Naming.shorten`: the rule for names that are too long;
* `Session.childName`, `Session.podName`, `Session.dataSourceClaimName`, `Naming.dataSourceVolumeName`;
* `Session.labels`, `Session.selector`.
-/

namespace SessionOperator

namespace Naming

/-- Leaves room for what the cluster appends to the names of pods. -/
def workloadLimit : Nat := 52

def nameLimit : Nat := 253

def appName : String := "interactive-session"

def partOf : String := "session-platform"

def createdBy : String := "session-controller"

/-- The first eight hexadecimal digits of the SHA-256 digest of a text in UTF-8. -/
def fingerprint (s : String) : List Char := Sha256.hexWord (Sha256.digest s.toUTF8.toList).a

/-- A name of at most `limit` bytes is kept.  Of a longer one as many characters are kept as leave room for a dash and
the fingerprint, without dashes at their end. -/
def shorten (name : String) (limit : Nat) : String :=
  if name.utf8ByteSize ≤ limit then name
  else
    let hash := fingerprint name
    let kept := Text.dropEndWhile (· = '-') (name.toList.take (limit - (hash.length + 1)))
    String.ofList (kept ++ '-' :: hash)

def dataSourceVolumeName (index : Nat) : String := "data-source-" ++ toString index

end Naming

namespace Session

/-- The common name of the stateful set, the service, the ingress and the session claim. -/
def childName (s : Session) : String := Naming.shorten s.name Naming.workloadLimit

/-- The only pod of the stateful set. -/
def podName (s : Session) : String := s.childName ++ "-0"

def dataSourceClaimName (s : Session) (index : Nat) : String :=
  Naming.shorten ("session-" ++ s.name ++ "-ds-" ++ toString index) Naming.nameLimit

def selector (s : Session) : Dict String :=
  Dict.ofList [("app.kubernetes.io/name", Naming.appName), ("app.kubernetes.io/instance", s.childName)]

/-- The labels of every object of a session. -/
def labels (s : Session) : Dict String :=
  (s.selector.insert "app.kubernetes.io/part-of" Naming.partOf).insert "app.kubernetes.io/created-by" Naming.createdBy

end Session

end SessionOperator
