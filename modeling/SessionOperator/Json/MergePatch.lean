import SessionOperator.Json

/-!
# JSON merge patches

A merge patch that is an object changes its target key by key: `null` removes the key, an object is merged into
what the key holds, any other value replaces it.  A patch that is no object replaces the whole target.  A target
that is no object counts as an empty one.
-/

namespace SessionOperator

namespace Json

mutual

def mergePatch (target : Json) : Json → Json
  | .obj changes => .obj (mergeFields target.entries changes)
  | patch => patch

def mergeFields (target : Dict Json) : List (String × Json) → Dict Json
  | [] => target
  | (key, .null) :: rest => mergeFields (target.erase key) rest
  | (key, change) :: rest =>
    mergeFields (target.insert key (mergePatch ((target.get? key).getD .null) change)) rest

end

end Json

end SessionOperator
