import SessionOperator.Yaml.Token

/-!
# YAML documents

The tree of a document.  A scalar keeps its text, the style in which it was written and its tag, because a reader of
typed values looks at them.  An alias stands for the node with its anchor, of which it may be a part.

* `Document.node`: a node or what the alias stands for.
-/

namespace SessionOperator

inductive Yaml where
  | scalar (text : String) (style : Yaml.ScalarStyle) (tag : Option String)
  | sequence (items : List Yaml)
  | mapping (entries : List (Yaml × Yaml))
  | alias (anchor : Nat)
  deriving Inhabited

namespace Yaml

/-- The value that stands where a document leaves one out. -/
def nothing : Yaml := .scalar "" .plain none

def isNothing : Yaml → Bool
  | .scalar text style _ => text.isEmpty && style = .plain
  | _ => false

structure Document where
  root : Yaml
  anchors : List (Nat × Yaml)

/-- The document of a text without one. -/
def Document.empty : Document := ⟨nothing, []⟩

/-- A node, or the node that an alias stands for, which is no alias itself. -/
def Document.node (d : Document) : Yaml → Yaml
  | .alias anchor => ((d.anchors.find? fun a => a.1 = anchor).map (·.2)).getD nothing
  | y => y

end Yaml

end SessionOperator
