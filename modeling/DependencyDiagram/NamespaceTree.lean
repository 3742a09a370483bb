import DependencyDiagram.ModulePath

/-!
Module paths arranged by their segments. A node stands for a namespace, for a module or for both;
children keep the order in which an inserted path first passed through them.
-/

namespace DependencyDiagram

/-- The module at a node, if there is one. -/
structure NodeLabel where
  path : Option String
  isTarget : Bool
deriving DecidableEq, Repr

def NodeLabel.bare : NodeLabel := ⟨none, false⟩

/-- Siblings in order, each under its segment with its own children. -/
inductive Branches where
  | nil
  | cons (segment : String) (label : NodeLabel) (children siblings : Branches)
deriving DecidableEq, Repr

structure NamespaceTree where
  label : NodeLabel
  children : Branches
deriving DecidableEq, Repr

namespace Branches

def isEmpty : Branches → Bool
  | .nil => true
  | .cons _ _ _ _ => false

/-- The node under a segment. -/
def find? (segment : String) : Branches → Option NamespaceTree
  | .nil => none
  | .cons key label children siblings =>
    if key = segment then some ⟨label, children⟩ else siblings.find? segment

/-- Changes the node under a segment, which is added at the end if it is missing. -/
def update (segment : String) (change : NamespaceTree → NamespaceTree) : Branches → Branches
  | .nil =>
    let node := change ⟨.bare, .nil⟩
    .cons segment node.label node.children .nil
  | .cons key label children siblings =>
    if key = segment then
      let node := change ⟨label, children⟩
      .cons key node.label node.children siblings
    else .cons key label children (siblings.update segment change)

end Branches

namespace NamespaceTree

def empty : NamespaceTree := ⟨.bare, .nil⟩

def hasChildren (tree : NamespaceTree) : Bool := !tree.children.isEmpty

/-- A tree that neither holds a module nor has children. -/
def isEmpty (tree : NamespaceTree) : Bool := tree.label.path.isNone && tree.children.isEmpty

def child? (tree : NamespaceTree) (segment : String) : Option NamespaceTree :=
  tree.children.find? segment

/-- The node reached by following segments. -/
def descend? (tree : NamespaceTree) : List String → Option NamespaceTree
  | [] => some tree
  | segment :: rest => (tree.child? segment).bind (·.descend? rest)

/-- Labels the node at a chain of segments, with bare nodes on the way where there are none. -/
def place (label : NodeLabel) : List String → NamespaceTree → NamespaceTree
  | [], tree => { tree with label }
  | segment :: rest, tree =>
    { tree with children := tree.children.update segment (place label rest) }

/-- Inserts a module; a path without segments has no place. -/
def insert (target : String) (tree : NamespaceTree) (path : String) : NamespaceTree :=
  match ModulePath.segments path with
  | [] => tree
  | segments => place ⟨some path, path == target⟩ segments tree

/-- The tree of some paths, of which one is the target. -/
def build (target : String) (paths : List String) : NamespaceTree :=
  paths.foldl (insert target) empty

end NamespaceTree

end DependencyDiagram
