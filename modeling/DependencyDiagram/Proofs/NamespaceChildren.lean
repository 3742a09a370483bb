import DependencyDiagram.Proofs.DeclaredGraph
import DependencyDiagram.Proofs.NamespaceTrie
import DependencyDiagram.Proofs.SplitTexts

/-!
Children in namespace trees. A placed label leads through one child at each node on its way, and a child that
is missing there is added behind the others. The children of a built tree's node are therefore the segments
with which inserted paths go on behind the node's chain, in the order of their first occurrence, and a built
tree is the trie of the inserted paths.
-/

namespace DependencyDiagram

namespace ModulePath

/-- The segment with which some segments go on behind a chain, if they begin with the chain and are longer. -/
def nextSegment? (chain segments : List String) : Option String :=
  if chain.isPrefixOf segments then segments[chain.length]? else none

variable {chain segments : List String} {segment key : String}

@[simp] theorem nextSegment?_nil (chain : List String) : nextSegment? chain [] = none := by
  simp [nextSegment?]

@[simp] theorem nextSegment?_nil_cons (segment : String) (segments : List String) :
    nextSegment? [] (segment :: segments) = some segment := rfl

@[simp] theorem nextSegment?_cons_cons (first segment : String) (chain segments : List String) :
    nextSegment? (first :: chain) (segment :: segments) =
      if segment = first then nextSegment? chain segments else none := by
  by_cases same : segment = first
  · simp [nextSegment?, same]
  · simp [nextSegment?, same, Ne.symm same]

theorem nextSegment?_eq_some : nextSegment? chain segments = some key ↔ chain ++ [key] <+: segments := by
  induction chain generalizing segments with
  | nil =>
    cases segments with
    | nil => simp
    | cons segment rest => simp [eq_comm]
  | cons first chain ih =>
    cases segments with
    | nil => simp
    | cons segment rest =>
      by_cases same : segment = first
      · simp [same, ih]
      · simp [same, Ne.symm same]

/-- Segments are neither empty nor do they hold the separator. -/
theorem ne_empty_of_mem_segments {path : String} (member : segment ∈ ModulePath.segments path) :
    segment ≠ "" ∧ separator ∉ segment.toList := by
  obtain ⟨part, listed, rfl⟩ := List.mem_map.mp member
  obtain ⟨among, nonempty⟩ := List.mem_filter.mp listed
  refine ⟨fun empty => ?_, ?_⟩
  · rw [String.ofList_eq_empty_iff] at empty
    simp [empty] at nonempty
  · rw [String.toList_ofList]
    exact Text.notMem_of_mem_splitOn among

end ModulePath

open ModulePath (nextSegment? nextSegment?_eq_some)

/-- Adds a key behind the others if it is not among them. -/
def noted (key : String) (keys : List String) : List String :=
  if key ∈ keys then keys else keys ++ [key]

theorem eraseDups_concat (keys : List String) (key : String) :
    (keys ++ [key]).eraseDups = noted key keys.eraseDups := by
  rw [List.eraseDups_append, noted]
  by_cases before : key ∈ keys
  · simp [List.removeAll, List.mem_eraseDups, before]
  · simp [List.removeAll, List.mem_eraseDups, before, List.eraseDups_cons]

namespace Branches

def keys : Branches → List String
  | .nil => []
  | .cons key _ _ siblings => key :: siblings.keys

theorem keys_eq_nil_iff {branches : Branches} : branches.keys = [] ↔ branches.isEmpty = true := by
  cases branches <;> simp [keys, isEmpty]

theorem find?_isSome_iff {segment : String} {branches : Branches} :
    (branches.find? segment).isSome ↔ segment ∈ branches.keys := by
  induction branches with
  | nil => simp [find?, keys]
  | cons key label children siblings _ beside =>
    rw [find?, keys, List.mem_cons]
    by_cases here : key = segment
    · simp [here]
    · simp [here, Ne.symm here, beside]

theorem keys_update (segment : String) (change : NamespaceTree → NamespaceTree) (branches : Branches) :
    (branches.update segment change).keys = noted segment branches.keys := by
  induction branches with
  | nil => rfl
  | cons key label children siblings _ beside =>
    rw [update]
    by_cases here : key = segment
    · simp [here, keys, noted]
    · rw [if_neg here, keys, beside, keys, noted, noted]
      by_cases later : segment ∈ siblings.keys
      · simp [later]
      · simp [later, Ne.symm here]

end Branches

namespace NamespaceTree

/-- The keys of the children at a chain of segments; where there is no node there are none. -/
def keysAt (tree : NamespaceTree) (chain : List String) : List String :=
  ((tree.descend? chain).getD .empty).children.keys

variable {tree node : NamespaceTree} {target : String} {paths chain : List String}

theorem keysAt_empty (chain : List String) : empty.keysAt chain = [] := by
  cases chain <;> rfl

theorem getD_descend?_cons (tree : NamespaceTree) (segment : String) (rest : List String) :
    (tree.descend? (segment :: rest)).getD .empty =
      (((tree.child? segment).getD .empty).descend? rest).getD .empty := by
  rw [descend?]
  cases tree.child? segment with
  | none => cases rest <;> rfl
  | some child => rfl

theorem keysAt_cons (tree : NamespaceTree) (segment : String) (rest : List String) :
    tree.keysAt (segment :: rest) = ((tree.child? segment).getD .empty).keysAt rest := by
  rw [keysAt, getD_descend?_cons, keysAt]

theorem keysAt_place (label : NodeLabel) (segments chain : List String) (tree : NamespaceTree) :
    (place label segments tree).keysAt chain =
      (nextSegment? chain segments).elim (tree.keysAt chain) (noted · (tree.keysAt chain)) := by
  induction segments generalizing chain tree with
  | nil => cases chain <;> simp [place, keysAt, descend?, child?]
  | cons segment rest ih =>
    cases chain with
    | nil => exact Branches.keys_update segment (place label rest) tree.children
    | cons first chain =>
      rw [keysAt_cons, keysAt_cons, child?_place, ModulePath.nextSegment?_cons_cons]
      by_cases same : segment = first
      · simp [same, ih]
      · simp [same]

theorem keysAt_insert (target path : String) (chain : List String) (tree : NamespaceTree) :
    (tree.insert target path).keysAt chain = (nextSegment? chain (ModulePath.segments path)).elim
      (tree.keysAt chain) (noted · (tree.keysAt chain)) := by
  rw [insert_eq]
  split
  · next nowhere => rw [nowhere, ModulePath.nextSegment?_nil, Option.elim_none]
  · exact keysAt_place _ _ chain tree

/-- The children of a node are the ways on which inserted paths go on, each where it was first taken. -/
theorem keysAt_build (target : String) (paths chain : List String) : (build target paths).keysAt chain =
    (paths.filterMap fun path => nextSegment? chain (ModulePath.segments path)).eraseDups := by
  induction paths using List.reverseRecOn with
  | nil => exact keysAt_empty chain
  | append_singleton paths path ih =>
    rw [build_concat, keysAt_insert, ih, List.filterMap_append]
    cases goesOn : nextSegment? chain (ModulePath.segments path) with
    | none => simp [goesOn]
    | some key => simp [goesOn, eraseDups_concat]

theorem mem_keysAt_build {key : String} : key ∈ (build target paths).keysAt chain ↔
    ∃ path ∈ paths, chain ++ [key] <+: ModulePath.segments path := by
  simp [keysAt_build, List.mem_eraseDups, nextSegment?_eq_some]

theorem descend?_concat (tree : NamespaceTree) (chain : List String) (key : String) :
    tree.descend? (chain ++ [key]) = (tree.descend? chain).bind (·.child? key) := by
  induction chain generalizing tree with
  | nil => simp [descend?]
  | cons segment chain ih => simp [descend?, ih, Option.bind_assoc]

theorem descend?_concat_isSome {key : String} :
    (tree.descend? (chain ++ [key])).isSome ↔ key ∈ tree.keysAt chain := by
  rw [descend?_concat, keysAt]
  cases tree.descend? chain with
  | none => simp [empty, Branches.keys]
  | some node => exact Branches.find?_isSome_iff

theorem descend?_build_isSome (target : String) (paths : List String) (proper : chain ≠ []) :
    ((build target paths).descend? chain).isSome ↔ ∃ path ∈ paths, chain <+: ModulePath.segments path := by
  obtain ⟨above, key, rfl⟩ := (List.eq_nil_or_concat' chain).resolve_left proper
  rw [descend?_concat_isSome, mem_keysAt_build]

theorem label_build (target : String) (paths : List String) : (build target paths).label = .bare := by
  induction paths using List.reverseRecOn with
  | nil => rfl
  | append_singleton paths path ih =>
    rw [build_concat, insert]
    split
    · exact ih
    · next segments nonempty =>
      obtain ⟨first, rest, same⟩ := List.exists_cons_of_ne_nil nonempty
      rw [same]
      exact ih

theorem label_eq_labelAt (reached : tree.descend? chain = some node) : node.label = tree.labelAt chain := by
  rw [labelAt, reached]
  rfl

theorem label_of_descend? (proper : chain ≠ []) (reached : (build target paths).descend? chain = some node) :
    node.label = (lastAt paths chain).elim .bare (labelOf target) :=
  (label_eq_labelAt reached).trans (labelAt_build target paths proper)

theorem keys_of_descend? (reached : tree.descend? chain = some node) : node.children.keys = tree.keysAt chain := by
  rw [keysAt, reached, Option.getD_some]

/-- A node at which no path goes on is one at which a path ends. -/
theorem path_isSome_of_childless (proper : chain ≠ []) (reached : (build target paths).descend? chain = some node)
    (childless : node.hasChildren = false) : node.label.path.isSome := by
  obtain ⟨path, listed, begins⟩ :=
    (descend?_build_isSome target paths proper).mp (Option.isSome_of_eq_some reached)
  obtain ⟨rest, same⟩ := begins
  cases rest with
  | nil =>
    rw [List.append_nil] at same
    obtain ⟨last, found⟩ := exists_lastAt listed
    rw [← same] at found
    simp [label_of_descend? proper reached, found, labelOf]
  | cons key rest =>
    have goesOn : key ∈ node.children.keys := by
      rw [keys_of_descend? reached, mem_keysAt_build]
      exact ⟨path, listed, rest, by rw [← same, List.append_assoc, List.singleton_append]⟩
    have none : node.children.keys = [] := Branches.keys_eq_nil_iff.mpr (by simpa [hasChildren] using childless)
    rw [none] at goesOn
    cases goesOn

/-- The tree is the trie of the paths, of which one may be the target. -/
structure IsTrieOf (target : String) (paths : List String) (tree : NamespaceTree) : Prop where
  /-- A chain of segments leads to a node exactly if one of the paths begins with it. -/
  reached_iff : ∀ chain, chain ≠ [] →
    ((tree.descend? chain).isSome ↔ ∃ path ∈ paths, chain <+: ModulePath.segments path)
  carries : ∀ chain node, chain ≠ [] → tree.descend? chain = some node → node.label.path = lastAt paths chain
  marked_iff : ∀ chain node, chain ≠ [] → tree.descend? chain = some node →
    (node.label.isTarget = true ↔ node.label.path = some target)
  marked_once : (tree.labels.filter (·.isTarget)).length ≤ 1
  /-- The children of a node, the root included, are in the order in which a path first led through them. -/
  ordered : ∀ chain node, tree.descend? chain = some node → node.children.keys =
    (paths.filterMap fun path => nextSegment? chain (ModulePath.segments path)).eraseDups
  distinct : ∀ chain node, tree.descend? chain = some node → node.children.keys.Nodup
  proper : ∀ chain node, tree.descend? chain = some node →
    ∀ key ∈ node.children.keys, key ≠ "" ∧ ModulePath.separator ∉ key.toList
  leaf : ∀ chain node, chain ≠ [] → tree.descend? chain = some node → node.hasChildren = false →
    node.label.path.isSome
  root : tree.label = .bare

/-- Whatever paths are inserted in whatever order, valid or not, the tree that is built is their trie. -/
theorem build_isTrieOf (target : String) (paths : List String) : (build target paths).IsTrieOf target paths where
  reached_iff := fun _ => descend?_build_isSome target paths
  carries := by
    intro chain node nonempty reached
    rw [label_of_descend? nonempty reached]
    cases lastAt paths chain <;> rfl
  marked_iff := by
    intro chain node nonempty reached
    rw [label_of_descend? nonempty reached]
    cases lastAt paths chain <;> simp [NodeLabel.bare, labelOf]
  marked_once := length_filter_isTarget_build target paths
  ordered := fun chain _ reached => (keys_of_descend? reached).trans (keysAt_build target paths chain)
  distinct := by
    intro chain node reached
    rw [keys_of_descend? reached, keysAt_build]
    exact Resolver.nodup_eraseDups _
  proper := by
    intro chain node reached key member
    rw [keys_of_descend? reached, mem_keysAt_build] at member
    obtain ⟨path, _, begins⟩ := member
    exact ModulePath.ne_empty_of_mem_segments (begins.subset (List.mem_append_right _ List.mem_cons_self))
  leaf := fun _ _ nonempty reached => path_isSome_of_childless nonempty reached
  root := label_build target paths

end NamespaceTree

end DependencyDiagram
