import DependencyDiagram.Proofs.NamespaceTrie

/-!
Namespaces in a tree. A node with children is a namespace; it is known by the chain of segments that leads
to it. In a built tree these are the beginnings of the inserted paths, without the paths themselves.
-/

namespace DependencyDiagram

/-- The chains to the nodes with children, each before those below it. -/
def Branches.namespaces : Branches → List (List String)
  | .nil => []
  | .cons segment _ children siblings =>
    ((if children.isEmpty then [] else [[]]) ++ children.namespaces).map (segment :: ·) ++ siblings.namespaces

namespace NamespaceTree

/-- The root is no namespace. -/
def namespaces (tree : NamespaceTree) : List (List String) := tree.children.namespaces

/-- The same chains and the empty one if the root has children. -/
def chains (tree : NamespaceTree) : List (List String) :=
  (if tree.children.isEmpty then [] else [[]]) ++ tree.children.namespaces

end NamespaceTree

namespace ModulePath

/-- The segments begin with the chain and go on behind it. -/
def Begins (chain segments : List String) : Prop := chain <+: segments ∧ chain ≠ segments

theorem not_begins_nil (chain : List String) : ¬ Begins chain [] := by
  intro begins
  exact begins.2 (List.prefix_nil.mp begins.1)

theorem begins_cons_iff {chain rest : List String} {segment : String} : Begins chain (segment :: rest) ↔
    chain = [] ∨ ∃ tail, chain = segment :: tail ∧ Begins tail rest := by
  unfold Begins
  rw [List.prefix_cons_iff]
  constructor
  · intro begins
    obtain ⟨rfl | ⟨tail, rfl, start⟩, different⟩ := begins
    · exact .inl rfl
    · exact .inr ⟨tail, rfl, start, fun same => different (congrArg _ same)⟩
  · intro begins
    rcases begins with rfl | ⟨tail, rfl, start, different⟩
    · exact ⟨.inl rfl, List.cons_ne_nil _ _ ∘ Eq.symm⟩
    · exact ⟨.inr ⟨tail, rfl, start⟩, fun same => different (List.cons.inj same).2⟩

end ModulePath

namespace Branches

variable {segment : String} {chain : List String}

theorem namespaces_cons (label : NodeLabel) (children siblings : Branches) :
    (cons segment label children siblings).namespaces =
      (NamespaceTree.mk label children).chains.map (segment :: ·) ++ siblings.namespaces := rfl

theorem ne_nil_of_mem_namespaces {branches : Branches} (member : chain ∈ branches.namespaces) : chain ≠ [] := by
  induction branches with
  | nil => cases member
  | cons segment label children siblings _ beside =>
    rcases List.mem_append.mp member with below | later
    · obtain ⟨rest, _, rfl⟩ := List.mem_map.mp below
      exact List.cons_ne_nil _ _
    · exact beside later

section Gathered

variable {Item : Type} (ofChain : List String → List Item) (ofLabel : NodeLabel → List Item)

/-- What is written for the namespaces and the labels, when `before` leads to the branches. -/
def gathered (before : List String) : Branches → List Item
  | .nil => []
  | .cons segment label children siblings =>
    (if children.isEmpty then [] else ofChain (before ++ [segment])) ++ ofLabel label ++
      children.gathered (before ++ [segment]) ++ siblings.gathered before

theorem mem_gathered {item : Item} (before : List String) (branches : Branches) :
    item ∈ branches.gathered ofChain ofLabel before ↔
      (∃ label ∈ branches.labels, item ∈ ofLabel label) ∨
        ∃ chain ∈ branches.namespaces, item ∈ ofChain (before ++ chain) := by
  induction branches generalizing before with
  | nil => simp [gathered, labels, namespaces]
  | cons segment label children siblings below beside =>
    have opened : (∃ chain ∈ (NamespaceTree.mk label children).chains.map (segment :: ·),
        item ∈ ofChain (before ++ chain)) ↔
          item ∈ (if children.isEmpty then [] else ofChain (before ++ [segment])) ∨
            ∃ chain ∈ children.namespaces, item ∈ ofChain (before ++ [segment] ++ chain) := by
      rw [NamespaceTree.chains]
      split <;> simp
    rw [gathered, labels, namespaces_cons]
    simp only [List.mem_append, List.mem_cons, or_and_right, exists_or, exists_eq_left, below, beside]
    rw [opened]
    exact iff_of_eq (by ac_rfl)

end Gathered

/-- A change adds chains below its own segment only. -/
theorem mem_namespaces_update (segment : String) {change : NamespaceTree → NamespaceTree}
    {added : List String → Prop}
    (adds : ∀ tree chain, chain ∈ (change tree).chains ↔ chain ∈ tree.chains ∨ added chain) (branches : Branches)
    (chain : List String) :
    chain ∈ (branches.update segment change).namespaces ↔
      chain ∈ branches.namespaces ∨ ∃ tail, chain = segment :: tail ∧ added tail := by
  have below (tree : NamespaceTree) : chain ∈ (change tree).chains.map (segment :: ·) ↔
      chain ∈ tree.chains.map (segment :: ·) ∨ ∃ tail, chain = segment :: tail ∧ added tail := by
    simp only [List.mem_map, adds, or_and_right, exists_or]
    exact or_congr_right (exists_congr fun tail => and_comm.trans (and_congr_left' eq_comm))
  induction branches with
  | nil =>
    have created := below .empty
    have nowhere : chain ∉ NamespaceTree.empty.chains.map (segment :: ·) := List.not_mem_nil
    rw [or_iff_right nowhere] at created
    rw [update, namespaces_cons, namespaces, List.append_nil, or_iff_right List.not_mem_nil]
    exact created
  | cons key label children siblings _ beside =>
    rw [update]
    split
    · next same =>
      subst same
      rw [namespaces_cons, namespaces_cons, List.mem_append, List.mem_append, below, or_right_comm]
    · rw [namespaces_cons, namespaces_cons, List.mem_append, List.mem_append, or_congr_right beside, or_assoc]

theorem isEmpty_update (branches : Branches) (segment : String) (change : NamespaceTree → NamespaceTree) :
    (branches.update segment change).isEmpty = false := by
  cases branches with
  | nil => rfl
  | cons key label children siblings =>
    rw [update]
    split <;> rfl

end Branches

namespace NamespaceTree

open ModulePath (Begins begins_cons_iff not_begins_nil)

variable {chain : List String}

/-- Placing a label adds the chains on the way to it. -/
theorem mem_chains_place (label : NodeLabel) (segments : List String) (tree : NamespaceTree) (chain : List String) :
    chain ∈ (place label segments tree).chains ↔ chain ∈ tree.chains ∨ Begins chain segments := by
  induction segments generalizing tree chain with
  | nil =>
    rw [or_iff_left (not_begins_nil chain)]
    rfl
  | cons segment rest ih =>
    have children := Branches.mem_namespaces_update segment ih tree.children chain
    rw [begins_cons_iff, chains, place, Branches.isEmpty_update, List.mem_append, children, chains, List.mem_append]
    by_cases empty : chain = []
    · simp [empty]
    · simp [empty]

theorem mem_chains_build (target : String) (paths : List String) : chain ∈ (build target paths).chains ↔
    ∃ path ∈ paths, Begins chain (ModulePath.segments path) := by
  induction paths using List.reverseRecOn with
  | nil => simp [build, empty, chains, Branches.isEmpty, Branches.namespaces]
  | append_singleton paths path ih =>
    have placed : chain ∈ ((build target paths).insert target path).chains ↔
        chain ∈ (build target paths).chains ∨ Begins chain (ModulePath.segments path) := by
      rw [insert_eq]
      split
      · next nowhere => rw [nowhere, or_iff_left (not_begins_nil chain)]
      · exact mem_chains_place _ _ _ _
    rw [build_concat, placed, ih]
    simp [or_and_right, exists_or]

theorem mem_namespaces_iff {tree : NamespaceTree} : chain ∈ tree.namespaces ↔ chain ≠ [] ∧ chain ∈ tree.chains := by
  rw [chains, List.mem_append, ← namespaces]
  constructor
  · intro member
    exact ⟨Branches.ne_nil_of_mem_namespaces member, .inr member⟩
  · intro listed
    obtain ⟨proper, root | member⟩ := listed
    · split at root <;> simp_all
    · exact member

/-- The namespaces of a built tree are the proper beginnings of the inserted paths. -/
theorem mem_namespaces_build (target : String) (paths : List String) : chain ∈ (build target paths).namespaces ↔
    chain ≠ [] ∧ ∃ path ∈ paths, Begins chain (ModulePath.segments path) := by
  rw [mem_namespaces_iff, mem_chains_build]

end NamespaceTree

end DependencyDiagram
