import DependencyDiagram.Proofs.RegularPaths

/-!
Paths of the conventional form: a leading separator and behind it names with single separators between
them. Such paths are regular, and the texts in a diagram of them consist of a few characters.
-/

namespace DependencyDiagram

namespace ModulePath

/-- ASCII letters, digits and hyphens, the hyphens inside only. -/
def IsName (segment : List Char) : Prop :=
  segment ≠ [] ∧ segment.all (fun c => c.isAlphanum || c == '-') = true ∧ segment.head? ≠ some '-' ∧
    segment.getLast? ≠ some '-'

instance (segment : List Char) : Decidable (IsName segment) :=
  inferInstanceAs (Decidable (_ ∧ _))

def IsConventional (path : String) : Prop :=
  path.toList.head? = some separator ∧
    ∀ segment ∈ (dropSeparator path.toList).splitOn separator, IsName segment

instance (path : String) : Decidable (IsConventional path) :=
  inferInstanceAs (Decidable (_ ∧ _))

/-- The characters of conventional paths. -/
def IsPathChar (c : Char) : Prop := c.isAlphanum = true ∨ c = '-' ∨ c = separator

instance (c : Char) : Decidable (IsPathChar c) :=
  inferInstanceAs (Decidable (_ ∨ _))

/-- A text in which there are no other characters. -/
def IsPathText (text : String) : Prop := ∀ c ∈ text.toList, IsPathChar c

/-- The characters of their identifiers. -/
def IsWordChar (c : Char) : Prop := c.isAlphanum = true ∨ c = '_'

instance (c : Char) : Decidable (IsWordChar c) :=
  inferInstanceAs (Decidable (_ ∨ _))

def IsWord (text : String) : Prop := ∀ c ∈ text.toList, IsWordChar c

theorem IsName.pathChar {segment : List Char} (isName : IsName segment) {c : Char} (member : c ∈ segment) :
    IsPathChar c := by
  have char := List.all_eq_true.mp isName.2.1 c member
  rw [Bool.or_eq_true, beq_iff_eq] at char
  exact char.imp_right .inl

theorem IsName.regular {segment : List Char} (isName : IsName segment) : IsRegularSegment segment := by
  refine ⟨isName.1, fun member => ?_, isName.2.2⟩
  have char := isName.pathChar member
  revert char
  decide

theorem IsPathText.notMem {text : String} (plain : IsPathText text) {c : Char} (other : ¬ IsPathChar c) :
    c ∉ text.toList := fun member => other (plain c member)

theorem IsPathText.append {text further : String} (plain : IsPathText text) (furtherPlain : IsPathText further) :
    IsPathText (text ++ further) := by
  intro c member
  rw [String.toList_append] at member
  exact (List.mem_append.mp member).elim (plain c) (furtherPlain c)

theorem IsWord.notMem {text : String} (word : IsWord text) {c : Char} (other : ¬ IsWordChar c) :
    c ∉ text.toList := fun member => other (word c member)

theorem IsPathText.identifier {text : String} (plain : IsPathText text) : IsWord (identifier text) := by
  refine (forall_mem_identifier (.inr rfl) text).mpr fun c member => ?_
  rcases plain c member with letter | hyphen | isSeparator
  · exact .inr (.inr (.inl letter))
  · exact .inr (.inl hyphen)
  · exact .inl isSeparator

namespace IsConventional

variable {path other : String}

theorem regular (conventional : IsConventional path) : IsRegular path :=
  ⟨conventional.1, fun segment member => (conventional.2 segment member).regular⟩

theorem isPathText (conventional : IsConventional path) : IsPathText path := by
  have behind := (Text.forall_mem_splitOn (.inr (.inr rfl)) _).mp fun segment member _ =>
    (conventional.2 segment member).pathChar
  intro c member
  rw [conventional.regular.toList_eq] at member
  rcases List.mem_cons.mp member with rfl | inside
  · exact .inr (.inr rfl)
  · exact behind c inside

theorem eq_of_identifier (conventional : IsConventional path) (otherConventional : IsConventional other)
    (same : identifier path = identifier other) : path = other :=
  conventional.regular.eq_of_identifier otherConventional.regular same

end IsConventional

end ModulePath

/-- The module at a node, if there is one, has a path of such characters. -/
def NodeLabel.IsPlain (label : NodeLabel) : Prop := ∀ path ∈ label.path, ModulePath.IsPathText path

/-- All namespaces and modules have names of such characters. -/
def Branches.IsPlain : Branches → Prop
  | .nil => True
  | .cons segment label children siblings =>
    ModulePath.IsPathText segment ∧ label.IsPlain ∧ children.IsPlain ∧ siblings.IsPlain

def NamespaceTree.IsPlain (tree : NamespaceTree) : Prop := tree.label.IsPlain ∧ tree.children.IsPlain

theorem Branches.IsPlain.update {segment : String} {change : NamespaceTree → NamespaceTree} {branches : Branches}
    (plain : branches.IsPlain) (segmentPlain : ModulePath.IsPathText segment)
    (kept : ∀ tree : NamespaceTree, tree.IsPlain → (change tree).IsPlain) :
    (branches.update segment change).IsPlain := by
  induction branches with
  | nil =>
    have added := kept ⟨.bare, .nil⟩ ⟨by simp [NodeLabel.IsPlain, NodeLabel.bare], trivial⟩
    exact ⟨segmentPlain, added.1, added.2, trivial⟩
  | cons key label children siblings _ beside =>
    obtain ⟨keyPlain, labelPlain, childrenPlain, siblingsPlain⟩ := plain
    rw [Branches.update]
    split
    · have changed := kept ⟨label, children⟩ ⟨labelPlain, childrenPlain⟩
      exact ⟨keyPlain, changed.1, changed.2, siblingsPlain⟩
    · exact ⟨keyPlain, labelPlain, childrenPlain, beside siblingsPlain⟩

namespace NamespaceTree

variable {target path : String} {paths : List String}

theorem IsPlain.place {label : NodeLabel} {segments : List String} {tree : NamespaceTree} (plain : tree.IsPlain)
    (labelPlain : label.IsPlain) (segmentsPlain : ∀ segment ∈ segments, ModulePath.IsPathText segment) :
    (place label segments tree).IsPlain := by
  induction segments generalizing tree with
  | nil => exact ⟨labelPlain, plain.2⟩
  | cons segment rest ih =>
    rw [List.forall_mem_cons] at segmentsPlain
    exact ⟨plain.1, plain.2.update segmentsPlain.1 fun _ below => ih below segmentsPlain.2⟩

theorem isPlain_build (target : String) (conventional : ∀ path ∈ paths, ModulePath.IsConventional path) :
    (build target paths).IsPlain := by
  induction paths using List.reverseRecOn with
  | nil => exact ⟨by simp [build, empty, NodeLabel.IsPlain, NodeLabel.bare], trivial⟩
  | append_singleton paths inserted ih =>
    have before := ih fun path member => conventional path (List.mem_append_left _ member)
    have added := conventional inserted (List.mem_append_right _ (List.mem_singleton_self _))
    rw [build_concat, insert_eq, if_neg added.regular.segments_ne_nil]
    refine before.place (fun path named => ?_) fun segment member =>
      (ModulePath.forall_mem_segments (.inr (.inr rfl)) inserted).mpr added.isPathText segment member
    rw [← Option.some.inj named]
    exact added.isPathText

theorem mem_carried_conventional (target : String)
    (conventional : ∀ path ∈ paths, ModulePath.IsConventional path) :
    path ∈ (build target paths).carried ↔ path ∈ paths :=
  mem_carried_regular target fun path listed => (conventional path listed).regular

end NamespaceTree

end DependencyDiagram
