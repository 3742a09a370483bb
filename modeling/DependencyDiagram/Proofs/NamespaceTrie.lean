import DependencyDiagram.NamespaceTree
import DependencyDiagram.Proofs.Statements
import Mathlib.Data.List.Induction
import Mathlib.Data.List.Nodup

/-!
Namespace trees as tries. A tree is read through the label at each chain of segments; placing a label
changes this reading at its own chain only, and trades the label that was there for the new one. A built
tree therefore has at each chain the last inserted path with these segments, and at no other place.
-/

namespace DependencyDiagram

namespace Branches

variable (segment : String) (change : NamespaceTree → NamespaceTree)

/-- A missing node is changed as if it had been there, bare and without children. -/
theorem find?_update (other : String) (branches : Branches) : (branches.update segment change).find? other =
    if segment = other then some (change ((branches.find? segment).getD .empty)) else branches.find? other := by
  induction branches with
  | nil => rfl
  | cons key label children siblings _ beside =>
    by_cases here : key = segment
    · subst here
      simp only [update, if_true, find?, Option.getD_some]
      by_cases same : key = other <;> simp [same]
    · simp only [update, find?, if_neg here, beside]
      by_cases same : segment = other
      · subst same
        simp [here]
      · simp [same]

/-- Only the changed node's labels are exchanged. -/
theorem countP_update (test : NodeLabel → Bool) (bare : test .bare = false) (branches : Branches) :
    (branches.update segment change).labels.countP test +
        ((branches.find? segment).getD .empty).labels.countP test =
      branches.labels.countP test + (change ((branches.find? segment).getD .empty)).labels.countP test := by
  induction branches with
  | nil => simp [update, find?, labels, NamespaceTree.labels, NamespaceTree.empty, bare]
  | cons key label children siblings _ beside =>
    by_cases here : key = segment
    · simp only [update, find?, if_pos here, Option.getD_some, labels, NamespaceTree.labels, List.countP_cons,
        List.countP_append]
      omega
    · simp only [update, find?, if_neg here, labels, List.countP_cons, List.countP_append]
      omega

end Branches

namespace NamespaceTree

/-- The label at a chain of segments; where there is no node, nothing has been placed. -/
def labelAt (tree : NamespaceTree) (segments : List String) : NodeLabel :=
  ((tree.descend? segments).map (·.label)).getD .bare

theorem labelAt_empty (segments : List String) : empty.labelAt segments = .bare := by
  cases segments <;> rfl

@[simp] theorem labelAt_nil (tree : NamespaceTree) : tree.labelAt [] = tree.label := rfl

@[simp] theorem labelAt_cons (tree : NamespaceTree) (segment : String) (rest : List String) :
    tree.labelAt (segment :: rest) = ((tree.child? segment).getD .empty).labelAt rest := by
  cases found : tree.child? segment with
  | none => simpa [labelAt, descend?, found] using (labelAt_empty rest).symm
  | some child => simp [labelAt, descend?, found]

theorem child?_place (label : NodeLabel) (segment other : String) (rest : List String) (tree : NamespaceTree) :
    (place label (segment :: rest) tree).child? other =
      if segment = other then some (place label rest ((tree.child? segment).getD .empty))
      else tree.child? other :=
  Branches.find?_update segment (place label rest) other tree.children

theorem labelAt_place (label : NodeLabel) (segments other : List String) (tree : NamespaceTree) :
    (place label segments tree).labelAt other = if segments = other then label else tree.labelAt other := by
  induction segments generalizing other tree with
  | nil => cases other <;> rfl
  | cons segment rest ih =>
    cases other with
    | nil => rfl
    | cons head tail =>
      rw [labelAt_cons, labelAt_cons, child?_place]
      by_cases same : segment = head
      · subst same
        simp [ih]
      · simp [same]

/-- The new label takes the place of the one that was there. -/
theorem countP_place (test : NodeLabel → Bool) (bare : test .bare = false) (label : NodeLabel)
    (segments : List String) (tree : NamespaceTree) :
    (tree.labelAt segments :: (place label segments tree).labels).countP test =
      (label :: tree.labels).countP test := by
  induction segments generalizing tree with
  | nil =>
    simp only [place, labels, labelAt_nil, List.countP_cons]
    omega
  | cons segment rest ih =>
    have below := Branches.countP_update segment (place label rest) test bare tree.children
    have child := ih ((tree.child? segment).getD .empty)
    rw [labelAt_cons]
    simp only [place, labels, List.countP_cons, child?] at below child ⊢
    omega

theorem mem_place {label new : NodeLabel} {segments : List String} {tree : NamespaceTree}
    (member : label ∈ (place new segments tree).labels) :
    label = .bare ∨ label = new ∨ label ∈ tree.labels := by
  by_cases bare : label = .bare
  · exact .inl bare
  · have exchanged := countP_place (· == label) (beq_false_of_ne (Ne.symm bare)) new segments tree
    have here : label ∈ tree.labelAt segments :: (place new segments tree).labels :=
      List.mem_cons_of_mem _ member
    have counted : 0 < (new :: tree.labels).count label :=
      Nat.lt_of_lt_of_eq (List.count_pos_iff.mpr here) exchanged
    exact .inr (List.mem_cons.mp (List.count_pos_iff.mp counted))

/-- The label of a module's node. -/
def labelOf (target path : String) : NodeLabel := ⟨some path, path == target⟩

/-- The last of some paths that has the given segments. -/
def lastAt (paths segments : List String) : Option String :=
  (paths.filter (ModulePath.segments · = segments)).getLast?

variable {target path : String} {paths segments : List String}

theorem labelOf_injective : Function.Injective (labelOf target) := fun _ _ same =>
  Option.some.inj (NodeLabel.mk.inj same).1

theorem labelOf_ne_bare (path : String) : labelOf target path ≠ .bare := fun same => by
  cases (NodeLabel.mk.inj same).1

theorem of_lastAt (last : lastAt paths segments = some path) :
    path ∈ paths ∧ ModulePath.segments path = segments := by
  have member := List.mem_filter.mp (List.mem_of_getLast? last)
  exact ⟨member.1, of_decide_eq_true member.2⟩

theorem lastAt_concat (paths segments : List String) (path : String) : lastAt (paths ++ [path]) segments =
    if ModulePath.segments path = segments then some path else lastAt paths segments := by
  rw [lastAt, List.filter_append]
  split
  · next same => simp [same]
  · next different => simp [different, lastAt]

theorem exists_lastAt (member : path ∈ paths) : ∃ last, lastAt paths (ModulePath.segments path) = some last := by
  refine Option.ne_none_iff_exists'.mp fun none => ?_
  have listed : path ∈ paths.filter (ModulePath.segments · = ModulePath.segments path) :=
    List.mem_filter.mpr ⟨member, decide_eq_true rfl⟩
  rw [List.getLast?_eq_none_iff.mp none] at listed
  cases listed

theorem insert_eq (tree : NamespaceTree) (path : String) : tree.insert target path =
    if ModulePath.segments path = [] then tree
    else place (labelOf target path) (ModulePath.segments path) tree := by
  unfold insert
  split
  · next nowhere => rw [if_pos nowhere]
  · next somewhere => rw [if_neg somewhere, labelOf]

theorem labelAt_insert (target path : String) (segments : List String) (tree : NamespaceTree) :
    (tree.insert target path).labelAt segments =
      if ModulePath.segments path ≠ [] ∧ ModulePath.segments path = segments then labelOf target path
      else tree.labelAt segments := by
  rw [insert_eq]
  split
  · next nowhere => rw [if_neg fun own => own.1 nowhere]
  · next somewhere => simp only [labelAt_place, somewhere, ne_eq, not_false_eq_true, true_and]

theorem build_concat (target : String) (paths : List String) (path : String) :
    build target (paths ++ [path]) = (build target paths).insert target path := by
  rw [build, List.foldl_append, List.foldl_cons, List.foldl_nil, build]

/-- Of the paths with the same segments the last one inserted has the node. -/
theorem labelAt_build (target : String) (paths : List String) (proper : segments ≠ []) :
    (build target paths).labelAt segments = (lastAt paths segments).elim .bare (labelOf target) := by
  induction paths using List.reverseRecOn with
  | nil => exact labelAt_empty segments
  | append_singleton paths path ih =>
    rw [build_concat, labelAt_insert, lastAt_concat]
    by_cases same : ModulePath.segments path = segments
    · rw [if_pos ⟨same ▸ proper, same⟩, if_pos same, Option.elim_some]
    · rw [if_neg fun own => same own.2, if_neg same, ih]

theorem labelAt_build_eq (target : String) (paths : List String) (proper : segments ≠ []) (path : String) :
    (build target paths).labelAt segments = labelOf target path ↔ lastAt paths segments = some path := by
  rw [labelAt_build target paths proper]
  cases lastAt paths segments with
  | none => simp [(labelOf_ne_bare path).symm]
  | some last => simp [labelOf_injective.eq_iff]

/-- A path has one node if it is the last one inserted with its segments, and no node otherwise. -/
theorem count_build (target : String) (paths : List String) (proper : ModulePath.segments path ≠ []) :
    (build target paths).labels.count (labelOf target path) =
      if lastAt paths (ModulePath.segments path) = some path then 1 else 0 := by
  induction paths using List.reverseRecOn with
  | nil => simp [build, empty, labels, Branches.labels, (labelOf_ne_bare path).symm, lastAt]
  | append_singleton paths inserted ih =>
    rw [build_concat, insert_eq, lastAt_concat]
    by_cases nowhere : ModulePath.segments inserted = []
    · have different : ModulePath.segments inserted ≠ ModulePath.segments path := nowhere ▸ proper.symm
      rw [if_pos nowhere, if_neg different, ih]
    · rw [if_neg nowhere]
      have exchanged := countP_place (· == labelOf target path) (beq_false_of_ne (labelOf_ne_bare path).symm)
        (labelOf target inserted) (ModulePath.segments inserted) (build target paths)
      change List.count _ _ = List.count _ _ at exchanged
      have before := labelAt_build_eq target paths nowhere path
      simp only [List.count_cons, beq_iff_eq, before, labelOf_injective.eq_iff, ih] at exchanged
      -- The label that is replaced is the path's own only if the segments are the same.
      by_cases same : ModulePath.segments inserted = ModulePath.segments path
      · simp only [same, if_true, Option.some.injEq] at exchanged ⊢
        omega
      · have other : inserted ≠ path := fun equal => same (equal ▸ rfl)
        have elsewhere : lastAt paths (ModulePath.segments inserted) ≠ some path := fun last =>
          same (of_lastAt last).2.symm
        simp only [same, if_false, if_neg other, if_neg elsewhere] at exchanged ⊢
        omega

theorem mem_labels_build {label : NodeLabel} (member : label ∈ (build target paths).labels) :
    label = .bare ∨ ∃ path ∈ paths, ModulePath.segments path ≠ [] ∧ label = labelOf target path := by
  induction paths using List.reverseRecOn with
  | nil =>
    left
    simpa [build, empty, labels, Branches.labels] using member
  | append_singleton paths inserted ih =>
    have earlier (old : label ∈ (build target paths).labels) : label = .bare ∨ ∃ path ∈ paths ++ [inserted],
        ModulePath.segments path ≠ [] ∧ label = labelOf target path := by
      rcases ih old with bare | ⟨path, listed, proper, same⟩
      · exact .inl bare
      · exact .inr ⟨path, List.mem_append_left _ listed, proper, same⟩
    rw [build_concat, insert_eq] at member
    by_cases nowhere : ModulePath.segments inserted = []
    · rw [if_pos nowhere] at member
      exact earlier member
    · rw [if_neg nowhere] at member
      rcases mem_place member with bare | new | old
      · exact .inl bare
      · exact .inr ⟨inserted, by simp, nowhere, new⟩
      · exact earlier old

theorem count_carried_build (target : String) (paths : List String) (path : String) :
    (build target paths).carried.count path = (build target paths).labels.count (labelOf target path) := by
  rw [carried, List.count_filterMap]
  refine List.countP_congr fun label member => ?_
  rcases mem_labels_build member with rfl | ⟨other, _, _, rfl⟩
  · simp [NodeLabel.bare, labelOf]
  · rw [beq_iff_eq, beq_iff_eq, labelOf_injective.eq_iff]
    exact Option.some_inj

theorem mem_carried_build (target : String) (paths : List String) (proper : ModulePath.segments path ≠ []) :
    path ∈ (build target paths).carried ↔ lastAt paths (ModulePath.segments path) = some path := by
  rw [← List.count_pos_iff, count_carried_build, count_build target paths proper]
  split <;> simp_all

theorem proper_of_carried (member : path ∈ (build target paths).carried) :
    path ∈ paths ∧ ModulePath.segments path ≠ [] := by
  obtain ⟨label, listed, named⟩ := List.mem_filterMap.mp member
  rcases mem_labels_build listed with rfl | ⟨other, among, proper, rfl⟩
  · cases named
  · cases named
    exact ⟨among, proper⟩

theorem nodup_carried_build (target : String) (paths : List String) : (build target paths).carried.Nodup := by
  refine List.nodup_iff_count_le_one.mpr fun path => ?_
  by_cases proper : ModulePath.segments path = []
  · have absent : path ∉ (build target paths).carried := fun member => (proper_of_carried member).2 proper
    rw [List.count_eq_zero_of_not_mem absent]
    omega
  · rw [count_carried_build, count_build target paths proper]
    split <;> omega

/-- The target is marked unless another path with its segments was inserted after it. -/
theorem filter_isTarget_build (paths : List String) (proper : ModulePath.segments target ≠ []) :
    (build target paths).labels.filter (·.isTarget) =
      if lastAt paths (ModulePath.segments target) = some target then [labelOf target target] else [] := by
  have same : (build target paths).labels.filter (·.isTarget) =
      (build target paths).labels.filter (· == labelOf target target) := by
    refine List.filter_congr fun label member => ?_
    rcases mem_labels_build member with rfl | ⟨other, _, _, rfl⟩
    · rfl
    · rw [Bool.eq_iff_iff, beq_iff_eq, labelOf_injective.eq_iff]
      simp [labelOf]
  rw [same, List.filter_beq, count_build target paths proper]
  split <;> rfl

theorem isTarget_iff_of_build {label : NodeLabel} (member : label ∈ (build target paths).labels) :
    label.isTarget = true ↔ label.path = some target := by
  rcases mem_labels_build member with rfl | ⟨path, _, _, rfl⟩
  · simp [NodeLabel.bare]
  · simp [labelOf]

/-- A target without segments has no node, and any other one has its own or none. -/
theorem length_filter_isTarget_build (target : String) (paths : List String) :
    ((build target paths).labels.filter (·.isTarget)).length ≤ 1 := by
  by_cases proper : ModulePath.segments target = []
  · have none : (build target paths).labels.filter (·.isTarget) = [] := by
      refine List.filter_eq_nil_iff.mpr fun label member marked => ?_
      have carries := (isTarget_iff_of_build member).mp marked
      rcases mem_labels_build member with rfl | ⟨path, _, placed, rfl⟩
      · cases carries
      · cases carries
        exact placed proper
    rw [none]
    exact Nat.zero_le 1
  · rw [filter_isTarget_build paths proper]
    split
    · exact Nat.le_refl 1
    · exact Nat.zero_le 1

end NamespaceTree

end DependencyDiagram
