import DependencyDiagram.Proofs.NamespaceChildren

/-!
One more path in a namespace tree. A path whose node carries it already changes nothing. Any other one changes
the label of its own node and leads to it through children that are added behind the others where they are
missing, while all else stays as it is. Two paths with different segments can change places: the trees differ in
the order of children only.
-/

namespace DependencyDiagram

namespace Branches

variable {segment : String} {change : NamespaceTree → NamespaceTree}

theorem update_eq_self {node : NamespaceTree} {branches : Branches} (found : branches.find? segment = some node)
    (unchanged : change node = node) : branches.update segment change = branches := by
  induction branches with
  | nil => cases found
  | cons key label children siblings _ beside =>
    rw [find?] at found
    rw [update]
    split at found
    · next here =>
      cases found
      rw [if_pos here, unchanged]
    · next elsewhere => rw [if_neg elsewhere, beside found]

theorem update_update (change other : NamespaceTree → NamespaceTree) (branches : Branches) :
    (branches.update segment other).update segment change = branches.update segment (change ∘ other) := by
  induction branches with
  | nil => simp [update]
  | cons key label children siblings _ beside =>
    by_cases here : key = segment
    · simp [update, here]
    · simp [update, here, beside]

/-- The same branches, with siblings in another order at any depth. -/
inductive Rearranged : Branches → Branches → Prop
  | nil : Rearranged .nil .nil
  | cons {segment label children others siblings rest} : Rearranged children others → Rearranged siblings rest →
      Rearranged (.cons segment label children siblings) (.cons segment label others rest)
  | swap {segment label children other otherLabel otherChildren siblings} :
      Rearranged (.cons segment label children (.cons other otherLabel otherChildren siblings))
        (.cons other otherLabel otherChildren (.cons segment label children siblings))
  | trans {first second third} : Rearranged first second → Rearranged second third → Rearranged first third

theorem Rearranged.refl (branches : Branches) : Rearranged branches branches := by
  induction branches with
  | nil => exact .nil
  | cons segment label children siblings below beside => exact .cons below beside

end Branches

/-- The same tree up to the order of children. -/
structure NamespaceTree.Rearranged (tree other : NamespaceTree) : Prop where
  label : tree.label = other.label
  children : tree.children.Rearranged other.children

theorem NamespaceTree.Rearranged.refl (tree : NamespaceTree) : tree.Rearranged tree := ⟨rfl, .refl tree.children⟩

namespace Branches

variable {segment other : String} {change otherChange : NamespaceTree → NamespaceTree}

theorem rearranged_update (alike : ∀ tree, (change tree).Rearranged (otherChange tree)) (branches : Branches) :
    (branches.update segment change).Rearranged (branches.update segment otherChange) := by
  have changed (label : NodeLabel) (children : Branches) {siblings rest : Branches}
      (same : siblings.Rearranged rest) :
      (cons segment (change ⟨label, children⟩).label (change ⟨label, children⟩).children siblings).Rearranged
        (cons segment (otherChange ⟨label, children⟩).label (otherChange ⟨label, children⟩).children rest) := by
    rw [(alike ⟨label, children⟩).label]
    exact .cons (alike ⟨label, children⟩).children same
  induction branches with
  | nil => exact changed .bare .nil .nil
  | cons key label children siblings _ beside =>
    rw [update, update]
    split
    · next here =>
      subst here
      exact changed label children (.refl siblings)
    · exact .cons (.refl children) beside

/-- Changes of different children only differ in which missing child is added first. -/
theorem rearranged_update_comm (different : segment ≠ other) (branches : Branches) :
    ((branches.update other otherChange).update segment change).Rearranged
      ((branches.update segment change).update other otherChange) := by
  induction branches with
  | nil =>
    simp only [update, if_neg different, if_neg different.symm]
    exact .swap
  | cons key label children siblings _ beside =>
    by_cases here : key = segment
    · subst here
      simp only [update, if_true, if_neg different]
      exact .refl _
    · by_cases there : key = other
      · subst there
        simp only [update, if_true, if_neg here]
        exact .refl _
      · simp only [update, if_neg here, if_neg there]
        exact .cons (.refl children) beside

end Branches

namespace NamespaceTree

open ModulePath (nextSegment? nextSegment?_eq_some)

variable {target path : String} {tree node : NamespaceTree} {label : NodeLabel} {segments chain : List String}

theorem place_eq_self (reached : tree.descend? segments = some node) (labelled : node.label = label) :
    place label segments tree = tree := by
  induction segments generalizing tree with
  | nil =>
    cases reached
    subst labelled
    rfl
  | cons segment rest ih =>
    obtain ⟨child, found, below⟩ := Option.bind_eq_some_iff.mp reached
    rw [place, Branches.update_eq_self found (ih below)]

theorem descend?_empty (proper : chain ≠ []) : empty.descend? chain = none := by
  cases chain with
  | nil => exact absurd rfl proper
  | cons segment rest => rfl

/-- On the way to the label a missing node counts as one that is bare and without children. -/
theorem descend?_place_append (label : NodeLabel) (chain rest : List String) (tree : NamespaceTree) :
    (place label (chain ++ rest) tree).descend? chain =
      some (place label rest ((tree.descend? chain).getD .empty)) := by
  induction chain generalizing tree with
  | nil => rfl
  | cons segment chain ih =>
    rw [List.cons_append, descend?, child?_place, if_pos rfl, Option.bind_some, ih, getD_descend?_cons]

/-- What is not on the way to the label, be it beside or below, stays as it is. -/
theorem descend?_place_of_aside (label : NodeLabel) (aside : ¬ chain <+: segments) (tree : NamespaceTree) :
    (place label segments tree).descend? chain = tree.descend? chain := by
  induction segments generalizing chain tree with
  | nil =>
    cases chain with
    | nil => exact absurd List.prefix_rfl aside
    | cons first chain => rfl
  | cons segment rest ih =>
    cases chain with
    | nil => exact absurd List.nil_prefix aside
    | cons first chain =>
      rw [descend?, descend?, child?_place]
      split
      · next same =>
        subst same
        have below : ¬ chain <+: rest := fun begins => aside (List.cons_prefix_cons.mpr ⟨rfl, begins⟩)
        rw [Option.bind_some, ih below]
        cases tree.child? segment with
        | none => exact descend?_empty fun nil => below (nil ▸ List.nil_prefix)
        | some child => rfl
      · rfl

theorem descend?_place_isSome (label : NodeLabel) (segments chain : List String) (tree : NamespaceTree) :
    ((place label segments tree).descend? chain).isSome ↔
      (tree.descend? chain).isSome ∨ chain <+: segments := by
  by_cases begins : chain <+: segments
  · obtain ⟨rest, rfl⟩ := begins
    simp [descend?_place_append]
  · rw [descend?_place_of_aside label begins, or_iff_left begins]

theorem rearranged_place_comm (label other : NodeLabel) {segments others : List String}
    (different : segments ≠ others) (tree : NamespaceTree) :
    (place label segments (place other others tree)).Rearranged (place other others (place label segments tree)) := by
  induction segments generalizing others tree with
  | nil =>
    cases others with
    | nil => exact absurd rfl different
    | cons head tail => exact .refl _
  | cons segment rest ih =>
    cases others with
    | nil => exact .refl _
    | cons head tail =>
      refine ⟨rfl, ?_⟩
      -- Below a common segment the argument repeats; where the ways part, the changes are of different children.
      by_cases same : segment = head
      · subst same
        have apart : rest ≠ tail := fun equal => different (congrArg _ equal)
        simp only [place, Branches.update_update]
        exact Branches.rearranged_update (ih apart) tree.children
      · exact Branches.rearranged_update_comm same tree.children

theorem insert_of_segments (tree : NamespaceTree) (proper : ModulePath.segments path ≠ []) :
    tree.insert target path = place (labelOf target path) (ModulePath.segments path) tree := by
  rw [insert_eq, if_neg proper]

theorem insert_of_segments_eq_nil (tree : NamespaceTree) (nowhere : ModulePath.segments path = []) :
    tree.insert target path = tree := by
  rw [insert_eq, if_pos nowhere]

theorem descend?_insert_isSome (target path : String) (chain : List String) (tree : NamespaceTree) :
    ((tree.insert target path).descend? chain).isSome ↔
      (tree.descend? chain).isSome ∨ chain <+: ModulePath.segments path := by
  by_cases proper : ModulePath.segments path = []
  · rw [insert_of_segments_eq_nil tree proper, proper, List.prefix_nil, iff_self_or]
    rintro rfl
    rfl
  · rw [insert_of_segments tree proper]
    exact descend?_place_isSome _ _ chain tree

/-- What an inserted path does to a tree. -/
structure Inserted (target path : String) (before after : NamespaceTree) : Prop where
  nowhere : ModulePath.segments path = [] → after = before
  carried : ModulePath.segments path ≠ [] →
    (after.descend? (ModulePath.segments path)).map (·.label) = some (labelOf target path)
  /-- No node is removed, and no label but the path's own is changed. -/
  kept : ∀ chain node, before.descend? chain = some node → ∃ later, after.descend? chain = some later ∧
    (chain ≠ ModulePath.segments path → later.label = node.label)
  /-- A child is added behind the others and only if the way to the path leads through it. -/
  appended : ∀ chain node later, before.descend? chain = some node → after.descend? chain = some later →
    later.children.keys = node.children.keys ∨
      ∃ key ∉ node.children.keys, chain ++ [key] <+: ModulePath.segments path ∧
        later.children.keys = node.children.keys ++ [key]
  /-- A node that is added lies on the way and is bare unless it is the path's own. -/
  added : ∀ chain later, before.descend? chain = none → after.descend? chain = some later →
    chain <+: ModulePath.segments path ∧ (chain ≠ ModulePath.segments path → later.label = .bare)
  /-- The subtrees beside the way and below its end are untouched. -/
  aside : ∀ chain, ¬ chain <+: ModulePath.segments path → after.descend? chain = before.descend? chain

theorem inserted_insert (target path : String) (tree : NamespaceTree) :
    Inserted target path tree (tree.insert target path) where
  nowhere := insert_of_segments_eq_nil tree
  carried := by
    intro proper
    have placed := descend?_place_append (labelOf target path) (ModulePath.segments path) [] tree
    rw [List.append_nil, ← insert_of_segments tree proper] at placed
    rw [placed]
    rfl
  kept := by
    intro chain node reached
    have remains : ((tree.insert target path).descend? chain).isSome :=
      (descend?_insert_isSome target path chain tree).mpr (.inl (Option.isSome_of_eq_some reached))
    obtain ⟨later, found⟩ := Option.isSome_iff_exists.mp remains
    refine ⟨later, found, fun elsewhere => ?_⟩
    rw [label_eq_labelAt found, labelAt_insert, if_neg fun own => elsewhere own.2.symm, label_eq_labelAt reached]
  appended := by
    intro chain node later reached found
    rw [keys_of_descend? found, keys_of_descend? reached, keysAt_insert]
    cases goesOn : nextSegment? chain (ModulePath.segments path) with
    | none => exact .inl rfl
    | some key =>
      rw [Option.elim_some, noted]
      split
      · exact .inl rfl
      · next absent => exact .inr ⟨key, absent, nextSegment?_eq_some.mp goesOn, rfl⟩
  added := by
    intro chain later missing found
    have reached := (descend?_insert_isSome target path chain tree).mp (Option.isSome_of_eq_some found)
    have begins := reached.resolve_left (by simp [missing])
    refine ⟨begins, fun elsewhere => ?_⟩
    rw [label_eq_labelAt found, labelAt_insert, if_neg fun own => elsewhere own.2.symm, labelAt, missing]
    rfl
  aside := by
    intro chain aside
    by_cases proper : ModulePath.segments path = []
    · rw [insert_of_segments_eq_nil tree proper]
    · rw [insert_of_segments tree proper]
      exact descend?_place_of_aside _ aside tree

/-- The same nodes with the same labels, with children in another order at most. -/
structure Alike (tree other : NamespaceTree) : Prop where
  nodes : ∀ chain, (tree.descend? chain).map (·.label) = (other.descend? chain).map (·.label)
  rearranged : tree.Rearranged other

theorem map_label_eq {other : NamespaceTree} (reached : (tree.descend? chain).isSome ↔ (other.descend? chain).isSome)
    (labels : tree.labelAt chain = other.labelAt chain) :
    (tree.descend? chain).map (·.label) = (other.descend? chain).map (·.label) := by
  unfold labelAt at labels
  cases first : tree.descend? chain <;> cases second : other.descend? chain <;> simp_all

theorem alike_insert_comm {other : String} (different : ModulePath.segments path ≠ ModulePath.segments other)
    (tree : NamespaceTree) : Alike ((tree.insert target path).insert target other)
      ((tree.insert target other).insert target path) where
  nodes := by
    intro chain
    refine map_label_eq ?_ ?_
    · rw [descend?_insert_isSome, descend?_insert_isSome, descend?_insert_isSome, descend?_insert_isSome,
        or_right_comm]
    · rw [labelAt_insert, labelAt_insert, labelAt_insert, labelAt_insert]
      by_cases own : ModulePath.segments path = chain
      · have apart : ModulePath.segments other ≠ chain := fun same => different (own.trans same.symm)
        simp [apart]
      · simp [own]
  rearranged := by
    by_cases proper : ModulePath.segments path = []
    · rw [insert_of_segments_eq_nil tree proper, insert_of_segments_eq_nil _ proper]
      exact .refl _
    · by_cases otherProper : ModulePath.segments other = []
      · rw [insert_of_segments_eq_nil tree otherProper, insert_of_segments_eq_nil _ otherProper]
        exact .refl _
      · rw [insert_of_segments tree proper, insert_of_segments _ otherProper, insert_of_segments tree otherProper,
          insert_of_segments _ proper]
        exact rearranged_place_comm _ _ different.symm tree

theorem insert_eq_self {paths : List String}
    (reached : (build target paths).descend? (ModulePath.segments path) = some node)
    (carries : node.label.path = some path) : (build target paths).insert target path = build target paths := by
  by_cases proper : ModulePath.segments path = []
  · exact insert_of_segments_eq_nil _ proper
  · have labelled : node.label = labelOf target path := by
      have read := label_of_descend? proper reached
      cases last : lastAt paths (ModulePath.segments path) with
      | none =>
        rw [read, last] at carries
        cases carries
      | some other =>
        rw [read, last] at carries
        cases carries
        rw [read, last]
        rfl
    rw [insert_of_segments _ proper, place_eq_self reached labelled]

/-- Inserting a path once more changes nothing, inserting any path changes nothing outside its own node but the
children on the way to it, and paths with different segments may be inserted in either order. -/
theorem build_insert_laws (target : String) (paths : List String) (path : String) :
    (∀ node, (build target paths).descend? (ModulePath.segments path) = some node → node.label.path = some path →
      (build target paths).insert target path = build target paths) ∧
    Inserted target path (build target paths) ((build target paths).insert target path) ∧
    ∀ other, ModulePath.segments path ≠ ModulePath.segments other →
      Alike (((build target paths).insert target path).insert target other)
        (((build target paths).insert target other).insert target path) :=
  ⟨fun _ => insert_eq_self, inserted_insert target path _, fun _ different => alike_insert_comm different _⟩

/-- The two modules become siblings, and their order is the only difference. -/
theorem build_insert_laws_siblings :
    (build ":core" [":core:data", ":core"]).insert ":core" ":core:data" = build ":core" [":core:data", ":core"] ∧
    Alike (((build ":core" [":core:data", ":core"]).insert ":core" ":core:data:api").insert ":core" ":core:data:ui")
      (((build ":core" [":core:data", ":core"]).insert ":core" ":core:data:ui").insert ":core" ":core:data:api") ∧
    ((build ":core" [":core:data", ":core"]).insert ":core" ":core:data:api").insert ":core" ":core:data:ui" ≠
      ((build ":core" [":core:data", ":core"]).insert ":core" ":core:data:ui").insert ":core" ":core:data:api" := by
  obtain ⟨again, _, _⟩ := build_insert_laws ":core" [":core:data", ":core"] ":core:data"
  obtain ⟨_, _, either⟩ := build_insert_laws ":core" [":core:data", ":core"] ":core:data:api"
  have carried : (build ":core" [":core:data", ":core"]).descend? (ModulePath.segments ":core:data") =
      some ⟨labelOf ":core" ":core:data", .nil⟩ := by decide +kernel
  exact ⟨again _ carried rfl, either ":core:data:ui" (by decide +kernel), by decide +kernel⟩

end NamespaceTree

end DependencyDiagram
