import DependencyDiagram.Catalog
import Mathlib.Data.List.Dedup

/-!
Catalogs sorted by path. Such a catalog has one declaration for each path that has been declared, with the
dependencies that were declared for it last.
-/

namespace DependencyDiagram.Catalog

theorem dependencies?_isSome {catalog : Catalog} {path : String} :
    (catalog.dependencies? path).isSome ↔ path ∈ catalog.paths := by
  rw [dependencies?, Option.isSome_map, List.find?_isSome, paths]
  simp

theorem dependencies?_cons (first : Declaration) (rest : List Declaration) (path : String) :
    dependencies? ⟨first :: rest⟩ path =
      if first.path = path then some first.dependencies else dependencies? ⟨rest⟩ path := by
  by_cases found : first.path = path <;> simp [dependencies?, found]

section Replaced

variable {first : Declaration} {path : String}

theorem dependencies?_replaced (same : first.path = path) (dependencies : List String) (rest : List Declaration)
    (other : String) : dependencies? ⟨⟨path, dependencies⟩ :: rest⟩ other =
      if path = other then some dependencies else dependencies? ⟨first :: rest⟩ other := by
  rw [dependencies?_cons, dependencies?_cons, same]
  by_cases here : path = other
  · rw [if_pos here, if_pos here]
  · rw [if_neg here, if_neg here, if_neg here]

/-- What is declared behind the declaration of another path does not concern that path. -/
theorem dependencies?_passed (different : first.path ≠ path) {dependencies : List String} {other : String}
    {rest changed : List Declaration}
    (behind : dependencies? ⟨changed⟩ other =
      if path = other then some dependencies else dependencies? ⟨rest⟩ other) :
    dependencies? ⟨first :: changed⟩ other =
      if path = other then some dependencies else dependencies? ⟨first :: rest⟩ other := by
  rw [dependencies?_cons, dependencies?_cons, behind]
  by_cases found : first.path = other
  · have elsewhere : path ≠ other := fun same => different (found.trans same.symm)
    rw [if_pos found, if_pos found, if_neg elsewhere]
  · rw [if_neg found, if_neg found]

end Replaced

theorem dependencies?_insert (catalog : Catalog) (path : String) (dependencies : List String) (other : String) :
    (catalog.insert path dependencies).dependencies? other =
      if path = other then some dependencies else catalog.dependencies? other := by
  obtain ⟨declarations⟩ := catalog
  induction declarations with
  | nil => exact dependencies?_cons ⟨path, dependencies⟩ [] other
  | cons first rest ih =>
    unfold insert at ih ⊢
    rw [replaceOrInsert]
    split
    · exact dependencies?_cons ⟨path, dependencies⟩ (first :: rest) other
    · split
      · next same => exact dependencies?_replaced same dependencies rest other
      · next different => exact dependencies?_passed different ih

/-- However declarations are added, if each replaces what has been declared for its path, the last one counts. -/
theorem dependencies?_foldl {add : Catalog → String × List String → Catalog}
    (adds : ∀ catalog pair path, (add catalog pair).dependencies? path =
      if pair.1 = path then some pair.2 else catalog.dependencies? path)
    (pairs : List (String × List String)) (catalog : Catalog) (path : String) :
    (pairs.foldl add catalog).dependencies? path = (pairs.reverse.lookup path).or (catalog.dependencies? path) := by
  induction pairs generalizing catalog with
  | nil => rfl
  | cons pair rest ih =>
    rw [List.foldl_cons, ih, adds, List.reverse_cons, List.lookup_append]
    obtain ⟨declared, dependencies⟩ := pair
    by_cases same : path = declared
    · simp [same]
    · simp [List.lookup_cons, Ne.symm same, beq_false_of_ne same]

/-- The last declaration of a path counts. -/
theorem dependencies?_sortedOfPairs (pairs : List (String × List String)) (path : String) :
    (sortedOfPairs pairs).dependencies? path = pairs.reverse.lookup path := by
  rw [sortedOfPairs, dependencies?_foldl fun catalog pair path => dependencies?_insert catalog pair.1 pair.2 path]
  simp [dependencies?, empty]

/-- Each path is smaller than all that come after it. -/
def Sorted (catalog : Catalog) : Prop := catalog.paths.Pairwise (· < ·)

theorem mem_paths_insert {catalog : Catalog} {path other : String} {dependencies : List String} :
    other ∈ (catalog.insert path dependencies).paths ↔ other = path ∨ other ∈ catalog.paths := by
  rw [← dependencies?_isSome, ← dependencies?_isSome, dependencies?_insert]
  by_cases same : path = other
  · simp [same]
  · simp [same, Ne.symm same]

/-- A path that has not been declared adds its declaration to the others. -/
theorem perm_insert {catalog : Catalog} {path : String} (absent : path ∉ catalog.paths) (dependencies : List String) :
    (catalog.insert path dependencies).declarations.Perm (⟨path, dependencies⟩ :: catalog.declarations) := by
  obtain ⟨declarations⟩ := catalog
  unfold insert
  induction declarations with
  | nil => exact .refl _
  | cons first rest ih =>
    obtain ⟨different, restAbsent⟩ := not_or.mp (mt List.mem_cons.mpr absent)
    dsimp only at ih ⊢
    rw [replaceOrInsert]
    split
    · exact .refl _
    · rw [if_neg (Ne.symm different)]
      exact ((ih restAbsent).cons first).trans (.swap _ _ _)

theorem Sorted.insert {catalog : Catalog} (sorted : catalog.Sorted) (path : String) (dependencies : List String) :
    (catalog.insert path dependencies).Sorted := by
  obtain ⟨declarations⟩ := catalog
  induction declarations with
  | nil => exact List.pairwise_singleton _ _
  | cons first rest ih =>
    obtain ⟨smallest, restSorted⟩ := List.pairwise_cons.mp sorted
    have inserted : Sorted ⟨replaceOrInsert ⟨path, dependencies⟩ rest⟩ := ih restSorted
    unfold Sorted Catalog.insert paths
    rw [replaceOrInsert]
    split
    · next smaller =>
      refine List.pairwise_cons.mpr ⟨fun other member => ?_, sorted⟩
      rcases List.mem_cons.mp member with rfl | later
      · exact smaller
      · exact String.lt_trans smaller (smallest other later)
    · next notSmaller =>
      split
      · next same =>
        subst same
        exact sorted
      · next different =>
        refine List.pairwise_cons.mpr ⟨fun other member => ?_, inserted⟩
        have among : other ∈ (Catalog.insert ⟨rest⟩ path dependencies).paths := member
        rcases mem_paths_insert.mp among with rfl | later
        · exact Std.lt_of_le_of_ne (String.not_lt.mp notSmaller) different
        · exact smallest other later

theorem sorted_sortedOfPairs (pairs : List (String × List String)) : (sortedOfPairs pairs).Sorted := by
  have kept (catalog : Catalog) (sorted : catalog.Sorted) :
      (pairs.foldl (fun catalog pair => catalog.insert pair.1 pair.2) catalog).Sorted := by
    induction pairs generalizing catalog with
    | nil => exact sorted
    | cons pair rest ih => exact ih _ (sorted.insert pair.1 pair.2)
  exact kept empty List.Pairwise.nil

theorem Sorted.nodup {catalog : Catalog} (sorted : catalog.Sorted) : catalog.paths.Nodup := by
  refine List.Pairwise.imp ?_ sorted
  rintro path other smaller rfl
  exact String.lt_irrefl path smaller

theorem Sorted.paths_eq {catalog other : Catalog} (sorted : catalog.Sorted) (otherSorted : other.Sorted)
    (same : ∀ path, path ∈ catalog.paths ↔ path ∈ other.paths) : catalog.paths = other.paths := by
  have perm : catalog.paths.Perm other.paths :=
    (List.perm_ext_iff_of_nodup sorted.nodup otherSorted.nodup).mpr same
  refine perm.eq_of_pairwise ?_ sorted otherSorted
  exact fun path next _ _ before after => absurd (String.lt_trans before after) (String.lt_irrefl path)

theorem dependencies?_of_mem {catalog : Catalog} (distinct : catalog.paths.Nodup) {declaration : Declaration}
    (member : declaration ∈ catalog.declarations) :
    catalog.dependencies? declaration.path = some declaration.dependencies := by
  obtain ⟨declarations⟩ := catalog
  induction declarations with
  | nil => cases member
  | cons first rest ih =>
    obtain ⟨absent, restDistinct⟩ := List.nodup_cons.mp distinct
    rw [dependencies?_cons]
    rcases List.mem_cons.mp member with rfl | later
    · rw [if_pos rfl]
    · have elsewhere : first.path ≠ declaration.path := fun same =>
        absent (List.mem_map.mpr ⟨declaration, later, same.symm⟩)
      rw [if_neg elsewhere]
      exact ih restDistinct later

/-- Without repetitions a catalog consists of its paths with the answers for them. -/
theorem declarations_eq {catalog : Catalog} (distinct : catalog.paths.Nodup) : catalog.declarations =
    catalog.paths.map fun path => ⟨path, (catalog.dependencies? path).getD []⟩ := by
  have each (declaration : Declaration) (member : declaration ∈ catalog.declarations) :
      (⟨declaration.path, (catalog.dependencies? declaration.path).getD []⟩ : Declaration) = declaration := by
    rw [dependencies?_of_mem distinct member, Option.getD_some]
  rw [paths, List.map_map]
  exact ((List.map_congr_left each).trans (List.map_id _)).symm

/-- A sorted catalog is determined by what is declared for each path. -/
theorem Sorted.ext {catalog other : Catalog} (sorted : catalog.Sorted) (otherSorted : other.Sorted)
    (same : ∀ path, catalog.dependencies? path = other.dependencies? path) : catalog = other := by
  have paths : catalog.paths = other.paths := sorted.paths_eq otherSorted fun path => by
    rw [← dependencies?_isSome, same, dependencies?_isSome]
  have declarations : catalog.declarations = other.declarations := by
    rw [declarations_eq sorted.nodup, declarations_eq otherSorted.nodup, paths]
    exact List.map_congr_left fun path _ => by rw [same]
  exact congrArg Catalog.mk declarations

section Declared

variable (pairs : List (String × List String))

theorem mem_paths_sortedOfPairs {path : String} :
    path ∈ (sortedOfPairs pairs).paths ↔ path ∈ pairs.map Prod.fst := by
  rw [← dependencies?_isSome, dependencies?_sortedOfPairs, List.lookup_isSome_iff]
  simp

/-- There is a declaration for each of the pairs exactly if no two of them have the same path. -/
theorem size_sortedOfPairs_eq_iff : (sortedOfPairs pairs).size = pairs.length ↔ (pairs.map Prod.fst).Nodup := by
  have same : (sortedOfPairs pairs).paths.Perm (pairs.map Prod.fst).dedup := by
    rw [List.perm_ext_iff_of_nodup (sorted_sortedOfPairs pairs).nodup (List.nodup_dedup _)]
    intro path
    rw [mem_paths_sortedOfPairs, List.mem_dedup]
  have size : (sortedOfPairs pairs).size = (pairs.map Prod.fst).dedup.length := by
    rw [← same.length_eq, paths, List.length_map, Catalog.size]
  have length : pairs.length = (pairs.map Prod.fst).length := by rw [List.length_map]
  rw [size, length]
  constructor
  · intro full
    rw [← (List.dedup_sublist _).eq_of_length full]
    exact List.nodup_dedup _
  · intro distinct
    rw [List.dedup_eq_self.mpr distinct]

/-- Different paths keep their declarations, whatever order they come in. -/
theorem perm_sortedOfPairs (distinct : (pairs.map Prod.fst).Nodup) :
    (sortedOfPairs pairs).declarations.Perm (pairs.map fun pair => ⟨pair.1, pair.2⟩) := by
  have added (catalog : Catalog) (apart : ∀ path ∈ pairs.map Prod.fst, path ∉ catalog.paths) :
      (pairs.foldl (fun catalog pair => catalog.insert pair.1 pair.2) catalog).declarations.Perm
        (pairs.map (fun pair => ⟨pair.1, pair.2⟩) ++ catalog.declarations) := by
    induction pairs generalizing catalog with
    | nil => exact .refl _
    | cons pair rest ih =>
      obtain ⟨once, restDistinct⟩ := List.nodup_cons.mp distinct
      obtain ⟨absent, restApart⟩ := List.forall_mem_cons.mp apart
      have further := ih restDistinct (catalog.insert pair.1 pair.2) fun path member declared => by
        rcases mem_paths_insert.mp declared with rfl | before
        · exact once member
        · exact restApart path member before
      exact (further.trans ((perm_insert absent pair.2).append_left _)).trans List.perm_middle
  rw [← List.append_nil (pairs.map _)]
  exact added empty fun path _ => List.not_mem_nil

/-- A path that is declared once keeps its dependencies. -/
theorem dependencies?_of_nodup (distinct : (pairs.map Prod.fst).Nodup) {path : String} {dependencies : List String}
    (member : (path, dependencies) ∈ pairs) :
    (sortedOfPairs pairs).dependencies? path = some dependencies := by
  rw [dependencies?_sortedOfPairs, List.lookup_eq_some_iff]
  obtain ⟨later, earlier, split⟩ := List.append_of_mem (List.mem_reverse.mpr member)
  refine ⟨later, earlier, split, fun pair listed => ?_⟩
  have reversed : (pairs.reverse.map Prod.fst).Nodup := by
    rw [List.map_reverse]
    exact List.nodup_reverse.mpr distinct
  rw [split, List.map_append, List.map_cons] at reversed
  have apart := (List.nodup_append.mp reversed).2.2 pair.1 (List.mem_map_of_mem listed) path List.mem_cons_self
  exact bne_iff_ne.mpr (Ne.symm apart)

end Declared

end DependencyDiagram.Catalog
