import DependencyDiagram.Proofs.SortedCatalog
import DependencyDiagram.Register

/-!
Modules that are declared one by one. A register keeps its order and its table in step: the order lists every
path of the table once, in whatever way modules are declared and declared again. So it has the paths of the
catalog with the same declarations and gives the same answers.
-/

namespace DependencyDiagram

namespace Catalog

/-- Further declarations, one after the other. -/
def declareAll (catalog : Catalog) (pairs : List (String × List String)) : Catalog :=
  pairs.foldl (fun catalog (path, dependencies) => catalog.declare path dependencies) catalog

theorem dependencies?_declare (catalog : Catalog) (path : String) (dependencies : List String) (other : String) :
    (catalog.declare path dependencies).dependencies? other =
      if path = other then some dependencies else catalog.dependencies? other := by
  obtain ⟨declarations⟩ := catalog
  induction declarations with
  | nil => exact dependencies?_cons ⟨path, dependencies⟩ [] other
  | cons first rest ih =>
    unfold declare at ih ⊢
    rw [replaceOrAppend]
    split
    · next same => exact dependencies?_replaced same dependencies rest other
    · next different => exact dependencies?_passed different ih

/-- A path that is declared again keeps its place. -/
theorem paths_declare (catalog : Catalog) (path : String) (dependencies : List String) :
    (catalog.declare path dependencies).paths =
      if path ∈ catalog.paths then catalog.paths else catalog.paths ++ [path] := by
  obtain ⟨declarations⟩ := catalog
  induction declarations with
  | nil => rfl
  | cons first rest ih =>
    unfold declare paths at ih ⊢
    dsimp only at ih ⊢
    rw [replaceOrAppend]
    split
    · next same => simp [same]
    · next different =>
      rw [List.map_cons, ih, List.map_cons]
      by_cases later : path ∈ rest.map (·.path)
      · rw [if_pos later, if_pos (List.mem_cons_of_mem _ later)]
      · rw [if_neg later, if_neg (List.not_mem_cons_of_ne_of_not_mem (Ne.symm different) later), List.cons_append]

/-- Paths are listed in the order in which they have first been declared. -/
theorem paths_declareAll (pairs : List (String × List String)) (catalog : Catalog) (earlier : List String)
    (listed : catalog.paths = earlier.eraseDups) :
    (catalog.declareAll pairs).paths = (earlier ++ pairs.map Prod.fst).eraseDups := by
  induction pairs generalizing catalog earlier with
  | nil => rw [List.map_nil, List.append_nil, ← listed, declareAll, List.foldl_nil]
  | cons pair rest ih =>
    have declared : (catalog.declare pair.1 pair.2).paths = (earlier ++ [pair.1]).eraseDups := by
      rw [paths_declare, listed, List.eraseDups_append]
      by_cases before : pair.1 ∈ earlier
      · simp [List.removeAll, List.mem_eraseDups, before]
      · simp [List.removeAll, List.mem_eraseDups, before, List.eraseDups_cons]
    have step := ih (catalog.declare pair.1 pair.2) (earlier ++ [pair.1]) declared
    rw [declareAll, List.foldl_cons, ← declareAll, step, List.map_cons, List.append_assoc, List.singleton_append]

end Catalog

namespace Register

/-- The order lists the paths of the table, each of them once. -/
structure InStep (register : Register) : Prop where
  distinct : register.paths.Nodup
  mem_iff : ∀ path, path ∈ register.paths ↔ register.contains path = true

theorem inStep_empty : empty.InStep :=
  ⟨List.nodup_nil, fun path => by simp [empty, paths, contains, dependencies?]⟩

theorem declare_eq (register : Register) (path : String) (dependencies : List String) :
    register.declare path dependencies = ⟨if register.contains path then register.order else register.order.push path,
      register.table.insert path dependencies⟩ := by
  have known : register.table.contains path = register.contains path :=
    Std.HashMap.contains_eq_isSome_getElem?
  have inserted : register.table.containsThenInsert path dependencies =
      (register.table.contains path, register.table.insert path dependencies) :=
    Prod.ext Std.HashMap.containsThenInsert_fst Std.HashMap.containsThenInsert_snd
  rw [declare, inserted, known]

theorem dependencies?_declare (register : Register) (path : String) (dependencies : List String) (other : String) :
    (register.declare path dependencies).dependencies? other =
      if path = other then some dependencies else register.dependencies? other := by
  rw [declare_eq, Register.dependencies?, Std.HashMap.getElem?_insert]
  simp [Register.dependencies?]

theorem contains_declare (register : Register) (path : String) (dependencies : List String) (other : String) :
    (register.declare path dependencies).contains other = true ↔ path = other ∨ register.contains other = true := by
  rw [contains, dependencies?_declare, contains]
  split <;> simp [*]

namespace InStep

variable {register : Register}

/-- A path that is declared again keeps its place. -/
theorem paths_declare (inStep : register.InStep) (path : String) (dependencies : List String) :
    (register.declare path dependencies).paths =
      if path ∈ register.paths then register.paths else register.paths ++ [path] := by
  simp only [declare_eq, inStep.mem_iff]
  split
  · rfl
  · exact Array.toList_push

theorem declare (inStep : register.InStep) (path : String) (dependencies : List String) :
    (register.declare path dependencies).InStep := by
  constructor
  · rw [inStep.paths_declare]
    split
    · exact inStep.distinct
    · next absent =>
      rw [List.nodup_append_comm]
      exact List.nodup_cons.mpr ⟨absent, inStep.distinct⟩
  · intro other
    rw [inStep.paths_declare, contains_declare, ← inStep.mem_iff]
    split
    · next known =>
      refine ⟨.inr, fun listed => listed.elim (fun same => same ▸ known) id⟩
    · rw [List.mem_append, List.mem_singleton, or_comm, eq_comm]

end InStep

/-- A register has the paths of a catalog and gives its answers. -/
structure Mirrors (register : Register) (catalog : Catalog) : Prop where
  paths : register.paths = catalog.paths
  answers : ∀ path, register.dependencies? path = catalog.dependencies? path

namespace Mirrors

variable {register : Register} {catalog : Catalog}

theorem catalog_eq (mirrors : register.Mirrors catalog) (inStep : register.InStep) : register.catalog = catalog := by
  have distinct : catalog.paths.Nodup := mirrors.paths ▸ inStep.distinct
  have declarations : register.catalog.declarations = catalog.declarations := by
    rw [Catalog.declarations_eq distinct, ← mirrors.paths]
    exact List.map_congr_left fun path _ => by rw [mirrors.answers]
  exact congrArg Catalog.mk declarations

theorem declare (mirrors : register.Mirrors catalog) (inStep : register.InStep) (path : String)
    (dependencies : List String) :
    (register.declare path dependencies).Mirrors (catalog.declare path dependencies) := by
  constructor
  · rw [inStep.paths_declare, catalog.paths_declare, mirrors.paths]
  · intro other
    rw [dependencies?_declare, catalog.dependencies?_declare, mirrors.answers]

end Mirrors

theorem declareAll_inStep (pairs : List (String × List String)) {register : Register} {catalog : Catalog}
    (inStep : register.InStep) (mirrors : register.Mirrors catalog) :
    (register.declareAll pairs).InStep ∧ (register.declareAll pairs).Mirrors (catalog.declareAll pairs) := by
  induction pairs generalizing register catalog with
  | nil => exact ⟨inStep, mirrors⟩
  | cons pair rest ih => exact ih (inStep.declare pair.1 pair.2) (mirrors.declare inStep pair.1 pair.2)

theorem mirrors_empty : empty.Mirrors .empty :=
  ⟨rfl, fun path => by simp [empty, dependencies?, Catalog.empty, Catalog.dependencies?]⟩

end Register

end DependencyDiagram
