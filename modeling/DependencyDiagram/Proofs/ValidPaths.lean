import DependencyDiagram.Manifest
import DependencyDiagram.Proofs.DeclaredGraph

/-!
Valid paths in manifests. A catalog is refused for its first invalid path and for nothing else. An accepted
manifest therefore has valid paths only, those of dependencies included, so whatever a valid target reaches
has a valid path and with it a place in the namespace tree.
-/

namespace DependencyDiagram

theorem ModulePath.segments_ne_nil {path : String} (valid : isValid path = true) : segments path ≠ [] := by
  intro none
  simp [isValid, none] at valid

theorem ModulePath.validate_ok_iff {path : String} : validate path = .ok () ↔ isValid path = true := by
  unfold validate
  split <;> simp_all

namespace Catalog

/-- All paths of a catalog are valid, whether they are declared or depended upon. -/
def Valid (catalog : Catalog) : Prop :=
  ∀ declaration ∈ catalog.declarations, ∀ path ∈ declaration.path :: declaration.dependencies,
    ModulePath.isValid path = true

/-- The first path that is not valid: the declarations are gone through in their order, each path before
its own dependencies. -/
def firstInvalid? (catalog : Catalog) : Option String :=
  (catalog.declarations.flatMap fun declaration => declaration.path :: declaration.dependencies).find?
    (!ModulePath.isValid ·)

theorem firstInvalid?_eq_none_iff {catalog : Catalog} : catalog.firstInvalid? = none ↔ catalog.Valid := by
  simp [firstInvalid?, Valid]

end Catalog

namespace Manifest

/-- The catalog if all its paths are valid, else the failure that names the first one that is not. -/
def checked (catalog : Catalog) : Except Failure Catalog :=
  match catalog.firstInvalid? with
  | none => .ok catalog
  | some path => .error (.invalidPath path)

theorem forM_validate (paths : List String) : paths.forM ModulePath.validate =
    match paths.find? (!ModulePath.isValid ·) with
    | none => .ok ()
    | some path => .error (.invalidPath path) := by
  induction paths with
  | nil => rfl
  | cons path rest ih =>
    rw [List.forM, ih, ModulePath.validate]
    cases valid : ModulePath.isValid path with
    | true =>
      rw [List.find?_cons_of_neg (by simp [valid])]
      rfl
    | false =>
      rw [List.find?_cons_of_pos (by simp [valid])]
      rfl

theorem validate_eq (catalog : Catalog) : validate catalog =
    (catalog.declarations.flatMap fun declaration => declaration.path :: declaration.dependencies).forM
      ModulePath.validate := by
  unfold validate
  induction catalog.declarations with
  | nil => rfl
  | cons first rest ih =>
    rw [List.forM, ih, List.flatMap_cons]
    exact List.forM_append.symm

theorem catalogOf_eq (declarations : List (String × List String)) :
    catalogOf declarations = checked (.sortedOfPairs declarations) := by
  rw [catalogOf, validate_eq, forM_validate, checked, Catalog.firstInvalid?]
  split <;> rfl

theorem parse_valid {text name : String} {catalog : Catalog} (parsed : parse text name = .ok catalog) :
    catalog.Valid := by
  unfold parse at parsed
  split at parsed
  · cases parsed
  · rw [catalogOf_eq, checked] at parsed
    split at parsed
    · next allValid =>
      cases parsed
      exact Catalog.firstInvalid?_eq_none_iff.mp allValid
    · cases parsed

end Manifest

namespace Catalog

variable {catalog : Catalog} {source target : String}

theorem Valid.declares (valid : catalog.Valid) (declares : catalog.Declares source target) :
    ModulePath.isValid target = true := by
  obtain ⟨declared, found, member⟩ := declares
  obtain ⟨declaration, present, rfl⟩ := Option.map_eq_some_iff.mp found
  exact valid declaration (List.mem_of_find?_eq_some present) target (List.mem_cons_of_mem _ member)

theorem Valid.reaches (valid : catalog.Valid) (start : ModulePath.isValid source = true)
    (reached : catalog.Reaches source target) : ModulePath.isValid target = true := by
  cases reached with
  | refl => exact start
  | tail _ declares => exact valid.declares declares

end Catalog

end DependencyDiagram
