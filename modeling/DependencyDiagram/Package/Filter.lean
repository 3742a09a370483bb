/-! Which declared dependencies of a package count as edges. -/

namespace DependencyDiagram.Package

inductive DependencyKind where
  | normal
  | build
  | dev
deriving DecidableEq, Repr

structure DependencyFilter where
  excludeDev : Bool
  excludeBuild : Bool
  excludeTarget : Bool
deriving DecidableEq, Repr

namespace DependencyFilter

def includeAll : DependencyFilter := ⟨false, false, false⟩

def includesDev (filter : DependencyFilter) : Bool := !filter.excludeDev

def includesBuild (filter : DependencyFilter) : Bool := !filter.excludeBuild

/-- Whether dependencies declared for one target platform count. -/
def includesTarget (filter : DependencyFilter) : Bool := !filter.excludeTarget

def admitsKind (filter : DependencyFilter) : DependencyKind → Bool
  | .normal => true
  | .build => filter.includesBuild
  | .dev => filter.includesDev

/-- A dependency counts when both its kind and its being bound to a target do. -/
def admits (filter : DependencyFilter) (kind : DependencyKind) (forTarget : Bool) : Bool :=
  filter.admitsKind kind && (!forTarget || filter.includesTarget)

end DependencyFilter

end DependencyDiagram.Package
