import DependencyDiagram.Manifest
import DependencyDiagram.Package.Discovery

/-! Where module declarations come from: a manifest, or the packages below a directory. -/

namespace DependencyDiagram

open Log (Recorded)

inductive Source where
  | manifest (path : String)
  | packages (root : String) (filter : Package.DependencyFilter)
deriving DecidableEq, Repr

namespace Source

def describe : Source → String
  | .manifest path => "manifest " ++ path
  | .packages root _ => "Cargo packages under " ++ root

/-- The catalog of the modules a source declares. -/
def load (system : Files.System) : Source → Recorded Catalog
  | .packages root filter => Package.discover system root filter
  | .manifest path =>
    match system.read path with
    | .ok text => Recorded.ofExcept (Manifest.parse text path)
    | .error fault => Recorded.fail (.unreadableFile path fault)

end Source

end DependencyDiagram
