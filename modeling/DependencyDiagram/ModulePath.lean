import DependencyDiagram.Failure

/-!
A module path names a module by `:`-separated segments, as in `:core:data`. Empty segments do not
count, so `::core` and `:core:` name the same place in the namespace tree as `:core` does, although
they remain different paths.
-/

namespace DependencyDiagram.ModulePath

def separator : Char := ':'

/-- The non-empty names between separators, outermost namespace first. -/
def segments (path : String) : List String :=
  ((path.toList.splitOn separator).filter (!·.isEmpty)).map String.ofList

/-- A usable path starts with a separator and has at least one segment. -/
def isValid (path : String) : Bool :=
  path.toList.head? == some separator && !(segments path).isEmpty

def validate (path : String) : Except Failure Unit :=
  if isValid path then .ok () else .error (.invalidPath path)

/-- The last segment, or the whole text when there is none. -/
def shortName (path : String) : String :=
  (segments path).getLast?.getD path

/-- What an identifier holds in place of one character of a path. -/
def identifierPart (c : Char) : List Char :=
  if c = separator then ['_', '_']
  else if c = '-' then ['_', '_', '_']
  else [c]

/-- Drops one leading separator, never two. -/
def dropSeparator : List Char → List Char
  | [] => []
  | c :: rest => if c = separator then rest else c :: rest

/-- The identifier that stands for a path, a segment or a run of segments outside quotes. -/
def identifier (path : String) : String :=
  String.ofList ((dropSeparator path.toList).flatMap identifierPart)

end DependencyDiagram.ModulePath
