import DependencyDiagram.Diagram.Format
import DependencyDiagram.ModulePath
import DependencyDiagram.Proofs.FileTree
import DependencyDiagram.Proofs.SplitTexts

/-!
Names of files. A file's name is made from an identifier, which keeps slashes, and tells two module paths
apart if underscores in it come from separators and hyphens only and can be counted out.
-/

namespace DependencyDiagram

namespace ModulePath

/-- No underscore, and no separator in front of another one or of a hyphen: then every run of underscores
in an identifier can be read in one way only. -/
def Unambiguous : List Char → Prop
  | [] => True
  | c :: rest =>
    c ≠ '_' ∧ (c = separator → rest.head? ≠ some separator ∧ rest.head? ≠ some '-') ∧ Unambiguous rest

instance decidableUnambiguous : (text : List Char) → Decidable (Unambiguous text)
  | [] => .isTrue trivial
  | c :: rest =>
    have := decidableUnambiguous rest
    inferInstanceAs (Decidable (c ≠ '_' ∧
      (c = separator → rest.head? ≠ some separator ∧ rest.head? ≠ some '-') ∧ Unambiguous rest))

/-- The path behind its leading separator is unambiguous: its segments hold no underscore, are not empty and
do not start with a hyphen. -/
def IsReadable (path : String) : Prop := Unambiguous (dropSeparator path.toList)

instance (path : String) : Decidable (IsReadable path) := decidableUnambiguous _

theorem identifierPart_separator : identifierPart separator = ['_', '_'] := rfl

theorem identifierPart_hyphen : identifierPart '-' = ['_', '_', '_'] := rfl

theorem identifierPart_of_ne {c : Char} (notSeparator : c ≠ separator) (notHyphen : c ≠ '-') :
    identifierPart c = [c] := by
  rw [identifierPart, if_neg notSeparator, if_neg notHyphen]

theorem identifierPart_ne_nil (c : Char) : identifierPart c ≠ [] := by
  unfold identifierPart
  split
  · simp
  · split <;> simp

/-- Behind a separator there is no underscore. -/
theorem head_flatMap_of_separator {text : List Char} (unambiguous : Unambiguous (separator :: text)) :
    (text.flatMap identifierPart).head? ≠ some '_' := by
  obtain ⟨_, next, rest⟩ := unambiguous
  obtain ⟨notSeparator, notHyphen⟩ := next rfl
  cases text with
  | nil => simp
  | cons c text =>
    rw [List.head?_cons, ne_eq, Option.some.injEq] at notSeparator notHyphen
    rw [List.flatMap_cons, identifierPart_of_ne notSeparator notHyphen]
    simpa using rest.1

/-- Only one of a separator, a hyphen and another character can stand where an identifier goes on. -/
theorem head_of_flatMap_eq {c d : Char} {first second : List Char} (left : Unambiguous (c :: first))
    (right : Unambiguous (d :: second))
    (same : (c :: first).flatMap identifierPart = (d :: second).flatMap identifierPart) : c = d := by
  rw [List.flatMap_cons, List.flatMap_cons] at same
  -- A hyphen writes one underscore more than a separator, which would stand behind the separator.
  have apart {first second : List Char} (separated : Unambiguous (separator :: first)) :
      identifierPart separator ++ first.flatMap identifierPart ≠
        identifierPart '-' ++ second.flatMap identifierPart := by
    intro equal
    rw [identifierPart_separator, identifierPart_hyphen] at equal
    have behind : first.flatMap identifierPart = '_' :: second.flatMap identifierPart := by simpa using equal
    exact head_flatMap_of_separator separated (by rw [behind]; rfl)
  by_cases cSeparator : c = separator
  · subst cSeparator
    by_cases dSeparator : d = separator
    · exact dSeparator.symm
    · by_cases dHyphen : d = '-'
      · subst dHyphen
        exact absurd same (apart left)
      · rw [identifierPart_separator, identifierPart_of_ne dSeparator dHyphen] at same
        exact absurd (List.cons.inj same).1.symm right.1
  · by_cases cHyphen : c = '-'
    · subst cHyphen
      by_cases dSeparator : d = separator
      · subst dSeparator
        exact absurd same.symm (apart right)
      · by_cases dHyphen : d = '-'
        · exact dHyphen.symm
        · rw [identifierPart_hyphen, identifierPart_of_ne dSeparator dHyphen] at same
          exact absurd (List.cons.inj same).1.symm right.1
    · rw [identifierPart_of_ne cSeparator cHyphen] at same
      by_cases dSeparator : d = separator
      · subst dSeparator
        rw [identifierPart_separator] at same
        exact absurd (List.cons.inj same).1 left.1
      · by_cases dHyphen : d = '-'
        · subst dHyphen
          rw [identifierPart_hyphen] at same
          exact absurd (List.cons.inj same).1 left.1
        · rw [identifierPart_of_ne dSeparator dHyphen] at same
          exact (List.cons.inj same).1

theorem flatMap_identifierPart_injective {first second : List Char} (left : Unambiguous first)
    (right : Unambiguous second) (same : first.flatMap identifierPart = second.flatMap identifierPart) :
    first = second := by
  induction first generalizing second with
  | nil =>
    cases second with
    | nil => rfl
    | cons d second => simp [identifierPart_ne_nil] at same
  | cons c first ih =>
    cases second with
    | nil => simp [identifierPart_ne_nil] at same
    | cons d second =>
      obtain rfl := head_of_flatMap_eq left right same
      rw [List.flatMap_cons, List.flatMap_cons, List.append_cancel_left_eq] at same
      rw [ih left.2.2 right.2.2 same]

theorem toList_of_isValid {path : String} (valid : isValid path = true) :
    path.toList = separator :: dropSeparator path.toList := by
  have starts : path.toList.head? = some separator := by
    unfold isValid at valid
    simp only [Bool.and_eq_true, beq_iff_eq] at valid
    exact valid.1
  cases text : path.toList with
  | nil => simp [text] at starts
  | cons c rest =>
    rw [text] at starts
    obtain rfl := Option.some.inj starts
    rw [dropSeparator, if_pos rfl]

/-- Readable paths are told apart by their identifiers. -/
theorem identifier_injective {first second : String} (firstValid : isValid first = true)
    (secondValid : isValid second = true) (firstReadable : IsReadable first) (secondReadable : IsReadable second)
    (same : identifier first = identifier second) : first = second := by
  have texts := flatMap_identifierPart_injective firstReadable secondReadable (String.ofList_injective same)
  apply String.toList_injective
  rw [toList_of_isValid firstValid, toList_of_isValid secondValid, texts]

/-- Identifiers consist of underscores and what is in the text besides separators and hyphens. -/
theorem forall_mem_identifier {P : Char → Prop} (underscore : P '_') (text : String) :
    (∀ c ∈ (identifier text).toList, P c) ↔ ∀ c ∈ text.toList, c = separator ∨ c = '-' ∨ P c := by
  have part (c : Char) : (∀ d ∈ identifierPart c, P d) ↔ c = separator ∨ c = '-' ∨ P c := by
    unfold identifierPart
    split
    · simp [*]
    · split <;> simp [*]
  have dropped (text : List Char) : (∀ c ∈ dropSeparator text, c = separator ∨ c = '-' ∨ P c) ↔
      ∀ c ∈ text, c = separator ∨ c = '-' ∨ P c := by
    cases text with
    | nil => rfl
    | cons c rest =>
      rw [dropSeparator]
      split
      · simp [*]
      · rfl
  rw [identifier, String.toList_ofList, List.forall_mem_flatMap, ← dropped]
  exact forall₂_congr fun c _ => part c

/-- An identifier has a slash where the path has one. -/
theorem slash_mem_identifier {path : String} :
    Files.Path.slash ∈ (identifier path).toList ↔ Files.Path.slash ∈ path.toList := by
  have kept (c : Char) : (c = separator ∨ c = '-' ∨ c ≠ Files.Path.slash) ↔ c ≠ Files.Path.slash := by
    rw [← or_assoc, or_iff_right_of_imp]
    rintro (rfl | rfl) <;> decide
  have absent := forall_mem_identifier (P := (· ≠ Files.Path.slash)) (by decide) path
  simp only [kept, List.forall_mem_ne'] at absent
  exact not_iff_not.mp absent

end ModulePath

namespace Files.Path

variable {directory name : String}

theorem parts_of_slashless (slashless : slash ∉ name.toList) : parts name = [name] := by
  rw [parts, Text.splitOn_of_notMem slashless, List.map_singleton, String.ofList_toList]

/-- A text without a slash only makes the last part longer. -/
theorem parts_append {start : String} (slashless : slash ∉ name.toList) {above : List String} {last : String}
    (startParts : parts start = above ++ [last]) : parts (start ++ name) = above ++ [last ++ name] := by
  unfold parts at startParts ⊢
  obtain ⟨aboveTexts, lastTexts, split, rfl, same⟩ := List.map_eq_append_iff.mp startParts
  obtain ⟨lastText, rfl, rfl⟩ := List.map_eq_singleton_iff.mp same
  rw [String.toList_append, Text.splitOn_append_last slashless split, List.map_append, List.map_singleton,
    String.ofList_append, String.ofList_toList]

/-- The parts of a directory and the path taken relative to it, up to an idle part between them. -/
theorem parts_join (directory : String) (relative : isAbsolute name = false) :
    ∃ base, parts (join directory name) = base ++ parts name ∧
      (parts directory = base ∨ parts directory = base ++ [""]) := by
  have joined (text : List Char) : (text ++ slash :: name.toList).splitOn slash =
      text.splitOn slash ++ name.toList.splitOn slash :=
    List.splitOnP_append_cons _ _ (by simp)
  unfold join
  rw [if_neg (by simp [relative])]
  split
  · next ends =>
    by_cases empty : directory = ""
    · subst empty
      exact ⟨[], by simp, .inr (by decide)⟩
    · have last : directory.toList.getLast? = some slash := by simpa [empty] using ends
      obtain ⟨text, toList⟩ := List.getLast?_eq_some_iff.mp last
      refine ⟨(text.splitOn slash).map String.ofList, ?_, .inr ?_⟩
      · rw [parts, String.toList_append, toList, List.append_assoc, List.singleton_append, joined,
          List.map_append, parts]
      · have trailing : (text ++ [slash]).splitOn slash = text.splitOn slash ++ [[]] :=
          List.splitOnP_append_cons _ _ (by simp)
        rw [parts, toList, trailing, List.map_append]
        rfl
  · refine ⟨parts directory, ?_, .inl rfl⟩
    have toList : (directory ++ "/" ++ name).toList = directory.toList ++ slash :: name.toList := by
      rw [String.toList_append, String.toList_append, List.append_assoc]
      rfl
    rw [parts, toList, joined, List.map_append, parts, parts]

theorem isAbsolute_join (directory : String) (relative : isAbsolute name = false) :
    isAbsolute (join directory name) = isAbsolute directory := by
  unfold join
  rw [if_neg (by simp [relative])]
  by_cases empty : directory = ""
  · subst empty
    simpa [isAbsolute] using relative
  · obtain ⟨c, rest, toList⟩ := List.exists_cons_of_ne_nil (by simpa using empty : directory.toList ≠ [])
    split <;> simp [isAbsolute, String.toList_append, toList]

end Files.Path

namespace Files.System

variable {system : System} {directory name path : String} {location out here : Location}

/-- The path names a directory, which is at this location. -/
def LeadsTo (system : System) (path : String) (here : Location) : Prop :=
  system.Leads (origin system.workingDirectory path) (Path.parts path) here

theorem destination?_eq_some {above : List String} {last : String} (parts : Path.parts path = above ++ [last])
    (found : system.destination? path = some location) : ∃ here,
      system.Leads (origin system.workingDirectory path) above here ∧ location = here ++ [last] := by
  unfold destination? at found
  cases located : system.locateLast path with
  | error fault => simp [located] at found
  | ok place =>
    obtain ⟨here, name⟩ := place
    obtain ⟨_, rfl, _, leads⟩ := (locateLast_ok_iff parts).mp located
    rw [located] at found
    exact ⟨here, leads, (Option.some.inj found).symm⟩

/-- A file with a relative name lies where the directories in its name lead from the given one. -/
theorem destination?_join (relative : Path.isAbsolute name = false) {above : List String} {last : String}
    (parts : Path.parts name = above ++ [last])
    (found : system.destination? (Path.join directory name) = some location) :
    ∃ out here, system.LeadsTo directory out ∧ system.Leads out above here ∧ location = here ++ [last] := by
  obtain ⟨base, joined, directoryParts⟩ := Path.parts_join directory relative
  rw [parts, ← List.append_assoc] at joined
  obtain ⟨here, leads, rfl⟩ := destination?_eq_some joined found
  obtain ⟨out, toOut, further⟩ := leads_append.mp leads
  refine ⟨out, here, ?_, further, rfl⟩
  have start : origin system.workingDirectory (Path.join directory name) =
      origin system.workingDirectory directory := by
    rw [origin, origin, Path.isAbsolute_join directory relative]
  rw [start] at toOut
  unfold LeadsTo
  rcases directoryParts with same | trailing
  · rwa [same]
  · rw [trailing, leads_append]
    exact ⟨out, toOut, (leads_idle rfl).mpr (leads_nil.mpr ⟨rfl, toOut.2⟩)⟩

/-- A file with an absolute name lies where its name says, whatever the given directory is. -/
theorem destination?_join_absolute (absolute : Path.isAbsolute name = true) {above : List String} {last : String}
    (parts : Path.parts name = above ++ [last])
    (found : system.destination? (Path.join directory name) = some location) :
    ∃ here, system.Leads [] above here ∧ location = here ++ [last] := by
  rw [Path.join, if_pos absolute] at found
  obtain ⟨here, leads, placed⟩ := destination?_eq_some parts found
  rw [origin, if_pos absolute] at leads
  exact ⟨here, leads, placed⟩

/-- Wherever a file lies, it is called what its name ends with. -/
theorem destination?_join_last {above : List String} {last : String} (parts : Path.parts name = above ++ [last])
    (found : system.destination? (Path.join directory name) = some location) :
    ∃ here, location = here ++ [last] := by
  cases absolute : Path.isAbsolute name with
  | true =>
    obtain ⟨here, _, placed⟩ := destination?_join_absolute absolute parts found
    exact ⟨here, placed⟩
  | false =>
    obtain ⟨_, here, _, _, placed⟩ := destination?_join absolute parts found
    exact ⟨here, placed⟩

/-- The location is that of an entry of the directory itself, not of one further down or elsewhere. -/
def ChildOf (system : System) (directory : String) (location : Location) : Prop :=
  ∃ out name, system.LeadsTo directory out ∧ location = out ++ [name]

/-- A file is in the directory itself exactly if the directories in its name lead from there back to it. -/
theorem childOf_iff {above : List String} {last : String} (parts : Path.parts name = above ++ [last])
    (found : system.destination? (Path.join directory name) = some location) :
    system.ChildOf directory location ↔
      ∃ out, system.LeadsTo directory out ∧ system.Leads (origin out name) above out := by
  constructor
  · intro child
    obtain ⟨out, entry, leadsTo, rfl⟩ := child
    refine ⟨out, leadsTo, ?_⟩
    cases absolute : Path.isAbsolute name with
    | true =>
      obtain ⟨here, leads, placed⟩ := destination?_join_absolute absolute parts found
      obtain ⟨rfl, _⟩ := List.append_inj' placed rfl
      rwa [origin, if_pos absolute]
    | false =>
      obtain ⟨other, here, otherLeadsTo, leads, placed⟩ := destination?_join absolute parts found
      obtain ⟨rfl, _⟩ := List.append_inj' placed rfl
      rw [otherLeadsTo.unique leadsTo] at leads
      rwa [origin, if_neg (by simp [absolute])]
  · intro back
    obtain ⟨out, leadsTo, leads⟩ := back
    cases absolute : Path.isAbsolute name with
    | true =>
      obtain ⟨here, leadsHere, rfl⟩ := destination?_join_absolute absolute parts found
      rw [origin, if_pos absolute] at leads
      exact ⟨out, last, leadsTo, by rw [leadsHere.unique leads]⟩
    | false =>
      obtain ⟨other, here, otherLeadsTo, leadsHere, rfl⟩ := destination?_join absolute parts found
      rw [origin, if_neg (by simp [absolute])] at leads
      rw [otherLeadsTo.unique leadsTo] at leadsHere
      exact ⟨out, last, leadsTo, by rw [leadsHere.unique leads]⟩

theorem childOf_of_slashless (slashless : Path.slash ∉ name.toList)
    (found : system.destination? (Path.join directory name) = some location) :
    system.ChildOf directory location := by
  have relative : Path.isAbsolute name = false := by
    unfold Path.isAbsolute
    cases toList : name.toList with
    | nil => rfl
    | cons c rest =>
      rw [toList] at slashless
      exact beq_false_of_ne fun same => slashless (by simpa using .inl (Option.some.inj same).symm)
  have alone : Path.parts name = [] ++ [name] := Path.parts_of_slashless slashless
  obtain ⟨out, here, leadsTo, leads, rfl⟩ := destination?_join relative alone found
  exact ⟨out, name, leadsTo, by rw [(leads_nil.mp leads).1]⟩

end Files.System

end DependencyDiagram
