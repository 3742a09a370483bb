import DependencyDiagram.Proofs.FileNames
import DependencyDiagram.Proofs.NamespaceTrie
import DependencyDiagram.Proofs.ValidPaths

/-!
Paths of regular form: a leading separator and behind it segments with single separators between them,
without underscores and without hyphens at their ends. Such paths are told apart by their segments as well
as by their identifiers, whatever other characters they have.
-/

namespace DependencyDiagram

namespace ModulePath

/-- A path consists of separators and what its segments consist of. -/
theorem forall_mem_segments {P : Char → Prop} (here : P separator) (path : String) :
    (∀ segment ∈ segments path, ∀ c ∈ segment.toList, P c) ↔ ∀ c ∈ path.toList, P c := by
  rw [← Text.forall_mem_splitOn here, segments, List.forall_mem_map]
  constructor
  · intro kept segment member c inside
    have nonempty : (!segment.isEmpty) = true := by simp [List.ne_nil_of_mem inside]
    have holds := kept segment (List.mem_filter.mpr ⟨member, nonempty⟩) c
    rw [String.toList_ofList] at holds
    exact holds inside
  · intro all segment member c inside
    rw [String.toList_ofList] at inside
    exact all segment (List.mem_filter.mp member).1 c inside

def IsRegularSegment (segment : List Char) : Prop :=
  segment ≠ [] ∧ '_' ∉ segment ∧ segment.head? ≠ some '-' ∧ segment.getLast? ≠ some '-'

instance (segment : List Char) : Decidable (IsRegularSegment segment) :=
  inferInstanceAs (Decidable (_ ∧ _))

def IsRegular (path : String) : Prop :=
  path.toList.head? = some separator ∧
    ∀ segment ∈ (dropSeparator path.toList).splitOn separator, IsRegularSegment segment

instance (path : String) : Decidable (IsRegular path) :=
  inferInstanceAs (Decidable (_ ∧ _))

/-- Behind a separator stands the first character of a segment. -/
theorem unambiguous_of_segments {text : List Char} (noUnderscore : '_' ∉ text)
    (regular : ∀ segment ∈ (text.splitOn separator).tail, IsRegularSegment segment) : Unambiguous text := by
  induction text with
  | nil => trivial
  | cons c rest ih =>
    rw [List.mem_cons, not_or] at noUnderscore
    obtain ⟨first, others, parts⟩ := List.exists_cons_of_ne_nil (List.splitOn_ne_nil separator rest)
    refine ⟨Ne.symm noUnderscore.1, fun same => ?_, ih noUnderscore.2 ?_⟩
    · subst same
      rw [Text.splitOn_cons_self, List.tail_cons, parts] at regular
      have firstRegular := regular first List.mem_cons_self
      have among : first ∈ rest.splitOn separator := by
        rw [parts]
        exact List.mem_cons_self
      have head : rest.head? = first.head? := by
        cases rest with
        | nil =>
          obtain ⟨rfl, _⟩ := List.cons.inj parts
          rfl
        | cons d rest =>
          by_cases again : d = separator
          · rw [again, Text.splitOn_cons_self] at parts
            exact absurd (List.cons.inj parts).1.symm firstRegular.1
          · rw [Text.splitOn_cons_of_ne again] at parts
            obtain ⟨second, more, further⟩ := List.exists_cons_of_ne_nil (List.splitOn_ne_nil separator rest)
            rw [further, List.modifyHead_cons] at parts
            rw [← (List.cons.inj parts).1]
            rfl
      rw [head]
      exact ⟨Text.head?_ne_of_notMem (Text.notMem_of_mem_splitOn among), firstRegular.2.2.1⟩
    · by_cases same : c = separator
      · subst same
        rw [Text.splitOn_cons_self, List.tail_cons] at regular
        exact fun segment member => regular segment (List.mem_of_mem_tail member)
      · rw [Text.splitOn_cons_of_ne same, parts, List.modifyHead_cons, List.tail_cons] at regular
        rwa [parts, List.tail_cons]

namespace IsRegular

variable {path other : String}

theorem toList_eq (regular : IsRegular path) : path.toList = separator :: dropSeparator path.toList := by
  obtain ⟨rest, text⟩ := List.head?_eq_some_iff.mp regular.1
  rw [text, dropSeparator, if_pos rfl]

theorem segments_eq (regular : IsRegular path) :
    segments path = ((dropSeparator path.toList).splitOn separator).map String.ofList := by
  have nonempty : ∀ segment ∈ (dropSeparator path.toList).splitOn separator, (!segment.isEmpty) = true :=
    fun segment member => by simpa using (regular.2 segment member).1
  rw [segments, regular.toList_eq, Text.splitOn_cons_self, List.filter_cons_of_neg (by simp)]
  rw [dropSeparator, if_pos rfl, List.filter_eq_self.mpr nonempty]

theorem of_mem_segments (regular : IsRegular path) {segment : String} (member : segment ∈ segments path) :
    IsRegularSegment segment.toList ∧ separator ∉ segment.toList := by
  rw [regular.segments_eq] at member
  obtain ⟨text, among, rfl⟩ := List.mem_map.mp member
  rw [String.toList_ofList]
  exact ⟨regular.2 text among, Text.notMem_of_mem_splitOn among⟩

theorem segments_ne_nil (regular : IsRegular path) : segments path ≠ [] := by
  rw [regular.segments_eq]
  simp [List.splitOn_ne_nil]

theorem isValid (regular : IsRegular path) : ModulePath.isValid path = true := by
  simp [ModulePath.isValid, regular.1, regular.segments_ne_nil]

theorem isReadable (regular : IsRegular path) : IsReadable path := by
  have underscoreless := (Text.forall_mem_splitOn (c := separator) (P := (· ≠ '_')) (by decide) _).mp
    fun segment member => List.forall_mem_ne'.mpr (regular.2 segment member).2.1
  exact unambiguous_of_segments (List.forall_mem_ne'.mp underscoreless) fun segment member =>
    regular.2 segment (List.mem_of_mem_tail member)

theorem eq_of_segments (regular : IsRegular path) (otherRegular : IsRegular other)
    (same : segments path = segments other) : path = other := by
  rw [regular.segments_eq, otherRegular.segments_eq] at same
  have injective : Function.Injective String.ofList := fun _ _ => String.ofList_injective
  have texts := congrArg [separator].intercalate (List.map_injective_iff.mpr injective same)
  rw [List.intercalate_splitOn, List.intercalate_splitOn] at texts
  apply String.toList_injective
  rw [regular.toList_eq, otherRegular.toList_eq, texts]

theorem eq_of_identifier (regular : IsRegular path) (otherRegular : IsRegular other)
    (same : identifier path = identifier other) : path = other :=
  identifier_injective regular.isValid otherRegular.isValid regular.isReadable otherRegular.isReadable same

/-- A path ends with a character that its identifier keeps. -/
theorem exists_last (regular : IsRegular path) : ∃ front last, dropSeparator path.toList = front ++ [last] ∧
    last ≠ separator ∧ last ≠ '-' ∧ last ≠ '_' := by
  have segments := regular.2
  rcases List.eq_nil_or_concat' (dropSeparator path.toList) with empty | ⟨front, last, text⟩
  · rw [empty] at segments
    exact absurd rfl (segments [] List.mem_cons_self).1
  · rw [text] at segments
    refine ⟨front, last, text, ?_⟩
    by_cases same : last = separator
    · -- The segment behind a separator at the end would be empty.
      have trailing : (front ++ [last]).splitOn separator = front.splitOn separator ++ [[]] := by
        rw [same]
        exact List.splitOnP_append_cons _ _ (by simp)
      have empty := segments [] (by simp [trailing])
      exact absurd rfl empty.1
    · obtain ⟨above, segment, parts⟩ : ∃ above segment, front.splitOn separator = above ++ [segment] :=
        (List.eq_nil_or_concat' _).resolve_left (List.splitOn_ne_nil _ _)
      have absent : separator ∉ [last] := by simpa using Ne.symm same
      have ends := segments (segment ++ [last]) (by simp [Text.splitOn_append_last absent parts])
      refine ⟨same, fun hyphen => ends.2.2.2 ?_, fun underscore => ends.2.1 ?_⟩
      · simp [hyphen]
      · simp [underscore]

theorem getLast?_identifier (regular : IsRegular path) : (identifier path).toList.getLast? ≠ some '_' := by
  obtain ⟨front, last, text, notSeparator, notHyphen, notUnderscore⟩ := regular.exists_last
  rw [identifier, String.toList_ofList, text, List.flatMap_append, List.flatMap_singleton,
    identifierPart_of_ne notSeparator notHyphen, List.getLast?_concat]
  simpa using notUnderscore

end IsRegular

end ModulePath

/-- Regular paths never share a node. -/
theorem NamespaceTree.mem_carried_regular {path : String} {paths : List String} (target : String)
    (regular : ∀ path ∈ paths, ModulePath.IsRegular path) :
    path ∈ (build target paths).carried ↔ path ∈ paths := by
  refine ⟨fun member => (proper_of_carried member).1, fun listed => ?_⟩
  obtain ⟨last, found⟩ := exists_lastAt listed
  obtain ⟨lastListed, same⟩ := of_lastAt found
  rw [mem_carried_build target paths (regular path listed).segments_ne_nil, found]
  rw [(regular last lastListed).eq_of_segments (regular path listed) same]

end DependencyDiagram
