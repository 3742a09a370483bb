import DependencyDiagram.Proofs.JsonKeys
import DependencyDiagram.Style.Sheet
import Mathlib.Data.List.Flatten

/-!
What the sheets of a style document hold. Names of sections and of special attributes are all different, so
the entries of one sheet do not get into each other's way. The attributes of a section are all in its list for
DOT; for Mermaid one of them may stand apart, and the others are in the list in the same order.
-/

namespace DependencyDiagram.Style

namespace Section

theorem mem_all (part : Section) : part ∈ all := by
  cases part <;> simp [all]

theorem name_injective {part other : Section} (same : part.name = other.name) : part = other := by
  cases part <;> cases other <;> first | rfl | exact absurd same (by decide)

theorem specialName?_injective {part other : Section} {name : String} (here : part.specialName? = some name)
    (there : other.specialName? = some name) : part = other := by
  rw [← here] at there
  cases part <;> cases other <;> first | rfl | exact absurd there (by decide)

theorem specialName?_ne_name (part other : Section) : part.specialName? ≠ some other.name := by
  cases part <;> cases other <;> decide

end Section

namespace Sheet

variable (sheet other : Sheet) {part : Section} {name text : String}

/-- All entries of a sheet, each with its name, in the order in which sections are formatted. -/
def entries : List (String × String) :=
  Section.all.flatMap fun part =>
    (part.specialName?.bind fun name => (sheet.special? part).map (name, ·)).toList ++
      ((sheet.list? part).map (part.name, ·)).toList

/-- All names under which a sheet may have entries. -/
def names : List String := Section.all.flatMap fun part => part.specialName?.toList ++ [part.name]

theorem nodup_entries : (sheet.entries.map Prod.fst).Nodup := by
  have among : (sheet.entries.map Prod.fst).Sublist names := by
    unfold entries names
    rw [List.map_flatMap]
    refine List.Sublist.flatMap_right _ fun part _ => ?_
    rw [List.map_append]
    refine List.Sublist.append ?_ ?_
    · cases part.specialName? <;> cases sheet.special? part <;> simp
    · cases sheet.list? part <;> simp
  have distinct : names.Nodup := by decide
  exact distinct.sublist among

theorem mem_entries : (name, text) ∈ sheet.entries ↔ ∃ part : Section,
    (part.specialName? = some name ∧ sheet.special? part = some text) ∨
      (sheet.list? part = some text ∧ part.name = name) := by
  simp [entries, Section.mem_all, Option.bind_eq_some_iff]

theorem findSome?_eq_of_only {α β : Type} {items : List α} {item : α} {value : α → Option β}
    (member : item ∈ items) (only : ∀ other, other ≠ item → value other = none) :
    items.findSome? value = value item := by
  induction items with
  | nil => cases member
  | cons first rest ih =>
    rw [List.findSome?_cons]
    by_cases here : first = item
    · subst here
      cases found : value first with
      | some result => rfl
      | none =>
        refine List.findSome?_eq_none_iff.mpr fun other _ => ?_
        by_cases same : other = first
        · rw [same, found]
        · exact only other same
    · rw [only first here]
      exact ih ((List.mem_cons.mp member).resolve_left (Ne.symm here))

theorem get?_name (part : Section) : sheet.get? part.name = sheet.list? part := by
  unfold get?
  rw [findSome?_eq_of_only part.mem_all, if_pos (beq_self_eq_true _)]
  intro other different
  rw [if_neg, if_neg]
  · simpa using other.specialName?_ne_name part
  · simpa using fun same => different (Section.name_injective same)

theorem get?_specialName (named : part.specialName? = some name) : sheet.get? name = sheet.special? part := by
  have apart (other : Section) : ¬ (other.name == name) = true := fun same =>
    part.specialName?_ne_name other (beq_iff_eq.mp same ▸ named)
  unfold get?
  rw [findSome?_eq_of_only part.mem_all, if_neg (apart part), if_pos (by simpa using named)]
  intro other different
  rw [if_neg (apart other), if_neg]
  simpa using fun there => different (Section.specialName?_injective there named)

/-- A sheet has the entries that it lists and no others. -/
theorem get?_eq_some_iff : sheet.get? name = some text ↔ (name, text) ∈ sheet.entries := by
  rw [mem_entries]
  constructor
  · intro found
    obtain ⟨part, _, entry⟩ := List.exists_of_findSome?_eq_some found
    split at entry
    · next same => exact ⟨part, .inr ⟨entry, beq_iff_eq.mp same⟩⟩
    · split at entry
      · next named => exact ⟨part, .inl ⟨beq_iff_eq.mp named, entry⟩⟩
      · cases entry
  · rintro ⟨part, ⟨named, special⟩ | ⟨list, rfl⟩⟩
    · rw [get?_specialName sheet named, special]
    · rw [get?_name, list]

end Sheet

section Split

variable {part : Section} {attributes : Attributes}

/-- The attributes of a section, of which one that has the special key may stand apart. -/
structure Split (part : Section) (attributes : Attributes) (special : Option Attribute) (plain : Attributes) :
    Prop where
  /-- All attributes are there, in their order. -/
  placed : ∃ before after, attributes = before ++ special.toList ++ after ∧ plain = before ++ after
  special_iff : ∀ item, special = some item ↔ item ∈ attributes ∧ part.specialKey? = some item.1
  plain_iff : ∀ item, item ∈ plain ↔ item ∈ attributes ∧ part.specialKey? ≠ some item.1

theorem isSpecial_iff {item : Attribute} : isSpecial part item = true ↔ part.specialKey? = some item.1 := by
  simp [isSpecial]

theorem find?_isSpecial_iff (distinct : (attributes.map Prod.fst).Nodup) (item : Attribute) :
    attributes.find? (isSpecial part) = some item ↔ item ∈ attributes ∧ part.specialKey? = some item.1 := by
  constructor
  · exact fun found => ⟨List.mem_of_find?_eq_some found, isSpecial_iff.mp (List.find?_some found)⟩
  · intro ⟨member, special⟩
    have any : (attributes.find? (isSpecial part)).isSome = true :=
      List.find?_isSome.mpr ⟨item, member, isSpecial_iff.mpr special⟩
    obtain ⟨other, found⟩ := Option.isSome_iff_exists.mp any
    have otherSpecial := isSpecial_iff.mp (List.find?_some found)
    have sameKey : other.1 = item.1 := Option.some.inj (otherSpecial.symm.trans special)
    rw [found, List.inj_on_of_nodup_map distinct (List.mem_of_find?_eq_some found) member sameKey]

theorem split_of_nodup (distinct : (attributes.map Prod.fst).Nodup) :
    Split part attributes (attributes.find? (isSpecial part)) (attributes.filter (!isSpecial part ·)) where
  special_iff := find?_isSpecial_iff distinct
  plain_iff item := by
    rw [List.mem_filter, Bool.not_eq_true', ← Bool.not_eq_true, isSpecial_iff]
  placed := by
    cases found : attributes.find? (isSpecial part) with
    | none =>
      refine ⟨attributes, [], by simp, ?_⟩
      rw [List.append_nil, List.filter_eq_self]
      intro item member
      simpa using List.find?_eq_none.mp found item member
    | some item =>
      obtain ⟨special, before, after, rfl, plainBefore⟩ := List.find?_eq_some_iff_append.mp found
      refine ⟨before, after, by simp, ?_⟩
      have plainAfter : ∀ other ∈ after, (!isSpecial part other) = true := by
        intro other member
        rw [Bool.not_eq_true', ← Bool.not_eq_true, isSpecial_iff]
        intro again
        -- A second special attribute would have the key of the first.
        have sameKey : item.1 = other.1 := Option.some.inj ((isSpecial_iff.mp special).symm.trans again)
        rw [List.map_append, List.map_cons] at distinct
        refine (List.nodup_cons.mp distinct.of_append_right).1 ?_
        exact sameKey ▸ List.mem_map_of_mem member
      rw [List.filter_append, List.filter_cons_of_neg (by simp [special]), List.filter_eq_self.mpr plainBefore,
        List.filter_eq_self.mpr plainAfter]

end Split

section Sheets

variable (document : Document) (part : Section)

theorem list?_dotSheet : (dotSheet (some document)).list? part =
    (document.section? part).map fun attributes => String.intercalate ", " (attributes.map dotItem) := by
  cases present : document.section? part <;> simp [dotSheet, present]

theorem nonEmptySection?_eq_some_iff {attributes : Attributes} :
    nonEmptySection? (some document) part = some attributes ↔
      document.section? part = some attributes ∧ attributes ≠ [] := by
  change ((document.section? part).bind fun found => if found.isEmpty then none else some found) = _ ↔ _
  rw [Option.bind_eq_some_iff]
  constructor
  · rintro ⟨found, present, kept⟩
    split at kept
    · cases kept
    · next filled =>
      cases kept
      exact ⟨present, by simpa using filled⟩
  · rintro ⟨present, filled⟩
    exact ⟨attributes, present, if_neg (by simpa using filled)⟩

theorem list?_mermaidSheet {text : String} : (mermaidSheet (some document)).list? part = some text ↔
    ∃ attributes, (document.section? part = some attributes ∧ attributes ≠ []) ∧
      String.intercalate "," ((attributes.filter (!isSpecial part ·)).map mermaidItem) = text := by
  simp only [← nonEmptySection?_eq_some_iff]
  exact Option.bind_eq_some_iff.trans (exists_congr fun _ => and_congr_right fun _ => Option.some_inj)

theorem special?_mermaidSheet {text : String} : (mermaidSheet (some document)).special? part = some text ↔
    ∃ attributes, (document.section? part = some attributes ∧ attributes ≠ []) ∧
      ∃ item, attributes.find? (isSpecial part) = some item ∧ rawValue item.2 = text := by
  simp only [← nonEmptySection?_eq_some_iff]
  refine Option.bind_eq_some_iff.trans (exists_congr fun _ => and_congr_right fun _ => ?_)
  exact Option.bind_eq_some_iff.trans (exists_congr fun _ => and_congr_right fun _ => Option.some_inj)

theorem special?_of_section {attributes : Attributes} (present : document.section? part = some attributes) :
    (mermaidSheet (some document)).special? part =
      (attributes.find? (isSpecial part)).map fun item => rawValue item.2 := by
  rw [Option.map_eq_bind]
  cases attributes with
  | nil => simp [mermaidSheet, nonEmptySection?, present]
  | cons first rest =>
    simp only [mermaidSheet, nonEmptySection?, Option.bind_eq_bind, Option.bind_some, present]
    rfl

end Sheets

/-- What the sheets of a document hold of its sections: everything, once, and nothing else. -/
structure Document.Kept (document : Document) : Prop where
  dot_iff : ∀ part : Section, (∃ text, (dotSheet (some document)).get? part.name = some text) ↔
    ∃ attributes, document.section? part = some attributes
  mermaid_iff : ∀ part : Section, (∃ text, (mermaidSheet (some document)).get? part.name = some text) ↔
    ∃ attributes, document.section? part = some attributes ∧ attributes ≠ []
  special_iff : ∀ (part : Section) (name text : String), part.specialName? = some name →
    ((mermaidSheet (some document)).get? name = some text ↔
      ∃ attributes, document.section? part = some attributes ∧
        ∃ item ∈ attributes, part.specialKey? = some item.1 ∧ rawValue item.2 = text)
  /-- The items for Mermaid and the special entry are those for DOT. -/
  items : ∀ part attributes, document.section? part = some attributes → ∃ special plain,
    Split part attributes special plain ∧
    (dotSheet (some document)).get? part.name = some (String.intercalate ", " (attributes.map dotItem)) ∧
    (attributes ≠ [] → (mermaidSheet (some document)).get? part.name =
      some (String.intercalate "," (plain.map mermaidItem))) ∧
    ∀ name, part.specialName? = some name →
      (mermaidSheet (some document)).get? name = special.map fun item => rawValue item.2
  /-- All other names are free. -/
  others : ∀ name text,
    ((dotSheet (some document)).get? name = some text → ∃ part : Section, part.name = name) ∧
    ((mermaidSheet (some document)).get? name = some text →
      ∃ part : Section, part.name = name ∨ part.specialName? = some name)
  /-- A document that differs in one section only differs in the entries of that section. -/
  apart : ∀ part changed, (∀ other, other ≠ part → changed.section? other = document.section? other) →
    ∀ name, part.name ≠ name → part.specialName? ≠ some name →
      (dotSheet (some changed)).get? name = (dotSheet (some document)).get? name ∧
      (mermaidSheet (some changed)).get? name = (mermaidSheet (some document)).get? name

theorem Sheet.get?_congr {sheet changed : Sheet} {name : String}
    (lists : ∀ part : Section, part.name = name → changed.list? part = sheet.list? part)
    (specials : ∀ part : Section, part.specialName? = some name → changed.special? part = sheet.special? part) :
    changed.get? name = sheet.get? name := by
  unfold get?
  congr 1
  funext part
  split
  · next named => exact lists part (beq_iff_eq.mp named)
  · split
    · next named => exact specials part (beq_iff_eq.mp named)
    · rfl

theorem Document.Distinct.kept {document : Document} (distinct : document.Distinct) : document.Kept where
  dot_iff part := by
    rw [Sheet.get?_name, list?_dotSheet]
    simp only [← Option.isSome_iff_exists, Option.isSome_map]
  mermaid_iff part := by
    simp only [Sheet.get?_name, list?_mermaidSheet]
    constructor
    · intro ⟨_, attributes, present, _⟩
      exact ⟨attributes, present⟩
    · intro ⟨attributes, present⟩
      exact ⟨_, attributes, present, rfl⟩
  special_iff part name text named := by
    rw [Sheet.get?_specialName _ named, special?_mermaidSheet]
    constructor
    · intro ⟨attributes, ⟨present, _⟩, item, found, shown⟩
      obtain ⟨member, special⟩ := (find?_isSpecial_iff (distinct part attributes present) item).mp found
      exact ⟨attributes, present, item, member, special, shown⟩
    · intro ⟨attributes, present, item, member, special, shown⟩
      have found := (find?_isSpecial_iff (distinct part attributes present) item).mpr ⟨member, special⟩
      exact ⟨attributes, ⟨present, List.ne_nil_of_mem member⟩, item, found, shown⟩
  items part attributes present := by
    refine ⟨_, _, split_of_nodup (distinct part attributes present), ?_, fun filled => ?_, fun name named => ?_⟩
    · rw [Sheet.get?_name, list?_dotSheet, present]
      rfl
    · rw [Sheet.get?_name, list?_mermaidSheet]
      exact ⟨attributes, ⟨present, filled⟩, rfl⟩
    · rw [Sheet.get?_specialName _ named, special?_of_section document part present]
  others name text := by
    simp only [Sheet.get?_eq_some_iff, Sheet.mem_entries]
    constructor
    · intro ⟨part, entry⟩
      rcases entry with ⟨_, absent⟩ | ⟨_, named⟩
      · cases absent
      · exact ⟨part, named⟩
    · intro ⟨part, entry⟩
      exact ⟨part, entry.symm.imp And.right And.left⟩
  apart part changed same name outside specialOutside := by
    have nonEmpty (other : Section) (different : other ≠ part) :
        nonEmptySection? (some changed) other = nonEmptySection? (some document) other := by
      simp [nonEmptySection?, same other different]
    have different (other : Section) (named : other.name = name) : other ≠ part :=
      fun equal => outside (equal ▸ named)
    have specialDifferent (other : Section) (named : other.specialName? = some name) : other ≠ part :=
      fun equal => specialOutside (equal ▸ named)
    constructor
    · refine Sheet.get?_congr (fun other named => ?_) fun _ _ => rfl
      rw [list?_dotSheet, list?_dotSheet, same other (different other named)]
    · refine Sheet.get?_congr (fun other named => ?_) fun other named => ?_
      · simp only [mermaidSheet, nonEmpty other (different other named)]
      · simp only [mermaidSheet, nonEmpty other (specialDifferent other named)]

/-- Sections are not mixed up in the sheets of a document that has been read, and lose nothing there. No name
is used twice, and what is under the names of a section is its attributes. -/
theorem sheets_keep_sections :
    (∀ text name document, (Document.parse text name).outcome = .ok document → document.Distinct) ∧
    (∀ sheet : Sheet, (sheet.entries.map Prod.fst).Nodup ∧
      ∀ name text, sheet.get? name = some text ↔ (name, text) ∈ sheet.entries) ∧
    ∀ document : Document, document.Distinct → document.Kept := by
  refine ⟨fun _ _ _ => Document.parse_distinct, fun sheet => ?_, fun _ => Document.Distinct.kept⟩
  exact ⟨sheet.nodup_entries, fun name text => sheet.get?_eq_some_iff⟩

/-- An attribute that is set twice, a section with a special attribute only, and one without attributes. -/
def mixedText : String :=
  "\x7b\"module\": \x7b\"color\": 1, \"shape\": \"rect\", \"w\": [2], \"color\": \"red\"\x7d, " ++
    "\"link\": \x7b\"arrow\": \"==>\"\x7d, \"container\": \x7b\x7d\x7d"

theorem sheets_keep_mixed : ∃ document, (Document.parse mixedText "style.json").outcome = .ok document ∧
    document.Kept ∧ (dotSheet (some document)).entries =
      [("container", ""), ("module", "color=\"red\", shape=\"rect\", w=\"[2]\""), ("link", "arrow=\"==>\"")] ∧
    (mermaidSheet (some document)).entries =
      [("module_shape", "rect"), ("module", "color:red,w:[2]"), ("link_arrow", "==>"), ("link", "")] := by
  have dot : (dotSheet (Document.parse mixedText "style.json").outcome.toOption).entries =
      [("container", ""), ("module", "color=\"red\", shape=\"rect\", w=\"[2]\""), ("link", "arrow=\"==>\"")] := by
    decide +kernel
  have mermaid : (mermaidSheet (Document.parse mixedText "style.json").outcome.toOption).entries =
      [("module_shape", "rect"), ("module", "color:red,w:[2]"), ("link_arrow", "==>"), ("link", "")] := by
    decide +kernel
  obtain ⟨distinct, _, kept⟩ := sheets_keep_sections
  cases parsed : (Document.parse mixedText "style.json").outcome with
  | error failure =>
    have blank : (dotSheet none).entries = [] := by decide
    rw [parsed] at dot
    cases blank.symm.trans dot
  | ok document =>
    rw [parsed] at dot mermaid
    exact ⟨document, rfl, kept document (distinct _ _ document parsed), dot, mermaid⟩

end DependencyDiagram.Style
