import DependencyDiagram.Proofs.Sketches
import DependencyDiagram.Proofs.SplitTexts

/-!
Diagrams read back from their texts, line by line. In both languages quotes stand around labels only, so a
line is read by what is left of it between its quotes. A text is read if each of its lines is.
-/

namespace DependencyDiagram.Diagram

/-- What a line without the tabs before it is between its quotes. -/
def pieces (line : List Char) : List (List Char) := (line.dropWhile (· == '\t')).splitOn '"'

/-- Names with the same text between any two of them and a given rest behind the last one. -/
def listed? (between : List Char) (ending : List (List Char)) : List (List Char) → Option (List String)
  | [] => none
  | [name] => if ending = [] then some [String.ofList name] else none
  | name :: joint :: others =>
    if joint :: others = ending then some [String.ofList name]
    else if joint = between then (listed? between ending others).map (String.ofList name :: ·)
    else none

section Pieces

variable {line body : List Char} (level : Nat)

theorem dropWhile_tabs (starts : body.head? ≠ some '\t') :
    (List.replicate level '\t' ++ body).dropWhile (· == '\t') = body := by
  induction level with
  | zero =>
    cases body with
    | nil => rfl
    | cons c rest => exact List.dropWhile_cons_of_neg (by simpa using starts)
  | succ level ih =>
    rw [List.replicate_succ, List.cons_append, List.dropWhile_cons_of_pos (by decide)]
    exact ih

theorem pieces_unlabelled (written : line = List.replicate level '\t' ++ body) (starts : body.head? ≠ some '\t')
    (quoteless : '"' ∉ body) : pieces line = [body] := by
  rw [pieces, written, dropWhile_tabs level starts, Text.splitOn_of_notMem quoteless]

theorem pieces_labelled (start text ending : List Char) {others : List (List Char)}
    (written : line = List.replicate level '\t' ++ (start ++ '"' :: (text ++ '"' :: ending)))
    (starts : start.head? ≠ some '\t') (startQuoteless : '"' ∉ start) (textQuoteless : '"' ∉ text)
    (split : ending.splitOn '"' = others) : pieces line = start :: text :: others := by
  have head : (start ++ '"' :: (text ++ '"' :: ending)).head? ≠ some '\t' := by
    cases start with
    | nil => simp
    | cons c rest => simpa using starts
  rw [pieces, written, dropWhile_tabs level head, Text.splitOn_append_cons startQuoteless,
    Text.splitOn_append_cons textQuoteless, split]

end Pieces

theorem splitOn_lines {texts : List String} (nonempty : texts ≠ [])
    (newlineless : ∀ text ∈ texts, '\n' ∉ text.toList) :
    (String.intercalate "\n" texts).toList.splitOn '\n' = texts.map String.toList := by
  rw [String.toList_intercalate]
  exact List.splitOn_intercalate '\n' (List.forall_mem_map.mpr newlineless) (by simpa using nonempty)

/-- Lines of a kind that can be read, and the signs they are read as. -/
structure Reads {Line : Type} (IsPlain : Line → Prop) (signsOf : Line → List Sign) (lines : List Line)
    (signs : List Sign) : Prop where
  plain : ∀ line ∈ lines, IsPlain line
  shown : lines.flatMap signsOf = signs

section Reads

variable {Line : Type} {IsPlain : Line → Prop} {signsOf : Line → List Sign} {lines further : List Line}
  {signs furtherSigns : List Sign}

theorem Reads.append (reads : Reads IsPlain signsOf lines signs)
    (furtherReads : Reads IsPlain signsOf further furtherSigns) :
    Reads IsPlain signsOf (lines ++ further) (signs ++ furtherSigns) :=
  ⟨List.forall_mem_append.mpr ⟨reads.plain, furtherReads.plain⟩, by
    rw [List.flatMap_append, reads.shown, furtherReads.shown]⟩

theorem Reads.map {Item : Type} {items : List Item} {line : Item → Line} {sign : Item → Sign}
    (plain : ∀ item ∈ items, IsPlain (line item)) (single : ∀ item, signsOf (line item) = [sign item]) :
    Reads IsPlain signsOf (items.map line) (items.map sign) :=
  ⟨List.forall_mem_map.mpr plain, by
    rw [List.flatMap_map, List.map_eq_flatMap]
    simp only [single]⟩

/-- What such lines show, when each of them can be read. -/
theorem Reads.sketchOf? {textOf : Line → String} {read : List Char → Option (List Sign)}
    (reads : Reads IsPlain signsOf lines signs)
    (each : ∀ line, IsPlain line → read (textOf line).toList = some (signsOf line)) :
    ((lines.map fun line => (textOf line).toList).mapM read).bind (fun signs => Diagram.sketchOf? signs.flatten) =
      Diagram.sketchOf? signs := by
  have read_all : (lines.map fun line => (textOf line).toList).mapM read = some (lines.map signsOf) := by
    rw [List.mapM_map]
    exact mapM_eq_some fun line member => each line (reads.plain line member)
  rw [read_all, Option.bind_some, ← List.flatMap_def, reads.shown]

end Reads

end DependencyDiagram.Diagram
