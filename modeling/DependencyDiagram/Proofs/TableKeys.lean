import DependencyDiagram.Toml.Document
import Mathlib.Data.List.Nodup
import Mathlib.Data.Option.Basic

/-!
Keys of TOML tables. However its headers, dotted keys and inline tables come together, a document that can
be read denotes tables without repeated keys: an entry is added only where its key is not in use, and
anything else replaces what is there.
-/

namespace DependencyDiagram

/-- Setting an entry replaces the one of the same key where it stands, or else adds it at the end. -/
structure SetsEntry {α : Type} (key : String) (value : α) (set : List (String × α) → List (String × α)) :
    Prop where
  none : set [] = [(key, value)]
  first : ∀ other old rest, set ((other, old) :: rest) =
    if other = key then (key, value) :: rest else (other, old) :: set rest

namespace SetsEntry

variable {α : Type} {key : String} {value : α} {set : List (String × α) → List (String × α)}
variable {entries : List (String × α)}

theorem keys (sets : SetsEntry key value set) : (set entries).map Prod.fst =
    if key ∈ entries.map Prod.fst then entries.map Prod.fst else entries.map Prod.fst ++ [key] := by
  induction entries with
  | nil =>
    rw [sets.none]
    rfl
  | cons entry rest ih =>
    obtain ⟨other, old⟩ := entry
    rw [sets.first]
    by_cases same : other = key
    · simp [same]
    · rw [if_neg same, List.map_cons, ih]
      simp only [List.map_cons, List.mem_cons, Ne.symm same, false_or]
      split <;> rfl

theorem nodup (sets : SetsEntry key value set) (distinct : (entries.map Prod.fst).Nodup) :
    ((set entries).map Prod.fst).Nodup := by
  rw [sets.keys]
  split
  · exact distinct
  · next absent =>
    rw [← List.concat_eq_append, List.nodup_concat]
    exact ⟨absent, distinct⟩

theorem mem (sets : SetsEntry key value set) {entry : String × α} (member : entry ∈ set entries) :
    entry = (key, value) ∨ entry ∈ entries := by
  induction entries with
  | nil =>
    rw [sets.none] at member
    exact .inl (List.mem_singleton.mp member)
  | cons first rest ih =>
    rw [sets.first] at member
    split at member
    · exact (List.mem_cons.mp member).imp_right (List.mem_cons_of_mem _)
    · rcases List.mem_cons.mp member with rfl | later
      · exact .inr List.mem_cons_self
      · exact (ih later).imp_right (List.mem_cons_of_mem _)

end SetsEntry

namespace Toml

/-- No table in the value has a key twice. -/
inductive Value.Keyed : Value → Prop where
  | string (text : String) : Keyed (.string text)
  | integer (value : Int) : Keyed (.integer value)
  | float (inRange : Bool) : Keyed (.float inRange)
  | boolean (flag : Bool) : Keyed (.boolean flag)
  | moment : Keyed .moment
  | array {items : List Value} (each : ∀ item ∈ items, Keyed item) : Keyed (.array items)
  | table {entries : Entries} (distinct : (entries.map Prod.fst).Nodup)
      (each : ∀ entry ∈ entries, Keyed entry.2) : Keyed (.table entries)

/-- The same of a node of a table under construction. -/
inductive Node.Keyed : Node → Prop where
  | value {value : Value} (keyed : value.Keyed) : Keyed (.value value)
  | table {origin : Origin} {entries : Nodes} (distinct : (entries.map Prod.fst).Nodup)
      (each : ∀ entry ∈ entries, Keyed entry.2) : Keyed (.table origin entries)
  | tables {items : List Nodes} (distinct : ∀ entries ∈ items, (entries.map Prod.fst).Nodup)
      (each : ∀ entries ∈ items, ∀ entry ∈ entries, Keyed entry.2) : Keyed (.tables items)

structure Nodes.Keyed (nodes : Nodes) : Prop where
  distinct : (nodes.map Prod.fst).Nodup
  each : ∀ entry ∈ nodes, entry.2.Keyed

theorem Node.keyed_table {origin : Origin} {entries : Nodes} :
    (Node.table origin entries).Keyed ↔ entries.Keyed := by
  constructor
  · intro keyed
    cases keyed with
    | table distinct each => exact ⟨distinct, each⟩
  · intro keyed
    exact .table keyed.distinct keyed.each

theorem Node.keyed_tables {items : List Nodes} :
    (Node.tables items).Keyed ↔ ∀ entries ∈ items, Nodes.Keyed entries := by
  constructor
  · intro keyed entries member
    cases keyed with
    | tables distinct each => exact ⟨distinct entries member, each entries member⟩
  · intro keyed
    exact .tables (fun entries member => (keyed entries member).distinct)
      fun entries member => (keyed entries member).each

namespace Nodes

variable {nodes after : Nodes} {key : String} {node : Node}

theorem keyed_nil : Keyed [] := ⟨List.nodup_nil, List.forall_mem_nil _⟩

theorem Keyed.find? (keyed : nodes.Keyed) (found : nodes.find? key = some node) : node.Keyed := by
  obtain ⟨before, behind, split, _⟩ := List.lookup_eq_some_iff.mp found
  apply keyed.each (key, node)
  rw [split]
  exact List.mem_append_right _ List.mem_cons_self

theorem Keyed.add (keyed : nodes.Keyed) (absent : nodes.find? key = none) (nodeKeyed : node.Keyed) :
    Keyed (nodes ++ [(key, node)]) := by
  constructor
  · rw [List.map_append, List.map_singleton, ← List.concat_eq_append, List.nodup_concat]
    refine ⟨fun member => ?_, keyed.distinct⟩
    obtain ⟨entry, listed, same⟩ := List.mem_map.mp member
    have different := List.lookup_eq_none_iff.mp absent entry listed
    simp [same] at different
  · rw [List.forall_mem_append]
    exact ⟨keyed.each, by simpa using nodeKeyed⟩

theorem setsEntry_set (key : String) (node : Node) : SetsEntry key node (set key node) :=
  ⟨rfl, fun _ _ _ => rfl⟩

theorem Keyed.set (keyed : nodes.Keyed) (key : String) (nodeKeyed : node.Keyed) : Keyed (nodes.set key node) := by
  constructor
  · exact (setsEntry_set key node).nodup keyed.distinct
  · intro entry member
    rcases (setsEntry_set key node).mem member with rfl | old
    · exact nodeKeyed
    · exact keyed.each entry old

theorem Keyed.erase (keyed : nodes.Keyed) (key : String) : Keyed (nodes.erase key) :=
  ⟨keyed.distinct.sublist (List.filter_sublist.map Prod.fst),
    fun entry member => keyed.each entry (List.mem_filter.mp member).1⟩

/-- A change that keeps keys apart does so anywhere below. -/
theorem Keyed.descend {made : Origin} {change : Origin → Nodes → Option Nodes}
    (keeps : ∀ origin nodes after, Keyed nodes → change origin nodes = some after → Keyed after)
    {path : List String} {origin : Origin} (keyed : nodes.Keyed)
    (changed : descend made change path origin nodes = some after) : after.Keyed := by
  induction path generalizing origin nodes after with
  | nil => exact keeps origin nodes after keyed changed
  | cons key path ih =>
    rw [Nodes.descend] at changed
    cases found : nodes.find? key with
    | none =>
      rw [found] at changed
      obtain ⟨below, inner, rfl⟩ := Option.map_eq_some_iff.mp changed
      exact keyed.set key (Node.keyed_table.mpr (ih keyed_nil inner))
    | some node =>
      have nodeKeyed := keyed.find? found
      rw [found] at changed
      cases node with
      | value value => cases changed
      | table tableOrigin entries =>
        dsimp only at changed
        split at changed
        · cases changed
        · obtain ⟨below, inner, rfl⟩ := Option.map_eq_some_iff.mp changed
          exact keyed.set key (Node.keyed_table.mpr (ih (Node.keyed_table.mp nodeKeyed) inner))
      | tables items =>
        have itemsKeyed := Node.keyed_tables.mp nodeKeyed
        dsimp only at changed
        split at changed
        · cases changed
        · next last earlier reversed =>
          have items_eq : items = (last :: earlier).reverse := by rw [← reversed, List.reverse_reverse]
          subst items_eq
          obtain ⟨below, inner, rfl⟩ := Option.map_eq_some_iff.mp changed
          have lastKeyed : Keyed last := itemsKeyed last (by simp)
          refine keyed.set key (Node.keyed_tables.mpr fun entries member => ?_)
          rcases List.mem_cons.mp (List.mem_reverse.mp member) with rfl | old
          · exact ih lastKeyed inner
          · exact itemsKeyed entries (by simp [old])

theorem Keyed.tableAt? {path : List String} {table : Nodes} (keyed : nodes.Keyed)
    (found : tableAt? path nodes = some table) : table.Keyed := by
  induction path generalizing nodes with
  | nil => exact Option.some.inj found ▸ keyed
  | cons key path ih =>
    rw [Nodes.tableAt?] at found
    cases here : nodes.find? key with
    | none =>
      rw [here] at found
      exact Option.some.inj found ▸ keyed_nil
    | some node =>
      have nodeKeyed := keyed.find? here
      rw [here] at found
      cases node with
      | value value => cases found
      | table origin entries => exact ih (Node.keyed_table.mp nodeKeyed) found
      | tables items =>
        obtain ⟨last, isLast, further⟩ := Option.bind_eq_some_iff.mp found
        exact ih (Node.keyed_tables.mp nodeKeyed last (List.mem_of_getLast? isLast)) further

theorem Keyed.assign {path : List String} {value : Value} (keyed : nodes.Keyed) (valueKeyed : value.Keyed)
    (assigned : nodes.assign path value = some after) : after.Keyed := by
  obtain ⟨⟨way, key⟩, _, changed⟩ := Option.bind_eq_some_iff.mp assigned
  refine keyed.descend (fun origin table further tableKeyed added => ?_) changed
  split at added
  · cases added
  · next admitted =>
    cases added
    rw [Bool.not_eq_true, Bool.or_eq_false_iff] at admitted
    exact tableKeyed.add (by simpa using admitted.2) (.value valueKeyed)

end Nodes

/-- Both parts of a document that is being built. -/
structure Draft.Keyed (draft : Draft) : Prop where
  root : draft.root.Keyed
  opened : draft.opened.Keyed

def Statement.Keyed : Statement → Prop
  | .assignment _ value => value.Keyed
  | .header _ | .itemHeader _ => True

namespace Draft

variable {draft after : Draft} {root : Nodes} {path : List String} {key : String}

theorem Keyed.close {nodes : Nodes} (keyed : draft.Keyed) (closed : draft.close = some nodes) : nodes.Keyed := by
  unfold Draft.close at closed
  split at closed
  · exact Option.some.inj closed ▸ keyed.opened
  · next path key isItem _ =>
    refine keyed.root.descend (fun origin table further tableKeyed put => ?_) closed
    split at put
    · split at put
      · next items found =>
        cases put
        have itemsKeyed := Node.keyed_tables.mp (tableKeyed.find? found)
        refine tableKeyed.set key (Node.keyed_tables.mpr (List.forall_mem_append.mpr ⟨itemsKeyed, ?_⟩))
        simpa using keyed.opened
      · cases put
    · split at put
      · cases put
      · next absent =>
        cases put
        exact tableKeyed.add (by simpa using absent) (Node.keyed_table.mpr keyed.opened)

theorem keyed_openTable (keyed : root.Keyed) (opened : openTable root path key = some after) : after.Keyed := by
  obtain ⟨taken, removed, placed⟩ := Option.bind_eq_some_iff.mp opened
  have takenKeyed : taken.Keyed := keyed.descend (fun origin table further tableKeyed erased => by
    cases erased
    exact tableKeyed.erase key) removed
  split at placed
  · cases placed
    exact ⟨takenKeyed, Nodes.keyed_nil⟩
  · next nodes found =>
    cases placed
    obtain ⟨table, isTable, here⟩ := Option.bind_eq_some_iff.mp found
    exact ⟨takenKeyed, Node.keyed_table.mp ((keyed.tableAt? isTable).find? here)⟩
  · cases placed

theorem keyed_openItem (keyed : root.Keyed) (opened : openItem root path key = some after) : after.Keyed := by
  obtain ⟨started, grown, placed⟩ := Option.bind_eq_some_iff.mp opened
  cases placed
  refine ⟨keyed.descend (fun origin table further tableKeyed start => ?_) grown, Nodes.keyed_nil⟩
  split at start
  · next absent =>
    cases start
    exact tableKeyed.add absent (Node.keyed_tables.mpr (List.forall_mem_nil _))
  · cases start
    exact tableKeyed
  · cases start

theorem Keyed.step {statement : Statement} (keyed : draft.Keyed) (statementKeyed : statement.Keyed)
    (stepped : draft.step statement = some after) : after.Keyed := by
  cases statement with
  | assignment path value =>
    obtain ⟨opened, assigned, placed⟩ := Option.bind_eq_some_iff.mp stepped
    cases placed
    exact ⟨keyed.root, keyed.opened.assign statementKeyed assigned⟩
  | header path =>
    obtain ⟨⟨way, key⟩, _, further⟩ := Option.bind_eq_some_iff.mp stepped
    obtain ⟨closed, isClosed, opened⟩ := Option.bind_eq_some_iff.mp further
    exact keyed_openTable (keyed.close isClosed) opened
  | itemHeader path =>
    obtain ⟨⟨way, key⟩, _, further⟩ := Option.bind_eq_some_iff.mp stepped
    obtain ⟨closed, isClosed, opened⟩ := Option.bind_eq_some_iff.mp further
    exact keyed_openItem (keyed.close isClosed) opened

theorem Keyed.steps {statements : List Statement} (keyed : draft.Keyed)
    (each : ∀ statement ∈ statements, statement.Keyed)
    (stepped : statements.foldlM Draft.step draft = some after) : after.Keyed := by
  induction statements generalizing draft with
  | nil => exact Option.some.inj stepped ▸ keyed
  | cons statement rest ih =>
    rw [List.forall_mem_cons] at each
    rw [List.foldlM_cons] at stepped
    obtain ⟨between, first, further⟩ := Option.bind_eq_some_iff.mp stepped
    exact ih (keyed.step each.1 first) each.2 further

end Draft

theorem entriesOf_eq (nodes : Nodes) : entriesOf nodes = nodes.map fun entry => (entry.1, entry.2.toValue) := by
  induction nodes with
  | nil => rw [entriesOf, List.map_nil]
  | cons entry rest ih => rw [entriesOf, ih, List.map_cons]

theorem tablesOf_eq (items : List Nodes) : tablesOf items = items.map fun entries => .table (entriesOf entries) := by
  induction items with
  | nil => rw [tablesOf, List.map_nil]
  | cons entries rest ih => rw [tablesOf, ih, List.map_cons]

theorem keyed_entriesOf {nodes : Nodes} (distinct : (nodes.map Prod.fst).Nodup)
    (each : ∀ entry ∈ nodes, entry.2.toValue.Keyed) : (Value.table (entriesOf nodes)).Keyed := by
  rw [entriesOf_eq]
  refine .table ?_ (List.forall_mem_map.mpr each)
  rw [List.map_map]
  exact distinct

theorem Node.Keyed.toValue {node : Node} (keyed : node.Keyed) : node.toValue.Keyed := by
  induction keyed with
  | value keyed =>
    rw [Node.toValue]
    exact keyed
  | table distinct _ each =>
    rw [Node.toValue]
    exact keyed_entriesOf distinct each
  | tables distinct _ each =>
    rw [Node.toValue, tablesOf_eq]
    exact .array (List.forall_mem_map.mpr fun entries member =>
      keyed_entriesOf (distinct entries member) (each entries member))

theorem Nodes.Keyed.entriesOf {nodes : Nodes} (keyed : nodes.Keyed) : (Value.table (entriesOf nodes)).Keyed :=
  keyed_entriesOf keyed.distinct fun entry member => (keyed.each entry member).toValue

namespace Scalar

variable {word : List Char} {value : Value}

theorem keyed_boolean? (found : boolean? word = some value) : value.Keyed := by
  unfold boolean? at found
  split at found
  · cases found
    exact .boolean true
  · split at found
    · cases found
      exact .boolean false
    · cases found

theorem keyed_basedInteger? {base : Nat} (found : basedInteger? base word = some value) : value.Keyed := by
  obtain ⟨digits, _, made⟩ := Option.bind_eq_some_iff.mp found
  cases made
  exact .integer _

theorem keyed_integer? (found : integer? word = some value) : value.Keyed := by
  unfold integer? at found
  split at found
  · exact keyed_basedInteger? found
  · exact keyed_basedInteger? found
  · exact keyed_basedInteger? found
  · obtain ⟨digits, _, made⟩ := Option.bind_eq_some_iff.mp found
    cases made
    exact .integer _

theorem keyed_of_bind {α : Type} {first : Option α} {next : α → Option Value} (found : (first >>= next) = some value)
    (each : ∀ one, next one = some value → value.Keyed) : value.Keyed := by
  obtain ⟨one, _, further⟩ := Option.bind_eq_some_iff.mp found
  exact each one further

theorem keyed_float? (found : float? word = some value) : value.Keyed := by
  unfold float? at found
  dsimp only at found
  split at found
  · cases found
    exact .float true
  · split at found
    · cases found
    · refine keyed_of_bind found fun whole found => ?_
      -- Both parts that may be missing are read before the float is made.
      split at found
      all_goals
        refine keyed_of_bind found fun fraction found => ?_
        split at found
      · refine keyed_of_bind found fun exponent made => ?_
        cases made
        exact .float _
      · refine keyed_of_bind found fun digits found => keyed_of_bind found fun exponent made => ?_
        cases made
        exact .float _
      · refine keyed_of_bind found fun exponent made => ?_
        cases made
        exact .float _
      · refine keyed_of_bind found fun digits found => keyed_of_bind found fun exponent made => ?_
        cases made
        exact .float _

theorem keyed_moment? (found : moment? word = some value) : value.Keyed := by
  unfold moment? at found
  split at found
  · cases found
    exact .moment
  · split at found
    · obtain ⟨rest, _, made⟩ := Option.bind_eq_some_iff.mp found
      split at made
      · cases made
        exact .moment
      · cases made
    · cases found
  · split at found
    · cases found
      exact .moment
    · cases found

theorem keyed_ofWord? (found : ofWord? word = some value) : value.Keyed := by
  unfold ofWord? at found
  rcases (Option.orElse_eq_some _ _ _).mp found with flag | ⟨_, found⟩
  · exact keyed_boolean? flag
  · rcases (Option.orElse_eq_some _ _ _).mp found with number | ⟨_, found⟩
    · exact keyed_integer? number
    · rcases (Option.orElse_eq_some _ _ _).mp found with number | ⟨_, found⟩
      · exact keyed_float? number
      · exact keyed_moment? found

end Scalar

namespace Reader

variable {α β : Type} {holds : β → Prop}

/-- Whatever the reader gives has the property. -/
def Gives (holds : β → Prop) (reader : Reader β) : Prop :=
  ∀ text value rest, reader.run text = some (value, rest) → holds value

theorem gives_pure {value : β} (here : holds value) : Gives holds (pure value : Reader β) := by
  intro text other rest run
  cases run
  exact here

theorem gives_failure : Gives holds (failure : Reader β) := by
  intro text other rest run
  cases run

theorem Gives.bind {first : α → Prop} {reader : Reader α} {next : α → Reader β} (gives : Gives first reader)
    (each : ∀ value, first value → Gives holds (next value)) : Gives holds (reader >>= next) := by
  intro text value rest run
  rw [StateT.run_bind] at run
  obtain ⟨⟨between, remaining⟩, ran, further⟩ := Option.bind_eq_some_iff.mp run
  exact each between (gives _ _ _ ran) _ _ _ further

theorem gives_bind {reader : Reader α} {next : α → Reader β} (each : ∀ value, Gives holds (next value)) :
    Gives holds (reader >>= next) :=
  Gives.bind (fun _ _ _ _ => trivial : Gives (fun _ => True) reader) fun value _ => each value

theorem gives_arrayItems {item : Reader Value} (keyed : Gives Value.Keyed item) (fuel : Nat) :
    Gives (∀ value ∈ ·, Value.Keyed value) (arrayItems item fuel) := by
  induction fuel with
  | zero => exact gives_failure
  | succ fuel ih =>
    rw [arrayItems]
    refine gives_bind fun _ => gives_bind fun closed => ?_
    split
    · exact gives_pure (List.forall_mem_nil _)
    · refine keyed.bind fun head headKeyed => gives_bind fun _ => gives_bind fun more => ?_
      split
      · exact ih.bind fun rest restKeyed => gives_pure (List.forall_mem_cons.mpr ⟨headKeyed, restKeyed⟩)
      · exact gives_bind fun _ => gives_pure (List.forall_mem_singleton.mpr headKeyed)

theorem gives_inlineEntries {item : Reader Value} (keyed : Gives Value.Keyed item) (fuel : Nat) {nodes : Nodes}
    (nodesKeyed : nodes.Keyed) : Gives Nodes.Keyed (inlineEntries item fuel nodes) := by
  induction fuel generalizing nodes with
  | zero => exact gives_failure
  | succ fuel ih =>
    rw [inlineEntries]
    refine gives_bind fun _ => gives_bind fun closed => ?_
    split
    · exact gives_pure nodesKeyed
    · refine gives_bind fun path => gives_bind fun _ => gives_bind fun _ => gives_bind fun _ => ?_
      refine keyed.bind fun value valueKeyed => ?_
      split
      · exact gives_failure
      · next further assigned =>
        have furtherKeyed := nodesKeyed.assign valueKeyed assigned
        refine gives_bind fun _ => gives_bind fun more => ?_
        split
        · exact ih furtherKeyed
        · exact gives_bind fun _ => gives_pure furtherKeyed

theorem gives_scalar : Gives Value.Keyed Scalar.read := by
  refine gives_bind fun word => ?_
  split
  · next value found => exact gives_pure (Scalar.keyed_ofWord? found)
  · exact gives_failure

theorem gives_valueWithin (depth : Nat) : Gives Value.Keyed (valueWithin depth) := by
  induction depth with
  | zero =>
    rw [valueWithin]
    refine gives_bind fun start => ?_
    split
    · exact gives_bind fun text => gives_pure (.string text)
    · exact gives_bind fun text => gives_pure (.string text)
    · exact gives_scalar
    · exact gives_failure
  | succ depth ih =>
    rw [valueWithin]
    refine gives_bind fun start => ?_
    split
    · exact gives_bind fun text => gives_pure (.string text)
    · exact gives_bind fun text => gives_pure (.string text)
    · refine gives_bind fun _ => gives_bind fun rest => ?_
      exact (gives_arrayItems ih _).bind fun items keyed => gives_pure (.array keyed)
    · refine gives_bind fun _ => gives_bind fun rest => ?_
      exact (gives_inlineEntries ih _ Nodes.keyed_nil).bind fun nodes keyed => gives_pure keyed.entriesOf
    · exact gives_scalar
    · exact gives_failure

theorem gives_statement : Gives Statement.Keyed statement := by
  refine gives_bind fun isItem => ?_
  split
  · exact gives_bind fun _ => gives_bind fun path => gives_bind fun _ => gives_bind fun _ => gives_pure trivial
  · refine gives_bind fun isTable => ?_
    split
    · exact gives_bind fun _ => gives_bind fun path => gives_bind fun _ => gives_bind fun _ => gives_pure trivial
    · have keyed : Gives (fun pair : List String × Value => pair.2.Keyed) (assignment (valueWithin greatestDepth)) := by
        refine gives_bind fun path => gives_bind fun _ => gives_bind fun _ => ?_
        exact (gives_valueWithin greatestDepth).bind fun value keyed => gives_pure keyed
      exact keyed.bind fun pair pairKeyed => gives_pure pairKeyed

theorem gives_statements (fuel : Nat) : Gives (∀ statement ∈ ·, Statement.Keyed statement) (statements fuel) := by
  induction fuel with
  | zero => exact gives_pure (List.forall_mem_nil _)
  | succ fuel ih =>
    rw [statements]
    refine gives_bind fun _ => gives_bind fun next => ?_
    split
    · exact gives_pure (List.forall_mem_nil _)
    · refine gives_statement.bind fun first firstKeyed => gives_bind fun _ => ?_
      exact ih.bind fun rest restKeyed => gives_pure (List.forall_mem_cons.mpr ⟨firstKeyed, restKeyed⟩)

end Reader

/-- No table of a document that can be read has a key twice. -/
theorem parse?_keyed {text : String} {entries : Entries} (parsed : parse? text = some entries) :
    (Value.table entries).Keyed := by
  obtain ⟨⟨statements, rest⟩, ran, denoted⟩ := Option.bind_eq_some_iff.mp parsed
  obtain ⟨draft, built, further⟩ := Option.bind_eq_some_iff.mp denoted
  obtain ⟨nodes, closed, made⟩ := Option.bind_eq_some_iff.mp further
  cases made
  have start : Draft.Keyed ⟨[], none, []⟩ := ⟨Nodes.keyed_nil, Nodes.keyed_nil⟩
  exact ((start.steps (Reader.gives_statements _ _ _ _ ran) built).close closed).entriesOf

end Toml

end DependencyDiagram
