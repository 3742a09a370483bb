import DependencyDiagram.Proofs.TableKeys
import DependencyDiagram.Style.Document

/-!
Keys of JSON objects. A member whose key has been read before takes the place of the earlier one, so no object
of a text that can be read has a key twice, and neither has a section of a style document.
-/

namespace DependencyDiagram

namespace Json

/-- No object in the value has a key twice. -/
inductive Value.Keyed : Value → Prop where
  | null : Keyed .null
  | bool (flag : Bool) : Keyed (.bool flag)
  | number (number : Number) : Keyed (.number number)
  | string (text : String) : Keyed (.string text)
  | array {items : List Value} (each : ∀ item ∈ items, Keyed item) : Keyed (.array items)
  | object {members : List (String × Value)} (distinct : (members.map Prod.fst).Nodup)
      (each : ∀ member ∈ members, Keyed member.2) : Keyed (.object members)

theorem Value.Keyed.members {members : List (String × Value)} (keyed : (Value.object members).Keyed) :
    (members.map Prod.fst).Nodup ∧ ∀ member ∈ members, member.2.Keyed := by
  cases keyed with
  | object distinct each => exact ⟨distinct, each⟩

theorem setsEntry_setMember (key : String) (value : Value) : SetsEntry key value (setMember key value) :=
  ⟨rfl, fun _ _ _ => rfl⟩

theorem keyed_setMember {members : List (String × Value)} {key : String} {value : Value}
    (keyed : (Value.object members).Keyed) (valueKeyed : value.Keyed) :
    (Value.object (setMember key value members)).Keyed := by
  obtain ⟨distinct, each⟩ := keyed.members
  refine .object ((setsEntry_setMember key value).nodup distinct) fun member present => ?_
  rcases (setsEntry_setMember key value).mem present with rfl | old
  · exact valueKeyed
  · exact each member old

section Readers

variable {α β γ : Type} {holds : α → Prop} {further : β → Prop}

/-- What has been read, if anything, has the property. -/
def Gives (holds : α → Prop) (read : Except Nat (α × Cursor)) : Prop :=
  ∀ value after, read = .ok (value, after) → holds value

theorem gives_ok {value : α} {after : Cursor} (here : holds value) : Gives holds (.ok (value, after)) := by
  intro other later read
  cases read
  exact here

theorem gives_error {count : Nat} : Gives holds (.error count) := by
  intro value after read
  cases read

theorem gives_bind {first : Except Nat γ} {next : γ → Except Nat (α × Cursor)}
    (each : ∀ value, first = .ok value → Gives holds (next value)) : Gives holds (first >>= next) := by
  cases first with
  | error count => exact gives_error
  | ok value => exact each value rfl

theorem Gives.bind {first : Except Nat (α × Cursor)} {next : α × Cursor → Except Nat (β × Cursor)}
    (gives : Gives holds first) (each : ∀ value after, holds value → Gives further (next (value, after))) :
    Gives further (first >>= next) :=
  gives_bind fun read done => each read.1 read.2 (gives read.1 read.2 done)

theorem gives_map {first : Except Nat γ} {change : γ → α × Cursor}
    (each : ∀ value, first = .ok value → holds (change value).1) : Gives holds (first.map change) := by
  cases first with
  | error count => exact gives_error
  | ok value => exact gives_ok (each value rfl)

variable {item : ValueReader} (keyed : ∀ cursor, Gives Value.Keyed (item cursor))

include keyed

theorem gives_moreItems (fuel : Nat) (cursor : Cursor) :
    Gives (∀ value ∈ ·, Value.Keyed value) (moreItems item fuel cursor) := by
  induction fuel generalizing cursor with
  | zero => exact gives_error
  | succ fuel ih =>
    rw [moreItems]
    split
    · exact gives_ok (List.forall_mem_nil _)
    · split
      · dsimp only
        split
        · exact gives_error
        · refine (keyed _).bind fun head after headKeyed => (ih after).bind fun tail last tailKeyed => ?_
          exact gives_ok (List.forall_mem_cons.mpr ⟨headKeyed, tailKeyed⟩)
      · exact gives_error

theorem gives_arrayItems (cursor : Cursor) : Gives (∀ value ∈ ·, Value.Keyed value) (arrayItems item cursor) := by
  unfold arrayItems
  dsimp only
  split
  · exact gives_ok (List.forall_mem_nil _)
  · refine (keyed _).bind fun head after headKeyed => ?_
    refine (gives_moreItems keyed _ after).bind fun tail last tailKeyed => ?_
    exact gives_ok (List.forall_mem_cons.mpr ⟨headKeyed, tailKeyed⟩)

theorem gives_member (cursor : Cursor) :
    Gives (fun read : String × Value => read.2.Keyed) (member item cursor) := by
  unfold member
  split
  · exact gives_error
  · refine gives_bind fun key _ => ?_
    dsimp only
    split
    · exact gives_error
    · exact (keyed _).bind fun value after valueKeyed => gives_ok valueKeyed

theorem gives_moreMembers (fuel : Nat) {members : List (String × Value)} (cursor : Cursor)
    (membersKeyed : (Value.object members).Keyed) :
    Gives (fun members => (Value.object members).Keyed) (moreMembers item fuel members cursor) := by
  induction fuel generalizing members cursor with
  | zero => exact gives_error
  | succ fuel ih =>
    rw [moreMembers]
    split
    · exact gives_ok membersKeyed
    · split
      · refine (gives_member keyed _).bind fun read after readKeyed => ?_
        exact ih after (keyed_setMember membersKeyed readKeyed)
      · exact gives_error

theorem gives_objectMembers (cursor : Cursor) :
    Gives (fun members => (Value.object members).Keyed) (objectMembers item cursor) := by
  unfold objectMembers
  dsimp only
  split
  · exact gives_ok (.object List.nodup_nil (List.forall_mem_nil _))
  · refine (gives_member keyed _).bind fun read after readKeyed => ?_
    exact gives_moreMembers keyed _ after
      (.object (List.nodup_singleton _) (List.forall_mem_singleton.mpr readKeyed))

theorem gives_valueWith (cursor : Cursor) : Gives Value.Keyed (valueWith item cursor) := by
  unfold valueWith
  dsimp only
  split
  · exact gives_error
  · split
    · exact gives_map fun _ _ => .null
    · exact gives_map fun _ _ => .bool true
    · exact gives_map fun _ _ => .bool false
    · exact gives_map fun read _ => .string read.1
    · exact keyed _
    · exact keyed _
    · split
      · exact gives_map fun read _ => .number read.1
      · exact gives_error

end Readers

theorem gives_valueWithin (depth : Nat) (cursor : Cursor) : Gives Value.Keyed (valueWithin depth cursor) := by
  induction depth generalizing cursor with
  | zero => exact gives_valueWith (fun _ => gives_error) cursor
  | succ depth ih =>
    refine gives_valueWith (fun start => ?_) cursor
    split
    · exact gives_map fun read found => .array (gives_arrayItems ih start.skip read.1 read.2 found)
    · exact gives_map fun read found => gives_objectMembers ih start.skip read.1 read.2 found

theorem parse_keyed {text : String} {value : Value} (parsed : parse text = .ok value) : value.Keyed := by
  unfold parse at parsed
  cases read : valueWithin greatestDepth (Cursor.ofText text) with
  | error count => simp [read, bind, Except.bind] at parsed
  | ok found =>
    obtain ⟨other, after⟩ := found
    simp only [read, bind, Except.bind] at parsed
    split at parsed
    · cases parsed
      exact gives_valueWithin _ _ _ _ read
    · cases parsed

end Json

namespace Style.Document

/-- No section has an attribute twice. -/
def Distinct (document : Document) : Prop :=
  ∀ part attributes, document.section? part = some attributes → (attributes.map Prod.fst).Nodup

theorem distinct_empty : empty.Distinct := by
  intro part attributes present
  cases part <;> cases present

theorem section?_setSection (document : Document) (part other : Section) (attributes : Attributes) :
    (document.setSection part attributes).section? other =
      if other = part then some attributes else document.section? other := by
  cases part <;> cases other <;> rfl

theorem Distinct.setSection {document : Document} (distinct : document.Distinct) (part : Section)
    {attributes : Attributes} (keys : (attributes.map Prod.fst).Nodup) :
    (document.setSection part attributes).Distinct := by
  intro other found present
  rw [section?_setSection] at present
  split at present
  · cases present
    exact keys
  · exact distinct other found present

theorem Distinct.addMembers {members : List (String × Json.Value)} {document result : Document}
    (distinct : document.Distinct) (keyed : ∀ member ∈ members, member.2.Keyed)
    (added : (addMembers members document).outcome = .ok result) : result.Distinct := by
  induction members generalizing document with
  | nil =>
    cases added
    exact distinct
  | cons member rest ih =>
    obtain ⟨key, value⟩ := member
    obtain ⟨valueKeyed, restKeyed⟩ := List.forall_mem_cons.mp keyed
    unfold Document.addMembers at added
    split at added
    · -- The rest is read with the event in front of its own.
      exact ih distinct restKeyed (Log.Recorded.bind_ok_iff.mp added).choose_spec.2
    · exact ih (distinct.setSection _ valueKeyed.members.1) restKeyed added
    · cases added

theorem parse_distinct {text name : String} {document : Document}
    (parsed : (parse text name).outcome = .ok document) : document.Distinct := by
  unfold parse at parsed
  split at parsed
  · cases parsed
  · next members read => exact distinct_empty.addMembers (Json.parse_keyed read).members.2 parsed
  · cases parsed

end Style.Document

end DependencyDiagram
