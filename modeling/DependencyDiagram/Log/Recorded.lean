import DependencyDiagram.Failure
import DependencyDiagram.Log.Event

/-! Work that may fail and whose log events are kept either way. -/

namespace DependencyDiagram.Log

structure Recorded (α : Type) where
  events : List Event
  outcome : Except Failure α

namespace Recorded

def note (event : Event) : Recorded Unit := ⟨[event], .ok ()⟩

def fail {α : Type} (failure : Failure) : Recorded α := ⟨[], .error failure⟩

def ofExcept {α : Type} (outcome : Except Failure α) : Recorded α := ⟨[], outcome⟩

def bind {α β : Type} (first : Recorded α) (next : α → Recorded β) : Recorded β :=
  match first.outcome with
  | .error failure => ⟨first.events, .error failure⟩
  | .ok value =>
    let second := next value
    ⟨first.events ++ second.events, second.outcome⟩

instance : Monad Recorded where
  pure value := ⟨[], .ok value⟩
  bind := Recorded.bind

theorem bind_ok_iff {α β : Type} {first : Recorded α} {next : α → Recorded β} {result : β} :
    (first >>= next).outcome = .ok result ↔ ∃ value, first.outcome = .ok value ∧ (next value).outcome = .ok result := by
  change (Recorded.bind first next).outcome = .ok result ↔ _
  unfold Recorded.bind
  cases first.outcome with
  | error failure => simp
  | ok value => simp

theorem bind_succeeds_iff {α β : Type} {first : Recorded α} {next : α → Recorded β} :
    (∃ result, (first >>= next).outcome = .ok result) ↔
      ∃ value, first.outcome = .ok value ∧ ∃ result, (next value).outcome = .ok result := by
  simp only [bind_ok_iff]
  exact ⟨fun ⟨result, value, done, ended⟩ => ⟨value, done, result, ended⟩,
    fun ⟨value, done, result, ended⟩ => ⟨result, value, done, ended⟩⟩

theorem pure_ok_iff {α : Type} {value result : α} : (pure value : Recorded α).outcome = .ok result ↔ value = result := by
  change Except.ok value = Except.ok result ↔ _
  exact Except.ok.injEq value result ▸ Iff.rfl

end Recorded

end DependencyDiagram.Log
