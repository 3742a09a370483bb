import DependencyDiagram.Files.Fault

/-!
Devices behind standard output and behind files. Whatever the names allow, a device may take nothing
of what is sent to it or break off in the middle, and it may do so at one time and not at another.
-/

namespace DependencyDiagram.Files

/-- What a device takes of one text. -/
inductive Transfer where
  | complete
  | refused (fault : Fault)
  /-- Only the first `count` characters or bytes arrive. -/
  | brokenOff (fault : Fault) (count : Nat)
deriving DecidableEq, Repr

/-- What a device does at each turn of a run, counted from zero. -/
abbrev Device := Nat → Transfer

namespace Device

/-- Takes everything. -/
def reliable : Device := fun _ => .complete

/-- The device as it is from the second turn on. -/
def later (device : Device) : Device := fun turn => device (turn + 1)

end Device

end DependencyDiagram.Files
