import DependencyDiagram.Generator
import DependencyDiagram.Proofs.KeptModules

/-!
Calls on one resolver. Every call keeps a resolver sound, and sound resolvers of one catalog answer
alike, so an answer does not depend on the calls before it.
-/

namespace DependencyDiagram.Resolver

inductive Call where
  | resolve (path : String)
  | directDependencies (path : String)
  | resolveTarget (target : String)
  | generate (target : String) (format : Diagram.Format) (style : Option Style.Document)
  | generateAll (targets : List String) (format : Diagram.Format) (style : Option Style.Document)

/-- What a call leaves of the resolver, whether it succeeds or fails. -/
def Call.leaves (resolver : Resolver) : Call → Resolver
  | .resolve path => (resolver.resolve path).resolver
  | .directDependencies path => (resolver.directDependencies path).resolver
  | .resolveTarget target => (resolver.resolveTarget target).resolver
  | .generate target format style => (resolver.generate target format style).resolver
  | .generateAll targets format style => (Resolver.generateAll format style resolver targets).1

/-- The resolver after some calls, the first one first. -/
def after (resolver : Resolver) (calls : List Call) : Resolver :=
  calls.foldl Call.leaves resolver

theorem generate_resolver (resolver : Resolver) (target : String) (format : Diagram.Format)
    (style : Option Style.Document) :
    (resolver.generate target format style).resolver = (resolver.resolveTarget target).resolver := by
  unfold Resolver.generate
  dsimp only
  split <;> rfl

section Invariants

/-! What resolving and asking for dependencies preserve, every call preserves. -/

variable {holds : Resolver → Prop} {resolver : Resolver}
variable (resolve : ∀ resolver path, holds resolver → holds (resolver.resolve path).resolver)

include resolve

theorem resolveTarget_preserves (start : holds resolver) (target : String) :
    holds (resolver.resolveTarget target).resolver := by
  unfold Resolver.resolveTarget
  split
  · exact resolve resolver target start
  · exact start

theorem generate_preserves (start : holds resolver) (target : String) (format : Diagram.Format)
    (style : Option Style.Document) : holds (resolver.generate target format style).resolver := by
  rw [generate_resolver]
  exact resolveTarget_preserves resolve start target

theorem generateAll_preserves (start : holds resolver) (targets : List String) (format : Diagram.Format)
    (style : Option Style.Document) : holds (generateAll format style resolver targets).1 := by
  induction targets generalizing resolver with
  | nil => exact start
  | cons target rest ih => exact ih (generate_preserves resolve start target format style)

theorem after_preserves (directDependencies : ∀ resolver path, holds resolver →
    holds (resolver.directDependencies path).resolver) (start : holds resolver) (calls : List Call) :
    holds (resolver.after calls) := by
  induction calls generalizing resolver with
  | nil => exact start
  | cons call calls ih =>
    apply ih
    cases call with
    | resolve path => exact resolve resolver path start
    | directDependencies path => exact directDependencies resolver path start
    | resolveTarget target => exact resolveTarget_preserves resolve start target
    | generate target format style => exact generate_preserves resolve start target format style
    | generateAll targets format style => exact generateAll_preserves resolve start targets format style

end Invariants

variable {catalog : Catalog} {resolver other : Resolver}

theorem Sound.report (sound : resolver.Sound catalog) (cuts : List CycleBreak) :
    ({ resolver with cycleBreaks := cuts } : Resolver).Sound catalog :=
  ⟨⟨sound.grounded.serves, sound.grounded.remembers⟩, sound.keeps⟩

theorem Sound.reporting {walk : Walk} (sound : walk.Sound catalog) (result : Except Failure Walk.Part) :
    (reporting walk result).Sound catalog := by
  cases result with
  | error failure => exact sound.resolver
  | ok part => exact sound.resolver.report _

theorem Sound.directDependencies (sound : resolver.Sound catalog) (path : String) :
    (resolver.directDependencies path).resolver.Sound catalog := by
  refine ⟨directDependencies_grounded sound.grounded path, fun other module found => ?_⟩
  rw [directDependencies_modules] at found
  exact sound.keeps other module found

theorem Sound.resolve (sound : resolver.Sound catalog) (path : String) :
    (resolver.resolve path).resolver.Sound catalog := by
  obtain ⟨walk, result, entered, _, left⟩ := resolve_enters sound.grounded path
  have walkSound := (entered.sound (Walk.sound_start (sound.report [])) (catalog.openBefore_nil path)).1
  rw [left]
  exact .reporting walkSound result

/-- The diagram of a valid target is drawn from what is resolved and cut for it. -/
theorem generate_of_isValid (resolver : Resolver) {target : String} (valid : ModulePath.isValid target = true)
    (format : Diagram.Format) (style : Option Style.Document) :
    (resolver.generate target format style).result = (resolver.resolve target).result.map fun module =>
      ⟨target, format, format.render module (.build target module.dependencyPaths) style,
        (resolver.resolve target).resolver.cycleBreaks⟩ := by
  unfold Resolver.generate Resolver.resolveTarget ModulePath.validate
  rw [if_pos valid]
  cases found : (resolver.resolve target).result with
  | error failure => simp [found, Except.map]
  | ok module => simp [found, Except.map]

theorem generate_of_not_isValid (resolver : Resolver) {target : String}
    (invalid : ModulePath.isValid target = false) (format : Diagram.Format) (style : Option Style.Document) :
    (resolver.generate target format style).result = .error (.invalidPath target) := by
  unfold Resolver.generate Resolver.resolveTarget ModulePath.validate
  rw [if_neg (by simp [invalid])]

theorem Sound.generate (sound : resolver.Sound catalog) (target : String) (format : Diagram.Format)
    (style : Option Style.Document) : (resolver.generate target format style).resolver.Sound catalog :=
  generate_preserves (fun _ path sound => sound.resolve path) sound target format style

theorem Sound.after (sound : resolver.Sound catalog) (calls : List Call) :
    (resolver.after calls).Sound catalog :=
  after_preserves (fun _ path sound => sound.resolve path) (fun _ path sound => sound.directDependencies path)
    sound calls

theorem sound_after (catalog : Catalog) (calls : List Call) : ((new catalog).after calls).Sound catalog :=
  (sound_new catalog).after calls

/-- Sound resolvers of one catalog resolve a path alike and report the same cuts. -/
theorem Sound.resolve_agree (sound : resolver.Sound catalog) (otherSound : other.Sound catalog) (path : String) :
    (resolver.resolve path).result = (other.resolve path).result ∧
      (resolver.resolve path).resolver.cycleBreaks = (other.resolve path).resolver.cycleBreaks := by
  obtain ⟨walk, result, entered, gives, leaves⟩ := resolve_enters sound.grounded path
  obtain ⟨otherWalk, otherResult, otherEntered, otherGives, otherLeaves⟩ :=
    resolve_enters otherSound.grounded path
  obtain ⟨rfl, alike⟩ := entered.agree otherEntered (Walk.sound_start (sound.report []))
    (Walk.sound_start (otherSound.report [])) ⟨rfl, rfl⟩ (catalog.openBefore_nil path)
  refine ⟨gives.trans otherGives.symm, ?_⟩
  rw [leaves, otherLeaves]
  cases result with
  | error failure => exact entered.cycleBreaks.trans otherEntered.cycleBreaks.symm
  | ok part => exact alike.cuts

theorem Sound.resolveTarget_agree (sound : resolver.Sound catalog) (otherSound : other.Sound catalog)
    (target : String) : (resolver.resolveTarget target).result = (other.resolveTarget target).result := by
  unfold Resolver.resolveTarget
  split
  · exact (sound.resolve_agree otherSound target).1
  · rfl

/-- A diagram is drawn from what its own call resolves and cuts. -/
theorem Sound.generate_agree (sound : resolver.Sound catalog) (otherSound : other.Sound catalog)
    (target : String) (format : Diagram.Format) (style : Option Style.Document) :
    (resolver.generate target format style).result = (other.generate target format style).result := by
  obtain ⟨results, cuts⟩ := sound.resolve_agree otherSound target
  cases valid : ModulePath.isValid target with
  | false => rw [generate_of_not_isValid _ valid, generate_of_not_isValid _ valid]
  | true => rw [generate_of_isValid _ valid, generate_of_isValid _ valid, results, cuts]

theorem Sound.generateAll_agree (sound : resolver.Sound catalog) (otherSound : other.Sound catalog)
    (targets : List String) (format : Diagram.Format) (style : Option Style.Document) :
    (Resolver.generateAll format style resolver targets).2 =
      targets.map fun target => (target, (other.generate target format style).result) := by
  induction targets generalizing resolver with
  | nil => rfl
  | cons target rest ih =>
    simp only [Resolver.generateAll, List.map_cons, ih (sound.generate target format style),
      sound.generate_agree otherSound]

/-- A used resolver answers every call as a new one does, with the same module, dependencies, diagram
or failure. In particular the diagrams of many targets are those of the single targets, in any order. -/
theorem answers_independent_of_calls (catalog : Catalog) (calls : List Call) :
    (∀ path, (((new catalog).after calls).resolve path).result = ((new catalog).resolve path).result ∧
      (((new catalog).after calls).resolve path).resolver.cycleBreaks =
        ((new catalog).resolve path).resolver.cycleBreaks) ∧
    (∀ path, (((new catalog).after calls).directDependencies path).result =
      ((new catalog).directDependencies path).result) ∧
    (∀ target, (((new catalog).after calls).resolveTarget target).result =
      ((new catalog).resolveTarget target).result) ∧
    (∀ target format style, (((new catalog).after calls).generate target format style).result =
      ((new catalog).generate target format style).result) ∧
    (∀ targets format style, (generateAll format style ((new catalog).after calls) targets).2 =
      targets.map fun target => (target, ((new catalog).generate target format style).result)) ∧
    (∀ targets others format style, targets.Perm others →
      (generateAll format style ((new catalog).after calls) targets).2.Perm
        (generateAll format style ((new catalog).after calls) others).2) := by
  have used := sound_after catalog calls
  have fresh := sound_new catalog
  refine ⟨used.resolve_agree fresh, fun path => ?_, used.resolveTarget_agree fresh,
    used.generate_agree fresh, used.generateAll_agree fresh, fun targets others format style same => ?_⟩
  · rw [directDependencies_result used.grounded, directDependencies_result fresh.grounded]
  · rw [used.generateAll_agree fresh, used.generateAll_agree fresh]
    exact same.map _

end DependencyDiagram.Resolver
