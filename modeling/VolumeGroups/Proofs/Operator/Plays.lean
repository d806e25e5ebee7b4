import VolumeGroups.Proofs.Operator.Run

/-! Passes that are played to their end, which are runs and end as the pass promised to. -/

namespace VolumeGroups

namespace Program

variable {α : Type} {conditions : Conditions} {promise : Promise} {value : α} {final scene : Scene}

/-- From a scene on, a program may be played so that it ends with a value in a final scene. -/
def Plays (conditions : Conditions) (value : α) (final : Scene) : Program α → Scene → Prop
  | .done reached, scene => reached = value ∧ final = scene
  | .call request next, scene => ∃ (met : Scene) (answer : request.Answer) (after : Scene),
    conditions.Waits scene met ∧ conditions.Answers met request answer after ∧
      (next answer).Plays conditions value final after

/-- However a program is played, it ends as it promised to. -/
theorem Plays.goal {goal : α → Scene → Prop} {program : Program α}
    (plays : program.Plays conditions value final scene)
    (honours : program.Honours conditions promise goal scene) : goal value final := by
  -- A play is one of the ways in which the program may go, which its promise allows for.
  induction program generalizing scene with
  | done reached =>
    obtain ⟨rfl, rfl⟩ := plays
    exact honours
  | call request next ih =>
    obtain ⟨met, answer, after, waits, answers, rest⟩ := plays
    exact ih answer rest (honours met waits answer after answers).2

/-- Along a play nothing is lost that neither waiting nor a call that keeps the promise breaks. -/
theorem Plays.along {goal : α → Scene → Prop} {program : Program α}
    (plays : program.Plays conditions value final scene) (holds : Scene → Prop)
    (honours : program.Honours conditions promise goal scene) (held : holds scene)
    (wait : ∀ {scene met : Scene}, holds scene → conditions.Waits scene met → holds met)
    (call : ∀ {met after : Scene} {request : Call} {answer : request.Answer}, holds met →
      promise met request answer after → holds after) : holds final := by
  -- The induction goes along the calls of the play.
  induction program generalizing scene with
  | done reached =>
    obtain ⟨_, rfl⟩ := plays
    exact held
  -- The answers of the play are among those that the program is prepared for.
  | call request next ih =>
    obtain ⟨met, answer, after, waits, answers, rest⟩ := plays
    obtain ⟨kept, remaining⟩ := honours met waits answer after answers
    exact ih answer rest remaining (call (wait held waits) kept)

end Program

namespace Conditions

variable {conditions : Conditions}

/-- Waiting within a pass is a run. -/
theorem Waits.reaches {scene met : Scene} (waits : conditions.Waits scene met)
    (pass : Program (Except PassError Action)) :
    conditions.Reaches ⟨scene, some pass⟩ ⟨met, some pass⟩ := by
  obtain ⟨store, exchanges⟩ := scene
  obtain ⟨last, _⟩ := met
  obtain ⟨rfl, edits⟩ := waits
  replace edits : Relation.ReflTransGen conditions.during store last := edits
  -- The induction goes along the edits.
  induction edits with
  | refl => exact .refl
  | tail _ edit ih => exact ih.tail (.wait edit)

/-- A pass that is played is a run. -/
theorem reaches_of_plays {pass : Program (Except PassError Action)}
    {value : Except PassError Action} {final scene : Scene}
    (plays : pass.Plays conditions value final scene) :
    conditions.Reaches ⟨scene, some pass⟩ ⟨final, some (.done value)⟩ := by
  -- Each call of the play is a wait and a step of the run.
  induction pass generalizing scene with
  | done reached =>
    obtain ⟨rfl, rfl⟩ := plays
    exact .refl
  | call request next ih =>
    obtain ⟨met, answer, after, waits, answers, rest⟩ := plays
    exact (waits.reaches _).trans (.head (.call answers) (ih answer rest))

end Conditions

end VolumeGroups
