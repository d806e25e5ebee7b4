import VolumeGroups.Proofs.Solo.Reading

/-! Which failures an attempt may end with at all, whatever the answers to its calls. -/

namespace VolumeGroups

/-- A program makes some calls and ends with some value. -/
theorem Program.asks_any {α : Type} (program : Program α) :
    program.Asks (fun _ => True) fun _ => True := by
  induction program with
  | done value => trivial
  | call request next ih => exact ⟨trivial, ih⟩

namespace Attempt

variable {ε ε' α β : Type} {blames : ε → Prop}

/-- An attempt that fails with errors of some sort only. -/
def Fails (blames : ε → Prop) (attempt : Attempt ε α) : Prop :=
  attempt.run.Asks (fun _ => True) fun result => ∀ error, result = .error error → blames error

namespace Fails

/-- An attempt fails with some error if it does. -/
theorem any (attempt : Attempt ε α) : Fails (fun _ => True) attempt :=
  (Program.asks_any attempt.run).mono (fun _ => id) fun _ _ _ _ => trivial

/-- A success is no failure. -/
theorem pure {value : α} : Fails blames (Pure.pure value : Attempt ε α) := nofun

/-- A failure is of the sort that it is. -/
theorem throw {error : ε} (blamed : blames error) :
    Fails blames (MonadExcept.throw error : Attempt ε α) := by
  rintro _ ⟨⟩
  exact blamed

/-- A program that cannot fail does not fail. -/
theorem lift {program : Program α} : Fails blames (liftM program : Attempt ε α) :=
  Program.Asks.bind program.asks_any fun _ _ => nofun

/-- One attempt after another fails as one of them does. -/
theorem bind {attempt : Attempt ε α} {next : α → Attempt ε β} (first : Fails blames attempt)
    (second : ∀ value, Fails blames (next value)) : Fails blames (attempt >>= next) := by
  -- A value goes on to the second attempt, and an error is the error of both.
  refine Program.Asks.bind first ?_
  intro result blamed
  cases result with
  | ok value => exact second value
  | error error =>
    rintro _ ⟨⟩
    exact blamed error rfl

/-- A failure told in wider terms is of the wider sort. -/
theorem within {wide : ε' → Prop} {wider : ε → ε'} {attempt : Attempt ε α}
    (fails : Fails blames attempt) (told : ∀ cause, blames cause → wide (wider cause)) :
    Fails wide (Attempt.within wider attempt) := by
  -- Only the terms of the error differ.
  refine Program.Asks.bind fails ?_
  intro result blamed
  cases result with
  | ok value => exact nofun
  | error error =>
    rintro _ ⟨⟩
    exact told error (blamed error rfl)

/-- What goes on after either outcome fails only afterwards. -/
theorem outcome {attempt : Attempt ε' α} : Fails blames (Attempt.outcome attempt) :=
  Program.Asks.bind (Program.asks_any attempt.run) fun _ _ => nofun

/-- Attempts made for each of some items fail as one of them does. -/
theorem forM {γ : Type} {items : List γ} {body : γ → Attempt ε PUnit}
    (fails : ∀ item, Fails blames (body item)) : Fails blames (items.forM body) := by
  induction items with
  | nil => exact pure
  | cons item rest ih => exact bind (fails item) fun _ => ih

/-- Telling a failure changes nothing about it. -/
theorem tellingOn {blames : PassError → Prop} {group : Group} {reason : Reason}
    {ready : Option Bool} {attempt : Attempt PassError α} (fails : Fails blames attempt) :
    Fails blames (attempt.tellingOn group reason ready) := by
  -- What is told does not change the error.
  refine Program.Asks.bind fails ?_
  intro result blamed
  cases result with
  | ok value => exact nofun
  | error error =>
    refine Program.Asks.bind (group.tell reason ready error).asks_any fun _ _ => ?_
    rintro _ ⟨⟩
    exact blamed error rfl

/-- However an attempt ends, it fails only as it may. -/
theorem ensures {attempt : Attempt ε α} (fails : Fails blames attempt) (conditions : Conditions)
    (scene : Scene) :
    attempt.Ensures conditions (EndsEither (fun _ _ => True) fun error _ => blames error)
      scene := by
  -- The failure does not depend on what happens in between.
  refine Honours.mono (Program.Asks.honours fails (fun _ => True) (fun _ _ _ _ => trivial)
    (fun _ _ _ _ _ _ _ => ⟨trivial, trivial⟩) trivial) ?_
  rintro (error | value) after ⟨blamed, -⟩
  · exact blamed error rfl
  · trivial

end Fails

end Attempt

end VolumeGroups
