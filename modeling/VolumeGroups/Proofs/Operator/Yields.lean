import VolumeGroups.Proofs.Operator.Logged
import VolumeGroups.Proofs.Solo.Reading

/-! What a program ends with when it gets certain answers, which a log tells. -/

namespace VolumeGroups

namespace Program

variable {α β : Type}

/-- A program that makes certain calls one after another, and gets certain answers to them, ends with a
value. -/
def Yields : Program α → List Exchange → α → Prop
  | .done reached, trace, value => trace = [] ∧ reached = value
  | .call request next, trace, value =>
    ∃ answer rest, trace = ⟨request, answer⟩ :: rest ∧ (next answer).Yields rest value

/-- A program after another starts from the value that the first one ends with. -/
theorem Yields.of_bind {program : Program α} {next : α → Program β} {trace : List Exchange}
    {value : β} (yields : (program.bind next).Yields trace value) :
    ∃ first middle second, trace = first ++ second ∧ program.Yields first middle ∧
      (next middle).Yields second value := by
  -- The induction goes along the calls of the first program.
  induction program generalizing trace with
  | done middle => exact ⟨[], middle, trace, rfl, ⟨rfl, rfl⟩, yields⟩
  | call request rest ih =>
    obtain ⟨answer, remaining, rfl, yields⟩ := yields
    obtain ⟨first, middle, second, rfl, begins, ends⟩ := ih answer yields
    exact ⟨⟨request, answer⟩ :: first, middle, second, rfl, ⟨answer, first, rfl, begins⟩, ends⟩

/-- A program that has come to its end with some calls makes no more, and ends with one value only. -/
theorem Yields.unique {program : Program α} {trace more : List Exchange} {value other : α}
    (one : program.Yields trace value) (further : program.Yields (trace ++ more) other) :
    more = [] ∧ value = other := by
  -- The same answers lead both runs along the same calls.
  induction program generalizing trace with
  | done reached =>
    obtain ⟨rfl, rfl⟩ := one
    exact further
  | call request next ih =>
    obtain ⟨answer, rest, rfl, one⟩ := one
    obtain ⟨same, remaining, logged, further⟩ := further
    cases logged
    exact ih answer one further

/-- A program that makes calls of some sort only makes no others on its way to a value. -/
theorem Yields.of_asks {calls : Call → Prop} {gives : α → Prop} {program : Program α}
    {trace : List Exchange} {value : α} (yields : program.Yields trace value)
    (asks : program.Asks calls gives) : ∀ exchange ∈ trace, calls exchange.request := by
  -- The induction goes along the calls, each of which is the first of what is left.
  induction program generalizing trace with
  | done reached =>
    obtain ⟨rfl, _⟩ := yields
    exact List.forall_mem_nil _
  | call request next ih =>
    obtain ⟨answer, rest, rfl, yields⟩ := yields
    exact List.forall_mem_cons.mpr ⟨asks.1, ih answer yields (asks.2 answer)⟩

/-- The log of a program, read from its first call on, is one from which its value follows. -/
theorem logs_yields (program : Program α) :
    program.Logs fun log value => program.Yields log.reverse value := by
  -- The induction goes along the calls; the log is reversed since it has its latest entry in front.
  induction program with
  | done value => exact ⟨rfl, rfl⟩
  | call request next ih =>
    intro answer
    refine (ih answer).mono fun log value yields => ?_
    exact ⟨answer, log.reverse, by simp, yields⟩

/-- The calls that a program adds to the log are those from which its value follows. -/
theorem honours_yields {conditions : Conditions} (program : Program α) (scene : Scene) :
    program.Honours conditions .any
      (fun value after => ∃ trace, after.exchanges = trace.reverse ++ scene.exchanges ∧
        program.Yields trace value) scene := by
  induction program generalizing scene with
  | done value => exact ⟨[], rfl, rfl, rfl⟩
  | call request next ih =>
    intro met waits answer after answers
    refine ⟨trivial, (ih answer after).mono ?_⟩
    -- The log is read from the latest call back, the trace from the first one on.
    rintro value last ⟨trace, log, yields⟩
    refine ⟨⟨request, answer⟩ :: trace, ?_, answer, trace, rfl, yields⟩
    rw [log, answers.1, waits.1]
    simp

end Program

namespace Attempt

variable {ε ε' α β : Type}

/-- An attempt that makes certain calls, and gets certain answers to them, succeeds with a value. -/
def Yields (attempt : Attempt ε α) (trace : List Exchange) (value : α) : Prop :=
  Program.Yields attempt.run trace (.ok value)

namespace Yields

variable {trace : List Exchange}

/-- Success at once is with the value at hand. -/
theorem of_pure {value reached : α} (yields : (pure reached : Attempt ε α).Yields trace value) :
    reached = value :=
  Except.ok.inj yields.2

/-- Failure is no success. -/
theorem not_throw {error : ε} {value : α} : ¬ (throw error : Attempt ε α).Yields trace value :=
  fun yields => nomatch yields.2

/-- One attempt after another succeeds only if both do. -/
theorem of_bind {attempt : Attempt ε α} {next : α → Attempt ε β} {value : β}
    (yields : (attempt >>= next).Yields trace value) :
    ∃ first middle second, trace = first ++ second ∧ attempt.Yields first middle ∧
      (next middle).Yields second value := by
  -- The first attempt must have succeeded, as a failure would be that of both.
  obtain ⟨first, reached, second, rfl, begins, ends⟩ := Program.Yields.of_bind yields
  cases reached with
  | ok middle => exact ⟨first, middle, second, rfl, begins, ends⟩
  | error error => cases ends.2

/-- An attempt succeeds with the same value however its failures are told. -/
theorem of_within {wider : ε → ε'} {attempt : Attempt ε α} {value : α}
    (yields : (within wider attempt).Yields trace value) : attempt.Yields trace value := by
  -- Wording a failure anew takes no call, so nothing is added to the trace.
  obtain ⟨first, reached, second, rfl, begins, ends⟩ := Program.Yields.of_bind yields
  obtain ⟨rfl, same⟩ := ends
  cases reached with
  | ok middle =>
    obtain rfl : middle = value := Except.ok.inj same
    rw [List.append_nil]
    exact begins
  | error error => cases same

end Yields

/-- The calls that an attempt adds to the log are those from which its success follows. -/
theorem honours_yields {conditions : Conditions} (attempt : Attempt ε α) (scene : Scene) :
    attempt.Honours conditions .any
      (Ends fun value after => ∃ trace, after.exchanges = trace.reverse ++ scene.exchanges ∧
        attempt.Yields trace value) scene := by
  -- A failure leaves nothing to show.
  refine Honours.mono (Program.honours_yields attempt.run scene) ?_
  intro result after reached
  cases result with
  | ok value => exact reached
  | error error => trivial

end Attempt

end VolumeGroups
