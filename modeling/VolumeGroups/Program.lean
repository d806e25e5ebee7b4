import VolumeGroups.Call

/-! Programs as data: every call they may make, and how they go on from each answer. -/

namespace VolumeGroups

/-- A program that makes calls one after another and ends with a value. -/
inductive Program (α : Type) where
  /-- The end, with a value. -/
  | done (value : α)
  /-- A call, and what follows each answer to it. -/
  | call (request : Call) (next : request.Answer → Program α)

namespace Program

variable {α β σ : Type}

/-- One program after another, which starts from the first one's value. -/
def bind (program : Program α) (next : α → Program β) : Program β :=
  match program with
  | .done value => next value
  | .call request rest => .call request fun answer => (rest answer).bind next

instance : Monad Program where
  pure := .done
  bind := bind

/-- Nothing after a program changes nothing. -/
theorem bind_done (program : Program α) : program.bind .done = program := by
  -- The induction goes along the calls, whatever their answers.
  induction program with
  | done value => rfl
  | call request next ih => simp [bind, ih]

/-- Programs one after another are the same however they are bracketed. -/
theorem bind_assoc {γ : Type} (program : Program α) (second : α → Program β)
    (third : β → Program γ) :
    (program.bind second).bind third = program.bind fun value => (second value).bind third := by
  induction program with
  | done value => rfl
  | call request next ih => simp [bind, ih]

instance : LawfulMonad Program :=
  LawfulMonad.mk' Program bind_done (fun _ _ => rfl) bind_assoc

/-- The program of a single call. -/
def ask (request : Call) : Program request.Answer := .call request .done

/-- The value a program ends with and the state it leaves, where the state answers the calls. -/
def run (respond : σ → (request : Call) → request.Answer × σ) (state : σ) :
    Program α → α × σ
  | .done value => (value, state)
  | .call request next =>
    let (answer, state) := respond state request
    (next answer).run respond state

/-- A run of one program after another runs the second where the first one ends. -/
theorem run_bind (respond : σ → (request : Call) → request.Answer × σ) (state : σ)
    (program : Program α) (next : α → Program β) :
    (program.bind next).run respond state =
      (next (program.run respond state).1).run respond (program.run respond state).2 := by
  -- The induction follows the calls of the first program, each of which moves the state on.
  induction program generalizing state with
  | done value => rfl
  | call request rest ih => simp [bind, run, ih]

end Program

/-- A program that may fail, and then makes no further call. -/
abbrev Attempt (ε α : Type) := ExceptT ε Program α

namespace Attempt

variable {α ε ε' : Type}

/-- The attempt that a program with a success or a failure makes. -/
def of (program : Program (Except ε α)) : Attempt ε α := ExceptT.mk program

/-- A result that is known without any call. -/
def known (result : Except ε α) : Attempt ε α := ExceptT.mk (.done result)

/-- An attempt whose failures are told in wider terms. -/
def within (wider : ε → ε') (attempt : Attempt ε α) : Attempt ε' α := attempt.adapt wider

/-- The outcome of an attempt, which lets the program go on after a failure. -/
def outcome (attempt : Attempt ε α) : Attempt ε' (Except ε α) :=
  ExceptT.mk (attempt.run.bind fun result => .done (.ok result))

end Attempt

end VolumeGroups
