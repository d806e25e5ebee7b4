import VolumeGroups.Proofs.Operator.Promise

/-! Runs that keep a log of their calls, and what holds of every such log, whatever the answers are. -/

namespace VolumeGroups

/-- A call that records an event. -/
def Call.IsRecord : Call → Prop
  | .record _ => True
  | _ => False

namespace Program

variable {α β σ : Type}

/-- Calls are answered as ever, and a log of them is kept, the latest first. -/
def logging (respond : σ → (request : Call) → request.Answer × σ) (now : σ × List Exchange)
    (request : Call) : request.Answer × (σ × List Exchange) :=
  let (answer, after) := respond now.1 request
  (answer, after, ⟨request, answer⟩ :: now.2)

/-- The calls that a run makes and their answers, the latest first. -/
def journal (respond : σ → (request : Call) → request.Answer × σ) (state : σ)
    (program : Program α) : List Exchange :=
  (program.run (logging respond) (state, [])).2.2

/-- A run that keeps a log is a run that keeps none, together with the log. -/
theorem run_logging (respond : σ → (request : Call) → request.Answer × σ) (program : Program α)
    (state : σ) (earlier : List Exchange) :
    program.run (logging respond) (state, earlier) =
      ((program.run respond state).1, (program.run respond state).2,
        program.journal respond state ++ earlier) := by
  -- The induction goes along the calls, with any log to start from.
  induction program generalizing state earlier with
  | done value => rfl
  | call request next ih =>
    have later := ih (respond state request).1 (respond state request).2
    -- What is logged before the call stays behind it in the log.
    have logged : (call request next).journal respond state =
        (next (respond state request).1).journal respond (respond state request).2 ++
          [⟨request, (respond state request).1⟩] :=
      congrArg (Prod.snd ∘ Prod.snd) (later [⟨request, (respond state request).1⟩])
    rw [logged, List.append_assoc]
    exact later (⟨request, (respond state request).1⟩ :: earlier)

/-- The first call of a program is the last entry of its journal. -/
theorem journal_call (respond : σ → (request : Call) → request.Answer × σ) (state : σ)
    {request : Call} (next : request.Answer → Program α) :
    (call request next).journal respond state =
      (next (respond state request).1).journal respond (respond state request).2 ++
        [⟨request, (respond state request).1⟩] :=
  congrArg (Prod.snd ∘ Prod.snd) (run_logging respond (next (respond state request).1)
    (respond state request).2 [⟨request, (respond state request).1⟩])

/-- However its calls are answered, a program leaves a log and a value as wished. -/
def Logs (goal : List Exchange → α → Prop) : Program α → Prop
  | .done value => goal [] value
  | .call request next =>
    ∀ answer, (next answer).Logs fun log value => goal (log ++ [⟨request, answer⟩]) value

/-- A program that leaves one sort of log leaves every more general sort. -/
theorem Logs.mono {goal wider : List Exchange → α → Prop}
    (wide : ∀ log value, goal log value → wider log value) {program : Program α}
    (logs : program.Logs goal) : program.Logs wider := by
  -- The induction goes along the calls, and each answer fixes what the log is told of.
  induction program generalizing goal wider with
  | done value => exact wide [] value logs
  | call request next ih =>
    intro answer
    exact ih answer (fun log value => wide _ value) (logs answer)

/-- The log of one program after another is that of the second before that of the first. -/
theorem Logs.bind {goal : List Exchange → α → Prop} {final : List Exchange → β → Prop}
    {program : Program α} {next : α → Program β} (first : program.Logs goal)
    (second : ∀ log value, goal log value →
      (next value).Logs fun later result => final (later ++ log) result) :
    (program.bind next).Logs final := by
  -- The first log grows behind the second, one call at a time.
  induction program generalizing goal final with
  | done value =>
    have later := second [] value first
    simp only [List.append_nil] at later
    exact later
  | call request rest ih =>
    intro answer
    apply ih answer (first answer)
    intro log value reached
    have later := second _ value reached
    simpa only [List.append_assoc] using later

/-- The journal of a run and the value it ends with are as wished. -/
theorem Logs.journal {goal : List Exchange → α → Prop} {program : Program α}
    (logs : program.Logs goal) (respond : σ → (request : Call) → request.Answer × σ) (state : σ) :
    goal (program.journal respond state) (program.run respond state).1 := by
  -- A run is one of the ways in which the answers may come.
  induction program generalizing goal state with
  | done value => exact logs
  | call request next ih =>
    rw [journal_call]
    exact ih _ (logs (respond state request).1) _

/-- A program that makes calls of some sort logs calls of that sort. -/
theorem Asks.logs {calls : Call → Prop} {gives : α → Prop} {program : Program α}
    (asks : program.Asks calls gives) :
    program.Logs fun log value => (∀ exchange ∈ log, calls exchange.request) ∧ gives value := by
  -- Each call adds itself to a log that is of the sort already.
  induction program with
  | done value => exact ⟨by simp, asks⟩
  | call request next ih =>
    intro answer
    refine (ih answer (asks.2 answer)).mono ?_
    intro log value reached
    refine ⟨?_, reached.2⟩
    intro exchange logged
    rcases List.mem_append.mp logged with later | now
    · exact reached.1 exchange later
    · exact List.mem_singleton.mp now ▸ asks.1

end Program

/-- An event is recorded by one call, whatever comes of it. -/
theorem records_note (regarding : ObjectReference) (type : EventType) (reason : Reason)
    (message : String) : (note regarding type reason message).Asks Call.IsRecord fun _ => True :=
  ⟨trivial, fun _ => trivial⟩

end VolumeGroups
