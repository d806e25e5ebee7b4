import VolumeGroups.Proofs.Operator.Logged

/-! Runs of two programs side by side, each in its own cluster: what both ask of the driver and write to
claims, and how they end. -/

namespace VolumeGroups

/-- A call that goes to the driver or writes a claim. -/
def Call.isLabour : Call → Bool
  | .createDriverGroup .. | .deleteDriverGroup .. | .modifyMembership .. | .replaceClaim _ => true
  | _ => false

/-- An idle call neither goes to the driver nor writes a claim. -/
theorem Call.IsIdle.isLabour {request : Call} (idle : request.IsIdle) : request.isLabour = false := by
  cases request <;> first | rfl | exact idle.elim

namespace Program

variable {α β γ δ σ τ : Type} {respond : σ → (request : Call) → request.Answer × σ}
  {retort : τ → (request : Call) → request.Answer × τ} {proper : Call → Prop}

/-- The calls of a run that go to the driver or write claims, the latest first. -/
def labours (respond : σ → (request : Call) → request.Answer × σ) (state : σ)
    (program : Program α) : List Call :=
  ((program.journal respond state).map Exchange.request).filter Call.isLabour

/-- The first call of a program comes last among its labours, if it is one. -/
theorem labours_call (state : σ) {request : Call} (next : request.Answer → Program α) :
    (call request next).labours respond state =
      (next (respond state request).1).labours respond (respond state request).2 ++
        [request].filter Call.isLabour := by
  simp [labours, journal_call]

/-- The labours of one program after another are those of the second before those of the first. -/
theorem labours_bind (state : σ) (program : Program α) (next : α → Program β) :
    (program.bind next).labours respond state =
      (next (program.run respond state).1).labours respond (program.run respond state).2 ++
        program.labours respond state := by
  -- The induction goes along the calls of the first program, behind which the second one starts.
  induction program generalizing state with
  | done value => exact (List.append_nil _).symm
  | call request rest ih =>
    rw [bind, labours_call, labours_call, ih, List.append_assoc]
    rfl

/-- A program that neither goes to the driver nor writes claims has no labours. -/
theorem Asks.labours_eq_nil {calls : Call → Prop} {gives : α → Prop} {program : Program α}
    (asks : program.Asks calls gives) (idle : ∀ request, calls request → request.isLabour = false)
    (state : σ) : program.labours respond state = [] := by
  -- No call is counted, whatever answers lead to it.
  induction program generalizing state with
  | done value => rfl
  | call request next ih => simp [labours_call, ih _ (asks.2 _), idle request asks.1]

/-- A run ends with a value of the sort that the program gives. -/
theorem Asks.gives_run {calls : Call → Prop} {gives : α → Prop} {program : Program α}
    (asks : program.Asks calls gives) (state : σ) : gives (program.run respond state).1 := by
  induction program generalizing state with
  | done value => exact asks
  | call request next ih => exact ih _ (asks.2 _) _

/-- Two runs go to the driver and write claims by the same calls, all of some sort, and end as wished. -/
structure Pairs (respond : σ → (request : Call) → request.Answer × σ)
    (retort : τ → (request : Call) → request.Answer × τ) (proper : Call → Prop)
    (goal : α → σ → β → τ → Prop) (program : Program α) (state : σ) (other : Program β)
    (place : τ) : Prop where
  -- Both make the same labours, in the same order.
  same : program.labours respond state = other.labours retort place
  proper : ∀ request ∈ program.labours respond state, proper request
  -- What is said of the two ends concerns both results and both states.
  ends : goal (program.run respond state).1 (program.run respond state).2
    (other.run retort place).1 (other.run retort place).2

/-- Two runs are over. -/
theorem Pairs.done {goal : α → σ → β → τ → Prop} {value : α} {state : σ} {result : β} {place : τ}
    (ended : goal value state result place) :
    Pairs respond retort proper goal (.done value) state (.done result) place :=
  ⟨rfl, fun _ never => absurd never List.not_mem_nil, ended⟩

/-- Two runs neither go to the driver nor write claims, whatever else they do. -/
theorem Pairs.of_idle {goal : α → σ → β → τ → Prop} {program : Program α} {state : σ}
    {other : Program β} {place : τ} (idle : program.labours respond state = [])
    (idleOther : other.labours retort place = [])
    (ended : goal (program.run respond state).1 (program.run respond state).2
      (other.run retort place).1 (other.run retort place).2) :
    Pairs respond retort proper goal program state other place :=
  ⟨idle.trans idleOther.symm, fun _ made => absurd (idle ▸ made) List.not_mem_nil, ended⟩

/-- Two runs that end in one way end in every more general way. -/
theorem Pairs.mono {goal wider : α → σ → β → τ → Prop} {program : Program α} {state : σ}
    {other : Program β} {place : τ} (pairs : Pairs respond retort proper goal program state other place)
    (wide : ∀ value after result there, goal value after result there →
      wider value after result there) :
    Pairs respond retort proper wider program state other place :=
  ⟨pairs.same, pairs.proper, wide _ _ _ _ pairs.ends⟩

/-- Two runs go on side by side from where two others ended. -/
theorem Pairs.bind {goal : α → σ → β → τ → Prop} {final : γ → σ → δ → τ → Prop}
    {program : Program α} {state : σ} {other : Program β} {place : τ} {next : α → Program γ}
    {rest : β → Program δ} (first : Pairs respond retort proper goal program state other place)
    (second : ∀ value after result there, goal value after result there →
      Pairs respond retort proper final (next value) after (rest result) there) :
    Pairs respond retort proper final (program.bind next) state (other.bind rest) place := by
  -- What comes second starts where the first ended, so its labours are counted after those.
  have later := second _ _ _ _ first.ends
  refine ⟨?_, ?_, ?_⟩
  · rw [labours_bind, labours_bind, first.same, later.same]
  · intro request made
    rw [labours_bind] at made
    rcases List.mem_append.mp made with made | made
    · exact later.proper request made
    · exact first.proper request made
  · rw [run_bind, run_bind]
    exact later.ends

/-- A single call is made on both sides. -/
theorem Pairs.ask (request : Call) {goal : request.Answer → σ → request.Answer → τ → Prop} {state : σ}
    {place : τ} (sort : request.isLabour = true → proper request)
    (ended : goal (respond state request).1 (respond state request).2
      (retort place request).1 (retort place request).2) :
    Pairs respond retort proper goal (.ask request) state (.ask request) place := by
  -- One call is one labour, or none if it neither goes to the driver nor writes a claim.
  have made {σ : Type} {respond : σ → (request : Call) → request.Answer × σ} (state : σ) :
      (Program.ask request).labours respond state = [request].filter Call.isLabour :=
    labours_call state .done
  refine ⟨(made state).trans (made place).symm, ?_, ended⟩
  intro other known
  rw [made] at known
  obtain ⟨known, labour⟩ := List.mem_filter.mp known
  obtain rfl := List.mem_singleton.mp known
  exact sort labour

/-- A program runs side by side with itself where its calls get the same answers. -/
theorem Asks.pairs {calls : Call → Prop} {gives : α → Prop} {fits : σ → τ → Prop}
    {program : Program α} (asks : program.Asks calls gives)
    (sorts : ∀ request, calls request → request.isLabour = true → proper request)
    (answered : ∀ {state : σ} {place : τ} (request : Call), calls request → fits state place →
      (respond state request).1 = (retort place request).1 ∧
        fits (respond state request).2 (retort place request).2)
    {state : σ} {place : τ} (start : fits state place) :
    Pairs respond retort proper
      (fun value after result there => result = value ∧ gives value ∧ fits after there)
      program state program place := by
  -- The induction goes along the calls: the same answers lead to the same next call, from fitting states.
  induction program generalizing state place with
  | done value => exact .done ⟨rfl, asks, start⟩
  | call request next ih =>
    obtain ⟨same, still⟩ := answered request asks.1 start
    have first : Pairs respond retort proper
        (fun answer after reply there => reply = answer ∧ fits after there)
        (.ask request) state (.ask request) place :=
      .ask request (sorts request asks.1) ⟨same.symm, still⟩
    refine first.bind ?_
    rintro answer after reply there ⟨rfl, fit⟩
    exact ih _ (asks.2 _) fit

end Program

namespace Attempt

variable {ε ε' α β γ δ σ τ : Type} {respond : σ → (request : Call) → request.Answer × σ}
  {retort : τ → (request : Call) → request.Answer × τ} {proper : Call → Prop}

/-- Two attempts run side by side. -/
def Pairs (respond : σ → (request : Call) → request.Answer × σ)
    (retort : τ → (request : Call) → request.Answer × τ) (proper : Call → Prop)
    (goal : Except ε α → σ → Except ε' β → τ → Prop) (attempt : Attempt ε α) (state : σ)
    (other : Attempt ε' β) (place : τ) : Prop :=
  Program.Pairs respond retort proper goal attempt.run state other.run place

/-- Two attempts either both succeed as wished or fail in the same way. -/
inductive Agree (success : α → σ → β → τ → Prop) (failure : σ → τ → Prop) :
    Except ε α → σ → Except ε β → τ → Prop where
  | ok {value : α} {state : σ} {result : β} {place : τ}
    (reached : success value state result place) :
    Agree success failure (.ok value) state (.ok result) place
  | error {error : ε} {state : σ} {place : τ} (reached : failure state place) :
    Agree success failure (.error error) state (.error error) place

variable {success : α → σ → β → τ → Prop} {failure : σ → τ → Prop} {attempt : Attempt ε α}
  {state : σ} {other : Attempt ε β} {place : τ}

/-- One attempt after another, side by side with two others. -/
theorem Pairs.bind {final : Except ε γ → σ → Except ε δ → τ → Prop} {next : α → Attempt ε γ}
    {rest : β → Attempt ε δ}
    (first : Pairs respond retort proper (Agree success failure) attempt state other place)
    (failed : ∀ error after there, failure after there →
      final (.error error) after (.error error) there)
    (second : ∀ value after result there, success value after result there →
      Pairs respond retort proper final (next value) after (rest result) there) :
    Pairs respond retort proper final (attempt >>= next) state (other >>= rest) place := by
  refine Program.Pairs.bind first ?_
  -- Nothing is called on either side after a failure.
  intro outcome after reply there agree
  cases agree with
  | ok reached => exact second _ _ _ _ reached
  | error reached => exact .done (failed _ _ _ reached)

/-- After two attempts that succeed others go on. -/
theorem Pairs.then {final : Except ε γ → σ → Except ε δ → τ → Prop} {next : α → Attempt ε γ}
    {rest : β → Attempt ε δ}
    (first : Pairs respond retort proper (Agree success fun _ _ => False) attempt state other place)
    (second : ∀ value after result there, success value after result there →
      Pairs respond retort proper final (next value) after (rest result) there) :
    Pairs respond retort proper final (attempt >>= next) state (other >>= rest) place :=
  first.bind (fun _ _ _ never => never.elim) second

/-- Two attempts that agree in one way agree in every more general way. -/
theorem Pairs.imp {wider : α → σ → β → τ → Prop} {general : σ → τ → Prop}
    (pairs : Pairs respond retort proper (Agree success failure) attempt state other place)
    (succeeded : ∀ value after result there, success value after result there →
      wider value after result there)
    (failed : ∀ after there, failure after there → general after there) :
    Pairs respond retort proper (Agree wider general) attempt state other place := by
  -- Agreement is about results of one kind, so both sides succeed or both fail.
  refine Program.Pairs.mono pairs ?_
  intro outcome after reply there agree
  cases agree with
  | ok reached => exact .ok (succeeded _ _ _ _ reached)
  | error reached => exact .error (failed _ _ reached)

/-- Failures told in wider terms are still the same. -/
theorem Pairs.within {wider : ε → ε'}
    (pairs : Pairs respond retort proper (Agree success failure) attempt state other place) :
    Pairs respond retort proper (Agree success failure) (within wider attempt) state
      (within wider other) place := by
  -- Telling a failure in wider terms takes no call.
  refine Program.Pairs.bind pairs ?_
  intro outcome after reply there agree
  cases agree with
  | ok reached => exact .done (.ok reached)
  | error reached => exact .done (.error reached)

/-- Where nothing fails the outcomes are successes. -/
theorem Pairs.outcome {ε' : Type}
    (pairs : Pairs respond retort proper (Agree success fun _ _ => False) attempt state other place) :
    Pairs respond retort proper
      (Agree (fun answer after reply there => ∃ value result, answer = .ok value ∧
        reply = .ok result ∧ success value after result there) fun _ _ => False)
      (outcome attempt : Attempt ε' (Except ε α)) state (outcome other : Attempt ε' (Except ε β))
      place := by
  -- No failure is left to speak of, and both successes become answers.
  refine Program.Pairs.bind pairs ?_
  intro outcome after reply there agree
  cases agree with
  | ok reached => exact .done (.ok ⟨_, _, rfl, rfl, reached⟩)
  | error never => exact never.elim

/-- Failures that are told on a group on both sides are still the same. -/
theorem Pairs.tellingOn {later : σ → τ → Prop} {group : Group} {reason : Reason} {ready : Option Bool}
    {attempt : Attempt PassError α} {other : Attempt PassError β}
    (pairs : Pairs respond retort proper (Agree success failure) attempt state other place)
    (told : ∀ error after there, failure after there →
      Program.Pairs respond retort proper (fun _ last _ goal => later last goal)
        (group.tell reason ready error) after (group.tell reason ready error) there) :
    Pairs respond retort proper (Agree success later) (attempt.tellingOn group reason ready) state
      (other.tellingOn group reason ready) place := by
  -- A success needs no telling, and a failure is told on both sides by the same calls.
  refine Program.Pairs.bind pairs ?_
  intro outcome after reply there agree
  cases agree with
  | ok reached => exact .done (.ok reached)
  | error reached =>
    exact Program.Pairs.bind (told _ _ _ reached) fun _ _ _ _ ended => .done (.error ended)

/-- Where nothing fails nothing is told. -/
theorem Pairs.untold {group : Group} {reason : Reason} {ready : Option Bool}
    {attempt : Attempt PassError α} {other : Attempt PassError β}
    (pairs : Pairs respond retort proper (Agree success fun _ _ => False) attempt state other place) :
    Pairs respond retort proper (Agree success fun _ _ => False)
      (attempt.tellingOn group reason ready) state (other.tellingOn group reason ready) place :=
  pairs.tellingOn fun _ _ _ never => never.elim

/-- What is known is known on both sides. -/
theorem Pairs.known (result : Except ε α) {same : α → σ → α → τ → Prop}
    (succeeded : ∀ value, result = .ok value → same value state value place)
    (failed : failure state place) :
    Pairs respond retort proper (Agree same failure) (known result) state (known result) place := by
  cases result with
  | ok value => exact .done (.ok (succeeded value rfl))
  | error error => exact .done (.error failed)

/-- An attempt runs side by side with itself where its calls get the same answers. -/
theorem Asks.pairs {calls : Call → Prop} {gives : α → Prop} {fits : σ → τ → Prop}
    (asks : attempt.Asks calls gives)
    (sorts : ∀ request, calls request → request.isLabour = true → proper request)
    (answered : ∀ {state : σ} {place : τ} (request : Call), calls request → fits state place →
      (respond state request).1 = (retort place request).1 ∧
        fits (respond state request).2 (retort place request).2)
    (start : fits state place) :
    Pairs respond retort proper
      (Agree (fun value after result there => result = value ∧ gives value ∧ fits after there) fits)
      attempt state attempt place := by
  -- The result is the same on both sides, so the two succeed together.
  refine (Program.Asks.pairs asks sorts answered start).mono ?_
  rintro (error | value) after _ there ⟨rfl, given, fit⟩
  · exact .error fit
  · exact .ok ⟨rfl, given, fit⟩

end Attempt

end VolumeGroups
