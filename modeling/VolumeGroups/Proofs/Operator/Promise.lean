import VolumeGroups.Proofs.Operator.Scene

/-! What programs promise: a property of every call they make, whatever the answers are, and a
property of how they end. -/

namespace VolumeGroups

/-- A property of a call, its answer and the scenes before and after it. -/
abbrev Promise := Scene → (request : Call) → request.Answer → Scene → Prop

namespace Program

variable {α β : Type} {conditions : Conditions} {promise : Promise}

/-- From a scene on, every call of a program keeps a promise, and the program ends as wished. -/
def Honours (conditions : Conditions) (promise : Promise) (goal : α → Scene → Prop) :
    Program α → Scene → Prop
  | .done value, scene => goal value scene
  | .call request next, scene =>
    -- Others may change the store until the call is made.
    ∀ met, conditions.Waits scene met → ∀ answer after, conditions.Answers met request answer after →
      promise met request answer after ∧ (next answer).Honours conditions promise goal after

/-- A program that ends in one way ends in every more general way. -/
theorem Honours.mono {goal wider : α → Scene → Prop}
    (wide : ∀ value scene, goal value scene → wider value scene) {program : Program α} {scene : Scene}
    (honours : program.Honours conditions promise goal scene) :
    program.Honours conditions promise wider scene := by
  -- The induction goes along the calls, whatever their answers.
  induction program generalizing scene with
  | done value => exact wide value scene honours
  | call request next ih =>
    intro met waits answer after answers
    obtain ⟨kept, rest⟩ := honours met waits answer after answers
    exact ⟨kept, ih answer rest⟩

/-- A program that keeps a promise keeps every weaker one. -/
theorem Honours.promising {wider : Promise} {goal : α → Scene → Prop}
    (wide : ∀ met request answer after, promise met request answer after →
      wider met request answer after) {program : Program α} {scene : Scene}
    (honours : program.Honours conditions promise goal scene) :
    program.Honours conditions wider goal scene := by
  -- Each call kept the stronger promise, and what follows it does so by induction.
  induction program generalizing scene with
  | done value => exact honours
  | call request next ih =>
    intro met waits answer after answers
    obtain ⟨kept, rest⟩ := honours met waits answer after answers
    exact ⟨wide met request answer after kept, ih answer rest⟩

/-- A program that ends in two ways ends in both of them. -/
theorem Honours.both {goal further : α → Scene → Prop} {program : Program α} {scene : Scene}
    (one : program.Honours conditions promise goal scene)
    (other : program.Honours conditions promise further scene) :
    program.Honours conditions promise (fun value after => goal value after ∧ further value after)
      scene := by
  -- Both ways are taken along the same calls.
  induction program generalizing scene with
  | done value => exact ⟨one, other⟩
  | call request next ih =>
    intro met waits answer after answers
    obtain ⟨kept, rest⟩ := one met waits answer after answers
    exact ⟨kept, ih answer rest (other met waits answer after answers).2⟩

/-- One program after another keeps a promise that both keep. -/
theorem Honours.bind {goal : α → Scene → Prop} {final : β → Scene → Prop} {program : Program α}
    {next : α → Program β} {scene : Scene}
    (first : program.Honours conditions promise goal scene)
    (second : ∀ value scene, goal value scene →
      (next value).Honours conditions promise final scene) :
    (program.bind next).Honours conditions promise final scene := by
  -- The second program takes over in whatever scene the first one ends.
  induction program generalizing scene with
  | done value => exact second value scene first
  | call request rest ih =>
    intro met waits answer after answers
    obtain ⟨kept, remaining⟩ := first met waits answer after answers
    exact ⟨kept, ih answer remaining⟩

/-- A single call keeps a promise that holds of each of its answers. -/
theorem Honours.ask {request : Call} {goal : request.Answer → Scene → Prop} {scene : Scene}
    (answered : ∀ met, conditions.Waits scene met → ∀ answer after,
      conditions.Answers met request answer after →
        promise met request answer after ∧ goal answer after) :
    (Program.ask request).Honours conditions promise goal scene :=
  fun met waits answer after answers => answered met waits answer after answers

/-- A program makes calls of some sort only and ends with a value of some sort, whatever the
answers. -/
def Asks (calls : Call → Prop) (gives : α → Prop) : Program α → Prop
  | .done value => gives value
  | .call request next => calls request ∧ ∀ answer, (next answer).Asks calls gives

/-- One program after another makes calls that either makes. -/
theorem Asks.bind {calls : Call → Prop} {gives : α → Prop} {final : β → Prop}
    {program : Program α} {next : α → Program β} (first : program.Asks calls gives)
    (second : ∀ value, gives value → (next value).Asks calls final) :
    (program.bind next).Asks calls final := by
  induction program with
  | done value => exact second value first
  | call request rest ih => exact ⟨first.1, fun answer => ih answer (first.2 answer)⟩

/-- A program that makes calls of a sort makes calls of every wider sort. -/
theorem Asks.mono {calls wider : Call → Prop} {gives final : α → Prop} {program : Program α}
    (asks : program.Asks calls gives) (wide : ∀ request, calls request → wider request)
    (general : ∀ value, gives value → final value) : program.Asks wider final := by
  induction program with
  | done value => exact general value asks
  | call request rest ih =>
    exact ⟨wide request asks.1, fun answer => ih answer (asks.2 answer)⟩

/-- Where states that match give each call of a program the same answer and still match afterwards, the
program ends there with the same value and in states that match. -/
theorem Asks.run_match {σ τ : Type} {respond : σ → (request : Call) → request.Answer × σ}
    {retort : τ → (request : Call) → request.Answer × τ} {fits : σ → τ → Prop}
    {calls : Call → Prop} {gives : α → Prop} {program : Program α}
    (asks : program.Asks calls gives)
    (answered : ∀ {state : σ} {other : τ} (request : Call), calls request → fits state other →
      (respond state request).1 = (retort other request).1 ∧
        fits (respond state request).2 (retort other request).2)
    {state : σ} {other : τ} (start : fits state other) :
    (program.run respond state).1 = (program.run retort other).1 ∧
      gives (program.run respond state).1 ∧
        fits (program.run respond state).2 (program.run retort other).2 := by
  -- Both runs take the same branch, since both get the same answer.
  induction program generalizing state other with
  | done value => exact ⟨rfl, asks, start⟩
  | call request rest ih =>
    obtain ⟨same, still⟩ := answered request asks.1 start
    have later := ih _ (asks.2 (respond state request).1) still
    simp only [run]
    rwa [same] at later ⊢

/-- A property that waiting and the calls of a program keep is there when the program ends. -/
theorem Asks.honours {calls : Call → Prop} {gives : α → Prop} {program : Program α}
    (asks : program.Asks calls gives) (keeps : Scene → Prop)
    (waiting : ∀ scene met, keeps scene → conditions.Waits scene met → keeps met)
    (answered : ∀ met request answer after, calls request → keeps met →
      conditions.Answers met request answer after →
        promise met request answer after ∧ keeps after)
    {scene : Scene} (start : keeps scene) :
    program.Honours conditions promise (fun value after => gives value ∧ keeps after) scene := by
  -- The property is there at each call, since neither waiting nor the call before broke it.
  induction program generalizing scene with
  | done value => exact ⟨asks, start⟩
  | call request rest ih =>
    intro met waits answer after answers
    obtain ⟨kept, holds⟩ :=
      answered met request answer after asks.1 (waiting scene met start waits) answers
    exact ⟨kept, ih answer (asks.2 answer) holds⟩

/-- A program ends under other conditions as it does under those under which its calls get the same
answers. -/
theorem Honours.carried {other : Conditions} {kept : Promise} {calls : Call → Prop}
    {gives : α → Prop} {goal : α → Scene → Prop} {program : Program α} {scene : Scene}
    (honours : program.Honours conditions promise goal scene) (asks : program.Asks calls gives)
    (waits : ∀ scene met, other.Waits scene met → conditions.Waits scene met)
    (answered : ∀ met request answer after, calls request →
      other.Answers met request answer after →
        conditions.Answers met request answer after ∧
          (promise met request answer after → kept met request answer after)) :
    program.Honours other kept goal scene := by
  -- The induction goes along the calls: whatever may be answered there may be answered here.
  induction program generalizing scene with
  | done value => exact honours
  | call request rest ih =>
    intro met waited answer after answers
    obtain ⟨same, keeps⟩ := answered met request answer after asks.1 answers
    obtain ⟨promised, remaining⟩ := honours met (waits scene met waited) answer after same
    exact ⟨keeps promised, ih answer remaining (asks.2 answer)⟩

end Program

namespace Attempt

variable {α β ε ε' : Type} {conditions : Conditions} {promise : Promise}

/-- From a scene on, every call of an attempt keeps a promise, and the attempt ends as wished. -/
def Honours (conditions : Conditions) (promise : Promise) (goal : Except ε α → Scene → Prop)
    (attempt : Attempt ε α) (scene : Scene) : Prop :=
  Program.Honours conditions promise goal attempt.run scene

/-- Success ends an attempt at once. -/
theorem Honours.pure {goal : Except ε α → Scene → Prop} {value : α} {scene : Scene}
    (ended : goal (.ok value) scene) :
    Honours conditions promise goal (Pure.pure value) scene := ended

/-- Failure ends an attempt at once. -/
theorem Honours.throw {goal : Except ε α → Scene → Prop} {error : ε} {scene : Scene}
    (ended : goal (.error error) scene) :
    Honours conditions promise goal (throw error) scene := ended

/-- A known result ends an attempt at once. -/
theorem Honours.known {goal : Except ε α → Scene → Prop} {result : Except ε α} {scene : Scene}
    (ended : goal result scene) : Honours conditions promise goal (known result) scene := ended

/-- An attempt that ends in one way ends in every more general way. -/
theorem Honours.mono {goal wider : Except ε α → Scene → Prop} {attempt : Attempt ε α}
    {scene : Scene} (honours : Honours conditions promise goal attempt scene)
    (wide : ∀ result scene, goal result scene → wider result scene) :
    Honours conditions promise wider attempt scene :=
  Program.Honours.mono wide honours

/-- An attempt that ends in two ways ends in both of them. -/
theorem Honours.both {goal further : Except ε α → Scene → Prop} {attempt : Attempt ε α}
    {scene : Scene} (one : Honours conditions promise goal attempt scene)
    (other : Honours conditions promise further attempt scene) :
    Honours conditions promise (fun result after => goal result after ∧ further result after)
      attempt scene :=
  Program.Honours.both one other

/-- One attempt after another keeps a promise that both keep, where a failure ends both. -/
theorem Honours.bind {goal : Except ε α → Scene → Prop} {final : Except ε β → Scene → Prop}
    {attempt : Attempt ε α} {next : α → Attempt ε β} {scene : Scene}
    (first : Honours conditions promise goal attempt scene)
    (failed : ∀ error scene, goal (.error error) scene → final (.error error) scene)
    (second : ∀ value scene, goal (.ok value) scene →
      Honours conditions promise final (next value) scene) :
    Honours conditions promise final (attempt >>= next) scene := by
  refine Program.Honours.bind first ?_
  -- A failure of the first attempt is that of both, and nothing is called after it.
  intro result scene reached
  cases result with
  | ok value => exact second value scene reached
  | error error => exact failed error scene reached

/-- What a success is like, where a failure may be anything. -/
def Gives (gives : α → Prop) : Except ε α → Prop
  | .ok value => gives value
  | .error _ => True

/-- What the end of an attempt is like if it succeeds. -/
def Ends (goal : α → Scene → Prop) (result : Except ε α) (scene : Scene) : Prop :=
  Gives (fun value => goal value scene) result

/-- However an attempt ends, it ends so if it succeeds. -/
theorem Honours.ends {goal : Except ε α → Scene → Prop} {attempt : Attempt ε α} {scene : Scene}
    (honours : Honours conditions promise goal attempt scene) :
    Honours conditions promise (Ends fun value => goal (.ok value)) attempt scene := by
  -- A failure says nothing then, and a success says what it did.
  refine honours.mono ?_
  intro result after reached
  cases result with
  | ok value => exact reached
  | error error => trivial

/-- One attempt after another succeeds as the second one does. -/
theorem Honours.then {goal : Except ε α → Scene → Prop} {final : β → Scene → Prop}
    {attempt : Attempt ε α} {next : α → Attempt ε β} {scene : Scene}
    (first : Honours conditions promise goal attempt scene)
    (second : ∀ value scene, goal (.ok value) scene →
      Honours conditions promise (Ends final) (next value) scene) :
    Honours conditions promise (Ends final) (attempt >>= next) scene :=
  first.bind (fun _ _ _ => trivial) second

/-- Failures told in wider terms are no other failures. -/
theorem Honours.within {goal : Except ε' α → Scene → Prop} {wider : ε → ε'}
    {attempt : Attempt ε α} {scene : Scene}
    (honours : Honours conditions promise (fun result => goal (result.mapError wider)) attempt
      scene) :
    Honours conditions promise goal (within wider attempt) scene :=
  Program.Honours.bind honours fun _ _ reached => reached

/-- An attempt that succeeds in one way succeeds in every more general way. -/
theorem Honours.imp {goal wider : α → Scene → Prop} {attempt : Attempt ε α} {scene : Scene}
    (honours : Honours conditions promise (Ends goal) attempt scene)
    (wide : ∀ value scene, goal value scene → wider value scene) :
    Honours conditions promise (Ends wider) attempt scene := by
  -- Only successes are spoken of.
  refine honours.mono ?_
  intro result after reached
  cases result with
  | ok value => exact wide value after reached
  | error error => trivial

/-- An attempt whose value is dropped ends in the same scenes. -/
theorem Honours.dropped {goal : Scene → Prop} {attempt : Attempt ε α} {scene : Scene}
    (honours : Honours conditions promise (Ends fun _ => goal) attempt scene) :
    Honours conditions promise (Ends fun _ => goal) (attempt >>= fun _ => Pure.pure ()) scene :=
  honours.then fun _ _ reached => .pure reached

/-- An attempt succeeds in the same way however its failures are told. -/
theorem Honours.told {goal : α → Scene → Prop} {wider : ε → ε'} {attempt : Attempt ε α}
    {scene : Scene} (honours : Honours conditions promise (Ends goal) attempt scene) :
    Honours conditions promise (Ends goal) (Attempt.within wider attempt) scene := by
  -- The terms of a failure do not touch a success.
  refine .within (honours.mono ?_)
  intro result after reached
  cases result with
  | ok value => exact reached
  | error error => trivial

/-- Failures told in other terms change neither how an attempt succeeds nor where it ends. -/
theorem Honours.retold {always : Scene → Prop} {goal : α → Scene → Prop} {wider : ε → ε'}
    {attempt : Attempt ε α} {scene : Scene}
    (honours : Honours conditions promise
      (fun result after => always after ∧ Ends goal result after) attempt scene) :
    Honours conditions promise (fun result after => always after ∧ Ends goal result after)
      (Attempt.within wider attempt) scene := by
  -- What always holds is kept in both cases, and the goal is that of a success.
  refine .within (honours.mono ?_)
  intro result after reached
  cases result with
  | ok value => exact reached
  | error error => exact ⟨reached.1, trivial⟩

/-- A program with a success or a failure is an attempt that ends in the same way. -/
theorem Honours.of {goal : Except ε α → Scene → Prop} {program : Program (Except ε α)}
    {scene : Scene} (honours : program.Honours conditions promise goal scene) :
    Honours conditions promise goal (of program) scene := honours

/-- The outcome of an attempt is a success, whichever it is. -/
theorem Honours.outcome {goal : Except ε' (Except ε α) → Scene → Prop} {attempt : Attempt ε α}
    {scene : Scene}
    (honours : Honours conditions promise (fun result => goal (.ok result)) attempt scene) :
    Honours conditions promise goal (outcome attempt) scene :=
  Program.Honours.bind honours fun _ _ reached => reached

/-- A failure that is told on a group is the same failure after the telling. -/
theorem Honours.tellingOn {goal final : Except PassError α → Scene → Prop} {group : Group}
    {reason : Reason} {ready : Option Bool} {attempt : Attempt PassError α} {scene : Scene}
    (honours : Honours conditions promise goal attempt scene)
    (succeeded : ∀ value scene, goal (.ok value) scene → final (.ok value) scene)
    (told : ∀ error scene, goal (.error error) scene →
      (group.tell reason ready error).Honours conditions promise
        (fun _ => final (.error error)) scene) :
    Honours conditions promise final (tellingOn group reason ready attempt) scene := by
  refine Program.Honours.bind honours ?_
  -- Only a failure is told, and it stays the result whatever becomes of the telling.
  intro result scene reached
  cases result with
  | ok value => exact succeeded value scene reached
  | error error => exact Program.Honours.bind (told error scene reached) fun _ _ ended => ended

/-- Nothing is asked of a success. -/
theorem gives_any (result : Except ε α) : Gives (fun _ => True) result := by
  cases result <;> trivial

/-- An attempt makes calls of some sort only and succeeds with a value of some sort only. -/
def Asks (calls : Call → Prop) (gives : α → Prop) (attempt : Attempt ε α) : Prop :=
  Program.Asks calls (Gives gives) attempt.run

variable {calls : Call → Prop} {gives : α → Prop} {final : β → Prop}

/-- An attempt that makes calls of a sort makes calls of every wider sort. -/
theorem Asks.mono {wider : Call → Prop} {general : α → Prop} {attempt : Attempt ε α}
    (asks : Asks calls gives attempt) (wide : ∀ request, calls request → wider request)
    (given : ∀ value, gives value → general value) : Asks wider general attempt := by
  -- A failure gives no value, so nothing is said of it.
  refine Program.Asks.mono asks wide ?_
  intro result known
  cases result with
  | ok value => exact given value known
  | error error => trivial

/-- Success needs no call. -/
theorem Asks.pure {value : α} (given : gives value) :
    Asks calls gives (Pure.pure value : Attempt ε α) := given

/-- Failure needs no call. -/
theorem Asks.throw {error : ε} : Asks calls gives (throw error : Attempt ε α) := trivial

/-- A known result needs no call. -/
theorem Asks.known {result : Except ε α} (given : Gives gives result) :
    Asks calls gives (known result) := given

/-- One attempt after another makes calls that either makes. -/
theorem Asks.bind {attempt : Attempt ε α} {next : α → Attempt ε β}
    (first : Asks calls gives attempt)
    (second : ∀ value, gives value → Asks calls final (next value)) :
    Asks calls final (attempt >>= next) := by
  -- A failure of the first attempt makes no further call.
  refine Program.Asks.bind first ?_
  intro result given
  cases result with
  | ok value => exact second value given
  | error error => trivial

/-- Failures told in wider terms come from the same calls. -/
theorem Asks.within {wider : ε → ε'} {attempt : Attempt ε α} (asks : Asks calls gives attempt) :
    Asks calls gives (within wider attempt) := by
  refine Program.Asks.bind asks ?_
  intro result given
  cases result with
  | ok value => exact given
  | error error => trivial

/-- An attempt of which nothing is asked but its calls. -/
theorem Asks.only {program : Program (Except ε α)} (asks : program.Asks calls fun _ => True) :
    Asks calls (fun _ => True) (Attempt.of program) :=
  Program.Asks.mono asks (fun _ => id) fun result _ => gives_any result

/-- The outcome of an attempt takes the calls of the attempt. -/
theorem Asks.outcome {attempt : Attempt ε α} (asks : Asks calls gives attempt) :
    Asks calls (Gives gives) (outcome attempt : Attempt ε' (Except ε α)) :=
  Program.Asks.bind asks fun _ given => given

/-- A program that cannot fail makes the same calls as an attempt. -/
theorem Asks.lift {program : Program α} (asks : program.Asks calls gives) :
    Asks calls gives (liftM program : Attempt ε α) :=
  Program.Asks.bind asks fun _ given => given

/-- Telling a failure on a group adds the calls of the telling. -/
theorem Asks.tellingOn {group : Group} {reason : Reason} {ready : Option Bool}
    {attempt : Attempt PassError α} (asks : Asks calls gives attempt)
    (told : ∀ error, (group.tell reason ready error).Asks calls fun _ => True) :
    Asks calls gives (tellingOn group reason ready attempt) := by
  -- Only a failure is told.
  refine Program.Asks.bind asks ?_
  intro result given
  cases result with
  | ok value => exact given
  | error error => exact Program.Asks.bind (told error) fun _ _ => trivial

/-- Attempts made for each of some items make the calls that one of them makes. -/
theorem Asks.forM {γ : Type} {items : List γ} {body : γ → Attempt ε PUnit}
    (asks : ∀ item ∈ items, Asks calls (fun _ => True) (body item)) :
    Asks calls (fun _ => True) (items.forM body) := by
  -- The induction follows the order in which the items are taken.
  induction items with
  | nil => exact .pure trivial
  | cons item rest ih =>
    refine .bind (asks item (List.mem_cons_self ..)) fun _ _ => ?_
    exact ih fun other member => asks other (List.mem_cons_of_mem _ member)

/-- An attempt keeps every promise that the sort of its calls keeps. -/
theorem Honours.watched {kept : Promise} {goal : Except ε α → Scene → Prop} {attempt : Attempt ε α}
    {scene : Scene} (honours : Honours conditions promise goal attempt scene)
    (asks : Asks calls gives attempt)
    (keeps : ∀ met request answer after, calls request → kept met request answer after) :
    Honours conditions kept goal attempt scene :=
  Program.Honours.carried honours asks (fun _ _ => id) fun met request answer after sort answers =>
    ⟨answers, fun _ => keeps met request answer after sort⟩

/-- A changed success takes no further call. -/
theorem Asks.map {attempt : Attempt ε α} {change : α → β} (asks : Asks calls gives attempt)
    (given : ∀ value, gives value → final (change value)) :
    Asks calls final (change <$> attempt) := by
  -- A failure is passed on as it is.
  refine Program.Asks.bind asks ?_
  intro result known
  cases result with
  | ok value => exact given value known
  | error error => trivial

end Attempt

/-- A failure is told on a group by a write of its state at most, and by an event. -/
theorem Group.asks_tell_of {calls : Call → Prop} {group : Group} {ready : Option Bool}
    {error : PassError} (writes : calls (.replaceGroupStatus
      { group with status := some (GroupStatus.failed group.status error.statusMessage ready) }))
    (records : ∀ event, calls (.record event)) (reason : Reason) :
    (group.tell reason ready error).Asks calls fun _ => True := by
  -- The state is written only if it differs, and an event follows in either case.
  have noted : (note (Resource.reference group) .warning reason error.statusMessage).Asks calls
      fun _ => True := ⟨records _, fun _ => trivial⟩
  unfold tell
  extract_lets status
  split
  · exact ⟨writes, fun _ => noted⟩
  · exact noted

end VolumeGroups
