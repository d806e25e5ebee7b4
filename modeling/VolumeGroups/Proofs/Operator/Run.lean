import VolumeGroups.Proofs.Operator.Promise

/-! Runs of an operator that makes one pass at a time while users edit objects, and how the promises
of its passes carry over to whole runs. -/

namespace VolumeGroups

/-- A moment in the life of an operator: the scene, and what is left of the pass that it makes. -/
structure Moment extends Scene where
  pass : Option (Program (Except PassError Action)) := none

namespace Conditions

/-- From one moment to the next. -/
inductive Step (conditions : Conditions) : Moment → Moment → Prop where
  /-- Others change the store while no pass runs. -/
  | idle {scene : Scene} {store : Store} (change : conditions.between scene.store store) :
    Step conditions ⟨scene, none⟩ ⟨{ scene with store }, none⟩
  /-- Others change the store between two calls of a pass. -/
  | wait {scene : Scene} {store : Store} {pass : Program (Except PassError Action)}
    (change : conditions.during scene.store store) :
    Step conditions ⟨scene, some pass⟩ ⟨{ scene with store }, some pass⟩
  /-- A pass over a group begins. -/
  | start {scene : Scene} (seen : Group) (visited : conditions.visits seen) :
    Step conditions ⟨scene, none⟩ ⟨scene, some (seen.reconcile conditions.driver).run⟩
  /-- The pass makes a call. -/
  | call {scene after : Scene} {request : Call}
    {next : request.Answer → Program (Except PassError Action)} {answer : request.Answer}
    (answers : conditions.Answers scene request answer after) :
    Step conditions ⟨scene, some (.call request next)⟩ ⟨after, some (next answer)⟩
  /-- The pass ends, or the operator stops in the middle of it. -/
  | stop {scene : Scene} {pass : Program (Except PassError Action)} :
    Step conditions ⟨scene, some pass⟩ ⟨scene, none⟩

/-- From one moment to a later one. -/
def Reaches (conditions : Conditions) : Moment → Moment → Prop :=
  Relation.ReflTransGen conditions.Step

variable {conditions : Conditions} {promise : Promise}

/-- A property of scenes that lasts whatever others do, and that every pass keeps call by call. -/
structure Upholds (conditions : Conditions) (promise : Promise) (holds : Scene → Prop) : Prop where
  /-- Others cannot break the property while no pass runs. -/
  idle : ∀ {scene : Scene} {store : Store}, holds scene → conditions.between scene.store store →
    holds { scene with store }
  /-- Others cannot break the property between two calls. -/
  wait : ∀ {scene : Scene} {store : Store}, holds scene → conditions.during scene.store store →
    holds { scene with store }
  /-- A call that keeps the promise cannot break the property. -/
  call : ∀ {scene after : Scene} {request : Call} {answer : request.Answer}, holds scene →
    promise scene request answer after → holds after
  /-- A pass that begins where the property holds keeps the promise. -/
  pass : ∀ {scene : Scene} {seen : Group}, holds scene → conditions.visits seen →
    Attempt.Honours conditions promise (fun _ _ => True) (seen.reconcile conditions.driver) scene

/-- The property holds, and what is left of the pass keeps the promise. -/
def Sound (conditions : Conditions) (promise : Promise) (holds : Scene → Prop) (moment : Moment) :
    Prop :=
  holds moment.toScene ∧
    ∀ pass, moment.pass = some pass →
      pass.Honours conditions promise (fun _ _ => True) moment.toScene

/-- What is left of a pass keeps the promise also after others have changed the store. -/
theorem honours_of_waits {program : Program (Except PassError Action)} {scene met : Scene}
    (honours : program.Honours conditions promise (fun _ _ => True) scene)
    (waits : conditions.Waits scene met) :
    program.Honours conditions promise (fun _ _ => True) met := by
  -- A program that goes on with a call allows for any wait before it.
  cases program with
  | done value => trivial
  | call request next =>
    intro later further answer after answers
    exact honours later (waits.trans further) answer after answers

/-- What is left of the only pass that is made keeps the promise of that pass. -/
theorem honours_of_reaches (single : ∀ seen, ¬ conditions.visits seen) {start : Scene}
    {pass : Program (Except PassError Action)} {moment : Moment}
    (honours : pass.Honours conditions promise (fun _ _ => True) start)
    (run : conditions.Reaches ⟨start, some pass⟩ moment) :
    ∀ rest, moment.pass = some rest →
      rest.Honours conditions promise (fun _ _ => True) moment.toScene := by
  -- The induction goes along the run, which has no other pass to start.
  induction run with
  | refl =>
    intro rest running
    cases running
    exact honours
  | tail _ step ih =>
    intro rest running
    cases step with
    | idle change => cases running
    -- What is left keeps its promise after any waiting, so also after this one.
    | wait change =>
      cases running
      exact honours_of_waits (ih _ rfl) ⟨rfl, .single change⟩
    | start seen visited => exact absurd visited (single seen)
    | call answers =>
      cases running
      exact (ih _ rfl _ (conditions.waits_refl _) _ _ answers).2
    | stop => cases running

/-- Every step keeps a property that the conditions uphold. -/
theorem Upholds.step {holds : Scene → Prop} (upholds : conditions.Upholds promise holds)
    {moment next : Moment} (sound : conditions.Sound promise holds moment)
    (step : conditions.Step moment next) : conditions.Sound promise holds next := by
  -- There is one case for each kind of step, and each is what one of the four conditions speaks of.
  obtain ⟨held, rest⟩ := sound
  cases step with
  | idle change => exact ⟨upholds.idle held change, fun _ none => by cases none⟩
  -- Between two calls what is left of the pass is the same.
  | wait change =>
    refine ⟨upholds.wait held change, ?_⟩
    intro pass running
    cases running
    exact honours_of_waits (rest _ rfl) ⟨rfl, .single change⟩
  -- A new pass keeps its promise from the first call on.
  | start seen visited =>
    refine ⟨held, ?_⟩
    intro pass running
    cases running
    exact upholds.pass held visited
  -- The call was promised, and so are those that are left.
  | call answers =>
    obtain ⟨kept, remaining⟩ := rest _ rfl _ (conditions.waits_refl _) _ _ answers
    refine ⟨upholds.call held kept, ?_⟩
    intro pass running
    cases running
    exact remaining
  | stop => exact ⟨held, fun _ none => by cases none⟩

/-- Every moment of a run has a property that the conditions uphold and that held at the start. -/
theorem Upholds.reaches {holds : Scene → Prop} (upholds : conditions.Upholds promise holds)
    {scene : Scene} {moment : Moment} (start : holds scene)
    (run : conditions.Reaches ⟨scene, none⟩ moment) :
    conditions.Sound promise holds moment := by
  -- The induction goes along the run, one step at a time.
  induction run with
  | refl => exact ⟨start, fun _ none => by cases none⟩
  | tail _ step ih => exact upholds.step ih step

/-- Every call of a run keeps the promise. -/
theorem Upholds.promised {holds : Scene → Prop} (upholds : conditions.Upholds promise holds)
    {scene now after : Scene} {request : Call} {answer : request.Answer}
    {next : request.Answer → Program (Except PassError Action)} (start : holds scene)
    (run : conditions.Reaches ⟨scene, none⟩ ⟨now, some (.call request next)⟩)
    (answers : conditions.Answers now request answer after) : promise now request answer after :=
  ((upholds.reaches start run).2 _ rfl _ (conditions.waits_refl _) _ _ answers).1

end Conditions

end VolumeGroups
