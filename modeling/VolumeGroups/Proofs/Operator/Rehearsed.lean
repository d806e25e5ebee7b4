import VolumeGroups.Proofs.Operator.Rounds

/-! Rehearsals without edits are runs, and a small cluster to rehearse in. -/

namespace VolumeGroups

/-- A call that is made to fail with a fault tells of the failure. -/
theorem Call.failsWith_of_failWith? {request : Call} {fault : Fault} {answer : request.Answer}
    (failed : request.failWith? fault = some answer) : request.FailsWith answer := by
  -- Each call fails with an error of the cluster or the driver, which is the failure that it tells.
  cases request with
  | readClock => cases failed
  | _ =>
    obtain ⟨cause, _, rfl⟩ := Option.map_eq_some_iff.mp failed
    rfl

/-- A call that is made to fail with a fault that tells neither of an absent nor of an existing object
tells the truth. -/
theorem Call.failsHonestly_of_failWith? {request : Call} {fault : Fault} {answer : request.Answer}
    (failed : request.failWith? fault = some answer)
    (honest : ∀ kind name cause, fault.clusterError? kind name = some cause →
      cause.isNotFound = false ∧ cause.isAlreadyExists = false) : request.FailsHonestly answer := by
  refine ⟨failsWith_of_failWith? failed, ?_⟩
  intro told failure
  -- The driver's failures are none of the cluster's.
  cases request with
  | readClock => cases failed
  | createDriverGroup | deleteDriverGroup | modifyMembership =>
    obtain ⟨cause, _, rfl⟩ := Option.map_eq_some_iff.mp failed
    cases failure
  | _ =>
    obtain ⟨cause, laid, rfl⟩ := Option.map_eq_some_iff.mp failed
    cases failure
    exact honest _ _ _ laid

/-- The program makes no further call. -/
def Program.isDone {α : Type} : Program α → Bool
  | .done _ => true
  | .call .. => false

namespace Rehearsal

/-- Nothing is edited in the course of a rehearsal, and calls fail as the conditions allow. -/
def Fits (conditions : Conditions) (disturbances : List (Disturbance Edit)) : Prop :=
  ∀ disturbance ∈ disturbances, disturbance.edits = [] ∧
    ∀ fault, disturbance.fault = some fault → ∀ (request : Call) (answer : request.Answer),
      request.failWith? fault = some answer → conditions.fails request answer

/-- Where nothing is disturbed, all is as conditions allow. -/
theorem Fits.nil (conditions : Conditions) : Fits conditions [] := by
  simp [Fits]

/-- What a call meets and what is left of the disturbances edits nothing either. -/
theorem Fits.meet {conditions : Conditions} {disturbances : List (Disturbance Edit)}
    (fits : Fits conditions disturbances) (method : Method) :
    Fits conditions (meet method disturbances).1.toList ∧
      Fits conditions (meet method disturbances).2 := by
  -- The induction follows the search for a disturbance of the method.
  -- The search goes from one disturbance to the next until one is of the method.
  induction disturbances with
  | nil => exact ⟨.nil conditions, .nil conditions⟩
  | cons disturbance rest ih =>
    have own := fits disturbance (List.mem_cons_self ..)
    have others : Fits conditions rest := fun other known =>
      fits other (List.mem_cons_of_mem _ known)
    have single : Fits conditions [disturbance] := by
      intro other known
      exact List.mem_singleton.mp known ▸ own
    -- Whatever is counted down in a disturbance, it edits as little and fails in the same ways.
    have counted (skip : Nat) (times : Option Nat) :
        Fits conditions ({ disturbance with skip, times } :: rest) := by
      intro other known
      rcases List.mem_cons.mp known with rfl | known
      · exact own
      · exact others other known
    simp only [Rehearsal.meet]
    split
    -- A disturbance of another method is passed by and stays in its place.
    · refine ⟨(ih others).1, ?_⟩
      intro other known
      rcases List.mem_cons.mp known with rfl | known
      · exact own
      · exact (ih others).2 other known
    · split
      -- One that is still to be skipped is counted down and meets nothing.
      · exact ⟨.nil conditions, counted _ _⟩
      · split
        · exact ⟨single, fits⟩
        · split
          · exact ⟨single, others⟩
          · exact ⟨single, counted _ _⟩

/-- Carrying a call out leaves the disturbances and the calls so far alone. -/
theorem serve_frame (rehearsal : Rehearsal) (request : Call) :
    (rehearsal.serve request).2.disturbances = rehearsal.disturbances ∧
      (rehearsal.serve request).2.exchanges = rehearsal.exchanges := by
  cases request <;> exact ⟨rfl, rfl⟩

/-- The calls of a log that change something or tell somebody something. -/
def effects (log : List Exchange) : List Exchange :=
  log.filter fun exchange => exchange.request.method.isEffect

/-- A rehearsal without edits answers a call as conditions allow, and keeps what has an effect. -/
theorem respond_answers {conditions : Conditions} {rehearsal : Rehearsal}
    (fits : Fits conditions rehearsal.disturbances) (request : Call) {log : List Exchange}
    (kept : effects log = rehearsal.exchanges) :
    conditions.Answers ⟨rehearsal.store, log⟩ request (rehearsal.respond request).1
      ⟨(rehearsal.respond request).2.store, ⟨request, (rehearsal.respond request).1⟩ :: log⟩ ∧
      Fits conditions (rehearsal.respond request).2.disturbances ∧
      effects (⟨request, (rehearsal.respond request).1⟩ :: log) =
        (rehearsal.respond request).2.exchanges := by
  -- Both what is met and what is left are as little disturbing as all of them together.
  obtain ⟨metFits, restFits⟩ := fits.meet request.method
  obtain ⟨store, handle, attributes, disturbances, exchanges⟩ := rehearsal
  simp only [respond]
  generalize Rehearsal.meet request.method disturbances = meeting at metFits restFits
  obtain ⟨met, left⟩ := meeting
  -- What is met edits nothing, so the call finds the store as it was.
  have edits : (met.map Disturbance.edits).getD [] = [] := by
    cases met with
    | none => rfl
    | some disturbance => exact (metFits disturbance (by simp)).1
  simp only [edits, List.foldl_nil, effects, List.filter_cons]
  -- The call fails if what is met has a fault that it can fail with, and is carried out if not.
  cases failing : (met.bind Disturbance.fault).bind request.failWith? with
  | some answer =>
    obtain ⟨fault, laid, failed⟩ := Option.bind_eq_some_iff.mp failing
    obtain ⟨disturbance, rfl, same⟩ := Option.bind_eq_some_iff.mp laid
    have fails := (metFits disturbance (by simp)).2 fault same request answer failed
    -- Whether the call is kept in the log of effects depends on its method alone.
    cases request.method.isEffect with
    | true => exact ⟨⟨rfl, .inr ⟨fails, rfl⟩⟩, restFits, congrArg (List.cons _) kept⟩
    | false => exact ⟨⟨rfl, .inr ⟨fails, rfl⟩⟩, restFits, kept⟩
  | none =>
    -- With nothing in its way, the store, the driver or the clock carries the call out.
    have serves := serve_serves ⟨store, handle, attributes, left, exchanges⟩ request
    obtain ⟨same, told⟩ := serve_frame ⟨store, handle, attributes, left, exchanges⟩ request
    have fitsAfter := (congrArg (Fits conditions) same).mpr restFits
    cases request.method.isEffect with
    | true => exact ⟨⟨rfl, .inl serves⟩, fitsAfter, congrArg (List.cons _) (kept.trans told.symm)⟩
    | false => exact ⟨⟨rfl, .inl serves⟩, fitsAfter, kept.trans told.symm⟩

/-- A rehearsal without edits plays a program to its end, and keeps what had an effect. -/
theorem plays_of_run {α : Type} {conditions : Conditions} {rehearsal : Rehearsal}
    (fits : Fits conditions rehearsal.disturbances) (program : Program α) {log : List Exchange}
    (kept : effects log = rehearsal.exchanges) :
    ∃ full, program.Plays conditions (program.run respond rehearsal).1
        ⟨(program.run respond rehearsal).2.store, full⟩ ⟨rehearsal.store, log⟩ ∧
      Fits conditions (program.run respond rehearsal).2.disturbances ∧
      effects full = (program.run respond rehearsal).2.exchanges := by
  -- Each answer of the rehearsal is one that the conditions allow.
  induction program generalizing rehearsal log with
  | done value => exact ⟨log, ⟨rfl, rfl⟩, fits, kept⟩
  | call request next ih =>
    obtain ⟨answers, fitsAfter, keptAfter⟩ := respond_answers fits request kept
    obtain ⟨full, plays, rest⟩ := ih _ fitsAfter keptAfter
    exact ⟨full, ⟨_, _, _, conditions.waits_refl _, answers, plays⟩, rest⟩

/-- The rehearsal after a pass over a group. -/
def pass (rehearsal : Rehearsal) (driver : String) (seen : Group) : Rehearsal :=
  ((seen.reconcile driver).run.run respond rehearsal).2

/-- A pass that is rehearsed without edits belongs to a run. -/
theorem reaches_pass (conditions : Conditions) {start : Moment} {log : List Exchange}
    (rehearsal : Rehearsal) (seen : Group)
    (run : conditions.Reaches start ⟨⟨rehearsal.store, log⟩, none⟩)
    (visited : conditions.visits seen) (fits : Fits conditions rehearsal.disturbances)
    (kept : effects log = rehearsal.exchanges) :
    ∃ full, conditions.Reaches start
        ⟨⟨(rehearsal.pass conditions.driver seen).store, full⟩, none⟩ ∧
      Fits conditions (rehearsal.pass conditions.driver seen).disturbances ∧
      effects full = (rehearsal.pass conditions.driver seen).exchanges := by
  -- The rehearsal plays the whole pass, and a play is a stretch of a run between its start and its
  -- stop.
  obtain ⟨full, plays, rest⟩ := plays_of_run fits (seen.reconcile conditions.driver).run kept
  exact ⟨full, ((run.tail (.start seen visited)).trans (Conditions.reaches_of_plays plays)).tail .stop,
    rest⟩

/-- What is left of a program after some of its calls, and the rehearsal at that moment. -/
def play {α : Type} (rehearsal : Rehearsal) : Nat → Program α → Program α × Rehearsal
  | 0, program => (program, rehearsal)
  | _, .done value => (.done value, rehearsal)
  | count + 1, .call request next =>
    ((rehearsal.respond request).2).play count (next (rehearsal.respond request).1)

/-- A pass that is rehearsed for some calls belongs to a run. -/
theorem reaches_play {conditions : Conditions} {start : Moment} {log : List Exchange}
    (count : Nat) (rehearsal : Rehearsal) (pass : Program (Except PassError Action))
    (run : conditions.Reaches start ⟨⟨rehearsal.store, log⟩, some pass⟩)
    (fits : Fits conditions rehearsal.disturbances) (kept : effects log = rehearsal.exchanges) :
    ∃ full, conditions.Reaches start
        ⟨⟨(rehearsal.play count pass).2.store, full⟩, some (rehearsal.play count pass).1⟩ ∧
      Fits conditions (rehearsal.play count pass).2.disturbances ∧
      effects full = (rehearsal.play count pass).2.exchanges := by
  -- The induction goes along the calls that are counted.
  induction count generalizing rehearsal log pass with
  | zero => exact ⟨log, run, fits, kept⟩
  | succ count ih =>
    cases pass with
    -- A pass that is over stays over, however many calls are counted.
    | done value => exact ⟨log, run, fits, kept⟩
    | call request next =>
      -- The answer that the rehearsal gives is one that the conditions allow.
      obtain ⟨answers, fitsAfter, keptAfter⟩ := respond_answers fits request kept
      exact ih _ _ (run.tail (.call answers)) fitsAfter keptAfter

/-- One call more is answered where the rehearsal stood before it. -/
theorem play_succ {α : Type} {rehearsal : Rehearsal} {program : Program α} {count : Nat}
    {request : Call} {next : request.Answer → Program α}
    (left : (rehearsal.play count program).1 = .call request next) :
    (rehearsal.play (count + 1) program).2 =
      ((rehearsal.play count program).2.respond request).2 := by
  -- The induction goes along the calls before that one.
  induction count generalizing rehearsal program with
  | zero =>
    obtain rfl : program = .call request next := left
    rfl
  | succ count ih =>
    cases program with
    | done value => cases left
    | call first rest => exact ih left

/-- A call that a rehearsed pass makes after some others belongs to a run. -/
theorem reaches_call (conditions : Conditions) {start : Moment} {log : List Exchange} (count : Nat)
    (rehearsal : Rehearsal) (seen : Group)
    (run : conditions.Reaches start ⟨⟨rehearsal.store, log⟩, none⟩)
    (visited : conditions.visits seen) (fits : Fits conditions rehearsal.disturbances)
    (kept : effects log = rehearsal.exchanges)
    (going : (rehearsal.play count (seen.reconcile conditions.driver).run).1.isDone = false) :
    ∃ (now after : Scene) (request : Call)
      (next : request.Answer → Program (Except PassError Action)) (answer : request.Answer),
      conditions.Reaches start ⟨now, some (.call request next)⟩ ∧
        conditions.Answers now request answer after ∧
        now.store = (rehearsal.play count (seen.reconcile conditions.driver).run).2.store ∧
        after.store = (rehearsal.play (count + 1) (seen.reconcile conditions.driver).run).2.store ∧
        effects now.exchanges =
          (rehearsal.play count (seen.reconcile conditions.driver).run).2.exchanges := by
  -- The calls before are played first.
  obtain ⟨full, reaches, fitsNow, keptNow⟩ :=
    reaches_play count rehearsal _ (run.tail (.start seen visited)) fits kept
  cases left : (rehearsal.play count (seen.reconcile conditions.driver).run).1 with
  | done value => simp [left, Program.isDone] at going
  | call request next =>
    rw [left] at reaches
    -- The one more call is answered as the rehearsal answers it.
    obtain ⟨answers, _⟩ := respond_answers fitsNow request keptNow
    exact ⟨_, _, request, next, _, reaches, answers, rfl,
      congrArg Rehearsal.store (play_succ left).symm, keptNow⟩

/-- A pass that is rehearsed to a success without edits and faults is a round. -/
theorem round_pass (driver : String) (rehearsal : Rehearsal) (seen : Group) (log : List Exchange)
    (fits : Fits (.undisturbed driver) rehearsal.disturbances)
    (kept : effects log = rehearsal.exchanges)
    (succeeds : ((seen.reconcile driver).run.run respond rehearsal).1.isOk = true) :
    ∃ full, Round driver [seen] ⟨rehearsal.store, log⟩ ⟨(rehearsal.pass driver seen).store, full⟩ ∧
      Fits (.undisturbed driver) (rehearsal.pass driver seen).disturbances ∧
      effects full = (rehearsal.pass driver seen).exchanges := by
  -- A play that ends in a success is the one pass of a round.
  obtain ⟨full, plays, rest⟩ := plays_of_run fits (seen.reconcile driver).run kept
  cases result : ((seen.reconcile driver).run.run respond rehearsal).1 with
  | error error => simp [result, Except.isOk, Except.toBool] at succeeds
  | ok action => exact ⟨full, .pass (result ▸ plays) .done, rest⟩

end Rehearsal

namespace Sample

/-- The class of the operator's driver. -/
def groupClass : GroupClass where
  metadata := { name := some "class" }
  spec := { driver := "driver" }

/-- A volume that a driver serves. -/
def volume : Volume where
  metadata := { name := some "volume" }
  spec := some { driverSource := some { driver := "driver", volumeHandle := "disk" } }

/-- A claim that is bound to the volume and carries the default label of the group. -/
def claim : Claim where
  metadata :=
    { name := some "claim", «namespace» := some "space",
      labels := some (KeyMap.singleton defaultSelectorLabel "group") }
  spec := some { volumeName := some "volume" }

/-- A group with the default selector. -/
def group : Group where
  metadata := { name := some "group", «namespace» := some "space", uid := some "uid" }
  spec := { className := some "class" }

/-- The cluster before anybody made a claim or a group. -/
def cluster : Store := (((({} : Store).save groupClass).2).save volume).2

/-- The cluster with the claim and the group. -/
def stocked : Store := (UserAction.createGroup group).on ((UserAction.createClaim claim).on cluster)

/-- The cluster is in order when the claim and the group have been made. -/
theorem regular_stocked : stocked.Regular := by
  have empty : cluster.Regular := .of_empty rfl rfl
  have claimed : (UserAction.createClaim claim).IsProper := rfl
  have grouped : (UserAction.createGroup group).IsProper := ⟨rfl, rfl⟩
  exact (grouped.spares (claimed.spares empty).regular).regular

/-- A run in which users make the claim and the group. -/
theorem reaches_stocked {conditions : Conditions}
    (allowed : ∀ {store : Store} {action : UserAction}, action.IsProper →
      conditions.between store (action.on store)) :
    conditions.Reaches ⟨⟨cluster, []⟩, none⟩ ⟨⟨stocked, []⟩, none⟩ :=
  (Relation.ReflTransGen.single
    (.idle (allowed (show (UserAction.createClaim claim).IsProper from rfl)))).tail
    (.idle (allowed (show (UserAction.createGroup group).IsProper from ⟨rfl, rfl⟩)))

end Sample

end VolumeGroups
