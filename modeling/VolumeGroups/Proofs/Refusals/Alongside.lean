import VolumeGroups.Proofs.Operator.Paired
import VolumeGroups.Proofs.Recovery.Passes
import VolumeGroups.Proofs.Refusals.Removal
import VolumeGroups.Proofs.Solo.Failing
import VolumeGroups.Proofs.Solo.Syncing

/-! A pass alongside the same pass over a store from which some claims are removed, where every call is
carried out: as long as neither the claims are counted nor the clock is read, both make the same calls and
get the same answers. -/

namespace VolumeGroups

/-- Every call is carried out: by the store, by a driver that makes groups in some way, and by a clock
that shows some moment. -/
def Store.serving (make : String → KeyMap String → KeyMap String → CreatedGroup) (clock : Time)
    (store : Store) : (request : Call) → request.Answer × Store
  | .createDriverGroup name secrets parameters => (.ok (make name secrets parameters), store)
  | .readClock => (clock, store)
  | request =>
    let (answer, after) := Rehearsal.serve { store } request
    (answer, after.store)

section Serving

variable {make : String → KeyMap String → KeyMap String → CreatedGroup} {clock : Time} {store : Store}

/-- A call that is carried out is answered as a store and a driver do. -/
theorem Store.serving_serves (request : Call) :
    store.Serves request (serving make clock store request).1 (serving make clock store request).2 := by
  cases request with
  | createDriverGroup => exact ⟨⟨_, rfl⟩, rfl⟩
  | readClock => rfl
  | _ => exact Rehearsal.serve_serves { store } _

/-- A program all of whose calls are carried out is played without disturbance. -/
theorem Program.plays_serving {α : Type} (driver : String) (program : Program α)
    (log : List Exchange) :
    program.Plays (.undisturbed driver) (program.run (Store.serving make clock) store).1
      ⟨(program.run (Store.serving make clock) store).2,
        program.journal (Store.serving make clock) store ++ log⟩ ⟨store, log⟩ := by
  -- The induction goes along the calls, in front of each of which nothing happens.
  induction program generalizing store log with
  | done value => exact ⟨rfl, rfl⟩
  | call request next ih =>
    refine ⟨⟨store, log⟩, (Store.serving make clock store request).1,
      ⟨(Store.serving make clock store request).2, _ :: log⟩, Conditions.waits_refl _ _,
      ⟨rfl, .inl (Store.serving_serves request)⟩, ?_⟩
    rw [journal_call, List.append_assoc]
    exact ih _ _

end Serving

/-- An attempt all of whose calls are carried out ends as it does without disturbance. -/
theorem Attempt.Ensures.serving {ε α : Type} {driver : String}
    (make : String → KeyMap String → KeyMap String → CreatedGroup) (clock : Time) {store : Store}
    {goal : Except ε α → Scene → Prop} {attempt : Attempt ε α}
    (ensures : attempt.Ensures (.undisturbed driver) goal ⟨store, []⟩) :
    goal (attempt.run.run (Store.serving make clock) store).1
      ⟨(attempt.run.run (Store.serving make clock) store).2,
        attempt.run.journal (Store.serving make clock) store⟩ := by
  -- The serving store is one of the surroundings that the conditions allow.
  have plays : attempt.run.Plays (.undisturbed driver)
      (attempt.run.run (Store.serving make clock) store).1 ⟨_, _ ++ []⟩ ⟨store, []⟩ :=
    Program.plays_serving driver attempt.run []
  rw [List.append_nil] at plays
  exact plays.goal ensures

/-- A call that neither counts claims nor reads the clock, and writes no claim under some keys. -/
def Call.IsClearOf (gone : List String) : Call → Prop
  | .listClaims _ | .readClock => False
  | .replaceClaim claim => Resource.key claim ∉ gone
  | _ => True

/-- A call that keeps clear of the claims under some keys and of the clock, and writes no group. -/
def Call.IsBelow (gone : List String) : Call → Prop
  | .replaceGroup _ | .replaceGroupStatus _ => False
  | request => request.IsClearOf gone

/-- A call that writes no claim under some keys. -/
def Call.Shuns (gone : List String) (request : Call) : Prop :=
  ∀ claim, request = .replaceClaim claim → Resource.key claim ∉ gone

/-- What keeps clear of some claims does not write them. -/
theorem Call.IsClearOf.shuns {gone : List String} {request : Call} (clear : request.IsClearOf gone) :
    request.Shuns gone := by
  rintro claim rfl
  exact clear

/-- What writes no group keeps clear of the claims all the same. -/
theorem Call.IsBelow.isClearOf {gone : List String} {request : Call} (below : request.IsBelow gone) :
    request.IsClearOf gone := by
  cases request <;> first | exact below | trivial

/-- A failure is told on a group by calls that keep clear of claims. -/
theorem Group.clear_tell (gone : List String) (group : Group) (reason : Reason) (ready : Option Bool)
    (error : PassError) : (group.tell reason ready error).Asks (Call.IsClearOf gone) fun _ => True :=
  asks_tell_of trivial (fun _ => trivial) reason

namespace Store

/-- Two stores are the same but for claims under some keys, which the second does not have and which are
in the first as they were. -/
structure SameButForClaims (start : Store) (gone : List String) (one other : Store) : Prop where
  rest : other = one.withoutClaims gone
  kept : ∀ key ∈ gone, one.find? key = (start.find? key : Option Claim)

/-- Two such stores hold a live group as a pass has it in hand. -/
structure BothHold (start : Store) (gone : List String) (group : Group) (one other : Store) : Prop
    extends start.SameButForClaims gone one other where
  held : one.find? (Resource.key group) = some group
  live : group.isTerminating = false

variable {start one other : Store} {gone : List String} {clock later : Time}
  {make : String → KeyMap String → KeyMap String → CreatedGroup}

/-- Only a write of a claim changes claims. -/
theorem claims_serving {request : Call} (other : ∀ claim, request ≠ .replaceClaim claim) :
    (serving make clock one request).2.claims = one.claims := by
  -- A write of groups or contents keeps apart from the table of claims.
  cases request with
  | replaceClaim claim => exact absurd rfl (other claim)
  | replaceGroup => exact (Prod.mk.inj (apart_of_groups.replace ..)).1
  | replaceGroupStatus => exact (Prod.mk.inj (apart_of_groups.replaceStatus ..)).1
  | createContent => exact (Prod.mk.inj (Prod.mk.inj (apart_of_contents.create ..)).2).1
  | replaceContent => exact (Prod.mk.inj (Prod.mk.inj (apart_of_contents.replace ..)).2).1
  | replaceContentStatus =>
    exact (Prod.mk.inj (Prod.mk.inj (apart_of_contents.replaceStatus ..)).2).1
  | deleteContent => exact (Prod.mk.inj (Prod.mk.inj (apart_of_contents.delete ..)).2).1
  | _ => rfl

/-- A call is carried out in the same way where everything it reads or writes is spared. -/
theorem serving_of_sparedBy {change : Store → Store} {request : Call}
    (spared : request.SparedBy change) (timeless : request ≠ .readClock) :
    serving make later (change one) request =
      ((serving make clock one request).1, change (serving make clock one request).2) := by
  -- A spared call is answered alike, whatever the moment is.
  obtain ⟨answer, after⟩ := Rehearsal.serve_of_sparedBy spared one
  cases request with
  | createDriverGroup => rfl
  | readClock => exact absurd rfl timeless
  | _ => exact Prod.ext answer after

/-- A claim that stays is written in the same way. -/
theorem serving_replaceClaim {claim : Claim} (stays : Resource.key claim ∉ gone) :
    serving make later (one.withoutClaims gone) (.replaceClaim claim) =
      ((serving make clock one (.replaceClaim claim)).1,
        (serving make clock one (.replaceClaim claim)).2.withoutClaims gone) :=
  one.replace_withoutClaims stays

/-- A write of one claim leaves all others alone. -/
theorem find?_replaceClaim {claim : Claim} {key : String} (apart : key ≠ Resource.key claim) :
    (serving make clock one (.replaceClaim claim)).2.find? key = (one.find? key : Option Claim) := by
  show (one.replace claim).2.find? key = one.find? key
  rcases replace_cases one claim with ⟨error, failed⟩ | ⟨stored, -, -, done⟩
  · rw [failed]
  · rw [done]
    exact (find?_overwrite ..).trans (if_neg apart)

/-- A call that keeps clear of the claims gets the same answer in both stores, which stay the same in all
else. -/
theorem SameButForClaims.serving (sameRest : start.SameButForClaims gone one other) (request : Call)
    (clear : request.IsClearOf gone) :
    (serving make clock one request).1 = (serving make later other request).1 ∧
      start.SameButForClaims gone (serving make clock one request).2
        (serving make later other request).2 := by
  obtain ⟨rfl, kept⟩ := sameRest
  have alike : Store.serving make later (one.withoutClaims gone) request =
      ((serving make clock one request).1, (serving make clock one request).2.withoutClaims gone) := by
    -- Claims are written as before where they stay, and every other table is spared by the removal.
    cases request with
    | listClaims | readClock => exact clear.elim
    | replaceClaim claim => exact serving_replaceClaim clear
    | _ =>
      refine serving_of_sparedBy ?_ nofun
      first | trivial | exact ⟨fun _ => rfl, fun _ => rfl, fun _ _ _ => rfl⟩
  obtain ⟨answer, after⟩ := Prod.mk.inj alike
  refine ⟨answer.symm, after, fun key removed => Eq.trans ?_ (kept key removed)⟩
  -- A write of a claim goes to another key, and no other call writes claims at all.
  by_cases written : ∃ claim, request = .replaceClaim claim
  · obtain ⟨claim, rfl⟩ := written
    exact find?_replaceClaim fun same => clear (same ▸ removed)
  · exact find?_of_claims (claims_serving fun claim same => written ⟨claim, same⟩) key

/-- Only a write of a group changes groups. -/
theorem groups_serving {request : Call} (below : request.IsBelow gone) :
    (serving make clock one request).2.groups = one.groups := by
  -- No group is written below the pass, so only other tables can change.
  cases request with
  | replaceGroup | replaceGroupStatus => exact below.elim
  | replaceClaim => exact (Prod.mk.inj (apart_of_claims.replace ..)).1
  | createContent => exact (Prod.mk.inj (apart_of_contents.create ..)).1
  | replaceContent => exact (Prod.mk.inj (apart_of_contents.replace ..)).1
  | replaceContentStatus => exact (Prod.mk.inj (apart_of_contents.replaceStatus ..)).1
  | deleteContent => exact (Prod.mk.inj (apart_of_contents.delete ..)).1
  | _ => rfl

/-- A call that writes no group leaves the group in hand as it is. -/
theorem BothHold.serving {group : Group} {request : Call}
    (bothHold : start.BothHold gone group one other) (below : request.IsBelow gone) :
    (serving make clock one request).1 = (serving make later other request).1 ∧
      start.BothHold gone group (serving make clock one request).2
        (serving make later other request).2 := by
  -- The answer is the same, and what was written is no group.
  obtain ⟨answer, sameRest⟩ := bothHold.toSameButForClaims.serving request below.isClearOf
  exact ⟨answer, sameRest, (find?_of_groups (groups_serving below) _).trans bothHold.held,
    bothHold.live⟩

end Store

namespace Attempt

variable {start one other : Store} {gone : List String} {clock later : Time}
  {make : String → KeyMap String → KeyMap String → CreatedGroup} {ε ε' α β : Type}

/-- Two attempts run side by side in two stores that carry out every call, and write no claim under some
keys. -/
abbrev Alongside (make : String → KeyMap String → KeyMap String → CreatedGroup) (clock later : Time)
    (gone : List String) (goal : Except ε α → Store → Except ε' β → Store → Prop)
    (attempt : Attempt ε α) (one : Store) (query : Attempt ε' β) (other : Store) : Prop :=
  Pairs (Store.serving make clock) (Store.serving make later) (Call.Shuns gone) goal attempt one query
    other

/-- An attempt that writes no group leaves the one in hand as it is. -/
theorem Asks.holding {gives : α → Prop} {attempt : Attempt ε α} {group : Group}
    (asks : attempt.Asks (Call.IsBelow gone) gives)
    (bothHold : start.BothHold gone group one other) : Alongside make clock later gone
      (Agree (fun value after result there =>
        result = value ∧ gives value ∧ start.BothHold gone group after there)
        (start.BothHold gone group))
      attempt one attempt other :=
  -- No call of the attempt touches a claim that is gone.
  asks.pairs (fun _ below _ => below.isClearOf.shuns)
    (fun _ below bothHold => bothHold.serving below) bothHold

/-- After two attempts others go on, and a failure is one that the first attempt may end with. -/
theorem Alongside.bindBlaming {γ δ : Type} {blames : ε → Prop} {success : α → Store → β → Store → Prop}
    {failure : Store → Store → Prop} {final : Except ε γ → Store → Except ε δ → Store → Prop}
    {attempt : Attempt ε α} {query : Attempt ε β} {next : α → Attempt ε γ} {rest : β → Attempt ε δ}
    (first : Alongside make clock later gone (Agree success failure) attempt one query other)
    (fails : attempt.Fails blames)
    (failed : ∀ error after there, blames error → failure after there →
      final (.error error) after (.error error) there)
    (second : ∀ value after result there, success value after result there →
      Alongside make clock later gone final (next value) after (rest result) there) :
    Alongside make clock later gone final (attempt >>= next) one (query >>= rest) other := by
  have blamed : ∀ error, (attempt.run.run (Store.serving make clock) one).1 = .error error →
      blames error := Program.Asks.gives_run fails one
  -- What the first attempt may end with holds of this run as of any other.
  have both : Program.Pairs _ _ _ (fun outcome after reply there =>
      Agree success failure outcome after reply there ∧
        ∀ error, outcome = .error error → blames error) attempt.run one query.run other :=
    ⟨first.same, first.proper, first.ends, blamed⟩
  refine Program.Pairs.bind both ?_
  rintro _ after _ there ⟨agree, blamed⟩
  cases agree with
  -- The first attempt went well, so the second goes on.
  | ok reached => exact second _ _ _ _ reached
  -- The failure is one that the first attempt may end with.
  | error reached => exact .done (failed _ _ _ (blamed _ rfl) reached)

/-- A failure is told on a group in both stores. -/
theorem Alongside.tellingOn {success : α → Store → β → Store → Prop} {failure : Store → Store → Prop}
    {group : Group} {reason : Reason} {ready : Option Bool} {attempt : Attempt PassError α}
    {query : Attempt PassError β}
    (alongside : Alongside make clock later gone (Agree success failure) attempt one query other)
    (sameRest : ∀ after there, failure after there → start.SameButForClaims gone after there) :
    Alongside make clock later gone (Agree success (start.SameButForClaims gone))
      (attempt.tellingOn group reason ready) one (query.tellingOn group reason ready) other := by
  refine Pairs.tellingOn alongside fun error after there failed => ?_
  -- The telling writes no claim, so it goes call by call in both stores.
  have tells : Program.Pairs (Store.serving make clock) (Store.serving make later) (Call.Shuns gone)
      _ _ after _ there :=
    (group.clear_tell gone reason ready error).pairs (fun _ clear _ => clear.shuns)
      (fun request clear sameRest => sameRest.serving request clear) (sameRest after there failed)
  exact tells.mono fun _ _ _ _ ended => ended.2.2

/-- What is only read is learnt from both stores, which stay as they are. -/
theorem Reads.alongside {blames : ε → Prop} {blamesOther : ε' → Prop} {driver : String}
    {attempt : Attempt ε α} {query : Attempt ε' β}
    {goal : Except ε α → Store → Except ε' β → Store → Prop}
    (reads : Reads (.undisturbed driver) blames attempt)
    (readsOther : Reads (.undisturbed driver) blamesOther query)
    (ended : goal (one.learns attempt) one (other.learns query) other) :
    Alongside make clock later gone goal attempt one query other := by
  -- A look is nothing that either run counts.
  have single {ε α : Type} {blames : ε → Prop} {attempt : Attempt ε α} {clock : Time} (store : Store)
      (reads : Reads (.undisturbed driver) blames attempt) :
      attempt.run.labours (Store.serving make clock) store = [] ∧
        attempt.run.run (Store.serving make clock) store = (store.learns attempt, store) := by
    -- The attempt is read where nothing fails, and there the store tells it all.
    obtain ⟨same, ⟨made, log, looks⟩, learnt | ⟨letsFail, _⟩⟩ :=
      Ensures.serving make clock (reads ⟨store, []⟩)
    · -- The log holds looks only.
      refine ⟨?_, Prod.ext learnt same⟩
      rw [List.append_nil] at log
      replace log : attempt.run.journal (Store.serving make clock) store = made := log
      rw [Program.labours, log, List.filter_eq_nil_iff]
      intro request known
      obtain ⟨exchange, logged, rfl⟩ := List.mem_map.mp known
      have look := looks exchange logged
      cases request : exchange.request <;> simp_all [Call.isLabour, Call.IsLook]
    · -- No call fails where nothing disturbs.
      exact absurd letsFail (Conditions.undisturbed_not_letsCallsFail driver)
  obtain ⟨none, run⟩ := single one reads
  obtain ⟨noneOther, runOther⟩ := single other readsOther
  refine Program.Pairs.of_idle none noneOther ?_
  rw [run, runOther]
  exact ended

/-- What both stores tell is learnt from both. -/
theorem Reads.learnt {blames : ε → Prop} {driver : String} {attempt : Attempt ε α} {value result : α}
    (reads : Reads (.undisturbed driver) blames attempt) (told : one.learns attempt = .ok value)
    (toldOther : other.learns attempt = .ok result) :
    Alongside make clock later gone
      (Agree (fun known after answer there => value = known ∧ result = answer ∧ one = after ∧
        other = there) fun _ _ => False) attempt one attempt other := by
  refine reads.alongside reads ?_
  rw [told, toldOther]
  exact .ok ⟨rfl, rfl, rfl, rfl⟩

end Attempt

end VolumeGroups
