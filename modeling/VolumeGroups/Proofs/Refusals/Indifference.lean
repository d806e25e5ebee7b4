import VolumeGroups.Proofs.Recovery.Repetition
import VolumeGroups.Proofs.Refusals.Conclusion

/-! Claims that a group may not take are the business of nobody else: a pass over the group goes as if they
were not there, and tells of them at its end. -/

namespace VolumeGroups

namespace MembershipPlan

/-- There is a message if there are refusals, and it is made of all their messages. -/
theorem rejectionMessage_eq (plan : MembershipPlan) :
    plan.rejectionMessage = if plan.rejected = [] then none
      else some ("; ".intercalate (plan.rejected.map fun entry => entry.2.message)) := by
  simp only [rejectionMessage, List.isEmpty_iff]

/-- A plan without refusals ends a pass with success, and any other one with all messages. -/
theorem verdict_eq (plan : MembershipPlan) :
    plan.verdict = if plan.rejected = [] then .ok .awaitChange
      else .error (.claimsRejected ("; ".intercalate (plan.rejected.map fun entry => entry.2.message))) := by
  rw [verdict, rejectionMessage_eq]
  by_cases none : plan.rejected = [] <;> simp [none]

end MembershipPlan

/-- Claims that a group may not take do not disturb a pass over it in which no call fails. It goes to the
driver and writes claims by the same calls as it would without them, none of which writes them, and it
leaves everything the same but for versions, moments and the error on the group. It fails for other
reasons where it would without them; else its only trouble is that they are refused, which the error on the
group tells, in the order of the claims' names. -/
theorem undisturbed_by_refusals {driver space : String} {store : Store} {group seen : Group}
    {plan : MembershipPlan} (intends : store.Intends group space plan)
    (live : group.isTerminating = false) (managed : store.Manages driver group)
    (sights : group.Sights seen) (make : String → KeyMap String → KeyMap String → CreatedGroup)
    (clock later : Time) :
    let pass := (seen.reconcile driver).run
    let without := store.withoutClaims plan.refusedKeys
    let labours := pass.labours (Store.serving make clock) store
    let (result, after) := pass.run (Store.serving make clock) store
    let (reply, there) := pass.run (Store.serving make later) without
    let message := "; ".intercalate (plan.rejected.map fun entry => entry.2.message)
    labours = pass.labours (Store.serving make later) without ∧
      (∀ request ∈ labours, request.Shuns plan.refusedKeys) ∧
      store.Resembles plan.refusedKeys (Resource.key group) after there ∧
      ((∃ error, ¬ error.IsRefusal ∧ result = .error error ∧ reply = .error error) ∨
        reply = .ok .awaitChange ∧
          result = (if plan.rejected = [] then .ok .awaitChange else .error (.claimsRejected message)) ∧
          ∃ (own : Group) (status : GroupStatus), after.find? (Resource.key group) = some own ∧
            own.status = some status ∧
            status.error = if plan.rejected = [] then none else some { message := some message }) ∧
      plan.rejected.Pairwise fun left right =>
        Resource.displayName left.1 < Resource.displayName right.1 := by
  extract_lets pass without labours message
  -- Both runs are taken side by side, up to the plan and then on with it.
  have ended : Attempt.Alongside make clock later plan.refusedKeys
      (store.Outcome plan (Resource.key group)) (seen.reconcile driver) store (seen.reconcile driver)
      without := by
    refine Attempt.alongside_reconcile intends live managed sights ?_ ?_
    · -- A failure before the plan is no refusal.
      exact fun error after there other sameRest =>
        ⟨sameRest.resembles _, .inl ⟨error, other, rfl, rfl⟩⟩
    · -- The plan is enacted with the refusals on one side and without them on the other.
      intro own groupClass parameters secrets after there intended bothHold place
      exact place ▸ Attempt.alongside_enact _ groupClass parameters secrets intended bothHold
  obtain ⟨resembles, ends⟩ := ended.ends
  -- The outcome is spelt out as the statement has it.
  rw [plan.verdict_eq, plan.rejectionMessage_eq] at ends
  simp only [apply_ite (Option.map _), Option.map_none, Option.map_some] at ends
  exact ⟨ended.same, ended.proper, resembles, ends, intends.rejected_ordered⟩

namespace Sample

/-- A driver that makes groups with handles from their names. -/
def naming (name : String) (_ _ : KeyMap String) : CreatedGroup := { handle := "handle-" ++ name }

/-- What the other group plans for the claim that it may not take. -/
def refusing : MembershipPlan :=
  (contested.learns (wanting.plan (contested.list "space"))).toOption.getD {}

end Sample

/-- A group that may not take the claim it selects ends its pass with the refusal, where it would succeed
without that claim, and the driver sees no difference. -/
theorem undisturbed_by_contested :
    Sample.contested.Intends Sample.wanting "space" Sample.refusing ∧
      Sample.wanting.isTerminating = false ∧ Sample.contested.Manages "driver" Sample.wanting ∧
      Sample.wanting.Sights Sample.rival ∧
      let pass := (Sample.rival.reconcile "driver").run
      let without := Sample.contested.withoutClaims Sample.refusing.refusedKeys
      let respond := Store.serving Sample.naming Store.now
      pass.labours respond Sample.contested = pass.labours respond without ∧
        (pass.run respond without).1 = .ok .awaitChange ∧
        ∃ message, (pass.run respond Sample.contested).1 = .error (.claimsRejected message) := by
  -- The hypotheses hold of the sample.
  have tidy : Sample.contested.Tidy :=
    .of_entries (by decide +kernel) (by decide +kernel) (by decide +kernel)
  have intends : Sample.contested.Intends Sample.wanting "space" Sample.refusing :=
    ⟨tidy, by decide +kernel, by decide +kernel, ok_of_mem_toOption (by decide +kernel)⟩
  have live : Sample.wanting.isTerminating = false := by decide +kernel
  obtain ⟨_, _, _, provides⟩ : Sample.contested.Equips "driver" Sample.wanting :=
    Sample.equips (by decide +kernel) (by decide +kernel)
  have sights : Sample.wanting.Sights Sample.rival := by
    constructor <;> decide +kernel
  obtain ⟨same, -, -, ends, -⟩ := undisturbed_by_refusals intends live provides.manages sights
    Sample.naming Store.now Store.now
  refine ⟨intends, live, provides.manages, sights, same, ?_⟩
  -- Which message it is follows from the run.
  obtain ⟨message, told⟩ := Option.isSome_iff_exists.mp
    (by decide +kernel : (Sample.refusalIn? ((Sample.rival.reconcile "driver").run.run
      (Store.serving Sample.naming Store.now) Sample.contested).1).isSome = true)
  have refuses := Sample.eq_of_refusalIn? told
  rcases ends with ⟨error, other, failed, -⟩ | ⟨succeeded, -⟩
  · -- A failure that is no refusal is not the one of this run.
    obtain rfl := Except.error.inj (refuses.symm.trans failed)
    exact absurd trivial other
  · exact ⟨succeeded, message, refuses⟩

end VolumeGroups
