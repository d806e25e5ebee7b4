import VolumeGroups.Proofs.Reports.Account
import VolumeGroups.Proofs.Solo.Failing

/-! The parts of a pass that fail for a while only, whatever the answers to their calls. -/

namespace VolumeGroups

/-- The cluster fails for a while only. -/
theorem Attempt.Fails.cluster {α : Type} (attempt : Attempt ClusterError α) :
    Fails PassError.IsRetriable (Attempt.within .cluster attempt) :=
  (Fails.any attempt).within fun _ _ => rfl

/-- The driver fails to forget a group for a while only. -/
theorem Group.retriable_deleteAtDriver (group : Group) (handle : String) (secrets : KeyMap String) :
    (group.deleteAtDriver handle secrets).Fails PassError.IsRetriable := by
  refine .tellingOn (.bind .outcome fun answer => ?_)
  split
  · exact .pure
  · split
    · -- A group that the driver does not know counts as deleted.
      exact .pure
    · exact .throw rfl

/-- A terminating group fails to be disbanded for a while only. -/
theorem Group.retriable_disband (group : Group) (space : String) (content : Option Content) :
    (group.disband space content).Fails PassError.IsRetriable := by
  have forgets : group.forgetMembers.Fails PassError.IsRetriable := by
    unfold Group.forgetMembers
    split
    · exact .pure
    · split
      · exact .pure
      · exact .cluster _
  -- Claims are listed, the state is cleared, and then each claim is let go.
  unfold Group.disband
  refine .bind (.cluster _) fun claims => .bind forgets fun later => ?_
  refine .bind (.cluster _) fun groups => .bind (.forM fun claim => .cluster _) fun _ => .pure

/-- A content fails to be deleted where the cluster fails. -/
theorem Content.fails_delete (content : Content) :
    content.delete.Fails fun error => ∃ cause, error = .cluster cause := by
  -- First the mark is taken off, and then the content is deleted.
  refine .bind ((Attempt.Fails.any _).within fun cause _ => ⟨cause, rfl⟩) fun _ => ?_
  refine .bind .outcome fun answer => ?_
  split
  · exact .pure
  · -- A content that is gone already counts as deleted.
    split
    · exact .pure
    · exact .throw ⟨_, rfl⟩

/-- A terminating group fails to go for a while only. -/
theorem Group.retriable_depart (group : Group) (content : Option Content) :
    (group.depart content).Fails PassError.IsRetriable := by
  unfold Group.depart
  -- The mark of the group is taken off whether or not there was a content.
  have releases : Attempt.Fails PassError.IsRetriable (do
      Attempt.within PassError.cluster group.release
      return Action.awaitChange) := .bind (.cluster _) fun _ => .pure
  split
  · refine .bind ((Content.fails_delete _).within ?_) fun _ => releases
    rintro _ ⟨cause, rfl⟩
    rfl
  · exact releases

end VolumeGroups
