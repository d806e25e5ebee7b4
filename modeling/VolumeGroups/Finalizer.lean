import VolumeGroups.Program

/-! Marks that keep an object from being removed while something is still owed to it. -/

namespace VolumeGroups

/-- The mark on a group whose content and members still have to be released. -/
def groupFinalizer : String := "volumegroup.storage.ibm.io"

/-- The mark on a content whose group the driver may still hold. -/
def contentFinalizer : String := reservedStem ++ "vgc-protection"

/-- The mark on a claim that belongs to a group. -/
def claimFinalizer : String := reservedStem ++ "pvc-protection"

namespace Metadata

/-- The object carries a mark. -/
def hasFinalizer (metadata : Metadata) (finalizer : String) : Bool :=
  (metadata.finalizers.getD []).contains finalizer

/-- The object with a mark added after the others, unless it carries it already. -/
def addFinalizer? (metadata : Metadata) (finalizer : String) : Option Metadata :=
  if metadata.hasFinalizer finalizer then none
  else some { metadata with finalizers := some (metadata.finalizers.getD [] ++ [finalizer]) }

/-- The object without a mark, unless it does not carry it. -/
def removeFinalizer? (metadata : Metadata) (finalizer : String) : Option Metadata :=
  -- The emptied list stays, since an object without any list is another object.
  if metadata.hasFinalizer finalizer then
    some { metadata with finalizers := metadata.finalizers.map (·.filter (· != finalizer)) }
  else none

end Metadata

/-- Mark a group, and give the stored one. -/
def Group.protect (group : Group) : Attempt ClusterError Group :=
  match group.metadata.addFinalizer? groupFinalizer with
  | none => return group
  | some metadata => .of (.ask (.replaceGroup { group with metadata }))

/-- Take the mark off a group. -/
def Group.release (group : Group) : Attempt ClusterError Unit :=
  -- Without the mark there is nothing to write, so a pass that runs again leaves the group alone.
  match group.metadata.removeFinalizer? groupFinalizer with
  | none => return ()
  | some metadata => do
    let _ ← Attempt.of (.ask (.replaceGroup { group with metadata }))
    return ()

/-- Take the mark off a content. -/
def Content.release (content : Content) : Attempt ClusterError Unit :=
  match content.metadata.removeFinalizer? contentFinalizer with
  | none => return ()
  | some metadata => do
    let _ ← Attempt.of (.ask (.replaceContent { content with metadata }))
    return ()

/-- Mark a claim by a write that fails if the claim changed since it was read. -/
def Claim.protect (claim : Claim) : Attempt ClusterError Unit :=
  match claim.metadata.addFinalizer? claimFinalizer with
  | none => return ()
  | some metadata => do
    let _ ← Attempt.of (.ask (.replaceClaim { claim with metadata }))
    return ()

/-- Take the mark off a claim, unless another group lists the claim. -/
def Claim.release (claim : Claim) (others : List Group) : Attempt ClusterError Unit :=
  -- A claim that moved on belongs to the group that lists it now, and its mark with it.
  if others.any fun group => group.lists claim then return ()
  else
    match claim.metadata.removeFinalizer? claimFinalizer with
    | none => return ()
    | some metadata => do
      let _ ← Attempt.of (.ask (.replaceClaim { claim with metadata }))
      return ()

end VolumeGroups
