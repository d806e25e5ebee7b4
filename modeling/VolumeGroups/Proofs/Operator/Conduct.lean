import VolumeGroups.Proofs.Handles.Ledger
import VolumeGroups.Proofs.Membership.Plan
import VolumeGroups.Proofs.Operator.Rule

/-! What a pass has read and written by the time of a call, as far as groups, claims and the driver's
members go: the rule that every call of a pass keeps. -/

namespace VolumeGroups

namespace Exchange

/-- The group that a call brought to the pass. -/
def group? : Exchange → Option Group
  | ⟨.getGroup .., .ok group⟩ => some group
  -- What a write returns is newer than what was written, so the pass goes on with it.
  | ⟨.replaceGroup _, .ok group⟩ => some group
  | ⟨.replaceGroupStatus _, .ok group⟩ => some group
  | _ => none

/-- The members that a call recorded in a group. -/
def members? : Exchange → Option (List String)
  | ⟨.replaceGroupStatus later, .ok _⟩ => some later.members
  | _ => none

/-- Whether a call left the claim under a key with its mark, if it wrote that claim. -/
def marks? (key : String) : Exchange → Option Bool
  | ⟨.replaceClaim later, .ok _⟩ => if Resource.key later = key then some later.isMarked else none
  | _ => none

/-- The content that a call found. -/
def content? : Exchange → Option Content
  | ⟨.getContent .., .ok content⟩ => some content
  | _ => none

/-- The name and the namespace of a content that is not there after a call. -/
def removes? : Exchange → Option (String × String)
  | ⟨.deleteContent name space, .ok ()⟩ => some (name, space)
  -- A content that is not there is as good as one that was deleted.
  | ⟨.deleteContent name space, .error cause⟩ =>
    if cause.isNotFound then some (name, space) else none
  | _ => none

/-- Members are recorded by writing the state of a group. -/
theorem members?_eq_some {exchange : Exchange} {names : List String}
    (recorded : exchange.members? = some names) :
    ∃ written stored, exchange = ⟨.replaceGroupStatus written, .ok stored⟩ ∧
      written.members = names := by
  -- Only a write of a state that succeeded has members to tell of.
  obtain ⟨request, answer⟩ := exchange
  cases request with
  | replaceGroupStatus written =>
    cases answer with
    | error cause => cases recorded
    | ok stored => exact ⟨written, stored, rfl, Option.some.inj recorded⟩
  | _ => cases recorded

/-- A claim gets or loses its mark by being written. -/
theorem marks?_eq_some {exchange : Exchange} {key : String} {marked : Bool}
    (marks : exchange.marks? key = some marked) :
    ∃ written stored, exchange = ⟨.replaceClaim written, .ok stored⟩ ∧
      Resource.key written = key ∧ written.isMarked = marked := by
  -- Only a write of a claim that succeeded tells of a mark, and only under the key of that claim.
  obtain ⟨request, answer⟩ := exchange
  cases request with
  | replaceClaim written =>
    cases answer with
    | error cause => cases marks
    | ok stored =>
      simp only [marks?] at marks
      split at marks
      · rename_i here
        exact ⟨written, stored, rfl, here, Option.some.inj marks⟩
      · cases marks
  | _ => cases marks

end Exchange

/-- The group as a pass has it after some calls. -/
def latest? (log : List Exchange) : Option Group := log.findSome? Exchange.group?

/-- The group that a pass began with. -/
def origin? (log : List Exchange) : Option Group := log.getLast?.bind Exchange.group?

/-- A pass that began with a group has made a call. -/
theorem ne_nil_of_origin? {log : List Exchange} {group : Group} (origin : origin? log = some group) :
    log ≠ [] := by
  rintro rfl
  cases origin

/-- The group that a pass began with is the same after further calls. -/
theorem origin?_append {log : List Exchange} (made : List Exchange) (called : log ≠ []) :
    origin? (made ++ log) = origin? log := by
  rw [origin?, origin?, List.getLast?_append, List.getLast?_eq_some_getLast called, Option.some_or]

/-- The group that a pass began with stays the same as the log goes on. -/
theorem Extends.origin? {calls : Call → Prop} {before after : List Exchange} {group : Group}
    (goes : Extends calls before after) (origin : VolumeGroups.origin? before = some group) :
    VolumeGroups.origin? after = some group := by
  -- The first call stays the last of the log, however many calls are put in front.
  obtain ⟨made, rfl, _⟩ := goes
  exact (origin?_append made (ne_nil_of_origin? origin)).trans origin

/-- The members that a pass recorded last. -/
def recorded? (log : List Exchange) : Option (List String) := log.findSome? Exchange.members?

/-- The content that a pass found. -/
def found? (log : List Exchange) : Option Content := log.findSome? Exchange.content?

/-- A pass has neither recorded members nor taken the mark off a claim. -/
structure Unsettled (log : List Exchange) : Prop where
  recorded : recorded? log = none
  held : ∀ exchange ∈ log, ∀ key, exchange.marks? key ≠ some false

/-- A pass over a live group has seen all groups and all claims of its namespace and made a plan of
them, whose members carry their marks. -/
structure Surveyed (group : Group) (space : String) (groups : List Group) (claims : List Claim)
    (plan : MembershipPlan) (log : List Exchange) : Prop where
  -- What was read of the group itself, before anything was counted.
  live : group.isTerminating = false
  inSpace : group.metadata.namespace = some space
  sorts : group.Sorts groups (sortedByName claims) plan
  /-- The claims were counted right after the groups, and marked after that if they were not. -/
  asked : ∃ later earlier,
    log = later ++ ⟨.listClaims space, .ok claims⟩ :: ⟨.listGroups space, .ok groups⟩ :: earlier ∧
      latest? earlier = some group ∧
      ∀ member ∈ plan.members, member.claim.isMarked = true ∨
        ∃ exchange ∈ later, exchange.marks? (Resource.key member.claim) = some true

/-- The members that a pass may record in its group: those it has, none, or those of its plan. -/
def Recordable (log : List Exchange) (held : Group) (names : List String) : Prop :=
  names = held.members ∨ names = [] ∨ ∃ group space groups claims plan,
    Surveyed group space groups claims plan log ∧ names = plan.claimNames

/-- A pass may take the mark off a claim that it counted: its group lists other claims only by then,
and no other group that it saw lists the claim. -/
def Releasable (log : List Exchange) (space : String) (claims : List Claim) (claim : Claim) : Prop :=
  ∃ held groups, latest? log = some held ∧ ⟨.listGroups space, .ok groups⟩ ∈ log ∧
    (∀ name ∈ held.members, ∃ member ∈ claims, member ≠ claim ∧ Resource.displayName member = name) ∧
    ∀ other ∈ groups, other.name ≠ held.name → other.lists claim = false

/-- What is known of a call that concerns groups, claims or the driver's members from the calls
before it, in a pass over the group under a key. -/
def Conduct (place : String) : Rule := fun log request =>
  match request with
  | .getGroup name space => space ++ "/" ++ name = place
  -- Claims are counted only once, in the namespace of the group.
  | .listClaims space => (∀ exchange ∈ log, exchange.request.method ≠ .listClaims) ∧
    ∃ held, latest? log = some held ∧ held.metadata.namespace = some space
  | .replaceGroup later => ∃ held, latest? log = some held ∧ held.Continues later ∧
    later.metadata.resourceVersion = held.metadata.resourceVersion
  -- Members are recorded only once, before any claim is let go.
  | .replaceGroupStatus later => Unsettled log ∧ ∃ held, latest? log = some held ∧
    later = { held with status := later.status } ∧ Recordable log held later.members
  | .replaceClaim later => ∃ space claims claim, ⟨.listClaims space, .ok claims⟩ ∈ log ∧
    claim ∈ claims ∧ claim.Continues later ∧
    later.metadata.resourceVersion = claim.metadata.resourceVersion ∧
    (later.isMarked = true ∧ Unsettled log ∨
      later.isMarked = false ∧ claim.isMarked = true ∧ Releasable log space claims claim)
  | .modifyMembership _ ids _ => ∃ group space groups claims plan,
    Surveyed group space groups claims plan log ∧ ids = plan.volumeIds
  | _ => True

/-- What is apart from groups and claims may be called at any time. -/
theorem Conduct.of_apart {place : String} {log : List Exchange} {request : Call}
    (apart : request.IsApart) : Conduct place log request := by
  cases request <;> trivial

/-- A call that brings no group and writes no claim. -/
def Call.LeavesHand : Call → Prop
  | .getGroup .. | .replaceGroup _ | .replaceGroupStatus _ | .replaceClaim _ => False
  | _ => True

/-- A call that writes a claim. -/
def Call.WritesClaim : Call → Prop
  | .replaceClaim _ => True
  | _ => False

/-- A call that marks a claim. -/
def Call.MarksClaim : Call → Prop
  | .replaceClaim later => later.isMarked = true
  | _ => False

/-- What is apart from groups and claims brings no group and writes no claim. -/
theorem Call.IsApart.leavesHand {request : Call} (apart : request.IsApart) :
    request.LeavesHand := by
  cases request <;> trivial

/-- What marks a claim writes it. -/
theorem Call.MarksClaim.writesClaim {request : Call} (marks : request.MarksClaim) :
    request.WritesClaim := by
  cases request <;> trivial

/-- What brings no group and writes no claim tells nothing of groups, members and marks. -/
theorem Call.LeavesHand.silent {exchange : Exchange} (leaves : exchange.request.LeavesHand) :
    exchange.group? = none ∧ exchange.members? = none ∧ ∀ key, exchange.marks? key = none := by
  obtain ⟨request, answer⟩ := exchange
  cases request <;> first | exact leaves.elim | exact ⟨rfl, rfl, fun _ => rfl⟩

/-- What writes a claim brings no group and records no members. -/
theorem Call.WritesClaim.silent {exchange : Exchange} (writes : exchange.request.WritesClaim) :
    exchange.group? = none ∧ exchange.members? = none := by
  obtain ⟨request, answer⟩ := exchange
  cases request <;> first | exact writes.elim | exact ⟨rfl, rfl⟩

/-- What marks a claim takes no mark off. -/
theorem Call.MarksClaim.marks? {exchange : Exchange} (marks : exchange.request.MarksClaim)
    (key : String) : exchange.marks? key ≠ some false := by
  -- The mark that is written is there, so none is told to be off, whatever the answer is.
  obtain ⟨request, answer⟩ := exchange
  cases request with
  | replaceClaim later =>
    have marked : later.isMarked = true := marks
    cases answer <;> simp [Exchange.marks?, marked]
  | _ => exact marks.elim

/-- A pass that goes on without recording members and taking off marks is still unsettled. -/
theorem Unsettled.later {calls : Call → Prop} {before after : List Exchange}
    (unsettled : Unsettled before) (goes : Extends calls before after)
    (silent : ∀ exchange : Exchange, calls exchange.request → exchange.members? = none ∧
      ∀ key, exchange.marks? key ≠ some false) : Unsettled after where
  -- Neither the members nor a mark taken off can be among the calls that were added.
  recorded := (goes.findSome? fun exchange sort => (silent exchange sort).1).trans unsettled.recorded
  held exchange known := (goes.mem_or known).elim (unsettled.held exchange)
    fun sort => (silent exchange sort).2

/-- A survey stays one as the pass goes on. -/
theorem Surveyed.later {calls : Call → Prop} {group : Group} {space : String} {groups : List Group}
    {claims : List Claim} {plan : MembershipPlan} {before after : List Exchange}
    (surveyed : Surveyed group space groups claims plan before)
    (goes : Extends calls before after) : Surveyed group space groups claims plan after := by
  -- What is added stands in front, and the look at the claims keeps its place behind it.
  obtain ⟨live, inSpace, sorts, later, earlier, rfl, latest, marked⟩ := surveyed
  obtain ⟨made, rfl, _⟩ := goes
  refine ⟨live, inSpace, sorts, made ++ later, earlier, by simp, latest, fun member planned => ?_⟩
  refine (marked member planned).imp_right fun ⟨exchange, known, marks⟩ => ?_
  exact ⟨exchange, List.mem_append_right _ known, marks⟩

/-- The claims of a survey are in the log. -/
theorem Surveyed.counted {group : Group} {space : String} {groups : List Group}
    {claims : List Claim} {plan : MembershipPlan} {log : List Exchange}
    (surveyed : Surveyed group space groups claims plan log) :
    ⟨.listClaims space, .ok claims⟩ ∈ log ∧ ⟨.listGroups space, .ok groups⟩ ∈ log := by
  -- The survey was made of the groups first and then of the claims, with nothing between.
  obtain ⟨later, earlier, rfl, _⟩ := surveyed.asked
  exact ⟨by simp, by simp⟩

/-- What may be released may be released after further claims have been written. -/
theorem Releasable.later {before after : List Exchange} {space : String} {claims : List Claim}
    {claim : Claim} (releasable : Releasable before space claims claim)
    (goes : Extends Call.WritesClaim before after) : Releasable after space claims claim := by
  -- Calls that write claims bring no group, so the group at hand is the same.
  obtain ⟨held, groups, latest, looked, names, others⟩ := releasable
  exact ⟨held, groups, (goes.findSome? fun _ writes => writes.silent.1).trans latest,
    goes.mem looked, names, others⟩

/-- A pass that is unsettled was so all along. -/
theorem Unsettled.earlier {later earlier : List Exchange} (unsettled : Unsettled (later ++ earlier)) :
    Unsettled earlier where
  recorded := by
    have recorded := unsettled.recorded
    -- What is recorded earlier would be recorded in the longer log, unless something later was.
    rw [recorded?, List.findSome?_append] at recorded
    exact (Option.or_eq_none_iff.mp recorded).2
  held exchange known := unsettled.held exchange (List.mem_append_right later known)

namespace Conduct

variable {place : String} {log later earlier : List Exchange}

/-- Members are recorded by a write of the state while the pass was unsettled. -/
theorem of_members? {exchange : Exchange} {names : List String}
    (allowed : Conduct place log exchange.request) (recorded : exchange.members? = some names) :
    Unsettled log ∧ ∃ held, latest? log = some held ∧ Recordable log held names := by
  -- Members are told by writes of the state only.
  obtain ⟨written, stored, rfl, rfl⟩ := Exchange.members?_eq_some recorded
  obtain ⟨unsettled, held, latest, _, recordable⟩ := allowed
  exact ⟨unsettled, held, latest, recordable⟩

/-- A claim gets or loses its mark by a write of the claim as it was counted. -/
theorem of_marks? {exchange : Exchange} {key : String} {marked : Bool}
    (allowed : Conduct place log exchange.request) (marks : exchange.marks? key = some marked) :
    ∃ written stored space claims claim, exchange = ⟨.replaceClaim written, .ok stored⟩ ∧
      ⟨.listClaims space, .ok claims⟩ ∈ log ∧ claim ∈ claims ∧ claim.Continues written ∧
      written.metadata.resourceVersion = claim.metadata.resourceVersion ∧
      Resource.key claim = key ∧ written.isMarked = marked ∧
      (marked = true ∧ Unsettled log ∨
        marked = false ∧ claim.isMarked = true ∧ Releasable log space claims claim) := by
  -- The write of a claim is allowed only on behalf of a claim that was counted.
  obtain ⟨written, stored, rfl, rfl, rfl⟩ := Exchange.marks?_eq_some marks
  obtain ⟨space, claims, claim, counted, known, continues, version, how⟩ := allowed
  exact ⟨written, stored, space, claims, claim, rfl, counted, known, continues, version,
    continues.metadata.key.symm, rfl, how⟩

/-- Once a pass has recorded members or let a claim go, it records nothing more. -/
theorem recorded?_stays (kept : (Conduct place).Kept (later ++ earlier))
    (settled : ¬ Unsettled earlier) : recorded? (later ++ earlier) = recorded? earlier := by
  -- The induction goes along the later calls, none of which may record anything.
  induction later with
  | nil => rfl
  | cons exchange rest ih =>
    obtain ⟨allowed, further⟩ := kept
    cases recorded : exchange.members? with
    | none => simpa [recorded?, recorded] using ih further
    | some names => exact absurd (of_members? allowed recorded).1.earlier settled

/-- Claims are not counted again. -/
theorem uncounted {request : Call} (allowed : Conduct place log request)
    (counts : request.method = .listClaims) :
    ∀ exchange ∈ log, exchange.request.method ≠ .listClaims := by
  cases request <;> first | exact allowed.1 | cases counts

end Conduct

end VolumeGroups
