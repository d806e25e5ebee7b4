import VolumeGroups.Proofs.Membership.Placing
import VolumeGroups.Proofs.Reports.Fickle

/-! What becomes of a pass over a live group where only the driver fails: whether it tells of its failure
or not, and what it leaves of the group and of the group's content. -/

namespace VolumeGroups

/-- A failure that only a change of some object helps against, and of which a pass over a group tells
nobody but its caller. -/
def PassError.IsMute (live : Bool) : PassError → Prop
  | .missingHandle _ | .object _ => True
  | .content (.foreign ..) => live = true
  | _ => False

/-- A failure that may be over when the pass is tried again. -/
def PassError.IsRetriable (error : PassError) : Prop := error.isConfiguration = false

/-- A failure that nobody is told of, if anybody would have to change an object. -/
def PassError.IsToldOrRetriable (error : PassError) : Prop :=
  error.isConfiguration = true → error.IsMute true

/-- What may be over soon keeps nobody waiting. -/
theorem PassError.IsRetriable.isToldOrRetriable {error : PassError}
    (retriable : error.IsRetriable) : error.IsToldOrRetriable := by
  -- It is not one of those that wait for a change.
  intro configured
  rw [retriable] at configured
  cases configured

/-- A failure that a pass tells on any group, live or not, and that is no refusal. -/
def PassError.IsTold (error : PassError) : Prop :=
  ¬ error.IsRefusal ∧ ∀ live, ¬ error.IsMute live

/-- From one scene to a later one neither groups nor contents are written, and nothing is said. -/
structure KeepsGroupsAndContents (before after : Scene) : Prop where
  groups : after.store.groups = before.store.groups
  contents : after.store.contents = before.store.contents
  tacit : Extends Call.IsTacit before.exchanges after.exchanges

namespace KeepsGroupsAndContents

variable {first second third : Scene}

/-- Tacit calls that change nothing make a lull. -/
theorem of_same (same : second.store = first.store)
    (tacit : Extends Call.IsTacit first.exchanges second.exchanges) :
    KeepsGroupsAndContents first second :=
  ⟨congrArg Store.groups same, congrArg Store.contents same, tacit⟩

/-- A lull may last. -/
theorem trans (before : KeepsGroupsAndContents first second)
    (after : KeepsGroupsAndContents second third) : KeepsGroupsAndContents first third :=
  ⟨after.groups.trans before.groups, after.contents.trans before.contents,
    before.tacit.trans after.tacit⟩

end KeepsGroupsAndContents

/-- A content lies under its own key where a group looks for it, and something holds it if it is being
deleted. -/
structure Content.LiesFor (content : Content) (group : Group) : Prop
    extends content.IsShelved group.contentName where
  key : Resource.key content = group.contentKey

namespace Group

/-- A live group stays where it is, whatever marks it has. -/
theorem held_of_live {group : Group} (live : group.isTerminating = false) :
    group.metadata.isForsaken = false :=
  (show group.metadata.Continues group.metadata from rfl).held live

/-- The content that a group goes by, if there is one, lies there by its own name. -/
def ContentInPlace (group : Group) (store : Store) : Prop :=
  ∀ content : Content, store.find? group.contentKey = some content → content.LiesFor group

/-- The content of a group is as it was, or it was made for a group that the driver has just made. -/
def Stocks (group : Group) (calls : List Exchange) (start now : Store) : Prop :=
  now.contents = start.contents ∧ calls = [] ∨
    -- A content is made only where there was none under the key.
    start.find? group.contentKey = (none : Option Content) ∧
      ∃ (content : Content) (exchange : Exchange),
        now.find? group.contentKey = some content ∧ content.status = none ∧
          content.LiesFor group ∧ calls = [exchange] ∧ exchange.failure? = none

/-- Nothing is made of a content while no content is written. -/
theorem Stocks.kept {group : Group} {calls : List Exchange} {start now after : Store}
    (stocks : group.Stocks calls start now) (contents : after.contents = now.contents) :
    group.Stocks calls start after := by
  -- The content that was found or made is found as long as the contents are.
  rcases stocks with ⟨same, none⟩ | ⟨absent, content, exchange, found, rest⟩
  · exact .inl ⟨contents.trans same, none⟩
  · exact .inr ⟨absent, content, exchange, (congrArg (Table.get? · _) contents).trans found, rest⟩

/-- What a pass over a live group has made of it before it writes any state: the group is the same but
for its marks and the content that it names. -/
structure Midway (group own : Group) (calls : List Exchange) (told : List Event)
    (start now : Scene) : Prop where
  found : now.store.find? (Resource.key group) = some own
  -- The pass has written marks and the name of the content at most.
  continues : group.Continues own
  status : own.status = group.status
  names : group.ContentInPlace start.store → own.contentName = group.contentName
  stocks : group.Stocks calls start.store now.store
  log : GrowsByWarnings calls told [] start.exchanges now.exchanges

/-- What a pass over a live group has made of it once content and driver are in line with the plan. -/
structure Settles (group : Group) (furnished : Furnished) (told : List Event) (start now : Scene) :
    Prop where
  found : now.store.find? (Resource.key group) = some furnished.group
  continues : group.Continues furnished.group
  -- The name stays if the content was in its place at the start.
  names : group.ContentInPlace start.store → furnished.group.contentName = group.contentName
  content : group.ContentInPlace start.store →
    now.store.find? group.contentKey = some furnished.content ∧
      furnished.content.status.bind ContentStatus.ready = some true ∧ furnished.content.LiesFor group
  log : ∃ exchange calls,
    GrowsByWarnings (exchange :: calls) told [] start.exchanges now.exchanges ∧
    exchange.failure? = none

/-- How a pass over a live group may end where only the driver fails. -/
inductive Account (group : Group) (start : Scene) : Except PassError Action → Scene → Prop
  /-- Nothing was told on the group, and no state was written. -/
  | silent {own : Group} {calls : List Exchange} {told : List Event}
    {result : Except PassError Action} {final : Scene}
    (midway : group.Midway own calls told start final)
    (toldOrRetriable : ∀ error, result = .error error → error.IsToldOrRetriable) :
    Account group start result final
  /-- A failure was told on the group before the driver was asked. -/
  | told {own : Group} {told : List Event} {reason : Reason} {error : PassError}
    {middle final : Scene} (midway : group.Midway own [] told start middle)
    (spoken : error.IsTold)
    (tellsForGood : own.TellsForGood reason none error.statusMessage middle final) :
    Account group start (.error error) final
  /-- The driver refused, which was told on the group. -/
  | refused {own : Group} {calls : List Exchange} {told : List Event} {exchange : Exchange}
    {reason : Reason} {cause : DriverError} {middle final : Scene}
    (midway : group.Midway own calls told start middle) (drives : exchange.drives = true)
    (fails : exchange.failure?.isSome = true)
    (tellsForGood : own.TellsForGood reason (some false) (PassError.driver cause).statusMessage
      ⟨middle.store, exchange :: middle.exchanges⟩ final) :
    Account group start (.error (.driver cause)) final
  /-- The state of a content could not be written that lay under another name than its own. -/
  | astray {error : PassError} {final : Scene} (stray : ¬ group.ContentInPlace start.store)
    (retriable : error.IsRetriable) : Account group start (.error error) final
  /-- Group and content are in line with a plan, and so is what was told of refusals. -/
  | settled {furnished : Furnished} {own : Group} {plan : MembershipPlan} {status : GroupStatus}
    {result : Except PassError Action} {middle final : Scene}
    (settles : group.Settles furnished plan.notices.reverse start middle)
    (found : final.store.find? (Resource.key group) = some own)
    (continues : furnished.group.Continues own) (spec : own.spec = furnished.group.spec)
    (stated : own.status = some status) (ready : status.ready = some true)
    (error : status.error = plan.rejectionMessage.map fun message => { message := some message })
    (contents : final.store.contents = middle.store.contents)
    (log : GrowsByWarnings [] [] [] middle.exchanges final.exchanges)
    (devised : ∃ held, group.Continues held ∧ Devised held plan final.exchanges)
    (recorded : ∀ event ∈ plan.notices, ⟨.record event, .ok ()⟩ ∈ final.exchanges)
    (verdict : result = plan.verdict ∨ ∃ cause, result = .error (.cluster cause)) :
    Account group start result final

namespace Midway

variable {group own : Group} {calls : List Exchange} {told : List Event} {start now after : Scene}

/-- Nothing has been made of the group yet. -/
theorem refl (found : start.store.find? (Resource.key group) = some group) :
    group.Midway group [] [] start start :=
  ⟨found, .refl group, rfl, fun _ => rfl, .inl ⟨rfl, rfl⟩, .refl _⟩

/-- Nothing is made of the group while neither groups nor contents are written and nothing is told of it
but refusals. -/
theorem saying {more : List Event} (midway : group.Midway own calls told start now)
    (groups : after.store.groups = now.store.groups)
    (contents : after.store.contents = now.store.contents)
    (log : GrowsByWarnings [] more [] now.exchanges after.exchanges) :
    group.Midway own calls (more ++ told) start after where
  found := (congrArg (Table.get? · _) groups).trans midway.found
  continues := midway.continues
  status := midway.status
  names := midway.names
  stocks := midway.stocks.kept contents
  log := midway.log.trans log

/-- Nothing is made of the group in a lull. -/
theorem quietly (midway : group.Midway own calls told start now)
    (keptBoth : KeepsGroupsAndContents now after) : group.Midway own calls told start after :=
  midway.saying keptBoth.groups keptBoth.contents (.of_tacit keptBoth.tacit)

section Own

variable (midway : group.Midway own calls told start now)
include midway

/-- The group lies where it lay. -/
theorem key : Resource.key own = Resource.key group := midway.continues.metadata.key

/-- The group is found where it lies. -/
theorem found_own : now.store.find? (Resource.key own) = some own := midway.key ▸ midway.found

/-- A live group is held where it is. -/
theorem held (live : group.isTerminating = false) : own.metadata.isForsaken = false :=
  held_of_live (midway.continues.isTerminating.trans live)

/-- The content that the group goes by, if there is one, still lies there by its own name. -/
theorem liesFor (contentInPlace : group.ContentInPlace start.store) {content : Content}
    (found : now.store.find? group.contentKey = some content) : content.LiesFor group := by
  -- Either no content was written, or the one that is found is the one that was made.
  rcases midway.stocks with ⟨same, _⟩ | ⟨_, made, _, there, _, lies, _⟩
  · exact contentInPlace content ((congrArg (Table.get? · _) same).symm.trans found)
  · exact Option.some.inj (there.symm.trans found) ▸ lies

/-- The group is written as it is but for its marks and the content that it names. -/
theorem rewrite {later : Group} (live : group.isTerminating = false)
    (continues : own.Continues later) (status : later.status = own.status)
    (names : group.ContentInPlace start.store → later.contentName = group.contentName)
    (wrote : after.store = (now.store.overwrite later).2)
    (tacit : Extends Call.IsTacit now.exchanges after.exchanges) :
    group.Midway (now.store.stamped later) calls told start after where
  found := by
    -- An object that nothing holds would be removed by the write.
    have held : later.metadata.isForsaken = false :=
      held_of_live ((midway.continues.trans continues).isTerminating.trans live)
    have place : Resource.key later = Resource.key group :=
      continues.metadata.key.trans midway.key
    rw [wrote, ← place]
    -- The group is live, so the write keeps it under its key.
    exact Store.find?_overwrite_self held
  continues := (midway.continues.trans continues).trans ⟨rfl, rfl, rfl⟩
  status := status.trans midway.status
  names := names
  stocks := midway.stocks.kept (wrote ▸ Store.contents_of_groups.overwrite now.store later)
  log := midway.log.tacitly tacit

end Own

/-- A content is stored for a group that the driver has just made. -/
theorem creates {exchange : Exchange} {content : Content} (midway : group.Midway own [] told start now)
    (absent : start.store.find? group.contentKey = (none : Option Content))
    (lies : content.LiesFor group) (blank : content.status = none)
    (wrote : after.store = (now.store.save (Store.identified content)).2)
    (log : GrowsByWarnings [exchange] [] [] now.exchanges after.exchanges)
    (worked : exchange.failure? = none) :
    after.store.find? group.contentKey = some (now.store.stamped (Store.identified content)) ∧
      group.Midway own [exchange] told start after := by
  -- The content lies under its own key, which is the one that the group points to.
  have found : after.store.find? group.contentKey =
      some (now.store.stamped (Store.identified content)) := by
    rw [wrote, Store.find?_save, if_pos]
    exact lies.key.symm
  have groups : after.store.groups = now.store.groups :=
    wrote ▸ Store.groups_of_contents.save now.store _
  refine ⟨found, ?_, midway.continues, midway.status, midway.names, ?_, midway.log.trans log⟩
  · -- Groups are left alone by a write of contents.
    exact (congrArg (Table.get? · _) groups).trans midway.found
  · -- The content is new, and the call that made it worked.
    exact .inr ⟨absent, _, exchange, found, blank, ⟨⟨lies.named, lies.held⟩, lies.key⟩, rfl, worked⟩

end Midway

end Group

end VolumeGroups
