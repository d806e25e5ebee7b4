import VolumeGroups.Proofs.Operator.Acted
import VolumeGroups.Proofs.Provision.Entries
import VolumeGroups.Proofs.Recovery.Passes
import VolumeGroups.Proofs.Reports.Causes
import VolumeGroups.Proofs.Reports.Supply

/-! A failed pass is tried again late or soon by the way in which it came upon a mistake, and not by the
mistake. -/

namespace VolumeGroups

/-- A secret is refused for a value that is no text. -/
theorem Secret.texts_eq_error {secret : Secret} {name space : String} {error : SecretError}
    (failed : secret.texts name space = .error error) : ∃ key, error = .invalidData name space key := by
  obtain ⟨key, value, -, refused⟩ := KeyMap.traverse_eq_error failed
  split at refused
  · cases refused
  · cases refused
    exact ⟨_, rfl⟩

/-- A group that cannot tell whether it selects a claim has a selector that makes no sense. -/
theorem Group.selects_eq_error {group : Group} {claim : Claim} {cause : ObjectError}
    (failed : group.selects claim = .error cause) : ∃ why, cause = .invalidSelector group.name why := by
  simp only [Group.selects] at failed
  -- The selector matches, it does not, or it makes no sense.
  split at failed
  · cases failed
  · cases matched : group.selector.matchesLabels claim.labels with
    | ok selected => simp [matched, Except.mapError] at failed
    | error why =>
      rw [matched] at failed
      cases failed
      exact ⟨why, rfl⟩

namespace Attempt

variable {ε α : Type} {kept : Exchange → Prop}

/-- The cluster's failures are a pass's failures as they are. -/
theorem RelaysMistakes.cluster {attempt : Attempt ClusterError α}
    (relays : RelaysMistakes kept attempt) :
    RelaysMistakes kept (Attempt.within PassError.cluster attempt) :=
  relays.within fun _ => ⟨rfl, rfl⟩

/-- A content's failures are a pass's failures as they are. -/
theorem RelaysMistakes.content {attempt : Attempt ContentError α}
    (relays : RelaysMistakes kept attempt) :
    RelaysMistakes kept (Attempt.within PassError.content attempt) :=
  relays.within fun _ => ⟨rfl, rfl⟩

/-- The class of a group is read by unrevealing calls. -/
theorem relaysMistakes_resolveClass (group : Group) :
    RelaysMistakes Exchange.IsUnrevealing group.resolveClass := by
  unfold Group.resolveClass
  split
  · -- Without a name there is nothing to read.
    exact .throw rfl rfl
  · rename_i name _
    -- A class that cannot be read is told of in two ways, neither of which hides a mistake.
    refine .within (.ask (fun answer => ⟨.getClass name, answer⟩) (fun _ => rfl)
      (fun _ => rfl) fun _ => ⟨id, fun _ => nofun⟩) ?_
    intro error
    cases error <;> exact ⟨rfl, rfl⟩

/-- Credentials are read by unrevealing calls. -/
theorem relaysMistakes_credentials (location : SecretLocation) :
    RelaysMistakes Exchange.IsUnrevealing location.credentials := by
  unfold SecretLocation.credentials
  split
  · exact .pure
  · rename_i name space _
    -- The secret is read by one call, which is unrevealing.
    have read : RelaysMistakes Exchange.IsUnrevealing (Attempt.of (.ask (.getSecret name space))) :=
      .ask (fun answer => ⟨.getSecret name space, answer⟩) (fun _ => rfl) (fun _ => rfl)
        fun _ => ⟨id, fun _ => nofun⟩
    refine .bind (.within read ?_) fun secret => .known ?_
    · intro error
      cases error <;> exact ⟨rfl, rfl⟩
    · intro error failed
      -- Texts that cannot be read are no mistake of an object.
      obtain ⟨key, rfl⟩ := Secret.texts_eq_error failed
      exact ⟨rfl, nofun⟩

/-- A group is marked by an unrevealing call. -/
theorem relaysMistakes_protectGroup (group : Group) :
    RelaysMistakes Exchange.IsUnrevealing group.protect := by
  unfold Group.protect
  split
  · exact .pure
  · exact .ask (fun answer => ⟨.replaceGroup _, answer⟩) (fun _ => rfl) (fun _ => rfl)
      fun _ => ⟨id, fun _ => nofun⟩

/-- A claim is marked by an unrevealing call. -/
theorem relaysMistakes_protectClaim (claim : Claim) :
    RelaysMistakes Exchange.IsUnrevealing claim.protect := by
  unfold Claim.protect
  split
  · exact .pure
  · exact .bind (.ask (fun answer => ⟨.replaceClaim _, answer⟩) (fun _ => rfl)
      (fun _ => rfl) fun _ => ⟨id, fun _ => nofun⟩) fun _ => .pure

/-- The class of volumes of a claim is read by an unrevealing call. -/
theorem relaysMistakes_storageClassGuard (claim : Claim) :
    RelaysMistakes Exchange.IsUnrevealing (storageClassGuard claim) := by
  unfold storageClassGuard
  split
  · exact .pure
  · rename_i name _
    -- Only an answer that is no mistake is looked at here.
    refine .tried (fun answer => ⟨.getStorageClass name, answer⟩) (fun _ => rfl)
      (fun _ => rfl) (fun _ => ⟨⟨id, fun _ => nofun⟩, ?_⟩)
      (fun error other => ⟨Exchange.isUnrevealing_of_objection? rfl other id, ?_⟩)
      fun cause => ⟨_, rfl, rfl, rfl⟩
    · dsimp only
      split <;> exact .pure
    · dsimp only
      split
      · exact .pure
      · exact .throw rfl other

/-- The volume of a claim is read by an unrevealing call. -/
theorem relaysMistakes_boundVolume (claim : Claim) :
    RelaysMistakes Exchange.IsUnrevealing (boundVolume claim) := by
  unfold boundVolume
  split
  · exact .pure
  · rename_i name _
    -- The volume is read, and it has a handle of the driver or not.
    refine .bind (.within (.ask (fun answer => ⟨.getVolume name, answer⟩) (fun _ => rfl)
      (fun _ => rfl) fun _ => ⟨id, fun _ => nofun⟩) ?_) fun volume => ?_
    · intro error
      cases error <;> exact ⟨rfl, rfl⟩
    · split
      · exact .pure
      · exact .throw rfl rfl

/-- Where a claim stands is told by unrevealing calls. -/
theorem relaysMistakes_standing (group : Group) (groups : List Group) (claim : Claim) :
    RelaysMistakes Exchange.IsUnrevealing (group.standing groups claim) := by
  unfold Group.standing
  extract_lets listed take decide
  -- What is taken in the end is the volume.
  have takes : RelaysMistakes Exchange.IsUnrevealing (take ()) := by
    refine .bind (relaysMistakes_boundVolume claim) fun bound => ?_
    split <;> exact .pure
  -- The guards stand between a newcomer and its volume.
  have decides (stays : Bool) : RelaysMistakes Exchange.IsUnrevealing (decide stays) := by
    simp only [decide]
    split
    · exact .pure
    · split
      · split
        · exact .pure
        · refine .bind (relaysMistakes_storageClassGuard claim) fun refusal => ?_
          split
          · exact .pure
          · exact takes
      · exact takes
  -- A claim that the group lists is decided upon without a look at its labels.
  split
  · exact decides false
  · -- A selector that makes no sense is the one mistake that is found here.
    refine .bind (.within (.known ?_) fun _ => ⟨rfl, rfl⟩) decides
    intro error failed
    refine ⟨rfl, ?_⟩
    intro cause mistaken
    obtain rfl := Option.some.inj mistaken
    obtain ⟨why, same⟩ := Group.selects_eq_error failed
    exact .inl ⟨_, why, same⟩

/-- A plan is made by unrevealing calls. -/
theorem relaysMistakes_planFor (group : Group) (groups : List Group) (claims : List Claim) :
    RelaysMistakes Exchange.IsUnrevealing (group.planFor groups claims) := by
  induction claims with
  | nil => exact .pure
  | cons claim rest ih =>
    exact .bind (relaysMistakes_standing group groups claim) fun standing =>
      .bind ih fun plan => .pure

/-- The first stage of a live group takes unrevealing calls, if the group belongs to a namespace. -/
theorem relaysMistakes_prepare {group : Group} {space : String}
    (inSpace : group.metadata.namespace = some space) :
    RelaysMistakes Exchange.IsUnrevealing group.prepare := by
  -- Claims are listed, and then each of them is looked at.
  have plans (groups : List Group) : RelaysMistakes Exchange.IsUnrevealing (group.plan groups) := by
    unfold Group.plan
    rw [Attempt.space_bind inSpace]
    refine .bind (.within (.ask (fun answer => ⟨.listClaims space, answer⟩) (fun _ => rfl)
      (fun _ => rfl) fun _ => ⟨id, fun _ => nofun⟩) fun _ => ⟨rfl, rfl⟩) fun claims => ?_
    exact relaysMistakes_planFor group groups (sortedByName claims)
  unfold Group.prepare
  rw [Attempt.space_bind inSpace]
  refine .bind (.cluster (.ask (fun answer => ⟨.listGroups space, answer⟩) (fun _ => rfl)
    (fun _ => rfl) fun _ => ⟨id, fun _ => nofun⟩)) fun groups => ?_
  refine .bind (.tellingOn (.within (plans groups) fun _ => ⟨rfl, rfl⟩)) fun plan => ?_
  -- Refusals are told by events, and members are marked.
  refine .bind (.forM fun _ => .lift (records_note ..)
    fun _ => Exchange.isUnrevealing_of_isRecord) fun _ => ?_
  refine .bind (.forM fun member => .cluster (relaysMistakes_protectClaim member.claim)) fun _ => ?_
  exact .pure

/-- A content is stored by calls that echo mistakes. -/
theorem relaysMistakes_createContent (content : Content) :
    RelaysMistakes (fun _ => True) content.create := by
  unfold Content.create
  -- The content is there already, or the call fails for another reason.
  refine .tried (fun answer => ⟨.createContent content, answer⟩) (fun _ => rfl)
    (fun _ => rfl) (fun _ => ⟨trivial, .pure⟩) (fun error other => ⟨trivial, ?_⟩)
    fun cause => ⟨_, rfl, rfl, rfl⟩
  dsimp only
  split
  · refine .bind (.within (.ask (fun answer => ⟨.getContent _ _, answer⟩) (fun _ => rfl)
      (fun _ => rfl) fun _ => trivial) fun _ => ⟨rfl, rfl⟩) fun existing => .known ?_
    -- A content that is there already is foreign at worst.
    intro error failed
    unfold Content.boundTo at failed
    split at failed
    · cases failed
    · cases failed
      exact ⟨rfl, nofun⟩
  · exact .throw rfl other

/-- The name of its content is recorded in a group by a call that echoes mistakes. -/
theorem relaysMistakes_rememberContent (group : Group) (contentName : String) :
    RelaysMistakes (fun _ => True) (group.rememberContent contentName) := by
  unfold Group.rememberContent
  split
  · exact .pure
  · exact .cluster (.ask (fun answer => ⟨.replaceGroup _, answer⟩) (fun _ => rfl)
      (fun _ => rfl) fun _ => trivial)

/-- The state of a group is stored by a call that echoes mistakes. -/
theorem relaysMistakes_syncGroup (group : Group) (status : GroupStatus) :
    RelaysMistakes (fun _ => True) (group.syncStatus status) := by
  unfold Group.syncStatus
  split
  · exact .pure
  · exact .cluster (.ask (fun answer => ⟨.replaceGroupStatus _, answer⟩) (fun _ => rfl)
      (fun _ => rfl) fun _ => trivial)

/-- The state of a content is stored by a call that echoes mistakes. -/
theorem relaysMistakes_syncContent (content : Content) (status : ContentStatus) :
    RelaysMistakes (fun _ => True) (content.syncStatus status) := by
  unfold Content.syncStatus
  split
  · exact .pure
  · exact .within (.ask (fun answer => ⟨.replaceContentStatus _, answer⟩) (fun _ => rfl)
      (fun _ => rfl) fun _ => trivial) fun _ => ⟨rfl, rfl⟩

/-- The marks of claims are taken off by calls that echo mistakes. -/
theorem relaysMistakes_releaseClaims (claims : List Claim) (others : List Group) :
    RelaysMistakes (fun _ => True) (releaseClaims claims others) := by
  refine .forM fun claim => .cluster ?_
  unfold Claim.release
  split
  · exact .pure
  · split
    · exact .pure
    · exact .bind (.ask (fun answer => ⟨.replaceClaim _, answer⟩) (fun _ => rfl)
        (fun _ => rfl) fun _ => trivial) fun _ => .pure

/-- A call of the driver tells of no mistake. -/
theorem relaysMistakes_driver {program : Program (Except DriverError α)}
    (sort : ∀ exchange, kept exchange) :
    RelaysMistakes kept (Attempt.within PassError.driver (.of program)) := by
  refine Program.Logs.bind (Program.asks_any program).logs ?_
  -- The call is answered by the driver, which knows no objects.
  intro log result _
  cases result with
  | ok value => exact fun exchange _ => sort exchange
  | error error => exact ⟨rfl, nofun⟩

/-- A search for a content echoes mistakes, and takes unrevealing calls if it finds none. -/
def Searches [Caused ε] (attempt : Attempt ε (Option Content)) : Prop :=
  attempt.run.Logs fun log result => match result with
    | .ok none => ∀ exchange ∈ log, exchange.IsUnrevealing
    | .ok (some _) => True
    | .error error => isBare error = false ∧ ∀ cause, mistake? error = some cause →
      cause.IsRelayed log

/-- A search echoes mistakes, whatever it finds. -/
theorem Searches.relays [Caused ε] {attempt : Attempt ε (Option Content)}
    (searches : Searches attempt) : RelaysMistakes (fun _ => True) attempt := by
  refine searches.mono ?_
  intro log result reached
  cases result with
  | ok found => exact fun _ _ => trivial
  | error error => exact reached

/-- The content of a group is searched for. -/
theorem searches_lookupContent {group : Group} {space : String}
    (inSpace : group.metadata.namespace = some space) : Searches group.lookupContent := by
  unfold Group.lookupContent
  rw [Attempt.space_bind inSpace]
  refine Program.Logs.bind (logs_outcome
    (fun answer => ⟨.getContent group.contentName space, answer⟩) fun _ => rfl) ?_
  rintro _ _ ⟨answer, rfl, rfl⟩
  -- The answer decides how the search goes on.
  cases answer with
  | ok content =>
    show Program.Logs _ ((Attempt.within ContentError.object (.known group.uid) >>= fun uid =>
      some <$> Attempt.known (content.boundTo uid)) : Attempt ContentError (Option Content)).run
    -- A group without an identity is a mistake that is found once the content is.
    cases group.uid with
    | error cause =>
      refine ⟨rfl, ?_⟩
      intro other _
      exact .inr ⟨_, List.mem_singleton_self _, .inl trivial⟩
    | ok uid =>
      show Program.Logs _ (some <$> Attempt.known (content.boundTo uid) :
        Attempt ContentError (Option Content)).run
      unfold Content.boundTo
      split
      · exact trivial
      · exact ⟨rfl, nofun⟩
  -- A content that is missing is no failure, and all else is passed on.
  | error error =>
    show Program.Logs _ (if error.isNotFound then pure none else throw (.cluster error) :
      Attempt ContentError (Option Content)).run
    split
    · intro exchange logged
      obtain rfl := List.mem_singleton.mp logged
      cases error with
      | notFound => exact Exchange.isUnrevealing_of_objection? rfl rfl id
      | _ => contradiction
    · refine ⟨rfl, ?_⟩
      intro cause mistaken
      exact ObjectError.isRelayed_of_objection? (List.mem_singleton_self _) rfl mistaken

/-- Mistakes that are found while a content is obtained are weighed. -/
theorem tellsBareFromRelayed_obtainContent {group : Group} {space : String}
    (inSpace : group.metadata.namespace = some space) (groupClass : GroupClass)
    (parameters : ClassParameters) (secrets : KeyMap String) :
    TellsBareFromRelayed (group.obtainContent groupClass parameters secrets) := by
  -- What is made where there is no content is taken first.
  have makes : TellsBareFromRelayed (do
      let name ← Attempt.within .object (.known group.driverName)
      let created ← Attempt.tellingOn group .createVolumeGroupFailed (some false) <|
        .within .driver (.of (.ask (.createDriverGroup name secrets parameters.driver)))
      let content ← Attempt.within .object <| .known <|
        group.newContent (Resource.displayName groupClass) groupClass.spec.driver created
          parameters.secret
      let content ← Attempt.within .content content.create
      return (content, true)) := by
    refine .then (.known ?_) fun name => .bind (.tellingOn (relaysMistakes_driver fun _ => trivial))
      fun created => ?_
    · -- What a group has no name for at the driver is one without an identity.
      intro cause failed
      unfold Group.driverName Group.uid at failed
      split at failed
      · cases failed
      · cases failed
        nofun
    · -- In a namespace a new content can always be written down.
      obtain ⟨content, same, -⟩ := Group.exists_newContent inSpace
        (Resource.displayName groupClass) groupClass.spec.driver created parameters.secret
      rw [same, Attempt.known_ok_bind]
      exact .bind (.content (relaysMistakes_createContent content)) fun _ => .pure
  have searches : Searches (Attempt.within PassError.content group.lookupContent) := by
    refine Program.Logs.bind (searches_lookupContent inSpace) ?_
    intro log result reached
    cases result with
    | ok found => cases found <;> exact reached
    | error error => exact reached
  unfold Group.obtainContent
  -- The search is unrevealing as long as nothing is found.
  refine Program.Logs.bind searches ?_
  intro log result reached
  cases result with
  | error error =>
    rintro _ cause ⟨⟩ mistaken
    simp [reached.1, reached.2 cause mistaken]
  | ok found =>
    cases found with
    | some content => rintro error cause ⟨⟩
    | none =>
      refine makes.mono ?_
      intro later result weighed error cause failed mistaken
      rw [ObjectError.isRelayed_append reached]
      exact weighed error cause failed mistaken

/-- Mistakes that the second stage of a live group finds are weighed. -/
theorem tellsBareFromRelayed_furnish {group : Group} {space : String}
    (inSpace : group.metadata.namespace = some space) (groupClass : GroupClass)
    (parameters : ClassParameters) (secrets : KeyMap String) (plan : MembershipPlan) :
    TellsBareFromRelayed (group.furnish groupClass parameters secrets plan) := by
  unfold Group.furnish
  refine .then (tellsBareFromRelayed_obtainContent inSpace groupClass parameters secrets)
    fun (content, created) => ?_
  -- The state of the content is told by calls only.
  have states : RelaysMistakes (fun _ => True) (liftM (content.readyStatus plan.volumeNames) :
      Attempt PassError ContentStatus) := .lift (Program.asks_any _) fun _ _ => trivial
  dsimp only
  split
  · rename_i handle _
    refine .bind (relaysMistakes_rememberContent group _) fun named => ?_
    -- The driver is asked for new members only if there are any to add or to take away.
    split
    · exact .bind (.tellingOn (relaysMistakes_driver fun _ => trivial)) fun _ =>
        .bind states fun status => .bind (.content (relaysMistakes_syncContent content status)) fun _ => .pure
    · exact .bind states fun status =>
        .bind (.content (relaysMistakes_syncContent content status)) fun _ => .pure
  · exact .throw rfl rfl

/-- The last stage of a live group echoes mistakes. -/
theorem relaysMistakes_announce (furnished : Group.Furnished) (plan : MembershipPlan)
    (later : Group) : RelaysMistakes (fun _ => True) (furnished.announce plan later) := by
  unfold Group.Furnished.announce
  extract_lets finish tell
  -- What ends the stage is used by both branches, so it is taken first.
  have finishes : RelaysMistakes (fun _ => True) (finish ()) := by
    simp only [finish]
    split
    · exact .throw rfl rfl
    · exact .pure
  have tells : RelaysMistakes (fun _ => True) (tell ()) := by
    simp only [tell]
    split
    · exact .bind (.lift (records_note ..) fun _ _ => trivial) fun _ => finishes
    · exact finishes
  split
  · exact .bind (.lift (records_note ..) fun _ _ => trivial) fun _ => tells
  · exact tells

/-- That a group belongs to no namespace is weighed. -/
theorem tellsBareFromRelayed_homeless :
    TellsBareFromRelayed (throw (.object .noNamespace) : Attempt PassError α) :=
  have lost : ∀ cause, (Except.error .noNamespace : Except ObjectError α) = .error cause →
      ∀ group why, cause ≠ .invalidSelector group why := by
    rintro _ ⟨⟩ group why ⟨⟩
  TellsBareFromRelayed.known lost

/-- Mistakes that a pass over a live group finds are weighed. -/
theorem tellsBareFromRelayed_sync (group : Group) (groupClass : GroupClass)
    (parameters : ClassParameters)
    (secrets : KeyMap String) :
    TellsBareFromRelayed (group.sync groupClass parameters secrets) := by
  -- Without a namespace the pass ends at once.
  cases inSpace : group.metadata.namespace with
  | none =>
    have lost : group.sync groupClass parameters secrets = throw (.object .noNamespace) := by
      rw [Group.sync, Group.namespace, inSpace]
      rfl
    exact lost ▸ tellsBareFromRelayed_homeless
  | some space =>
    rw [Group.sync_eq]
    refine .after (relaysMistakes_prepare inSpace) fun prepared => ?_
    obtain ⟨groups, plan⟩ := prepared
    -- Once the content is there, nothing but calls can tell of a mistake.
    refine .then (tellsBareFromRelayed_furnish inSpace groupClass parameters secrets plan)
      fun furnished => ?_
    exact .bind (relaysMistakes_syncGroup _ _) fun later =>
      .bind (relaysMistakes_releaseClaims _ _) fun _ => relaysMistakes_announce furnished plan later

/-- The driver forgets a group by a call that tells of no mistake. -/
theorem relaysMistakes_deleteAtDriver (group : Group) (handle : String) (secrets : KeyMap String) :
    RelaysMistakes (fun _ => True) (group.deleteAtDriver handle secrets) := by
  -- The driver's answer tells of no object.
  refine .tellingOn (.bind (.outcome _) fun answer => ?_)
  split
  · exact .pure
  · split
    · exact .pure
    · exact .throw rfl rfl

/-- A terminating group is disbanded by calls that echo mistakes. -/
theorem relaysMistakes_disband (group : Group) (space : String) (content : Option Content) :
    RelaysMistakes (fun _ => True) (group.disband space content) := by
  -- The state is written only if there are members to forget.
  have forgets : RelaysMistakes (fun _ => True) group.forgetMembers := by
    unfold Group.forgetMembers
    split
    · exact .pure
    · split
      · exact .pure
      · exact .cluster (.ask (fun answer => ⟨.replaceGroupStatus _, answer⟩)
          (fun _ => rfl) (fun _ => rfl) fun _ => trivial)
  -- Claims and groups are listed, and the claims are let go.
  unfold Group.disband
  refine .bind (.cluster (.ask (fun answer => ⟨.listClaims space, answer⟩) (fun _ => rfl)
    (fun _ => rfl) fun _ => trivial)) fun claims => .bind forgets fun later => ?_
  refine .bind (.cluster (.ask (fun answer => ⟨.listGroups space, answer⟩) (fun _ => rfl)
    (fun _ => rfl) fun _ => trivial)) fun groups => ?_
  exact .bind (relaysMistakes_releaseClaims _ _) fun _ => .pure

/-- A content is deleted by calls that echo mistakes. -/
theorem relaysMistakes_deleteContent (content : Content) :
    RelaysMistakes (fun _ => True) content.delete := by
  -- The mark comes off first.
  have releases : RelaysMistakes (fun _ => True) content.release := by
    unfold Content.release
    split
    · exact .pure
    · exact .bind (.ask (fun answer => ⟨.replaceContent _, answer⟩) (fun _ => rfl)
        (fun _ => rfl) fun _ => trivial) fun _ => .pure
  refine .bind (.within releases fun _ => ⟨rfl, rfl⟩) fun _ => ?_
  refine .tried (fun answer => ⟨.deleteContent _ _, answer⟩) (fun _ => rfl) (fun _ => rfl)
    (fun _ => ⟨trivial, .pure⟩) (fun error other => ⟨trivial, ?_⟩) fun cause => ⟨_, rfl, rfl, rfl⟩
  dsimp only
  split
  · -- A content that is gone already counts as deleted.
    exact .pure
  · exact .throw rfl other

/-- A terminating group departs by calls that echo mistakes. -/
theorem relaysMistakes_depart (group : Group) (content : Option Content) :
    RelaysMistakes (fun _ => True) (group.depart content) := by
  -- The mark of the group is taken off whether or not there was a content.
  have releases : RelaysMistakes (fun _ => True) (do
      Attempt.within PassError.cluster group.release
      return Action.awaitChange) := by
    unfold Group.release
    split
    · exact .pure
    · exact .bind (.cluster (.bind (.ask (fun answer => ⟨.replaceGroup _, answer⟩)
        (fun _ => rfl) (fun _ => rfl) fun _ => trivial) fun _ => .pure)) fun _ => .pure
  unfold Group.depart
  split
  · exact .bind (.content (relaysMistakes_deleteContent _)) fun _ => releases
  · exact releases

/-- Mistakes that a pass over a terminating group finds are weighed. -/
theorem tellsBareFromRelayed_finalize (group : Group) (secrets : KeyMap String) :
    TellsBareFromRelayed (group.finalize secrets) := by
  rw [Group.finalize_eq]
  split
  · -- Without a namespace the pass ends at once.
    cases inSpace : group.metadata.namespace with
    | none =>
      rw [Group.namespace, inSpace]
      exact tellsBareFromRelayed_homeless
    | some space =>
      rw [Attempt.space_bind inSpace]
      -- Once there is a namespace every mistake comes by a call.
      have dissolves : RelaysMistakes (fun _ => True) (group.dissolve secrets) := by
        unfold Group.dissolve
        refine .bind (.tellingOn (.content (searches_lookupContent inSpace).relays)) fun content =>
          ?_
        extract_lets finish
        split
        · exact .bind (relaysMistakes_deleteAtDriver group _ secrets) fun _ => .pure
        · exact .pure
      exact .of_relaysMistakes (.bind dissolves fun content =>
        .bind (relaysMistakes_disband group space content) fun later => relaysMistakes_depart later content)
  · exact .pure _

/-- Mistakes that a pass over a stored group finds are weighed. -/
theorem tellsBareFromRelayed_advance (group : Group) (driver : String) :
    TellsBareFromRelayed (group.advance driver) := by
  unfold Group.advance
  -- The class, its parameters and its secret are read by unrevealing calls.
  refine .after (.tellingOn (relaysMistakes_resolveClass group)) fun groupClass => ?_
  split
  · exact .pure _
  · refine .after (.tellingOn ?_) fun parameters => ?_
    · -- What is wrong with parameters is no mistake of an object.
      cases ClassParameters.resolve groupClass.spec.parameters with
      | ok parameters => exact .pure
      | error cause => exact .throw rfl rfl
    · refine .after (.tellingOn (.within (relaysMistakes_credentials parameters.secret)
        fun _ => ⟨rfl, rfl⟩)) fun secrets => ?_
      split
      · exact tellsBareFromRelayed_finalize group secrets
      · exact .after (.cluster (relaysMistakes_protectGroup group)) fun marked =>
          tellsBareFromRelayed_sync marked groupClass parameters secrets

/-- Mistakes that a pass finds are weighed. -/
theorem tellsBareFromRelayed_reconcile (seen : Group) (driver : String) :
    TellsBareFromRelayed (seen.reconcile driver) := by
  unfold Group.reconcile
  -- Without a namespace the pass ends before any call.
  cases inSpace : seen.metadata.namespace with
  | none =>
    rw [Group.namespace, inSpace]
    exact tellsBareFromRelayed_homeless
  | some space =>
    rw [Attempt.space_bind inSpace]
    refine Program.Logs.bind (logs_outcome
      (fun answer => ⟨.getGroup seen.name space, answer⟩) fun _ => rfl) ?_
    rintro _ _ ⟨answer, rfl, rfl⟩
    cases answer with
    | ok group =>
      refine (tellsBareFromRelayed_advance group driver).mono ?_
      intro later result weighed error cause failed mistaken
      -- The read of the group is unrevealing, so it makes no difference.
      have read : ∀ exchange ∈ [(⟨.getGroup seen.name space, .ok group⟩ : Exchange)],
          exchange.IsUnrevealing := by
        intro exchange logged
        obtain rfl := List.mem_singleton.mp logged
        refine ⟨id, ?_⟩
        rintro _ ⟨⟩
      rw [ObjectError.isRelayed_append read]
      exact weighed error cause failed mistaken
    | error error =>
      show Program.Logs _ (if error.isNotFound then pure .awaitChange else throw (.cluster error) :
        Attempt PassError Action).run
      split
      · rintro _ cause ⟨⟩
      · rintro _ cause ⟨⟩ mistaken
        have told : cause.IsRelayed [⟨.getGroup seen.name space, .error error⟩] :=
          ObjectError.isRelayed_of_objection? (List.mem_singleton_self _) rfl mistaken
        exact ⟨fun alone => absurd alone Bool.false_ne_true, fun alone => absurd told alone⟩

end Attempt

/-- Whoever answers the calls of a pass that fails: if a mistake in an object is at the bottom, the pass is
tried again late exactly if the mistake came by no other way than from the group alone, and what may be
over soon is tried again soon. -/
theorem retry_of_mistake {σ : Type} (respond : σ → (request : Call) → request.Answer × σ) (state : σ)
    (seen : Group) (driver : String) {error : PassError}
    (failed : ((seen.reconcile driver).run.run respond state).1 = .error error) :
    (∀ cause, mistake? error = some cause →
      (¬ cause.IsRelayed ((seen.reconcile driver).run.journal respond state) →
        error.isConfiguration = true ∧ error.retry = .requeue 30) ∧
      (cause.IsRelayed ((seen.reconcile driver).run.journal respond state) →
        error.isConfiguration = false ∧ error.retry = .requeue 5)) ∧
    (error.IsTransient → error.isConfiguration = false ∧ error.retry = .requeue 5) := by
  -- The pass has weighed the mistake against its log.
  have tells := (Attempt.tellsBareFromRelayed_reconcile seen driver).journal respond state
  refine ⟨?_, fun transient => transient.retry⟩
  intro cause mistaken
  have weighed := tells error cause failed mistaken
  obtain ⟨classified, retried⟩ := PassError.isConfiguration_of_mistake mistaken
  rw [classified, retried]
  constructor
  · -- The mistake was found in the group, so it is wrapped in nothing.
    intro alone
    simp [weighed.mpr alone]
  · intro relayed
    -- A mistake that came by a call is wrapped.
    have wrapped : isBare error = false := by
      cases bare : isBare error with
      | false => rfl
      | true => exact absurd relayed (weighed.mp bare)
    simp [wrapped]

namespace Sample

/-- The group without an identity of its own. -/
def nameless : Group := { group with metadata := { group.metadata with uid := none } }

/-- The cluster with that group alone. -/
def anonymous : Store := (cluster.save nameless).2

/-- A content that was made for nobody in particular. -/
def orphan : Content where
  metadata := { name := some "group-content", «namespace» := some "space" }
  spec := {}

/-- The cluster with that group and with a content under the name that the group goes by. -/
def occupied : Store := (anonymous.save orphan).2

/-- A selector that compares in no way there is. -/
def nearness : LabelSelector where
  matchExpressions := some [{ key := "tier", operator := "Near", values := none }]

/-- The group with that selector. -/
def vague : Group := { group with spec := { group.spec with source := { selector := some nearness } } }

/-- The cluster with that group and the claim. -/
def unsorted : Store := ((cluster.save claim).2.save vague).2

/-- Without a content the pass over the group without an identity fails with the mistake itself. -/
theorem fails_anonymous : Rehearsal.verdict { store := anonymous } "driver" nameless =
    .error (.object (.missingUid .group "group")) := by decide +kernel

/-- The plan of the group whose selector makes no sense fails, and the pass with it. -/
theorem fails_unsorted : Rehearsal.verdict { store := unsorted } "driver" vague =
    .error (.membership (.object (.invalidSelector "group" .unknownOperator))) := by
  decide +kernel

end Sample

/-- The pass over a group without an identity is tried again late where the mistake is wrapped in
nothing, which is so without a content, and the one over a group whose selector makes no sense soon. -/
theorem retry_of_nameless_and_vague :
    ∃ error other : PassError,
      Rehearsal.verdict { store := Sample.anonymous } "driver" Sample.nameless = .error error ∧
      Rehearsal.verdict { store := Sample.unsorted } "driver" Sample.vague = .error other ∧
      error.retry = .requeue 30 ∧
      ¬ (ObjectError.missingUid .group "group").IsRelayed
        ((Sample.nameless.reconcile "driver").run.journal Rehearsal.respond
          { store := Sample.anonymous }) ∧
      other.retry = .requeue 5 := by
  -- Both verdicts are known, so the theorem says when to try again.
  have late := retry_of_mistake Rehearsal.respond { store := Sample.anonymous } Sample.nameless
    "driver" Sample.fails_anonymous
  have soon := retry_of_mistake Rehearsal.respond { store := Sample.unsorted } Sample.vague
    "driver" Sample.fails_unsorted
  have alone : ¬ (ObjectError.missingUid .group "group").IsRelayed
      ((Sample.nameless.reconcile "driver").run.journal Rehearsal.respond
        { store := Sample.anonymous }) := by
    -- Had the mistake been relayed, it would be wrapped.
    intro relayed
    cases ((late.1 _ rfl).2 relayed).1
  exact ⟨_, _, Sample.fails_anonymous, Sample.fails_unsorted, ((late.1 _ rfl).1 alone).2, alone,
    ((soon.1 _ rfl).2 (.inl ⟨_, _, rfl⟩)).2⟩

/-- The same mistake is taken for one where there is no content and for none where there is one, and a
selector that makes no sense never counts as a mistake. -/
theorem mistake_weighed_unlike :
    (∃ error other : PassError,
      Rehearsal.verdict { store := Sample.anonymous } "driver" Sample.nameless = .error error ∧
      Rehearsal.verdict { store := Sample.occupied } "driver" Sample.nameless = .error other ∧
      mistake? error = mistake? other ∧
      error.isConfiguration = true ∧ error.retry = .requeue 30 ∧
      other.isConfiguration = false ∧ other.retry = .requeue 5) ∧
    ∃ (error : PassError) (why : SelectorError),
      Rehearsal.verdict { store := Sample.unsorted } "driver" Sample.vague = .error error ∧
      mistake? error = some (.invalidSelector "group" why) ∧
      error.isConfiguration = false ∧ error.retry = .requeue 5 := by
  -- Where there is a content, the same mistake is wrapped.
  have found : Rehearsal.verdict { store := Sample.occupied } "driver" Sample.nameless =
      .error (.content (.object (.missingUid .group "group"))) := by decide +kernel
  exact ⟨⟨_, _, Sample.fails_anonymous, found, rfl, rfl, rfl, rfl, rfl⟩,
    ⟨_, _, Sample.fails_unsorted, rfl, rfl, rfl⟩⟩

end VolumeGroups
