import VolumeGroups.Proofs.Operator.Common
import VolumeGroups.Proofs.Operator.Logged

/-! What a pass hands to the driver: the free parameters of its class and the credentials that the class
points to, and nothing at all before it has them. -/

namespace VolumeGroups

/-- What comes of reading a secret, by the answer to the read. -/
def fetched (name space : String) :
    Except ClusterError Secret → Except SecretError (KeyMap String)
  | .ok secret => secret.texts name space
  | .error cause =>
    .error (if cause.isNotFound then .notFound name space else .unavailable name space cause)

/-- The calls by which the credentials at a location are read, and what comes of them. -/
inductive SecretLocation.Reads (location : SecretLocation) :
    List Exchange → Except SecretError (KeyMap String) → Prop where
  /-- The location is incomplete. -/
  | nothing (lacks : location.both = none) : Reads location [] (.ok ∅)
  /-- The location names a secret. -/
  | secret {name space : String} (points : location.both = some (name, space))
    (answer : Except ClusterError Secret) :
    Reads location [⟨.getSecret name space, answer⟩] (fetched name space answer)

namespace SecretLocation

variable {location : SecretLocation}

/-- An incomplete location holds no credentials, and nothing is read to find that. -/
theorem credentials_of_none (lacks : location.both = none) :
    location.credentials.run = .done (.ok ∅) := by
  unfold credentials
  rw [lacks]
  rfl

/-- Credentials at a complete location are read by one call. -/
theorem credentials_of_some {name space : String} (points : location.both = some (name, space)) :
    location.credentials.run =
      .call (.getSecret name space) fun answer => .done (fetched name space answer) := by
  unfold credentials
  rw [points]
  -- The answer to the read is all that is looked at.
  show Program.call (.getSecret name space) _ = _
  refine congrArg _ (funext fun answer => ?_)
  cases answer <;> rfl

/-- Credentials are read by one call at most. -/
theorem logs_credentials (location : SecretLocation) :
    location.credentials.run.Logs location.Reads := by
  cases points : location.both with
  | none =>
    rw [credentials_of_none points]
    exact .nothing points
  | some both =>
    rw [credentials_of_some points]
    exact .secret points

end SecretLocation

/-- A call that a pass makes before it has credentials, or to tell why it has none. -/
def Call.IsEarly : Call → Prop
  | .getGroup .. | .getClass _ | .replaceGroupStatus _ | .record _ => True
  | _ => False

/-- A call to the driver, or one that writes a claim or a content. -/
def Call.IsWeighty : Call → Prop
  | .createDriverGroup .. | .deleteDriverGroup .. | .modifyMembership .. | .replaceClaim _
  | .createContent _ | .replaceContent _ | .replaceContentStatus _ | .deleteContent .. => True
  | _ => False

/-- What is early is not weighty. -/
theorem Call.IsEarly.not_isWeighty {request : Call} (early : request.IsEarly) :
    ¬ request.IsWeighty := by
  cases request <;> first | exact early.elim | exact id

/-- A call that hands to the driver what a class has for it, if it hands anything. -/
def Call.Hands (parameters : ClassParameters) (secrets : KeyMap String) : Call → Prop
  | .createDriverGroup _ given chosen => given = secrets ∧ chosen = parameters.driver
  | .deleteDriverGroup _ given | .modifyMembership _ _ given => given = secrets
  | _ => True

/-- What is early hands nothing to the driver. -/
theorem Call.IsEarly.hands {parameters : ClassParameters} {secrets : KeyMap String} {request : Call}
    (early : request.IsEarly) : request.Hands parameters secrets := by
  cases request <;> first | exact early.elim | trivial

/-- The calls that read secrets. -/
def secretReads (log : List Exchange) : List Exchange :=
  log.filter fun exchange => exchange.request.method = .getSecret

/-- A secret that is read is read by one of them. -/
theorem mem_secretReads {log : List Exchange} {name space : String}
    {answer : Except ClusterError Secret} :
    ⟨.getSecret name space, answer⟩ ∈ secretReads log ↔ ⟨.getSecret name space, answer⟩ ∈ log := by
  simp [secretReads, Call.method]

/-- Early calls read no secrets. -/
theorem secretReads_of_early {log : List Exchange}
    (early : ∀ exchange ∈ log, exchange.request.IsEarly) : secretReads log = [] := by
  refine List.filter_eq_nil_iff.mpr fun exchange logged => ?_
  have sort := early exchange logged
  obtain ⟨request, answer⟩ := exchange
  cases request <;> first | exact sort.elim | simp [Call.method]

/-- The calls of two logs that read secrets are those of either. -/
theorem secretReads_append (later earlier : List Exchange) :
    secretReads (later ++ earlier) = secretReads later ++ secretReads earlier :=
  List.filter_append ..

namespace SecretLocation.Reads

variable {location : SecretLocation} {reads : List Exchange}
  {result : Except SecretError (KeyMap String)}

/-- Credentials are read by calls that read secrets. -/
theorem secretReads_eq (reading : location.Reads reads result) : secretReads reads = reads := by
  cases reading <;> rfl

/-- Nothing weighty is done to read credentials. -/
theorem not_isWeighty (reading : location.Reads reads result) :
    ∀ exchange ∈ reads, ¬ exchange.request.IsWeighty := by
  cases reading with
  | nothing => exact List.forall_mem_nil _
  | secret => exact List.forall_mem_singleton.mpr id

/-- Nothing is handed to the driver to read credentials. -/
theorem hands (reading : location.Reads reads result) (parameters : ClassParameters)
    (secrets : KeyMap String) : ∀ exchange ∈ reads, exchange.request.Hands parameters secrets := by
  cases reading with
  | nothing => exact List.forall_mem_nil _
  | secret => exact List.forall_mem_singleton.mpr trivial

end SecretLocation.Reads

/-- A call that reads no secrets and hands to the driver what a class has for it. -/
def Call.IsHanding (parameters : ClassParameters) (secrets : KeyMap String) (request : Call) : Prop :=
  request.Hands parameters secrets ∧ request.method ≠ .getSecret

/-- What is common hands nothing to the driver. -/
theorem Call.IsCommon.isHanding {parameters : ClassParameters} {secrets : KeyMap String}
    {request : Call} (common : request.IsCommon) : request.IsHanding parameters secrets := by
  cases request <;> first | exact common.elim | exact ⟨trivial, by simp [Call.method]⟩

namespace Attempt

variable {ε α : Type} {parameters : ClassParameters} {secrets : KeyMap String}

/-- An attempt that hands to the driver what a class has for it, and reads no credentials. -/
def Hands (parameters : ClassParameters) (secrets : KeyMap String) (attempt : Attempt ε α) : Prop :=
  attempt.Asks (Call.IsHanding parameters secrets) fun _ => True

/-- What is common hands nothing to the driver. -/
theorem IsCommon.hands {attempt : Attempt ε α} (common : attempt.IsCommon) :
    attempt.Hands parameters secrets :=
  common.mono (fun _ sort => sort.isHanding) fun _ => id

/-- To tell a failure hands nothing to the driver. -/
theorem Hands.tellingOn {attempt : Attempt PassError α} (hands : attempt.Hands parameters secrets)
    {group : Group} {reason : Reason} {ready : Option Bool} :
    (attempt.tellingOn group reason ready).Hands parameters secrets :=
  Asks.tellingOn hands fun error =>
    (group.common_tell reason ready error).mono (fun _ sort => sort.isHanding) fun _ => id

/-- A single call whose failure is told hands what the call does. -/
theorem hands_driver {program : Program (Except DriverError α)} {group : Group} {reason : Reason}
    {ready : Option Bool} (asks : program.Asks (Call.IsHanding parameters secrets) fun _ => True) :
    Hands parameters secrets
      (tellingOn group reason ready (Attempt.within PassError.driver (.of program))) :=
  Hands.tellingOn (.within (.only asks))

/-- A content is obtained with what the class has for the driver. -/
theorem hands_obtainContent (group : Group) (groupClass : GroupClass) :
    Hands parameters secrets (group.obtainContent groupClass parameters secrets) := by
  unfold Group.obtainContent
  refine .bind (IsEventless.isCommon (.within (eventless_lookupContent group))).hands
    fun found _ => ?_
  cases found with
  | some content => exact .pure trivial
  | none =>
    -- The driver makes the group first, and only then is a content written for it.
    refine .bind (.within (.known (gives_any _))) fun name _ => ?_
    refine .bind (hands_driver ⟨⟨⟨rfl, rfl⟩, nofun⟩, fun _ => trivial⟩) fun created _ => ?_
    refine .bind (.within (.known (gives_any _))) fun content _ => ?_
    refine .bind (IsEventless.isCommon (.within (eventless_createContent content))).hands
      fun _ _ => ?_
    exact .pure trivial

/-- Content and driver are brought in line with a plan with what the class has for the driver. -/
theorem hands_furnish (group : Group) (groupClass : GroupClass) (plan : MembershipPlan) :
    Hands parameters secrets (group.furnish groupClass parameters secrets plan) := by
  unfold Group.furnish
  refine .bind (hands_obtainContent group groupClass) ?_
  rintro ⟨content, created⟩ _
  dsimp -zeta only
  extract_lets contentName
  -- Without a handle the driver is not asked.
  cases content.handle? with
  | none => exact .throw
  | some handle =>
    refine .bind (eventless_rememberContent group contentName).isCommon.hands fun own _ => ?_
    extract_lets finish
    -- What comes last is the state of the content.
    have finishes : Hands parameters secrets (finish ()) := by
      refine .bind (IsCommon.hands (.lift (eventless_readyStatus content plan.volumeNames).isCommon))
        fun status _ => ?_
      refine .bind (IsEventless.isCommon (.within (eventless_syncContent content status))).hands
        fun _ _ => ?_
      exact .pure trivial
    -- The driver is told the members, unless its group is new and to have none.
    split
    · exact .bind (hands_driver ⟨⟨rfl, nofun⟩, fun _ => trivial⟩) fun _ _ => finishes
    · exact finishes

/-- A pass over a live group hands to the driver what the class has for it. -/
theorem hands_sync (group : Group) (groupClass : GroupClass) :
    Hands parameters secrets (group.sync groupClass parameters secrets) := by
  rw [Group.sync_eq]
  -- The plan is made before anything is handed to the driver.
  refine .bind (common_prepare group).hands ?_
  rintro ⟨groups, plan⟩ _
  refine .bind (hands_furnish group groupClass plan) fun furnished _ => ?_
  refine .bind (eventless_syncGroup furnished.group (furnished.status plan)).isCommon.hands
    fun later _ => ?_
  refine .bind (eventless_releaseClaims ..).isCommon.hands fun _ _ => ?_
  exact (common_announce furnished plan later).hands

/-- A pass over a terminating group hands to the driver what the class has for it. -/
theorem hands_finalize (group : Group) : Hands parameters secrets (group.finalize secrets) := by
  rw [Group.finalize_eq]
  split
  · -- The driver is asked to delete the group with the credentials.
    have deletes (handle : String) : Hands parameters secrets (group.deleteAtDriver handle secrets) := by
      refine Hands.tellingOn ?_
      refine .bind (.outcome (.only ⟨⟨rfl, nofun⟩, fun _ => trivial⟩)) fun answer _ => ?_
      split
      · exact .pure trivial
      · split
        · exact .pure trivial
        · exact .throw
    -- The content is looked up first, which is a common call.
    have dissolves : Hands parameters secrets (group.dissolve secrets) := by
      unfold Group.dissolve
      refine .bind (IsCommon.tellingOn (.within (eventless_lookupContent group).isCommon)).hands
        fun content _ => ?_
      extract_lets finish
      split
      · exact .bind (deletes _) fun _ _ => .pure trivial
      · exact .pure trivial
    refine .bind (.within (.known (gives_any _))) fun space _ => ?_
    refine .bind dissolves fun content _ => ?_
    refine .bind (eventless_disband group space content).isCommon.hands fun later _ => ?_
    exact (eventless_depart later content).isCommon.hands
  · exact .pure trivial

/-- A failure logs nothing. -/
theorem logs_throw {goal : List Exchange → Except ε α → Prop} {error : ε}
    (reached : goal [] (.error error)) : (throw error : Attempt ε α).run.Logs goal := reached

/-- One attempt after another logs the calls of both, or those of the first alone if it fails. -/
theorem logs_bind {β : Type} {goal : List Exchange → Except ε α → Prop}
    {final : List Exchange → Except ε β → Prop} {attempt : Attempt ε α} {next : α → Attempt ε β}
    (first : attempt.run.Logs goal) (fails : ∀ log error, goal log (.error error) →
      final log (.error error))
    (second : ∀ log value, goal log (.ok value) →
      (next value).run.Logs fun later result => final (later ++ log) result) :
    (attempt >>= next).run.Logs final := by
  -- The log of the second attempt lies on top of that of the first.
  refine Program.Logs.bind first ?_
  intro log result reached
  cases result with
  | ok value => exact second log value reached
  | error error => exact fails log error reached

/-- A failure that is told is logged with the early calls by which it is told. -/
theorem logs_tellingOn {goal : List Exchange → Except PassError α → Prop}
    {attempt : Attempt PassError α} {group : Group} {reason : Reason} {ready : Option Bool}
    (logs : attempt.run.Logs goal) :
    (attempt.tellingOn group reason ready).run.Logs fun log result =>
      (∃ value, result = .ok value ∧ goal log result) ∨ ∃ error told earlier, result = .error error ∧
        log = told ++ earlier ∧ (∀ exchange ∈ told, exchange.request.IsEarly) ∧
        goal earlier result := by
  refine Program.Logs.bind logs ?_
  intro log result reached
  cases result with
  | ok value => exact .inl ⟨value, rfl, reached⟩
  | error error =>
    -- Telling writes the state and records an event, and both are early.
    have tells : (group.tell reason ready error).Asks Call.IsEarly fun _ => True :=
      Group.asks_tell_of trivial (fun _ => trivial) reason
    refine Program.Logs.bind tells.logs ?_
    intro told _ early
    exact .inr ⟨error, told, log, rfl, by simp, early.1, reached⟩

end Attempt

/-- How a pass comes by what it hands to the driver, by its calls and its result. -/
inductive Supplied (log : List Exchange) : Except PassError Action → Prop where
  /-- It ends before it comes to credentials. -/
  | aside {result : Except PassError Action}
    (early : ∀ exchange ∈ log, exchange.request.IsEarly) : Supplied log result
  /-- It has a class and ends because the credentials cannot be had. -/
  | denied {className : String} {groupClass : GroupClass} {parameters : ClassParameters}
    {cause : SecretError} (read : ⟨.getClass className, .ok groupClass⟩ ∈ log)
    (accepted : ClassParameters.resolve groupClass.spec.parameters = .ok parameters)
    (fails : parameters.secret.Reads (secretReads log) (.error cause))
    (spares : ∀ exchange ∈ log, ¬ exchange.request.IsWeighty) :
    Supplied log (.error (.secret cause))
  /-- It has a class and credentials, and hands them to the driver. -/
  | served {className : String} {groupClass : GroupClass} {parameters : ClassParameters}
    {secrets : KeyMap String} {result : Except PassError Action}
    (read : ⟨.getClass className, .ok groupClass⟩ ∈ log)
    (accepted : ClassParameters.resolve groupClass.spec.parameters = .ok parameters)
    (arrives : parameters.secret.Reads (secretReads log) (.ok secrets))
    (hands : ∀ exchange ∈ log, exchange.request.Hands parameters secrets) : Supplied log result

/-- The class of a group is read by one early call. -/
theorem Group.logs_resolveClass (group : Group) :
    group.resolveClass.run.Logs fun log result =>
      (∀ exchange ∈ log, exchange.request.IsEarly) ∧ ∀ groupClass, result = .ok groupClass →
        ∃ className, ⟨.getClass className, .ok groupClass⟩ ∈ log := by
  -- Without a name no class is read.
  unfold resolveClass
  split
  · refine Attempt.logs_throw ⟨List.forall_mem_nil _, ?_⟩
    rintro _ ⟨⟩
  · rename_i name _
    intro answer
    -- The read is the only call.
    have early : ∀ exchange ∈ [(⟨.getClass name, answer⟩ : Exchange)], exchange.request.IsEarly :=
      List.forall_mem_singleton.mpr trivial
    cases answer with
    | ok groupClass =>
      refine ⟨early, ?_⟩
      rintro _ ⟨⟩
      exact ⟨name, List.mem_singleton_self _⟩
    | error cause =>
      refine ⟨early, ?_⟩
      rintro _ ⟨⟩

/-- A pass that has a class of its own driver and its parameters reads credentials before all else. -/
theorem Group.logs_serve (group : Group) {groupClass : GroupClass} {parameters : ClassParameters}
    (accepted : ClassParameters.resolve groupClass.spec.parameters = .ok parameters) :
    Program.Logs (fun log result => ∀ (className : String) (earlier : List Exchange),
        (∀ exchange ∈ earlier, exchange.request.IsEarly) →
        ⟨.getClass className, .ok groupClass⟩ ∈ earlier → Supplied (log ++ earlier) result)
      (do
        let secrets ← Attempt.tellingOn group .secretResolutionFailed none <|
          .within .secret parameters.secret.credentials
        if group.isTerminating then group.finalize secrets
        else
          let group ← Attempt.within .cluster group.protect
          group.sync groupClass parameters secrets : Attempt PassError Action).run := by
  -- The failure is wrapped for the pass, but the calls are those of the credentials alone.
  have reading : (Attempt.within PassError.secret parameters.secret.credentials).run.Logs
      fun log result => ∃ read, result = read.mapError .secret ∧ parameters.secret.Reads log read := by
    refine Program.Logs.bind parameters.secret.logs_credentials ?_
    intro log read reads
    cases read <;> exact ⟨_, rfl, reads⟩
  refine Attempt.logs_bind (Attempt.logs_tellingOn reading) ?_ ?_
  · -- The failure is told, and nothing comes after that.
    rintro _ error (⟨_, ⟨⟩, _⟩ | ⟨_, told, log, ⟨⟩, rfl, early, read, same, reads⟩) className earlier
      before known
    cases read with
    | ok => cases same
    | error cause =>
      cases same
      refine .denied (List.mem_append_right _ known) accepted ?_ ?_
      · rw [secretReads_append, secretReads_append, secretReads_of_early early,
          secretReads_of_early before, reads.secretReads_eq, List.nil_append, List.append_nil]
        exact reads
      · refine List.forall_mem_append.mpr ⟨List.forall_mem_append.mpr ⟨?_, reads.not_isWeighty⟩, ?_⟩
        · exact fun exchange logged => (early exchange logged).not_isWeighty
        · exact fun exchange logged => (before exchange logged).not_isWeighty
  · rintro log secrets (⟨_, ⟨⟩, read, same, reads⟩ | ⟨_, _, _, ⟨⟩, _⟩)
    cases read with
    | error => cases same
    | ok =>
      cases same
      -- Whichever way the pass goes on, it reads no secret again, so the reads are still these.
      have goes {attempt : Attempt PassError Action} (hands : attempt.Hands parameters secrets) :
          attempt.run.Logs fun later result => ∀ (className : String) (earlier : List Exchange),
            (∀ exchange ∈ earlier, exchange.request.IsEarly) →
            ⟨.getClass className, .ok groupClass⟩ ∈ earlier →
              Supplied (later ++ log ++ earlier) result := by
        refine (Program.Asks.logs hands).mono ?_
        intro later result after className earlier before known
        have silent : secretReads later = [] :=
          List.filter_eq_nil_iff.mpr fun exchange logged => by simpa using (after.1 exchange logged).2
        have arrives : parameters.secret.Reads (secretReads (later ++ log ++ earlier)) (.ok secrets) := by
          rw [secretReads_append, secretReads_append, silent, secretReads_of_early before,
            reads.secretReads_eq, List.nil_append, List.append_nil]
          exact reads
        refine .served (List.mem_append_right _ known) accepted arrives ?_
        refine List.forall_mem_append.mpr ⟨List.forall_mem_append.mpr ⟨?_, reads.hands _ _⟩, ?_⟩
        · exact fun exchange logged => (after.1 exchange logged).1
        · exact fun exchange logged => (before exchange logged).hands
      -- A terminating group is dissolved, and a live one is protected before it is served.
      split
      · exact goes (Attempt.hands_finalize group)
      · refine goes (.bind (Attempt.IsEventless.isCommon ?_).hands fun own _ => ?_)
        · exact .within (Attempt.eventless_protectGroup group)
        · exact Attempt.hands_sync own groupClass

/-- A pass over a stored group comes by what it hands to the driver in one of these ways. -/
theorem Group.logs_advance (group : Group) (driver : String) :
    (group.advance driver).run.Logs fun log result => ∀ earlier : List Exchange,
      (∀ exchange ∈ earlier, exchange.request.IsEarly) → Supplied (log ++ earlier) result := by
  have both {later earlier : List Exchange} (after : ∀ exchange ∈ later, exchange.request.IsEarly)
      (before : ∀ exchange ∈ earlier, exchange.request.IsEarly) :
      ∀ exchange ∈ later ++ earlier, exchange.request.IsEarly :=
    List.forall_mem_append.mpr ⟨after, before⟩
  unfold advance
  -- A pass ends aside without a class, with a class of another driver, and with bad parameters.
  refine Attempt.logs_bind (Attempt.logs_tellingOn group.logs_resolveClass) ?_ ?_
  · rintro _ error (⟨_, ⟨⟩, _⟩ | ⟨_, told, reads, _, rfl, telling, early, _⟩) earlier before
    exact .aside (both (both telling early) before)
  · -- The class was read, and it may be another driver's.
    rintro log groupClass (⟨_, ⟨⟩, early, found⟩ | ⟨_, _, _, ⟨⟩, _⟩)
    obtain ⟨className, read⟩ := found groupClass rfl
    split
    · exact fun earlier before => .aside (both early before)
    · cases accepted : ClassParameters.resolve groupClass.spec.parameters with
      -- Parameters that are refused were read from nowhere.
      | error cause =>
        have refused : (Attempt.within (PassError.parameters (Resource.displayName groupClass))
            (.known (.error cause) : Attempt ParameterError ClassParameters)).run.Logs
              fun log result => log = [] ∧ ∃ error, result = .error error := ⟨rfl, _, rfl⟩
        refine Attempt.logs_bind (Attempt.logs_tellingOn refused) ?_ ?_
        · rintro _ error (⟨_, ⟨⟩, _⟩ | ⟨_, told, _, _, rfl, telling, rfl, _⟩) earlier before
          rw [List.append_nil]
          exact .aside (both (both telling early) before)
        · rintro _ _ (⟨_, ⟨⟩, _, _, ⟨⟩⟩ | ⟨_, _, _, ⟨⟩, _⟩)
      | ok parameters =>
        refine (group.logs_serve accepted).mono ?_
        intro later result supplied earlier before
        rw [List.append_assoc]
        exact supplied className _ (both early before) (List.mem_append_left _ read)

/-- A pass comes by what it hands to the driver in one of these ways. -/
theorem Group.logs_reconcile (seen : Group) (driver : String) :
    (seen.reconcile driver).run.Logs Supplied := by
  have nothing : ∀ exchange ∈ ([] : List Exchange), exchange.request.IsEarly := List.forall_mem_nil _
  unfold reconcile
  -- Without a namespace the pass makes no call.
  cases seen.namespace with
  | error cause => exact Attempt.logs_throw (.aside nothing)
  | ok space =>
    intro answer
    have early : ∀ exchange ∈ [(⟨.getGroup seen.name space, answer⟩ : Exchange)],
        exchange.request.IsEarly := List.forall_mem_singleton.mpr trivial
    cases answer with
    | ok group => exact (group.logs_advance driver).mono fun log result supplied => supplied _ early
    | error cause =>
      show Program.Logs _ (if cause.isNotFound then pure .awaitChange else throw (.cluster cause) :
        Attempt PassError Action).run
      split <;> exact .aside early

end VolumeGroups
