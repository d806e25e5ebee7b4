import VolumeGroups.Proofs.Provision.Split
import VolumeGroups.Proofs.Secrecy.Concealment

/-! Credentials arrive byte for byte as they lie in the secret that a class points to, or not at all. -/

namespace VolumeGroups

/-- The data of a secret, none if it has no map of them. -/
def Secret.contents (secret : Secret) : KeyMap (List UInt8) := secret.data.getD ∅

/-- What comes of reading the credentials under some name, by the answer to the read. -/
inductive Fetches (name space : String) :
    Except ClusterError Secret → Except SecretError (KeyMap String) → Prop where
  /-- Each key has the text whose bytes lie under it, and there are no other keys. -/
  | whole {secret : Secret} {texts : KeyMap String}
    (bytes : ∀ key, (texts.get? key).map (fun text => text.toUTF8.toList) = secret.contents.get? key) :
    Fetches name space (.ok secret) (.ok texts)
  /-- Some bytes are no text, and the first key of such bytes is told. -/
  | garbled {secret : Secret} {key : String} {value : List UInt8}
    (first : secret.contents.IsFirst (fun _ value => ¬ IsText value) key value) :
    Fetches name space (.ok secret) (.error (.invalidData name space key))
  /-- There is no such secret. -/
  | missing (kind : Kind) (object : String) :
    Fetches name space (.error (.notFound kind object)) (.error (.notFound name space))
  /-- The read fails for another reason. -/
  | unread {cause : ClusterError} (other : ∀ kind object, cause ≠ .notFound kind object) :
    Fetches name space (.error cause) (.error (.unavailable name space cause))

/-- What is read from a secret has, under each key, the text whose bytes lie there. -/
theorem Secret.get?_texts {secret : Secret} {name space : String} {texts : KeyMap String}
    (readable : secret.texts name space = .ok texts) (key : String) :
    (texts.get? key).map (fun text => text.toUTF8.toList) = secret.contents.get? key := by
  -- Looking a key up before and after the reading gives values that belong together.
  have related := KeyMap.get?_traverse readable key
  rw [show secret.data.getD ∅ = secret.contents from rfl] at related
  generalize secret.contents.get? key = lies at related ⊢
  generalize texts.get? key = read at related ⊢
  -- A key has a text exactly where it has a value, and the value was read as that text.
  cases related with
  | none => rfl
  | @some value text same =>
    split at same
    · rename_i found
      cases same
      exact congrArg some (fromUTF8?_eq_some_iff.mp found)
    · cases same

/-- A secret that cannot be read fails for the first of its values that is no text. -/
theorem Secret.isFirst_of_texts {secret : Secret} {name space : String} {error : SecretError}
    (failed : secret.texts name space = .error error) :
    ∃ key value, secret.contents.IsFirst (fun _ value => ¬ IsText value) key value ∧
      error = .invalidData name space key := by
  -- The first value that fails is the first that is no text.
  obtain ⟨key, value, first, refused⟩ := KeyMap.traverse_eq_error failed
  split at refused
  · cases refused
  · rename_i unread
    cases refused
    refine ⟨key, value, ⟨first.found, fromUTF8?_eq_none_iff.mp unread, ?_⟩, rfl⟩
    intro other worth found wrong
    exact first.least other worth found ⟨_, by rw [fromUTF8?_eq_none_iff.mpr wrong]⟩

/-- What a pass makes of the answer is what comes of it. -/
theorem fetches_fetched (name space : String) (answer : Except ClusterError Secret) :
    Fetches name space answer (fetched name space answer) := by
  -- The answer is a secret or the reason why there is none.
  cases answer with
  | ok secret =>
    show Fetches name space (.ok secret) (secret.texts name space)
    cases read : secret.texts name space with
    | ok texts => exact .whole (Secret.get?_texts read)
    | error cause =>
      obtain ⟨key, value, first, rfl⟩ := Secret.isFirst_of_texts read
      exact .garbled first
  | error cause =>
    cases cause with
    | notFound kind object => exact .missing kind object
    | _ => exact .unread nofun

/-- What lies under a key is a text if the credentials have its bytes there. -/
theorem Secret.isText_of_bytes {secret : Secret} {texts : KeyMap String} {key : String}
    {value : List UInt8}
    (bytes : ∀ key, (texts.get? key).map (fun text => text.toUTF8.toList) = secret.contents.get? key)
    (lies : secret.contents.get? key = some value) : IsText value := by
  rw [← bytes] at lies
  obtain ⟨text, -, same⟩ := Option.map_eq_some_iff.mp lies
  exact isText_iff.mpr ⟨text, same⟩

namespace Fetches

variable {name space : String}

/-- Credentials come of a secret exactly if all its values are texts. -/
theorem isOk_iff {secret : Secret} {result : Except SecretError (KeyMap String)}
    (fetches : Fetches name space (.ok secret) result) :
    (∃ texts, result = .ok texts) ↔
      ∀ key value, secret.contents.get? key = some value → IsText value := by
  -- The texts tell what the bytes are.
  cases fetches with
  | @whole _ texts bytes =>
    exact ⟨fun _ _ _ lies => Secret.isText_of_bytes bytes lies, fun _ => ⟨texts, rfl⟩⟩
  | @garbled _ key value first =>
    refine ⟨?_, fun legible => absurd (legible key value first.found) first.fits⟩
    rintro ⟨texts, ⟨⟩⟩

/-- Only one thing comes of an answer. -/
theorem unique {answer : Except ClusterError Secret} {one other : Except SecretError (KeyMap String)}
    (fetches : Fetches name space answer one) (again : Fetches name space answer other) :
    one = other := by
  -- Whether a secret has credentials is decided by its values, and a failed read by its cause.
  cases fetches with
  | whole bytes =>
    cases again with
    | whole others =>
      refine congrArg Except.ok (KeyMap.eq_of_get? fun key => ?_)
      exact Option.map_injective toList_toUTF8_injective ((bytes key).trans (others key).symm)
    | garbled first => exact absurd (Secret.isText_of_bytes bytes first.found) first.fits
  | garbled first =>
    cases again with
    | whole bytes => exact absurd (Secret.isText_of_bytes bytes first.found) first.fits
    | garbled second => rw [first.unique second]
  | missing kind object =>
    cases again with
    | missing => rfl
    | unread other => exact absurd rfl (other kind object)
  | unread other =>
    cases again with
    | missing kind object => exact absurd rfl (other kind object)
    | unread => rfl

end Fetches

/-- A call hands these credentials to the driver. -/
def Call.handed? : Call → Option (KeyMap String)
  | .createDriverGroup _ secrets _ | .modifyMembership _ _ secrets | .deleteDriverGroup _ secrets =>
    some secrets
  | _ => none

/-- Credentials that a class with some parameters points to, by the calls of a pass. -/
inductive Arrives (log : List Exchange) (parameters : KeyMap String) : KeyMap String → Prop where
  /-- The class points to no secret, and none is read. -/
  | nothing
    (lacks : parameters.get? secretNameKey = none ∨ parameters.get? secretNamespaceKey = none)
    (unread : ∀ name space answer, ⟨.getSecret name space, answer⟩ ∉ log) :
    Arrives log parameters ∅
  /-- The secret is read, and its data arrive whole. -/
  | secret {name space : String} {answer : Except ClusterError Secret} {secrets : KeyMap String}
    (named : parameters.get? secretNameKey = some name)
    (placed : parameters.get? secretNamespaceKey = some space)
    (read : ⟨.getSecret name space, answer⟩ ∈ log)
    (whole : Fetches name space answer (.ok secrets)) : Arrives log parameters secrets

/-- Both halves of a location are those that the parameters give. -/
theorem ClassParameters.Splits.both_eq {resolved : ClassParameters} {parameters : KeyMap String}
    (splits : resolved.Splits parameters) {name space : String} :
    resolved.secret.both = some (name, space) ↔
      parameters.get? secretNameKey = some name ∧ parameters.get? secretNamespaceKey = some space := by
  rw [← splits.name, ← splits.space]
  unfold SecretLocation.both
  cases resolved.secret.name <;> cases resolved.secret.namespace <;> simp

/-- A location is incomplete exactly if the parameters lack a half of it. -/
theorem ClassParameters.Splits.both_eq_none {resolved : ClassParameters} {parameters : KeyMap String}
    (splits : resolved.Splits parameters) : resolved.secret.both = none ↔
      parameters.get? secretNameKey = none ∨ parameters.get? secretNamespaceKey = none := by
  rw [← splits.name, ← splits.space]
  unfold SecretLocation.both
  cases resolved.secret.name <;> cases resolved.secret.namespace <;> simp

/-- What hands credentials to the driver is weighty. -/
theorem Call.isWeighty_of_handed? {request : Call} {secrets : KeyMap String}
    (handed : request.handed? = some secrets) : request.IsWeighty := by
  cases request <;> first | cases handed <;> done | trivial

/-- What a call hands to the driver is what the class has for it. -/
theorem Call.Hands.eq_of_handed? {request : Call} {parameters : ClassParameters}
    {secrets given : KeyMap String} (hands : request.Hands parameters secrets)
    (handed : request.handed? = some given) : given = secrets := by
  cases request with
  | createDriverGroup => exact (Option.some.inj handed).symm.trans hands.1
  | deleteDriverGroup | modifyMembership => exact (Option.some.inj handed).symm.trans hands
  | _ => cases handed

/-- Credentials that were read at the location of a class arrive. -/
theorem SecretLocation.Reads.arrives {log : List Exchange} {parameters : KeyMap String}
    {resolved : ClassParameters} (splits : resolved.Splits parameters) {secrets : KeyMap String}
    (reads : resolved.secret.Reads (secretReads log) (.ok secrets)) : Arrives log parameters secrets := by
  generalize known : secretReads log = calls at reads
  generalize same : Except.ok secrets = outcome at reads
  cases reads with
  -- Without a complete location nothing is read.
  | nothing lacks =>
    cases same
    refine .nothing (splits.both_eq_none.mp lacks) fun name space answer read => ?_
    have listed := mem_secretReads.mpr read
    rw [known] at listed
    cases listed
  -- The one read is the one at the location that the class gives.
  | @secret name space points answer =>
    obtain ⟨named, placed⟩ := splits.both_eq.mp points
    have read : ⟨.getSecret name space, answer⟩ ∈ log :=
      mem_secretReads.mp (known ▸ List.mem_singleton_self _)
    exact .secret named placed read (same ▸ fetches_fetched name space answer)

/-- What a pass hands to the driver are the credentials that its class points to. -/
theorem Supplied.arrives {log : List Exchange} {result : Except PassError Action}
    (supplied : Supplied log result) {exchange : Exchange} (logged : exchange ∈ log)
    {secrets : KeyMap String} (handed : exchange.request.handed? = some secrets) :
    ∃ className groupClass, ⟨.getClass className, .ok groupClass⟩ ∈ log ∧
      Arrives log groupClass.spec.parameters secrets := by
  have weighty := Call.isWeighty_of_handed? handed
  -- A pass that ends before it has credentials makes no weighty call at all.
  cases supplied with
  | aside early => exact absurd weighty (early exchange logged).not_isWeighty
  | denied read accepted fails spares => exact absurd weighty (spares exchange logged)
  | served read accepted arrives hands =>
    obtain rfl := (hands exchange logged).eq_of_handed? handed
    exact ⟨_, _, read, arrives.arrives (ClassParameters.splits_of_resolve accepted)⟩

/-- What comes of the only secret that is read is what came of the reads. -/
theorem SecretLocation.Reads.eq_of_fetches {log : List Exchange} {location : SecretLocation}
    {outcome result : Except SecretError (KeyMap String)} (reads : location.Reads (secretReads log) outcome)
    {name space : String} {answer : Except ClusterError Secret}
    (read : ⟨.getSecret name space, answer⟩ ∈ log) (fetches : Fetches name space answer result) :
    result = outcome := by
  -- A pass reads one secret at most, so the read is the one that the credentials came from.
  have listed := mem_secretReads.mpr read
  generalize secretReads log = calls at reads listed
  cases reads with
  | nothing => cases listed
  | secret =>
    cases List.mem_singleton.mp listed
    exact fetches.unique (fetches_fetched name space answer)

/-- A pass whose credentials cannot be had fails for that and does nothing weighty. -/
theorem Supplied.fails {log : List Exchange} {result : Except PassError Action}
    (supplied : Supplied log result) {name space : String} {answer : Except ClusterError Secret}
    (read : ⟨.getSecret name space, answer⟩ ∈ log) {cause : SecretError}
    (fails : Fetches name space answer (.error cause)) :
    result = .error (.secret cause) ∧ ∀ exchange ∈ log, ¬ exchange.request.IsWeighty := by
  -- Only a pass that was denied its credentials goes with such a read.
  cases supplied with
  | aside early => exact (early _ read).elim
  | denied _ _ refused spares =>
    cases refused.eq_of_fetches read fails
    exact ⟨rfl, spares⟩
  | served _ _ arrives _ => cases arrives.eq_of_fetches read fails

/-- Credentials are read at the location that accepted parameters give, in one call or in none. A secret that
is read gives a text for every key, with the very bytes that lie there, exactly if all its values are texts;
otherwise the first key of a value that is none is told, and a read that fails is told for what it is.
Whoever answers the calls of a pass, the driver is handed credentials that arrived so, and a pass that cannot
have them fails for that, without a call to the driver or a write of a claim or a content. -/
theorem credentials_arrive {parameters : KeyMap String} {resolved : ClassParameters}
    (accepted : ClassParameters.resolve parameters = .ok resolved) {σ : Type}
    (respond : σ → (request : Call) → request.Answer × σ) (state : σ) :
    (parameters.get? secretNameKey = none ∨ parameters.get? secretNamespaceKey = none →
      resolved.secret.credentials.run.run respond state = (.ok ∅, state) ∧
        resolved.secret.credentials.run.journal respond state = []) ∧
    (∀ name space, parameters.get? secretNameKey = some name →
      parameters.get? secretNamespaceKey = some space → ∃ answer : Except ClusterError Secret,
        answer = (respond state (.getSecret name space)).1 ∧
        resolved.secret.credentials.run.journal respond state = [⟨.getSecret name space, answer⟩] ∧
        Fetches name space answer (resolved.secret.credentials.run.run respond state).1 ∧
        ∀ secret, answer = .ok secret →
          ((∃ texts, (resolved.secret.credentials.run.run respond state).1 = .ok texts) ↔
            ∀ key value, secret.contents.get? key = some value → IsText value)) ∧
    ∀ (seen : Group) (driver : String),
      (∀ exchange ∈ (seen.reconcile driver).run.journal respond state, ∀ secrets,
        exchange.request.handed? = some secrets → ∃ className groupClass,
          ⟨.getClass className, .ok groupClass⟩ ∈ (seen.reconcile driver).run.journal respond state ∧
          Arrives ((seen.reconcile driver).run.journal respond state) groupClass.spec.parameters
            secrets) ∧
      ∀ name space answer cause,
        ⟨.getSecret name space, answer⟩ ∈ (seen.reconcile driver).run.journal respond state →
        Fetches name space answer (.error cause) →
          ((seen.reconcile driver).run.run respond state).1 = .error (.secret cause) ∧
          ∀ exchange ∈ (seen.reconcile driver).run.journal respond state,
            ¬ exchange.request.IsWeighty := by
  have splits := ClassParameters.splits_of_resolve accepted
  refine ⟨fun lacks => ?_, fun name space named placed => ?_, fun seen driver => ?_⟩
  · -- Half a pointer points nowhere.
    rw [SecretLocation.credentials_of_none (splits.both_eq_none.mpr lacks)]
    exact ⟨rfl, rfl⟩
  · -- The secret is read by one call, whose answer decides.
    rw [SecretLocation.credentials_of_some (splits.both_eq.mpr ⟨named, placed⟩)]
    refine ⟨_, rfl, rfl, fetches_fetched name space _, fun secret given => ?_⟩
    show (∃ texts, fetched name space (respond state (.getSecret name space)).1 = .ok texts) ↔ _
    rw [given]
    exact (fetches_fetched name space (.ok secret)).isOk_iff
  · -- What holds of every log of a pass holds of the log of this run.
    have supplied := (seen.logs_reconcile driver).journal respond state
    exact ⟨fun exchange logged secrets handed => supplied.arrives logged handed,
      fun name space answer cause read fails => supplied.fails read fails⟩

namespace Sample

/-- Where the class with a secret says its credentials lie. -/
def sealedLocation : SecretLocation := { name := some "secret", «namespace» := some "space" }

/-- The secret with a password as the cluster keeps it. -/
def keptSecret (password : List UInt8) : Secret :=
  ((stocked.save sealedClass).2.save (secret password)).1

/-- The secret that a read gives. -/
def fetched? : Exchange → Option (String × String × Secret)
  | ⟨.getSecret name space, .ok secret⟩ => some (name, space, secret)
  | _ => none

/-- A call that reads a secret and gives it. -/
theorem eq_of_fetched? {exchange : Exchange} {name space : String} {secret : Secret}
    (given : fetched? exchange = some (name, space, secret)) :
    exchange = ⟨.getSecret name space, .ok secret⟩ := by
  unfold fetched? at given
  split at given
  · cases given
    rfl
  · cases given

/-- A password that spells a zero byte with two bytes is no text. -/
theorem fetched_overlong : fetched "secret" "space" (.ok (keptSecret [0xc0, 0x80])) =
    .error (.invalidData "secret" "space" "password") := by decide +kernel

end Sample

/-- A password that spells a zero byte with two bytes is told and goes nowhere, where another password
arrives. -/
theorem credentials_arrive_sealed :
    ClassParameters.resolve Sample.sealedClass.spec.parameters = .ok { secret := Sample.sealedLocation } ∧
      (∃ texts, (Sample.sealedLocation.credentials.run.run Rehearsal.respond
        { store := Sample.locked [107] }).1 = .ok texts) ∧
      ((Sample.group.reconcile "driver").run.run Rehearsal.respond
          { store := Sample.locked [0xc0, 0x80] }).1 =
        .error (.secret (.invalidData "secret" "space" "password")) ∧
      ∀ exchange ∈ (Sample.group.reconcile "driver").run.journal Rehearsal.respond
        { store := Sample.locked [0xc0, 0x80] }, ¬ exchange.request.IsWeighty := by
  -- The class points to the secret.
  have accepted : ClassParameters.resolve Sample.sealedClass.spec.parameters =
      .ok { secret := Sample.sealedLocation } := by decide +kernel
  refine ⟨accepted, ?_, ?_⟩
  · obtain ⟨answer, same, -, -, legible⟩ :=
      (credentials_arrive accepted Rehearsal.respond { store := Sample.locked [107] }).2.1
        "secret" "space" (by decide +kernel) (by decide +kernel)
    -- The password is a single letter, and the only value of the secret.
    have given : answer = .ok (Sample.keptSecret [107]) := same.trans (by decide +kernel)
    refine (legible _ given).mpr fun key value lies => ?_
    have alone : (Sample.keptSecret [107]).contents.entries = [("password", [107])] := by decide +kernel
    have known := KeyMap.get?_eq_some_iff.mp lies
    rw [alone] at known
    cases List.mem_singleton.mp known
    exact isText_iff.mpr ⟨"k", by decide +kernel⟩
  · obtain ⟨exchange, read, given⟩ : ∃ exchange ∈ (Sample.group.reconcile "driver").run.journal
        Rehearsal.respond { store := Sample.locked [0xc0, 0x80] },
        Sample.fetched? exchange = some ("secret", "space", Sample.keptSecret [0xc0, 0x80]) := by
      decide +kernel
    -- The run did read the secret, so its bytes decide how the pass ends.
    obtain rfl := Sample.eq_of_fetched? given
    have garbled := fetches_fetched "secret" "space" (.ok (Sample.keptSecret [0xc0, 0x80]))
    rw [Sample.fetched_overlong] at garbled
    exact ((credentials_arrive accepted Rehearsal.respond
      { store := Sample.locked [0xc0, 0x80] }).2.2 Sample.group "driver").2 _ _ _ _ read garbled

end VolumeGroups
