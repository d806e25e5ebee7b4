import VolumeGroups.Proofs.Operator.Rehearsed
import VolumeGroups.Proofs.Secrecy.Discretion
import VolumeGroups.Proofs.Store.Spared

/-! Two runs of a pass from stores that differ in the data of secrets only: they end in the same way and
do the same, and nobody but the driver is told what the data are. -/

namespace VolumeGroups

/-- The store with other secrets. -/
def Store.withSecrets (store : Store) (secrets : Table Secret) : Store := { store with secrets }

namespace Store

/-- Two stores that are the same but for the data of secrets, which are legible in both. -/
structure Alike (one other : Store) : Prop where
  rest : other = one.withSecrets other.secrets
  secrets : ∀ key, Option.Rel Secret.Alike (one.find? key) (other.find? key)

/-- A secret is read alike from stores that are alike. -/
theorem Alike.get_secret {one other : Store} (alike : one.Alike other)
    (name «namespace» : String) :
    Likewise Secret.Alike (one.get (α := Secret) name «namespace») (other.get name «namespace») := by
  -- The secrets under the key belong together, if there are any.
  have found := alike.secrets («namespace» ++ "/" ++ name)
  simp only [get]
  generalize one.find? (α := Secret) («namespace» ++ "/" ++ name) = first at found
  generalize other.find? (α := Secret) («namespace» ++ "/" ++ name) = second at found
  cases found with
  | some same => exact .ok same
  | none => exact .error _

end Store

/-- What answers the calls of a pass besides the store, and how that changes from call to call. -/
structure Surroundings (σ : Type) where
  /-- Why the cluster does not carry a call out, if it does not. -/
  fault? : σ → Call → Option ClusterError
  /-- What the driver answers when it is to make a group. -/
  create : σ → (name : String) → (secrets parameters : KeyMap String) →
    Except DriverError CreatedGroup
  /-- What the driver answers when it is to delete a group. -/
  delete : σ → (handle : String) → (secrets : KeyMap String) → Except DriverError Unit
  /-- What the driver answers when it is to give a group some members. -/
  modify : σ → (handle : String) → (volumeIds : List String) → (secrets : KeyMap String) →
    Except DriverError Unit
  /-- What the clock shows. -/
  clock : σ → Time
  /-- What becomes of the surroundings with a call and its answer. -/
  turn : σ → Exchange → σ

/-- A call and its answer as somebody sees them who is not shown credentials. -/
def Exchange.discreet : Exchange → Exchange
  | ⟨.createDriverGroup name _ parameters, answer⟩ => ⟨.createDriverGroup name ∅ parameters, answer⟩
  | ⟨.deleteDriverGroup handle _, answer⟩ => ⟨.deleteDriverGroup handle ∅, answer⟩
  | ⟨.modifyMembership handle volumeIds _, answer⟩ => ⟨.modifyMembership handle volumeIds ∅, answer⟩
  -- A secret is shown without its data, but that there is one may be seen.
  | ⟨.getSecret name space, answer⟩ => ⟨.getSecret name space, answer.map Secret.redacted⟩
  | exchange => exchange

/-- The answer by which a call of the cluster fails. -/
def Call.refuse? (request : Call) (cause : ClusterError) : Option request.Answer :=
  match request with
  | .createDriverGroup .. | .deleteDriverGroup .. | .modifyMembership .. | .readClock => none
  -- Only calls of the cluster can be refused by it.
  | .getGroup .. | .listGroups _ | .replaceGroup _ | .replaceGroupStatus _ | .getClass _
  | .getContent .. | .createContent _ | .replaceContent _ | .replaceContentStatus _
  | .deleteContent .. | .getSecret .. | .listClaims _ | .replaceClaim _ | .getVolume _
  | .getStorageClass _ | .record _ => some (.error cause)

/-- Secrets that are read alike are the same without their data. -/
theorem Likewise.map_redacted {ε : Type} {one other : Except ε Secret}
    (likewise : Likewise Secret.Alike one other) :
    one.map Secret.redacted = other.map Secret.redacted := by
  -- What is alike differs in the data only, which the redacted secrets do not have.
  cases likewise with
  | ok alike => exact congrArg Except.ok alike.redacted
  | error cause => rfl

/-- A program goes on from the answer to its first call. -/
theorem Program.run_call {α σ : Type} (respond : σ → (request : Call) → request.Answer × σ)
    (state : σ) {request : Call} (next : request.Answer → Program α) :
    (Program.call request next).run respond state =
      (next (respond state request).1).run respond (respond state request).2 := rfl

/-- A common call is carried out apart from the secrets. -/
theorem Rehearsal.serve_withSecrets (store : Store) (secrets : Table Secret) {request : Call}
    (common : request.IsCommon) :
    (serve { store := store.withSecrets secrets } request).1 = (serve { store } request).1 ∧
      (serve { store := store.withSecrets secrets } request).2.store =
        (serve { store } request).2.store.withSecrets secrets := by
  -- Nothing but a secret is found or written otherwise with other secrets.
  have spared : request.SparedBy (Store.withSecrets · secrets) := by
    cases request <;> first
      | exact common.elim
      | exact ⟨fun _ => rfl, fun _ => rfl, fun _ _ _ => rfl⟩
      | trivial
  exact serve_of_sparedBy spared store

namespace Surroundings

variable {σ : Type}

/-- A scene in its surroundings. -/
structure Stage (σ : Type) extends Scene where
  state : σ

/-- What a call is answered, and the store after it. -/
def answer (around : Surroundings σ) (state : σ) (store : Store) :
    (request : Call) → request.Answer × Store
  | .createDriverGroup name secrets parameters =>
    (around.create state name secrets parameters, store)
  | .deleteDriverGroup handle secrets => (around.delete state handle secrets, store)
  | .modifyMembership handle volumeIds secrets =>
    (around.modify state handle volumeIds secrets, store)
  | .readClock => (around.clock state, store)
  -- All other calls go to the cluster, which may refuse them without a look at the store.
  | request =>
    match (around.fault? state request).bind request.refuse? with
    | some refusal => (refusal, store)
    | none =>
      let (answer, after) := Rehearsal.serve { store } request
      (answer, after.store)

/-- A call is answered and added to the log. -/
def respond (around : Surroundings σ) (stage : Stage σ) (request : Call) :
    request.Answer × Stage σ :=
  let (answer, store) := around.answer stage.state stage.store request
  (answer, {
    store, exchanges := ⟨request, answer⟩ :: stage.exchanges
    -- The surroundings see the call and its answer, credentials and all.
    state := around.turn stage.state ⟨request, answer⟩ })

/-- Surroundings in which nobody lets credentials decide anything. -/
structure IsOblivious (around : Surroundings σ) : Prop where
  create (state : σ) (name : String) (one other parameters : KeyMap String) :
    around.create state name one parameters = around.create state name other parameters
  delete (state : σ) (handle : String) (one other : KeyMap String) :
    around.delete state handle one = around.delete state handle other
  modify (state : σ) (handle : String) (volumeIds : List String) (one other : KeyMap String) :
    around.modify state handle volumeIds one = around.modify state handle volumeIds other
  -- What the surroundings become may depend on everything but credentials.
  turn (state : σ) (one other : Exchange) (same : one.discreet = other.discreet) :
    around.turn state one = around.turn state other

/-- Two stages that look the same to somebody who is not shown credentials. -/
structure Stage.Alike (one other : Stage σ) : Prop where
  store : one.store.Alike other.store
  exchanges : one.exchanges.map Exchange.discreet = other.exchanges.map Exchange.discreet
  state : one.state = other.state

/-- A common call is answered in the same way from stores that are alike, which it leaves alike. -/
theorem answer_alike (around : Surroundings σ) (state : σ) {one other : Store}
    (alike : one.Alike other) {request : Call} (common : request.IsCommon) :
    (around.answer state one request).1 = (around.answer state other request).1 ∧
      (around.answer state one request).2.Alike (around.answer state other request).2 := by
  obtain ⟨rest, secrets⟩ := alike
  -- Carrying the call out takes no notice of the secrets and leaves them as they are.
  obtain ⟨answered, changed⟩ := Rehearsal.serve_withSecrets one other.secrets common
  have kept := congrArg Store.secrets (Rehearsal.serve_withSecrets one one.secrets common).2
  rw [← rest] at answered changed
  have otherKept := congrArg Store.secrets changed
  have served : (Rehearsal.serve { store := one } request).2.store.Alike
      (Rehearsal.serve { store := other } request).2.store := by
    refine ⟨?_, ?_⟩
    · rw [changed]
      rfl
    · intro key
      show Option.Rel _ (Store.secrets _ |>.get? key) (Store.secrets _ |>.get? key)
      rw [otherKept]
      exact kept ▸ secrets key
  cases request with
  | getSecret | createDriverGroup | deleteDriverGroup | modifyMembership => exact common.elim
  | readClock => exact ⟨rfl, ⟨rest, secrets⟩⟩
  | _ =>
    -- The cluster refuses in both stores or in neither.
    simp only [answer]
    split
    · exact ⟨rfl, ⟨rest, secrets⟩⟩
    · exact ⟨answered.symm, served⟩

/-- A secret is read alike from stores that are alike, which it leaves alike. -/
theorem answer_secret (around : Surroundings σ) (state : σ) {one other : Store}
    (alike : one.Alike other) (name «namespace» : String) :
    Likewise Secret.Alike (around.answer state one (.getSecret name «namespace»)).1
        (around.answer state other (.getSecret name «namespace»)).1 ∧
      (around.answer state one (.getSecret name «namespace»)).2.Alike
        (around.answer state other (.getSecret name «namespace»)).2 := by
  -- The fault is the same, as the surroundings are.
  simp only [answer]
  cases around.fault? state (.getSecret name «namespace») with
  | some cause => exact ⟨.error cause, alike⟩
  | none => exact ⟨alike.get_secret name «namespace», alike⟩

/-- Stages that look the same do so after exchanges that look the same. -/
theorem Stage.Alike.later {around : Surroundings σ} (oblivious : around.IsOblivious)
    {one other : Stage σ} (alike : one.Alike other) {first second : Call}
    (stores : (around.answer one.state one.store first).2.Alike
      (around.answer one.state other.store second).2)
    (same : (Exchange.mk first (around.answer one.state one.store first).1).discreet =
      (Exchange.mk second (around.answer one.state other.store second).1).discreet) :
    (around.respond one first).2.Alike (around.respond other second).2 := by
  -- The call and its answer are added on both sides.
  obtain ⟨_, exchanges, state⟩ := alike
  rw [state] at stores same
  refine ⟨?_, ?_, ?_⟩
  · simpa only [respond, state] using stores
  · simp only [respond, List.map_cons, state, same, exchanges]
  · simpa only [respond, state] using oblivious.turn _ _ _ same

/-- Programs that are alike end with related values, and the stages after them look the same. -/
theorem run_alike {α β : Type} {related : α → β → Prop} {around : Surroundings σ}
    (oblivious : around.IsOblivious) {one : Program α} {other : Program β}
    (programs : one.Alike related other) {first second : Stage σ} (stages : first.Alike second) :
    related (one.run around.respond first).1 (other.run around.respond second).1 ∧
      (one.run around.respond first).2.Alike (other.run around.respond second).2 := by
  -- The induction goes along the calls, each of which gets answers that look the same.
  induction programs generalizing first second with
  | done same => exact ⟨same, stages⟩
  | @call request one other common next ih =>
    obtain ⟨answered, stores⟩ := around.answer_alike first.state stages.store common
    have later := stages.later oblivious stores
      (congrArg (fun answer => Exchange.discreet ⟨request, answer⟩) answered)
    -- The answers are equal, so both programs go on from the same one.
    have same : (around.respond second request).1 = (around.respond first request).1 := by
      simp only [respond, ← stages.state, answered]
    rw [Program.run_call, Program.run_call, same]
    exact ih _ later
  | @read name space one other next ih =>
    obtain ⟨answered, stores⟩ := around.answer_secret first.state stages.store name space
    -- The answers differ in the data, which nobody else is shown.
    have later := stages.later oblivious stores (by
      simp only [Exchange.discreet, answered.map_redacted])
    rw [Program.run_call, Program.run_call]
    refine ih _ _ ?_ later
    simpa only [respond, stages.state] using answered
  | @create name one' other' parameters one other next ih =>
    -- The driver answers alike, whatever credentials it is handed.
    have answered := oblivious.create first.state name other' one' parameters
    have later : (around.respond first (.createDriverGroup name one' parameters)).2.Alike
        (around.respond second (.createDriverGroup name other' parameters)).2 :=
      stages.later oblivious stages.store (by simp only [answer, Exchange.discreet, answered])
    have same : (around.respond second (.createDriverGroup name other' parameters)).1 =
        (around.respond first (.createDriverGroup name one' parameters)).1 := by
      simp only [respond, answer, ← stages.state, answered]
    rw [Program.run_call, Program.run_call, same]
    exact ih _ later
  | @delete handle one' other' one other next ih =>
    -- The same goes for the deletion of a group.
    have answered := oblivious.delete first.state handle other' one'
    have later : (around.respond first (.deleteDriverGroup handle one')).2.Alike
        (around.respond second (.deleteDriverGroup handle other')).2 :=
      stages.later oblivious stages.store (by simp only [answer, Exchange.discreet, answered])
    have same : (around.respond second (.deleteDriverGroup handle other')).1 =
        (around.respond first (.deleteDriverGroup handle one')).1 := by
      simp only [respond, answer, ← stages.state, answered]
    rw [Program.run_call, Program.run_call, same]
    exact ih _ later
  | @modify handle volumeIds one' other' one other next ih =>
    -- The same goes for the change of members.
    have answered := oblivious.modify first.state handle volumeIds other' one'
    have later : (around.respond first (.modifyMembership handle volumeIds one')).2.Alike
        (around.respond second (.modifyMembership handle volumeIds other')).2 :=
      stages.later oblivious stages.store (by simp only [answer, Exchange.discreet, answered])
    have same : (around.respond second (.modifyMembership handle volumeIds other')).1 =
        (around.respond first (.modifyMembership handle volumeIds one')).1 := by
      simp only [respond, answer, ← stages.state, answered]
    rw [Program.run_call, Program.run_call, same]
    exact ih _ later

/-- A program performed in some surroundings on a store. -/
def perform {α : Type} (around : Surroundings σ) (state : σ) (store : Store) (program : Program α) :
    α × Stage σ :=
  program.run around.respond { store, state }

/-- The data of secrets reach nobody but the driver: from stores that differ in nothing else, a pass ends
with the same result, and whoever is not shown credentials sees the same calls and the same store. -/
theorem pass_conceals_credentials {around : Surroundings σ} (oblivious : around.IsOblivious)
    {one other : Store} (alike : one.Alike other) (state : σ) (seen : Group) (driver : String) :
    (around.perform state one (seen.reconcile driver).run).1 =
        (around.perform state other (seen.reconcile driver).run).1 ∧
      (around.perform state one (seen.reconcile driver).run).2.Alike
        (around.perform state other (seen.reconcile driver).run).2 := by
  -- Both stages start with nothing done.
  have stages : Stage.Alike ⟨⟨one, []⟩, state⟩ ⟨⟨other, []⟩, state⟩ := ⟨alike, rfl, rfl⟩
  obtain ⟨results, ends⟩ := run_alike oblivious (seen.alike_reconcile driver) stages
  exact ⟨results.eq, ends⟩

end Surroundings

namespace Sample

/-- A class whose credentials lie in a secret. -/
def sealedClass : GroupClass :=
  { groupClass with
    spec := {
      driver := "driver"
      parameters := KeyMap.ofList [(secretNameKey, "secret"), (secretNamespaceKey, "space")] } }

/-- The secret with a password. -/
def secret (password : List UInt8) : Secret where
  metadata := { name := some "secret", «namespace» := some "space" }
  data := some (KeyMap.singleton "password" password)

/-- The stocked cluster with credentials. -/
def locked (password : List UInt8) : Store :=
  ((stocked.save sealedClass).2.save (secret password)).2

/-- Surroundings in which the seventh call with an effect meets a conflict, and the driver does as it is
told. -/
def surroundings : Surroundings Nat where
  fault? count request :=
    if count = 6 ∧ request.method.isEffect then some (.conflict .group "group") else none
  create _ name _ _ := .ok { handle := name }
  delete _ _ _ := .ok ()
  modify _ _ _ _ := .ok ()
  clock _ := Store.now
  turn count exchange := if exchange.request.method.isEffect then count + 1 else count

/-- Clusters are alike whatever the passwords are, if these are texts. -/
theorem locked_alike {one other : List UInt8} (legible : (String.fromUTF8? one.toByteArray).isSome)
    (otherLegible : (String.fromUTF8? other.toByteArray).isSome) :
    (locked one).Alike (locked other) := by
  refine ⟨rfl, fun key => ?_⟩
  -- A secret of one password reads if the password does.
  have reads {password : List UInt8} (legible : (String.fromUTF8? password.toByteArray).isSome) :
      (secret password).IsLegible := by
    intro entry known
    obtain rfl := List.mem_singleton.mp known
    exact legible
  have found (password : List UInt8) : (locked password).find? key =
      if key = "space/secret" then some ((stocked.save sealedClass).2.save (secret password)).1
      else none := by
    -- The secret is the only one, and lies under its own key.
    have entries : (locked password).secrets.entries =
        [(Resource.key (secret password), ((stocked.save sealedClass).2.save (secret password)).1)] :=
      rfl
    have place : Resource.key (secret password) = "space/secret" :=
      show "space" ++ "/" ++ "secret" = "space/secret" by decide
    show ((locked password).secrets.entries.find? _).map Prod.snd = _
    rw [entries, place]
    by_cases same : key = "space/secret"
    · simp [same]
    · simp [same, Ne.symm same]
  rw [found, found]
  split
  · exact .some ⟨rfl, reads legible, reads otherLegible⟩
  · exact .none

/-- The surroundings take no notice of credentials. -/
theorem surroundings_oblivious : surroundings.IsOblivious := by
  refine ⟨fun _ _ _ _ _ => rfl, fun _ _ _ _ => rfl, fun _ _ _ _ _ => rfl, ?_⟩
  intro count one other same
  -- What is hidden of an exchange is not its method.
  have methods (exchange : Exchange) : exchange.discreet.request.method = exchange.request.method := by
    rcases exchange with ⟨request, answer⟩
    cases request <;> rfl
  have method : one.request.method = other.request.method := by
    rw [← methods, same, methods]
  simp only [surroundings, method]

/-- The credentials that a call hands to the driver. -/
def handed? : Exchange → Option (KeyMap String)
  | ⟨.createDriverGroup _ secrets _, _⟩ => some secrets
  | ⟨.modifyMembership _ _ secrets, _⟩ => some secrets
  | ⟨.deleteDriverGroup _ secrets, _⟩ => some secrets
  | _ => none

/-- The driver is handed different passwords in two passes that are cut short by a conflict, and nobody else
can tell them apart. -/
theorem conceals_password :
    surroundings.IsOblivious ∧ (locked [107]).Alike (locked [108]) ∧
      (surroundings.perform 0 (locked [107]) (group.reconcile "driver").run).1 =
        (surroundings.perform 0 (locked [108]) (group.reconcile "driver").run).1 ∧
      (surroundings.perform 0 (locked [107]) (group.reconcile "driver").run).2.Alike
        (surroundings.perform 0 (locked [108]) (group.reconcile "driver").run).2 ∧
      (surroundings.perform 0 (locked [107]) (group.reconcile "driver").run).2.exchanges.filterMap
        handed? = [KeyMap.singleton "password" "k", KeyMap.singleton "password" "k"] ∧
      (surroundings.perform 0 (locked [108]) (group.reconcile "driver").run).2.exchanges.filterMap
        handed? = [KeyMap.singleton "password" "l", KeyMap.singleton "password" "l"] := by
  -- Both passwords are letters, and letters are texts.
  have alike : (locked [107]).Alike (locked [108]) := locked_alike (by decide) (by decide)
  -- The law is used once, for the two clusters that differ in the password.
  obtain ⟨results, stages⟩ := Surroundings.pass_conceals_credentials surroundings_oblivious alike 0
    group "driver"
  exact ⟨surroundings_oblivious, alike, results, stages, by decide +kernel, by decide +kernel⟩

end Sample

end VolumeGroups
