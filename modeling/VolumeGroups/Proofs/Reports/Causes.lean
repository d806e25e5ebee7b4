import VolumeGroups.Proofs.Operator.Logged
import VolumeGroups.Proofs.Reports.Lapses

/-! How soon a failed pass is tried again depends on how its cause is wrapped: a mistake in an object
counts as one only where the pass itself finds it outside of a plan and of a content. -/

namespace VolumeGroups

/-- Failures that may come from a mistake in an object. -/
class Caused (ε : Type) where
  /-- The mistake at the bottom of a failure. -/
  mistake? : ε → Option ObjectError
  /-- The failure is that mistake, wrapped in nothing. -/
  isBare : ε → Bool := fun _ => false

export Caused (mistake? isBare)

instance : Caused ObjectError where
  mistake? := some

instance : Caused ClusterError where
  mistake?
    | .object cause => some cause
    | _ => none

instance : Caused SecretError where
  mistake?
    | .unavailable _ _ cause => mistake? cause
    | _ => none

instance : Caused MembershipError where
  mistake?
    | .cluster cause => mistake? cause
    | .object cause => some cause
    | _ => none

instance : Caused ContentError where
  mistake?
    | .cluster cause => mistake? cause
    | .object cause => some cause
    | _ => none

instance : Caused PassError where
  mistake?
    | .secret cause => mistake? cause
    | .membership cause => mistake? cause
    | .content cause => mistake? cause
    | .cluster cause => mistake? cause
    | .object cause => some cause
    | _ => none
  isBare
    | .object _ => true
    | _ => false

/-- A call fails because of a conflict or of an exchange that goes wrong. -/
def ClusterError.IsTransient : ClusterError → Prop
  | .conflict .. | .request _ | .event _ => True
  | _ => False

/-- A pass fails because the driver does, or because of a conflict or of an exchange that goes wrong. -/
def PassError.IsTransient : PassError → Prop
  | .driver _ => True
  | .cluster cause | .membership (.cluster cause) | .content (.cluster cause)
  | .secret (.unavailable _ _ cause) => cause.IsTransient
  | _ => False

/-- What may be over soon is not taken for a mistake, and is tried again soon. -/
theorem PassError.IsTransient.retry {error : PassError} (transient : error.IsTransient) :
    error.isConfiguration = false ∧ error.retry = .requeue 5 := by
  cases error with
  | driver | cluster => exact ⟨rfl, rfl⟩
  | membership cause | content cause | secret cause =>
    cases cause <;> first | exact ⟨rfl, rfl⟩ | exact transient.elim
  | _ => exact transient.elim

/-- A mistake at the bottom of a failure is taken for one only if it is wrapped in nothing. -/
theorem PassError.isConfiguration_of_mistake {error : PassError} {cause : ObjectError}
    (mistaken : mistake? error = some cause) :
    error.isConfiguration = isBare error ∧
      error.retry = if isBare error then .requeue 30 else .requeue 5 := by
  -- Only failures that wrap another one have a mistake further down.
  cases error with
  | object | cluster => exact ⟨rfl, rfl⟩
  | membership cause | content cause | secret cause =>
    cases cause <;> first | exact ⟨rfl, rfl⟩ | cases mistaken
  | _ => cases mistaken

namespace Exchange

/-- What the cluster says against a call that a pass depends on. -/
def objection? (exchange : Exchange) : Option ClusterError :=
  match exchange with
  -- An event that cannot be recorded is let go.
  | ⟨.record _, _⟩ => none
  | exchange =>
    match exchange.failure? with
    | some (.cluster cause) => some cause
    | _ => none

/-- A content is looked up and found. -/
def FindsContent : Exchange → Prop
  | ⟨.getContent .., .ok _⟩ => True
  | _ => False

/-- A call finds no content and tells of no mistake. -/
def IsUnrevealing (exchange : Exchange) : Prop :=
  ¬ exchange.FindsContent ∧ ∀ cause, exchange.objection? ≠ some (.object cause)

/-- A call that is refused for no mistake is unrevealing if it looks up no content. -/
theorem isUnrevealing_of_objection? {exchange : Exchange} {error : ClusterError}
    (refused : exchange.objection? = some error) (other : mistake? error = none)
    (elsewhere : ¬ exchange.FindsContent) : exchange.IsUnrevealing := by
  refine ⟨elsewhere, ?_⟩
  intro cause same
  obtain rfl := Option.some.inj (refused.symm.trans same)
  cases other

/-- An event is recorded by an unrevealing call. -/
theorem isUnrevealing_of_isRecord {exchange : Exchange} (records : exchange.request.IsRecord) :
    exchange.IsUnrevealing := by
  obtain ⟨request, answer⟩ := exchange
  cases request with
  | record => exact ⟨id, fun _ => nofun⟩
  | _ => exact records.elim

end Exchange

/-- A mistake comes to a pass by another way than from the group alone: it is that of a selector, some
content was found, or a call tells of it. -/
def ObjectError.IsRelayed (cause : ObjectError) (log : List Exchange) : Prop :=
  (∃ group why, cause = .invalidSelector group why) ∨
    ∃ exchange ∈ log, exchange.FindsContent ∨ exchange.objection? = some (.object cause)

/-- A mistake that a call tells of comes by another way. -/
theorem ObjectError.isRelayed_of_objection? {cause : ObjectError} {exchange : Exchange}
    {error : ClusterError} {log : List Exchange} (logged : exchange ∈ log)
    (refused : exchange.objection? = some error) (mistaken : mistake? error = some cause) :
    cause.IsRelayed log := by
  -- The mistake is in the log, in the call that was refused.
  refine .inr ⟨exchange, logged, .inr ?_⟩
  cases error with
  | object =>
    obtain rfl := Option.some.inj mistaken
    exact refused
  | _ => cases mistaken

/-- What comes by another way still does so when there are more calls. -/
theorem ObjectError.IsRelayed.append {cause : ObjectError} {log : List Exchange}
    (relayed : cause.IsRelayed log) (later earlier : List Exchange) :
    cause.IsRelayed (later ++ log ++ earlier) := by
  refine relayed.imp_right ?_
  intro ⟨exchange, logged, told⟩
  exact ⟨exchange, by simp [logged], told⟩

/-- Unrevealing calls add no other way. -/
theorem ObjectError.isRelayed_append {cause : ObjectError} {later log : List Exchange}
    (unrevealing : ∀ exchange ∈ log, exchange.IsUnrevealing) :
    cause.IsRelayed (later ++ log) ↔ cause.IsRelayed later := by
  constructor
  · intro relayed
    -- An unrevealing call neither asks for an identity nor tells of a mistake.
    refine relayed.imp_right ?_
    intro ⟨exchange, logged, told⟩
    rcases List.mem_append.mp logged with after | before
    · exact ⟨exchange, after, told⟩
    · exact (told.elim (unrevealing exchange before).1 ((unrevealing exchange before).2 cause)).elim
  · intro relayed
    exact relayed.append [] log

namespace Attempt

/-- The outcome of a single call is logged with the call. -/
theorem logs_outcome {ε ε' α : Type} {program : Program (Except ε α)}
    (call : Except ε α → Exchange) (asks : program.Logs fun log answer => log = [call answer]) :
    (Attempt.outcome (Attempt.of program) : Attempt ε' (Except ε α)).run.Logs fun log result =>
      ∃ answer, result = .ok answer ∧ log = [call answer] :=
  Program.Logs.bind asks fun _ answer same => ⟨answer, rfl, same⟩

variable {ε ε' α β : Type} [Caused ε] [Caused ε'] {kept : Exchange → Prop}

/-- A mistake that an attempt fails with is wrapped in something and comes by another way than from the
group alone, and if it succeeds then its calls are of some sort. -/
def RelaysMistakes (kept : Exchange → Prop) (attempt : Attempt ε α) : Prop :=
  attempt.run.Logs fun log result => match result with
    | .ok _ => ∀ exchange ∈ log, kept exchange
    | .error error => isBare error = false ∧ ∀ cause, mistake? error = some cause →
      cause.IsRelayed log

namespace RelaysMistakes

/-- Success needs no call. -/
theorem pure {value : α} : RelaysMistakes kept (Pure.pure value : Attempt ε α) := by
  show ∀ exchange ∈ [], kept exchange
  simp

/-- A failure without a mistake at the bottom tells of none. -/
theorem throw {error : ε} (wrapped : isBare error = false) (other : mistake? error = none) :
    RelaysMistakes kept (MonadExcept.throw error : Attempt ε α) := by
  refine ⟨wrapped, ?_⟩
  intro cause mistaken
  simp [other] at mistaken

/-- A known result is echoed if what it fails with is. -/
theorem known {result : Except ε α} (fails : ∀ error, result = .error error →
      isBare error = false ∧ ∀ cause, mistake? error = some cause → cause.IsRelayed []) :
    RelaysMistakes kept (Attempt.known result) := by
  cases result with
  | ok value => exact pure
  | error error => exact fails error rfl

/-- One attempt after another echoes if both do. -/
theorem bind {attempt : Attempt ε α} {next : α → Attempt ε β} (first : RelaysMistakes kept attempt)
    (second : ∀ value, RelaysMistakes kept (next value)) :
    RelaysMistakes kept (attempt >>= next) := by
  -- A failure of the first attempt ends both.
  refine Program.Logs.bind first ?_
  intro log result reached
  cases result with
  | error error => exact reached
  | ok value =>
    -- The calls of both attempts make up the log.
    refine (second value).mono ?_
    intro later result ended
    cases result with
    | ok value =>
      intro exchange logged
      exact (List.mem_append.mp logged).elim (ended exchange) (reached exchange)
    | error error =>
      exact ⟨ended.1, fun cause mistaken => (ended.2 cause mistaken).append [] log⟩

/-- A failure in wider terms echoes if its mistake stays the same. -/
theorem within {wider : ε → ε'} {attempt : Attempt ε α} (relays : RelaysMistakes kept attempt)
    (told : ∀ error, isBare (wider error) = false ∧ mistake? (wider error) = mistake? error) :
    RelaysMistakes kept (Attempt.within wider attempt) := by
  refine Program.Logs.bind relays ?_
  -- The calls are the same, and a failure is wrapped once more.
  intro log result reached
  cases result with
  | ok value => exact reached
  | error error =>
    refine ⟨(told error).1, ?_⟩
    intro cause mistaken
    rw [(told error).2] at mistaken
    exact reached.2 cause mistaken

/-- The outcome of an attempt is no failure. -/
theorem outcome {ε' : Type} (attempt : Attempt ε' α) :
    RelaysMistakes (fun _ => True) (Attempt.outcome attempt : Attempt ε (Except ε' α)) :=
  Program.Logs.bind (Program.asks_any attempt.run).logs fun _ _ _ _ _ => trivial

/-- Attempts made for each of some items echo if each does. -/
theorem forM {γ : Type} {items : List γ} {body : γ → Attempt ε PUnit}
    (relays : ∀ item, RelaysMistakes kept (body item)) : RelaysMistakes kept (items.forM body) := by
  induction items with
  | nil => exact pure
  | cons item rest ih => exact bind (relays item) fun _ => ih

/-- Telling a failure changes nothing about it. -/
theorem tellingOn {group : Group} {reason : Reason} {ready : Option Bool}
    {attempt : Attempt PassError α} (relays : RelaysMistakes kept attempt) :
    RelaysMistakes kept (attempt.tellingOn group reason ready) := by
  refine Program.Logs.bind relays ?_
  intro log result reached
  cases result with
  | ok value => exact reached
  | error error =>
    -- Whatever comes of the telling is only added to the log.
    refine Program.Logs.bind (Program.asks_any (group.tell reason ready error)).logs ?_
    intro told _ _
    refine ⟨reached.1, ?_⟩
    intro cause mistaken
    simpa using (reached.2 cause mistaken).append told []

/-- A program that cannot fail echoes if its calls are of the sort. -/
theorem lift {calls : Call → Prop} {gives : α → Prop} {program : Program α}
    (asks : program.Asks calls gives)
    (sort : ∀ exchange : Exchange, calls exchange.request → kept exchange) :
    RelaysMistakes kept (liftM program : Attempt ε α) := by
  refine Program.Logs.bind asks.logs ?_
  intro log value reached exchange logged
  exact sort exchange (reached.1 exchange (by simpa using logged))

/-- A single call that is answered by the cluster echoes what it fails with. -/
theorem ask {program : Program (Except ClusterError α)} (call : Except ClusterError α → Exchange)
    (asks : program.Logs fun log answer => log = [call answer])
    (fails : ∀ cause, (call (.error cause)).objection? = some cause)
    (sort : ∀ value, kept (call (.ok value))) : RelaysMistakes kept (Attempt.of program) := by
  -- The log holds the one call, so its answer decides.
  refine asks.mono ?_
  intro log answer same
  cases answer with
  | ok value =>
    intro exchange logged
    rw [same] at logged
    exact List.mem_singleton.mp logged ▸ sort value
  | error error =>
    refine ⟨rfl, ?_⟩
    intro cause mistaken
    exact ObjectError.isRelayed_of_objection? (same ▸ List.mem_singleton_self _) (fails error) mistaken

/-- What goes on after either answer of a call echoes if it passes on a mistake that the call tells
of. -/
theorem tried {program : Program (Except ClusterError α)} (call : Except ClusterError α → Exchange)
    {next : Except ClusterError α → Attempt ε β}
    (asks : program.Logs fun log answer => log = [call answer])
    (fails : ∀ cause, (call (.error cause)).objection? = some cause)
    (succeeds : ∀ value, kept (call (.ok value)) ∧ RelaysMistakes kept (next (.ok value)))
    (settles : ∀ error : ClusterError, mistake? error = none →
      kept (call (.error error)) ∧ RelaysMistakes kept (next (.error error)))
    (stops : ∀ cause, ∃ error, next (.error (.object cause)) = MonadExcept.throw error ∧
      isBare error = false ∧ mistake? error = some cause) :
    RelaysMistakes kept (Attempt.outcome (Attempt.of program) >>= next) := by
  refine Program.Logs.bind (logs_outcome call asks) ?_
  rintro _ _ ⟨answer, rfl, rfl⟩
  -- What goes on after an answer other than a mistake adds to a log that holds the one call.
  have goes (sort : kept (call answer)) (relays : RelaysMistakes kept (next answer)) :
      Program.Logs (fun later result => match result with
        | .ok _ => ∀ exchange ∈ later ++ [call answer], kept exchange
        | .error error => isBare error = false ∧ ∀ cause, mistake? error = some cause →
          cause.IsRelayed (later ++ [call answer])) (next answer).run := by
    refine relays.mono ?_
    intro later result reached
    cases result with
    | ok value =>
      intro exchange logged
      rcases List.mem_append.mp logged with after | now
      · exact reached exchange after
      · exact List.mem_singleton.mp now ▸ sort
    | error error => exact ⟨reached.1, fun cause blamed => (reached.2 cause blamed).append [] _⟩
  cases answer with
  -- The call went well.
  | ok value => exact goes (succeeds value).1 (succeeds value).2
  -- A mistake has to be passed on, and any other failure is left to the attempt.
  | error error =>
    cases error with
    | object cause =>
      obtain ⟨error, same, wrapped, told⟩ := stops cause
      show Program.Logs _ (next (.error (.object cause))).run
      rw [same]
      refine ⟨wrapped, ?_⟩
      intro other blamed
      obtain rfl := Option.some.inj (told.symm.trans blamed)
      exact .inr ⟨_, List.mem_singleton_self _, .inr (fails _)⟩
    | _ => exact goes (settles _ rfl).1 (settles _ rfl).2

end RelaysMistakes

/-- A mistake that an attempt fails with is wrapped in nothing exactly if it comes by no other way than
from the group alone. -/
def TellsBareFromRelayed (attempt : Attempt PassError α) : Prop :=
  attempt.run.Logs fun log result => ∀ error cause, result = .error error →
    mistake? error = some cause → (isBare error = true ↔ ¬ cause.IsRelayed log)

namespace TellsBareFromRelayed

/-- What echoes mistakes weighs them. -/
theorem of_relaysMistakes {attempt : Attempt PassError α} (relays : RelaysMistakes kept attempt) :
    TellsBareFromRelayed attempt := by
  refine relays.mono ?_
  rintro log _ reached error cause rfl mistaken
  simp [reached.1, reached.2 cause mistaken]

/-- A success is no failure. -/
theorem pure (value : α) : TellsBareFromRelayed (Pure.pure value) := by
  rintro error cause ⟨⟩

/-- What a group lacks by itself is weighed. -/
theorem known {result : Except ObjectError α}
    (fails : ∀ cause, result = .error cause → ∀ group why, cause ≠ .invalidSelector group why) :
    TellsBareFromRelayed (Attempt.within .object (Attempt.known result)) := by
  cases result with
  | ok value => rintro error cause ⟨⟩
  | error found =>
    rintro error cause ⟨⟩ mistaken
    obtain rfl : found = cause := Option.some.inj mistaken
    -- There is no call yet by which the mistake could have come.
    have alone : ¬ found.IsRelayed [] := by
      rintro (⟨group, why, same⟩ | ⟨exchange, logged, -⟩)
      · exact fails found rfl group why same
      · cases logged
    exact ⟨fun _ => alone, fun _ => rfl⟩

/-- What is weighed after unrevealing calls is weighed with them. -/
theorem after {attempt : Attempt PassError α} {next : α → Attempt PassError β}
    (first : RelaysMistakes Exchange.IsUnrevealing attempt)
    (second : ∀ value, TellsBareFromRelayed (next value)) :
    TellsBareFromRelayed (attempt >>= next) := by
  -- A failure of the first attempt came by a call, so it is wrapped.
  refine Program.Logs.bind first ?_
  intro log result reached
  cases result with
  | error error =>
    rintro _ cause ⟨⟩ mistaken
    simp [reached.1, reached.2 cause mistaken]
  | ok value =>
    refine (second value).mono ?_
    intro later result weighed error cause failed mistaken
    -- The unrevealing calls before make no difference to where a mistake came from.
    rw [ObjectError.isRelayed_append reached]
    exact weighed error cause failed mistaken

/-- What only echoes mistakes may follow. -/
theorem «then» {attempt : Attempt PassError α} {next : α → Attempt PassError β}
    (first : TellsBareFromRelayed attempt)
    (second : ∀ value, RelaysMistakes (fun _ => True) (next value)) :
    TellsBareFromRelayed (attempt >>= next) := by
  -- A mistake of the first attempt is weighed there.
  refine Program.Logs.bind first ?_
  intro log result reached
  cases result with
  | error error =>
    rintro _ cause ⟨⟩ mistaken
    exact reached error cause rfl mistaken
  | ok value =>
    refine (second value).mono ?_
    rintro later _ ended error cause rfl mistaken
    -- A mistake of the second came by a call, which is still in the log.
    have relayed := (ended.2 cause mistaken).append [] log
    simp only [List.nil_append] at relayed
    simp [ended.1, relayed]

end TellsBareFromRelayed

end Attempt

end VolumeGroups
