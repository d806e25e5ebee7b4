import VolumeGroups.Proofs.Operator.Common
import VolumeGroups.Proofs.Provision.Entries

/-! Programs that are alike up to credentials: they make the same calls, except that each gives the
driver credentials of its own, and they go on alike from secrets that differ in their data. -/

namespace VolumeGroups

namespace KeyMap

variable {α β ε : Type}

/-- A change that fails for no entry gives a map. -/
theorem exists_traverse_eq_ok {change : String → α → Except ε β} {map : KeyMap α}
    (changes : ∀ entry ∈ map.entries, (change entry.1 entry.2).isOk) :
    ∃ changed, map.traverse change = .ok changed := by
  -- If it failed, there would be an entry for which it fails.
  cases outcome : map.traverse change with
  | ok changed => exact ⟨changed, rfl⟩
  | error error =>
    obtain ⟨key, value, first, refused⟩ := traverse_eq_error outcome
    have done := changes _ (get?_eq_some_iff.mp first.found)
    simp [refused, Except.isOk, Except.toBool] at done

end KeyMap

namespace Secret

/-- Every value of a secret is a text. -/
def IsLegible (secret : Secret) : Prop :=
  ∀ entry ∈ (secret.data.getD ∅).entries, (String.fromUTF8? entry.2.toByteArray).isSome

/-- Two secrets that are the same but for their data, which is legible in both. -/
structure Alike (one other : Secret) : Prop where
  metadata : one.metadata = other.metadata
  legible : one.IsLegible
  otherLegible : other.IsLegible

/-- A secret without its data. -/
def redacted (secret : Secret) : Secret := { secret with data := none }

/-- Secrets that are alike are the same without their data. -/
theorem Alike.redacted {one other : Secret} (alike : one.Alike other) :
    one.redacted = other.redacted := by
  simp only [Secret.redacted, alike.metadata]

/-- A legible secret has texts. -/
theorem IsLegible.exists_texts {secret : Secret} (legible : secret.IsLegible)
    (name «namespace» : String) : ∃ texts, secret.texts name «namespace» = .ok texts := by
  -- The walk over the entries fails only at a value that is no text.
  refine KeyMap.exists_traverse_eq_ok ?_
  intro entry known
  obtain ⟨text, reads⟩ := Option.isSome_iff_exists.mp (legible entry known)
  simp [reads, Except.isOk, Except.toBool]

end Secret

/-- Two results that fail for the same reason, or succeed with related values. -/
inductive Likewise {ε α β : Type} (related : α → β → Prop) : Except ε α → Except ε β → Prop where
  | ok {one : α} {other : β} (same : related one other) : Likewise related (.ok one) (.ok other)
  | error (cause : ε) : Likewise related (.error cause) (.error cause)

/-- Results that succeed with equal values are equal. -/
theorem Likewise.eq {ε α : Type} {one other : Except ε α} (likewise : Likewise Eq one other) :
    one = other := by
  -- The values are equal by assumption, and the failures are the same anyway.
  cases likewise with
  | ok same => rw [same]
  | error cause => rfl

/-- A result is likewise itself. -/
theorem Likewise.of_eq {ε α : Type} {one other : Except ε α} (same : one = other) :
    Likewise Eq one other := by
  subst same
  cases one with
  | ok value => exact .ok rfl
  | error cause => exact .error cause

namespace Program

variable {α β γ δ : Type}

/-- Two programs that make the same calls up to credentials, whatever the answers, and end with related
values. -/
inductive Alike (related : α → β → Prop) : Program α → Program β → Prop where
  /-- Both end. -/
  | done {one : α} {other : β} (same : related one other) : Alike related (.done one) (.done other)
  /-- Both make the same call, and go on alike from the same answer. -/
  | call {request : Call} {one : request.Answer → Program α} {other : request.Answer → Program β}
    (common : request.IsCommon) (next : ∀ answer, Alike related (one answer) (other answer)) :
    Alike related (.call request one) (.call request other)
  /-- Both read the same secret, and go on alike from data that differ. -/
  | read {name «namespace» : String} {one : Except ClusterError Secret → Program α}
    {other : Except ClusterError Secret → Program β}
    (next : ∀ first second, Likewise Secret.Alike first second →
      Alike related (one first) (other second)) :
    Alike related (.call (.getSecret name «namespace») one)
      (.call (.getSecret name «namespace») other)
  /-- Both have the driver make the same group, with credentials of their own. -/
  | create {name : String} {first second parameters : KeyMap String}
    {one : Except DriverError CreatedGroup → Program α}
    {other : Except DriverError CreatedGroup → Program β}
    (next : ∀ answer, Alike related (one answer) (other answer)) :
    Alike related (.call (.createDriverGroup name first parameters) one)
      (.call (.createDriverGroup name second parameters) other)
  /-- Both have the driver delete the same group, with credentials of their own. -/
  | delete {handle : String} {first second : KeyMap String}
    {one : Except DriverError Unit → Program α} {other : Except DriverError Unit → Program β}
    (next : ∀ answer, Alike related (one answer) (other answer)) :
    Alike related (.call (.deleteDriverGroup handle first) one)
      (.call (.deleteDriverGroup handle second) other)
  /-- Both give the driver's group the same members, with credentials of their own. -/
  | modify {handle : String} {volumeIds : List String} {first second : KeyMap String}
    {one : Except DriverError Unit → Program α} {other : Except DriverError Unit → Program β}
    (next : ∀ answer, Alike related (one answer) (other answer)) :
    Alike related (.call (.modifyMembership handle volumeIds first) one)
      (.call (.modifyMembership handle volumeIds second) other)

/-- Alike programs followed by alike programs are alike. -/
theorem Alike.bind {related : α → β → Prop} {further : γ → δ → Prop} {one : Program α}
    {other : Program β} {next : α → Program γ} {later : β → Program δ}
    (alike : one.Alike related other)
    (goes : ∀ first second, related first second → (next first).Alike further (later second)) :
    (one.bind next).Alike further (other.bind later) := by
  -- The induction goes along the calls that both make.
  induction alike with
  | done same => exact goes _ _ same
  | call common _ ih => exact .call common ih
  | read _ ih => exact .read ih
  | create _ ih => exact .create ih
  | delete _ ih => exact .delete ih
  | modify _ ih => exact .modify ih

/-- Programs that are alike with values related in one way are so with values related in every wider
way. -/
theorem Alike.mono {related wider : α → β → Prop} {one : Program α} {other : Program β}
    (alike : one.Alike related other)
    (wide : ∀ first second, related first second → wider first second) :
    one.Alike wider other := by
  -- A program that ends with the wider relation is put behind both.
  have ends := alike.bind fun first second same => Alike.done (wide first second same)
  simpa only [bind_done] using ends

/-- A program without anything to do with credentials is like itself. -/
theorem IsCommon.alike {program : Program α} (common : program.IsCommon) :
    program.Alike Eq program := by
  -- The induction follows the calls, each of which both programs make.
  induction program with
  | done value => exact .done rfl
  | call request next ih => exact .call common.1 fun answer => ih answer (common.2 answer)

end Program

namespace Attempt

variable {ε ε' α β γ δ : Type}

/-- Two attempts that make the same calls up to credentials, and fail for the same reason or succeed with
related values. -/
def Alike (related : α → β → Prop) (one : Attempt ε α) (other : Attempt ε β) : Prop :=
  Program.Alike (Likewise related) one.run other.run

variable {related : α → β → Prop} {further : γ → δ → Prop} {one : Attempt ε α}
  {other : Attempt ε β}

/-- Related values are alike successes. -/
theorem Alike.pure {first : α} {second : β} (same : related first second) :
    Alike related (Pure.pure first : Attempt ε α) (Pure.pure second : Attempt ε β) :=
  .done (.ok same)

/-- Related results are alike without any call. -/
theorem Alike.known {first : Except ε α} {second : Except ε β}
    (likewise : Likewise related first second) :
    Alike related (Attempt.known first) (Attempt.known second) :=
  .done likewise

/-- An attempt without anything to do with credentials is like itself. -/
theorem IsCommon.alike {attempt : Attempt ε α} (common : attempt.IsCommon) :
    attempt.Alike Eq attempt := by
  -- Its program is like itself, and equal results are likewise themselves.
  have same := Program.IsCommon.alike
    (Program.Asks.mono common (fun _ => id) fun _ _ => trivial : Program.IsCommon attempt.run)
  exact same.mono fun _ _ => Likewise.of_eq

/-- Alike attempts followed by alike attempts are alike. -/
theorem Alike.bind {next : α → Attempt ε γ} {later : β → Attempt ε δ} (alike : one.Alike related other)
    (goes : ∀ first second, related first second → (next first).Alike further (later second)) :
    (one >>= next).Alike further (other >>= later) := by
  refine Program.Alike.bind alike ?_
  -- Where the first attempts fail, they fail for the same reason.
  intro first second likewise
  cases likewise with
  | ok same => exact goes _ _ same
  | error cause => exact .done (.error cause)

/-- An attempt without anything to do with credentials may come before attempts that are alike. -/
theorem IsCommon.then {attempt : Attempt ε α} {next : α → Attempt ε γ} {later : α → Attempt ε δ}
    (common : attempt.IsCommon) (goes : ∀ value, (next value).Alike further (later value)) :
    (attempt >>= next).Alike further (attempt >>= later) := by
  -- The values are equal, so both go on in the same way.
  refine common.alike.bind ?_
  rintro value _ rfl
  exact goes value

/-- Alike attempts are alike when their failures are told in wider terms. -/
theorem Alike.within {wider : ε → ε'} (alike : one.Alike related other) :
    (one.within wider).Alike related (other.within wider) := by
  refine Program.Alike.bind alike ?_
  -- A failure is the same on both sides, and so it is after being told in wider terms.
  intro first second likewise
  cases likewise with
  | ok same => exact .done (.ok same)
  | error cause => exact .done (.error (wider cause))

/-- The outcomes of alike attempts are alike. -/
theorem Alike.outcome (alike : one.Alike related other) :
    (one.outcome : Attempt ε' (Except ε α)).Alike (Likewise related) other.outcome :=
  Program.Alike.bind alike fun _ _ likewise => .done (.ok likewise)

/-- Alike attempts whose failures are told on one group are alike, since they fail for the same
reason. -/
theorem Alike.tellingOn {one : Attempt PassError α} {other : Attempt PassError β} {group : Group}
    {reason : Reason} {ready : Option Bool} (alike : one.Alike related other) :
    (one.tellingOn group reason ready).Alike related (other.tellingOn group reason ready) := by
  -- Both fail for the same reason or neither does.
  refine Program.Alike.bind alike ?_
  intro first second likewise
  cases likewise with
  | ok same => exact .done (.ok same)
  | error cause =>
    refine (group.common_tell reason ready cause).alike.bind ?_
    exact fun _ _ _ => .done (.error cause)

end Attempt

end VolumeGroups
