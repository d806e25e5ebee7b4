import VolumeGroups.Proofs.Provision.Entries
import VolumeGroups.Proofs.Provision.Handing

/-! The split of a class's parameters: it fails at the first parameter that offends, and otherwise every
parameter goes to one place and none is lost. -/

namespace VolumeGroups

/-- A key is one of the two under which a class points to credentials. -/
def IsSecretKey (key : String) : Prop := key = secretNameKey ∨ key = secretNamespaceKey

/-- What is wrong with a parameter. -/
inductive Offends : String → String → ParameterError → Prop where
  /-- Its key is reserved and not known, whatever its value is. -/
  | unknown {key : String} (value : String) (reserved : reservedStem.toList <+: key.toList)
    (unknown : ¬ IsSecretKey key) : Offends key value (.unknownReservedKey key)
  /-- Its key is known and its value empty. -/
  | empty {key : String} (known : IsSecretKey key) : Offends key "" (.emptyValue key)

/-- A key is reserved exactly if the stem of all such keys comes first in it. -/
theorem isReservedKey_iff {key : String} :
    isReservedKey key = true ↔ reservedStem.toList <+: key.toList :=
  List.isPrefixOf_iff_prefix

/-- The two keys that point to credentials are reserved. -/
theorem IsSecretKey.isPrefix {key : String} (known : IsSecretKey key) :
    reservedStem.toList <+: key.toList := by
  rcases known with rfl | rfl <;> exact ⟨_, (String.toList_append ..).symm⟩

namespace ClassParameters

/-- What becomes of a split when one more parameter comes to it. -/
inductive Takes (resolved : ClassParameters) : String → String →
    Except ParameterError ClassParameters → Prop where
  /-- The driver gets it. -/
  | driver {key value : String} (free : ¬ reservedStem.toList <+: key.toList) :
    Takes resolved key value (.ok { resolved with driver := resolved.driver.insert key value })
  /-- It names the secret. -/
  | name {value : String} (filled : value ≠ "") :
    Takes resolved secretNameKey value
      (.ok { resolved with secret := { resolved.secret with name := some value } })
  /-- It names the secret's namespace. -/
  | space {value : String} (filled : value ≠ "") :
    Takes resolved secretNamespaceKey value
      (.ok { resolved with secret := { resolved.secret with «namespace» := some value } })
  /-- It offends. -/
  | refusal {key value : String} {error : ParameterError} (offends : Offends key value error) :
    Takes resolved key value (.error error)

/-- A parameter that comes to a split is taken in or offends. -/
theorem takes_add (resolved : ClassParameters) (key value : String) :
    resolved.Takes key value (resolved.add (key, value)) := by
  have filled (other : ¬ value.isEmpty = true) : value ≠ "" := fun blank => other (by simp [blank])
  unfold add
  dsimp only
  -- The cases are those of the code: free keys first, then each known key with its check.
  split
  · rename_i free
    exact .driver fun reserved => by simp [isReservedKey_iff.mpr reserved] at free
  · rename_i bound
    have reserved : reservedStem.toList <+: key.toList := isReservedKey_iff.mp (by simpa using bound)
    split
    · subst key
      split
      · rename_i blank
        exact String.isEmpty_iff.mp blank ▸ .refusal (.empty (.inl rfl))
      · rename_i other
        exact .name (filled other)
    · rename_i notName
      split
      · subst key
        split
        · rename_i blank
          exact String.isEmpty_iff.mp blank ▸ .refusal (.empty (.inr rfl))
        · rename_i other
          exact .space (filled other)
      · -- The key is neither of the two.
        rename_i notSpace
        exact .refusal (.unknown value reserved (not_or.mpr ⟨notName, notSpace⟩))

/-- A parameter that is taken in does not offend. -/
theorem Takes.not_offends {resolved after : ClassParameters} {key value : String}
    (takes : resolved.Takes key value (.ok after)) (error : ParameterError) :
    ¬ Offends key value error := by
  intro offends
  -- Each way of being taken in excludes both ways of offending.
  cases takes with
  | driver free =>
    cases offends with
    | unknown _ reserved => exact free reserved
    | empty known => exact free known.isPrefix
  | name filled =>
    cases offends with
    | unknown _ _ unknown => exact unknown (.inl rfl)
    | empty => exact filled rfl
  | space filled =>
    cases offends with
    | unknown _ _ unknown => exact unknown (.inr rfl)
    | empty => exact filled rfl

/-- Where some parameters go, none of which offends: those with free keys to the driver, and the values of
the two keys that point to credentials to the location. -/
structure Splits (resolved : ClassParameters) (parameters : KeyMap String) : Prop where
  driver : ∀ key, resolved.driver.get? key =
    if reservedStem.toList <+: key.toList then none else parameters.get? key
  name : resolved.secret.name = parameters.get? secretNameKey
  space : resolved.secret.namespace = parameters.get? secretNamespaceKey
  sound : ∀ key value error, parameters.get? key = some value → ¬ Offends key value error

/-- Without parameters nothing goes anywhere. -/
theorem splits_empty : Splits {} ∅ := by
  refine ⟨fun key => ?_, rfl, rfl, nofun⟩
  split <;> rfl

/-- A split goes on being one of the parameters that came to it. -/
theorem Splits.takes {resolved after : ClassParameters} {parameters : KeyMap String}
    {key value : String} (splits : resolved.Splits parameters)
    (takes : resolved.Takes key value (.ok after)) : after.Splits (parameters.insert key value) := by
  obtain ⟨driver, name, space, sound⟩ := splits
  -- What offends is the new parameter, or it has been there before.
  have sound (asked worth : String) (error : ParameterError)
      (found : (parameters.insert key value).get? asked = some worth) : ¬ Offends asked worth error := by
    rw [KeyMap.get?_insert] at found
    split at found
    · rename_i same
      cases found
      exact same ▸ takes.not_offends error
    · exact sound asked worth error found
  -- A reserved key makes no difference to the driver.
  have spares (reserved : reservedStem.toList <+: key.toList) (asked : String) :
      resolved.driver.get? asked = if reservedStem.toList <+: asked.toList then none
        else (parameters.insert key value).get? asked := by
    rw [driver, KeyMap.get?_insert]
    by_cases same : key = asked
    · subst same
      simp [reserved]
    · simp [same]
  have apart : secretNameKey ≠ secretNamespaceKey := by decide
  cases takes with
  -- A free key is none of the two that point to the secret.
  | driver free =>
    have other {pointer : String} (points : IsSecretKey pointer) : key ≠ pointer := by
      rintro rfl
      exact free points.isPrefix
    refine ⟨fun asked => ?_, ?_, ?_, sound⟩
    · rw [KeyMap.get?_insert, KeyMap.get?_insert, driver]
      by_cases same : key = asked
      · subst same
        simp [free]
      · simp [same]
    · rw [KeyMap.get?_insert, if_neg (other (.inl rfl)), name]
    · rw [KeyMap.get?_insert, if_neg (other (.inr rfl)), space]
  -- The name is set, and all else is left.
  | name filled =>
    refine ⟨spares (IsSecretKey.isPrefix (.inl rfl)), ?_, ?_, sound⟩
    · rw [KeyMap.get?_insert, if_pos rfl]
    · rw [KeyMap.get?_insert, if_neg apart, space]
  -- The namespace is set, and all else is left.
  | space filled =>
    refine ⟨spares (IsSecretKey.isPrefix (.inr rfl)), ?_, ?_, sound⟩
    · rw [KeyMap.get?_insert, if_neg apart.symm, name]
    · rw [KeyMap.get?_insert, if_pos rfl]

/-- Parameters that are taken in one after another end in a split of all of them. -/
theorem Splits.foldlM_add {entries : List (String × String)} {start resolved : ClassParameters}
    {parameters : KeyMap String} (splits : start.Splits parameters)
    (done : entries.foldlM add start = .ok resolved) :
    resolved.Splits (entries.foldl (fun map entry => map.insert entry.1 entry.2) parameters) := by
  -- The induction goes along the parameters that are still to come.
  induction entries generalizing start parameters with
  | nil =>
    cases done
    exact splits
  | cons entry rest ih =>
    have takes := takes_add start entry.1 entry.2
    rw [List.foldlM_cons] at done
    cases added : start.add entry with
    | error error =>
      rw [added] at done
      cases done
    | ok next =>
      rw [added] at done takes
      exact ih (splits.takes takes) done

/-- Parameters that cannot all be taken in are refused for the first of them that offends. -/
theorem foldlM_add_eq_error {entries : List (String × String)} {start : ClassParameters}
    {error : ParameterError} (failed : entries.foldlM add start = .error error) :
    ∃ before entry after, entries = before ++ entry :: after ∧
      (∀ other ∈ before, ¬ ∃ cause, Offends other.1 other.2 cause) ∧
      Offends entry.1 entry.2 error := by
  -- The induction goes along the parameters, up to the first that offends.
  induction entries generalizing start with
  | nil => cases failed
  | cons entry rest ih =>
    obtain ⟨key, value⟩ := entry
    have takes := takes_add start key value
    rw [List.foldlM_cons] at failed
    cases added : start.add (key, value) with
    | error cause =>
      rw [added] at failed takes
      cases failed
      cases takes with
      | refusal offends => exact ⟨[], (key, value), rest, rfl, by simp, offends⟩
    | ok next =>
      rw [added] at failed takes
      obtain ⟨before, other, after, rfl, spares, offends⟩ := ih failed
      refine ⟨(key, value) :: before, other, after, rfl, ?_, offends⟩
      exact List.forall_mem_cons.mpr ⟨fun ⟨cause, wrong⟩ => takes.not_offends cause wrong, spares⟩

variable {parameters : KeyMap String}

/-- Parameters that are accepted are split, each to its place. -/
theorem splits_of_resolve {resolved : ClassParameters} (accepted : resolve parameters = .ok resolved) :
    resolved.Splits parameters := by
  have splits := splits_empty.foldlM_add accepted
  rwa [← KeyMap.ofList_entries parameters]

/-- Parameters are refused for the first that offends. -/
theorem isFirst_of_resolve {error : ParameterError} (refused : resolve parameters = .error error) :
    ∃ key value, parameters.IsFirst (fun key value => ∃ cause, Offends key value cause) key value ∧
      Offends key value error := by
  obtain ⟨before, entry, after, parts, spares, offends⟩ := foldlM_add_eq_error refused
  exact ⟨entry.1, entry.2, KeyMap.isFirst_of_split parts spares ⟨error, offends⟩, offends⟩

/-- Parameters are refused exactly if one of them offends. -/
theorem resolve_fails_iff : (∃ error, resolve parameters = .error error) ↔
    ∃ key value error, parameters.get? key = some value ∧ Offends key value error := by
  constructor
  · -- A refusal names the parameter.
    rintro ⟨error, refused⟩
    obtain ⟨key, value, first, offends⟩ := isFirst_of_resolve refused
    exact ⟨key, value, error, first.found, offends⟩
  · -- A split has no parameter that offends.
    rintro ⟨key, value, error, found, offends⟩
    cases outcome : resolve parameters with
    | error cause => exact ⟨cause, rfl⟩
    | ok resolved => exact absurd offends ((splits_of_resolve outcome).sound key value error found)

/-- Some parameters with one more, if there is a value for it. -/
def putSome (parameters : KeyMap String) (key : String) : Option String → KeyMap String
  | some value => parameters.insert key value
  | none => parameters

/-- A parameter that is put is found under its key, and the others as before. -/
theorem get?_putSome (parameters : KeyMap String) (key : String) (value : Option String)
    (asked : String) : (putSome parameters key value).get? asked =
      if key = asked then value.or (parameters.get? asked) else parameters.get? asked := by
  cases value with
  | none => simp [putSome]
  | some value => simp [putSome, KeyMap.get?_insert]

/-- The parameters of a split put together again. -/
def joined (resolved : ClassParameters) : KeyMap String :=
  putSome (putSome resolved.driver secretNameKey resolved.secret.name) secretNamespaceKey
    resolved.secret.namespace

/-- What was split is all there when it is put together again. -/
theorem Splits.joined_eq {resolved : ClassParameters} (splits : resolved.Splits parameters) :
    resolved.joined = parameters := by
  refine KeyMap.eq_of_get? fun asked => ?_
  have apart : secretNameKey ≠ secretNamespaceKey := by decide
  -- The two keys of the pointer are reserved, so the driver does not have them.
  have hidden {key : String} (known : IsSecretKey key) : resolved.driver.get? key = none := by
    rw [splits.driver, if_pos known.isPrefix]
  rw [joined, get?_putSome, get?_putSome, splits.name, splits.space]
  -- The key is one of the two, or it is any other one.
  by_cases isSpace : secretNamespaceKey = asked
  · subst isSpace
    simp [apart, hidden (.inr rfl)]
  · by_cases isName : secretNameKey = asked
    · subst isName
      simp [isSpace, hidden (.inl rfl)]
    · rw [if_neg isSpace, if_neg isName, splits.driver]
      split
      · -- A reserved key that is none of the two would offend.
        rename_i reserved
        cases found : parameters.get? asked with
        | none => rfl
        | some value =>
          have unknown : ¬ IsSecretKey asked := not_or.mpr ⟨Ne.symm isName, Ne.symm isSpace⟩
          exact absurd (.unknown value reserved unknown) (splits.sound asked value _ found)
      · rfl

end ClassParameters

/-- The driver makes a group with the free parameters of a class, and with no others. -/
theorem Supplied.free_of_created {log : List Exchange} {result : Except PassError Action}
    (supplied : Supplied log result) {name : String} {secrets given : KeyMap String}
    {answer : Except DriverError CreatedGroup}
    (made : ⟨.createDriverGroup name secrets given, answer⟩ ∈ log) :
    ∃ className groupClass, ⟨.getClass className, .ok groupClass⟩ ∈ log ∧
      ∀ key, given.get? key = if reservedStem.toList <+: key.toList then none
        else groupClass.spec.parameters.get? key := by
  -- A group is made by a pass that was served.
  cases supplied with
  | aside early => exact (early _ made).elim
  | denied read accepted fails spares => exact absurd trivial (spares _ made)
  | served read accepted arrives hands =>
    have chosen := (hands _ made).2
    exact ⟨_, _, read, fun key => chosen ▸ (ClassParameters.splits_of_resolve accepted).driver key⟩

namespace ClassParameters

/-- Parameters are refused exactly if one of them offends, namely for the first that does. Otherwise each
goes to its place, and all of them are there again when the split is put together. Whoever answers the calls
of a pass, the driver makes a group with the free parameters of a class that the pass read, and with no
others. -/
theorem resolve_splits (parameters : KeyMap String) :
    ((∃ error, resolve parameters = .error error) ↔
      ∃ key value error, parameters.get? key = some value ∧ Offends key value error) ∧
    (∀ error, resolve parameters = .error error → ∃ key value,
      parameters.IsFirst (fun key value => ∃ cause, Offends key value cause) key value ∧
        Offends key value error) ∧
    (∀ resolved, resolve parameters = .ok resolved →
      resolved.Splits parameters ∧ resolved.joined = parameters) ∧
    ∀ (σ : Type) (respond : σ → (request : Call) → request.Answer × σ) (state : σ) (seen : Group)
        (driver name : String) (secrets given : KeyMap String)
        (answer : Except DriverError CreatedGroup),
      ⟨.createDriverGroup name secrets given, answer⟩ ∈
          (seen.reconcile driver).run.journal respond state →
        ∃ className groupClass, ⟨.getClass className, .ok groupClass⟩ ∈
            (seen.reconcile driver).run.journal respond state ∧
          ∀ key, given.get? key = if reservedStem.toList <+: key.toList then none
            else groupClass.spec.parameters.get? key := by
  refine ⟨resolve_fails_iff, fun _ => isFirst_of_resolve, ?_, ?_⟩
  · -- Parameters that are accepted are split.
    intro resolved accepted
    have splits := splits_of_resolve accepted
    exact ⟨splits, splits.joined_eq⟩
  · -- What holds of every log of a pass holds of the log of this run.
    intro σ respond state seen driver name secrets given answer made
    exact ((seen.logs_reconcile driver).journal respond state).free_of_created made

-- The first of two wrong keys is the one that is told, although its value is empty as well.
example : resolve (KeyMap.ofList [(secretNameKey, ""), (reservedStem ++ "secret", "")]) =
    .error (.unknownReservedKey (reservedStem ++ "secret")) := by
  decide +kernel

end ClassParameters

end VolumeGroups
