import VolumeGroups.Parameters
import VolumeGroups.Program

/-! The credentials for the driver, read from the secret that a class points to. -/

namespace VolumeGroups

/-- The values of a secret as texts, or the first key whose value is none. -/
def Secret.texts (secret : Secret) (name «namespace» : String) :
    Except SecretError (KeyMap String) :=
  -- Keys are walked in their order, so the first value that is no text is the same in every pass.
  (secret.data.getD ∅).traverse fun key value =>
    match String.fromUTF8? value.toByteArray with
    | some text => .ok text
    | none => .error (.invalidData name «namespace» key)

/-- The credentials at a location, where an incomplete location holds none. -/
def SecretLocation.credentials (location : SecretLocation) :
    Attempt SecretError (KeyMap String) :=
  match location.both with
  -- A class need not name a secret, for drivers that ask for none.
  | none => return ∅
  | some (name, space) => do
    -- A missing secret is something a user can mend, while any other failure passes by itself.
    let unavailable (cause : ClusterError) : SecretError :=
      if cause.isNotFound then .notFound name space else .unavailable name space cause
    let secret ← Attempt.within unavailable (.of (.ask (.getSecret name space)))
    .known (secret.texts name space)

end VolumeGroups
