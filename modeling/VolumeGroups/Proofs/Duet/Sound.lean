import VolumeGroups.Proofs.Duet.Effect
import VolumeGroups.Proofs.Duet.Run
import VolumeGroups.Proofs.Operator.Conducted

/-! What is true at every moment of two passes: each goes on from its own group, and marks of claims are
as the calls of both left them. -/

namespace VolumeGroups

/-- Whether the last write of the claim under a key left it with its mark, if there was one. -/
def lastMark? (key : String) (turns : List Turn) : Option Bool :=
  turns.findSome? fun turn => turn.2.marks? key

/-- The last write of a claim is one after which nobody wrote the claim. -/
theorem lastMark?_eq_some_iff {key : String} {turns : List Turn} {marked : Bool} :
    lastMark? key turns = some marked ↔ ∃ later turn earlier, turns = later ++ turn :: earlier ∧
      turn.2.marks? key = some marked ∧ ∀ one ∈ later, one.2.marks? key = none :=
  List.findSome?_eq_some_iff

/-- Whoever never wrote a claim has no last write of it. -/
theorem lastMark?_eq_none_iff {key : String} {turns : List Turn} :
    lastMark? key turns = none ↔ ∀ turn ∈ turns, turn.2.marks? key = none :=
  List.findSome?_eq_none_iff

/-- A claim goes on from the one that a store had under a key, with the mark that calls left it. -/
def Claim.StemsFrom (claim : Claim) (start : Store) (key : String) (turns : List Turn) : Prop :=
  ∃ before : Claim, start.find? key = some before ∧ claim.metadata.name = before.metadata.name ∧
    claim.metadata.namespace = before.metadata.namespace ∧
    claim.isMarked = (lastMark? key turns).getD before.isMarked

/-- A user gives a claim other labels. -/
def UserAction.IsRelabelling : UserAction → Prop
  | .relabelClaim .. => True
  | _ => False

namespace UserAction.IsRelabelling

variable {action : UserAction} (relabels : action.IsRelabelling) {store : Store}
include relabels

/-- Other labels are something that users may give. -/
theorem isProper : action.IsProper := by
  cases action <;> trivial

/-- Other labels leave groups alone. -/
theorem groups : (action.on store).groups = store.groups := by
  cases action with
  | relabelClaim => exact congrArg (·.1) (Store.untouched_by_claims.modify store _ _ _)
  | _ => exact relabels.elim

/-- A claim that is there afterwards was there before, with its mark. -/
theorem claim_before (regular : store.Regular) {key : String} {now : Claim}
    (found : (action.on store).find? key = some now) :
    ∃ before : Claim, store.find? key = some before ∧ now.metadata.name = before.metadata.name ∧
      now.metadata.namespace = before.metadata.namespace ∧ now.isMarked = before.isMarked := by
  -- Relabelling is the only thing that a user does here.
  cases action with
  | relabelClaim name space labels =>
    rcases Store.find?_modify regular.claims found fun _ => rfl with kept | ⟨before, there, rfl⟩
    · exact ⟨now, kept, rfl, rfl, rfl⟩
    · exact ⟨before, there, rfl, rfl, rfl⟩
  | _ => exact relabels.elim

end UserAction.IsRelabelling

namespace Duet

/-- What is true of two passes over the groups under some keys. -/
structure Sound (driver : String) (start : Store) (place : Side → String) (duet : Duet) : Prop where
  regular : duet.store.Regular
  /-- Both passes have been conducted so far, and will be. -/
  kept : ∀ side, (Conduct (place side)).Kept (callsOf side duet.turns)
  going : ∀ side, (duet.rest side).Honours (.unruly driver) (Conduct (place side)).promise
    (fun _ _ => True) ⟨duet.store, callsOf side duet.turns⟩
  holds : ∀ side, Holds start (place side) (callsOf side duet.turns) duet.store
  /-- Every claim that a pass counted was stored then. -/
  recalls : ∀ side space claims, (side, ⟨.listClaims space, .ok claims⟩) ∈ duet.turns →
    ∀ claim ∈ claims, duet.store.Recalls claim
  claims : ∀ {key : String} {claim : Claim}, duet.store.find? key = some claim →
    claim.StemsFrom start key duet.turns

variable {driver : String} {start : Store} {place : Side → String} {duet : Duet}

/-- Two passes that begin are sound. -/
theorem Sound.opening (driver : String) (seen : Side → Group) (regular : start.Regular) :
    (Duet.opening driver seen start).Sound driver start fun side => (seen side).place := by
  refine ⟨regular, fun side => trivial, fun side => ?_, fun side => ⟨?_, nofun, nofun⟩, nofun, ?_⟩
  · exact (Attempt.honours_conducting (seen side) start).mono fun _ _ _ => trivial
  · exact fun {group} found => ⟨group, found, .refl _, rfl⟩
  · exact fun {key claim} found => ⟨claim, found, rfl, rfl, rfl⟩

/-- A user's new labels leave two passes sound. -/
theorem Sound.relabel (sound : duet.Sound driver start place) {action : UserAction}
    (relabels : action.IsRelabelling) :
    Sound driver start place { duet with store := action.on duet.store } := by
  have spares := relabels.isProper.spares sound.regular
  -- Labels are nothing that the passes have promised to each other.
  refine ⟨spares.regular, sound.kept, fun side => ?_, fun side => ?_, ?_, ?_⟩
  · exact Conditions.honours_of_waits (sound.going side) ⟨rfl, .single trivial⟩
  · exact (sound.holds side).of_find? (Store.find?_of_groups relabels.groups _)
  · exact fun side space claims counted claim known =>
      (sound.recalls side space claims counted claim known).later spares.since.claims
  · intro key claim found
    obtain ⟨middle, kept, name, space, mark⟩ := relabels.claim_before sound.regular found
    obtain ⟨before, there, named, inSpace, marked⟩ := sound.claims kept
    exact ⟨before, there, name.trans named, space.trans inSpace, mark.trans marked⟩

/-- The next call of a pass is conducted. -/
theorem Sound.conduct (sound : duet.Sound driver start place) {side : Side} {request : Call}
    {next : request.Answer → Program (Except PassError Action)}
    (waiting : duet.rest side = .call request next) :
    Conduct (place side) (callsOf side duet.turns) request := by
  have going := sound.going side
  rw [waiting] at going
  exact Conditions.allows_next going

/-- What a conducted call of one of two passes does. -/
theorem Sound.effect (sound : duet.Sound driver start place) {side : Side} {request : Call}
    {answer : request.Answer} {after : Store} (ordered : start.Orderly Group)
    (conduct : Conduct (place side) (callsOf side duet.turns) request)
    (serves : duet.store.Serves request answer after) :
    Effect (place side) duet.store ⟨request, answer⟩ after :=
  .of_serves ordered conduct serves (sound.holds side) fun space claims counted =>
    sound.recalls side space claims (mem_callsOf.mp counted)

/-- A claim that nobody has marked or let go has the mark that it had at the start. -/
theorem Sound.mark_of_silent (sound : duet.Sound driver start place) {key : String}
    {claim first : Claim} (found : duet.store.find? key = some claim)
    (began : start.find? key = some first)
    (silent : ∀ turn ∈ duet.turns, turn.2.marks? key = none) : claim.isMarked = first.isMarked := by
  -- No write is the last one.
  obtain ⟨before, there, _, _, mark⟩ := sound.claims found
  obtain rfl : before = first := Option.some.inj (there.symm.trans began)
  have unwritten := lastMark?_eq_none_iff.mpr silent
  simpa [unwritten] using mark

/-- A call of one of two passes leaves them sound. -/
theorem Sound.call (sound : duet.Sound driver start place) {side : Side} {request : Call}
    {answer : request.Answer} {next : request.Answer → Program (Except PassError Action)}
    {after : Store} (ordered : start.Orderly Group) (apart : place side.other ≠ place side)
    (waiting : duet.rest side = .call request next)
    (serves : duet.store.Serves request answer after) :
    Sound driver start place
      { store := after
        rest := Function.update duet.rest side (next answer)
        turns := (side, ⟨request, answer⟩) :: duet.turns } := by
  -- The pass has promised to be conducted in its next call.
  have going := sound.going side
  rw [waiting] at going
  obtain ⟨conduct, further⟩ := going _ (Conditions.waits_refl _ _) answer
    ⟨after, ⟨request, answer⟩ :: callsOf side duet.turns⟩ ⟨rfl, .inl serves⟩
  have effect := sound.effect ordered conduct serves
  have elsewhere : callsOf side.other ((side, ⟨request, answer⟩) :: duet.turns) =
      callsOf side.other duet.turns := callsOf_cons_ne side.other_ne.symm
  refine ⟨effect.regular sound.regular, fun one => ?_, fun one => ?_, fun one => ?_, ?_, ?_⟩
  · rcases side.eq_or_eq_other one with rfl | rfl
    · rw [callsOf_cons_self]
      exact ⟨conduct, sound.kept one⟩
    · rw [elsewhere]
      exact sound.kept side.other
  · rcases side.eq_or_eq_other one with rfl | rfl
    · simpa only [callsOf_cons_self, Function.update_self] using further
    · -- To the other pass the call is something that happens to the store.
      simp only [elsewhere, Function.update_of_ne side.other_ne]
      exact Conditions.honours_of_waits (sound.going side.other) ⟨rfl, .single trivial⟩
  · rcases side.eq_or_eq_other one with rfl | rfl
    · rw [callsOf_cons_self]
      exact effect.holds sound.regular.groups (sound.holds one)
    · rw [elsewhere]
      exact effect.holds_apart sound.regular.groups apart (sound.holds side.other)
  · intro one space claims counted claim known
    rcases List.mem_cons.mp counted with same | before
    · -- What is counted now is stored now.
      obtain ⟨rfl, made⟩ := Prod.mk.inj same
      cases made
      obtain rfl := effect.counted
      obtain ⟨⟨key, found⟩, _⟩ := Store.mem_list.mp known
      exact (sound.regular.claims.recalls found).later effect.precedes
    · exact (sound.recalls one space claims before claim known).later effect.precedes
  · intro key claim found
    -- The mark is what the call has written, or what was there.
    obtain ⟨middle, kept, continues, mark⟩ := effect.claim_before found
    obtain ⟨before, there, named, inSpace, marked⟩ := sound.claims kept
    refine ⟨before, there, ?_, ?_, ?_⟩
    · rw [continues, ← named]
    · rw [continues, ← inSpace]
    · rw [mark, marked]
      cases written : Exchange.marks? key ⟨request, answer⟩ <;> simp [lastMark?, written]

/-- A moment of two passes over different groups, while users may give claims other labels. -/
structure Played (allowed : UserAction → Prop) (driver : String) (seen : Side → Group)
    (start : Store) (duet : Duet) : Prop where
  relabels : ∀ action, allowed action → action.IsRelabelling
  apart : (seen .left).place ≠ (seen .right).place
  regular : start.Regular
  run : Reaches allowed (.opening driver seen start) duet

namespace Played

variable {allowed : UserAction → Prop} {seen : Side → Group} {final : Duet}
  (played : duet.Played allowed driver seen start)
include played

/-- The two passes are over groups of different keys. -/
theorem places_ne (side : Side) : (seen side.other).place ≠ (seen side).place := by
  cases side with
  | left => exact played.apart.symm
  | right => exact played.apart

/-- A run that is played goes on being played. -/
theorem later (goes : Reaches allowed duet final) : final.Played allowed driver seen start :=
  { played with run := played.run.trans goes }

/-- Every moment of two passes is sound. -/
theorem sound : duet.Sound driver start fun side => (seen side).place := by
  -- The induction goes along the run, one step at a time.
  obtain ⟨relabels, apart, regular, run⟩ := played
  induction run with
  | refl => exact .opening driver seen regular
  | tail run step ih =>
    cases step with
    | act action permitted => exact ih.relabel (relabels action permitted)
    | call waiting serves =>
      have placed := places_ne ⟨relabels, apart, regular, run⟩
      exact ih.call regular.groups (placed _) waiting serves

/-- Claims that are there at a later moment are new versions, or were there before. -/
theorem precedes (goes : Reaches allowed duet final) : duet.store.Precedes Claim final.store := by
  -- The induction goes along the steps from one moment to the other.
  induction goes with
  | refl => rfl
  | tail goes step ih =>
    have sound := (played.later goes).sound
    refine ih.trans ?_
    cases step with
    | act action permitted =>
      exact ((played.relabels action permitted).isProper.spares sound.regular).since.claims
    | call waiting serves =>
      exact (sound.effect played.regular.groups (sound.conduct waiting) serves).precedes

/-- A group that is there at a later moment was there before. -/
theorem group_before (goes : Reaches allowed duet final) {key : String} {now : Group}
    (found : final.store.find? key = some now) :
    ∃ before : Group, duet.store.find? key = some before := by
  -- The induction goes back along the steps, none of which makes a group.
  induction goes generalizing now with
  | refl => exact ⟨now, found⟩
  | tail goes step ih =>
    have sound := (played.later goes).sound
    cases step with
    | act action permitted =>
      exact ih (Store.find?_of_groups (played.relabels action permitted).groups key ▸ found)
    | call waiting serves =>
      have effect := sound.effect played.regular.groups (sound.conduct waiting) serves
      obtain ⟨before, there⟩ := effect.group_before sound.regular.groups found
      exact ih there

end Played

end Duet

end VolumeGroups
