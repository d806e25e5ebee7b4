import VolumeGroups.Proofs.Operator.Acted
import VolumeGroups.Proofs.Recovery.Turns

/-! The order of passes does not matter: after two rounds over all groups of a namespace, the groups that
are left and the claims that they list are the same whichever groups came first. -/

namespace VolumeGroups

/-- Calls that were made stay in the log. -/
theorem Program.Plays.longer {α : Type} {conditions : Conditions} {program : Program α} {value : α}
    {scene final : Scene} (plays : program.Plays conditions value final scene) :
    ∀ exchange ∈ scene.exchanges, exchange ∈ final.exchanges := by
  -- The induction goes along the calls, each of which is put in front of the log.
  induction program generalizing scene with
  | done reached =>
    obtain ⟨_, rfl⟩ := plays
    exact fun _ => id
  | call request next ih =>
    obtain ⟨met, answer, after, waits, answers, rest⟩ := plays
    intro exchange known
    apply ih answer rest
    rw [answers.1, waits.1]
    exact List.mem_cons_of_mem _ known

/-- A driver that gives a handle to every group that it makes did so all the time. -/
theorem Handles.earlier {log more : List Exchange} (handles : Handles more)
    (longer : ∀ exchange ∈ log, exchange ∈ more) : Handles log := by
  rintro created ⟨name, secrets, parameters, known⟩
  exact handles created ⟨name, secrets, parameters, longer _ known⟩

/-- Passes over groups, one after another, that nobody disturbs, however each of them ends. -/
inductive Sweep (driver : String) : List Group → Scene → Scene → Prop
  /-- No group is left to pass over. -/
  | done {scene : Scene} : Sweep driver [] scene scene
  /-- A pass ends, and others follow. -/
  | pass {seen : Group} {rest : List Group} {scene next last : Scene}
    {result : Except PassError Action}
    (plays : (seen.reconcile driver).run.Plays (.undisturbed driver) result next scene)
    (later : Sweep driver rest next last) : Sweep driver (seen :: rest) scene last

/-- A round of passes over all groups that are left of those that a namespace had at the start, each of
them at least once and in any order. -/
def Circuit (driver space : String) (start : Store) (before after : Scene) : Prop :=
  ∃ groups : List Group,
    (∀ seen ∈ groups, ∃ group ∈ start.list space, Group.Sights group seen) ∧
    (∀ group ∈ before.store.list space, ∃ seen ∈ groups, Group.Sights group seen) ∧
    Sweep driver groups before after

variable {driver space : String} {start : Store}

/-- What was asked of the driver before a sweep is still known after it. -/
theorem Sweep.longer {groups : List Group} {scene final : Scene}
    (sweep : Sweep driver groups scene final) :
    ∀ exchange ∈ scene.exchanges, exchange ∈ final.exchanges := by
  induction sweep with
  | done => exact fun _ => id
  | pass plays _ ih => exact fun exchange known => ih exchange (plays.longer exchange known)

section Spreading

variable (tidy : start.Tidy) {reaches : Group → Group → Prop} {holds : Store → Prop}
  (turn : ∀ {group : Group} {before after : Store}, group ∈ start.list space → holds before →
    Store.PassedOver driver space start group before after →
      holds after ∧ group.Fate reaches (after.find? (Resource.key group)))
include tidy turn

/-- Where each pass settles its group, a sweep settles all groups that it passes over, and those that were
settled stay so. -/
theorem Sweep.settles {groups : List Group} {scene final : Scene}
    (sweep : Sweep driver groups scene final)
    (sights : ∀ seen ∈ groups, ∃ group ∈ start.list space, Group.Sights group seen)
    (handles : Handles final.exchanges) (governs : scene.store.Governs driver space)
    (proceeds : start.Proceeds space scene.store) (held : holds scene.store) :
    final.store.Governs driver space ∧ start.Proceeds space final.store ∧ holds final.store ∧
      ∀ group ∈ start.list space, (group.Fate reaches (scene.store.find? (Resource.key group)) ∨
        ∃ seen ∈ groups, Group.Sights group seen) →
          group.Fate reaches (final.store.find? (Resource.key group)) := by
  -- The induction goes along the sweep, one pass at a time.
  induction sweep with
  | done => exact ⟨governs, proceeds, held, fun group _ settled => settled.resolve_right (by simp)⟩
  | @pass seen rest first middle last result plays later ih =>
    obtain ⟨own, known, sighted⟩ := sights seen (List.mem_cons_self ..)
    have found := tidy.groups.found_of_mem_list known
    have inSpace := (Store.mem_list.mp known).2
    have turned : Store.PassedOver driver space start own first.store middle.store :=
      plays.goal (Group.ensures_turn (Conditions.undisturbed_solo driver) tidy governs proceeds found
        inSpace sighted) (handles.earlier later.longer)
        (Conditions.undisturbed_not_letsCallsFail driver)
    obtain ⟨kept, fate⟩ := turn known held turned
    obtain ⟨governed, proceeded, still, settles⟩ :=
      ih (fun other known => sights other (List.mem_cons_of_mem _ known)) handles turned.governs
        turned.proceeds kept
    refine ⟨governed, proceeded, still, fun group stored settled => settles group stored ?_⟩
    by_cases here : Resource.key group = Resource.key own
    · -- The pass was one over this group.
      have itself := tidy.groups.found_of_mem_list stored
      rw [here, found] at itself
      exact .inl (Option.some.inj itself ▸ fate)
    · rcases settled with before | ⟨other, among, sees⟩
      · exact .inl (turned.groups _ here ▸ before)
      · rcases List.mem_cons.mp among with rfl | among
        · -- What was seen goes by the name of one group only.
          have one := sees.place (tidy.groupNamed (tidy.groups.found_of_mem_list stored))
          have two := sighted.place (tidy.groupNamed found)
          exact absurd (one.symm.trans two) here
        · exact .inr ⟨other, among, sees⟩

/-- Where each pass settles its group, a round settles all groups of a namespace. -/
theorem Circuit.settles {scene final : Scene} (circuit : Circuit driver space start scene final)
    (handles : Handles final.exchanges) (governs : scene.store.Governs driver space)
    (proceeds : start.Proceeds space scene.store) (held : holds scene.store) :
    final.store.Governs driver space ∧ start.Proceeds space final.store ∧ holds final.store ∧
      start.Meets reaches space final.store := by
  -- The passes of the round are taken together first.
  obtain ⟨groups, sights, covers, sweep⟩ := circuit
  obtain ⟨governed, proceeded, kept, settles⟩ :=
    sweep.settles tidy turn sights handles governs proceeds held
  refine ⟨governed, proceeded, kept, ?_⟩
  -- A group that is still there is passed over, and one that is gone has met its fate before.
  intro key group found inSpace
  obtain rfl := tidy.groups.placed found
  apply settles group (Store.mem_list.mpr ⟨⟨_, found⟩, inSpace⟩)
  cases there : scene.store.find? (α := Group) (Resource.key group) with
  | none => exact .inl (there ▸ proceeds.gone found inSpace there)
  | some own =>
    have continues := proceeds.continues found inSpace there
    obtain ⟨seen, among, sees⟩ :=
      covers own (Store.mem_list.mpr ⟨⟨_, there⟩, continues.namespace.trans inSpace⟩)
    exact .inr ⟨seen, among, sees.name.trans continues.name,
      sees.namespace.trans continues.namespace⟩

end Spreading

/-- What was asked of the driver before a round is still known after it. -/
theorem Circuit.longer {before after : Scene} (circuit : Circuit driver space start before after) :
    ∀ exchange ∈ before.exchanges, exchange ∈ after.exchanges := by
  obtain ⟨_, _, _, sweep⟩ := circuit
  exact sweep.longer

/-- A namespace in order that passes have settled, and where each live group lists exactly the claims
that are its own in the end. -/
structure Store.Allots (driver space : String) (start now : Store) : Prop where
  governs : now.Governs driver space
  proceeds : start.Proceeds space now
  listsAll : start.Meets start.ListsAllAwarded space now

/-- A round over groups that have all been passed over gives each live group the claims that are its own
in the end. -/
theorem Circuit.allots {before after : Scene} (circuit : Circuit driver space start before after)
    (tidy : start.Tidy) (handles : Handles after.exchanges)
    (governs : before.store.Governs driver space) (proceeds : start.Proceeds space before.store)
    (met : start.Meets start.ListsOnlyAwarded space before.store) :
    -- Before this round no group lists a claim that another one should have.
    start.Allots driver space after.store := by
  obtain ⟨governed, proceeded, _, listsAll⟩ := circuit.settles tidy
    (fun known (visited : start.Meets start.ListsOnlyAwarded space _) turns =>
      ⟨Store.Meets.turn visited (tidy.groups.found_of_mem_list known) turns.groups turns.listsOnly,
        turns.listsAll visited⟩) handles governs proceeds met
  exact ⟨governed, proceeded, listsAll⟩

/-- Two rounds give each live group the claims that are its own in the end. -/
theorem allots_after_rounds {scene middle final : Scene}
    (governs : scene.store.Governs driver space)
    (first : Circuit driver space scene.store scene middle)
    (second : Circuit driver space scene.store middle final) (handles : Handles final.exchanges) :
    scene.store.Allots driver space final.store := by
  have tidy := governs.tidy
  -- The first round passes over every group, and the second one finds no claim taken any more.
  obtain ⟨governed, proceeded, _, listsOnly⟩ := first.settles tidy
    (fun _ (_ : True) turns => ⟨trivial, turns.listsOnly⟩) (handles.earlier second.longer) governs
    (.refl space scene.store) trivial
  exact second.allots tidy handles governed proceeded listsOnly

/-- After two rounds over all groups of a namespace, the groups that are left and the claims that they
list do not depend on the order of the passes, and further rounds leave them as they are. -/
theorem members_eq_after_rounds {scene middle final between last : Scene}
    (governs : scene.store.Governs driver space)
    (first : Circuit driver space scene.store scene middle)
    (second : Circuit driver space scene.store middle final) (handles : Handles final.exchanges)
    (another : Circuit driver space scene.store scene between)
    (next : Circuit driver space scene.store between last) (others : Handles last.exchanges) :
    (∀ key : String, (final.store.find? key : Option Group).map Group.members =
      (last.store.find? key : Option Group).map Group.members) ∧
    ∀ further : Scene,
      Relation.ReflTransGen (Circuit driver space scene.store) final further →
        Handles further.exchanges →
          ∀ key : String, (further.store.find? key : Option Group).map Group.members =
            (final.store.find? key : Option Group).map Group.members := by
  -- Either pair of rounds gives every group the claims that the start awards it.
  have allots := allots_after_rounds governs first second handles
  have allotsToo := allots_after_rounds governs another next others
  refine ⟨allots.proceeds.members_eq allotsToo.proceeds allots.listsAll allotsToo.listsAll, ?_⟩
  intro further rounds handled
  have stays : scene.store.Allots driver space further.store := by
    -- The induction goes along the further rounds, each of which leaves the claims where they are.
    induction rounds with
    | refl => exact allots
    | tail _ round ih =>
      have before := ih (handled.earlier round.longer)
      refine round.allots governs.tidy handled before.governs before.proceeds ?_
      exact fun found inSpace => (before.listsAll found inSpace).mono fun _ =>
        (·.toListsOnlyAwarded)
  exact stays.proceeds.members_eq allots.proceeds stays.listsAll allots.listsAll

/-- A call makes no group without a handle. -/
def Exchange.givesHandle (exchange : Exchange) : Bool :=
  match exchange with
  | ⟨.createDriverGroup .., .ok created⟩ => !created.handle.isEmpty
  | _ => true

/-- Whether the driver gives handles is told by the calls that have an effect. -/
theorem Handles.of_effects {log : List Exchange}
    (gives : ∀ exchange ∈ Rehearsal.effects log, exchange.givesHandle = true) : Handles log := by
  rintro created ⟨name, secrets, parameters, known⟩
  have given := gives _ (List.mem_filter.mpr ⟨known, rfl⟩)
  simpa [Exchange.givesHandle] using given

/-- The rehearsal after passes over some groups. -/
def Rehearsal.sweep (rehearsal : Rehearsal) (driver : String) (groups : List Group) : Rehearsal :=
  groups.foldl (fun reached seen => reached.pass driver seen) rehearsal

/-- Passes that are rehearsed without disturbances are a sweep. -/
theorem Rehearsal.exists_sweep (driver : String) (groups : List Group) (rehearsal : Rehearsal)
    (log : List Exchange) (fits : Fits (.undisturbed driver) rehearsal.disturbances)
    (kept : effects log = rehearsal.exchanges) :
    ∃ full, Sweep driver groups ⟨rehearsal.store, log⟩ ⟨(rehearsal.sweep driver groups).store, full⟩ ∧
      Fits (.undisturbed driver) (rehearsal.sweep driver groups).disturbances ∧
      effects full = (rehearsal.sweep driver groups).exchanges := by
  -- The induction goes along the groups.
  induction groups generalizing rehearsal log with
  | nil => exact ⟨log, .done, fits, kept⟩
  | cons seen rest ih =>
    obtain ⟨full, plays, fitsNext, told⟩ :=
      plays_of_run fits (seen.reconcile driver).run kept
    obtain ⟨whole, sweep, last⟩ := ih (rehearsal.pass driver seen) full fitsNext told
    exact ⟨whole, .pass plays sweep, last⟩

/-- A rehearsed sweep over all groups that are left is a round. -/
theorem Rehearsal.exists_circuit (driver space : String) (start : Store) (groups : List Group)
    (rehearsal : Rehearsal) (log : List Exchange)
    (sights : ∀ seen ∈ groups, ∃ group ∈ start.list space, Group.Sights group seen)
    (covers : ∀ group ∈ rehearsal.store.list space, ∃ seen ∈ groups, Group.Sights group seen)
    (fits : Fits (.undisturbed driver) rehearsal.disturbances)
    (kept : effects log = rehearsal.exchanges) :
    ∃ full, Circuit driver space start ⟨rehearsal.store, log⟩
        ⟨(rehearsal.sweep driver groups).store, full⟩ ∧
      Fits (.undisturbed driver) (rehearsal.sweep driver groups).disturbances ∧
      effects full = (rehearsal.sweep driver groups).exchanges := by
  -- A round is a sweep over groups that are seen and of which none is left out.
  obtain ⟨full, sweep, last⟩ := exists_sweep driver groups rehearsal log fits kept
  exact ⟨full, ⟨groups, sights, covers, sweep⟩, last⟩

namespace Sample

/-- The cluster where the group that lists the claim of the other is being deleted. -/
def vacated : Store := (UserAction.deleteGroup "group" "space").on contested

/-- A round in which the group comes first that is being deleted. -/
def onward : Rehearsal := Rehearsal.sweep { store := vacated } "driver" [group, rival]

/-- A round in which the other group comes first. -/
def backward : Rehearsal := Rehearsal.sweep { store := vacated } "driver" [rival, group]

/-- Both groups have all that passes need. -/
theorem governs_vacated : vacated.Governs "driver" "space" := by
  -- Everything is read off the tables of the store, each of which is checked entry by entry.
  have classed : ∀ entry ∈ vacated.groups.entries, Group.className? entry.2 = some "class" := by
    decide +kernel
  have identified : ∀ entry ∈ vacated.groups.entries,
      (Group.metadata entry.2).uid.isSome ∧ (Group.selector entry.2).tests.toOption.isSome := by
    decide +kernel
  have stored : ∀ entry ∈ vacated.groups.entries,
      ∀ content ∈ (vacated.find? entry.2.contentKey : Option Content),
        content.ownerUid? = entry.2.metadata.uid ∧ content.handle?.isSome ∧
          content.metadata.name = some entry.2.contentName ∧
          content.metadata.isForsaken = false := by
    decide +kernel
  have backed : ∀ entry ∈ vacated.claims.entries, ∀ name ∈ entry.2.volumeName?,
      ∃ volume ∈ (vacated.get name "" : Except ClusterError Volume).toOption,
        volume.handle?.isSome = true := by
    decide +kernel
  have distinct : ∀ one ∈ vacated.groups.entries, ∀ other ∈ vacated.groups.entries,
      one.2.contentKey = other.2.contentKey → one.1 = other.1 := by
    decide +kernel
  have equips {key : String} {group : Group} (found : vacated.find? key = some group) :
      vacated.Equips "driver" group :=
    Sample.equips (classed _ (Table.mem_of_get? found)) (by decide +kernel)
  refine ⟨.of_entries (by decide +kernel) (by decide +kernel) (by decide +kernel),
    fun found _ => equips found, ?_, ?_, ?_⟩
  · -- Every group has an identity, a selector, bound claims and a content of its own.
    intro key group found _ _
    obtain ⟨known, sensible⟩ := identified _ (Table.mem_of_get? found)
    obtain ⟨tests, learnt⟩ := Option.isSome_iff_exists.mp sensible
    obtain ⟨uid, same⟩ := Option.isSome_iff_exists.mp known
    refine ⟨equips found, ?_, ⟨tests, ok_of_mem_toOption learnt⟩, known, ?_, ?_⟩
    · intro place name claim there _ bound
      obtain ⟨volume, given, served⟩ := backed _ (Table.mem_of_get? there) name bound
      exact ⟨volume, ok_of_mem_toOption given, served⟩
    · intro content there
      exact ⟨uid, same, (stored _ (Table.mem_of_get? found) content there).1.trans same⟩
    · exact fun content there => (stored _ (Table.mem_of_get? found) content there).2.1
  · -- The contents are named as the groups look for them and are not forsaken.
    intro key group found _ _ content there
    obtain ⟨_, _, named, held⟩ := stored _ (Table.mem_of_get? found) content there
    exact ⟨named, held⟩
  · -- No two groups go by one content.
    intro one other first second foundOne foundOther _ _ _ _ same
    exact distinct _ (Table.mem_of_get? foundOne) _ (Table.mem_of_get? foundOther) same

end Sample

/-- After two rounds over a group that is being deleted and another one that waits for its claim, the
other group has the claim and the first one is gone, whichever of them came first. After one round the
order still tells. -/
theorem members_eq_after_deletion : ∃ middle final between last : Scene,
    Circuit "driver" "space" Sample.vacated ⟨Sample.vacated, []⟩ middle ∧
      Circuit "driver" "space" Sample.vacated middle final ∧
      Circuit "driver" "space" Sample.vacated ⟨Sample.vacated, []⟩ between ∧
      Circuit "driver" "space" Sample.vacated between last ∧
      (middle.store.find? "space/rival" : Option Group).map Group.members ≠
        (between.store.find? "space/rival" : Option Group).map Group.members ∧
      final.store.find? "space/group" = (none : Option Group) ∧
      (final.store.find? "space/rival" : Option Group).map Group.members = some ["claim"] ∧
      ∀ key : String, (final.store.find? key : Option Group).map Group.members =
        (last.store.find? key : Option Group).map Group.members := by
  -- Two rounds are played with the group that is being deleted first.
  obtain ⟨log, one, fits, told⟩ := Rehearsal.exists_circuit "driver" "space" Sample.vacated
    [Sample.group, Sample.rival] { store := Sample.vacated } [] (by decide +kernel)
    (by decide +kernel) (.nil _) rfl
  obtain ⟨full, two, _, kept⟩ := Rehearsal.exists_circuit "driver" "space" Sample.vacated
    [Sample.rival, Sample.group] Sample.onward log (by decide +kernel) (by decide +kernel) fits told
  -- Two rounds are played with the waiting group first.
  obtain ⟨logOther, another, fitsOther, toldOther⟩ := Rehearsal.exists_circuit "driver" "space"
    Sample.vacated [Sample.rival, Sample.group] { store := Sample.vacated } [] (by decide +kernel)
    (by decide +kernel) (.nil _) rfl
  obtain ⟨fullOther, next, _, keptOther⟩ := Rehearsal.exists_circuit "driver" "space"
    Sample.vacated [Sample.group, Sample.rival] Sample.backward logOther (by decide +kernel)
    (by decide +kernel) fitsOther toldOther
  -- The driver gives handles in both histories.
  have handles : Handles full := Handles.of_effects (kept ▸ by decide +kernel)
  have others : Handles fullOther := Handles.of_effects (keptOther ▸ by decide +kernel)
  have governs : (Scene.mk Sample.vacated []).store.Governs "driver" "space" :=
    Sample.governs_vacated
  obtain ⟨same, _⟩ := members_eq_after_rounds governs one two handles another next others
  -- After one round the histories still differ.
  have differ : (Sample.onward.store.find? "space/rival" : Option Group).map Group.members ≠
      (Sample.backward.store.find? "space/rival" : Option Group).map Group.members := by
    decide +kernel
  -- After two rounds the first group is gone and the other one has the claim.
  have ends : (Sample.onward.sweep "driver" [Sample.rival, Sample.group]).store.find? "space/group" =
        (none : Option Group) ∧
      ((Sample.onward.sweep "driver" [Sample.rival, Sample.group]).store.find? "space/rival" :
        Option Group).map Group.members = some ["claim"] := by
    decide +kernel
  exact ⟨_, _, _, _, one, two, another, next, differ, ends.1, ends.2, same⟩

end VolumeGroups
