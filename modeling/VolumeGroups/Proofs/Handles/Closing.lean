import VolumeGroups.Proofs.Handles.Quiet

/-! A pass over a terminating group, which deletes the recorded handle at the driver before it lets
the content and the mark of the group go. -/

namespace VolumeGroups

namespace Custody

variable {group : Group} {before after : Scene}

/-- Where the ledger is balanced it suffices that the content is vouched for. -/
theorem of_balanced (balanced : Balanced after.exchanges)
    (vouched : ∀ {content : Content}, after.store.find? group.contentKey = some content →
      content.Vouched group after.exchanges) : Custody group after where
  vouched := vouched
  kept pending := Or.inl ((balanced _).mp pending)
  dropped pending := (balanced _).mpr pending

/-- The ledger is balanced while no content records a handle. -/
theorem balanced (custody : Custody group before)
    (unheld : ∀ handle, ¬ before.store.Holds group.contentKey handle) :
    Balanced before.exchanges := by
  intro handle
  refine ⟨fun pending => ?_, custody.dropped⟩
  exact (custody.kept pending).resolve_right (unheld handle)

/-- The ledger is balanced once the handle that the content records has been deleted. -/
theorem balanced_of_drop (custody : Custody group before) {exchange : Exchange} {handle : String}
    (only : ∀ other, before.store.Holds group.contentKey other → other = handle)
    (recorded : ¬ Pending Exchange.records? handle before.exchanges)
    (makes : exchange.makes? = none) (records : exchange.records? = none)
    (drops : exchange.drops? = some handle) : Balanced (exchange :: before.exchanges) := by
  -- A handle is still to be deleted exactly if it is still to be recorded, now that this one is
  -- neither.
  intro other
  rw [Pending.cons_iff makes records]
  constructor
  · rintro (made | ⟨pending, apart⟩)
    · -- The call makes nothing.
      simp [makes] at made
    · -- What the content held is the handle that was dropped.
      rcases custody.kept pending with unrecorded | holds
      · exact unrecorded
      · exact absurd (drops.trans (congrArg some (only other holds).symm)) apart
  · -- The handle that was dropped was recorded before, so it is not among those to be recorded.
    intro pending
    refine Or.inr ⟨custody.dropped pending, fun same => recorded ?_⟩
    exact Option.some.inj (drops.symm.trans same) ▸ pending

end Custody

/-- A pass that may take the mark off a group, since the driver forgot what the content of the group
records. -/
structure Closing (place : String) (group : Group) (content : Option Content) (scene : Scene) :
    Prop where
  tended : Tended place group scene
  balanced : ∀ {own : Group}, scene.store.find? place = some own → Balanced scene.exchanges
  key : ∀ {known : Content}, content = some known → Resource.key known = group.contentKey
  vouched : ∀ {own : Group} {known : Content}, scene.store.find? place = some own →
    content = some known → known.Vouched group scene.exchanges

/-- One content under its key may be written over by a matching one or go. -/
structure Store.MayRewriteContent (content : Content) (earlier later : Store) : Prop where
  groups : later.groups = earlier.groups
  origin : ∀ {key : String} {now : Content}, later.find? key = some now →
    (∃ before : Content, earlier.find? key = some before ∧ before.Matches now) ∨
      key = Resource.key content ∧ content.Matches now

namespace Store.MayRewriteContent

variable {store : Store} {content later : Content}

/-- Where nothing is written, nothing is reworked. -/
theorem refl (store : Store) : store.MayRewriteContent content store :=
  ⟨rfl, fun found => Or.inl ⟨_, found, .refl _⟩⟩

/-- Replacing a content by a matching one rewrites it. -/
theorem replace (same : content.Matches later) :
    store.MayRewriteContent content (store.replace later).2 := by
  -- Only what is found under the key of the content may be new, and that is what was written.
  refine ⟨groups_of_contents.replace store later, ?_⟩
  intro key now reading
  rcases replace_cases store later with ⟨error, failed⟩ | ⟨stored, found, _, done⟩
  · rw [failed] at reading
    exact Or.inl ⟨now, reading, .refl _⟩
  · rw [done] at reading
    rcases find?_overwrite_eq_some reading with ⟨here, rfl⟩ | ⟨_, before⟩
    · refine Or.inr ⟨here.trans same.key, same.trans ⟨rfl, rfl, rfl⟩⟩
    · exact Or.inl ⟨now, before, .refl _⟩

/-- Deleting a content rewrites or removes it, whichever content it is. -/
theorem delete (name space : String)
    (placed : ∀ {key : String} {stored : Content}, store.find? key = some stored →
      Resource.key stored = key) :
    store.MayRewriteContent content (store.delete Content name space).2 := by
  -- Whatever a deletion leaves was there before, but for the time of its end.
  refine ⟨groups_of_contents.delete store name space, ?_⟩
  intro key now reading
  -- The content is not there, is removed, refuses, or gets the time of its end.
  rcases delete_cases (α := Content) store name space with
    ⟨error, failed⟩ | ⟨stored, found, ⟨_, done⟩ | done | ⟨_, done⟩⟩
  · rw [failed] at reading
    exact Or.inl ⟨now, reading, .refl _⟩
  · rw [done, find?_remove] at reading
    split at reading
    · cases reading
    · exact Or.inl ⟨now, reading, .refl _⟩
  · rw [done] at reading
    exact Or.inl ⟨now, reading, .refl _⟩
  · rw [done] at reading
    have key : Resource.key (ending stored) = Resource.key stored := rfl
    rcases find?_save_eq_some reading with ⟨here, rfl⟩ | ⟨_, before⟩
    · exact Or.inl ⟨stored, (here.trans (key.trans (placed found))) ▸ found, ⟨rfl, rfl, rfl⟩⟩
    · exact Or.inl ⟨now, before, .refl _⟩

end Store.MayRewriteContent

namespace Closing

variable {conditions : Conditions} {place : String} {group own : Group} {content : Option Content}
  {scene met after : Scene}

/-- A group is still closing after a rest. -/
theorem rests (closing : Closing place group content scene) (rests : scene.Rests place after) :
    Closing place group content after := by
  -- A rest makes, records and drops nothing, so what is balanced stays balanced.
  refine ⟨closing.tended.rests rests, ?_, closing.key, ?_⟩
  · intro own found
    obtain ⟨before, foundBefore, _⟩ := rests.store.group found
    exact (closing.balanced foundBefore).later rests.log
  · intro own known found same
    obtain ⟨before, foundBefore, _⟩ := rests.store.group found
    exact (closing.vouched foundBefore same).later rests.log

/-- A matching group is closing as well. -/
theorem matching (closing : Closing place group content scene) (same : group.Matches own) :
    Closing place own content scene where
  tended := closing.tended.matching same
  balanced := closing.balanced
  key present := (closing.key present).trans same.contentKey.symm
  vouched found present := (closing.vouched found present).matching (.refl _) same

/-- A group is still closing after a call that may rewrite its content. -/
theorem mayRewrite {known : Content} (closing : Closing place group (some known) met)
    {request : Call} {answer : request.Answer} (silent : (Exchange.mk request answer).IsSilent)
    (told : after.exchanges = ⟨request, answer⟩ :: met.exchanges)
    (mayRewrite : met.store.MayRewriteContent known after.store) :
    Tends place met request answer after ∧ Closing place group (some known) after := by
  -- Nothing happened to the handles, and no group was written.
  have log : Quiescent met.exchanges after.exchanges := .of_silent silent told
  have groups (other : String) : after.store.find? other = (met.store.find? other : Option Group) :=
    Store.find?_of_groups mayRewrite.groups other
  have vouched {stored : Group} (found : after.store.find? place = some stored) :
      known.Vouched group after.exchanges :=
    (closing.vouched ((groups place).symm.trans found) rfl).later log
  have balanced {stored : Group} (found : after.store.find? place = some stored) :
      Balanced after.exchanges :=
    (closing.balanced ((groups place).symm.trans found)).later log
  have now : Closing place group (some known) after := by
    -- A content that is new to its place matches one that was there, or the one that is let go.
    refine ⟨⟨closing.tended.key, ?_, ?_⟩, balanced, closing.key, ?_⟩
    · intro key stored found
      rcases mayRewrite.origin found with ⟨before, there, same⟩ | ⟨rfl, same⟩
      · exact same.key.trans (closing.tended.contents there)
      · exact same.key
    · intro stored alive
      obtain ⟨same, custody⟩ := closing.tended.own ((groups place).symm.trans alive)
      refine ⟨same, .of_balanced (balanced alive) ?_⟩
      intro now found
      rcases mayRewrite.origin found with ⟨former, there, kept⟩ | ⟨_, kept⟩
      · exact ((custody.vouched there).later log).matching kept (.refl _)
      · exact (vouched alive).matching kept (.refl _)
    · intro stored other alive present
      obtain rfl := Option.some.inj present
      exact vouched alive
  exact ⟨now.tended.guarded.tends_of_find? (groups place), now⟩

/-- A closing group may lose its mark. -/
theorem unmark (closing : Closing place group content met) (reserved : conditions.Reserved place)
    {later : Group} {answer : (Call.replaceGroup later).Answer} (same : group.Matches later)
    (answers : conditions.Answers met (.replaceGroup later) answer after) :
    Tends place met (.replaceGroup later) answer after := by
  -- A write of a group is silent about handles.
  have silent := Exchange.isSilent (.replaceGroup later) answer (by simp [Call.method])
  have log : Quiescent met.exchanges after.exchanges := .of_silent silent answers.1
  refine ⟨?_, ?_⟩
  · -- Either the write failed and nothing changed, or it went over the stored group.
    rcases reserved.replaceGroup answers with ⟨_, _, unchanged⟩ | ⟨own, found, _, wrote⟩
    · exact (closing.tended.rests ⟨unchanged ▸ .refl _, log⟩).guarded
    · have contents (key : String) :
          after.store.find? key = (met.store.find? key : Option Content) := by
        rw [wrote]
        exact Store.content_overwrite ..
      have written : group.Matches (Stored.withStatusOf later own) := same.trans (.status later _)
      rw [same.key.trans closing.tended.key] at found
      obtain ⟨_, custody⟩ := closing.tended.own found
      refine ⟨fun there => closing.tended.contents ((contents _).symm.trans there), ?_⟩
      -- If other marks hold the group, its content is in custody as before.
      intro stored reading
      rw [wrote] at reading
      rcases Store.find?_overwrite_eq_some reading with ⟨_, rfl⟩ | ⟨apart, _⟩
      · have known := written.trans (.stamped met.store _)
        refine ⟨known.key.trans closing.tended.key, Custody.matching ?_ known⟩
        refine .of_balanced ((closing.balanced found).later log) ?_
        intro now there
        exact (custody.vouched ((contents _).symm.trans there)).later log
      · exact absurd (written.key.trans closing.tended.key).symm apart
  · -- While the group loses its mark its handles are balanced, which is what has to be shown.
    rintro ⟨own, found, _⟩
    exact closing.balanced found

/-- A group is closing once the driver forgot the only handle that its content records. -/
theorem of_drop {known : Content} {exchange : Exchange} {handle : String}
    (tended : Tended place group met) (key : Resource.key known = group.contentKey)
    (vouched : ∀ {own : Group}, met.store.find? place = some own →
      known.Vouched group met.exchanges) (has : known.handle? = some handle)
    (only : ∀ other, met.store.Holds group.contentKey other → other = handle)
    (told : after.exchanges = exchange :: met.exchanges) (makes : exchange.makes? = none)
    (records : exchange.records? = none) (drops : exchange.drops? = some handle)
    (store : after.store = met.store) : Closing place group (some known) after := by
  -- The handle that was dropped was recorded, and all others are balanced since nothing holds them.
  have balanced {own : Group} (alive : met.store.find? place = some own) :
      Balanced after.exchanges := by
    rw [told]
    exact (tended.own alive).2.balanced_of_drop only ((vouched alive).recorded has) makes records
      drops
  -- The handles are balanced, so all that is left is to vouch for the content.
  refine ⟨⟨tended.key, store ▸ tended.contents, ?_⟩, fun alive => balanced (store ▸ alive), ?_, ?_⟩
  · intro own alive
    have alive : met.store.find? place = some own := store ▸ alive
    obtain ⟨same, custody⟩ := tended.own alive
    refine ⟨same, .of_balanced (balanced alive) ?_⟩
    intro stored there
    exact told ▸ (custody.vouched (store ▸ there)).cons makes records
  · rintro _ ⟨⟩
    exact key
  · rintro own _ alive ⟨⟩
    exact told ▸ (vouched (store ▸ alive)).cons makes records

end Closing

/-- Whatever handle a content records after a rest is the one that was found before it. -/
theorem Scene.Rests.only {place key handle other : String} {before after : Scene}
    {content : Content} (rests : before.Rests place after)
    (found : before.store.find? key = some content) (has : content.handle? = some handle)
    (holds : after.store.Holds key other) : other = handle := by
  -- The content may have gone meanwhile, but no other one took its place.
  obtain ⟨stored, there, records, _⟩ := holds
  obtain ⟨former, foundFormer, same⟩ := rests.store.origin there
  obtain rfl : content = former := by simpa [found] using foundFormer
  exact Option.some.inj (records.symm.trans (same.handle?.trans has))

namespace Attempt

variable {conditions : Conditions} {place : String} {group : Group} {scene : Scene}

/-- The deletion of the handle that the content of a group records leaves the group closing if it
drops the handle, and tended in any case. -/
theorem honours_askDeletion {content : Content} {handle : String} {secrets : KeyMap String}
    (reserved : conditions.Reserved place) (tended : Tended place group scene)
    (found : scene.store.find? group.contentKey = some content)
    (has : content.handle? = some handle) :
    Honours conditions (Tends place)
      (fun result after => Tended place group after ∧ Ends (fun answer after =>
        (Exchange.mk (.deleteDriverGroup handle secrets) answer).drops? ≠ none →
          Closing place group (some content) after) result after)
      (outcome (of (.ask (.deleteDriverGroup handle secrets))) :
        Attempt PassError (Except DriverError Unit)) scene := by
  refine .outcome (.of (Program.Honours.ask ?_))
  -- The driver answers after a while in which the group may have been deleted by a user.
  intro met waits answer after answers
  have rested := reserved.waits tended waits
  have now := tended.rests rested
  have store : after.store = met.store := answers.2.elim And.right And.right
  have tends (tended : Tended place group after) :
      Tends place met (.deleteDriverGroup handle secrets) answer after :=
    tended.guarded.tends_of_find? (by rw [store])
  cases dropped : (Exchange.mk (.deleteDriverGroup handle secrets) answer).drops? with
  | none =>
    -- The driver failed to forget the handle, so nothing happened to it.
    have tended := now.rests (.of_silent ⟨rfl, rfl, dropped⟩ answers.1 (store ▸ .refl _))
    exact ⟨tends tended, tended, fun given => absurd dropped given⟩
  | some other =>
    obtain rfl := Exchange.drops?_eq_some dropped
    -- As long as the group is stored, the content that was found for it is vouched for.
    have vouched {own : Group} (alive : met.store.find? place = some own) :
        content.Vouched group met.exchanges := by
      obtain ⟨before, foundBefore, _⟩ := rested.store.group alive
      exact ((tended.own foundBefore).2.vouched found).later rested.log
    have closing := Closing.of_drop now (tended.contents found) vouched has
      (fun _ => rested.only found has) answers.1 rfl rfl dropped store
    exact ⟨tends closing.tended, closing.tended, fun _ => closing⟩

/-- The driver forgets the handle that the content of a group records, after which the group is
closing. -/
theorem honours_forgetHandle {content : Content} {handle : String} {secrets : KeyMap String}
    (reserved : conditions.Reserved place) (tended : Tended place group scene)
    (found : scene.store.find? group.contentKey = some content)
    (has : content.handle? = some handle) :
    Honours conditions (Tends place) (Ends fun _ after => Closing place group (some content) after)
      (group.deleteAtDriver handle secrets) scene := by
  -- The failure of the driver is told on the group, which leaves it tended.
  unfold Group.deleteAtDriver
  refine .imp (honours_tellingQuietly reserved
    ((honours_askDeletion reserved tended found has).bind ?_ ?_)) fun _ _ reached => reached.2
  · exact fun _ _ reached => ⟨reached.1, trivial⟩
  · -- A handle that the driver does not know counts as dropped as well.
    rintro answer after ⟨tended, closes⟩
    split
    · exact .pure ⟨tended, closes (by simp [Exchange.drops?])⟩
    · split
      · rename_i absent
        exact .pure ⟨tended, closes (by simp [Exchange.drops?, absent])⟩
      · exact .throw ⟨tended, trivial⟩

/-- A dissolved group is closing. -/
theorem honours_dissolve {secrets : KeyMap String} (reserved : conditions.Reserved place)
    (tended : Tended place group scene) :
    Honours conditions (Tends place) (Ends fun content after => Closing place group content after)
      (group.dissolve secrets) scene := by
  unfold Group.dissolve
  -- The lookup finds what is stored, or tells that there is none.
  have looking : Honours conditions (Tends place)
      (fun result after => Tended place group after ∧
        Ends (fun found after => after.store.find? group.contentKey = found) result after)
      (within PassError.content group.lookupContent) scene :=
    (honours_lookup reserved tended).retold.mono fun _ _ reached =>
      ⟨tended.rests reached.1, reached.2⟩
  refine .then (honours_tellingQuietly reserved looking) ?_
  rintro content looked ⟨now, there⟩
  extract_lets finish
  -- Only a content with a handle has something to be deleted at the driver.
  split
  · rename_i handle records
    obtain ⟨known, rfl, has⟩ := Option.bind_eq_some_iff.mp records
    refine .then (honours_forgetHandle reserved now there has) ?_
    exact fun _ _ closing => .pure closing
  · rename_i unrecorded
    -- Where no content records a handle, there is nothing to be deleted.
    have unheld (handle : String) : ¬ looked.store.Holds group.contentKey handle := by
      rintro ⟨known, found, has, _⟩
      obtain rfl : some known = content := found.symm.trans there
      exact unrecorded handle has
    refine .pure ⟨now, fun alive => (now.own alive).2.balanced unheld, ?_, ?_⟩
    · rintro known rfl
      exact now.contents there
    · rintro own known alive rfl
      exact (now.own alive).2.vouched there

/-- The content of a closing group may lose its mark. -/
theorem honours_releaseContent {content : Content} (reserved : conditions.Reserved place)
    (closing : Closing place group (some content) scene) :
    Honours conditions (Tends place) (Ends fun _ after => Closing place group (some content) after)
      content.release scene := by
  unfold Content.release
  -- A content without the mark is not written.
  split
  · exact .pure closing
  · rename_i metadata freed
    obtain ⟨continues, _⟩ := Metadata.removeFinalizer?_eq_some freed
    refine .dropped (.of (Program.Honours.ask ?_))
    intro met waits answer after answers
    have now := closing.rests (reserved.waits closing.tended waits)
    -- Whether the store took the write or not, the content is reworked at most.
    have mayRewrite : met.store.MayRewriteContent content after.store := by
      rcases answers.2 with serves | ⟨_, same⟩
      · rw [(Prod.mk.inj serves).2]
        exact .replace ⟨congrArg (·.name) continues, congrArg (·.namespace) continues, rfl⟩
      · exact same ▸ .refl _
    have silent := Exchange.isSilent (.replaceContent { content with metadata }) answer
      (by simp [Call.method])
    obtain ⟨tends, closing⟩ := now.mayRewrite silent answers.1 mayRewrite
    refine ⟨tends, ?_⟩
    cases answer with
    | error cause => trivial
    | ok stored => exact closing

/-- A content that the cluster deletes may be that of a closing group. -/
theorem honours_deleteContent {ε : Type} {content : Content} (name space : String)
    (reserved : conditions.Reserved place)
    (closing : Closing place group (some content) scene) :
    Honours conditions (Tends place) (Ends fun _ after => Closing place group (some content) after)
      (outcome (of (.ask (.deleteContent name space))) : Attempt ε (Except ClusterError Unit))
      scene := by
  refine .outcome (.of (Program.Honours.ask ?_))
  -- The deletion may find another content by now, but none that is not vouched for.
  intro met waits answer after answers
  have now := closing.rests (reserved.waits closing.tended waits)
  have mayRewrite : met.store.MayRewriteContent content after.store := by
    rcases answers.2 with serves | ⟨_, same⟩
    · rw [(Prod.mk.inj serves).2]
      exact .delete name space now.tended.contents
    · exact same ▸ .refl _
  have silent := Exchange.isSilent (.deleteContent name space) answer (by simp [Call.method])
  exact now.mayRewrite silent answers.1 mayRewrite

/-- The content of a closing group may go. -/
theorem honours_discard {content : Content} (reserved : conditions.Reserved place)
    (closing : Closing place group (some content) scene) :
    Honours conditions (Tends place) (Ends fun _ after => Closing place group (some content) after)
      content.delete scene := by
  unfold Content.delete
  -- First the mark goes, and then the content itself.
  refine .then (honours_releaseContent reserved closing).told ?_
  intro _ released closing
  refine .then (honours_deleteContent _ _ reserved closing) ?_
  intro answer after closing
  split
  · exact .pure closing
  · -- A content that is gone already is as good.
    split
    · exact .pure closing
    · exact .throw trivial

/-- A closing group may lose its own mark. -/
theorem honours_unmarkGroup {content : Option Content} (reserved : conditions.Reserved place)
    (closing : Closing place group content scene) :
    Honours conditions (Tends place) (Ends fun _ _ => True) group.release scene := by
  unfold Group.release
  -- This is the call before which all has to be balanced.
  split
  · exact .pure trivial
  · rename_i metadata freed
    obtain ⟨continues, _⟩ := Metadata.removeFinalizer?_eq_some freed
    refine .dropped (.of (Program.Honours.ask ?_))
    intro met waits answer after answers
    have now := closing.rests (reserved.waits closing.tended waits)
    exact ⟨now.unmark reserved (.metadata continues) answers, gives_any answer⟩

/-- A closing group departs without a handle being lost. -/
theorem honours_departClosing {content : Option Content} (reserved : conditions.Reserved place)
    (closing : Closing place group content scene) :
    Honours conditions (Tends place) (Ends fun _ _ => True) (group.depart content) scene := by
  unfold Group.depart
  extract_lets finish
  -- Whether there is a content to delete or not, the group is closing when its mark goes.
  have finishes (gone : Scene) (closing : Closing place group content gone) :
      Honours conditions (Tends place) (Ends fun _ _ => True) (finish ()) gone :=
    .then (honours_unmarkGroup reserved closing).told fun _ _ _ => .pure trivial
  split
  · refine .then (honours_discard reserved closing).told ?_
    exact fun _ gone closing => finishes gone closing
  · exact finishes scene closing

/-- A pass over a terminating group loses no handle that a content recorded. -/
theorem honours_finalizeTended {secrets : KeyMap String} (reserved : conditions.Reserved place)
    (tended : Tended place group scene) :
    Honours conditions (Tends place) (Ends fun _ _ => True) (group.finalize secrets) scene := by
  rw [Group.finalize_eq]
  split
  · refine .then (honours_namespace group) ?_
    rintro space _ ⟨rfl, _⟩
    refine .then (honours_dissolve reserved tended) ?_
    intro content dissolved closing
    -- While the group disbands, all that was settled with the driver stays so.
    refine .then (honours_disbandQuietly reserved closing.tended space content) ?_
    rintro own disbanded ⟨rests, same⟩
    exact honours_departClosing reserved ((closing.rests rests).matching same)
  · exact .pure trivial

end Attempt

end VolumeGroups
