import VolumeGroups.Proofs.Handles.Deletion
import VolumeGroups.Proofs.Handles.Teardown
import VolumeGroups.Proofs.Operator.Acted

/-! Every call of a pass that finds its group terminating is part of the group's teardown. -/

namespace VolumeGroups

section Rules

variable {driver : String} {scene : Scene} {α ε : Type} {group : Group}

/-- A pass that began with a live group has nothing to take down. -/
theorem Program.honours_live {program : Program α} (origin : origin? scene.exchanges = some group)
    (live : group.isTerminating = false) :
    program.Honours (.unruly driver) Dismantling.promise (fun _ _ => True) scene := by
  -- The pass keeps the group that it began with.
  induction program generalizing scene with
  | done value => trivial
  -- Each call comes after some waiting, in which the log stays as it is.
  | call request next ih =>
    intro met waits answer after answers
    have same : met.exchanges = scene.exchanges := waits.1
    rw [← same] at origin
    refine ⟨⟨fun none => absurd none (ne_nil_of_origin? origin), fun first began terminating => ?_⟩,
      ih answer ?_⟩
    · obtain rfl := Option.some.inj (origin.symm.trans began)
      simp [live] at terminating
    · rw [answers.1]
      exact (origin?_append [_] (ne_nil_of_origin? origin)).trans origin

/-- Telling a failure on a group is part of its teardown. -/
theorem Program.honours_tellUnderway {told : Group} {reason : Reason} {ready : Option Bool}
    {error : PassError} (underway : Underway group scene.exchanges) :
    (told.tell reason ready error).Honours (.unruly driver) Dismantling.promise
      (fun _ _ => True) scene := by
  -- Telling needs none of the calls that a teardown has in order.
  have apart (request : Call) (tells : request.IsTelling told) :
      request.method ∉ [.createDriverGroup, .modifyMembership, .replaceClaim, .replaceContent,
        .deleteContent, .replaceGroup, .getContent] := by
    cases request <;> first | exact tells.elim | simp [Call.method]
  -- The group stays under way, since nothing that is told brings a group.
  refine (honours_along (told.asks_tell reason ready error) fun tells goes => ?_).mono
    fun _ _ _ => trivial
  refine (underway.later goes fun request tells same => ?_).allows (apart _ tells)
  exact apart request tells (by simp [same])

/-- Looking at something that a pass never writes leaves the pass fresh, unless it fails. -/
theorem Program.honours_reading {request : Call} (fresh : Fresh group scene.exchanges)
    (idle : request.IsIdle) :
    (Program.ask request).Honours (.unruly driver) Dismantling.promise
      (fun answer after => Underway group after.exchanges ∧
        ((Exchange.mk request answer).failure? = none → Fresh group after.exchanges)) scene := by
  -- A look is none of the ordered calls.
  have harmless : request.method ∉ [.createDriverGroup, .modifyMembership, .replaceClaim,
      .replaceContent, .deleteContent, .replaceGroup, .getContent] := by
    cases request <;> first | exact idle.elim | simp [Call.method]
  have apart : request.method ≠ .replaceGroup ∧ request.method ≠ .getContent := by
    cases request <;> first | exact idle.elim | simp [Call.method]
  refine (honours_next (fresh.toUnderway.allows harmless)).mono ?_
  rintro answer after ⟨log, _⟩
  rw [log]
  exact ⟨fresh.toUnderway.cons apart.1, fun worked =>
    fresh.cons worked apart idle.isApart.leavesHand.silent.1⟩

namespace Attempt

/-- An attempt whose failure is told on the group succeeds as it does by itself. -/
theorem honours_tellingUnderway (group : Group) {goal : α → Scene → Prop}
    {attempt : Attempt PassError α} {told : Group} {reason : Reason} {ready : Option Bool}
    (honours : Honours (.unruly driver) Dismantling.promise
      (fun result after => Underway group after.exchanges ∧ Ends goal result after) attempt scene) :
    Honours (.unruly driver) Dismantling.promise (Ends goal)
      -- Nothing in what is promised depends on the result.
      (tellingOn told reason ready attempt) scene :=
  honours.tellingOn (fun _ _ reached => reached.2) fun _ _ reached =>
    (Program.honours_tellUnderway reached.1).mono fun _ _ _ => trivial

/-- A claim loses its mark by a write that succeeds, unless another group lists it. -/
theorem honours_releasingOne {content : Option Content} (claim : Claim) (others : List Group)
    (dismantled : Dismantled group content scene.exchanges) :
    Honours (.unruly driver) Dismantling.promise
      (Ends fun _ after => Dismantled group content after.exchanges ∧
        Extends Call.WritesClaim scene.exchanges after.exchanges ∧
        (claim.isMarked = true → (others.any fun other => other.lists claim) = false →
          ∃ exchange ∈ after.exchanges, exchange.marks? (Resource.key claim) = some false))
      (within PassError.cluster (claim.release others)) scene := by
  -- The claim is listed elsewhere, has no mark, or is written without it.
  refine .told ?_
  unfold Claim.release
  split
  · rename_i listed
    exact .pure ⟨dismantled, .refl _, fun _ unlisted => by simp [listed] at unlisted⟩
  · split
    · rename_i kept
      refine .pure ⟨dismantled, .refl _, fun marked _ => ?_⟩
      simp [Metadata.removeFinalizer?, show claim.metadata.hasFinalizer claimFinalizer = true
        from marked] at kept
    · rename_i metadata removed
      have continues := (Metadata.removeFinalizer?_eq_some removed).1
      have freed : Claim.isMarked { claim with metadata } = false :=
        Metadata.hasFinalizer_removeFinalizer? removed
      refine .dropped (.of (Program.Honours.mono ?_ (Program.honours_next
        (dismantled.allows (by simp [Call.method])))))
      rintro answer after ⟨log, _⟩
      -- Only a write that succeeds counts as the release.
      cases answer with
      | error cause => trivial
      | ok stored =>
        show Dismantled group content after.exchanges ∧
          Extends Call.WritesClaim scene.exchanges after.exchanges ∧ _
        rw [log]
        refine ⟨dismantled.cons (by simp [Call.method]) (.of_worked rfl), .single trivial,
          fun _ _ => ⟨_, List.mem_cons_self .., ?_⟩⟩
        have place : Resource.key (α := Claim) { claim with metadata } = Resource.key claim :=
          continues.key
        simp [Exchange.marks?, place, freed]

/-- Claims lose their marks by writes that succeed, unless another group lists them. -/
theorem honours_releasingAll {content : Option Content} {claims : List Claim} {others : List Group}
    (dismantled : Dismantled group content scene.exchanges) :
    Honours (.unruly driver) Dismantling.promise
      (Ends fun _ after => Dismantled group content after.exchanges ∧
        Extends Call.WritesClaim scene.exchanges after.exchanges ∧
        ∀ claim ∈ claims, claim.isMarked = true →
          (others.any fun other => other.lists claim) = false →
            ∃ exchange ∈ after.exchanges, exchange.marks? (Resource.key claim) = some false)
      (releaseClaims claims others) scene := by
  unfold releaseClaims
  -- The induction goes along the claims, since a write that fails ends the pass.
  induction claims generalizing scene with
  | nil => exact .pure ⟨dismantled, .refl _, by simp⟩
  | cons claim rest ih =>
    refine .then (honours_releasingOne claim others dismantled) ?_
    rintro _ middle ⟨dismantled, goes, freed⟩
    refine .imp (ih dismantled) ?_
    rintro _ after ⟨dismantled, further, others⟩
    refine ⟨dismantled, goes.trans further, fun other known marked unlisted => ?_⟩
    rcases List.mem_cons.mp known with rfl | known
    · -- The first claim was freed by a call that is in the log still.
      obtain ⟨exchange, written, marks⟩ := freed marked unlisted
      exact ⟨exchange, further.mem written, marks⟩
    · -- The others follow by induction.
      exact others other known marked unlisted

/-- The content of a group is looked up by one call, whose answer the pass goes on with. -/
theorem honours_lookingUp (fresh : Fresh group scene.exchanges) :
    Honours (.unruly driver) Dismantling.promise
      (fun result after => Underway group after.exchanges ∧
        Ends (fun content after => (Steady group content after.exchanges ∧
          Sought group after.exchanges) ∧
            Extends Call.IsApart scene.exchanges after.exchanges) result after)
      group.lookupContent scene := by
  unfold Group.lookupContent
  -- Without a namespace nothing is looked for.
  refine .bind (honours_namespace group) ?_ ?_
  · rintro _ _ ⟨rfl, _⟩
    exact ⟨fresh.toUnderway, trivial⟩
  rintro space scene ⟨rfl, inSpace⟩
  -- Whatever the answer is, the pass goes on from it.
  have asking : Honours (.unruly driver) Dismantling.promise
      (fun result after => ∃ answer, result = .ok answer ∧
        after.exchanges = ⟨.getContent group.contentName space, answer⟩ :: scene.exchanges)
      (outcome (of (.ask (.getContent group.contentName space))) :
        Attempt ContentError (Except ClusterError Content)) scene :=
    .outcome (.of (Program.Honours.mono (fun answer _ told => ⟨answer, rfl, told.1⟩)
      (Program.honours_next (fresh.allows_lookup _ _))))
  refine .bind asking (by rintro _ _ ⟨_, wrong, _⟩; cases wrong) ?_
  rintro answer looked ⟨_, same, log⟩
  obtain rfl := Except.ok.inj same
  have apart : (Call.getContent group.contentName space).method ≠ .replaceGroup := by
    simp [Call.method]
  have underway : Underway group looked.exchanges := log ▸ fresh.toUnderway.cons apart
  -- Whether there is a content or none, it was looked for where the group says it is.
  have finds (smooth : (Exchange.mk (.getContent group.contentName space) answer).IsSmooth) :
      (Steady group (Exchange.mk (.getContent group.contentName space) answer).content?
          looked.exchanges ∧ Sought group looked.exchanges) ∧
        Extends Call.IsApart scene.exchanges looked.exchanges := by
    rw [log]
    exact ⟨⟨fresh.toSteady.find apart smooth rfl,
      space, answer, inSpace, List.mem_cons_self .., smooth⟩, .single trivial⟩
  -- A content, none, or a failure.
  split
  · rename_i content
    -- The content that is found is given only if it was made for the group.
    cases group.uid with
    | error cause => exact ⟨underway, trivial⟩
    | ok uid =>
      have identified : (within ContentError.object (known (.ok uid)) :
          Attempt ContentError String) = pure uid := rfl
      rw [identified, pure_bind]
      unfold Content.boundTo
      split
      · exact ⟨underway, finds (.of_worked rfl)⟩
      · exact ⟨underway, trivial⟩
  · rename_i cause
    split
    -- That there is no content is no failure.
    · rename_i absent
      refine .pure ⟨underway, finds ?_⟩
      rintro _ failed
      cases failed
      exact ⟨absent, by simp [Call.method]⟩
    · exact .throw ⟨underway, trivial⟩

/-- The driver's group is deleted by one call, after which the driver does not have it. -/
theorem honours_dropping (own : Group) {content : Option Content} {handle : String}
    (secrets : KeyMap String) (steady : Steady group content scene.exchanges)
    (sought : Sought group scene.exchanges) (named : content.bind Content.handle? = some handle) :
    Honours (.unruly driver) Dismantling.promise
      (Ends fun _ after => Dismantled group content after.exchanges ∧
        Extends Call.IsApart scene.exchanges after.exchanges)
      (own.deleteAtDriver handle secrets) scene := by
  have asking : Honours (.unruly driver) Dismantling.promise
      (fun result after => ∃ answer, result = .ok answer ∧
        after.exchanges = ⟨.deleteDriverGroup handle secrets, answer⟩ :: scene.exchanges)
      (outcome (of (.ask (.deleteDriverGroup handle secrets))) :
        Attempt PassError (Except DriverError Unit)) scene :=
    .outcome (.of (Program.Honours.mono (fun answer _ told => ⟨answer, rfl, told.1⟩)
      (Program.honours_next (steady.toUnderway.allows (by simp [Call.method])))))
  -- The driver is called once, and its answer decides how the pass goes on.
  unfold Group.deleteAtDriver
  refine honours_tellingUnderway group (.bind asking (by rintro _ _ ⟨_, wrong, _⟩; cases wrong) ?_)
  rintro answer asked ⟨_, same, log⟩
  obtain rfl := Except.ok.inj same
  have underway : Underway group asked.exchanges :=
    log ▸ steady.toUnderway.cons (by simp [Call.method])
  -- Whether the driver deletes its group or does not know it, it does not have it any more.
  have drops (smooth : (Exchange.mk (.deleteDriverGroup handle secrets) answer).IsSmooth)
      (gone : (Exchange.mk (.deleteDriverGroup handle secrets) answer).drops? = some handle) :
      Dismantled group content asked.exchanges ∧
        Extends Call.IsApart scene.exchanges asked.exchanges := by
    rw [log]
    refine ⟨⟨steady.cons (by simp [Call.method]) smooth, sought.cons _, fun other same => ?_⟩,
      .single trivial⟩
    obtain rfl := Option.some.inj (named.symm.trans same)
    exact ⟨_, List.mem_cons_self .., gone⟩
  -- The driver did it, it did not know the group, or it failed.
  split
  · exact .pure ⟨underway, drops (.of_worked rfl) rfl⟩
  · rename_i cause
    split
    · rename_i absent
      refine .pure ⟨underway, drops ?_ (by simp [Exchange.drops?, absent])⟩
      rintro _ failed
      cases failed
      exact ⟨absent, by simp [Call.method]⟩
    · exact .throw ⟨underway, trivial⟩

/-- After the first stage of a terminating group the driver does not have it any more. -/
theorem honours_dismantling (secrets : KeyMap String) (fresh : Fresh group scene.exchanges) :
    Honours (.unruly driver) Dismantling.promise
      (Ends fun content after => Dismantled group content after.exchanges ∧
        Extends Call.IsApart scene.exchanges after.exchanges)
      (group.dissolve secrets) scene := by
  unfold Group.dissolve
  -- First the content is looked for.
  refine .then (honours_tellingUnderway group (.retold (honours_lookingUp fresh))) ?_
  rintro content looked ⟨⟨steady, sought⟩, looking⟩
  extract_lets finish
  -- Without a handle there is nothing that the driver could have.
  split
  · rename_i handle named
    refine .then (honours_dropping group secrets steady sought named) ?_
    rintro _ _ ⟨dismantled, goes⟩
    exact .pure ⟨dismantled, looking.trans goes⟩
  · rename_i none
    exact .pure ⟨⟨steady, sought, fun handle named => absurd named (none handle)⟩, looking⟩

/-- A terminating group forgets its members by a write that succeeds, unless it has none. -/
theorem honours_forgetting {content : Option Content} {counting : Exchange}
    (dismantled : Dismantled group content scene.exchanges)
    (latest : latest? scene.exchanges = some group) (counted : counting ∈ scene.exchanges) :
    Honours (.unruly driver) Dismantling.promise
      (Ends fun held after => Dismantled group content after.exchanges ∧
        latest? after.exchanges = some held ∧ counting ∈ after.exchanges ∧
        (group.members ≠ [] → ∃ exchange ∈ after.exchanges, exchange.members? = some []))
      group.forgetMembers scene := by
  -- A group that never had a state or lists nobody has nothing to forget.
  unfold Group.forgetMembers
  split
  · rename_i none
    exact .pure ⟨dismantled, latest, counted, by simp [Group.members, none]⟩
  · rename_i status recorded
    split
    · rename_i nothing
      refine .pure ⟨dismantled, latest, counted, fun some => absurd ?_ some⟩
      simpa [Group.members, recorded] using nothing
    · refine .told (.of (Program.Honours.mono ?_ (Program.honours_next
        (dismantled.toUnderway.allows (by simp [Call.method])))))
      -- Only a write that succeeds counts.
      rintro answer after ⟨log, _⟩
      cases answer with
      | error cause => trivial
      | ok held =>
        refine ⟨log ▸ dismantled.cons (by simp [Call.method]) (.of_worked rfl), by rw [log]; rfl,
          log ▸ List.mem_cons_of_mem _ counted, fun _ => ⟨_, log ▸ List.mem_cons_self .., rfl⟩⟩

/-- The second stage of a terminating group makes it forget its members and release its claims. -/
theorem honours_clearing {space : String} (inSpace : group.metadata.namespace = some space)
    {content : Option Content} (dismantled : Dismantled group content scene.exchanges)
    (latest : latest? scene.exchanges = some group) :
    Honours (.unruly driver) Dismantling.promise
      (Ends fun held after => Dismantled group content after.exchanges ∧
        Disbanded group held (recordedVolumes content) after.exchanges)
      (group.disband space content) scene := by
  unfold Group.disband
  extract_lets volumeNames
  -- The claims are counted before the group forgets them.
  refine .then (.told (.ends (.of (Program.honours_next
    (dismantled.toUnderway.allows (by simp [Call.method])))))) ?_
  rintro claims counting ⟨log, _⟩
  replace latest : latest? counting.exchanges = some group := log ▸ latest
  replace dismantled : Dismantled group content counting.exchanges :=
    log ▸ dismantled.cons (by simp [Call.method]) (.of_worked rfl)
  -- That they were counted stays in the log.
  have counted : ⟨.listClaims space, .ok claims⟩ ∈ counting.exchanges := log ▸ List.mem_cons_self ..
  refine .then (honours_forgetting dismantled latest counted) ?_
  rintro held forgotten ⟨dismantled, latest, counted, forgets⟩
  -- Whose claims they are by now is read after the group has forgotten them.
  refine .then (.told (.ends (.of (Program.honours_next
    (dismantled.toUnderway.allows (by simp [Call.method])))))) ?_
  rintro groups looked ⟨log, _⟩
  have goes : Extends (· = .listGroups space) forgotten.exchanges looked.exchanges :=
    log ▸ .cons _ _
  replace latest : latest? looked.exchanges = some held := log ▸ latest
  replace dismantled : Dismantled group content looked.exchanges :=
    log ▸ dismantled.cons (by simp [Call.method]) (.of_worked rfl)
  have seen : ⟨.listGroups space, .ok groups⟩ ∈ looked.exchanges := log ▸ List.mem_cons_self ..
  refine .then (honours_releasingAll dismantled) ?_
  rintro _ released ⟨dismantled, writing, freed⟩
  -- What was done before is in the log, and the last claims have just been freed.
  refine .pure ⟨dismantled, ?_, fun some => ?_, space, claims, groups, inSpace, ?_, writing.mem seen, ?_⟩
  · exact (writing.findSome? fun _ writes => writes.silent.1).trans latest
  · exact (forgets some).imp fun _ recorded => recorded.imp_left fun known =>
      writing.mem (goes.mem known)
  · exact writing.mem (goes.mem counted)
  · intro claim known owed marked free
    refine freed claim (List.mem_filter.mpr ⟨known, owed⟩) marked ?_
    simpa [Group.others] using free

/-- The content of a terminating group goes, after its mark. -/
theorem honours_removing {content : Content}
    (dismantled : Dismantled group (some content) scene.exchanges) :
    Honours (.unruly driver) Dismantling.promise
      (Ends fun _ after => Dismantled group (some content) after.exchanges ∧
        Extends Call.IsApart scene.exchanges after.exchanges ∧ Removed content after.exchanges)
      content.delete scene := by
  -- The mark goes by a write, if it is there.
  have releasing : Honours (.unruly driver) Dismantling.promise
      (Ends fun _ after => Dismantled group (some content) after.exchanges ∧
        Extends Call.IsApart scene.exchanges after.exchanges)
      (within ContentError.cluster content.release) scene := by
    refine .told ?_
    unfold Content.release
    split
    · exact .pure ⟨dismantled, .refl _⟩
    · refine .dropped (.of (Program.Honours.mono ?_ (Program.honours_next
        (dismantled.allows (by simp [Call.method])))))
      rintro answer after ⟨log, _⟩
      cases answer with
      | error cause => trivial
      | ok stored =>
        exact ⟨log ▸ dismantled.cons (by simp [Call.method]) (.of_worked rfl), log ▸ .single trivial⟩
  unfold Content.delete
  refine .then releasing ?_
  rintro _ released ⟨dismantled, goes⟩
  extract_lets name space
  -- The deletion is asked for once.
  have asking : Honours (.unruly driver) Dismantling.promise
      (Ends fun answer after =>
        after.exchanges = ⟨.deleteContent name space, answer⟩ :: released.exchanges)
      (outcome (of (.ask (.deleteContent name space))) :
        Attempt ContentError (Except ClusterError Unit)) released :=
    .outcome (.of (Program.Honours.mono (fun answer _ told => told.1)
      (Program.honours_next (dismantled.allows (by simp [Call.method])))))
  refine .then asking ?_
  rintro answer after log
  -- Deleted now or gone before, the content is removed.
  have gone (smooth : (Exchange.mk (.deleteContent name space) answer).IsSmooth)
      (removes : (Exchange.mk (.deleteContent name space) answer).removes? = some (name, space)) :
      Dismantled group (some content) after.exchanges ∧
        Extends Call.IsApart scene.exchanges after.exchanges ∧ Removed content after.exchanges := by
    have log : after.exchanges = ⟨.deleteContent name space, answer⟩ :: released.exchanges := log
    rw [log]
    exact ⟨dismantled.cons (by simp [Call.method]) smooth, goes.trans (.single trivial), _,
      List.mem_cons_self .., removes⟩
  split
  · exact .pure (gone (.of_worked rfl) rfl)
  · rename_i cause
    split
    · rename_i absent
      refine .pure (gone ?_ (by simp [Exchange.removes?, absent]))
      rintro _ failed
      cases failed
      exact ⟨absent, by simp [Call.method]⟩
    · exact .throw trivial

/-- The last stage of a terminating group takes its mark off once all else is done. -/
theorem honours_dismissing {held : Group} {content : Option Content}
    (dismantled : Dismantled group content scene.exchanges)
    (disbanded : Disbanded group held (recordedVolumes content) scene.exchanges) :
    Honours (.unruly driver) Dismantling.promise (Ends fun _ _ => True)
      (held.depart content) scene := by
  unfold Group.depart
  -- Both branches below end in the write that takes the mark off.
  extract_lets finish
  have finishes (gone : Scene) (dismantled : Dismantled group content gone.exchanges)
      (disbanded : Disbanded group held (recordedVolumes content) gone.exchanges)
      (removed : ∀ other, content = some other → Removed other gone.exchanges) :
      Honours (.unruly driver) Dismantling.promise (Ends fun _ _ => True) (finish ()) gone := by
    -- By then the claims are freed and the content is removed.
    have cleared : Cleared group gone.exchanges := by
      refine ⟨dismantled.smooth, ?_, ?_⟩ <;> rw [dismantled.found]
      · exact ⟨held, disbanded⟩
      · exact removed
    -- So that write is allowed, whatever it writes.
    have allowed (later : Group) : Dismantling gone.exchanges (.replaceGroup later) := by
      refine ⟨fun none => absurd none (ne_nil_of_origin? dismantled.origin), fun first began _ => ?_⟩
      obtain rfl := Option.some.inj (dismantled.origin.symm.trans began)
      exact ⟨dismantled.unreleased, by simp [Call.method], nofun, fun _ => dismantled.sought,
        fun _ => dismantled.undone, fun _ => cleared⟩
    have releasing : Honours (.unruly driver) Dismantling.promise (Ends fun _ _ => True)
        held.release gone := by
      unfold Group.release
      split
      · exact .pure trivial
      · refine .dropped (.of (Program.Honours.mono ?_ (Program.honours_next (allowed _))))
        exact fun answer _ _ => gives_any answer
    exact .then releasing.told fun _ _ _ => .pure trivial
  -- There is a content to be removed, or there was none.
  split
  · refine .then (.told (honours_removing dismantled)) ?_
    rintro _ gone ⟨dismantled, goes, removed⟩
    refine finishes gone dismantled (disbanded.later goes) ?_
    rintro other same
    exact Option.some.inj same ▸ removed
  · rename_i none
    exact finishes scene dismantled disbanded fun other same => absurd same (none other)

/-- Every call of a pass over a terminating group is part of its teardown. -/
theorem honours_takingDown {secrets : KeyMap String} (fresh : Fresh group scene.exchanges) :
    Honours (.unruly driver) Dismantling.promise (Ends fun _ _ => True)
      (group.finalize secrets) scene := by
  -- A group without the mark is left alone.
  rw [Group.finalize_eq]
  split
  · refine .then (honours_namespace group) ?_
    rintro space scene ⟨rfl, inSpace⟩
    refine .then (honours_dismantling secrets fresh) ?_
    rintro content gone ⟨dismantled, goes⟩
    have latest : latest? gone.exchanges = some group :=
      (goes.findSome? fun _ apart => apart.leavesHand.silent.1).trans fresh.latest
    refine .then (honours_clearing inSpace dismantled latest) ?_
    rintro held _ ⟨dismantled, disbanded⟩
    exact honours_dismissing dismantled disbanded
  · exact .pure trivial

/-- The class of a group is looked up by one call, if at all. -/
theorem honours_resolving (fresh : Fresh group scene.exchanges) :
    Honours (.unruly driver) Dismantling.promise
      (fun result after => Underway group after.exchanges ∧
        Ends (fun _ after => Fresh group after.exchanges) result after)
      group.resolveClass scene := by
  -- A group without a class cannot be looked after.
  unfold Group.resolveClass
  split
  · exact .throw ⟨fresh.toUnderway, trivial⟩
  · rename_i name _
    have idle : (Call.getClass name).IsIdle := trivial
    -- A look keeps the pass fresh unless it fails.
    refine .retold (.of ((Program.honours_reading fresh idle).mono ?_))
    rintro answer after ⟨underway, fresh⟩
    exact ⟨underway, by cases answer <;> first | exact fresh rfl | trivial⟩

/-- The credentials are looked up by one call, if at all. -/
theorem honours_unlocking (location : SecretLocation) (fresh : Fresh group scene.exchanges) :
    Honours (.unruly driver) Dismantling.promise
      (fun result after => Underway group after.exchanges ∧
        Ends (fun _ after => Fresh group after.exchanges) result after)
      location.credentials scene := by
  unfold SecretLocation.credentials
  -- A class without a secret needs no credentials.
  split
  · exact .pure ⟨fresh.toUnderway, fresh⟩
  · rename_i name space _
    extract_lets unavailable
    have idle : (Call.getSecret name space).IsIdle := trivial
    have reading : Honours (.unruly driver) Dismantling.promise
        (fun result after => Underway group after.exchanges ∧
          Ends (fun _ after => Fresh group after.exchanges) result after)
        (within unavailable (of (.ask (.getSecret name space)))) scene := by
      refine .retold (.of ((Program.honours_reading fresh idle).mono ?_))
      rintro answer after ⟨underway, fresh⟩
      exact ⟨underway, by cases answer <;> first | exact fresh rfl | trivial⟩
    refine .bind reading (fun _ _ reached => ⟨reached.1, trivial⟩) ?_
    rintro secret read ⟨underway, fresh⟩
    -- A secret that cannot be decoded is a mistake in the class.
    exact .known ⟨underway, by cases secret.texts name space <;> first | exact fresh | trivial⟩

/-- Every call of a pass over a group that was read terminating is part of its teardown. -/
theorem honours_advancingDown (fresh : Fresh group scene.exchanges)
    (terminating : group.isTerminating = true) :
    Honours (.unruly driver) Dismantling.promise (Ends fun _ _ => True)
      (group.advance driver) scene := by
  unfold Group.advance
  -- Up to the branch on deletion the pass only looks.
  refine .then (honours_tellingUnderway group (honours_resolving fresh)) ?_
  rintro groupClass resolved fresh
  split
  · exact .pure trivial
  -- Parameters are checked without a call.
  have checking : Honours (.unruly driver) Dismantling.promise
      (fun result after => Underway group after.exchanges ∧
        Ends (fun _ after => Fresh group after.exchanges) result after)
      (within (PassError.parameters (Resource.displayName groupClass))
        (known (ClassParameters.resolve groupClass.spec.parameters))) resolved := by
    refine .retold (.known ⟨fresh.toUnderway, ?_⟩)
    cases ClassParameters.resolve groupClass.spec.parameters <;> first | exact fresh | trivial
  refine .then (honours_tellingUnderway group checking) ?_
  rintro parameters checked fresh
  refine .then (honours_tellingUnderway group (.retold (honours_unlocking parameters.secret fresh))) ?_
  rintro secrets unlocked fresh
  -- The group is terminating, so the pass takes it down.
  exact honours_takingDown fresh

/-- Every call of a pass that finds its group terminating is part of its teardown. -/
theorem honours_dismantlingAll (seen : Group) (start : Store) :
    Honours (.unruly driver) Dismantling.promise (Ends fun _ _ => True)
      (seen.reconcile driver) ⟨start, []⟩ := by
  unfold Group.reconcile
  refine .then (honours_namespace seen) ?_
  rintro space _ ⟨rfl, _⟩
  have first : Dismantling [] (.getGroup seen.name space) := ⟨fun _ => rfl, by simp [origin?]⟩
  -- The first call reads the group.
  have reading : Honours (.unruly driver) Dismantling.promise
      (Ends fun answer after => after.exchanges = [⟨.getGroup seen.name space, answer⟩])
      (outcome (of (.ask (.getGroup seen.name space))) :
        Attempt PassError (Except ClusterError Group)) ⟨start, []⟩ :=
    .outcome (.of (Program.Honours.mono (fun _ _ told => told.1) (Program.honours_next first)))
  refine .then reading ?_
  rintro answer read log
  -- What it finds decides whether there is anything to take down.
  split
  · rename_i group
    have log : read.exchanges = [⟨.getGroup seen.name space, .ok group⟩] := log
    cases terminating : group.isTerminating with
    | false =>
      refine Program.Honours.mono (fun result _ _ => gives_any result)
        (Program.honours_live ?_ terminating)
      rw [log]
      rfl
    | true =>
      refine honours_advancingDown ?_ terminating
      rw [log]
      have smooth : (Exchange.mk (.getGroup seen.name space) (.ok group)).IsSmooth := .of_worked rfl
      have underway : Underway group [⟨.getGroup seen.name space, .ok group⟩] :=
        ⟨rfl, by simp [Call.method]⟩
      exact ⟨⟨underway, by simpa using smooth, rfl, by simp [Exchange.content?]⟩, rfl,
        by simp [Call.method]⟩
  · split
    · exact .pure trivial
    · exact .throw trivial

end Attempt

end Rules

/-- A pass that found its group terminating takes it down in order: the driver neither makes a group nor
changes members, marks and content go after the content was looked for and after the driver's group of
whatever content the pass ever finds, and the mark of the group goes last, unless something failed. -/
theorem torn_down_in_order (driver : String) {start : Store} {seen group : Group} {moment : Moment}
    (run : (Conditions.unruly driver).Reaches ⟨⟨start, []⟩, some (seen.reconcile driver).run⟩ moment)
    (began : origin? moment.exchanges = some group) (terminating : group.isTerminating = true) :
    (∀ later exchange earlier, moment.exchanges = later ++ exchange :: earlier →
      Teardown group earlier exchange.request ∧
        (exchange.request.LetsGo → Undone moment.exchanges earlier)) ∧
      ((∃ exchange ∈ moment.exchanges, ¬ exchange.IsSmooth) →
        ∀ later stored, ⟨.replaceGroup later, .ok stored⟩ ∉ moment.exchanges) := by
  -- Every call of the pass is promised to be part of the teardown, in the order of the log.
  have honours : (seen.reconcile driver).run.Honours (.unruly driver) Dismantling.promise
      (fun _ _ => True) ⟨start, []⟩ :=
    (Attempt.honours_dismantlingAll seen start).mono fun _ _ _ => trivial
  have kept := (Conditions.kept_of_reaches honours trivial run).1
  -- For a single call this says what had come before it.
  have ordered : ∀ later exchange earlier, moment.exchanges = later ++ exchange :: earlier →
      Teardown group earlier exchange.request := by
    -- The log is split at the call, and the promise is taken for what lies before.
    intro later exchange earlier split
    rw [split] at kept began
    obtain ⟨first, follows⟩ := kept.allows
    cases earlier with
    | nil =>
      -- A pass begins by reading its group.
      have keeps : ¬ exchange.request.LetsGo := by simp [Call.LetsGo, first rfl]
      exact ⟨by simp, by simp [first rfl], by simp, fun goes => absurd goes keeps,
        fun goes => absurd goes keeps, by simp [first rfl]⟩
    | cons before log =>
      rw [List.append_cons, origin?_append _ (List.cons_ne_nil before log)] at began
      exact follows group began terminating
  -- What is left is to speak of contents that are found after the call as well.
  refine ⟨fun later exchange earlier split => ⟨ordered later exchange earlier split, ?_⟩, ?_⟩
  · intro goes looking known content found handle named
    have teardown := ordered later exchange earlier split
    have looks : looking.request.method = .getContent := Exchange.method_of_content? found
    rw [split] at known
    rcases List.mem_append.mp known with after | before
    · -- The content was looked for before, and is never looked for again.
      obtain ⟨more, between, rfl⟩ := List.append_of_mem after
      obtain ⟨space, answer, -, sought, -⟩ := teardown.sought goes
      have follows := ordered more looking (between ++ exchange :: earlier) (by simp [split])
      exact absurd rfl (follows.once looks _
        (List.mem_append_right _ (List.mem_cons_of_mem _ sought)))
    · rcases List.mem_cons.mp before with rfl | before
      · simp [Call.LetsGo, looks] at goes
      · exact teardown.undone goes looking before content found handle named
  rintro ⟨exchange, known, rough⟩ later stored written
  obtain ⟨after, before, split⟩ := List.append_of_mem written
  -- Nothing comes after the write that takes the mark off, and whatever came before it worked.
  rw [split] at known
  rcases List.mem_append.mp known with known | known
  · obtain ⟨more, between, rfl⟩ := List.append_of_mem known
    have follows := ordered more exchange (between ++ ⟨.replaceGroup later, .ok stored⟩ :: before)
      (by simp [split])
    exact follows.last _ (List.mem_append_right _ (List.mem_cons_self ..)) rfl
  · rcases List.mem_cons.mp known with rfl | known
    · exact rough (.of_worked rfl)
    · exact rough (((ordered _ _ _ split).cleared rfl).smooth exchange known)

namespace Sample

/-- The whole pass over a group that a user deleted after a pass over it. -/
def dismissed : Moment :=
  (List.replicate 11 Cue.call).foldl Moment.follow
    ⟨⟨(deleted []).store, []⟩, some (group.reconcile "driver").run⟩

end Sample

/-- When a group with a member is deleted, the last call of its pass takes its mark off, and all that
the group owed is done by then. -/
theorem torn_down_when_deleted :
    (Conditions.unruly "driver").Reaches
        ⟨⟨(Sample.deleted []).store, []⟩, some (Sample.group.reconcile "driver").run⟩
        Sample.dismissed ∧
      ∃ own exchange earlier, Sample.dismissed.exchanges = exchange :: earlier ∧
        own.members = ["claim"] ∧
        (found? earlier).bind Content.handle? = some "handle-volumegroup-uid" ∧
        exchange.request.method = .replaceGroup ∧ exchange.failure? = none ∧
        Sought own earlier ∧ Undone Sample.dismissed.exchanges earlier ∧ Cleared own earlier := by
  -- The whole pass is followed to its end.
  have run : (Conditions.unruly "driver").Reaches
      ⟨⟨(Sample.deleted []).store, []⟩, some (Sample.group.reconcile "driver").run⟩
      Sample.dismissed := Moment.reaches_follow _ _ fun _ _ _ => trivial
  -- The group was read terminating, with a member.
  obtain ⟨own, began, terminating, members⟩ : ∃ own ∈ origin? Sample.dismissed.exchanges,
      own.isTerminating = true ∧ own.members = ["claim"] := by decide +kernel
  -- The last call is the write of the group.
  obtain ⟨exchange, last, method, worked⟩ : ∃ exchange ∈ Sample.dismissed.exchanges.head?,
      exchange.request.method = .replaceGroup ∧ exchange.failure? = none := by decide +kernel
  have handle : (found? Sample.dismissed.exchanges.tail).bind Content.handle? =
      some "handle-volumegroup-uid" := by decide +kernel
  obtain ⟨earlier, log⟩ := List.head?_eq_some_iff.mp last
  -- The theorem is used for the last call, before which all others came.
  obtain ⟨teardown, undone⟩ :=
    (torn_down_in_order "driver" run began terminating).1 [] exchange earlier log
  have goes : exchange.request.LetsGo := by simp [Call.LetsGo, method]
  refine ⟨run, own, exchange, earlier, log, members, ?_, method, worked, teardown.sought goes,
    undone goes, teardown.cleared method⟩
  rwa [log] at handle

end VolumeGroups
