import VolumeGroups.Proofs.Operator.Promise

/-! What a plan says of the claims of a namespace, and that a pass only reads to make it. -/

namespace VolumeGroups

/-- A group takes a claim, or keeps it, as far as the claim's labels go. -/
def Group.Wants (group : Group) (claim : Claim) : Prop :=
  claim.metadata.isTerminating = false ∧ group.selects claim = .ok true

/-- A group only wants claims of its namespace. -/
theorem Group.Wants.namespace {group : Group} {claim : Claim} (wants : group.Wants claim) :
    claim.metadata.namespace = group.metadata.namespace := by
  -- Selecting asks for the namespace first.
  have selects := wants.2
  simp only [Group.selects] at selects
  split at selects
  · cases selects
  · rename_i same
    exact Decidable.not_not.mp same

/-- A claim is refused for its class of volumes, which groups them by itself. -/
def Claim.IsRefusedForClass (claim : Claim) (cause : Rejection) : Prop :=
  ∃ name, claim.storageClassName? = some name ∧
    cause = .groupedByStorageClass (Resource.key claim) name

/-- What it says of a claim where it stands towards a group. -/
def Group.Stands (group : Group) (groups : List Group) (claim : Claim) : Standing → Prop
  -- A claim that is neither wanted nor listed is none of the group's business.
  | .irrelevant => ¬ group.Wants claim
  | .departed => ¬ group.Wants claim ∧ group.lists claim = true
  | .rejected cause => group.Wants claim ∧ group.lists claim = false ∧
    (checkExclusive claim groups = .error cause ∨ claim.IsRefusedForClass cause)
  -- A wanted claim that is not bound waits, whatever else holds of it.
  | .waiting => group.Wants claim ∧ claim.volumeName? = none
  | .member volumeName _ => group.Wants claim ∧ claim.volumeName? = some volumeName ∧
    (group.lists claim = true ∨ checkExclusive claim groups = .ok ())

/-- What a plan says of claims. -/
structure Group.Sorts (group : Group) (groups : List Group) (claims : List Claim)
    (plan : MembershipPlan) : Prop where
  /-- A member is bound and wanted, and was one before or belongs to no other group. -/
  member : ∀ member ∈ plan.members, member.claim ∈ claims ∧
    group.Stands groups member.claim (.member member.volumeName member.volumeId)
  /-- What is let go was listed and is not wanted. -/
  departed : ∀ claim ∈ plan.departed, claim ∈ claims ∧ group.Stands groups claim .departed
  /-- What is refused is wanted, was no member before and may not be taken. -/
  refused : ∀ claim cause, (claim, cause) ∈ plan.rejected →
    claim ∈ claims ∧ group.Stands groups claim (.rejected cause)
  /-- What is wanted and bound is a member or refused. -/
  wanted : ∀ claim ∈ claims, group.Wants claim → claim.volumeName?.isSome →
    (∃ member ∈ plan.members, member.claim = claim) ∨ ∃ cause, (claim, cause) ∈ plan.rejected

/-- Nothing is planned for no claims. -/
theorem Group.Sorts.nil (group : Group) (groups : List Group) :
    group.Sorts groups [] {} := ⟨by simp, by simp, by simp, by simp⟩

/-- A plan goes on to say so with one claim more. -/
theorem Group.Sorts.cons {group : Group} {groups : List Group} {claims : List Claim}
    {plan : MembershipPlan} (sorts : group.Sorts groups claims plan) {claim : Claim}
    {standing : Standing} (stands : group.Stands groups claim standing) :
    group.Sorts groups (claim :: claims) (plan.cons claim standing) := by
  obtain ⟨members, departed, refused, wanted⟩ := sorts
  -- What the plan says of the other claims stays.
  have later : ∀ member ∈ plan.members, member.claim ∈ claim :: claims ∧
      group.Stands groups member.claim (.member member.volumeName member.volumeId) :=
    fun member planned => (members member planned).imp_left (List.mem_cons_of_mem _)
  have gone : ∀ other ∈ plan.departed, other ∈ claim :: claims ∧
      group.Stands groups other .departed :=
    fun other planned => (departed other planned).imp_left (List.mem_cons_of_mem _)
  have turned : ∀ other cause, (other, cause) ∈ plan.rejected →
      other ∈ claim :: claims ∧ group.Stands groups other (.rejected cause) :=
    fun other cause planned => (refused other cause planned).imp_left (List.mem_cons_of_mem _)
  -- Where the claim stands decides which of the three lists it joins.
  cases standing with
  -- The claim joins no list, and nothing is asked of it as it is not wanted.
  | irrelevant =>
    refine ⟨later, gone, turned, ?_⟩
    intro other known wants bound
    rcases List.mem_cons.mp known with rfl | old
    · exact absurd wants stands
    · exact wanted other old wants bound
  -- The claim joins those that are let go.
  | departed =>
    refine ⟨later, ?_, turned, ?_⟩
    · intro other planned
      rcases List.mem_cons.mp planned with rfl | old
      · exact ⟨List.mem_cons_self .., stands⟩
      · exact gone other old
    · intro other known wants bound
      rcases List.mem_cons.mp known with rfl | old
      · exact absurd wants stands.1
      · exact wanted other old wants bound
  -- The claim joins those that are refused.
  | rejected cause =>
    refine ⟨later, gone, ?_, ?_⟩
    · intro other reason planned
      rcases List.mem_cons.mp planned with same | old
      · cases same
        exact ⟨List.mem_cons_self .., stands⟩
      · exact turned other reason old
    · intro other known wants bound
      rcases List.mem_cons.mp known with rfl | old
      · exact Or.inr ⟨cause, List.mem_cons_self ..⟩
      · exact (wanted other old wants bound).imp_right fun ⟨reason, planned⟩ =>
          ⟨reason, List.mem_cons_of_mem _ planned⟩
  -- The claim joins no list, as it is not bound.
  | waiting =>
    refine ⟨later, gone, turned, ?_⟩
    intro other known wants bound
    rcases List.mem_cons.mp known with rfl | old
    · simp [stands.2] at bound
    · exact wanted other old wants bound
  -- The claim joins the members.
  | member volumeName volumeId =>
    refine ⟨?_, gone, turned, ?_⟩
    · intro member planned
      rcases List.mem_cons.mp planned with rfl | old
      · exact ⟨List.mem_cons_self .., stands⟩
      · exact later member old
    · intro other known wants bound
      rcases List.mem_cons.mp known with rfl | old
      · exact Or.inl ⟨_, List.mem_cons_self .., rfl⟩
      · exact (wanted other old wants bound).imp_left fun ⟨member, planned, same⟩ =>
          ⟨member, List.mem_cons_of_mem _ planned, same⟩

/-- Sorting drops no claim and adds none. -/
theorem mem_sortedByName {claims : List Claim} {claim : Claim} :
    claim ∈ sortedByName claims ↔ claim ∈ claims := by
  simp [sortedByName]

/-- A claim comes before another one by its name. -/
def Claim.precedes (claim other : Claim) : Bool :=
  decide (Resource.displayName claim < Resource.displayName other)

/-- If a second claim does not come before a first one, nor a third one before the second, then the third
does not come before the first. -/
theorem Claim.not_precedes_trans (first second third : Claim) :
    (!second.precedes first) = true → (!third.precedes second) = true →
      (!third.precedes first) = true := by
  simp only [Claim.precedes, Bool.not_eq_true', decide_eq_false_iff_not, String.not_lt]
  exact String.le_trans

/-- Of two claims one does not come before the other. -/
theorem Claim.not_precedes_total (first second : Claim) :
    (!second.precedes first || !first.precedes second) = true := by
  simp only [Claim.precedes, Bool.or_eq_true, Bool.not_eq_true', decide_eq_false_iff_not,
    String.not_lt]
  exact String.le_total _ _

/-- Sorting puts a claim behind those that come before it and in front of all others, which stay in
their order. -/
theorem sortedByName_cons (claim : Claim) (rest : List Claim) :
    ∃ first second, sortedByName rest = first ++ second ∧
      sortedByName (claim :: rest) = first ++ claim :: second ∧
      first = (sortedByName rest).filter (fun other => other.precedes claim) ∧
      second = (sortedByName rest).filter fun other => !other.precedes claim := by
  obtain ⟨first, second, whole, parts, ahead⟩ :=
    List.mergeSort_cons Claim.not_precedes_trans Claim.not_precedes_total claim rest
  -- What is sorted behind the claim does not come before it.
  have sorted := List.pairwise_mergeSort Claim.not_precedes_trans Claim.not_precedes_total
    (claim :: rest)
  rw [whole] at sorted
  have behind := (List.pairwise_cons.mp (List.pairwise_append.mp sorted).2.1).1
  simp only [Bool.not_not] at ahead
  have before : first.filter (fun other => !other.precedes claim) = [] := by simpa using ahead
  have after : second.filter (fun other => other.precedes claim) = [] := by simpa using behind
  replace parts : sortedByName rest = first ++ second := parts
  refine ⟨first, second, parts, whole, ?_, ?_⟩
  · rw [parts, List.filter_append, after, List.filter_eq_self.mpr ahead, List.append_nil]
  · rw [parts, List.filter_append, before, List.filter_eq_self.mpr behind, List.nil_append]

/-- Claims that are passed over may be left out before sorting as well as after it. -/
theorem sortedByName_filter (keep : Claim → Bool) (claims : List Claim) :
    sortedByName (claims.filter keep) = (sortedByName claims).filter keep := by
  induction claims with
  | nil => simp [sortedByName]
  | cons claim rest ih =>
    obtain ⟨first, second, parts, whole, ahead, behind⟩ := sortedByName_cons claim rest
    rw [whole, List.filter_append, List.filter_cons, List.filter_cons]
    split
    · -- The claim has the same place among those that are kept.
      obtain ⟨_, _, -, kept, rfl, rfl⟩ := sortedByName_cons claim (rest.filter keep)
      rw [kept, ih, ahead, behind]
      simp only [List.filter_filter, Bool.and_comm]
    · rw [ih, parts, List.filter_append]

/-- A call that looks at a volume or at a class of volumes. -/
def Call.IsPeek : Call → Prop
  | .getVolume _ | .getStorageClass _ => True
  | _ => False

/-- What only peeks is idle. -/
theorem Call.IsPeek.isIdle {request : Call} (peeks : request.IsPeek) : request.IsIdle := by
  cases request <;> trivial

namespace Attempt

/-- An attempt that only peeks is idle. -/
theorem Asks.idly {ε α : Type} {gives : α → Prop} {attempt : Attempt ε α}
    (asks : Asks Call.IsPeek gives attempt) : Asks Call.IsIdle gives attempt :=
  asks.mono (fun _ peeks => peeks.isIdle) fun _ => id

/-- The guard against classes that group volumes by themselves only reads, and names the class if it
refuses a claim. -/
theorem asks_storageClassGuard (claim : Claim) :
    Asks Call.IsPeek (fun refusal => ∀ cause, refusal = some cause → claim.IsRefusedForClass cause)
      (storageClassGuard claim) := by
  -- The guard asks for the class only if the claim names one.
  unfold storageClassGuard
  split
  · exact .pure (by simp)
  · rename_i name classed
    refine .bind (.outcome (.only ⟨trivial, fun _ => trivial⟩)) ?_
    intro answer _
    split
    · split
      · -- The class groups volumes by itself.
        exact .pure fun cause same => ⟨name, classed, (Option.some.inj same).symm⟩
      · exact .pure (by simp)
    · split
      · exact .pure (by simp)
      · exact .throw

/-- Reading the volume of a claim only reads, and gives the volume that the claim is bound to. -/
theorem asks_boundVolume (claim : Claim) :
    Asks Call.IsPeek (fun bound => bound.map Prod.fst = claim.volumeName?) (boundVolume claim) := by
  -- The volume is read only if the claim names one.
  unfold boundVolume
  split
  · rename_i free
    exact .pure (by simp [free])
  · rename_i name bound
    refine .bind (.within (.only ⟨trivial, fun _ => trivial⟩)) ?_
    intro volume _
    split
    · exact .pure (by simp [bound])
    · exact .throw

/-- Telling where a claim stands only reads. -/
theorem asks_standing (group : Group) (groups : List Group) (claim : Claim) :
    Asks Call.IsPeek (group.Stands groups claim) (group.standing groups claim) := by
  unfold Group.standing
  extract_lets listed take decide
  -- A claim that is wanted and may be taken is a member as soon as it is bound.
  have takes (wants : group.Wants claim)
      (free : group.lists claim = true ∨ checkExclusive claim groups = .ok ()) :
      Asks Call.IsPeek (group.Stands groups claim) (take ()) := by
    -- Whether the claim is bound decides between a member and one that waits.
    refine .bind (asks_boundVolume claim) ?_
    intro bound same
    split
    · exact .pure ⟨wants, same.symm, free⟩
    · exact .pure ⟨wants, same.symm⟩
  -- A listed claim stays by its labels alone, and a new one has to pass both guards as well.
  have decides (stays : Bool) (wants : stays = true ↔ group.Wants claim) :
      Asks Call.IsPeek (group.Stands groups claim) (decide stays) := by
    cases stays with
    | false =>
      have unwanted : ¬ group.Wants claim := fun wanted => by cases wants.mpr wanted
      cases member : group.lists claim with
      -- A listed claim that is not wanted is let go.
      | true =>
        simp only [decide, listed, member, Bool.not_false, if_true]
        exact .pure ⟨unwanted, member⟩
      | false =>
        simp only [decide, listed, member, Bool.not_false, if_true]
        exact .pure unwanted
    | true =>
      -- The claim is wanted, so only the guards are left to be passed.
      have wanted := wants.mp rfl
      cases member : group.lists claim with
      | true =>
        simp only [decide, listed, member, Bool.not_true, Bool.false_eq_true, if_false]
        exact takes wanted (.inl member)
      | false =>
        simp only [decide, listed, member, Bool.not_true, Bool.false_eq_true, if_false,
          Bool.not_false, if_true]
        split
        · rename_i cause taken
          exact .pure ⟨wanted, member, .inl taken⟩
        · rename_i exclusive
          -- The class of volumes is looked at last.
          refine .bind (asks_storageClassGuard claim) ?_
          intro refusal classed
          split
          · rename_i cause
            exact .pure ⟨wanted, member, .inr (classed cause rfl)⟩
          · refine takes wanted (.inr ?_)
            cases checked : checkExclusive claim groups with
            | ok free => rfl
            | error cause => exact absurd checked (exclusive cause)
  -- A claim that is being deleted is not wanted, whatever its labels are.
  split
  · rename_i terminating
    exact decides false (by simp [Group.Wants, terminating])
  · rename_i live
    -- The labels of a live claim decide whether it is wanted.
    have known : Asks Call.IsPeek (fun stays => group.selects claim = .ok stays)
        (known (group.selects claim)) := .known (by cases group.selects claim <;> trivial)
    refine .bind known.within ?_
    intro stays selects
    refine decides stays ?_
    cases stays <;> simp [Group.Wants, selects, live]

/-- Making a plan only reads. -/
theorem asks_planFor (group : Group) (groups : List Group) (claims : List Claim) :
    Asks Call.IsPeek (group.Sorts groups claims) (group.planFor groups claims) := by
  -- The induction goes along the claims, each of which is placed before the rest is planned.
  induction claims with
  | nil => exact .pure (.nil group groups)
  | cons claim rest ih =>
    refine .bind (asks_standing group groups claim) ?_
    intro standing stands
    refine .bind ih ?_
    intro plan sorts
    exact .pure (sorts.cons stands)

end Attempt

end VolumeGroups
