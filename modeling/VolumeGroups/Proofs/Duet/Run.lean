import Mathlib.Logic.Function.Basic
import VolumeGroups.Proofs.Operator.Acted

/-! Two passes at the same time: their calls come in any order, and users may act in between. -/

namespace VolumeGroups

/-- One of two passes. -/
inductive Side where
  | left
  | right
  deriving DecidableEq

/-- The other pass. -/
def Side.other : Side → Side
  | .left => .right
  | .right => .left

/-- A pass is not its own other one. -/
@[simp] theorem Side.other_ne (side : Side) : side.other ≠ side := by
  cases side <;> decide

/-- The other pass of the other one is the pass itself. -/
@[simp] theorem Side.other_other (side : Side) : side.other.other = side := by
  cases side <;> rfl

/-- Of two passes each is the one or the other. -/
theorem Side.eq_or_eq_other (side one : Side) : one = side ∨ one = side.other := by
  cases side <;> cases one <;> simp [other]

/-- A call that one of two passes made. -/
abbrev Turn := Side × Exchange

/-- The calls that one of the passes made. -/
def callsOf (side : Side) (turns : List Turn) : List Exchange :=
  turns.filterMap fun turn => if turn.1 = side then some turn.2 else none

section Turns

variable {side : Side} {exchange : Exchange} {turns : List Turn}

/-- A call is one of its own pass. -/
@[simp] theorem callsOf_cons_self : callsOf side ((side, exchange) :: turns) =
    exchange :: callsOf side turns := by
  simp [callsOf]

/-- A call is none of any other pass. -/
theorem callsOf_cons_ne {one : Side} (apart : one ≠ side) :
    callsOf side ((one, exchange) :: turns) = callsOf side turns := by
  simp [callsOf, apart]

/-- Turns one after another are calls one after another. -/
@[simp] theorem callsOf_append {later : List Turn} :
    callsOf side (later ++ turns) = callsOf side later ++ callsOf side turns := by
  simp [callsOf]

/-- The calls of a pass are those of its turns. -/
theorem mem_callsOf : exchange ∈ callsOf side turns ↔ (side, exchange) ∈ turns := by
  -- A turn is kept if it is of the side.
  simp only [callsOf, List.mem_filterMap]
  constructor
  · rintro ⟨⟨one, other⟩, known, same⟩
    simp only [Option.ite_none_right_eq_some, Option.some.injEq] at same
    obtain ⟨rfl, rfl⟩ := same
    exact known
  · exact fun known => ⟨_, known, by simp⟩

/-- Where the calls of a pass are taken apart, so are the turns of both. -/
theorem callsOf_eq_append_cons {later earlier : List Exchange}
    (split : callsOf side turns = later ++ exchange :: earlier) :
    ∃ after before, turns = after ++ (side, exchange) :: before ∧ callsOf side after = later ∧
      callsOf side before = earlier := by
  -- The calls are split where the turns of the other side are skipped.
  obtain ⟨after, rest, rfl, rfl, tail⟩ := List.filterMap_eq_append_iff.mp split
  obtain ⟨skipped, ⟨one, made⟩, before, rfl, silent, same, rfl⟩ :=
    List.filterMap_eq_cons_iff.mp tail
  simp only [Option.ite_none_right_eq_some, Option.some.injEq] at same
  obtain ⟨rfl, rfl⟩ := same
  refine ⟨after ++ skipped, before, by simp, ?_, rfl⟩
  have none : callsOf one skipped = [] := List.filterMap_eq_nil_iff.mpr silent
  rw [callsOf_append, none, List.append_nil]
  rfl

/-- Of two turns of a log the one comes before the other. -/
theorem before_or_before {first second after before : List Turn} {one other : Turn}
    (split : turns = first ++ one :: before) (parted : turns = second ++ other :: after)
    (apart : one ≠ other) :
    (∃ between, first = second ++ other :: between ∧ after = between ++ one :: before) ∨
      ∃ between, second = first ++ one :: between ∧ before = between ++ other :: after := by
  -- One of the two later stretches ends with the other one, and what it has more begins with a turn.
  rcases List.append_eq_append_iff.mp (split.symm.trans parted) with
    ⟨between, longer, rest⟩ | ⟨between, longer, rest⟩
  · -- The other one lies behind, unless the two are the same turn.
    cases between with
    | nil => exact absurd (List.cons.inj rest).1 apart
    | cons turn between =>
      obtain ⟨rfl, before⟩ := List.cons.inj rest
      exact .inr ⟨between, longer, before⟩
  · -- The other one lies in front, for the same reason.
    cases between with
    | nil => exact absurd (List.cons.inj rest).1.symm apart
    | cons turn between =>
      obtain ⟨rfl, after⟩ := List.cons.inj rest
      exact .inl ⟨between, longer, after⟩

end Turns

/-- Two passes over one store: what is left of each, and the calls of both, the latest first. -/
structure Duet where
  store : Store
  rest : Side → Program (Except PassError Action)
  turns : List Turn := []

namespace Duet

/-- Two passes that begin at the same time. -/
def opening (driver : String) (seen : Side → Group) (store : Store) : Duet where
  store
  rest side := ((seen side).reconcile driver).run

/-- From one moment of two passes to the next. -/
inductive Step (allowed : UserAction → Prop) : Duet → Duet → Prop where
  /-- A user acts between two calls. -/
  | act {duet : Duet} (action : UserAction) (permitted : allowed action) :
    Step allowed duet { duet with store := action.on duet.store }
  /-- One of the passes makes a call, which is carried out. -/
  | call {duet : Duet} {side : Side} {request : Call} {answer : request.Answer}
    {next : request.Answer → Program (Except PassError Action)} {after : Store}
    (waiting : duet.rest side = .call request next)
    (serves : duet.store.Serves request answer after) :
    Step allowed duet
      { store := after
        rest := Function.update duet.rest side (next answer)
        turns := (side, ⟨request, answer⟩) :: duet.turns }

/-- From one moment of two passes to a later one. -/
def Reaches (allowed : UserAction → Prop) : Duet → Duet → Prop :=
  Relation.ReflTransGen (Step allowed)

variable {allowed : UserAction → Prop}

/-- Turns are only ever added. -/
theorem Reaches.turns {start duet : Duet} (run : Reaches allowed start duet) :
    ∃ later, duet.turns = later ++ start.turns := by
  -- The induction goes along the steps, each of which adds a turn or none.
  induction run with
  | refl => exact ⟨[], rfl⟩
  | tail _ step ih =>
    obtain ⟨later, turns⟩ := ih
    cases step with
    | act => exact ⟨later, turns⟩
    | call => exact ⟨_ :: later, congrArg (List.cons _) turns⟩

/-- Whichever turn is taken from a run, there was a moment right before it and one right after it. -/
theorem Reaches.at_turn {start duet : Duet} (run : Reaches allowed start duet)
    (fresh : start.turns = []) {later earlier : List Turn} {turn : Turn}
    (split : duet.turns = later ++ turn :: earlier) :
    ∃ before after : Duet, Reaches allowed start before ∧ before.turns = earlier ∧
      Step allowed before after ∧ after.turns = turn :: earlier ∧ Reaches allowed after duet ∧
      before.store.Serves turn.2.request turn.2.answer after.store := by
  -- The induction goes along the run, whose last call is the latest turn.
  induction run generalizing later with
  | refl => simp [fresh] at split
  | tail run step ih =>
    cases step with
    -- A user adds no turn, so the moments are the same.
    | act action permitted =>
      obtain ⟨before, after, reached, log, turned, logged, goes, serves⟩ := ih split
      exact ⟨before, after, reached, log, turned, logged, goes.tail (.act action permitted), serves⟩
    | call waiting serves =>
      cases later with
      | nil =>
        obtain ⟨rfl, rfl⟩ := List.cons.inj split
        exact ⟨_, _, run, rfl, .call waiting serves, rfl, .refl, serves⟩
      | cons last later =>
        obtain ⟨before, after, reached, log, turned, logged, goes, served⟩ :=
          ih (List.cons.inj split).2
        exact ⟨before, after, reached, log, turned, logged, goes.tail (.call waiting serves), served⟩

/-- What happens next while two passes run: somebody acts, or one of the passes makes its next call. -/
inductive Cue where
  | act (action : UserAction)
  | call (side : Side)

/-- The moment after a cue, where store and driver do as they are told. -/
def follow (duet : Duet) : Cue → Duet
  | .act action => { duet with store := action.on duet.store }
  | .call side =>
    match duet.rest side with
    -- A pass that has ended has no call to make, so the cue changes nothing.
    | .done _ => duet
    | .call request next =>
      let served := Rehearsal.serve { store := duet.store } request
      { store := served.2.store
        rest := Function.update duet.rest side (next served.1)
        turns := (side, ⟨request, served.1⟩) :: duet.turns }

/-- The moment after some cues, one after another. -/
def play (duet : Duet) (cues : List Cue) : Duet := cues.foldl follow duet

/-- A moment after some cues is a later one, if users may act as the cues say. -/
theorem reaches_play (duet : Duet) (cues : List Cue)
    (permitted : ∀ action, .act action ∈ cues → allowed action) :
    Reaches allowed duet (duet.play cues) := by
  -- The induction goes along the cues, each of which is one step of the run or none.
  induction cues generalizing duet with
  | nil => exact .refl
  | cons cue rest ih =>
    refine .trans ?_ (ih _ fun action known => permitted action (List.mem_cons_of_mem _ known))
    cases cue with
    | act action => exact .single (.act action (permitted action (List.mem_cons_self ..)))
    | call side =>
      simp only [follow]
      -- A cue for a pass that has ended is no step.
      split
      · exact .refl
      · rename_i waiting
        exact .single (.call waiting (Rehearsal.serve_serves { store := duet.store } _))

end Duet

namespace Sample

/-- A pass over each of the two groups. -/
def sides : Side → Group
  | .left => group
  | .right => rival

end Sample

end VolumeGroups
