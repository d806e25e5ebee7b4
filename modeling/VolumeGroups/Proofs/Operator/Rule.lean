import VolumeGroups.Proofs.Operator.Run
import VolumeGroups.Proofs.Store.Regular

/-! Rules that tell from the calls a pass has made which call it may make next, and which it keeps
whatever others do in the meantime. -/

namespace VolumeGroups

/-- Which call may come after some calls, the latest of which stands first. -/
abbrev Rule := List Exchange → Call → Prop

namespace Rule

variable {rule : Rule}

/-- The promise to make only calls that a rule allows. -/
def promise (rule : Rule) : Promise := fun met request _ _ => rule met.exchanges request

/-- Every call of a log was allowed after those before it. -/
def Kept (rule : Rule) : List Exchange → Prop
  | [] => True
  | exchange :: log => rule log exchange.request ∧ rule.Kept log

/-- Whichever call is taken from a log that keeps a rule, it was allowed after those before it. -/
theorem Kept.allows {later earlier : List Exchange} {exchange : Exchange}
    (kept : rule.Kept (later ++ exchange :: earlier)) : rule earlier exchange.request := by
  induction later with
  | nil => exact kept.1
  | cons _ _ ih => exact ih kept.2

end Rule

/-- A log goes on with calls of some sort. -/
def Extends (calls : Call → Prop) (before after : List Exchange) : Prop :=
  ∃ made, after = made ++ before ∧ ∀ exchange ∈ made, calls exchange.request

namespace Extends

variable {calls : Call → Prop} {first second third : List Exchange}

/-- A log goes on with no calls at all. -/
theorem refl (log : List Exchange) : Extends calls log log := ⟨[], rfl, by simp⟩

/-- A log that goes on twice goes on. -/
theorem trans (before : Extends calls first second) (after : Extends calls second third) :
    Extends calls first third := by
  obtain ⟨made, rfl, sort⟩ := before
  obtain ⟨more, rfl, further⟩ := after
  refine ⟨more ++ made, by simp, fun exchange known => ?_⟩
  exact (List.mem_append.mp known).elim (further exchange) (sort exchange)

/-- A log goes on with one call. -/
theorem single {exchange : Exchange} (sort : calls exchange.request) :
    Extends calls first (exchange :: first) :=
  ⟨[exchange], rfl, by simpa using sort⟩

/-- A log goes on with the very call that is added to it. -/
theorem cons (exchange : Exchange) (log : List Exchange) :
    Extends (· = exchange.request) log (exchange :: log) := .single rfl

/-- What a log goes on with is of every wider sort. -/
theorem mono {wider : Call → Prop} (goes : Extends calls first second)
    (wide : ∀ request, calls request → wider request) : Extends wider first second := by
  obtain ⟨made, rfl, sort⟩ := goes
  exact ⟨made, rfl, fun exchange known => wide _ (sort exchange known)⟩

/-- What a call showed is still in the log as it goes on. -/
theorem mem (goes : Extends calls first second) {exchange : Exchange} (known : exchange ∈ first) :
    exchange ∈ second := by
  obtain ⟨made, rfl, _⟩ := goes
  exact List.mem_append_right made known

/-- A call of a log that goes on stood in it before, or is of the sort. -/
theorem mem_or (goes : Extends calls first second) {exchange : Exchange}
    (known : exchange ∈ second) : exchange ∈ first ∨ calls exchange.request := by
  obtain ⟨made, rfl, sort⟩ := goes
  exact (List.mem_append.mp known).elim (fun new => .inr (sort exchange new)) .inl

/-- The latest of some facts is the same after calls that tell none. -/
theorem findSome? {α : Type} {tells : Exchange → Option α} (goes : Extends calls first second)
    (silent : ∀ exchange, calls exchange.request → tells exchange = none) :
    second.findSome? tells = first.findSome? tells := by
  obtain ⟨made, rfl, sort⟩ := goes
  have none : made.findSome? tells = none :=
    List.findSome?_eq_none_iff.mpr fun exchange known => silent exchange (sort exchange known)
  rw [List.findSome?_append, none, Option.none_or]

end Extends

/-- The answer is one that some store gives to the call, or tells of a failure. -/
def Exchange.IsPossible (exchange : Exchange) : Prop :=
  (∃ store after : Store, store.Serves exchange.request exchange.answer after) ∨
    exchange.failure?.isSome

/-- A group that is written stays what it is, up to its state. -/
theorem Exchange.IsPossible.continues {later stored : Group}
    (possible : (Exchange.mk (.replaceGroup later) (.ok stored)).IsPossible) :
    later.Continues stored := by
  -- The answer is the store's, since a failure would have told so.
  rcases possible with ⟨store, after, serves⟩ | failed
  · rcases Store.replace_answers serves with ⟨_, wrong, _⟩ | ⟨_, _, _, answered, _⟩
    · cases wrong
    · rw [Except.ok.inj answered]
      exact ⟨rfl, rfl, rfl⟩
  · cases failed

/-- A group that is written asks for what it is written with. -/
theorem Exchange.IsPossible.specification {later stored : Group}
    (possible : (Exchange.mk (.replaceGroup later) (.ok stored)).IsPossible) :
    stored.spec = later.spec := by
  -- The written group is given back as it is stored, with all that it asks for.
  rcases possible with ⟨store, after, serves⟩ | failed
  · rcases Store.replace_answers serves with ⟨_, wrong, _⟩ | ⟨_, _, _, answered, _⟩
    · cases wrong
    · rw [Except.ok.inj answered]
      rfl
  · cases failed

/-- A state that is written is the group's state from then on. -/
theorem Exchange.IsPossible.status {later stored : Group}
    (possible : (Exchange.mk (.replaceGroupStatus later) (.ok stored)).IsPossible) :
    stored.status = later.status := by
  rcases possible with ⟨store, after, serves⟩ | failed
  -- The state that is given back is the one that was sent.
  · rcases Store.replaceStatus_answers serves with ⟨_, wrong, _⟩ | ⟨_, _, _, answered, _⟩
    · cases wrong
    · rw [Except.ok.inj answered]
      rfl
  · cases failed

namespace Conditions

/-- A single pass, between whose calls others do whatever they like, and whose calls may fail in any
way. -/
def unruly (driver : String) : Conditions where
  driver := driver
  visits _ := False
  during _ _ := True
  fails := Call.FailsWith

variable {driver : String} {rule : Rule}

/-- Whatever answers a call, its answer is possible. -/
theorem Answers.isPossible {met after : Scene} {request : Call} {answer : request.Answer}
    (answers : (unruly driver).Answers met request answer after) :
    (Exchange.mk request answer).IsPossible :=
  answers.2.elim (fun serves => .inl ⟨_, _, serves⟩) fun failed => .inr failed.1

/-- A pass that keeps a rule has kept it at every moment of its run, and goes on to keep it. -/
theorem kept_of_reaches {start : Scene} {pass : Program (Except PassError Action)}
    {moment : Moment}
    (honours : pass.Honours (unruly driver) rule.promise (fun _ _ => True) start)
    (kept : rule.Kept start.exchanges)
    (run : (unruly driver).Reaches ⟨start, some pass⟩ moment) :
    rule.Kept moment.exchanges ∧ ∀ rest, moment.pass = some rest →
      rest.Honours (unruly driver) rule.promise (fun _ _ => True) moment.toScene := by
  -- The induction goes along the run, one step at a time.
  induction run with
  | refl => exact ⟨kept, fun rest running => by cases running; exact honours⟩
  | tail _ step ih =>
    obtain ⟨sofar, going⟩ := ih
    cases step with
    -- Nobody acts on a store while no pass runs, as there is but the one pass.
    | idle change => exact change.elim
    | wait change =>
      -- Waiting adds nothing to the log.
      refine ⟨sofar, fun rest running => ?_⟩
      cases running
      exact honours_of_waits (going _ rfl) ⟨rfl, .single trivial⟩
    | start _ visited => exact visited.elim
    | call answers =>
      -- The call that is made was allowed by the rule, and what is left of the pass goes on to keep
      -- it.
      obtain ⟨allowed, remaining⟩ := going _ rfl _ (waits_refl _ _) _ _ answers
      refine ⟨?_, fun rest running => by cases running; exact remaining⟩
      rw [answers.1]
      exact ⟨allowed, sofar⟩
    | stop => exact ⟨sofar, fun _ none => by cases none⟩

/-- The call that a pass is about to make is one that its rule allows. -/
theorem allows_next {α : Type} {goal : α → Scene → Prop} {request : Call}
    {next : request.Answer → Program α} {scene : Scene}
    (honours : (Program.call request next).Honours (unruly driver) rule.promise goal scene) :
    rule scene.exchanges request := by
  -- Every call gets some answer, so the promise is due.
  have serves := Rehearsal.serve_serves { store := scene.store } request
  exact (honours scene (waits_refl _ _) _ ⟨_, _⟩ ⟨rfl, .inl serves⟩).1

end Conditions

section Rules

variable {driver : String} {rule : Rule} {scene : Scene} {α : Type}

/-- A call that a rule allows is added to the log with a possible answer. -/
theorem Program.honours_next {request : Call} (allowed : rule scene.exchanges request) :
    (Program.ask request).Honours (.unruly driver) rule.promise
      (fun answer after => after.exchanges = ⟨request, answer⟩ :: scene.exchanges ∧
        (Exchange.mk request answer).IsPossible) scene := by
  refine .ask ?_
  intro met waits answer after answers
  -- Others may change the store, but not the calls so far.
  have same : met.exchanges = scene.exchanges := waits.1
  refine ⟨?_, answers.1.trans (by rw [same]), answers.isPossible⟩
  rw [Rule.promise, same]
  exact allowed

/-- A program whose calls a rule allows one after another makes the log go on with them. -/
theorem Program.honours_along {calls : Call → Prop} {gives : α → Prop} {program : Program α}
    (asks : program.Asks calls gives)
    (allowed : ∀ {request : Call} {log : List Exchange}, calls request →
      Extends calls scene.exchanges log → rule log request) :
    program.Honours (.unruly driver) rule.promise
      (fun value after => gives value ∧ Extends calls scene.exchanges after.exchanges) scene := by
  -- The log grows by calls of the sort, which is all that the rule asks about.
  refine asks.honours (fun after => Extends calls scene.exchanges after.exchanges) ?_ ?_ (.refl _)
  · intro before met goes waits
    exact waits.1.symm ▸ goes
  · intro met request answer after sort goes answers
    refine ⟨allowed sort goes, ?_⟩
    rw [answers.1]
    exact goes.trans (.single sort)

end Rules

end VolumeGroups
