/-
Module: Criteria.Proofs.Assembly.DefaultConnective
Purpose: Writing out the default connective. What an assembler accepts with default connectives is
  accepted without them once they are given wherever they were put in, and leads to the same place.
Main exports:
  Call.events, Arrival, Arrival.events, Assembler.arrivalsOf, Assembler.acceptAll,
  default_connectives_can_be_written_out
-/
import Criteria.Proofs.Assembly.Bench

namespace Criteria.Assembly

instance : DecidablePred Event.BeginsOperand
  | .clause _ | .not | .openGroup => .isTrue trivial
  | .connective _ | .closeGroup => .isFalse id

/-- The steps of a call. -/
def Call.events : Call → List Event
  | .event given => [given]
  | .comparison made => [.clause (.terminal made.terminal)]
  | .range field lower upper =>
      let atLeast := fun bound : Value =>
        Event.clause (.terminal (.greaterThanEquals field (.value bound)))
      let atMost := fun bound : Value =>
        Event.clause (.terminal (.lessThanEquals field (.value bound)))
      match lower, upper with
      | none, none => []
      | some lower, none => [atLeast lower]
      | none, some upper => [atMost upper]
      | some lower, some upper =>
          [.openGroup, atLeast lower, .connective .and, atMost upper, .closeGroup]
  | .setDefault _ | .clear => []

/-- A step that was accepted, and the assembler at which it arrived. -/
structure Arrival where
  assembler : Assembler
  event : Event
deriving Repr, DecidableEq

namespace Arrival

/-- The default connective that is put before the step: the one in force, if the step begins an
operand directly after another. -/
def implied? (arrival : Arrival) : Option Connective :=
  if arrival.assembler.phase = .afterOperand ∧ arrival.event.BeginsOperand then
    arrival.assembler.defaultConnective
  else none

/-- The step with the default connective before it. -/
def events (arrival : Arrival) : List Event :=
  match arrival.implied? with
  | some connective => [.connective connective, arrival.event]
  | none => [arrival.event]

end Arrival

namespace Assembler

/-- The steps that are accepted one after another, up to one that is refused. -/
def arrivals (assembler : Assembler) : List Event → List Arrival
  | [] => []
  | event :: events =>
      match assembler.accept event with
      | .accepted after => { assembler, event } :: after.arrivals events
      | .refused _ _ => []

/-- The steps that are accepted in the course of several calls. -/
def arrivalsOf (assembler : Assembler) : List Call → List Arrival
  | [] => []
  | call :: calls =>
      match assembler.perform call with
      | .accepted after => assembler.arrivals call.events ++ after.arrivalsOf calls
      | .refused after _ => after.arrivalsOf calls

/-- The assembler after several calls, accepted or refused. -/
def performAll (assembler : Assembler) (calls : List Call) : Assembler :=
  calls.foldl (fun before call => (before.perform call).assembler) assembler

/-- The answers to several calls. -/
def replies (assembler : Assembler) : List Call → List Reply
  | [] => []
  | call :: calls =>
      assembler.perform call :: (assembler.perform call).assembler.replies calls

/-- Take several steps, up to one that is refused. -/
def acceptAll (assembler : Assembler) : List Event → Reply
  | [] => .accepted assembler
  | event :: events => (assembler.accept event).andThen fun after => after.acceptAll events

/-- The assembler with another default connective. -/
def withDefault (assembler : Assembler) (connective : Option Connective) : Assembler :=
  { assembler with defaultConnective := connective }

end Assembler

/-- The answer with something done to the assembler in it. -/
def Reply.map (change : Assembler → Assembler) : Reply → Reply
  | .accepted after => .accepted (change after)
  | .refused after refusal => .refused (change after) refusal

@[simp] theorem Reply.andThen_accepted (reply : Reply) : reply.andThen .accepted = reply := by
  cases reply <;> rfl

/-- An answer that is accepted in the end was accepted on the way. -/
theorem Reply.exists_of_andThen {reply : Reply} {next : Assembler → Reply} {after : Assembler}
    (accepted : reply.andThen next = .accepted after) :
    ∃ middle, reply = .accepted middle ∧ next middle = .accepted after := by
  cases reply with
  | accepted middle => exact ⟨middle, rfl, accepted⟩
  | refused middle refusal => cases accepted

/-- A change that further steps commute with can be made before them or after them. -/
theorem Reply.map_andThen {change : Assembler → Assembler} {next : Assembler → Reply}
    (commutes : ∀ after, next (change after) = (next after).map change) (reply : Reply) :
    (reply.map change).andThen next = (reply.andThen next).map change := by
  cases reply with
  | accepted after => exact commutes after
  | refused after refusal => rfl

/-! ### Steps that do not ask for the default connective -/

section

variable (assembler : Assembler) (default : Option Connective)

theorem reduceFor_withDefault (incoming : Symbol) :
    (assembler.withDefault default).reduceFor incoming =
      (assembler.reduceFor incoming).map (·.withDefault default) := by
  have sameStacks :
      reduce? incoming (assembler.withDefault default).operators
        (assembler.withDefault default).operands =
      reduce? incoming assembler.operators assembler.operands := rfl
  rw [Assembler.reduceFor, Assembler.reduceFor, sameStacks]
  cases reduce? incoming assembler.operators assembler.operands <;> rfl

theorem joinWith_withDefault (connective : Connective) :
    (assembler.withDefault default).joinWith connective =
      (assembler.joinWith connective).map (·.withDefault default) := by
  rw [Assembler.joinWith, reduceFor_withDefault]
  exact Reply.map_andThen (fun _ => rfl) _

variable {assembler}

theorem readyForOperand_withDefault (elsewhere : assembler.phase ≠ .afterOperand)
    (fault : SequenceFault) :
    (assembler.withDefault default).readyForOperand fault =
      (assembler.readyForOperand fault).map (·.withDefault default) := by
  have samePhase : (assembler.withDefault default).phase = assembler.phase := rfl
  unfold Assembler.readyForOperand
  rw [samePhase]
  cases phase : assembler.phase with
  | afterOperand => exact absurd phase elsewhere
  | start | afterNot | afterConnective _ | afterOpen | illegal => rfl

/-- What begins an operand gets ready for it first, and asks for nothing more. -/
theorem exists_accept_eq {event : Event} (begins : event.BeginsOperand) :
    ∃ fault enter,
      (∀ assembler : Assembler,
        assembler.accept event = (assembler.readyForOperand fault).andThen enter) ∧
      ∀ (ready : Assembler) default,
        enter (ready.withDefault default) = (enter ready).map (·.withDefault default) := by
  cases event with
  | clause clause => exact ⟨.clauseAfterOperand, _, fun _ => rfl, fun _ _ => rfl⟩
  | not => exact ⟨.notAfterOperand, _, fun _ => rfl, fun _ _ => rfl⟩
  | openGroup => exact ⟨.groupAfterOperand, _, fun _ => rfl, fun _ _ => rfl⟩
  | connective connective => cases begins
  | closeGroup => cases begins

/-- Anything but an operand directly after another is taken in the same way whatever the default
connective is. -/
theorem accept_withDefault {event : Event}
    (elsewhere : ¬ (assembler.phase = .afterOperand ∧ event.BeginsOperand)) :
    (assembler.withDefault default).accept event =
      (assembler.accept event).map (·.withDefault default) := by
  have samePhase : (assembler.withDefault default).phase = assembler.phase := rfl
  by_cases begins : event.BeginsOperand
  · have ready := readyForOperand_withDefault default fun after => elsewhere ⟨after, begins⟩
    obtain ⟨fault, enter, accepts, commutes⟩ := exists_accept_eq begins
    rw [accepts, accepts, ready]
    exact Reply.map_andThen (fun entered => commutes entered default) _
  · cases event with
    | clause _ | not | openGroup => exact absurd trivial begins
    | connective connective =>
        simp only [Assembler.accept, Assembler.addConnective, samePhase]
        cases assembler.phase with
        | afterOperand =>
            rw [joinWith_withDefault]
            exact Reply.map_andThen (fun _ => rfl) _
        | start | afterNot | afterConnective _ | afterOpen | illegal => rfl
    | closeGroup =>
        have sameLevel : (assembler.withDefault default).level = assembler.level := rfl
        simp only [Assembler.accept, Assembler.closeGroup, samePhase, sameLevel]
        cases assembler.phase with
        | afterOperand =>
            by_cases outside : assembler.level = 0
            · rw [if_pos outside, if_pos outside]
              rfl
            · rw [if_neg outside, if_neg outside, reduceFor_withDefault]
              exact Reply.map_andThen (fun _ => rfl) _
        | start | afterNot | afterConnective _ | afterOpen | illegal => rfl

end

/-! ### One step -/

section

variable {assembler after : Assembler}

theorem phase_of_accept_connective {connective : Connective}
    (accepted : assembler.accept (.connective connective) = .accepted after) :
    after.phase = .afterConnective connective := by
  rw [Assembler.accept, Assembler.addConnective] at accepted
  split at accepted
  · obtain ⟨joined, _, entered⟩ := Reply.exists_of_andThen accepted
    cases entered
    rfl
  · cases accepted
  · cases accepted
  · cases accepted

/-- Directly after an operand and without a default connective, no operand is accepted. -/
theorem accept_ne_accepted_of_noDefault {event : Event}
    (afterOperand : assembler.phase = .afterOperand)
    (noDefault : assembler.defaultConnective = none) (begins : event.BeginsOperand) :
    assembler.accept event ≠ .accepted after := by
  have refused (fault : SequenceFault) :
      assembler.readyForOperand fault = assembler.refuse fault := by
    simp only [Assembler.readyForOperand, afterOperand, noDefault]
  obtain ⟨fault, enter, accepts, _⟩ := exists_accept_eq begins
  intro accepted
  rw [accepts, refused] at accepted
  cases accepted

/-- A step that is accepted can be written out: with the connective given that was put before it,
it is accepted without a default, and leads to the same place. -/
theorem acceptAll_arrival {event : Event} (accepted : assembler.accept event = .accepted after) :
    (assembler.withDefault none).acceptAll (Arrival.events { assembler, event }) =
      .accepted (after.withDefault none) := by
  have alone {before : Assembler}
      (elsewhere : ¬ (before.phase = .afterOperand ∧ event.BeginsOperand))
      (takes : before.accept event = .accepted after) :
      (before.withDefault none).acceptAll [event] = .accepted (after.withDefault none) := by
    rw [Assembler.acceptAll, accept_withDefault none elsewhere, takes]
    rfl
  by_cases between : assembler.phase = .afterOperand ∧ event.BeginsOperand
  · obtain ⟨afterOperand, begins⟩ := between
    cases isDefault : assembler.defaultConnective with
    | none => exact absurd accepted (accept_ne_accepted_of_noDefault afterOperand isDefault begins)
    | some connective =>
        have spelled : Arrival.events { assembler, event } = [.connective connective, event] := by
          simp only [Arrival.events, Arrival.implied?, afterOperand, begins, and_self, if_true,
            isDefault]
        have direct : ¬ (assembler.phase = .afterOperand ∧
            (Event.connective connective).BeginsOperand) := fun both => both.2
        rw [accept_eq_of_default afterOperand isDefault begins] at accepted
        obtain ⟨joined, joins, takes⟩ := Reply.exists_of_andThen accepted
        have awaits : ¬ (joined.phase = .afterOperand ∧ event.BeginsOperand) := by
          rw [phase_of_accept_connective joins]
          simp
        rw [spelled, Assembler.acceptAll, accept_withDefault none direct, joins]
        exact alone awaits takes
  · have spelled : Arrival.events { assembler, event } = [event] := by
      simp only [Arrival.events, Arrival.implied?, if_neg between]
    rw [spelled]
    exact alone between accepted

end

/-! ### Several steps and calls -/

theorem acceptAll_append (assembler : Assembler) (first rest : List Event) :
    assembler.acceptAll (first ++ rest) =
      (assembler.acceptAll first).andThen fun after => after.acceptAll rest := by
  induction first generalizing assembler with
  | nil => rfl
  | cons event first ih =>
      rw [List.cons_append, Assembler.acceptAll, Assembler.acceptAll]
      cases assembler.accept event with
      | accepted after => exact ih after
      | refused after refusal => rfl

section

variable {assembler after : Assembler}

/-- Steps that are all accepted can be written out. -/
theorem acceptAll_arrivals {events : List Event}
    (accepted : assembler.acceptAll events = .accepted after) :
    (assembler.withDefault none).acceptAll ((assembler.arrivals events).flatMap Arrival.events) =
      .accepted (after.withDefault none) := by
  induction events generalizing assembler with
  | nil =>
      cases accepted
      rfl
  | cons event events ih =>
      obtain ⟨next, takes, others⟩ := Reply.exists_of_andThen accepted
      simp only [Assembler.arrivals, takes, List.flatMap_cons]
      rw [acceptAll_append, acceptAll_arrival takes]
      exact ih others

/-- A call that is accepted and does not clear the assembler takes its steps, and may change the
default connective besides. -/
theorem acceptAll_events_of_perform {call : Call} (keeps : call ≠ .clear)
    (accepted : assembler.perform call = .accepted after) :
    ∃ taken, assembler.acceptAll call.events = .accepted taken ∧
      taken.withDefault none = after.withDefault none := by
  have single {event : Event} (takes : assembler.accept event = .accepted after) :
      ∃ taken, assembler.acceptAll [event] = .accepted taken ∧
        taken.withDefault none = after.withDefault none := by
    refine ⟨after, ?_, rfl⟩
    rw [Assembler.acceptAll, takes]
    rfl
  cases call with
  | event given => exact single accepted
  | comparison made =>
      simp only [Assembler.perform] at accepted
      split at accepted
      · exact single accepted
      · cases accepted
  | range field lower upper =>
      simp only [Assembler.perform, Assembler.addRange] at accepted
      split at accepted
      · cases accepted
      · cases lower with
        | none =>
            cases upper with
            | none => cases accepted
            | some upper => exact single accepted
        | some lower =>
            cases upper with
            | none => exact single accepted
            | some upper =>
                refine ⟨after, ?_, rfl⟩
                simp only [Call.events, Assembler.acceptAll, Reply.andThen_accepted]
                exact accepted
  | setDefault connective =>
      cases accepted
      exact ⟨assembler, rfl, rfl⟩
  | clear => exact absurd rfl keeps

variable {outline : Outline}

theorem eq_of_perform_refused {call : Call} {refusal : Refusal}
    (follows : assembler.Follows outline)
    (refused : assembler.perform call = .refused after refusal) : after = assembler := by
  have proper := perform_proper follows call
  rw [refused] at proper
  cases proper with
  | outOfPlace sound => rfl
  | badArgument fault => rfl

/-- Whatever an assembler accepts in the course of calls that do not clear it can be written
out. -/
theorem acceptAll_arrivalsOf (follows : assembler.Follows outline) {calls : List Call}
    (kept : Call.clear ∉ calls) :
    (assembler.withDefault none).acceptAll
        ((assembler.arrivalsOf calls).flatMap Arrival.events) =
      .accepted ((assembler.performAll calls).withDefault none) := by
  induction calls generalizing assembler outline with
  | nil => rfl
  | cons call calls ih =>
      have keeps : call ≠ .clear := (List.ne_of_not_mem_cons kept).symm
      have keptLater : Call.clear ∉ calls := List.not_mem_of_not_mem_cons kept
      obtain ⟨reached, reachedFollows⟩ := exists_follows_perform follows call
      rw [Assembler.arrivalsOf, Assembler.performAll, List.foldl_cons]
      cases performed : assembler.perform call with
      | accepted next =>
          rw [performed] at reachedFollows
          obtain ⟨taken, takes, same⟩ := acceptAll_events_of_perform keeps performed
          rw [List.flatMap_append, acceptAll_append, acceptAll_arrivals takes, same]
          exact ih reachedFollows keptLater
      | refused next refusal =>
          rw [eq_of_perform_refused follows performed]
          exact ih follows keptLater

end

/-- A default connective stands for the same connective given. If the steps that are accepted in
the course of any calls are taken again by an assembler without a default, with the default
connectives that were in force given wherever they were put in, each is accepted, and the two
assemblers are alike: in what they hold, in the condition that they build, and, once their
defaults agree, in the answers to all further calls. -/
theorem default_connectives_can_be_written_out (calls : List Call) (kept : Call.clear ∉ calls) :
    ∃ explicit,
      Assembler.empty.acceptAll ((Assembler.empty.arrivalsOf calls).flatMap Arrival.events) =
        .accepted explicit ∧
      explicit.operators = (Assembler.empty.performAll calls).operators ∧
      explicit.operands = (Assembler.empty.performAll calls).operands ∧
      explicit.level = (Assembler.empty.performAll calls).level ∧
      explicit.phase = (Assembler.empty.performAll calls).phase ∧
      explicit.tokens = (Assembler.empty.performAll calls).tokens ∧
      explicit.build? = (Assembler.empty.performAll calls).build? ∧
      ∀ default later,
        (explicit.perform (.setDefault default)).assembler.replies later =
          ((Assembler.empty.performAll calls).perform
            (.setDefault default)).assembler.replies later := by
  have accepts := acceptAll_arrivalsOf empty_follows kept
  exact ⟨_, accepts, rfl, rfl, rfl, rfl, rfl, rfl, fun _ _ => rfl⟩

/-- Calls that change the default connective on the way. The end of a group is refused, and so is
the last step, which has no default before it. -/
def switchingCalls : List Call :=
  [.setDefault (some .or), .comparison (.isEmpty "a"),
    .range "votes" (some (.number 1)) (some (.number 9)), .setDefault (some .and), .event .not,
    .comparison (.isEmpty "b"), .event .closeGroup, .setDefault none, .event .openGroup]

/-- What was accepted of the calls, with the default connectives given. -/
def switchingSteps : List Event :=
  [.clause (.terminal (.isEmpty "a")), .connective .or, .openGroup,
    .clause (.terminal (.greaterThanEquals "votes" (.value (.number 1)))), .connective .and,
    .clause (.terminal (.lessThanEquals "votes" (.value (.number 9)))), .closeGroup,
    .connective .and, .not, .clause (.terminal (.isEmpty "b"))]

theorem default_connectives_can_be_written_out_of_switchingCalls :
    Call.clear ∉ switchingCalls ∧
    (Assembler.empty.arrivalsOf switchingCalls).flatMap Arrival.events = switchingSteps ∧
    ∃ explicit, Assembler.empty.acceptAll switchingSteps = .accepted explicit ∧
      explicit.operators = [.not, .connective .and, .connective .or] ∧
      explicit.build? = (Assembler.empty.performAll switchingCalls).build? := by
  have kept : Call.clear ∉ switchingCalls := by decide
  have steps : (Assembler.empty.arrivalsOf switchingCalls).flatMap Arrival.events =
      switchingSteps := by decide
  obtain ⟨explicit, accepts, operators, _, _, _, _, built, _⟩ :=
    default_connectives_can_be_written_out switchingCalls kept
  refine ⟨kept, steps, explicit, ?_, ?_, built⟩
  · rw [← steps]
    exact accepts
  · rw [operators]
    decide

end Criteria.Assembly
