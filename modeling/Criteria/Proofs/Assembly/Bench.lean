/-
Module: Criteria.Proofs.Assembly.Bench
Purpose: An assembler and its copies under any calls, accepted or refused. Each of them is always
  at some beginning of a sentence, and a refused call leaves it exactly as it was.
Main exports:
  Reply.Proper, perform_proper, Action, benchAfter, exists_follows_of_mem,
  refused_calls_change_nothing
-/
import Criteria.Assembly.Call
import Criteria.Proofs.Assembly.Steps

namespace Criteria.Assembly

/-- How a call has to be answered: it is accepted, and the assembler is at a beginning of a
sentence; or it is refused for its place or for its arguments, and the assembler stays as it
was. -/
inductive Reply.Proper (before : Assembler) : Reply → Prop where
  | accepted {after : Assembler} (outline : Outline) (follows : after.Follows outline) :
      Proper before (.accepted after)
  | outOfPlace {fault : SequenceFault} (sound : ¬ fault.BreaksDown) :
      Proper before (before.refuse fault)
  | badArgument (fault : ArgumentFault) : Proper before (before.refuseArgument fault)

section

variable {assembler : Assembler} {outline : Outline}

theorem accept_proper (follows : assembler.Follows outline) (event : Event) :
    (assembler.accept event).Proper assembler := by
  cases step : outline.step? assembler.defaultConnective event with
  | some after =>
      obtain ⟨next, accepted, nextFollows, _⟩ := accept_of_step? follows step
      rw [accepted]
      exact .accepted after nextFollows
  | none =>
      obtain ⟨fault, refused, sound⟩ := accept_eq_refuse_of_step? follows step
      rw [refused]
      exact .outOfPlace sound

/-- Opening a group leads into a group in which nothing stands yet. -/
theorem Outline.of_step?_openGroup {default : Option Connective} {after : Outline}
    (step : outline.step? default .openGroup = some after) :
    ∃ around outer, after = { outer := around :: outer, current := .empty, operand := none } := by
  have direct {before : Outline} (opens : before.next? .openGroup = some after) :
      ∃ around outer,
        after = { outer := around :: outer, current := .empty, operand := none } := by
    obtain ⟨outer, current, operand⟩ := before
    cases operand with
    | some last => cases opens
    | none =>
        cases opens
        exact ⟨current, outer, rfl⟩
  rcases Option.or_eq_some_iff.mp step with opens | ⟨_, through⟩
  · exact direct opens
  · obtain ⟨connective, _, joins⟩ := Option.bind_eq_some_iff.mp through
    obtain ⟨joined, _, opens⟩ := Option.bind_eq_some_iff.mp joins
    exact direct opens

/-- Once its group could be opened, nothing keeps a range with two bounds from being finished. -/
theorem bounded_group_proper (follows : assembler.Follows outline) (atLeast atMost : Terminal) :
    (assembler.openGroup.andThen fun opened =>
      (opened.addTerminal atLeast).andThen fun first =>
        (first.addConnective .and).andThen fun joined =>
          (joined.addTerminal atMost).andThen Assembler.closeGroup).Proper assembler := by
  cases step : outline.step? assembler.defaultConnective .openGroup with
  | none =>
      obtain ⟨fault, refused, sound⟩ := accept_eq_refuse_of_step? follows step
      have notOpened : assembler.openGroup = assembler.refuse fault := refused
      rw [notOpened]
      exact .outOfPlace sound
  | some inside =>
      obtain ⟨opened, opens, openedFollows, _⟩ := accept_of_step? follows step
      obtain ⟨around, outer, rfl⟩ := Outline.of_step?_openGroup step
      obtain ⟨first, adds, firstFollows, _⟩ :=
        accept_of_next? openedFollows
          (show Outline.next? _ (.clause (.terminal atLeast)) = some _ from rfl)
      obtain ⟨joined, joins, joinedFollows, _⟩ :=
        accept_of_next? firstFollows
          (show Outline.next? _ (.connective .and) = some _ from rfl)
      obtain ⟨second, addsSecond, secondFollows, _⟩ :=
        accept_of_next? joinedFollows
          (show Outline.next? _ (.clause (.terminal atMost)) = some _ from rfl)
      obtain ⟨closed, closes, closedFollows, _⟩ :=
        accept_of_next? secondFollows
          (show Outline.next? _ .closeGroup = some _ from rfl)
      have opened_eq : assembler.openGroup = .accepted opened := opens
      have first_eq : opened.addTerminal atLeast = .accepted first := adds
      have joined_eq : first.addConnective .and = .accepted joined := joins
      have second_eq : joined.addTerminal atMost = .accepted second := addsSecond
      have closed_eq : second.closeGroup = .accepted closed := closes
      simp only [opened_eq, first_eq, joined_eq, second_eq, closed_eq, Reply.andThen]
      exact .accepted _ closedFollows

theorem addRange_proper (follows : assembler.Follows outline) (field : String)
    (lower upper : Option Value) :
    (assembler.addRange field lower upper).Proper assembler := by
  unfold Assembler.addRange
  split
  · exact .badArgument .blankField
  · cases lower with
    | none =>
        cases upper with
        | none => exact .badArgument (.noBounds field)
        | some upper => exact accept_proper follows (.clause (.terminal _))
    | some lower =>
        cases upper with
        | none => exact accept_proper follows (.clause (.terminal _))
        | some upper => exact bounded_group_proper follows _ _

/-- Every call is answered as it has to be. -/
theorem perform_proper (follows : assembler.Follows outline) (call : Call) :
    (assembler.perform call).Proper assembler := by
  cases call with
  | event event => exact accept_proper follows event
  | comparison comparison =>
      simp only [Assembler.perform]
      cases comparison.fault? with
      | none => exact accept_proper follows (.clause (.terminal comparison.terminal))
      | some fault => exact .badArgument fault
  | range field lower upper => exact addRange_proper follows field lower upper
  | setDefault connective =>
      exact .accepted outline ⟨follows.operators, follows.operands, follows.level, follows.phase⟩
  | clear => exact .accepted .empty empty_follows

/-- Whatever the answer to a call, the assembler is at some beginning afterwards. -/
theorem exists_follows_perform (follows : assembler.Follows outline) (call : Call) :
    ∃ after, (assembler.perform call).assembler.Follows after := by
  have proper := perform_proper follows call
  generalize assembler.perform call = reply at proper ⊢
  cases proper with
  | accepted after nextFollows => exact ⟨after, nextFollows⟩
  | outOfPlace sound => exact ⟨outline, follows⟩
  | badArgument fault => exact ⟨outline, follows⟩

end

/-- What can be done with an assembler and its copies: carry out a call on one of them, ask one of
them for its condition, or copy one. They are told apart by their places on a bench. -/
inductive Action where
  | call (place : Nat) (call : Call)
  | build (place : Nat)
  | copy (place : Nat)
deriving Repr, DecidableEq

/-- The bench after an action. A copy is put at its end. -/
def Action.apply (bench : List Assembler) : Action → List Assembler
  | .call place given =>
      match bench[place]? with
      | some assembler => bench.set place (assembler.perform given).assembler
      | none => bench
  | .build _ => bench
  | .copy place => bench ++ bench[place]?.toList

/-- The bench after several actions that begin with one assembler before its first call. -/
def benchAfter (actions : List Action) : List Assembler :=
  actions.foldl Action.apply [.empty]

/-- If all assemblers on a bench are at beginnings of sentences, they still are after an
action. -/
theorem forall_follows_apply {bench : List Assembler}
    (each : ∀ assembler ∈ bench, ∃ outline, assembler.Follows outline) (action : Action) :
    ∀ assembler ∈ action.apply bench, ∃ outline, assembler.Follows outline := by
  intro assembler member
  cases action with
  | call place given =>
      cases found : bench[place]? with
      | none =>
          rw [Action.apply, found] at member
          exact each assembler member
      | some before =>
          rw [Action.apply, found] at member
          rcases List.mem_or_eq_of_mem_set member with kept | rfl
          · exact each assembler kept
          · obtain ⟨outline, follows⟩ := each before (List.mem_of_getElem? found)
            exact exists_follows_perform follows given
  | build place => exact each assembler member
  | copy place =>
      rcases List.mem_append.mp member with kept | copied
      · exact each assembler kept
      · exact each assembler (List.mem_of_getElem? (Option.mem_toList.mp copied))

/-- Whatever was done, every assembler on the bench is at some beginning of a sentence. -/
theorem exists_follows_of_mem (actions : List Action) :
    ∀ assembler ∈ benchAfter actions, ∃ outline, assembler.Follows outline := by
  have run (bench : List Assembler)
      (each : ∀ assembler ∈ bench, ∃ outline, assembler.Follows outline) :
      ∀ assembler ∈ actions.foldl Action.apply bench,
        ∃ outline, assembler.Follows outline := by
    induction actions generalizing bench with
    | nil => exact each
    | cons action actions ih => exact ih (action.apply bench) (forall_follows_apply each action)
  apply run
  intro assembler member
  rw [List.mem_singleton.mp member]
  exact ⟨.empty, empty_follows⟩

/-- Whatever was done before, a call that is refused leaves the assembler exactly as it was, and a
refusal for its place tells what was accepted so far, before the call and after it. Asking for the
condition is refused in the same words. -/
theorem refused_calls_change_nothing (actions : List Action) (assembler : Assembler)
    (kept : assembler ∈ benchAfter actions) :
    (∀ call after refusal, assembler.perform call = .refused after refusal →
      after = assembler ∧
        ∀ fault soFar, refusal = .illegalState fault soFar →
          soFar = assembler.soFar ∧ soFar = after.soFar) ∧
    ∀ fault soFar, assembler.build? = .error (.illegalState fault soFar) →
      soFar = assembler.soFar := by
  obtain ⟨outline, follows⟩ := exists_follows_of_mem actions assembler kept
  constructor
  · intro call after refusal refused
    have proper := perform_proper follows call
    rw [refused] at proper
    cases proper with
    | outOfPlace sound =>
        refine ⟨rfl, ?_⟩
        intro fault soFar same
        cases same
        exact ⟨rfl, rfl⟩
    | badArgument fault =>
        refine ⟨rfl, ?_⟩
        intro fault soFar same
        cases same
  · intro fault soFar refused
    obtain ⟨_, same, _⟩ := refusal_of_build? follows refused
    cases same
    rfl

/-- An assembler with one clause, and a copy of it that joins by AND where nothing is said. -/
def pairedActions : List Action :=
  [.call 0 (.comparison (.equals "status" (.value (.text "open")))), .copy 0,
    .call 1 (.setDefault (some .and))]

/-- The original of the two. -/
def pairedOriginal : Assembler :=
  (Assembler.empty.perform (.comparison (.equals "status" (.value (.text "open"))))).assembler

/-- A range with two bounds is five steps, of which the first is refused here. -/
theorem refused_calls_change_nothing_of_range :
    pairedOriginal ∈ benchAfter pairedActions ∧
    ∃ after refusal,
      pairedOriginal.perform (.range "votes" (some (.number 1)) (some (.number 9))) =
        .refused after refusal ∧
      refusal = .illegalState .groupAfterOperand "\x7bstatus = \"open\"\x7d" ∧
      after = pairedOriginal ∧ "\x7bstatus = \"open\"\x7d" = after.soFar := by
  have kept : pairedOriginal ∈ benchAfter pairedActions := by decide
  have refused : pairedOriginal.perform (.range "votes" (some (.number 1)) (some (.number 9))) =
      .refused pairedOriginal
        (.illegalState .groupAfterOperand "\x7bstatus = \"open\"\x7d") := by decide
  obtain ⟨calls, _⟩ := refused_calls_change_nothing pairedActions pairedOriginal kept
  obtain ⟨same, texts⟩ := calls _ _ _ refused
  exact ⟨kept, _, _, refused, rfl, same, (texts _ _ rfl).2⟩

end Criteria.Assembly
