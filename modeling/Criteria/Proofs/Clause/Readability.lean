/-
Module: Criteria.Proofs.Clause.Readability
Purpose: The encoding of a condition shows where the condition ends and says all of it but the
  fractions of seconds in its dates, which no fingerprint can tell apart.
Main exports:
  Clause.Fits, Clause.onSecond, Clause.encode_onSecond, Operand.delimited, Predicate.delimited,
  Clause.delimited, Clause.encode_append_eq_iff, encodings_show_where_they_end
-/
import Criteria.Proofs.Calendar.Timeline
import Criteria.Proofs.Clause.Codes

namespace Criteria

open Criteria.Calendar

/-! ### Values -/

/-- The texts of a value fit. -/
def Value.Fits : Value → Prop
  | .text content => TextFits content
  | .number _ | .date _ => True

/-- The value without the fraction of a second. -/
def Value.onSecond : Value → Value
  | .text content => .text content
  | .number n => .number n
  | .date moment => .date moment.onSecond

theorem Value.encode_onSecond (value : Value) : value.onSecond.encode = value.encode := by
  cases value <;> rfl

theorem Value.delimited (value : Value) :
    Delimited Value.encode Value.Fits Value.onSecond value := by
  intro fits other otherFits rest otherRest same
  cases value with
  | text content =>
      cases other with
      | text otherContent =>
          have sameCode := (List.cons.inj same).2
          obtain ⟨sameText, sameRest⟩ :=
            delimited_encodeText content fits otherContent otherFits _ _ sameCode
          exact ⟨congrArg Value.text sameText, sameRest⟩
      | number | date => simp [Value.encode] at same
  | number n =>
      cases other with
      | number m =>
          obtain ⟨sameCode, sameRest⟩ := List.append_inj (List.cons.inj same).2 (by simp)
          have sameInteger := encodeInteger_inj ⟨n.le_toInt, n.toInt_lt⟩
            ⟨m.le_toInt, m.toInt_lt⟩ sameCode
          exact ⟨congrArg Value.number (Int64.toInt_inj.mp sameInteger), sameRest⟩
      | text | date => simp [Value.encode] at same
  | date moment =>
      cases other with
      | date otherMoment =>
          obtain ⟨sameCode, sameRest⟩ := List.append_inj (List.cons.inj same).2 (by simp)
          have sameTimestamp :=
            encodeInteger_inj moment.timestamp_bounds otherMoment.timestamp_bounds sameCode
          exact ⟨congrArg Value.date ((moment.timestamp_eq_iff otherMoment).mp sameTimestamp),
            sameRest⟩
      | text | number => simp [Value.encode] at same

/-! ### Operands -/

namespace Operand

mutual

/-- Texts and lists of an operand fit. -/
def Fits : Operand → Prop
  | .value content => content.Fits
  | .list items => items.length < 4294967296 ∧ AllFit items
  | .empty => True
  | .function call =>
      TextFits call.name ∧ call.args.length < 4294967296 ∧ ∀ arg ∈ call.args, TextFits arg

/-- Each of several operands fits. -/
def AllFit : List Operand → Prop
  | [] => True
  | item :: items => item.Fits ∧ AllFit items

end

mutual

/-- The operand without the fractions of seconds in its dates. -/
def onSecond : Operand → Operand
  | .value content => .value content.onSecond
  | .list items => .list (eachOnSecond items)
  | .empty => .empty
  | .function call => .function call

/-- Several operands without fractions of seconds. -/
def eachOnSecond : List Operand → List Operand
  | [] => []
  | item :: items => item.onSecond :: eachOnSecond items

end

theorem allFit_iff (items : List Operand) : AllFit items ↔ ∀ item ∈ items, item.Fits := by
  induction items with
  | nil => simp [AllFit]
  | cons item items ih => rw [AllFit, ih, List.forall_mem_cons]

theorem eachOnSecond_eq_map (items : List Operand) :
    eachOnSecond items = items.map onSecond := by
  induction items with
  | nil => rfl
  | cons item items ih => rw [eachOnSecond, ih, List.map_cons]

theorem encodeList_eq_flatMap (items : List Operand) :
    encodeList items = items.flatMap encode := by
  induction items with
  | nil => rfl
  | cons item items ih => rw [encodeList, ih, List.flatMap_cons]

mutual

/-- Fractions of seconds leave no trace in the encoding. -/
theorem encode_onSecond : ∀ operand : Operand, operand.onSecond.encode = operand.encode
  | .value content => congrArg (0x30 :: ·) content.encode_onSecond
  | .list items => by
      have sameLength : (eachOnSecond items).length = items.length := by
        rw [eachOnSecond_eq_map, List.length_map]
      rw [onSecond, encode, encode, sameLength, encodeList_eachOnSecond items]
  | .empty => rfl
  | .function _ => rfl

theorem encodeList_eachOnSecond : ∀ items : List Operand,
    encodeList (eachOnSecond items) = encodeList items
  | [] => rfl
  | item :: items => by
      rw [eachOnSecond, encodeList, encodeList, encode_onSecond item,
        encodeList_eachOnSecond items]

end

theorem delimited_value (content : Value) :
    Delimited encode Fits onSecond (.value content) := by
  intro fits other otherFits rest otherRest same
  cases other with
  | value otherContent =>
      obtain ⟨sameValue, sameRest⟩ :=
        content.delimited fits otherContent otherFits _ _ (List.cons.inj same).2
      exact ⟨congrArg Operand.value sameValue, sameRest⟩
  | list | empty | function => simp [encode] at same

theorem delimited_list {items : List Operand}
    (each : ∀ item ∈ items, Delimited encode Fits onSecond item) :
    Delimited encode Fits onSecond (.list items) := by
  intro fits other otherFits rest otherRest same
  cases other with
  | list others =>
      rw [Fits, allFit_iff] at fits otherFits
      simp only [encode, encodeList_eq_flatMap, List.cons_append, List.append_assoc,
        List.cons.injEq, true_and] at same
      obtain ⟨sameItems, sameRest⟩ := delimited_counted each fits otherFits same
      rw [onSecond, onSecond, eachOnSecond_eq_map, eachOnSecond_eq_map, sameItems]
      exact ⟨rfl, sameRest⟩
  | value | empty | function => simp [encode] at same

theorem delimited_empty : Delimited encode Fits onSecond .empty := by
  intro _ other _ rest otherRest same
  cases other with
  | empty => exact ⟨rfl, (List.cons.inj same).2⟩
  | value | list | function => simp [encode] at same

theorem delimited_function (call : FunctionCall) :
    Delimited encode Fits onSecond (.function call) := by
  intro fits other otherFits rest otherRest same
  cases other with
  | function otherCall =>
      simp only [encode, List.cons_append, List.append_assoc, List.cons.injEq, true_and] at same
      obtain ⟨sameName, sameArgs⟩ :=
        delimited_encodeText call.name fits.1 otherCall.name otherFits.1 _ _ same
      have each : ∀ arg ∈ call.args, Delimited encodeText TextFits id arg := by
        intro arg _
        exact delimited_encodeText arg
      obtain ⟨sameTexts, sameRest⟩ := delimited_counted each fits.2 otherFits.2 sameArgs
      rw [List.map_id, List.map_id] at sameTexts
      obtain ⟨name, args⟩ := call
      cases sameName
      cases sameTexts
      exact ⟨rfl, sameRest⟩
  | value | list | empty => simp [encode] at same

mutual

/-- The encoding of an operand shows where it ends and says all of it but the fractions of
seconds. -/
theorem delimited : ∀ operand : Operand, Delimited encode Fits onSecond operand
  | .value content => delimited_value content
  | .list items => delimited_list (delimited_of_mem items)
  | .empty => delimited_empty
  | .function call => delimited_function call

theorem delimited_of_mem : ∀ items : List Operand,
    ∀ item ∈ items, Delimited encode Fits onSecond item
  | first :: others, item, member => by
      rcases List.mem_cons.mp member with same | later
      · rw [same]
        exact delimited first
      · exact delimited_of_mem others item later

end

end Operand

/-! ### Predicates -/

namespace Predicate

mutual

/-- Texts and lists of a predicate fit. -/
def Fits : Predicate → Prop
  | .leaf _ operand => operand.Fits
  | .all parts => parts.length < 4294967296 ∧ AllFit parts

/-- Each of several predicates fits. -/
def AllFit : List Predicate → Prop
  | [] => True
  | part :: parts => part.Fits ∧ AllFit parts

end

mutual

/-- The predicate without the fractions of seconds in its dates. -/
def onSecond : Predicate → Predicate
  | .leaf operator operand => .leaf operator operand.onSecond
  | .all parts => .all (eachOnSecond parts)

/-- Several predicates without fractions of seconds. -/
def eachOnSecond : List Predicate → List Predicate
  | [] => []
  | part :: parts => part.onSecond :: eachOnSecond parts

end

theorem allFit_iff (parts : List Predicate) : AllFit parts ↔ ∀ part ∈ parts, part.Fits := by
  induction parts with
  | nil => simp [AllFit]
  | cons part parts ih => rw [AllFit, ih, List.forall_mem_cons]

theorem eachOnSecond_eq_map (parts : List Predicate) :
    eachOnSecond parts = parts.map onSecond := by
  induction parts with
  | nil => rfl
  | cons part parts ih => rw [eachOnSecond, ih, List.map_cons]

theorem encodeList_eq_flatMap (parts : List Predicate) :
    encodeList parts = parts.flatMap encode := by
  induction parts with
  | nil => rfl
  | cons part parts ih => rw [encodeList, ih, List.flatMap_cons]

mutual

/-- Fractions of seconds leave no trace in the encoding. -/
theorem encode_onSecond : ∀ predicate : Predicate,
    predicate.onSecond.encode = predicate.encode
  | .leaf operator operand => by rw [onSecond, encode, encode, operand.encode_onSecond]
  | .all parts => by
      have sameLength : (eachOnSecond parts).length = parts.length := by
        rw [eachOnSecond_eq_map, List.length_map]
      rw [onSecond, encode, encode, sameLength, encodeList_eachOnSecond parts]

theorem encodeList_eachOnSecond : ∀ parts : List Predicate,
    encodeList (eachOnSecond parts) = encodeList parts
  | [] => rfl
  | part :: parts => by
      rw [eachOnSecond, encodeList, encodeList, encode_onSecond part,
        encodeList_eachOnSecond parts]

end

theorem delimited_leaf (operator : PredicateOperator) (operand : Operand) :
    Delimited encode Fits onSecond (.leaf operator operand) := by
  intro fits other otherFits rest otherRest same
  cases other with
  | leaf otherOperator otherOperand =>
      simp only [encode, List.cons_append, List.cons.injEq, true_and] at same
      obtain ⟨sameTag, sameCode⟩ := same
      obtain ⟨sameOperand, sameRest⟩ :=
        operand.delimited fits otherOperand otherFits _ _ sameCode
      rw [onSecond, onSecond, PredicateOperator.tag_injective sameTag, sameOperand]
      exact ⟨rfl, sameRest⟩
  | all => simp [encode] at same

theorem delimited_all {parts : List Predicate}
    (each : ∀ part ∈ parts, Delimited encode Fits onSecond part) :
    Delimited encode Fits onSecond (.all parts) := by
  intro fits other otherFits rest otherRest same
  cases other with
  | all others =>
      rw [Fits, allFit_iff] at fits otherFits
      simp only [encode, encodeList_eq_flatMap, List.cons_append, List.append_assoc,
        List.cons.injEq, true_and] at same
      obtain ⟨sameParts, sameRest⟩ := delimited_counted each fits otherFits same
      rw [onSecond, onSecond, eachOnSecond_eq_map, eachOnSecond_eq_map, sameParts]
      exact ⟨rfl, sameRest⟩
  | leaf => simp [encode] at same

mutual

/-- The encoding of a predicate shows where it ends and says all of it but the fractions of
seconds. -/
theorem delimited : ∀ predicate : Predicate, Delimited encode Fits onSecond predicate
  | .leaf operator operand => delimited_leaf operator operand
  | .all parts => delimited_all (delimited_of_mem parts)

theorem delimited_of_mem : ∀ parts : List Predicate,
    ∀ part ∈ parts, Delimited encode Fits onSecond part
  | first :: others, part, member => by
      rcases List.mem_cons.mp member with same | later
      · rw [same]
        exact delimited first
      · exact delimited_of_mem others part later

end

end Predicate

/-! ### Terminals -/

namespace Terminal

/-- Texts and lists of a terminal fit. -/
structure Fits (terminal : Terminal) : Prop where
  field : TextFits terminal.field
  operand : terminal.operand.Fits
  predicate : ∀ predicate, terminal.predicate = some predicate → predicate.Fits

/-- The terminal without the fractions of seconds in its dates. -/
def onSecond (terminal : Terminal) : Terminal :=
  { terminal with
    operand := terminal.operand.onSecond
    predicate := terminal.predicate.map Predicate.onSecond }

theorem encode_onSecond (terminal : Terminal) : terminal.onSecond.encode = terminal.encode := by
  obtain ⟨field, operator, operand, predicate⟩ := terminal
  cases predicate with
  | none => simp only [encode, onSecond, operand.encode_onSecond, Option.map_none]
  | some predicate =>
      simp only [encode, onSecond, operand.encode_onSecond, predicate.encode_onSecond,
        Option.map_some]

/-- Whether there is a predicate, and which, shows at the end of a terminal. -/
theorem delimited_predicate {first second : Option Predicate} {rest otherRest : List UInt8}
    (same :
      (match first with
        | some predicate => 0x01 :: predicate.encode
        | none => [0x00]) ++ rest =
      (match second with
        | some predicate => 0x01 :: predicate.encode
        | none => [0x00]) ++ otherRest)
    (firstFits : ∀ predicate, first = some predicate → predicate.Fits)
    (secondFits : ∀ predicate, second = some predicate → predicate.Fits) :
    first.map Predicate.onSecond = second.map Predicate.onSecond ∧ rest = otherRest := by
  cases first with
  | none =>
      cases second with
      | none => exact ⟨rfl, (List.cons.inj same).2⟩
      | some other => simp at same
  | some predicate =>
      cases second with
      | none => simp at same
      | some other =>
          obtain ⟨samePredicate, sameRest⟩ := predicate.delimited (firstFits predicate rfl) other
            (secondFits other rfl) _ _ (List.cons.inj same).2
          exact ⟨congrArg some samePredicate, sameRest⟩

theorem delimited (terminal : Terminal) : Delimited encode Fits onSecond terminal := by
  intro fits other otherFits rest otherRest same
  simp only [encode, List.append_assoc, List.cons_append] at same
  obtain ⟨sameField, sameOperator⟩ :=
    delimited_encodeText terminal.field fits.field other.field otherFits.field _ _ same
  obtain ⟨sameTag, sameOperand⟩ := List.cons.inj sameOperator
  obtain ⟨sameOperand, samePredicate⟩ :=
    terminal.operand.delimited fits.operand other.operand otherFits.operand _ _ sameOperand
  obtain ⟨samePredicate, sameRest⟩ :=
    delimited_predicate samePredicate fits.predicate otherFits.predicate
  refine ⟨?_, sameRest⟩
  simp only [onSecond, Terminal.mk.injEq]
  exact ⟨sameField, Operator.tag_injective sameTag, sameOperand, samePredicate⟩

end Terminal

/-! ### Conditions -/

namespace Clause

mutual

/-- Texts and lists of a condition fit. -/
def Fits : Clause → Prop
  | .terminal leaf => leaf.Fits
  | .and children => children.length < 4294967296 ∧ AllFit children
  | .or children => children.length < 4294967296 ∧ AllFit children
  | .not child => child.Fits

/-- Each of several conditions fits. -/
def AllFit : List Clause → Prop
  | [] => True
  | child :: children => child.Fits ∧ AllFit children

end

mutual

/-- The condition without the fractions of seconds in its dates. -/
def onSecond : Clause → Clause
  | .terminal leaf => .terminal leaf.onSecond
  | .and children => .and (eachOnSecond children)
  | .or children => .or (eachOnSecond children)
  | .not child => .not child.onSecond

/-- Several conditions without fractions of seconds. -/
def eachOnSecond : List Clause → List Clause
  | [] => []
  | child :: children => child.onSecond :: eachOnSecond children

end

theorem allFit_iff (children : List Clause) :
    AllFit children ↔ ∀ child ∈ children, child.Fits := by
  induction children with
  | nil => simp [AllFit]
  | cons child children ih => rw [AllFit, ih, List.forall_mem_cons]

theorem eachOnSecond_eq_map (children : List Clause) :
    eachOnSecond children = children.map onSecond := by
  induction children with
  | nil => rfl
  | cons child children ih => rw [eachOnSecond, ih, List.map_cons]

theorem encodeList_eq_flatMap (children : List Clause) :
    encodeList children = children.flatMap encode := by
  induction children with
  | nil => rfl
  | cons child children ih => rw [encodeList, ih, List.flatMap_cons]

/-- Fractions of seconds leave no trace in the encoding of children. -/
theorem encodeList_eachOnSecond {children : List Clause}
    (each : ∀ child ∈ children, child.onSecond.encode = child.encode) :
    encodeCount (eachOnSecond children).length ++ encodeList (eachOnSecond children) =
      encodeCount children.length ++ encodeList children := by
  have sameCodes : (children.map onSecond).map encode = children.map encode := by
    rw [List.map_map]
    exact List.map_congr_left each
  rw [eachOnSecond_eq_map, encodeList_eq_flatMap, encodeList_eq_flatMap, List.length_map,
    List.flatMap_def, List.flatMap_def, sameCodes]

/-- Fractions of seconds leave no trace in the encoding. -/
theorem encode_onSecond (clause : Clause) : clause.onSecond.encode = clause.encode := by
  induction clause using Clause.byHead with
  | terminal leaf => exact congrArg (0x01 :: ·) leaf.encode_onSecond
  | and children ih => exact congrArg (0x02 :: ·) (encodeList_eachOnSecond ih)
  | or children ih => exact congrArg (0x03 :: ·) (encodeList_eachOnSecond ih)
  | not child ih => exact congrArg (0x04 :: ·) ih

/-- Children are told apart behind their number. -/
theorem delimited_children {children others : List Clause} {rest otherRest : List UInt8}
    (each : ∀ child ∈ children, Delimited encode Fits onSecond child)
    (fits : children.length < 4294967296 ∧ AllFit children)
    (otherFits : others.length < 4294967296 ∧ AllFit others)
    (same : encodeCount children.length ++ (encodeList children ++ rest) =
      encodeCount others.length ++ (encodeList others ++ otherRest)) :
    eachOnSecond children = eachOnSecond others ∧ rest = otherRest := by
  rw [allFit_iff] at fits otherFits
  rw [encodeList_eq_flatMap, encodeList_eq_flatMap] at same
  rw [eachOnSecond_eq_map, eachOnSecond_eq_map]
  exact delimited_counted each fits otherFits same

/-- The encoding of a condition shows where it ends and says all of it but the fractions of
seconds. -/
theorem delimited (clause : Clause) : Delimited encode Fits onSecond clause := by
  induction clause using Clause.byHead with
  | terminal leaf =>
      intro fits other otherFits rest otherRest same
      cases other with
      | terminal otherLeaf =>
          obtain ⟨sameLeaf, sameRest⟩ :=
            leaf.delimited fits otherLeaf otherFits _ _ (List.cons.inj same).2
          exact ⟨congrArg Clause.terminal sameLeaf, sameRest⟩
      | and | or | not => simp [encode] at same
  | and children ih =>
      intro fits other otherFits rest otherRest same
      cases other with
      | and others =>
          simp only [encode, List.cons_append, List.append_assoc, List.cons.injEq,
            true_and] at same
          obtain ⟨sameChildren, sameRest⟩ := delimited_children ih fits otherFits same
          exact ⟨congrArg Clause.and sameChildren, sameRest⟩
      | terminal | or | not => simp [encode] at same
  | or children ih =>
      intro fits other otherFits rest otherRest same
      cases other with
      | or others =>
          simp only [encode, List.cons_append, List.append_assoc, List.cons.injEq,
            true_and] at same
          obtain ⟨sameChildren, sameRest⟩ := delimited_children ih fits otherFits same
          exact ⟨congrArg Clause.or sameChildren, sameRest⟩
      | terminal | and | not => simp [encode] at same
  | not child ih =>
      intro fits other otherFits rest otherRest same
      cases other with
      | not otherChild =>
          obtain ⟨sameChild, sameRest⟩ :=
            ih fits otherChild otherFits _ _ (List.cons.inj same).2
          exact ⟨congrArg Clause.not sameChild, sameRest⟩
      | terminal | and | or => simp [encode] at same

end Clause

/-! ### What follows an encoding -/

theorem Operand.encode_append_eq_iff {first second : Operand} (firstFits : first.Fits)
    (secondFits : second.Fits) (rest otherRest : List UInt8) :
    first.encode ++ rest = second.encode ++ otherRest ↔
      first.onSecond = second.onSecond ∧ rest = otherRest :=
  append_eq_append_iff_of_delimited Operand.delimited Operand.encode_onSecond firstFits secondFits
    rest otherRest

theorem Predicate.encode_append_eq_iff {first second : Predicate} (firstFits : first.Fits)
    (secondFits : second.Fits) (rest otherRest : List UInt8) :
    first.encode ++ rest = second.encode ++ otherRest ↔
      first.onSecond = second.onSecond ∧ rest = otherRest :=
  append_eq_append_iff_of_delimited Predicate.delimited Predicate.encode_onSecond firstFits
    secondFits rest otherRest

theorem Clause.encode_append_eq_iff {first second : Clause} (firstFits : first.Fits)
    (secondFits : second.Fits) (rest otherRest : List UInt8) :
    first.encode ++ rest = second.encode ++ otherRest ↔
      first.onSecond = second.onSecond ∧ rest = otherRest :=
  append_eq_append_iff_of_delimited Clause.delimited Clause.encode_onSecond firstFits secondFits
    rest otherRest

/-- Whatever bytes follow, the encoding of a condition, of an operand or of a history predicate shows
where it ends. Two of a kind, each with what follows, are the same bytes exactly if the two are the
same but for the fractions of seconds in their dates and the same bytes follow. -/
theorem encodings_show_where_they_end (rest otherRest : List UInt8) :
    (∀ first second : Clause, first.Fits → second.Fits →
      (first.encode ++ rest = second.encode ++ otherRest ↔
        first.onSecond = second.onSecond ∧ rest = otherRest)) ∧
    (∀ first second : Operand, first.Fits → second.Fits →
      (first.encode ++ rest = second.encode ++ otherRest ↔
        first.onSecond = second.onSecond ∧ rest = otherRest)) ∧
    (∀ first second : Predicate, first.Fits → second.Fits →
      (first.encode ++ rest = second.encode ++ otherRest ↔
        first.onSecond = second.onSecond ∧ rest = otherRest)) := by
  refine ⟨?_, ?_, ?_⟩
  · intro first second firstFits secondFits
    exact Clause.encode_append_eq_iff firstFits secondFits rest otherRest
  · intro first second firstFits secondFits
    exact Operand.encode_append_eq_iff firstFits secondFits rest otherRest
  · intro first second firstFits secondFits
    exact Predicate.encode_append_eq_iff firstFits secondFits rest otherRest

/-- A change before half past six, or before a fraction of a second later. -/
def beforeHalfPastSix (nano : Nat) (valid : IsClock 6 30 0 nano) : Predicate :=
  .leaf .before (.value (.date ⟨⟨2023, 11, 5, by decide⟩, 6, 30, 0, nano, valid⟩))

/-- A change to one of two marks of having no value. -/
def toNothing : Predicate :=
  .leaf .to (.list [.empty, .empty])

theorem fits_toNothing : toNothing.Fits :=
  ⟨by simp, trivial, trivial, trivial⟩

/-- The status was emptied then, or not all of no conditions hold. -/
def emptiedStatus (nano : Nat) (valid : IsClock 6 30 0 nano) : Clause :=
  .or [.terminal (.changed "status" (some (.all [toNothing, beforeHalfPastSix nano valid]))),
    .not (.and [])]

theorem fits_emptiedStatus (nano : Nat) (valid : IsClock 6 30 0 nano) :
    (emptiedStatus nano valid).Fits := by
  have field : TextFits "status" := by decide
  refine ⟨by simp, ⟨field, trivial, ?_⟩, ⟨by simp, trivial⟩, trivial⟩
  intro predicate present
  cases present
  exact ⟨by simp, fits_toNothing, trivial, trivial⟩

/-- A nanosecond is lost and the bytes after a condition are not. What could be read as one more item
of a list, or as one more part of a predicate, is not taken for it. -/
theorem encodings_show_where_they_end_of_emptied :
    (emptiedStatus 0 (by decide)).Fits ∧ (emptiedStatus 1 (by decide)).Fits ∧
    (emptiedStatus 0 (by decide)).encode ++ [0x32] =
      (emptiedStatus 1 (by decide)).encode ++ [0x32] ∧
    (emptiedStatus 0 (by decide)).encode ++ [] ≠
      (emptiedStatus 1 (by decide)).encode ++ [0x32] ∧
    (Operand.list [.empty, .empty]).encode ++ [] ≠ (Operand.list [.empty]).encode ++ [0x32] ∧
    (Predicate.all [toNothing, beforeHalfPastSix 0 (by decide)]).encode ++ [] ≠
      (Predicate.all [toNothing]).encode ++ (beforeHalfPastSix 0 (by decide)).encode := by
  have exact : (emptiedStatus 0 (by decide)).Fits := fits_emptiedStatus ..
  have later : (emptiedStatus 1 (by decide)).Fits := fits_emptiedStatus ..
  have two : (Operand.list [.empty, .empty]).Fits := ⟨by simp, trivial, trivial, trivial⟩
  have one : (Operand.list [.empty]).Fits := ⟨by simp, trivial, trivial⟩
  have both : (Predicate.all [toNothing, beforeHalfPastSix 0 (by decide)]).Fits :=
    ⟨by simp, fits_toNothing, trivial, trivial⟩
  have single : (Predicate.all [toNothing]).Fits := ⟨by simp, fits_toNothing, trivial⟩
  obtain ⟨sameFollows, _, _⟩ := encodings_show_where_they_end [0x32] [0x32]
  obtain ⟨otherFollows, items, _⟩ := encodings_show_where_they_end [] [0x32]
  obtain ⟨_, _, parts⟩ :=
    encodings_show_where_they_end [] (beforeHalfPastSix 0 (by decide)).encode
  refine ⟨exact, later, (sameFollows _ _ exact later).mpr ⟨rfl, rfl⟩, ?_, ?_, ?_⟩
  · rw [Ne, otherFollows _ _ exact later]
    rintro ⟨_, nothing⟩
    cases nothing
  · rw [Ne, items _ _ two one]
    rintro ⟨_, nothing⟩
    cases nothing
  · rw [Ne, parts _ _ both single]
    rintro ⟨_, nothing⟩
    cases nothing

end Criteria
