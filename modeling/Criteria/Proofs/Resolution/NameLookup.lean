/-
Module: Criteria.Proofs.Resolution.NameLookup
Purpose: What values stand for once identifiers were given names: a text for the identifiers that
  it names, and for itself, as an identifier, only where no name reads like it.
Main exports:
  Naming, NameTable.after, NameTable.Records, NameTable.records_after,
  NameTable.mem_terms_text_iff, Hidden, ids_stand_for_themselves_unless_hidden,
  id_is_hidden_by_a_name
-/
import Mathlib.Data.List.Induction
import Criteria.Resolution.Terms

namespace Criteria

open Criteria.Text
open Criteria.Search (IdSet)

/-- A name given to an identifier. -/
structure Naming where
  id : String
  name : String
deriving Repr, DecidableEq

/-- The name reads like a text, upper and lower case aside. -/
def Naming.ReadsLike (naming : Naming) (content : String) : Prop :=
  lowercase naming.name = lowercase content

instance (naming : Naming) (content : String) : Decidable (naming.ReadsLike content) :=
  inferInstanceAs (Decidable (lowercase naming.name = lowercase content))

namespace NameTable

/-- The table after names were given one by one. -/
def after (namings : List Naming) : NameTable :=
  namings.foldl (fun table naming => table.register naming.id naming.name) .empty

theorem after_append (namings : List Naming) (naming : Naming) :
    after (namings ++ [naming]) = (after namings).register naming.id naming.name := by
  simp [after]

/-- The table holds what was given: the identifiers, and under each lower-cased name those that
have it. -/
structure Records (table : NameTable) (namings : List Naming) : Prop where
  mem_ids_iff : ∀ id, id ∈ table.ids ↔ ∃ naming ∈ namings, naming.id = id
  unknown_iff : ∀ key, table.byName[key]? = none ↔ ∀ naming ∈ namings, lowercase naming.name ≠ key
  mem_named_iff : ∀ key id, id ∈ table.byName[key]?.getD ∅ ↔
    ∃ naming ∈ namings, naming.id = id ∧ lowercase naming.name = key

theorem records_empty : Records .empty [] where
  mem_ids_iff id := by simp [empty]
  unknown_iff key := by simp [empty]
  mem_named_iff key id := by simp [empty]

variable {table : NameTable} {namings : List Naming}

/-- One more name adds one identifier under it and changes nothing else. -/
theorem Records.register (records : table.Records namings) (naming : Naming) :
    (table.register naming.id naming.name).Records (namings ++ [naming]) where
  mem_ids_iff id := by
    simp only [NameTable.register, Std.ExtTreeSet.mem_insert, Std.compare_eq_iff_eq,
      records.mem_ids_iff, List.mem_append, List.mem_singleton, or_and_right, exists_or,
      exists_eq_left]
    exact or_comm
  unknown_iff key := by
    simp only [NameTable.register, Std.ExtTreeMap.getElem?_insert, Std.compare_eq_iff_eq,
      List.forall_mem_append, List.forall_mem_singleton]
    by_cases same : lowercase naming.name = key
    · simp [same]
    · simp [same, records.unknown_iff]
  mem_named_iff key id := by
    simp only [NameTable.register, Std.ExtTreeMap.getElem?_insert, Std.compare_eq_iff_eq,
      List.mem_append, List.mem_singleton, or_and_right, exists_or, exists_eq_left]
    by_cases same : lowercase naming.name = key
    · rw [same, if_pos rfl, Option.getD_some, Std.ExtTreeSet.mem_insert, records.mem_named_iff,
        Std.compare_eq_iff_eq, and_iff_left rfl]
      exact or_comm
    · rw [if_neg same, records.mem_named_iff]
      simp [same]

theorem records_after (namings : List Naming) : (after namings).Records namings := by
  induction namings using List.reverseRecOn with
  | nil => exact records_empty
  | append_singleton namings naming ih =>
      rw [after_append]
      exact ih.register naming

theorem mem_itself_iff (ids : IdSet) (content id : String) :
    id ∈ (if ids.contains content then [content] else []) ↔ id = content ∧ content ∈ ids := by
  rw [← Std.ExtTreeSet.contains_iff_mem]
  cases ids.contains content <;> simp

/-- A text stands for the identifiers of the names that read like it. Where there are none, it may
be an identifier and then stands for itself. -/
theorem Records.mem_terms_text_iff (records : table.Records namings) (content id : String) :
    id ∈ table.terms (.text content) ↔
      (∃ naming ∈ namings, naming.id = id ∧ naming.ReadsLike content) ∨
        (∀ naming ∈ namings, ¬ naming.ReadsLike content) ∧ id = content ∧
          ∃ naming ∈ namings, naming.id = content := by
  have named := records.mem_named_iff (lowercase content) id
  have unknown := records.unknown_iff (lowercase content)
  rw [terms]
  cases found : table.byName[lowercase content]? with
  | some ids =>
      rw [found, Option.getD_some] at named
      have known : ¬ ∀ naming ∈ namings, ¬ naming.ReadsLike content := by
        intro none
        rw [unknown.mpr none] at found
        cases found
      dsimp only
      rw [Std.ExtTreeSet.mem_toList, named]
      exact (or_iff_left fun given => known given.1).symm
  | none =>
      have none : ∀ naming ∈ namings, ¬ naming.ReadsLike content := unknown.mp found
      have noneNamed : ¬ ∃ naming ∈ namings, naming.id = id ∧ naming.ReadsLike content := by
        rintro ⟨naming, member, _, reads⟩
        exact none naming member reads
      dsimp only
      rw [mem_itself_iff, records.mem_ids_iff, or_iff_right noneNamed, and_iff_right none]

/-- A number stands for the identifier that it writes in decimal, if there is one. -/
theorem Records.mem_terms_number_iff (records : table.Records namings) (n : Int64) (id : String) :
    id ∈ table.terms (.number n) ↔
      id = (Value.number n).plainText ∧
        ∃ naming ∈ namings, naming.id = (Value.number n).plainText := by
  rw [terms, mem_itself_iff, records.mem_ids_iff]

end NameTable

/-! ### Identifiers as texts -/

/-- Names read like the identifier, and all of them are names of others. -/
structure Hidden (namings : List Naming) (id : String) : Prop where
  named : ∃ naming ∈ namings, naming.ReadsLike id
  others : ∀ naming ∈ namings, naming.ReadsLike id → naming.id ≠ id

instance (namings : List Naming) (id : String) : Decidable (Hidden namings id) :=
  decidable_of_iff
    ((∃ naming ∈ namings, naming.ReadsLike id) ∧
      ∀ naming ∈ namings, naming.ReadsLike id → naming.id ≠ id)
    ⟨fun given => ⟨given.1, given.2⟩, fun hidden => ⟨hidden.named, hidden.others⟩⟩

/-- An identifier in the table stands for itself unless it is hidden. -/
theorem NameTable.Records.mem_terms_self_iff {table : NameTable} {namings : List Naming}
    (records : table.Records namings) {id : String} (known : ∃ naming ∈ namings, naming.id = id) :
    id ∈ table.terms (.text id) ↔ ¬ Hidden namings id := by
  rw [records.mem_terms_text_iff]
  constructor
  · rintro (⟨naming, member, own, reads⟩ | ⟨none, _⟩) hidden
    · exact hidden.others naming member reads own
    · obtain ⟨naming, member, reads⟩ := hidden.named
      exact none naming member reads
  · intro shown
    by_cases own : ∃ naming ∈ namings, naming.id = id ∧ naming.ReadsLike id
    · exact .inl own
    · refine .inr ⟨?_, rfl, known⟩
      intro naming member reads
      apply shown
      refine ⟨⟨naming, member, reads⟩, ?_⟩
      intro other otherMember otherReads isOwn
      exact own ⟨other, otherMember, isOwn, otherReads⟩

/-- Whatever names are given in whatever order, an identifier among them stands for itself, as a
text and as a number alike, exactly if it is not hidden. -/
theorem ids_stand_for_themselves_unless_hidden (namings : List Naming) (id : String)
    (known : ∃ naming ∈ namings, naming.id = id) :
    (id ∈ (NameTable.after namings).terms (.text id) ↔ ¬ Hidden namings id) ∧
    ∀ n : Int64, (Value.number n).plainText = id →
      ((NameTable.after namings).terms (.number n) ⊆ (NameTable.after namings).terms (.text id) ↔
        ¬ Hidden namings id) := by
  have records := NameTable.records_after namings
  have itself := records.mem_terms_self_iff known
  refine ⟨itself, ?_⟩
  intro n written
  rw [← itself]
  constructor
  · intro included
    exact included ((records.mem_terms_number_iff n id).mpr ⟨written.symm, written ▸ known⟩)
  · intro member other isNumber
    obtain ⟨sameId, _⟩ := (records.mem_terms_number_iff n other).mp isNumber
    rwa [sameId, written]

/-- The name of one object is the identifier of another. -/
def crossed : List Naming :=
  [⟨"1", "2"⟩, ⟨"2", "Second"⟩]

/-- An identifier that is the name of another object stands for this other one as a text, though as
a number it stands for itself. -/
theorem id_is_hidden_by_a_name :
    (∃ naming ∈ crossed, naming.id = "2") ∧ (Value.number 2).plainText = "2" ∧
    (NameTable.after crossed).terms (.number 2) = ["2"] ∧
    (NameTable.after crossed).terms (.text "2") = ["1"] ∧
    "2" ∉ (NameTable.after crossed).terms (.text "2") ∧
    ¬ (NameTable.after crossed).terms (.number 2) ⊆ (NameTable.after crossed).terms (.text "2") := by
  decide +kernel

/-- Kinds of work. The name 11 belongs to the identifier 11 and to another one, and the identifier
task reads like the name of 11. -/
def kinds : List Naming :=
  [⟨"10", "Bug"⟩, ⟨"11", "Task"⟩, ⟨"12", "bug"⟩, ⟨"11", "11"⟩, ⟨"13", "11"⟩, ⟨"task", "Chore"⟩]

theorem ids_stand_for_themselves_unless_hidden_of_kinds :
    (∃ naming ∈ kinds, naming.id = "11") ∧ (∃ naming ∈ kinds, naming.id = "task") ∧
    (Value.number 11).plainText = "11" ∧
    "11" ∈ (NameTable.after kinds).terms (.text "11") ∧
    (NameTable.after kinds).terms (.number 11) ⊆ (NameTable.after kinds).terms (.text "11") ∧
    "task" ∉ (NameTable.after kinds).terms (.text "task") := by
  have known : ∃ naming ∈ kinds, naming.id = "11" := by decide
  have otherKnown : ∃ naming ∈ kinds, naming.id = "task" := by decide
  have written : (Value.number 11).plainText = "11" := by decide +kernel
  have shown : ¬ Hidden kinds "11" := by decide +kernel
  have hidden : Hidden kinds "task" := by decide +kernel
  obtain ⟨asText, asNumber⟩ := ids_stand_for_themselves_unless_hidden kinds "11" known
  obtain ⟨asOtherText, _⟩ := ids_stand_for_themselves_unless_hidden kinds "task" otherKnown
  exact ⟨known, otherKnown, written, asText.mpr shown, (asNumber 11 written).mpr shown,
    fun member => asOtherText.mp member hidden⟩

end Criteria
