/-
Module: NodeGauge.Node.Roster
Purpose: The records of a cluster, one for each name, in ascending order of names.
Main exports: Node.Roster, Node.Roster.find?, Node.Roster.insert, Node.Roster.ofList,
  Node.Roster.pairwise_place
-/
import NodeGauge.Node.Record

namespace NodeGauge.Node

/-- Records in strictly ascending order of their names, so that a name belongs to one record. -/
structure Roster where
  records : List Record
  ascending : records.Pairwise fun a b => a.name < b.name

namespace Roster

/-- Two rosters with the same records are one. -/
@[ext] theorem ext {a b : Roster} (h : a.records = b.records) : a = b := by
  cases a; cases b; simp_all

/-- The roster of a cluster without nodes. -/
def empty : Roster := ⟨[], .nil⟩

/-- How many nodes the roster holds. -/
def size (r : Roster) : Nat := r.records.length

/-- The record of a name. -/
def find? (r : Roster) (name : Text) : Option Record := r.records.find? (·.name = name)

/-- Put a record at the place of its name, unless the name has a record already. -/
def place (record : Record) : List Record → List Record
  | [] => [record]
  | first :: rest =>
      if record.name < first.name then record :: first :: rest
      else if record.name = first.name then first :: rest
      else first :: place record rest

/-- Placing a record brings in that record or nothing. -/
theorem eq_or_mem_of_mem_place {record x : Record} {records : List Record}
    (h : x ∈ place record records) : x = record ∨ x ∈ records := by
  induction records with
  | nil => simpa [place] using h
  | cons first rest ih =>
      simp only [place] at h
      split at h
      · simpa using h
      · split at h
        · exact .inr h
        · rcases List.mem_cons.1 h with rfl | h
          · exact .inr List.mem_cons_self
          · exact (ih h).imp id (List.mem_cons_of_mem _)

/-- Placing a record keeps the names in strictly ascending order. -/
theorem pairwise_place (record : Record) {records : List Record}
    (h : records.Pairwise fun a b => a.name < b.name) :
    (place record records).Pairwise fun a b => a.name < b.name := by
  induction records with
  | nil => simp [place]
  | cons first rest ih =>
      have ⟨before, sorted⟩ := List.pairwise_cons.1 h
      simp only [place]
      split
      · next lt =>
          refine List.pairwise_cons.2 ⟨fun x hx => ?_, h⟩
          rcases List.mem_cons.1 hx with rfl | hx
          · exact lt
          · exact List.lt_trans lt (before x hx)
      · split
        · exact h
        · next notLess notSame =>
            refine List.pairwise_cons.2 ⟨fun x hx => ?_, ih sorted⟩
            rcases eq_or_mem_of_mem_place hx with rfl | hx
            · exact Std.lt_of_le_of_ne (Std.not_lt.1 notLess) (Ne.symm notSame)
            · exact before x hx

/-- Add a record.  A name that has one keeps it. -/
def insert (r : Roster) (record : Record) : Roster :=
  ⟨place record r.records, pairwise_place record r.ascending⟩

/-- The roster of a list of records, in which the first record of each name stays. -/
def ofList (records : List Record) : Roster := records.foldl insert empty

end Roster

end NodeGauge.Node
