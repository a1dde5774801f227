import RowQuery.Command.Execute
import RowQuery.Proofs.Filter.Document

/-! What is printed for a filter or an order list reads back as the same filter, up to the depth
that documents may have, or as the same list. -/

namespace RowQuery

namespace OrderEntry

theorem ofDocument?_toJson (e : OrderEntry) : ofDocument? e.toJson = some e :=
  ofJson?_toJson e

theorem mapM_ofDocument?_toJson (l : List OrderEntry) :
    (l.map toJson).mapM ofDocument? = some l := by
  induction l with
  | nil => rfl
  | cons e l ih =>
    rw [List.map_cons, List.mapM_cons, ofDocument?_toJson, ih]
    rfl

theorem isPlain_toJson (e : OrderEntry) : e.toJson.isPlain = true :=
  rfl

theorem arePlain_toJson (l : List OrderEntry) : Json.arePlain (l.map toJson) = true := by
  induction l with
  | nil => rfl
  | cons e l ih => exact Json.arePlain_cons.2 ⟨isPlain_toJson e, ih⟩

end OrderEntry

namespace Request

variable (r : Request)

theorem readLoose_printJson {j : Json} (h : j.isPlain = true) :
    Json.readLoose (r.printJson j) = some j := by
  unfold printJson
  split
  · exact Json.readLoose_pretty h
  · exact Json.readLoose_compact h

theorem read_printJson_filter (c : Clause) :
    Clause.read (r.printJson c.toJson) = if c.depth ≤ Json.maxDepth then some c else none :=
  Clause.read_eq_ite (r.readLoose_printJson c.isPlain_toJson)

theorem readList_printJson (l : List OrderEntry) :
    OrderEntry.readList (r.printJson (.array (l.map OrderEntry.toJson))) = some l := by
  have hplain : (Json.array (l.map OrderEntry.toJson)).isPlain = true := by
    rw [Json.isPlain]
    exact OrderEntry.arePlain_toJson l
  rw [OrderEntry.readList, r.readLoose_printJson hplain]
  exact OrderEntry.mapM_ofDocument?_toJson l

/-- A filter of at most 127 levels reads back and a deeper one is refused; every order list reads
back. A filter that was itself read from a document, in whatever form, is never too deep. -/
theorem read_printJson :
    (∀ c : Clause,
      Clause.read (r.printJson c.toJson) = if c.depth ≤ 127 then some c else none) ∧
    (∀ l : List OrderEntry,
      OrderEntry.readList (r.printJson (.array (l.map OrderEntry.toJson))) = some l) ∧
    ∀ (text : String) (c : Clause), Clause.read text = some c →
      Clause.read (r.printJson c.toJson) = some c := by
  refine ⟨r.read_printJson_filter, r.readList_printJson, fun text c h => ?_⟩
  rw [read_printJson_filter, if_pos (Clause.depth_le_of_read h)]

/-- The shape stands in front of an array, and the operator is the only key of an object. -/
theorem read_printJson_of_array :
    Clause.read "[\"leaf\",\"f\",\x7b\"contains\":null\x7d,null]" =
        some (.condition "f" .contains .null) ∧
      Clause.read (({ command := .filter, text := "", pretty := true } : Request).printJson
        (Clause.condition "f" .contains .null).toJson) =
          some (.condition "f" .contains .null) := by
  have hread : Clause.read "[\"leaf\",\"f\",\x7b\"contains\":null\x7d,null]" =
      some (.condition "f" .contains .null) := by decide +kernel
  exact ⟨hread, (read_printJson _).2.2 _ _ hread⟩

end Request

end RowQuery
