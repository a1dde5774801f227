import RowQuery.Json.Read
import RowQuery.Proofs.Json.Layout

/-! A document without numbers reads back from what is written for it, on one line or indented, as
long as it is not nested too deep. -/

namespace RowQuery.Json

/-! Reading the tokens of a value leaves the machine where the value is complete. -/

variable (rest : List Token) (stack : List Frame)

theorem run_item_tokensThen (j : Json) :
    (State.item stack).run (tokensThen rest j) =
      (State.value (.array [] :: stack)).run (tokensThen rest j) := by
  cases j <;> rw [tokensThen] <;> rfl

theorem run_item_itemTokensThen (j : Json) (items : List Json) :
    (State.item stack).run (itemTokensThen rest (j :: items)) =
      (State.value (.array [] :: stack)).run (itemTokensThen rest (j :: items)) := by
  cases items <;> rw [itemTokensThen] <;> exact run_item_tokensThen _ stack j

mutual

theorem run_tokensThen (rest : List Token) (stack : List Frame) (j : Json) :
    (State.value stack).run (tokensThen rest j) = (State.complete j stack).run rest := by
  match j with
  | null | bool _ | number _ | text _ =>
    rw [tokensThen]
    rfl
  | array [] =>
    rw [tokensThen, itemTokensThen]
    rfl
  | array (j :: items) =>
    rw [tokensThen]
    change (State.item stack).run (itemTokensThen rest (j :: items)) = _
    rw [run_item_itemTokensThen]
    exact run_itemTokensThen rest [] stack j items
  | object [] =>
    rw [tokensThen, memberTokensThen]
    rfl
  | object (m :: members) =>
    rw [tokensThen]
    exact run_memberTokensThen rest [] stack m members
termination_by sizeOf j

/-- The items in front are on the stack, the last of them first. -/
theorem run_itemTokensThen (rest : List Token) (done : List Json) (stack : List Frame) (j : Json)
    (items : List Json) :
    (State.value (.array done :: stack)).run (itemTokensThen rest (j :: items)) =
      (State.complete (.array (done.reverse ++ j :: items)) stack).run rest := by
  match items with
  | [] =>
    rw [itemTokensThen, run_tokensThen]
    change (State.complete (.array (j :: done).reverse) stack).run rest = _
    rw [List.reverse_cons]
  | k :: items =>
    rw [itemTokensThen, run_tokensThen]
    change (State.value (.array (j :: done) :: stack)).run _ = _
    rw [run_itemTokensThen, List.reverse_cons, List.append_assoc, List.singleton_append]
termination_by sizeOf (j :: items)

theorem run_memberTokensThen (rest : List Token) (done : List (Option String × Json))
    (stack : List Frame) (m : Option String × Json) (members : List (Option String × Json)) :
    (State.key done stack).run (memberTokensThen rest (m :: members)) =
      (State.complete (.object (done.reverse ++ m :: members)) stack).run rest := by
  obtain ⟨key, j⟩ := m
  match members with
  | [] =>
    rw [memberTokensThen]
    change (State.value (.object done key :: stack)).run _ = _
    rw [run_tokensThen]
    change (State.complete (.object ((key, j) :: done).reverse) stack).run rest = _
    rw [List.reverse_cons]
  | n :: members =>
    rw [memberTokensThen]
    change (State.value (.object done key :: stack)).run _ = _
    rw [run_tokensThen]
    change (State.key ((key, j) :: done) stack).run _ = _
    rw [run_memberTokensThen, List.reverse_cons, List.append_assoc, List.singleton_append]
termination_by sizeOf (m :: members)

end

theorem readLoose_of_laidOut {j : Json} {cs : List Char} (h : Token.LaidOut j.tokens cs) :
    readLoose (String.ofList cs) = some j := by
  have hrun : (State.value []).run j.tokens = some (.complete j []) := run_tokensThen [] [] j
  simp only [readLoose, String.toList_ofList, h.listOf_eq, Option.bind_eq_bind, Option.bind_some,
    hrun]

/-! Documents that hold no number and lack no text: filters and order lists are of this kind. -/

mutual

def isPlain : Json → Bool
  | number _ => false
  | text s => s.isSome
  | array items => arePlain items
  | object members => arePlainMembers members
  | _ => true

def arePlain : List Json → Bool
  | [] => true
  | j :: rest => j.isPlain && arePlain rest

def arePlainMembers : List (Option String × Json) → Bool
  | [] => true
  | (key, j) :: rest => key.isSome && j.isPlain && arePlainMembers rest

end

theorem arePlain_cons {j : Json} {items : List Json} :
    arePlain (j :: items) = true ↔ j.isPlain = true ∧ arePlain items = true := by
  rw [arePlain, Bool.and_eq_true]

theorem arePlainMembers_cons {key : Option String} {j : Json}
    {members : List (Option String × Json)} :
    arePlainMembers ((key, j) :: members) = true ↔
      key.isSome = true ∧ j.isPlain = true ∧ arePlainMembers members = true := by
  rw [arePlainMembers, Bool.and_eq_true, Bool.and_eq_true, and_assoc]

mutual

theorem isSound_of_isPlain {j : Json} (h : j.isPlain = true) : j.isSound = true := by
  match j with
  | null | bool _ => rw [isSound] <;> simp
  | number _ => rw [isPlain] at h; cases h
  | text s => rwa [isPlain] at h
  | array items =>
    rw [isSound]
    exact areSound_of_arePlain (by rwa [isPlain] at h)
  | object members =>
    rw [isSound]
    exact areSoundMembers_of_arePlainMembers (by rwa [isPlain] at h)
termination_by sizeOf j

theorem areSound_of_arePlain {items : List Json} (h : arePlain items = true) :
    areSound items = true := by
  match items with
  | [] => rw [areSound]
  | j :: items =>
    obtain ⟨hj, hitems⟩ := arePlain_cons.1 h
    rw [areSound, isSound_of_isPlain hj, areSound_of_arePlain hitems, Bool.and_self]
termination_by sizeOf items

theorem areSoundMembers_of_arePlainMembers {members : List (Option String × Json)}
    (h : arePlainMembers members = true) : areSoundMembers members = true := by
  match members with
  | [] => rw [areSoundMembers]
  | (key, j) :: members =>
    obtain ⟨hkey, hj, hmembers⟩ := arePlainMembers_cons.1 h
    rw [areSoundMembers, hkey, isSound_of_isPlain hj, areSoundMembers_of_arePlainMembers hmembers]
    rfl
termination_by sizeOf members

end

mutual

theorem forall_isPlain_tokensThen {rest : List Token} (hrest : ∀ t ∈ rest, t.isPlain = true)
    {j : Json} (h : j.isPlain = true) : ∀ t ∈ tokensThen rest j, t.isPlain = true := by
  match j with
  | null | bool _ =>
    rw [tokensThen]
    exact List.forall_mem_cons.2 ⟨rfl, hrest⟩
  | number _ => rw [isPlain] at h; cases h
  | text s =>
    rw [isPlain] at h
    rw [tokensThen]
    exact List.forall_mem_cons.2 ⟨h, hrest⟩
  | array items =>
    rw [isPlain] at h
    rw [tokensThen]
    exact List.forall_mem_cons.2 ⟨rfl, forall_isPlain_itemTokensThen hrest h⟩
  | object members =>
    rw [isPlain] at h
    rw [tokensThen]
    exact List.forall_mem_cons.2 ⟨rfl, forall_isPlain_memberTokensThen hrest h⟩
termination_by sizeOf j

theorem forall_isPlain_itemTokensThen {rest : List Token} (hrest : ∀ t ∈ rest, t.isPlain = true)
    {items : List Json} (h : arePlain items = true) :
    ∀ t ∈ itemTokensThen rest items, t.isPlain = true := by
  match items with
  | [] =>
    rw [itemTokensThen]
    exact List.forall_mem_cons.2 ⟨rfl, hrest⟩
  | [j] =>
    rw [itemTokensThen]
    exact forall_isPlain_tokensThen (List.forall_mem_cons.2 ⟨rfl, hrest⟩) (arePlain_cons.1 h).1
  | j :: k :: items =>
    obtain ⟨hj, hitems⟩ := arePlain_cons.1 h
    have hbehind := forall_isPlain_itemTokensThen hrest hitems
    rw [itemTokensThen]
    exact forall_isPlain_tokensThen (List.forall_mem_cons.2 ⟨rfl, hbehind⟩) hj
termination_by sizeOf items

theorem forall_isPlain_memberTokensThen {rest : List Token}
    (hrest : ∀ t ∈ rest, t.isPlain = true) {members : List (Option String × Json)}
    (h : arePlainMembers members = true) :
    ∀ t ∈ memberTokensThen rest members, t.isPlain = true := by
  match members with
  | [] =>
    rw [memberTokensThen]
    exact List.forall_mem_cons.2 ⟨rfl, hrest⟩
  | [(key, j)] =>
    obtain ⟨hkey, hj, -⟩ := arePlainMembers_cons.1 h
    rw [memberTokensThen]
    refine List.forall_mem_cons.2 ⟨hkey, List.forall_mem_cons.2 ⟨rfl, ?_⟩⟩
    exact forall_isPlain_tokensThen (List.forall_mem_cons.2 ⟨rfl, hrest⟩) hj
  | (key, j) :: m :: members =>
    obtain ⟨hkey, hj, hmembers⟩ := arePlainMembers_cons.1 h
    have hbehind := forall_isPlain_memberTokensThen hrest hmembers
    rw [memberTokensThen]
    refine List.forall_mem_cons.2 ⟨hkey, List.forall_mem_cons.2 ⟨rfl, ?_⟩⟩
    exact forall_isPlain_tokensThen (List.forall_mem_cons.2 ⟨rfl, hbehind⟩) hj
termination_by sizeOf members

end

variable {j : Json}

theorem forall_isPlain_tokens (h : j.isPlain = true) : ∀ t ∈ j.tokens, t.isPlain = true :=
  forall_isPlain_tokensThen (List.forall_mem_nil _) h

theorem readLoose_compact (h : j.isPlain = true) : readLoose j.compact = some j :=
  readLoose_of_laidOut (.flatMap_write (forall_isPlain_tokens h))

theorem readLoose_pretty (h : j.isPlain = true) : readLoose j.pretty = some j :=
  readLoose_of_laidOut (.layout 0 (forall_isPlain_tokens h))

theorem read_eq_ite {text : String} (h : j.isPlain = true) (hread : readLoose text = some j) :
    read text = if j.depth ≤ maxDepth then some j else none := by
  rw [read, hread, Option.filter_some]
  simp only [isSound_of_isPlain h, Bool.and_true, decide_eq_true_eq]

end RowQuery.Json
