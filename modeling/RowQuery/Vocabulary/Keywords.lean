import RowQuery.Keyword

/-! Keywords with their meanings, in ascending order of the words. A word has at most one meaning,
the one it was given last. -/

namespace RowQuery

/-- The order makes two tables with the same lookups equal. -/
structure Keywords (α : Type) where
  entries : List (String × α)
  ascending : entries.Pairwise fun a b => a.1 < b.1
  deriving DecidableEq

namespace Keywords

variable {α : Type}

def empty : Keywords α :=
  ⟨[], .nil⟩

instance : EmptyCollection (Keywords α) := ⟨empty⟩

def insertEntry (word : String) (meaning : α) : List (String × α) → List (String × α)
  | [] => [(word, meaning)]
  | e :: rest =>
    if word < e.1 then (word, meaning) :: e :: rest
    else if word = e.1 then (word, meaning) :: rest
    else e :: insertEntry word meaning rest

theorem mem_insertEntry {word : String} {meaning : α} {e : String × α}
    {entries : List (String × α)} (h : e ∈ insertEntry word meaning entries) :
    e = (word, meaning) ∨ e ∈ entries := by
  induction entries with
  | nil => simpa [insertEntry] using h
  | cons a rest ih =>
    unfold insertEntry at h
    grind

theorem pairwise_insertEntry {word : String} {meaning : α} {entries : List (String × α)}
    (h : entries.Pairwise fun a b => a.1 < b.1) :
    (insertEntry word meaning entries).Pairwise fun a b => a.1 < b.1 := by
  induction entries with
  | nil => simp [insertEntry]
  | cons e rest ih =>
    rw [List.pairwise_cons] at h
    unfold insertEntry
    split
    · rename_i hlt
      rw [List.pairwise_cons, List.pairwise_cons]
      refine ⟨fun b hb => ?_, h⟩
      rcases List.mem_cons.1 hb with rfl | hb
      · exact hlt
      · exact String.lt_trans hlt (h.1 b hb)
    · split
      · rename_i heq
        rw [List.pairwise_cons]
        exact ⟨fun b hb => heq ▸ h.1 b hb, h.2⟩
      · rename_i hnlt hne
        rw [List.pairwise_cons]
        refine ⟨fun b hb => ?_, ih h.2⟩
        rcases mem_insertEntry hb with rfl | hb
        · have hle : e.1 ≤ word := String.not_lt.1 hnlt
          by_cases hlt : e.1 < word
          · exact hlt
          · exact absurd (String.le_antisymm (String.not_lt.1 hlt) hle) hne
        · exact h.1 b hb

def insert (keywords : Keywords α) (word : String) (meaning : α) : Keywords α :=
  ⟨insertEntry word meaning keywords.entries, pairwise_insertEntry keywords.ascending⟩

def get? (keywords : Keywords α) (word : String) : Option α :=
  keywords.entries.lookup word

def contains (keywords : Keywords α) (word : String) : Bool :=
  (keywords.get? word).isSome

def words (keywords : Keywords α) : List String :=
  keywords.entries.map (·.1)

/-- Among the words of a meaning that read back as one word, the first that is `preferred`, or else
the first. -/
def choose? [BEq α] (keywords : Keywords α) (preferred : String → Bool) (meaning : α) :
    Option String :=
  let candidates :=
    (keywords.entries.filter fun e => e.2 == meaning && isSingleWord e.1).map (·.1)
  (candidates.find? preferred).or candidates.head?

private theorem lookup_cons_eq (w word : String) (meaning : α) (rest : List (String × α)) :
    ((word, meaning) :: rest).lookup w = if w = word then some meaning else rest.lookup w := by
  rw [List.lookup_cons]
  by_cases h : w = word
  · rw [if_pos h, h, beq_self_eq_true]
  · rw [if_neg h, beq_false_of_ne h]

private theorem lookup_insertEntry (word : String) (meaning : α) (entries : List (String × α))
    (w : String) :
    (insertEntry word meaning entries).lookup w =
      if w = word then some meaning else entries.lookup w := by
  induction entries with
  | nil => exact lookup_cons_eq w word meaning []
  | cons e rest ih =>
    obtain ⟨k, m⟩ := e
    unfold insertEntry
    split
    · exact lookup_cons_eq ..
    · split
      · rename_i heq
        rw [lookup_cons_eq, lookup_cons_eq, heq]
        split <;> rfl
      · rename_i hne
        rw [lookup_cons_eq, ih, lookup_cons_eq]
        by_cases h : w = k
        · subst h
          rw [if_pos rfl, if_neg (Ne.symm hne), if_pos rfl]
        · rw [if_neg h, if_neg h]

theorem get?_insert (keywords : Keywords α) (word : String) (meaning : α) (w : String) :
    (keywords.insert word meaning).get? w =
      if w = word then some meaning else keywords.get? w :=
  lookup_insertEntry ..

theorem mem_words_insert {keywords : Keywords α} {word : String} {meaning : α} {w : String}
    (h : w ∈ (keywords.insert word meaning).words) : w = word ∨ w ∈ keywords.words := by
  obtain ⟨e, he, rfl⟩ := List.mem_map.1 h
  rcases mem_insertEntry he with rfl | he
  · exact .inl rfl
  · exact .inr (List.mem_map.2 ⟨e, he, rfl⟩)

end Keywords

end RowQuery
