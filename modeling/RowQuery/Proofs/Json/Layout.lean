import RowQuery.Json.Write
import RowQuery.Proofs.Json.Text

/-! However the tokens of a document are laid out, on one line or indented, they read back as they
were written. -/

namespace RowQuery.Json

namespace Token

variable {c : Char} {cs rest : List Char} {t : Token} {ts : List Token}

theorem listOf_eq (cs : List Char) :
    listOf cs =
      match cs.dropWhile isSpace with
      | [] => some []
      | c :: rest => (read c rest).bind fun r => (listOf r.2).map (r.1 :: ·) := by
  rw [listOf.eq_def]
  split
  · rename_i h
    rw [h]
  · rename_i h
    rw [h]
    split
    · rename_i hread
      simp only [hread, Option.bind_none]
    · rename_i hread
      simp only [hread, Option.bind_some]

theorem listOf_blank (hc : isSpace c = true) (cs : List Char) : listOf (c :: cs) = listOf cs := by
  rw [listOf_eq, List.dropWhile_cons_of_pos hc, ← listOf_eq]

theorem listOf_cons (hc : isSpace c = false) (ht : read c cs = some (t, rest)) :
    listOf (c :: cs) = (listOf rest).map (t :: ·) := by
  rw [listOf_eq, List.dropWhile_cons_of_neg (by simp [hc])]
  simp only [ht, Option.bind_some]

/-- The tokens that read back whatever follows them. A number may go on in what follows, and a
missing text has no spelling. -/
def isPlain : Token → Bool
  | number _ => false
  | text s => s.isSome
  | _ => true

theorem read_text (s : String) (rest : List Char) :
    read '"' (s.toList.flatMap Text.escapeChar ++ '"' :: rest) = some (text (some s), rest) := by
  have hunits := Text.readUnits_write s.toList rest
  simp only [read.eq_def, hunits, Option.map_some, Text.join_map_toNat, String.ofList_toList]
  rfl

theorem listOf_write_append (h : t.isPlain = true) (rest : List Char) :
    listOf (t.write ++ rest) = (listOf rest).map (t :: ·) := by
  match t, h with
  | openArray, _ => exact listOf_cons (by decide) rfl
  | closeArray, _ => exact listOf_cons (by decide) rfl
  | openObject, _ => exact listOf_cons (by decide) rfl
  | closeObject, _ => exact listOf_cons (by decide) rfl
  | colon, _ => exact listOf_cons (by decide) rfl
  | comma, _ => exact listOf_cons (by decide) rfl
  | null, _ => exact listOf_cons (c := 'n') (by decide) rfl
  | bool true, _ => exact listOf_cons (c := 't') (by decide) rfl
  | bool false, _ => exact listOf_cons (c := 'f') (by decide) rfl
  | text (some s), _ =>
    have hwrite : write (text (some s)) ++ rest =
        '"' :: (s.toList.flatMap Text.escapeChar ++ '"' :: rest) := by
      simp [write, Text.write]
    rw [hwrite, listOf_cons (by decide) (read_text s rest)]

/-- The spellings of tokens one after the other, with blanks anywhere between them. -/
inductive LaidOut : List Token → List Char → Prop where
  | nil : LaidOut [] []
  | blank {c : Char} {ts : List Token} {cs : List Char} (hc : isSpace c = true)
      (h : LaidOut ts cs) : LaidOut ts (c :: cs)
  | token {t : Token} {ts : List Token} {cs : List Char} (ht : t.isPlain = true)
      (h : LaidOut ts cs) : LaidOut (t :: ts) (t.write ++ cs)

theorem LaidOut.listOf_eq (h : LaidOut ts cs) : listOf cs = some ts := by
  induction h with
  | nil =>
    rw [Token.listOf_eq]
    rfl
  | blank hc _ ih => rw [listOf_blank hc, ih]
  | token ht _ ih =>
    rw [listOf_write_append ht, ih]
    rfl

theorem LaidOut.blanks {blank : List Char} (hblank : ∀ c ∈ blank, isSpace c = true)
    (h : LaidOut ts cs) : LaidOut ts (blank ++ cs) := by
  induction blank with
  | nil => exact h
  | cons c blank ih =>
    exact .blank (hblank c List.mem_cons_self)
      (ih fun d hd => hblank d (List.mem_cons_of_mem _ hd))

theorem LaidOut.flatMap_write (h : ∀ t ∈ ts, t.isPlain = true) :
    LaidOut ts (ts.flatMap write) := by
  induction ts with
  | nil => exact .nil
  | cons t ts ih =>
    obtain ⟨ht, hts⟩ := List.forall_mem_cons.1 h
    rw [List.flatMap_cons]
    exact .token ht (ih hts)

theorem LaidOut.newline (depth : Nat) (h : LaidOut ts cs) :
    LaidOut ts (newline depth ++ cs) := by
  refine .blanks (fun c hc => ?_) h
  obtain rfl | hc := List.mem_cons.1 hc
  · decide
  · rw [List.eq_of_mem_replicate hc]
    decide

theorem LaidOut.layout (depth : Nat) (h : ∀ t ∈ ts, t.isPlain = true) :
    LaidOut ts (layout depth ts) := by
  fun_induction Json.layout depth ts with
  | case1 => exact .nil
  | case2 depth rest ih | case3 depth rest ih =>
    -- an empty array or object is closed on the spot
    obtain ⟨hopen, hrest⟩ := List.forall_mem_cons.1 h
    obtain ⟨hclose, hrest⟩ := List.forall_mem_cons.1 hrest
    exact .token hopen (.token hclose (ih hrest))
  | case4 depth rest _ _ ih | case5 depth rest _ _ ih | case8 depth rest _ _ ih =>
    obtain ⟨ht, hrest⟩ := List.forall_mem_cons.1 h
    rw [List.append_assoc]
    exact .token ht (.newline _ (ih hrest))
  | case6 depth rest _ _ ih | case7 depth rest _ _ ih =>
    obtain ⟨ht, hrest⟩ := List.forall_mem_cons.1 h
    rw [List.append_assoc]
    exact .newline _ (.token ht (ih hrest))
  | case9 depth rest _ _ ih =>
    obtain ⟨ht, hrest⟩ := List.forall_mem_cons.1 h
    exact .token ht (.blank (by decide) (ih hrest))
  | case10 depth t rest _ _ _ _ _ _ _ _ ih =>
    obtain ⟨ht, hrest⟩ := List.forall_mem_cons.1 h
    exact .token ht (ih hrest)

end Token

end RowQuery.Json
