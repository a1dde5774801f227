import RowQuery.Filter.Clause
import RowQuery.Token
import RowQuery.Vocabulary

/-! The grammar of filters, written down without a reader: a body is a clause and any number of
connectives with a clause each, a clause is a body in parentheses or a field, an operator and a
value. A word is nothing in itself; its place makes it a field, a keyword or a value. -/

namespace RowQuery

/-- The left fold of a chain of connectives with a clause each onto a first clause. -/
def Clause.chain (first : Clause) (links : List (Connective × Clause)) : Clause :=
  links.foldl (fun body link => .combined body link.1 link.2) first

namespace Filter

inductive IsValue (nullMarker : Bool) : Token → Value → Prop
  | null (h : nullMarker = true) : IsValue nullMarker (.word "null") .null
  | word {w : String} (h : ¬ (nullMarker = true ∧ w = "null")) :
      IsValue nullMarker (.word w) (.text w)
  | number (n : String) : IsValue nullMarker (.number n) (.text n)
  | string (s : String) : IsValue nullMarker (.string s) (.text s)

mutual

inductive IsClause (v : Vocabulary) (nullMarker : Bool) : List Token → Clause → Prop
  | condition {field w : String} {o : Operator} {t : Token} {value : Value}
      (ho : v.operator? w = some o) (hvalue : IsValue nullMarker t value) :
      IsClause v nullMarker [.word field, .word w, t] (.condition field o value)
  | group {ts : List Token} {c : Clause} (h : IsBody v nullMarker ts c) :
      IsClause v nullMarker (.openGroup :: ts ++ [.closeGroup]) c

inductive IsBody (v : Vocabulary) (nullMarker : Bool) : List Token → Clause → Prop
  | fold {ts us : List Token} {c : Clause} {links : List (Connective × Clause)}
      (first : IsClause v nullMarker ts c) (more : IsChain v nullMarker us links) :
      IsBody v nullMarker (ts ++ us) (c.chain links)

inductive IsChain (v : Vocabulary) (nullMarker : Bool) :
    List Token → List (Connective × Clause) → Prop
  | nil : IsChain v nullMarker [] []
  | cons {w : String} {k : Connective} {ts us : List Token} {c : Clause}
      {links : List (Connective × Clause)} (hk : v.connective? w = some k)
      (h : IsClause v nullMarker ts c) (more : IsChain v nullMarker us links) :
      IsChain v nullMarker (.word w :: ts ++ us) ((k, c) :: links)

end

variable {v : Vocabulary} {nullMarker : Bool} {ts us : List Token} {b c : Clause} {w : String}
  {k : Connective}

theorem IsClause.isBody (h : IsClause v nullMarker ts c) : IsBody v nullMarker ts c := by
  have hbody := IsBody.fold h .nil
  rwa [List.append_nil] at hbody

private theorem IsChain.snoc {links : List (Connective × Clause)} (hk : v.connective? w = some k)
    (hc : IsClause v nullMarker us c) :
    ∀ {ts : List Token}, IsChain v nullMarker ts links →
      IsChain v nullMarker (ts ++ .word w :: us) (links ++ [(k, c)])
  | _, .nil => by
    have hone := IsChain.cons hk hc .nil
    rwa [List.append_nil] at hone
  | _, .cons hk' h more => by
    have hmore := IsChain.cons hk' h (more.snoc hk hc)
    rwa [← List.append_assoc] at hmore

theorem IsBody.snoc (h : IsBody v nullMarker ts b) (hk : v.connective? w = some k)
    (hc : IsClause v nullMarker us c) :
    IsBody v nullMarker (ts ++ .word w :: us) (.combined b k c) := by
  cases h with
  | fold first more =>
    have hfold := IsBody.fold first (more.snoc hk hc)
    rwa [← List.append_assoc, Clause.chain, List.foldl_append] at hfold

/-- What holds of single conditions and is kept by a group and by a body that grows. -/
structure Closed (v : Vocabulary) (nullMarker : Bool)
    (onClause onBody : List Token → Clause → Prop) : Prop where
  condition : ∀ {field w : String} {o : Operator} {t : Token} {value : Value},
    v.operator? w = some o → IsValue nullMarker t value →
      onClause [.word field, .word w, t] (.condition field o value)
  group : ∀ {ts : List Token} {c : Clause}, onBody ts c →
    onClause (.openGroup :: ts ++ [.closeGroup]) c
  one : ∀ {ts : List Token} {c : Clause}, onClause ts c → onBody ts c
  snoc : ∀ {ts us : List Token} {b c : Clause} {w : String} {k : Connective}, onBody ts b →
    v.connective? w = some k → onClause us c → onBody (ts ++ .word w :: us) (.combined b k c)

mutual

private theorem IsClause.induct {onClause onBody : List Token → Clause → Prop}
    (h : Closed v nullMarker onClause onBody) {ts : List Token} {c : Clause} :
    IsClause v nullMarker ts c → onClause ts c
  | .condition ho hvalue => h.condition ho hvalue
  | .group hbody => h.group (hbody.induct h)

theorem IsBody.induct {onClause onBody : List Token → Clause → Prop}
    (h : Closed v nullMarker onClause onBody) {ts : List Token} {c : Clause} :
    IsBody v nullMarker ts c → onBody ts c
  | .fold first more => more.induct h (h.one (first.induct h))

private theorem IsChain.induct {onClause onBody : List Token → Clause → Prop}
    (h : Closed v nullMarker onClause onBody) {us : List Token}
    {links : List (Connective × Clause)} {ts : List Token} {b : Clause} :
    IsChain v nullMarker us links → onBody ts b → onBody (ts ++ us) (b.chain links)
  | .nil, hbody => by rwa [List.append_nil]
  | .cons hk hc more, hbody => by
    have hmore := more.induct h (h.snoc hbody hk (hc.induct h))
    rwa [List.append_assoc] at hmore

end

end Filter

end RowQuery
