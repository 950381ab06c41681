import SqlRecords.Proofs.Template.Tokens

/-!
# Expansion of a template

What a template says, read off its tokens: each placeholder gives one question mark for each of its
values, and all else stays. `expand_eq_tokens` shows that expanding gives this statement unless a
placeholder has no value, and that the first such placeholder is the one that is reported.
-/

namespace SqlRecords.Template

variable {params : Bindings}

/-- The values that a name stands for: the elements of a list, or one value. -/
def valuesOf (params : Bindings) (name : String) : List Value :=
  match params.get? name with
  | none => []
  | some (.list items) => items
  | some v => [v]

/-- Why a name stands for no value. -/
def fault? (params : Bindings) (name : String) : Option StatementError :=
  match params.get? name with
  | none => some (.missingParameter name)
  | some (.list []) => some (.invalidArgument (.emptyList name))
  | some _ => none

namespace Token

/-- What is written for a token. -/
def text (params : Bindings) : Token → String
  | quoted run => String.ofList run
  | doubleColon => "::"
  | placeholder name => ", ".intercalate ((valuesOf params name).map fun _ => "?")
  | other c => String.singleton c

/-- What is bound for a token. -/
def values (params : Bindings) : Token → List Value
  | placeholder name => valuesOf params name
  | _ => []

/-- Why nothing can be written for a token. -/
def fault? (params : Bindings) : Token → Option StatementError
  | placeholder name => Template.fault? params name
  | _ => none

/-- The statement that a token makes alone. -/
def outcome (params : Bindings) (t : Token) : Except StatementError Statement :=
  match t.fault? params with
  | some e => .error e
  | none => .ok ⟨t.text params, t.values params⟩

end Token

/-- One statement behind another; the first failure is the one that counts. -/
def both (left right : Except StatementError Statement) : Except StatementError Statement := do
  let s ← left
  let t ← right
  return ⟨s.text ++ t.text, s.params ++ t.params⟩

theorem both_nothing (r : Except StatementError Statement) : both r (.ok ⟨"", []⟩) = r := by
  cases r with
  | error e => rfl
  | ok s =>
    change Except.ok (Statement.mk (s.text ++ "") (s.params ++ [])) = _
    rw [String.append_empty, List.append_nil]

theorem nothing_both (r : Except StatementError Statement) : both (.ok ⟨"", []⟩) r = r := by
  cases r with
  | error e => rfl
  | ok s =>
    change Except.ok (Statement.mk ("" ++ s.text) ([] ++ s.params)) = _
    rw [String.empty_append, List.nil_append]

theorem both_assoc (r s t : Except StatementError Statement) :
    both (both r s) t = both r (both s t) := by
  rcases r with e | r
  · rfl
  rcases s with e | s
  · rfl
  rcases t with e | t
  · rfl
  change Except.ok (Statement.mk (r.text ++ s.text ++ t.text) (r.params ++ s.params ++ t.params)) = _
  rw [String.append_assoc, List.append_assoc]
  rfl

/-! ### Pieces -/

theorem expandPieces_append (xs ys : List Piece) :
    expandPieces params (xs ++ ys) = both (expandPieces params xs) (expandPieces params ys) := by
  induction xs with
  | nil => exact (nothing_both _).symm
  | cons piece rest ih =>
    change both (piece.expand params) (expandPieces params (rest ++ ys)) = _
    rw [ih, ← both_assoc]
    rfl

theorem expandPieces_single (piece : Piece) :
    expandPieces params [piece] = piece.expand params :=
  both_nothing (piece.expand params)

theorem expandPieces_chars (cs : List Char) :
    expandPieces params (cs.map .char) = .ok ⟨String.ofList cs, []⟩ := by
  induction cs with
  | nil => rfl
  | cons c rest ih =>
    change both (.ok ⟨String.singleton c, []⟩) (expandPieces params (rest.map .char)) = _
    rw [ih, String.ofList_cons]
    rfl

theorem expand_placeholder (name : String) :
    (Piece.placeholder name).expand params = (Token.placeholder name).outcome params := by
  rw [Piece.expand, Token.outcome, Token.fault?, Token.text, Token.values, fault?, valuesOf]
  cases params.get? name with
  | none => rfl
  | some v =>
    cases v with
    | list items =>
      cases items with
      | nil => rfl
      | cons item items =>
        simp only [bind, Text.repeated, List.map_const']
    | _ => rfl

/-! ### Tokens -/

theorem expandPieces_token (t : Token) : expandPieces params t.pieces = t.outcome params := by
  cases t with
  | quoted run => exact expandPieces_chars run
  | doubleColon => exact expandPieces_chars [':', ':']
  | placeholder name => exact (expandPieces_single _).trans (expand_placeholder name)
  | other c => exact expandPieces_chars [c]

theorem expandPieces_tokens (ts : List Token) :
    expandPieces params (ts.flatMap Token.pieces) =
      match ts.findSome? (Token.fault? params) with
      | some e => .error e
      | none => .ok ⟨String.join (ts.map (Token.text params)), ts.flatMap (Token.values params)⟩ := by
  induction ts with
  | nil => rfl
  | cons t rest ih =>
    rw [List.flatMap_cons, expandPieces_append, expandPieces_token, ih, Token.outcome,
      List.findSome?_cons]
    cases t.fault? params with
    | some e => rfl
    | none =>
      cases rest.findSome? (Token.fault? params) with
      | some e => rfl
      | none =>
        rw [List.map_cons, String.join_cons, List.flatMap_cons]
        rfl

theorem expand_of_lexes {s : String} {ts : List Token} (lexed : Lexes s.toList ts) :
    expand s params =
      match ts.findSome? (Token.fault? params) with
      | some e => .error e
      | none => .ok ⟨String.join (ts.map (Token.text params)), ts.flatMap (Token.values params)⟩ := by
  rw [expand, pieces, lexed.pieces_eq, expandPieces_tokens]

theorem fault?_of_token {t : Token} {e : StatementError} (faulty : t.fault? params = some e) :
    ∃ name, t = .placeholder name ∧ fault? params name = some e := by
  cases t with
  | placeholder name => exact ⟨name, rfl, faulty⟩
  | quoted | doubleColon | other => cases faulty

theorem noFault_iff (ts : List Token) :
    ts.findSome? (Token.fault? params) = none ↔
      ∀ name, Token.placeholder name ∈ ts → fault? params name = none := by
  rw [List.findSome?_eq_none_iff]
  constructor
  · exact fun clean name member => clean _ member
  · intro clean t member
    cases t with
    | placeholder name => exact clean name member
    | quoted | doubleColon | other => rfl

theorem firstFault_iff (ts : List Token) (e : StatementError) :
    ts.findSome? (Token.fault? params) = some e ↔
      ∃ before name after, ts = before ++ .placeholder name :: after ∧
        (∀ n, Token.placeholder n ∈ before → fault? params n = none) ∧
          fault? params name = some e := by
  rw [List.findSome?_eq_some_iff]
  constructor
  · rintro ⟨before, t, after, rfl, faulty, clean⟩
    obtain ⟨name, rfl, faulty⟩ := fault?_of_token faulty
    exact ⟨before, name, after, rfl, fun n member => clean _ member, faulty⟩
  · rintro ⟨before, name, after, rfl, clean, faulty⟩
    have noneBefore := (noFault_iff before).mpr clean
    exact ⟨before, .placeholder name, after, rfl, faulty, List.findSome?_eq_none_iff.mp noneBefore⟩

/-- A template has one row of tokens. Expanding it fails exactly if a placeholder stands for no
value, with the fault of the first one; otherwise it keeps all characters but the placeholders, each
of which becomes a question mark for each of its values, and binds these values in order. -/
theorem expand_eq_tokens (s : String) (params : Bindings) :
    ∃ ts, Lexes s.toList ts ∧ (∀ us, Lexes s.toList us → us = ts) ∧
      ts.flatMap Token.spelled = s.toList ∧
        (∀ e, expand s params = .error e ↔
          ∃ before name after, ts = before ++ .placeholder name :: after ∧
            (∀ n, Token.placeholder n ∈ before → fault? params n = none) ∧
              fault? params name = some e) ∧
          ∀ st, expand s params = .ok st ↔
            (∀ name, Token.placeholder name ∈ ts → fault? params name = none) ∧
              st.text = String.join (ts.map (Token.text params)) ∧
                st.params = ts.flatMap (Token.values params) := by
  obtain ⟨ts, lexed⟩ := exists_lexes s.toList
  refine ⟨ts, lexed, fun us other => other.unique lexed, lexed.spelled_eq, ?_, ?_⟩
  · intro e
    rw [← firstFault_iff, expand_of_lexes lexed]
    cases ts.findSome? (Token.fault? params) with
    | some first =>
      constructor
      · intro failed
        rw [Except.error.inj failed]
      · intro found
        rw [Option.some.inj found]
    | none =>
      constructor
      · intro failed
        cases failed
      · intro found
        cases found
  · intro st
    rw [← noFault_iff, expand_of_lexes lexed]
    cases ts.findSome? (Token.fault? params) with
    | some first =>
      constructor
      · intro made
        cases made
      · rintro ⟨clean, -⟩
        cases clean
    | none =>
      constructor
      · intro made
        obtain rfl := Except.ok.inj made
        exact ⟨rfl, rfl, rfl⟩
      · rintro ⟨-, text, values⟩
        rw [← text, ← values]

example :
    expand "a::int = ':a' or b in (:ids) : :é"
        (.ofList [("ids", .list [.char 'x', .char 'y'])]) =
      .ok ⟨"a::int = ':a' or b in (?, ?) : :é", [.char 'x', .char 'y']⟩ := rfl

end SqlRecords.Template
