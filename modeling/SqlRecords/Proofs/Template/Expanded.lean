import Mathlib.Data.List.Basic
import SqlRecords.Proofs.Template.Ending

/-!
# Expanded text as a template

What a template expands to names no parameters any more: question marks stand where the placeholders
stood, and nothing beside them runs together with them into a new placeholder. `expand_expanded`
shows that expanding such a text once more changes nothing and binds nothing.
-/

namespace SqlRecords.Template

variable {params : Bindings}

/-- A statement keeps all of a row of tokens but its placeholders, each of which is bound to what it
stands for. -/
structure Renders (params : Bindings) (ts : List Token) (st : Statement) : Prop where
  bound : ∀ name, Token.placeholder name ∈ ts → fault? params name = none
  text : st.text = String.join (ts.map (Token.text params))
  params : st.params = ts.flatMap (Token.values params)

theorem expandPieces_ok_iff (ts : List Token) (st : Statement) :
    expandPieces params (ts.flatMap Token.pieces) = .ok st ↔ Renders params ts st := by
  rw [expandPieces_tokens]
  cases faults : ts.findSome? (Token.fault? params) with
  | some e =>
    refine iff_of_false nofun fun rendered => ?_
    rw [(noFault_iff ts).mpr rendered.bound] at faults
    cases faults
  | none =>
    constructor
    · intro made
      obtain rfl := Except.ok.inj made
      exact ⟨(noFault_iff ts).mp faults, rfl, rfl⟩
    · rintro ⟨-, text, values⟩
      rw [← text, ← values]

/-- The characters that are written for a token. -/
def Token.written (params : Bindings) : Token → List Char
  | placeholder name => ((placeholder name).text params).toList
  | t => t.spelled

/-- The tokens of these characters. -/
def Token.settled (params : Bindings) : Token → List Token
  | placeholder name => ((placeholder name).written params).map .other
  | t => [t]

theorem Token.toList_text (t : Token) : (t.text params).toList = t.written params := by
  cases t with
  | placeholder name => rfl
  | quoted run => exact String.toList_ofList
  | doubleColon => exact String.toList_ofList
  | other c => exact String.toList_singleton c

theorem toList_join_text (ts : List Token) :
    (String.join (ts.map (Token.text params))).toList = ts.flatMap (Token.written params) := by
  induction ts with
  | nil => rfl
  | cons t rest ih =>
    rw [List.map_cons, String.join_cons, String.toList_append, ih, t.toList_text, List.flatMap_cons]

theorem inert_marks (vs : List Value) :
    ∀ c ∈ (", ".intercalate (vs.map fun _ => "?")).toList, Inert c := by
  induction vs with
  | nil => nofun
  | cons v rest ih =>
    cases rest with
    | nil =>
      change ∀ c ∈ "?".toList, Inert c
      exact inert_of_all (by decide)
    | cons w rest =>
      rw [List.map_cons, List.map_cons, String.intercalate_cons_cons, String.toList_append]
      exact List.forall_mem_append.mpr ⟨inert_of_all (by decide), ih⟩

/-! ### The text between the placeholders -/

theorem Lexes.of_inert {cs rest : List Char} {ts : List Token} (inert : ∀ c ∈ cs, Inert c)
    (later : Lexes rest ts) : Lexes (cs ++ rest) (cs.map .other ++ ts) := by
  induction cs with
  | nil => exact later
  | cons c cs ih =>
    obtain ⟨here, behind⟩ := List.forall_mem_cons.mp inert
    have plain : ¬ Quote c := fun quote => Bool.eq_false_iff.mp here.1 ((isQuote_iff c).mpr quote)
    exact .other plain (fun colon => absurd colon here.2) (ih behind)

theorem runBehind_cons_self (q : Char) (cs : List Char) : runBehind q (q :: cs) = [q] := by
  simp [runBehind]

theorem behindRun_cons_self (q : Char) (cs : List Char) : behindRun q (q :: cs) = cs := by
  simp [behindRun]

theorem runBehind_cons_of_ne {q c : Char} (other : c ≠ q) (cs : List Char) :
    runBehind q (c :: cs) = c :: runBehind q cs := by
  simp [runBehind, other]

theorem behindRun_cons_of_ne {q c : Char} (other : c ≠ q) (cs : List Char) :
    behindRun q (c :: cs) = behindRun q cs := by
  simp [behindRun, other]

/-- A run that was closed is still closed at the same place, whatever follows now; one that was not
has nothing behind it. -/
theorem behindRun_run {q : Char} {cs rest : List Char} (last : behindRun q cs = [] → rest = []) :
    runBehind q (runBehind q cs ++ rest) = runBehind q cs ∧
      behindRun q (runBehind q cs ++ rest) = rest := by
  induction cs with
  | nil =>
    rw [last rfl]
    exact ⟨rfl, rfl⟩
  | cons c cs ih =>
    by_cases closes : c = q
    · rw [closes, runBehind_cons_self]
      exact ⟨runBehind_cons_self q rest, behindRun_cons_self q rest⟩
    · rw [behindRun_cons_of_ne closes] at last
      rw [runBehind_cons_of_ne closes, List.cons_append, runBehind_cons_of_ne closes,
        behindRun_cons_of_ne closes, (ih last).1]
      exact ⟨rfl, (ih last).2⟩

/-- Nothing that is written takes a colon which the template leaves bare. -/
theorem Lexes.takesColon_of_written {cs : List Char} {ts : List Token} (lexed : Lexes cs ts)
    (takes : TakesColon (ts.flatMap (Token.written params))) : TakesColon cs := by
  cases lexed with
  | placeholder => exact .inl rfl
  | done | quoted | doubleColon | other => exact takes

theorem Lexes.written {cs : List Char} {ts : List Token} (lexed : Lexes cs ts) :
    Lexes (ts.flatMap (Token.written params)) (ts.flatMap (Token.settled params)) := by
  induction lexed with
  | done => exact .done
  | @quoted q cs ts quote later ih =>
    -- A run without its closing quote is the last token, so that nothing is written behind it.
    have last : behindRun q cs = [] → ts.flatMap (Token.written params) = [] := by
      intro nothing
      rw [nothing] at later
      cases later
      rfl
    obtain ⟨run, behind⟩ := behindRun_run last
    have again := Lexes.quoted quote (behind.symm ▸ ih)
    rw [run] at again
    exact again
  | doubleColon _ ih => exact .doubleColon ih
  | @placeholder c cs ts _ _ ih => exact ih.of_inert (inert_marks _)
  | other plain bare later ih =>
    exact .other plain (fun colon takes => bare colon (later.takesColon_of_written takes)) ih

theorem settled_ne_placeholder {t u : Token} (member : u ∈ t.settled params) (name : String) :
    u ≠ .placeholder name := by
  cases t with
  | placeholder n =>
    obtain ⟨c, -, rfl⟩ := List.mem_map.mp member
    exact nofun
  | quoted | doubleColon | other =>
    rw [List.mem_singleton.mp member]
    exact nofun

/-! ### Rows without placeholders -/

theorem Token.pieces_eq_spelled {t : Token} (plain : ∀ name, t ≠ .placeholder name) :
    t.pieces = t.spelled.map .char := by
  cases t with
  | placeholder name => exact absurd rfl (plain name)
  | quoted | doubleColon | other => rfl

theorem Lexes.pieces_of_plain {cs : List Char} {ts : List Token} (lexed : Lexes cs ts)
    (plain : ∀ t ∈ ts, ∀ name, t ≠ .placeholder name) : piecesFrom .plain cs = cs.map .char := by
  rw [lexed.pieces_eq, ← lexed.spelled_eq, List.map_flatMap]
  exact List.flatMap_congr fun t member => Token.pieces_eq_spelled (plain t member)

theorem pieces_of_expanded {s : String} {st : Statement} (made : expand s params = .ok st) :
    pieces st.text = st.text.toList.map .char := by
  obtain ⟨ts, lexed⟩ := exists_lexes s.toList
  rw [expand, pieces, lexed.pieces_eq, expandPieces_ok_iff] at made
  have text : st.text.toList = ts.flatMap (Token.written params) := by
    rw [made.text, toList_join_text]
  rw [pieces, text]
  refine lexed.written.pieces_of_plain fun u member => ?_
  obtain ⟨t, -, settled⟩ := List.mem_flatMap.mp member
  exact settled_ne_placeholder settled

/-- Expanding what a template expands to, under whatever names, gives the same text and binds
nothing: it has no placeholder left. -/
theorem expand_expanded {s : String} {st : Statement} (made : expand s params = .ok st)
    (others : Bindings) :
    expand st.text others = .ok ⟨st.text, []⟩ ∧
      ∀ name, Piece.placeholder name ∉ pieces st.text := by
  have chars := pieces_of_expanded made
  constructor
  · rw [expand, chars, expandPieces_chars, String.ofList_toList]
  · intro name member
    rw [chars] at member
    obtain ⟨c, -, same⟩ := List.mem_map.mp member
    cases same

/-- Colons, quotes and placeholders side by side leave nothing to expand. -/
theorem expand_expanded_crowded :
    expand ":::ids:x : ':x' \x60:x" (.ofList [("ids", .list [.null, .null]), ("x", .bool true)]) =
      .ok ⟨"::?, ?? : ':x' \x60:x", [.null, .null, .bool true]⟩ ∧
    expand "::?, ?? : ':x' \x60:x" .empty = .ok ⟨"::?, ?? : ':x' \x60:x", []⟩ ∧
    ∀ name, Piece.placeholder name ∉ pieces "::?, ?? : ':x' \x60:x" := by
  have made : expand ":::ids:x : ':x' \x60:x"
      (.ofList [("ids", .list [.null, .null]), ("x", .bool true)]) =
        .ok ⟨"::?, ?? : ':x' \x60:x", [.null, .null, .bool true]⟩ := rfl
  exact ⟨made, expand_expanded made .empty⟩

end SqlRecords.Template
