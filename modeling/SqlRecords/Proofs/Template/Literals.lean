import SqlRecords.Proofs.Statement.Contribution
import SqlRecords.Proofs.Template.Expanded

/-!
# Literals of the dialect

In the dialect that templates are written for, a backslash in a string takes the next character with
it, and a doubled quote stands for itself. `Dialect.tokens` reads a template by these rules, and the
scanner knows of neither. `respects_iff` shows for which templates the two agree: for those in which
the scanner finds just the placeholders that stand outside of literals, and so at least for those
without a string in which its own quote is escaped.
-/

namespace SqlRecords.Template

namespace Dialect

/-- Two characters behind the opening quote `q` that belong together: a backslash and what it
escapes, except between backticks, or a doubled quote. -/
def Paired (q c d : Char) : Prop := (c = '\\' ∧ q ≠ '\x60') ∨ (c = q ∧ d = q)

instance (q c d : Char) : Decidable (Paired q c d) :=
  inferInstanceAs (Decidable ((c = '\\' ∧ q ≠ '\x60') ∨ (c = q ∧ d = q)))

/-- The pairs and single characters of a literal behind its opening quote, with the closing one, and
what follows the literal. -/
def units (q : Char) : List Char → List (List Char) × List Char
  | [] => ([], [])
  | [c] => ([[c]], [])
  | c :: d :: rest =>
    if Paired q c d then ([c, d] :: (units q rest).1, (units q rest).2)
    else if c = q then ([[c]], d :: rest)
    else ([c] :: (units q (d :: rest)).1, (units q (d :: rest)).2)

theorem units_flatten (q : Char) (cs : List Char) :
    (units q cs).1.flatten ++ (units q cs).2 = cs := by
  fun_induction units q cs with
  | case1 | case2 | case4 => rfl
  | case3 c d rest paired ih => exact congrArg (c :: d :: ·) ih
  | case5 c d rest single goesOn ih => exact congrArg (c :: ·) ih

theorem length_units_le (q : Char) (cs : List Char) : (units q cs).2.length ≤ cs.length := by
  have whole := congrArg List.length (units_flatten q cs)
  rw [List.length_append] at whole
  omega

/-- The tokens of a template as the dialect reads it: strings and names in backticks are kept whole,
and a name behind a colon stands for its values everywhere else. -/
def tokens : List Char → List Token
  | [] => []
  | c :: cs =>
    if Quote c then .quoted (c :: (units c cs).1.flatten) :: tokens (units c cs).2
    else if c = ':' then
      match cs with
      | [] => [.other ':']
      | d :: more =>
        if d = ':' then .doubleColon :: tokens more
        else if NameStart d then
          .placeholder (String.ofList (d :: more.takeWhile (NameChar ·))) ::
            tokens (more.dropWhile (NameChar ·))
        else .other ':' :: tokens (d :: more)
    else .other c :: tokens cs
termination_by cs => cs.length
decreasing_by
  · exact Nat.lt_succ_of_le (length_units_le c cs)
  · exact Nat.lt_succ_of_lt (Nat.lt_succ_self _)
  · exact Nat.lt_succ_of_lt (Nat.lt_succ_of_le (List.dropWhile_suffix (NameChar ·)).length_le)
  · exact Nat.lt_succ_self _
  · exact Nat.lt_succ_self _

end Dialect

/-- A string in which a backslash escapes the quote that the string is written in. -/
def Token.EscapesQuote : Token → Prop
  | quoted (q :: body) => ['\\', q] ∈ (Dialect.units q body).1
  | _ => False

/-- Whatever a template expands to renders what the dialect reads in it: literals are kept, and all
placeholders outside of them are bound. -/
def Respects (s : String) : Prop :=
  ∀ params st, expand s params = .ok st → Renders params (Dialect.tokens s.toList) st

/-! ### Literals that escape no quote of their own -/

theorem piecesFrom_opening {q : Char} (quote : Quote q) (cs : List Char) :
    piecesFrom .plain (q :: cs) = .char q :: piecesFrom (.quoted q) cs := by
  rw [piecesFrom_plain, plainStep, if_pos ((isQuote_iff q).mpr quote)]
  rfl

theorem piecesFrom_closing (q : Char) (cs : List Char) :
    piecesFrom (.quoted q) (q :: cs) = .char q :: piecesFrom .plain cs := by
  rw [piecesFrom, step, if_pos rfl]
  rfl

theorem piecesFrom_inside {q c : Char} (other : c ≠ q) (cs : List Char) :
    piecesFrom (.quoted q) (c :: cs) = .char c :: piecesFrom (.quoted q) cs := by
  rw [piecesFrom, step, if_neg other]
  rfl

namespace Dialect

variable {q c d : Char} {rest : List Char}

theorem units_of_paired (paired : Paired q c d) :
    units q (c :: d :: rest) = ([c, d] :: (units q rest).1, (units q rest).2) := by
  rw [units, if_pos paired]

theorem units_of_inside (single : ¬ Paired q c d) (other : c ≠ q) :
    units q (c :: d :: rest) =
      ([c] :: (units q (d :: rest)).1, (units q (d :: rest)).2) := by
  rw [units, if_neg single, if_neg other]

theorem units_head (q c : Char) (rest : List Char) :
    ∃ more, (units q (c :: rest)).1.flatten = c :: more := by
  cases rest with
  | nil => exact ⟨[], rfl⟩
  | cons d rest =>
    rw [units]
    split
    · exact ⟨_, rfl⟩
    · split <;> exact ⟨_, rfl⟩

/-- A literal that is cut out of its template consists of the same units. -/
theorem units_run (q : Char) (cs : List Char) :
    units q (units q cs).1.flatten = ((units q cs).1, []) := by
  fun_induction units q cs with
  | case1 => rfl
  | case2 c => rfl
  | case3 c d rest paired ih =>
    change units q (c :: d :: (units q rest).1.flatten) = _
    rw [units_of_paired paired, ih]
  | case4 d rest single => rfl
  | case5 c d rest single other ih =>
    obtain ⟨more, first⟩ := units_head q d rest
    rw [first] at ih
    change units q (c :: (units q (d :: rest)).1.flatten) = _
    rw [first, units_of_inside single other, ih]

/-- Without an escaped quote of its own, a literal ends where the scanner lets it end. -/
theorem piecesFrom_units {cs : List Char} (quote : Quote q) (plain : ['\\', q] ∉ (units q cs).1) :
    piecesFrom (.quoted q) cs =
      (units q cs).1.flatten.map .char ++ piecesFrom .plain (units q cs).2 := by
  have solid : '\\' ≠ q := by
    rintro rfl
    exact absurd quote (by decide)
  fun_induction units q cs with
  | case1 => rfl
  | case2 c =>
    by_cases closes : c = q
    · rw [closes, piecesFrom_closing]
      rfl
    · rw [piecesFrom_inside closes]
      rfl
  | case3 c d rest paired ih =>
    obtain ⟨here, later⟩ := not_or.mp (mt List.mem_cons.mpr plain)
    -- The scanner passes over a backslash and what it escapes, unless this closes the run.
    obtain ⟨rfl, -⟩ | ⟨rfl, rfl⟩ := paired
    · have goesOn : d ≠ q := fun same => here (same ▸ rfl)
      rw [piecesFrom_inside solid, piecesFrom_inside goesOn, ih later]
      rfl
    -- A doubled quote closes the run and opens the next one.
    · rw [piecesFrom_closing, piecesFrom_opening quote, ih later]
      rfl
  | case4 d rest single => exact piecesFrom_closing q _
  | case5 c d rest single other ih =>
    obtain ⟨-, later⟩ := not_or.mp (mt List.mem_cons.mpr plain)
    rw [piecesFrom_inside other, ih later]
    rfl

end Dialect

theorem piecesFrom_cut {t : Token} {cs rest : List Char}
    (cut : ∀ ts, Lexes rest ts → Lexes cs (t :: ts)) :
    piecesFrom .plain cs = t.pieces ++ piecesFrom .plain rest := by
  obtain ⟨ts, later⟩ := exists_lexes rest
  rw [(cut ts later).pieces_eq, later.pieces_eq, List.flatMap_cons]

namespace Dialect

/-- The scanner finds the placeholders that the dialect reads if no literal escapes its quote. -/
theorem piecesFrom_tokens {cs : List Char} (plain : ∀ t ∈ tokens cs, ¬ t.EscapesQuote) :
    piecesFrom .plain cs = (tokens cs).flatMap Token.pieces := by
  fun_induction tokens cs with
  | case1 => rfl
  | case2 q cs quote ih =>
    obtain ⟨here, later⟩ := List.forall_mem_cons.mp plain
    have whole : ['\\', q] ∉ (units q cs).1 := by
      rwa [Token.EscapesQuote, units_run] at here
    rw [piecesFrom_opening quote, piecesFrom_units quote whole, ih later]
    rfl
  | case3 noQuote =>
    rfl
  | case4 more noQuote ih =>
    obtain ⟨-, later⟩ := List.forall_mem_cons.mp plain
    rw [piecesFrom_cut fun _ => .doubleColon, ih later, List.flatMap_cons]
  | case5 d more single start noQuote ih =>
    obtain ⟨-, later⟩ := List.forall_mem_cons.mp plain
    rw [piecesFrom_cut fun _ => .placeholder start, ih later, List.flatMap_cons]
  | case6 d more single noName noQuote ih =>
    obtain ⟨-, later⟩ := List.forall_mem_cons.mp plain
    have bare : ¬ TakesColon (d :: more) := not_or.mpr ⟨single, noName⟩
    rw [piecesFrom_cut fun _ => .other noQuote fun _ => bare, ih later, List.flatMap_cons]
  | case7 c cs noQuote noColon ih =>
    obtain ⟨-, later⟩ := List.forall_mem_cons.mp plain
    rw [piecesFrom_cut fun _ => .other noQuote fun colon => absurd colon noColon, ih later,
      List.flatMap_cons]

end Dialect

/-! ### Where the scanner and the dialect part -/

/-- A text is cut into characters and placeholders, each of which has all of its name. -/
inductive Cut : List Char → List Piece → Prop where
  | done : Cut [] []
  | char (c : Char) {cs : List Char} {ps : List Piece} (later : Cut cs ps) :
      Cut (c :: cs) (.char c :: ps)
  | placeholder {c : Char} {cs : List Char} {ps : List Piece}
      (later : Cut (cs.dropWhile (NameChar ·)) ps) :
      Cut (':' :: c :: cs) (.placeholder (String.ofList (c :: cs.takeWhile (NameChar ·))) :: ps)

/-- The character that a piece begins with where every name stands for one value. -/
def Piece.mark : Piece → Char
  | char c => c
  | placeholder _ => '?'

theorem map_mark_chars (cs : List Char) : (cs.map Piece.char).map Piece.mark = cs := by
  rw [List.map_map]
  exact List.map_id cs

theorem colon_ne_mark : ':' ≠ '?' := by decide

theorem Cut.eq_of_marks {cs : List Char} {ps qs : List Piece} (left : Cut cs ps) (right : Cut cs qs)
    (same : ps.map Piece.mark = qs.map Piece.mark) : ps = qs := by
  induction left generalizing qs with
  | done =>
    cases right
    rfl
  | char c later ih =>
    cases right with
    | char _ other => rw [ih other (List.cons.inj same).2]
    | placeholder other => exact absurd (List.cons.inj same).1 colon_ne_mark
  | placeholder later ih =>
    cases right with
    | char _ other => exact absurd (List.cons.inj same).1 colon_ne_mark.symm
    | placeholder other => rw [ih other (List.cons.inj same).2]

theorem Cut.of_chars {rest : List Char} {ps : List Piece} (later : Cut rest ps) (cs : List Char) :
    Cut (cs ++ rest) (cs.map .char ++ ps) := by
  induction cs with
  | nil => exact later
  | cons c cs ih => exact .char c ih

theorem runBehind_append_behindRun (q : Char) (cs : List Char) :
    runBehind q cs ++ behindRun q cs = cs := by
  rw [runBehind, behindRun, List.append_assoc, List.take_append_drop,
    List.takeWhile_append_dropWhile]

theorem Lexes.cut {cs : List Char} {ts : List Token} (lexed : Lexes cs ts) :
    Cut cs (ts.flatMap Token.pieces) := by
  induction lexed with
  | done => exact .done
  | @quoted q cs ts _ _ ih =>
    have whole := ih.of_chars (q :: runBehind q cs)
    rwa [List.cons_append, runBehind_append_behindRun] at whole
  | doubleColon _ ih => exact .char _ (.char _ ih)
  | placeholder _ _ ih => exact .placeholder ih
  | other _ _ _ ih => exact .char _ ih

theorem Dialect.cut (cs : List Char) : Cut cs ((Dialect.tokens cs).flatMap Token.pieces) := by
  fun_induction Dialect.tokens cs with
  | case1 => exact .done
  | case2 q cs quote ih =>
    have whole := ih.of_chars (q :: (Dialect.units q cs).1.flatten)
    rwa [List.cons_append, Dialect.units_flatten] at whole
  | case3 => exact .char _ .done
  | case4 more _ ih => exact .char _ (.char _ ih)
  | case5 d more _ _ _ ih => exact .placeholder ih
  | case6 d more _ _ _ ih => exact .char _ ih
  | case7 c cs _ _ ih => exact .char _ ih

/-! ### Names that all stand for one value -/

def Token.names : Token → List String
  | placeholder name => [name]
  | _ => []

def nulls (names : List String) : Bindings := .ofList (names.map fun name => (name, .null))

theorem get?_nulls {names : List String} {name : String} (listed : name ∈ names) :
    (nulls names).get? name = some .null := by
  rw [nulls, Bindings.get?_ofList, Bindings.lastBound]
  cases found : (names.map fun n => (n, Value.null)).reverse.find? fun pair => pair.1 = name with
  | none =>
    have other := List.find?_eq_none.mp found (name, .null)
      (List.mem_reverse.mpr (List.mem_map.mpr ⟨name, listed, rfl⟩))
    simp at other
  | some pair =>
    obtain ⟨n, -, rfl⟩ := List.mem_map.mp (List.mem_reverse.mp (List.mem_of_find?_eq_some found))
    rfl

theorem valuesOf_nulls {names : List String} {name : String} (listed : name ∈ names) :
    valuesOf (nulls names) name = [.null] := by
  rw [valuesOf, get?_nulls listed]

theorem fault?_nulls {names : List String} {name : String} (listed : name ∈ names) :
    fault? (nulls names) name = none := by
  rw [fault?, get?_nulls listed]

theorem written_nulls {names : List String} {ts : List Token}
    (listed : ∀ t ∈ ts, ∀ n ∈ t.names, n ∈ names) :
    ts.flatMap (Token.written (nulls names)) = (ts.flatMap Token.pieces).map Piece.mark := by
  rw [List.map_flatMap]
  refine List.flatMap_congr fun t member => ?_
  cases t with
  | placeholder name =>
    rw [Token.written, Token.text, valuesOf_nulls (listed _ member name List.mem_cons_self)]
    rfl
  | quoted run => exact (map_mark_chars run).symm
  | doubleColon | other => rfl

/-! ### The templates that are read alike -/

theorem respects_of_alike {s : String}
    (alike : pieces s = (Dialect.tokens s.toList).flatMap Token.pieces) : Respects s := by
  intro params st made
  rw [expand, alike] at made
  exact (expandPieces_ok_iff _ st).mp made

theorem alike_of_respects {s : String} (respects : Respects s) :
    pieces s = (Dialect.tokens s.toList).flatMap Token.pieces := by
  obtain ⟨ts, lexed⟩ := exists_lexes s.toList
  -- Where all names stand for one value, the text shows which of the pieces are placeholders.
  let names := (ts ++ Dialect.tokens s.toList).flatMap Token.names
  have listed : ∀ t ∈ ts ++ Dialect.tokens s.toList, ∀ n ∈ t.names, n ∈ names :=
    fun t member n named => List.mem_flatMap.mpr ⟨t, member, named⟩
  obtain ⟨scanned, read⟩ := List.forall_mem_append.mp listed
  have bound : ∀ name, Token.placeholder name ∈ ts → fault? (nulls names) name = none :=
    fun name member => fault?_nulls (scanned _ member name List.mem_cons_self)
  have made : expand s (nulls names) =
      .ok ⟨String.join (ts.map (Token.text (nulls names))),
        ts.flatMap (Token.values (nulls names))⟩ := by
    rw [expand, pieces, lexed.pieces_eq, expandPieces_ok_iff]
    exact ⟨bound, rfl, rfl⟩
  have same := congrArg String.toList (respects _ _ made).text
  rw [toList_join_text, toList_join_text, written_nulls scanned, written_nulls read] at same
  rw [pieces, lexed.pieces_eq]
  exact lexed.cut.eq_of_marks (Dialect.cut _) same

/-- Whatever a template expands to keeps its literals and binds all placeholders outside of them
exactly if the scanner finds the placeholders that the dialect reads. It does if no string of the
template escapes its own quote. -/
theorem respects_iff (s : String) :
    (Respects s ↔ pieces s = (Dialect.tokens s.toList).flatMap Token.pieces) ∧
    ((∀ t ∈ Dialect.tokens s.toList, ¬ t.EscapesQuote) → Respects s) :=
  ⟨⟨alike_of_respects, respects_of_alike⟩,
    fun plain => respects_of_alike (Dialect.piecesFrom_tokens plain)⟩

/-- An escaped quote ends the string for the scanner: a name in the string is bound, and one behind
it is taken for quoted text. -/
theorem escapedQuote_ends :
    expand "'\\':a':b" (.ofList [("a", .bool true), ("b", .null)]) =
      .ok ⟨"'\\'?':b", [.bool true]⟩ ∧
    Dialect.tokens "'\\':a':b".toList = [.quoted "'\\':a'".toList, .placeholder "b"] ∧
    ¬ Respects "'\\':a':b" := by
  have made : expand "'\\':a':b" (.ofList [("a", .bool true), ("b", .null)]) =
      .ok ⟨"'\\'?':b", [.bool true]⟩ := rfl
  have read : Dialect.tokens "'\\':a':b".toList = [.quoted "'\\':a'".toList, .placeholder "b"] := by
    have run : Dialect.units '\'' ['\\', '\'', ':', 'a', '\'', ':', 'b'] =
        ([['\\', '\''], [':'], ['a'], ['\'']], [':', 'b']) := rfl
    change Dialect.tokens ['\'', '\\', '\'', ':', 'a', '\'', ':', 'b'] = _
    rw [Dialect.tokens, if_pos (by decide), run, Dialect.tokens, if_neg (by decide), if_pos rfl,
      if_neg (by decide), if_pos (by decide)]
    change _ :: _ :: Dialect.tokens [] = _
    rw [Dialect.tokens]
    rfl
  refine ⟨made, read, fun respects => ?_⟩
  have kept := (respects _ _ made).text
  rw [read] at kept
  exact absurd kept (by decide)

end SqlRecords.Template
