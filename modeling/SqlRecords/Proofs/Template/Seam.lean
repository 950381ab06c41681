import SqlRecords.Proofs.Statement.Contribution
import SqlRecords.Proofs.Template.Expansion

/-!
# Templates one behind the other

Where one text ends and the next one begins, quotes may still be open, a name may go on, and a colon
may find what it takes. `expand_joined` shows that nothing else makes a difference: where none of
this happens, two texts expand to what each of them expands to, and so do the phrases of a draft.
-/

namespace SqlRecords.Template

variable {params : Bindings}

def Mode.after (mode : Mode) (cs : List Char) : Mode := cs.foldl (fun m c => (step m c).2) mode

/-- A text begins anew behind this mode: no quotes are open, no name goes on, and nothing takes the
colon before it. -/
def Mode.Joins : Mode → List Char → Prop
  | plain, _ => True
  | colon, cs => ¬ TakesColon cs
  | name _, cs => ∀ c ∈ cs.head?, ¬ NameChar c
  | quoted _, _ => False

/-- The pieces that the characters of a text complete. -/
def completed : Mode → List Char → List Piece
  | _, [] => []
  | mode, c :: rest => (step mode c).1 ++ completed (step mode c).2 rest

theorem piecesFrom_behind (mode : Mode) (cs more : List Char) :
    piecesFrom mode (cs ++ more) = completed mode cs ++ piecesFrom (mode.after cs) more := by
  induction cs generalizing mode with
  | nil => rfl
  | cons c rest ih =>
    rw [List.cons_append, piecesFrom, ih, completed, List.append_assoc]
    rfl

theorem piecesFrom_eq_completed (mode : Mode) (cs : List Char) :
    piecesFrom mode cs = completed mode cs ++ finish (mode.after cs) := by
  have whole := piecesFrom_behind mode cs []
  rw [List.append_nil] at whole
  exact whole

/-- The end of what came before completes the same pieces as the first character of the text. -/
theorem piecesFrom_of_joins {mode : Mode} {cs : List Char} (joins : mode.Joins cs) :
    piecesFrom mode cs = finish mode ++ piecesFrom .plain cs := by
  cases mode with
  | plain => rfl
  | colon => exact piecesFrom_colon joins
  | quoted close => exact joins.elim
  | name s =>
    cases cs with
    | nil => rfl
    | cons c rest =>
      have ends : ¬ continuesName c = true := fun goesOn =>
        joins c rfl ((continuesName_iff c).mp goesOn)
      rw [piecesFrom, step, if_neg ends, piecesFrom_plain]
      rfl

theorem pieces_of_joins {s t : String} (joins : (Mode.plain.after s.toList).Joins t.toList) :
    pieces (s ++ t) = pieces s ++ pieces t := by
  have first := piecesFrom_eq_completed .plain s.toList
  rw [pieces, pieces, pieces, String.toList_append, piecesFrom_behind, piecesFrom_of_joins joins,
    first, List.append_assoc]

theorem expand_of_joins {s t : String} (joins : (Mode.plain.after s.toList).Joins t.toList) :
    expand (s ++ t) params = both (expand s params) (expand t params) := by
  rw [expand, pieces_of_joins joins, expandPieces_append]
  rfl

/-! ### Outcomes -/

theorem both_ok_iff (left right : Except StatementError Statement) (st : Statement) :
    both left right = .ok st ↔
      ∃ l r, left = .ok l ∧ right = .ok r ∧ st = ⟨l.text ++ r.text, l.params ++ r.params⟩ := by
  constructor
  · intro made
    cases left with
    | error e => cases made
    | ok l =>
      cases right with
      | error e => cases made
      | ok r => exact ⟨l, r, rfl, rfl, (Except.ok.inj made).symm⟩
  · rintro ⟨l, r, rfl, rfl, rfl⟩
    rfl

theorem both_error_iff (left right : Except StatementError Statement) (e : StatementError) :
    both left right = .error e ↔
      left = .error e ∨ (∃ l, left = .ok l) ∧ right = .error e := by
  cases left with
  | error f =>
    constructor
    · exact .inl
    · rintro (same | ⟨⟨l, made⟩, -⟩)
      · exact same
      · cases made
  | ok l =>
    cases right with
    | error f =>
      constructor
      · exact fun same => .inr ⟨⟨l, rfl⟩, same⟩
      · rintro (made | ⟨-, same⟩)
        · cases made
        · exact same
    | ok r =>
      refine iff_of_false nofun ?_
      rintro (made | ⟨-, made⟩)
      · cases made
      · cases made

/-! ### Phrases -/

def expandEach (params : Bindings) : List String → Except StatementError Statement
  | [] => .ok ⟨"", []⟩
  | s :: rest => both (expand s params) (expandEach params rest)

/-- Each text begins anew behind the one before it. -/
def Seams : List String → Prop
  | [] => True
  | s :: rest => (Mode.plain.after s.toList).Joins (String.join rest).toList ∧ Seams rest

theorem expand_join {texts : List String} (seams : Seams texts) :
    expand (String.join texts) params = expandEach params texts := by
  induction texts with
  | nil => rfl
  | cons s rest ih => rw [String.join_cons, expand_of_joins seams.1, ih seams.2, expandEach]

/-- The texts of a draft: what it had before, and what each step adds. -/
def phrases (d : Draft) (steps : List Draft.Step) : List String :=
  d.text :: steps.map fun s => (s.contribution d.spaced).text

/-- A text that begins anew behind another one is expanded as if it stood alone: together they
succeed if both do, with the texts and the values one behind the other, and otherwise with the error
of the first that fails. So a draft expands to what its phrases expand to one by one. -/
theorem expand_joined (params : Bindings) :
    (∀ s t : String, (Mode.plain.after s.toList).Joins t.toList →
      (∀ st, expand (s ++ t) params = .ok st ↔
        ∃ l r, expand s params = .ok l ∧ expand t params = .ok r ∧
          st = ⟨l.text ++ r.text, l.params ++ r.params⟩) ∧
      ∀ e, expand (s ++ t) params = .error e ↔
        expand s params = .error e ∨
          (∃ l, expand s params = .ok l) ∧ expand t params = .error e) ∧
    ∀ (d : Draft) (steps : List Draft.Step), Seams (phrases d steps) →
      expand (d.run steps).text params = expandEach params (phrases d steps) := by
  constructor
  · intro s t joins
    rw [expand_of_joins joins]
    exact ⟨both_ok_iff _ _, both_error_iff _ _⟩
  · intro d steps seams
    rw [Draft.run_eq, ← expand_join seams, phrases, String.join_cons]
    rfl

/-- A placeholder at the end of a phrase, one that is held back, and a name in quotes. -/
theorem expand_joined_phrases :
    let params := Bindings.ofList [("a", .bool true), ("b", .list [.null, .null])]
    let steps : List Draft.Step :=
      [.plain true "a = :a", .plain false "'", .plain true " and ':a' in (:b)"]
    Seams (phrases {} steps) ∧
    expandEach params (phrases {} steps) =
      .ok ⟨"a = ? and ':a' in (?, ?)", [.bool true, .null, .null]⟩ ∧
    expand (Draft.run {} steps).text params =
      .ok ⟨"a = ? and ':a' in (?, ?)", [.bool true, .null, .null]⟩ := by
  intro params steps
  have blank : (Mode.plain.after "a = :a".toList).Joins " and ':a' in (:b)".toList := by
    intro c first
    obtain rfl : ' ' = c := Option.some.inj first
    decide
  have seams : Seams (phrases {} steps) := ⟨trivial, blank, trivial, trivial, trivial⟩
  have each : expandEach params (phrases {} steps) =
      .ok ⟨"a = ? and ':a' in (?, ?)", [.bool true, .null, .null]⟩ := rfl
  exact ⟨seams, each, ((expand_joined params).2 _ steps seams).trans each⟩

end SqlRecords.Template
