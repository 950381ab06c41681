import SqlRecords.Paging.Page
import SqlRecords.Proofs.Number.Decimal
import SqlRecords.Proofs.Template.Expansion

/-!
# Text behind a template

A template may end anywhere: inside quotes, inside a name or behind a colon. `expand_append` shows
that text of a certain form comes out as it is behind each of them, so that it makes no difference
whether it is added before or after the template is expanded. Limit clauses are of this form.
-/

namespace SqlRecords.Template

/-- A character that neither opens nor closes quotes and is no colon. -/
def Inert (c : Char) : Prop := isQuote c = false ∧ c ≠ ':'

instance : DecidablePred Inert := fun c =>
  inferInstanceAs (Decidable (isQuote c = false ∧ c ≠ ':'))

/-- The text is inert, and it does not go on with a name. -/
structure Ending (cs : List Char) : Prop where
  inert : ∀ c ∈ cs, Inert c
  ends : ∀ c ∈ cs.head?, continuesName c = false

/-- Only a quote closes quotes. -/
def Mode.Sound : Mode → Prop
  | quoted close => isQuote close = true
  | _ => True

theorem plainStep_sound (c : Char) : (plainStep c).2.Sound := by
  rw [plainStep]
  by_cases quote : isQuote c = true
  · rw [if_pos quote]
    exact quote
  · rw [if_neg quote]
    split <;> trivial

theorem step_sound {mode : Mode} (sound : mode.Sound) (c : Char) : (step mode c).2.Sound := by
  cases mode with
  | plain => exact plainStep_sound c
  | colon =>
    rw [step]
    split
    · trivial
    · split
      · trivial
      · exact plainStep_sound c
  | name s =>
    rw [step]
    split
    · trivial
    · exact plainStep_sound c
  | quoted close =>
    rw [step]
    split
    · trivial
    · exact sound

/-! ### One character -/

theorem plainStep_of_inert {c : Char} (inert : Inert c) : plainStep c = ([.char c], .plain) := by
  rw [plainStep, if_neg (Bool.eq_false_iff.mp inert.1), if_neg inert.2]

theorem continuesName_of_startsName {c : Char} (starts : startsName c = true) :
    continuesName c = true :=
  (continuesName_iff c).mpr (.inl ((startsName_iff c).mp starts))

/-- The mode behind a character that no name goes on with: quotes are still open, and all else is
over. -/
def Mode.settled : Mode → Mode
  | quoted close => quoted close
  | _ => plain

theorem step_settled {mode : Mode} {c : Char} (sound : mode.Sound) (inert : Inert c) :
    step mode.settled c = ([.char c], mode.settled) := by
  cases mode with
  | quoted close =>
    have goesOn : c ≠ close := by
      rintro rfl
      exact Bool.eq_false_iff.mp inert.1 sound
    rw [Mode.settled, step, if_neg goesOn]
  | plain | colon | name => exact plainStep_of_inert inert

/-- The character completes what the scanner is in, as the end of the text does. -/
theorem step_of_ends {mode : Mode} {c : Char} (sound : mode.Sound) (inert : Inert c)
    (ends : continuesName c = false) :
    step mode c = (finish mode ++ [.char c], mode.settled) := by
  have noStart : ¬ startsName c = true := fun starts =>
    Bool.eq_false_iff.mp ends (continuesName_of_startsName starts)
  cases mode with
  | plain => exact step_settled sound inert
  | colon =>
    rw [step, if_neg inert.2, if_neg noStart, plainStep_of_inert inert]
    rfl
  | name s =>
    rw [step, if_neg (Bool.eq_false_iff.mp ends), plainStep_of_inert inert]
    rfl
  | quoted close => exact step_settled sound inert

/-! ### The whole text -/

theorem piecesFrom_settled {mode : Mode} {cs : List Char} (sound : mode.Sound)
    (inert : ∀ c ∈ cs, Inert c) : piecesFrom mode.settled cs = cs.map .char := by
  induction cs with
  | nil => cases mode <;> rfl
  | cons c rest ih =>
    obtain ⟨here, later⟩ := List.forall_mem_cons.mp inert
    rw [piecesFrom, step_settled sound here, ih later]
    rfl

theorem piecesFrom_ending {mode : Mode} {cs : List Char} (sound : mode.Sound) (ending : Ending cs) :
    piecesFrom mode cs = finish mode ++ cs.map .char := by
  cases cs with
  | nil => exact (List.append_nil _).symm
  | cons c rest =>
    obtain ⟨here, later⟩ := List.forall_mem_cons.mp ending.inert
    rw [piecesFrom, step_of_ends sound here (ending.ends c rfl), piecesFrom_settled sound later,
      List.append_assoc]
    rfl

/-- Whatever the scanner is in where the text ends, it makes the same of the text, and nothing but
characters of what is behind it. -/
theorem piecesFrom_append {mode : Mode} {cs ending : List Char} (sound : mode.Sound)
    (ends : Ending ending) :
    piecesFrom mode (cs ++ ending) = piecesFrom mode cs ++ ending.map .char := by
  induction cs generalizing mode with
  | nil => exact piecesFrom_ending sound ends
  | cons c rest ih =>
    rw [List.cons_append, piecesFrom, piecesFrom, ih (step_sound sound c), List.append_assoc]

theorem expand_append (s ending : String) (params : Bindings) (ends : Ending ending.toList) :
    expand (s ++ ending) params =
      (expand s params).map fun st => ⟨st.text ++ ending, st.params⟩ := by
  have plain : Mode.plain.Sound := trivial
  rw [expand, expand, pieces, pieces, String.toList_append, piecesFrom_append plain ends,
    expandPieces_append, expandPieces_chars, String.ofList_toList]
  cases expandPieces params (piecesFrom .plain s.toList) with
  | error e => rfl
  | ok st =>
    change Except.ok (Statement.mk (st.text ++ ending) (st.params ++ [])) = _
    rw [List.append_nil]
    rfl

/-! ### Limits -/

theorem inert_of_all {s : String} (all : s.toList.all (fun c => Inert c) = true) :
    ∀ c ∈ s.toList, Inert c := by
  intro c member
  exact of_decide_eq_true (List.all_eq_true.mp all c member)

theorem inert_of_isDigit {c : Char} (digit : c.isDigit = true) : Inert c := by
  obtain ⟨low, high⟩ := Text.isDigit_bounds digit
  constructor
  · refine Bool.eq_false_iff.mpr fun quote => ?_
    rcases (isQuote_iff c).mp quote with rfl | rfl | rfl
    · exact absurd low (by decide)
    · exact absurd low (by decide)
    · exact absurd high (by decide)
  · rintro rfl
    exact absurd high (by decide)

theorem inert_intText (n : Int) : ∀ c ∈ (Text.intText n).toList, Inert c := by
  have digits : ∀ c ∈ (Text.natText n.natAbs).toList, Inert c :=
    fun c member => inert_of_isDigit (Text.isDigit_of_mem_natText member)
  rw [Text.intText]
  split
  · rw [String.toList_append]
    exact List.forall_mem_append.mpr ⟨inert_of_all (by decide), digits⟩
  · exact digits

theorem ending_limitClause (start size : Int) : Ending (limitClause start size).toList where
  inert := by
    simp only [limitClause, String.toList_append, List.forall_mem_append]
    exact ⟨⟨⟨inert_of_all (by decide), inert_intText start⟩, inert_of_all (by decide)⟩,
      inert_intText size⟩
  ends := by
    simp only [limitClause, String.toList_append]
    intro c first
    obtain rfl : ' ' = c := Option.some.inj first
    rfl

/-- Expanding a template with a limit behind it is expanding it and adding the limit. -/
theorem expand_limit (s : String) (params : Bindings) (w : Window) :
    expand (s ++ w.limit) params =
      (expand s params).map fun st => ⟨st.text ++ w.limit, st.params⟩ :=
  expand_append s w.limit params (ending_limitClause w.start w.size)

example :
    expand ("a = ':b" ++ limitClause 0 5) .empty = .ok ⟨"a = ':b limit 0,5", []⟩ := rfl

end SqlRecords.Template
