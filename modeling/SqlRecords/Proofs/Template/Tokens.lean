import SqlRecords.Statement.Template

/-!
# Tokens of a template

A template is a row of quoted runs, double colons, placeholders and single characters. `Lexes` cuts
a text into them from left to right; `exists_lexes` and `Lexes.unique` show that there is one way to
do so, and `Lexes.pieces_eq` that the scanner finds it.
-/

namespace SqlRecords.Template

/-- A character that begins and ends a quoted run. -/
def Quote (c : Char) : Prop := c = '\'' ∨ c = '"' ∨ c = '\x60'

/-- A character that a name begins with. -/
def NameStart (c : Char) : Prop := ('A' ≤ c ∧ c ≤ 'Z') ∨ ('a' ≤ c ∧ c ≤ 'z') ∨ c = '_'

/-- A character of a name. -/
def NameChar (c : Char) : Prop := NameStart c ∨ ('0' ≤ c ∧ c ≤ '9')

instance : DecidablePred Quote := fun c =>
  inferInstanceAs (Decidable (c = '\'' ∨ c = '"' ∨ c = '\x60'))

instance : DecidablePred NameStart := fun c =>
  inferInstanceAs (Decidable (('A' ≤ c ∧ c ≤ 'Z') ∨ ('a' ≤ c ∧ c ≤ 'z') ∨ c = '_'))

instance : DecidablePred NameChar := fun c =>
  inferInstanceAs (Decidable (NameStart c ∨ ('0' ≤ c ∧ c ≤ '9')))

/-- A stretch of a template. -/
inductive Token where
  /-- A run with its quotes; the closing one is missing if the text ends before it. -/
  | quoted (run : List Char)
  | doubleColon
  | placeholder (name : String)
  | other (c : Char)

/-- The characters of a token. -/
def Token.spelled : Token → List Char
  | quoted run => run
  | doubleColon => [':', ':']
  | placeholder name => ':' :: name.toList
  | other c => [c]

/-- What belongs to a run behind its opening quote: everything up to and with the next `q`. -/
def runBehind (q : Char) (cs : List Char) : List Char :=
  cs.takeWhile (· ≠ q) ++ (cs.dropWhile (· ≠ q)).take 1

/-- What follows the run. -/
def behindRun (q : Char) (cs : List Char) : List Char := (cs.dropWhile (· ≠ q)).drop 1

/-- Behind a colon, the text makes a double colon or a placeholder of it. -/
def TakesColon : List Char → Prop
  | [] => False
  | c :: _ => c = ':' ∨ NameStart c

/-- A text is cut into tokens from left to right. -/
inductive Lexes : List Char → List Token → Prop where
  | done : Lexes [] []
  | quoted {q : Char} {cs : List Char} {ts : List Token} (quote : Quote q)
      (later : Lexes (behindRun q cs) ts) : Lexes (q :: cs) (.quoted (q :: runBehind q cs) :: ts)
  | doubleColon {cs : List Char} {ts : List Token} (later : Lexes cs ts) :
      Lexes (':' :: ':' :: cs) (.doubleColon :: ts)
  | placeholder {c : Char} {cs : List Char} {ts : List Token} (start : NameStart c)
      (later : Lexes (cs.dropWhile (NameChar ·)) ts) :
      Lexes (':' :: c :: cs) (.placeholder (String.ofList (c :: cs.takeWhile (NameChar ·))) :: ts)
  | other {c : Char} {cs : List Char} {ts : List Token} (plain : ¬ Quote c)
      (bare : c = ':' → ¬ TakesColon cs) (later : Lexes cs ts) : Lexes (c :: cs) (.other c :: ts)

/-! ### One way to cut -/

theorem not_quote_colon : ¬ Quote ':' := by decide

theorem not_nameStart_colon : ¬ NameStart ':' := by decide

theorem length_behindRun_le (q : Char) (cs : List Char) :
    (behindRun q cs).length ≤ cs.length := by
  have dropped := (List.dropWhile_suffix (p := (· ≠ q)) (l := cs)).length_le
  rw [behindRun, List.length_drop]
  omega

theorem exists_lexes (cs : List Char) : ∃ ts, Lexes cs ts := by
  induction n : cs.length using Nat.strongRecOn generalizing cs with
  | ind n ih =>
    subst n
    have shorter : ∀ rest : List Char, rest.length < cs.length → ∃ ts, Lexes rest ts :=
      fun rest less => ih _ less rest rfl
    cases cs with
    | nil => exact ⟨[], .done⟩
    | cons c rest =>
      by_cases quote : Quote c
      · obtain ⟨ts, later⟩ := shorter (behindRun c rest) (Nat.lt_succ_of_le (length_behindRun_le c rest))
        exact ⟨_, .quoted quote later⟩
      by_cases bare : c = ':' → ¬ TakesColon rest
      · obtain ⟨ts, later⟩ := shorter rest (Nat.lt_succ_self _)
        exact ⟨_, .other quote bare later⟩
      -- What is left is a colon with something behind it that takes it.
      obtain ⟨rfl, takes⟩ : c = ':' ∧ TakesColon rest := by simpa using bare
      cases rest with
      | nil => exact takes.elim
      | cons d more =>
        by_cases double : d = ':'
        · subst double
          obtain ⟨ts, later⟩ := shorter more (by simp only [List.length_cons]; omega)
          exact ⟨_, .doubleColon later⟩
        · have start : NameStart d := takes.resolve_left double
          have dropped := (List.dropWhile_suffix (p := (NameChar ·)) (l := more)).length_le
          obtain ⟨ts, later⟩ := shorter (more.dropWhile (NameChar ·))
            (by simp only [List.length_cons]; omega)
          exact ⟨_, .placeholder start later⟩

theorem Lexes.unique {cs : List Char} {ts us : List Token} (left : Lexes cs ts)
    (right : Lexes cs us) : ts = us := by
  induction left generalizing us with
  | done => cases right; rfl
  | quoted quote _ ih =>
    cases right with
    | quoted _ later => rw [ih later]
    | doubleColon => exact absurd quote not_quote_colon
    | placeholder => exact absurd quote not_quote_colon
    | other plain => exact absurd quote plain
  | doubleColon _ ih =>
    cases right with
    | quoted quote => exact absurd quote not_quote_colon
    | doubleColon later => rw [ih later]
    | placeholder start => exact absurd start not_nameStart_colon
    | other _ bare => exact absurd (.inl rfl) (bare rfl)
  | placeholder start _ ih =>
    cases right with
    | quoted quote => exact absurd quote not_quote_colon
    | doubleColon => exact absurd start not_nameStart_colon
    | placeholder _ later => rw [ih later]
    | other _ bare => exact absurd (.inr start) (bare rfl)
  | other plain bare _ ih =>
    cases right with
    | quoted quote => exact absurd quote plain
    | doubleColon => exact absurd (.inl rfl) (bare rfl)
    | placeholder start => exact absurd (.inr start) (bare rfl)
    | other _ _ later => rw [ih later]

/-- Nothing of the text is lost. -/
theorem Lexes.spelled_eq {cs : List Char} {ts : List Token} (lexed : Lexes cs ts) :
    ts.flatMap Token.spelled = cs := by
  induction lexed with
  | done => rfl
  | @quoted q cs ts _ _ ih =>
    have whole := List.takeWhile_append_dropWhile (p := (· ≠ q)) (l := cs)
    rw [List.flatMap_cons, ih, Token.spelled, runBehind, behindRun, List.cons_append,
      List.append_assoc, List.take_append_drop, whole]
  | doubleColon _ ih => rw [List.flatMap_cons, ih]; rfl
  | @placeholder c cs ts _ _ ih =>
    rw [List.flatMap_cons, ih, Token.spelled, String.toList_ofList, List.cons_append,
      List.cons_append, List.takeWhile_append_dropWhile]
  | other _ _ _ ih => rw [List.flatMap_cons, ih]; rfl

/-! ### The scanner -/

theorem isQuote_iff (c : Char) : isQuote c = true ↔ Quote c := by
  simp [isQuote, Quote, or_assoc]

theorem isUpper_iff (c : Char) : c.isUpper = true ↔ 'A' ≤ c ∧ c ≤ 'Z' := decide_eq_true_iff

theorem isLower_iff (c : Char) : c.isLower = true ↔ 'a' ≤ c ∧ c ≤ 'z' := by
  change (decide (c.val ≥ 'a'.val) && decide (c.val ≤ 'z'.val)) = true ↔ _
  rw [Bool.and_eq_true, decide_eq_true_iff, decide_eq_true_iff]
  rfl

theorem startsName_iff (c : Char) : startsName c = true ↔ NameStart c := by
  change ((c.isUpper || c.isLower) || decide (c = '_')) = true ↔ _
  rw [NameStart, Bool.or_eq_true, Bool.or_eq_true, isUpper_iff, isLower_iff, decide_eq_true_iff,
    or_assoc]

theorem continuesName_iff (c : Char) : continuesName c = true ↔ NameChar c := by
  rw [NameChar, ← startsName_iff]
  simp [continuesName, startsName, Char.isAlphanum, Char.isDigit, Char.le_def, or_right_comm]

theorem continuesName_eq : continuesName = fun c => decide (NameChar c) :=
  funext fun c => Bool.eq_iff_iff.mpr (by rw [continuesName_iff, decide_eq_true_iff])

/-- The pieces that the scanner makes of a token. -/
def Token.pieces : Token → List Piece
  | placeholder name => [.placeholder name]
  | t => t.spelled.map .char

theorem piecesFrom_plain (c : Char) (cs : List Char) :
    piecesFrom .plain (c :: cs) = (plainStep c).1 ++ piecesFrom (plainStep c).2 cs := rfl

theorem piecesFrom_quoted (q : Char) (cs : List Char) :
    piecesFrom (.quoted q) cs =
      (runBehind q cs).map .char ++ piecesFrom .plain (behindRun q cs) := by
  induction cs with
  | nil => rfl
  | cons c rest ih =>
    by_cases closes : c = q
    · subst closes
      simp [piecesFrom, step, runBehind, behindRun]
    · have goesOn : piecesFrom (.quoted q) (c :: rest) =
          .char c :: piecesFrom (.quoted q) rest := by
        simp [piecesFrom, step, closes]
      rw [goesOn, ih]
      simp [runBehind, behindRun, closes]

theorem piecesFrom_name (s cs : List Char) :
    piecesFrom (.name s) cs =
      .placeholder (String.ofList (s ++ cs.takeWhile (NameChar ·))) ::
        piecesFrom .plain (cs.dropWhile (NameChar ·)) := by
  rw [← continuesName_eq]
  induction cs generalizing s with
  | nil => simp [piecesFrom, finish]
  | cons c rest ih =>
    by_cases inside : continuesName c = true
    · have goesOn : piecesFrom (.name s) (c :: rest) = piecesFrom (.name (s ++ [c])) rest := by
        simp [piecesFrom, step, inside]
      rw [goesOn, ih, List.takeWhile_cons_of_pos inside, List.dropWhile_cons_of_pos inside,
        List.append_assoc, List.singleton_append]
    · rw [List.takeWhile_cons_of_neg inside, List.dropWhile_cons_of_neg inside, List.append_nil]
      simp [piecesFrom, step, inside]

theorem piecesFrom_colon {cs : List Char} (bare : ¬ TakesColon cs) :
    piecesFrom .colon cs = .char ':' :: piecesFrom .plain cs := by
  cases cs with
  | nil => rfl
  | cons c rest =>
    obtain ⟨single, noName⟩ := not_or.mp bare
    have notStarts : ¬ startsName c = true := fun starts => noName ((startsName_iff c).mp starts)
    simp [piecesFrom, step, single, notStarts]

/-- The scanner makes its pieces out of the tokens. -/
theorem Lexes.pieces_eq {cs : List Char} {ts : List Token} (lexed : Lexes cs ts) :
    piecesFrom .plain cs = ts.flatMap Token.pieces := by
  induction lexed with
  | done => rfl
  | quoted quote _ ih =>
    rw [piecesFrom_plain, plainStep, if_pos ((isQuote_iff _).mpr quote), List.flatMap_cons, ← ih,
      piecesFrom_quoted]
    rfl
  | doubleColon _ ih =>
    rw [List.flatMap_cons, ← ih]
    rfl
  | @placeholder c cs ts start _ ih =>
    have single : c ≠ ':' := fun same => not_nameStart_colon (same ▸ start)
    have named : piecesFrom .plain (':' :: c :: cs) = piecesFrom (.name [c]) cs := by
      simp [piecesFrom, step, plainStep, isQuote, single, (startsName_iff c).mpr start]
    rw [named, piecesFrom_name, ih, List.flatMap_cons]
    rfl
  | @other c cs ts plain bare _ ih =>
    have unquoted : ¬ isQuote c = true := fun quote => plain ((isQuote_iff c).mp quote)
    rw [piecesFrom_plain, plainStep, if_neg unquoted, List.flatMap_cons, ← ih]
    by_cases colon : c = ':'
    · rw [if_pos colon, colon]
      exact piecesFrom_colon (bare colon)
    · rw [if_neg colon]
      rfl

end SqlRecords.Template
