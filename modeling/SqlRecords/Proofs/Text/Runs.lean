import SqlRecords.Text.Blank

/-!
# Runs of characters

A run of characters of one kind ends at the first character of another kind: `Stops` says that
such a character, or nothing, comes next. Trimming keeps a text that has no blank at its ends.
-/

namespace SqlRecords.Text

/-- No character that `p` holds of comes first. -/
def Stops (p : Char → Bool) (rest : List Char) : Prop := ∀ c ∈ rest.head?, p c = false

theorem stops_nil (p : Char → Bool) : Stops p [] := nofun

section Run

variable {p : Char → Bool} {s run rest : List Char}

theorem stops_cons {c : Char} (other : p c = false) (rest : List Char) : Stops p (c :: rest) := by
  intro d same
  obtain rfl := Option.some.inj same
  exact other

theorem stops_of_forall (other : ∀ c ∈ s, p c = false) : Stops p s :=
  fun c first => other c (List.mem_of_mem_head? first)

theorem Stops.append (stops : Stops p s) (present : s ≠ []) (rest : List Char) :
    Stops p (s ++ rest) := by
  cases s with
  | nil => exact absurd rfl present
  | cons c s => exact stops_cons (stops c rfl) _

theorem Stops.dropWhile (stops : Stops p s) : s.dropWhile p = s := by
  cases s with
  | nil => rfl
  | cons c s => exact List.dropWhile_cons_of_neg (by simp [stops c rfl])

theorem Stops.of_append (stops : Stops p (s ++ rest)) : Stops p s := by
  intro c first
  exact stops c (by rw [List.head?_append, Option.mem_def.mp first]; rfl)

theorem stops_dropWhile (p : Char → Bool) (s : List Char) : Stops p (s.dropWhile p) := by
  intro c first
  have head := List.head?_dropWhile_not p s
  rw [Option.mem_def.mp first] at head
  exact head

theorem takeWhile_run (inside : ∀ c ∈ run, p c = true) (stops : Stops p rest) :
    (run ++ rest).takeWhile p = run := by
  rw [List.takeWhile_append_of_pos inside]
  cases rest with
  | nil => exact List.append_nil run
  | cons c rest =>
    rw [List.takeWhile_cons_of_neg (by simp [stops c rfl]), List.append_nil]

theorem dropWhile_run (inside : ∀ c ∈ run, p c = true) (stops : Stops p rest) :
    (run ++ rest).dropWhile p = rest := by
  rw [List.dropWhile_append_of_pos inside, stops.dropWhile]

end Run

/-! ### Trimming -/

theorem isBlank_of_graphic {c : Char} (low : 0x20 < c.toNat) (high : c.toNat < 0x7F) :
    isBlank c = false := by
  unfold isBlank
  simp only [Bool.or_eq_false_iff, Bool.and_eq_false_iff, decide_eq_false_iff_not,
    beq_eq_false_iff_ne]
  omega

theorem trimStart_of_stops {s : List Char} (stops : Stops isBlank s) : trimStart s = s :=
  stops.dropWhile

theorem trim_of_ends {s : String} (ahead : Stops isBlank s.toList)
    (behind : Stops isBlank s.toList.reverse) : trim s = s := by
  rw [trim, trimStart_of_stops ahead, trimEnd, behind.dropWhile, List.reverse_reverse,
    String.ofList_toList]

theorem trim_of_solid {s : String} (solid : ∀ c ∈ s.toList, isBlank c = false) : trim s = s :=
  trim_of_ends (stops_of_forall solid)
    (stops_of_forall fun c member => solid c (List.mem_reverse.mp member))

theorem trim_of_blank {s : String} (only : blank s = true) : (trim s).toList = [] := by
  have none := dropWhile_run (List.all_eq_true.mp only) (stops_nil isBlank)
  rw [List.append_nil] at none
  rw [trim, trimStart, none, String.toList_ofList]
  rfl

/-- The text `core` is `s` without the blanks at its two ends. -/
structure Trims (s core : List Char) : Prop where
  within : ∃ before after, s = before ++ core ++ after ∧
    (∀ c ∈ before, isBlank c = true) ∧ ∀ c ∈ after, isBlank c = true
  ahead : Stops isBlank core
  behind : Stops isBlank core.reverse

theorem trims_trim (s : String) : Trims s.toList (trim s).toList := by
  rw [trim, String.toList_ofList, trimEnd, trimStart]
  generalize started : s.toList.dropWhile isBlank = rest
  have front := List.takeWhile_append_dropWhile (p := isBlank) (l := s.toList)
  have back := congrArg List.reverse
    (List.takeWhile_append_dropWhile (p := isBlank) (l := rest.reverse))
  rw [List.reverse_append, List.reverse_reverse] at back
  have ahead : Stops isBlank rest := started ▸ stops_dropWhile isBlank s.toList
  have blanks (l : List Char) : ∀ c ∈ l.takeWhile isBlank, isBlank c = true :=
    List.all_eq_true.mp List.all_takeWhile
  refine ⟨⟨_, (rest.reverse.takeWhile isBlank).reverse, ?_, blanks s.toList, ?_⟩, ?_, ?_⟩
  · rw [List.append_assoc, back, ← started, front]
  · exact fun c member => blanks rest.reverse c (List.mem_reverse.mp member)
  · rw [← back] at ahead
    exact ahead.of_append
  · rw [List.reverse_reverse]
    exact stops_dropWhile isBlank rest.reverse

theorem trim_of_trims {s t : String} (trims : Trims s.toList t.toList) : trim s = t := by
  obtain ⟨before, after, split, blankBefore, blankAfter⟩ := trims.within
  rw [← String.toList_inj]
  cases solid : t.toList with
  | nil =>
    rw [solid, List.append_nil] at split
    refine trim_of_blank (List.all_eq_true.mpr ?_)
    rw [split]
    exact List.forall_mem_append.mpr ⟨blankBefore, blankAfter⟩
  | cons c core =>
    have ahead := trims.ahead
    have behind := trims.behind
    rw [solid] at split ahead behind
    have started : trimStart s.toList = c :: core ++ after := by
      rw [trimStart, split, List.append_assoc]
      exact dropWhile_run blankBefore (ahead.append (List.cons_ne_nil c core) after)
    have reversed : (after.reverse ++ (c :: core).reverse).dropWhile isBlank =
        (c :: core).reverse :=
      dropWhile_run (fun d member => blankAfter d (List.mem_reverse.mp member)) behind
    rw [trim, started, trimEnd, List.reverse_append, reversed, List.reverse_reverse,
      String.toList_ofList]

/-- Trimming gives the one text that is left without the blanks at both ends. -/
theorem trim_eq_iff {s t : String} : trim s = t ↔ Trims s.toList t.toList :=
  ⟨fun same => same ▸ trims_trim s, trim_of_trims⟩

end SqlRecords.Text
