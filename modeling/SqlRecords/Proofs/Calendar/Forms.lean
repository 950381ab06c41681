import SqlRecords.Calendar.ZonedText
import SqlRecords.Proofs.Text.Pieces

/-!
# Telling the forms of times apart

A text that is read as a date is not read as a time, and a time with an offset is not read as one
without. The marks of a text tell: the colons of a clock or an offset, and the letter Z. A date has
none of them, a time without an offset two and one with an offset three, because every reader passes
over a fixed number of marks.
-/

namespace SqlRecords.Calendar

open Text

/-- The colon, and the letter for no offset. -/
def isMark (c : Char) : Bool := c == ':' || c == 'Z' || c == 'z'

/-- How many marks a text has. -/
def marks (s : List Char) : Nat := s.countP isMark

section Marks

variable {p : Char → Bool} {c : Char} {s : List Char}

theorem isMark_eq_true_iff : isMark c = true ↔ c = ':' ∨ c = 'Z' ∨ c = 'z' := by
  simp only [isMark, Bool.or_eq_true, beq_iff_eq, or_assoc]

theorem isMark_of_isDigit (digit : isDigit c = true) : isMark c = false := by
  refine Bool.eq_false_iff.mpr fun mark => ?_
  obtain rfl | rfl | rfl := isMark_eq_true_iff.mp mark
  all_goals cases digit

theorem isMark_of_isBlank (blank : isBlank c = true) : isMark c = false := by
  refine Bool.eq_false_iff.mpr fun mark => ?_
  obtain rfl | rfl | rfl := isMark_eq_true_iff.mp mark
  all_goals cases blank

theorem countP_cons_toNat {α : Type} (p : α → Bool) (a : α) (l : List α) :
    (a :: l).countP p = (p a).toNat + l.countP p := by
  rw [List.countP_cons, Nat.add_comm]
  cases p a with
  | true => rfl
  | false => rfl

theorem marks_cons (c : Char) (s : List Char) : marks (c :: s) = (isMark c).toNat + marks s :=
  countP_cons_toNat isMark c s

theorem marks_cons_of_unmarked (unmarked : isMark c = false) (s : List Char) :
    marks (c :: s) = marks s := List.countP_cons_of_neg (by simp [unmarked])

theorem marks_append_of_unmarked {lead : List Char} (unmarked : ∀ c ∈ lead, isMark c = false)
    (s : List Char) : marks (lead ++ s) = marks s := by
  have none : marks lead = 0 := List.countP_eq_zero.mpr fun c member => by simp [unmarked c member]
  exact List.countP_append.trans (by rw [← marks, none, Nat.zero_add, marks])

theorem marks_dropWhile (unmarked : ∀ c, p c = true → isMark c = false) (s : List Char) :
    marks (s.dropWhile p) = marks s := by
  have lead : ∀ c ∈ s.takeWhile p, isMark c = false :=
    fun c member => unmarked c (List.all_eq_true.mp List.all_takeWhile c member)
  rw [← marks_append_of_unmarked lead, List.takeWhile_append_dropWhile]

theorem marks_trimStart (s : List Char) : marks (trimStart s) = marks s :=
  marks_dropWhile (fun _ => isMark_of_isBlank) s

theorem marks_drop {n : Nat} (digits : ∀ c ∈ s.take n, isDigit c = true) :
    marks (s.drop n) = marks s := by
  have lead : ∀ c ∈ s.take n, isMark c = false :=
    fun c member => isMark_of_isDigit (digits c member)
  rw [← marks_append_of_unmarked lead, List.take_append_drop]

end Marks

/-! ### Patterns -/

section Reading

variable {s rest : List Char} {n : Nat}

theorem marks_readNumber {width : Nat} (read : readNumber width s = some (n, rest)) :
    marks s = marks rest := by
  -- The number is given up to a width, so that what is left may begin with digits too.
  have lead : (s.takeWhile isDigit).take width <+: s :=
    (List.take_prefix _ _).trans (List.takeWhile_prefix _)
  obtain ⟨-, left⟩ := Option.ite_none_left_eq_some.mp read
  obtain ⟨-, rfl⟩ := Prod.mk.inj (Option.some.inj left)
  refine (marks_drop fun c member => ?_).symm
  rw [← List.prefix_iff_eq_take.mp lead] at member
  exact List.all_eq_true.mp List.all_takeWhile c (List.mem_of_mem_take member)

/-- What a reader leaves of the text does not depend on where its result is kept. -/
theorem leaves_of_map {α β : Type} {b : β} {read : Option (α × List Char)}
    {keep : α × List Char → β × List Char} (kept : read.map keep = some (b, rest))
    (leaves : ∀ x, (keep x).2 = x.2) : ∃ a, read = some (a, rest) := by
  obtain ⟨⟨a, left⟩, found, same⟩ := Option.map_eq_some_iff.mp kept
  have whole : left = rest := (leaves (a, left)).symm.trans (congrArg Prod.snd same)
  exact ⟨a, whole ▸ found⟩

theorem marks_readYear {year : Int} (read : readYear s = some (year, rest)) :
    marks s = marks rest := by
  unfold readYear at read
  split at read
  all_goals
    obtain ⟨n, number⟩ := leaves_of_map read fun _ => rfl
    rw [← marks_readNumber number]
  · exact marks_cons_of_unmarked rfl _
  · exact marks_cons_of_unmarked rfl _

theorem marks_readFraction (read : readFraction s = some (n, rest)) : marks s = marks rest := by
  unfold readFraction at read
  split at read
  case h_1 tail =>
    obtain ⟨-, left⟩ := Option.ite_none_left_eq_some.mp read
    obtain ⟨-, rfl⟩ := Prod.mk.inj (Option.some.inj left)
    exact (marks_cons_of_unmarked rfl tail).trans
      (marks_dropWhile (fun _ => isMark_of_isDigit) tail).symm
  case h_2 =>
    cases read
    rfl

/-- The item passes over a mark, which only a literal may be. -/
def Item.marked : Item → Bool
  | .literal c => isMark c
  | _ => false

theorem marks_read {f f' : Fields} {item : Item} (read : item.read f s = some (f', rest)) :
    marks s = item.marked.toNat + marks rest := by
  cases item with
  | literal c =>
    cases s with
    | nil => cases read
    | cons d s =>
      obtain ⟨rfl, left⟩ := Option.ite_none_right_eq_some.mp read
      obtain ⟨-, rfl⟩ := Prod.mk.inj (Option.some.inj left)
      exact marks_cons c s
  | blanks =>
    obtain ⟨-, rfl⟩ := Prod.mk.inj (Option.some.inj read)
    exact (marks_trimStart s).symm.trans (Nat.zero_add _).symm
  | fraction =>
    obtain ⟨n, fraction⟩ := leaves_of_map read fun _ => rfl
    exact (marks_readFraction fraction).trans (Nat.zero_add _).symm
  | year =>
    obtain ⟨n, year⟩ := leaves_of_map read fun _ => rfl
    rw [← marks_trimStart, marks_readYear year]
    exact (Nat.zero_add _).symm
  | _ =>
    obtain ⟨n, number⟩ := leaves_of_map read fun _ => rfl
    rw [← marks_trimStart, marks_readNumber number]
    exact (Nat.zero_add _).symm

/-- The marks of a text are those of the pattern that it follows. -/
theorem marks_readFields {f f' : Fields} {items : List Item}
    (read : readFields f items s = some f') : marks s = items.countP Item.marked := by
  induction items generalizing f s with
  | nil =>
    cases s with
    | nil => rfl
    | cons c s => cases read
  | cons item items ih =>
    rw [readFields] at read
    obtain ⟨⟨g, rest⟩, first, later⟩ := Option.bind_eq_some_iff.mp read
    rw [marks_read first, ih later, countP_cons_toNat]

theorem marks_of_readDate? {d : Date} (read : readDate? s = some d) : marks s = 0 := by
  obtain ⟨f, fields, -⟩ := Option.bind_eq_some_iff.mp read
  exact marks_readFields fields

theorem marks_of_readDateTime? {pattern : List Item} {t : DateTime}
    (read : readDateTime? pattern s = some t) : marks s = pattern.countP Item.marked := by
  obtain ⟨f, fields, -⟩ := Option.bind_eq_some_iff.mp read
  exact marks_readFields fields

theorem readDate?_eq_none (marked : marks s ≠ 0) : readDate? s = none :=
  Option.eq_none_iff_forall_ne_some.mpr fun _ read => marked (marks_of_readDate? read)

theorem readDateTime?_eq_none {pattern : List Item}
    (other : marks s ≠ pattern.countP Item.marked) : readDateTime? pattern s = none :=
  Option.eq_none_iff_forall_ne_some.mpr fun _ read => other (marks_of_readDateTime? read)

/-! ### Times with an offset -/

theorem marks_readExactly {width : Nat} (read : readExactly width s = some (n, rest)) :
    marks s = marks rest := by
  obtain ⟨⟨-, digits⟩, left⟩ := Option.ite_none_right_eq_some.mp read
  obtain ⟨-, rfl⟩ := Prod.mk.inj (Option.some.inj left)
  exact (marks_drop (List.all_eq_true.mp digits)).symm

theorem marks_readLiteral {c : Char} (read : readLiteral c s = some rest) :
    marks s = (isMark c).toNat + marks rest := by
  rw [afterLead_eq_some_iff.mp read, List.singleton_append, marks_cons]

/-- The letter Z is a mark, and so is the colon of an offset in digits. -/
theorem marks_readOffset {offset : Int} (read : readOffset s = some (offset, rest)) :
    marks s = 1 + marks rest := by
  cases s with
  | nil => cases read
  | cons c s =>
    rw [readOffset] at read
    split at read
    case isTrue zulu =>
      obtain ⟨-, rfl⟩ := Prod.mk.inj (Option.some.inj read)
      have marked : isMark c = true := isMark_eq_true_iff.mpr (.inr zulu)
      rw [marks_cons, marked, Bool.toNat_true]
    case isFalse =>
      obtain ⟨sign, read⟩ := Option.ite_none_right_eq_some.mp read
      have unmarked : isMark c = false := by
        obtain rfl | rfl | rfl := sign
        all_goals rfl
      obtain ⟨⟨hours, s₁⟩, hour, read⟩ := Option.bind_eq_some_iff.mp read
      obtain ⟨s₂, colon, read⟩ := Option.bind_eq_some_iff.mp read
      obtain ⟨⟨minutes, s₃⟩, minute, read⟩ := Option.bind_eq_some_iff.mp read
      obtain ⟨-, left⟩ := Option.ite_none_right_eq_some.mp read
      obtain ⟨-, rfl⟩ := Prod.mk.inj (Option.some.inj left)
      rw [marks_cons_of_unmarked unmarked, marks_readExactly hour, marks_readLiteral colon,
        marks_readExactly minute]
      rfl

/-- Two colons of the clock, and the mark of the offset. -/
theorem marks_of_readZoned? {t : DateTime} (read : readZoned? s = some t) : marks s = 3 := by
  unfold readZoned? at read
  obtain ⟨⟨year, s₁⟩, years, read⟩ := Option.bind_eq_some_iff.mp read
  obtain ⟨s₂, dash, read⟩ := Option.bind_eq_some_iff.mp read
  obtain ⟨⟨month, s₃⟩, months, read⟩ := Option.bind_eq_some_iff.mp read
  obtain ⟨s₄, dash', read⟩ := Option.bind_eq_some_iff.mp read
  obtain ⟨⟨day, s₅⟩, days, read⟩ := Option.bind_eq_some_iff.mp read
  rw [marks_readExactly years, marks_readLiteral dash, marks_readExactly months,
    marks_readLiteral dash', marks_readExactly days]
  dsimp only at read
  -- The letter or blank before the clock is no mark.
  split at read
  case h_2 => cases read
  case h_1 c s₆ =>
    split at read
    case isFalse => cases read
    case isTrue joint =>
      have unmarked : isMark c = false := by
        obtain rfl | rfl | rfl := joint
        all_goals rfl
      obtain ⟨_, passed, read⟩ := Option.bind_eq_some_iff.mp read
      obtain rfl := Option.some.inj passed
      obtain ⟨⟨hour, s₇⟩, hours, read⟩ := Option.bind_eq_some_iff.mp read
      obtain ⟨s₈, colon, read⟩ := Option.bind_eq_some_iff.mp read
      obtain ⟨⟨minute, s₉⟩, minutes, read⟩ := Option.bind_eq_some_iff.mp read
      obtain ⟨s₁₀, colon', read⟩ := Option.bind_eq_some_iff.mp read
      obtain ⟨⟨second, s₁₁⟩, seconds, read⟩ := Option.bind_eq_some_iff.mp read
      obtain ⟨⟨nanos, s₁₂⟩, fraction, read⟩ := Option.bind_eq_some_iff.mp read
      obtain ⟨⟨offset, s₁₃⟩, zone, read⟩ := Option.bind_eq_some_iff.mp read
      obtain ⟨ended, -⟩ := Option.ite_none_right_eq_some.mp read
      obtain rfl := List.isEmpty_iff.mp ended
      rw [marks_cons_of_unmarked unmarked, marks_readExactly hours, marks_readLiteral colon,
        marks_readExactly minutes, marks_readLiteral colon', marks_readExactly seconds,
        marks_readFraction fraction, marks_readOffset zone]
      rfl

end Reading

end SqlRecords.Calendar
