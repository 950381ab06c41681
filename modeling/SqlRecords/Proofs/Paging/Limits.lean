import SqlRecords.Proofs.Paging.Results

/-!
# Limits with and without a total

The limit of a page is written from its layout when the total is known, and from its number alone
when it is not. `limitText_agrees` shows that the two agree on the pages that there are.
-/

namespace SqlRecords

theorem limitText_of_fits {page size : Int} (fits : Fits ((max page 1 - 1) * size)) :
    limitText page size = .ok (limitClause ((max page 1 - 1) * size) size) :=
  if_pos fits

theorem limitText_of_not_fits {page size : Int} (beyond : ¬ Fits ((max page 1 - 1) * size)) :
    limitText page size = .error (.invalidArgument (.pageOutOfRange page size)) :=
  if_neg beyond

theorem limitText_error_iff {page size : Int} {e : StatementError} :
    limitText page size = .error e ↔
      ¬ Fits ((max page 1 - 1) * size) ∧ e = .invalidArgument (.pageOutOfRange page size) := by
  by_cases fits : Fits ((max page 1 - 1) * size)
  · rw [limitText_of_fits fits]
    exact iff_of_false nofun fun failed => failed.1 fits
  · rw [limitText_of_not_fits fits, Except.error.injEq]
    exact eq_comm.trans (and_iff_right fits).symm

theorem limitClause_inj {a b size : Int} (first : 0 ≤ a) (second : 0 ≤ b)
    (same : limitClause a size = limitClause b size) : a = b := by
  have cut : " limit " ++ Text.intText a = " limit " ++ Text.intText b := by
    unfold limitClause at same
    exact String.append_left_inj _ |>.mp (String.append_left_inj _ |>.mp same)
  have digits : Text.natText a.natAbs = Text.natText b.natAbs := by
    have texts := (String.append_right_inj _).mp cut
    unfold Text.intText at texts
    rwa [if_neg (Int.not_lt.mpr first), if_neg (Int.not_lt.mpr second)] at texts
  have absolute : a.natAbs = b.natAbs := Nat.repr_injective digits
  omega

namespace Layout

variable {page size total : Int}

/-- Up to the last page the start follows from the number alone. -/
theorem start_nearestPage (counted : page ≤ pageCount size total) (sized : 0 < size) :
    (nearestPage page size total - 1) * size = (max page 1 - 1) * size := by
  have some : 1 ≤ pageCount size total := one_le_pageCount sized
  have near : nearestPage page size total = max page 1 := by
    unfold nearestPage
    omega
  rw [near]

/-- Behind the last page it lies before the start that the number alone gives. -/
theorem start_nearestPage_lt (beyond : pageCount size total < page) (sized : 0 < size) :
    (nearestPage page size total - 1) * size < (max page 1 - 1) * size := by
  have some : 1 ≤ pageCount size total := one_le_pageCount sized
  have near : nearestPage page size total < max page 1 := by
    unfold nearestPage
    omega
  exact Int.mul_lt_mul_of_pos_right (by omega) sized

end Layout

/-- Without a total the limit is that of the layout exactly for the numbers up to that of the last
page. It cannot be written if the first row is not a 64-bit number, and in no other case. -/
theorem limitText_agrees (page size : I64) :
    (∀ total : I64, 1 ≤ size.val → total.val < IntType.i64.hi →
      ∃ l, Layout.make page.val size.val total.val = .ok l ∧
        (limitText page.val size.val = .ok l.window.limit ↔ page.val ≤ l.pages)) ∧
    ∀ e, limitText page.val size.val = .error e ↔
      ¬ Fits ((max page.val 1 - 1) * size.val) ∧
        e = .invalidArgument (.pageOutOfRange page.val size.val) := by
  refine ⟨fun total sized _ => ⟨_, Layout.make_of_pos sized, ?_⟩, fun e => limitText_error_iff⟩
  change limitText page.val size.val = .ok (limitClause
    ((Layout.nearestPage page.val size.val total.val - 1) * size.val) size.val) ↔
      page.val ≤ Layout.pageCount size.val total.val
  constructor
  · intro agrees
    by_contra beyond
    have later := Layout.start_nearestPage_lt (Int.not_le.mp beyond) sized
    have first : 0 ≤ (Layout.nearestPage page.val size.val total.val - 1) * size.val :=
      (Layout.start_within sized (Layout.nearestPage_mem sized)).1
    by_cases fits : Fits ((max page.val 1 - 1) * size.val)
    · rw [limitText_of_fits fits] at agrees
      have same := limitClause_inj (by omega) first (Except.ok.inj agrees)
      omega
    · rw [limitText_of_not_fits fits] at agrees
      cases agrees
  · intro counted
    have fits := (Layout.placingResults_fit page.val sized total.property).2
    rw [Layout.start_nearestPage counted sized] at fits ⊢
    exact limitText_of_fits fits

/-- The last of three pages, and a number whose page would begin behind all 64-bit numbers. -/
theorem limitText_agrees_lastOfThree :
    (1 : Int) ≤ 10 ∧ (25 : Int) < IntType.i64.hi ∧ (3 : Int) ≤ 3 ∧
    limitText 3 10 = .ok " limit 20,10" ∧
    ¬ Fits ((max IntType.i64.hi 1 - 1) * 10) ∧
    limitText IntType.i64.hi 10 =
      .error (.invalidArgument (.pageOutOfRange IntType.i64.hi 10)) := by
  have sized : (1 : Int) ≤ 10 := by decide
  have below : (25 : Int) < IntType.i64.hi := by decide
  obtain ⟨agrees, -⟩ := limitText_agrees ⟨3, by decide⟩ ⟨10, by decide⟩
  obtain ⟨l, made, same⟩ := agrees ⟨25, by decide⟩ sized below
  obtain rfl : l = Layout.ofPage 3 10 25 := Except.ok.inj (made.symm.trans rfl)
  have beyond : ¬ Fits ((max IntType.i64.hi 1 - 1) * 10) := by decide
  obtain ⟨-, refused⟩ := limitText_agrees ⟨IntType.i64.hi, by decide⟩ ⟨10, by decide⟩
  exact ⟨sized, below, Int.le_refl 3, same.mpr (by decide), beyond,
    (refused _).mpr ⟨beyond, rfl⟩⟩

end SqlRecords
