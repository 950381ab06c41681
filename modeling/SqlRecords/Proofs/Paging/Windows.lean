import Mathlib
import SqlRecords.Paging.Page

/-!
# Windows of pages

The pages of a total share its rows out. `Layout.make_tiles` shows that every row is on one page,
that all pages but the last are full, and that any number asked for leads to the nearest page.
-/

namespace SqlRecords.Layout

/-- The rows that the window of a page leaves of the total. -/
noncomputable def rows (l : Layout) : Finset Int :=
  Finset.Ico l.start (min (l.start + l.size) l.total)

/-- The numbers of a layout, and those on the way to them, are 64-bit numbers. -/
def Within (l : Layout) : Prop :=
  ∀ n ∈ [l.page - 1, l.page, l.page + 1, l.pages, l.previous, l.next, l.start],
    IntType.i64.lo ≤ n ∧ n ≤ IntType.i64.hi

/-- The windows of pages `1` to `pages` share out the rows, and any number leads to the page of
these that is nearest to it. -/
structure Tiles (size total pages : Int) (layout : Int → Layout) : Prop where
  some : 1 ≤ pages
  numbered : ∀ n ∈ Finset.Icc 1 pages, (layout n).page = n
  nonempty : ∀ n ∈ Finset.Icc 1 pages, (layout n).rows.Nonempty
  disjoint : (Finset.Icc 1 pages : Set Int).PairwiseDisjoint fun n => (layout n).rows
  covers : (Finset.Icc 1 pages).biUnion (fun n => (layout n).rows) = Finset.Ico 0 total
  full : ∀ n ∈ Finset.Ico 1 pages, ((layout n).rows.card : Int) = size
  nearest : ∀ number, ∃ n ∈ Finset.Icc 1 pages, layout number = layout n ∧
    ∀ m ∈ Finset.Icc 1 pages, m ≠ n → |number - n| < |number - m|

variable {page number size total : Int}

/-! ### The number of pages -/

theorem pageCount_of_empty (none : total ≤ 0) : pageCount size total = 1 := if_pos none

/-- The total reaches into the last page and not beyond it. -/
theorem pageCount_bounds (sized : 0 < size) (some : 0 < total) :
    (pageCount size total - 1) * size < total ∧ total ≤ pageCount size total * size := by
  have split := Int.mul_ediv_add_emod total size
  have low := Int.emod_nonneg total (Int.ne_of_gt sized)
  have high := Int.emod_lt_of_pos total sized
  rw [Int.mul_comm] at split
  rw [pageCount, if_neg (Int.not_le.mpr some)]
  by_cases even : total % size = 0
  · rw [if_pos even, Int.sub_mul]
    omega
  · rw [if_neg even, Int.add_sub_cancel, Int.add_mul]
    omega

theorem one_le_pageCount (sized : 0 < size) : 1 ≤ pageCount size total := by
  by_cases none : total ≤ 0
  · exact Int.le_of_eq (pageCount_of_empty none).symm
  · have reached := (pageCount_bounds sized (Int.not_le.mp none)).2
    by_contra few
    have nothing : pageCount size total * size ≤ 0 :=
      Int.mul_nonpos_of_nonpos_of_nonneg (by omega) (Int.le_of_lt sized)
    omega

/-! ### One page -/

/-- The layout of the page that has the number `page`. -/
def ofPage (page size total : Int) : Layout where
  page := page
  size := size
  total := total
  pages := pageCount size total
  previous := max (page - 1) 1
  next := min (page + 1) (pageCount size total)
  start := (page - 1) * size

/-- The page nearest to a number. -/
def nearestPage (number size total : Int) : Int := max 1 (min number (pageCount size total))

theorem make_of_pos (sized : 0 < size) :
    make number size total = .ok (ofPage (nearestPage number size total) size total) :=
  if_neg (Int.not_le.mpr sized)

theorem make_ok {l : Layout} (made : make number size total = .ok l) :
    0 < size ∧ l = ofPage (nearestPage number size total) size total := by
  by_cases sized : 0 < size
  · rw [make_of_pos sized] at made
    exact ⟨sized, (Except.ok.inj made).symm⟩
  · rw [make, if_pos (Int.not_lt.mp sized)] at made
    cases made

theorem size_of_make {l : Layout} (made : make number size total = .ok l) :
    0 < size ∧ l.size = size := by
  obtain ⟨sized, rfl⟩ := make_ok made
  exact ⟨sized, rfl⟩

theorem make_error {e : StatementError} (failed : make number size total = .error e) :
    size ≤ 0 ∧ e = .invalidArgument (.pageSize size) := by
  by_cases sized : 0 < size
  · rw [make_of_pos sized] at failed
    cases failed
  · rw [make, if_pos (Int.not_lt.mp sized)] at failed
    exact ⟨Int.not_lt.mp sized, (Except.error.inj failed).symm⟩

theorem nearestPage_mem (sized : 0 < size) :
    nearestPage number size total ∈ Finset.Icc 1 (pageCount size total) := by
  have some : 1 ≤ pageCount size total := one_le_pageCount sized
  rw [Finset.mem_Icc, nearestPage]
  omega

theorem nearestPage_of_mem (member : page ∈ Finset.Icc 1 (pageCount size total)) :
    nearestPage page size total = page := by
  rw [Finset.mem_Icc] at member
  rw [nearestPage]
  omega

theorem nearestPage_nearest (member : page ∈ Finset.Icc 1 (pageCount size total))
    (other : page ≠ nearestPage number size total) :
    |number - nearestPage number size total| < |number - page| := by
  rw [Finset.mem_Icc] at member
  rw [nearestPage] at other ⊢
  simp only [Int.abs_eq_natAbs]
  omega

theorem start_bounds (sized : 0 < size) (some : 0 < total)
    (member : page ∈ Finset.Icc 1 (pageCount size total)) :
    0 ≤ (ofPage page size total).start ∧ (ofPage page size total).start < total := by
  obtain ⟨first, last⟩ := Finset.mem_Icc.mp member
  have upTo : (page - 1) * size ≤ (pageCount size total - 1) * size :=
    Int.mul_le_mul_of_nonneg_right (by omega) (Int.le_of_lt sized)
  have reached := (pageCount_bounds sized some).1
  exact ⟨Int.mul_nonneg (by omega) (Int.le_of_lt sized), Int.lt_of_le_of_lt upTo reached⟩

/-- The window begins at a multiple of the size, at a row that there is. -/
theorem start_of_make {l : Layout} (made : make number size total = .ok l) (some : 0 < total) :
    size ∣ l.start ∧ 0 ≤ l.start ∧ l.start < total := by
  obtain ⟨sized, rfl⟩ := make_ok made
  exact ⟨Int.dvd_mul_left _ size, start_bounds sized some (nearestPage_mem sized)⟩

theorem mem_rows_iff (sized : 0 < size) {i : Int} :
    i ∈ (ofPage page size total).rows ↔ i / size + 1 = page ∧ i < total := by
  have onPage := Int.ediv_eq_iff_of_pos (x := i) (y := page - 1) sized
  rw [rows, Finset.mem_Ico, Int.lt_min]
  change (page - 1) * size ≤ i ∧ i < (page - 1) * size + size ∧ i < total ↔ _
  rw [← and_assoc, ← onPage]
  omega

theorem pageOf_mem (sized : 0 < size) {i : Int} (first : 0 ≤ i) (last : i < total) :
    i / size + 1 ∈ Finset.Icc 1 (pageCount size total) := by
  have reached := (pageCount_bounds sized (Int.lt_of_le_of_lt first last)).2
  have low := Int.ediv_nonneg first (Int.le_of_lt sized)
  have high := Int.ediv_lt_of_lt_mul sized (Int.lt_of_lt_of_le last reached)
  rw [Finset.mem_Icc]
  omega

theorem card_rows (sized : 0 < size) (some : 0 < total)
    (member : page ∈ Finset.Ico 1 (pageCount size total)) :
    ((ofPage page size total).rows.card : Int) = size := by
  obtain ⟨first, before⟩ := Finset.mem_Ico.mp member
  have next : page + 1 ∈ Finset.Icc 1 (pageCount size total) := Finset.mem_Icc.mpr (by omega)
  -- The page behind it has a first row, so that this one ends before the total does.
  have behind := (start_bounds sized some next).2
  change (page + 1 - 1) * size < total at behind
  rw [rows, Int.card_Ico]
  change (((min ((page - 1) * size + size) total - (page - 1) * size).toNat : Nat) : Int) = size
  rw [Int.add_sub_cancel] at behind
  rw [Int.sub_mul]
  omega

theorem biUnion_rows (sized : 0 < size) :
    (Finset.Icc 1 (pageCount size total)).biUnion (fun n => (ofPage n size total).rows) =
      Finset.Ico 0 total := by
  ext i
  simp only [Finset.mem_biUnion, mem_rows_iff sized, Finset.mem_Ico]
  constructor
  · rintro ⟨n, member, rfl, last⟩
    have first : 0 ≤ i / size := by
      have low := (Finset.mem_Icc.mp member).1
      omega
    exact ⟨(Int.ediv_nonneg_iff_of_pos sized).mp first, last⟩
  · rintro ⟨first, last⟩
    exact ⟨i / size + 1, pageOf_mem sized first last, rfl, last⟩

/-! ### Sixty-four bits -/

theorem pageCount_le (sized : 0 < size) : pageCount size total ≤ max 1 total := by
  by_cases none : total ≤ 0
  · rw [pageCount_of_empty none]
    exact Int.le_max_left 1 total
  · have some : 1 ≤ pageCount size total := one_le_pageCount sized
    have reached := (pageCount_bounds sized (Int.not_le.mp none)).1
    have wide : (pageCount size total - 1) * 1 ≤ (pageCount size total - 1) * size :=
      Int.mul_le_mul_of_nonneg_left sized (by omega)
    omega

theorem start_within (sized : 0 < size) (member : page ∈ Finset.Icc 1 (pageCount size total)) :
    0 ≤ (ofPage page size total).start ∧ (ofPage page size total).start ≤ max 0 total := by
  by_cases none : total ≤ 0
  · rw [pageCount_of_empty none, Finset.mem_Icc] at member
    obtain rfl : page = 1 := by omega
    change 0 ≤ (1 - 1) * size ∧ (1 - 1) * size ≤ max 0 total
    rw [Int.sub_self, Int.zero_mul]
    omega
  · have bounds := start_bounds sized (Int.not_le.mp none) member
    omega

/-- The number behind the page is the only one that could leave the 64-bit numbers, if both the
number asked for and the total are the greatest of them. -/
theorem make_within {l : Layout} (made : make number size total = .ok l)
    (total64 : total ≤ IntType.i64.hi) (below : number < IntType.i64.hi ∨ total < IntType.i64.hi) :
    l.Within := by
  obtain ⟨sized, rfl⟩ := make_ok made
  have member : nearestPage number size total ∈ Finset.Icc 1 (pageCount size total) :=
    nearestPage_mem sized
  have start := start_within sized member
  have count : pageCount size total ≤ max 1 total := pageCount_le sized
  have near : nearestPage number size total ≤ max 1 number := by
    rw [nearestPage]
    omega
  rw [Finset.mem_Icc] at member
  intro n listed
  simp only [ofPage, List.mem_cons, List.not_mem_nil, or_false] at start listed
  simp only [IntType.lo, IntType.hi] at total64 below ⊢
  omega

/-- The layouts of a size and a total share out the rows among their pages, and no number on the
way to them leaves the 64-bit numbers. -/
theorem make_tiles (sized : 1 ≤ size) (some : 1 ≤ total) (below : total < IntType.i64.hi) :
    ∃ layout : Int → Layout, (∀ number, make number size total = .ok (layout number)) ∧
      (∀ number, (layout number).Within) ∧
      Tiles size total (pageCount size total) layout := by
  have atPage : ∀ n ∈ Finset.Icc 1 (pageCount size total),
      ofPage (nearestPage n size total) size total = ofPage n size total := by
    intro n member
    rw [nearestPage_of_mem member]
  refine ⟨fun number => ofPage (nearestPage number size total) size total,
    fun number => make_of_pos sized,
    fun number => make_within (make_of_pos sized) (Int.le_of_lt below) (.inr below), ?_⟩
  constructor
  case some => exact one_le_pageCount sized
  case numbered => exact fun n member => nearestPage_of_mem member
  case nonempty =>
    intro n member
    have bounds := start_bounds sized some member
    rw [atPage n member]
    refine ⟨(ofPage n size total).start, Finset.mem_Ico.mpr ⟨Int.le_refl _, ?_⟩⟩
    change _ < min ((ofPage n size total).start + size) total
    omega
  case disjoint =>
    intro n first m second apart
    rw [Function.onFun, atPage n first, atPage m second, Finset.disjoint_left]
    intro i here there
    exact apart (((mem_rows_iff sized).mp here).1.symm.trans ((mem_rows_iff sized).mp there).1)
  case covers =>
    refine Eq.trans ?_ (biUnion_rows sized)
    exact Finset.biUnion_congr rfl fun n member => by rw [atPage n member]
  case full =>
    intro n member
    rw [atPage n (Finset.mem_Icc.mpr ?_), card_rows sized some member]
    rw [Finset.mem_Ico] at member
    omega
  case nearest =>
    intro number
    refine ⟨nearestPage number size total, nearestPage_mem sized, ?_,
      fun m member => nearestPage_nearest member⟩
    exact (atPage _ (nearestPage_mem sized)).symm

/-- Twenty-five rows on pages of ten. -/
theorem make_tiles_twentyFive :
    (1 : Int) ≤ 10 ∧ (1 : Int) ≤ 25 ∧ (25 : Int) < IntType.i64.hi ∧
    ∃ layout : Int → Layout, (∀ number, make number 10 25 = .ok (layout number)) ∧
      (layout 9).page = 3 ∧ (layout 9).rows = Finset.Ico 20 25 ∧ Tiles 10 25 3 layout := by
  have sized : (1 : Int) ≤ 10 := by decide
  have some : (1 : Int) ≤ 25 := by decide
  have below : (25 : Int) < IntType.i64.hi := by decide
  obtain ⟨layout, made, -, tiles⟩ := make_tiles sized some below
  have last : layout 9 = ofPage 3 10 25 := Except.ok.inj ((made 9).symm.trans rfl)
  refine ⟨sized, some, below, layout, made, ?_, ?_, tiles⟩
  · rw [last]
    rfl
  · rw [last]
    rfl

end SqlRecords.Layout
