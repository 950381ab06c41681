import SqlRecords.Proofs.Paging.Windows

/-!
# Going from page to page

A layout names the page before it and the page behind it. `Layout.make_navigates` shows that the two
undo each other inside of the pages, and that going on from the first page comes to every page once.
-/

namespace SqlRecords.Layout

/-- The layout after `steps` steps, each to the page that the layout before names as the next. -/
def followed (layout : Int → Layout) (steps : ℕ) : Layout :=
  (fun l => layout l.next)^[steps] (layout 1)

/-- The layouts of `pages` pages lead back and forth among these pages, and no further. -/
structure Navigates (pages : Int) (layout : Int → Layout) : Prop where
  counted : ∀ number, (layout number).pages = pages
  ordered : ∀ number, 1 ≤ (layout number).previous ∧
    (layout number).previous ≤ (layout number).page ∧
    (layout number).page ≤ (layout number).next ∧ (layout number).next ≤ pages
  first : ∀ number, (layout number).previous = (layout number).page ↔ (layout number).page = 1
  last : ∀ number, (layout number).next = (layout number).page ↔ (layout number).page = pages
  again : ∀ number, layout (layout number).page = layout number
  back : ∀ number, (layout number).page ≠ pages →
    (layout (layout number).next).previous = (layout number).page
  forth : ∀ number, (layout number).page ≠ 1 →
    (layout (layout number).previous).next = (layout number).page
  once : ∀ page ∈ Finset.Icc 1 pages,
    ∃! steps : ℕ, steps < pages ∧ (followed layout steps).page = page

/-- The layout that a number leads to. -/
def reached (size total number : Int) : Layout :=
  ofPage (nearestPage number size total) size total

variable {page number size total : Int}

theorem reached_of_mem (member : page ∈ Finset.Icc 1 (pageCount size total)) :
    reached size total page = ofPage page size total := by
  rw [reached, nearestPage_of_mem member]

/-! ### Neighbours -/

theorem ofPage_ordered (member : page ∈ Finset.Icc 1 (pageCount size total)) :
    1 ≤ (ofPage page size total).previous ∧ (ofPage page size total).previous ≤ page ∧
      page ≤ (ofPage page size total).next ∧
      (ofPage page size total).next ≤ pageCount size total := by
  rw [Finset.mem_Icc] at member
  simp only [ofPage]
  omega

theorem ofPage_previous_eq_iff : (ofPage page size total).previous = page ↔ page = 1 := by
  simp only [ofPage]
  omega

theorem ofPage_next_eq_iff :
    (ofPage page size total).next = page ↔ page = pageCount size total := by
  simp only [ofPage]
  omega

/-- Before the last page the next one is the page behind. -/
theorem reached_next (member : page ∈ Finset.Icc 1 (pageCount size total))
    (before : page ≠ pageCount size total) :
    reached size total (ofPage page size total).next = ofPage (page + 1) size total := by
  rw [Finset.mem_Icc] at member
  have behind : (ofPage page size total).next = page + 1 := by
    simp only [ofPage]
    omega
  rw [behind, reached_of_mem (Finset.mem_Icc.mpr (by omega))]

/-- Behind the first page the previous one is the page before. -/
theorem reached_previous (member : page ∈ Finset.Icc 1 (pageCount size total))
    (later : page ≠ 1) :
    reached size total (ofPage page size total).previous = ofPage (page - 1) size total := by
  rw [Finset.mem_Icc] at member
  have ahead : (ofPage page size total).previous = page - 1 := by
    simp only [ofPage]
    omega
  rw [ahead, reached_of_mem (Finset.mem_Icc.mpr (by omega))]

/-! ### Going on -/

/-- Each step goes one page on, and the last page is not left. -/
theorem followed_reached (sized : 0 < size) (steps : ℕ) :
    followed (reached size total) steps =
      ofPage (min (steps + 1) (pageCount size total)) size total := by
  have some : 1 ≤ pageCount size total := one_le_pageCount sized
  induction steps with
  | zero =>
    have first : min (((0 : ℕ) : Int) + 1) (pageCount size total) = 1 := by omega
    rw [first]
    exact reached_of_mem (Finset.mem_Icc.mpr ⟨Int.le_refl 1, some⟩)
  | succ steps ih =>
    have here : min ((steps : Int) + 1) (pageCount size total) ∈
        Finset.Icc 1 (pageCount size total) := Finset.mem_Icc.mpr (by omega)
    rw [followed, Function.iterate_succ_apply', ← followed, ih]
    by_cases before : min ((steps : Int) + 1) (pageCount size total) = pageCount size total
    · have stays := ofPage_next_eq_iff.mpr before
      have same : min (((steps + 1 : ℕ) : Int) + 1) (pageCount size total) =
          min ((steps : Int) + 1) (pageCount size total) := by omega
      rw [same, stays, reached_of_mem here]
    · have behind : min (((steps + 1 : ℕ) : Int) + 1) (pageCount size total) =
          min ((steps : Int) + 1) (pageCount size total) + 1 := by omega
      rw [behind, reached_next here before]

theorem existsUnique_followed (sized : 0 < size)
    (member : page ∈ Finset.Icc 1 (pageCount size total)) :
    ∃! steps : ℕ, steps < pageCount size total ∧
      (followed (reached size total) steps).page = page := by
  obtain ⟨first, last⟩ := Finset.mem_Icc.mp member
  have shown (steps : ℕ) : (followed (reached size total) steps).page =
      min ((steps : Int) + 1) (pageCount size total) := by
    rw [followed_reached sized]
    rfl
  simp only [shown]
  refine ⟨(page - 1).toNat, by omega, fun steps found => ?_⟩
  omega

/-! ### All pages of a total -/

/-- The pages of a size and a total lead to each other, whatever the total is. No number on the way
to their layouts leaves the 64-bit numbers. -/
theorem make_navigates (sized : 1 ≤ size) (below : total < IntType.i64.hi) :
    ∃ layout : Int → Layout, (∀ number, make number size total = .ok (layout number)) ∧
      (∀ number, (layout number).Within) ∧ Navigates (pageCount size total) layout := by
  have near (number : Int) : nearestPage number size total ∈ Finset.Icc 1 (pageCount size total) :=
    nearestPage_mem sized
  refine ⟨reached size total, fun number => make_of_pos sized,
    fun number => make_within (make_of_pos sized) (Int.le_of_lt below) (.inr below), ?_⟩
  constructor
  case counted => exact fun number => rfl
  case ordered => exact fun number => ofPage_ordered (near number)
  case first => exact fun number => ofPage_previous_eq_iff
  case last => exact fun number => ofPage_next_eq_iff
  case again => exact fun number => reached_of_mem (near number)
  case back =>
    intro number before
    have behind : (reached size total (reached size total number).next).previous =
        max (nearestPage number size total + 1 - 1) 1 :=
      congrArg previous (reached_next (near number) before)
    have some := (Finset.mem_Icc.mp (near number)).1
    rw [behind]
    change max (nearestPage number size total + 1 - 1) 1 = nearestPage number size total
    omega
  case forth =>
    intro number later
    have ahead : (reached size total (reached size total number).previous).next =
        min (nearestPage number size total - 1 + 1) (pageCount size total) :=
      congrArg next (reached_previous (near number) later)
    have counted := (Finset.mem_Icc.mp (near number)).2
    rw [ahead]
    change min (nearestPage number size total - 1 + 1) (pageCount size total) =
      nearestPage number size total
    omega
  case once => exact fun page => existsUnique_followed sized

/-- Twenty-five rows on pages of ten: from the first page on, the third one is the last to come. -/
theorem make_navigates_twentyFive :
    (1 : Int) ≤ 10 ∧ (25 : Int) < IntType.i64.hi ∧
    ∃ layout : Int → Layout, (∀ number, make number 10 25 = .ok (layout number)) ∧
      (layout 2).next = 3 ∧ (layout 3).previous = 2 ∧ (layout 3).next = 3 ∧
        ∃! steps : ℕ, steps < (3 : Int) ∧ (followed layout steps).page = 3 := by
  have sized : (1 : Int) ≤ 10 := by decide
  have below : (25 : Int) < IntType.i64.hi := by decide
  obtain ⟨layout, made, -, navigates⟩ := make_navigates sized below
  have second : layout 2 = ofPage 2 10 25 := Except.ok.inj ((made 2).symm.trans rfl)
  have third : layout 3 = ofPage 3 10 25 := Except.ok.inj ((made 3).symm.trans rfl)
  have back := navigates.back 2 (by rw [second]; decide)
  have last := (navigates.last 3).mpr (by rw [third]; decide)
  rw [second] at back
  rw [third] at last
  exact ⟨sized, below, layout, made, by rw [second]; decide, back, by rw [third]; exact last,
    navigates.once 3 (by decide)⟩

end SqlRecords.Layout
