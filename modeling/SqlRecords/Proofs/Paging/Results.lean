import SqlRecords.Proofs.Paging.Windows

/-!
# Numbers on the way to a layout

`layOut` lays a page out and hands each number that it computes to a hook. `Layout.noted_fits` shows
that the numbers are 64-bit numbers, but for one behind the last of `2^63 - 1` pages.
-/

namespace SqlRecords

/-- A 64-bit number. -/
def Fits (n : Int) : Prop := IntType.i64.lo ≤ n ∧ n ≤ IntType.i64.hi

instance : DecidablePred Fits := fun n =>
  inferInstanceAs (Decidable (IntType.i64.lo ≤ n ∧ n ≤ IntType.i64.hi))

namespace Layout

/-- A number that laying a page out computes. -/
inductive Result where
  | remainder | quotient | roundedUp | before | behind | start
  deriving DecidableEq

/-- The layout of a page of `size` rows, made of what `keep` gives back for each result. -/
def layOut {m : Type → Type} [Monad m] (keep : Result → Int → m Int) (page size total : Int) :
    m Layout := do
  let pages ←
    if total ≤ 0 then pure 1
    else do
      let remainder ← keep .remainder (total % size)
      let quotient ← keep .quotient (total / size)
      if remainder = 0 then pure quotient else keep .roundedUp (quotient + 1)
  let page := max 1 (min page pages)
  let before ← keep .before (page - 1)
  let behind ← keep .behind (page + 1)
  let start ← keep .start (before * size)
  return { page, size, total, pages, previous := max before 1, next := min behind pages, start }

/-- The layout together with its results in the order they are computed. -/
def noted (page size total : Int) : Layout × List (Result × Int) :=
  layOut (m := StateM (List (Result × Int))) (fun r n results => (n, results ++ [(r, n)]))
    page size total []

variable {page size total : Int}

/-- The results that lead to the number of pages. -/
def countingResults (size total : Int) : List (Result × Int) :=
  if total ≤ 0 then []
  else if total % size = 0 then [(.remainder, total % size), (.quotient, total / size)]
  else [(.remainder, total % size), (.quotient, total / size), (.roundedUp, total / size + 1)]

theorem noted_eq (page size total : Int) :
    noted page size total =
      (ofPage (nearestPage page size total) size total,
        countingResults size total ++
          [(.before, nearestPage page size total - 1), (.behind, nearestPage page size total + 1),
            (.start, (nearestPage page size total - 1) * size)]) := by
  unfold noted layOut countingResults nearestPage pageCount ofPage pageCount
  by_cases none : total ≤ 0
  · simp only [bind, StateT.bind, if_pos none]
    rfl
  · by_cases even : total % size = 0
    · simp only [bind, StateT.bind, if_neg none, if_pos even]
      rfl
    · simp only [bind, StateT.bind, if_neg none, if_neg even]
      rfl

theorem make_eq_noted (sized : 0 < size) :
    make page size total = .ok (noted page size total).1 := by
  rw [noted_eq]
  exact make_of_pos sized

/-! ### Results that fit -/

/-- A page is among those of a total if rows are left behind all pages before it. -/
theorem le_pageCount_iff (sized : 0 < size) (later : 1 < page) :
    page ≤ pageCount size total ↔ (page - 1) * size < total := by
  constructor
  · intro counted
    have some : 0 < total := by
      by_contra none
      rw [pageCount_of_empty (Int.not_lt.mp none)] at counted
      omega
    have upTo : (page - 1) * size ≤ (pageCount size total - 1) * size :=
      Int.mul_le_mul_of_nonneg_right (by omega) (Int.le_of_lt sized)
    exact Int.lt_of_le_of_lt upTo (pageCount_bounds sized some).1
  · intro left
    have before : 0 < (page - 1) * size := Int.mul_pos (by omega) sized
    have reached := (pageCount_bounds sized (Int.lt_trans before left)).2
    have fewer := Int.lt_of_mul_lt_mul_right (Int.lt_of_lt_of_le left reached) (Int.le_of_lt sized)
    omega

theorem countingResults_fit (sized : 0 < size) (size64 : Fits size) (total64 : Fits total)
    {entry : Result × Int} (member : entry ∈ countingResults size total) :
    entry.1 ≠ .behind ∧ Fits entry.2 := by
  have low := Int.emod_nonneg total (Int.ne_of_gt sized)
  have high := Int.emod_lt_of_pos total sized
  have count : pageCount size total ≤ max 1 total := pageCount_le sized
  unfold Fits at size64 total64 ⊢
  simp only [IntType.lo, IntType.hi] at size64 total64 ⊢
  unfold countingResults at member
  unfold pageCount at count
  split at member
  case isTrue none => cases member
  case isFalse some =>
    have whole := Int.ediv_nonneg (Int.le_of_lt (Int.not_le.mp some)) (Int.le_of_lt sized)
    rw [if_neg some] at count
    split at member
    case isTrue even =>
      rw [if_pos even] at count
      simp only [List.mem_cons, List.not_mem_nil, or_false] at member
      obtain rfl | rfl := member
      · exact ⟨fun same => Result.noConfusion same, by dsimp only; omega⟩
      · exact ⟨fun same => Result.noConfusion same, by dsimp only; omega⟩
    case isFalse uneven =>
      rw [if_neg uneven] at count
      simp only [List.mem_cons, List.not_mem_nil, or_false] at member
      obtain rfl | rfl | rfl := member
      · exact ⟨fun same => Result.noConfusion same, by dsimp only; omega⟩
      · exact ⟨fun same => Result.noConfusion same, by dsimp only; omega⟩
      · exact ⟨fun same => Result.noConfusion same, by dsimp only; omega⟩

/-- The number behind a page does not fit if the greatest page is asked for and there is one. -/
theorem behind_fits_iff (sized : 0 < size) (page64 : Fits page) (total64 : Fits total) :
    Fits (nearestPage page size total + 1) ↔
      ¬ (page = IntType.i64.hi ∧ size = 1 ∧ total = IntType.i64.hi) := by
  have count : pageCount size total ≤ max 1 total := pageCount_le sized
  have greatest : IntType.i64.hi ≤ pageCount size total ↔ (IntType.i64.hi - 1) * size < total :=
    le_pageCount_iff sized (by decide)
  unfold Fits at page64 total64 ⊢
  unfold nearestPage
  simp only [IntType.lo, IntType.hi] at page64 total64 greatest ⊢
  omega

theorem placingResults_fit (page : Int) (sized : 0 < size) (total64 : Fits total) :
    Fits (nearestPage page size total - 1) ∧ Fits ((nearestPage page size total - 1) * size) := by
  have near : nearestPage page size total ∈ Finset.Icc 1 (pageCount size total) :=
    nearestPage_mem sized
  have start := start_within sized near
  have count : pageCount size total ≤ max 1 total := pageCount_le sized
  rw [Finset.mem_Icc] at near
  unfold Fits at total64 ⊢
  simp only [ofPage] at start
  simp only [IntType.lo, IntType.hi] at total64 ⊢
  omega

theorem fits_iff_of_noted {page size total : I64} (sized : 1 ≤ size.val) {entry : Result × Int}
    (member : entry ∈ (noted page.val size.val total.val).2) :
    ¬ Fits entry.2 ↔
      entry.1 = .behind ∧
        page.val = IntType.i64.hi ∧ size.val = 1 ∧ total.val = IntType.i64.hi := by
  rw [noted_eq, List.mem_append] at member
  simp only [List.mem_cons, List.not_mem_nil, or_false] at member
  obtain ⟨before, start⟩ := placingResults_fit page.val sized total.property
  obtain counting | rfl | rfl | rfl := member
  · obtain ⟨other, fits⟩ := countingResults_fit sized size.property total.property counting
    exact iff_of_false (not_not_intro fits) fun exception => other exception.1
  · exact iff_of_false (not_not_intro before) nofun
  · rw [behind_fits_iff sized page.property total.property, not_not]
    exact (and_iff_right rfl).symm
  · exact iff_of_false (not_not_intro start) nofun

/-! ### Arithmetic that wraps around -/

/-- What 64 bits keep of a number. -/
def wrapped (n : Int) : Int := n.bmod 0x10000000000000000

theorem wrapped_of_fits {n : Int} (fits : Fits n) : wrapped n = n := by
  obtain ⟨low, high⟩ := fits
  simp only [IntType.lo, IntType.hi] at low high
  exact Int.bmod_eq_of_le (by omega) (by omega)

/-- A hook that gives back what it is handed changes nothing. -/
theorem layOut_eq_noted {keep : Result → Int → Int}
    (kept : ∀ entry ∈ (noted page size total).2, keep entry.1 entry.2 = entry.2) :
    layOut (m := Id) keep page size total = (noted page size total).1 := by
  rw [noted_eq] at kept ⊢
  simp only [List.forall_mem_append, List.forall_mem_cons] at kept
  obtain ⟨counting, before, behind, start, -⟩ := kept
  unfold countingResults at counting
  unfold layOut ofPage
  unfold nearestPage pageCount at before behind start ⊢
  by_cases none : total ≤ 0
  · simp only [if_pos none] at before behind start ⊢
    simp only [pure, bind, before, behind, start]
  · rw [if_neg none] at counting
    by_cases even : total % size = 0
    · simp only [if_neg none, if_pos even, List.forall_mem_cons] at counting before behind start ⊢
      simp only [pure, bind, counting.1, counting.2.1, if_pos even, before, behind, start]
    · simp only [if_neg none, if_neg even, List.forall_mem_cons] at counting before behind start ⊢
      simp only [pure, bind, counting.1, counting.2.1, counting.2.2.1, if_neg even, before, behind,
        start]

theorem make_eq_wrapping {page size total : I64} (sized : 1 ≤ size.val)
    (fewer : ¬ (page.val = IntType.i64.hi ∧ size.val = 1 ∧ total.val = IntType.i64.hi)) :
    make page.val size.val total.val =
      .ok (layOut (m := Id) (fun _ => wrapped) page.val size.val total.val) := by
  rw [make_eq_noted sized, layOut_eq_noted]
  intro entry member
  have exception := not_congr (fits_iff_of_noted sized member)
  exact wrapped_of_fits (not_not.mp (exception.mpr fun lost => fewer lost.2))

/-! ### The results of a layout -/

/-- The results of laying a page out are 64-bit numbers. The one exception is the number behind the
page, if this is the last of as many pages as there can be. A total that is not zero has a row at the
start of the page. So arithmetic on 64 bits gives the layout, but for the exception. -/
theorem noted_fits (page size total : I64) (sized : 1 ≤ size.val) :
    make page.val size.val total.val = .ok (noted page.val size.val total.val).1 ∧
    (∀ entry ∈ (noted page.val size.val total.val).2, ¬ Fits entry.2 ↔
      entry.1 = .behind ∧
        page.val = IntType.i64.hi ∧ size.val = 1 ∧ total.val = IntType.i64.hi) ∧
    (1 ≤ total.val → (noted page.val size.val total.val).1.start < total.val) ∧
    (¬ (page.val = IntType.i64.hi ∧ size.val = 1 ∧ total.val = IntType.i64.hi) →
      make page.val size.val total.val =
        .ok (layOut (m := Id) (fun _ => wrapped) page.val size.val total.val)) := by
  refine ⟨make_eq_noted sized, fun _ => fits_iff_of_noted sized, fun some => ?_,
    make_eq_wrapping sized⟩
  rw [noted_eq]
  exact (start_bounds sized some (nearestPage_mem sized)).2

def greatest : I64 := ⟨IntType.i64.hi, by decide⟩

def single : I64 := ⟨1, by decide⟩

/-- The last of as many pages as there can be. -/
theorem noted_fits_greatest :
    1 ≤ single.val ∧
    (.behind, IntType.i64.hi + 1) ∈ (noted greatest.val single.val greatest.val).2 ∧
    ¬ Fits (IntType.i64.hi + 1) ∧
    (noted greatest.val single.val greatest.val).1.start < greatest.val := by
  have sized : 1 ≤ single.val := Int.le_refl 1
  obtain ⟨-, results, start, -⟩ := noted_fits greatest single greatest sized
  have computed :
      (.behind, IntType.i64.hi + 1) ∈ (noted greatest.val single.val greatest.val).2 := by decide
  exact ⟨sized, computed, (results _ computed).mpr ⟨rfl, rfl, rfl, rfl⟩, start (by decide)⟩

end Layout

end SqlRecords
