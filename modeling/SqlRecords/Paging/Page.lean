import SqlRecords.Statement.Error

/-!
# Pages

The layout of a page follows from the number asked for, the size of a page and the total: the
number is taken to the nearest page there is, and there is always one page. `paginate` counts
first, and fetches only if there is something to fetch.
-/

namespace SqlRecords

/-- The rows that a page shows: from `start` on, at most `size` of them. -/
structure Window where
  start : Int
  page : Int
  size : Int
  deriving DecidableEq

/-- The clause that restricts a statement to `size` rows from `start` on. -/
def limitClause (start size : Int) : String :=
  " limit " ++ Text.intText start ++ "," ++ Text.intText size

/-- The clause that restricts a statement to the window. -/
def Window.limit (w : Window) : String := limitClause w.start w.size

/-- Where a page stands among all pages. -/
structure Layout where
  page : Int
  size : Int
  total : Int
  pages : Int
  previous : Int
  next : Int
  start : Int
  deriving DecidableEq

namespace Layout

/-- The number of pages that hold `total` rows. -/
def pageCount (size total : Int) : Int :=
  if total ≤ 0 then 1
  else if total % size = 0 then total / size
  else total / size + 1

/-- The page nearest to number `page` among pages of `size` rows. -/
def make (page size total : Int) : Except StatementError Layout :=
  if size ≤ 0 then .error (.invalidArgument (.pageSize size))
  else
    let pages := pageCount size total
    let page := max 1 (min page pages)
    .ok
      { page := page
        size := size
        total := total
        pages := pages
        previous := max (page - 1) 1
        next := min (page + 1) pages
        start := (page - 1) * size }

/-- The rows of the page. -/
def window (l : Layout) : Window := ⟨l.start, l.page, l.size⟩

end Layout

/-- A page and its items. -/
structure Page (α : Type) where
  layout : Layout
  items : List α

namespace Page

variable {α β : Type}

/-- The page with other items. -/
def withItems (p : Page α) (items : List β) : Page β := ⟨p.layout, items⟩

/-- The page with `f` of each item. -/
def map (f : α → β) (p : Page α) : Page β := p.withItems (p.items.map f)

end Page

/-- One page: `count` runs first and tells the total; `fetch` runs if there are rows. An error of
the layout becomes one of the callbacks' errors by `refuse`. -/
def paginate {m : Type → Type} [Monad m] {ε α : Type} (refuse : StatementError → ε)
    (page size : Int) (count : ExceptT ε m Int) (fetch : Window → ExceptT ε m (List α)) :
    ExceptT ε m (Page α) := do
  let total ← count
  match Layout.make page size total with
  | .error e => throw (refuse e)
  | .ok layout =>
    if total < 1 then return ⟨layout, []⟩
    else return ⟨layout, ← fetch layout.window⟩

/-- The limit clause of a page whose total is not known. Numbers below one count as one, and the
first row has to be a 64-bit number. -/
def limitText (page size : Int) : Except StatementError String :=
  let start := (max page 1 - 1) * size
  if IntType.i64.lo ≤ start ∧ start ≤ IntType.i64.hi then .ok (limitClause start size)
  else .error (.invalidArgument (.pageOutOfRange page size))

end SqlRecords
