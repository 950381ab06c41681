import Mathlib.Data.List.Forall2

/-!
# Outcomes

What the parts of a computation gave when the whole of it gave a result, or an error.
-/

namespace SqlRecords

theorem bind_ok {ε α β : Type} {r : Except ε α} {f : α → Except ε β} {b : β}
    (made : r >>= f = .ok b) : ∃ a, r = .ok a ∧ f a = .ok b := by
  cases r with
  | error e => cases made
  | ok a => exact ⟨a, rfl, made⟩

theorem bind_error {ε α β : Type} {r : Except ε α} {f : α → Except ε β} {e : ε}
    (failed : r >>= f = .error e) : r = .error e ∨ ∃ a, r = .ok a ∧ f a = .error e := by
  cases r with
  | error e' =>
    obtain rfl := Except.error.inj failed
    exact .inl rfl
  | ok a => exact .inr ⟨a, rfl, failed⟩

theorem bind_pure_error {ε α β : Type} {r : Except ε α} {f : α → β} {e : ε}
    (failed : (r >>= fun a => pure (f a)) = .error e) : r = .error e := by
  rcases bind_error failed with first | ⟨a, -, later⟩
  · exact first
  · cases later

theorem map_error {ε α β : Type} {f : α → β} {r : Except ε α} {e : ε}
    (failed : r.map f = .error e) : r = .error e := by
  cases r with
  | error e' =>
    obtain rfl := Except.error.inj failed
    rfl
  | ok a => cases failed

theorem map_ok {ε α β : Type} {f : α → β} {r : Except ε α} {b : β} (made : r.map f = .ok b) :
    ∃ a, r = .ok a ∧ b = f a := by
  cases r with
  | error e => cases made
  | ok a => exact ⟨a, rfl, (Except.ok.inj made).symm⟩

theorem map_map {ε α β γ : Type} (r : Except ε α) (f : α → β) (g : β → γ) :
    (r.map f).map g = r.map fun a => g (f a) := by
  cases r <;> rfl

theorem mapError_ok {ε ε' α : Type} {f : ε → ε'} {r : Except ε α} {a : α}
    (made : r.mapError f = .ok a) : r = .ok a := by
  cases r with
  | error e => cases made
  | ok b =>
    obtain rfl := Except.ok.inj made
    rfl

theorem bind_run {σ α β : Type} {x : StateM σ α} {f : α → StateM σ β} {s s' : σ} {a : α}
    (ran : x s = (a, s')) : (x >>= f) s = f a s' := by
  change (match x s with | (a, s) => f a s) = _
  rw [ran]

theorem forall₂_of_mapM {ε α β : Type} {f : α → Except ε β} {xs : List α} {ys : List β}
    (made : xs.mapM f = .ok ys) : List.Forall₂ (fun x y => f x = .ok y) xs ys := by
  induction xs generalizing ys with
  | nil =>
    obtain rfl := Except.ok.inj made
    exact .nil
  | cons x rest ih =>
    rw [List.mapM_cons] at made
    obtain ⟨y, first, made⟩ := bind_ok made
    obtain ⟨more, later, made⟩ := bind_ok made
    obtain rfl := Except.ok.inj made
    exact .cons first (ih later)

theorem mapM_of_forall₂ {ε α β : Type} {f : α → Except ε β} {xs : List α} {ys : List β}
    (each : List.Forall₂ (fun x y => f x = .ok y) xs ys) : xs.mapM f = .ok ys := by
  induction each with
  | nil => rfl
  | cons here later ih =>
    rw [List.mapM_cons, here, ih]
    rfl

theorem foldlM_preserves {ε α β : Type} {f : β → α → Except ε β} {Kept : β → Prop}
    (step : ∀ b x b', Kept b → f b x = .ok b' → Kept b') {xs : List α} {b b' : β} (start : Kept b)
    (made : xs.foldlM f b = .ok b') : Kept b' := by
  induction xs generalizing b with
  | nil =>
    obtain rfl := Except.ok.inj made
    exact start
  | cons x rest ih =>
    rw [List.foldlM_cons] at made
    obtain ⟨next, here, later⟩ := bind_ok made
    exact ih (step b x next start here) later

theorem mapM_error_iff {ε α β : Type} {f : α → Except ε β} {xs : List α} {e : ε} :
    xs.mapM f = .error e ↔
      ∃ before x after, xs = before ++ x :: after ∧ (∀ b ∈ before, ∃ y, f b = .ok y) ∧
        f x = .error e := by
  induction xs with
  | nil =>
    constructor
    · intro failed
      cases failed
    · rintro ⟨before, x, after, split, -⟩
      cases before <;> cases split
  | cons x rest ih =>
    rw [List.mapM_cons]
    cases first : f x with
    | error e' =>
      constructor
      · intro failed
        obtain rfl := Except.error.inj failed
        exact ⟨[], x, rest, rfl, by simp, first⟩
      · rintro ⟨before, y, after, split, earlier, failed⟩
        cases before with
        | nil =>
          obtain ⟨rfl, -⟩ := List.cons.inj split
          obtain rfl := Except.error.inj (first.symm.trans failed)
          rfl
        | cons z before =>
          obtain ⟨rfl, -⟩ := List.cons.inj split
          obtain ⟨y, made⟩ := earlier x List.mem_cons_self
          cases first.symm.trans made
    | ok y =>
      have later : (rest.mapM f >>= fun ys => pure (y :: ys)) = .error e ↔
          rest.mapM f = .error e := by
        cases rest.mapM f with
        | error e' => exact Iff.rfl
        | ok ys => exact iff_of_false nofun nofun
      refine later.trans (ih.trans ?_)
      constructor
      · rintro ⟨before, z, after, rfl, earlier, failed⟩
        refine ⟨x :: before, z, after, rfl, ?_, failed⟩
        exact List.forall_mem_cons.mpr ⟨⟨y, first⟩, earlier⟩
      · rintro ⟨before, z, after, split, earlier, failed⟩
        cases before with
        | nil =>
          obtain ⟨rfl, -⟩ := List.cons.inj split
          cases first.symm.trans failed
        | cons w before =>
          obtain ⟨rfl, rfl⟩ := List.cons.inj split
          exact ⟨before, z, after, rfl, (List.forall_mem_cons.mp earlier).2, failed⟩

section Related

variable {α β : Type} {R : α → β → Prop} {xs : List α} {ys : List β}

theorem exists_left_of_forall₂ (related : List.Forall₂ R xs ys) {y : β} (member : y ∈ ys) :
    ∃ x ∈ xs, R x y := by
  induction related with
  | nil => cases member
  | @cons x z xs ys here later ih =>
    cases member with
    | head => exact ⟨x, List.mem_cons_self, here⟩
    | tail _ member =>
      obtain ⟨w, present, same⟩ := ih member
      exact ⟨w, List.mem_cons_of_mem _ present, same⟩

theorem forall_mem_congr_of_forall₂ (related : List.Forall₂ R xs ys) {p : α → Prop} {q : β → Prop}
    (same : ∀ x y, R x y → (p x ↔ q y)) : (∀ x ∈ xs, p x) ↔ ∀ y ∈ ys, q y := by
  induction related with
  | nil => exact iff_of_true (List.forall_mem_nil p) (List.forall_mem_nil q)
  | cons here later ih => rw [List.forall_mem_cons, List.forall_mem_cons, same _ _ here, ih]

end Related

end SqlRecords
