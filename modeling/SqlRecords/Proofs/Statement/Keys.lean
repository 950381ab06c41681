import Mathlib.Data.List.Nodup
import SqlRecords.Proofs.Outcome
import SqlRecords.Proofs.Statement.Contribution
import SqlRecords.Proofs.Template.Expanded
import SqlRecords.Proofs.Text.Pieces
import SqlRecords.Proofs.Text.Runs

/-!
# Keys with their values

A list of keys is written with commas, and blanks around a key do not count. `KeyList` says which
keys a text lists. `Draft.appendKeys_binds` shows that as many values are bound to them in order,
and that a phrase which names the keys in this order takes the values in this order.
-/

namespace SqlRecords

/-! ### The keys of a list -/

/-- The keys that stand in the pieces of a text, one in each piece that is not blank. -/
inductive Keyed : List (List Char) → List String → Prop where
  | done : Keyed [] []
  | blank {piece : List Char} {pieces : List (List Char)} {names : List String}
      (blanks : ∀ c ∈ piece, Text.isBlank c = true) (later : Keyed pieces names) :
      Keyed (piece :: pieces) names
  | key {piece : List Char} {pieces : List (List Char)} {name : String} {names : List String}
      (trims : Text.Trims piece name.toList) (present : name ≠ "") (later : Keyed pieces names) :
      Keyed (piece :: pieces) (name :: names)

/-- The text lists the names with commas between them. -/
def KeyList (keys : String) (names : List String) : Prop :=
  ∃ pieces, (pieces ≠ [] ∧ (∀ p ∈ pieces, ',' ∉ p) ∧ [','].intercalate pieces = keys.toList) ∧
    Keyed pieces names

theorem trim_blank {piece : List Char} (blanks : ∀ c ∈ piece, Text.isBlank c = true) :
    Text.trim (String.ofList piece) = "" := by
  have only : Text.blank (String.ofList piece) = true := by
    rw [Text.blank, String.toList_ofList]
    exact List.all_eq_true.mpr blanks
  exact String.toList_eq_nil_iff.mp (Text.trim_of_blank only)

theorem blank_of_trim {piece : List Char} (nothing : Text.trim (String.ofList piece) = "") :
    ∀ c ∈ piece, Text.isBlank c = true := by
  obtain ⟨before, after, split, ahead, behind⟩ := (Text.trim_eq_iff.mp nothing).within
  rw [String.toList_ofList, String.toList_empty, List.append_nil] at split
  rw [split]
  exact List.forall_mem_append.mpr ⟨ahead, behind⟩

theorem keyed_iff {pieces : List (List Char)} {names : List String} :
    Keyed pieces names ↔
      ((pieces.map String.ofList).map Text.trim).filter (!·.isEmpty) = names := by
  constructor
  · intro keyed
    induction keyed with
    | done => rfl
    | blank blanks _ ih =>
      rw [List.map_cons, List.map_cons, trim_blank blanks, List.filter_cons_of_neg (by decide), ih]
    | @key piece pieces name names trims present _ ih =>
      have trimmed : Text.trim (String.ofList piece) = name :=
        Text.trim_eq_iff.mpr (by rw [String.toList_ofList]; exact trims)
      rw [List.map_cons, List.map_cons, trimmed, List.filter_cons_of_pos (by simp [present]), ih]
  · rintro rfl
    induction pieces with
    | nil => exact .done
    | cons piece pieces ih =>
      rw [List.map_cons, List.map_cons]
      by_cases nothing : Text.trim (String.ofList piece) = ""
      · rw [List.filter_cons_of_neg (by simp [nothing])]
        exact .blank (blank_of_trim nothing) ih
      · rw [List.filter_cons_of_pos (by simp [nothing])]
        have trims := Text.trims_trim (String.ofList piece)
        rw [String.toList_ofList] at trims
        exact .key trims nothing ih

theorem keysOf_eq_iff {keys : String} {names : List String} :
    Draft.keysOf keys = names ↔ KeyList keys names := by
  rw [Draft.keysOf, Text.split, ← keyed_iff]
  constructor
  · exact fun keyed => ⟨_, Text.pieces_eq_iff.mp rfl, keyed⟩
  · rintro ⟨pieces, cut, keyed⟩
    rw [Text.pieces_eq_iff.mpr cut]
    exact keyed

/-! ### Binding names in order -/

namespace Bindings

variable {b : Bindings} {name : String} {v : Value}

theorem get?_extend_of_notMem {names : List String} {values : List Value} (absent : name ∉ names) :
    (b.extend (names.zip values)).get? name = b.get? name := by
  induction names generalizing b values with
  | nil => rfl
  | cons n rest ih =>
    obtain ⟨other, later⟩ := not_or.mp (mt List.mem_cons.mpr absent)
    cases values with
    | nil => rfl
    | cons w values =>
      have step : (b.extend ((n :: rest).zip (w :: values))).get? name =
          ((b.insert n w).extend (rest.zip values)).get? name := rfl
      rw [step, ih later, get?_insert_of_ne (Ne.symm other)]

theorem get?_extend_at {names : List String} {values : List Value} {i : Nat}
    (named : names[i]? = some name) (valued : values[i]? = some v)
    (last : ∀ j, i < j → names[j]? ≠ some name) :
    (b.extend (names.zip values)).get? name = some v := by
  induction names generalizing b values i with
  | nil => cases named
  | cons n rest ih =>
    cases values with
    | nil => cases valued
    | cons w values =>
      have step : (b.extend ((n :: rest).zip (w :: values))).get? name =
          ((b.insert n w).extend (rest.zip values)).get? name := rfl
      rw [step]
      cases i with
      | zero =>
        obtain rfl : n = name := Option.some.inj named
        obtain rfl : w = v := Option.some.inj valued
        have absent : n ∉ rest := by
          intro member
          obtain ⟨j, found⟩ := List.mem_iff_getElem?.mp member
          exact last (j + 1) (Nat.succ_pos j) found
        rw [get?_extend_of_notMem absent, get?_insert_self]
      | succ i => exact ih named valued fun j later => last (j + 1) (Nat.succ_lt_succ later)

theorem forall₂_get?_extend {names : List String} {values : List Value} (distinct : names.Nodup)
    (fits : names.length = values.length) :
    List.Forall₂ (fun name v => (b.extend (names.zip values)).get? name = some v) names values := by
  refine List.forall₂_iff_zip.mpr ⟨fits, fun {name v} member => ?_⟩
  obtain ⟨i, found⟩ := List.mem_iff_getElem?.mp member
  obtain ⟨named, valued⟩ := List.getElem?_zip_eq_some.mp found
  refine get?_extend_at named valued fun j later again => ?_
  have inside : j < names.length := (List.getElem?_eq_some_iff.mp again).1
  exact List.nodup_iff_getElem?_ne_getElem?.mp distinct i j later inside (named.trans again.symm)

end Bindings

/-! ### Phrases that name the keys -/

/-- The values of a list, or the one value. -/
def Value.spliced : Value → List Value
  | .list items => items
  | v => [v]

namespace Template

/-- The name in a placeholder. -/
def Token.name? : Token → Option String
  | placeholder name => some name
  | _ => none

variable {params : Bindings}

theorem mem_names_iff {ts : List Token} {name : String} :
    name ∈ ts.filterMap Token.name? ↔ Token.placeholder name ∈ ts := by
  rw [List.mem_filterMap]
  constructor
  · rintro ⟨t, member, named⟩
    cases t with
    | placeholder n =>
      obtain rfl := Option.some.inj named
      exact member
    | quoted | doubleColon | other => cases named
  · exact fun member => ⟨_, member, rfl⟩

theorem flatMap_values (params : Bindings) (ts : List Token) :
    ts.flatMap (Token.values params) = (ts.filterMap Token.name?).flatMap (valuesOf params) := by
  induction ts with
  | nil => rfl
  | cons t rest ih =>
    rw [List.flatMap_cons, ih]
    cases t with
    | placeholder name => rfl
    | quoted | doubleColon | other => rfl

theorem valuesOf_of_get? {name : String} {v : Value} (bound : params.get? name = some v) :
    valuesOf params name = v.spliced := by
  rw [valuesOf, bound]
  cases v <;> rfl

theorem fault?_of_get? {name : String} {v : Value} (bound : params.get? name = some v)
    (present : v ≠ .list []) : fault? params name = none := by
  rw [fault?, bound]
  cases v with
  | list items =>
    cases items with
    | nil => exact absurd rfl present
    | cons item items => rfl
  | _ => rfl

theorem flatMap_valuesOf {names : List String} {values : List Value}
    (bound : List.Forall₂ (fun name v => params.get? name = some v) names values) :
    names.flatMap (valuesOf params) = values.flatMap Value.spliced := by
  induction bound with
  | nil => rfl
  | cons here _ ih => rw [List.flatMap_cons, List.flatMap_cons, valuesOf_of_get? here, ih]

/-- A template whose placeholders have the names of bound values, in their order, takes these values
in this order. -/
theorem expand_of_names {s : String} {ts : List Token} {values : List Value}
    (lexed : Lexes s.toList ts) (filled : ∀ v ∈ values, v ≠ .list [])
    (bound : List.Forall₂ (fun name v => params.get? name = some v)
      (ts.filterMap Token.name?) values) :
    ∃ st, expand s params = .ok st ∧ st.params = values.flatMap Value.spliced := by
  have clean : ∀ name, Token.placeholder name ∈ ts → fault? params name = none := by
    intro name member
    obtain ⟨v, present, found⟩ := exists_left_of_forall₂ bound.flip (mem_names_iff.mpr member)
    exact fault?_of_get? found (filled v present)
  have taken : ts.flatMap (Token.values params) = values.flatMap Value.spliced := by
    rw [flatMap_values, flatMap_valuesOf bound]
  let st : Statement := ⟨String.join (ts.map (Token.text params)), ts.flatMap (Token.values params)⟩
  refine ⟨st, ?_, taken⟩
  rw [expand, pieces, lexed.pieces_eq]
  exact (expandPieces_ok_iff ts st).mpr ⟨clean, rfl, rfl⟩

end Template

namespace Draft

/-- The draft `after` is `d` with a phrase that binds the values to the names. -/
structure KeysBound (d : Draft) (phrase : String) (names : List String) (values : List Value)
    (after : Draft) : Prop where
  text : after.text = d.text ++ spacing d.spaced phrase
  params : after.params = d.params
  /-- A name has the value at its last position. -/
  bound : ∀ (i : Nat) (name : String) (v : Value), names[i]? = some name → values[i]? = some v →
    (∀ j : Nat, i < j → names[j]? ≠ some name) → after.named.get? name = some v
  others : ∀ name, name ∉ names → after.named.get? name = d.named.get? name
  /-- A phrase whose placeholders are the names in order takes the values in order. -/
  expands : ∀ ts, Template.Lexes phrase.toList ts → ts.filterMap Template.Token.name? = names →
    names.Nodup → (∀ v ∈ values, v ≠ .list []) →
      ∃ st, Template.expand phrase after.named = .ok st ∧
        st.params = values.flatMap Value.spliced

theorem keysBound_append (d : Draft) (phrase : String) {names : List String} {values : List Value}
    (fits : names.length = values.length) :
    KeysBound d phrase names values (d.append phrase (.named (names.zip values))) where
  text := congrArg Draft.text append_eq
  params := List.append_nil d.params
  bound := fun _ _ _ named valued last => Bindings.get?_extend_at named valued last
  others := fun _ absent => Bindings.get?_extend_of_notMem absent
  expands := by
    rintro ts lexed rfl distinct filled
    exact Template.expand_of_names lexed filled (Bindings.forall₂_get?_extend distinct fits)

/-- What comes of appending a phrase that binds the values to the names. -/
structure BindsKeys (d : Draft) (phrase : String) (names : List String) (values : List Value)
    (result : Except StatementError Draft) : Prop where
  succeeds : (∃ after, result = .ok after) ↔ names.length = values.length
  bound : ∀ after, result = .ok after → KeysBound d phrase names values after
  fails : ∀ e, result = .error e ↔
    names.length ≠ values.length ∧ e = .argumentMismatch names.length values.length

theorem appendKeys_bindsKeys (d : Draft) (phrase keys : String) (values : List Value) :
    BindsKeys d phrase (keysOf keys) values (d.appendKeys phrase keys values) := by
  rw [appendKeys]
  by_cases fits : (keysOf keys).length = values.length
  · rw [if_pos fits]
    refine ⟨iff_of_true ⟨_, rfl⟩ fits, ?_, fun e => ?_⟩
    · rintro after made
      obtain rfl := Except.ok.inj made
      exact keysBound_append d phrase fits
    · refine iff_of_false ?_ fun held => held.1 fits
      intro failed
      cases failed
  · rw [if_neg fits]
    refine ⟨iff_of_false ?_ fits, ?_, fun e => ?_⟩
    · rintro ⟨after, made⟩
      cases made
    · rintro after made
      cases made
    · rw [Except.error.injEq, and_iff_right fits, eq_comm]

/-- A text lists its keys in one way. Appending a phrase with these keys and some values succeeds if
there are as many values as keys, and the error tells both numbers otherwise. Then each key has the
last of the values that it is listed with, every other name is bound as before, and a phrase that
names distinct keys in the order of the list takes the values in this order. -/
theorem appendKeys_binds (d : Draft) (phrase keys : String) (values : List Value) :
    ∃ names, KeyList keys names ∧ (∀ others, KeyList keys others → others = names) ∧
      BindsKeys d phrase names values (d.appendKeys phrase keys values) :=
  ⟨keysOf keys, keysOf_eq_iff.mp rfl, fun _ listed => (keysOf_eq_iff.mpr listed).symm,
    appendKeys_bindsKeys d phrase keys values⟩

/-- A colon in quotes names no key, and a blank key takes no value. -/
theorem appendKeys_binds_quoted :
    ∃ after st,
      appendKeys {} ":a ':c' :b" " a, ,b\n" [.bool true, .list [.text "x", .null]] = .ok after ∧
      Template.expand ":a ':c' :b" after.named = .ok st ∧
      st.params = [.bool true, .text "x", .null] := by
  obtain ⟨names, listed, only, succeeds, bound, -⟩ :=
    appendKeys_binds {} ":a ':c' :b" " a, ,b\n" [.bool true, .list [.text "x", .null]]
  obtain rfl : ["a", "b"] = names := only _ (keysOf_eq_iff.mp (by decide))
  obtain ⟨after, made⟩ := succeeds.mpr rfl
  have blank : ' ' = ':' → ∀ cs, ¬ Template.TakesColon cs := fun same => absurd same (by decide)
  have lexed : Template.Lexes ":a ':c' :b".toList _ :=
    .placeholder (by decide) (.other (by decide) (blank · _) (.quoted (by decide)
      (.other (by decide) (blank · _) (.placeholder (by decide) .done))))
  obtain ⟨st, expanded, taken⟩ := (bound after made).expands _ lexed rfl (by decide) (by simp)
  exact ⟨after, st, made, expanded, taken⟩

end Draft

end SqlRecords
