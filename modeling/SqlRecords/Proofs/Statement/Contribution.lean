import SqlRecords.Proofs.Filter.Text
import SqlRecords.Statement.Step

/-!
# What steps contribute to a draft

A step that nothing holds back adds a text, positional parameters and named parameters that only
its arguments and the draft's blanks decide; any other step adds nothing. What holds back each
method of a draft and what it says are told method by method; `Draft.run_gathers` shows that a draft
holds what it held before and the contributions of the methods called on it, in their order.
-/

namespace SqlRecords

/-! ### Named parameters -/

namespace Bindings

variable {b : Bindings} {name key : String} {v : Value}

/-- The value that the last pair of a name binds. -/
def lastBound (name : String) (pairs : List (String × Value)) : Option Value :=
  (pairs.reverse.find? fun pair => pair.1 = name).map (·.2)

theorem get?_insert_self : (b.insert name v).get? name = some v := by
  have gone : (b.entries.filter fun entry => entry.1 ≠ name).find? (fun entry => entry.1 = name) =
      none := by
    rw [List.find?_eq_none]
    intro entry member
    simpa using (List.mem_filter.mp member).2
  rw [get?, insert, List.find?_append, gone]
  simp

theorem get?_insert_of_ne (other : key ≠ name) : (b.insert key v).get? name = b.get? name := by
  have kept : (b.entries.filter fun entry => entry.1 ≠ key).find? (fun entry => entry.1 = name) =
      b.entries.find? fun entry => entry.1 = name := by
    rw [List.find?_filter]
    congr 1
    funext entry
    by_cases here : entry.1 = name
    · simp [here, other.symm]
    · simp [here]
  rw [get?, insert, List.find?_append, kept, get?]
  simp [other]

theorem get?_extend (b : Bindings) (name : String) (pairs : List (String × Value)) :
    (b.extend pairs).get? name = (lastBound name pairs).or (b.get? name) := by
  induction pairs generalizing b with
  | nil => rfl
  | cons pair rest ih =>
    have step : (b.extend (pair :: rest)).get? name =
        (lastBound name rest).or ((b.insert pair.1 pair.2).get? name) := ih _
    rw [step, lastBound, lastBound, List.reverse_cons, List.find?_append, Option.map_or,
      Option.or_assoc]
    congr 1
    by_cases here : pair.1 = name
    · rw [here, get?_insert_self]
      simp [here]
    · rw [get?_insert_of_ne here]
      simp [here]

theorem get?_ofList (pairs : List (String × Value)) (name : String) :
    (ofList pairs).get? name = lastBound name pairs := by
  rw [ofList, get?_extend]
  exact Option.or_none

theorem lastBound_append (name : String) (pairs later : List (String × Value)) :
    lastBound name (pairs ++ later) = (lastBound name later).or (lastBound name pairs) := by
  rw [lastBound, List.reverse_append, List.find?_append, Option.map_or, lastBound, lastBound]

theorem lastBound_single (name key : String) (v : Value) :
    lastBound name [(key, v)] = if key = name then some v else none := by
  by_cases here : key = name <;> simp [lastBound, here]

end Bindings

/-! ### What holds a step back -/

/-- Null, or without characters, bytes or elements. -/
def Value.Void (v : Value) : Prop := v = .null ∨ v = .text "" ∨ v = .bytes [] ∨ v = .list []

/-- Void, or a text of blanks alone. -/
def Value.Blank (v : Value) : Prop := v.Void ∨ ∃ s, v = .text s ∧ ∀ c ∈ s.toList, Text.isBlank c

theorem Value.isNull_iff (v : Value) : v.isNull = true ↔ v = .null := by
  cases v <;> simp [isNull]

theorem Value.isEmpty_iff_void (v : Value) : v.isEmpty = true ↔ v.Void := by
  cases v <;> simp [isEmpty, Void]

theorem Value.isBlank_iff_blank (v : Value) : v.isBlank = true ↔ v.Blank := by
  cases v with
  | text s =>
    have all : Text.blank s = true ↔ ∀ c ∈ s.toList, Text.isBlank c := List.all_eq_true
    rw [isBlank, all]
    constructor
    · exact fun blanks => .inr ⟨s, rfl, blanks⟩
    · rintro (hollow | ⟨t, same, blanks⟩)
      · obtain rfl : s = "" := by simpa [Void] using hollow
        simp
      · obtain rfl := Value.text.inj same
        exact blanks
  | _ => simp [isBlank, isEmpty, Blank, Void]

namespace Draft

/-- The guard holds back a phrase for this value. -/
def Guard.Refuses : Guard → Value → Prop
  | always, _ => False
  | unlessNull, v => v = .null
  | unlessEmpty, v => v.Void
  | unlessBlank, v => v.Blank

/-- The gate holds back a step that binds this value. -/
def Gate.Shut : Gate → Value → Prop
  | .when condition, _ => condition = false
  | .guarded guard, v => guard.Refuses v

/-- The step does nothing: its condition is false, the value it is guarded by is missing, or its
keys do not fit its values. -/
def Step.Idle : Step → Prop
  | .plain condition _ | .values condition _ _ | .membership condition _ _
  | .namedList condition _ _ _ | .pairs condition _ _ | .bound condition _ _ => condition = false
  | .value gate _ v | .pattern gate _ _ v | .named gate _ _ v | .namedPattern gate _ _ _ v =>
    gate.Shut v
  | .keys condition _ ks vs => condition = false ∨ (keysOf ks).length ≠ vs.length

theorem Guard.refuses_iff (guard : Guard) (v : Value) :
    guard.Refuses v ↔ guard.admits v = false := by
  cases guard with
  | always => simp [Refuses, admits]
  | unlessNull => simp [Refuses, admits, v.isNull_iff]
  | unlessEmpty => simp [Refuses, admits, v.isEmpty_iff_void]
  | unlessBlank => simp [Refuses, admits, v.isBlank_iff_blank]

instance (guard : Guard) (v : Value) : Decidable (guard.Refuses v) :=
  decidable_of_iff _ (guard.refuses_iff v).symm

instance : (gate : Gate) → (v : Value) → Decidable (gate.Shut v)
  | .when condition, _ => inferInstanceAs (Decidable (condition = false))
  | .guarded guard, v => inferInstanceAs (Decidable (guard.Refuses v))

instance : DecidablePred Step.Idle
  | .plain condition _ | .values condition _ _ | .membership condition _ _
  | .namedList condition _ _ _ | .pairs condition _ _ | .bound condition _ _ =>
    inferInstanceAs (Decidable (condition = false))
  | .value gate _ v | .pattern gate _ _ v | .named gate _ _ v | .namedPattern gate _ _ _ v =>
    inferInstanceAs (Decidable (gate.Shut v))
  | .keys condition _ ks vs =>
    inferInstanceAs (Decidable (condition = false ∨ (keysOf ks).length ≠ vs.length))

/-! ### What a step adds -/

/-- A text, positional parameters, and named parameters in the order they are bound. -/
structure Contribution where
  text : String := ""
  params : List Value := []
  pairs : List (String × Value) := []

/-- A phrase and the blank behind it. -/
def spacing (spaced : Bool) (phrase : String) : String := if spaced then phrase ++ " " else phrase

/-- A phrase and the placeholders of a list. -/
def listing (phrase : String) (vs : List Value) : String :=
  phrase ++ " (" ++ Criterion.marks vs ++ ") "

/-- What a step says when nothing holds it back. -/
def Step.said (spaced : Bool) : Step → Contribution
  | .plain _ phrase | .bound _ phrase .nothing => { text := spacing spaced phrase }
  | .value _ phrase v => { text := spacing spaced phrase, params := [v] }
  | .values _ phrase vs | .bound _ phrase (.positional vs) =>
    { text := spacing spaced phrase, params := vs }
  | .membership _ phrase vs | .bound _ phrase (.membership vs) =>
    { text := spacing spaced (listing phrase vs), params := vs }
  | .pattern _ w phrase v | .bound _ phrase (.pattern w v) =>
    { text := spacing spaced phrase, params := [.text (w.wrap v)] }
  | .named _ phrase key v => { text := spacing spaced phrase, pairs := [(key, v)] }
  | .namedList _ phrase key vs => { text := spacing spaced phrase, pairs := [(key, .list vs)] }
  | .namedPattern _ w phrase key v | .bound _ phrase (.namedPattern w key v) =>
    { text := spacing spaced phrase, pairs := [(key, .text (w.wrap v))] }
  | .pairs _ phrase kvs | .bound _ phrase (.named kvs) =>
    { text := spacing spaced phrase, pairs := kvs }
  | .keys _ phrase ks vs => { text := spacing spaced phrase, pairs := (keysOf ks).zip vs }

/-- What a step adds to any draft with these blanks. -/
def Step.contribution (spaced : Bool) (s : Step) : Contribution :=
  if s.Idle then {} else s.said spaced

/-- The draft and what is added to it. -/
def adding (d : Draft) (c : Contribution) : Draft :=
  { d with
    text := d.text ++ c.text
    params := d.params ++ c.params
    named := d.named.extend c.pairs }

/-! ### Single steps -/

section Single

variable {d : Draft} {s : Step} {gate : Gate} {phrase : String} {v : Value} {binding : Binding}
  {e : StatementError}

theorem appendGated_of_shut {binding : Value → Binding} (shut : gate.Shut v) :
    d.appendGated gate phrase v binding = d := by
  cases gate with
  | when condition =>
    obtain rfl : condition = false := shut
    rfl
  | guarded guard =>
    have refused := (guard.refuses_iff v).mp shut
    rw [appendGated, appendGuarded, refused]
    rfl

theorem appendGated_of_not_shut {binding : Value → Binding} (through : ¬ gate.Shut v) :
    d.appendGated gate phrase v binding = d.append phrase (binding v) := by
  cases gate with
  | when condition =>
    obtain rfl : condition = true := by simpa [Gate.Shut] using through
    rfl
  | guarded guard =>
    have admitted : guard.admits v = true := by
      simpa [Gate.Shut, guard.refuses_iff] using through
    rw [appendGated, appendGuarded, admitted]
    rfl

theorem append_eq : d.append phrase binding =
    d.adding ((Step.bound true phrase binding).said d.spaced) := by
  have listed (vs : List Value) : phraseText d.spaced phrase (.membership vs) =
      spacing d.spaced (listing phrase vs) := by
    rw [phraseText, Criterion.repeated_marks, spacing, listing]
    cases d.spaced <;> simp
  have plain : phrase ++ (if d.spaced then " " else "") = spacing d.spaced phrase := by
    rw [spacing]
    cases d.spaced <;> simp
  cases binding with
  | membership vs =>
    rw [append, listed]
    rfl
  | _ =>
    rw [append, phraseText, plain]
    · rfl
    · simp

/-- Only a step whose keys do not fit its values fails. -/
theorem idle_of_fails (failed : d.perform s = .error e) : s.Idle := by
  cases s with
  | keys condition phrase keys vs =>
    rw [perform, appendKeysIf, appendKeys] at failed
    by_cases fits : (keysOf keys).length = vs.length
    · cases condition <;> simp [fits] at failed
    · exact .inr fits
  | _ => cases failed

theorem advance_of_idle (idle : s.Idle) : d.advance s = d := by
  cases s with
  | plain condition | values condition | membership condition | namedList condition
  | pairs condition | bound condition =>
    obtain rfl : condition = false := idle
    rfl
  | value gate | pattern gate | named gate | namedPattern gate =>
    rw [advance, perform, appendGated_of_shut idle]
  | keys condition phrase keys vs =>
    obtain rfl | other := idle
    · rfl
    · rw [advance, perform, appendKeysIf, appendKeys, if_neg other]
      cases condition <;> rfl

theorem advance_of_not_idle (active : ¬ s.Idle) : d.advance s = d.adding (s.said d.spaced) := by
  cases s with
  | plain condition | values condition | membership condition | namedList condition
  | pairs condition | bound condition =>
    obtain rfl : condition = true := by simpa [Step.Idle] using active
    exact append_eq
  | value gate | pattern gate | named gate | namedPattern gate =>
    rw [advance, perform, appendGated_of_not_shut active]
    exact append_eq
  | keys condition phrase keys vs =>
    obtain ⟨rfl, fits⟩ : condition = true ∧ (keysOf keys).length = vs.length := by
      simpa [Step.Idle] using active
    rw [advance, perform, appendKeysIf, appendKeys, if_pos rfl, if_pos fits]
    exact append_eq

theorem adding_nothing : d.adding {} = d := by
  rw [adding, String.append_empty, List.append_nil]
  rfl

theorem advance_eq : d.advance s = d.adding (s.contribution d.spaced) := by
  by_cases idle : s.Idle
  · rw [Step.contribution, if_pos idle, advance_of_idle idle, adding_nothing]
  · rw [Step.contribution, if_neg idle, advance_of_not_idle idle]

end Single

/-! ### Methods -/

/-- The method does nothing: it is told not to append, the value that it looks at is missing, or its
keys do not fit its values. -/
def Method.Held : Method → Prop
  | .plain _ | .value _ _ | .values _ _ | .membership _ _ | .pattern _ _ | .patternBefore _ _
  | .patternAfter _ _ | .named _ _ _ | .namedList _ _ _ | .namedPattern _ _ _
  | .namedPatternBefore _ _ _ | .namedPatternAfter _ _ _ | .pairs _ _ => False
  | .plainIf condition _ | .boundIf condition _ _ | .valueIf condition _ _
  | .valuesIf condition _ _ | .membershipIf condition _ _ | .patternWith condition _ _ _
  | .patternIf condition _ _ | .patternBeforeIf condition _ _ | .patternAfterIf condition _ _
  | .namedIf condition _ _ _ | .namedListIf condition _ _ _ | .namedPatternWith condition _ _ _ _
  | .pairsIf condition _ _ => condition = false
  | .valueUnlessNull _ v | .patternUnlessNull _ v | .namedUnlessNull _ _ v => v = .null
  | .valueUnlessEmpty _ v | .patternUnlessEmpty _ v | .namedUnlessEmpty _ _ v => v.Void
  | .valueUnlessBlank _ v | .patternUnlessBlank _ v | .namedUnlessBlank _ _ v
  | .namedPatternUnlessBlank _ _ v => v.Blank
  | .keys _ ks vs => (keysOf ks).length ≠ vs.length
  | .keysIf condition _ ks vs => condition = false ∨ (keysOf ks).length ≠ vs.length

/-- What a method says when nothing holds it back. -/
def Method.said (spaced : Bool) : Method → Contribution
  | .plain phrase | .plainIf _ phrase | .boundIf _ phrase .nothing =>
    { text := spacing spaced phrase }
  | .value phrase v | .valueIf _ phrase v | .valueUnlessNull phrase v | .valueUnlessEmpty phrase v
  | .valueUnlessBlank phrase v => { text := spacing spaced phrase, params := [v] }
  | .values phrase vs | .valuesIf _ phrase vs | .boundIf _ phrase (.positional vs) =>
    { text := spacing spaced phrase, params := vs }
  | .membership phrase vs | .membershipIf _ phrase vs | .boundIf _ phrase (.membership vs) =>
    { text := spacing spaced (listing phrase vs), params := vs }
  | .pattern phrase v | .patternIf _ phrase v | .patternUnlessNull phrase v
  | .patternUnlessEmpty phrase v | .patternUnlessBlank phrase v =>
    { text := spacing spaced phrase, params := [.text ("%" ++ v.asText ++ "%")] }
  | .patternBefore phrase v | .patternBeforeIf _ phrase v =>
    { text := spacing spaced phrase, params := [.text ("%" ++ v.asText)] }
  | .patternAfter phrase v | .patternAfterIf _ phrase v =>
    { text := spacing spaced phrase, params := [.text (v.asText ++ "%")] }
  | .patternWith _ w phrase v | .boundIf _ phrase (.pattern w v) =>
    { text := spacing spaced phrase, params := [.text (w.wrap v)] }
  | .named phrase key v | .namedIf _ phrase key v | .namedUnlessNull phrase key v
  | .namedUnlessEmpty phrase key v | .namedUnlessBlank phrase key v =>
    { text := spacing spaced phrase, pairs := [(key, v)] }
  | .namedList phrase key vs | .namedListIf _ phrase key vs =>
    { text := spacing spaced phrase, pairs := [(key, .list vs)] }
  | .namedPattern phrase key v | .namedPatternUnlessBlank phrase key v =>
    { text := spacing spaced phrase, pairs := [(key, .text ("%" ++ v.asText ++ "%"))] }
  | .namedPatternBefore phrase key v =>
    { text := spacing spaced phrase, pairs := [(key, .text ("%" ++ v.asText))] }
  | .namedPatternAfter phrase key v =>
    { text := spacing spaced phrase, pairs := [(key, .text (v.asText ++ "%"))] }
  | .namedPatternWith _ w phrase key v | .boundIf _ phrase (.namedPattern w key v) =>
    { text := spacing spaced phrase, pairs := [(key, .text (w.wrap v))] }
  | .pairs phrase kvs | .pairsIf _ phrase kvs | .boundIf _ phrase (.named kvs) =>
    { text := spacing spaced phrase, pairs := kvs }
  | .keys phrase ks vs | .keysIf _ phrase ks vs =>
    { text := spacing spaced phrase, pairs := (keysOf ks).zip vs }

/-- Every method is gated as its name says. -/
theorem Method.idle_step_iff (m : Method) : m.step.Idle ↔ m.Held := by
  cases m <;> simp [step, Step.Idle, Held, Gate.Shut, Guard.Refuses]

/-- Every method binds what its name says. -/
theorem Method.said_step (spaced : Bool) (m : Method) : m.step.said spaced = m.said spaced := by
  cases m with
  | boundIf condition phrase binding => cases binding <;> rfl
  | _ => rfl

instance : DecidablePred Method.Held := fun m => decidable_of_iff _ m.idle_step_iff

/-- What a method adds to any draft with these blanks. -/
def Method.contribution (spaced : Bool) (m : Method) : Contribution :=
  if m.Held then {} else m.said spaced

theorem Method.contribution_step (spaced : Bool) (m : Method) :
    m.step.contribution spaced = m.contribution spaced := by
  by_cases held : m.Held
  · rw [Step.contribution, if_pos (m.idle_step_iff.mpr held), contribution, if_pos held]
  · rw [Step.contribution, if_neg fun idle => held (m.idle_step_iff.mp idle), m.said_step,
      contribution, if_neg held]

/-! ### Whole runs -/

/-- What steps or methods, each of which adds what is told of it, add one after the other. -/
def Contribution.ofEach {ι : Type} (added : ι → Contribution) (steps : List ι) : Contribution where
  text := String.join (steps.map fun s => (added s).text)
  params := steps.flatMap fun s => (added s).params
  pairs := steps.flatMap fun s => (added s).pairs

theorem run_eq (d : Draft) (steps : List Step) :
    d.run steps = d.adding (.ofEach (·.contribution d.spaced) steps) := by
  induction steps generalizing d with
  | nil => exact adding_nothing.symm
  | cons s rest ih =>
    have later : d.run (s :: rest) = (d.advance s).run rest := rfl
    rw [later, ih, advance_eq]
    simp only [adding, Contribution.ofEach, List.map_cons, String.join_cons, List.flatMap_cons,
      String.append_assoc, List.append_assoc, Bindings.extend, List.foldl_append]

theorem calls_eq (d : Draft) (methods : List Method) :
    d.calls methods = d.adding (.ofEach (·.contribution d.spaced) methods) := by
  rw [calls, run_eq, Contribution.ofEach, Contribution.ofEach]
  simp only [List.map_map, List.flatMap_map, Function.comp_def, Method.contribution_step]

/-- A draft after calls of some methods, told from the draft before and from what each method
contributes. -/
structure Gathers (before : Draft) (methods : List Method) (after : Draft) : Prop where
  text : after.text =
    before.text ++ String.join (methods.map fun m => (m.contribution before.spaced).text)
  params : after.params =
    before.params ++ methods.flatMap fun m => (m.contribution before.spaced).params
  /-- The last method to bind a name decides, and the draft before if no method binds it. -/
  named : ∀ name, after.named.get? name =
    (Bindings.lastBound name (methods.flatMap fun m => (m.contribution before.spaced).pairs)).or
      (before.named.get? name)
  spaced : after.spaced = before.spaced
  /-- A method that is held back contributes nothing and leaves any draft as it was. -/
  held : ∀ m ∈ methods, m.Held → m.contribution before.spaced = {} ∧ ∀ d : Draft, d.calls [m] = d
  /-- A method that fails is one that contributes nothing. -/
  failing : ∀ m ∈ methods, ∀ (d : Draft) (e : StatementError), d.call m = .error e → m.Held

/-- A draft holds what it held before and, in their order, the contributions of the methods that are
called on it. -/
theorem run_gathers (d : Draft) (methods : List Method) :
    Gathers d methods (d.calls methods) where
  text := by rw [calls_eq]; rfl
  params := by rw [calls_eq]; rfl
  named name := by
    rw [calls_eq]
    exact Bindings.get?_extend d.named name _
  spaced := by rw [calls_eq]; rfl
  held m _ held := ⟨if_pos held, fun _ => advance_of_idle (m.idle_step_iff.mpr held)⟩
  failing m _ _ _ failed := m.idle_step_iff.mp (idle_of_fails failed)

example :
    (calls { spaced := true } [.plain "from t where", .membership "id in" [.null, .null],
      .valueUnlessBlank "and name = ?" (.text "  "),
      .keys "and a = :a" "a, b" [.null]]).text = "from t where id in (?,?)  " := rfl

end Draft

end SqlRecords
