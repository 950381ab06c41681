import Mathlib.Logic.Relation
import SqlRecords.Proofs.Filter.Request
import SqlRecords.Settings.Basic

/-!
# Leads

Requests of different parts of a program share one list of entries and are told apart by the lead
of their keys. No lead that settings may have holds a dash, so that the first dash of a key ends
the lead: `FilterKey.leads_isolate` shows that no entry belongs to two leads, and that the entries
of other leads do not matter.
-/

namespace SqlRecords

/-! ### Leads that settings may have -/

theorem Settings.validate_ok_iff (s : Settings) :
    s.validate = .ok () ↔
      (∀ rule ∈ s.database.rules, rule.1 = false) ∧ ∀ rule ∈ s.query.rules, rule.1 = false := by
  rw [← List.forall_mem_append, validate]
  cases found : (s.database.rules ++ s.query.rules).find? (·.1) with
  | none =>
    refine iff_of_true rfl fun rule member => ?_
    simpa using List.find?_eq_none.mp found rule member
  | some rule =>
    refine iff_of_false nofun fun kept => ?_
    have broken := List.find?_some found
    rw [kept rule (List.mem_of_find?_eq_some found)] at broken
    cases broken

theorem QuerySettings.rules_kept_iff (q : QuerySettings) :
    (∀ rule ∈ q.rules, rule.1 = false) ↔
      q.lead ≠ "" ∧ '-' ∉ q.lead.toList ∧ 0 < q.pageSize.val := by
  simp [rules]

/-- A database whose settings keep every rule. -/
def DatabaseSettings.shop : DatabaseSettings where
  host := "localhost"
  port := ⟨3306, by decide⟩
  database := "shop"
  username := "root"
  password := "secret"
  minConnections := ⟨1, by decide⟩
  maxConnections := ⟨5, by decide⟩
  connectionTimeout := ⟨30, by decide⟩
  idleTimeout := ⟨600, by decide⟩
  maxLifetime := ⟨3600, by decide⟩

namespace FilterKey

/-- Settings that keep every rule may have this lead. -/
def Accepted (lead : String) : Prop := ∃ s : Settings, s.validate = .ok () ∧ s.query.lead = lead

theorem accepted_iff (lead : String) : Accepted lead ↔ lead ≠ "" ∧ '-' ∉ lead.toList := by
  constructor
  · rintro ⟨s, valid, rfl⟩
    obtain ⟨-, kept⟩ := s.validate_ok_iff.mp valid
    obtain ⟨given, undashed, -⟩ := s.query.rules_kept_iff.mp kept
    exact ⟨given, undashed⟩
  · rintro ⟨given, undashed⟩
    have reached : ∀ rule ∈ DatabaseSettings.shop.rules, rule.1 = false := by decide
    have size : (0 : Int) < 20 := by decide
    have read : ∀ rule ∈ QuerySettings.rules { lead := lead }, rule.1 = false :=
      (QuerySettings.rules_kept_iff _).mpr ⟨given, undashed, size⟩
    exact ⟨⟨.shop, { lead := lead }⟩, (Settings.validate_ok_iff _).mpr ⟨reached, read⟩, rfl⟩

/-- The first dash of a key ends a lead without dashes. -/
theorem lead_inj {lead other encoded encoded' : String} (undashed : '-' ∉ lead.toList)
    (undashed' : '-' ∉ other.toList) (same : lead ++ "-" ++ encoded = other ++ "-" ++ encoded') :
    lead = other := by
  have cuts := congrArg (Text.splitFirst '-') same
  rw [Text.splitFirst_eq_some_iff.mpr ⟨rfl, undashed⟩,
    Text.splitFirst_eq_some_iff.mpr ⟨rfl, undashed'⟩] at cuts
  exact congrArg Prod.fst (Option.some.inj cuts)

/-! ### Requests that say the same under a lead -/

/-- The entry contributes to what is read under the lead, be it a criterion or an error. -/
def Taken (lead : String) (entry : String × String) : Prop := parseAll lead [entry] ≠ .ok []

/-- One request becomes another by an entry that comes, goes or changes its place; its key does not
have the lead, or it has no value. -/
inductive Edit (lead : String) : List (String × String) → List (String × String) → Prop where
  | insert {entry : String × String} (before after : List (String × String))
      (idle : ¬ Counts lead entry) : Edit lead (before ++ after) (before ++ entry :: after)
  | remove {entry : String × String} (before after : List (String × String))
      (idle : ¬ Counts lead entry) : Edit lead (before ++ entry :: after) (before ++ after)
  | move {entry : String × String} {before after before' after' : List (String × String)}
      (others : before ++ after = before' ++ after') (idle : ¬ Counts lead entry) :
      Edit lead (before ++ entry :: after) (before' ++ entry :: after')

section Lead

variable {lead : String}

theorem taken_iff_counts (entry : String × String) : Taken lead entry ↔ Counts lead entry := by
  rw [Taken]
  constructor
  · intro taken
    refine Decidable.byContradiction fun skipped => taken ?_
    rw [parseAll_cons_of_not_counts skipped]
    rfl
  · rintro ⟨encoded, encodes⟩ nothing
    rw [parseAll_cons_of_encodes encodes] at nothing
    obtain ⟨k, -, nothing⟩ := bind_ok nothing
    cases nothing

/-- Only the entries that count are read. -/
theorem parseAll_filter (request : List (String × String)) :
    parseAll lead (request.filter (Counts lead ·)) = parseAll lead request := by
  induction request with
  | nil => rfl
  | cons entry rest ih =>
    by_cases counts : Counts lead entry
    · obtain ⟨encoded, encodes⟩ := counts
      rw [List.filter_cons_of_pos (by simpa using ⟨encoded, encodes⟩),
        parseAll_cons_of_encodes encodes, parseAll_cons_of_encodes encodes, ih]
    · rw [List.filter_cons_of_neg (by simpa using counts), parseAll_cons_of_not_counts counts, ih]

theorem filter_idle {entry : String × String} (idle : ¬ Counts lead entry)
    (before after : List (String × String)) :
    (before ++ entry :: after).filter (Counts lead ·) =
      (before ++ after).filter (Counts lead ·) := by
  rw [List.filter_append, List.filter_append, List.filter_cons_of_neg (by simpa using idle)]

theorem Edit.filter_eq {request request' : List (String × String)}
    (edit : Edit lead request request') :
    request.filter (Counts lead ·) = request'.filter (Counts lead ·) := by
  cases edit with
  | insert before after idle => exact (filter_idle idle before after).symm
  | remove before after idle => exact filter_idle idle before after
  | move others idle => rw [filter_idle idle, filter_idle idle, others]

theorem Edit.parseAll_eq {request request' : List (String × String)}
    (edit : Edit lead request request') : parseAll lead request = parseAll lead request' := by
  rw [← parseAll_filter request, edit.filter_eq, parseAll_filter]

theorem parseAll_of_edits {request request' : List (String × String)}
    (edits : Relation.ReflTransGen (Edit lead) request request') :
    parseAll lead request = parseAll lead request' := by
  induction edits with
  | refl => rfl
  | tail _ edit ih => exact ih.trans edit.parseAll_eq

theorem parseAll_append (request later : List (String × String)) :
    parseAll lead (request ++ later) = do
      let cs ← parseAll lead request
      let ds ← parseAll lead later
      return cs ++ ds := by
  induction request with
  | nil =>
    rw [List.nil_append]
    exact (bind_pure _).symm
  | cons entry rest ih =>
    rw [List.cons_append]
    by_cases counts : Counts lead entry
    · obtain ⟨encoded, encodes⟩ := counts
      rw [parseAll_cons_of_encodes encodes, parseAll_cons_of_encodes encodes, ih]
      simp only [bind_assoc, pure_bind, List.cons_append]
    · rw [parseAll_cons_of_not_counts counts, parseAll_cons_of_not_counts counts, ih]

/-- The first entry that counts and cannot be read decides the error. -/
theorem parseAll_error_iff {request : List (String × String)} {e : StatementError} :
    parseAll lead request = .error e ↔
      ∃ before entry after encoded, request = before ++ entry :: after ∧
        (∃ cs, parseAll lead before = .ok cs) ∧ Encodes lead entry encoded ∧
        parse encoded entry.2 = .error e := by
  constructor
  -- The entries before the culprit are those that were read until then.
  · intro failed
    induction request with
    | nil => cases failed
    | cons entry rest ih =>
      by_cases counts : Counts lead entry
      · obtain ⟨encoded, encodes⟩ := counts
        rw [parseAll_cons_of_encodes encodes] at failed
        rcases bind_error failed with here | ⟨k, read, failed⟩
        · exact ⟨[], entry, rest, encoded, rfl, ⟨[], rfl⟩, encodes, here⟩
        · obtain ⟨before, culprit, after, encoded', split, ⟨cs, fine⟩, rest⟩ :=
            ih (bind_pure_error failed)
          refine ⟨entry :: before, culprit, after, encoded', ?_, ⟨k.toCriterion :: cs, ?_⟩, rest⟩
          · rw [split, List.cons_append]
          · rw [parseAll_cons_of_encodes encodes, read, fine]
            rfl
      · rw [parseAll_cons_of_not_counts counts] at failed
        obtain ⟨before, culprit, after, encoded', split, fine, rest⟩ := ih failed
        refine ⟨entry :: before, culprit, after, encoded', ?_, ?_, rest⟩
        · rw [split, List.cons_append]
        · rw [parseAll_cons_of_not_counts counts]
          exact fine
  · rintro ⟨before, entry, after, encoded, rfl, ⟨cs, fine⟩, encodes, failed⟩
    rw [parseAll_append, fine, parseAll_cons_of_encodes encodes, failed]
    rfl

end Lead

/-- What is read under a lead depends on the entries of this lead alone. -/
structure Isolated (lead : String) : Prop where
  apart : ∀ other, Accepted other → other ≠ lead →
    ∀ entry, ¬ (Taken lead entry ∧ Taken other entry)
  /-- An entry is taken exactly if its key is the lead, a dash and more, and it has a value. -/
  taken : ∀ entry, Taken lead entry ↔ Counts lead entry
  unmoved : ∀ request request', Relation.ReflTransGen (Edit lead) request request' →
    parseAll lead request = parseAll lead request'
  joined : ∀ request later, parseAll lead (request ++ later) = do
    let cs ← parseAll lead request
    let ds ← parseAll lead later
    return cs ++ ds
  /-- Of two entries that cannot be read the first one decides the error. -/
  failing : ∀ request e, parseAll lead request = .error e ↔
    ∃ before entry after encoded, request = before ++ entry :: after ∧
      (∃ cs, parseAll lead before = .ok cs) ∧ Encodes lead entry encoded ∧
      parse encoded entry.2 = .error e

/-- A lead that settings may have shares no entry with another such lead. What is read under it is
not changed by other entries, and is read piece by piece. -/
theorem leads_isolate (lead : String) (accepted : Accepted lead) : Isolated lead := by
  refine ⟨?_, taken_iff_counts, fun _ _ => parseAll_of_edits, parseAll_append,
    fun _ _ => parseAll_error_iff⟩
  rintro other accepted' different entry ⟨here, there⟩
  obtain ⟨-, undashed⟩ := (accepted_iff lead).mp accepted
  obtain ⟨-, undashed'⟩ := (accepted_iff other).mp accepted'
  obtain ⟨encoded, same, -⟩ := (taken_iff_counts entry).mp here
  obtain ⟨encoded', same', -⟩ := (taken_iff_counts entry).mp there
  exact different (lead_inj undashed' undashed (same'.symm.trans same))

/-- Entries of two leads that extend one another, and keys of neither lead. -/
def shared : List (String × String) :=
  [("page", "2"), ("QX-L-GT-id", "7"), ("Q-S-EQ-name", ""), ("Q-S-EQ-QX-name", "ann"), ("Q", "1")]

theorem leads_isolate_shared :
    Accepted "Q" ∧ Isolated "Q" ∧ Accepted "QX" ∧
    shared.filter (Counts "Q" ·) = [("Q-S-EQ-QX-name", "ann")] ∧
    shared.filter (Counts "QX" ·) = [("QX-L-GT-id", "7")] := by
  have q : Accepted "Q" := (accepted_iff "Q").mpr (by decide)
  have qx : Accepted "QX" := (accepted_iff "QX").mpr (by decide)
  exact ⟨q, leads_isolate "Q" q, qx, by decide, by decide⟩

-- A lead with a dash would share entries with the lead before the dash.
example : Counts "Q" ("Q-S-EQ-name", "ann") ∧ Counts "Q-S" ("Q-S-EQ-name", "ann") := by decide

end FilterKey

end SqlRecords
