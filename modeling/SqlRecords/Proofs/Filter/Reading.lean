import SqlRecords.Proofs.Filter.Placeholders
import SqlRecords.Proofs.Text.Pieces

/-!
# Reading a filter back

The text of a filter is a list of words with a blank behind each. `Filter.read` takes the words
apart again, also where a field is named like a keyword: where a field is due any word is one, and
what may follow a field is no field. So a text has one reading, which is
`Filter.text_unambiguous`.
-/

namespace SqlRecords

/-! ### Words -/

namespace Text

/-- Words, each with a blank behind it. -/
def sentence (words : List String) : String := String.join (words.map (· ++ " "))

/-- The words of a text that has a blank behind each of them. -/
def wordsOf (s : String) : List String := (split ' ' s).dropLast

@[simp] theorem sentence_cons (w : String) (words : List String) :
    sentence (w :: words) = w ++ " " ++ sentence words := by
  rw [sentence, List.map_cons, String.join_cons, sentence]

@[simp] theorem sentence_nil : sentence [] = "" := rfl

theorem sentence_append (left right : List String) :
    sentence (left ++ right) = sentence left ++ sentence right := by
  induction left with
  | nil => simp
  | cons w rest ih =>
    rw [List.cons_append, sentence_cons, ih, sentence_cons]
    simp only [String.append_assoc]

theorem sentence_flatMap {α : Type} (words : α → List String) (items : List α) :
    sentence (items.flatMap words) = String.join (items.map fun item => sentence (words item)) := by
  induction items with
  | nil => rfl
  | cons item rest ih =>
    rw [List.flatMap_cons, sentence_append, ih, List.map_cons, String.join_cons]

theorem split_sentence {words : List String} (whole : ∀ w ∈ words, ' ' ∉ w.toList) :
    split ' ' (sentence words) = words ++ [""] := by
  induction words with
  | nil => rfl
  | cons w rest ih =>
    have later := ih fun v member => whole v (List.mem_cons_of_mem _ member)
    have chars : (sentence (w :: rest)).toList = w.toList ++ ' ' :: (sentence rest).toList := by
      rw [sentence_cons, String.toList_append, String.toList_append, List.append_assoc]
      rfl
    rw [split] at later ⊢
    rw [chars, pieces_append (whole w List.mem_cons_self), List.map_cons, later,
      String.ofList_toList, List.cons_append]

theorem wordsOf_sentence {words : List String} (whole : ∀ w ∈ words, ' ' ∉ w.toList) :
    wordsOf (sentence words) = words := by
  rw [wordsOf, split_sentence whole, List.dropLast_concat]

end Text

/-! ### Operators -/

/-- The word that holds the placeholders of a membership in `n` values. -/
def membershipWord (n : Nat) : String := "in(" ++ Text.repeated "?" "," n ++ ")"

/-- The number of values when the word is that of a membership. -/
def membership? (w : String) : Option Nat :=
  if w = membershipWord (questions w) then some (questions w) else none

theorem repeated_eq_each (n : Nat) :
    Text.repeated "?" "," n = ",".intercalate ((List.range n).map fun _ => "?") := by
  rw [Text.repeated, List.map_const', List.length_range]

theorem questions_membershipWord (n : Nat) : questions (membershipWord n) = n := by
  rw [membershipWord, questions_append, questions_append, repeated_eq_each,
    questions_each (by decide), List.length_range]
  exact Nat.zero_add n

theorem membership?_membershipWord (n : Nat) : membership? (membershipWord n) = some n := by
  rw [membership?, questions_membershipWord, if_pos rfl]

theorem blank_notMem_membershipWord (n : Nat) : ' ' ∉ (membershipWord n).toList := by
  have marks : ' ' ∉ (Text.repeated "?" "," n).toList := by
    refine Text.notMem_intercalate (by decide) fun mark member => ?_
    rw [List.eq_of_mem_replicate member]
    decide
  intro member
  rw [membershipWord, String.toList_append, String.toList_append, List.mem_append,
    List.mem_append] at member
  obtain (start | inside) | finish := member
  · simp at start
  · exact marks inside
  · simp at finish

namespace Operator

/-- The operator binds this many values in a predicate. -/
def Takes (n : Nat) (o : Operator) : Prop :=
  match o.arity with
  | .single => n = 1
  | .many => o = .between → n = 2
  | .null => n = 0
  | .order => False

/-- The words behind the field, with placeholders for `n` values. -/
def words (n : Nat) : Operator → List String
  | eq => ["=", "?"]
  | notEq => ["!=", "?"]
  | lt => ["<", "?"]
  | gt => [">", "?"]
  | le => ["<=", "?"]
  | ge => [">=", "?"]
  | like => ["like", "?"]
  | notLike => ["not", "like", "?"]
  | between => ["between", "?", "and", "?"]
  | among => [membershipWord n]
  | notAmong => ["not", membershipWord n]
  | isNull => ["is", "null"]
  | isNotNull => ["is", "not", "null"]
  | ascending => ["asc"]
  | descending => ["desc"]

def readAmong : List String → Option (Operator × Nat × List String)
  | w :: rest => (membership? w).map fun n => (among, n, rest)
  | [] => none

def readNotAmong : List String → Option (Operator × Nat × List String)
  | "not" :: w :: rest => (membership? w).map fun n => (notAmong, n, rest)
  | _ => none

def readOther : List String → Option (Operator × Nat × List String)
  | "=" :: "?" :: rest => some (eq, 1, rest)
  | "!=" :: "?" :: rest => some (notEq, 1, rest)
  | "<" :: "?" :: rest => some (lt, 1, rest)
  | ">" :: "?" :: rest => some (gt, 1, rest)
  | "<=" :: "?" :: rest => some (le, 1, rest)
  | ">=" :: "?" :: rest => some (ge, 1, rest)
  | "like" :: "?" :: rest => some (like, 1, rest)
  | "not" :: "like" :: "?" :: rest => some (notLike, 1, rest)
  | "between" :: "?" :: "and" :: "?" :: rest => some (between, 2, rest)
  | "is" :: "null" :: rest => some (isNull, 0, rest)
  | "is" :: "not" :: "null" :: rest => some (isNotNull, 0, rest)
  | _ => none

/-- The operator of a predicate at the start of some words, the number of its values, and the words
behind it. -/
def read (ws : List String) : Option (Operator × Nat × List String) :=
  ((readAmong ws).or (readNotAmong ws)).or (readOther ws)

variable {n : Nat} {o : Operator}

theorem read_words (takes : o.Takes n) (rest : List String) :
    read (o.words n ++ rest) = some (o, n, rest) := by
  cases o with
  | among =>
    have found : readAmong (membershipWord n :: rest) = some (among, n, rest) := by
      rw [readAmong, membership?_membershipWord]
      rfl
    rw [words, List.singleton_append, read, found]
    rfl
  | notAmong =>
    have found : readNotAmong ("not" :: membershipWord n :: rest) = some (notAmong, n, rest) := by
      rw [readNotAmong, membership?_membershipWord]
      rfl
    rw [words, List.cons_append, List.singleton_append, read, found]
    rfl
  | between =>
    obtain rfl : n = 2 := takes rfl
    rfl
  | isNull | isNotNull =>
    obtain rfl : n = 0 := takes
    rfl
  | ascending | descending => exact takes.elim
  | _ =>
    obtain rfl : n = 1 := takes
    rfl

theorem blank_notMem_words (n : Nat) (o : Operator) : ∀ w ∈ o.words n, ' ' ∉ w.toList := by
  have whole := blank_notMem_membershipWord n
  cases o <;> simp [words, whole]

end Operator

/-! ### Predicates and orderings -/

namespace Criterion

variable {c : Criterion}

theorem takes_of_live (live : c.Live) (ends : ¬ c.LacksEnds) :
    c.operator.Takes c.params.length := by
  rw [params_of_live live]
  have supplied := live.2
  cases h : c.operator with
  | between =>
    intro _
    rw [operands, h]
    exact two_ends live ends h
  | among | notAmong =>
    intro range
    cases range
  | isNull | isNotNull =>
    rw [operands, h]
    rfl
  | ascending | descending => simp [h] at supplied
  | _ =>
    rw [h] at supplied
    obtain ⟨v, held⟩ := Option.isSome_iff_exists.mp supplied
    rw [operands, h, held]
    rfl

theorem phrase_eq_sentence (live : c.Live ∨ c.Orders) :
    c.phrase = Text.sentence (c.field :: c.operator.words c.params.length) := by
  cases h : c.operator with
  | among | notAmong =>
    have alive : c.Live := by simpa [Orders, h] using live
    have values : c.params = c.values := by rw [params_of_live alive, operands, h]
    have word : membershipWord c.params.length = "in(" ++ marks c.values ++ ")" := by
      rw [membershipWord, values, repeated_marks]
    rw [phrase, h, Operator.words, word, ← String.toList_inj]
    simp
  | _ => simp [phrase, h, Operator.words, String.append_assoc]

theorem Orders.not_live (orders : c.Orders) : ¬ c.Live := by
  rintro ⟨-, supplied⟩
  obtain ⟨-, up | down⟩ := orders
  · simp [up] at supplied
  · simp [down] at supplied

theorem phrase_of_orders (orders : c.Orders) :
    c.phrase = Text.sentence (c.field :: c.operator.words 0) := by
  rw [phrase_eq_sentence (.inr orders), params_of_not_live orders.not_live, List.length_nil]

end Criterion

namespace Filter

/-- What the text of a filter shows of a predicate. -/
structure Clause where
  joint : Joint
  field : String
  operator : Operator
  /-- The number of its values. -/
  count : Nat
  deriving DecidableEq

/-- What the text shows of a criterion behind a connective. -/
def Clause.of (p : Joint × Criterion) : Clause where
  joint := p.1
  field := p.2.field
  operator := p.2.operator
  count := p.2.params.length

/-- The live predicates of a list, as its text shows them. -/
def clauses (cs : List Criterion) : List Clause := (predicates cs).map Clause.of

/-- The orderings of a list, each with its direction. -/
def orderings (cs : List Criterion) : List (String × Operator) :=
  (cs.filter (·.Orders)).map fun c => (c.field, c.operator)

/-- The words of a connective. -/
def jointWords : Joint → List String
  | .and => ["and"]
  | .or => ["or"]
  | .none => []

def Clause.words (c : Clause) : List String :=
  jointWords c.joint ++ c.field :: c.operator.words c.count

/-- Orderings, the first one behind `word` and the others behind commas. -/
def orderingWords (word : String) : List (String × Operator) → List String
  | [] => []
  | o :: rest => word :: o.1 :: o.2.words 0 ++ orderingWords "," rest

def orderedWords : List (String × Operator) → List String
  | [] => []
  | o :: rest => "order" :: orderingWords "by" (o :: rest)

/-! ### Reading -/

def readClause (joint : Joint) : List String → Option (Clause × List String)
  | field :: ws => (Operator.read ws).map fun found =>
    ({ joint, field, operator := found.1, count := found.2.1 }, found.2.2)
  | [] => none

def readJoined : List String → Option (Clause × List String)
  | "and" :: ws => readClause .and ws
  | "or" :: ws => readClause .or ws
  | _ => none

/-- Up to `most` joined predicates at the start of some words, and the words behind them. -/
def readAll : (most : Nat) → List String → List Clause × List String
  | 0, ws => ([], ws)
  | most + 1, ws =>
    match readJoined ws with
    | some (c, rest) => (c :: (readAll most rest).1, (readAll most rest).2)
    | none => ([], ws)

def readOrderings : List String → List (String × Operator)
  | _ :: field :: "asc" :: rest => (field, .ascending) :: readOrderings rest
  | _ :: field :: "desc" :: rest => (field, .descending) :: readOrderings rest
  | _ => []

/-- The predicates and the orderings that the words of a filter show. -/
def readWords (ws : List String) : List Clause × List (String × Operator) :=
  match readClause .none ws with
  | some (c, rest) =>
    (c :: (readAll rest.length rest).1, readOrderings ((readAll rest.length rest).2.drop 1))
  | none => ([], readOrderings (ws.drop 1))

/-- The predicates and the orderings that the text of a filter shows. -/
def read (t : String) : List Clause × List (String × Operator) := readWords (Text.wordsOf t)

section Words

variable {c : Clause} {os : List (String × Operator)}

theorem readClause_words (takes : c.operator.Takes c.count) (rest : List String) :
    readClause c.joint (c.field :: c.operator.words c.count ++ rest) = some (c, rest) := by
  rw [List.cons_append, readClause, Operator.read_words takes]
  rfl

theorem readJoined_words (takes : c.operator.Takes c.count) (joined : c.joint ≠ .none)
    (rest : List String) : readJoined (c.words ++ rest) = some (c, rest) := by
  have found := readClause_words takes rest
  rw [Clause.words, List.append_assoc]
  cases h : c.joint with
  | none => exact absurd h joined
  | and | or =>
    rw [h] at found
    exact found

theorem readJoined_orderedWords : readJoined (orderedWords os) = none := by
  cases os <;> rfl

/-- A field named `order` is no ordering: no operator starts with `by`. -/
theorem readClause_orderedWords : readClause .none (orderedWords os) = none := by
  cases os <;> rfl

theorem readAll_words (os : List (String × Operator)) {cs : List Clause}
    (takes : ∀ c ∈ cs, c.operator.Takes c.count) (joined : ∀ c ∈ cs, c.joint ≠ .none)
    {most : Nat} (enough : cs.length ≤ most) :
    readAll most (cs.flatMap Clause.words ++ orderedWords os) = (cs, orderedWords os) := by
  induction cs generalizing most with
  | nil =>
    cases most with
    | zero => rfl
    | succ most =>
      rw [List.flatMap_nil, List.nil_append, readAll, readJoined_orderedWords]
  | cons c rest ih =>
    cases most with
    | zero => exact absurd enough (Nat.not_succ_le_zero _)
    | succ most =>
      have later := ih (fun d member => takes d (List.mem_cons_of_mem _ member))
        (fun d member => joined d (List.mem_cons_of_mem _ member)) (Nat.le_of_succ_le_succ enough)
      rw [List.flatMap_cons, List.append_assoc, readAll,
        readJoined_words (takes c List.mem_cons_self) (joined c List.mem_cons_self)]
      dsimp only
      rw [later]

theorem length_le_length_words (cs : List Clause) :
    cs.length ≤ (cs.flatMap Clause.words).length := by
  induction cs with
  | nil => exact Nat.le_refl _
  | cons c rest ih =>
    rw [List.flatMap_cons, List.length_append, List.length_cons, Clause.words, List.length_append,
      List.length_cons]
    omega

theorem readOrderings_words (directed : ∀ o ∈ os, o.2 = .ascending ∨ o.2 = .descending)
    (word : String) : readOrderings (orderingWords word os) = os := by
  induction os generalizing word with
  | nil => rfl
  | cons o rest ih =>
    have later := ih (fun p member => directed p (List.mem_cons_of_mem _ member)) ","
    obtain ⟨field, direction⟩ := o
    obtain rfl | rfl : direction = .ascending ∨ direction = .descending :=
      directed (field, direction) List.mem_cons_self
    · exact congrArg ((field, .ascending) :: ·) later
    · exact congrArg ((field, .descending) :: ·) later

theorem readOrderings_orderedWords
    (directed : ∀ o ∈ os, o.2 = .ascending ∨ o.2 = .descending) :
    readOrderings ((orderedWords os).drop 1) = os := by
  cases os with
  | nil => rfl
  | cons o rest => exact readOrderings_words directed "by"

/-- Words are read back as the predicates and orderings that they are made of. -/
theorem readWords_words {cs : List Clause} (takes : ∀ c ∈ cs, c.operator.Takes c.count)
    (first : ∀ c ∈ cs.head?, c.joint = .none) (joined : ∀ c ∈ cs.tail, c.joint ≠ .none)
    (directed : ∀ o ∈ os, o.2 = .ascending ∨ o.2 = .descending) :
    readWords (cs.flatMap Clause.words ++ orderedWords os) = (cs, os) := by
  cases cs with
  | nil =>
    rw [List.flatMap_nil, List.nil_append, readWords, readClause_orderedWords]
    exact congrArg (([], ·)) (readOrderings_orderedWords directed)
  | cons c rest =>
    have bare : c.joint = .none := first c rfl
    have found := readClause_words (takes c List.mem_cons_self)
      (rest.flatMap Clause.words ++ orderedWords os)
    have enough : rest.length ≤ (rest.flatMap Clause.words ++ orderedWords os).length := by
      rw [List.length_append]
      exact Nat.le_add_right_of_le (length_le_length_words rest)
    have later := readAll_words os (fun d member => takes d (List.mem_cons_of_mem _ member)) joined
      enough
    have start : (c :: rest).flatMap Clause.words ++ orderedWords os =
        c.field :: c.operator.words c.count ++
          (rest.flatMap Clause.words ++ orderedWords os) := by
      rw [List.flatMap_cons, Clause.words, bare, List.append_assoc]
      rfl
    rw [bare] at found
    rw [start, readWords, found]
    dsimp only
    rw [later, readOrderings_orderedWords directed]

end Words

/-! ### Texts -/

/-- Fields are single words, and live predicates stand behind connectives. -/
structure Legible (cs : List Criterion) : Prop where
  fields : ∀ c ∈ cs, ' ' ∉ c.field.toList
  joints : ∀ c ∈ (cs.filter (·.Live)).tail, c.joint = .and ∨ c.joint = .or

section Texts

variable {cs : List Criterion} {t : String}

theorem live_of_mem_predicates {p : Joint × Criterion} (member : p ∈ predicates cs) :
    p.2 ∈ cs ∧ p.2.Live := by
  have kept : p.2 ∈ cs.filter (·.Live) := by
    rw [← map_snd_predicates]
    exact List.mem_map_of_mem member
  obtain ⟨origin, live⟩ := List.mem_filter.mp kept
  exact ⟨origin, by simpa using live⟩

theorem orders_of_mem_filter {c : Criterion} (member : c ∈ cs.filter (·.Orders)) : c.Orders := by
  simpa using (List.mem_filter.mp member).2

theorem sentence_clause {p : Joint × Criterion} (live : p.2.Live) :
    Text.sentence (Clause.of p).words = joined p := by
  rw [joined, Criterion.phrase_eq_sentence (.inl live), Clause.words, Text.sentence_append]
  congr 1
  cases h : p.1 <;> simp [Clause.of, h, jointWords, Joint.text]

theorem sentence_clauses :
    Text.sentence ((clauses cs).flatMap Clause.words) =
      String.join ((predicates cs).map joined) := by
  rw [clauses, Text.sentence_flatMap, List.map_map]
  congr 1
  exact List.map_congr_left fun p member => sentence_clause (live_of_mem_predicates member).2

theorem sentence_orderingWords {os : List Criterion} (orders : ∀ c ∈ os, c.Orders) :
    Text.sentence (orderingWords "," (os.map fun c => (c.field, c.operator))) =
      String.join (os.map fun c => ", " ++ c.phrase) := by
  induction os with
  | nil => rfl
  | cons c rest ih =>
    have here := Criterion.phrase_of_orders (orders c List.mem_cons_self)
    have later := ih fun d member => orders d (List.mem_cons_of_mem _ member)
    rw [List.map_cons, orderingWords, List.cons_append, Text.sentence_cons, Text.sentence_append,
      ← here, later, List.map_cons, String.join_cons, ← String.append_assoc]
    rfl

theorem sentence_orderings :
    Text.sentence (orderedWords (orderings cs)) = spelledOrderings cs := by
  have orders : ∀ c ∈ cs.filter (·.Orders), c.Orders := fun c => orders_of_mem_filter
  rw [orderings, spelledOrderings]
  cases h : cs.filter (·.Orders) with
  | nil => rfl
  | cons c rest =>
    rw [h] at orders
    have here := Criterion.phrase_of_orders (orders c List.mem_cons_self)
    have later := sentence_orderingWords fun d member => orders d (List.mem_cons_of_mem _ member)
    rw [List.map_cons, orderedWords, orderingWords, List.cons_append, Text.sentence_cons,
      Text.sentence_cons, Text.sentence_append, ← here, later, ← String.append_assoc,
      ← String.append_assoc]
    rfl

theorem text_eq_sentence (rendered : text cs = .ok t) :
    t = Text.sentence ((clauses cs).flatMap Clause.words ++ orderedWords (orderings cs)) := by
  obtain ⟨-, spelled⟩ := (text_ok_iff cs t).mp rendered
  rw [spelled, Text.sentence_append, sentence_clauses, sentence_orderings]

theorem blank_notMem_clause {c : Clause} (field : ' ' ∉ c.field.toList) :
    ∀ w ∈ c.words, ' ' ∉ w.toList := by
  have joint : ∀ w ∈ jointWords c.joint, ' ' ∉ w.toList := by
    cases c.joint <;> simp [jointWords]
  intro w member
  rw [Clause.words, List.mem_append, List.mem_cons] at member
  obtain connective | rfl | behind := member
  · exact joint w connective
  · exact field
  · exact Operator.blank_notMem_words c.count c.operator w behind

theorem blank_notMem_orderingWords {os : List (String × Operator)} {word : String}
    (clean : ' ' ∉ word.toList) (fields : ∀ o ∈ os, ' ' ∉ o.1.toList) :
    ∀ w ∈ orderingWords word os, ' ' ∉ w.toList := by
  induction os generalizing word with
  | nil => simp [orderingWords]
  | cons o rest ih =>
    have later : ∀ w ∈ orderingWords "," rest, ' ' ∉ w.toList :=
      ih (by decide) fun p member => fields p (List.mem_cons_of_mem _ member)
    intro w member
    rw [orderingWords, List.mem_append, List.mem_cons, List.mem_cons] at member
    obtain (rfl | rfl | direction) | behind := member
    · exact clean
    · exact fields o List.mem_cons_self
    · exact Operator.blank_notMem_words 0 o.2 w direction
    · exact later w behind

theorem blank_notMem_orderedWords {os : List (String × Operator)}
    (fields : ∀ o ∈ os, ' ' ∉ o.1.toList) : ∀ w ∈ orderedWords os, ' ' ∉ w.toList := by
  cases os with
  | nil => simp [orderedWords]
  | cons o rest =>
    intro w member
    obtain rfl | member := List.mem_cons.mp member
    · decide
    · exact blank_notMem_orderingWords (by decide) fields w member

theorem blank_notMem_words (fields : ∀ c ∈ cs, ' ' ∉ c.field.toList) :
    ∀ w ∈ (clauses cs).flatMap Clause.words ++ orderedWords (orderings cs), ' ' ∉ w.toList := by
  intro w member
  obtain member | member := List.mem_append.mp member
  · obtain ⟨c, shown, member⟩ := List.mem_flatMap.mp member
    obtain ⟨p, present, rfl⟩ := List.mem_map.mp shown
    exact blank_notMem_clause (fields p.2 (live_of_mem_predicates present).1) w member
  · refine blank_notMem_orderedWords (fun o shown => ?_) w member
    obtain ⟨c, present, rfl⟩ := List.mem_map.mp shown
    exact fields c (List.mem_filter.mp present).1

/-- The text of a legible filter is read back as its live predicates and its orderings. -/
theorem read_text (legible : Legible cs) (rendered : text cs = .ok t) :
    read t = (clauses cs, orderings cs) := by
  have ends := ((text_ok_iff cs t).mp rendered).1
  have takes : ∀ c ∈ clauses cs, c.operator.Takes c.count := by
    intro c shown
    obtain ⟨p, present, rfl⟩ := List.mem_map.mp shown
    obtain ⟨origin, live⟩ := live_of_mem_predicates present
    exact Criterion.takes_of_live live (ends p.2 origin)
  have first : ∀ c ∈ (clauses cs).head?, c.joint = .none := by
    rw [clauses, predicates]
    cases cs.filter (·.Live) <;> simp [Clause.of]
  have joined : ∀ c ∈ (clauses cs).tail, c.joint ≠ .none := by
    have joints := legible.joints
    rw [clauses, predicates]
    cases h : cs.filter (·.Live) with
    | nil => simp
    | cons c rest =>
      rw [h] at joints
      intro d shown
      obtain ⟨p, present, rfl⟩ := List.mem_map.mp shown
      obtain ⟨o, kept, rfl⟩ := List.mem_map.mp present
      rcases joints o kept with joint | joint <;> simp [Clause.of, joint]
  have directed : ∀ o ∈ orderings cs, o.2 = .ascending ∨ o.2 = .descending := by
    intro o shown
    obtain ⟨c, present, rfl⟩ := List.mem_map.mp shown
    exact (orders_of_mem_filter present).2
  rw [text_eq_sentence rendered, read, Text.wordsOf_sentence (blank_notMem_words legible.fields)]
  exact readWords_words takes first joined directed

example :
    read "and = ? or by in(?,?) order by order desc , asc asc " =
      ([⟨.none, "and", .eq, 1⟩, ⟨.or, "by", .among, 2⟩],
        [("order", .descending), ("asc", .ascending)]) := rfl

end Texts

/-- Two legible filters with one text have the same live predicates, by connective, field, operator
and number of values, and the same orderings, by field and direction. -/
theorem text_unambiguous (cs ds : List Criterion) (t : String) (left : Legible cs)
    (right : Legible ds) (spelled : text cs = .ok t) (spelled' : text ds = .ok t) :
    clauses cs = clauses ds ∧ orderings cs = orderings ds := by
  have same : (clauses cs, orderings cs) = (clauses ds, orderings ds) := by
    rw [← read_text left spelled, read_text right spelled']
  exact Prod.mk.inj same

/-- Fields that are named like the words between them. -/
def keywordFields : List Criterion :=
  [.bare .ascending "and", .compare .eq "order" (.bool true),
    .joined (.between "between" (.char 'a') (.char 'b')) .or, .notAmong "in(?)" [.null, .null],
    .bare .isNotNull "not", .bare .descending ","]

/-- Other values for the same fields, with the orderings in other places and criteria that take no
part. -/
def keywordFieldsAgain : List Criterion :=
  [.joined (.compare .eq "order" (.text "x")) .or, .compare .like "name" .null,
    .joined (.between "between" .null (.text "?")) .or, .bare .ascending "and",
    .enabledIf (.bare .isNull "by") false, .notAmong "in(?)" [.text "p", .char 'q'],
    .bare .descending ",", .bare .isNotNull "not"]

theorem text_unambiguous_keywordFields :
    Legible keywordFields ∧ Legible keywordFieldsAgain ∧
      text keywordFields = .ok ("order = ? or between between ? and ? and in(?) not in(?,?) " ++
        "and not is not null order by and asc , , desc ") ∧
      text keywordFields = text keywordFieldsAgain ∧
      clauses keywordFields = clauses keywordFieldsAgain ∧
      orderings keywordFields = orderings keywordFieldsAgain :=
  have left : Legible keywordFields := ⟨by decide, by decide⟩
  have right : Legible keywordFieldsAgain := ⟨by decide, by decide⟩
  ⟨left, right, rfl, rfl,
    text_unambiguous keywordFields keywordFieldsAgain _ left right rfl rfl⟩

end Filter

end SqlRecords
