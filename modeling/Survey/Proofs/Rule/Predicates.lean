import Mathlib
import Survey.Rule.Json
import Survey.Schema.Definition
import Survey.Proofs.Decimal.Order
import Survey.Proofs.Json.ReadBack
import Survey.Proofs.Routing.Locality

/-!
# What predicates read and what literals match

A predicate is evaluated over a lookup of answers (`Predicate.evaluate`), while the schema checks
the slots it names (`Predicate.slots`) by a separate traversal. The two agree: a predicate reads
no slot it does not name, at any nesting of `all`, `any` and `not`, and wherever `all` and `any`
stop early.

* `Predicate.evaluate_congr` — two lookups that agree on the slots a predicate names give it the
  same verdict;
* `RoutingRule.applies_congr`, `Block.questionsFor_eq_of_agree` — so a routing rule reads only the
  slots of its condition, and the questions a block shows only the slots of its variants'
  conditions;
* **`Predicate.rules_read_only_their_slots`** — the three together.

A literal is written in a schema as a bare JSON number or string, and a string is tried as a
number first:

* `Literal.decoder_of_reads_string`, `Literal.decoder_readsBack_string` — a JSON string whose
  text reads as a number (`"10"`, `" 5 "`, `"-0"`) is that number literal, any other string a text
  literal;
* **`Literal.string_literal_matches`** — such a literal matches a typed answer and a chosen option
  holding the string, and the single ticked option holding it exactly when the string does not
  read as a number;
* `Literal.numeric_string_misses_ticked_option` — so the literal `"10"` matches the radio option
  `"10"` but not the checkbox with only `"10"` ticked: a number literal matches no ticked options.
-/

namespace Survey

/-! ### Predicates read only the slots they name -/

namespace Predicate

variable {v v' : Lookup}

mutual

/-- **A predicate reads only its slots.** -/
theorem evaluate_congr : ∀ p : Predicate, (∀ slot ∈ p.slots, v slot = v' slot) →
    p.evaluate v = p.evaluate v'
  | .equals slot _, agree | .notEquals slot _, agree | .isIn slot _, agree
  | .notIn slot _, agree | .contains slot _, agree | .answered slot, agree
  | .unanswered slot, agree | .greaterThan slot _, agree | .lessThan slot _, agree => by
    -- An atom reads its one slot.
    have same : v slot = v' slot := agree slot (by simp [slots])
    simp only [evaluate, matchesAny, numericAnswer, same]
  | .all rules, agree => by
    simp only [evaluate]
    exact allHold_congr rules (by simpa [slots] using agree)
  | .any rules, agree => by
    simp only [evaluate]
    exact anyHolds_congr rules (by simpa [slots] using agree)
  | .not rule, agree => by
    simp only [evaluate]
    rw [evaluate_congr rule (by simpa [slots] using agree)]

theorem allHold_congr : ∀ rules : List Predicate, (∀ slot ∈ slotsOfRules rules, v slot = v' slot) →
    allHold v rules = allHold v' rules
  | [], _ => rfl
  | r :: rs, agree => by
    have first := evaluate_congr r fun slot read => agree slot (by simp [slotsOfRules, read])
    have rest := allHold_congr rs fun slot read => agree slot (by simp [slotsOfRules, read])
    simp only [allHold, first, rest]

theorem anyHolds_congr : ∀ rules : List Predicate, (∀ slot ∈ slotsOfRules rules, v slot = v' slot) →
    anyHolds v rules = anyHolds v' rules
  | [], _ => rfl
  | r :: rs, agree => by
    have first := evaluate_congr r fun slot read => agree slot (by simp [slotsOfRules, read])
    have rest := anyHolds_congr rs fun slot read => agree slot (by simp [slotsOfRules, read])
    simp only [anyHolds, first, rest]

end

end Predicate

section Inherited

variable {v v' : Lookup}

/-- A routing rule reads only the slots of its condition; one without a condition reads none. -/
theorem RoutingRule.applies_congr {rule : RoutingRule}
    (agree : ∀ p ∈ rule.when?, ∀ slot ∈ p.slots, v slot = v' slot) :
    rule.applies v = rule.applies v' := by
  unfold RoutingRule.applies
  cases condition : rule.when? with
  | none => rfl
  | some p => exact Predicate.evaluate_congr p (agree p condition)

namespace Block

variable {b : Block}

/-- The question a block shows in place of one of its own reads only the slots of the variants'
conditions: each variant is tried with the same verdict on both lookups. -/
theorem shownQuestion_eq_of_agree
    (agree : ∀ variant ∈ b.questionVariants, ∀ slot ∈ variant.when.slots, v slot = v' slot)
    (question : Question) : b.shownQuestion v question = b.shownQuestion v' question := by
  unfold shownQuestion
  rw [List.find?_congr fun variant member => by
    rw [Predicate.evaluate_congr variant.when (agree variant member)]]

/-- The questions a block shows read only the slots of its variants' conditions. -/
theorem questionsFor_eq_of_agree
    (agree : ∀ variant ∈ b.questionVariants, ∀ slot ∈ variant.when.slots, v slot = v' slot) :
    b.questionsFor v = b.questionsFor v' := by
  unfold questionsFor
  rw [funext (shownQuestion_eq_of_agree agree)]

end Block

end Inherited

/-- **Predicates read only the slots they name**, and so do the routing rules and the question
variants built from them: lookups that agree on those slots get the same verdict, the same
answer to whether a rule applies, and the same questions shown. -/
theorem Predicate.rules_read_only_their_slots (v v' : Lookup) :
    (∀ p : Predicate, (∀ slot ∈ p.slots, v slot = v' slot) → p.evaluate v = p.evaluate v') ∧
    (∀ rule : RoutingRule, (∀ p ∈ rule.when?, ∀ slot ∈ p.slots, v slot = v' slot) →
      rule.applies v = rule.applies v') ∧
    (∀ b : Block, (∀ variant ∈ b.questionVariants, ∀ slot ∈ variant.when.slots, v slot = v' slot) →
      b.questionsFor v = b.questionsFor v') :=
  ⟨Predicate.evaluate_congr, fun _ => RoutingRule.applies_congr,
    fun _ => Block.questionsFor_eq_of_agree⟩

/-- The census asks whether a respondent is under 16 by the answer to the first question only,
so a child's marital status, cleared or not, leaves the verdict as it is. -/
theorem Predicate.rules_read_only_their_slots_child :
    (∀ slot ∈ (Predicate.equals "over-16-answer" (.text "No")).slots,
      Questionnaire.childWithMaritalStatus.get? slot =
        (Questionnaire.childWithMaritalStatus.clear "marital-status-answer").2.get? slot) ∧
    (Predicate.equals "over-16-answer" (.text "No")).evaluate
        Questionnaire.childWithMaritalStatus.get? =
      (Predicate.equals "over-16-answer" (.text "No")).evaluate
        (Questionnaire.childWithMaritalStatus.clear "marital-status-answer").2.get? :=
  have agree : ∀ slot ∈ (Predicate.equals "over-16-answer" (.text "No")).slots,
      Questionnaire.childWithMaritalStatus.get? slot =
        (Questionnaire.childWithMaritalStatus.clear "marital-status-answer").2.get? slot := by
    simp [Predicate.slots, AnswerStore.clear, AnswerStore.get?,
      Questionnaire.childWithMaritalStatus, Entries.lookup, Entries.erase]
  ⟨agree, (Predicate.rules_read_only_their_slots _ _).1 _ agree⟩

/-! ### Untagged enumerations -/

theorem except_toOption_map {ε α β : Type} (f : α → β) (x : Except ε α) :
    (x.map f).toOption = x.toOption.map f := by
  cases x <;> rfl

/-- An untagged enumeration read from a value read whole gives the first variant that reads it:
buffering the value finds no fault. -/
theorem Decoder.untagged_of_reads {α : Type} {name : String} {readers : List (Decoder α)}
    {c : Cursor} {j : Json} (read : c.doc.Reads j) (exact : j.Exact) {a : α}
    (first : readers.findSome? (fun r => (r ⟨c.doc, c.contentMode c.doc.stop⟩).toOption) = some a) :
    untagged name readers c = .ok a := by
  have buffered : c.buffer c.doc = .ok () := by
    unfold Cursor.buffer
    split
    · rw [read.readFault?_eq_none exact]
    · rfl
  unfold untagged
  rw [buffered, except_ok_bind]
  simp only [first]
  rfl

/-! ### String literals -/

namespace Decimal

/-- Every decimal compares equal to itself: comparing the other way round reverses the answer,
and only `eq` is its own reverse. -/
theorem compare_self (d : Decimal) : d.compare d = .eq := by
  have swapped := compare_swap d d
  revert swapped
  cases d.compare d <;> decide

theorem sameValue_self (d : Decimal) : d.sameValue d = true := by
  simp [sameValue, compare_self]

/-- Read from a string, a decimal is the number the text reads as, if any. -/
theorem decoder_toOption_of_string {c : Cursor} {s : String} {start stop : Nat}
    (doc : c.doc = .string (.ok s) start stop) : (decoder c).toOption = read? s := by
  unfold decoder read? parseMessage
  simp only [doc]
  cases parse s <;> rfl

end Decimal

namespace Literal

/-- **A JSON string is a number literal when its text reads as a number**, and a text literal
otherwise, whether it comes from JSON text or from a value. -/
theorem decoder_of_reads_string {c : Cursor} {s : String} (read : c.doc.Reads (.string s)) :
    Literal.decoder c = .ok ((Decimal.read? s).elim (.text s) .number) := by
  obtain ⟨start, stop, doc⟩ := read.of_string
  apply Decoder.untagged_of_reads read (Json.exact_string s)
  have asNumber := Decimal.decoder_toOption_of_string (c := ⟨c.doc, c.contentMode c.doc.stop⟩) doc
  have asText : (Decoder.string ⟨c.doc, c.contentMode c.doc.stop⟩).toOption = some s := by
    simp [Decoder.string, doc, Except.toOption]
  simp only [List.findSome?_cons, except_toOption_map, asNumber, asText]
  cases Decimal.read? s <;> rfl

/-- So every document read from a JSON string decodes to that one literal. -/
theorem decoder_readsBack_string (s : String) :
    Literal.decoder.ReadsBack (.string s) True ((Decimal.read? s).elim (.text s) .number) := by
  intro c read y
  rw [decoder_of_reads_string read]
  simp [eq_comm]

/-- A text literal matches every answer holding exactly its string: typed, chosen, or the only
option ticked. -/
theorem text_accepts_own (s : String) :
    (Literal.text s).accepts (.text s) = true ∧ (Literal.text s).accepts (.choice s) = true ∧
      (Literal.text s).accepts (.choices [s]) = true := by
  simp [accepts]

/-- A number literal read from a string matches a typed answer or a chosen option holding that
string: the text reads as the same number again. -/
theorem number_accepts_read_text {s : String} {n : Decimal} (number : Decimal.read? s = some n) :
    (Literal.number n).accepts (.text s) = true ∧ (Literal.number n).accepts (.choice s) = true := by
  simp [accepts, number, Decimal.sameValue_self]

/-- **A literal written as a JSON string matches the one-string answers holding that string**:
a typed answer and a chosen option always, and the single ticked option exactly when the string
does not read as a number, since a number literal never matches ticked options. -/
theorem string_literal_matches (s : String) :
    ∃ literal : Literal, Literal.decoder.ReadsBack (.string s) True literal ∧
      literal.accepts (.text s) = true ∧ literal.accepts (.choice s) = true ∧
      (literal.accepts (.choices [s]) = true ↔ Decimal.read? s = none) := by
  refine ⟨(Decimal.read? s).elim (.text s) .number, decoder_readsBack_string s, ?_⟩
  cases number : Decimal.read? s with
  | none => simpa using text_accepts_own s
  | some n =>
    obtain ⟨typed, chosen⟩ := number_accepts_read_text number
    exact ⟨typed, chosen, by simp [accepts]⟩

/-- The string `"10"` is read as the number literal `10`, which matches the radio option `"10"`
but not the checkbox answer with only `"10"` ticked. -/
theorem numeric_string_misses_ticked_option :
    Literal.decoder.ReadsBack (.string "10") True (.number ⟨10, 0⟩) ∧
      (Literal.number ⟨10, 0⟩).accepts (.choice "10") = true ∧
      (Literal.number ⟨10, 0⟩).accepts (.choices ["10"]) = false := by
  have number : Decimal.read? "10" = some ⟨10, 0⟩ := by decide
  have decoded := decoder_readsBack_string "10"
  rw [number] at decoded
  exact ⟨decoded, (number_accepts_read_text number).2, rfl⟩

end Literal

end Survey
