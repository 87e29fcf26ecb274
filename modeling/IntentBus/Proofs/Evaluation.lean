import IntentBus.Constraint
import IntentBus.Proofs.Magnitudes
import IntentBus.Proofs.Matching

/-! Evaluation of constraints: what breaks each rule, which constraints the calls that state them come to, and that
evaluation reports those that are broken, each of them once and in order. -/

namespace IntentBus

namespace Rule

def AppliesTo : Rule → FieldValue → Prop
  | required, _ | check .., _ => True
  | notBlank, value | length .., value | pattern .., value => ∃ text, value = .text text
  | positive, value | nonNegative, value | range .., value => ∃ x, value.number? = some x

/-- A value fails the test of a rule. A missing value fails only those that ask for one. -/
inductive Fails : Rule → FieldValue → Prop
  | check (value : FieldValue) (code : String) : Fails (.check false code) value
  | absent : Fails required .missing
  | unwritten : Fails notBlank .missing
  | blank {text : String} (blank : ∀ c ∈ text.toList, Text.isBlank c = true) : Fails notBlank (.text text)
  | length {min max : Nat} {text : String} (outside : text.toList.length < min ∨ max < text.toList.length) :
    Fails (.length min max) (.text text)
  | unmatched {source : String} {expression : Pattern} {text : String} (fails : ¬expression.Occurs text.toList) :
    Fails (.pattern source expression) (.text text)
  | notPositive {value : FieldValue} {x : Binary64} (number : value.number? = some x) (fails : ¬0 < x) :
    Fails positive value
  | negative {value : FieldValue} {x : Binary64} (number : value.number? = some x) (fails : ¬0 ≤ x) :
    Fails nonNegative value
  | outside {min max : Binary64} {value : FieldValue} {x : Binary64} (number : value.number? = some x)
    (fails : ¬(min ≤ x ∧ x ≤ max)) : Fails (range min max) value

/-- A value breaks a rule, with the code that tells how: it fails the test of the rule, or it is there and of a kind that
the rule is not about. -/
inductive Broken (rule : Rule) (value : FieldValue) : String → Prop
  | fails (fails : rule.Fails value) : Broken rule value rule.code
  | foreign (present : value ≠ .missing) (other : ¬rule.AppliesTo value) : Broken rule value "TYPE_MISMATCH"

variable {rule : Rule} {value : FieldValue} {code : String}

private theorem numericViolation?_of_number {holds : Binary64 → Bool} {x : Binary64} (number : value.number? = some x) :
    rule.numericViolation? value holds = if holds x then none else some rule.code := by
  rw [numericViolation?, number]

private theorem ne_missing_of_number {x : Binary64} (number : value.number? = some x) : value ≠ .missing := by
  rintro rfl
  nomatch number

private theorem violation?_numeric (present : value ≠ .missing) :
    positive.violation? value = positive.numericViolation? value (fun x => 0 < x) ∧
      nonNegative.violation? value = nonNegative.numericViolation? value (fun x => 0 ≤ x) ∧
        ∀ min max, (range min max).violation? value =
          (range min max).numericViolation? value fun x => min ≤ x && x ≤ max := by
  cases value with
  | missing => exact absurd rfl present
  | text | int | float | bool => exact ⟨rfl, rfl, fun _ _ => rfl⟩

private theorem violation?_of_fails (fails : rule.Fails value) : rule.violation? value = some rule.code := by
  cases fails with
  | check => rfl
  | absent => rfl
  | unwritten => rfl
  | blank blank =>
    have allBlank : Text.allBlank _ = true := List.all_eq_true.2 blank
    simp [violation?, allBlank]
  | @length min max text outside =>
    rw [String.length_toList] at outside
    have fails : ¬(min ≤ text.length ∧ text.length ≤ max) := by omega
    simp only [violation?, Bool.and_eq_true, decide_eq_true_eq, if_neg fails]
  | unmatched fails =>
    rw [← Pattern.matchesIn_iff] at fails
    simp [violation?, fails]
  | notPositive number fails =>
    rw [(violation?_numeric (ne_missing_of_number number)).1, numericViolation?_of_number number]
    simp [fails]
  | negative number fails =>
    rw [(violation?_numeric (ne_missing_of_number number)).2.1, numericViolation?_of_number number]
    simp [fails]
  | outside number fails =>
    rw [(violation?_numeric (ne_missing_of_number number)).2.2, numericViolation?_of_number number]
    simp only [Bool.and_eq_true, decide_eq_true_eq, if_neg fails]

private theorem violation?_of_foreign (present : value ≠ .missing) (other : ¬rule.AppliesTo value) :
    rule.violation? value = some mismatchCode := by
  cases rule with
  | required | check => exact absurd trivial other
  | notBlank | length | pattern =>
    cases value with
    | missing => exact absurd rfl present
    | text text => exact absurd ⟨text, rfl⟩ other
    | int | float | bool => rfl
  | positive | nonNegative | range =>
    cases value with
    | missing => exact absurd rfl present
    | int n => exact absurd ⟨_, rfl⟩ other
    | float x => exact absurd ⟨x, rfl⟩ other
    | text | bool => rfl

private theorem violation?_of_passes (passes : ¬rule.Fails value) (own : value ≠ .missing → rule.AppliesTo value) :
    rule.violation? value = none := by
  by_cases present : value = .missing
  · subst present
    cases rule with
    | required => exact absurd .absent passes
    | notBlank => exact absurd .unwritten passes
    | check passed code =>
      cases passed with
      | false => exact absurd (.check _ code) passes
      | true => rfl
    | positive | nonNegative | range | length | pattern => rfl
  · have applies := own present
    cases rule with
    | required =>
      cases value with
      | missing => exact absurd rfl present
      | text | int | float | bool => rfl
    | check passed code =>
      cases passed with
      | false => exact absurd (.check _ code) passes
      | true => rfl
    | notBlank =>
      obtain ⟨text, rfl⟩ := applies
      have visible : Text.allBlank text = false := by
        refine Bool.eq_false_iff.2 fun blank => passes (.blank ?_)
        exact List.all_eq_true.1 blank
      simp [violation?, visible]
    | length min max =>
      obtain ⟨text, rfl⟩ := applies
      have inside : min ≤ text.length ∧ text.length ≤ max := Classical.byContradiction fun fails => by
        refine passes (.length ?_)
        rw [String.length_toList]
        omega
      simp only [violation?, Bool.and_eq_true, decide_eq_true_eq, if_pos inside]
    | pattern source expression =>
      obtain ⟨text, rfl⟩ := applies
      have found : expression.matchesIn text = true :=
        Classical.byContradiction fun fails => passes (.unmatched (mt Pattern.matchesIn_iff.2 fails))
      simp [violation?, found]
    | positive =>
      obtain ⟨x, number⟩ := applies
      have holds : 0 < x := Classical.byContradiction fun fails => passes (.notPositive number fails)
      rw [(violation?_numeric present).1, numericViolation?_of_number number]
      simp [holds]
    | nonNegative =>
      obtain ⟨x, number⟩ := applies
      have holds : 0 ≤ x := Classical.byContradiction fun fails => passes (.negative number fails)
      rw [(violation?_numeric present).2.1, numericViolation?_of_number number]
      simp [holds]
    | range min max =>
      obtain ⟨x, number⟩ := applies
      have holds : min ≤ x ∧ x ≤ max := Classical.byContradiction fun fails => passes (.outside number fails)
      rw [(violation?_numeric present).2.2, numericViolation?_of_number number]
      simp [holds]

/-- The code of a violation is found exactly if the value breaks the rule with it. -/
theorem violation?_eq_some_iff : rule.violation? value = some code ↔ rule.Broken value code := by
  constructor
  · intro found
    by_cases fails : rule.Fails value
    · cases (violation?_of_fails fails).symm.trans found
      exact .fails fails
    · by_cases own : value ≠ .missing → rule.AppliesTo value
      · nomatch (violation?_of_passes fails own).symm.trans found
      · obtain ⟨present, other⟩ := Classical.not_imp.1 own
        cases (violation?_of_foreign present other).symm.trans found
        exact .foreign present other
  · rintro (fails | ⟨present, other⟩)
    · exact violation?_of_fails fails
    · exact violation?_of_foreign present other

def Numeric : Rule → Prop
  | positive | nonNegative | range .. => True
  | required | notBlank | length .. | pattern .. | check .. => False

private theorem not_le_nan (x : Binary64) : ¬x ≤ .nan := by
  intro le
  cases x <;> exact Bool.false_ne_true le

private theorem not_lt_nan (x : Binary64) : ¬x < .nan :=
  fun lt => not_le_nan x (Bool.and_eq_true_iff.1 lt).1

private theorem fails_of_nan (numeric : rule.Numeric) : rule.Fails (.float .nan) := by
  cases rule with
  | positive => exact .notPositive rfl (not_lt_nan 0)
  | nonNegative => exact .negative rfl (not_le_nan 0)
  | range min max => exact .outside rfl fun both => not_le_nan min both.1
  | required | notBlank | length | pattern | check => exact numeric.elim

/-- An integer of 64 bits is within the range in which numbers are finite. -/
theorem natAbs_toInt_le (n : Int64) : n.toInt.natAbs ≤ Duration.limit := by
  have most := n.toInt_lt
  have least := n.le_toInt
  have enough : (2 ^ 63 : Nat) ≤ Duration.limit := by decide
  omega

/-- Rounding does not get in the way of the sign of a whole number. -/
theorem fails_int_iff {n : Int64} :
    (positive.Fails (.int n) ↔ ¬0 < n.toInt) ∧ (nonNegative.Fails (.int n) ↔ ¬0 ≤ n.toInt) := by
  rw [← Binary64.ofInt_pos_iff (natAbs_toInt_le n), ← Binary64.ofInt_nonneg_iff (natAbs_toInt_le n)]
  refine ⟨⟨?_, .notPositive rfl⟩, ⟨?_, .negative rfl⟩⟩
  · rintro (_ | _ | _ | _ | _ | _ | ⟨⟨⟩, fails⟩)
    exact fails
  · rintro (_ | _ | _ | _ | _ | _ | _ | ⟨⟨⟩, fails⟩)
    exact fails

end Rule

namespace Constraint

def told (constraint : Constraint) (messages : List String) : Constraint :=
  { constraint with message := messages.getLast?.or constraint.message }

private theorem told_cons (constraint : Constraint) (text : String) (messages : List String) :
    constraint.told (text :: messages) = { constraint with message := some text }.told messages := by
  simp only [told, List.getLast?_cons]
  cases messages.getLast? <;> rfl

end Constraint

/-- A call that adds to a set of constraints. -/
inductive ConstraintCall
  | rule (field : String) (value : FieldValue) (rule : Rule)
  | check (field : String) (passed : Bool) (code message : String)
  | message (message : String)

namespace ConstraintCall

def apply (set : ConstraintSet) : ConstraintCall → ConstraintSet
  | rule field value asked => set.rule field value asked
  | check field passed code text => set.check field passed code text
  | message text => set.message text

def messages : List ConstraintCall → List String
  | message text :: rest => text :: messages rest
  | _ => []

/-- The constraints that calls state: one for each rule and each check, given the messages between it and the next one. A
check has a message to begin with, and messages before the first constraint are lost. -/
def stated : List ConstraintCall → List Constraint
  | [] => []
  | rule field value asked :: rest => (⟨field, value, asked, none⟩ : Constraint).told (messages rest) :: stated rest
  | check field passed code text :: rest =>
    (⟨field, .bool passed, .check passed code, some text⟩ : Constraint).told (messages rest) :: stated rest
  | message _ :: rest => stated rest

private theorem messages_map (texts : List String) : messages (texts.map message) = texts := by
  induction texts with
  | nil => rfl
  | cons text rest ih => rw [List.map_cons, messages, ih]

private theorem stated_map (texts : List String) : stated (texts.map message) = [] := by
  induction texts with
  | nil => rfl
  | cons text rest ih => rw [List.map_cons, stated, ih]

private theorem messages_append (calls more : List ConstraintCall) :
    messages (calls ++ more) = messages (calls ++ (messages more).map message) := by
  induction calls with
  | nil => exact (messages_map _).symm
  | cons call rest ih =>
    cases call with
    | rule | check => rfl
    | message text => exact congrArg (text :: ·) ih

private theorem stated_append (calls more : List ConstraintCall) :
    stated (calls ++ more) = stated (calls ++ (messages more).map message) ++ stated more := by
  induction calls with
  | nil =>
    rw [List.nil_append, List.nil_append, stated_map]
    rfl
  | cons call rest ih =>
    have told := messages_append rest more
    cases call with
    | rule | check =>
      simp only [List.cons_append, stated, ih, told]
    | message text => exact ih

end ConstraintCall

/-- Violations report constraints: of those that are broken each has one violation, under its field, its message and the
code that tells how it is broken, in the order of the constraints, and none of the others has any. -/
inductive Constraint.Reports : List Constraint → List Violation → Prop
  | nil : Constraint.Reports [] []
  | kept {constraint : Constraint} {rest : List Constraint} {violations : List Violation}
    (holds : ∀ code, ¬constraint.rule.Broken constraint.value code) (others : Constraint.Reports rest violations) :
    Constraint.Reports (constraint :: rest) violations
  | broken {constraint : Constraint} {rest : List Constraint} {violations : List Violation} {code : String}
    (broken : constraint.rule.Broken constraint.value code) (others : Constraint.Reports rest violations) :
    Constraint.Reports (constraint :: rest)
      (⟨constraint.field, constraint.message.getD constraint.rule.message, code⟩ :: violations)

private theorem Constraint.Reports.unique {constraints : List Constraint} {first second : List Violation}
    (reports : Constraint.Reports constraints first) (other : Constraint.Reports constraints second) : first = second := by
  induction reports generalizing second with
  | nil =>
    cases other
    rfl
  | kept holds _ ih =>
    cases other with
    | kept _ others => exact ih others
    | broken broken _ => exact absurd broken (holds _)
  | broken broken _ ih =>
    cases other with
    | kept holds _ => exact absurd broken (holds _)
    | broken broken' others =>
      have same := (Rule.violation?_eq_some_iff.2 broken).symm.trans (Rule.violation?_eq_some_iff.2 broken')
      rw [Option.some.inj same, ih others]

namespace ConstraintSet

def after (set : ConstraintSet) (calls : List ConstraintCall) : ConstraintSet := calls.foldl ConstraintCall.apply set

private theorem message_append_singleton (earlier : List Constraint) (last : Constraint) (text : String) :
    ConstraintSet.message ⟨earlier ++ [last]⟩ text = ⟨earlier ++ [{ last with message := some text }]⟩ := by
  simp [message]

private theorem check_eq (set : ConstraintSet) (field : String) (passed : Bool) (code text : String) :
    set.check field passed code text =
      ⟨set.constraints ++ [⟨field, .bool passed, .check passed code, some text⟩]⟩ :=
  message_append_singleton _ _ _

private theorem after_append_singleton (earlier : List Constraint) (last : Constraint) (calls : List ConstraintCall) :
    after ⟨earlier ++ [last]⟩ calls =
      ⟨earlier ++ last.told (ConstraintCall.messages calls) :: ConstraintCall.stated calls⟩ := by
  induction calls generalizing earlier last with
  | nil => rfl
  | cons call rest ih =>
    rw [after, List.foldl_cons, ← after]
    cases call with
    | rule field value asked =>
      refine (ih (earlier ++ [last]) ⟨field, value, asked, none⟩).trans ?_
      rw [List.append_assoc]
      rfl
    | check field passed code text =>
      rw [ConstraintCall.apply, check_eq, ih, List.append_assoc]
      rfl
    | message text =>
      rw [ConstraintCall.apply, message_append_singleton, ih, ConstraintCall.messages, ConstraintCall.stated,
        Constraint.told_cons]

private theorem after_empty (calls : List ConstraintCall) : empty.after calls = ⟨ConstraintCall.stated calls⟩ := by
  induction calls with
  | nil => rfl
  | cons call rest ih =>
    cases call with
    | rule field value asked => exact after_append_singleton [] ⟨field, value, asked, none⟩ rest
    | check field passed code text =>
      exact after_append_singleton [] ⟨field, .bool passed, .check passed code, some text⟩ rest
    | message text => exact ih

private theorem reports_evaluate (constraints : List Constraint) :
    Constraint.Reports constraints (evaluate ⟨constraints⟩).violations := by
  induction constraints with
  | nil => exact .nil
  | cons constraint rest ih =>
    unfold evaluate
    cases found : constraint.rule.violation? constraint.value with
    | none =>
      have silent : constraint.violation? = none := by rw [Constraint.violation?, found, Option.map_none]
      rw [List.filterMap_cons_none silent]
      refine .kept (fun code broken => ?_) ih
      nomatch found.symm.trans (Rule.violation?_eq_some_iff.2 broken)
    | some code =>
      have told : constraint.violation? =
          some ⟨constraint.field, constraint.message.getD constraint.rule.message, code⟩ := by
        rw [Constraint.violation?, found, Option.map_some]
      rw [List.filterMap_cons_some told]
      exact .broken (Rule.violation?_eq_some_iff.1 found) ih

private theorem evaluate_append (first second : List Constraint) :
    evaluate ⟨first ++ second⟩ = (evaluate ⟨first⟩).merge (evaluate ⟨second⟩) := by
  rw [evaluate, List.filterMap_append]
  rfl

/-- What evaluating the constraints that calls have stated comes to. Those that are broken are reported, and they alone;
more constraints add their own violations at the end, and the calls that state them do so up to the messages that they
begin with, which belong to the last constraint before; and whatever is no number breaks the rules about numbers. -/
structure Evaluates (calls : List ConstraintCall) : Prop where
  reports : Constraint.Reports (ConstraintCall.stated calls) (empty.after calls).evaluate.violations
  only : ∀ violations, Constraint.Reports (ConstraintCall.stated calls) violations →
    violations = (empty.after calls).evaluate.violations
  merges : ∀ other : ConstraintSet, evaluate ⟨(empty.after calls).constraints ++ other.constraints⟩ =
    (empty.after calls).evaluate.merge other.evaluate
  continues : ∀ more, (empty.after (calls ++ more)).evaluate =
    (empty.after (calls ++ (ConstraintCall.messages more).map .message)).evaluate.merge (empty.after more).evaluate
  nan : ∀ constraint ∈ ConstraintCall.stated calls, constraint.value = .float .nan → constraint.rule.Numeric →
    constraint.rule.Broken constraint.value constraint.rule.code

/-- Whatever rules, checks and messages are stated in whatever order, evaluation reports exactly the broken constraints,
once each and in order. -/
theorem evaluates_after (calls : List ConstraintCall) : Evaluates calls where
  reports := by
    rw [after_empty]
    exact reports_evaluate _
  only violations reports := by
    rw [after_empty]
    exact reports.unique (reports_evaluate _)
  merges other := evaluate_append _ _
  continues more := by
    simp only [after_empty]
    rw [ConstraintCall.stated_append, evaluate_append]
  nan constraint mem undefined numeric := by
    rw [undefined]
    exact .fails (Rule.fails_of_nan numeric)

end ConstraintSet

end IntentBus
