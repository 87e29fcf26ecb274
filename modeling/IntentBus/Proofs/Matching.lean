import IntentBus.Pattern.Basic

/-! What it means for a part of a text to match a pattern, and that the search by partial derivatives finds out whether
some part of a text does. -/

namespace IntentBus.Pattern

/-- A pattern matches a part of a text, with what comes before and after it. Only the anchors ask about the latter. -/
inductive Matches : Pattern → List Char → List Char → List Char → Prop
  | empty (before after : List Char) : Matches .empty before [] after
  | textStart (after : List Char) : Matches .textStart [] [] after
  | textEnd (before : List Char) : Matches .textEnd before [] []
  | one {set : CharSet} {c : Char} (before after : List Char) (holds : set.contains c = true) :
    Matches (.one set) before [c] after
  | seq {p q : Pattern} {before first second after : List Char} (start : Matches p before first (second ++ after))
    (behind : Matches q (before ++ first) second after) : Matches (.seq p q) before (first ++ second) after
  | left {p q : Pattern} {before part after : List Char} (holds : Matches p before part after) :
    Matches (.alt p q) before part after
  | right {p q : Pattern} {before part after : List Char} (holds : Matches q before part after) :
    Matches (.alt p q) before part after
  | stop (p : Pattern) (before after : List Char) : Matches (.star p) before [] after
  | more {p : Pattern} {before first rest after : List Char} (once : Matches p before first (rest ++ after))
    (others : Matches (.star p) (before ++ first) rest after) : Matches (.star p) before (first ++ rest) after

def Occurs (pattern : Pattern) (text : List Char) : Prop :=
  ∃ before part after, text = before ++ part ++ after ∧ pattern.Matches before part after

variable {p q : Pattern} {before part after : List Char} {c : Char}

private theorem matches_seq_iff : (seq p q).Matches before part after ↔
    ∃ first second, part = first ++ second ∧ p.Matches before first (second ++ after) ∧
      q.Matches (before ++ first) second after := by
  constructor
  · rintro (_ | _ | _ | _ | ⟨start, behind⟩)
    exact ⟨_, _, rfl, start, behind⟩
  · rintro ⟨first, second, rfl, start, behind⟩
    exact .seq start behind

private theorem matches_alt_iff : (alt p q).Matches before part after ↔
    p.Matches before part after ∨ q.Matches before part after := by
  constructor
  · rintro (_ | _ | _ | _ | _ | left | right)
    · exact .inl left
    · exact .inr right
  · exact fun either => either.elim .left .right

private theorem matches_nil_iff : p.Matches before [] after ↔ p.nullable before.isEmpty after.isEmpty = true := by
  induction p generalizing before after with
  | empty => exact iff_of_true (.empty before after) rfl
  | textStart =>
    rw [nullable, List.isEmpty_iff]
    constructor
    · rintro ⟨⟩
      rfl
    · rintro rfl
      exact .textStart after
  | textEnd =>
    rw [nullable, List.isEmpty_iff]
    constructor
    · rintro ⟨⟩
      rfl
    · rintro rfl
      exact .textEnd before
  | one set => exact iff_of_false (fun matched => by cases matched) Bool.false_ne_true
  | seq p q ihp ihq =>
    rw [matches_seq_iff, nullable, Bool.and_eq_true, ← ihp, ← ihq]
    constructor
    · rintro ⟨first, second, split, start, behind⟩
      obtain ⟨rfl, rfl⟩ := List.append_eq_nil_iff.1 split.symm
      rw [List.append_nil] at behind
      exact ⟨start, behind⟩
    · rintro ⟨start, behind⟩
      exact ⟨[], [], rfl, start, (List.append_nil before).symm ▸ behind⟩
  | alt p q ihp ihq => rw [matches_alt_iff, nullable, Bool.or_eq_true, ihp, ihq]
  | star p => exact iff_of_true (.stop p before after) rfl

private theorem matches_star_cons_iff : (star p).Matches before (c :: part) after ↔
    ∃ first rest, part = first ++ rest ∧ p.Matches before (c :: first) (rest ++ after) ∧
      (star p).Matches (before ++ c :: first) rest after := by
  constructor
  · intro matched
    generalize whole : c :: part = text at matched
    generalize repeated : star p = pattern at matched
    induction matched with
    | empty | textStart | textEnd | one | seq | left | right => nomatch repeated
    | stop => nomatch whole
    | @more p before first rest after once others _ ih =>
      cases repeated
      cases first with
      | nil =>
        rw [List.append_nil] at ih
        exact ih whole rfl
      | cons d first =>
        cases whole
        exact ⟨first, rest, rfl, once, others⟩
  · rintro ⟨first, rest, rfl, once, others⟩
    exact .more once others

private theorem matches_one_iff {set : CharSet} : (one set).Matches before (c :: part) after ↔
    set.contains c = true ∧ part = [] := by
  constructor
  · intro matched
    cases matched with
    | one _ _ holds => exact ⟨holds, rfl⟩
  · rintro ⟨holds, rfl⟩
    exact .one before after holds

private theorem matches_empty_iff : empty.Matches before part after ↔ part = [] := by
  constructor
  · rintro ⟨⟩
    rfl
  · rintro rfl
    exact .empty before after

private theorem matches_cons_iff : p.Matches before (c :: part) after ↔
    ∃ next ∈ p.derive before.isEmpty c, next.Matches (before ++ [c]) part after := by
  induction p generalizing before part after with
  | empty | textStart | textEnd => exact iff_of_false (fun matched => by cases matched) (by simp [derive])
  | one set =>
    rw [matches_one_iff, derive]
    split
    · next holds => simp [holds, matches_empty_iff]
    · next fails => simp [fails]
  | seq p q ihp ihq =>
    simp only [matches_seq_iff, derive, List.mem_append, or_and_right, exists_or, List.mem_map]
    constructor
    · rintro ⟨first, second, split, start, behind⟩
      cases first with
      | nil =>
        -- Nothing of the part is left to the first pattern, so that the character falls to the second.
        rw [List.nil_append] at split
        subst split
        rw [List.append_nil] at behind
        have nullable : p.nullable before.isEmpty false = true := matches_nil_iff.1 start
        rw [if_pos nullable]
        exact .inr (ihq.1 behind)
      | cons d first =>
        cases split
        obtain ⟨next, mem, start⟩ := ihp.1 start
        exact .inl ⟨_, ⟨next, mem, rfl⟩, matches_seq_iff.2 ⟨first, second, rfl, start, by simpa using behind⟩⟩
    · rintro (⟨_, ⟨next, mem, rfl⟩, matched⟩ | ⟨next, mem, matched⟩)
      · obtain ⟨first, second, rfl, start, behind⟩ := matches_seq_iff.1 matched
        exact ⟨c :: first, second, rfl, ihp.2 ⟨next, mem, start⟩, by simpa using behind⟩
      · split at mem
        · next nullable =>
          refine ⟨[], c :: part, rfl, matches_nil_iff.2 nullable, ?_⟩
          rw [List.append_nil]
          exact ihq.2 ⟨next, mem, matched⟩
        · nomatch mem
  | alt p q ihp ihq => simp only [matches_alt_iff, derive, List.mem_append, or_and_right, exists_or, ihp, ihq]
  | star p ih =>
    simp only [matches_star_cons_iff, derive, List.mem_map]
    constructor
    · rintro ⟨first, rest, rfl, once, others⟩
      obtain ⟨next, mem, once⟩ := ih.1 once
      exact ⟨_, ⟨next, mem, rfl⟩, matches_seq_iff.2 ⟨first, rest, rfl, once, by simpa using others⟩⟩
    · rintro ⟨_, ⟨next, mem, rfl⟩, matched⟩
      obtain ⟨first, rest, rfl, once, others⟩ := matches_seq_iff.1 matched
      exact ⟨first, rest, rfl, ih.2 ⟨next, mem, once⟩, by simpa using others⟩

private def Begins (pattern : Pattern) (before rest : List Char) : Prop :=
  ∃ part after, rest = part ++ after ∧ pattern.Matches before part after

private theorem begins_nil_iff : p.Begins before [] ↔ p.nullable before.isEmpty true = true := by
  have ends : p.Matches before [] [] ↔ p.nullable before.isEmpty true = true := matches_nil_iff
  rw [← ends]
  constructor
  · rintro ⟨part, after, split, matched⟩
    obtain ⟨rfl, rfl⟩ := List.append_eq_nil_iff.1 split.symm
    exact matched
  · exact fun matched => ⟨[], [], rfl, matched⟩

private theorem begins_cons_iff {rest : List Char} : p.Begins before (c :: rest) ↔
    p.nullable before.isEmpty false = true ∨ ∃ next ∈ p.derive before.isEmpty c, next.Begins (before ++ [c]) rest := by
  have here : p.Matches before [] (c :: rest) ↔ p.nullable before.isEmpty false = true := matches_nil_iff
  rw [← here]
  constructor
  · rintro ⟨part, after, split, matched⟩
    cases part with
    | nil =>
      cases split
      exact .inl matched
    | cons d part =>
      cases split
      obtain ⟨next, mem, matched⟩ := matches_cons_iff.1 matched
      exact .inr ⟨next, mem, part, after, rfl, matched⟩
  · rintro (matched | ⟨next, mem, part, after, rfl, matched⟩)
    · exact ⟨[], c :: rest, rfl, matched⟩
    · exact ⟨c :: part, after, rfl, matches_cons_iff.2 ⟨next, mem, matched⟩⟩

private def Within (pattern : Pattern) (before rest : List Char) : Prop :=
  ∃ skipped later, rest = skipped ++ later ∧ pattern.Begins (before ++ skipped) later

private theorem within_nil_iff : p.Within before [] ↔ p.Begins before [] := by
  constructor
  · rintro ⟨skipped, later, split, begins⟩
    obtain ⟨rfl, rfl⟩ := List.append_eq_nil_iff.1 split.symm
    rwa [List.append_nil] at begins
  · exact fun begins => ⟨[], [], rfl, by rwa [List.append_nil]⟩

private theorem within_cons_iff {rest : List Char} :
    p.Within before (c :: rest) ↔ p.Begins before (c :: rest) ∨ p.Within (before ++ [c]) rest := by
  constructor
  · rintro ⟨skipped, later, split, begins⟩
    cases skipped with
    | nil =>
      cases split
      rw [List.append_nil] at begins
      exact .inl begins
    | cons d skipped =>
      cases split
      exact .inr ⟨skipped, later, rfl, by simpa using begins⟩
  · rintro (begins | ⟨skipped, later, rfl, begins⟩)
    · exact ⟨[], c :: rest, rfl, by rwa [List.append_nil]⟩
    · exact ⟨c :: skipped, later, rfl, by simpa using begins⟩

private theorem search_iff {begun : List Pattern} {rest : List Char} : search p before.isEmpty begun rest = true ↔
    (∃ next ∈ begun, next.Begins before rest) ∨ p.Within before rest := by
  induction rest generalizing before begun with
  | nil =>
    rw [search, List.any_cons, Bool.or_eq_true, List.any_eq_true, within_nil_iff, or_comm]
    simp only [begins_nil_iff]
  | cons c rest ih =>
    let derived := ((p :: begun).flatMap (derive before.isEmpty c)).eraseDups
    have inside : (before ++ [c]).isEmpty = false := by simp
    have later : search p false derived rest = true ↔
        (∃ next ∈ derived, next.Begins (before ++ [c]) rest) ∨ p.Within (before ++ [c]) rest :=
      inside ▸ ih
    have goes : (∃ next ∈ p :: begun, next.Begins before (c :: rest)) ↔
        (p :: begun).any (nullable before.isEmpty false) = true ∨
          ∃ next ∈ derived, next.Begins (before ++ [c]) rest := by
      simp only [derived, begins_cons_iff, List.any_eq_true, List.mem_eraseDups, List.mem_flatMap, and_or_left, exists_or]
      refine or_congr_right ⟨?_, ?_⟩
      · rintro ⟨first, mem, next, derived, begins⟩
        exact ⟨next, ⟨first, mem, derived⟩, begins⟩
      · rintro ⟨next, ⟨first, mem, derived⟩, begins⟩
        exact ⟨first, mem, next, derived, begins⟩
    rw [search, Bool.or_eq_true, later, ← or_assoc, ← goes, within_cons_iff, ← or_assoc]
    refine or_congr_left ?_
    simp only [List.mem_cons, or_and_right, exists_or, exists_eq_left, or_comm]

/-- A pattern is found in a text if some part of the text matches it. -/
theorem matchesIn_iff {pattern : Pattern} {text : String} :
    pattern.matchesIn text = true ↔ pattern.Occurs text.toList := by
  have found : search pattern true [] text.toList = true ↔
      (∃ next ∈ ([] : List Pattern), next.Begins [] text.toList) ∨ pattern.Within [] text.toList :=
    @search_iff pattern [] [] text.toList
  have begins : ¬∃ next ∈ ([] : List Pattern), next.Begins [] text.toList := by simp
  rw [matchesIn, found, or_iff_right begins]
  constructor
  · rintro ⟨before, later, split, part, after, rfl, matched⟩
    exact ⟨before, part, after, by rw [split, List.append_assoc], matched⟩
  · rintro ⟨before, part, after, split, matched⟩
    exact ⟨before, part ++ after, by rw [split, List.append_assoc], part, after, rfl, matched⟩

end IntentBus.Pattern
