import Mathlib.Data.List.Infix
import FilterQuery.Text.LowerCase
/-! The lower case of a text inside another one. Every character but the capital sigma has
one lower case wherever it stands. A sigma looks at the text around it, so the lower case
of a text need not occur in the lower case of a longer one in which the text itself occurs.
It always does iff the text settles the form of each of its sigmas: otherwise a letter before
or after the text changes the form of one of them. -/
namespace FilterQuery.Text

/-- The lower case of a text between what stands before it, read backwards, and what stands after
it. -/
def lowerWithin (before after : List Char) : List Char → List Char
  | [] => []
  | c :: rest =>
    (if c = 'Σ' then [lowerSigma before (rest ++ after)] else lowerChar c) ++
      lowerWithin (c :: before) after rest

/-- A text settles the form of each of its sigmas: whatever stands around the text, they are as they
are in the text alone. -/
def SigmasSettled (cs : List Char) : Prop :=
  ∀ before after, cs = before ++ 'Σ' :: after → ∀ outer further,
    lowerSigma (before.reverse ++ outer) (after ++ further) = lowerSigma before.reverse after

variable {cs before after : List Char}

theorem settled_of_not_mem (none : 'Σ' ∉ cs) : SigmasSettled cs := by
  rintro first second rfl
  exact absurd (by simp) none

theorem lowerAfter_append (before cs after : List Char) :
    lowerAfter before (cs ++ after) =
      lowerWithin before after cs ++ lowerAfter (cs.reverse ++ before) after := by
  induction cs generalizing before with
  | nil => rfl
  | cons c rest ih => simp [lowerAfter, lowerWithin, ih]

theorem lowerAfter_eq (before cs : List Char) : lowerAfter before cs = lowerWithin before [] cs := by
  simpa [lowerAfter] using lowerAfter_append before cs []

theorem lowerWithin_append (before after first second : List Char) :
    lowerWithin before after (first ++ second) =
      lowerWithin before (second ++ after) first ++
        lowerWithin (first.reverse ++ before) after second := by
  induction first generalizing before with
  | nil => rfl
  | cons c rest ih => simp [lowerWithin, ih]

/-- The number of characters of the lower case does not depend on what stands around the text. -/
theorem length_lowerWithin (before after other further cs : List Char) :
    (lowerWithin before after cs).length = (lowerWithin other further cs).length := by
  induction cs generalizing before other with
  | nil => rfl
  | cons c rest ih =>
    simp only [lowerWithin, List.length_append, ih (c :: before) (c :: other)]
    by_cases sigma : c = 'Σ' <;> simp [sigma]

/-- If what stands around the text changes no sigma, it does not change the lower case. -/
private theorem lowerWithin_of_unchanged {seen outer further : List Char}
    (unchanged : ∀ before after, cs = before ++ 'Σ' :: after →
      lowerSigma (before.reverse ++ (seen ++ outer)) (after ++ further) =
        lowerSigma (before.reverse ++ seen) after) :
    lowerWithin (seen ++ outer) further cs = lowerWithin seen [] cs := by
  induction cs generalizing seen with
  | nil => rfl
  | cons c rest ih =>
    have others : lowerWithin (c :: seen ++ outer) further rest = lowerWithin (c :: seen) [] rest := by
      apply ih
      rintro before after rfl
      simpa using unchanged (c :: before) after rfl
    rw [lowerWithin, lowerWithin, ← List.cons_append, others]
    by_cases sigma : c = 'Σ'
    · subst sigma
      simp only [if_true, List.append_nil]
      rw [show lowerSigma (seen ++ outer) (rest ++ further) = lowerSigma seen rest from
        unchanged [] rest rfl]
    · simp only [if_neg sigma]

/-- Wherever a text occurs that settles its sigmas, its lower case occurs in the lower case. -/
theorem lower_infix_of_settled {text : List Char} (settled : SigmasSettled cs)
    (occurs : cs <:+: text) : lowerAfter [] cs <:+: lowerAfter [] text := by
  obtain ⟨before, after, rfl⟩ := occurs
  have inside : lowerWithin before.reverse after cs = lowerAfter [] cs := by
    rw [lowerAfter_eq, ← List.nil_append before.reverse]
    apply lowerWithin_of_unchanged
    intro first second split
    simpa using settled first second split before.reverse after
  refine ⟨lowerWithin [] (cs ++ after) before, lowerAfter (cs.reverse ++ before.reverse) after, ?_⟩
  rw [List.append_assoc, List.append_assoc, lowerAfter_append, lowerAfter_append, List.append_nil,
    inside]

theorem beginsCased_cons (c : Char) (cs : List Char) :
    beginsCased (c :: cs) = if isCaseIgnorable c then beginsCased cs else isCased c := by
  by_cases ignorable : isCaseIgnorable c = true <;> simp [beginsCased, ignorable]

theorem beginsCased_append (cs ds : List Char) :
    beginsCased (cs ++ ds) = if cs.all isCaseIgnorable then beginsCased ds else beginsCased cs := by
  induction cs with
  | nil => rfl
  | cons c cs ih =>
    rw [List.cons_append, beginsCased_cons, beginsCased_cons, ih]
    by_cases ignorable : isCaseIgnorable c = true <;> simp [ignorable]

theorem beginsCased_eq_false (ignorable : cs.all isCaseIgnorable = true) :
    beginsCased cs = false := by
  have appended := beginsCased_append cs []
  rw [List.append_nil, if_pos ignorable] at appended
  exact appended

/-- A letter that has a case, is not passed over, and is in lower case. -/
structure LowerLetter (c : Char) : Prop where
  cased : isCased c = true
  notIgnorable : isCaseIgnorable c = false
  notSigma : c ≠ 'Σ'
  lower : lowerChar c = [c]

theorem LowerLetter.beginsCased {c : Char} (letter : LowerLetter c) :
    beginsCased [c] = true := by
  rw [beginsCased_cons, if_neg (by simp [letter.notIgnorable]), letter.cased]

theorem LowerLetter.beginsCased_append {c : Char} (letter : LowerLetter c)
    (ignorable : cs.all isCaseIgnorable = true) : Text.beginsCased (cs ++ [c]) = true := by
  rw [Text.beginsCased_append, if_pos ignorable, letter.beginsCased]

theorem lowerLetter_a : LowerLetter 'a' := by
  constructor <;> decide +kernel

theorem lowerLetter_b : LowerLetter 'b' := by
  constructor <;> decide +kernel

/-- There is a letter in lower case that is not this character. -/
theorem exists_lowerLetter_ne (c? : Option Char) : ∃ c, LowerLetter c ∧ c? ≠ some c := by
  by_cases first : c? = some 'a'
  · exact ⟨'b', lowerLetter_b, by simp [first]⟩
  · exact ⟨'a', lowerLetter_a, first⟩

/-- If something around a sigma changes its form, a letter after it does or a letter before it
does. -/
theorem sigma_changed_by_letter {outer further : List Char}
    (changed : lowerSigma (before ++ outer) (after ++ further) ≠ lowerSigma before after) :
    (∀ c, LowerLetter c → lowerSigma before (after ++ [c]) ≠ lowerSigma before after) ∨
      (∀ c, LowerLetter c → lowerSigma (before ++ [c]) after ≠ lowerSigma before after) := by
  unfold lowerSigma at changed ⊢
  rw [beginsCased_append before, beginsCased_append after] at changed
  by_cases openAfter : after.all isCaseIgnorable = true
  · have nothingAfter := beginsCased_eq_false openAfter
    by_cases openBefore : before.all isCaseIgnorable = true
    · -- Alone the sigma is not final, but behind a letter it is.
      have nothingBefore := beginsCased_eq_false openBefore
      right
      intro c letter
      rw [letter.beginsCased_append openBefore]
      simp [nothingAfter, nothingBefore]
    · -- The text before the sigma is settled, so what follows is what makes the difference.
      rw [if_neg openBefore] at changed
      left
      intro c letter
      rw [letter.beginsCased_append openAfter]
      cases wordBefore : beginsCased before with
      | true => simp [nothingAfter]
      | false => simp [wordBefore] at changed
  · rw [if_neg openAfter] at changed
    by_cases openBefore : before.all isCaseIgnorable = true
    · have nothingBefore := beginsCased_eq_false openBefore
      right
      intro c letter
      rw [letter.beginsCased_append openBefore]
      cases wordAfter : beginsCased after with
      | true => simp [wordAfter] at changed
      | false => simp [nothingBefore]
    · rw [if_neg openBefore] at changed
      exact absurd rfl changed

/-- If a sigma has another form, the lower case is another one. -/
theorem lowerWithin_ne {first second outer further : List Char}
    (changed : lowerSigma (first.reverse ++ outer) (second ++ further) ≠
      lowerSigma first.reverse second) :
    lowerWithin outer further (first ++ 'Σ' :: second) ≠ lowerAfter [] (first ++ 'Σ' :: second) := by
  intro same
  rw [lowerAfter_eq, lowerWithin_append, lowerWithin_append] at same
  obtain ⟨-, same⟩ := List.append_inj same (length_lowerWithin _ _ _ _ first)
  simp only [lowerWithin, if_true, List.append_nil, List.singleton_append] at same
  exact changed (List.cons.inj same).1

/-- The lower case of a text that contains a sigma has characters. -/
theorem lowerAfter_sigma_ne_nil (first second : List Char) :
    lowerAfter [] (first ++ 'Σ' :: second) ≠ [] := by
  rw [lowerAfter_append]
  simp [lowerAfter]

/-- A text does not occur in another one of its length with a letter at the end, unless it ends in
that letter or is the other one. -/
theorem not_infix_concat {other : List Char} {c : Char} (nonempty : cs ≠ [])
    (long : cs.length = other.length) (notLast : cs.getLast? ≠ some c) (differs : other ≠ cs) :
    ¬ cs <:+: other ++ [c] := by
  rw [List.infix_concat_iff, List.suffix_concat_iff]
  rintro ((none | ⟨rest, rfl, -⟩) | inside)
  · exact nonempty none
  · exact notLast (by simp)
  · exact differs (inside.eq_of_length long).symm

/-- A text does not occur in another one of its length with a letter before it, unless it begins with
that letter or is the other one. -/
theorem not_infix_cons {other : List Char} {c : Char} (nonempty : cs ≠ [])
    (long : cs.length = other.length) (notFirst : cs.head? ≠ some c) (differs : other ≠ cs) :
    ¬ cs <:+: c :: other := by
  rw [List.infix_cons_iff, List.prefix_cons_iff]
  rintro ((none | ⟨rest, rfl, -⟩) | inside)
  · exact nonempty none
  · exact notFirst rfl
  · exact differs (inside.eq_of_length long).symm

/-- If a text does not settle its sigmas, it occurs in a text without its lower case occurring in
the lower case of that text. -/
theorem exists_of_not_settled (unsettled : ¬ SigmasSettled cs) :
    ∃ text, cs <:+: text ∧ ¬ lowerAfter [] cs <:+: lowerAfter [] text := by
  simp only [SigmasSettled, not_forall] at unsettled
  obtain ⟨first, second, rfl, outer, further, changed⟩ := unsettled
  have nonempty := lowerAfter_sigma_ne_nil first second
  have long (outer further : List Char) : (lowerAfter [] (first ++ 'Σ' :: second)).length =
      (lowerWithin outer further (first ++ 'Σ' :: second)).length := by
    rw [lowerAfter_eq, length_lowerWithin]
  rcases sigma_changed_by_letter changed with after | before
  · obtain ⟨c, letter, notLast⟩ :=
      exists_lowerLetter_ne (lowerAfter [] (first ++ 'Σ' :: second)).getLast?
    refine ⟨first ++ 'Σ' :: second ++ [c], ⟨[], [c], rfl⟩, ?_⟩
    have lower : lowerAfter [] (first ++ 'Σ' :: second ++ [c]) =
        lowerWithin [] [c] (first ++ 'Σ' :: second) ++ [c] := by
      rw [lowerAfter_append]
      simp [lowerAfter, letter.notSigma, letter.lower]
    rw [lower]
    apply not_infix_concat nonempty (long _ _) notLast
    apply lowerWithin_ne
    rw [List.append_nil]
    exact after c letter
  · obtain ⟨c, letter, notFirst⟩ :=
      exists_lowerLetter_ne (lowerAfter [] (first ++ 'Σ' :: second)).head?
    refine ⟨c :: (first ++ 'Σ' :: second), ⟨[c], [], by simp⟩, ?_⟩
    have lower : lowerAfter [] (c :: (first ++ 'Σ' :: second)) =
        c :: lowerWithin [c] [] (first ++ 'Σ' :: second) := by
      rw [lowerAfter, if_neg letter.notSigma, letter.lower, lowerAfter_eq]
      rfl
    rw [lower]
    apply not_infix_cons nonempty (long _ _) notFirst
    apply lowerWithin_ne
    rw [List.append_nil]
    exact before c letter

/-- A text settles its sigmas iff wherever it occurs, its lower case occurs in the lower case. -/
theorem sigmasSettled_iff :
    SigmasSettled cs ↔ ∀ text, cs <:+: text → lowerAfter [] cs <:+: lowerAfter [] text := by
  constructor
  · intro settled text occurs
    exact lower_infix_of_settled settled occurs
  · intro always
    by_contra unsettled
    obtain ⟨text, occurs, missing⟩ := exists_of_not_settled unsettled
    exact missing (always text occurs)

end FilterQuery.Text
