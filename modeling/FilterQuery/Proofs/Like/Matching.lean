import Mathlib.Data.List.Forall2
import FilterQuery.Like
/-! Matching a text with a pattern. A text fits the parts of a pattern if it can be cut
into consecutive pieces for which the parts stand, in order. Matching goes through text
and parts in rounds and goes back only to the last run it has met. This loses nothing:
the parts between two runs take up a fixed number of characters, so if they fit further
to the right, the later run takes up what lies between. Each round leaves less to do, for
it meets a further run, or moves the end of the last run on, or uses a further part. -/
namespace FilterQuery.Like

/-- The parts that a pattern is read as. -/
inductive Reads : List Char → List Token → Prop where
  | nil : Reads [] []
  | anyRun {rest : List Char} {parts : List Token} (after : Reads rest parts) :
    Reads ('%' :: rest) (.anyRun :: parts)
  | anyOne {rest : List Char} {parts : List Token} (after : Reads rest parts) :
    Reads ('_' :: rest) (.anyOne :: parts)
  | escaped (c : Char) {rest : List Char} {parts : List Token} (after : Reads rest parts) :
    Reads ('\\' :: c :: rest) (.literal c :: parts)
  | trailing : Reads ['\\'] [.literal '\\']
  | plain {c : Char} {rest : List Char} {parts : List Token} (notRun : c ≠ '%') (notOne : c ≠ '_')
    (notEscape : c ≠ '\\') (after : Reads rest parts) : Reads (c :: rest) (.literal c :: parts)

/-- A part stands for a piece of text. -/
def Token.StandsFor : Token → List Char → Prop
  | .literal c, piece => piece = [c]
  | .anyOne, piece => ∃ c, piece = [c]
  | .anyRun, _ => True

/-- The text can be cut into consecutive pieces for which the parts stand, in order. -/
def Fits (parts : List Token) (text : List Char) : Prop :=
  ∃ pieces : List (List Char), pieces.flatten = text ∧ List.Forall₂ Token.StandsFor parts pieces

theorem tokens_of_plain {c : Char} (rest : List Char) (notRun : c ≠ '%') (notOne : c ≠ '_')
    (notEscape : c ≠ '\\') : tokens (c :: rest) = .literal c :: tokens rest := by
  rw [tokens.eq_def]
  split <;> simp_all

/-- A pattern is read in one way. -/
theorem reads_iff {pattern : List Char} {parts : List Token} :
    Reads pattern parts ↔ parts = tokens pattern := by
  constructor
  · intro read
    induction read with
    | nil => rfl
    | anyRun _ ih => rw [ih, tokens]
    | anyOne _ ih => rw [ih, tokens]
    | escaped c _ ih => rw [ih, tokens]
    | trailing => rfl
    | plain notRun notOne notEscape _ ih => rw [ih, tokens_of_plain _ notRun notOne notEscape]
  · rintro rfl
    fun_induction tokens pattern with
    | case1 => exact .nil
    | case2 rest ih => exact .anyRun ih
    | case3 rest ih => exact .anyOne ih
    | case4 => exact .trailing
    | case5 c rest ih => exact .escaped c ih
    | case6 c rest notRun notOne notTrailing notEscape ih =>
      refine .plain notRun notOne ?_ ih
      rintro rfl
      cases rest with
      | nil => exact notTrailing rfl rfl
      | cons d rest => exact notEscape d rest rfl rfl

section Fits

variable {part : Token} {parts rest : List Token} {text : List Char} {c : Char}

theorem fits_nil_iff : Fits [] text ↔ text = [] := by
  simp [Fits, eq_comm]

theorem fits_cons_iff : Fits (part :: rest) text ↔
    ∃ piece remaining, part.StandsFor piece ∧ text = piece ++ remaining ∧ Fits rest remaining := by
  constructor
  · rintro ⟨pieces, rfl, stand⟩
    obtain ⟨piece, others, stands, standRest, rfl⟩ := List.forall₂_cons_left_iff.1 stand
    exact ⟨piece, others.flatten, stands, List.flatten_cons, others, rfl, standRest⟩
  · rintro ⟨piece, remaining, stands, rfl, others, rfl, stand⟩
    exact ⟨piece :: others, List.flatten_cons, .cons stands stand⟩

/-- A part that is no run stands for one character. -/
theorem Token.StandsFor.exists_eq {piece : List Char} (single : part ≠ .anyRun)
    (stands : part.StandsFor piece) : ∃ c, piece = [c] := by
  cases part with
  | literal c => exact ⟨c, stands⟩
  | anyOne => exact stands
  | anyRun => exact absurd rfl single

theorem fits_cons_cons_iff (single : part ≠ .anyRun) :
    Fits (part :: rest) (c :: text) ↔ part.StandsFor [c] ∧ Fits rest text := by
  rw [fits_cons_iff]
  constructor
  · rintro ⟨piece, remaining, stands, cut, fits⟩
    obtain ⟨d, rfl⟩ := stands.exists_eq single
    cases cut
    exact ⟨stands, fits⟩
  · rintro ⟨stands, fits⟩
    exact ⟨[c], text, stands, rfl, fits⟩

theorem not_fits_cons_nil (single : part ≠ .anyRun) : ¬ Fits (part :: rest) [] := by
  rw [fits_cons_iff]
  rintro ⟨piece, remaining, stands, cut, -⟩
  obtain ⟨d, rfl⟩ := stands.exists_eq single
  cases cut

theorem fits_anyRun_iff : Fits (.anyRun :: rest) text ↔ ∃ count, Fits rest (text.drop count) := by
  rw [fits_cons_iff]
  constructor
  · rintro ⟨piece, remaining, -, rfl, fits⟩
    exact ⟨piece.length, by rwa [List.drop_left]⟩
  · rintro ⟨count, fits⟩
    exact ⟨text.take count, text.drop count, trivial, (List.take_append_drop count text).symm, fits⟩

/-- A run takes up nothing, or the first character and then perhaps more. -/
theorem fits_anyRun_cons_iff :
    Fits (.anyRun :: rest) (c :: text) ↔ Fits rest (c :: text) ∨ Fits (.anyRun :: rest) text := by
  rw [fits_anyRun_iff, fits_anyRun_iff]
  constructor
  · rintro ⟨count, fits⟩
    cases count with
    | zero => exact .inl fits
    | succ count => exact .inr ⟨count, fits⟩
  · rintro (fits | ⟨count, fits⟩)
    · exact ⟨0, fits⟩
    · exact ⟨count + 1, fits⟩

theorem fits_anyRun_of_drop {count : Nat} (fits : Fits (.anyRun :: rest) (text.drop count)) :
    Fits (.anyRun :: rest) text := by
  obtain ⟨more, fits⟩ := fits_anyRun_iff.1 fits
  rw [List.drop_drop] at fits
  exact fits_anyRun_iff.2 ⟨_, fits⟩

/-- Nothing is left of a text iff nothing but runs is left of the parts. -/
theorem fits_empty_iff : Fits parts [] ↔ (parts.all fun part => part == .anyRun) = true := by
  induction parts with
  | nil => simp [fits_nil_iff]
  | cons part rest ih =>
    by_cases run : part = .anyRun
    · subst run
      rw [fits_anyRun_iff]
      simp [ih]
    · simp [not_fits_cons_nil run, run]

/-- Parts without a run take up one character each. -/
theorem fits_drop_of_append {segment : List Token} (singles : .anyRun ∉ segment)
    (fits : Fits (segment ++ rest) text) : Fits rest (text.drop segment.length) := by
  induction segment generalizing text with
  | nil => exact fits
  | cons part segment ih =>
    obtain ⟨single, others⟩ : part ≠ .anyRun ∧ .anyRun ∉ segment := by
      simpa [eq_comm] using singles
    cases text with
    | nil => exact absurd fits (not_fits_cons_nil single)
    | cons c text => exact ih others ((fits_cons_cons_iff single).1 fits).2

end Fits

namespace Progress

/-- The place that is reached in text and parts is right: from there on the rest of the text fits
the rest of the parts only if the whole text fits all parts. Behind a run there are parts without a
further run, which fit the characters behind the end of the run, and the run cannot end earlier. -/
inductive Sound (parts : List Token) (text : List Char) (progress : Progress) : Prop where
  | opening (unmet : progress.lastRun? = none) (within : progress.taken ≤ text.length)
    (usable : progress.used ≤ parts.length)
    (same : Fits parts text ↔ Fits (parts.drop progress.used) (text.drop progress.taken))
  | afterRun (run : Run) (segment : List Token) (last : progress.lastRun? = some run)
    (singles : .anyRun ∉ segment) (usedUp : progress.used = run.place + 1 + segment.length)
    (takenUp : progress.taken = run.stop + segment.length) (within : progress.taken ≤ text.length)
    (behind : parts.drop run.place = .anyRun :: (segment ++ parts.drop progress.used))
    (same : Fits parts text ↔ Fits (parts.drop run.place) (text.drop run.stop))
    (fitted : ∀ rest, Fits rest (text.drop progress.taken) →
      Fits (segment ++ rest) (text.drop run.stop))

variable {parts : List Token} {text : List Char} {progress : Progress}

theorem sound_start (parts : List Token) (text : List Char) : Sound parts text start :=
  .opening rfl (Nat.zero_le _) (Nat.zero_le _) Iff.rfl

/-- A place is right behind a run that has just been met or moved on, if it is the rest from this run
on that decides. -/
theorem Sound.of_behind {run : Run} (last : progress.lastRun? = some run)
    (usedUp : progress.used = run.place + 1) (takenUp : progress.taken = run.stop)
    (within : progress.taken ≤ text.length)
    (behind : parts.drop run.place = .anyRun :: parts.drop progress.used)
    (same : Fits parts text ↔ Fits (parts.drop run.place) (text.drop run.stop)) :
    Sound parts text progress :=
  .afterRun run [] last (List.not_mem_nil) usedUp takenUp within behind same
    (fun _ fits => takenUp ▸ fits)

theorem Sound.taken_le (sound : Sound parts text progress) : progress.taken ≤ text.length := by
  cases sound <;> assumption

theorem Sound.used_le (sound : Sound parts text progress) : progress.used ≤ parts.length := by
  cases sound with
  | opening _ _ usable => exact usable
  | afterRun run segment _ _ usedUp _ _ behind =>
    have length := congrArg List.length behind
    simp only [List.length_drop, List.length_cons, List.length_append] at length
    omega

/-- If the rest of the text fits the rest of the parts, the whole text fits all parts. -/
theorem Sound.fits_of_rest (sound : Sound parts text progress)
    (fits : Fits (parts.drop progress.used) (text.drop progress.taken)) : Fits parts text := by
  cases sound with
  | opening _ _ _ same => exact same.2 fits
  | afterRun run segment _ _ _ _ _ behind same fitted =>
    rw [same, behind, fits_anyRun_iff]
    exact ⟨0, fitted _ fits⟩

/-- If the whole text fits all parts, a later rest of the text fits the rest of the parts: the
segment takes up as many characters wherever the run before it ends. -/
theorem Sound.exists_rest_of_fits (sound : Sound parts text progress) (fits : Fits parts text) :
    ∃ count, Fits (parts.drop progress.used) (text.drop (progress.taken + count)) := by
  cases sound with
  | opening _ _ _ same => exact ⟨0, same.1 fits⟩
  | afterRun run segment _ singles _ takenUp _ behind same =>
    rw [same, behind, fits_anyRun_iff] at fits
    obtain ⟨count, fits⟩ := fits
    have beyond := fits_drop_of_append singles fits
    rw [List.drop_drop, List.drop_drop] at beyond
    have place : run.stop + (count + segment.length) = progress.taken + count := by omega
    rw [place] at beyond
    exact ⟨count, beyond⟩

/-- If the rest of the parts fits no later rest without fitting this one, this one decides. -/
theorem Sound.fits_iff_rest (sound : Sound parts text progress)
    (later : ∀ count, Fits (parts.drop progress.used) (text.drop (progress.taken + count)) →
      Fits (parts.drop progress.used) (text.drop progress.taken)) :
    Fits parts text ↔ Fits (parts.drop progress.used) (text.drop progress.taken) := by
  constructor
  · intro fits
    obtain ⟨count, fits⟩ := sound.exists_rest_of_fits fits
    exact later count fits
  · exact sound.fits_of_rest

/-- What a round may lead to: a place that is right, or the right answer. -/
def RightRound (parts : List Token) (text : List Char) : Round → Prop
  | .again next => next.Sound parts text
  | .answer accepted => accepted = true ↔ Fits parts text
  | .outside => False

/-- After a part that takes up the next character. -/
theorem Sound.right_advance {part : Token} {c : Char} (sound : Sound parts text progress)
    (more : progress.taken < text.length) (further : progress.used < parts.length)
    (nextPart : parts.drop progress.used = part :: parts.drop (progress.used + 1))
    (nextChar : text.drop progress.taken = c :: text.drop (progress.taken + 1))
    (single : part ≠ .anyRun) (stands : part.StandsFor [c]) :
    RightRound parts text (.again progress.advance) := by
  have step (rest : List Token) :
      Fits (part :: rest) (text.drop progress.taken) ↔ Fits rest (text.drop (progress.taken + 1)) := by
    rw [nextChar, fits_cons_cons_iff single]
    exact and_iff_right stands
  cases sound with
  | opening unmet _ _ same =>
    rw [nextPart, step] at same
    exact .opening unmet more further same
  | afterRun run segment last singles usedUp takenUp _ behind same fitted =>
    refine .afterRun run (segment ++ [part]) last ?_ ?_ ?_ more ?_ same ?_
    · simpa [singles, eq_comm] using single
    · simp [advance, usedUp, Nat.add_assoc]
    · simp [advance, takenUp, Nat.add_assoc]
    · rw [behind, nextPart, List.append_assoc, List.singleton_append]
      rfl
    · intro rest fits
      rw [List.append_assoc, List.singleton_append]
      exact fitted _ ((step rest).2 fits)

/-- At a run, earlier runs can be left as they are: this one takes up what they would have. -/
theorem Sound.right_meetRun (sound : Sound parts text progress)
    (nextPart : parts.drop progress.used = .anyRun :: parts.drop (progress.used + 1)) :
    RightRound parts text (.again progress.meetRun) := by
  have same : Fits parts text ↔ Fits (parts.drop progress.used) (text.drop progress.taken) := by
    apply sound.fits_iff_rest
    intro count fits
    have further : text.drop (progress.taken + count) = (text.drop progress.taken).drop count :=
      List.drop_drop.symm
    rw [nextPart, further] at fits
    rw [nextPart]
    exact fits_anyRun_of_drop fits
  have right : Sound parts text progress.meetRun :=
    .of_behind rfl rfl rfl sound.taken_le nextPart same
  exact right

/-- At a character that no part takes up. -/
theorem Sound.right_retry (sound : Sound parts text progress)
    (more : progress.taken < text.length)
    (stuck : ¬ Fits (parts.drop progress.used) (text.drop progress.taken)) :
    RightRound parts text progress.retry := by
  unfold retry
  cases sound with
  | opening unmet _ _ same =>
    rw [unmet]
    simpa [RightRound, same] using stuck
  | afterRun run segment last singles usedUp takenUp _ behind same fitted =>
    have room : run.stop < text.length := by omega
    have fails : ¬ Fits (segment ++ parts.drop progress.used) (text.drop run.stop) := by
      intro fits
      have rest := fits_drop_of_append singles fits
      rw [List.drop_drop, ← takenUp] at rest
      exact stuck rest
    have afterwards : parts.drop (run.place + 1) = segment ++ parts.drop progress.used := by
      rw [← List.drop_drop, behind]
      rfl
    have moved : Fits parts text ↔ Fits (parts.drop run.place) (text.drop (run.stop + 1)) := by
      rw [same, behind, List.drop_eq_getElem_cons room, fits_anyRun_cons_iff,
        ← List.drop_eq_getElem_cons room]
      exact or_iff_right fails
    have right : Sound parts text (behindRun run) := by
      refine .of_behind rfl rfl rfl room ?_ moved
      rw [behind, ← afterwards]
      rfl
    rw [last]
    exact right

/-- At the end of the text. -/
theorem Sound.right_answer (sound : Sound parts text progress)
    (ended : text.length ≤ progress.taken) :
    RightRound parts text
      (.answer ((parts.drop progress.used).all fun part => part == .anyRun)) := by
  have nothing (count : Nat) : text.drop (progress.taken + count) = [] :=
    List.drop_eq_nil_of_le (by omega)
  have same : Fits parts text ↔ Fits (parts.drop progress.used) (text.drop progress.taken) := by
    apply sound.fits_iff_rest
    intro count fits
    rwa [nothing count, ← nothing 0] at fits
  show _ ↔ _
  rw [same, ← Nat.add_zero progress.taken, nothing 0, fits_empty_iff]

/-- A round from a place that is right leads to another one, or answers rightly. It does not ask for
a character or a part that is not there. -/
theorem Sound.right_round (sound : Sound parts text progress) :
    RightRound parts text (progress.round parts.toArray text.toArray) := by
  unfold round
  by_cases more : progress.taken < text.length
  · rw [if_pos (by simpa using more)]
    have nextChar := List.drop_eq_getElem_cons more
    cases found : parts[progress.used]? with
    | none =>
      have exhausted : parts.drop progress.used = [] :=
        List.drop_eq_nil_of_le (List.getElem?_eq_none_iff.1 found)
      simp only [List.getElem?_toArray, found]
      apply sound.right_retry more
      rw [exhausted, nextChar, fits_nil_iff]
      exact List.cons_ne_nil _ _
    | some part =>
      obtain ⟨further, isPart⟩ := List.getElem?_eq_some_iff.1 found
      have nextPart := List.drop_eq_getElem_cons further
      rw [isPart] at nextPart
      cases part with
      | anyOne =>
        simp only [List.getElem?_toArray, found]
        exact sound.right_advance more further nextPart nextChar (by simp) ⟨_, rfl⟩
      | anyRun =>
        simp only [List.getElem?_toArray, found]
        exact sound.right_meetRun nextPart
      | literal c =>
        simp only [List.getElem?_toArray, found, List.getElem?_eq_getElem more]
        by_cases stands : c = text[progress.taken]
        · rw [if_pos stands]
          exact sound.right_advance more further nextPart nextChar (by simp) (by rw [stands]; rfl)
        · rw [if_neg stands]
          apply sound.right_retry more
          rw [nextPart, nextChar, fits_cons_cons_iff (by simp)]
          rintro ⟨same, -⟩
          exact stands (List.cons.inj same).1.symm
  · rw [if_neg (by simpa using more), if_pos (by simpa using sound.used_le)]
    exact sound.right_answer (Nat.le_of_not_lt more)

/-- There is no endless sequence of rounds, wherever it begins. -/
theorem wellFounded_round (parts : Array Token) (text : Array Char) :
    WellFounded fun next progress : Progress => progress.round parts text = .again next :=
  Subrelation.wf leavesLess_round
    (InvImage.wf (left parts text) (Prod.lex Nat.lt_wfRel (Prod.lex Nat.lt_wfRel Nat.lt_wfRel)).wf)

/-- From a place that is right the rounds come to the right answer. -/
theorem Sound.exists_answer (sound : Sound parts text progress) :
    ∃ accepted, progress.answer? parts.toArray text.toArray = some accepted ∧
      (accepted = true ↔ Fits parts text) := by
  fun_induction answer? parts.toArray text.toArray progress with
  | case1 progress next outcome ih =>
    have right := sound.right_round
    rw [outcome] at right
    exact ih right
  | case2 progress accepted outcome =>
    have right := sound.right_round
    rw [outcome] at right
    exact ⟨accepted, rfl, right⟩
  | case3 progress outcome =>
    have right := sound.right_round
    rw [outcome] at right
    exact right.elim

end Progress

theorem accepts_iff_fits (pattern text : String) :
    accepts pattern text = true ↔ Fits (tokens pattern.toList) text.toList := by
  obtain ⟨accepted, ended, right⟩ :=
    (Progress.sound_start (tokens pattern.toList) text.toList).exists_answer
  rw [accepts, ended, ← right]
  simp

/-- Matching a text with a pattern comes to an end: there is no endless sequence of rounds, and from
the start they lead to an answer, without asking for a character or a part that is not there. The
text is accepted iff it can be cut into consecutive pieces for which the parts of the pattern stand
in order: a percent sign for any run, an underscore for any one character, a backslash with the
character after it for that character, a backslash at the end and any other character for itself. -/
theorem matching_answers (pattern text : String) :
    ∃ parts accepted, (∀ read, Reads pattern.toList read ↔ read = parts) ∧
      (WellFounded fun next progress : Progress =>
        progress.round parts.toArray text.toList.toArray = .again next) ∧
      Progress.start.answer? parts.toArray text.toList.toArray = some accepted ∧
      accepts pattern text = accepted ∧
      (accepted = true ↔ ∃ pieces : List (List Char), pieces.flatten = text.toList ∧
        List.Forall₂ Token.StandsFor parts pieces) := by
  obtain ⟨accepted, ended, right⟩ :=
    (Progress.sound_start (tokens pattern.toList) text.toList).exists_answer
  refine ⟨tokens pattern.toList, accepted, fun _ => reads_iff, Progress.wellFounded_round _ _, ended,
    ?_, right⟩
  rw [accepts, ended]
  cases accepted <;> rfl

end FilterQuery.Like
