/-! Patterns of texts. A percent sign stands for any run of characters, an
underscore for any one character, and a backslash takes its special meaning from
the character after it. Text and pattern are gone through together, in rounds.
When a part does not fit, the last run takes up one character more and matching
goes on behind it; the runs before the last one are never revisited. -/
namespace FilterQuery.Like

/-- A part of a pattern. -/
inductive Token where
  | literal (c : Char)
  /-- Any one character. -/
  | anyOne
  /-- Any run of characters, also the empty one. -/
  | anyRun
deriving DecidableEq

/-- The parts of a pattern. A backslash at the end stands for itself. -/
def tokens : List Char → List Token
  | [] => []
  | '%' :: rest => .anyRun :: tokens rest
  | '_' :: rest => .anyOne :: tokens rest
  | ['\\'] => [.literal '\\']
  | '\\' :: c :: rest => .literal c :: tokens rest
  | c :: rest => .literal c :: tokens rest

/-- The last run that was met. -/
structure Run where
  /-- Its place among the parts. -/
  place : Nat
  /-- The number of characters of the text up to its end. -/
  stop : Nat
deriving DecidableEq

/-- How far text and pattern have been gone through. -/
structure Progress where
  /-- The number of characters that are taken up. -/
  taken : Nat
  /-- The number of parts that are used. -/
  used : Nat
  lastRun? : Option Run
  behind : ∀ run, lastRun? = some run → run.place < used ∧ run.stop ≤ taken
deriving DecidableEq

/-- What a round leads to. -/
inductive Round where
  | again (progress : Progress)
  | answer (accepted : Bool)
  /-- A character or a part was asked for that is not there. -/
  | outside
deriving DecidableEq

namespace Progress

/-- Nothing has been gone through. -/
def start : Progress := ⟨0, 0, none, nofun⟩

/-- A part has taken up a character. -/
def advance (progress : Progress) : Progress where
  taken := progress.taken + 1
  used := progress.used + 1
  lastRun? := progress.lastRun?
  behind run last := (progress.behind run last).imp Nat.lt_succ_of_lt Nat.le_succ_of_le

/-- A run has been met. It takes up nothing at first. -/
def meetRun (progress : Progress) : Progress where
  taken := progress.taken
  used := progress.used + 1
  lastRun? := some ⟨progress.used, progress.taken⟩
  behind := by
    rintro run ⟨⟩
    exact ⟨Nat.lt_succ_self _, Nat.le_refl _⟩

/-- The last run takes up one character more, and the parts behind it are not used yet. -/
def behindRun (run : Run) : Progress where
  taken := run.stop + 1
  used := run.place + 1
  lastRun? := some { run with stop := run.stop + 1 }
  behind := by
    rintro moved ⟨⟩
    exact ⟨Nat.lt_succ_self _, Nat.le_refl _⟩

/-- No part takes up the next character. Without a run before it that is the end. -/
def retry (progress : Progress) : Round :=
  match progress.lastRun? with
  | some run => .again (behindRun run)
  | none => .answer false

/-- One round. At the end of the text all parts that are left must be runs. -/
def round (parts : Array Token) (text : Array Char) (progress : Progress) : Round :=
  if progress.taken < text.size then
    match parts[progress.used]? with
    | some .anyOne => .again progress.advance
    | some .anyRun => .again progress.meetRun
    | some (.literal c) =>
      match text[progress.taken]? with
      | some d => if c = d then .again progress.advance else progress.retry
      | none => .outside
    | none => progress.retry
  else if progress.used ≤ parts.size then
    .answer ((parts.toList.drop progress.used).all fun part => part == .anyRun)
  else .outside

/-- What is left to do: runs that may be met, characters that the last run may take up, and parts
that may be used. -/
def left (parts : Array Token) (text : Array Char) (progress : Progress) : Nat × Nat × Nat :=
  match progress.lastRun? with
  | some run => (parts.size - run.place, text.size - run.stop, parts.size - progress.used)
  | none => (parts.size + 1, 0, parts.size - progress.used)

/-- After `next` there is less left to do. Runs count most, and parts least. -/
def LeavesLess (parts : Array Token) (text : Array Char) (next progress : Progress) : Prop :=
  Prod.Lex (· < ·) (Prod.Lex (· < ·) (· < ·)) (next.left parts text) (progress.left parts text)

variable {parts : Array Token} {text : Array Char} {progress next : Progress}

theorem leavesLess_advance (further : progress.used < parts.size) :
    LeavesLess parts text progress.advance progress := by
  have fewer : parts.size - (progress.used + 1) < parts.size - progress.used := by omega
  unfold LeavesLess left
  cases last : progress.lastRun? <;> simp only [advance, last] <;>
    exact .right _ (.right _ fewer)

theorem leavesLess_meetRun (further : progress.used < parts.size) :
    LeavesLess parts text progress.meetRun progress := by
  unfold LeavesLess left
  cases last : progress.lastRun? with
  | some run =>
    obtain ⟨before, -⟩ := progress.behind run last
    have fewer : parts.size - progress.used < parts.size - run.place := by omega
    exact .left _ _ fewer
  | none =>
    have fewer : parts.size - progress.used < parts.size + 1 := by omega
    exact .left _ _ fewer

theorem leavesLess_retry (more : progress.taken < text.size)
    (goesOn : progress.retry = .again next) : LeavesLess parts text next progress := by
  unfold retry at goesOn
  cases last : progress.lastRun? with
  | some run =>
    rw [last] at goesOn
    cases goesOn
    obtain ⟨-, before⟩ := progress.behind run last
    have fewer : text.size - (run.stop + 1) < text.size - run.stop := by omega
    rw [LeavesLess, left, left, last]
    exact .right _ (.left _ _ fewer)
  | none =>
    rw [last] at goesOn
    cases goesOn

/-- A round that leads on leaves less to do: it meets a further run, lets the last run take up a
further character, or uses a further part. -/
theorem leavesLess_round (goesOn : progress.round parts text = .again next) :
    LeavesLess parts text next progress := by
  unfold round at goesOn
  by_cases more : progress.taken < text.size
  · rw [if_pos more] at goesOn
    cases found : parts[progress.used]? with
    | none =>
      rw [found] at goesOn
      exact leavesLess_retry more goesOn
    | some part =>
      obtain ⟨further, -⟩ := Array.getElem?_eq_some_iff.1 found
      rw [found, Array.getElem?_eq_getElem more] at goesOn
      cases part with
      | anyOne =>
        cases goesOn
        exact leavesLess_advance further
      | anyRun =>
        cases goesOn
        exact leavesLess_meetRun further
      | literal c =>
        by_cases same : c = text[progress.taken]
        · simp only [if_pos same] at goesOn
          cases goesOn
          exact leavesLess_advance further
        · simp only [if_neg same] at goesOn
          exact leavesLess_retry more goesOn
  · rw [if_neg more] at goesOn
    split at goesOn <;> cases goesOn

/-- Goes on in rounds to the answer. There is none if a round leads outside. -/
def answer? (parts : Array Token) (text : Array Char) (progress : Progress) : Option Bool :=
  match _ : progress.round parts text with
  | .again next => next.answer? parts text
  | .answer accepted => some accepted
  | .outside => none
termination_by progress.left parts text
decreasing_by exact leavesLess_round ‹_›

end Progress

/-- Whether a text matches a pattern. -/
def accepts (pattern text : String) : Bool :=
  Progress.start.answer? (tokens pattern.toList).toArray text.toList.toArray == some true

/-- A character in a pattern that stands for itself. -/
def escape (c : Char) : List Char :=
  if c = '%' ∨ c = '_' ∨ c = '\\' then ['\\', c] else [c]

/-- The pattern of the texts that contain this one. -/
def containing (needle : String) : String :=
  String.ofList ('%' :: needle.toList.flatMap escape ++ ['%'])

end FilterQuery.Like
