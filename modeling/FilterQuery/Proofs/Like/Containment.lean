import FilterQuery.Proofs.Like.Matching
/-! The pattern that is made of a text is accepted by exactly the texts in which
that text occurs. Escaping makes every character of the text a literal part, so
the parts are these literals between two runs. -/
namespace FilterQuery.Like

private theorem tokens_escaped (needle rest : List Char) :
    tokens (needle.flatMap escape ++ rest) = needle.map Token.literal ++ tokens rest := by
  induction needle with
  | nil => rfl
  | cons c needle ih =>
    by_cases special : c = '%' ∨ c = '_' ∨ c = '\\'
    · simp [escape, special, tokens, ih]
    · obtain ⟨notRun, notOne, notEscape⟩ : c ≠ '%' ∧ c ≠ '_' ∧ c ≠ '\\' := by
        simpa [not_or] using special
      have plain : tokens (c :: (needle.flatMap escape ++ rest)) =
          .literal c :: tokens (needle.flatMap escape ++ rest) :=
        tokens_of_plain _ notRun notOne notEscape
      simp [escape, special, plain, ih]

/-- A text in a pattern is escaped in such a way that it is read as its own characters. -/
theorem tokens_containing (needle : String) :
    tokens (containing needle).toList =
      .anyRun :: (needle.toList.map Token.literal ++ [.anyRun]) := by
  simp only [containing, String.toList_ofList, List.cons_append, tokens, tokens_escaped]

-- The backslash at the end of the text does not take the meaning of the closing run.
example : tokens (containing "5%\\").toList =
    [.anyRun, .literal '5', .literal '%', .literal '\\', .anyRun] := by decide

private theorem fits_literals_iff (needle text : List Char) (rest : List Token) :
    Fits (needle.map Token.literal ++ rest) text ↔
      ∃ remaining, text = needle ++ remaining ∧ Fits rest remaining := by
  induction needle generalizing text with
  | nil => simp
  | cons c needle ih =>
    rw [List.map_cons, List.cons_append]
    cases text with
    | nil => simp [not_fits_cons_nil]
    | cons d text =>
      rw [fits_cons_cons_iff (by simp), ih]
      simp [Token.StandsFor, and_assoc]

private theorem fits_lone_run (text : List Char) : Fits [.anyRun] text :=
  fits_anyRun_iff.2 ⟨text.length, fits_nil_iff.2 List.drop_length⟩

/-- A text matches the pattern made of another one iff that one occurs in it. -/
theorem accepts_containing (needle text : String) :
    accepts (containing needle) text = true ↔ needle.toList <:+: text.toList := by
  rw [accepts_iff_fits, tokens_containing, fits_anyRun_iff]
  simp only [fits_literals_iff]
  constructor
  · rintro ⟨count, remaining, rest, -⟩
    refine ⟨text.toList.take count, remaining, ?_⟩
    rw [List.append_assoc, ← rest, List.take_append_drop]
  · rintro ⟨before, after, joined⟩
    refine ⟨before.length, after, ?_, fits_lone_run after⟩
    rw [← joined, List.append_assoc, List.drop_left]

/-- Whatever characters a text is made of, the pattern made of it is read, in one way, as exactly
these characters between two runs, and it is accepted by the texts that continue this one on both
sides. -/
theorem containing_accepts_superstrings (needle text : String) :
    (∀ read, Reads (containing needle).toList read ↔
      read = .anyRun :: (needle.toList.map Token.literal ++ [.anyRun])) ∧
    (accepts (containing needle) text = true ↔
      ∃ before after, text = before ++ needle ++ after) := by
  constructor
  · intro read
    rw [reads_iff, tokens_containing]
  · rw [accepts_containing]
    constructor
    · rintro ⟨before, after, joined⟩
      refine ⟨String.ofList before, String.ofList after, String.toList_inj.1 ?_⟩
      simp only [String.toList_append, String.toList_ofList, joined]
    · rintro ⟨before, after, rfl⟩
      refine ⟨before.toList, after.toList, ?_⟩
      simp only [String.toList_append]

end FilterQuery.Like
