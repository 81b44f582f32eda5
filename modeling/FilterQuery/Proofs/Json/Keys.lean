import FilterQuery.Json.Reader
/-! Keys of objects. A value that has been read from a text has no object with a
key that stands in it twice, because a repeated key is written in the place of its
first one. Every place that the reader reaches keeps this of the values that are
complete and of the members that are still being collected. -/
namespace FilterQuery.Json

mutual

/-- Whether no object has a key twice, at any depth. -/
def DistinctKeys : Json → Prop
  | .arr items => ItemsDistinctKeys items
  | .obj members => (Entries.keys members).Nodup ∧ MembersDistinctKeys members
  | .null | .bool _ | .num _ | .str _ => True

/-- Whether this is so of all these items. -/
def ItemsDistinctKeys : List Json → Prop
  | [] => True
  | item :: rest => DistinctKeys item ∧ ItemsDistinctKeys rest

/-- Whether this is so of the values of all these members. -/
def MembersDistinctKeys : List (String × Json) → Prop
  | [] => True
  | (_, value) :: rest => DistinctKeys value ∧ MembersDistinctKeys rest

end

theorem itemsDistinctKeys_iff {items : List Json} :
    ItemsDistinctKeys items ↔ ∀ item ∈ items, item.DistinctKeys := by
  induction items with
  | nil => simp [ItemsDistinctKeys]
  | cons item rest ih => simp [ItemsDistinctKeys, ih]

theorem membersDistinctKeys_iff {members : List (String × Json)} :
    MembersDistinctKeys members ↔ ∀ member ∈ members, member.2.DistinctKeys := by
  induction members with
  | nil => simp [MembersDistinctKeys]
  | cons member rest ih =>
    obtain ⟨key, value⟩ := member
    simp [MembersDistinctKeys, ih]

/-- Writing a member keeps the keys of an object distinct. -/
theorem distinctKeys_set {members : List (String × Json)} {value : Json}
    (object : (obj members).DistinctKeys) (distinct : value.DistinctKeys) (key : String) :
    (obj (Entries.set members key value)).DistinctKeys := by
  obtain ⟨keys, values⟩ := object
  refine ⟨Entries.nodup_keys_set keys key value, ?_⟩
  rw [membersDistinctKeys_iff]
  intro member inside
  rcases Entries.value_of_mem_set inside with same | old
  · rw [same]
    exact distinct
  · exact membersDistinctKeys_iff.1 values member old

/-- What every step of a walk keeps holds at its end. -/
theorem keeps_of_foldlM {σ ι : Type} {step : σ → ι → Option σ} {Keeps : σ → Prop}
    {inputs : List ι} {start final : σ}
    (keeps : ∀ state, ∀ input ∈ inputs, ∀ next, Keeps state → step state input = some next →
      Keeps next) (begins : Keeps start) (walked : inputs.foldlM step start = some final) :
    Keeps final := by
  induction inputs generalizing start with
  | nil =>
    cases walked
    exact begins
  | cons input rest ih =>
    obtain ⟨next, stepped, walked⟩ := Option.bind_eq_some_iff.1 walked
    have reached : Keeps next := keeps start input List.mem_cons_self next begins stepped
    exact ih (fun state among => keeps state among ∘ List.mem_cons_of_mem _) reached walked

/-- A value inside a token, if there is one, has distinct keys. -/
def Token.DistinctKeys : Token → Prop
  | .scalar json => json.DistinctKeys
  | _ => True

theorem Token.distinctKeys_of_ofWord? {word : List Char} {token : Token}
    (found : ofWord? word = some token) : token.DistinctKeys := by
  unfold ofWord? at found
  split at found
  · cases found
    exact trivial
  split at found
  · cases found
    exact trivial
  split at found
  · cases found
    exact trivial
  obtain ⟨number, -, rfl⟩ := Option.map_eq_some_iff.1 found
  exact trivial

namespace Scanner

/-- All tokens found so far have distinct keys. -/
def DistinctKeys (scanner : Scanner) : Prop := ∀ token ∈ scanner.tokens, token.DistinctKeys

theorem distinctKeys_begin {tokens : List Token} {c : Char} {next : Scanner}
    (distinct : ∀ token ∈ tokens, token.DistinctKeys) (begun : begin tokens c = some next) :
    next.DistinctKeys := by
  unfold begin at begun
  split at begun
  case h_12 =>
    split at begun
    · cases begun
      exact distinct
    · cases begun
  all_goals
    cases begun
    first
    | exact distinct
    | exact List.forall_mem_cons.2 ⟨trivial, distinct⟩

/-- A step adds at most one token, and that is a literal, a number, a text or punctuation. -/
theorem distinctKeys_step {scanner : Scanner} {c : Char} {next : Scanner}
    (distinct : scanner.DistinctKeys) (stepped : scanner.step c = some next) :
    next.DistinctKeys := by
  obtain ⟨mode, tokens⟩ := scanner
  simp only [step] at stepped
  cases mode with
  | between => exact distinctKeys_begin distinct stepped
  | word chars =>
    dsimp only at stepped
    split at stepped
    · cases stepped
      exact distinct
    · obtain ⟨token, found, begun⟩ := Option.bind_eq_some_iff.1 stepped
      have added := Token.distinctKeys_of_ofWord? found
      exact distinctKeys_begin (List.forall_mem_cons.2 ⟨added, distinct⟩) begun
  | text chars =>
    dsimp only at stepped
    split at stepped
    · cases stepped
      exact List.forall_mem_cons.2 ⟨trivial, distinct⟩
    · split at stepped
      · cases stepped
        exact distinct
      · split at stepped <;> cases stepped
        exact distinct
  | escape chars =>
    dsimp only at stepped
    split at stepped
    · cases stepped
      exact distinct
    · obtain ⟨_, -, rfl⟩ := Option.map_eq_some_iff.1 stepped
      exact distinct
  | unit chars high digits =>
    obtain ⟨digit, -, read⟩ := Option.bind_eq_some_iff.1 stepped
    split at read
    · obtain ⟨_, -, rfl⟩ := Option.map_eq_some_iff.1 read
      exact distinct
    · cases read
      exact distinct
  | pair chars high =>
    dsimp only at stepped
    split at stepped <;> cases stepped
    exact distinct
  | pairEscape chars high =>
    dsimp only at stepped
    split at stepped <;> cases stepped
    exact distinct

theorem distinctKeys_finish {scanner : Scanner} {tokens : List Token}
    (distinct : scanner.DistinctKeys) (finished : scanner.finish = some tokens) :
    ∀ token ∈ tokens, token.DistinctKeys := by
  obtain ⟨mode, found⟩ := scanner
  cases mode with
  | between =>
    cases finished
    exact fun token among => distinct token (List.mem_reverse.1 among)
  | word chars =>
    obtain ⟨last, read, rfl⟩ := Option.map_eq_some_iff.1 finished
    intro token among
    rcases List.mem_cons.1 (List.mem_reverse.1 among) with rfl | among
    · exact Token.distinctKeys_of_ofWord? read
    · exact distinct token among
  | _ => cases finished

end Scanner

theorem distinctKeys_of_scan {cs : List Char} {tokens : List Token}
    (scanned : scan cs = some tokens) : ∀ token ∈ tokens, token.DistinctKeys := by
  obtain ⟨scanner, walked, finished⟩ := Option.bind_eq_some_iff.1 scanned
  have reached : scanner.DistinctKeys :=
    keeps_of_foldlM (fun _ _ _ _ => Scanner.distinctKeys_step) (by simp [Scanner.DistinctKeys])
      walked
  exact Scanner.distinctKeys_finish reached finished

/-- What stands in an open array or object has distinct keys. -/
def Frame.DistinctKeys : Frame → Prop
  | .item items => ∀ item ∈ items, item.DistinctKeys
  | .member members _ => (obj members).DistinctKeys

namespace Place

/-- Everything that has been read so far has distinct keys. -/
def DistinctKeys : Place → Prop
  | .value stack | .opened stack | .openedObj stack => ∀ frame ∈ stack, frame.DistinctKeys
  | .key members stack | .colon members _ stack =>
    (obj members).DistinctKeys ∧ ∀ frame ∈ stack, frame.DistinctKeys
  | .complete json stack => json.DistinctKeys ∧ ∀ frame ∈ stack, frame.DistinctKeys

variable {token : Token} {next : Place}

theorem distinctKeys_begin {stack : List Frame} (distinct : ∀ frame ∈ stack, frame.DistinctKeys)
    (scanned : token.DistinctKeys) (begun : begin stack token = some next) :
    next.DistinctKeys := by
  cases token with
  | scalar json =>
    cases begun
    exact ⟨scanned, distinct⟩
  | text content =>
    cases begun
    exact ⟨trivial, distinct⟩
  | openArr =>
    simp only [begin] at begun
    split at begun <;> cases begun
    exact distinct
  | openObj =>
    simp only [begin] at begun
    split at begun <;> cases begun
    exact distinct
  | _ => cases begun

theorem distinctKeys_proceed {json : Json} {stack : List Frame} (value : json.DistinctKeys)
    (distinct : ∀ frame ∈ stack, frame.DistinctKeys)
    (proceeded : proceed json stack token = some next) : next.DistinctKeys := by
  unfold proceed at proceeded
  split at proceeded <;> cases proceeded <;>
    obtain ⟨frame, rest⟩ := List.forall_mem_cons.1 distinct
  · have items : Frame.DistinctKeys (.item (json :: _)) := List.forall_mem_cons.2 ⟨value, frame⟩
    exact List.forall_mem_cons.2 ⟨items, rest⟩
  · refine ⟨itemsDistinctKeys_iff.2 ?_, rest⟩
    intro item inside
    rcases List.mem_cons.1 (List.mem_reverse.1 inside) with rfl | inside
    · exact value
    · exact frame item inside
  · exact ⟨distinctKeys_set frame value _, rest⟩
  · exact ⟨distinctKeys_set frame value _, rest⟩

theorem distinctKeys_step {place : Place} (distinct : place.DistinctKeys)
    (scanned : token.DistinctKeys) (stepped : place.step token = some next) :
    next.DistinctKeys := by
  have none : (obj []).DistinctKeys := ⟨by simp [Entries.keys], trivial⟩
  unfold step at stepped
  split at stepped
  · exact distinctKeys_begin distinct scanned stepped
  · cases stepped
    exact ⟨trivial, distinct⟩
  · exact distinctKeys_begin (List.forall_mem_cons.2 ⟨by simp [Frame.DistinctKeys], distinct⟩)
      scanned stepped
  · cases stepped
    exact ⟨none, distinct⟩
  · cases stepped
    exact ⟨none, distinct⟩
  · cases stepped
    exact distinct
  · cases stepped
    exact List.forall_mem_cons.2 distinct
  · exact distinctKeys_proceed distinct.1 distinct.2 stepped
  · cases stepped

end Place

/-- A value that has been read from a text has no key twice in any of its objects. -/
theorem read?_distinctKeys {text : String} {json : Json} (read : read? text = some json) :
    json.DistinctKeys := by
  obtain ⟨tokens, scanned, spelled⟩ := Option.bind_eq_some_iff.1 read
  obtain ⟨place, walked, ended⟩ := Option.bind_eq_some_iff.1 spelled
  have each := distinctKeys_of_scan scanned
  have reached : place.DistinctKeys :=
    keeps_of_foldlM (fun _ token among _ distinct =>
      Place.distinctKeys_step distinct (each token among)) (by simp [Place.DistinctKeys]) walked
  split at ended
  · cases ended
    exact reached.1
  · cases ended

end FilterQuery.Json
