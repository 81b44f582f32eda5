/-! Tables that remember the order in which their keys first arrived. A key keeps
the place of its first entry and carries the value written last. JSON objects,
records and the stored tables of a database are all of this kind. -/
namespace FilterQuery

/-- A list stays free of repetitions if a new item is appended. -/
theorem nodup_concat {β : Type} {items : List β} {last : β} (distinct : items.Nodup)
    (fresh : last ∉ items) : (items ++ [last]).Nodup := by
  rw [List.nodup_append]
  refine ⟨distinct, by simp, ?_⟩
  intro item inside other among same
  rw [List.mem_singleton.1 among] at same
  exact fresh (same ▸ inside)

/-- An item of a list free of repetitions does not stand before itself. -/
theorem not_mem_of_nodup {β : Type} {before after : List β} {item : β}
    (distinct : (before ++ item :: after).Nodup) : item ∉ before := by
  intro inside
  rw [List.nodup_append] at distinct
  exact distinct.2.2 item inside item (by simp) rfl

/-- Keys and their values, in order of first arrival. -/
abbrev Entries (α : Type) := List (String × α)

namespace Entries

variable {α β : Type}

/-- The value stored under `key`. -/
def get? : Entries α → String → Option α
  | [], _ => none
  | (name, value) :: rest, key => if name = key then some value else get? rest key

def hasKey (entries : Entries α) (key : String) : Bool := (get? entries key).isSome

/-- Writes a value under `key`: in place if the key is present, else at the end. -/
def set : Entries α → String → α → Entries α
  | [], key, value => [(key, value)]
  | (name, old) :: rest, key, value =>
    if name = key then (name, value) :: rest else (name, old) :: set rest key value

def keys (entries : Entries α) : List String := entries.map Prod.fst

@[simp] theorem get?_nil (key : String) : get? ([] : Entries α) key = none := rfl

@[simp] theorem get?_cons (name key : String) (value : α) (rest : Entries α) :
    get? ((name, value) :: rest) key = if name = key then some value else get? rest key := rfl

theorem get?_set (entries : Entries α) (key probe : String) (value : α) :
    get? (set entries key value) probe =
      if key = probe then some value else get? entries probe := by
  induction entries with
  | nil => simp [set]
  | cons entry rest ih =>
    obtain ⟨name, old⟩ := entry
    by_cases here : name = key
    · subst here
      by_cases same : name = probe <;> simp [set, same]
    · by_cases same : name = probe
      · subst same
        simp [set, here, Ne.symm here]
      · simp [set, here, same, ih]

theorem get?_eq_none_iff {entries : Entries α} {key : String} :
    get? entries key = none ↔ key ∉ keys entries := by
  induction entries with
  | nil => simp [keys]
  | cons entry rest ih =>
    obtain ⟨name, value⟩ := entry
    by_cases same : name = key
    · simp [keys, same]
    · have apart : ¬ key = name := fun h => same h.symm
      simpa [keys, same, apart] using ih

theorem mem_of_get?_eq_some {entries : Entries α} {key : String} {value : α}
    (found : get? entries key = some value) : (key, value) ∈ entries := by
  induction entries with
  | nil => simp at found
  | cons entry rest ih =>
    obtain ⟨name, old⟩ := entry
    by_cases same : name = key
    · subst same
      simp at found
      simp [found]
    · simp [same] at found
      exact List.mem_cons_of_mem _ (ih found)

theorem hasKey_eq_false_iff {entries : Entries α} {key : String} :
    hasKey entries key = false ↔ key ∉ keys entries := by
  rw [hasKey, Option.isSome_eq_false_iff, Option.isNone_iff_eq_none, get?_eq_none_iff]

/-- The entry that is found stands after entries with other keys. -/
theorem split_of_get?_eq_some {entries : Entries α} {key : String} {value : α}
    (found : get? entries key = some value) :
    ∃ before after, entries = before ++ (key, value) :: after ∧ key ∉ keys before := by
  induction entries with
  | nil => cases found
  | cons entry rest ih =>
    obtain ⟨name, old⟩ := entry
    by_cases same : name = key
    · subst same
      rw [get?_cons, if_pos rfl] at found
      cases found
      exact ⟨[], rest, rfl, by simp [keys]⟩
    · rw [get?_cons, if_neg same] at found
      obtain ⟨before, after, rfl, fresh⟩ := ih found
      exact ⟨(name, old) :: before, after, rfl, by
        simpa [keys, Ne.symm same] using fresh⟩

theorem get?_append_of_fresh {entries : Entries α} {key : String} (fresh : key ∉ keys entries)
    (rest : Entries α) : get? (entries ++ rest) key = get? rest key := by
  induction entries with
  | nil => rfl
  | cons entry entries ih =>
    obtain ⟨name, old⟩ := entry
    obtain ⟨apart, fresh⟩ : ¬ key = name ∧ key ∉ keys entries := by simpa [keys] using fresh
    rw [List.cons_append, get?_cons, if_neg (Ne.symm apart), ih fresh]

theorem set_append_of_fresh {entries : Entries α} {key : String} (fresh : key ∉ keys entries)
    (rest : Entries α) (value : α) :
    set (entries ++ rest) key value = entries ++ set rest key value := by
  induction entries with
  | nil => rfl
  | cons entry entries ih =>
    obtain ⟨name, old⟩ := entry
    obtain ⟨apart, fresh⟩ : ¬ key = name ∧ key ∉ keys entries := by simpa [keys] using fresh
    rw [List.cons_append, set, if_neg (Ne.symm apart), ih fresh, List.cons_append]

/-- A new key is written at the end. -/
theorem set_of_fresh {entries : Entries α} {key : String} (fresh : key ∉ keys entries)
    (value : α) : set entries key value = entries ++ [(key, value)] := by
  simpa [set] using set_append_of_fresh fresh [] value

theorem value_of_mem_set {entries : Entries α} {key : String} {value : α} {entry : String × α}
    (inside : entry ∈ set entries key value) : entry.2 = value ∨ entry ∈ entries := by
  induction entries with
  | nil => simp [set] at inside; simp [inside]
  | cons first rest ih =>
    obtain ⟨name, old⟩ := first
    rw [set] at inside
    split at inside
    · rcases List.mem_cons.1 inside with rfl | inside
      · exact .inl rfl
      · exact .inr (List.mem_cons_of_mem _ inside)
    · rcases List.mem_cons.1 inside with rfl | inside
      · exact .inr List.mem_cons_self
      · exact (ih inside).imp_right (List.mem_cons_of_mem _)

/-- Writing does not repeat a key. -/
theorem nodup_keys_set {entries : Entries α} (distinct : (keys entries).Nodup) (key : String)
    (value : α) : (keys (set entries key value)).Nodup := by
  cases found : get? entries key with
  | none =>
    have fresh : key ∉ keys entries := get?_eq_none_iff.1 found
    rw [set_of_fresh fresh, keys, List.map_append]
    exact nodup_concat distinct fresh
  | some old =>
    obtain ⟨before, after, rfl, fresh⟩ := split_of_get?_eq_some found
    rw [set_append_of_fresh fresh, set, if_pos rfl]
    simpa [keys] using distinct

end Entries

end FilterQuery
