import ClassSynth.Json.Value

/-!
# Keyed lists

The first entry under a key decides.  Once a value has been put, a keyed list holds the key with the
new value, and every other key as before.
-/

set_option autoImplicit false

namespace ClassSynth.Keyed

variable {α : Type}

theorem get?_cons (key name : Text) (value : α) (rest : Keyed α) :
    get? key ((name, value) :: rest) = if name = key then some value else get? key rest := by
  by_cases here : name = key <;> simp [get?, here]

theorem get?_put (key : Text) (value : α) (entries : Keyed α) (name : Text) :
    get? name (put key value entries) = if key = name then some value else get? name entries := by
  induction entries with
  | nil => by_cases same : key = name <;> simp [put, get?, same]
  | cons entry rest ih =>
    obtain ⟨first, old⟩ := entry
    simp only [get?] at ih
    by_cases present : first = key
    · subst present
      by_cases same : first = name <;> simp [put, get?, same]
    · by_cases here : first = name
      · subst here
        simp [put, get?, present, Ne.symm present]
      · simp [put, get?, present, here, ih]

theorem mem_keys_put_iff (key : Text) (value : α) (entries : Keyed α) (name : Text) :
    name ∈ keys (put key value entries) ↔ name = key ∨ name ∈ keys entries := by
  induction entries with
  | nil => simp [put, keys]
  | cons entry rest ih =>
    obtain ⟨first, old⟩ := entry
    simp only [keys] at ih
    by_cases present : first = key
    · subst present
      simp [put, keys]
    · simp only [put, present, if_false, keys, List.map_cons, List.mem_cons, ih]
      exact or_left_comm

theorem keys_put_of_not_mem {key : Text} (value : α) {entries : Keyed α}
    (fresh : key ∉ keys entries) : keys (put key value entries) = keys entries ++ [key] := by
  induction entries with
  | nil => rfl
  | cons entry rest ih =>
    obtain ⟨first, old⟩ := entry
    simp only [keys] at ih
    simp only [keys, List.map_cons, List.mem_cons, not_or] at fresh
    rw [put, if_neg (Ne.symm fresh.1), keys, keys, List.map_cons, List.map_cons, ih fresh.2,
      List.cons_append]

theorem put_of_not_mem {key : Text} (value : α) {entries : Keyed α} (fresh : key ∉ keys entries) :
    put key value entries = entries ++ [(key, value)] := by
  induction entries with
  | nil => rfl
  | cons entry rest ih =>
    obtain ⟨first, old⟩ := entry
    simp only [keys, List.map_cons, List.mem_cons, not_or] at fresh
    rw [put, if_neg (Ne.symm fresh.1), ih fresh.2, List.cons_append]

/-- Putting values under keys of their own, one after the other, lists them. -/
theorem foldl_put_of_nodup {Item : Type} (key : Item → Text) (value : Item → α)
    {items : List Item} {entries : Keyed α} (distinct : (keys entries ++ items.map key).Nodup) :
    items.foldl (fun entries item => put (key item) (value item) entries) entries =
      entries ++ items.map fun item => (key item, value item) := by
  induction items generalizing entries with
  | nil => simp
  | cons item rest ih =>
    rw [List.map_cons, ← List.singleton_append, ← List.append_assoc] at distinct
    have fresh : key item ∉ keys entries := by
      intro present
      have apart := (List.nodup_append.mp (List.nodup_append.mp distinct).1).2.2
      exact apart _ present _ (List.mem_singleton_self _) rfl
    rw [← keys_put_of_not_mem (value item) fresh] at distinct
    rw [List.foldl_cons, ih distinct, put_of_not_mem (value item) fresh, List.append_assoc,
      List.singleton_append, List.map_cons]

theorem get?_eq_none_iff (key : Text) (entries : Keyed α) :
    get? key entries = none ↔ key ∉ keys entries := by
  simp only [get?, keys, Option.map_eq_none_iff, List.find?_eq_none, decide_eq_true_eq,
    List.mem_map, not_exists, not_and]

theorem get?_of_mem {entries : Keyed α} (distinct : (keys entries).Nodup) {entry : Text × α}
    (present : entry ∈ entries) : get? entry.1 entries = some entry.2 := by
  induction entries with
  | nil => simp at present
  | cons first rest ih =>
    obtain ⟨apart, distinct⟩ := List.nodup_cons.mp distinct
    rcases List.mem_cons.mp present with rfl | later
    · simp [get?]
    · have different : first.1 ≠ entry.1 := by
        intro same
        exact apart (same ▸ List.mem_map_of_mem later)
      have found := ih distinct later
      simp only [get?] at found ⊢
      rw [List.find?_cons_of_neg (by simpa using different), found]

end ClassSynth.Keyed
