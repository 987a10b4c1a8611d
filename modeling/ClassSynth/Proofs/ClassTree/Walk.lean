import ClassSynth.ClassTree.Basic

/-!
# The walk over a class tree

The walk lists every class of a tree with all the classes below it.  When no two of them have one
name, a look-up by name is a look-up of the class itself.
-/

set_option autoImplicit false

namespace ClassSynth.ClassOver

variable {Name : Type}

theorem walk_eq (spec : ClassOver Name) : spec.walk = spec :: walkAll spec.nested := by
  cases spec
  rfl

theorem mem_walk_self (spec : ClassOver Name) : spec ∈ spec.walk := by
  rw [walk_eq]
  exact List.mem_cons_self

theorem mem_walkAll_iff (inner : ClassOver Name) (specs : List (ClassOver Name)) :
    inner ∈ walkAll specs ↔ ∃ spec ∈ specs, inner ∈ spec.walk := by
  induction specs with
  | nil => simp [walkAll]
  | cons spec rest ih => simp [walkAll, ih]

theorem walkAll_append (first second : List (ClassOver Name)) :
    walkAll (first ++ second) = walkAll first ++ walkAll second := by
  induction first with
  | nil => rfl
  | cons spec rest ih => simp [walkAll, ih]

theorem mem_walk_of_mem_nested {spec inner : ClassOver Name} (member : inner ∈ spec.nested) :
    inner ∈ spec.walk := by
  rw [walk_eq]
  exact List.mem_cons_of_mem _ ((mem_walkAll_iff inner _).mpr ⟨inner, member, mem_walk_self inner⟩)

mutual

theorem walk_trans : (spec : ClassOver Name) → (outer inner : ClassOver Name) →
    outer ∈ spec.walk → inner ∈ outer.walk → inner ∈ spec.walk
  | ⟨name, fields, nested⟩, outer, inner, above, below => by
    rw [walk_eq] at above ⊢
    rcases List.mem_cons.mp above with rfl | above
    · rwa [walk_eq] at below
    · exact List.mem_cons_of_mem _ (walkAll_trans nested outer inner above below)

theorem walkAll_trans : (specs : List (ClassOver Name)) → (outer inner : ClassOver Name) →
    outer ∈ walkAll specs → inner ∈ outer.walk → inner ∈ walkAll specs
  | [], _, _, above, _ => by simp [walkAll] at above
  | spec :: rest, outer, inner, above, below => by
    rw [walkAll, List.mem_append] at above ⊢
    rcases above with above | above
    · exact Or.inl (walk_trans spec outer inner above below)
    · exact Or.inr (walkAll_trans rest outer inner above below)

end

end ClassSynth.ClassOver

namespace ClassSynth

/-- Among items of which no two have one key, only an item itself has its key. -/
theorem filter_key_eq_singleton {Item Key : Type} [DecidableEq Key] (key : Item → Key)
    {items : List Item} (distinct : (items.map key).Nodup) {item : Item} (member : item ∈ items) :
    (items.filter fun other => decide (key other = key item)) = [item] := by
  induction items with
  | nil => cases member
  | cons first rest ih =>
    obtain ⟨apart, distinct⟩ := List.nodup_cons.mp distinct
    rcases List.mem_cons.mp member with rfl | later
    · have others : ∀ other ∈ rest, ¬ decide (key other = key item) = true := by
        intro other later same
        exact apart (of_decide_eq_true same ▸ List.mem_map_of_mem later)
      rw [List.filter_cons_of_pos (by simp), List.filter_eq_nil_iff.mpr others]
    · have different : key first ≠ key item := by
        intro same
        exact apart (same ▸ List.mem_map_of_mem later)
      rw [List.filter_cons_of_neg (by simpa using different), ih distinct later]

theorem ClassSpec.filter_walk {spec inner : ClassSpec} (distinct : spec.classNames.Nodup)
    (member : inner ∈ spec.walk) :
    (spec.walk.filter fun other => decide (other.name = inner.name)) = [inner] :=
  filter_key_eq_singleton ClassOver.name distinct member

theorem ClassSpec.find?_eq_some {spec inner : ClassSpec} (distinct : spec.classNames.Nodup)
    (member : inner ∈ spec.walk) : spec.find? inner.name = some inner := by
  have only := ClassSpec.filter_walk distinct member
  have first : spec.find? inner.name =
      (spec.walk.filter fun other => decide (other.name = inner.name)).head? := by
    rw [List.head?_filter]
    rfl
  rw [first, only]
  rfl

end ClassSynth
