import ClassSynth.Inference.Synthesis

/-!
# Issuing several names

A walk over a document issues names one after the other.  Here is what a whole list of names comes
to: which lists can be issued, and which table is left.  Whether a list can be issued does not
depend on its order, only on the foldings of its names.
-/

set_option autoImplicit false

namespace ClassSynth.NameTable

/-- The table with several more names, in order. -/
def issueAll (table : NameTable) (names : List Text) : NameTable :=
  table ++ names.map fun name => (name.fold, name)

/-- Whether names can be issued one after the other: no two agree without regard to case, and none
is taken. -/
structure Free (table : NameTable) (names : List Text) : Prop where
  distinct : (names.map Text.fold).Nodup
  untaken : ∀ name ∈ names, table.isTaken name = false

variable (table : NameTable)

@[simp] theorem issueAll_nil : table.issueAll [] = table := by simp [issueAll]

@[simp] theorem issueAll_cons (name : Text) (rest : List Text) :
    table.issueAll (name :: rest) = (table.issue name).issueAll rest := by
  simp [issueAll, issue]

@[simp] theorem issueAll_append (first second : List Text) :
    table.issueAll (first ++ second) = (table.issueAll first).issueAll second := by
  simp [issueAll]

theorem isTaken_eq_true_iff (name : Text) :
    table.isTaken name = true ↔ name.fold ∈ table.map Prod.fst := by
  simp [isTaken]

theorem isTaken_eq_false_iff (name : Text) :
    table.isTaken name = false ↔ name.fold ∉ table.map Prod.fst := by
  rw [← isTaken_eq_true_iff, Bool.not_eq_true]

theorem isTaken_issueAll_eq_false_iff (names : List Text) (name : Text) :
    (table.issueAll names).isTaken name = false ↔
      table.isTaken name = false ∧ name.fold ∉ names.map Text.fold := by
  simp only [isTaken_eq_false_iff, issueAll, List.map_append, List.map_map, List.mem_append,
    not_or]
  exact Iff.rfl

theorem free_nil : table.Free [] := ⟨List.nodup_nil, by simp⟩

theorem free_append_iff (first second : List Text) :
    table.Free (first ++ second) ↔ table.Free first ∧ (table.issueAll first).Free second := by
  constructor
  · rintro ⟨distinct, untaken⟩
    rw [List.map_append, List.nodup_append] at distinct
    obtain ⟨firstDistinct, secondDistinct, apart⟩ := distinct
    refine ⟨⟨firstDistinct, fun name member => untaken name (List.mem_append_left _ member)⟩,
      secondDistinct, ?_⟩
    intro name member
    rw [isTaken_issueAll_eq_false_iff]
    refine ⟨untaken name (List.mem_append_right _ member), ?_⟩
    intro earlier
    exact apart _ earlier _ (List.mem_map_of_mem member) rfl
  · rintro ⟨⟨firstDistinct, firstUntaken⟩, secondDistinct, secondUntaken⟩
    simp only [isTaken_issueAll_eq_false_iff] at secondUntaken
    refine ⟨?_, ?_⟩
    · rw [List.map_append, List.nodup_append]
      refine ⟨firstDistinct, secondDistinct, ?_⟩
      rintro folded earlier _ later rfl
      obtain ⟨name, member, rfl⟩ := List.mem_map.mp later
      exact (secondUntaken name member).2 earlier
    · intro name member
      rcases List.mem_append.mp member with member | member
      · exact firstUntaken name member
      · exact (secondUntaken name member).1

theorem free_cons_iff (name : Text) (rest : List Text) :
    table.Free (name :: rest) ↔ table.isTaken name = false ∧ (table.issue name).Free rest := by
  have single : table.Free [name] ↔ table.isTaken name = false :=
    ⟨fun free => free.untaken name (List.mem_singleton_self name),
      fun untaken => ⟨by simp, by simpa using untaken⟩⟩
  have split := free_append_iff table [name] rest
  rw [single, issueAll_cons, issueAll_nil] at split
  exact split

/-- With one name issued, the rest can be issued just when no two of all these names agree without
regard to case. -/
theorem free_issue_empty_iff (name : Text) (rest : List Text) :
    (issue [] name).Free rest ↔ ((name :: rest).map Text.fold).Nodup := by
  have split := free_cons_iff [] name rest
  have untaken : ∀ other, isTaken [] other = false := by intro other; rfl
  rw [untaken name, eq_self, true_and] at split
  rw [← split]
  exact ⟨Free.distinct, fun distinct => ⟨distinct, fun other _ => untaken other⟩⟩

theorem reserve_of_untaken {table : NameTable} {name : Text} (untaken : table.isTaken name = false)
    (path : Text) : table.reserve name path = .ok (table.issue name) := by
  simp [reserve, untaken]

theorem untaken_of_reserve {table next : NameTable} {name path : Text}
    (reserved : table.reserve name path = .ok next) :
    table.isTaken name = false ∧ next = table.issue name := by
  unfold reserve at reserved
  split at reserved
  · cases reserved
  · rename_i untaken
    exact ⟨Bool.eq_false_iff.mpr untaken, (Except.ok.inj reserved).symm⟩

end ClassSynth.NameTable
