import Mathlib.Data.List.Nodup
import Mathlib.Data.List.Forall2
import ClassSynth.Java.Model
import ClassSynth.Proofs.Identifier

/-!
# The Java names of fields

The Java names of the fields of a class are told apart by the underscores added to them.  An
underscore comes to the front only of a reserved word, and to the end only of a name that is taken:
where the identifiers are distinct, a name keeps its identifier unless that is a reserved word or
begins with an underscore itself.
-/

set_option autoImplicit false

namespace ClassSynth.Java

/-- Whether an identifier is its own Java name wherever no other field has it. -/
structure IsPlainName (name : Text) : Prop where
  unreserved : isReservedWord name = false
  noUnderscore : name.head? ≠ some underscore

/-! ## Lengthening -/

/-- A run of the loop that puts an underscore behind a name while it is taken: its rounds, the name
it begins with and the free one it ends with. -/
inductive LengthensTo (taken : List Text) : Nat → Text → Text → Prop
  | free {name : Text} : name ∉ taken → LengthensTo taken 0 name name
  | round {rounds : Nat} {name result : Text} : name ∈ taken →
      LengthensTo taken rounds (name ++ [underscore]) result →
      LengthensTo taken (rounds + 1) name result

theorem LengthensTo.not_mem {taken : List Text} {rounds : Nat} {name result : Text}
    (run : LengthensTo taken rounds name result) : result ∉ taken := by
  induction run with
  | free absent => exact absent
  | round _ _ ih => exact ih

theorem LengthensTo.result_eq {taken : List Text} {rounds : Nat} {name result : Text}
    (run : LengthensTo taken rounds name result) :
    result = name ++ List.replicate rounds underscore := by
  induction run with
  | free _ => exact (List.append_nil _).symm
  | round _ _ ih => rw [ih, List.append_assoc, List.singleton_append, ← List.replicate_succ]

/-- The loop ends, and within the room that is left for it, if there is room for every taken name
that is not shorter. -/
theorem exists_lengthensTo (taken : List Text) (room : Nat) : ∀ name : Text,
    (taken.filter fun other => decide (name.length ≤ other.length)).length ≤ room →
    ∃ rounds ≤ room, LengthensTo taken rounds name (lengthen taken room name) := by
  -- With each underscore fewer of the taken names are long enough to be met.
  induction room with
  | zero =>
    intro name few
    refine ⟨0, Nat.le_refl 0, .free ?_⟩
    intro present
    have kept : name ∈ taken.filter fun other => decide (name.length ≤ other.length) :=
      List.mem_filter.mpr ⟨present, by simp⟩
    have none := List.length_eq_zero_iff.mp (Nat.le_zero.mp few)
    rw [none] at kept
    cases kept
  | succ room ih =>
    intro name few
    rw [lengthen]
    by_cases present : name ∈ taken
    · rw [if_pos (List.contains_iff_mem.mpr present)]
      have narrowed : (taken.filter fun other =>
            decide ((name ++ [CodePoint.ofChar '_']).length ≤ other.length)) =
          (taken.filter fun other => decide (name.length ≤ other.length)).filter fun other =>
            decide (name.length + 1 ≤ other.length) := by
        rw [List.filter_filter]
        apply List.filter_congr
        intro other _
        rw [← Bool.decide_and, List.length_append, List.length_singleton]
        exact decide_eq_decide.mpr ⟨fun long => ⟨long, by omega⟩, And.left⟩
      have kept : name ∈ taken.filter fun other => decide (name.length ≤ other.length) :=
        List.mem_filter.mpr ⟨present, by simp⟩
      have tooShort : ¬ decide (name.length + 1 ≤ name.length) = true := by simp
      have fewer : ((taken.filter fun other => decide (name.length ≤ other.length)).filter
            fun other => decide (name.length + 1 ≤ other.length)).length <
          (taken.filter fun other => decide (name.length ≤ other.length)).length :=
        List.length_filter_lt_length_iff_exists.mpr ⟨name, kept, tooShort⟩
      obtain ⟨rounds, within, run⟩ := ih (name ++ [CodePoint.ofChar '_']) (by rw [narrowed]; omega)
      exact ⟨rounds + 1, Nat.succ_le_succ within, .round present run⟩
    · rw [if_neg (by rwa [List.contains_iff_mem])]
      exact ⟨0, Nat.zero_le _, .free present⟩

theorem lengthen_of_not_mem {taken : List Text} {name : Text} (free : name ∉ taken) (room : Nat) :
    lengthen taken room name = name := by
  cases room with
  | zero => rfl
  | succ room => rw [lengthen, if_neg (by rwa [List.contains_iff_mem])]

/-! ## The name of one field -/

/-- The name of a field before underscores are put behind it. -/
def escaped (name : Text) : Text := if isReservedWord name then underscore :: name else name

theorem exists_lengthensTo_fieldName (name : Text) (taken : List Text) :
    ∃ rounds ≤ taken.length, LengthensTo taken rounds (escaped name) (fieldName name taken) :=
  exists_lengthensTo taken _ _ (List.length_filter_le _ _)

theorem fieldName_not_mem (name : Text) (taken : List Text) : fieldName name taken ∉ taken := by
  obtain ⟨rounds, -, run⟩ := exists_lengthensTo_fieldName name taken
  exact run.not_mem

theorem fieldName_of_not_mem {name : Text} {taken : List Text}
    (unreserved : isReservedWord name = false) (free : name ∉ taken) :
    fieldName name taken = name := by
  rw [fieldName, unreserved, if_neg Bool.false_ne_true]
  exact lengthen_of_not_mem free _

theorem head?_fieldName {name : Text} (special : ¬ IsPlainName name) (taken : List Text) :
    (fieldName name taken).head? = some underscore := by
  obtain ⟨rounds, -, run⟩ := exists_lengthensTo_fieldName name taken
  have first : (escaped name).head? = some underscore := by
    rw [escaped]
    cases reserved : isReservedWord name with
    | true => rfl
    | false =>
      rw [if_neg Bool.false_ne_true]
      by_contra first
      exact special ⟨reserved, first⟩
  rw [run.result_eq, List.head?_append, first]
  rfl

/-! ## The names of all fields -/

theorem names_fieldModels_distinct (fields : List Field) : ∀ taken : List Text,
    ((fieldModels taken fields).map FieldModel.name).Nodup ∧
      ∀ name ∈ (fieldModels taken fields).map FieldModel.name, name ∉ taken := by
  induction fields with
  | nil => simp [fieldModels]
  | cons field rest ih =>
    intro taken
    obtain ⟨distinct, apart⟩ := ih (taken ++ [fieldName field.name taken])
    rw [fieldModels, List.map_cons]
    constructor
    · apply List.nodup_cons.mpr
      refine ⟨?_, distinct⟩
      intro again
      exact apart _ again (List.mem_append_right _ (List.mem_singleton_self _))
    · intro name listed
      rcases List.mem_cons.mp listed with rfl | later
      · exact fieldName_not_mem field.name taken
      · intro early
        exact apart name later (List.mem_append_left _ early)

/-- Whether the Java name of a field is its identifier if that is plain, and else begins with an
underscore. -/
structure NamesField (field : Field) (model : FieldModel) : Prop where
  plain : IsPlainName field.name → model.name = field.name
  special : ¬ IsPlainName field.name → model.name.head? = some underscore

theorem namesField_fieldModels (fields : List Field) : ∀ taken : List Text,
    (fields.map FieldOver.name).Nodup →
    (∀ field ∈ fields, IsPlainName field.name → field.name ∉ taken) →
    List.Forall₂ NamesField fields (fieldModels taken fields) := by
  induction fields with
  | nil => exact fun _ _ _ => .nil
  | cons field rest ih =>
    intro taken distinct free
    obtain ⟨apart, distinct⟩ := List.nodup_cons.mp distinct
    have first : NamesField field ⟨fieldName field.name taken, field.jsonName.literal,
        typeText false field.type⟩ :=
      ⟨fun plain => fieldName_of_not_mem plain.unreserved (free field List.mem_cons_self plain),
        fun special => head?_fieldName special taken⟩
    refine .cons first (ih _ distinct ?_)
    intro later listed plain taken'
    rcases List.mem_append.mp taken' with early | last
    · exact free later (List.mem_cons_of_mem _ listed) plain early
    · rw [List.mem_singleton] at last
      by_cases firstPlain : IsPlainName field.name
      · have same : later.name = field.name := last.trans (first.plain firstPlain)
        exact apart (same ▸ List.mem_map_of_mem listed)
      · apply plain.noUnderscore
        rw [last]
        exact first.special firstPlain

end ClassSynth.Java
