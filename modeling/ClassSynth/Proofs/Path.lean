import Mathlib.Data.List.Infix
import Mathlib.Data.List.TakeWhile
import ClassSynth.Path
import ClassSynth.Proofs.Text.Cut

/-!
# Components of paths

A path is followed by its components, and so all that matters of a path made from others are its
components and whether it begins at the root.
-/

set_option autoImplicit false

namespace ClassSynth.Path

/-- Whether a text is one component of a path, and leads to a name of its own. -/
structure IsName (name : Text) : Prop where
  nonempty : name ≠ []
  noSlash : slash ∉ name
  notHere : name ≠ [dot]
  notParent : name ≠ parentName

/-! ## Components -/

theorem components_nil : components [] = [] := rfl

theorem components_append_slash (before behind : Text) :
    components (before ++ slash :: behind) = components before ++ components behind := by
  rw [components, Text.cutAt_append_cons, List.filter_append]
  rfl

theorem components_of_isName {name : Text} (named : IsName name) : components name = [name] := by
  rw [components, Text.cutAt_of_not_mem _ named.noSlash, List.filter_cons_of_pos, List.filter_nil]
  simp [named.nonempty, named.notHere]

theorem components_append_slashes {tail : Text} (slashes : ∀ c ∈ tail, c = slash) (t : Text) :
    components (t ++ tail) = components t := by
  induction tail generalizing t with
  | nil => rw [List.append_nil]
  | cons c rest ih =>
    obtain ⟨rfl, later⟩ := List.forall_mem_cons.mp slashes
    have none := ih later []
    rw [List.nil_append] at none
    rw [components_append_slash, none, components_nil, List.append_nil]

theorem exists_trimRight (path : Text) :
    ∃ tail, path = Text.trimRight (· = slash) path ++ tail ∧ ∀ c ∈ tail, c = slash := by
  have split := List.takeWhile_append_dropWhile (p := fun c => decide (c = slash))
    (l := path.reverse)
  refine ⟨(path.reverse.takeWhile fun c => decide (c = slash)).reverse, ?_, ?_⟩
  · rw [Text.trimRight, ← List.reverse_append, split, List.reverse_reverse]
  · intro c present
    rw [List.mem_reverse] at present
    have holds := List.mem_takeWhile_imp present
    exact of_decide_eq_true holds

theorem components_trimRight (path : Text) :
    components (Text.trimRight (· = slash) path) = components path := by
  obtain ⟨tail, split, slashes⟩ := exists_trimRight path
  conv_rhs => rw [split]
  rw [components_append_slashes slashes]

theorem prefix_trimRight (path : Text) : Text.trimRight (· = slash) path <+: path := by
  obtain ⟨tail, split, -⟩ := exists_trimRight path
  exact ⟨tail, split.symm⟩

/-! ## The last slash -/

theorem last_slash_cases (path : Text) :
    slash ∉ path ∨ ∃ before name, slash ∉ name ∧ path = before ++ slash :: name := by
  induction path with
  | nil => exact .inl List.not_mem_nil
  | cons c rest ih =>
    rcases ih with none | ⟨before, name, noSlash, rfl⟩
    · by_cases here : c = slash
      · exact .inr ⟨[], rest, none, by rw [here]; rfl⟩
      · refine .inl ?_
        rw [List.mem_cons, not_or]
        exact ⟨Ne.symm here, none⟩
    · exact .inr ⟨c :: before, name, noSlash, rfl⟩

theorem kept_of_noSlash {t : Text} (noSlash : slash ∉ t) :
    ∀ c ∈ t.reverse, (!decide (c = slash)) = true := by
  intro c present
  have different : c ≠ slash := by
    rintro rfl
    exact noSlash (List.mem_reverse.mp present)
  simp [different]

theorem takeWhile_reverse_name {name : Text} (noSlash : slash ∉ name) (before : Text) :
    ((before ++ slash :: name).reverse.takeWhile fun c => !decide (c = slash)).reverse = name := by
  have kept := kept_of_noSlash noSlash
  rw [List.reverse_append, List.reverse_cons, List.append_assoc,
    List.takeWhile_append_of_pos kept]
  simp

theorem splitLast_append_slash {name : Text} (noSlash : slash ∉ name) (before : Text) :
    splitLast (before ++ slash :: name) = (before ++ [slash], name) := by
  have front : (before ++ slash :: name).take ((before ++ slash :: name).length - name.length) =
      before ++ [slash] := by
    have count : (before ++ slash :: name).length - name.length = (before ++ [slash]).length := by
      simp only [List.length_append, List.length_cons, List.length_nil]
      omega
    have shape : before ++ slash :: name = (before ++ [slash]) ++ name := by simp
    rw [count, shape, List.take_left]
  simp only [splitLast, takeWhile_reverse_name noSlash]
  rw [front]

theorem trimRight_append_slash (t : Text) :
    Text.trimRight (· = slash) (t ++ [slash]) = Text.trimRight (· = slash) t := by
  simp [Text.trimRight]

theorem trimRight_of_getLast? {t : Text} (ends : t.getLast? ≠ some slash) :
    Text.trimRight (· = slash) t = t := by
  rw [← List.head?_reverse] at ends
  rw [Text.trimRight]
  cases backwards : t.reverse with
  | nil =>
    rw [List.reverse_eq_nil_iff.mp backwards]
    rfl
  | cons c rest =>
    rw [backwards, List.head?_cons, ne_eq, Option.some.injEq] at ends
    rw [List.dropWhile_cons_of_neg (by simpa using ends), ← backwards, List.reverse_reverse]

theorem dirName_of_noSlash {path : Text} (noSlash : slash ∉ path) : dirName path = [] := by
  have kept := kept_of_noSlash noSlash
  have whole : (path.reverse.takeWhile fun c => !decide (c = slash)).reverse = path := by
    rw [List.takeWhile_eq_self_iff.mpr kept, List.reverse_reverse]
  have front : (splitLast path).1 = [] := by
    simp only [splitLast, whole, Nat.sub_self, List.take_zero]
  rw [dirName, front]
  rfl

theorem dirName_append_slash {name : Text} (noSlash : slash ∉ name) (before : Text) :
    dirName (before ++ slash :: name) =
      if (Text.trimRight (· = slash) before).isEmpty then before ++ [slash]
      else Text.trimRight (· = slash) before := by
  rw [dirName, splitLast_append_slash noSlash]
  simp only [trimRight_append_slash]

/-- The directory part is what stands first in a path, and so are its components. -/
theorem prefix_dirName (path : Text) :
    dirName path <+: path ∧ components (dirName path) <+: components path := by
  rcases last_slash_cases path with noSlash | ⟨before, name, noSlash, rfl⟩
  · rw [dirName_of_noSlash noSlash]
    exact ⟨List.nil_prefix, List.nil_prefix⟩
  · rw [dirName_append_slash noSlash, components_append_slash]
    split
    · rw [components_append_slash, components_nil, List.append_nil]
      exact ⟨⟨name, by simp⟩, List.prefix_append _ _⟩
    · rw [components_trimRight]
      exact ⟨(prefix_trimRight before).trans (List.prefix_append _ _), List.prefix_append _ _⟩

/-! ## The path below another -/

section

variable {child : Text} (named : IsName child) (base : Text)

include named

theorem head?_of_isName : child.head? ≠ some slash := by
  intro first
  exact named.noSlash (List.mem_of_mem_head? first)

theorem join_cases :
    (base = [] ∧ join base child = child) ∨
      (∃ above, base = above ++ [slash] ∧ join base child = above ++ slash :: child) ∨
      (base ≠ [] ∧ base.getLast? ≠ some slash ∧ join base child = base ++ slash :: child) := by
  rw [join, if_neg (head?_of_isName named)]
  cases empty : base with
  | nil => exact .inl ⟨rfl, rfl⟩
  | cons c rest =>
    rw [← empty]
    have nonempty : base ≠ [] := by
      rw [empty]
      exact List.cons_ne_nil _ _
    by_cases last : base.getLast? = some slash
    · obtain ⟨above, shape⟩ := List.getLast?_eq_some_iff.mp last
      refine .inr (.inl ⟨above, shape, ?_⟩)
      rw [if_pos (by simp [last]), shape, List.append_assoc]
      rfl
    · refine .inr (.inr ⟨nonempty, last, ?_⟩)
      rw [if_neg (by simp [last, nonempty])]

theorem components_join : components (join base child) = components base ++ [child] := by
  rcases join_cases named base with ⟨rfl, joined⟩ | ⟨above, rfl, joined⟩ | ⟨-, -, joined⟩
  · rw [joined, components_of_isName named]
    rfl
  · rw [joined, components_append_slash, components_append_slash, components_of_isName named,
      components_nil, List.append_nil]
  · rw [joined, components_append_slash, components_of_isName named]

theorem head?_join_eq_slash_iff :
    (join base child).head? = some slash ↔ base.head? = some slash := by
  rcases join_cases named base with ⟨rfl, joined⟩ | ⟨above, rfl, joined⟩ | ⟨nonempty, -, joined⟩
  · rw [joined]
    exact ⟨fun first => absurd first (head?_of_isName named), fun first => by cases first⟩
  · rw [joined]
    cases above <;> simp
  · rw [joined, List.head?_append_of_ne_nil _ nonempty]

theorem getLast?_join : (join base child).getLast? ≠ some slash := by
  have ends : ∀ front : Text, (front ++ child).getLast? ≠ some slash := by
    intro front last
    rw [List.getLast?_append_of_ne_nil _ named.nonempty] at last
    exact named.noSlash (List.mem_of_getLast? last)
  rcases join_cases named base with ⟨-, joined⟩ | ⟨above, -, joined⟩ | ⟨-, -, joined⟩
  · rw [joined]
    exact ends []
  · rw [joined, List.append_cons]
    exact ends _
  · rw [joined, List.append_cons]
    exact ends _

theorem join_ne_nil : join base child ≠ [] := by
  intro empty
  have none := components_join named base
  rw [empty, components_nil] at none
  exact List.append_ne_nil_of_right_ne_nil _ (List.cons_ne_nil _ _) none.symm

/-- What stands before the last component of a path made of a directory and a name is the
directory. -/
theorem dirName_join (nonempty : base ≠ []) (ends : base.getLast? ≠ some slash) :
    dirName (join base child) = base := by
  rcases join_cases named base with ⟨empty, -⟩ | ⟨above, shape, -⟩ | ⟨-, -, joined⟩
  · exact absurd empty nonempty
  · rw [shape, List.getLast?_concat] at ends
    exact absurd rfl ends
  · rw [joined, dirName_append_slash named.noSlash, trimRight_of_getLast? ends, if_neg]
    simpa using nonempty

end

/-- Names added to a path that does not end in a slash give another one. -/
theorem ends_of_foldl_join {children : List Text} (named : ∀ child ∈ children, IsName child)
    {base : Text} (nonempty : base ≠ []) (ends : base.getLast? ≠ some slash) :
    children.foldl join base ≠ [] ∧ (children.foldl join base).getLast? ≠ some slash := by
  induction children generalizing base with
  | nil => exact ⟨nonempty, ends⟩
  | cons child rest ih =>
    obtain ⟨first, later⟩ := List.forall_mem_cons.mp named
    exact ih later (join_ne_nil first base) (getLast?_join first base)

end ClassSynth.Path
