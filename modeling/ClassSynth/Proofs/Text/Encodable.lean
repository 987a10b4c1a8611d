import ClassSynth.FileTree.Basic
import ClassSynth.Java.Layout
import ClassSynth.Proofs.Identifier
import ClassSynth.Proofs.Path

/-!
# Texts that have bytes

A text without surrogates has a UTF-8 form, and whatever is put together from such texts is such a
text.  A path is handed on when it has no null character either.
-/

set_option autoImplicit false

namespace ClassSynth

/-- Whether a text holds no surrogate. -/
def Text.IsEncodable (t : Text) : Prop := ∀ c ∈ t, c.isSurrogate = false

theorem CodePoint.val_of_isSurrogate {c : CodePoint} (surrogate : c.isSurrogate = true) :
    0xD800 ≤ c.val ∧ c.val ≤ 0xDFFF := by
  simp only [isSurrogate, isHighSurrogate, isLowSurrogate, Bool.or_eq_true, Bool.and_eq_true,
    decide_eq_true_eq] at surrogate
  omega

@[simp] theorem CodePoint.isSurrogate_ofChar (c : Char) : (ofChar c).isSurrogate = false := by
  have valid : c.val.toNat.isValidChar := c.valid
  have value : (ofChar c).val = c.val.toNat := rfl
  unfold Nat.isValidChar at valid
  simp only [isSurrogate, isHighSurrogate, isLowSurrogate, value, Bool.or_eq_false_iff,
    Bool.and_eq_false_iff, decide_eq_false_iff_not]
  omega

theorem CodePoint.isSurrogate_of_isAscii {c : CodePoint} (ascii : c.isAscii = true) :
    c.isSurrogate = false := by
  simp only [isAscii, decide_eq_true_eq] at ascii
  simp only [isSurrogate, isHighSurrogate, isLowSurrogate, Bool.or_eq_false_iff,
    Bool.and_eq_false_iff, decide_eq_false_iff_not]
  omega

namespace Text

@[simp] theorem isEncodable_nil : IsEncodable [] := by simp [IsEncodable]

@[simp] theorem isEncodable_cons_iff (c : CodePoint) (rest : Text) :
    IsEncodable (c :: rest) ↔ c.isSurrogate = false ∧ rest.IsEncodable :=
  List.forall_mem_cons

@[simp] theorem isEncodable_append_iff (first second : Text) :
    IsEncodable (first ++ second) ↔ first.IsEncodable ∧ second.IsEncodable :=
  List.forall_mem_append

theorem IsEncodable.of_subset {t part : Text} (encodable : t.IsEncodable) (subset : part ⊆ t) :
    part.IsEncodable := fun c member => encodable c (subset member)

theorem isEncodable_ite {condition : Prop} [Decidable condition] {first second : Text}
    (one : first.IsEncodable) (other : second.IsEncodable) :
    IsEncodable (if condition then first else second) := by
  split
  · exact one
  · exact other

theorem trimRight_subset (drop : CodePoint → Bool) (t : Text) : trimRight drop t ⊆ t := by
  intro c member
  rw [trimRight, List.mem_reverse] at member
  exact List.mem_reverse.mp ((List.dropWhile_suffix drop).subset member)

theorem isEncodable_map_ofChar (characters : List Char) :
    IsEncodable (characters.map CodePoint.ofChar) := by
  intro c member
  obtain ⟨char, -, rfl⟩ := List.mem_map.mp member
  exact CodePoint.isSurrogate_ofChar char

@[simp] theorem isEncodable_ofString (s : String) : (ofString s).IsEncodable :=
  isEncodable_map_ofChar s.toList

@[simp] theorem isEncodable_ofNat (n : Nat) : (ofNat n).IsEncodable :=
  isEncodable_map_ofChar (Nat.toDigits 10 n)

@[simp] theorem isEncodable_replicate (count : Nat) (c : Char) :
    IsEncodable (List.replicate count (CodePoint.ofChar c)) := by
  intro other member
  exact List.eq_of_mem_replicate member ▸ CodePoint.isSurrogate_ofChar c

@[simp] theorem isEncodable_ofHex (width n : Nat) : (ofHex width n).IsEncodable :=
  (isEncodable_append_iff _ _).mpr ⟨isEncodable_replicate _ '0', isEncodable_map_ofChar _⟩

theorem isEncodable_of_isWord {t : Text} (word : t.IsWord) : t.IsEncodable := fun c member =>
  CodePoint.isSurrogate_of_isAscii (CodePoint.isAscii_of_isIdentifierPart (word c member))

theorem isEncodable_join {separator : Text} (encodable : separator.IsEncodable)
    {parts : List Text} (each : ∀ part ∈ parts, part.IsEncodable) :
    (join separator parts).IsEncodable := by
  intro c member
  rw [Bool.eq_false_iff]
  intro surrogate
  have apart : ∀ t : Text, t.IsEncodable → c ∉ t := by
    intro t plain within
    rw [plain c within] at surrogate
    cases surrogate
  exact not_mem_join (apart separator encodable) (fun part listed => apart part (each part listed))
    member

theorem isEncodable_textOfLines {lines : List Text} (each : ∀ line ∈ lines, line.IsEncodable) :
    (Java.textOfLines lines).IsEncodable := by
  intro c member
  obtain ⟨line, listed, within⟩ := List.mem_flatMap.mp member
  rcases List.mem_append.mp within with within | ending
  · exact each line listed c within
  · exact List.mem_singleton.mp ending ▸ CodePoint.isSurrogate_ofChar _

end Text

theorem Utf8.firstUnencodable?_of_isEncodable {t : Text} (encodable : t.IsEncodable) :
    ∀ position, firstUnencodable? position t = none := by
  induction t with
  | nil => exact fun _ => rfl
  | cons c rest ih =>
    obtain ⟨first, later⟩ := (Text.isEncodable_cons_iff c rest).mp encodable
    intro position
    rw [firstUnencodable?, first, if_neg Bool.false_ne_true]
    exact ih later _

theorem Utf8.encode_of_isEncodable {t : Text} (encodable : t.IsEncodable) :
    encode t = .ok (t.flatMap encodePoint) := by
  rw [encode, firstUnencodable?_of_isEncodable encodable]

/-! ## Paths -/

/-- Whether a path holds no surrogate and no null character. -/
def Path.IsClean (path : Text) : Prop :=
  ∀ c ∈ path, c.isSurrogate = false ∧ c ≠ CodePoint.ofNumber 0

namespace Path

theorem IsClean.of_subset {path part : Text} (clean : IsClean path) (subset : part ⊆ path) :
    IsClean part := fun c member => clean c (subset member)

theorem isClean_append_iff (first second : Text) :
    IsClean (first ++ second) ↔ IsClean first ∧ IsClean second :=
  List.forall_mem_append

theorem isClean_of_isWord {t : Text} (word : t.IsWord) : IsClean t := by
  intro c member
  refine ⟨Text.isEncodable_of_isWord word c member, ?_⟩
  rintro rfl
  exact absurd (word _ member) (by decide)

theorem isClean_ofString {s : String} (noNull : '\x00' ∉ s.toList) : IsClean (Text.ofString s) := by
  intro c member
  obtain ⟨char, present, rfl⟩ := List.mem_map.mp member
  refine ⟨CodePoint.isSurrogate_ofChar char, ?_⟩
  intro null
  have zero : char.val.toNat = 0 := congrArg Fin.val null
  have same : char = '\x00' := Char.ext (UInt32.toNat_inj.mp zero)
  exact noNull (same ▸ present)

theorem IsClean.join {base child : Text} (baseClean : IsClean base) (childClean : IsClean child) :
    IsClean (join base child) := by
  have slash : IsClean [slash] := List.forall_mem_singleton.mpr (by decide)
  rw [Path.join]
  split
  · exact childClean
  · split
    · exact (isClean_append_iff base child).mpr ⟨baseClean, childClean⟩
    · rw [isClean_append_iff, ← List.singleton_append, isClean_append_iff]
      exact ⟨baseClean, slash, childClean⟩

theorem IsClean.foldl_join {children : List Text} (each : ∀ child ∈ children, IsClean child) :
    ∀ {base : Text}, IsClean base → IsClean (children.foldl Path.join base) := by
  induction children with
  | nil => exact fun clean => clean
  | cons child rest ih =>
    obtain ⟨first, later⟩ := List.forall_mem_cons.mp each
    exact fun clean => ih later (clean.join first)

theorem IsClean.dirName {path : Text} (clean : IsClean path) : IsClean (Path.dirName path) :=
  clean.of_subset (prefix_dirName path).1.subset

theorem firstUnencodable?_of_isClean {path : Text} (clean : IsClean path) :
    ∀ position, ByteEscape.firstUnencodable? position path = none := by
  induction path with
  | nil => exact fun _ => rfl
  | cons c rest ih =>
    obtain ⟨first, later⟩ := List.forall_mem_cons.mp clean
    intro position
    rw [ByteEscape.firstUnencodable?, first.1, Bool.false_and, if_neg Bool.false_ne_true]
    exact ih later _

theorem checkPath_of_isClean {path : Text} (clean : IsClean path) :
    FileTree.checkPath path = .ok () := by
  have noNull : path.contains (CodePoint.ofNumber 0) = false := by
    rw [Bool.eq_false_iff, ne_eq, List.contains_iff_mem]
    exact fun member => (clean _ member).2 rfl
  rw [FileTree.checkPath, firstUnencodable?_of_isClean clean, noNull]
  rfl

end Path

end ClassSynth
