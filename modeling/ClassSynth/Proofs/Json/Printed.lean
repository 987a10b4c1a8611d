import Mathlib.Tactic.SplitIfs
import ClassSynth.Batch.Sample
import ClassSynth.ClassTree.Dictionary
import ClassSynth.Proofs.Java.KeyLiteral
import ClassSynth.Proofs.Text.Ascii
import ClassSynth.Proofs.Text.Encodable

/-!
# Loading what was printed

The indented form of a class tree is made of printable ASCII and line feeds.  The bytes of a file
that holds such a text are read as the very text, whatever the reader makes of it then.
-/

set_option autoImplicit false

namespace ClassSynth

/-! ## Printed texts -/

def CodePoint.isPrinted (c : CodePoint) : Bool :=
  decide (c = ofChar '\n') || decide (0x20 ≤ c.val ∧ c.val ≤ 0x7E)

namespace Text

/-- Whether a text is made of printable ASCII and line feeds. -/
def IsPrinted (t : Text) : Prop := ∀ c ∈ t, c.isPrinted = true

instance (t : Text) : Decidable t.IsPrinted :=
  decidable_of_iff (t.all CodePoint.isPrinted = true) List.all_eq_true

@[simp] theorem isPrinted_append_iff (first second : Text) :
    IsPrinted (first ++ second) ↔ first.IsPrinted ∧ second.IsPrinted :=
  List.forall_mem_append

theorem isPrinted_join {separator : Text} (printed : separator.IsPrinted) {parts : List Text}
    (each : ∀ part ∈ parts, part.IsPrinted) : (join separator parts).IsPrinted := by
  intro c member
  by_contra other
  exact not_mem_join (fun within => other (printed c within))
    (fun part listed within => other (each part listed c within)) member

theorem isPrinted_literal (t : Text) : t.literal.IsPrinted := by
  intro c member
  rw [CodePoint.isPrinted, decide_eq_true (Java.literal_printable t c member), Bool.or_true]

end Text

/-! ## Files -/

section

variable {t : Text} {bytes : Bytes} (printed : t.IsPrinted) (encoded : Utf8.encode t = .ok bytes)

include printed

theorem Text.IsPrinted.lt {c : CodePoint} (member : c ∈ t) : c.val < 0x80 := by
  have plain := printed c member
  rw [CodePoint.isPrinted, Bool.or_eq_true, decide_eq_true_eq, decide_eq_true_eq] at plain
  rcases plain with rfl | ⟨-, small⟩
  · decide
  · omega

theorem Text.IsPrinted.carriageReturn_not_mem : carriageReturn ∉ t :=
  fun member => absurd (printed carriageReturn member) (by decide)

theorem Utf8.encode_of_isPrinted : encode t = .ok (t.map fun c => UInt8.ofNat c.val) := by
  have encodable : t.IsEncodable := by
    intro c member
    refine CodePoint.isSurrogate_of_isAscii (decide_eq_true ?_)
    exact printed.lt member
  have points : t.flatMap encodePoint = t.map fun c => UInt8.ofNat c.val := by
    rw [← List.flatMap_pure_eq_map]
    refine List.flatMap_congr fun c member => ?_
    rw [encodePoint, if_pos (printed.lt member)]
    rfl
  rw [encode_of_isEncodable encodable, points]

include encoded

/-- The bytes of a printed text are decoded to the text. -/
theorem Utf8.decode_of_encode : decode bytes = .ok t := by
  obtain rfl := Except.ok.inj (encoded.symm.trans (encode_of_isPrinted printed))
  have ascii : ∀ byte ∈ t.map fun c => UInt8.ofNat c.val, byte < 0x80 := by
    intro byte member
    obtain ⟨c, within, rfl⟩ := List.mem_map.mp member
    have small := printed.lt within
    rw [UInt8.lt_iff_toNat_lt, UInt8.toNat_ofNat]
    exact Nat.lt_of_le_of_lt (Nat.mod_le _ _) small
  rw [decode_of_ascii _ ascii, List.map_map]
  conv_rhs => rw [← List.map_id t]
  refine congrArg Except.ok (List.map_congr_left fun c member => ?_)
  have small := printed.lt member
  have byte : (UInt8.ofNat c.val).toNat = c.val :=
    UInt8.toNat_ofNat_of_lt' (Nat.lt_trans small (by decide))
  rw [Function.comp_apply, byte]
  exact Fin.ext (Nat.mod_eq_of_lt c.isLt)

theorem FileTree.loadSample_of_isPrinted {tree : FileTree} {path : Text}
    (held : tree.read path = .ok bytes) :
    tree.loadSample path = (Json.read t).mapError .malformed := by
  rw [loadSample, held]
  simp only [documentOfBytes, Utf8.decode_of_encode printed encoded,
    Text.unifyLineEnds_of_no_return t printed.carriageReturn_not_mem]

end

/-! ## Class trees -/

/-- Whether a value is printed as printable ASCII and line feeds at any level. -/
def Json.PrintsPlainly (value : Json) : Prop := ∀ level, (value.indented level).IsPrinted

namespace Json

theorem printsPlainly_string (t : Text) : (string t).PrintsPlainly := fun _ => t.isPrinted_literal

theorem isPrinted_enclose {opening closing : Text} (opens : opening.IsPrinted)
    (closes : closing.IsPrinted) (level : Nat) {parts : List Text}
    (each : ∀ part ∈ parts, part.IsPrinted) : (enclose opening closing level parts).IsPrinted := by
  have line : ∀ level, (newLine level).IsPrinted := by
    intro level c member
    rcases List.mem_cons.mp member with rfl | blank
    · rfl
    · rw [List.eq_of_mem_replicate blank]
      rfl
  have comma : Text.IsPrinted "," := by decide
  have separator : Text.IsPrinted ("," ++ newLine (level + 1)) :=
    (Text.isPrinted_append_iff _ _).mpr ⟨comma, line _⟩
  unfold enclose
  split_ifs <;> simp [opens, closes, line, Text.isPrinted_join separator each]

theorem printsPlainly_array {items : List Json} (each : ∀ item ∈ items, item.PrintsPlainly) :
    (array items).PrintsPlainly := by
  have parts : ∀ level, ∀ part ∈ indentedItems level items, part.IsPrinted := by
    intro level
    induction items with
    | nil => exact List.forall_mem_nil _
    | cons item rest ih =>
      obtain ⟨first, later⟩ := List.forall_mem_cons.mp each
      exact List.forall_mem_cons.mpr ⟨first level, ih later⟩
  exact fun level => isPrinted_enclose (by decide) (by decide) level (parts (level + 1))

theorem printsPlainly_object {members : List (Text × Json)}
    (each : ∀ member ∈ members, member.2.PrintsPlainly) : (object members).PrintsPlainly := by
  have colon : Text.IsPrinted ": " := by decide
  have parts : ∀ level, ∀ part ∈ indentedMembers level members, part.IsPrinted := by
    intro level
    induction members with
    | nil => exact List.forall_mem_nil _
    | cons member rest ih =>
      obtain ⟨first, later⟩ := List.forall_mem_cons.mp each
      refine List.forall_mem_cons.mpr ⟨?_, ih later⟩
      simp [Text.isPrinted_literal, colon, first level]
  exact fun level => isPrinted_enclose (by decide) (by decide) level (parts (level + 1))

end Json

theorem FieldType.printsPlainly_toJson (type : FieldType) : type.toJson.PrintsPlainly := by
  induction type with
  | primitive kind =>
    exact Json.printsPlainly_object (by simp [Json.printsPlainly_string])
  | list element ih =>
    exact Json.printsPlainly_object (by simp [Json.printsPlainly_string, ih])
  | reference className =>
    exact Json.printsPlainly_object (by simp [Json.printsPlainly_string, FormName.toJson])

theorem Field.printsPlainly_toJson (field : Field) : field.toJson.PrintsPlainly := by
  refine Json.printsPlainly_object ?_
  split <;> simp [FormName.toJson, Json.printsPlainly_string, FieldType.printsPlainly_toJson]

namespace ClassSpec

mutual

theorem printsPlainly_toJson : (spec : ClassSpec) → spec.toJson.PrintsPlainly
  | ⟨name, fields, nested⟩ => by
    have inFields : (Json.array (fields.map FieldOver.toJson)).PrintsPlainly := by
      refine Json.printsPlainly_array (List.forall_mem_map.mpr ?_)
      exact fun field _ => Field.printsPlainly_toJson field
    have inNested := Json.printsPlainly_array (printsPlainly_toJsonAll nested)
    refine Json.printsPlainly_object ?_
    split <;> simp [FormName.toJson, Json.printsPlainly_string, inFields, inNested]

theorem printsPlainly_toJsonAll : (specs : List ClassSpec) →
    ∀ form ∈ ClassOver.toJsonAll specs, form.PrintsPlainly
  | [] => List.forall_mem_nil _
  | spec :: rest =>
    List.forall_mem_cons.mpr ⟨printsPlainly_toJson spec, printsPlainly_toJsonAll rest⟩

end

end ClassSpec

end ClassSynth
