import Mathlib.Computability.Language
import ClassSynth.Proofs.Identifier

/-!
# The language of identifiers

There are two ways to say what an identifier is: by a test, and by what comes out when a text is
sanitized.  Both are held here against the language of identifiers, which is put together from
ranges of code points.  The main statement is that these texts are the same: those that pass the
test, those that sanitizing leaves as they are, those that come out of it, and those of the
language.
-/

set_option autoImplicit false

namespace ClassSynth

open scoped Computability

/-! ## Texts over a class of code points -/

/-- The texts that are one code point of a class. -/
def oneOf (isIn : CodePoint → Bool) : Language CodePoint := {t | ∃ c, isIn c = true ∧ t = [c]}

theorem mem_oneOf_iff (isIn : CodePoint → Bool) (t : Text) :
    t ∈ oneOf isIn ↔ ∃ c, isIn c = true ∧ t = [c] := Iff.rfl

theorem oneOf_add (isIn isInOther : CodePoint → Bool) :
    oneOf isIn + oneOf isInOther = oneOf fun c => isIn c || isInOther c := by
  ext t
  simp only [Language.mem_add, mem_oneOf_iff, Bool.or_eq_true, or_and_right, exists_or]

theorem mem_kstar_oneOf_iff (isIn : CodePoint → Bool) (t : Text) :
    t ∈ (oneOf isIn)∗ ↔ ∀ c ∈ t, isIn c = true := by
  rw [Language.mem_kstar]
  constructor
  · rintro ⟨pieces, rfl, each⟩ c present
    obtain ⟨piece, given, inside⟩ := List.mem_flatten.mp present
    obtain ⟨single, isInClass, rfl⟩ := each piece given
    rwa [List.mem_singleton.mp inside]
  · intro all
    refine ⟨t.map fun c => [c], (List.flatMap_singleton' t).symm, ?_⟩
    intro piece given
    obtain ⟨c, present, rfl⟩ := List.mem_map.mp given
    exact ⟨c, all c present, rfl⟩

/-! ## Identifiers -/

/-- The texts that are one code point of a range. -/
abbrev oneBetween (low high : Char) : Language CodePoint := oneOf fun c => c.isBetween low high

/-- What an identifier begins with: a letter or an underscore. -/
def identifierStart : Language CodePoint :=
  oneBetween 'A' 'Z' + oneBetween 'a' 'z' + oneBetween '_' '_'

/-- What an identifier goes on with: a letter, an underscore or a digit. -/
def identifierPart : Language CodePoint := identifierStart + oneBetween '0' '9'

def identifiers : Language CodePoint := identifierStart * identifierPart∗

theorem CodePoint.isBetween_underscore (c : CodePoint) :
    c.isBetween '_' '_' = decide (c = underscore) := by
  have number : '_'.toNat = 95 ∧ underscore.val = 95 := by decide
  rw [Bool.eq_iff_iff, isBetween, Bool.and_eq_true, decide_eq_true_iff, decide_eq_true_iff,
    decide_eq_true_iff, Fin.ext_iff]
  omega

theorem identifierStart_eq : identifierStart = oneOf CodePoint.isIdentifierStart := by
  rw [identifierStart, oneOf_add, oneOf_add]
  congr 1
  funext c
  rw [c.isBetween_underscore]
  rfl

theorem identifierPart_eq : identifierPart = oneOf CodePoint.isIdentifierPart := by
  rw [identifierPart, identifierStart_eq, oneOf_add]
  rfl

theorem Text.isIdentifier_iff_mem (t : Text) : t.isIdentifier = true ↔ t ∈ identifiers := by
  rw [identifiers, Language.mem_mul, identifierStart_eq, identifierPart_eq]
  constructor
  · intro identifier
    cases t with
    | nil => cases identifier
    | cons c rest =>
      rw [isIdentifier, Bool.and_eq_true, List.all_eq_true] at identifier
      exact ⟨[c], ⟨c, identifier.1, rfl⟩, rest, (mem_kstar_oneOf_iff _ rest).mpr identifier.2, rfl⟩
  · rintro ⟨_, ⟨c, start, rfl⟩, rest, parts, rfl⟩
    have all := (mem_kstar_oneOf_iff _ rest).mp parts
    rw [List.singleton_append, isIdentifier, start, List.all_eq_true.mpr all]
    rfl

theorem Text.isIdentifier_iff_sanitize_eq (t : Text) :
    t.isIdentifier = true ↔ t.sanitize = t := by
  constructor
  · exact sanitize_of_isIdentifier
  · intro kept
    rw [← kept]
    exact t.isIdentifier_sanitize

/-- The test for identifiers and the sanitizing of texts speak of one language.  Whatever has been
sanitized passes the test, and a text passes it if and only if sanitizing leaves it as it is; so to
sanitize twice is to sanitize once, and what comes out are the identifiers and nothing else. -/
theorem Text.identifier_notions_agree :
    (∀ t : Text, t.sanitize.isIdentifier = true ∧ (t.isIdentifier = true ↔ t.sanitize = t)) ∧
    (∀ t : Text, t.sanitize.sanitize = t.sanitize) ∧
    Set.range sanitize = {t | t.isIdentifier = true} ∧
    ∀ t : Text, t.isIdentifier = true ↔ t ∈ identifiers := by
  have accepted := isIdentifier_sanitize
  refine ⟨fun t => ⟨accepted t, t.isIdentifier_iff_sanitize_eq⟩, ?_, ?_, isIdentifier_iff_mem⟩
  · intro t
    exact sanitize_of_isIdentifier (accepted t)
  · apply Set.Subset.antisymm
    · rintro _ ⟨t, rfl⟩
      exact accepted t
    · intro t identifier
      exact ⟨t, sanitize_of_isIdentifier identifier⟩

-- A line break at the end, a digit in front and a letter beyond ASCII are all seen by both.
example :
    let keys : List Text := ["", "id\n", "2nd", "größe", "_", "a-b"]
    keys.map Text.sanitize = ["field", "id_", "_2nd", "gr__e", "_", "a_b"] ∧
      keys.map Text.isIdentifier = [false, false, false, false, true, false] := by
  decide

end ClassSynth
