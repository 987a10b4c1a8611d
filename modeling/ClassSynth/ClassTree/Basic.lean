import ClassSynth.ClassTree.FieldType

/-!
# Class trees

A class tree is a class with its fields in order and the classes it declares.  `walk` lists the
classes of a tree, a class before the classes nested in it; look-ups by name take the first match of
that walk.  In a class spec names are texts; a tree that is only being described may have others.
-/

set_option autoImplicit false

namespace ClassSynth

/-- A field of a class: its identifier, its type, and the key it has in a document. -/
structure FieldOver (Name : Type) where
  name : Name
  type : TypeOver Name
  jsonName : Name
deriving DecidableEq

/-- A class over names of some type: its name, its fields, and the classes nested in it. -/
structure ClassOver (Name : Type) where
  name : Name
  fields : List (FieldOver Name)
  nested : List (ClassOver Name)

abbrev Field := FieldOver Text

abbrev ClassSpec := ClassOver Text

def FieldOver.rename? {Name Other : Type} (rename : Name → Option Other)
    (field : FieldOver Name) : Option (FieldOver Other) := do
  some ⟨← rename field.name, ← field.type.rename? rename, ← rename field.jsonName⟩

def FieldOver.map {Name Other : Type} (rename : Name → Other) (field : FieldOver Name) :
    FieldOver Other :=
  ⟨rename field.name, field.type.map rename, rename field.jsonName⟩

def FieldOver.same {Name : Type} [NameEquality Name] (field other : FieldOver Name) : Bool :=
  NameEquality.alike field.name other.name && field.type.same other.type &&
    NameEquality.alike field.jsonName other.jsonName

def FieldOver.sameAll {Name : Type} [NameEquality Name] :
    List (FieldOver Name) → List (FieldOver Name) → Bool
  | [], others => others.isEmpty
  | _ :: _, [] => false
  | field :: rest, other :: others => field.same other && sameAll rest others

theorem Field.same_iff (field other : Field) : field.same other = true ↔ field = other := by
  rcases field with ⟨_, _, _⟩
  rcases other with ⟨_, _, _⟩
  simp [FieldOver.same, FieldType.same_iff, NameEquality.alike, and_assoc]

theorem Field.sameAll_iff (fields others : List Field) :
    FieldOver.sameAll fields others = true ↔ fields = others := by
  induction fields generalizing others with
  | nil => cases others <;> simp [FieldOver.sameAll]
  | cons field rest ih => cases others <;> simp [FieldOver.sameAll, Field.same_iff, ih]

namespace ClassOver

variable {Name : Type}

mutual

/-- The class and all classes below it, each before those nested in it. -/
def walk : ClassOver Name → List (ClassOver Name)
  | ⟨name, fields, nested⟩ => ⟨name, fields, nested⟩ :: walkAll nested
termination_by structural spec => spec

def walkAll : List (ClassOver Name) → List (ClassOver Name)
  | [] => []
  | spec :: rest => walk spec ++ walkAll rest
termination_by structural specs => specs

end

def classNames (spec : ClassOver Name) : List Name := spec.walk.map ClassOver.name

def find? [NameEquality Name] (name : Name) (spec : ClassOver Name) : Option (ClassOver Name) :=
  spec.walk.find? fun c => NameEquality.equal c.name name

/-- The first field of a class that has a name as its identifier or as its key. -/
def field? [NameEquality Name] (name : Name) (spec : ClassOver Name) : Option (FieldOver Name) :=
  spec.fields.find? fun field =>
    NameEquality.equal field.name name || NameEquality.equal field.jsonName name

mutual

/-- The number of levels of a tree; a class without nested classes has one. -/
def depth : ClassOver Name → Nat
  | ⟨_, _, nested⟩ => depthAll nested + 1
termination_by structural spec => spec

def depthAll : List (ClassOver Name) → Nat
  | [] => 0
  | spec :: rest => max (depth spec) (depthAll rest)
termination_by structural specs => specs

end

mutual

def same [NameEquality Name] : ClassOver Name → ClassOver Name → Bool
  | ⟨name, fields, nested⟩, other =>
    NameEquality.alike name other.name && FieldOver.sameAll fields other.fields &&
      sameAll nested other.nested
termination_by structural spec => spec

def sameAll [NameEquality Name] : List (ClassOver Name) → List (ClassOver Name) → Bool
  | [], others => others.isEmpty
  | _ :: _, [] => false
  | spec :: rest, other :: others => same spec other && sameAll rest others
termination_by structural specs => specs

end

mutual

def map {Other : Type} (rename : Name → Other) : ClassOver Name → ClassOver Other
  | ⟨name, fields, nested⟩ =>
    ⟨rename name, fields.map (FieldOver.map rename), mapAll rename nested⟩
termination_by structural spec => spec

def mapAll {Other : Type} (rename : Name → Other) : List (ClassOver Name) → List (ClassOver Other)
  | [] => []
  | spec :: rest => map rename spec :: mapAll rename rest
termination_by structural specs => specs

end

mutual

def rename? {Other : Type} (rename : Name → Option Other) :
    ClassOver Name → Option (ClassOver Other)
  | ⟨name, fields, nested⟩ =>
    match rename name, fields.mapM (FieldOver.rename? rename), renameAll? rename nested with
    | some name, some fields, some nested => some ⟨name, fields, nested⟩
    | _, _, _ => none
termination_by structural spec => spec

def renameAll? {Other : Type} (rename : Name → Option Other) :
    List (ClassOver Name) → Option (List (ClassOver Other))
  | [] => some []
  | spec :: rest =>
    match rename? rename spec, renameAll? rename rest with
    | some spec, some specs => some (spec :: specs)
    | _, _ => none
termination_by structural specs => specs

end

end ClassOver

namespace ClassSpec

mutual

theorem same_iff : (spec other : ClassSpec) → (ClassOver.same spec other = true ↔ spec = other)
  | ⟨name, fields, nested⟩, ⟨name', fields', nested'⟩ => by
    simp [ClassOver.same, NameEquality.alike, Field.sameAll_iff, sameAll_iff nested nested',
      and_assoc]

theorem sameAll_iff :
    (specs others : List ClassSpec) → (ClassOver.sameAll specs others = true ↔ specs = others)
  | [], others => by cases others <;> simp [ClassOver.sameAll]
  | _ :: _, [] => by simp [ClassOver.sameAll]
  | spec :: rest, other :: others => by
    simp [ClassOver.sameAll, same_iff spec other, sameAll_iff rest others]

end

end ClassSpec

instance : DecidableEq ClassSpec := fun spec other =>
  decidable_of_iff (ClassOver.same spec other = true) (ClassSpec.same_iff spec other)

end ClassSynth
