import ClassSynth.Inference.Synthesis

/-!
# The skeleton of a document

Inference looks at the values that are reached from a document through members and first items.
These values, each with its level, are the skeleton of the document.  What a class tree needs is
said of the skeleton value by value, without regard to the order in which they are visited, and so
are the names of the classes.
-/

set_option autoImplicit false

namespace ClassSynth

/-- A value of a document and its level: that of the root is given, and every container below the
root adds one. -/
structure Placed where
  level : Int
  value : Json

def fieldNames (members : List (Text × Json)) : List Text :=
  members.map fun member => member.1.sanitize

namespace Json

def isContainer : Json → Bool
  | .array _ => true
  | .object _ => true
  | _ => false

mutual

/-- The values reached from a value at a level, itself included. -/
def skeleton (level : Int) : Json → List Placed
  | .array [] => [⟨level, .array []⟩]
  | .array (first :: rest) => ⟨level, .array (first :: rest)⟩ :: skeleton (level + 1) first
  | .object members => ⟨level, .object members⟩ :: skeletonOfMembers (level + 1) members
  | other => [⟨level, other⟩]
termination_by structural value => value

def skeletonOfMembers (level : Int) : List (Text × Json) → List Placed
  | [] => []
  | (_, value) :: rest => skeleton level value ++ skeletonOfMembers level rest
termination_by structural members => members

end

/-- The object at the end of a chain of first items. -/
def heldObject? : Json → Option (List (Text × Json))
  | .object members => some members
  | .array (first :: _) => heldObject? first
  | _ => none
termination_by structural value => value

end Json

/-- The objects that the members of an object hold, each under its key, in order. -/
def heldObjects (members : List (Text × Json)) : List (Text × List (Text × Json)) :=
  members.filterMap fun member => member.2.heldObject?.map fun object => (member.1, object)

namespace NestedNaming

/-- The key that a class nested under a key is named after. -/
def segment : NestedNaming → Text → List (Text × Json) → Text
  | .byField, key, _ => key
  | .byFirstKey, key, [] => key
  | .byFirstKey, _, (first, _) :: _ => first

def className (naming : NestedNaming) (owner key : Text) (members : List (Text × Json)) : Text :=
  owner ++ (naming.segment key members).sanitize.capitalizeFirst

end NestedNaming

theorem Options.nestedName_eq_className (o : Options) (owner key : Text)
    (members : List (Text × Json)) :
    o.nestedName owner key members = o.nestedNaming.className owner key members := by
  unfold Options.nestedName Options.segment NestedNaming.className
  cases o.nestedNaming <;> cases members <;> rfl

namespace Json

mutual

/-- The names of the classes of the objects reached from a value that a key leads to in a class, a
name before those below it. -/
def classNames (naming : NestedNaming) (owner key : Text) : Json → List Text
  | .array (first :: _) => classNames naming owner key first
  | .object members =>
    let name := naming.className owner key members
    name :: classNamesOfMembers naming name members
  | _ => []
termination_by structural value => value

def classNamesOfMembers (naming : NestedNaming) (owner : Text) : List (Text × Json) → List Text
  | [] => []
  | (key, value) :: rest =>
    classNames naming owner key value ++ classNamesOfMembers naming owner rest
termination_by structural members => members

end

end Json

/-- What a class tree needs of one value of the skeleton. -/
def Placed.Admitted (o : Options) : Placed → Prop
  | ⟨level, .array items⟩ => level ≤ o.maxDepth ∧ (items = [] → o.emptyArrays = .assumeStrings)
  | ⟨level, .object members⟩ => level ≤ o.maxDepth ∧ (fieldNames members).Nodup
  | ⟨_, .foreign _⟩ => False
  | _ => True

def Admitted (o : Options) (skeleton : List Placed) : Prop := ∀ placed ∈ skeleton, placed.Admitted o

section

variable {o : Options}

@[simp] theorem admitted_nil : Admitted o [] := by simp [Admitted]

@[simp] theorem admitted_cons_iff (placed : Placed) (rest : List Placed) :
    Admitted o (placed :: rest) ↔ placed.Admitted o ∧ Admitted o rest := by simp [Admitted]

@[simp] theorem admitted_append_iff (first second : List Placed) :
    Admitted o (first ++ second) ↔ Admitted o first ∧ Admitted o second := by
  simp [Admitted, or_imp, forall_and]

end

end ClassSynth
