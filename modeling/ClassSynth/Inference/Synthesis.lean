import ClassSynth.ClassTree.Basic
import ClassSynth.Identifier
import ClassSynth.Inference.Error
import ClassSynth.Inference.Options
import ClassSynth.Json.Value
import ClassSynth.Text.CaseFold

/-!
# Synthesis of class trees

A class is built from an object by visiting its members in order.  Every member becomes a field; an
object below it, also behind arrays, becomes a class nested in the class of the member.  Of an array
only the first item is looked at.

Class names are issued under their case folding: two classes must not have names that differ in case
alone, since each becomes a file name.  The walk carries the table of issued names through success
and failure alike: names issued before a failure stay issued.  Everything else is returned, so an
inference that fails has added nothing to the class around it.
-/

set_option autoImplicit false

namespace ClassSynth

/-- Issued names in order, each with its case folding in front. -/
abbrev NameTable := List (Text × Text)

namespace NameTable

def isTaken (table : NameTable) (name : Text) : Bool :=
  let key := name.fold
  table.any fun entry => decide (entry.1 = key)

def issue (table : NameTable) (name : Text) : NameTable := table ++ [(name.fold, name)]

def reserve (table : NameTable) (name path : Text) : Except SynthesisError NameTable :=
  if table.isTaken name then .error (Violation.at (.nameCollision name) path)
  else .ok (table.issue name)

end NameTable

structure ClassBuilder where
  name : Text
  fields : List Field
  nested : List ClassSpec

namespace ClassBuilder

def start (name : Text) : ClassBuilder := ⟨name, [], []⟩

def hasField (builder : ClassBuilder) (name : Text) : Bool :=
  builder.fields.any fun field => decide (field.name = name)

def addField (builder : ClassBuilder) (field : Field) : ClassBuilder :=
  { builder with fields := builder.fields ++ [field] }

def addNested (builder : ClassBuilder) (specs : List ClassSpec) : ClassBuilder :=
  { builder with nested := builder.nested ++ specs }

def build (builder : ClassBuilder) : ClassSpec := ⟨builder.name, builder.fields, builder.nested⟩

end ClassBuilder

/-- What inference finds for a value: its type, and the class built for the object at the end of its
chain of first items, if the chain ends in one. -/
structure Inferred where
  type : FieldType
  nested : List ClassSpec

/-- An outcome together with the names issued up to it. -/
abbrev Naming (α : Type) := Except SynthesisError α × NameTable

namespace Options

def checkDepth (o : Options) (depth : Int) (path : Text) : Except SynthesisError Unit :=
  if (o.maxDepth : Int) < depth then .error (Violation.at (.depthExceeded o.maxDepth) path)
  else .ok ()

def segment (o : Options) (hint : Text) (members : List (Text × Json)) : Text :=
  match o.nestedNaming, members with
  | .byFirstKey, (key, _) :: _ => key
  | _, _ => hint

def nestedName (o : Options) (owner hint : Text) (members : List (Text × Json)) : Text :=
  ClassName.nested owner (o.segment hint members)

end Options

mutual

/-- Infers the type of a value that the key `hint` leads to in the class `owner`.  `depth` is the
depth of the container that holds the value. -/
def infer (o : Options) (owner hint path : Text) (depth : Int) :
    Json → NameTable → Naming Inferred
  | .string _, names => (.ok ⟨.primitive .string, []⟩, names)
  | .bool _, names => (.ok ⟨.primitive .boolean, []⟩, names)
  | .integer n, names => (.ok ⟨.primitive (Primitive.ofInt n), []⟩, names)
  | .number _, names => (.ok ⟨.primitive .double, []⟩, names)
  | .null, names => (.ok ⟨.primitive .string, []⟩, names)
  | .foreign typeName, names => (.error (.unsupportedValue typeName path), names)
  | .array items, names =>
    match o.checkDepth (depth + 1) path with
    | .error e => (.error e, names)
    | .ok () => inferItems o owner hint path (depth + 1) items names
  | .object members, names =>
    match o.checkDepth (depth + 1) path with
    | .error e => (.error e, names)
    | .ok () =>
      let name := o.nestedName owner hint members
      match names.reserve name path with
      | .error e => (.error e, names)
      | .ok names =>
        match buildClass o path (depth + 1) (.start name) members names with
        | (.error e, names) => (.error e, names)
        | (.ok spec, names) => (.ok ⟨.reference name, [spec]⟩, names)
termination_by structural value => value

def inferItems (o : Options) (owner hint path : Text) (depth : Int) :
    List Json → NameTable → Naming Inferred
  | [], names =>
    match o.emptyArrays with
    | .assumeStrings => (.ok ⟨.list (.primitive .string), []⟩, names)
    | .refuse => (.error (Violation.at .emptyArray path), names)
  | first :: _, names =>
    match infer o owner hint (Step.firstItem.below path) depth first names with
    | (.error e, names) => (.error e, names)
    | (.ok found, names) => (.ok ⟨.list found.type, found.nested⟩, names)
termination_by structural items => items

def buildClass (o : Options) (path : Text) (depth : Int) (builder : ClassBuilder) :
    List (Text × Json) → NameTable → Naming ClassSpec
  | [], names => (.ok builder.build, names)
  | (key, value) :: rest, names =>
    let fieldPath := (Step.member key).below path
    let fieldName := key.sanitize
    if builder.hasField fieldName then
      (.error (Violation.at (.nameCollision (builder.name ++ "." ++ fieldName)) fieldPath), names)
    else
      match infer o builder.name key fieldPath depth value names with
      | (.error e, names) => (.error e, names)
      | (.ok found, names) =>
        let next := (builder.addNested found.nested).addField ⟨fieldName, found.type, key⟩
        buildClass o path depth next rest names
termination_by structural members => members

end

def synthesizeClass (o : Options) (name path : Text) (depth : Int) (members : List (Text × Json))
    (names : NameTable) : Naming ClassSpec :=
  buildClass o path depth (.start name) members names

/-- The options under which a synthesis never descends beyond its room. -/
def Options.withinRoom (o : Options) : Options :=
  { o with maxDepth := min o.maxDepth o.room }

theorem Options.le_withinRoom_iff (o : Options) (level : Int) :
    level ≤ o.withinRoom.maxDepth ↔ level ≤ o.maxDepth ∧ level ≤ o.room := by
  simp only [withinRoom]
  omega

/-- Running out of room counts as exceeding the depth that was asked for, at the root. -/
def Options.outOfRoom (o : Options) : SynthesisError → SynthesisError
  | .inference ⟨.depthExceeded limit, context⟩ =>
    if (o.maxDepth : Int) = limit then .inference ⟨.depthExceeded limit, context⟩
    else Violation.at (.depthExceeded o.maxDepth) rootPath
  | other => other

/-- Builds the class tree of a document.  The names issued before are forgotten once the class name
and the document have been accepted. -/
def synthesize (o : Options) (document : Json) (className : Option Text) (names : NameTable) :
    Naming ClassSpec :=
  match className with
  | none => (.error (.invalidClassName none), names)
  | some name =>
    if name.isIdentifier then
      match document with
      | .object members =>
        match synthesizeClass o.withinRoom name rootPath 0 members (NameTable.issue [] name) with
        | (.error e, names) => (.error (o.outOfRoom e), names)
        | (.ok spec, names) => (.ok spec, names)
      | other => (.error (Violation.at (.notAnObject other.kind) rootPath), names)
    else (.error (.invalidClassName (some name)), names)

def synthesizeFresh (o : Options) (document : Json) (className : Option Text) :
    Except SynthesisError ClassSpec :=
  (synthesize o document className []).1

end ClassSynth
