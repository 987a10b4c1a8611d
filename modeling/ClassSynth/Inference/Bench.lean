import ClassSynth.Inference.Session

/-!
# Inference in place

Inference returns what it finds, and its caller adds that to the class around the value.  It can
also work on a bench, where every class that has been begun stands at a place of its own and is
changed there as soon as there is something to add.  A failure then stops in the middle: classes
stay half finished on the bench, and others have been added to them already.
-/

set_option autoImplicit false

namespace ClassSynth

/-- The classes under construction in the order in which they were begun, and the names issued. -/
structure Bench where
  builders : List DraftBuilder
  names : NameTable

namespace Bench

/-- The class at a place; where none has been begun, an empty one without a name. -/
def builderAt (bench : Bench) (place : Nat) : DraftBuilder :=
  bench.builders.getD place (.start [])

def begin (bench : Bench) (name : Text) : Bench :=
  { bench with builders := bench.builders ++ [.start name] }

def alter (bench : Bench) (place : Nat) (change : DraftBuilder → DraftBuilder) : Bench :=
  { bench with builders := bench.builders.set place (change (bench.builderAt place)) }

section

variable (before behind : List DraftBuilder) (builder : DraftBuilder) (names : NameTable)

@[simp] theorem builderAt_length :
    builderAt ⟨before ++ builder :: behind, names⟩ before.length = builder := by
  simp [builderAt]

@[simp] theorem alter_length (change : DraftBuilder → DraftBuilder) :
    alter ⟨before ++ builder :: behind, names⟩ before.length change =
      ⟨before ++ change builder :: behind, names⟩ := by
  simp [alter]

end

end Bench

mutual

/-- Infers the type of a value for the class at a place, which a class found on the way is added
to. -/
def inferInPlace (o : Options) (place : Nat) (hint path : Text) (depth : Int) :
    Json → Bench → Except SynthesisError FieldType × Bench
  | .string _, bench => (.ok (.primitive .string), bench)
  | .bool _, bench => (.ok (.primitive .boolean), bench)
  | .integer n, bench => (.ok (.primitive (Primitive.ofInt n)), bench)
  | .number _, bench => (.ok (.primitive .double), bench)
  | .null, bench => (.ok (.primitive .string), bench)
  | .foreign typeName, bench => (.error (.unsupportedValue typeName path), bench)
  | .array items, bench =>
    match o.checkDepth (depth + 1) path with
    | .error e => (.error e, bench)
    | .ok () => inferItemsInPlace o place hint path (depth + 1) items bench
  | .object members, bench =>
    match o.checkDepth (depth + 1) path with
    | .error e => (.error e, bench)
    | .ok () =>
      let name := o.nestedName (bench.builderAt place).name hint members
      match bench.names.reserve name path with
      | .error e => (.error e, bench)
      | .ok names =>
        -- The class of the object gets the next free place.
        let own := bench.builders.length
        let begun := Bench.begin ⟨bench.builders, names⟩ name
        match fillInPlace o own path (depth + 1) members begun with
        | (.error e, bench) => (.error e, bench)
        | (.ok (), bench) =>
          let built := (bench.builderAt own).build
          (.ok (.reference name), bench.alter place fun builder => builder.addNested [built])
termination_by structural value => value

def inferItemsInPlace (o : Options) (place : Nat) (hint path : Text) (depth : Int) :
    List Json → Bench → Except SynthesisError FieldType × Bench
  | [], bench =>
    match o.emptyArrays with
    | .assumeStrings => (.ok (.list (.primitive .string)), bench)
    | .refuse => (.error (Violation.at .emptyArray path), bench)
  | first :: _, bench =>
    match inferInPlace o place hint (Step.firstItem.below path) depth first bench with
    | (.error e, bench) => (.error e, bench)
    | (.ok type, bench) => (.ok (.list type), bench)
termination_by structural items => items

def fillInPlace (o : Options) (place : Nat) (path : Text) (depth : Int) :
    List (Text × Json) → Bench → Except SynthesisError Unit × Bench
  | [], bench => (.ok (), bench)
  | (key, value) :: rest, bench =>
    let fieldPath := (Step.member key).below path
    let fieldName := key.sanitize
    let builder := bench.builderAt place
    if builder.hasField (.string fieldName) then
      (.error (Violation.at (.nameCollision (builder.name ++ "." ++ fieldName)) fieldPath), bench)
    else
      match inferInPlace o place key fieldPath depth value bench with
      | (.error e, bench) => (.error e, bench)
      | (.ok type, bench) =>
        let field : FieldOver Json := ⟨.string fieldName, type.map .string, .string key⟩
        let next := bench.alter place fun builder => builder.addField field
        fillInPlace o place path depth rest next
termination_by structural members => members

end

end ClassSynth
