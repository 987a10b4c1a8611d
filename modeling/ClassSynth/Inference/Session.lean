import ClassSynth.ClassTree.Draft
import ClassSynth.Inference.Synthesis

/-!
# Sessions

A session is a run of requests to one synthesizer and one class under construction.  The names
issued by one request are there for the next, also when the request fails.  A request that is about
an object can be made with any value; how far it gets depends on what it looks at.

The class under construction takes whatever is added to it, finished or not, so it is a draft.
-/

set_option autoImplicit false

namespace ClassSynth

structure DraftBuilder where
  name : Text
  fields : List (FieldOver Json)
  nested : List Draft

namespace DraftBuilder

def start (name : Text) : DraftBuilder := ⟨name, [], []⟩

def hasField (builder : DraftBuilder) (name : Json) : Bool :=
  builder.fields.any fun field => Json.equal field.name name

def addField (builder : DraftBuilder) (field : FieldOver Json) : DraftBuilder :=
  { builder with fields := builder.fields ++ [field] }

def addNested (builder : DraftBuilder) (drafts : List Draft) : DraftBuilder :=
  { builder with nested := builder.nested ++ drafts }

def build (builder : DraftBuilder) : Draft := ⟨.string builder.name, builder.fields, builder.nested⟩

end DraftBuilder

structure Session where
  options : Options
  names : NameTable
  builder : DraftBuilder

inductive Request where
  | synthesize (document : Json) (className : Option Text)
  /-- Begins another class; the issued names stay. -/
  | begin (name : Text)
  | infer (value : Json) (hint path : Text) (depth : Int)
  | addField (field : FieldOver Json)
  | hasField (name : Json)
  | addNested (draft : Draft)
  | build
  | synthesizeClass (value : Json) (name path : Text) (depth : Int)
  | synthesizeNested (value : Json) (hint path : Text) (depth : Int)
  | nestedName (value : Json) (owner hint : Text)
  | reserve (name path : Text)
  | checkDepth (depth : Int) (path : Text)

inductive Reply where
  | done
  | truth (value : Bool)
  | spec (spec : ClassSpec)
  | draft (draft : Draft)
  | type (type : FieldType)
  | name (name : Text)

inductive RequestError where
  | synthesis (error : SynthesisError)
  | noMembers
  | noSegment

/-- The name of the class of a nested value.  Under the first-key rule a list offers its first item,
which has to be a text, and a text its first code point. -/
def Options.nestedNameOf (o : Options) (owner hint : Text) : Json → Except RequestError Text
  | .object members => .ok (o.nestedName owner hint members)
  | value =>
    match o.nestedNaming, value.isTruthy, value with
    | .byField, _, _ => .ok (ClassName.nested owner hint)
    | .byFirstKey, false, _ => .ok (ClassName.nested owner hint)
    | .byFirstKey, true, .array (.string key :: _) => .ok (ClassName.nested owner key)
    | .byFirstKey, true, .string (c :: _) => .ok (ClassName.nested owner [c])
    | .byFirstKey, true, _ => .error .noSegment

namespace Session

def start (options : Options) : Session := ⟨options, [], .start "Root"⟩

def infer (s : Session) (value : Json) (hint path : Text) (depth : Int) :
    Except SynthesisError FieldType × Session :=
  match ClassSynth.infer s.options s.builder.name hint path depth value s.names with
  | (.error e, names) => (.error e, { s with names })
  | (.ok found, names) =>
    let nested := found.nested.map ClassOver.draft
    (.ok found.type, { s with names, builder := s.builder.addNested nested })

/-- Begins a nested class for a value that turns out to have no members.  The name that is issued
for it stays issued. -/
def beginNested (s : Session) (value : Json) (hint path : Text) (depth : Int) :
    RequestError × Session :=
  match s.options.checkDepth depth path with
  | .error e => (.synthesis e, s)
  | .ok () =>
    match s.options.nestedNameOf s.builder.name hint value with
    | .error e => (e, s)
    | .ok name =>
      match s.names.reserve name path with
      | .error e => (.synthesis e, s)
      | .ok names => (.noMembers, { s with names })

def perform (s : Session) : Request → Except RequestError Reply × Session
  | .synthesize document className =>
    match ClassSynth.synthesize s.options document className s.names with
    | (outcome, names) => ((outcome.mapError .synthesis).map .spec, { s with names })
  | .begin name => (.ok .done, { s with builder := .start name })
  | .infer value hint path depth =>
    match s.infer value hint path depth with
    | (outcome, next) => ((outcome.mapError .synthesis).map .type, next)
  | .addField field => (.ok .done, { s with builder := s.builder.addField field })
  | .hasField name => (.ok (.truth (s.builder.hasField name)), s)
  | .addNested draft => (.ok .done, { s with builder := s.builder.addNested [draft] })
  | .build => (.ok (.draft s.builder.build), s)
  | .synthesizeClass (.object members) name path depth =>
    match ClassSynth.synthesizeClass s.options name path depth members s.names with
    | (outcome, names) => ((outcome.mapError .synthesis).map .spec, { s with names })
  | .synthesizeClass _ _ _ _ => (.error .noMembers, s)
  | .synthesizeNested (.object members) hint path depth =>
    match s.infer (.object members) hint path (depth - 1) with
    | (outcome, next) => ((outcome.mapError .synthesis).map fun type => .name type.text, next)
  | .synthesizeNested value hint path depth =>
    match s.beginNested value hint path depth with
    | (e, next) => (.error e, next)
  | .nestedName value owner hint =>
    ((s.options.nestedNameOf owner hint value).map .name, s)
  | .reserve name path =>
    match s.names.reserve name path with
    | .error e => (.error (.synthesis e), s)
    | .ok names => (.ok .done, { s with names })
  | .checkDepth depth path =>
    (((s.options.checkDepth depth path).mapError .synthesis).map fun _ => .done, s)

/-- Answers requests one after the other; a failure does not end the session. -/
def run (s : Session) : List Request → List (Except RequestError Reply) × Session
  | [] => ([], s)
  | request :: rest =>
    match s.perform request with
    | (answer, next) =>
      match run next rest with
      | (answers, last) => (answer :: answers, last)

end Session

end ClassSynth
