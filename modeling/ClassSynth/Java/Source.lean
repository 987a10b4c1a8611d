import ClassSynth.Java.Layout

/-!
# Java source files

A source file holds the package line, the imports that its class definition needs, and the
definition.  Which imports are needed is read off the text of the definition.
-/

set_option autoImplicit false

namespace ClassSynth.Java

namespace Generator

def style (g : Generator) : Style := ⟨g.lombok, g.jackson⟩

/-- The marks in a definition that call for imports, with these imports in alphabetical order. -/
def importMarks (g : Generator) : List (Text × Text) :=
  let jackson : List (Text × Text) :=
    if g.jackson then [("@JsonProperty", "com.fasterxml.jackson.annotation.JsonProperty")] else []
  let always : List (Text × Text) :=
    [("BigInteger", "java.math.BigInteger"), ("List<", "java.util.List")]
  let lombok : List (Text × Text) :=
    if g.lombok then
      [("@AllArgsConstructor", "lombok.AllArgsConstructor"), ("@Builder", "lombok.Builder"),
        ("@Data", "lombok.Data"), ("@NoArgsConstructor", "lombok.NoArgsConstructor")]
    else []
  jackson ++ always ++ lombok

def importsFor (g : Generator) (definition : Text) : List Text :=
  (g.importMarks.filter fun mark => Text.hasInfix mark.1 definition).map Prod.snd

def definition (g : Generator) (model : ClassModel) : Text :=
  textOfLines (model.lines g.style false)

def header (g : Generator) (imports : List Text) : Text :=
  let package : Text :=
    if g.package.segments.isEmpty then [] else "package " ++ g.package.name ++ ";\n\n"
  let lines : List Text := imports.map fun name : Text => "import " ++ name ++ ";"
  package ++ (if lines.isEmpty then [] else textOfLines (lines ++ [[]]))

def sourceOfModel (g : Generator) (model : ClassModel) : Text :=
  let definition := g.definition model
  g.header (g.importsFor definition) ++ definition

def model (g : Generator) (spec : ClassSpec) : Except ReservedClassName ClassModel :=
  classModel g.lombok spec

def source (g : Generator) (spec : ClassSpec) : Except ReservedClassName Text :=
  (g.model spec).map g.sourceOfModel

end Generator

end ClassSynth.Java
