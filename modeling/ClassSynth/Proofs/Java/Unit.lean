import ClassSynth.Java.RoundTripTest
import ClassSynth.Java.Source
import ClassSynth.Proofs.Identifier
import ClassSynth.Proofs.Java.ImportScan
import ClassSynth.Proofs.Java.Output
import ClassSynth.Proofs.Text.Cut

/-!
# What a unit declares

A unit names its package in its first line, if it has one, and its class in the first line that
begins like the heading of a public class.  Read so, the source of a class tree declares its root,
and a round-trip test the class named after the one it tests.
-/

set_option autoImplicit false

namespace ClassSynth.Java

/-! ## Reading units -/

def packageOpening : Text := "package "

def classOpening : Text := "public class "

/-- The package that the lines of a unit are in, unless it is the unnamed one. -/
def declaredPackage? (lines : List Text) : Option Text :=
  (lines.head?.bind fun line => line.dropPrefix? packageOpening).map fun behind =>
    behind.takeWhile fun c => decide (c ≠ CodePoint.ofChar ';')

/-- The simple name of the class that the lines of a unit declare. -/
def declaredClass? (lines : List Text) : Option Text :=
  (lines.findSome? fun line => line.dropPrefix? classOpening).map fun behind =>
    behind.takeWhile fun c => decide (c ≠ CodePoint.ofChar ' ')

/-- The name of a class with that of its package before it. -/
def qualify (package : Option Text) (className : Text) : Text :=
  match package with
  | none => className
  | some package => package ++ "." ++ className

/-- The qualified name of the class that a unit declares. -/
def declaredName? (text : Text) : Option Text :=
  let lines := text.cutAt lineFeed
  (declaredClass? lines).map (qualify (declaredPackage? lines))

/-- Whether a line declares nothing. -/
structure IsSilent (line : Text) : Prop where
  noLineFeed : lineFeed ∉ line
  noPackage : line.dropPrefix? packageOpening = none
  noClass : line.dropPrefix? classOpening = none

instance (line : Text) : Decidable (IsSilent line) :=
  decidable_of_iff (lineFeed ∉ line ∧ line.dropPrefix? packageOpening = none ∧
      line.dropPrefix? classOpening = none)
    ⟨fun all => ⟨all.1, all.2.1, all.2.2⟩, fun all => ⟨all.noLineFeed, all.noPackage, all.noClass⟩⟩

/-- The lines of a unit up to its imports. -/
def packageLines : Option Text → List Text
  | none => []
  | some package => [packageOpening ++ package ++ ";", []]

theorem textOfLines_append (first second : List Text) :
    textOfLines (first ++ second) = textOfLines first ++ textOfLines second :=
  List.flatMap_append

theorem cutAt_textOfLines_append {lines : List Text} (plain : ∀ line ∈ lines, lineFeed ∉ line)
    (behind : Text) :
    Text.cutAt lineFeed (textOfLines lines ++ behind) = lines ++ Text.cutAt lineFeed behind := by
  induction lines with
  | nil => rfl
  | cons line rest ih =>
    obtain ⟨first, plain⟩ := List.forall_mem_cons.mp plain
    have shape : textOfLines (line :: rest) ++ behind =
        line ++ lineFeed :: (textOfLines rest ++ behind) := by
      simp [textOfLines, lineFeed]
    rw [shape, Text.cutAt_append_cons, Text.cutAt_of_not_mem _ first, ih plain]
    rfl

section

variable {silent : List Text} (quiet : ∀ line ∈ silent, IsSilent line) {name : Text}
  (word : name.IsWord) (others : List Text)

theorem heading_eq (name : Text) :
    heading false name = classOpening ++ (name ++ CodePoint.ofChar ' ' :: "\x7b") := by
  rw [heading, if_neg Bool.false_ne_true]
  exact List.append_assoc _ _ _

include quiet

theorem declaredPackage?_packageLines {package : Option Text}
    (ends : ∀ segments ∈ package, CodePoint.ofChar ';' ∉ segments) :
    declaredPackage? (packageLines package ++ silent ++ heading false name :: others) =
      package := by
  cases package with
  | some segments =>
    have opens : (packageOpening ++ segments ++ Text.ofString ";").dropPrefix? packageOpening =
        some (segments ++ CodePoint.ofChar ';' :: []) := by
      rw [List.append_assoc]
      exact List.dropPrefix?_append_of_beq _ (beq_self_eq_true _)
    rw [declaredPackage?, packageLines, List.cons_append, List.cons_append, List.head?_cons,
      Option.bind_some, opens, Option.map_some, Text.takeWhile_append_cons _ (ends segments rfl)]
  | none =>
    rw [declaredPackage?, packageLines, List.nil_append]
    cases silent with
    | nil => rfl
    | cons before rest =>
      rw [List.cons_append, List.head?_cons, Option.bind_some,
        (quiet before List.mem_cons_self).noPackage, Option.map_none]

include word

theorem declaredClass?_append (package : Option Text) :
    declaredClass? (packageLines package ++ silent ++ heading false name :: others) =
      some name := by
  have skips : ∀ lines : List Text, (∀ line ∈ lines, line.dropPrefix? classOpening = none) →
      lines.findSome? (fun line => line.dropPrefix? classOpening) = none :=
    fun lines none => List.findSome?_eq_none_iff.mpr none
  have noBlank : CodePoint.ofChar ' ' ∉ name := fun present => absurd (word _ present) (by decide)
  have opens : (heading false name).dropPrefix? classOpening =
      some (name ++ CodePoint.ofChar ' ' :: "\x7b") := by
    rw [heading_eq]
    exact List.dropPrefix?_append_of_beq _ (beq_self_eq_true _)
  have inPackage : ∀ line ∈ packageLines package, line.dropPrefix? classOpening = none := by
    cases package with
    | none => exact fun line none => nomatch none
    | some segments => exact List.forall_mem_cons.mpr ⟨rfl, by decide⟩
  rw [declaredClass?, List.findSome?_append, List.findSome?_append, skips _ inPackage,
    skips _ fun line listed => (quiet line listed).noClass, Option.none_or, Option.none_or,
    List.findSome?_cons, opens, Option.map_some, Text.takeWhile_append_cons _ noBlank]

/-- A unit declares the class whose heading comes first in it, in the package of its first line. -/
theorem declaredName?_textOfLines {package : Option Text}
    (plain : ∀ segments ∈ package, lineFeed ∉ segments ∧ CodePoint.ofChar ';' ∉ segments) :
    declaredName? (textOfLines (packageLines package ++ silent ++ heading false name :: others)) =
      some (qualify package name) := by
  have onLines : ∀ line ∈ packageLines package ++ silent ++ [heading false name],
      lineFeed ∉ line := by
    intro line listed
    rw [List.mem_append, List.mem_append, List.mem_singleton] at listed
    rcases listed with (inPackage | before) | rfl
    · cases package with
      | none => cases inPackage
      | some segments =>
        have ending : lineFeed ∉ Text.ofString ";" := by decide
        have opening : lineFeed ∉ packageOpening := by decide
        simp only [packageLines, List.mem_cons, List.not_mem_nil, or_false] at inPackage
        rcases inPackage with rfl | rfl
        · simp [opening, ending, (plain segments rfl).1]
        · exact List.not_mem_nil
    · exact (quiet line before).noLineFeed
    · have inName : lineFeed ∉ name := fun present => absurd (word _ present) (by decide)
      have opening : lineFeed ∉ classOpening := by decide
      have ending : lineFeed ∉ CodePoint.ofChar ' ' :: Text.ofString "\x7b" := by decide
      rw [heading_eq]
      simp only [List.mem_append, opening, inName, ending, or_self, not_false_eq_true]
  -- The lines behind the heading are left uncut: what they are does not matter.
  have shape : textOfLines (packageLines package ++ silent ++ heading false name :: others) =
      textOfLines (packageLines package ++ silent ++ [heading false name]) ++
        textOfLines others := by
    rw [← textOfLines_append, List.append_assoc _ [_] others, List.singleton_append]
  rw [declaredName?, shape, cutAt_textOfLines_append onLines, List.append_assoc,
    List.singleton_append]
  simp only [declaredClass?_append quiet word, Option.map_some,
    declaredPackage?_packageLines quiet _ fun segments given => (plain segments given).2]

end

/-! ## Sources and tests -/

namespace Generator

/-- The name of the package of a generator, unless it is the unnamed one. -/
def packageName? (g : Generator) : Option Text :=
  if g.package.segments.isEmpty then none else some g.package.name

def qualifiedName (g : Generator) (className : Text) : Text := qualify g.packageName? className

end Generator

section

variable {g : Generator} (valid : ∀ segment ∈ g.package.segments, Package.isSegment segment = true)

def importLines (imports : List Text) : List Text :=
  let lines : List Text := imports.map fun name : Text => "import " ++ name ++ ";"
  if lines.isEmpty then [] else lines ++ [[]]

theorem Generator.header_eq (imports : List Text) :
    g.header imports = textOfLines (packageLines g.packageName? ++ importLines imports) := by
  have package :
      (if g.package.segments.isEmpty then ([] : Text)
        else "package " ++ g.package.name ++ ";\n\n") =
        textOfLines (packageLines g.packageName?) := by
    rw [packageName?]
    split
    · rfl
    · simp only [packageLines, textOfLines, List.flatMap_cons, List.flatMap_nil, List.append_assoc]
      rfl
  rw [header, package, textOfLines_append (packageLines _) (importLines imports), importLines]
  congr 1
  split <;> rfl

theorem isSilent_of_mem_importLines (definition : Text) :
    ∀ line ∈ importLines (g.importsFor definition), IsSilent line := by
  have each : ∀ lombok jackson, ∀ mark ∈ Generator.importMarks ⟨.unnamed, lombok, jackson⟩,
      IsSilent ("import " ++ mark.2 ++ ";") := by
    decide
  intro line listed
  rw [importLines] at listed
  split at listed
  · cases listed
  · rw [List.mem_append, List.mem_singleton] at listed
    rcases listed with ofImport | rfl
    · obtain ⟨name, present, rfl⟩ := List.mem_map.mp ofImport
      obtain ⟨mark, found, rfl⟩ := List.mem_map.mp present
      exact each g.lombok g.jackson mark (List.mem_filter.mp found).1
    · decide

def annotationLines (model : ClassModel) : List Text :=
  model.annotations.map (CodePoint.ofChar '@' :: ·)

theorem modelsClass_of_model {spec : ClassSpec} {model : ClassModel}
    (modelled : g.model spec = .ok model) : ModelsClass g.lombok spec model := by
  obtain ⟨name, fields, nested⟩ := spec
  obtain ⟨models, -, unreserved, rfl⟩ := classModel_eq_ok modelled
  exact ⟨unreserved, rfl, rfl, rfl⟩

theorem isSilent_of_mem_annotationLines {spec : ClassSpec} {model : ClassModel}
    (modelled : g.model spec = .ok model) : ∀ line ∈ annotationLines model, IsSilent line := by
  have each : ∀ lombok hasFields, ∀ label ∈ annotationsFor lombok hasFields,
      IsSilent (CodePoint.ofChar '@' :: label) := by
    decide
  intro line listed
  obtain ⟨label, carried, rfl⟩ := List.mem_map.mp listed
  rw [(modelsClass_of_model modelled).annotations] at carried
  exact each _ _ label carried

theorem sourceOfModel_eq (model : ClassModel) : ∃ others, g.sourceOfModel model =
    textOfLines (packageLines g.packageName? ++
      (importLines (g.importsFor (g.definition model)) ++ annotationLines model) ++
        heading false model.name :: others) := by
  obtain ⟨name, annotations, fields, nested⟩ := model
  refine ⟨(ownLines g.style name fields ++ nestedLines g.style nested).map indentLine ++ [ending],
    ?_⟩
  rw [Generator.sourceOfModel, Generator.header_eq, annotationLines]
  simp only [Generator.definition, ClassModel.lines, textOfLines, List.flatMap_append,
    List.flatMap_cons, List.flatMap_nil, List.append_assoc, List.nil_append]

include valid

theorem plain_of_mem_packageName? :
    ∀ name ∈ g.packageName?, lineFeed ∉ name ∧ CodePoint.ofChar ';' ∉ name := by
  intro name given
  rw [Generator.packageName?] at given
  split at given
  · cases given
  · cases given
    refine ⟨Text.not_mem_join (by decide) ?_, Text.not_mem_join (by decide) ?_⟩
    · intro segment listed
      exact Package.not_mem_of_isSegment (valid segment listed) (by decide) (by decide)
    · intro segment listed
      exact Package.not_mem_of_isSegment (valid segment listed) (by decide) (by decide)

/-- The source of a class tree declares the class of its root. -/
theorem declaredName?_source {spec : ClassSpec} {text : Text} (word : spec.name.IsWord)
    (sourced : g.source spec = .ok text) :
    declaredName? text = some (g.qualifiedName spec.name) := by
  rw [Generator.source] at sourced
  cases modelled : g.model spec with
  | error e => simp [modelled, Except.map] at sourced
  | ok model =>
    rw [modelled] at sourced
    cases sourced
    have silent := List.forall_mem_append.mpr
      ⟨isSilent_of_mem_importLines (g := g) (g.definition model),
        isSilent_of_mem_annotationLines modelled⟩
    obtain ⟨others, shape⟩ := sourceOfModel_eq (g := g) model
    rw [shape, (modelsClass_of_model modelled).name]
    exact declaredName?_textOfLines silent word others (plain_of_mem_packageName? valid)

/-- A round-trip test declares a class named after the one it tests. -/
theorem declaredName?_test {className : Text} (word : className.IsWord) (resourceName : Text) :
    declaredName? (RoundTripTest.ofClass g.package className resourceName).text =
      some (g.qualifiedName (className ++ "Test")) := by
  have suffix : (Text.ofString "Test").all CodePoint.isIdentifierPart = true := by decide
  have testWord : (className ++ Text.ofString "Test").IsWord :=
    (Text.isWord_append_iff _ _).mpr ⟨word, List.all_eq_true.mp suffix⟩
  have silent : ∀ line ∈ (RoundTripTest.ofClass .unnamed [] []).bodyLines.take 12,
      IsSilent line := by
    decide +kernel
  have shape : (RoundTripTest.ofClass g.package className resourceName).bodyLines =
      (RoundTripTest.ofClass .unnamed [] []).bodyLines.take 12 ++
        heading false (className ++ "Test") ::
          (RoundTripTest.ofClass g.package className resourceName).bodyLines.drop 13 := by
    rw [heading_eq, List.append_assoc]
    rfl
  have declared := declaredName?_textOfLines silent testWord
    ((RoundTripTest.ofClass g.package className resourceName).bodyLines.drop 13)
    (plain_of_mem_packageName? valid)
  rw [List.append_assoc, ← shape] at declared
  exact declared

end

end ClassSynth.Java
