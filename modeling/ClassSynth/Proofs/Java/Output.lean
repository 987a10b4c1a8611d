import ClassSynth.Batch.JavaProject
import ClassSynth.Proofs.FileTree.Place

/-!
# The files of a project

A class comes with up to three files, each in folders of its own below the project directory.  The
folders are names whatever the package is, and so two files share a place only when they are of one
kind and of one class.
-/

set_option autoImplicit false

namespace ClassSynth.Java

/-! ## Names of folders and files -/

theorem Package.not_mem_of_isSegment {segment : Text} (valid : isSegment segment = true)
    {c : CodePoint} (noStart : c.isWordStart = false) (noPart : c.isWordPart = false) :
    c ∉ segment := by
  rw [isSegment, Bool.and_eq_true] at valid
  have identifier := valid.1
  intro present
  cases segment with
  | nil => cases present
  | cons first rest =>
    rw [Text.isUnicodeIdentifier, Bool.and_eq_true, List.all_eq_true] at identifier
    rcases List.mem_cons.mp present with rfl | later
    · rw [noStart] at identifier
      cases identifier.1
    · have part := identifier.2 c later
      rw [noPart] at part
      cases part

theorem Package.isName_of_isSegment {segment : Text} (valid : isSegment segment = true) :
    Path.IsName segment := by
  have noDot : Path.dot ∉ segment := not_mem_of_isSegment valid (by decide) (by decide)
  refine ⟨?_, not_mem_of_isSegment valid (by decide) (by decide), ?_, ?_⟩
  · rintro rfl
    cases valid
  · rintro rfl
    exact noDot List.mem_cons_self
  · rintro rfl
    exact noDot List.mem_cons_self

theorem Package.isSegment_of_ofName {name : Text} {package : Package}
    (accepted : ofName name = .ok package) :
    ∀ segment ∈ package.segments, isSegment segment = true := by
  rw [ofName] at accepted
  split at accepted
  · cases accepted
    exact fun segment listed => nomatch listed
  · simp only at accepted
    split at accepted
    · rename_i valid
      cases accepted
      exact List.all_eq_true.mp valid
    · cases accepted

theorem isName_append {name suffix : Text} (word : name.IsWord) (noSlash : Path.slash ∉ suffix)
    (long : 2 < suffix.length) : Path.IsName (name ++ suffix) := by
  have length : 2 < (name ++ suffix).length := by
    rw [List.length_append]
    omega
  refine ⟨?_, ?_, ?_, ?_⟩
  · intro same
    rw [same] at length
    cases length
  · rw [List.mem_append, not_or]
    exact ⟨fun present => absurd (word _ present) (by decide), noSlash⟩
  · intro same
    rw [same] at length
    exact absurd length (by decide)
  · intro same
    rw [same] at length
    exact absurd length (by decide)

/-- The files that a conversion writes for a class: its source, its sample as a resource, and the
test that reads this. -/
inductive Output where
  | source
  | resource
  | test
deriving DecidableEq

namespace Output

def folders (g : Generator) : Output → List Text
  | .source => "src" :: "main" :: "java" :: g.package.segments
  | .resource => ["src", "test", "resources"]
  | .test => "src" :: "test" :: "java" :: g.package.segments

def suffix : Output → Text
  | .source => ".java"
  | .resource => ".json"
  | .test => "Test.java"

def path (g : Generator) (project className : Text) : Output → Text
  | .source => g.classPath project className
  | .resource => Path.join (Generator.resourceDirectory project) (className ++ ".json")
  | .test => g.testPath project className

/-- The directory of a file. -/
def directory (g : Generator) (project : Text) (output : Output) : Text :=
  (output.folders g).foldl Path.join project

variable {g : Generator}

theorem path_eq (project className : Text) (output : Output) :
    output.path g project className =
      Path.join (output.directory g project) (className ++ output.suffix) := by
  cases output <;>
    simp only [path, directory, folders, suffix, Generator.classPath, Generator.testPath,
      Generator.sourceDirectory, Generator.resourceDirectory, Package.directory, List.foldl_cons,
      List.foldl_nil]

theorem isName_fileName {className : Text} (word : className.IsWord) (output : Output) :
    Path.IsName (className ++ output.suffix) := by
  cases output <;> exact isName_append word (by decide) (by decide)

theorem ascii_fileName {className : Text} (word : className.IsWord) (output : Output) :
    ∀ c ∈ className ++ output.suffix, c.isAscii = true := by
  have suffixes : output.suffix.all CodePoint.isAscii = true := by cases output <;> decide
  intro c present
  rcases List.mem_append.mp present with inName | inSuffix
  · exact CodePoint.isAscii_of_isIdentifierPart (word c inName)
  · exact List.all_eq_true.mp suffixes c inSuffix

section

variable (named : ∀ segment ∈ g.package.segments, Path.IsName segment)

include named

theorem isName_of_mem_folders (output : Output) :
    ∀ folder ∈ output.folders g, Path.IsName folder := by
  have fixed : ∀ folder ∈ List.map Text.ofString ["src", "main", "java", "test", "resources"],
      Path.IsName folder := by
    intro folder listed
    simp only [List.map_cons, List.map_nil, List.mem_cons, List.not_mem_nil, or_false] at listed
    rcases listed with rfl | rfl | rfl | rfl | rfl <;>
      exact ⟨by decide, by decide, by decide, by decide⟩
  cases output with
  | source =>
    rw [folders]
    simp only [List.forall_mem_cons]
    exact ⟨fixed _ (by decide), fixed _ (by decide), fixed _ (by decide), named⟩
  | resource =>
    rw [folders]
    simp only [List.forall_mem_cons]
    exact ⟨fixed _ (by decide), fixed _ (by decide), fixed _ (by decide), by simp⟩
  | test =>
    rw [folders]
    simp only [List.forall_mem_cons]
    exact ⟨fixed _ (by decide), fixed _ (by decide), fixed _ (by decide), named⟩

/-- The place of a file below that of the project directory. -/
theorem place {className : Text} (word : className.IsWord) (here : Location) (project : Text)
    (output : Output) :
    Location.ofPath here (output.path g project className) = Location.ofPath here project ++
      (output.folders g ++ [className ++ output.suffix]).map FileName.ofText := by
  rw [path_eq, Location.ofPath_join (isName_fileName word output), directory,
    Location.ofPath_foldl_join (isName_of_mem_folders named output), List.map_append,
    List.append_assoc]
  rfl

end

/-- The two folders that tell the kinds apart, below the first that all share. -/
def branch : Output → List FileName
  | .source => [FileName.ofText "main", FileName.ofText "java"]
  | .resource => [FileName.ofText "test", FileName.ofText "resources"]
  | .test => [FileName.ofText "test", FileName.ofText "java"]

theorem eq_of_branch_eq {output other : Output} (same : output.branch = other.branch) :
    output = other := by
  cases output <;> cases other <;> first | rfl | exact absurd same (by decide)

theorem take_folders (output : Output) (name : Text) :
    ((output.folders g ++ [name]).map FileName.ofText).tail.take 2 = output.branch := by
  cases output <;> rfl

theorem head?_folders (output : Output) (name : Text) :
    ((output.folders g ++ [name]).map FileName.ofText).head? = some (FileName.ofText "src") := by
  cases output <;> rfl

/-- Files share a place only when they are of one kind and of one class. -/
theorem eq_of_place_eq (named : ∀ segment ∈ g.package.segments, Path.IsName segment)
    {first second : Text} (firstWord : first.IsWord) (secondWord : second.IsWord)
    {output other : Output} {here : Location} {project : Text}
    (same : Location.ofPath here (output.path g project first) =
      Location.ofPath here (other.path g project second)) : output = other ∧ first = second := by
  rw [place named firstWord, place named secondWord, List.append_cancel_left_eq] at same
  have kind : output = other := by
    have branches := congrArg (fun names => names.tail.take 2) same
    simp only [take_folders] at branches
    exact eq_of_branch_eq branches
  subst kind
  refine ⟨rfl, ?_⟩
  rw [List.map_append, List.map_append, List.append_cancel_left_eq] at same
  have name := FileName.ofText_injective (ascii_fileName firstWord output)
    (ascii_fileName secondWord output) (List.cons.inj same).1
  exact List.append_cancel_right name

theorem within_project (named : ∀ segment ∈ g.package.segments, Path.IsName segment)
    {className : Text} (word : className.IsWord) (here : Location) (project : Text)
    (output : Output) :
    Location.ofPath here project <+: Location.ofPath here (output.path g project className) := by
  rw [place named word]
  exact List.prefix_append _ _

/-- The directory of a test is what its path says before the last component. -/
theorem dirName_testPath (named : ∀ segment ∈ g.package.segments, Path.IsName segment)
    {className : Text} (word : className.IsWord) (project : Text) :
    Path.dirName (g.testPath project className) = directory g project .test := by
  have isJava : Path.IsName "java" := ⟨by decide, by decide, by decide, by decide⟩
  have shape := path_eq (g := g) project className .test
  rw [path] at shape
  obtain ⟨nonempty, ends⟩ := Path.ends_of_foldl_join named
    (Path.join_ne_nil isJava _) (Path.getLast?_join isJava _)
  rw [shape]
  exact Path.dirName_join (isName_fileName word .test) _ nonempty ends

end Output

/-! ## The project file -/

def projectFilePath (project : Text) : Text := Path.join project "pom.xml"

theorem isName_projectFile : Path.IsName "pom.xml" := ⟨by decide, by decide, by decide, by decide⟩

theorem place_projectFile (here : Location) (project : Text) :
    Location.ofPath here (projectFilePath project) =
      Location.ofPath here project ++ [FileName.ofText "pom.xml"] :=
  Location.ofPath_join isName_projectFile project

theorem place_projectFile_ne {g : Generator}
    (named : ∀ segment ∈ g.package.segments, Path.IsName segment) {className : Text}
    (word : className.IsWord) (here : Location) (project : Text) (output : Output) :
    Location.ofPath here (projectFilePath project) ≠
      Location.ofPath here (output.path g project className) := by
  rw [place_projectFile, Output.place named word]
  intro same
  have names := List.append_cancel_left same
  have heads := congrArg List.head? names
  rw [Output.head?_folders] at heads
  exact absurd heads (by decide)

end ClassSynth.Java
