import ClassSynth.Java.Layout

/-!
# Maven project files

The file that tells Maven how to build the generated classes and run their tests, with the versions
of the tools and libraries that it names.
-/

set_option autoImplicit false

namespace ClassSynth.Java

def jdkVersion : Text := "21"
def jacksonVersion : Text := "2.18.2"
def lombokVersion : Text := "1.18.36"
def junitVersion : Text := "5.11.4"
def surefirePluginVersion : Text := "3.5.2"
def compilerPluginVersion : Text := "3.13.0"

structure ProjectFile where
  groupId : Text
  artifactId : Text
  lombok : Bool
  jdk : Text
  jackson : Text
  lombokVersion : Text
  junit : Text
  compiler : Text
  surefire : Text

namespace ProjectFile

def headLines (f : ProjectFile) : List Text :=
  [ "<?xml version=\"1.0\" encoding=\"UTF-8\"?>",
    "<project xmlns=\"http://maven.apache.org/POM/4.0.0\"",
    "         xmlns:xsi=\"http://www.w3.org/2001/XMLSchema-instance\"",
    "         xsi:schemaLocation=\"http://maven.apache.org/POM/4.0.0 " ++
      "http://maven.apache.org/xsd/maven-4.0.0.xsd\">",
    "    <modelVersion>4.0.0</modelVersion>",
    "    <groupId>" ++ f.groupId ++ "</groupId>",
    "    <artifactId>" ++ f.artifactId ++ "</artifactId>",
    "    <version>1.0-SNAPSHOT</version>",
    "    <properties>",
    "        <maven.compiler.source>" ++ f.jdk ++ "</maven.compiler.source>",
    "        <maven.compiler.target>" ++ f.jdk ++ "</maven.compiler.target>",
    "        <project.build.sourceEncoding>UTF-8</project.build.sourceEncoding>",
    "    </properties>",
    "    <dependencies>",
    "        <dependency>",
    "            <groupId>com.fasterxml.jackson.core</groupId>",
    "            <artifactId>jackson-databind</artifactId>",
    "            <version>" ++ f.jackson ++ "</version>",
    "        </dependency>" ]

def lombokDependencyLines (f : ProjectFile) : List Text :=
  [ "        <dependency>",
    "            <groupId>org.projectlombok</groupId>",
    "            <artifactId>lombok</artifactId>",
    "            <version>" ++ f.lombokVersion ++ "</version>",
    "            <scope>provided</scope>",
    "        </dependency>" ]

def testDependencyLines (f : ProjectFile) : List Text :=
  [ "        <dependency>",
    "            <groupId>org.junit.jupiter</groupId>",
    "            <artifactId>junit-jupiter</artifactId>",
    "            <version>" ++ f.junit ++ "</version>",
    "            <scope>test</scope>",
    "        </dependency>",
    "    </dependencies>",
    "    <build>",
    "        <plugins>",
    "            <plugin>",
    "                <groupId>org.apache.maven.plugins</groupId>",
    "                <artifactId>maven-compiler-plugin</artifactId>",
    "                <version>" ++ f.compiler ++ "</version>" ]

def lombokProcessorLines (f : ProjectFile) : List Text :=
  [ "                <configuration>",
    "                    <annotationProcessorPaths>",
    "                        <path>",
    "                            <groupId>org.projectlombok</groupId>",
    "                            <artifactId>lombok</artifactId>",
    "                            <version>" ++ f.lombokVersion ++ "</version>",
    "                        </path>",
    "                    </annotationProcessorPaths>",
    "                </configuration>" ]

def tailLines (f : ProjectFile) : List Text :=
  [ "            </plugin>",
    "            <plugin>",
    "                <groupId>org.apache.maven.plugins</groupId>",
    "                <artifactId>maven-surefire-plugin</artifactId>",
    "                <version>" ++ f.surefire ++ "</version>",
    "            </plugin>",
    "        </plugins>",
    "    </build>",
    "</project>" ]

def text (f : ProjectFile) : Text :=
  textOfLines (f.headLines ++ (if f.lombok then f.lombokDependencyLines else []) ++
    f.testDependencyLines ++ (if f.lombok then f.lombokProcessorLines else []) ++ f.tailLines)

def nameSegments (package : Package) : List Text :=
  if package.segments.isEmpty then ["com", "example"] else package.segments

/-- The project file for a generator.  The last segment of the package names the artifact, those
before it the group; a single segment names both. -/
def ofGenerator (g : Generator) : ProjectFile :=
  let segments := nameSegments g.package
  let last := segments.getLastD []
  let before := segments.dropLast
  { groupId := if before.isEmpty then last else Text.join "." before
    artifactId := last
    lombok := g.lombok
    jdk := jdkVersion
    jackson := jacksonVersion
    lombokVersion := Java.lombokVersion
    junit := junitVersion
    compiler := compilerPluginVersion
    surefire := surefirePluginVersion }

end ProjectFile

end ClassSynth.Java
