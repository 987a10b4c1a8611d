import ClassSynth.Java.Layout

/-!
# Round-trip tests

A JUnit class that reads the sample of a class, and checks that writing what was read gives the
sample again.
-/

set_option autoImplicit false

namespace ClassSynth.Java

/-- What varies in a round-trip test; without a package name there is no package line. -/
structure RoundTripTest where
  package : Option Text
  className : Text
  resourceName : Text

namespace RoundTripTest

def packageLines (t : RoundTripTest) : List Text :=
  match t.package with
  | none => []
  | some name => ["package " ++ name ++ ";", []]

def bodyLines (t : RoundTripTest) : List Text :=
  [ "import com.fasterxml.jackson.annotation.JsonAutoDetect;",
    "import com.fasterxml.jackson.annotation.PropertyAccessor;",
    "import com.fasterxml.jackson.databind.DeserializationFeature;",
    "import com.fasterxml.jackson.databind.JsonNode;",
    "import com.fasterxml.jackson.databind.ObjectMapper;",
    "import org.junit.jupiter.api.Test;",
    "",
    "import java.io.InputStream;",
    "",
    "import static org.junit.jupiter.api.Assertions.assertEquals;",
    "import static org.junit.jupiter.api.Assertions.assertNotNull;",
    "",
    "public class " ++ t.className ++ "Test \x7b",
    "",
    "    private final ObjectMapper mapper = new ObjectMapper()",
    "            .configure(DeserializationFeature.FAIL_ON_UNKNOWN_PROPERTIES, true)",
    "            .setVisibility(PropertyAccessor.ALL, JsonAutoDetect.Visibility.NONE)",
    "            .setVisibility(PropertyAccessor.FIELD, JsonAutoDetect.Visibility.ANY);",
    "",
    "    @Test",
    "    public void testRoundTripSample() throws Exception \x7b",
    "        JsonNode expected;",
    "        try (InputStream stream = getClass().getResourceAsStream(\"/" ++ t.resourceName ++
      "\")) \x7b",
    "            assertNotNull(stream, \"sample " ++ t.resourceName ++ " not found\");",
    "            expected = mapper.readTree(stream);",
    "        \x7d",
    "        " ++ t.className ++ " instance = mapper.treeToValue(expected, " ++ t.className ++
      ".class);",
    "        assertEquals(expected, mapper.valueToTree(instance));",
    "    \x7d",
    "\x7d" ]

def text (t : RoundTripTest) : Text := textOfLines (t.packageLines ++ t.bodyLines)

def ofClass (package : Package) (className resourceName : Text) : RoundTripTest :=
  ⟨if package.segments.isEmpty then none else some package.name, className, resourceName⟩

end RoundTripTest

end ClassSynth.Java
