/-
# The templates of a suite

| identifier | file | renders |
| --- | --- | --- |
| `descriptor` | `pom.xml.j2` | the build file |
| `suite` | `testng.xml.j2` | the list of the test classes |
| `fixture` | `BaseTest.java.j2` | the class that all test classes extend |
| `model` | `Model.java.j2` | the class of a schema |
| `testClass` | `ApiTest.java.j2` | the test class of a resource |
-/

import SuiteForge.Template

namespace SuiteForge

namespace Bundled

open Template (lines plain var field)

/-- The build file of a project. -/
def descriptor : Template := [
  lines [
    "<?xml version=\"1.0\" encoding=\"UTF-8\"?>",
    "<project xmlns=\"http://maven.apache.org/POM/4.0.0\"",
    "         xmlns:xsi=\"http://www.w3.org/2001/XMLSchema-instance\"",
    "         xsi:schemaLocation=\"http://maven.apache.org/POM/4.0.0 http://maven.apache.org/xsd/maven-4.0.0.xsd\">",
    "    <modelVersion>4.0.0</modelVersion>",
    ""],
  plain "    <groupId>",
  var "group_id" [],
  lines ["</groupId>"],
  plain "    <artifactId>",
  var "artifact_id" [],
  lines [
    "</artifactId>",
    "    <version>1.0.0-SNAPSHOT</version>",
    "    <packaging>jar</packaging>",
    ""],
  plain "    <name>",
  var "project_name" [],
  lines ["</name>"],
  plain "    <description>API tests for ",
  var "api_title" [],
  plain " ",
  var "api_version" [],
  lines [
    "</description>",
    "",
    "    <properties>",
    "        <maven.compiler.source>17</maven.compiler.source>",
    "        <maven.compiler.target>17</maven.compiler.target>",
    "        <project.build.sourceEncoding>UTF-8</project.build.sourceEncoding>",
    "        <rest-assured.version>5.4.0</rest-assured.version>",
    "        <testng.version>7.10.2</testng.version>",
    "        <jackson.version>2.17.1</jackson.version>",
    "    </properties>",
    "",
    "    <dependencies>",
    "        <dependency>",
    "            <groupId>io.rest-assured</groupId>",
    "            <artifactId>rest-assured</artifactId>",
    "            <version>$\x7brest-assured.version\x7d</version>",
    "            <scope>test</scope>",
    "        </dependency>",
    "        <dependency>",
    "            <groupId>org.testng</groupId>",
    "            <artifactId>testng</artifactId>",
    "            <version>$\x7btestng.version\x7d</version>",
    "            <scope>test</scope>",
    "        </dependency>",
    "        <dependency>",
    "            <groupId>com.fasterxml.jackson.core</groupId>",
    "            <artifactId>jackson-databind</artifactId>",
    "            <version>$\x7bjackson.version\x7d</version>",
    "            <scope>test</scope>",
    "        </dependency>",
    "    </dependencies>",
    "",
    "    <build>",
    "        <plugins>",
    "            <plugin>",
    "                <groupId>org.apache.maven.plugins</groupId>",
    "                <artifactId>maven-surefire-plugin</artifactId>",
    "                <version>3.2.5</version>",
    "                <configuration>",
    "                    <suiteXmlFiles>",
    "                        <suiteXmlFile>testng.xml</suiteXmlFile>",
    "                    </suiteXmlFiles>",
    "                </configuration>",
    "            </plugin>",
    "        </plugins>",
    "    </build>",
    "</project>"]]

/-- The list of the test classes. -/
def suite : Template := [
  lines [
    "<?xml version=\"1.0\" encoding=\"UTF-8\"?>",
    "<!DOCTYPE suite SYSTEM \"https://testng.org/testng-1.0.dtd\">"],
  plain "<suite name=\"",
  var "suite_name" [],
  lines ["\" verbose=\"1\">"],
  plain "    <test name=\"",
  var "test_name" [],
  lines [
    "\">",
    "        <classes>"],
  .each "test_class" ⟨"test_classes", none⟩ [
    plain "            <class name=\"",
    var "test_class" [],
    lines ["\"/>"]],
  lines [
    "        </classes>",
    "    </test>",
    "</suite>"]]

/-- The class that all test classes extend. -/
def fixture : Template := [
  plain "package ",
  var "package_name" [],
  lines [
    ";",
    "",
    "import io.restassured.RestAssured;",
    "import io.restassured.builder.RequestSpecBuilder;",
    "import io.restassured.http.ContentType;",
    "import io.restassured.specification.RequestSpecification;",
    "import org.testng.annotations.BeforeClass;",
    "",
    "/**"],
  plain " * Shared setup for the ",
  var "api_title" [.javadoc],
  plain " (",
  var "api_version" [.javadoc],
  lines [
    ") API tests.",
    " *",
    " * The base URL can be overridden with -Dapi.baseUrl=...",
    " */",
    "public abstract class BaseTest \x7b",
    "",
    "    protected static final String BASE_URL ="],
  plain "            System.getProperty(\"api.baseUrl\", \"",
  var "base_url" [.javaString],
  lines [
    "\");",
    "",
    "    protected RequestSpecification requestSpec;",
    "",
    "    @BeforeClass",
    "    public void setUp() \x7b",
    "        RestAssured.enableLoggingOfRequestAndResponseIfValidationFails();",
    "        requestSpec = new RequestSpecBuilder()",
    "                .setBaseUri(BASE_URL)",
    "                .setAccept(ContentType.JSON)",
    "                .build();",
    "    \x7d",
    "\x7d"]]

/-- The class of an object schema. -/
def model : Template := [
  plain "package ",
  var "package_name" [],
  lines [
    ";",
    "",
    "import com.fasterxml.jackson.annotation.JsonIgnoreProperties;",
    "import com.fasterxml.jackson.annotation.JsonProperty;"],
  .cond ⟨"uses_list", none⟩ [
    lines ["import java.util.List;"]] [],
  lines [
    "",
    "/**"],
  .cond ⟨"description", none⟩ [
    plain " * ",
    var "description" [.javadoc],
    lines [""]] [
    plain " * Data model for the ",
    var "schema_name" [.javadoc],
    lines [" schema."]],
  lines [
    " */",
    "@JsonIgnoreProperties(ignoreUnknown = true)"],
  plain "public class ",
  var "class_name" [],
  lines [" \x7b"],
  .each "field" ⟨"fields", none⟩ [
    lines [""],
    .cond ⟨"field", some "description"⟩ [
      plain "    /** ",
      field "field" "description" [.javadoc],
      lines [" */"]] [],
    plain "    @JsonProperty(\"",
    field "field" "name" [.javaString],
    lines ["\")"],
    plain "    private ",
    field "field" "type" [],
    plain " ",
    field "field" "field_name" [],
    lines [";"]],
  lines [""],
  plain "    public ",
  var "class_name" [],
  lines [
    "() \x7b",
    "    \x7d"],
  .each "field" ⟨"fields", none⟩ [
    lines [""],
    plain "    public ",
    field "field" "type" [],
    plain " get",
    field "field" "capitalised" [],
    lines ["() \x7b"],
    plain "        return ",
    field "field" "field_name" [],
    lines [
      ";",
      "    \x7d",
      ""],
    plain "    public void set",
    field "field" "capitalised" [],
    plain "(",
    field "field" "type" [],
    plain " ",
    field "field" "field_name" [],
    lines [") \x7b"],
    plain "        this.",
    field "field" "field_name" [],
    plain " = ",
    field "field" "field_name" [],
    lines [
      ";",
      "    \x7d"]],
  lines ["\x7d"]]

/-- The test class of a resource. -/
def testClass : Template := [
  plain "package ",
  var "package_name" [],
  lines [
    ";",
    ""],
  plain "import ",
  var "base_package" [],
  lines [
    ".BaseTest;",
    "import io.restassured.http.ContentType;",
    "import org.testng.annotations.Test;",
    "",
    "import static io.restassured.RestAssured.given;",
    "",
    "/**"],
  plain " * Tests for the /",
  var "resource_name" [.javadoc],
  plain " resource of ",
  var "base_url" [.javadoc],
  lines [
    ".",
    " */"],
  plain "public class ",
  var "class_name" [],
  lines [" extends BaseTest \x7b"],
  .each "method" ⟨"methods", none⟩ [
    lines [
      "",
      "    /**"],
    plain "     * ",
    field "method" "http_method" [.upper],
    plain " ",
    field "method" "path" [.javadoc],
    .cond ⟨"method", some "summary"⟩ [
      plain " - ",
      field "method" "summary" [.javadoc]] [],
    lines [
      "",
      "     */",
      "    @Test"],
    plain "    public void ",
    field "method" "method_name" [],
    lines [
      "() \x7b",
      "        given()",
      "                .spec(requestSpec)"],
    .each "param" ⟨"method", some "path_params"⟩ [
      plain "                .pathParam(\"",
      field "param" "name" [.javaString],
      plain "\", ",
      field "param" "placeholder" [],
      lines [")"]],
    .each "param" ⟨"method", some "query_params"⟩ [
      plain "                .queryParam(\"",
      field "param" "name" [.javaString],
      plain "\", ",
      field "param" "placeholder" [],
      lines [")"]],
    .cond ⟨"method", some "has_body"⟩ [
      lines [
        "                .contentType(ContentType.JSON)",
        "                .body(\"\x7b\x7d\")"]] [],
    lines ["        .when()"],
    plain "                .",
    field "method" "http_method" [],
    plain "(\"",
    field "method" "path" [.javaString],
    lines [
      "\")",
      "        .then()"],
    plain "                .statusCode(",
    field "method" "expected_status" [],
    lines [
      ");",
      "    \x7d"]],
  lines ["\x7d"]]

end Bundled

/-- The templates of a suite. -/
inductive TemplateId where
  | descriptor
  | suite
  | fixture
  | model
  | testClass
  deriving DecidableEq

namespace TemplateId

/-- The name of a template's file. -/
def name : TemplateId → Text
  | descriptor => "pom.xml.j2"
  | suite => "testng.xml.j2"
  | fixture => "BaseTest.java.j2"
  | model => "Model.java.j2"
  | testClass => "ApiTest.java.j2"

def all : List TemplateId := [descriptor, suite, fixture, model, testClass]

def ofName? (t : Text) : Option TemplateId := all.find? (·.name == t)

theorem ofName?_name (i : TemplateId) : ofName? i.name = some i := by cases i <;> decide

def template : TemplateId → Template
  | descriptor => Bundled.descriptor
  | suite => Bundled.suite
  | fixture => Bundled.fixture
  | model => Bundled.model
  | testClass => Bundled.testClass

end TemplateId

end SuiteForge
