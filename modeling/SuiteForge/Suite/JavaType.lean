/-
# Java types

The type that a Java field or value has for each resolved type, and a literal of it
that stands in for a parameter's value.

| resolved type | Java | placeholder |
| --- | --- | --- |
| `string` | `String` | `"test-value"` |
| `integer`, `long` | `Integer`, `Long` | `1`, `1L` |
| `float`, `double` | `Float`, `Double` | `1.0f`, `1.0` |
| `boolean` | `Boolean` | `true` |
| `list`, `object` | `List<Object>`, `Object` | `null` |
-/

import SuiteForge.Contract.Types

namespace SuiteForge

namespace ResolvedType

/-- The Java type of a field. -/
def javaType : ResolvedType → Text
  | string => "String"
  | integer => "Integer"
  | long => "Long"
  | float => "Float"
  | double => "Double"
  | boolean => "Boolean"
  | list => "List<Object>"
  | object => "Object"

/-- A Java literal of the type. -/
def placeholder : ResolvedType → Text
  | string => "\"test-value\""
  | integer => "1"
  | long => "1L"
  | float => "1.0f"
  | double => "1.0"
  | boolean => "true"
  | list => "null"
  | object => "null"

/-- Only lists need the import of `java.util.List`. -/
theorem javaType_eq_javaType_list {r : ResolvedType} : r.javaType = list.javaType ↔ r = list := by
  cases r <;> decide

end ResolvedType

end SuiteForge
