/-
# The words of a contract

| enumeration | says |
| --- | --- |
| `Method` | which HTTP method an endpoint has |
| `Location` | where a parameter is sent |
| `Kind` | the structure of a schema |
| `ResolvedType` | what a schema or a parameter means; `object` also where nothing narrows it |
-/

import SuiteForge.Text

namespace SuiteForge

inductive Method where
  | get
  | post
  | put
  | patch
  | delete
  | head
  | options
  deriving DecidableEq

namespace Method

def name : Method → Text
  | get => "GET"
  | post => "POST"
  | put => "PUT"
  | patch => "PATCH"
  | delete => "DELETE"
  | head => "HEAD"
  | options => "OPTIONS"

/-- The name in lower case, as a document spells it. -/
def key : Method → Text
  | get => "get"
  | post => "post"
  | put => "put"
  | patch => "patch"
  | delete => "delete"
  | head => "head"
  | options => "options"

def all : List Method := [get, post, put, patch, delete, head, options]

def ofName? (t : Text) : Option Method := all.find? (·.name == t)

theorem ofName?_name (m : Method) : ofName? m.name = some m := by cases m <;> decide

/-- The methods whose request body has a meaning. -/
def hasBody (m : Method) : Bool := m == post || m == put || m == patch

end Method

inductive Location where
  | path
  | query
  | header
  | cookie
  deriving DecidableEq

namespace Location

def name : Location → Text
  | path => "path"
  | query => "query"
  | header => "header"
  | cookie => "cookie"

def all : List Location := [path, query, header, cookie]

def ofName? (t : Text) : Option Location := all.find? (·.name == t)

end Location

inductive Kind where
  | object
  | array
  | string
  | integer
  | number
  | boolean
  deriving DecidableEq

namespace Kind

def name : Kind → Text
  | object => "object"
  | array => "array"
  | string => "string"
  | integer => "integer"
  | number => "number"
  | boolean => "boolean"

def all : List Kind := [object, array, string, integer, number, boolean]

def ofName? (t : Text) : Option Kind := all.find? (·.name == t)

theorem ofName?_name (k : Kind) : ofName? k.name = some k := by cases k <;> decide

end Kind

inductive ResolvedType where
  | string
  | integer
  | long
  | float
  | double
  | boolean
  | list
  | object
  deriving DecidableEq

namespace ResolvedType

def name : ResolvedType → Text
  | string => "string"
  | integer => "integer"
  | long => "long"
  | float => "float"
  | double => "double"
  | boolean => "boolean"
  | list => "list"
  | object => "object"

def all : List ResolvedType := [string, integer, long, float, double, boolean, list, object]

def ofName? (t : Text) : Option ResolvedType := all.find? (·.name == t)

theorem ofName?_name (r : ResolvedType) : ofName? r.name = some r := by cases r <;> decide

end ResolvedType

end SuiteForge
