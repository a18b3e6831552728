import CommitPolicy.Json.Basic

namespace CommitPolicy.Schema

abbrev Keywords := List (String × Json)

def described (text : String) (rest : Keywords) : Keywords := ("description", .string text) :: rest

def ofType (name : String) : Keywords := [("type", .string name)]

def orNull (name : String) : Keywords := [("type", .strings [name, "null"])]

def wholeNumber (format : String) (type : Keywords) : Keywords :=
  type ++ [("format", .string format), ("minimum", .nat 0)]

def word : Keywords := wholeNumber "uint32" (ofType "integer")

def wordOrNull : Keywords := wholeNumber "uint32" (orNull "integer")

def listOf (items : Json) (type : Keywords) : Keywords := type ++ [("items", items)]

def text : Keywords := ofType "string"

def textOrNull : Keywords := orNull "string"

def reference (name : String) : Json := .object [("$ref", .string ("#/$defs/" ++ name))]

def record (properties : List (String × Json)) (required : List String) : Keywords :=
  ofType "object" ++ [("properties", .object properties)]
    ++ if required.isEmpty then [] else [("required", .strings required)]

def oneOf (names : List String) : Keywords := text ++ [("enum", .strings names)]

def document (title : String) (keywords : Keywords) (definitions : List (String × Json)) : Json :=
  .object <|
    [("$schema", .string "https://json-schema.org/draft/2020-12/schema"),
      ("title", .string title)]
    ++ keywords ++ [("$defs", .object definitions)]

end CommitPolicy.Schema
