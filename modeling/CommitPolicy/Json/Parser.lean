import CommitPolicy.Json.Token

namespace CommitPolicy.Json

/-- An unfinished array or object; what is already read comes latest first. -/
inductive Frame where
  | array (items : List Json)
  | object (fields : List (String × Json)) (key : String)

inductive ReadState where
  | value (stack : List Frame)
  | arrayStart (stack : List Frame)
  | objectStart (stack : List Frame)
  | key (fields : List (String × Json)) (stack : List Frame)
  | colon (fields : List (String × Json)) (key : String) (stack : List Frame)
  | ended (v : Json) (stack : List Frame)

/-- How many arrays and objects may be open at once. -/
def maxDepth : Nat := 127

def startValue? (stack : List Frame) : Token → Option ReadState
  | .null => some (.ended .null stack)
  | .bool b => some (.ended (.bool b) stack)
  | .number n => some (.ended (.number n) stack)
  | .string s => some (.ended (.string s) stack)
  | .openBracket => if stack.length < maxDepth then some (.arrayStart stack) else none
  | .openBrace => if stack.length < maxDepth then some (.objectStart stack) else none
  | _ => none

def ReadState.step? : ReadState → Token → Option ReadState
  | .value stack, t => startValue? stack t
  | .arrayStart stack, .closeBracket => some (.ended (.array []) stack)
  | .arrayStart stack, t => startValue? (.array [] :: stack) t
  | .objectStart stack, .closeBrace => some (.ended (.object []) stack)
  | .objectStart stack, .string k => some (.colon [] k stack)
  | .key fields stack, .string k => some (.colon fields k stack)
  | .colon fields k stack, .colon => some (.value (.object fields k :: stack))
  | .ended v (.array items :: stack), .comma => some (.value (.array (v :: items) :: stack))
  | .ended v (.array items :: stack), .closeBracket =>
    some (.ended (.array (v :: items).reverse) stack)
  | .ended v (.object fields k :: stack), .comma => some (.key ((k, v) :: fields) stack)
  | .ended v (.object fields k :: stack), .closeBrace =>
    some (.ended (.object ((k, v) :: fields).reverse) stack)
  | _, _ => none

def ReadState.result? : ReadState → Option Json
  | .ended v [] => some v
  | _ => none

def ofTokens? (tokens : List Token) : Option Json :=
  (tokens.foldlM ReadState.step? (.value [])).bind ReadState.result?

def parse? (text : String) : Option Json := (tokens? text.toList).bind ofTokens?

end CommitPolicy.Json
