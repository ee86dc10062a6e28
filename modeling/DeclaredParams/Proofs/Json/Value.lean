import DeclaredParams.Json.Token

/-!
# JSON values

`readValue` builds the value that a sequence of tokens writes. It takes one token after another and
keeps the brackets that are open, each with what has been read inside it (`Frame`); a `Position`
says in addition what may come next. A comma must be followed by another item, a name by a colon,
and behind the closing bracket of the outermost value nothing may follow. The members of an object
are found by their names, in whatever order they stand.
-/

set_option autoImplicit false
set_option relaxedAutoImplicit false

namespace DeclaredParams.Json

/-- A JSON value that holds no number. -/
inductive Value where
  /-- The absent value. -/
  | null
  /-- A truth value. -/
  | bool (value : Bool)
  /-- A string. -/
  | string (characters : Text)
  /-- Values in order. -/
  | array (items : List Value)
  /-- Values with their names, in order. -/
  | object (members : List (Text × Value))

namespace Value

/-- The member of an object with a given name, the first one of that name. -/
def member? (name : String) : Value → Option Value
  | .object members => members.lookup name.toList
  | _ => none

/-- The characters of a string. -/
def characters? : Value → Option Text
  | .string characters => some characters
  | _ => none

/-- The truth value that a value is. -/
def bool? : Value → Option Bool
  | .bool value => some value
  | _ => none

/-- The items of an array. -/
def items? : Value → Option (List Value)
  | .array items => some items
  | _ => none

end Value

/-- A bracket that is open and waits for a value, with what has been read inside it in reverse
order. -/
inductive Frame where
  /-- A list of values. -/
  | array (items : List Value)
  /-- A list of members and the name of the next one. -/
  | object (members : List (Text × Value)) (name : Text)

/-- The position between two tokens: what may come next, and the open brackets around it from the
inside out. -/
inductive Position where
  /-- A value. -/
  | beforeValue (frames : List Frame)
  /-- The first value of an array, or its end. -/
  | beforeFirstItem (frames : List Frame)
  /-- The first name in an object, or its end. -/
  | beforeFirstName (frames : List Frame)
  /-- A further name in an object. -/
  | beforeName (members : List (Text × Value)) (frames : List Frame)
  /-- The colon behind a name. -/
  | beforeColon (members : List (Text × Value)) (name : Text) (frames : List Frame)
  /-- A comma in an array, or its end. -/
  | afterItem (items : List Value) (frames : List Frame)
  /-- A comma in an object, or its end. -/
  | afterMember (members : List (Text × Value)) (frames : List Frame)
  /-- Nothing; the outermost value is complete. -/
  | complete (value : Value)

namespace Position

/-- The position after a complete value. -/
def afterValue (value : Value) : List Frame → Position
  | [] => .complete value
  | .array items :: frames => .afterItem (value :: items) frames
  | .object members name :: frames => .afterMember ((name, value) :: members) frames

/-- The position after the first token of a value. -/
def startValue (frames : List Frame) : Token → Option Position
  | .null => some (afterValue .null frames)
  | .bool value => some (afterValue (.bool value) frames)
  | .string characters => some (afterValue (.string characters) frames)
  | .opening .array => some (.beforeFirstItem frames)
  | .opening .object => some (.beforeFirstName frames)
  | _ => none

/-- The position after one more token, if it may come. -/
def step : Position → Token → Option Position
  | .beforeValue frames, token => startValue frames token
  | .beforeFirstItem frames, .closing .array => some (afterValue (.array []) frames)
  | .beforeFirstItem frames, token => startValue (.array [] :: frames) token
  | .beforeFirstName frames, .closing .object => some (afterValue (.object []) frames)
  | .beforeFirstName frames, .string name => some (.beforeColon [] name frames)
  | .beforeName members frames, .string name => some (.beforeColon members name frames)
  | .beforeColon members name frames, .colon => some (.beforeValue (.object members name :: frames))
  | .afterItem items frames, .comma => some (.beforeValue (.array items :: frames))
  | .afterItem items frames, .closing .array => some (afterValue (.array items.reverse) frames)
  | .afterMember members frames, .comma => some (.beforeName members frames)
  | .afterMember members frames, .closing .object =>
    some (afterValue (.object members.reverse) frames)
  | _, _ => none

end Position

/-- The value that a sequence of tokens writes. -/
def readValue (tokens : List Token) : Option Value :=
  match tokens.foldlM Position.step (.beforeValue []) with
  | some (.complete value) => some value
  | _ => none

end DeclaredParams.Json
