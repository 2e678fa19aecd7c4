import Narrowing.Value.Key
/-!
# Errors as values

An error is a value with arguments. Errors of some classes also know what their arguments
mean: a failure of the system its number and the name of a file, a failure to decode the
bytes and where they are at fault, the end of an iteration the value that it ends with. A
failure of the system is an error of a class for its number, if there is one.
-/

namespace Narrowing

/-- **An error with what its class makes of the arguments.** -/
structure ErrorParts where
  name : String
  args : List Value
  attributes : List (String × Value)

namespace ErrorClass

/-- Whether a class of errors is another one or derived from it. -/
def isUnder (name base : String) : Bool := name = base || (inherited name).contains base

/-- The classes of failures of the system by their numbers. -/
def ofSystem : List (Int × String) :=
  [(11, "BlockingIOError"), (114, "BlockingIOError"), (115, "BlockingIOError"),
    (32, "BrokenPipeError"), (108, "BrokenPipeError"), (10, "ChildProcessError"),
    (103, "ConnectionAbortedError"), (111, "ConnectionRefusedError"),
    (104, "ConnectionResetError"), (17, "FileExistsError"), (2, "FileNotFoundError"),
    (21, "IsADirectoryError"), (20, "NotADirectoryError"), (4, "InterruptedError"),
    (13, "PermissionError"), (1, "PermissionError"), (3, "ProcessLookupError"),
    (110, "TimeoutError")]

/-- The attributes that the errors of a class always have, besides their arguments. -/
def slots (name : String) : List String :=
  if isUnder name "OSError" then ["errno", "strerror", "filename", "filename2"]
  else if isUnder name "StopIteration" then ["value"]
  else if isUnder name "SystemExit" then ["code"]
  else if isUnder name "ImportError" then ["msg", "name", "path"]
  else if isUnder name "NameError" then ["name"]
  else if isUnder name "AttributeError" then ["name", "obj"]
  else if isUnder name "SyntaxError" then
    ["msg", "filename", "lineno", "offset", "text", "end_lineno", "end_offset",
      "print_file_and_line"]
  else if isUnder name "UnicodeTranslateError" then ["object", "start", "end", "reason"]
  else if isUnder name "UnicodeDecodeError" || isUnder name "UnicodeEncodeError" then
    ["encoding", "object", "start", "end", "reason"]
  else if isUnder name "BaseExceptionGroup" then ["message", "exceptions"]
  else []

/-- What every error can be told about where it came from, with what it says untold. -/
def origins : List (String × Value) :=
  [("__cause__", .none), ("__context__", .none), ("__traceback__", .none),
    ("__suppress_context__", .bool false)]

end ErrorClass

namespace Store

/-- The class of errors that a value is an instance of. -/
def errorClass? (σ : Store) (v : Value) : Option String :=
  match σ.cell? (σ.content v) with
  | some (.exception name _ _) => some name
  | _ => none

/-- The class of errors that a class is or inherits from. -/
def errorBase? (σ : Store) (t : TypeObject) : Option String :=
  (σ.lineage t).findSome? fun
    | .other name => if ErrorClass.isClass name then some name else none
    | _ => none

end Store

namespace Run

/-- Some names with the values given for them; those left over have none. -/
def named (names : List String) (values : List Value) : List (String × Value) :=
  (names.zip (List.range names.length)).map fun (n, k) => (n, (values[k]?).getD .none)

/-- The class of the failure of a number. -/
def systemClass (name : String) (number : Value) : Run String := do
  if name ≠ "OSError" then return name
  match (← read).wholeNumber? number with
  | some i => return ((ErrorClass.ofSystem.find? fun (k, _) => i = k).map Prod.snd).getD name
  | none => return name

/-- A failure of the system: a number, a text, and up to two names of files. -/
def systemError (name : String) (args : List Value) : Run ErrorParts := do
  let names := ErrorClass.slots "OSError"
  match args with
  | number :: text :: rest =>
    if rest.length > 3 then return ⟨name, args, named names []⟩
    let isFile := rest.head?.any fun
      | .none => false
      | _ => true
    let file := (rest[0]?).getD .none
    let second := if isFile then (rest[2]?).getD .none else .none
    return ⟨← systemClass name number, if isFile then [number, text] else args,
      named names [number, text, file, second]⟩
  | args => return ⟨name, args, named names []⟩

/-- An error in a text of code: a message, and where it is. -/
def codeError (name : String) (args : List Value) : Run ErrorParts := do
  let names := ErrorClass.slots "SyntaxError"
  match args with
  | [message, place] => do
    let parts ← placeItems place
    if parts.length < 4 || parts.length > 6 || parts.length = 5 then throw .wrongType
    return ⟨name, args, named names (message :: parts)⟩
  | args => return ⟨name, args, named names args⟩
where
  /-- The items of a place, as far as they can be told. -/
  placeItems (v : Value) : Run (List Value) := do
    match (← read).sequence? v with
    | some (_, items) => return items
    | none => throw .wrongType

/-- A failure to encode, to decode or to translate: what is at fault, from where to where,
and why. -/
def codingError (name : String) (args : List Value) : Run ErrorParts := do
  let σ ← read
  let isText (v : Value) : Bool := (σ.text? v).isSome
  let isPlace (v : Value) : Bool := (plainIndex? σ v).isSome
  let isObject (v : Value) : Bool :=
    if name = "UnicodeDecodeError" then (σ.memory? v).isSome else isText v
  let fits :=
    match name, args with
    | "UnicodeTranslateError", [object, start, stop, reason] =>
      isObject object && isPlace start && isPlace stop && isText reason
    | "UnicodeTranslateError", _ => false
    | _, [encoding, object, start, stop, reason] =>
      isText encoding && isObject object && isPlace start && isPlace stop && isText reason
    | _, _ => false
  if fits then return ⟨name, args, named (ErrorClass.slots name) args⟩ else throw .wrongType

/-- Several errors in one: a message, and a sequence of errors that is not empty. -/
def groupError (name : String) (args : List Value) : Run ErrorParts := do
  let σ ← read
  match args with
  | [message, errors] => do
    if (σ.text? message).isNone then throw .wrongType
    match σ.sequence? errors with
    | none => throw .wrongType
    | some (_, items) => do
      let classes := items.map σ.errorClass?
      if items.isEmpty || classes.any Option.isNone then throw .badValue
      let isPlain := classes.all fun c => c.any fun n => ErrorClass.isUnder n "Exception"
      if !isPlain && name = "ExceptionGroup" then throw .wrongType
      let name := if isPlain && name = "BaseExceptionGroup" then "ExceptionGroup" else name
      return ⟨name, args, [("message", message), ("exceptions", .ofTuple items)]⟩
  | _ => throw .wrongType

/-- **The error of a class with some arguments.** -/
def errorParts (name : String) (args : List Value) : Run ErrorParts := do
  let isUnder (base : String) : Bool := ErrorClass.isUnder name base
  let sole : Value :=
    match args with
    | [v] => v
    | _ => .none
  if isUnder "OSError" then systemError name args
  else if isUnder "SyntaxError" then codeError name args
  else if ["UnicodeDecodeError", "UnicodeEncodeError", "UnicodeTranslateError"].any isUnder then
    codingError name args
  else if isUnder "BaseExceptionGroup" then groupError name args
  else if isUnder "StopIteration" then
    return ⟨name, args, [("value", (args[0]?).getD .none)]⟩
  else if isUnder "SystemExit" then
    let code : Value := if args.length > 1 then .ofTuple args else (args[0]?).getD .none
    return ⟨name, args, [("code", code)]⟩
  else if isUnder "ImportError" then
    return ⟨name, args, named (ErrorClass.slots "ImportError") [sole]⟩
  else return ⟨name, args, named (ErrorClass.slots name) []⟩

/-- **A new error** of a class. -/
def newError (name : String) (args : List Value) : Run Value := do
  let parts ← errorParts name args
  alloc (.exception parts.name parts.args parts.attributes)

/-! ## Raising -/

/-- **The failure that raising a value is**: an error, or a class of them. -/
def raised (v : Value) : Run Failure := do
  let σ ← read
  match v, σ.cell? v with
  | _, some (.unmatchedError v ds excerpt) => return .unmatched v ds excerpt
  | _, some (.exception name args _) =>
    return if name = "StopIteration" then .stopped ((args[0]?).getD .none)
      else .raised name (ErrorClass.inherited name) v
  | .cls (.other name), _ =>
    if name = "StopIteration" then return .stopped .none
    else if ErrorClass.isClass name then
      return .raised name (ErrorClass.inherited name) (← newError name [])
    else return .wrongType
  | .cls t, _ => return ofClass σ t v
  | v, some (.object t _ _) => return ofClass σ t v
  | _, _ => return .wrongType
where
  /-- The failure that an error of a class made by code is. -/
  ofClass (σ : Store) (t : TypeObject) (v : Value) : Failure :=
    let names := (σ.lineage t).filterMap fun
      | .other n => some n
      | _ => none
    if names.contains ErrorClass.root then .raised (σ.nameOf t) names v else .wrongType

/-! ## Plain texts -/

/-- The text of an attribute of an error, in a way to write values. -/
def attributeText (write : Value → Run String) (attributes : List (String × Value))
    (name : String) : Run String := write ((attributes.lookup name).getD .none)

/-- The text of a failure of the system. -/
def systemText (plain literal : Value → Run String) (attributes : List (String × Value)) :
    Run (Option String) := do
  let isGiven (name : String) : Bool :=
    match attributes.lookup name with
    | none | some .none => false
    | some _ => true
  let front : Run String := do
    return "[Errno " ++ (← attributeText plain attributes "errno") ++ "] " ++
      (← attributeText plain attributes "strerror")
  if isGiven "filename" then
    let text := (← front) ++ ": " ++ (← attributeText literal attributes "filename")
    if isGiven "filename2" then
      return some (text ++ " -> " ++ (← attributeText literal attributes "filename2"))
    else return some text
  else if (attributes.lookup "strerror").isSome && attributes.any (fun (n, v) => n = "strerror" &&
      match v with
      | .none => false
      | _ => true) then some <$> front
  else return none

/-- Where something is at fault, from one place to another. -/
def faultPlaces (attributes : List (String × Value)) : Run (Int × Int) := do
  let σ ← read
  let place (name : String) : Int := ((attributes.lookup name).bind (plainIndex? σ)).getD 0
  return (place "start", place "end")

/-- A number as an escape with two, four or eight digits. -/
def escapedNumber (n : Nat) : String :=
  let digits := Nat.toDigits 16 n
  let wide (mark : String) (width : Nat) : String :=
    mark ++ String.ofList (List.replicate (width - digits.length) '0' ++ digits)
  if n < 256 then wide "\\x" 2 else if n < 0x10000 then wide "\\u" 4 else wide "\\U" 8

/-- The text of a failure to encode, to decode or to translate. -/
def codingText (plain : Value → Run String) (name : String)
    (attributes : List (String × Value)) : Run String := do
  let σ ← read
  let (start, stop) ← faultPlaces attributes
  let reason ← attributeText plain attributes "reason"
  let object := (attributes.lookup "object").getD .none
  let codec ←
    if name = "UnicodeTranslateError" then pure "can't translate "
    else do
      let verb := if name = "UnicodeDecodeError" then "decode " else "encode "
      pure ("'" ++ (← attributeText plain attributes "encoding") ++ "' codec can't " ++ verb)
  let found : Option Nat :=
    if name = "UnicodeDecodeError" then (σ.memory? object).bind fun bs => bs[start.toNat]?
    else (σ.text? object).bind fun s => (s.toList[start.toNat]?).map Char.toNat
  match found with
  | some n =>
    if stop = start + 1 && 0 ≤ start then
      let what :=
        if name = "UnicodeDecodeError" then
          let digits := Nat.toDigits 16 n
          "byte 0x" ++ String.ofList (List.replicate (2 - digits.length) '0' ++ digits)
        else "character '" ++ escapedNumber n ++ "'"
      return codec ++ what ++ " in position " ++ toString start ++ ": " ++ reason
    else return codec ++ many name start stop reason
  | none => return codec ++ many name start stop reason
where
  /-- What is at fault in several places. -/
  many (name : String) (start stop : Int) (reason : String) : String :=
    (if name = "UnicodeDecodeError" then "bytes" else "characters") ++ " in position " ++
      toString start ++ "-" ++ toString (stop - 1) ++ ": " ++ reason

/-- The text of an error in a text of code. -/
def codeErrorText (plain : Value → Run String) (attributes : List (String × Value)) :
    Run String := do
  let σ ← read
  let message ← attributeText plain attributes "msg"
  let file := (attributes.lookup "filename").bind σ.text?
  let line :=
    match attributes.lookup "lineno" with
    | some (.int i _) => some i
    | _ => none
  let fileName (s : String) : String := ((s.splitOn "/").getLast?).getD s
  match file, line with
  | none, none => return message
  | some s, some i => return message ++ " (" ++ fileName s ++ ", line " ++ toString i ++ ")"
  | some s, none => return message ++ " (" ++ fileName s ++ ")"
  | none, some i => return message ++ " (line " ++ toString i ++ ")"

/-- **The plain text of an error**, where values are written in given ways. -/
def errorText (plain literal : Value → Run String) (name : String) (args : List Value)
    (attributes : List (String × Value)) : Run String := do
  let isUnder (base : String) : Bool := ErrorClass.isUnder name base
  let common : Run String := do
    match args with
    | [] => return ""
    | [v] => plain v
    | args => literal (.ofTuple args)
  if isUnder "KeyError" then
    match args with
    | [v] => literal v
    | _ => common
  else if isUnder "OSError" then
    match ← systemText plain literal attributes with
    | some text => return text
    | none => common
  else if isUnder "SyntaxError" then codeErrorText plain attributes
  else if ["UnicodeDecodeError", "UnicodeEncodeError", "UnicodeTranslateError"].any isUnder then
    codingText plain name attributes
  else if isUnder "BaseExceptionGroup" then
    match attributes.lookup "exceptions" with
    | some (.tuple items _) => do
      let message ← attributeText plain attributes "message"
      return message ++ " (" ++ toString items.length ++ " sub-exception" ++
        (if items.length = 1 then "" else "s") ++ ")"
    | _ => common
  else common

end Run

end Narrowing
