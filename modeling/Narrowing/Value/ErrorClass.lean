/-!
# Classes of errors

The names of the errors of the language, each with the class that it is derived from.
The relation is a tree, so that what an error inherits from is the way up to its root.
-/

namespace Narrowing.ErrorClass

/-- **The classes of errors with their bases.** -/
def bases : List (String × String) :=
  [("GeneratorExit", "BaseException"), ("KeyboardInterrupt", "BaseException"),
    ("SystemExit", "BaseException"), ("BaseExceptionGroup", "BaseException"),
    ("Exception", "BaseException"), ("ArithmeticError", "Exception"),
    ("AssertionError", "Exception"), ("AttributeError", "Exception"), ("BufferError", "Exception"),
    ("EOFError", "Exception"), ("ImportError", "Exception"), ("LookupError", "Exception"),
    ("MemoryError", "Exception"), ("NameError", "Exception"), ("OSError", "Exception"),
    ("ReferenceError", "Exception"), ("RuntimeError", "Exception"),
    ("StopAsyncIteration", "Exception"), ("StopIteration", "Exception"),
    ("SyntaxError", "Exception"), ("SystemError", "Exception"), ("TypeError", "Exception"),
    ("ValueError", "Exception"), ("Warning", "Exception"),
    ("ExceptionGroup", "BaseExceptionGroup"),
    ("FloatingPointError", "ArithmeticError"), ("OverflowError", "ArithmeticError"),
    ("ZeroDivisionError", "ArithmeticError"), ("ModuleNotFoundError", "ImportError"),
    ("IndexError", "LookupError"), ("KeyError", "LookupError"),
    ("UnboundLocalError", "NameError"), ("BlockingIOError", "OSError"),
    ("ChildProcessError", "OSError"), ("ConnectionError", "OSError"),
    ("FileExistsError", "OSError"), ("FileNotFoundError", "OSError"),
    ("InterruptedError", "OSError"), ("IsADirectoryError", "OSError"),
    ("NotADirectoryError", "OSError"), ("PermissionError", "OSError"),
    ("ProcessLookupError", "OSError"), ("TimeoutError", "OSError"),
    ("BrokenPipeError", "ConnectionError"), ("ConnectionAbortedError", "ConnectionError"),
    ("ConnectionRefusedError", "ConnectionError"), ("ConnectionResetError", "ConnectionError"),
    ("NotImplementedError", "RuntimeError"), ("RecursionError", "RuntimeError"),
    ("IndentationError", "SyntaxError"), ("TabError", "IndentationError"),
    ("UnicodeError", "ValueError"), ("UnicodeDecodeError", "UnicodeError"),
    ("UnicodeEncodeError", "UnicodeError"), ("UnicodeTranslateError", "UnicodeError"),
    ("BytesWarning", "Warning"), ("DeprecationWarning", "Warning"),
    ("EncodingWarning", "Warning"), ("FutureWarning", "Warning"), ("ImportWarning", "Warning"),
    ("PendingDeprecationWarning", "Warning"), ("ResourceWarning", "Warning"),
    ("RuntimeWarning", "Warning"), ("SyntaxWarning", "Warning"), ("UnicodeWarning", "Warning"),
    ("UserWarning", "Warning")]

/-- The class that all others are derived from. -/
def root : String := "BaseException"

/-- Names under which a class of errors is known besides its own. -/
def otherNames : List (String × String) := [("IOError", "OSError"), ("EnvironmentError", "OSError")]

/-- Whether a name is that of a class of errors. -/
def isClass (name : String) : Bool := name = root || (bases.lookup name).isSome

/-- The way up from a class, at most so many steps. -/
def upFrom : Nat → String → List String
  | 0, _ => []
  | steps + 1, name =>
    match bases.lookup name with
    | some base => base :: upFrom steps base
    | none => []

/-- **What a class of errors inherits from**, nearest first. -/
def inherited (name : String) : List String := upFrom bases.length name

end Narrowing.ErrorClass
