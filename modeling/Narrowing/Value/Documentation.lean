/-!
# Documentation

What classes and operations of the language say of themselves.
-/

namespace Narrowing.Documentation

/-- **The documentation of classes** by name, in pieces. -/
def classes : List (String × List String) := [
  ("object", [
    "The base class of the class hierarchy.\n\n",
    "When called, it accepts no arguments and returns a new featureless\n",
    "instance that has no instance attributes and cannot be given any.\n"]),
  ("int", [
    "int([x]) -> integer\nint(x, base=10) -> integer\n\n",
    "Convert a number or string to an integer, or return 0 if no arguments\n",
    "are given.  If x is a number, return x.__int__().  For floating point\n",
    "numbers, this truncates towards zero.\n\n",
    "If x is not a number or if base is given, then x must be a string,\n",
    "bytes, or bytearray instance representing an integer literal in the\n",
    "given base.  The literal can be preceded by '+' or '-' and be surrounded\n",
    "by whitespace.  The base defaults to 10.  Valid bases are 0 and 2-36.\n",
    "Base 0 means to interpret the base from the string as an integer literal.\n",
    ">>> int('0b100', base=0)\n4"]),
  ("bool", [
    "bool(x) -> bool\n\nReturns True when the argument x is true, False otherwise.\n",
    "The builtins True and False are the only two instances of the class bool.\n",
    "The class bool is a subclass of the class int, and cannot be subclassed."]),
  ("float", ["Convert a string or number to a floating point number, if possible."]),
  ("complex", [
    "Create a complex number from a real part and an optional imaginary part.\n\n",
    "This is equivalent to (real + imag*1j) where imag defaults to 0."]),
  ("str", [
    "str(object='') -> str\nstr(bytes_or_buffer[, encoding[, errors]]) -> str\n\n",
    "Create a new string object from the given object. If encoding or\n",
    "errors is specified, then the object must expose a data buffer\n",
    "that will be decoded using the given encoding and error handler.\n",
    "Otherwise, returns the result of object.__str__() (if defined)\nor repr(object).\n",
    "encoding defaults to sys.getdefaultencoding().\nerrors defaults to 'strict'."]),
  ("bytes", [
    "bytes(iterable_of_ints) -> bytes\nbytes(string, encoding[, errors]) -> bytes\n",
    "bytes(bytes_or_buffer) -> immutable copy of bytes_or_buffer\n",
    "bytes(int) -> bytes object of size given by the parameter initialized with null",
    " bytes\nbytes() -> empty bytes object\n\nConstruct an immutable array of bytes from:\n",
    "  - an iterable yielding integers in range(256)\n",
    "  - a text string encoded using the specified encoding\n",
    "  - any object implementing the buffer API.\n  - an integer"]),
  ("bytearray", [
    "bytearray(iterable_of_ints) -> bytearray\n",
    "bytearray(string, encoding[, errors]) -> bytearray\n",
    "bytearray(bytes_or_buffer) -> mutable copy of bytes_or_buffer\n",
    "bytearray(int) -> bytes array of size given by the parameter initialized with null",
    " bytes\nbytearray() -> empty bytes array\n\n",
    "Construct a mutable bytearray object from:\n",
    "  - an iterable yielding integers in range(256)\n",
    "  - a text string encoded using the specified encoding\n",
    "  - a bytes or a buffer object\n  - any object implementing the buffer API.\n",
    "  - an integer"]),
  ("list", [
    "Built-in mutable sequence.\n\n",
    "If no argument is given, the constructor creates a new empty list.\n",
    "The argument must be an iterable if specified."]),
  ("tuple", [
    "Built-in immutable sequence.\n\n",
    "If no argument is given, the constructor returns an empty tuple.\n",
    "If iterable is specified the tuple is initialized from iterable's items.\n\n",
    "If the argument is a tuple, the return value is the same object."]),
  ("dict", [
    "dict() -> new empty dictionary\n",
    "dict(mapping) -> new dictionary initialized from a mapping object's\n",
    "    (key, value) pairs\ndict(iterable) -> new dictionary initialized as if via:\n",
    "    d = \x7b\x7d\n    for k, v in iterable:\n        d[k] = v\n",
    "dict(**kwargs) -> new dictionary initialized with the name=value pairs\n",
    "    in the keyword argument list.  For example:  dict(one=1, two=2)"]),
  ("set", [
    "set() -> new empty set object\nset(iterable) -> new set object\n\n",
    "Build an unordered collection of unique elements."]),
  ("frozenset", [
    "frozenset() -> empty frozenset object\nfrozenset(iterable) -> frozenset object\n\n",
    "Build an immutable unordered collection of unique elements."]),
  ("range", [
    "range(stop) -> range object\nrange(start, stop[, step]) -> range object\n\n",
    "Return an object that produces a sequence of integers from start (inclusive)\n",
    "to stop (exclusive) by step.  range(i, j) produces i, i+1, i+2, ..., j-1.\n",
    "start defaults to 0, and stop is omitted!  range(4) produces 0, 1, 2, 3.\n",
    "These are exactly the valid indices for a list of 4 elements.\n",
    "When step is given, it specifies the increment (or decrement)."]),
  ("slice", [
    "slice(stop)\nslice(start, stop[, step])\n\n",
    "Create a slice object.  This is used for extended slicing (e.g. a[0:10:2])."]),
  ("collections.deque", [
    "deque([iterable[, maxlen]]) --> deque object\n\n",
    "A list-like sequence optimized for data accesses near its endpoints."]),
  ("collections.UserList", ["A more or less complete user-defined wrapper around list objects."]),
  ("collections.OrderedDict", ["Dictionary that remembers insertion order"]),
  ("type", ["type(object) -> the object's type\ntype(name, bases, dict, **kwds) -> a new type"]),
  ("enumerate", [
    "Return an enumerate object.\n\n  iterable\n    an object supporting iteration\n\n",
    "The enumerate object yields pairs containing a count (from start, which\n",
    "defaults to zero) and a value yielded by the iterable argument.\n\n",
    "enumerate is useful for obtaining an indexed list:\n",
    "    (0, seq[0]), (1, seq[1]), (2, seq[2]), ..."]),
  ("zip", [
    "zip(*iterables, strict=False) --> Yield tuples until an input is exhausted.\n\n",
    "   >>> list(zip('abcdefg', range(3), range(4)))\n",
    "   [('a', 0, 0), ('b', 1, 1), ('c', 2, 2)]\n\n",
    "The zip object yields n-length tuples, where n is the number of iterables\n",
    "passed as positional arguments to zip().  The i-th element in every tuple\n",
    "comes from the i-th iterable argument to zip().  This continues until the\n",
    "shortest argument is exhausted.\n\n",
    "If strict is true and one of the arguments is exhausted before the others,\n",
    "raise a ValueError."]),
  ("map", [
    "map(func, *iterables) --> map object\n\n",
    "Make an iterator that computes the function using arguments from\n",
    "each of the iterables.  Stops when the shortest iterable is exhausted."]),
  ("filter", [
    "filter(function or None, iterable) --> filter object\n\n",
    "Return an iterator yielding those items of iterable for which function(item)\n",
    "is true. If function is None, return the items that are true."]),
  ("reversed", ["Return a reverse iterator over the values of the given sequence."]),
  ("property", [
    "Property attribute.\n\n  fget\n",
    "    function to be used for getting an attribute value\n  fset\n",
    "    function to be used for setting an attribute value\n  fdel\n",
    "    function to be used for del'ing an attribute\n  doc\n    docstring\n\n",
    "Typical use is to define a managed attribute x:\n\nclass C(object):\n",
    "    def getx(self): return self._x\n    def setx(self, value): self._x = value\n",
    "    def delx(self): del self._x\n",
    "    x = property(getx, setx, delx, \"I'm the 'x' property.\")\n\n",
    "Decorators make defining new properties or modifying existing ones easy:\n\n",
    "class C(object):\n    @property\n    def x(self):\n",
    "        \"I am the 'x' property.\"\n        return self._x\n    @x.setter\n",
    "    def x(self, value):\n        self._x = value\n    @x.deleter\n    def x(self):\n",
    "        del self._x"]),
  ("classmethod", [
    "classmethod(function) -> method\n\nConvert a function to be a class method.\n\n",
    "A class method receives the class as implicit first argument,\n",
    "just like an instance method receives the instance.\n",
    "To declare a class method, use this idiom:\n\n  class C:\n      @classmethod\n",
    "      def f(cls, arg1, arg2, argN):\n          ...\n\n",
    "It can be called either on the class (e.g. C.f()) or on an instance\n",
    "(e.g. C().f()).  The instance is ignored except for its class.\n",
    "If a class method is called for a derived class, the derived class\n",
    "object is passed as the implied first argument.\n\n",
    "Class methods are different than C++ or Java static methods.\n",
    "If you want those, see the staticmethod builtin."]),
  ("super", [
    "super() -> same as super(__class__, <first argument>)\n",
    "super(type) -> unbound super object\n",
    "super(type, obj) -> bound super object; requires isinstance(obj, type)\n",
    "super(type, type2) -> bound super object; requires issubclass(type2, type)\n",
    "Typical use to call a cooperative superclass method:\nclass C(B):\n",
    "    def meth(self, arg):\n        super().meth(arg)\n",
    "This works for class methods too:\nclass C(B):\n    @classmethod\n",
    "    def cmeth(cls, arg):\n        super().cmeth(arg)\n"]),
  ("method", ["Create a bound instance method object."]),
  ("ArithmeticError", ["Base class for arithmetic errors."]),
  ("AssertionError", ["Assertion failed."]),
  ("AttributeError", ["Attribute not found."]),
  ("BaseException", ["Common base class for all exceptions"]),
  ("BaseExceptionGroup", ["A combination of multiple unrelated exceptions."]),
  ("BlockingIOError", ["I/O operation would block."]),
  ("BrokenPipeError", ["Broken pipe."]),
  ("BufferError", ["Buffer error."]),
  ("BytesWarning", [
    "Base class for warnings about bytes and buffer related problems, mostly\n",
    "related to conversion from str or comparing to str."]),
  ("ChildProcessError", ["Child process error."]),
  ("ConnectionAbortedError", ["Connection aborted."]),
  ("ConnectionError", ["Connection error."]),
  ("ConnectionRefusedError", ["Connection refused."]),
  ("ConnectionResetError", ["Connection reset."]),
  ("DeprecationWarning", ["Base class for warnings about deprecated features."]),
  ("EOFError", ["Read beyond end of file."]),
  ("EncodingWarning", ["Base class for warnings about encodings."]),
  ("Exception", ["Common base class for all non-exit exceptions."]),
  ("FileExistsError", ["File already exists."]),
  ("FileNotFoundError", ["File not found."]),
  ("FloatingPointError", ["Floating point operation failed."]),
  ("FutureWarning", [
    "Base class for warnings about constructs that will change semantically\nin the future."]),
  ("GeneratorExit", ["Request that a generator exit."]),
  ("ImportError", ["Import can't find module, or can't find name in module."]),
  ("ImportWarning", ["Base class for warnings about probable mistakes in module imports"]),
  ("IndentationError", ["Improper indentation."]),
  ("IndexError", ["Sequence index out of range."]),
  ("InterruptedError", ["Interrupted by signal."]),
  ("IsADirectoryError", ["Operation doesn't work on directories."]),
  ("KeyError", ["Mapping key not found."]),
  ("KeyboardInterrupt", ["Program interrupted by user."]),
  ("LookupError", ["Base class for lookup errors."]),
  ("MemoryError", ["Out of memory."]),
  ("ModuleNotFoundError", ["Module not found."]),
  ("NameError", ["Name not found globally."]),
  ("NotADirectoryError", ["Operation only works on directories."]),
  ("NotImplementedError", ["Method or function hasn't been implemented yet."]),
  ("OSError", ["Base class for I/O related errors."]),
  ("OverflowError", ["Result too large to be represented."]),
  ("PendingDeprecationWarning", [
    "Base class for warnings about features which will be deprecated\nin the future."]),
  ("PermissionError", ["Not enough permissions."]),
  ("ProcessLookupError", ["Process not found."]),
  ("RecursionError", ["Recursion limit exceeded."]),
  ("ReferenceError", ["Weak ref proxy used after referent went away."]),
  ("ResourceWarning", ["Base class for warnings about resource usage."]),
  ("RuntimeError", ["Unspecified run-time error."]),
  ("RuntimeWarning", ["Base class for warnings about dubious runtime behavior."]),
  ("StopAsyncIteration", ["Signal the end from iterator.__anext__()."]),
  ("StopIteration", ["Signal the end from iterator.__next__()."]),
  ("SyntaxError", ["Invalid syntax."]),
  ("SyntaxWarning", ["Base class for warnings about dubious syntax."]),
  ("SystemExit", ["Request to exit from the interpreter."]),
  ("TabError", ["Improper mixture of spaces and tabs."]),
  ("TimeoutError", ["Timeout expired."]),
  ("TypeError", ["Inappropriate argument type."]),
  ("UnboundLocalError", ["Local name referenced but not bound to a value."]),
  ("UnicodeDecodeError", ["Unicode decoding error."]),
  ("UnicodeEncodeError", ["Unicode encoding error."]),
  ("UnicodeError", ["Unicode related error."]),
  ("UnicodeTranslateError", ["Unicode translation error."]),
  ("UnicodeWarning", [
    "Base class for warnings about Unicode related problems, mostly\n",
    "related to conversion problems."]),
  ("UserWarning", ["Base class for warnings generated by user code."]),
  ("ValueError", ["Inappropriate argument value (of correct type)."]),
  ("Warning", ["Base class for warning categories."]),
  ("ZeroDivisionError", ["Second argument to a division or modulo operation was zero."]),
  ("array.array", ["array(typecode [, initializer]) -> array"]),
  ("numpy.ndarray", [
    "ndarray(shape, dtype=float, buffer=None, offset=0,\n",
    "            strides=None, order=None)"])]

/-- **The documentation of operations** by name, in pieces. -/
def operations : List (String × List String) := [
  ("abs", ["Return the absolute value of the argument."]),
  ("all", [
    "Return True if bool(x) is True for all values x in the iterable.\n\n",
    "If the iterable is empty, return True."]),
  ("any", [
    "Return True if bool(x) is True for any x in the iterable.\n\n",
    "If the iterable is empty, return False."]),
  ("bin", [
    "Return the binary representation of an integer.\n\n   >>> bin(2796202)\n",
    "   '0b1010101010101010101010'"]),
  ("callable", [
    "Return whether the object is callable (i.e., some kind of function).\n\n",
    "Note that classes are callable, as are instances of classes with a\n__call__() method."]),
  ("chr", ["Return a Unicode string of one character with ordinal i; 0 <= i <= 0x10ffff."]),
  ("delattr", [
    "Deletes the named attribute from the given object.\n\n",
    "delattr(x, 'y') is equivalent to ``del x.y``"]),
  ("divmod", ["Return the tuple (x//y, x%y).  Invariant: div*y + mod == x."]),
  ("format", [
    "Return value.__format__(format_spec)\n\nformat_spec defaults to the empty string.\n",
    "See the Format Specification Mini-Language section of help('FORMATTING') for\ndetails."]),
  ("getattr", [
    "getattr(object, name[, default]) -> value\n\n",
    "Get a named attribute from an object; getattr(x, 'y') is equivalent to x.y.\n",
    "When a default argument is given, it is returned when the attribute doesn't\n",
    "exist; without it, an exception is raised in that case."]),
  ("hasattr", [
    "Return whether the object has an attribute with the given name.\n\n",
    "This is done by calling getattr(obj, name) and catching AttributeError."]),
  ("hash", [
    "Return the hash value for the given object.\n\n",
    "Two objects that compare equal must also have the same hash value, but the\n",
    "reverse is not necessarily true."]),
  ("hex", [
    "Return the hexadecimal representation of an integer.\n\n   >>> hex(12648430)\n",
    "   '0xc0ffee'"]),
  ("isinstance", [
    "Return whether an object is an instance of a class or of a subclass thereof.\n\n",
    "A tuple, as in ``isinstance(x, (A, B, ...))``, may be given as the target to\n",
    "check against. This is equivalent to ``isinstance(x, A) or isinstance(x, B)\n",
    "or ...`` etc."]),
  ("issubclass", [
    "Return whether 'cls' is derived from another class or is the same class.\n\n",
    "A tuple, as in ``issubclass(x, (A, B, ...))``, may be given as the target to\n",
    "check against. This is equivalent to ``issubclass(x, A) or issubclass(x, B)\nor ...``."]),
  ("iter", [
    "iter(iterable) -> iterator\niter(callable, sentinel) -> iterator\n\n",
    "Get an iterator from an object.  In the first form, the argument must\n",
    "supply its own iterator, or be a sequence.\n",
    "In the second form, the callable is called until it returns the sentinel."]),
  ("len", ["Return the number of items in a container."]),
  ("max", [
    "max(iterable, *[, default=obj, key=func]) -> value\n",
    "max(arg1, arg2, *args, *[, key=func]) -> value\n\n",
    "With a single iterable argument, return its biggest item. The\n",
    "default keyword-only argument specifies an object to return if\n",
    "the provided iterable is empty.\n",
    "With two or more arguments, return the largest argument."]),
  ("min", [
    "min(iterable, *[, default=obj, key=func]) -> value\n",
    "min(arg1, arg2, *args, *[, key=func]) -> value\n\n",
    "With a single iterable argument, return its smallest item. The\n",
    "default keyword-only argument specifies an object to return if\n",
    "the provided iterable is empty.\n",
    "With two or more arguments, return the smallest argument."]),
  ("next", [
    "next(iterator[, default])\n\n",
    "Return the next item from the iterator. If default is given and the iterator\n",
    "is exhausted, it is returned instead of raising StopIteration."]),
  ("oct", ["Return the octal representation of an integer.\n\n   >>> oct(342391)\n   '0o1234567'"]),
  ("ord", ["Return the Unicode code point for a one-character string."]),
  ("pow", [
    "Equivalent to base**exp with 2 arguments or base**exp % mod with 3 arguments\n\n",
    "Some types, such as ints, are able to use a more efficient algorithm when\n",
    "invoked using the three argument form."]),
  ("print", [
    "Prints the values to a stream, or to sys.stdout by default.\n\n  sep\n",
    "    string inserted between values, default a space.\n  end\n",
    "    string appended after the last value, default a newline.\n  file\n",
    "    a file-like object (stream); defaults to the current sys.stdout.\n  flush\n",
    "    whether to forcibly flush the stream."]),
  ("repr", [
    "Return the canonical string representation of the object.\n\n",
    "For many object types, including most builtins, eval(repr(obj)) == obj."]),
  ("round", [
    "Round a number to a given precision in decimal digits.\n\n",
    "The return value is an integer if ndigits is omitted or None.  Otherwise\n",
    "the return value has the same type as the number.  ndigits may be negative."]),
  ("setattr", [
    "Sets the named attribute on the given object to the specified value.\n\n",
    "setattr(x, 'y', v) is equivalent to ``x.y = v``"]),
  ("sorted", [
    "Return a new list containing all items from the iterable in ascending order.\n\n",
    "A custom key function can be supplied to customize the sort order, and the\n",
    "reverse flag can be set to request the result in descending order."]),
  ("sum", [
    "Return the sum of a 'start' value (default: 0) plus an iterable of numbers\n\n",
    "When the iterable is empty, return the start value.\n",
    "This function is intended specifically for use with numeric values and may\n",
    "reject non-numeric types."]),
  ("vars", [
    "vars([object]) -> dictionary\n\nWithout arguments, equivalent to locals().\n",
    "With an argument, equivalent to object.__dict__."])]

/-- The classes that say nothing of themselves. -/
def undocumented : List String :=
  ["NoneType", "ellipsis", "NotImplementedType", "generator", "coroutine", "list_iterator",
    "tuple_iterator", "str_iterator", "str_ascii_iterator", "bytes_iterator",
    "bytearray_iterator", "range_iterator", "longrange_iterator", "dict_keyiterator",
    "dict_valueiterator", "dict_itemiterator", "set_iterator", "_collections._deque_iterator",
    "array.arrayiterator", "list_reverseiterator", "iterator", "callable_iterator",
    "dict_keys", "dict_values", "dict_items"]

end Narrowing.Documentation
