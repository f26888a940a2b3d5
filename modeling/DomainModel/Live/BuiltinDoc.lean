import DomainModel.Live.BuiltinMember

/-!
# Documentation of built-in names

The documentation of built-in classes, and of what they bind.
-/

namespace DomainModel.Live.Builtin

/-- The documentation of the classes whose instances a module can reach. -/
def classDocs : List (String × String) :=
  [("object",
    ("The base class of the class hierarchy.\n\nWhen called, it accepts no arguments and "
      ++ "returns a new featureless\ninstance that has no instance attributes and cannot be "
      ++ "given any.\n")),
   ("type",
    "type(object) -> the object's type\ntype(name, bases, dict, **kwds) -> a new type"),
   ("ABCMeta",
    ("Metaclass for defining Abstract Base Classes (ABCs).\n\n        Use this metaclass to "
      ++ "create an ABC.  An ABC can be subclassed\n        directly, and then acts as a "
      ++ "mix-in class.  You can also register\n        unrelated concrete classes (even "
      ++ "built-in classes) and unrelated\n        ABCs as 'virtual subclasses' -- these and "
      ++ "their descendants will\n        be considered subclasses of the registering ABC by "
      ++ "the built-in\n        issubclass() function, but the registering ABC won't show up "
      ++ "in\n        their MRO (Method Resolution Order) nor will method\n        "
      ++ "implementations defined by the registering ABC be callable (not\n        even via "
      ++ "super()).\n        ")),
   ("ABC",
    "Helper class that provides a standard way to create an ABC using\n    inheritance.\n    "),
   ("Generic",
    ("Abstract base class for generic types.\n\n    A generic type is typically declared by "
      ++ "inheriting from\n    this class parameterized with one or more type "
      ++ "variables.\n    For example, a generic mapping type might be defined as::\n\n      "
      ++ "class Mapping(Generic[KT, VT]):\n          def __getitem__(self, key: KT) -> "
      ++ "VT:\n              ...\n          # Etc.\n\n    This class can then be used as "
      ++ "follows::\n\n      def lookup_name(mapping: Mapping[KT, VT], key: KT, default: VT) "
      ++ "-> VT:\n          try:\n              return mapping[key]\n          except "
      ++ "KeyError:\n              return default\n    ")),
   ("UUID",
    ("Instances of the UUID class represent UUIDs as specified in RFC 4122.\n    UUID objects "
      ++ "are immutable, hashable, and usable as dictionary keys.\n    Converting a UUID to "
      ++ "a string with str() yields something in the form\n    "
      ++ "'12345678-1234-1234-1234-123456789abc'.  The UUID constructor accepts\n    five "
      ++ "possible forms: a similar string of hexadecimal digits, or a tuple\n    of six "
      ++ "integer fields (with 32-bit, 16-bit, 16-bit, 8-bit, 8-bit, and\n    48-bit values "
      ++ "respectively) as an argument named 'fields', or a string\n    of 16 bytes (with "
      ++ "all the integer fields in big-endian order) as an\n    argument named 'bytes', or "
      ++ "a string of 16 bytes (with the first three\n    fields in little-endian order) as "
      ++ "an argument named 'bytes_le', or a\n    single 128-bit integer as an argument "
      ++ "named 'int'.\n\n    UUIDs have these read-only attributes:\n\n        bytes       "
      ++ "the UUID as a 16-byte string (containing the six\n                    integer "
      ++ "fields in big-endian byte order)\n\n        bytes_le    the UUID as a 16-byte "
      ++ "string (with time_low, time_mid,\n                    and time_hi_version in "
      ++ "little-endian byte order)\n\n        fields      a tuple of the six integer fields "
      ++ "of the UUID,\n                    which are also available as six individual "
      ++ "attributes\n                    and two derived attributes:\n\n            "
      ++ "time_low                the first 32 bits of the UUID\n            "
      ++ "time_mid                the next 16 bits of the UUID\n            "
      ++ "time_hi_version         the next 16 bits of the UUID\n            "
      ++ "clock_seq_hi_variant    the next 8 bits of the UUID\n            "
      ++ "clock_seq_low           the next 8 bits of the UUID\n            "
      ++ "node                    the last 48 bits of the UUID\n\n            "
      ++ "time                    the 60-bit timestamp\n            clock_seq               "
      ++ "the 14-bit sequence number\n\n        hex         the UUID as a 32-character "
      ++ "hexadecimal string\n\n        int         the UUID as a 128-bit integer\n\n        "
      ++ "urn         the UUID as a URN as specified in RFC 4122\n\n        variant     the "
      ++ "UUID variant (one of the constants RESERVED_NCS,\n                    RFC_4122, "
      ++ "RESERVED_MICROSOFT, or RESERVED_FUTURE)\n\n        version     the UUID version "
      ++ "number (1 through 5, meaningful only\n                    when the variant is "
      ++ "RFC_4122)\n\n        is_safe     An enum indicating whether the UUID has been "
      ++ "generated in\n                    a way that is safe for multiprocessing "
      ++ "applications, via\n                    uuid_generate_time_safe(3).\n    ")),
   ("int",
    ("int([x]) -> integer\nint(x, base=10) -> integer\n\nConvert a number or string to an "
      ++ "integer, or return 0 if no arguments\nare given.  If x is a number, return "
      ++ "x.__int__().  For floating point\nnumbers, this truncates towards zero.\n\nIf x is "
      ++ "not a number or if base is given, then x must be a string,\nbytes, or bytearray "
      ++ "instance representing an integer literal in the\ngiven base.  The literal can be "
      ++ "preceded by '+' or '-' and be surrounded\nby whitespace.  The base defaults to "
      ++ "10.  Valid bases are 0 and 2-36.\nBase 0 means to interpret the base from the "
      ++ "string as an integer literal.\n>>> int('0b100', base=0)\n4")),
   ("bool",
    ("bool(x) -> bool\n\nReturns True when the argument x is true, False otherwise.\nThe "
      ++ "builtins True and False are the only two instances of the class bool.\nThe class "
      ++ "bool is a subclass of the class int, and cannot be subclassed.")),
   ("str",
    ("str(object='') -> str\nstr(bytes_or_buffer[, encoding[, errors]]) -> str\n\nCreate a "
      ++ "new string object from the given object. If encoding or\nerrors is specified, then "
      ++ "the object must expose a data buffer\nthat will be decoded using the given "
      ++ "encoding and error handler.\nOtherwise, returns the result of object.__str__() (if "
      ++ "defined)\nor repr(object).\nencoding defaults to sys.getdefaultencoding().\nerrors "
      ++ "defaults to 'strict'.")),
   ("list",
    ("Built-in mutable sequence.\n\nIf no argument is given, the constructor creates a new "
      ++ "empty list.\nThe argument must be an iterable if specified.")),
   ("tuple",
    ("Built-in immutable sequence.\n\nIf no argument is given, the constructor returns an "
      ++ "empty tuple.\nIf iterable is specified the tuple is initialized from iterable's "
      ++ "items.\n\nIf the argument is a tuple, the return value is the same object.")),
   ("dict",
    ("dict() -> new empty dictionary\ndict(mapping) -> new dictionary initialized from a "
      ++ "mapping object's\n    (key, value) pairs\ndict(iterable) -> new dictionary "
      ++ "initialized as if via:\n    d = \x7b\x7d\n    for k, v in iterable:\n        d[k] "
      ++ "= v\ndict(**kwargs) -> new dictionary initialized with the name=value pairs\n    "
      ++ "in the keyword argument list.  For example:  dict(one=1, two=2)")),
   ("frozenset",
    ("frozenset() -> empty frozenset object\nfrozenset(iterable) -> frozenset object\n\nBuild "
      ++ "an immutable unordered collection of unique elements.")),
   ("bytes",
    ("bytes(iterable_of_ints) -> bytes\nbytes(string, encoding[, errors]) -> bytes\n"
      ++ "bytes(bytes_or_buffer) -> immutable copy of bytes_or_buffer\nbytes(int) -> bytes "
      ++ "object of size given by the parameter initialized with null bytes\nbytes() -> "
      ++ "empty bytes object\n\nConstruct an immutable array of bytes from:\n  - an iterable "
      ++ "yielding integers in range(256)\n  - a text string encoded using the specified "
      ++ "encoding\n  - any object implementing the buffer API.\n  - an integer")),
   ("property",
    ("Property attribute.\n\n  fget\n    function to be used for getting an attribute "
      ++ "value\n  fset\n    function to be used for setting an attribute value\n  fdel\n    "
      ++ "function to be used for del'ing an attribute\n  doc\n    docstring\n\nTypical use "
      ++ "is to define a managed attribute x:\n\nclass C(object):\n    def getx(self): "
      ++ "return self._x\n    def setx(self, value): self._x = value\n    def delx(self): "
      ++ "del self._x\n    x = property(getx, setx, delx, \"I'm the 'x' property.\")\n\n"
      ++ "Decorators make defining new properties or modifying existing ones easy:\n\nclass "
      ++ "C(object):\n    @property\n    def x(self):\n        \"I am the 'x' "
      ++ "property.\"\n        return self._x\n    @x.setter\n    def x(self, "
      ++ "value):\n        self._x = value\n    @x.deleter\n    def x(self):\n        del "
      ++ "self._x")),
   ("method",
    "Create a bound instance method object."),
   ("BaseException",
    "Common base class for all exceptions"),
   ("Exception",
    "Common base class for all non-exit exceptions."),
   ("ValueError",
    "Inappropriate argument value (of correct type)."),
   ("TypeError",
    "Inappropriate argument type."),
   ("NotImplementedError",
    "Method or function hasn't been implemented yet."),
   ("module",
    ("Create a module object.\n\nThe name must be a string; the optional doc argument can "
      ++ "have any type."))]

/-- The documentation of operators, which is the same in all classes. -/
def operatorDocs : List (String × String) :=
  [("__repr__", "Return repr(self)."),
   ("__hash__", "Return hash(self)."),
   ("__str__", "Return str(self)."),
   ("__getattribute__", "Return getattr(self, name)."),
   ("__setattr__", "Implement setattr(self, name, value)."),
   ("__delattr__", "Implement delattr(self, name)."),
   ("__lt__", "Return self<value."),
   ("__le__", "Return self<=value."),
   ("__eq__", "Return self==value."),
   ("__ne__", "Return self!=value."),
   ("__gt__", "Return self>value."),
   ("__ge__", "Return self>=value."),
   ("__init__", "Initialize self.  See help(type(self)) for accurate signature."),
   ("__call__", "Call self as a function."),
   ("__or__", "Return self|value."),
   ("__ror__", "Return value|self."),
   ("__add__", "Return self+value."),
   ("__radd__", "Return value+self."),
   ("__sub__", "Return self-value."),
   ("__rsub__", "Return value-self."),
   ("__mul__", "Return self*value."),
   ("__rmul__", "Return value*self."),
   ("__mod__", "Return self%value."),
   ("__rmod__", "Return value%self."),
   ("__divmod__", "Return divmod(self, value)."),
   ("__rdivmod__", "Return divmod(value, self)."),
   ("__pow__", "Return pow(self, value, mod)."),
   ("__rpow__", "Return pow(value, self, mod)."),
   ("__neg__", "-self"),
   ("__pos__", "+self"),
   ("__abs__", "abs(self)"),
   ("__bool__", "True if self else False"),
   ("__invert__", "~self"),
   ("__lshift__", "Return self<<value."),
   ("__rlshift__", "Return value<<self."),
   ("__rshift__", "Return self>>value."),
   ("__rrshift__", "Return value>>self."),
   ("__and__", "Return self&value."),
   ("__rand__", "Return value&self."),
   ("__xor__", "Return self^value."),
   ("__rxor__", "Return value^self."),
   ("__int__", "int(self)"),
   ("__float__", "float(self)"),
   ("__floordiv__", "Return self//value."),
   ("__rfloordiv__", "Return value//self."),
   ("__truediv__", "Return self/value."),
   ("__rtruediv__", "Return value/self."),
   ("__index__", ("Return self converted to an integer, if self is suitable for use as an index "
      ++ "into a list.")),
   ("__iter__", "Implement iter(self)."),
   ("__len__", "Return len(self)."),
   ("__getitem__", "Return self[key]."),
   ("__contains__", "Return key in self."),
   ("__setitem__", "Set self[key] to value."),
   ("__delitem__", "Delete self[key]."),
   ("__iadd__", "Implement self+=value."),
   ("__imul__", "Implement self*=value."),
   ("__ior__", "Return self|=value."),
   ("__get__", "Return an attribute of instance, which is of type owner."),
   ("__set__", "Set an attribute of instance to value."),
   ("__delete__", "Delete an attribute of instance.")]

def memberDocs : (cls : String) → List (String × String)
  | "object" =>
    [("__new__", "Create and return a new object.  See help(type) for accurate signature."),
     ("__reduce_ex__", "Helper for pickle."),
     ("__reduce__", "Helper for pickle."),
     ("__getstate__", "Helper for pickle."),
     ("__subclasshook__",
      ("Abstract classes can override this to customize issubclass().\n\nThis is invoked early "
        ++ "on by abc.ABCMeta.__subclasscheck__().\nIt should return True, False or "
        ++ "NotImplemented.  If it returns\nNotImplemented, the normal algorithm is used.  "
        ++ "Otherwise, it\noverrides the normal algorithm (and the outcome is cached).\n")),
     ("__init_subclass__",
      ("This method is called when a class is subclassed.\n\nThe default implementation does "
        ++ "nothing. It may be\noverridden to extend subclasses.\n")),
     ("__format__", "Default object formatter."),
     ("__sizeof__", "Size of object in memory, in bytes."),
     ("__dir__", "Default dir() implementation."),
     ("__class__", "the object's class")]
  | "type" =>
    [("__new__", "Create and return a new object.  See help(type) for accurate signature."),
     ("mro", "Return a type's method resolution order."),
     ("__subclasses__", "Return a list of immediate subclasses."),
     ("__prepare__",
      "__prepare__() -> dict\nused to create the namespace for the class statement"),
     ("__instancecheck__", "Check if an object is an instance."),
     ("__subclasscheck__", "Check if a class is a subclass."),
     ("__dir__", "Specialized __dir__ implementation for types."),
     ("__sizeof__", "Return memory consumption of the type object.")]
  | "BaseException" =>
    [("__new__", "Create and return a new object.  See help(type) for accurate signature."),
     ("with_traceback",
      "Exception.with_traceback(tb) --\n    set self.__traceback__ to tb and return self."),
     ("add_note", "Exception.add_note(note) --\n    add a note to the exception"),
     ("__context__", "exception context"),
     ("__cause__", "exception cause")]
  | "int" =>
    [("__new__", "Create and return a new object.  See help(type) for accurate signature."),
     ("conjugate", "Returns self, the complex conjugate of any int."),
     ("bit_length",
      ("Number of bits necessary to represent self in binary.\n\n>>> bin(37)\n'0b100101'\n>>> "
        ++ "(37).bit_length()\n6")),
     ("bit_count",
      ("Number of ones in the binary representation of the absolute value of self.\n\nAlso "
        ++ "known as the population count.\n\n>>> bin(13)\n'0b1101'\n>>> (13).bit_count()\n3")),
     ("to_bytes",
      ("Return an array of bytes representing an integer.\n\n  length\n    Length of bytes "
        ++ "object to use.  An OverflowError is raised if the\n    integer is not "
        ++ "representable with the given number of bytes.  Default\n    is length 1.\n  "
        ++ "byteorder\n    The byte order used to represent the integer.  If byteorder is "
        ++ "'big',\n    the most significant byte is at the beginning of the byte array.  "
        ++ "If\n    byteorder is 'little', the most significant byte is at the end of "
        ++ "the\n    byte array.  To request the native byte order of the host system, "
        ++ "use\n    `sys.byteorder' as the byte order value.  Default is to use 'big'.\n  "
        ++ "signed\n    Determines whether two's complement is used to represent the "
        ++ "integer.\n    If signed is False and a negative integer is given, an "
        ++ "OverflowError\n    is raised.")),
     ("from_bytes",
      ("Return the integer represented by the given array of bytes.\n\n  bytes\n    Holds the "
        ++ "array of bytes to convert.  The argument must either\n    support the buffer "
        ++ "protocol or be an iterable object producing bytes.\n    Bytes and bytearray are "
        ++ "examples of built-in objects that support the\n    buffer protocol.\n  "
        ++ "byteorder\n    The byte order used to represent the integer.  If byteorder is "
        ++ "'big',\n    the most significant byte is at the beginning of the byte array.  "
        ++ "If\n    byteorder is 'little', the most significant byte is at the end of "
        ++ "the\n    byte array.  To request the native byte order of the host system, "
        ++ "use\n    `sys.byteorder' as the byte order value.  Default is to use 'big'.\n  "
        ++ "signed\n    Indicates whether two's complement is used to represent the integer.")),
     ("as_integer_ratio",
      ("Return integer ratio.\n\nReturn a pair of integers, whose ratio is exactly equal to the "
        ++ "original int\nand with a positive denominator.\n\n>>> (10).as_integer_ratio()\n"
        ++ "(10, 1)\n>>> (-10).as_integer_ratio()\n(-10, 1)\n>>> (0).as_integer_ratio()\n(0, "
        ++ "1)")),
     ("__trunc__", "Truncating an Integral returns itself."),
     ("__floor__", "Flooring an Integral returns itself."),
     ("__ceil__", "Ceiling of an Integral returns itself."),
     ("__round__",
      ("Rounding an Integral returns itself.\n\nRounding with an ndigits argument also returns "
        ++ "an integer.")),
     ("__sizeof__", "Returns size in memory, in bytes."),
     ("real", "the real part of a complex number"),
     ("imag", "the imaginary part of a complex number"),
     ("numerator", "the numerator of a rational number in lowest terms"),
     ("denominator", "the denominator of a rational number in lowest terms")]
  | "bool" =>
    [("__new__", "Create and return a new object.  See help(type) for accurate signature.")]
  | "str" =>
    [("__new__", "Create and return a new object.  See help(type) for accurate signature."),
     ("encode",
      ("Encode the string using the codec registered for encoding.\n\n  encoding\n    The "
        ++ "encoding in which to encode the string.\n  errors\n    The error handling scheme "
        ++ "to use for encoding errors.\n    The default is 'strict' meaning that encoding "
        ++ "errors raise a\n    UnicodeEncodeError.  Other possible values are 'ignore', "
        ++ "'replace' and\n    'xmlcharrefreplace' as well as any other name registered "
        ++ "with\n    codecs.register_error that can handle UnicodeEncodeErrors.")),
     ("replace",
      ("Return a copy with all occurrences of substring old replaced by new.\n\n  count\n    "
        ++ "Maximum number of occurrences to replace.\n    -1 (the default value) means "
        ++ "replace all occurrences.\n\nIf the optional argument count is given, only the "
        ++ "first count occurrences are\nreplaced.")),
     ("split",
      ("Return a list of the substrings in the string, using sep as the separator string.\n\n  "
        ++ "sep\n    The separator used to split the string.\n\n    When set to None (the "
        ++ "default value), will split on any whitespace\n    character (including \\n \\r "
        ++ "\\t \\f and spaces) and will discard\n    empty strings from the result.\n  "
        ++ "maxsplit\n    Maximum number of splits.\n    -1 (the default value) means no "
        ++ "limit.\n\nSplitting starts at the front of the string and works to the end.\n\n"
        ++ "Note, str.split() is mainly useful for data that has been intentionally\n"
        ++ "delimited.  With natural text that includes punctuation, consider using\nthe "
        ++ "regular expression module.")),
     ("rsplit",
      ("Return a list of the substrings in the string, using sep as the separator string.\n\n  "
        ++ "sep\n    The separator used to split the string.\n\n    When set to None (the "
        ++ "default value), will split on any whitespace\n    character (including \\n \\r "
        ++ "\\t \\f and spaces) and will discard\n    empty strings from the result.\n  "
        ++ "maxsplit\n    Maximum number of splits.\n    -1 (the default value) means no "
        ++ "limit.\n\nSplitting starts at the end of the string and works to the front.")),
     ("join",
      ("Concatenate any number of strings.\n\nThe string whose method is called is inserted in "
        ++ "between each given string.\nThe result is returned as a new string.\n\nExample: "
        ++ "'.'.join(['ab', 'pq', 'rs']) -> 'ab.pq.rs'")),
     ("capitalize",
      ("Return a capitalized version of the string.\n\nMore specifically, make the first "
        ++ "character have upper case and the rest lower\ncase.")),
     ("casefold", "Return a version of the string suitable for caseless comparisons."),
     ("title",
      ("Return a version of the string where each word is titlecased.\n\nMore specifically, "
        ++ "words start with uppercased characters and all remaining\ncased characters have "
        ++ "lower case.")),
     ("center",
      ("Return a centered string of length width.\n\nPadding is done using the specified fill "
        ++ "character (default is a space).")),
     ("count",
      ("S.count(sub[, start[, end]]) -> int\n\nReturn the number of non-overlapping occurrences "
        ++ "of substring sub in\nstring S[start:end].  Optional arguments start and end are\n"
        ++ "interpreted as in slice notation.")),
     ("expandtabs",
      ("Return a copy where all tab characters are expanded using spaces.\n\nIf tabsize is not "
        ++ "given, a tab size of 8 characters is assumed.")),
     ("find",
      ("S.find(sub[, start[, end]]) -> int\n\nReturn the lowest index in S where substring sub "
        ++ "is found,\nsuch that sub is contained within S[start:end].  Optional\narguments "
        ++ "start and end are interpreted as in slice notation.\n\nReturn -1 on failure.")),
     ("partition",
      ("Partition the string into three parts using the given separator.\n\nThis will search "
        ++ "for the separator in the string.  If the separator is found,\nreturns a 3-tuple "
        ++ "containing the part before the separator, the separator\nitself, and the part "
        ++ "after it.\n\nIf the separator is not found, returns a 3-tuple containing the "
        ++ "original string\nand two empty strings.")),
     ("index",
      ("S.index(sub[, start[, end]]) -> int\n\nReturn the lowest index in S where substring sub "
        ++ "is found,\nsuch that sub is contained within S[start:end].  Optional\narguments "
        ++ "start and end are interpreted as in slice notation.\n\nRaises ValueError when "
        ++ "the substring is not found.")),
     ("ljust",
      ("Return a left-justified string of length width.\n\nPadding is done using the specified "
        ++ "fill character (default is a space).")),
     ("lower", "Return a copy of the string converted to lowercase."),
     ("lstrip",
      ("Return a copy of the string with leading whitespace removed.\n\nIf chars is given and "
        ++ "not None, remove characters in chars instead.")),
     ("rfind",
      ("S.rfind(sub[, start[, end]]) -> int\n\nReturn the highest index in S where substring "
        ++ "sub is found,\nsuch that sub is contained within S[start:end].  Optional\n"
        ++ "arguments start and end are interpreted as in slice notation.\n\nReturn -1 on "
        ++ "failure.")),
     ("rindex",
      ("S.rindex(sub[, start[, end]]) -> int\n\nReturn the highest index in S where substring "
        ++ "sub is found,\nsuch that sub is contained within S[start:end].  Optional\n"
        ++ "arguments start and end are interpreted as in slice notation.\n\nRaises "
        ++ "ValueError when the substring is not found.")),
     ("rjust",
      ("Return a right-justified string of length width.\n\nPadding is done using the specified "
        ++ "fill character (default is a space).")),
     ("rstrip",
      ("Return a copy of the string with trailing whitespace removed.\n\nIf chars is given and "
        ++ "not None, remove characters in chars instead.")),
     ("rpartition",
      ("Partition the string into three parts using the given separator.\n\nThis will search "
        ++ "for the separator in the string, starting at the end. If\nthe separator is "
        ++ "found, returns a 3-tuple containing the part before the\nseparator, the "
        ++ "separator itself, and the part after it.\n\nIf the separator is not found, "
        ++ "returns a 3-tuple containing two empty strings\nand the original string.")),
     ("splitlines",
      ("Return a list of the lines in the string, breaking at line boundaries.\n\nLine breaks "
        ++ "are not included in the resulting list unless keepends is given and\ntrue.")),
     ("strip",
      ("Return a copy of the string with leading and trailing whitespace removed.\n\nIf chars "
        ++ "is given and not None, remove characters in chars instead.")),
     ("swapcase",
      "Convert uppercase characters to lowercase and lowercase characters to uppercase."),
     ("translate",
      ("Replace each character in the string using the given translation table.\n\n  table\n    "
        ++ "Translation table, which must be a mapping of Unicode ordinals to\n    Unicode "
        ++ "ordinals, strings, or None.\n\nThe table must implement lookup/indexing via "
        ++ "__getitem__, for instance a\ndictionary or list.  If this operation raises "
        ++ "LookupError, the character is\nleft untouched.  Characters mapped to None are "
        ++ "deleted.")),
     ("upper", "Return a copy of the string converted to uppercase."),
     ("startswith",
      ("S.startswith(prefix[, start[, end]]) -> bool\n\nReturn True if S starts with the "
        ++ "specified prefix, False otherwise.\nWith optional start, test S beginning at "
        ++ "that position.\nWith optional end, stop comparing S at that position.\nprefix "
        ++ "can also be a tuple of strings to try.")),
     ("endswith",
      ("S.endswith(suffix[, start[, end]]) -> bool\n\nReturn True if S ends with the specified "
        ++ "suffix, False otherwise.\nWith optional start, test S beginning at that "
        ++ "position.\nWith optional end, stop comparing S at that position.\nsuffix can "
        ++ "also be a tuple of strings to try.")),
     ("removeprefix",
      ("Return a str with the given prefix string removed if present.\n\nIf the string starts "
        ++ "with the prefix string, return string[len(prefix):].\nOtherwise, return a copy "
        ++ "of the original string.")),
     ("removesuffix",
      ("Return a str with the given suffix string removed if present.\n\nIf the string ends "
        ++ "with the suffix string and that suffix is not empty,\nreturn "
        ++ "string[:-len(suffix)]. Otherwise, return a copy of the original\nstring.")),
     ("isascii",
      ("Return True if all characters in the string are ASCII, False otherwise.\n\nASCII "
        ++ "characters have code points in the range U+0000-U+007F.\nEmpty string is ASCII "
        ++ "too.")),
     ("islower",
      ("Return True if the string is a lowercase string, False otherwise.\n\nA string is "
        ++ "lowercase if all cased characters in the string are lowercase and\nthere is at "
        ++ "least one cased character in the string.")),
     ("isupper",
      ("Return True if the string is an uppercase string, False otherwise.\n\nA string is "
        ++ "uppercase if all cased characters in the string are uppercase and\nthere is at "
        ++ "least one cased character in the string.")),
     ("istitle",
      ("Return True if the string is a title-cased string, False otherwise.\n\nIn a title-cased "
        ++ "string, upper- and title-case characters may only\nfollow uncased characters and "
        ++ "lowercase characters only cased ones.")),
     ("isspace",
      ("Return True if the string is a whitespace string, False otherwise.\n\nA string is "
        ++ "whitespace if all characters in the string are whitespace and there\nis at least "
        ++ "one character in the string.")),
     ("isdecimal",
      ("Return True if the string is a decimal string, False otherwise.\n\nA string is a "
        ++ "decimal string if all characters in the string are decimal and\nthere is at "
        ++ "least one character in the string.")),
     ("isdigit",
      ("Return True if the string is a digit string, False otherwise.\n\nA string is a digit "
        ++ "string if all characters in the string are digits and there\nis at least one "
        ++ "character in the string.")),
     ("isnumeric",
      ("Return True if the string is a numeric string, False otherwise.\n\nA string is numeric "
        ++ "if all characters in the string are numeric and there is at\nleast one character "
        ++ "in the string.")),
     ("isalpha",
      ("Return True if the string is an alphabetic string, False otherwise.\n\nA string is "
        ++ "alphabetic if all characters in the string are alphabetic and there\nis at least "
        ++ "one character in the string.")),
     ("isalnum",
      ("Return True if the string is an alpha-numeric string, False otherwise.\n\nA string is "
        ++ "alpha-numeric if all characters in the string are alpha-numeric and\nthere is at "
        ++ "least one character in the string.")),
     ("isidentifier",
      ("Return True if the string is a valid Python identifier, False otherwise.\n\nCall "
        ++ "keyword.iskeyword(s) to test whether string s is a reserved identifier,\nsuch as "
        ++ "\"def\" or \"class\".")),
     ("isprintable",
      ("Return True if the string is printable, False otherwise.\n\nA string is printable if "
        ++ "all of its characters are considered printable in\nrepr() or if it is empty.")),
     ("zfill",
      ("Pad a numeric string with zeros on the left, to fill a field of the given width.\n\nThe "
        ++ "string is never truncated.")),
     ("format",
      ("S.format(*args, **kwargs) -> str\n\nReturn a formatted version of S, using "
        ++ "substitutions from args and kwargs.\nThe substitutions are identified by braces "
        ++ "('\x7b' and '\x7d').")),
     ("format_map",
      ("S.format_map(mapping) -> str\n\nReturn a formatted version of S, using substitutions "
        ++ "from mapping.\nThe substitutions are identified by braces ('\x7b' and '\x7d').")),
     ("__format__", "Return a formatted version of the string as described by format_spec."),
     ("maketrans",
      ("staticmethod(function) -> method\n\nConvert a function to be a static method.\n\nA "
        ++ "static method does not receive an implicit first argument.\nTo declare a static "
        ++ "method, use this idiom:\n\n     class C:\n         @staticmethod\n         def "
        ++ "f(arg1, arg2, argN):\n             ...\n\nIt can be called either on the class "
        ++ "(e.g. C.f()) or on an instance\n(e.g. C().f()). Both the class and the instance "
        ++ "are ignored, and\nneither is passed implicitly as the first argument to the "
        ++ "method.\n\nStatic methods in Python are similar to those found in Java or C++.\n"
        ++ "For a more advanced concept, see the classmethod builtin.")),
     ("__sizeof__", "Return the size of the string in memory, in bytes.")]
  | "list" =>
    [("__new__", "Create and return a new object.  See help(type) for accurate signature."),
     ("__getitem__", "x.__getitem__(y) <==> x[y]"),
     ("__reversed__", "Return a reverse iterator over the list."),
     ("__sizeof__", "Return the size of the list in memory, in bytes."),
     ("clear", "Remove all items from list."),
     ("copy", "Return a shallow copy of the list."),
     ("append", "Append object to the end of the list."),
     ("insert", "Insert object before index."),
     ("extend", "Extend list by appending elements from the iterable."),
     ("pop",
      ("Remove and return item at index (default last).\n\nRaises IndexError if list is empty "
        ++ "or index is out of range.")),
     ("remove",
      "Remove first occurrence of value.\n\nRaises ValueError if the value is not present."),
     ("index", "Return first index of value.\n\nRaises ValueError if the value is not present."),
     ("count", "Return number of occurrences of value."),
     ("reverse", "Reverse *IN PLACE*."),
     ("sort",
      ("Sort the list in ascending order and return None.\n\nThe sort is in-place (i.e. the "
        ++ "list itself is modified) and stable (i.e. the\norder of two equal elements is "
        ++ "maintained).\n\nIf a key function is given, apply it once to each list item and "
        ++ "sort them,\nascending or descending, according to their function values.\n\nThe "
        ++ "reverse flag can be set to sort in descending order.")),
     ("__class_getitem__", "See PEP 585")]
  | "tuple" =>
    [("__new__", "Create and return a new object.  See help(type) for accurate signature."),
     ("index", "Return first index of value.\n\nRaises ValueError if the value is not present."),
     ("count", "Return number of occurrences of value."),
     ("__class_getitem__", "See PEP 585")]
  | "dict" =>
    [("__new__", "Create and return a new object.  See help(type) for accurate signature."),
     ("__getitem__", "x.__getitem__(y) <==> x[y]"),
     ("__contains__", "True if the dictionary has the specified key, else False."),
     ("__sizeof__", "D.__sizeof__() -> size of D in memory, in bytes"),
     ("get", "Return the value for key if key is in the dictionary, else default."),
     ("setdefault",
      ("Insert key with a value of default if key is not in the dictionary.\n\nReturn the value "
        ++ "for key if key is in the dictionary, else default.")),
     ("pop",
      ("D.pop(k[,d]) -> v, remove specified key and return the corresponding value.\n\nIf the "
        ++ "key is not found, return the default if given; otherwise,\nraise a KeyError.")),
     ("popitem",
      ("Remove and return a (key, value) pair as a 2-tuple.\n\nPairs are returned in LIFO "
        ++ "(last-in, first-out) order.\nRaises KeyError if the dict is empty.")),
     ("keys", "D.keys() -> a set-like object providing a view on D's keys"),
     ("items", "D.items() -> a set-like object providing a view on D's items"),
     ("values", "D.values() -> an object providing a view on D's values"),
     ("update",
      ("D.update([E, ]**F) -> None.  Update D from dict/iterable E and F.\nIf E is present and "
        ++ "has a .keys() method, then does:  for k in E: D[k] = E[k]\nIf E is present and "
        ++ "lacks a .keys() method, then does:  for k, v in E: D[k] = v\nIn either case, "
        ++ "this is followed by: for k in F:  D[k] = F[k]")),
     ("fromkeys", "Create a new dictionary with keys from iterable and values set to value."),
     ("clear", "D.clear() -> None.  Remove all items from D."),
     ("copy", "D.copy() -> a shallow copy of D"),
     ("__reversed__", "Return a reverse iterator over the dict keys."),
     ("__class_getitem__", "See PEP 585")]
  | "frozenset" =>
    [("__new__", "Create and return a new object.  See help(type) for accurate signature."),
     ("__contains__", "x.__contains__(y) <==> y in x."),
     ("copy", "Return a shallow copy of a set."),
     ("difference",
      ("Return the difference of two or more sets as a new set.\n\n(i.e. all elements that are "
        ++ "in this set but not the others.)")),
     ("intersection",
      ("Return the intersection of two sets as a new set.\n\n(i.e. all elements that are in "
        ++ "both sets.)")),
     ("isdisjoint", "Return True if two sets have a null intersection."),
     ("issubset", "Test whether every element in the set is in other."),
     ("issuperset", "Test whether every element in other is in the set."),
     ("__reduce__", "Return state information for pickling."),
     ("__sizeof__", "S.__sizeof__() -> size of S in memory, in bytes"),
     ("symmetric_difference",
      ("Return the symmetric difference of two sets as a new set.\n\n(i.e. all elements that "
        ++ "are in exactly one of the sets.)")),
     ("union",
      "Return the union of sets as a new set.\n\n(i.e. all elements that are in either set.)"),
     ("__class_getitem__", "See PEP 585")]
  | "property" =>
    [("__new__", "Create and return a new object.  See help(type) for accurate signature."),
     ("getter", "Descriptor to obtain a copy of the property with a different getter."),
     ("setter", "Descriptor to obtain a copy of the property with a different setter."),
     ("deleter", "Descriptor to obtain a copy of the property with a different deleter."),
     ("__set_name__", "Method to set name of a property.")]
  | "method" =>
    [("__new__", "Create and return a new object.  See help(type) for accurate signature."),
     ("__func__", "the function (or other callable) implementing a method"),
     ("__self__", "the instance to which a method is bound")]
  | "instance" =>
    [("__dict__", "dictionary for instance variables"),
     ("__weakref__", "list of weak references to the object")]
  | _ => []

def doc? (cls : String) : Option String := classDocs.lookup cls

def memberDoc? (cls name : String) : Option String :=
  match memberKind? cls name with
  | some .operator => operatorDocs.lookup name
  | _ => (memberDocs cls).lookup name

/-! ## Parameters -/

def operatorSignature (name : String) : String :=
  if name ∈ ["__repr__", "__hash__", "__str__", "__iter__", "__len__", "__neg__", "__pos__",
      "__abs__", "__bool__", "__invert__", "__int__", "__float__", "__index__"] then "($self, /)"
  else if name ∈ ["__getattribute__", "__delattr__"] then "($self, name, /)"
  else if name ∈ ["__getitem__", "__contains__", "__delitem__"] then "($self, key, /)"
  else if name ∈ ["__call__", "__init__"] then "($self, /, *args, **kwargs)"
  else if name ∈ ["__pow__", "__rpow__"] then "($self, value, mod=None, /)"
  else
    match name with
    | "__setattr__" => "($self, name, value, /)"
    | "__setitem__" => "($self, key, value, /)"
    | "__get__" => "($self, instance, owner=None, /)"
    | "__set__" => "($self, instance, value, /)"
    | "__delete__" => "($self, instance, /)"
    | _ => "($self, value, /)"

/-- How the parameters are written of what a built-in class binds, if they are written at all. -/
def signature? (cls name : String) : Option String :=
  match memberKind? cls name, cls, name with
  | some .operator, _, _ => some (operatorSignature name)
  | some .free, _, "__new__" => some "($type, *args, **kwargs)"
  | some .method, "object", "__reduce_ex__" => some "($self, protocol, /)"
  | some .method, "object", "__format__" => some "($self, format_spec, /)"
  | some .method, "type", "__instancecheck__" => some "($self, instance, /)"
  | some .method, "type", "__subclasscheck__" => some "($self, subclass, /)"
  | some .method, "object", _ | some .method, "type", _ => some "($self, /)"
  | none, "", "isinstance" => some "($module, obj, class_or_tuple, /)"
  | none, "", "setattr" => some "($module, obj, name, value, /)"
  | none, "", "getattr" => none
  | none, "", _ => some "($module, obj, /)"
  | _, _, _ => none

end DomainModel.Live.Builtin
