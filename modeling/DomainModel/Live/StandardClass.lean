import DomainModel.Live.Class

/-!
# Standard classes

The classes that are not built in, but come with the standard modules that a generated module and
its contracts use: the root of abstract classes, generic classes, identifiers, and the switches of
the language.
-/

namespace DomainModel.Live.Standard

def function (home owner name : String) (body : Body) (doc : Option String := none) : Function :=
  { owner, name, body, doc, home }

/-! ## Abstract classes -/

/-- The name under which an abstract class keeps its record. -/
def registryName : String := "_abc_impl"

def registry : Value := .described "_abc_data" "<_abc._abc_data object>"

def metaFunction (name : String) (task : StandardTask) (doc : String) : String × Value :=
  (name, .function (function "abc" "ABCMeta" name (.standard task) (some doc)))

def metaMembers : List (String × Value) :=
  [("__new__", .native "ABCMeta" "__new__"), metaFunction "register" .register
     ("Register a virtual subclass of an ABC.\n\n            Returns the subclass, to allow usage as "
       ++ "a class decorator.\n            "),
   metaFunction "__instancecheck__" .instanceCheck "Override for isinstance(instance, cls).",
   metaFunction "__subclasscheck__" .subclassCheck "Override for issubclass(subclass, cls)."]

def head (name home : String) : List (String × Value) :=
  [("__module__", .constant home), ("__doc__", Value.constant? (Builtin.doc? name))]

def abstractKind : ClassInfo :=
  { name := "ABCMeta", qualname := "ABCMeta", bases := [.builtin "type"]
    lead := .builtin "type"
    linearization := [.builtin "ABCMeta", .builtin "type", .object]
    members := head "ABCMeta" "abc" ++ metaMembers
    layout := .builtin "type" }

def abstractRoot : ClassInfo :=
  { name := "ABC", qualname := "ABC", bases := [.object]
    linearization := [.builtin "ABC", .object]
    isAbstractKind := true
    members := head "ABC" "abc" ++ [("__slots__", .names []), ("__abstractmethods__", .nameSet []),
      (registryName, registry)] }

/-! ## Generic classes -/

def parameterizeDoc : String :=
  "Parameterizes a generic class.\n\n        At least, parameterizing a generic class is the *main* "
    ++ "thing this method\n        does. For example, for some generic class `Foo`, this is called "
    ++ "when we\n        do `Foo[int]` - there, with `cls=Foo` and `params=int`.\n\n        However, "
    ++ "note that this method is also called when defining generic\n        classes in the first "
    ++ "place with `class Foo(Generic[T]): ...`.\n        "

def genericRoot : ClassInfo :=
  let f (name : String) (task : StandardTask) (doc : Option String) : String × Value :=
    (name, .classMethod (function "typing" "Generic" name (.standard task) doc))
  { name := "Generic", qualname := "Generic", bases := [.object]
    linearization := [.builtin "Generic", .object]
    members := head "Generic" "typing" ++ [("__slots__", .names []), ("_is_protocol", .truth false),
      f "__class_getitem__" .parameterize (some parameterizeDoc),
      f "__init_subclass__" .noteParameters none] }

/-! ## Identifiers -/

def identifierDoc : String :=
  "Create a UUID from either a string of 32 hexadecimal digits,\n        a string of 16 "
    ++ "bytes as the 'bytes' argument, a string of 16 bytes\n        in little-endian "
    ++ "order as the 'bytes_le' argument, a tuple of six\n        integers (32-bit "
    ++ "time_low, 16-bit time_mid, 16-bit time_hi_version,\n        8-bit "
    ++ "clock_seq_hi_variant, 8-bit clock_seq_low, 48-bit node) as\n        the 'fields' "
    ++ "argument, or a single 128-bit integer as the 'int'\n        argument.  When a "
    ++ "string of hex digits is given, curly braces,\n        hyphens, and a URN prefix "
    ++ "are all optional.  For example, these\n        expressions all yield the same "
    ++ "UUID:\n\n        UUID('\x7b12345678-1234-5678-1234-567812345678\x7d')\n        "
    ++ "UUID('12345678123456781234567812345678')\n        "
    ++ "UUID('urn:uuid:12345678-1234-5678-1234-567812345678')\n        "
    ++ "UUID(bytes='\\x12\\x34\\x56\\x78'*4)\n        "
    ++ "UUID(bytes_le='\\x78\\x56\\x34\\x12\\x34\\x12\\x78\\x56' "
    ++ "+\n                      '\\x12\\x34\\x56\\x78\\x12\\x34\\x56\\x78')\n        "
    ++ "UUID(fields=(0x12345678, 0x1234, 0x5678, 0x12, 0x34, 0x567812345678))\n        "
    ++ "UUID(int=0x12345678123456781234567812345678)\n\n        Exactly one of 'hex', "
    ++ "'bytes', 'bytes_le', 'fields', or 'int' must\n        be given.  The 'version' "
    ++ "argument is optional; if given, the resulting\n        UUID will have its "
    ++ "variant and version set according to RFC 4122,\n        overriding the given "
    ++ "'hex', 'bytes', 'bytes_le', 'fields', or 'int'.\n\n        is_safe is an enum "
    ++ "exposed as an attribute on the instance.  It\n        indicates whether the UUID "
    ++ "has been generated in a way that is safe\n        for multiprocessing "
    ++ "applications, via uuid_generate_time_safe(3).\n        "

def identifierFunction (name : String) (task : IdentifierTask) : Function :=
  function "uuid" "UUID" name (.identifier task)

def identifierParts : List String :=
  ["bytes", "bytes_le", "fields", "time_low", "time_mid", "time_hi_version",
   "clock_seq_hi_variant", "clock_seq_low", "time", "clock_seq", "node", "hex", "urn", "variant",
   "version"]

def identifierMembers : List (String × Value) :=
  let f (name : String) (task : IdentifierTask) : String × Value :=
    (name, .function (identifierFunction name task))
  [("__slots__", .names ["int", "is_safe", "__weakref__"]),
   ("__init__",
     .function { identifierFunction "__init__" .initialise with doc := some identifierDoc }),
   f "__getstate__" .getState, f "__setstate__" .setState, f "__eq__" .equality,
   f "__lt__" (.compare .less), f "__gt__" (.compare .greater), f "__le__" (.compare .lessEqual),
   f "__ge__" (.compare .greaterEqual), f "__hash__" .hash, f "__int__" .number,
   f "__repr__" .repr, f "__setattr__" .assign, f "__str__" .text]
    ++ identifierParts.map (fun n => (n, .property (identifierFunction n (.part n)) none))
    ++ [("int", .slot (.builtin "UUID") "int"), ("is_safe", .slot (.builtin "UUID") "is_safe"),
      ("__weakref__", .native "instance" "__weakref__")]

/-- The class of identifiers. -/
def identifier : ClassInfo :=
  { name := "UUID", qualname := "UUID", bases := [.object]
    linearization := [.builtin "UUID", .object]
    members := head "UUID" "uuid" ++ identifierMembers
    layout := .builtin "UUID"
    places := ["int", "is_safe"]
    addsReferences := true
    holdsReferences := true }

def unknownSafety : Value := .described "SafeUUID" "<SafeUUID.unknown: None>"

def safetyMembers : List (String × Value) := [("name", .constant "unknown"), ("value", .nothing)]

/-! ## Switches of the language -/

def featureFunction (name : String) (task : StandardTask) (doc : String) : String × Value :=
  (name, .function (function "__future__" "_Feature" name (.standard task) (some doc)))

def feature : ClassInfo :=
  { name := "_Feature", qualname := "_Feature", bases := [.object]
    linearization := [.builtin "_Feature", .object]
    members := [("__module__", .constant "__future__"),
      featureFunction "getOptionalRelease" .optionalRelease
        ("Return first release in which this feature was recognized.\n\n        This is a 5-tuple, "
          ++ "of the same form as sys.version_info.\n        "),
      featureFunction "getMandatoryRelease" .mandatoryRelease
        ("Return release in which this feature will become mandatory.\n\n        This is a "
          ++ "5-tuple, of the same form as sys.version_info, or, if\n        the feature was dropped, "
          ++ "or the release date is undetermined, is None.\n        "),
      ("__dict__", .native "instance" "__dict__"), ("__weakref__", .native "instance" "__weakref__"),
      ("__doc__", .nothing)]
    addsAttributes := true
    addsReferences := true
    holdsAttributes := true
    holdsReferences := true }

def featureMembers : List (String × Value) :=
  [("optional", .described "tuple" "(3, 7, 0, 'beta', 1)"), ("mandatory", .nothing),
   ("compiler_flag", .integer 16777216 0)]

/-! ## Copies -/

def copyError : ClassRef := .builtin "Error"

def copyErrorClass : ClassInfo :=
  { name := "Error", qualname := "Error", bases := [.builtin "Exception"]
    lead := .builtin "Exception"
    linearization := copyError :: Builtin.ancestors "Exception"
    members := [("__module__", .constant "copy"),
      ("__weakref__", .native "instance" "__weakref__"), ("__doc__", .nothing)]
    layout := .builtin "BaseException"
    addsReferences := true
    holdsAttributes := true
    holdsReferences := true }

def copyFunction (name : String) (task : StandardTask) (doc : String) : String × Value :=
  (name, .function (function "copy" "" name (.standard task)
    (some (doc ++ "\n\n    See the module's __doc__ string for more info.\n    "))))

def copyMembers : List (String × Value) :=
  [("__name__", .constant "copy"),
   copyFunction "copy" .copy "Shallow copy operation on arbitrary Python objects.",
   copyFunction "deepcopy" .deepCopy "Deep copy operation on arbitrary Python objects.",
   ("Error", .cls copyError), ("error", .cls copyError)]

/-! ## All classes -/

def classes : List (ClassRef × ClassInfo) :=
  [(.builtin "ABCMeta", abstractKind), (.builtin "ABC", abstractRoot), (.builtin "Generic", genericRoot), (.builtin "UUID", identifier),
   (.builtin "_Feature", feature), (copyError, copyErrorClass)]

end DomainModel.Live.Standard
