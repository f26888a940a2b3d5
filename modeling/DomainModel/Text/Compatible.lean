/-!
# Compatible characters

Unicode (version 14) has many characters that are another form of letters, digits or underscores of
ASCII: wide ones, raised ones, mathematical ones, ligatures. In the names of a module they count as
the characters that they are a form of.
-/

namespace DomainModel.Compatible

/-- Runs of characters in another form: the first one, how many there are, and what the first one
is a form of. -/
def runs : List (Nat × Nat × Nat) :=
  [(0xaa, 1, 0x61), (0xba, 1, 0x6f), (0x17f, 1, 0x73), (0x2b0, 1, 0x68), (0x2b2, 1, 0x6a),
   (0x2b3, 1, 0x72), (0x2b7, 1, 0x77), (0x2b8, 1, 0x79), (0x2e1, 1, 0x6c), (0x2e2, 1, 0x73),
   (0x2e3, 1, 0x78), (0x1d2c, 1, 0x41), (0x1d2e, 1, 0x42), (0x1d30, 2, 0x44), (0x1d33, 8, 0x47),
   (0x1d3c, 1, 0x4f), (0x1d3e, 1, 0x50), (0x1d3f, 1, 0x52), (0x1d40, 2, 0x54), (0x1d42, 1, 0x57),
   (0x1d43, 1, 0x61), (0x1d47, 1, 0x62), (0x1d48, 2, 0x64), (0x1d4d, 1, 0x67), (0x1d4f, 1, 0x6b),
   (0x1d50, 1, 0x6d), (0x1d52, 1, 0x6f), (0x1d56, 1, 0x70), (0x1d57, 2, 0x74), (0x1d5b, 1, 0x76),
   (0x1d62, 1, 0x69), (0x1d63, 1, 0x72), (0x1d64, 2, 0x75), (0x1d9c, 1, 0x63), (0x1da0, 1, 0x66),
   (0x1dbb, 1, 0x7a), (0x2071, 1, 0x69), (0x207f, 1, 0x6e), (0x2090, 1, 0x61), (0x2091, 1, 0x65),
   (0x2092, 1, 0x6f), (0x2093, 1, 0x78), (0x2095, 1, 0x68), (0x2096, 4, 0x6b), (0x209a, 1, 0x70),
   (0x209b, 2, 0x73), (0x2102, 1, 0x43), (0x210a, 1, 0x67), (0x210b, 1, 0x48), (0x210c, 1, 0x48),
   (0x210d, 1, 0x48), (0x210e, 1, 0x68), (0x2110, 1, 0x49), (0x2111, 1, 0x49), (0x2112, 1, 0x4c),
   (0x2113, 1, 0x6c), (0x2115, 1, 0x4e), (0x2119, 3, 0x50), (0x211c, 1, 0x52), (0x211d, 1, 0x52),
   (0x2124, 1, 0x5a), (0x2128, 1, 0x5a), (0x212a, 1, 0x4b), (0x212c, 2, 0x42), (0x212f, 1, 0x65),
   (0x2130, 2, 0x45), (0x2133, 1, 0x4d), (0x2134, 1, 0x6f), (0x2139, 1, 0x69), (0x2145, 1, 0x44),
   (0x2146, 2, 0x64), (0x2148, 2, 0x69), (0x2160, 1, 0x49), (0x2164, 1, 0x56), (0x2169, 1, 0x58),
   (0x216c, 1, 0x4c), (0x216d, 2, 0x43), (0x216f, 1, 0x4d), (0x2170, 1, 0x69), (0x2174, 1, 0x76),
   (0x2179, 1, 0x78), (0x217c, 1, 0x6c), (0x217d, 2, 0x63), (0x217f, 1, 0x6d), (0x2c7c, 1, 0x6a),
   (0x2c7d, 1, 0x56), (0xa7f2, 1, 0x43), (0xa7f3, 1, 0x46), (0xa7f4, 1, 0x51), (0xfe33, 1, 0x5f),
   (0xfe34, 1, 0x5f), (0xfe4d, 1, 0x5f), (0xfe4e, 1, 0x5f), (0xfe4f, 1, 0x5f), (0xff10, 10, 0x30),
   (0xff21, 26, 0x41), (0xff3f, 1, 0x5f), (0xff41, 26, 0x61), (0x107a5, 1, 0x71),
   (0x1d400, 26, 0x41), (0x1d41a, 26, 0x61), (0x1d434, 26, 0x41), (0x1d44e, 7, 0x61),
   (0x1d456, 18, 0x69), (0x1d468, 26, 0x41), (0x1d482, 26, 0x61), (0x1d49c, 1, 0x41),
   (0x1d49e, 2, 0x43), (0x1d4a2, 1, 0x47), (0x1d4a5, 2, 0x4a), (0x1d4a9, 4, 0x4e),
   (0x1d4ae, 8, 0x53), (0x1d4b6, 4, 0x61), (0x1d4bb, 1, 0x66), (0x1d4bd, 7, 0x68),
   (0x1d4c5, 11, 0x70), (0x1d4d0, 26, 0x41), (0x1d4ea, 26, 0x61), (0x1d504, 2, 0x41),
   (0x1d507, 4, 0x44), (0x1d50d, 8, 0x4a), (0x1d516, 7, 0x53), (0x1d51e, 26, 0x61),
   (0x1d538, 2, 0x41), (0x1d53b, 4, 0x44), (0x1d540, 5, 0x49), (0x1d546, 1, 0x4f),
   (0x1d54a, 7, 0x53), (0x1d552, 26, 0x61), (0x1d56c, 26, 0x41), (0x1d586, 26, 0x61),
   (0x1d5a0, 26, 0x41), (0x1d5ba, 26, 0x61), (0x1d5d4, 26, 0x41), (0x1d5ee, 26, 0x61),
   (0x1d608, 26, 0x41), (0x1d622, 26, 0x61), (0x1d63c, 26, 0x41), (0x1d656, 26, 0x61),
   (0x1d670, 26, 0x41), (0x1d68a, 26, 0x61), (0x1d7ce, 10, 0x30), (0x1d7d8, 10, 0x30),
   (0x1d7e2, 10, 0x30), (0x1d7ec, 10, 0x30), (0x1d7f6, 10, 0x30), (0x1fbf0, 10, 0x30)]

def ligatures : List (Nat × String) :=
  [(0x132, "IJ"), (0x133, "ij"), (0x1c7, "LJ"), (0x1c8, "Lj"), (0x1c9, "lj"), (0x1ca, "NJ"),
   (0x1cb, "Nj"), (0x1cc, "nj"), (0x1f1, "DZ"), (0x1f2, "Dz"), (0x1f3, "dz"), (0x2161, "II"),
   (0x2162, "III"), (0x2163, "IV"), (0x2165, "VI"), (0x2166, "VII"), (0x2167, "VIII"),
   (0x2168, "IX"), (0x216a, "XI"), (0x216b, "XII"), (0x2171, "ii"), (0x2172, "iii"),
   (0x2173, "iv"), (0x2175, "vi"), (0x2176, "vii"), (0x2177, "viii"), (0x2178, "ix"),
   (0x217a, "xi"), (0x217b, "xii"), (0xfb00, "ff"), (0xfb01, "fi"), (0xfb02, "fl"),
   (0xfb03, "ffi"), (0xfb04, "ffl"), (0xfb05, "st"), (0xfb06, "st")]

def plain (c : Char) : List Char :=
  if c.toNat < 128 then [c]
  else
    match runs.find? fun r => r.1 ≤ c.toNat ∧ c.toNat < r.1 + r.2.1 with
    | some (start, _, first) => [Char.ofNat (first + (c.toNat - start))]
    | none =>
      match ligatures.lookup c.toNat with
      | some s => s.toList
      | none => [c]

def name (s : String) : String := String.ofList (s.toList.flatMap plain)

end DomainModel.Compatible
