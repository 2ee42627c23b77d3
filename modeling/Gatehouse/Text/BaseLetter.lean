/-!
# Base letters

Canonical decomposition takes a letter with marks apart into its base and the marks, and a few
signs into the sign that they stand for. Of the decomposition only the characters of the basic
alphabet are kept here; no character decomposes into more than one of them.
-/

namespace Gatehouse.Text

/-- For each basic character, the other characters whose canonical decomposition holds it. -/
def baseTable : List (Char × List Nat) := [
  (';', [0x037e]),
  ('<', [0x226e]),
  ('=', [0x2260]),
  ('>', [0x226f]),
  ('A', [0x00c0, 0x00c1, 0x00c2, 0x00c3, 0x00c4, 0x00c5, 0x0100, 0x0102, 0x0104, 0x01cd,
    0x01de, 0x01e0, 0x01fa, 0x0200, 0x0202, 0x0226, 0x1e00, 0x1ea0, 0x1ea2, 0x1ea4, 0x1ea6,
    0x1ea8, 0x1eaa, 0x1eac, 0x1eae, 0x1eb0, 0x1eb2, 0x1eb4, 0x1eb6, 0x212b]),
  ('B', [0x1e02, 0x1e04, 0x1e06]),
  ('C', [0x00c7, 0x0106, 0x0108, 0x010a, 0x010c, 0x1e08]),
  ('D', [0x010e, 0x1e0a, 0x1e0c, 0x1e0e, 0x1e10, 0x1e12]),
  ('E', [0x00c8, 0x00c9, 0x00ca, 0x00cb, 0x0112, 0x0114, 0x0116, 0x0118, 0x011a, 0x0204,
    0x0206, 0x0228, 0x1e14, 0x1e16, 0x1e18, 0x1e1a, 0x1e1c, 0x1eb8, 0x1eba, 0x1ebc, 0x1ebe,
    0x1ec0, 0x1ec2, 0x1ec4, 0x1ec6]),
  ('F', [0x1e1e]),
  ('G', [0x011c, 0x011e, 0x0120, 0x0122, 0x01e6, 0x01f4, 0x1e20]),
  ('H', [0x0124, 0x021e, 0x1e22, 0x1e24, 0x1e26, 0x1e28, 0x1e2a]),
  ('I', [0x00cc, 0x00cd, 0x00ce, 0x00cf, 0x0128, 0x012a, 0x012c, 0x012e, 0x0130, 0x01cf,
    0x0208, 0x020a, 0x1e2c, 0x1e2e, 0x1ec8, 0x1eca]),
  ('J', [0x0134]),
  ('K', [0x0136, 0x01e8, 0x1e30, 0x1e32, 0x1e34, 0x212a]),
  ('L', [0x0139, 0x013b, 0x013d, 0x1e36, 0x1e38, 0x1e3a, 0x1e3c]),
  ('M', [0x1e3e, 0x1e40, 0x1e42]),
  ('N', [0x00d1, 0x0143, 0x0145, 0x0147, 0x01f8, 0x1e44, 0x1e46, 0x1e48, 0x1e4a]),
  ('O', [0x00d2, 0x00d3, 0x00d4, 0x00d5, 0x00d6, 0x014c, 0x014e, 0x0150, 0x01a0, 0x01d1,
    0x01ea, 0x01ec, 0x020c, 0x020e, 0x022a, 0x022c, 0x022e, 0x0230, 0x1e4c, 0x1e4e, 0x1e50,
    0x1e52, 0x1ecc, 0x1ece, 0x1ed0, 0x1ed2, 0x1ed4, 0x1ed6, 0x1ed8, 0x1eda, 0x1edc, 0x1ede,
    0x1ee0, 0x1ee2]),
  ('P', [0x1e54, 0x1e56]),
  ('R', [0x0154, 0x0156, 0x0158, 0x0210, 0x0212, 0x1e58, 0x1e5a, 0x1e5c, 0x1e5e]),
  ('S', [0x015a, 0x015c, 0x015e, 0x0160, 0x0218, 0x1e60, 0x1e62, 0x1e64, 0x1e66, 0x1e68]),
  ('T', [0x0162, 0x0164, 0x021a, 0x1e6a, 0x1e6c, 0x1e6e, 0x1e70]),
  ('U', [0x00d9, 0x00da, 0x00db, 0x00dc, 0x0168, 0x016a, 0x016c, 0x016e, 0x0170, 0x0172,
    0x01af, 0x01d3, 0x01d5, 0x01d7, 0x01d9, 0x01db, 0x0214, 0x0216, 0x1e72, 0x1e74, 0x1e76,
    0x1e78, 0x1e7a, 0x1ee4, 0x1ee6, 0x1ee8, 0x1eea, 0x1eec, 0x1eee, 0x1ef0]),
  ('V', [0x1e7c, 0x1e7e]),
  ('W', [0x0174, 0x1e80, 0x1e82, 0x1e84, 0x1e86, 0x1e88]),
  ('X', [0x1e8a, 0x1e8c]),
  ('Y', [0x00dd, 0x0176, 0x0178, 0x0232, 0x1e8e, 0x1ef2, 0x1ef4, 0x1ef6, 0x1ef8]),
  ('Z', [0x0179, 0x017b, 0x017d, 0x1e90, 0x1e92, 0x1e94]),
  ('`', [0x1fef]),
  ('a', [0x00e0, 0x00e1, 0x00e2, 0x00e3, 0x00e4, 0x00e5, 0x0101, 0x0103, 0x0105, 0x01ce,
    0x01df, 0x01e1, 0x01fb, 0x0201, 0x0203, 0x0227, 0x1e01, 0x1ea1, 0x1ea3, 0x1ea5, 0x1ea7,
    0x1ea9, 0x1eab, 0x1ead, 0x1eaf, 0x1eb1, 0x1eb3, 0x1eb5, 0x1eb7]),
  ('b', [0x1e03, 0x1e05, 0x1e07]),
  ('c', [0x00e7, 0x0107, 0x0109, 0x010b, 0x010d, 0x1e09]),
  ('d', [0x010f, 0x1e0b, 0x1e0d, 0x1e0f, 0x1e11, 0x1e13]),
  ('e', [0x00e8, 0x00e9, 0x00ea, 0x00eb, 0x0113, 0x0115, 0x0117, 0x0119, 0x011b, 0x0205,
    0x0207, 0x0229, 0x1e15, 0x1e17, 0x1e19, 0x1e1b, 0x1e1d, 0x1eb9, 0x1ebb, 0x1ebd, 0x1ebf,
    0x1ec1, 0x1ec3, 0x1ec5, 0x1ec7]),
  ('f', [0x1e1f]),
  ('g', [0x011d, 0x011f, 0x0121, 0x0123, 0x01e7, 0x01f5, 0x1e21]),
  ('h', [0x0125, 0x021f, 0x1e23, 0x1e25, 0x1e27, 0x1e29, 0x1e2b, 0x1e96]),
  ('i', [0x00ec, 0x00ed, 0x00ee, 0x00ef, 0x0129, 0x012b, 0x012d, 0x012f, 0x01d0, 0x0209,
    0x020b, 0x1e2d, 0x1e2f, 0x1ec9, 0x1ecb]),
  ('j', [0x0135, 0x01f0]),
  ('k', [0x0137, 0x01e9, 0x1e31, 0x1e33, 0x1e35]),
  ('l', [0x013a, 0x013c, 0x013e, 0x1e37, 0x1e39, 0x1e3b, 0x1e3d]),
  ('m', [0x1e3f, 0x1e41, 0x1e43]),
  ('n', [0x00f1, 0x0144, 0x0146, 0x0148, 0x01f9, 0x1e45, 0x1e47, 0x1e49, 0x1e4b]),
  ('o', [0x00f2, 0x00f3, 0x00f4, 0x00f5, 0x00f6, 0x014d, 0x014f, 0x0151, 0x01a1, 0x01d2,
    0x01eb, 0x01ed, 0x020d, 0x020f, 0x022b, 0x022d, 0x022f, 0x0231, 0x1e4d, 0x1e4f, 0x1e51,
    0x1e53, 0x1ecd, 0x1ecf, 0x1ed1, 0x1ed3, 0x1ed5, 0x1ed7, 0x1ed9, 0x1edb, 0x1edd, 0x1edf,
    0x1ee1, 0x1ee3]),
  ('p', [0x1e55, 0x1e57]),
  ('r', [0x0155, 0x0157, 0x0159, 0x0211, 0x0213, 0x1e59, 0x1e5b, 0x1e5d, 0x1e5f]),
  ('s', [0x015b, 0x015d, 0x015f, 0x0161, 0x0219, 0x1e61, 0x1e63, 0x1e65, 0x1e67, 0x1e69]),
  ('t', [0x0163, 0x0165, 0x021b, 0x1e6b, 0x1e6d, 0x1e6f, 0x1e71, 0x1e97]),
  ('u', [0x00f9, 0x00fa, 0x00fb, 0x00fc, 0x0169, 0x016b, 0x016d, 0x016f, 0x0171, 0x0173,
    0x01b0, 0x01d4, 0x01d6, 0x01d8, 0x01da, 0x01dc, 0x0215, 0x0217, 0x1e73, 0x1e75, 0x1e77,
    0x1e79, 0x1e7b, 0x1ee5, 0x1ee7, 0x1ee9, 0x1eeb, 0x1eed, 0x1eef, 0x1ef1]),
  ('v', [0x1e7d, 0x1e7f]),
  ('w', [0x0175, 0x1e81, 0x1e83, 0x1e85, 0x1e87, 0x1e89, 0x1e98]),
  ('x', [0x1e8b, 0x1e8d]),
  ('y', [0x00fd, 0x00ff, 0x0177, 0x0233, 0x1e8f, 0x1e99, 0x1ef3, 0x1ef5, 0x1ef7, 0x1ef9]),
  ('z', [0x017a, 0x017c, 0x017e, 0x1e91, 0x1e93, 0x1e95])]

def baseOf (character : Char) : List Char :=
  if character.toNat < 0x80 then [character]
  else (baseTable.filter fun (_, codes) => codes.contains character.toNat).map Prod.fst

theorem baseOf_of_basic {character : Char} (basic : character.toNat < 0x80) :
    baseOf character = [character] := by
  simp [baseOf, basic]

example : "Ação\u212b\u2260".toList.flatMap baseOf = "AcaoA=".toList := by decide +kernel

end Gatehouse.Text
