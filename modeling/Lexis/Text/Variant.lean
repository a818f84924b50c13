/-
# Variants of the ASCII letters and digits

The characters that may stand in a name and that Unicode 14.0.0 makes
compatible with a single ASCII letter, digit or underscore, such as `ｖ`, `ſ`
and `𝟙`: 894 characters in 147 runs.  In a run the variants follow
each other as the plain characters do, so `plain` gives a variant's plain
character by its distance from the start of its run.
-/

import Lexis.Text.Ranges

namespace Lexis

/-- The runs of variants, in increasing order, each with the plain character of
its first. -/
def variantRuns : List (Nat × Nat × Nat) :=
  [(0x00AA, 0x00AA, 0x61), (0x00BA, 0x00BA, 0x6F), (0x017F, 0x017F, 0x73),
   (0x02B0, 0x02B0, 0x68), (0x02B2, 0x02B2, 0x6A), (0x02B3, 0x02B3, 0x72),
   (0x02B7, 0x02B7, 0x77), (0x02B8, 0x02B8, 0x79), (0x02E1, 0x02E1, 0x6C),
   (0x02E2, 0x02E2, 0x73), (0x02E3, 0x02E3, 0x78), (0x1D2C, 0x1D2C, 0x41),
   (0x1D2E, 0x1D2E, 0x42), (0x1D30, 0x1D31, 0x44), (0x1D33, 0x1D3A, 0x47),
   (0x1D3C, 0x1D3C, 0x4F), (0x1D3E, 0x1D3E, 0x50), (0x1D3F, 0x1D3F, 0x52),
   (0x1D40, 0x1D41, 0x54), (0x1D42, 0x1D42, 0x57), (0x1D43, 0x1D43, 0x61),
   (0x1D47, 0x1D47, 0x62), (0x1D48, 0x1D49, 0x64), (0x1D4D, 0x1D4D, 0x67),
   (0x1D4F, 0x1D4F, 0x6B), (0x1D50, 0x1D50, 0x6D), (0x1D52, 0x1D52, 0x6F),
   (0x1D56, 0x1D56, 0x70), (0x1D57, 0x1D58, 0x74), (0x1D5B, 0x1D5B, 0x76),
   (0x1D62, 0x1D62, 0x69), (0x1D63, 0x1D63, 0x72), (0x1D64, 0x1D65, 0x75),
   (0x1D9C, 0x1D9C, 0x63), (0x1DA0, 0x1DA0, 0x66), (0x1DBB, 0x1DBB, 0x7A),
   (0x2071, 0x2071, 0x69), (0x207F, 0x207F, 0x6E), (0x2090, 0x2090, 0x61),
   (0x2091, 0x2091, 0x65), (0x2092, 0x2092, 0x6F), (0x2093, 0x2093, 0x78),
   (0x2095, 0x2095, 0x68), (0x2096, 0x2099, 0x6B), (0x209A, 0x209A, 0x70),
   (0x209B, 0x209C, 0x73), (0x2102, 0x2102, 0x43), (0x210A, 0x210A, 0x67),
   (0x210B, 0x210B, 0x48), (0x210C, 0x210C, 0x48), (0x210D, 0x210D, 0x48),
   (0x210E, 0x210E, 0x68), (0x2110, 0x2110, 0x49), (0x2111, 0x2111, 0x49),
   (0x2112, 0x2112, 0x4C), (0x2113, 0x2113, 0x6C), (0x2115, 0x2115, 0x4E),
   (0x2119, 0x211B, 0x50), (0x211C, 0x211C, 0x52), (0x211D, 0x211D, 0x52),
   (0x2124, 0x2124, 0x5A), (0x2128, 0x2128, 0x5A), (0x212A, 0x212A, 0x4B),
   (0x212C, 0x212D, 0x42), (0x212F, 0x212F, 0x65), (0x2130, 0x2131, 0x45),
   (0x2133, 0x2133, 0x4D), (0x2134, 0x2134, 0x6F), (0x2139, 0x2139, 0x69),
   (0x2145, 0x2145, 0x44), (0x2146, 0x2147, 0x64), (0x2148, 0x2149, 0x69),
   (0x2160, 0x2160, 0x49), (0x2164, 0x2164, 0x56), (0x2169, 0x2169, 0x58),
   (0x216C, 0x216C, 0x4C), (0x216D, 0x216E, 0x43), (0x216F, 0x216F, 0x4D),
   (0x2170, 0x2170, 0x69), (0x2174, 0x2174, 0x76), (0x2179, 0x2179, 0x78),
   (0x217C, 0x217C, 0x6C), (0x217D, 0x217E, 0x63), (0x217F, 0x217F, 0x6D),
   (0x2C7C, 0x2C7C, 0x6A), (0x2C7D, 0x2C7D, 0x56), (0xA7F2, 0xA7F2, 0x43),
   (0xA7F3, 0xA7F3, 0x46), (0xA7F4, 0xA7F4, 0x51), (0xFE33, 0xFE33, 0x5F),
   (0xFE34, 0xFE34, 0x5F), (0xFE4D, 0xFE4D, 0x5F), (0xFE4E, 0xFE4E, 0x5F),
   (0xFE4F, 0xFE4F, 0x5F), (0xFF10, 0xFF19, 0x30), (0xFF21, 0xFF3A, 0x41),
   (0xFF3F, 0xFF3F, 0x5F), (0xFF41, 0xFF5A, 0x61), (0x107A5, 0x107A5, 0x71),
   (0x1D400, 0x1D419, 0x41), (0x1D41A, 0x1D433, 0x61), (0x1D434, 0x1D44D, 0x41),
   (0x1D44E, 0x1D454, 0x61), (0x1D456, 0x1D467, 0x69), (0x1D468, 0x1D481, 0x41),
   (0x1D482, 0x1D49B, 0x61), (0x1D49C, 0x1D49C, 0x41), (0x1D49E, 0x1D49F, 0x43),
   (0x1D4A2, 0x1D4A2, 0x47), (0x1D4A5, 0x1D4A6, 0x4A), (0x1D4A9, 0x1D4AC, 0x4E),
   (0x1D4AE, 0x1D4B5, 0x53), (0x1D4B6, 0x1D4B9, 0x61), (0x1D4BB, 0x1D4BB, 0x66),
   (0x1D4BD, 0x1D4C3, 0x68), (0x1D4C5, 0x1D4CF, 0x70), (0x1D4D0, 0x1D4E9, 0x41),
   (0x1D4EA, 0x1D503, 0x61), (0x1D504, 0x1D505, 0x41), (0x1D507, 0x1D50A, 0x44),
   (0x1D50D, 0x1D514, 0x4A), (0x1D516, 0x1D51C, 0x53), (0x1D51E, 0x1D537, 0x61),
   (0x1D538, 0x1D539, 0x41), (0x1D53B, 0x1D53E, 0x44), (0x1D540, 0x1D544, 0x49),
   (0x1D546, 0x1D546, 0x4F), (0x1D54A, 0x1D550, 0x53), (0x1D552, 0x1D56B, 0x61),
   (0x1D56C, 0x1D585, 0x41), (0x1D586, 0x1D59F, 0x61), (0x1D5A0, 0x1D5B9, 0x41),
   (0x1D5BA, 0x1D5D3, 0x61), (0x1D5D4, 0x1D5ED, 0x41), (0x1D5EE, 0x1D607, 0x61),
   (0x1D608, 0x1D621, 0x41), (0x1D622, 0x1D63B, 0x61), (0x1D63C, 0x1D655, 0x41),
   (0x1D656, 0x1D66F, 0x61), (0x1D670, 0x1D689, 0x41), (0x1D68A, 0x1D6A3, 0x61),
   (0x1D7CE, 0x1D7D7, 0x30), (0x1D7D8, 0x1D7E1, 0x30), (0x1D7E2, 0x1D7EB, 0x30),
   (0x1D7EC, 0x1D7F5, 0x30), (0x1D7F6, 0x1D7FF, 0x30), (0x1FBF0, 0x1FBF9, 0x30)]

/-- The plain character of a variant; any other character is its own. -/
def plain (c : Char) : Char :=
  match variantRuns.find? fun run => run.1 ≤ c.toNat && c.toNat ≤ run.2.1 with
  | some (low, _, first) => Char.ofNat (first + (c.toNat - low))
  | none => c

/-- The runs are increasing and hold 894 variants. -/
example : Ranges.increasingFrom 0x80 (variantRuns.map fun run => (run.1, run.2.1)) = true ∧
    Ranges.size (variantRuns.map fun run => (run.1, run.2.1)) = 894 := by
  decide +kernel

/-- The letter `ſ` is a long `s`, the digit `𝟙` is struck twice. -/
example : plain 'ſ' = 's' ∧ plain '𝟙' = '1' ∧ plain 'é' = 'é' := by
  decide +kernel

end Lexis
