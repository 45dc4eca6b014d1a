-- SUMMARY: Full compatibility decompositions of the Unicode character database.

/-!
# Compatibility decompositions

Two tables. A run `(first, last, image)` moves each code point from `first` to `last` to the code
point as far from `image`. A block `(first, images)` gives the images of consecutive code points
from `first` on; an image is written as one numeral with six hexadecimal digits per code point, most
significant first, and `0` stands for a code point that does not decompose. Images are fully
decomposed. Hangul syllables decompose by arithmetic and are not listed.
-/

namespace AgentGovernance.Text

private def decompositionRunsPartA : List (Nat × Nat × Nat) :=
  [(0x1D33, 0x1D3A, 0x47), (0x2074, 0x2079, 0x34), (0x2080, 0x2089, 0x30), (0x2460, 0x2468, 0x31),
   (0x24B6, 0x24CF, 0x41), (0x24D0, 0x24E9, 0x61), (0x313A, 0x313F, 0x11B0),
   (0x3145, 0x314E, 0x1109), (0x314F, 0x3163, 0x1161), (0x3178, 0x317C, 0x112B),
   (0x3269, 0x326D, 0x110E), (0x32E4, 0x32E9, 0x30CA), (0x32EE, 0x32F2, 0x30DE),
   (0x32F5, 0x32FA, 0x30E8), (0xFF01, 0xFF5E, 0x21), (0xFF85, 0xFF8A, 0x30CA),
   (0xFF8F, 0xFF93, 0x30DE), (0xFF96, 0xFF9B, 0x30E8), (0xFFAA, 0xFFAF, 0x11B0),
   (0xFFB5, 0xFFBE, 0x1109), (0xFFC2, 0xFFC7, 0x1161), (0xFFCA, 0xFFCF, 0x1167),
   (0xFFD2, 0xFFD7, 0x116D), (0x1CCD6, 0x1CCEF, 0x41), (0x1CCF0, 0x1CCF9, 0x30),
   (0x1D400, 0x1D419, 0x41), (0x1D41A, 0x1D433, 0x61), (0x1D434, 0x1D44D, 0x41),
   (0x1D44E, 0x1D454, 0x61), (0x1D456, 0x1D467, 0x69), (0x1D468, 0x1D481, 0x41),
   (0x1D482, 0x1D49B, 0x61), (0x1D4AE, 0x1D4B5, 0x53), (0x1D4BD, 0x1D4C3, 0x68),
   (0x1D4C5, 0x1D4CF, 0x70), (0x1D4D0, 0x1D4E9, 0x41), (0x1D4EA, 0x1D503, 0x61),
   (0x1D50D, 0x1D514, 0x4A), (0x1D516, 0x1D51C, 0x53), (0x1D51E, 0x1D537, 0x61),
   (0x1D540, 0x1D544, 0x49), (0x1D54A, 0x1D550, 0x53), (0x1D552, 0x1D56B, 0x61),
   (0x1D56C, 0x1D585, 0x41), (0x1D586, 0x1D59F, 0x61), (0x1D5A0, 0x1D5B9, 0x41),
   (0x1D5BA, 0x1D5D3, 0x61), (0x1D5D4, 0x1D5ED, 0x41), (0x1D5EE, 0x1D607, 0x61),
   (0x1D608, 0x1D621, 0x41), (0x1D622, 0x1D63B, 0x61), (0x1D63C, 0x1D655, 0x41),
   (0x1D656, 0x1D66F, 0x61), (0x1D670, 0x1D689, 0x41), (0x1D68A, 0x1D6A3, 0x61),
   (0x1D6A8, 0x1D6B8, 0x391), (0x1D6BA, 0x1D6C0, 0x3A3), (0x1D6C2, 0x1D6DA, 0x3B1),
   (0x1D6E2, 0x1D6F2, 0x391), (0x1D6F4, 0x1D6FA, 0x3A3), (0x1D6FC, 0x1D714, 0x3B1),
   (0x1D71C, 0x1D72C, 0x391), (0x1D72E, 0x1D734, 0x3A3), (0x1D736, 0x1D74E, 0x3B1),
   (0x1D756, 0x1D766, 0x391), (0x1D768, 0x1D76E, 0x3A3), (0x1D770, 0x1D788, 0x3B1),
   (0x1D790, 0x1D7A0, 0x391), (0x1D7A2, 0x1D7A8, 0x3A3), (0x1D7AA, 0x1D7C2, 0x3B1),
   (0x1D7CE, 0x1D7D7, 0x30), (0x1D7D8, 0x1D7E1, 0x30), (0x1D7E2, 0x1D7EB, 0x30),
   (0x1D7EC, 0x1D7F5, 0x30), (0x1D7F6, 0x1D7FF, 0x30), (0x1E030, 0x1E038, 0x430),
   (0x1E03C, 0x1E046, 0x43E), (0x1E051, 0x1E059, 0x430), (0x1E05F, 0x1E064, 0x443),
   (0x1F130, 0x1F149, 0x41)]

private def decompositionRunsPartB : List (Nat × Nat × Nat) :=
  [(0x1FBF0, 0x1FBF9, 0x30)]

/-- Stretches of code points that decompose to a stretch of single code points. -/
def decompositionRuns : List (Nat × Nat × Nat) :=
  decompositionRunsPartA ++ decompositionRunsPartB

private def decompositionBlocks1 : List (Nat × List Nat) :=
  [(0xA0, [0x20]),
   (0xA8, [0x20_000308, 0, 0x61]),
   (0xAF,
     [0x20_000304, 0, 0, 0x32, 0x33, 0x20_000301, 0x3BC, 0, 0, 0x20_000327, 0x31, 0x6F, 0,
      0x31_002044_000034, 0x31_002044_000032, 0x33_002044_000034, 0, 0x41_000300, 0x41_000301,
      0x41_000302, 0x41_000303, 0x41_000308, 0x41_00030A, 0, 0x43_000327, 0x45_000300,
      0x45_000301, 0x45_000302, 0x45_000308, 0x49_000300, 0x49_000301, 0x49_000302, 0x49_000308,
      0, 0x4E_000303, 0x4F_000300, 0x4F_000301, 0x4F_000302, 0x4F_000303, 0x4F_000308, 0, 0,
      0x55_000300, 0x55_000301, 0x55_000302, 0x55_000308, 0x59_000301, 0, 0, 0x61_000300,
      0x61_000301, 0x61_000302, 0x61_000303, 0x61_000308, 0x61_00030A, 0, 0x63_000327,
      0x65_000300, 0x65_000301, 0x65_000302, 0x65_000308, 0x69_000300, 0x69_000301, 0x69_000302,
      0x69_000308, 0, 0x6E_000303, 0x6F_000300, 0x6F_000301, 0x6F_000302, 0x6F_000303,
      0x6F_000308, 0, 0, 0x75_000300, 0x75_000301, 0x75_000302, 0x75_000308, 0x79_000301, 0,
      0x79_000308, 0x41_000304, 0x61_000304, 0x41_000306, 0x61_000306, 0x41_000328, 0x61_000328,
      0x43_000301, 0x63_000301, 0x43_000302, 0x63_000302, 0x43_000307, 0x63_000307, 0x43_00030C,
      0x63_00030C, 0x44_00030C])]

private def decompositionBlocks2 : List (Nat × List Nat) :=
  [(0x10F,
     [0x64_00030C, 0, 0, 0x45_000304, 0x65_000304, 0x45_000306, 0x65_000306, 0x45_000307,
      0x65_000307, 0x45_000328, 0x65_000328, 0x45_00030C, 0x65_00030C, 0x47_000302, 0x67_000302,
      0x47_000306, 0x67_000306, 0x47_000307, 0x67_000307, 0x47_000327, 0x67_000327, 0x48_000302,
      0x68_000302, 0, 0, 0x49_000303, 0x69_000303, 0x49_000304, 0x69_000304, 0x49_000306,
      0x69_000306, 0x49_000328, 0x69_000328, 0x49_000307, 0, 0x49_00004A, 0x69_00006A,
      0x4A_000302, 0x6A_000302, 0x4B_000327, 0x6B_000327, 0, 0x4C_000301, 0x6C_000301,
      0x4C_000327, 0x6C_000327, 0x4C_00030C, 0x6C_00030C, 0x4C_0000B7, 0x6C_0000B7, 0, 0,
      0x4E_000301, 0x6E_000301, 0x4E_000327, 0x6E_000327, 0x4E_00030C, 0x6E_00030C, 0x2BC_00006E,
      0, 0, 0x4F_000304, 0x6F_000304, 0x4F_000306, 0x6F_000306, 0x4F_00030B, 0x6F_00030B, 0, 0,
      0x52_000301, 0x72_000301, 0x52_000327, 0x72_000327, 0x52_00030C, 0x72_00030C, 0x53_000301,
      0x73_000301, 0x53_000302, 0x73_000302, 0x53_000327, 0x73_000327, 0x53_00030C, 0x73_00030C,
      0x54_000327, 0x74_000327, 0x54_00030C, 0x74_00030C, 0, 0, 0x55_000303, 0x75_000303,
      0x55_000304, 0x75_000304, 0x55_000306, 0x75_000306, 0x55_00030A])]

private def decompositionBlocks3 : List (Nat × List Nat) :=
  [(0x16F,
     [0x75_00030A, 0x55_00030B, 0x75_00030B, 0x55_000328, 0x75_000328, 0x57_000302, 0x77_000302,
      0x59_000302, 0x79_000302, 0x59_000308, 0x5A_000301, 0x7A_000301, 0x5A_000307, 0x7A_000307,
      0x5A_00030C, 0x7A_00030C, 0x73]),
   (0x1A0, [0x4F_00031B, 0x6F_00031B]),
   (0x1AF, [0x55_00031B, 0x75_00031B])]

private def decompositionBlocks4 : List (Nat × List Nat) :=
  [(0x1C4,
     [0x44_00005A_00030C, 0x44_00007A_00030C, 0x64_00007A_00030C, 0x4C_00004A, 0x4C_00006A,
      0x6C_00006A, 0x4E_00004A, 0x4E_00006A, 0x6E_00006A, 0x41_00030C, 0x61_00030C, 0x49_00030C,
      0x69_00030C, 0x4F_00030C, 0x6F_00030C, 0x55_00030C, 0x75_00030C, 0x55_000308_000304,
      0x75_000308_000304, 0x55_000308_000301, 0x75_000308_000301, 0x55_000308_00030C,
      0x75_000308_00030C, 0x55_000308_000300, 0x75_000308_000300, 0, 0x41_000308_000304,
      0x61_000308_000304, 0x41_000307_000304, 0x61_000307_000304, 0xC6_000304, 0xE6_000304, 0, 0,
      0x47_00030C, 0x67_00030C, 0x4B_00030C, 0x6B_00030C, 0x4F_000328, 0x6F_000328,
      0x4F_000328_000304, 0x6F_000328_000304, 0x1B7_00030C, 0x292_00030C, 0x6A_00030C,
      0x44_00005A, 0x44_00007A, 0x64_00007A, 0x47_000301, 0x67_000301, 0, 0, 0x4E_000300,
      0x6E_000300, 0x41_00030A_000301, 0x61_00030A_000301, 0xC6_000301, 0xE6_000301, 0xD8_000301,
      0xF8_000301, 0x41_00030F, 0x61_00030F, 0x41_000311, 0x61_000311, 0x45_00030F, 0x65_00030F,
      0x45_000311, 0x65_000311, 0x49_00030F, 0x69_00030F, 0x49_000311, 0x69_000311, 0x4F_00030F,
      0x6F_00030F, 0x4F_000311, 0x6F_000311, 0x52_00030F, 0x72_00030F, 0x52_000311, 0x72_000311,
      0x55_00030F, 0x75_00030F, 0x55_000311, 0x75_000311, 0x53_000326, 0x73_000326, 0x54_000326,
      0x74_000326, 0, 0, 0x48_00030C, 0x68_00030C]),
   (0x226,
     [0x41_000307, 0x61_000307, 0x45_000327, 0x65_000327, 0x4F_000308_000304, 0x6F_000308_000304,
      0x4F_000303_000304, 0x6F_000303_000304, 0x4F_000307, 0x6F_000307, 0x4F_000307_000304,
      0x6F_000307_000304, 0x59_000304, 0x79_000304])]

private def decompositionBlocks5 : List (Nat × List Nat) :=
  [(0x2B0,
     [0x68, 0x266, 0x6A, 0x72, 0x279, 0x27B, 0x281, 0x77, 0x79]),
   (0x2D8,
     [0x20_000306, 0x20_000307, 0x20_00030A, 0x20_000328, 0x20_000303, 0x20_00030B, 0, 0, 0x263,
      0x6C, 0x73, 0x78, 0x295]),
   (0x340, [0x300, 0x301, 0, 0x313, 0x308_000301]),
   (0x374, [0x2B9]),
   (0x37A, [0x20_000345]),
   (0x37E, [0x3B]),
   (0x384,
     [0x20_000301, 0x20_000308_000301, 0x391_000301, 0xB7, 0x395_000301, 0x397_000301,
      0x399_000301, 0, 0x39F_000301, 0, 0x3A5_000301, 0x3A9_000301, 0x3B9_000308_000301]),
   (0x3AA,
     [0x399_000308, 0x3A5_000308, 0x3B1_000301, 0x3B5_000301, 0x3B7_000301, 0x3B9_000301,
      0x3C5_000308_000301]),
   (0x3CA,
     [0x3B9_000308, 0x3C5_000308, 0x3BF_000301, 0x3C5_000301, 0x3C9_000301, 0, 0x3B2, 0x3B8,
      0x3A5, 0x3A5_000301, 0x3A5_000308, 0x3C6, 0x3C0]),
   (0x3F0, [0x3BA, 0x3C1, 0x3C2, 0, 0x398, 0x3B5]),
   (0x3F9, [0x3A3]),
   (0x400, [0x415_000300, 0x415_000308, 0, 0x413_000301]),
   (0x407, [0x406_000308]),
   (0x40C, [0x41A_000301, 0x418_000300, 0x423_000306]),
   (0x419, [0x418_000306]),
   (0x439, [0x438_000306]),
   (0x450, [0x435_000300, 0x435_000308, 0, 0x433_000301]),
   (0x457, [0x456_000308]),
   (0x45C, [0x43A_000301, 0x438_000300, 0x443_000306]),
   (0x476, [0x474_00030F, 0x475_00030F])]

private def decompositionBlocks6 : List (Nat × List Nat) :=
  [(0x4C1, [0x416_000306, 0x436_000306]),
   (0x4D0,
     [0x410_000306, 0x430_000306, 0x410_000308, 0x430_000308, 0, 0, 0x415_000306, 0x435_000306, 0,
      0, 0x4D8_000308, 0x4D9_000308, 0x416_000308, 0x436_000308, 0x417_000308, 0x437_000308, 0, 0,
      0x418_000304, 0x438_000304, 0x418_000308, 0x438_000308, 0x41E_000308, 0x43E_000308, 0, 0,
      0x4E8_000308, 0x4E9_000308, 0x42D_000308, 0x44D_000308, 0x423_000304, 0x443_000304,
      0x423_000308, 0x443_000308, 0x423_00030B, 0x443_00030B, 0x427_000308, 0x447_000308, 0, 0,
      0x42B_000308, 0x44B_000308]),
   (0x587, [0x565_000582]),
   (0x622, [0x627_000653, 0x627_000654, 0x648_000654, 0x627_000655, 0x64A_000654]),
   (0x675, [0x627_000674, 0x648_000674, 0x6C7_000674, 0x64A_000674]),
   (0x6C0, [0x6D5_000654, 0, 0x6C1_000654]),
   (0x6D3, [0x6D2_000654]),
   (0x929, [0x928_00093C]),
   (0x931, [0x930_00093C, 0, 0, 0x933_00093C]),
   (0x958,
     [0x915_00093C, 0x916_00093C, 0x917_00093C, 0x91C_00093C, 0x921_00093C, 0x922_00093C,
      0x92B_00093C, 0x92F_00093C]),
   (0x9CB, [0x9C7_0009BE, 0x9C7_0009D7]),
   (0x9DC, [0x9A1_0009BC, 0x9A2_0009BC, 0, 0x9AF_0009BC]),
   (0xA33, [0xA32_000A3C, 0, 0, 0xA38_000A3C]),
   (0xA59, [0xA16_000A3C, 0xA17_000A3C, 0xA1C_000A3C, 0, 0, 0xA2B_000A3C]),
   (0xB48, [0xB47_000B56, 0, 0, 0xB47_000B3E, 0xB47_000B57]),
   (0xB5C, [0xB21_000B3C, 0xB22_000B3C])]

private def decompositionBlocks7 : List (Nat × List Nat) :=
  [(0xB94, [0xB92_000BD7]),
   (0xBCA, [0xBC6_000BBE, 0xBC7_000BBE, 0xBC6_000BD7]),
   (0xC48, [0xC46_000C56]),
   (0xCC0, [0xCBF_000CD5]),
   (0xCC7, [0xCC6_000CD5, 0xCC6_000CD6, 0, 0xCC6_000CC2, 0xCC6_000CC2_000CD5]),
   (0xD4A, [0xD46_000D3E, 0xD47_000D3E, 0xD46_000D57]),
   (0xDDA, [0xDD9_000DCA, 0, 0xDD9_000DCF, 0xDD9_000DCF_000DCA, 0xDD9_000DDF]),
   (0xE33, [0xE4D_000E32]),
   (0xEB3, [0xECD_000EB2]),
   (0xEDC, [0xEAB_000E99, 0xEAB_000EA1]),
   (0xF0C, [0xF0B]),
   (0xF43, [0xF42_000FB7]),
   (0xF4D, [0xF4C_000FB7]),
   (0xF52, [0xF51_000FB7]),
   (0xF57, [0xF56_000FB7]),
   (0xF5C, [0xF5B_000FB7]),
   (0xF69, [0xF40_000FB5]),
   (0xF73,
     [0xF71_000F72, 0, 0xF71_000F74, 0xFB2_000F80, 0xFB2_000F71_000F80, 0xFB3_000F80,
      0xFB3_000F71_000F80]),
   (0xF81, [0xF71_000F80]),
   (0xF93, [0xF92_000FB7]),
   (0xF9D, [0xF9C_000FB7]),
   (0xFA2, [0xFA1_000FB7]),
   (0xFA7, [0xFA6_000FB7]),
   (0xFAC, [0xFAB_000FB7]),
   (0xFB9, [0xF90_000FB5]),
   (0x1026, [0x1025_00102E]),
   (0x10FC, [0x10DC]),
   (0x1B06,
     [0x1B05_001B35, 0, 0x1B07_001B35, 0, 0x1B09_001B35, 0, 0x1B0B_001B35, 0, 0x1B0D_001B35]),
   (0x1B12, [0x1B11_001B35]),
   (0x1B3B,
     [0x1B3A_001B35, 0, 0x1B3C_001B35, 0, 0, 0x1B3E_001B35, 0x1B3F_001B35, 0, 0x1B42_001B35]),
   (0x1D2C,
     [0x41, 0xC6, 0x42, 0, 0x44, 0x45, 0x18E])]

private def decompositionBlocks8 : List (Nat × List Nat) :=
  [(0x1D3C,
     [0x4F, 0x222, 0x50, 0x52, 0x54, 0x55, 0x57, 0x61, 0x250, 0x251, 0x1D02, 0x62, 0x64, 0x65,
      0x259, 0x25B, 0x25C, 0x67, 0, 0x6B, 0x6D, 0x14B, 0x6F, 0x254, 0x1D16, 0x1D17, 0x70, 0x74,
      0x75, 0x1D1D, 0x26F, 0x76, 0x1D25, 0x3B2, 0x3B3, 0x3B4, 0x3C6, 0x3C7, 0x69, 0x72, 0x75,
      0x76, 0x3B2, 0x3B3, 0x3C1, 0x3C6, 0x3C7]),
   (0x1D78, [0x43D]),
   (0x1D9B,
     [0x252, 0x63, 0x255, 0xF0, 0x25C, 0x66, 0x25F, 0x261, 0x265, 0x268, 0x269, 0x26A, 0x1D7B,
      0x29D, 0x26D, 0x1D85, 0x29F, 0x271, 0x270, 0x272, 0x273, 0x274, 0x275, 0x278, 0x282, 0x283,
      0x1AB, 0x289, 0x28A, 0x1D1C, 0x28B, 0x28C, 0x7A, 0x290, 0x291, 0x292, 0x3B8])]

private def decompositionBlocks9 : List (Nat × List Nat) :=
  [(0x1E00,
     [0x41_000325, 0x61_000325, 0x42_000307, 0x62_000307, 0x42_000323, 0x62_000323, 0x42_000331,
      0x62_000331, 0x43_000327_000301, 0x63_000327_000301, 0x44_000307, 0x64_000307, 0x44_000323,
      0x64_000323, 0x44_000331, 0x64_000331, 0x44_000327, 0x64_000327, 0x44_00032D, 0x64_00032D,
      0x45_000304_000300, 0x65_000304_000300, 0x45_000304_000301, 0x65_000304_000301, 0x45_00032D,
      0x65_00032D, 0x45_000330, 0x65_000330, 0x45_000327_000306, 0x65_000327_000306, 0x46_000307,
      0x66_000307, 0x47_000304, 0x67_000304, 0x48_000307, 0x68_000307, 0x48_000323, 0x68_000323,
      0x48_000308, 0x68_000308, 0x48_000327, 0x68_000327, 0x48_00032E, 0x68_00032E, 0x49_000330,
      0x69_000330, 0x49_000308_000301, 0x69_000308_000301, 0x4B_000301, 0x6B_000301, 0x4B_000323,
      0x6B_000323, 0x4B_000331, 0x6B_000331, 0x4C_000323, 0x6C_000323, 0x4C_000323_000304,
      0x6C_000323_000304, 0x4C_000331, 0x6C_000331, 0x4C_00032D, 0x6C_00032D, 0x4D_000301,
      0x6D_000301, 0x4D_000307, 0x6D_000307, 0x4D_000323, 0x6D_000323, 0x4E_000307, 0x6E_000307,
      0x4E_000323, 0x6E_000323, 0x4E_000331, 0x6E_000331, 0x4E_00032D, 0x6E_00032D,
      0x4F_000303_000301, 0x6F_000303_000301, 0x4F_000303_000308, 0x6F_000303_000308,
      0x4F_000304_000300, 0x6F_000304_000300, 0x4F_000304_000301, 0x6F_000304_000301, 0x50_000301,
      0x70_000301, 0x50_000307, 0x70_000307, 0x52_000307, 0x72_000307, 0x52_000323, 0x72_000323,
      0x52_000323_000304, 0x72_000323_000304, 0x52_000331, 0x72_000331])]

private def decompositionBlocks10 : List (Nat × List Nat) :=
  [(0x1E60,
     [0x53_000307, 0x73_000307, 0x53_000323, 0x73_000323, 0x53_000301_000307, 0x73_000301_000307,
      0x53_00030C_000307, 0x73_00030C_000307, 0x53_000323_000307, 0x73_000323_000307, 0x54_000307,
      0x74_000307, 0x54_000323, 0x74_000323, 0x54_000331, 0x74_000331, 0x54_00032D, 0x74_00032D,
      0x55_000324, 0x75_000324, 0x55_000330, 0x75_000330, 0x55_00032D, 0x75_00032D,
      0x55_000303_000301, 0x75_000303_000301, 0x55_000304_000308, 0x75_000304_000308, 0x56_000303,
      0x76_000303, 0x56_000323, 0x76_000323, 0x57_000300, 0x77_000300, 0x57_000301, 0x77_000301,
      0x57_000308, 0x77_000308, 0x57_000307, 0x77_000307, 0x57_000323, 0x77_000323, 0x58_000307,
      0x78_000307, 0x58_000308, 0x78_000308, 0x59_000307, 0x79_000307, 0x5A_000302, 0x7A_000302,
      0x5A_000323, 0x7A_000323, 0x5A_000331, 0x7A_000331, 0x68_000331, 0x74_000308, 0x77_00030A,
      0x79_00030A, 0x61_0002BE, 0x73_000307])]

private def decompositionBlocks11 : List (Nat × List Nat) :=
  [(0x1EA0,
     [0x41_000323, 0x61_000323, 0x41_000309, 0x61_000309, 0x41_000302_000301, 0x61_000302_000301,
      0x41_000302_000300, 0x61_000302_000300, 0x41_000302_000309, 0x61_000302_000309,
      0x41_000302_000303, 0x61_000302_000303, 0x41_000323_000302, 0x61_000323_000302,
      0x41_000306_000301, 0x61_000306_000301, 0x41_000306_000300, 0x61_000306_000300,
      0x41_000306_000309, 0x61_000306_000309, 0x41_000306_000303, 0x61_000306_000303,
      0x41_000323_000306, 0x61_000323_000306, 0x45_000323, 0x65_000323, 0x45_000309, 0x65_000309,
      0x45_000303, 0x65_000303, 0x45_000302_000301, 0x65_000302_000301, 0x45_000302_000300,
      0x65_000302_000300, 0x45_000302_000309, 0x65_000302_000309, 0x45_000302_000303,
      0x65_000302_000303, 0x45_000323_000302, 0x65_000323_000302, 0x49_000309, 0x69_000309,
      0x49_000323, 0x69_000323, 0x4F_000323, 0x6F_000323, 0x4F_000309, 0x6F_000309,
      0x4F_000302_000301, 0x6F_000302_000301, 0x4F_000302_000300, 0x6F_000302_000300,
      0x4F_000302_000309, 0x6F_000302_000309, 0x4F_000302_000303, 0x6F_000302_000303,
      0x4F_000323_000302, 0x6F_000323_000302, 0x4F_00031B_000301, 0x6F_00031B_000301,
      0x4F_00031B_000300, 0x6F_00031B_000300, 0x4F_00031B_000309, 0x6F_00031B_000309,
      0x4F_00031B_000303, 0x6F_00031B_000303, 0x4F_00031B_000323, 0x6F_00031B_000323, 0x55_000323,
      0x75_000323, 0x55_000309, 0x75_000309, 0x55_00031B_000301, 0x75_00031B_000301,
      0x55_00031B_000300, 0x75_00031B_000300, 0x55_00031B_000309, 0x75_00031B_000309,
      0x55_00031B_000303, 0x75_00031B_000303, 0x55_00031B_000323, 0x75_00031B_000323, 0x59_000300,
      0x79_000300, 0x59_000323, 0x79_000323, 0x59_000309, 0x79_000309, 0x59_000303, 0x79_000303])]

private def decompositionBlocks12 : List (Nat × List Nat) :=
  [(0x1F00,
     [0x3B1_000313, 0x3B1_000314, 0x3B1_000313_000300, 0x3B1_000314_000300, 0x3B1_000313_000301,
      0x3B1_000314_000301, 0x3B1_000313_000342, 0x3B1_000314_000342, 0x391_000313, 0x391_000314,
      0x391_000313_000300, 0x391_000314_000300, 0x391_000313_000301, 0x391_000314_000301,
      0x391_000313_000342, 0x391_000314_000342, 0x3B5_000313, 0x3B5_000314, 0x3B5_000313_000300,
      0x3B5_000314_000300, 0x3B5_000313_000301, 0x3B5_000314_000301, 0, 0, 0x395_000313,
      0x395_000314, 0x395_000313_000300, 0x395_000314_000300, 0x395_000313_000301,
      0x395_000314_000301, 0, 0, 0x3B7_000313, 0x3B7_000314, 0x3B7_000313_000300,
      0x3B7_000314_000300, 0x3B7_000313_000301, 0x3B7_000314_000301, 0x3B7_000313_000342,
      0x3B7_000314_000342, 0x397_000313, 0x397_000314, 0x397_000313_000300, 0x397_000314_000300,
      0x397_000313_000301, 0x397_000314_000301, 0x397_000313_000342, 0x397_000314_000342,
      0x3B9_000313, 0x3B9_000314, 0x3B9_000313_000300, 0x3B9_000314_000300, 0x3B9_000313_000301,
      0x3B9_000314_000301, 0x3B9_000313_000342, 0x3B9_000314_000342, 0x399_000313, 0x399_000314,
      0x399_000313_000300, 0x399_000314_000300, 0x399_000313_000301, 0x399_000314_000301,
      0x399_000313_000342, 0x399_000314_000342, 0x3BF_000313, 0x3BF_000314, 0x3BF_000313_000300,
      0x3BF_000314_000300, 0x3BF_000313_000301, 0x3BF_000314_000301, 0, 0, 0x39F_000313,
      0x39F_000314, 0x39F_000313_000300, 0x39F_000314_000300, 0x39F_000313_000301,
      0x39F_000314_000301, 0, 0, 0x3C5_000313, 0x3C5_000314, 0x3C5_000313_000300,
      0x3C5_000314_000300, 0x3C5_000313_000301, 0x3C5_000314_000301, 0x3C5_000313_000342,
      0x3C5_000314_000342, 0, 0x3A5_000314, 0, 0x3A5_000314_000300, 0, 0x3A5_000314_000301, 0,
      0x3A5_000314_000342])]

private def decompositionBlocks13 : List (Nat × List Nat) :=
  [(0x1F60,
     [0x3C9_000313, 0x3C9_000314, 0x3C9_000313_000300, 0x3C9_000314_000300, 0x3C9_000313_000301,
      0x3C9_000314_000301, 0x3C9_000313_000342, 0x3C9_000314_000342, 0x3A9_000313, 0x3A9_000314,
      0x3A9_000313_000300, 0x3A9_000314_000300, 0x3A9_000313_000301, 0x3A9_000314_000301,
      0x3A9_000313_000342, 0x3A9_000314_000342, 0x3B1_000300, 0x3B1_000301, 0x3B5_000300,
      0x3B5_000301, 0x3B7_000300, 0x3B7_000301, 0x3B9_000300, 0x3B9_000301, 0x3BF_000300,
      0x3BF_000301, 0x3C5_000300, 0x3C5_000301, 0x3C9_000300, 0x3C9_000301, 0, 0,
      0x3B1_000313_000345, 0x3B1_000314_000345, 0x3B1_000313_000300_000345,
      0x3B1_000314_000300_000345, 0x3B1_000313_000301_000345, 0x3B1_000314_000301_000345,
      0x3B1_000313_000342_000345, 0x3B1_000314_000342_000345, 0x391_000313_000345,
      0x391_000314_000345, 0x391_000313_000300_000345, 0x391_000314_000300_000345,
      0x391_000313_000301_000345, 0x391_000314_000301_000345, 0x391_000313_000342_000345,
      0x391_000314_000342_000345, 0x3B7_000313_000345, 0x3B7_000314_000345,
      0x3B7_000313_000300_000345, 0x3B7_000314_000300_000345, 0x3B7_000313_000301_000345,
      0x3B7_000314_000301_000345, 0x3B7_000313_000342_000345, 0x3B7_000314_000342_000345,
      0x397_000313_000345, 0x397_000314_000345, 0x397_000313_000300_000345,
      0x397_000314_000300_000345, 0x397_000313_000301_000345, 0x397_000314_000301_000345,
      0x397_000313_000342_000345, 0x397_000314_000342_000345, 0x3C9_000313_000345,
      0x3C9_000314_000345, 0x3C9_000313_000300_000345, 0x3C9_000314_000300_000345,
      0x3C9_000313_000301_000345, 0x3C9_000314_000301_000345, 0x3C9_000313_000342_000345,
      0x3C9_000314_000342_000345, 0x3A9_000313_000345, 0x3A9_000314_000345,
      0x3A9_000313_000300_000345, 0x3A9_000314_000300_000345, 0x3A9_000313_000301_000345,
      0x3A9_000314_000301_000345, 0x3A9_000313_000342_000345, 0x3A9_000314_000342_000345,
      0x3B1_000306, 0x3B1_000304, 0x3B1_000300_000345, 0x3B1_000345, 0x3B1_000301_000345, 0,
      0x3B1_000342, 0x3B1_000342_000345, 0x391_000306, 0x391_000304, 0x391_000300, 0x391_000301,
      0x391_000345, 0x20_000313, 0x3B9, 0x20_000313])]

private def decompositionBlocks14 : List (Nat × List Nat) :=
  [(0x1FC0,
     [0x20_000342, 0x20_000308_000342, 0x3B7_000300_000345, 0x3B7_000345, 0x3B7_000301_000345, 0,
      0x3B7_000342, 0x3B7_000342_000345, 0x395_000300, 0x395_000301, 0x397_000300, 0x397_000301,
      0x397_000345, 0x20_000313_000300, 0x20_000313_000301, 0x20_000313_000342, 0x3B9_000306,
      0x3B9_000304, 0x3B9_000308_000300, 0x3B9_000308_000301, 0, 0, 0x3B9_000342,
      0x3B9_000308_000342, 0x399_000306, 0x399_000304, 0x399_000300, 0x399_000301, 0,
      0x20_000314_000300, 0x20_000314_000301, 0x20_000314_000342, 0x3C5_000306, 0x3C5_000304,
      0x3C5_000308_000300, 0x3C5_000308_000301, 0x3C1_000313, 0x3C1_000314, 0x3C5_000342,
      0x3C5_000308_000342, 0x3A5_000306, 0x3A5_000304, 0x3A5_000300, 0x3A5_000301, 0x3A1_000314,
      0x20_000308_000300, 0x20_000308_000301, 0x60, 0, 0, 0x3C9_000300_000345, 0x3C9_000345,
      0x3C9_000301_000345, 0, 0x3C9_000342, 0x3C9_000342_000345, 0x39F_000300, 0x39F_000301,
      0x3A9_000300, 0x3A9_000301, 0x3A9_000345, 0x20_000301, 0x20_000314, 0, 0x20, 0x20, 0x20,
      0x20, 0x20, 0x20, 0x20, 0x20, 0x20, 0x20, 0x20]),
   (0x2011, [0x2010]),
   (0x2017, [0x20_000333]),
   (0x2024, [0x2E, 0x2E_00002E, 0x2E_00002E_00002E]),
   (0x202F, [0x20]),
   (0x2033, [0x2032_002032, 0x2032_002032_002032, 0, 0x2035_002035, 0x2035_002035_002035]),
   (0x203C, [0x21_000021, 0, 0x20_000305]),
   (0x2047, [0x3F_00003F, 0x3F_000021, 0x21_00003F]),
   (0x2057, [0x2032_002032_002032_002032]),
   (0x205F, [0x20]),
   (0x2070, [0x30, 0x69])]

private def decompositionBlocks15 : List (Nat × List Nat) :=
  [(0x207A, [0x2B, 0x2212, 0x3D, 0x28, 0x29, 0x6E]),
   (0x208A,
     [0x2B, 0x2212, 0x3D, 0x28, 0x29, 0, 0x61, 0x65, 0x6F, 0x78, 0x259, 0x68, 0x6B, 0x6C, 0x6D,
      0x6E, 0x70, 0x73, 0x74]),
   (0x20A8, [0x52_000073]),
   (0x2100,
     [0x61_00002F_000063, 0x61_00002F_000073, 0x43, 0xB0_000043, 0, 0x63_00002F_00006F,
      0x63_00002F_000075, 0x190, 0, 0xB0_000046, 0x67, 0x48, 0x48, 0x48, 0x68, 0x127, 0x49, 0x49,
      0x4C, 0x6C, 0, 0x4E, 0x4E_00006F, 0, 0, 0x50, 0x51, 0x52, 0x52, 0x52, 0, 0, 0x53_00004D,
      0x54_000045_00004C, 0x54_00004D, 0, 0x5A, 0, 0x3A9, 0, 0x5A, 0, 0x4B, 0x41_00030A, 0x42,
      0x43, 0, 0x65, 0x45, 0x46, 0, 0x4D, 0x6F, 0x5D0, 0x5D1, 0x5D2, 0x5D3, 0x69, 0,
      0x46_000041_000058, 0x3C0, 0x3B3, 0x393, 0x3A0, 0x2211]),
   (0x2145, [0x44, 0x64, 0x65, 0x69, 0x6A])]

private def decompositionBlocks16 : List (Nat × List Nat) :=
  [(0x2150,
     [0x31_002044_000037, 0x31_002044_000039, 0x31_002044_000031_000030, 0x31_002044_000033,
      0x32_002044_000033, 0x31_002044_000035, 0x32_002044_000035, 0x33_002044_000035,
      0x34_002044_000035, 0x31_002044_000036, 0x35_002044_000036, 0x31_002044_000038,
      0x33_002044_000038, 0x35_002044_000038, 0x37_002044_000038, 0x31_002044, 0x49, 0x49_000049,
      0x49_000049_000049, 0x49_000056, 0x56, 0x56_000049, 0x56_000049_000049,
      0x56_000049_000049_000049, 0x49_000058, 0x58, 0x58_000049, 0x58_000049_000049, 0x4C, 0x43,
      0x44, 0x4D, 0x69, 0x69_000069, 0x69_000069_000069, 0x69_000076, 0x76, 0x76_000069,
      0x76_000069_000069, 0x76_000069_000069_000069, 0x69_000078, 0x78, 0x78_000069,
      0x78_000069_000069, 0x6C, 0x63, 0x64, 0x6D]),
   (0x2189, [0x30_002044_000033]),
   (0x219A, [0x2190_000338, 0x2192_000338]),
   (0x21AE, [0x2194_000338]),
   (0x21CD, [0x21D0_000338, 0x21D4_000338, 0x21D2_000338]),
   (0x2204, [0x2203_000338]),
   (0x2209, [0x2208_000338, 0, 0, 0x220B_000338]),
   (0x2224, [0x2223_000338, 0, 0x2225_000338]),
   (0x222C, [0x222B_00222B, 0x222B_00222B_00222B, 0, 0x222E_00222E, 0x222E_00222E_00222E]),
   (0x2241,
     [0x223C_000338, 0, 0, 0x2243_000338, 0, 0, 0x2245_000338, 0, 0x2248_000338]),
   (0x2260, [0x3D_000338, 0, 0x2261_000338]),
   (0x226D,
     [0x224D_000338, 0x3C_000338, 0x3E_000338, 0x2264_000338, 0x2265_000338, 0, 0, 0x2272_000338,
      0x2273_000338, 0, 0, 0x2276_000338, 0x2277_000338])]

private def decompositionBlocks17 : List (Nat × List Nat) :=
  [(0x2280,
     [0x227A_000338, 0x227B_000338, 0, 0, 0x2282_000338, 0x2283_000338, 0, 0, 0x2286_000338,
      0x2287_000338]),
   (0x22AC, [0x22A2_000338, 0x22A8_000338, 0x22A9_000338, 0x22AB_000338]),
   (0x22E0, [0x227C_000338, 0x227D_000338, 0x2291_000338, 0x2292_000338]),
   (0x22EA, [0x22B2_000338, 0x22B3_000338, 0x22B4_000338, 0x22B5_000338]),
   (0x2329, [0x3008, 0x3009]),
   (0x2469,
     [0x31_000030, 0x31_000031, 0x31_000032, 0x31_000033, 0x31_000034, 0x31_000035, 0x31_000036,
      0x31_000037, 0x31_000038, 0x31_000039, 0x32_000030, 0x28_000031_000029, 0x28_000032_000029,
      0x28_000033_000029, 0x28_000034_000029, 0x28_000035_000029, 0x28_000036_000029,
      0x28_000037_000029, 0x28_000038_000029, 0x28_000039_000029, 0x28_000031_000030_000029,
      0x28_000031_000031_000029, 0x28_000031_000032_000029, 0x28_000031_000033_000029,
      0x28_000031_000034_000029, 0x28_000031_000035_000029, 0x28_000031_000036_000029,
      0x28_000031_000037_000029, 0x28_000031_000038_000029, 0x28_000031_000039_000029,
      0x28_000032_000030_000029, 0x31_00002E, 0x32_00002E, 0x33_00002E, 0x34_00002E, 0x35_00002E,
      0x36_00002E, 0x37_00002E, 0x38_00002E, 0x39_00002E, 0x31_000030_00002E, 0x31_000031_00002E,
      0x31_000032_00002E, 0x31_000033_00002E, 0x31_000034_00002E, 0x31_000035_00002E,
      0x31_000036_00002E, 0x31_000037_00002E, 0x31_000038_00002E, 0x31_000039_00002E,
      0x32_000030_00002E, 0x28_000061_000029, 0x28_000062_000029, 0x28_000063_000029,
      0x28_000064_000029, 0x28_000065_000029, 0x28_000066_000029, 0x28_000067_000029,
      0x28_000068_000029, 0x28_000069_000029, 0x28_00006A_000029, 0x28_00006B_000029,
      0x28_00006C_000029, 0x28_00006D_000029, 0x28_00006E_000029, 0x28_00006F_000029,
      0x28_000070_000029, 0x28_000071_000029, 0x28_000072_000029, 0x28_000073_000029,
      0x28_000074_000029, 0x28_000075_000029, 0x28_000076_000029, 0x28_000077_000029,
      0x28_000078_000029, 0x28_000079_000029, 0x28_00007A_000029]),
   (0x24EA, [0x30]),
   (0x2A0C, [0x222B_00222B_00222B_00222B])]

private def decompositionBlocks18 : List (Nat × List Nat) :=
  [(0x2A74, [0x3A_00003A_00003D, 0x3D_00003D, 0x3D_00003D_00003D]),
   (0x2ADC, [0x2ADD_000338]),
   (0x2C7C, [0x6A, 0x56]),
   (0x2D6F, [0x2D61]),
   (0x2E9F, [0x6BCD]),
   (0x2EF3, [0x9F9F])]

private def decompositionBlocks19 : List (Nat × List Nat) :=
  [(0x2F00,
     [0x4E00, 0x4E28, 0x4E36, 0x4E3F, 0x4E59, 0x4E85, 0x4E8C, 0x4EA0, 0x4EBA, 0x513F, 0x5165,
      0x516B, 0x5182, 0x5196, 0x51AB, 0x51E0, 0x51F5, 0x5200, 0x529B, 0x52F9, 0x5315, 0x531A,
      0x5338, 0x5341, 0x535C, 0x5369, 0x5382, 0x53B6, 0x53C8, 0x53E3, 0x56D7, 0x571F, 0x58EB,
      0x5902, 0x590A, 0x5915, 0x5927, 0x5973, 0x5B50, 0x5B80, 0x5BF8, 0x5C0F, 0x5C22, 0x5C38,
      0x5C6E, 0x5C71, 0x5DDB, 0x5DE5, 0x5DF1, 0x5DFE, 0x5E72, 0x5E7A, 0x5E7F, 0x5EF4, 0x5EFE,
      0x5F0B, 0x5F13, 0x5F50, 0x5F61, 0x5F73, 0x5FC3, 0x6208, 0x6236, 0x624B, 0x652F, 0x6534,
      0x6587, 0x6597, 0x65A4, 0x65B9, 0x65E0, 0x65E5, 0x66F0, 0x6708, 0x6728, 0x6B20, 0x6B62,
      0x6B79, 0x6BB3, 0x6BCB, 0x6BD4, 0x6BDB, 0x6C0F, 0x6C14, 0x6C34, 0x706B, 0x722A, 0x7236,
      0x723B, 0x723F, 0x7247, 0x7259, 0x725B, 0x72AC, 0x7384, 0x7389])]

private def decompositionBlocks20 : List (Nat × List Nat) :=
  [(0x2F60,
     [0x74DC, 0x74E6, 0x7518, 0x751F, 0x7528, 0x7530, 0x758B, 0x7592, 0x7676, 0x767D, 0x76AE,
      0x76BF, 0x76EE, 0x77DB, 0x77E2, 0x77F3, 0x793A, 0x79B8, 0x79BE, 0x7A74, 0x7ACB, 0x7AF9,
      0x7C73, 0x7CF8, 0x7F36, 0x7F51, 0x7F8A, 0x7FBD, 0x8001, 0x800C, 0x8012, 0x8033, 0x807F,
      0x8089, 0x81E3, 0x81EA, 0x81F3, 0x81FC, 0x820C, 0x821B, 0x821F, 0x826E, 0x8272, 0x8278,
      0x864D, 0x866B, 0x8840, 0x884C, 0x8863, 0x897E, 0x898B, 0x89D2, 0x8A00, 0x8C37, 0x8C46,
      0x8C55, 0x8C78, 0x8C9D, 0x8D64, 0x8D70, 0x8DB3, 0x8EAB, 0x8ECA, 0x8F9B, 0x8FB0, 0x8FB5,
      0x9091, 0x9149, 0x91C6, 0x91CC, 0x91D1, 0x9577, 0x9580, 0x961C, 0x96B6, 0x96B9, 0x96E8,
      0x9751, 0x975E, 0x9762, 0x9769, 0x97CB, 0x97ED, 0x97F3, 0x9801, 0x98A8, 0x98DB, 0x98DF,
      0x9996, 0x9999, 0x99AC, 0x9AA8, 0x9AD8, 0x9ADF, 0x9B25, 0x9B2F])]

private def decompositionBlocks21 : List (Nat × List Nat) :=
  [(0x2FC0,
     [0x9B32, 0x9B3C, 0x9B5A, 0x9CE5, 0x9E75, 0x9E7F, 0x9EA5, 0x9EBB, 0x9EC3, 0x9ECD, 0x9ED1,
      0x9EF9, 0x9EFD, 0x9F0E, 0x9F13, 0x9F20, 0x9F3B, 0x9F4A, 0x9F52, 0x9F8D, 0x9F9C, 0x9FA0]),
   (0x3000, [0x20]),
   (0x3036, [0x3012, 0, 0x5341, 0x5344, 0x5345]),
   (0x304C,
     [0x304B_003099, 0, 0x304D_003099, 0, 0x304F_003099, 0, 0x3051_003099, 0, 0x3053_003099, 0,
      0x3055_003099, 0, 0x3057_003099, 0, 0x3059_003099, 0, 0x305B_003099, 0, 0x305D_003099, 0,
      0x305F_003099, 0, 0x3061_003099, 0, 0, 0x3064_003099, 0, 0x3066_003099, 0, 0x3068_003099]),
   (0x3070,
     [0x306F_003099, 0x306F_00309A, 0, 0x3072_003099, 0x3072_00309A, 0, 0x3075_003099,
      0x3075_00309A, 0, 0x3078_003099, 0x3078_00309A, 0, 0x307B_003099, 0x307B_00309A]),
   (0x3094, [0x3046_003099]),
   (0x309B, [0x20_003099, 0x20_00309A, 0, 0x309D_003099, 0x3088_00308A])]

private def decompositionBlocks22 : List (Nat × List Nat) :=
  [(0x30AC,
     [0x30AB_003099, 0, 0x30AD_003099, 0, 0x30AF_003099, 0, 0x30B1_003099, 0, 0x30B3_003099, 0,
      0x30B5_003099, 0, 0x30B7_003099, 0, 0x30B9_003099, 0, 0x30BB_003099, 0, 0x30BD_003099, 0,
      0x30BF_003099, 0, 0x30C1_003099, 0, 0, 0x30C4_003099, 0, 0x30C6_003099, 0, 0x30C8_003099]),
   (0x30D0,
     [0x30CF_003099, 0x30CF_00309A, 0, 0x30D2_003099, 0x30D2_00309A, 0, 0x30D5_003099,
      0x30D5_00309A, 0, 0x30D8_003099, 0x30D8_00309A, 0, 0x30DB_003099, 0x30DB_00309A]),
   (0x30F4,
     [0x30A6_003099, 0, 0, 0x30EF_003099, 0x30F0_003099, 0x30F1_003099, 0x30F2_003099]),
   (0x30FE, [0x30FD_003099, 0x30B3_0030C8]),
   (0x3131,
     [0x1100, 0x1101, 0x11AA, 0x1102, 0x11AC, 0x11AD, 0x1103, 0x1104, 0x1105]),
   (0x3140, [0x111A, 0x1106, 0x1107, 0x1108, 0x1121]),
   (0x3164,
     [0x1160, 0x1114, 0x1115, 0x11C7, 0x11C8, 0x11CC, 0x11CE, 0x11D3, 0x11D7, 0x11D9, 0x111C,
      0x11DD, 0x11DF, 0x111D, 0x111E, 0x1120, 0x1122, 0x1123, 0x1127, 0x1129])]

private def decompositionBlocks23 : List (Nat × List Nat) :=
  [(0x317D,
     [0x1132, 0x1136, 0x1140, 0x1147, 0x114C, 0x11F1, 0x11F2, 0x1157, 0x1158, 0x1159, 0x1184,
      0x1185, 0x1188, 0x1191, 0x1192, 0x1194, 0x119E, 0x11A1]),
   (0x3192,
     [0x4E00, 0x4E8C, 0x4E09, 0x56DB, 0x4E0A, 0x4E2D, 0x4E0B, 0x7532, 0x4E59, 0x4E19, 0x4E01,
      0x5929, 0x5730, 0x4EBA]),
   (0x3200,
     [0x28_001100_000029, 0x28_001102_000029, 0x28_001103_000029, 0x28_001105_000029,
      0x28_001106_000029, 0x28_001107_000029, 0x28_001109_000029, 0x28_00110B_000029,
      0x28_00110C_000029, 0x28_00110E_000029, 0x28_00110F_000029, 0x28_001110_000029,
      0x28_001111_000029, 0x28_001112_000029, 0x28_001100_001161_000029,
      0x28_001102_001161_000029, 0x28_001103_001161_000029, 0x28_001105_001161_000029,
      0x28_001106_001161_000029, 0x28_001107_001161_000029, 0x28_001109_001161_000029,
      0x28_00110B_001161_000029, 0x28_00110C_001161_000029, 0x28_00110E_001161_000029,
      0x28_00110F_001161_000029, 0x28_001110_001161_000029, 0x28_001111_001161_000029,
      0x28_001112_001161_000029, 0x28_00110C_00116E_000029,
      0x28_00110B_001169_00110C_001165_0011AB_000029, 0x28_00110B_001169_001112_00116E_000029, 0,
      0x28_004E00_000029, 0x28_004E8C_000029, 0x28_004E09_000029, 0x28_0056DB_000029,
      0x28_004E94_000029, 0x28_00516D_000029, 0x28_004E03_000029, 0x28_00516B_000029,
      0x28_004E5D_000029, 0x28_005341_000029, 0x28_006708_000029, 0x28_00706B_000029,
      0x28_006C34_000029, 0x28_006728_000029, 0x28_0091D1_000029, 0x28_00571F_000029,
      0x28_0065E5_000029, 0x28_00682A_000029, 0x28_006709_000029, 0x28_00793E_000029,
      0x28_00540D_000029, 0x28_007279_000029, 0x28_008CA1_000029, 0x28_00795D_000029,
      0x28_0052B4_000029, 0x28_004EE3_000029, 0x28_00547C_000029, 0x28_005B66_000029,
      0x28_0076E3_000029, 0x28_004F01_000029, 0x28_008CC7_000029, 0x28_005354_000029,
      0x28_00796D_000029, 0x28_004F11_000029, 0x28_0081EA_000029, 0x28_0081F3_000029, 0x554F,
      0x5E7C, 0x6587, 0x7B8F])]

private def decompositionBlocks24 : List (Nat × List Nat) :=
  [(0x3250,
     [0x50_000054_000045, 0x32_000031, 0x32_000032, 0x32_000033, 0x32_000034, 0x32_000035,
      0x32_000036, 0x32_000037, 0x32_000038, 0x32_000039, 0x33_000030, 0x33_000031, 0x33_000032,
      0x33_000033, 0x33_000034, 0x33_000035, 0x1100, 0x1102, 0x1103, 0x1105, 0x1106, 0x1107,
      0x1109, 0x110B, 0x110C])]

private def decompositionBlocks25 : List (Nat × List Nat) :=
  [(0x326E,
     [0x1100_001161, 0x1102_001161, 0x1103_001161, 0x1105_001161, 0x1106_001161, 0x1107_001161,
      0x1109_001161, 0x110B_001161, 0x110C_001161, 0x110E_001161, 0x110F_001161, 0x1110_001161,
      0x1111_001161, 0x1112_001161, 0x110E_001161_0011B7_001100_001169,
      0x110C_00116E_00110B_001174, 0x110B_00116E, 0, 0x4E00, 0x4E8C, 0x4E09, 0x56DB, 0x4E94,
      0x516D, 0x4E03, 0x516B, 0x4E5D, 0x5341, 0x6708, 0x706B, 0x6C34, 0x6728, 0x91D1, 0x571F,
      0x65E5, 0x682A, 0x6709, 0x793E, 0x540D, 0x7279, 0x8CA1, 0x795D, 0x52B4, 0x79D8, 0x7537,
      0x5973, 0x9069, 0x512A, 0x5370, 0x6CE8, 0x9805, 0x4F11, 0x5199, 0x6B63, 0x4E0A, 0x4E2D,
      0x4E0B, 0x5DE6, 0x53F3, 0x533B, 0x5B97, 0x5B66, 0x76E3, 0x4F01, 0x8CC7, 0x5354, 0x591C,
      0x33_000036, 0x33_000037, 0x33_000038, 0x33_000039, 0x34_000030, 0x34_000031, 0x34_000032,
      0x34_000033, 0x34_000034, 0x34_000035, 0x34_000036, 0x34_000037, 0x34_000038, 0x34_000039,
      0x35_000030, 0x31_006708, 0x32_006708, 0x33_006708, 0x34_006708, 0x35_006708, 0x36_006708,
      0x37_006708, 0x38_006708, 0x39_006708, 0x31_000030_006708, 0x31_000031_006708,
      0x31_000032_006708, 0x48_000067, 0x65_000072_000067])]

private def decompositionBlocks26 : List (Nat × List Nat) :=
  [(0x32CE,
     [0x65_000056, 0x4C_000054_000044, 0x30A2, 0x30A4, 0x30A6, 0x30A8, 0x30AA, 0x30AB, 0x30AD,
      0x30AF, 0x30B1, 0x30B3, 0x30B5, 0x30B7, 0x30B9, 0x30BB, 0x30BD, 0x30BF, 0x30C1, 0x30C4,
      0x30C6, 0x30C8]),
   (0x32EA, [0x30D2, 0x30D5, 0x30D8, 0x30DB]),
   (0x32F3, [0x30E4, 0x30E6])]

private def decompositionBlocks27 : List (Nat × List Nat) :=
  [(0x32FB,
     [0x30EF, 0x30F0, 0x30F1, 0x30F2, 0x4EE4_00548C, 0x30A2_0030CF_00309A_0030FC_0030C8,
      0x30A2_0030EB_0030D5_0030A1, 0x30A2_0030F3_0030D8_00309A_0030A2, 0x30A2_0030FC_0030EB,
      0x30A4_0030CB_0030F3_0030AF_003099, 0x30A4_0030F3_0030C1, 0x30A6_0030A9_0030F3,
      0x30A8_0030B9_0030AF_0030FC_0030C8_003099, 0x30A8_0030FC_0030AB_0030FC,
      0x30AA_0030F3_0030B9, 0x30AA_0030FC_0030E0, 0x30AB_0030A4_0030EA,
      0x30AB_0030E9_0030C3_0030C8, 0x30AB_0030ED_0030EA_0030FC, 0x30AB_003099_0030ED_0030F3,
      0x30AB_003099_0030F3_0030DE, 0x30AD_003099_0030AB_003099, 0x30AD_003099_0030CB_0030FC,
      0x30AD_0030E5_0030EA_0030FC, 0x30AD_003099_0030EB_0030BF_003099_0030FC, 0x30AD_0030ED,
      0x30AD_0030ED_0030AF_003099_0030E9_0030E0, 0x30AD_0030ED_0030E1_0030FC_0030C8_0030EB,
      0x30AD_0030ED_0030EF_0030C3_0030C8, 0x30AF_003099_0030E9_0030E0,
      0x30AF_003099_0030E9_0030E0_0030C8_0030F3, 0x30AF_0030EB_0030BB_003099_0030A4_0030ED,
      0x30AF_0030ED_0030FC_0030CD, 0x30B1_0030FC_0030B9, 0x30B3_0030EB_0030CA,
      0x30B3_0030FC_0030DB_00309A, 0x30B5_0030A4_0030AF_0030EB,
      0x30B5_0030F3_0030C1_0030FC_0030E0, 0x30B7_0030EA_0030F3_0030AF_003099,
      0x30BB_0030F3_0030C1, 0x30BB_0030F3_0030C8, 0x30BF_003099_0030FC_0030B9,
      0x30C6_003099_0030B7, 0x30C8_003099_0030EB, 0x30C8_0030F3, 0x30CA_0030CE,
      0x30CE_0030C3_0030C8, 0x30CF_0030A4_0030C4, 0x30CF_00309A_0030FC_0030BB_0030F3_0030C8,
      0x30CF_00309A_0030FC_0030C4, 0x30CF_003099_0030FC_0030EC_0030EB,
      0x30D2_00309A_0030A2_0030B9_0030C8_0030EB, 0x30D2_00309A_0030AF_0030EB,
      0x30D2_00309A_0030B3, 0x30D2_003099_0030EB, 0x30D5_0030A1_0030E9_0030C3_0030C8_003099,
      0x30D5_0030A3_0030FC_0030C8, 0x30D5_003099_0030C3_0030B7_0030A7_0030EB,
      0x30D5_0030E9_0030F3, 0x30D8_0030AF_0030BF_0030FC_0030EB, 0x30D8_00309A_0030BD,
      0x30D8_00309A_0030CB_0030D2, 0x30D8_0030EB_0030C4, 0x30D8_00309A_0030F3_0030B9,
      0x30D8_00309A_0030FC_0030B7_003099, 0x30D8_003099_0030FC_0030BF,
      0x30DB_00309A_0030A4_0030F3_0030C8, 0x30DB_003099_0030EB_0030C8, 0x30DB_0030F3,
      0x30DB_00309A_0030F3_0030C8_003099, 0x30DB_0030FC_0030EB, 0x30DB_0030FC_0030F3,
      0x30DE_0030A4_0030AF_0030ED, 0x30DE_0030A4_0030EB, 0x30DE_0030C3_0030CF,
      0x30DE_0030EB_0030AF, 0x30DE_0030F3_0030B7_0030E7_0030F3, 0x30DF_0030AF_0030ED_0030F3,
      0x30DF_0030EA, 0x30DF_0030EA_0030CF_003099_0030FC_0030EB, 0x30E1_0030AB_003099,
      0x30E1_0030AB_003099_0030C8_0030F3, 0x30E1_0030FC_0030C8_0030EB,
      0x30E4_0030FC_0030C8_003099, 0x30E4_0030FC_0030EB, 0x30E6_0030A2_0030F3,
      0x30EA_0030C3_0030C8_0030EB, 0x30EA_0030E9, 0x30EB_0030D2_00309A_0030FC,
      0x30EB_0030FC_0030D5_003099_0030EB, 0x30EC_0030E0,
      0x30EC_0030F3_0030C8_0030B1_003099_0030F3, 0x30EF_0030C3_0030C8, 0x30_0070B9, 0x31_0070B9,
      0x32_0070B9])]

private def decompositionBlocks28 : List (Nat × List Nat) :=
  [(0x335B,
     [0x33_0070B9, 0x34_0070B9, 0x35_0070B9, 0x36_0070B9, 0x37_0070B9, 0x38_0070B9, 0x39_0070B9,
      0x31_000030_0070B9, 0x31_000031_0070B9, 0x31_000032_0070B9, 0x31_000033_0070B9,
      0x31_000034_0070B9, 0x31_000035_0070B9, 0x31_000036_0070B9, 0x31_000037_0070B9,
      0x31_000038_0070B9, 0x31_000039_0070B9, 0x32_000030_0070B9, 0x32_000031_0070B9,
      0x32_000032_0070B9, 0x32_000033_0070B9, 0x32_000034_0070B9, 0x68_000050_000061, 0x64_000061,
      0x41_000055, 0x62_000061_000072, 0x6F_000056, 0x70_000063, 0x64_00006D, 0x64_00006D_000032,
      0x64_00006D_000033, 0x49_000055, 0x5E73_006210, 0x662D_00548C, 0x5927_006B63, 0x660E_006CBB,
      0x682A_005F0F_004F1A_00793E, 0x70_000041, 0x6E_000041, 0x3BC_000041, 0x6D_000041,
      0x6B_000041, 0x4B_000042, 0x4D_000042, 0x47_000042, 0x63_000061_00006C,
      0x6B_000063_000061_00006C, 0x70_000046, 0x6E_000046, 0x3BC_000046, 0x3BC_000067,
      0x6D_000067, 0x6B_000067, 0x48_00007A, 0x6B_000048_00007A, 0x4D_000048_00007A,
      0x47_000048_00007A, 0x54_000048_00007A, 0x3BC_00006C, 0x6D_00006C, 0x64_00006C, 0x6B_00006C,
      0x66_00006D, 0x6E_00006D, 0x3BC_00006D, 0x6D_00006D, 0x63_00006D, 0x6B_00006D,
      0x6D_00006D_000032, 0x63_00006D_000032, 0x6D_000032, 0x6B_00006D_000032, 0x6D_00006D_000033,
      0x63_00006D_000033, 0x6D_000033, 0x6B_00006D_000033, 0x6D_002215_000073,
      0x6D_002215_000073_000032, 0x50_000061, 0x6B_000050_000061, 0x4D_000050_000061,
      0x47_000050_000061, 0x72_000061_000064, 0x72_000061_000064_002215_000073,
      0x72_000061_000064_002215_000073_000032, 0x70_000073, 0x6E_000073, 0x3BC_000073,
      0x6D_000073, 0x70_000056, 0x6E_000056, 0x3BC_000056, 0x6D_000056, 0x6B_000056, 0x4D_000056,
      0x70_000057])]

private def decompositionBlocks29 : List (Nat × List Nat) :=
  [(0x33BB,
     [0x6E_000057, 0x3BC_000057, 0x6D_000057, 0x6B_000057, 0x4D_000057, 0x6B_0003A9, 0x4D_0003A9,
      0x61_00002E_00006D_00002E, 0x42_000071, 0x63_000063, 0x63_000064, 0x43_002215_00006B_000067,
      0x43_00006F_00002E, 0x64_000042, 0x47_000079, 0x68_000061, 0x48_000050, 0x69_00006E,
      0x4B_00004B, 0x4B_00004D, 0x6B_000074, 0x6C_00006D, 0x6C_00006E, 0x6C_00006F_000067,
      0x6C_000078, 0x6D_000062, 0x6D_000069_00006C, 0x6D_00006F_00006C, 0x50_000048,
      0x70_00002E_00006D_00002E, 0x50_000050_00004D, 0x50_000052, 0x73_000072, 0x53_000076,
      0x57_000062, 0x56_002215_00006D, 0x41_002215_00006D, 0x31_0065E5, 0x32_0065E5, 0x33_0065E5,
      0x34_0065E5, 0x35_0065E5, 0x36_0065E5, 0x37_0065E5, 0x38_0065E5, 0x39_0065E5,
      0x31_000030_0065E5, 0x31_000031_0065E5, 0x31_000032_0065E5, 0x31_000033_0065E5,
      0x31_000034_0065E5, 0x31_000035_0065E5, 0x31_000036_0065E5, 0x31_000037_0065E5,
      0x31_000038_0065E5, 0x31_000039_0065E5, 0x32_000030_0065E5, 0x32_000031_0065E5,
      0x32_000032_0065E5, 0x32_000033_0065E5, 0x32_000034_0065E5, 0x32_000035_0065E5,
      0x32_000036_0065E5, 0x32_000037_0065E5, 0x32_000038_0065E5, 0x32_000039_0065E5,
      0x33_000030_0065E5, 0x33_000031_0065E5, 0x67_000061_00006C]),
   (0xA69C, [0x44A, 0x44C]),
   (0xA770, [0xA76F]),
   (0xA7F1, [0x53, 0x43, 0x46, 0x51]),
   (0xA7F8, [0x126, 0x153]),
   (0xAB5C, [0xA727, 0xAB37, 0x26B, 0xAB52]),
   (0xAB69, [0x28D])]

private def decompositionBlocks30 : List (Nat × List Nat) :=
  [(0xF900,
     [0x8C48, 0x66F4, 0x8ECA, 0x8CC8, 0x6ED1, 0x4E32, 0x53E5, 0x9F9C, 0x9F9C, 0x5951, 0x91D1,
      0x5587, 0x5948, 0x61F6, 0x7669, 0x7F85, 0x863F, 0x87BA, 0x88F8, 0x908F, 0x6A02, 0x6D1B,
      0x70D9, 0x73DE, 0x843D, 0x916A, 0x99F1, 0x4E82, 0x5375, 0x6B04, 0x721B, 0x862D, 0x9E1E,
      0x5D50, 0x6FEB, 0x85CD, 0x8964, 0x62C9, 0x81D8, 0x881F, 0x5ECA, 0x6717, 0x6D6A, 0x72FC,
      0x90CE, 0x4F86, 0x51B7, 0x52DE, 0x64C4, 0x6AD3, 0x7210, 0x76E7, 0x8001, 0x8606, 0x865C,
      0x8DEF, 0x9732, 0x9B6F, 0x9DFA, 0x788C, 0x797F, 0x7DA0, 0x83C9, 0x9304, 0x9E7F, 0x8AD6,
      0x58DF, 0x5F04, 0x7C60, 0x807E, 0x7262, 0x78CA, 0x8CC2, 0x96F7, 0x58D8, 0x5C62, 0x6A13,
      0x6DDA, 0x6F0F, 0x7D2F, 0x7E37, 0x964B, 0x52D2, 0x808B, 0x51DC, 0x51CC, 0x7A1C, 0x7DBE,
      0x83F1, 0x9675, 0x8B80, 0x62CF, 0x6A02, 0x8AFE, 0x4E39, 0x5BE7])]

private def decompositionBlocks31 : List (Nat × List Nat) :=
  [(0xF960,
     [0x6012, 0x7387, 0x7570, 0x5317, 0x78FB, 0x4FBF, 0x5FA9, 0x4E0D, 0x6CCC, 0x6578, 0x7D22,
      0x53C3, 0x585E, 0x7701, 0x8449, 0x8AAA, 0x6BBA, 0x8FB0, 0x6C88, 0x62FE, 0x82E5, 0x63A0,
      0x7565, 0x4EAE, 0x5169, 0x51C9, 0x6881, 0x7CE7, 0x826F, 0x8AD2, 0x91CF, 0x52F5, 0x5442,
      0x5973, 0x5EEC, 0x65C5, 0x6FFE, 0x792A, 0x95AD, 0x9A6A, 0x9E97, 0x9ECE, 0x529B, 0x66C6,
      0x6B77, 0x8F62, 0x5E74, 0x6190, 0x6200, 0x649A, 0x6F23, 0x7149, 0x7489, 0x79CA, 0x7DF4,
      0x806F, 0x8F26, 0x84EE, 0x9023, 0x934A, 0x5217, 0x52A3, 0x54BD, 0x70C8, 0x88C2, 0x8AAA,
      0x5EC9, 0x5FF5, 0x637B, 0x6BAE, 0x7C3E, 0x7375, 0x4EE4, 0x56F9, 0x5BE7, 0x5DBA, 0x601C,
      0x73B2, 0x7469, 0x7F9A, 0x8046, 0x9234, 0x96F6, 0x9748, 0x9818, 0x4F8B, 0x79AE, 0x91B4,
      0x96B8, 0x60E1, 0x4E86, 0x50DA, 0x5BEE, 0x5C3F, 0x6599, 0x6A02])]

private def decompositionBlocks32 : List (Nat × List Nat) :=
  [(0xF9C0,
     [0x71CE, 0x7642, 0x84FC, 0x907C, 0x9F8D, 0x6688, 0x962E, 0x5289, 0x677B, 0x67F3, 0x6D41,
      0x6E9C, 0x7409, 0x7559, 0x786B, 0x7D10, 0x985E, 0x516D, 0x622E, 0x9678, 0x502B, 0x5D19,
      0x6DEA, 0x8F2A, 0x5F8B, 0x6144, 0x6817, 0x7387, 0x9686, 0x5229, 0x540F, 0x5C65, 0x6613,
      0x674E, 0x68A8, 0x6CE5, 0x7406, 0x75E2, 0x7F79, 0x88CF, 0x88E1, 0x91CC, 0x96E2, 0x533F,
      0x6EBA, 0x541D, 0x71D0, 0x7498, 0x85FA, 0x96A3, 0x9C57, 0x9E9F, 0x6797, 0x6DCB, 0x81E8,
      0x7ACB, 0x7B20, 0x7C92, 0x72C0, 0x7099, 0x8B58, 0x4EC0, 0x8336, 0x523A, 0x5207, 0x5EA6,
      0x62D3, 0x7CD6, 0x5B85, 0x6D1E, 0x66B4, 0x8F3B, 0x884C, 0x964D, 0x898B, 0x5ED3, 0x5140,
      0x55C0, 0, 0, 0x585A, 0, 0x6674, 0, 0, 0x51DE, 0x732A, 0x76CA, 0x793C, 0x795E, 0x7965,
      0x798F, 0x9756, 0x7CBE, 0x7FBD, 0, 0x8612]),
   (0xFA22, [0x8AF8, 0, 0, 0x9038, 0x90FD])]

private def decompositionBlocks33 : List (Nat × List Nat) :=
  [(0xFA2A,
     [0x98EF, 0x98FC, 0x9928, 0x9DB4, 0x90DE, 0x96B7, 0x4FAE, 0x50E7, 0x514D, 0x52C9, 0x52E4,
      0x5351, 0x559D, 0x5606, 0x5668, 0x5840, 0x58A8, 0x5C64, 0x5C6E, 0x6094, 0x6168, 0x618E,
      0x61F2, 0x654F, 0x65E2, 0x6691, 0x6885, 0x6D77, 0x6E1A, 0x6F22, 0x716E, 0x722B, 0x7422,
      0x7891, 0x793E, 0x7949, 0x7948, 0x7950, 0x7956, 0x795D, 0x798D, 0x798E, 0x7A40, 0x7A81,
      0x7BC0, 0x7DF4, 0x7E09, 0x7E41, 0x7F72, 0x8005, 0x81ED, 0x8279, 0x8279, 0x8457, 0x8910,
      0x8996, 0x8B01, 0x8B39, 0x8CD3, 0x8D08, 0x8FB6, 0x9038, 0x96E3, 0x97FF, 0x983B, 0x6075,
      0x242EE, 0x8218, 0, 0, 0x4E26, 0x51B5, 0x5168, 0x4F80, 0x5145, 0x5180, 0x52C7, 0x52FA,
      0x559D, 0x5555, 0x5599, 0x55E2, 0x585A, 0x58B3, 0x5944, 0x5954, 0x5A62, 0x5B28, 0x5ED2,
      0x5ED9, 0x5F69, 0x5FAD, 0x60D8, 0x614E, 0x6108, 0x618E])]

private def decompositionBlocks34 : List (Nat × List Nat) :=
  [(0xFA8A,
     [0x6160, 0x61F2, 0x6234, 0x63C4, 0x641C, 0x6452, 0x6556, 0x6674, 0x6717, 0x671B, 0x6756,
      0x6B79, 0x6BBA, 0x6D41, 0x6EDB, 0x6ECB, 0x6F22, 0x701E, 0x716E, 0x77A7, 0x7235, 0x72AF,
      0x732A, 0x7471, 0x7506, 0x753B, 0x761D, 0x761F, 0x76CA, 0x76DB, 0x76F4, 0x774A, 0x7740,
      0x78CC, 0x7AB1, 0x7BC0, 0x7C7B, 0x7D5B, 0x7DF4, 0x7F3E, 0x8005, 0x8352, 0x83EF, 0x8779,
      0x8941, 0x8986, 0x8996, 0x8ABF, 0x8AF8, 0x8ACB, 0x8B01, 0x8AFE, 0x8AED, 0x8B39, 0x8B8A,
      0x8D08, 0x8F38, 0x9072, 0x9199, 0x9276, 0x967C, 0x96E3, 0x9756, 0x97DB, 0x97FF, 0x980B,
      0x983B, 0x9B12, 0x9F9C, 0x2284A, 0x22844, 0x233D5, 0x3B9D, 0x4018, 0x4039, 0x25249, 0x25CD0,
      0x27ED3, 0x9F43, 0x9F8E]),
   (0xFB00,
     [0x66_000066, 0x66_000069, 0x66_00006C, 0x66_000066_000069, 0x66_000066_00006C, 0x73_000074,
      0x73_000074]),
   (0xFB13, [0x574_000576, 0x574_000565, 0x574_00056B, 0x57E_000576, 0x574_00056D])]

private def decompositionBlocks35 : List (Nat × List Nat) :=
  [(0xFB1D,
     [0x5D9_0005B4, 0, 0x5F2_0005B7, 0x5E2, 0x5D0, 0x5D3, 0x5D4, 0x5DB, 0x5DC, 0x5DD, 0x5E8,
      0x5EA, 0x2B, 0x5E9_0005C1, 0x5E9_0005C2, 0x5E9_0005BC_0005C1, 0x5E9_0005BC_0005C2,
      0x5D0_0005B7, 0x5D0_0005B8, 0x5D0_0005BC, 0x5D1_0005BC, 0x5D2_0005BC, 0x5D3_0005BC,
      0x5D4_0005BC, 0x5D5_0005BC, 0x5D6_0005BC, 0, 0x5D8_0005BC, 0x5D9_0005BC, 0x5DA_0005BC,
      0x5DB_0005BC, 0x5DC_0005BC, 0, 0x5DE_0005BC, 0, 0x5E0_0005BC, 0x5E1_0005BC, 0, 0x5E3_0005BC,
      0x5E4_0005BC, 0, 0x5E6_0005BC, 0x5E7_0005BC, 0x5E8_0005BC, 0x5E9_0005BC, 0x5EA_0005BC,
      0x5D5_0005B9, 0x5D1_0005BF, 0x5DB_0005BF, 0x5E4_0005BF, 0x5D0_0005DC, 0x671, 0x671, 0x67B,
      0x67B, 0x67B, 0x67B, 0x67E, 0x67E, 0x67E, 0x67E, 0x680, 0x680, 0x680, 0x680, 0x67A, 0x67A,
      0x67A, 0x67A, 0x67F, 0x67F, 0x67F, 0x67F, 0x679, 0x679, 0x679, 0x679, 0x6A4, 0x6A4, 0x6A4,
      0x6A4, 0x6A6, 0x6A6, 0x6A6, 0x6A6, 0x684, 0x684, 0x684, 0x684, 0x683, 0x683, 0x683, 0x683,
      0x686, 0x686, 0x686])]

private def decompositionBlocks36 : List (Nat × List Nat) :=
  [(0xFB7D,
     [0x686, 0x687, 0x687, 0x687, 0x687, 0x68D, 0x68D, 0x68C, 0x68C, 0x68E, 0x68E, 0x688, 0x688,
      0x698, 0x698, 0x691, 0x691, 0x6A9, 0x6A9, 0x6A9, 0x6A9, 0x6AF, 0x6AF, 0x6AF, 0x6AF, 0x6B3,
      0x6B3, 0x6B3, 0x6B3, 0x6B1, 0x6B1, 0x6B1, 0x6B1, 0x6BA, 0x6BA, 0x6BB, 0x6BB, 0x6BB, 0x6BB,
      0x6D5_000654, 0x6D5_000654, 0x6C1, 0x6C1, 0x6C1, 0x6C1, 0x6BE, 0x6BE, 0x6BE, 0x6BE, 0x6D2,
      0x6D2, 0x6D2_000654, 0x6D2_000654])]

private def decompositionBlocks37 : List (Nat × List Nat) :=
  [(0xFBD3,
     [0x6AD, 0x6AD, 0x6AD, 0x6AD, 0x6C7, 0x6C7, 0x6C6, 0x6C6, 0x6C8, 0x6C8, 0x6C7_000674, 0x6CB,
      0x6CB, 0x6C5, 0x6C5, 0x6C9, 0x6C9, 0x6D0, 0x6D0, 0x6D0, 0x6D0, 0x649, 0x649,
      0x64A_000654_000627, 0x64A_000654_000627, 0x64A_000654_0006D5, 0x64A_000654_0006D5,
      0x64A_000654_000648, 0x64A_000654_000648, 0x64A_000654_0006C7, 0x64A_000654_0006C7,
      0x64A_000654_0006C6, 0x64A_000654_0006C6, 0x64A_000654_0006C8, 0x64A_000654_0006C8,
      0x64A_000654_0006D0, 0x64A_000654_0006D0, 0x64A_000654_0006D0, 0x64A_000654_000649,
      0x64A_000654_000649, 0x64A_000654_000649, 0x6CC, 0x6CC, 0x6CC, 0x6CC, 0x64A_000654_00062C,
      0x64A_000654_00062D, 0x64A_000654_000645, 0x64A_000654_000649, 0x64A_000654_00064A,
      0x628_00062C, 0x628_00062D, 0x628_00062E, 0x628_000645, 0x628_000649, 0x628_00064A,
      0x62A_00062C, 0x62A_00062D, 0x62A_00062E, 0x62A_000645, 0x62A_000649, 0x62A_00064A,
      0x62B_00062C, 0x62B_000645, 0x62B_000649, 0x62B_00064A, 0x62C_00062D, 0x62C_000645,
      0x62D_00062C, 0x62D_000645, 0x62E_00062C, 0x62E_00062D, 0x62E_000645, 0x633_00062C,
      0x633_00062D, 0x633_00062E, 0x633_000645, 0x635_00062D, 0x635_000645, 0x636_00062C,
      0x636_00062D, 0x636_00062E, 0x636_000645, 0x637_00062D, 0x637_000645, 0x638_000645,
      0x639_00062C, 0x639_000645, 0x63A_00062C, 0x63A_000645, 0x641_00062C, 0x641_00062D,
      0x641_00062E, 0x641_000645, 0x641_000649, 0x641_00064A])]

private def decompositionBlocks38 : List (Nat × List Nat) :=
  [(0xFC33,
     [0x642_00062D, 0x642_000645, 0x642_000649, 0x642_00064A, 0x643_000627, 0x643_00062C,
      0x643_00062D, 0x643_00062E, 0x643_000644, 0x643_000645, 0x643_000649, 0x643_00064A,
      0x644_00062C, 0x644_00062D, 0x644_00062E, 0x644_000645, 0x644_000649, 0x644_00064A,
      0x645_00062C, 0x645_00062D, 0x645_00062E, 0x645_000645, 0x645_000649, 0x645_00064A,
      0x646_00062C, 0x646_00062D, 0x646_00062E, 0x646_000645, 0x646_000649, 0x646_00064A,
      0x647_00062C, 0x647_000645, 0x647_000649, 0x647_00064A, 0x64A_00062C, 0x64A_00062D,
      0x64A_00062E, 0x64A_000645, 0x64A_000649, 0x64A_00064A, 0x630_000670, 0x631_000670,
      0x649_000670, 0x20_00064C_000651, 0x20_00064D_000651, 0x20_00064E_000651,
      0x20_00064F_000651, 0x20_000650_000651, 0x20_000651_000670, 0x64A_000654_000631,
      0x64A_000654_000632, 0x64A_000654_000645, 0x64A_000654_000646, 0x64A_000654_000649,
      0x64A_000654_00064A, 0x628_000631, 0x628_000632, 0x628_000645, 0x628_000646, 0x628_000649,
      0x628_00064A, 0x62A_000631, 0x62A_000632, 0x62A_000645, 0x62A_000646, 0x62A_000649,
      0x62A_00064A, 0x62B_000631, 0x62B_000632, 0x62B_000645, 0x62B_000646, 0x62B_000649,
      0x62B_00064A, 0x641_000649, 0x641_00064A, 0x642_000649, 0x642_00064A, 0x643_000627,
      0x643_000644, 0x643_000645, 0x643_000649, 0x643_00064A, 0x644_000645, 0x644_000649,
      0x644_00064A, 0x645_000627, 0x645_000645, 0x646_000631, 0x646_000632, 0x646_000645,
      0x646_000646, 0x646_000649, 0x646_00064A, 0x649_000670, 0x64A_000631, 0x64A_000632])]

private def decompositionBlocks39 : List (Nat × List Nat) :=
  [(0xFC93,
     [0x64A_000645, 0x64A_000646, 0x64A_000649, 0x64A_00064A, 0x64A_000654_00062C,
      0x64A_000654_00062D, 0x64A_000654_00062E, 0x64A_000654_000645, 0x64A_000654_000647,
      0x628_00062C, 0x628_00062D, 0x628_00062E, 0x628_000645, 0x628_000647, 0x62A_00062C,
      0x62A_00062D, 0x62A_00062E, 0x62A_000645, 0x62A_000647, 0x62B_000645, 0x62C_00062D,
      0x62C_000645, 0x62D_00062C, 0x62D_000645, 0x62E_00062C, 0x62E_000645, 0x633_00062C,
      0x633_00062D, 0x633_00062E, 0x633_000645, 0x635_00062D, 0x635_00062E, 0x635_000645,
      0x636_00062C, 0x636_00062D, 0x636_00062E, 0x636_000645, 0x637_00062D, 0x638_000645,
      0x639_00062C, 0x639_000645, 0x63A_00062C, 0x63A_000645, 0x641_00062C, 0x641_00062D,
      0x641_00062E, 0x641_000645, 0x642_00062D, 0x642_000645, 0x643_00062C, 0x643_00062D,
      0x643_00062E, 0x643_000644, 0x643_000645, 0x644_00062C, 0x644_00062D, 0x644_00062E,
      0x644_000645, 0x644_000647, 0x645_00062C, 0x645_00062D, 0x645_00062E, 0x645_000645,
      0x646_00062C, 0x646_00062D, 0x646_00062E, 0x646_000645, 0x646_000647, 0x647_00062C,
      0x647_000645, 0x647_000670, 0x64A_00062C, 0x64A_00062D, 0x64A_00062E, 0x64A_000645,
      0x64A_000647, 0x64A_000654_000645, 0x64A_000654_000647, 0x628_000645, 0x628_000647,
      0x62A_000645, 0x62A_000647, 0x62B_000645, 0x62B_000647, 0x633_000645, 0x633_000647,
      0x634_000645, 0x634_000647, 0x643_000644, 0x643_000645, 0x644_000645, 0x646_000645,
      0x646_000647, 0x64A_000645, 0x64A_000647, 0x640_00064E_000651])]

private def decompositionBlocks40 : List (Nat × List Nat) :=
  [(0xFCF3,
     [0x640_00064F_000651, 0x640_000650_000651, 0x637_000649, 0x637_00064A, 0x639_000649,
      0x639_00064A, 0x63A_000649, 0x63A_00064A, 0x633_000649, 0x633_00064A, 0x634_000649,
      0x634_00064A, 0x62D_000649, 0x62D_00064A, 0x62C_000649, 0x62C_00064A, 0x62E_000649,
      0x62E_00064A, 0x635_000649, 0x635_00064A, 0x636_000649, 0x636_00064A, 0x634_00062C,
      0x634_00062D, 0x634_00062E, 0x634_000645, 0x634_000631, 0x633_000631, 0x635_000631,
      0x636_000631, 0x637_000649, 0x637_00064A, 0x639_000649, 0x639_00064A, 0x63A_000649,
      0x63A_00064A, 0x633_000649, 0x633_00064A, 0x634_000649, 0x634_00064A, 0x62D_000649,
      0x62D_00064A, 0x62C_000649, 0x62C_00064A, 0x62E_000649, 0x62E_00064A, 0x635_000649,
      0x635_00064A, 0x636_000649, 0x636_00064A, 0x634_00062C, 0x634_00062D, 0x634_00062E,
      0x634_000645, 0x634_000631, 0x633_000631, 0x635_000631, 0x636_000631, 0x634_00062C,
      0x634_00062D, 0x634_00062E, 0x634_000645, 0x633_000647, 0x634_000647, 0x637_000645,
      0x633_00062C, 0x633_00062D, 0x633_00062E, 0x634_00062C, 0x634_00062D, 0x634_00062E,
      0x637_000645, 0x638_000645, 0x627_00064B, 0x627_00064B])]

private def decompositionBlocks41 : List (Nat × List Nat) :=
  [(0xFD50,
     [0x62A_00062C_000645, 0x62A_00062D_00062C, 0x62A_00062D_00062C, 0x62A_00062D_000645,
      0x62A_00062E_000645, 0x62A_000645_00062C, 0x62A_000645_00062D, 0x62A_000645_00062E,
      0x62C_000645_00062D, 0x62C_000645_00062D, 0x62D_000645_00064A, 0x62D_000645_000649,
      0x633_00062D_00062C, 0x633_00062C_00062D, 0x633_00062C_000649, 0x633_000645_00062D,
      0x633_000645_00062D, 0x633_000645_00062C, 0x633_000645_000645, 0x633_000645_000645,
      0x635_00062D_00062D, 0x635_00062D_00062D, 0x635_000645_000645, 0x634_00062D_000645,
      0x634_00062D_000645, 0x634_00062C_00064A, 0x634_000645_00062E, 0x634_000645_00062E,
      0x634_000645_000645, 0x634_000645_000645, 0x636_00062D_000649, 0x636_00062E_000645,
      0x636_00062E_000645, 0x637_000645_00062D, 0x637_000645_00062D, 0x637_000645_000645,
      0x637_000645_00064A, 0x639_00062C_000645, 0x639_000645_000645, 0x639_000645_000645,
      0x639_000645_000649, 0x63A_000645_000645, 0x63A_000645_00064A, 0x63A_000645_000649,
      0x641_00062E_000645, 0x641_00062E_000645, 0x642_000645_00062D, 0x642_000645_000645,
      0x644_00062D_000645, 0x644_00062D_00064A, 0x644_00062D_000649, 0x644_00062C_00062C,
      0x644_00062C_00062C, 0x644_00062E_000645, 0x644_00062E_000645, 0x644_000645_00062D,
      0x644_000645_00062D, 0x645_00062D_00062C, 0x645_00062D_000645, 0x645_00062D_00064A,
      0x645_00062C_00062D, 0x645_00062C_000645, 0x645_00062E_00062C, 0x645_00062E_000645, 0, 0,
      0x645_00062C_00062E, 0x647_000645_00062C, 0x647_000645_000645, 0x646_00062D_000645,
      0x646_00062D_000649, 0x646_00062C_000645, 0x646_00062C_000645, 0x646_00062C_000649,
      0x646_000645_00064A, 0x646_000645_000649, 0x64A_000645_000645, 0x64A_000645_000645,
      0x628_00062E_00064A, 0x62A_00062C_00064A, 0x62A_00062C_000649, 0x62A_00062E_00064A,
      0x62A_00062E_000649, 0x62A_000645_00064A, 0x62A_000645_000649, 0x62C_000645_00064A,
      0x62C_00062D_000649, 0x62C_000645_000649, 0x633_00062E_000649, 0x635_00062D_00064A,
      0x634_00062D_00064A, 0x636_00062D_00064A, 0x644_00062C_00064A, 0x644_000645_00064A,
      0x64A_00062D_00064A, 0x64A_00062C_00064A])]

private def decompositionBlocks42 : List (Nat × List Nat) :=
  [(0xFDB0,
     [0x64A_000645_00064A, 0x645_000645_00064A, 0x642_000645_00064A, 0x646_00062D_00064A,
      0x642_000645_00062D, 0x644_00062D_000645, 0x639_000645_00064A, 0x643_000645_00064A,
      0x646_00062C_00062D, 0x645_00062E_00064A, 0x644_00062C_000645, 0x643_000645_000645,
      0x644_00062C_000645, 0x646_00062C_00062D, 0x62C_00062D_00064A, 0x62D_00062C_00064A,
      0x645_00062C_00064A, 0x641_000645_00064A, 0x628_00062D_00064A, 0x643_000645_000645,
      0x639_00062C_000645, 0x635_000645_000645, 0x633_00062E_00064A, 0x646_00062C_00064A]),
   (0xFDF0,
     [0x635_000644_0006D2, 0x642_000644_0006D2, 0x627_000644_000644_000647,
      0x627_000643_000628_000631, 0x645_00062D_000645_00062F, 0x635_000644_000639_000645,
      0x631_000633_000648_000644, 0x639_000644_00064A_000647, 0x648_000633_000644_000645,
      0x635_000644_000649,
      0x635_000644_000649_000020_000627_000644_000644_000647_000020_000639_000644_00064A_000647_000020_000648_000633_000644_000645,
      0x62C_000644_000020_00062C_000644_000627_000644_000647, 0x631_0006CC_000627_000644]),
   (0xFE10,
     [0x2C, 0x3001, 0x3002, 0x3A, 0x3B, 0x21, 0x3F, 0x3016, 0x3017, 0x2E_00002E_00002E]),
   (0xFE30,
     [0x2E_00002E, 0x2014, 0x2013, 0x5F, 0x5F, 0x28, 0x29, 0x7B, 0x7D, 0x3014, 0x3015, 0x3010,
      0x3011, 0x300A, 0x300B, 0x3008, 0x3009, 0x300C, 0x300D, 0x300E, 0x300F, 0, 0, 0x5B, 0x5D,
      0x20_000305, 0x20_000305, 0x20_000305, 0x20_000305, 0x5F, 0x5F, 0x5F, 0x2C, 0x3001, 0x2E, 0,
      0x3B, 0x3A, 0x3F, 0x21, 0x2014, 0x28, 0x29, 0x7B, 0x7D, 0x3014, 0x3015, 0x23, 0x26, 0x2A,
      0x2B, 0x2D, 0x3C, 0x3E, 0x3D, 0, 0x5C, 0x24, 0x25, 0x40])]

private def decompositionBlocks43 : List (Nat × List Nat) :=
  [(0xFE70,
     [0x20_00064B, 0x640_00064B, 0x20_00064C, 0, 0x20_00064D, 0, 0x20_00064E, 0x640_00064E,
      0x20_00064F, 0x640_00064F, 0x20_000650, 0x640_000650, 0x20_000651, 0x640_000651,
      0x20_000652, 0x640_000652, 0x621, 0x627_000653, 0x627_000653, 0x627_000654, 0x627_000654,
      0x648_000654, 0x648_000654, 0x627_000655, 0x627_000655, 0x64A_000654, 0x64A_000654,
      0x64A_000654, 0x64A_000654, 0x627, 0x627, 0x628, 0x628, 0x628, 0x628, 0x629, 0x629, 0x62A,
      0x62A, 0x62A, 0x62A, 0x62B, 0x62B, 0x62B, 0x62B, 0x62C, 0x62C, 0x62C, 0x62C, 0x62D, 0x62D,
      0x62D, 0x62D, 0x62E, 0x62E, 0x62E, 0x62E, 0x62F, 0x62F, 0x630, 0x630, 0x631, 0x631, 0x632,
      0x632, 0x633, 0x633, 0x633, 0x633, 0x634, 0x634, 0x634, 0x634, 0x635, 0x635, 0x635, 0x635,
      0x636, 0x636, 0x636, 0x636, 0x637, 0x637, 0x637, 0x637, 0x638, 0x638, 0x638, 0x638, 0x639,
      0x639, 0x639, 0x639, 0x63A, 0x63A, 0x63A])]

private def decompositionBlocks44 : List (Nat × List Nat) :=
  [(0xFED0,
     [0x63A, 0x641, 0x641, 0x641, 0x641, 0x642, 0x642, 0x642, 0x642, 0x643, 0x643, 0x643, 0x643,
      0x644, 0x644, 0x644, 0x644, 0x645, 0x645, 0x645, 0x645, 0x646, 0x646, 0x646, 0x646, 0x647,
      0x647, 0x647, 0x647, 0x648, 0x648, 0x649, 0x649, 0x64A, 0x64A, 0x64A, 0x64A,
      0x644_000627_000653, 0x644_000627_000653, 0x644_000627_000654, 0x644_000627_000654,
      0x644_000627_000655, 0x644_000627_000655, 0x644_000627, 0x644_000627]),
   (0xFF5F,
     [0x2985, 0x2986, 0x3002, 0x300C, 0x300D, 0x3001, 0x30FB, 0x30F2, 0x30A1, 0x30A3, 0x30A5,
      0x30A7, 0x30A9, 0x30E3, 0x30E5, 0x30E7, 0x30C3, 0x30FC, 0x30A2, 0x30A4, 0x30A6, 0x30A8,
      0x30AA, 0x30AB, 0x30AD, 0x30AF, 0x30B1, 0x30B3, 0x30B5, 0x30B7, 0x30B9, 0x30BB, 0x30BD,
      0x30BF, 0x30C1, 0x30C4, 0x30C6, 0x30C8]),
   (0xFF8B, [0x30D2, 0x30D5, 0x30D8, 0x30DB]),
   (0xFF94, [0x30E4, 0x30E6]),
   (0xFF9C,
     [0x30EF, 0x30F3, 0x3099, 0x309A, 0x1160, 0x1100, 0x1101, 0x11AA, 0x1102, 0x11AC, 0x11AD,
      0x1103, 0x1104, 0x1105])]

private def decompositionBlocks45 : List (Nat × List Nat) :=
  [(0xFFB0, [0x111A, 0x1106, 0x1107, 0x1108, 0x1121]),
   (0xFFDA, [0x1173, 0x1174, 0x1175]),
   (0xFFE0,
     [0xA2, 0xA3, 0xAC, 0x20_000304, 0xA6, 0xA5, 0x20A9, 0, 0x2502, 0x2190, 0x2191, 0x2192,
      0x2193, 0x25A0, 0x25CB]),
   (0x105C9, [0x105D2_000307]),
   (0x105E4, [0x105DA_000307]),
   (0x10781,
     [0x2D0, 0x2D1, 0xE6, 0x299, 0x253, 0, 0x2A3, 0xAB66, 0x2A5, 0x2A4, 0x256, 0x257, 0x1D91,
      0x258, 0x25E, 0x2A9, 0x264, 0x262, 0x260, 0x29B, 0x127, 0x29C, 0x267, 0x284, 0x2AA, 0x2AB,
      0x26C, 0x1DF04, 0xA78E, 0x26E, 0x1DF05, 0x28E, 0x1DF06, 0xF8, 0x276, 0x277, 0x71, 0x27A,
      0x1DF08, 0x27D, 0x27E, 0x280, 0x2A8, 0x2A6, 0xAB67, 0x2A7, 0x288, 0x2C71, 0, 0x28F, 0x2A1,
      0x2A2, 0x298, 0x1C0, 0x1C1, 0x1C2, 0x1DF0A, 0x1DF1E]),
   (0x1109A, [0x11099_0110BA, 0, 0x1109B_0110BA]),
   (0x110AB, [0x110A5_0110BA]),
   (0x1112E, [0x11131_011127, 0x11132_011127]),
   (0x1134B, [0x11347_01133E, 0x11347_011357]),
   (0x11383, [0x11382_0113C9, 0, 0x11384_0113BB]),
   (0x1138E, [0x1138B_0113C2, 0, 0, 0x11390_0113C9])]

private def decompositionBlocks46 : List (Nat × List Nat) :=
  [(0x113C5, [0x113C2_0113C2, 0, 0x113C2_0113B8, 0x113C2_0113C9]),
   (0x114BB, [0x114B9_0114BA, 0x114B9_0114B0, 0, 0x114B9_0114BD]),
   (0x115BA, [0x115B8_0115AF, 0x115B9_0115AF]),
   (0x11938, [0x11935_011930]),
   (0x16121,
     [0x1611E_01611E, 0x1611E_016129, 0x1611E_01611F, 0x16129_01611F, 0x1611E_016120,
      0x1611E_01611E_01611F, 0x1611E_016129_01611F, 0x1611E_01611E_016120]),
   (0x16D68, [0x16D67_016D67, 0x16D63_016D67, 0x16D63_016D67_016D67]),
   (0x1D15E,
     [0x1D157_01D165, 0x1D158_01D165, 0x1D158_01D165_01D16E, 0x1D158_01D165_01D16F,
      0x1D158_01D165_01D170, 0x1D158_01D165_01D171, 0x1D158_01D165_01D172]),
   (0x1D1BB, [0x1D1B9_01D165, 0x1D1BA_01D165, 0x1D1B9_01D165_01D16E, 0x1D1BA_01D165_01D16E, 0x1D1B9_01D165_01D16F, 0x1D1BA_01D165_01D16F]),
   (0x1D49C,
     [0x41, 0, 0x43, 0x44, 0, 0, 0x47, 0, 0, 0x4A, 0x4B, 0, 0, 0x4E, 0x4F, 0x50, 0x51]),
   (0x1D4B6, [0x61, 0x62, 0x63, 0x64, 0, 0x66]),
   (0x1D504,
     [0x41, 0x42, 0, 0x44, 0x45, 0x46, 0x47]),
   (0x1D538,
     [0x41, 0x42, 0, 0x44, 0x45, 0x46, 0x47]),
   (0x1D546, [0x4F]),
   (0x1D6A4, [0x131, 0x237]),
   (0x1D6B9, [0x398]),
   (0x1D6C1, [0x2207]),
   (0x1D6DB,
     [0x2202, 0x3B5, 0x3B8, 0x3BA, 0x3C6, 0x3C1, 0x3C0]),
   (0x1D6F3, [0x398]),
   (0x1D6FB, [0x2207])]

private def decompositionBlocks47 : List (Nat × List Nat) :=
  [(0x1D715,
     [0x2202, 0x3B5, 0x3B8, 0x3BA, 0x3C6, 0x3C1, 0x3C0]),
   (0x1D72D, [0x398]),
   (0x1D735, [0x2207]),
   (0x1D74F,
     [0x2202, 0x3B5, 0x3B8, 0x3BA, 0x3C6, 0x3C1, 0x3C0]),
   (0x1D767, [0x398]),
   (0x1D76F, [0x2207]),
   (0x1D789,
     [0x2202, 0x3B5, 0x3B8, 0x3BA, 0x3C6, 0x3C1, 0x3C0]),
   (0x1D7A1, [0x398]),
   (0x1D7A9, [0x2207]),
   (0x1D7C3,
     [0x2202, 0x3B5, 0x3B8, 0x3BA, 0x3C6, 0x3C1, 0x3C0, 0x3DC, 0x3DD]),
   (0x1E039, [0x43A, 0x43B, 0x43C]),
   (0x1E047,
     [0x44B, 0x44D, 0x44E, 0xA689, 0x4D9, 0x456, 0x458, 0x4E9, 0x4AF, 0x4CF]),
   (0x1E05A, [0x43A, 0x43B, 0x43E, 0x43F, 0x441]),
   (0x1E065,
     [0x44A, 0x44B, 0x491, 0x456, 0x455, 0x45F, 0x4AB, 0xA651, 0x4B1])]

private def decompositionBlocks48 : List (Nat × List Nat) :=
  [(0x1EE00,
     [0x627, 0x628, 0x62C, 0x62F, 0, 0x648, 0x632, 0x62D, 0x637, 0x64A, 0x643, 0x644, 0x645,
      0x646, 0x633, 0x639, 0x641, 0x635, 0x642, 0x631, 0x634, 0x62A, 0x62B, 0x62E, 0x630, 0x636,
      0x638, 0x63A, 0x66E, 0x6BA, 0x6A1, 0x66F, 0, 0x628, 0x62C, 0, 0x647, 0, 0, 0x62D, 0, 0x64A,
      0x643, 0x644, 0x645, 0x646, 0x633, 0x639, 0x641, 0x635, 0x642, 0, 0x634, 0x62A, 0x62B,
      0x62E, 0, 0x636, 0, 0x63A]),
   (0x1EE42, [0x62C])]

private def decompositionBlocks49 : List (Nat × List Nat) :=
  [(0x1EE47,
     [0x62D, 0, 0x64A, 0, 0x644, 0, 0x646, 0x633, 0x639, 0, 0x635, 0x642, 0, 0x634, 0, 0, 0x62E,
      0, 0x636, 0, 0x63A, 0, 0x6BA, 0, 0x66F, 0, 0x628, 0x62C, 0, 0x647, 0, 0, 0x62D, 0x637,
      0x64A, 0x643, 0, 0x645, 0x646, 0x633, 0x639, 0x641, 0x635, 0x642, 0, 0x634, 0x62A, 0x62B,
      0x62E, 0, 0x636, 0x638, 0x63A, 0x66E, 0, 0x6A1, 0, 0x627, 0x628, 0x62C, 0x62F, 0x647, 0x648,
      0x632, 0x62D, 0x637, 0x64A, 0, 0x644, 0x645, 0x646, 0x633, 0x639, 0x641, 0x635, 0x642,
      0x631, 0x634, 0x62A, 0x62B, 0x62E, 0x630, 0x636, 0x638, 0x63A])]

private def decompositionBlocks50 : List (Nat × List Nat) :=
  [(0x1EEA1,
     [0x628, 0x62C, 0x62F, 0, 0x648, 0x632, 0x62D, 0x637, 0x64A, 0, 0x644, 0x645, 0x646, 0x633,
      0x639, 0x641, 0x635, 0x642, 0x631, 0x634, 0x62A, 0x62B, 0x62E, 0x630, 0x636, 0x638, 0x63A]),
   (0x1F100,
     [0x30_00002E, 0x30_00002C, 0x31_00002C, 0x32_00002C, 0x33_00002C, 0x34_00002C, 0x35_00002C,
      0x36_00002C, 0x37_00002C, 0x38_00002C, 0x39_00002C]),
   (0x1F110,
     [0x28_000041_000029, 0x28_000042_000029, 0x28_000043_000029, 0x28_000044_000029,
      0x28_000045_000029, 0x28_000046_000029, 0x28_000047_000029, 0x28_000048_000029,
      0x28_000049_000029, 0x28_00004A_000029, 0x28_00004B_000029, 0x28_00004C_000029,
      0x28_00004D_000029, 0x28_00004E_000029, 0x28_00004F_000029, 0x28_000050_000029,
      0x28_000051_000029, 0x28_000052_000029, 0x28_000053_000029, 0x28_000054_000029,
      0x28_000055_000029, 0x28_000056_000029, 0x28_000057_000029, 0x28_000058_000029,
      0x28_000059_000029, 0x28_00005A_000029, 0x3014_000053_003015, 0x43, 0x52, 0x43_000044,
      0x57_00005A]),
   (0x1F14A, [0x48_000056, 0x4D_000056, 0x53_000044, 0x53_000053, 0x50_000050_000056, 0x57_000043]),
   (0x1F16A, [0x4D_000043, 0x4D_000044, 0x4D_000052]),
   (0x1F190, [0x44_00004A]),
   (0x1F200, [0x307B_00304B, 0x30B3_0030B3, 0x30B5])]

private def decompositionBlocks51 : List (Nat × List Nat) :=
  [(0x1F210,
     [0x624B, 0x5B57, 0x53CC, 0x30C6_003099, 0x4E8C, 0x591A, 0x89E3, 0x5929, 0x4EA4, 0x6620,
      0x7121, 0x6599, 0x524D, 0x5F8C, 0x518D, 0x65B0, 0x521D, 0x7D42, 0x751F, 0x8CA9, 0x58F0,
      0x5439, 0x6F14, 0x6295, 0x6355, 0x4E00, 0x4E09, 0x904A, 0x5DE6, 0x4E2D, 0x53F3, 0x6307,
      0x8D70, 0x6253, 0x7981, 0x7A7A, 0x5408, 0x6E80, 0x6709, 0x6708, 0x7533, 0x5272, 0x55B6,
      0x914D]),
   (0x1F240,
     [0x3014_00672C_003015, 0x3014_004E09_003015, 0x3014_004E8C_003015, 0x3014_005B89_003015,
      0x3014_0070B9_003015, 0x3014_006253_003015, 0x3014_0076D7_003015, 0x3014_0052DD_003015,
      0x3014_006557_003015]),
   (0x1F250, [0x5F97, 0x53EF])]

private def decompositionBlocks52 : List (Nat × List Nat) :=
  [(0x2F800,
     [0x4E3D, 0x4E38, 0x4E41, 0x20122, 0x4F60, 0x4FAE, 0x4FBB, 0x5002, 0x507A, 0x5099, 0x50E7,
      0x50CF, 0x349E, 0x2063A, 0x514D, 0x5154, 0x5164, 0x5177, 0x2051C, 0x34B9, 0x5167, 0x518D,
      0x2054B, 0x5197, 0x51A4, 0x4ECC, 0x51AC, 0x51B5, 0x291DF, 0x51F5, 0x5203, 0x34DF, 0x523B,
      0x5246, 0x5272, 0x5277, 0x3515, 0x52C7, 0x52C9, 0x52E4, 0x52FA, 0x5305, 0x5306, 0x5317,
      0x5349, 0x5351, 0x535A, 0x5373, 0x537D, 0x537F, 0x537F, 0x537F, 0x20A2C, 0x7070, 0x53CA,
      0x53DF, 0x20B63, 0x53EB, 0x53F1, 0x5406, 0x549E, 0x5438, 0x5448, 0x5468, 0x54A2, 0x54F6,
      0x5510, 0x5553, 0x5563, 0x5584, 0x5584, 0x5599, 0x55AB, 0x55B3, 0x55C2, 0x5716, 0x5606,
      0x5717, 0x5651, 0x5674, 0x5207, 0x58EE, 0x57CE, 0x57F4, 0x580D, 0x578B, 0x5832, 0x5831,
      0x58AC, 0x214E4, 0x58F2, 0x58F7, 0x5906, 0x591A, 0x5922, 0x5962])]

private def decompositionBlocks53 : List (Nat × List Nat) :=
  [(0x2F860,
     [0x216A8, 0x216EA, 0x59EC, 0x5A1B, 0x5A27, 0x59D8, 0x5A66, 0x36EE, 0x36FC, 0x5B08, 0x5B3E,
      0x5B3E, 0x219C8, 0x5BC3, 0x5BD8, 0x5BE7, 0x5BF3, 0x21B18, 0x5BFF, 0x5C06, 0x5F53, 0x5C22,
      0x3781, 0x5C60, 0x5C6E, 0x5CC0, 0x5C8D, 0x21DE4, 0x5D43, 0x21DE6, 0x5D6E, 0x5D6B, 0x5D7C,
      0x5DE1, 0x5DE2, 0x382F, 0x5DFD, 0x5E28, 0x5E3D, 0x5E69, 0x3862, 0x22183, 0x387C, 0x5EB0,
      0x5EB3, 0x5EB6, 0x5ECA, 0x2A392, 0x5EFE, 0x22331, 0x22331, 0x8201, 0x5F22, 0x5F22, 0x38C7,
      0x232B8, 0x261DA, 0x5F62, 0x5F6B, 0x38E3, 0x5F9A, 0x5FCD, 0x5FD7, 0x5FF9, 0x6081, 0x393A,
      0x391C, 0x6094, 0x226D4, 0x60C7, 0x6148, 0x614C, 0x614E, 0x614C, 0x617A, 0x618E, 0x61B2,
      0x61A4, 0x61AF, 0x61DE, 0x61F2, 0x61F6, 0x6210, 0x621B, 0x625D, 0x62B1, 0x62D4, 0x6350,
      0x22B0C, 0x633D, 0x62FC, 0x6368, 0x6383, 0x63E4, 0x22BF1, 0x6422])]

private def decompositionBlocks54 : List (Nat × List Nat) :=
  [(0x2F8C0,
     [0x63C5, 0x63A9, 0x3A2E, 0x6469, 0x647E, 0x649D, 0x6477, 0x3A6C, 0x654F, 0x656C, 0x2300A,
      0x65E3, 0x66F8, 0x6649, 0x3B19, 0x6691, 0x3B08, 0x3AE4, 0x5192, 0x5195, 0x6700, 0x669C,
      0x80AD, 0x43D9, 0x6717, 0x671B, 0x6721, 0x675E, 0x6753, 0x233C3, 0x3B49, 0x67FA, 0x6785,
      0x6852, 0x6885, 0x2346D, 0x688E, 0x681F, 0x6914, 0x3B9D, 0x6942, 0x69A3, 0x69EA, 0x6AA8,
      0x236A3, 0x6ADB, 0x3C18, 0x6B21, 0x238A7, 0x6B54, 0x3C4E, 0x6B72, 0x6B9F, 0x6BBA, 0x6BBB,
      0x23A8D, 0x21D0B, 0x23AFA, 0x6C4E, 0x23CBC, 0x6CBF, 0x6CCD, 0x6C67, 0x6D16, 0x6D3E, 0x6D77,
      0x6D41, 0x6D69, 0x6D78, 0x6D85, 0x23D1E, 0x6D34, 0x6E2F, 0x6E6E, 0x3D33, 0x6ECB, 0x6EC7,
      0x23ED1, 0x6DF9, 0x6F6E, 0x23F5E, 0x23F8E, 0x6FC6, 0x7039, 0x701E, 0x701B, 0x3D96, 0x704A,
      0x707D, 0x7077, 0x70AD, 0x20525, 0x7145, 0x24263, 0x719C, 0x243AB])]

private def decompositionBlocks55 : List (Nat × List Nat) :=
  [(0x2F920,
     [0x7228, 0x7235, 0x7250, 0x24608, 0x7280, 0x7295, 0x24735, 0x24814, 0x737A, 0x738B, 0x3EAC,
      0x73A5, 0x3EB8, 0x3EB8, 0x7447, 0x745C, 0x7471, 0x7485, 0x74CA, 0x3F1B, 0x7524, 0x24C36,
      0x753E, 0x24C92, 0x7570, 0x2219F, 0x7610, 0x24FA1, 0x24FB8, 0x25044, 0x3FFC, 0x4008, 0x76F4,
      0x250F3, 0x250F2, 0x25119, 0x25133, 0x771E, 0x771F, 0x771F, 0x774A, 0x4039, 0x778B, 0x4046,
      0x4096, 0x2541D, 0x784E, 0x788C, 0x78CC, 0x40E3, 0x25626, 0x7956, 0x2569A, 0x256C5, 0x798F,
      0x79EB, 0x412F, 0x7A40, 0x7A4A, 0x7A4F, 0x2597C, 0x25AA7, 0x25AA7, 0x7AEE, 0x4202, 0x25BAB,
      0x7BC6, 0x7BC9, 0x4227, 0x25C80, 0x7CD2, 0x42A0, 0x7CE8, 0x7CE3, 0x7D00, 0x25F86, 0x7D63,
      0x4301, 0x7DC7, 0x7E02, 0x7E45, 0x4334, 0x26228, 0x26247, 0x4359, 0x262D9, 0x7F7A, 0x2633E,
      0x7F95, 0x7FFA, 0x8005, 0x264DA, 0x26523, 0x8060, 0x265A8, 0x8070])]

private def decompositionBlocks56 : List (Nat × List Nat) :=
  [(0x2F980,
     [0x2335F, 0x43D5, 0x80B2, 0x8103, 0x440B, 0x813E, 0x5AB5, 0x267A7, 0x267B5, 0x23393, 0x2339C,
      0x8201, 0x8204, 0x8F9E, 0x446B, 0x8291, 0x828B, 0x829D, 0x52B3, 0x82B1, 0x82B3, 0x82BD,
      0x82E6, 0x26B3C, 0x82E5, 0x831D, 0x8363, 0x83AD, 0x8323, 0x83BD, 0x83E7, 0x8457, 0x8353,
      0x83CA, 0x83CC, 0x83DC, 0x26C36, 0x26D6B, 0x26CD5, 0x452B, 0x84F1, 0x84F3, 0x8516, 0x273CA,
      0x8564, 0x26F2C, 0x455D, 0x4561, 0x26FB1, 0x270D2, 0x456B, 0x8650, 0x865C, 0x8667, 0x8669,
      0x86A9, 0x8688, 0x870E, 0x86E2, 0x8779, 0x8728, 0x876B, 0x8786, 0x45D7, 0x87E1, 0x8801,
      0x45F9, 0x8860, 0x8863, 0x27667, 0x88D7, 0x88DE, 0x4635, 0x88FA, 0x34BB, 0x278AE, 0x27966,
      0x46BE, 0x46C7, 0x8AA0, 0x8AED, 0x8B8A, 0x8C55, 0x27CA8, 0x8CAB, 0x8CC1, 0x8D1B, 0x8D77,
      0x27F2F, 0x20804, 0x8DCB, 0x8DBC, 0x8DF0, 0x208DE, 0x8ED4, 0x8F38])]

private def decompositionBlocks57 : List (Nat × List Nat) :=
  [(0x2F9E0,
     [0x285D2, 0x285ED, 0x9094, 0x90F1, 0x9111, 0x2872E, 0x911B, 0x9238, 0x92D7, 0x92D8, 0x927C,
      0x93F9, 0x9415, 0x28BFA, 0x958B, 0x4995, 0x95B7, 0x28D77, 0x49E6, 0x96C3, 0x5DB2, 0x9723,
      0x29145, 0x2921A, 0x4A6E, 0x4A76, 0x97E0, 0x2940A, 0x4AB2, 0x29496, 0x980B, 0x980B, 0x9829,
      0x295B6, 0x98E2, 0x4B33, 0x9929, 0x99A7, 0x99C2, 0x99FE, 0x4BCE, 0x29B30, 0x9B12, 0x9C40,
      0x9CFD, 0x4CCE, 0x4CED, 0x9D67, 0x2A0CE, 0x4CF8, 0x2A105, 0x2A20E, 0x2A291, 0x9EBB, 0x4D56,
      0x9EF9, 0x9EFE, 0x9F05, 0x9F0F, 0x9F16, 0x9F3B, 0x2A600])]

/-- Images of consecutive code points, by the first of them. -/
def decompositionBlocks : List (Nat × List Nat) :=
  List.flatten [decompositionBlocks1, decompositionBlocks2, decompositionBlocks3,
   decompositionBlocks4, decompositionBlocks5, decompositionBlocks6, decompositionBlocks7,
   decompositionBlocks8, decompositionBlocks9, decompositionBlocks10, decompositionBlocks11,
   decompositionBlocks12, decompositionBlocks13, decompositionBlocks14, decompositionBlocks15,
   decompositionBlocks16, decompositionBlocks17, decompositionBlocks18, decompositionBlocks19,
   decompositionBlocks20, decompositionBlocks21, decompositionBlocks22, decompositionBlocks23,
   decompositionBlocks24, decompositionBlocks25, decompositionBlocks26, decompositionBlocks27,
   decompositionBlocks28, decompositionBlocks29, decompositionBlocks30, decompositionBlocks31,
   decompositionBlocks32, decompositionBlocks33, decompositionBlocks34, decompositionBlocks35,
   decompositionBlocks36, decompositionBlocks37, decompositionBlocks38, decompositionBlocks39,
   decompositionBlocks40, decompositionBlocks41, decompositionBlocks42, decompositionBlocks43,
   decompositionBlocks44, decompositionBlocks45, decompositionBlocks46, decompositionBlocks47,
   decompositionBlocks48, decompositionBlocks49, decompositionBlocks50, decompositionBlocks51,
   decompositionBlocks52, decompositionBlocks53, decompositionBlocks54, decompositionBlocks55,
   decompositionBlocks56, decompositionBlocks57]

end AgentGovernance.Text
