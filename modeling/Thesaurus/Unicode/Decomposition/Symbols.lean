import Thesaurus.Unicode.Table

/-!
# Decompositions: symbols

Spaces, punctuation, numbers and symbols from U+2000, Georgian and Tifinagh, and the radicals of
ideographs.
-/

set_option autoImplicit false
set_option maxRecDepth 10000

namespace Thesaurus.Unicode.Decomposition

def symbols : List Block :=
  [(0x2000,
     [[0x20], [0x20], [0x20], [0x20], [0x20], [0x20], [0x20], [0x20], [0x20], [0x20], [0x20]]),
   (0x2011, [[0x2010]]), (0x2017, [[0x20, 0x333]]),
   (0x2024, [[0x2E], [0x2E, 0x2E], [0x2E, 0x2E, 0x2E]]), (0x202F, [[0x20]]),
   (0x2033, [[0x2032, 0x2032], [0x2032, 0x2032, 0x2032]]),
   (0x2036, [[0x2035, 0x2035], [0x2035, 0x2035, 0x2035]]), (0x203C, [[0x21, 0x21]]),
   (0x203E, [[0x20, 0x305]]), (0x2047, [[0x3F, 0x3F], [0x3F, 0x21], [0x21, 0x3F]]),
   (0x2057, [[0x2032, 0x2032, 0x2032, 0x2032]]), (0x205F, [[0x20]]), (0x2070, [[0x30], [0x69]]),
   (0x2074,
     [[0x34], [0x35], [0x36], [0x37], [0x38], [0x39], [0x2B], [0x2212], [0x3D], [0x28], [0x29],
      [0x6E], [0x30], [0x31], [0x32], [0x33], [0x34], [0x35], [0x36], [0x37], [0x38], [0x39],
      [0x2B], [0x2212], [0x3D], [0x28], [0x29]]),
   (0x2090,
     [[0x61], [0x65], [0x6F], [0x78], [0x259], [0x68], [0x6B], [0x6C], [0x6D], [0x6E], [0x70],
      [0x73], [0x74]]),
   (0x20A8, [[0x52, 0x73]]),
   (0x2100, [[0x61, 0x2F, 0x63], [0x61, 0x2F, 0x73], [0x43], [0xB0, 0x43]]),
   (0x2105, [[0x63, 0x2F, 0x6F], [0x63, 0x2F, 0x75], [0x190]]),
   (0x2109,
     [[0xB0, 0x46], [0x67], [0x48], [0x48], [0x48], [0x68], [0x127], [0x49], [0x49], [0x4C],
      [0x6C]]),
   (0x2115, [[0x4E], [0x4E, 0x6F]]), (0x2119, [[0x50], [0x51], [0x52], [0x52], [0x52]]),
   (0x2120, [[0x53, 0x4D], [0x54, 0x45, 0x4C], [0x54, 0x4D]]), (0x2124, [[0x5A]]),
   (0x2126, [[0x3A9]]), (0x2128, [[0x5A]]), (0x212A, [[0x4B], [0x41, 0x30A], [0x42], [0x43]]),
   (0x212F, [[0x65], [0x45], [0x46]]),
   (0x2133, [[0x4D], [0x6F], [0x5D0], [0x5D1], [0x5D2], [0x5D3], [0x69]]),
   (0x213B, [[0x46, 0x41, 0x58], [0x3C0], [0x3B3], [0x393], [0x3A0], [0x2211]]),
   (0x2145, [[0x44], [0x64], [0x65], [0x69], [0x6A]]),
   (0x2150,
     [[0x31, 0x2044, 0x37], [0x31, 0x2044, 0x39], [0x31, 0x2044, 0x31, 0x30],
      [0x31, 0x2044, 0x33], [0x32, 0x2044, 0x33], [0x31, 0x2044, 0x35], [0x32, 0x2044, 0x35],
      [0x33, 0x2044, 0x35], [0x34, 0x2044, 0x35], [0x31, 0x2044, 0x36], [0x35, 0x2044, 0x36],
      [0x31, 0x2044, 0x38], [0x33, 0x2044, 0x38], [0x35, 0x2044, 0x38], [0x37, 0x2044, 0x38],
      [0x31, 0x2044], [0x49], [0x49, 0x49], [0x49, 0x49, 0x49], [0x49, 0x56], [0x56],
      [0x56, 0x49], [0x56, 0x49, 0x49], [0x56, 0x49, 0x49, 0x49], [0x49, 0x58], [0x58],
      [0x58, 0x49], [0x58, 0x49, 0x49], [0x4C], [0x43], [0x44], [0x4D], [0x69], [0x69, 0x69],
      [0x69, 0x69, 0x69], [0x69, 0x76], [0x76], [0x76, 0x69], [0x76, 0x69, 0x69],
      [0x76, 0x69, 0x69, 0x69], [0x69, 0x78], [0x78], [0x78, 0x69], [0x78, 0x69, 0x69], [0x6C],
      [0x63], [0x64], [0x6D]]),
   (0x2189, [[0x30, 0x2044, 0x33]]), (0x219A, [[0x2190, 0x338], [0x2192, 0x338]]),
   (0x21AE, [[0x2194, 0x338]]), (0x21CD, [[0x21D0, 0x338], [0x21D4, 0x338], [0x21D2, 0x338]]),
   (0x2204, [[0x2203, 0x338]]), (0x2209, [[0x2208, 0x338]]), (0x220C, [[0x220B, 0x338]]),
   (0x2224, [[0x2223, 0x338]]), (0x2226, [[0x2225, 0x338]]),
   (0x222C, [[0x222B, 0x222B], [0x222B, 0x222B, 0x222B]]),
   (0x222F, [[0x222E, 0x222E], [0x222E, 0x222E, 0x222E]]), (0x2241, [[0x223C, 0x338]]),
   (0x2244, [[0x2243, 0x338]]), (0x2247, [[0x2245, 0x338]]), (0x2249, [[0x2248, 0x338]]),
   (0x2260, [[0x3D, 0x338]]), (0x2262, [[0x2261, 0x338]]),
   (0x226D, [[0x224D, 0x338], [0x3C, 0x338], [0x3E, 0x338], [0x2264, 0x338], [0x2265, 0x338]]),
   (0x2274, [[0x2272, 0x338], [0x2273, 0x338]]), (0x2278, [[0x2276, 0x338], [0x2277, 0x338]]),
   (0x2280, [[0x227A, 0x338], [0x227B, 0x338]]), (0x2284, [[0x2282, 0x338], [0x2283, 0x338]]),
   (0x2288, [[0x2286, 0x338], [0x2287, 0x338]]),
   (0x22AC, [[0x22A2, 0x338], [0x22A8, 0x338], [0x22A9, 0x338], [0x22AB, 0x338]]),
   (0x22E0, [[0x227C, 0x338], [0x227D, 0x338], [0x2291, 0x338], [0x2292, 0x338]]),
   (0x22EA, [[0x22B2, 0x338], [0x22B3, 0x338], [0x22B4, 0x338], [0x22B5, 0x338]]),
   (0x2329, [[0x3008], [0x3009]]),
   (0x2460,
     [[0x31], [0x32], [0x33], [0x34], [0x35], [0x36], [0x37], [0x38], [0x39], [0x31, 0x30],
      [0x31, 0x31], [0x31, 0x32], [0x31, 0x33], [0x31, 0x34], [0x31, 0x35], [0x31, 0x36],
      [0x31, 0x37], [0x31, 0x38], [0x31, 0x39], [0x32, 0x30], [0x28, 0x31, 0x29],
      [0x28, 0x32, 0x29], [0x28, 0x33, 0x29], [0x28, 0x34, 0x29], [0x28, 0x35, 0x29],
      [0x28, 0x36, 0x29], [0x28, 0x37, 0x29], [0x28, 0x38, 0x29], [0x28, 0x39, 0x29],
      [0x28, 0x31, 0x30, 0x29], [0x28, 0x31, 0x31, 0x29], [0x28, 0x31, 0x32, 0x29],
      [0x28, 0x31, 0x33, 0x29], [0x28, 0x31, 0x34, 0x29], [0x28, 0x31, 0x35, 0x29],
      [0x28, 0x31, 0x36, 0x29], [0x28, 0x31, 0x37, 0x29], [0x28, 0x31, 0x38, 0x29],
      [0x28, 0x31, 0x39, 0x29], [0x28, 0x32, 0x30, 0x29], [0x31, 0x2E], [0x32, 0x2E],
      [0x33, 0x2E], [0x34, 0x2E], [0x35, 0x2E], [0x36, 0x2E], [0x37, 0x2E], [0x38, 0x2E],
      [0x39, 0x2E], [0x31, 0x30, 0x2E], [0x31, 0x31, 0x2E], [0x31, 0x32, 0x2E],
      [0x31, 0x33, 0x2E], [0x31, 0x34, 0x2E], [0x31, 0x35, 0x2E], [0x31, 0x36, 0x2E],
      [0x31, 0x37, 0x2E], [0x31, 0x38, 0x2E], [0x31, 0x39, 0x2E], [0x32, 0x30, 0x2E],
      [0x28, 0x61, 0x29], [0x28, 0x62, 0x29], [0x28, 0x63, 0x29], [0x28, 0x64, 0x29],
      [0x28, 0x65, 0x29], [0x28, 0x66, 0x29], [0x28, 0x67, 0x29], [0x28, 0x68, 0x29],
      [0x28, 0x69, 0x29], [0x28, 0x6A, 0x29], [0x28, 0x6B, 0x29], [0x28, 0x6C, 0x29],
      [0x28, 0x6D, 0x29], [0x28, 0x6E, 0x29], [0x28, 0x6F, 0x29], [0x28, 0x70, 0x29],
      [0x28, 0x71, 0x29], [0x28, 0x72, 0x29], [0x28, 0x73, 0x29], [0x28, 0x74, 0x29],
      [0x28, 0x75, 0x29], [0x28, 0x76, 0x29], [0x28, 0x77, 0x29], [0x28, 0x78, 0x29],
      [0x28, 0x79, 0x29], [0x28, 0x7A, 0x29], [0x41], [0x42], [0x43], [0x44], [0x45], [0x46],
      [0x47], [0x48], [0x49], [0x4A], [0x4B], [0x4C], [0x4D], [0x4E], [0x4F], [0x50], [0x51],
      [0x52], [0x53], [0x54], [0x55], [0x56], [0x57], [0x58], [0x59], [0x5A], [0x61], [0x62],
      [0x63], [0x64], [0x65], [0x66], [0x67], [0x68], [0x69], [0x6A], [0x6B], [0x6C], [0x6D],
      [0x6E], [0x6F], [0x70], [0x71], [0x72], [0x73], [0x74], [0x75], [0x76], [0x77], [0x78],
      [0x79], [0x7A], [0x30]]),
   (0x2A0C, [[0x222B, 0x222B, 0x222B, 0x222B]]),
   (0x2A74, [[0x3A, 0x3A, 0x3D], [0x3D, 0x3D], [0x3D, 0x3D, 0x3D]]), (0x2ADC, [[0x2ADD, 0x338]]),
   (0x2C7C, [[0x6A], [0x56]]), (0x2D6F, [[0x2D61]]), (0x2E9F, [[0x6BCD]]), (0x2EF3, [[0x9F9F]]),
   (0x2F00,
     [[0x4E00], [0x4E28], [0x4E36], [0x4E3F], [0x4E59], [0x4E85], [0x4E8C], [0x4EA0], [0x4EBA],
      [0x513F], [0x5165], [0x516B], [0x5182], [0x5196], [0x51AB], [0x51E0], [0x51F5], [0x5200],
      [0x529B], [0x52F9], [0x5315], [0x531A], [0x5338], [0x5341], [0x535C], [0x5369], [0x5382],
      [0x53B6], [0x53C8], [0x53E3], [0x56D7], [0x571F], [0x58EB], [0x5902], [0x590A], [0x5915],
      [0x5927], [0x5973], [0x5B50], [0x5B80], [0x5BF8], [0x5C0F], [0x5C22], [0x5C38], [0x5C6E],
      [0x5C71], [0x5DDB], [0x5DE5], [0x5DF1], [0x5DFE], [0x5E72], [0x5E7A], [0x5E7F], [0x5EF4],
      [0x5EFE], [0x5F0B], [0x5F13], [0x5F50], [0x5F61], [0x5F73], [0x5FC3], [0x6208], [0x6236],
      [0x624B], [0x652F], [0x6534], [0x6587], [0x6597], [0x65A4], [0x65B9], [0x65E0], [0x65E5],
      [0x66F0], [0x6708], [0x6728], [0x6B20], [0x6B62], [0x6B79], [0x6BB3], [0x6BCB], [0x6BD4],
      [0x6BDB], [0x6C0F], [0x6C14], [0x6C34], [0x706B], [0x722A], [0x7236], [0x723B], [0x723F],
      [0x7247], [0x7259], [0x725B], [0x72AC], [0x7384], [0x7389], [0x74DC], [0x74E6], [0x7518],
      [0x751F], [0x7528], [0x7530], [0x758B], [0x7592], [0x7676], [0x767D], [0x76AE], [0x76BF],
      [0x76EE], [0x77DB], [0x77E2], [0x77F3], [0x793A], [0x79B8], [0x79BE], [0x7A74], [0x7ACB],
      [0x7AF9], [0x7C73], [0x7CF8], [0x7F36], [0x7F51], [0x7F8A], [0x7FBD], [0x8001], [0x800C],
      [0x8012], [0x8033], [0x807F], [0x8089], [0x81E3], [0x81EA], [0x81F3], [0x81FC], [0x820C],
      [0x821B], [0x821F], [0x826E], [0x8272], [0x8278], [0x864D], [0x866B], [0x8840], [0x884C],
      [0x8863], [0x897E], [0x898B], [0x89D2], [0x8A00], [0x8C37], [0x8C46], [0x8C55], [0x8C78],
      [0x8C9D], [0x8D64], [0x8D70], [0x8DB3], [0x8EAB], [0x8ECA], [0x8F9B], [0x8FB0], [0x8FB5],
      [0x9091], [0x9149], [0x91C6], [0x91CC], [0x91D1], [0x9577], [0x9580], [0x961C], [0x96B6],
      [0x96B9], [0x96E8], [0x9751], [0x975E], [0x9762], [0x9769], [0x97CB], [0x97ED], [0x97F3],
      [0x9801], [0x98A8], [0x98DB], [0x98DF], [0x9996], [0x9999], [0x99AC], [0x9AA8], [0x9AD8],
      [0x9ADF], [0x9B25], [0x9B2F], [0x9B32], [0x9B3C], [0x9B5A], [0x9CE5], [0x9E75], [0x9E7F],
      [0x9EA5], [0x9EBB], [0x9EC3], [0x9ECD], [0x9ED1], [0x9EF9], [0x9EFD], [0x9F0E], [0x9F13],
      [0x9F20], [0x9F3B], [0x9F4A], [0x9F52], [0x9F8D], [0x9F9C], [0x9FA0]])]

end Thesaurus.Unicode.Decomposition
