import Mathlib.Data.Nat.Defs

/-!
Contract: Go's `strconv.IsPrint`, which `%q` consults for every rune it is asked to quote.

Owns: `printRanges`, the code points above U+00FF that `IsPrint` accepts, as maximal
ranges; and `isPrint`, the Latin-1 fast path of `IsPrint` followed by the ranges.

Does not own: the quoting itself (`Nack.Controllers.JetStream.quoteChar`).

## Where the ranges come from

`IsPrint` accepts Unicode's letters, marks, numbers, punctuation and symbols (categories L,
M, N, P and S) and the ASCII space. Go keeps them as compressed tables generated from the
Unicode Character Database of its release; the ranges here are the same categories read
from version 14.0.0 of that database. Below U+0100 Go tests the Latin-1 range directly,
and so does `isPrint`: U+00A0 (no-break space) and U+00AD (soft hyphen) are not printable.
-/

namespace Nack.Strconv

/-- The code points from `first` to `last`. -/
def span (first last : Nat) : Nat × Nat := (first, last)

/-- The code points above U+00FF in categories L, M, N, P and S, as maximal ranges,
ascending. -/
def printRanges : List (Nat × Nat) :=
  [span 0x0100 0x0377, span 0x037A 0x037F, span 0x0384 0x038A, span 0x038C 0x038C,
    span 0x038E 0x03A1, span 0x03A3 0x052F, span 0x0531 0x0556, span 0x0559 0x058A,
    span 0x058D 0x058F, span 0x0591 0x05C7, span 0x05D0 0x05EA, span 0x05EF 0x05F4,
    span 0x0606 0x061B, span 0x061D 0x06DC, span 0x06DE 0x070D, span 0x0710 0x074A,
    span 0x074D 0x07B1, span 0x07C0 0x07FA, span 0x07FD 0x082D, span 0x0830 0x083E,
    span 0x0840 0x085B, span 0x085E 0x085E, span 0x0860 0x086A, span 0x0870 0x088E,
    span 0x0898 0x08E1, span 0x08E3 0x0983, span 0x0985 0x098C, span 0x098F 0x0990,
    span 0x0993 0x09A8, span 0x09AA 0x09B0, span 0x09B2 0x09B2, span 0x09B6 0x09B9,
    span 0x09BC 0x09C4, span 0x09C7 0x09C8, span 0x09CB 0x09CE, span 0x09D7 0x09D7,
    span 0x09DC 0x09DD, span 0x09DF 0x09E3, span 0x09E6 0x09FE, span 0x0A01 0x0A03,
    span 0x0A05 0x0A0A, span 0x0A0F 0x0A10, span 0x0A13 0x0A28, span 0x0A2A 0x0A30,
    span 0x0A32 0x0A33, span 0x0A35 0x0A36, span 0x0A38 0x0A39, span 0x0A3C 0x0A3C,
    span 0x0A3E 0x0A42, span 0x0A47 0x0A48, span 0x0A4B 0x0A4D, span 0x0A51 0x0A51,
    span 0x0A59 0x0A5C, span 0x0A5E 0x0A5E, span 0x0A66 0x0A76, span 0x0A81 0x0A83,
    span 0x0A85 0x0A8D, span 0x0A8F 0x0A91, span 0x0A93 0x0AA8, span 0x0AAA 0x0AB0,
    span 0x0AB2 0x0AB3, span 0x0AB5 0x0AB9, span 0x0ABC 0x0AC5, span 0x0AC7 0x0AC9,
    span 0x0ACB 0x0ACD, span 0x0AD0 0x0AD0, span 0x0AE0 0x0AE3, span 0x0AE6 0x0AF1,
    span 0x0AF9 0x0AFF, span 0x0B01 0x0B03, span 0x0B05 0x0B0C, span 0x0B0F 0x0B10,
    span 0x0B13 0x0B28, span 0x0B2A 0x0B30, span 0x0B32 0x0B33, span 0x0B35 0x0B39,
    span 0x0B3C 0x0B44, span 0x0B47 0x0B48, span 0x0B4B 0x0B4D, span 0x0B55 0x0B57,
    span 0x0B5C 0x0B5D, span 0x0B5F 0x0B63, span 0x0B66 0x0B77, span 0x0B82 0x0B83,
    span 0x0B85 0x0B8A, span 0x0B8E 0x0B90, span 0x0B92 0x0B95, span 0x0B99 0x0B9A,
    span 0x0B9C 0x0B9C, span 0x0B9E 0x0B9F, span 0x0BA3 0x0BA4, span 0x0BA8 0x0BAA,
    span 0x0BAE 0x0BB9, span 0x0BBE 0x0BC2, span 0x0BC6 0x0BC8, span 0x0BCA 0x0BCD,
    span 0x0BD0 0x0BD0, span 0x0BD7 0x0BD7, span 0x0BE6 0x0BFA, span 0x0C00 0x0C0C,
    span 0x0C0E 0x0C10, span 0x0C12 0x0C28, span 0x0C2A 0x0C39, span 0x0C3C 0x0C44,
    span 0x0C46 0x0C48, span 0x0C4A 0x0C4D, span 0x0C55 0x0C56, span 0x0C58 0x0C5A,
    span 0x0C5D 0x0C5D, span 0x0C60 0x0C63, span 0x0C66 0x0C6F, span 0x0C77 0x0C8C,
    span 0x0C8E 0x0C90, span 0x0C92 0x0CA8, span 0x0CAA 0x0CB3, span 0x0CB5 0x0CB9,
    span 0x0CBC 0x0CC4, span 0x0CC6 0x0CC8, span 0x0CCA 0x0CCD, span 0x0CD5 0x0CD6,
    span 0x0CDD 0x0CDE, span 0x0CE0 0x0CE3, span 0x0CE6 0x0CEF, span 0x0CF1 0x0CF2,
    span 0x0D00 0x0D0C, span 0x0D0E 0x0D10, span 0x0D12 0x0D44, span 0x0D46 0x0D48,
    span 0x0D4A 0x0D4F, span 0x0D54 0x0D63, span 0x0D66 0x0D7F, span 0x0D81 0x0D83,
    span 0x0D85 0x0D96, span 0x0D9A 0x0DB1, span 0x0DB3 0x0DBB, span 0x0DBD 0x0DBD,
    span 0x0DC0 0x0DC6, span 0x0DCA 0x0DCA, span 0x0DCF 0x0DD4, span 0x0DD6 0x0DD6,
    span 0x0DD8 0x0DDF, span 0x0DE6 0x0DEF, span 0x0DF2 0x0DF4, span 0x0E01 0x0E3A,
    span 0x0E3F 0x0E5B, span 0x0E81 0x0E82, span 0x0E84 0x0E84, span 0x0E86 0x0E8A,
    span 0x0E8C 0x0EA3, span 0x0EA5 0x0EA5, span 0x0EA7 0x0EBD, span 0x0EC0 0x0EC4,
    span 0x0EC6 0x0EC6, span 0x0EC8 0x0ECD, span 0x0ED0 0x0ED9, span 0x0EDC 0x0EDF,
    span 0x0F00 0x0F47, span 0x0F49 0x0F6C, span 0x0F71 0x0F97, span 0x0F99 0x0FBC,
    span 0x0FBE 0x0FCC, span 0x0FCE 0x0FDA, span 0x1000 0x10C5, span 0x10C7 0x10C7,
    span 0x10CD 0x10CD, span 0x10D0 0x1248, span 0x124A 0x124D, span 0x1250 0x1256,
    span 0x1258 0x1258, span 0x125A 0x125D, span 0x1260 0x1288, span 0x128A 0x128D,
    span 0x1290 0x12B0, span 0x12B2 0x12B5, span 0x12B8 0x12BE, span 0x12C0 0x12C0,
    span 0x12C2 0x12C5, span 0x12C8 0x12D6, span 0x12D8 0x1310, span 0x1312 0x1315,
    span 0x1318 0x135A, span 0x135D 0x137C, span 0x1380 0x1399, span 0x13A0 0x13F5,
    span 0x13F8 0x13FD, span 0x1400 0x167F, span 0x1681 0x169C, span 0x16A0 0x16F8,
    span 0x1700 0x1715, span 0x171F 0x1736, span 0x1740 0x1753, span 0x1760 0x176C,
    span 0x176E 0x1770, span 0x1772 0x1773, span 0x1780 0x17DD, span 0x17E0 0x17E9,
    span 0x17F0 0x17F9, span 0x1800 0x180D, span 0x180F 0x1819, span 0x1820 0x1878,
    span 0x1880 0x18AA, span 0x18B0 0x18F5, span 0x1900 0x191E, span 0x1920 0x192B,
    span 0x1930 0x193B, span 0x1940 0x1940, span 0x1944 0x196D, span 0x1970 0x1974,
    span 0x1980 0x19AB, span 0x19B0 0x19C9, span 0x19D0 0x19DA, span 0x19DE 0x1A1B,
    span 0x1A1E 0x1A5E, span 0x1A60 0x1A7C, span 0x1A7F 0x1A89, span 0x1A90 0x1A99,
    span 0x1AA0 0x1AAD, span 0x1AB0 0x1ACE, span 0x1B00 0x1B4C, span 0x1B50 0x1B7E,
    span 0x1B80 0x1BF3, span 0x1BFC 0x1C37, span 0x1C3B 0x1C49, span 0x1C4D 0x1C88,
    span 0x1C90 0x1CBA, span 0x1CBD 0x1CC7, span 0x1CD0 0x1CFA, span 0x1D00 0x1F15,
    span 0x1F18 0x1F1D, span 0x1F20 0x1F45, span 0x1F48 0x1F4D, span 0x1F50 0x1F57,
    span 0x1F59 0x1F59, span 0x1F5B 0x1F5B, span 0x1F5D 0x1F5D, span 0x1F5F 0x1F7D,
    span 0x1F80 0x1FB4, span 0x1FB6 0x1FC4, span 0x1FC6 0x1FD3, span 0x1FD6 0x1FDB,
    span 0x1FDD 0x1FEF, span 0x1FF2 0x1FF4, span 0x1FF6 0x1FFE, span 0x2010 0x2027,
    span 0x2030 0x205E, span 0x2070 0x2071, span 0x2074 0x208E, span 0x2090 0x209C,
    span 0x20A0 0x20C0, span 0x20D0 0x20F0, span 0x2100 0x218B, span 0x2190 0x2426,
    span 0x2440 0x244A, span 0x2460 0x2B73, span 0x2B76 0x2B95, span 0x2B97 0x2CF3,
    span 0x2CF9 0x2D25, span 0x2D27 0x2D27, span 0x2D2D 0x2D2D, span 0x2D30 0x2D67,
    span 0x2D6F 0x2D70, span 0x2D7F 0x2D96, span 0x2DA0 0x2DA6, span 0x2DA8 0x2DAE,
    span 0x2DB0 0x2DB6, span 0x2DB8 0x2DBE, span 0x2DC0 0x2DC6, span 0x2DC8 0x2DCE,
    span 0x2DD0 0x2DD6, span 0x2DD8 0x2DDE, span 0x2DE0 0x2E5D, span 0x2E80 0x2E99,
    span 0x2E9B 0x2EF3, span 0x2F00 0x2FD5, span 0x2FF0 0x2FFB, span 0x3001 0x303F,
    span 0x3041 0x3096, span 0x3099 0x30FF, span 0x3105 0x312F, span 0x3131 0x318E,
    span 0x3190 0x31E3, span 0x31F0 0x321E, span 0x3220 0xA48C, span 0xA490 0xA4C6,
    span 0xA4D0 0xA62B, span 0xA640 0xA6F7, span 0xA700 0xA7CA, span 0xA7D0 0xA7D1,
    span 0xA7D3 0xA7D3, span 0xA7D5 0xA7D9, span 0xA7F2 0xA82C, span 0xA830 0xA839,
    span 0xA840 0xA877, span 0xA880 0xA8C5, span 0xA8CE 0xA8D9, span 0xA8E0 0xA953,
    span 0xA95F 0xA97C, span 0xA980 0xA9CD, span 0xA9CF 0xA9D9, span 0xA9DE 0xA9FE,
    span 0xAA00 0xAA36, span 0xAA40 0xAA4D, span 0xAA50 0xAA59, span 0xAA5C 0xAAC2,
    span 0xAADB 0xAAF6, span 0xAB01 0xAB06, span 0xAB09 0xAB0E, span 0xAB11 0xAB16,
    span 0xAB20 0xAB26, span 0xAB28 0xAB2E, span 0xAB30 0xAB6B, span 0xAB70 0xABED,
    span 0xABF0 0xABF9, span 0xAC00 0xD7A3, span 0xD7B0 0xD7C6, span 0xD7CB 0xD7FB,
    span 0xF900 0xFA6D, span 0xFA70 0xFAD9, span 0xFB00 0xFB06, span 0xFB13 0xFB17,
    span 0xFB1D 0xFB36, span 0xFB38 0xFB3C, span 0xFB3E 0xFB3E, span 0xFB40 0xFB41,
    span 0xFB43 0xFB44, span 0xFB46 0xFBC2, span 0xFBD3 0xFD8F, span 0xFD92 0xFDC7,
    span 0xFDCF 0xFDCF, span 0xFDF0 0xFE19, span 0xFE20 0xFE52, span 0xFE54 0xFE66,
    span 0xFE68 0xFE6B, span 0xFE70 0xFE74, span 0xFE76 0xFEFC, span 0xFF01 0xFFBE,
    span 0xFFC2 0xFFC7, span 0xFFCA 0xFFCF, span 0xFFD2 0xFFD7, span 0xFFDA 0xFFDC,
    span 0xFFE0 0xFFE6, span 0xFFE8 0xFFEE, span 0xFFFC 0xFFFD, span 0x10000 0x1000B,
    span 0x1000D 0x10026, span 0x10028 0x1003A, span 0x1003C 0x1003D, span 0x1003F 0x1004D,
    span 0x10050 0x1005D, span 0x10080 0x100FA, span 0x10100 0x10102, span 0x10107 0x10133,
    span 0x10137 0x1018E, span 0x10190 0x1019C, span 0x101A0 0x101A0, span 0x101D0 0x101FD,
    span 0x10280 0x1029C, span 0x102A0 0x102D0, span 0x102E0 0x102FB, span 0x10300 0x10323,
    span 0x1032D 0x1034A, span 0x10350 0x1037A, span 0x10380 0x1039D, span 0x1039F 0x103C3,
    span 0x103C8 0x103D5, span 0x10400 0x1049D, span 0x104A0 0x104A9, span 0x104B0 0x104D3,
    span 0x104D8 0x104FB, span 0x10500 0x10527, span 0x10530 0x10563, span 0x1056F 0x1057A,
    span 0x1057C 0x1058A, span 0x1058C 0x10592, span 0x10594 0x10595, span 0x10597 0x105A1,
    span 0x105A3 0x105B1, span 0x105B3 0x105B9, span 0x105BB 0x105BC, span 0x10600 0x10736,
    span 0x10740 0x10755, span 0x10760 0x10767, span 0x10780 0x10785, span 0x10787 0x107B0,
    span 0x107B2 0x107BA, span 0x10800 0x10805, span 0x10808 0x10808, span 0x1080A 0x10835,
    span 0x10837 0x10838, span 0x1083C 0x1083C, span 0x1083F 0x10855, span 0x10857 0x1089E,
    span 0x108A7 0x108AF, span 0x108E0 0x108F2, span 0x108F4 0x108F5, span 0x108FB 0x1091B,
    span 0x1091F 0x10939, span 0x1093F 0x1093F, span 0x10980 0x109B7, span 0x109BC 0x109CF,
    span 0x109D2 0x10A03, span 0x10A05 0x10A06, span 0x10A0C 0x10A13, span 0x10A15 0x10A17,
    span 0x10A19 0x10A35, span 0x10A38 0x10A3A, span 0x10A3F 0x10A48, span 0x10A50 0x10A58,
    span 0x10A60 0x10A9F, span 0x10AC0 0x10AE6, span 0x10AEB 0x10AF6, span 0x10B00 0x10B35,
    span 0x10B39 0x10B55, span 0x10B58 0x10B72, span 0x10B78 0x10B91, span 0x10B99 0x10B9C,
    span 0x10BA9 0x10BAF, span 0x10C00 0x10C48, span 0x10C80 0x10CB2, span 0x10CC0 0x10CF2,
    span 0x10CFA 0x10D27, span 0x10D30 0x10D39, span 0x10E60 0x10E7E, span 0x10E80 0x10EA9,
    span 0x10EAB 0x10EAD, span 0x10EB0 0x10EB1, span 0x10F00 0x10F27, span 0x10F30 0x10F59,
    span 0x10F70 0x10F89, span 0x10FB0 0x10FCB, span 0x10FE0 0x10FF6, span 0x11000 0x1104D,
    span 0x11052 0x11075, span 0x1107F 0x110BC, span 0x110BE 0x110C2, span 0x110D0 0x110E8,
    span 0x110F0 0x110F9, span 0x11100 0x11134, span 0x11136 0x11147, span 0x11150 0x11176,
    span 0x11180 0x111DF, span 0x111E1 0x111F4, span 0x11200 0x11211, span 0x11213 0x1123E,
    span 0x11280 0x11286, span 0x11288 0x11288, span 0x1128A 0x1128D, span 0x1128F 0x1129D,
    span 0x1129F 0x112A9, span 0x112B0 0x112EA, span 0x112F0 0x112F9, span 0x11300 0x11303,
    span 0x11305 0x1130C, span 0x1130F 0x11310, span 0x11313 0x11328, span 0x1132A 0x11330,
    span 0x11332 0x11333, span 0x11335 0x11339, span 0x1133B 0x11344, span 0x11347 0x11348,
    span 0x1134B 0x1134D, span 0x11350 0x11350, span 0x11357 0x11357, span 0x1135D 0x11363,
    span 0x11366 0x1136C, span 0x11370 0x11374, span 0x11400 0x1145B, span 0x1145D 0x11461,
    span 0x11480 0x114C7, span 0x114D0 0x114D9, span 0x11580 0x115B5, span 0x115B8 0x115DD,
    span 0x11600 0x11644, span 0x11650 0x11659, span 0x11660 0x1166C, span 0x11680 0x116B9,
    span 0x116C0 0x116C9, span 0x11700 0x1171A, span 0x1171D 0x1172B, span 0x11730 0x11746,
    span 0x11800 0x1183B, span 0x118A0 0x118F2, span 0x118FF 0x11906, span 0x11909 0x11909,
    span 0x1190C 0x11913, span 0x11915 0x11916, span 0x11918 0x11935, span 0x11937 0x11938,
    span 0x1193B 0x11946, span 0x11950 0x11959, span 0x119A0 0x119A7, span 0x119AA 0x119D7,
    span 0x119DA 0x119E4, span 0x11A00 0x11A47, span 0x11A50 0x11AA2, span 0x11AB0 0x11AF8,
    span 0x11C00 0x11C08, span 0x11C0A 0x11C36, span 0x11C38 0x11C45, span 0x11C50 0x11C6C,
    span 0x11C70 0x11C8F, span 0x11C92 0x11CA7, span 0x11CA9 0x11CB6, span 0x11D00 0x11D06,
    span 0x11D08 0x11D09, span 0x11D0B 0x11D36, span 0x11D3A 0x11D3A, span 0x11D3C 0x11D3D,
    span 0x11D3F 0x11D47, span 0x11D50 0x11D59, span 0x11D60 0x11D65, span 0x11D67 0x11D68,
    span 0x11D6A 0x11D8E, span 0x11D90 0x11D91, span 0x11D93 0x11D98, span 0x11DA0 0x11DA9,
    span 0x11EE0 0x11EF8, span 0x11FB0 0x11FB0, span 0x11FC0 0x11FF1, span 0x11FFF 0x12399,
    span 0x12400 0x1246E, span 0x12470 0x12474, span 0x12480 0x12543, span 0x12F90 0x12FF2,
    span 0x13000 0x1342E, span 0x14400 0x14646, span 0x16800 0x16A38, span 0x16A40 0x16A5E,
    span 0x16A60 0x16A69, span 0x16A6E 0x16ABE, span 0x16AC0 0x16AC9, span 0x16AD0 0x16AED,
    span 0x16AF0 0x16AF5, span 0x16B00 0x16B45, span 0x16B50 0x16B59, span 0x16B5B 0x16B61,
    span 0x16B63 0x16B77, span 0x16B7D 0x16B8F, span 0x16E40 0x16E9A, span 0x16F00 0x16F4A,
    span 0x16F4F 0x16F87, span 0x16F8F 0x16F9F, span 0x16FE0 0x16FE4, span 0x16FF0 0x16FF1,
    span 0x17000 0x187F7, span 0x18800 0x18CD5, span 0x18D00 0x18D08, span 0x1AFF0 0x1AFF3,
    span 0x1AFF5 0x1AFFB, span 0x1AFFD 0x1AFFE, span 0x1B000 0x1B122, span 0x1B150 0x1B152,
    span 0x1B164 0x1B167, span 0x1B170 0x1B2FB, span 0x1BC00 0x1BC6A, span 0x1BC70 0x1BC7C,
    span 0x1BC80 0x1BC88, span 0x1BC90 0x1BC99, span 0x1BC9C 0x1BC9F, span 0x1CF00 0x1CF2D,
    span 0x1CF30 0x1CF46, span 0x1CF50 0x1CFC3, span 0x1D000 0x1D0F5, span 0x1D100 0x1D126,
    span 0x1D129 0x1D172, span 0x1D17B 0x1D1EA, span 0x1D200 0x1D245, span 0x1D2E0 0x1D2F3,
    span 0x1D300 0x1D356, span 0x1D360 0x1D378, span 0x1D400 0x1D454, span 0x1D456 0x1D49C,
    span 0x1D49E 0x1D49F, span 0x1D4A2 0x1D4A2, span 0x1D4A5 0x1D4A6, span 0x1D4A9 0x1D4AC,
    span 0x1D4AE 0x1D4B9, span 0x1D4BB 0x1D4BB, span 0x1D4BD 0x1D4C3, span 0x1D4C5 0x1D505,
    span 0x1D507 0x1D50A, span 0x1D50D 0x1D514, span 0x1D516 0x1D51C, span 0x1D51E 0x1D539,
    span 0x1D53B 0x1D53E, span 0x1D540 0x1D544, span 0x1D546 0x1D546, span 0x1D54A 0x1D550,
    span 0x1D552 0x1D6A5, span 0x1D6A8 0x1D7CB, span 0x1D7CE 0x1DA8B, span 0x1DA9B 0x1DA9F,
    span 0x1DAA1 0x1DAAF, span 0x1DF00 0x1DF1E, span 0x1E000 0x1E006, span 0x1E008 0x1E018,
    span 0x1E01B 0x1E021, span 0x1E023 0x1E024, span 0x1E026 0x1E02A, span 0x1E100 0x1E12C,
    span 0x1E130 0x1E13D, span 0x1E140 0x1E149, span 0x1E14E 0x1E14F, span 0x1E290 0x1E2AE,
    span 0x1E2C0 0x1E2F9, span 0x1E2FF 0x1E2FF, span 0x1E7E0 0x1E7E6, span 0x1E7E8 0x1E7EB,
    span 0x1E7ED 0x1E7EE, span 0x1E7F0 0x1E7FE, span 0x1E800 0x1E8C4, span 0x1E8C7 0x1E8D6,
    span 0x1E900 0x1E94B, span 0x1E950 0x1E959, span 0x1E95E 0x1E95F, span 0x1EC71 0x1ECB4,
    span 0x1ED01 0x1ED3D, span 0x1EE00 0x1EE03, span 0x1EE05 0x1EE1F, span 0x1EE21 0x1EE22,
    span 0x1EE24 0x1EE24, span 0x1EE27 0x1EE27, span 0x1EE29 0x1EE32, span 0x1EE34 0x1EE37,
    span 0x1EE39 0x1EE39, span 0x1EE3B 0x1EE3B, span 0x1EE42 0x1EE42, span 0x1EE47 0x1EE47,
    span 0x1EE49 0x1EE49, span 0x1EE4B 0x1EE4B, span 0x1EE4D 0x1EE4F, span 0x1EE51 0x1EE52,
    span 0x1EE54 0x1EE54, span 0x1EE57 0x1EE57, span 0x1EE59 0x1EE59, span 0x1EE5B 0x1EE5B,
    span 0x1EE5D 0x1EE5D, span 0x1EE5F 0x1EE5F, span 0x1EE61 0x1EE62, span 0x1EE64 0x1EE64,
    span 0x1EE67 0x1EE6A, span 0x1EE6C 0x1EE72, span 0x1EE74 0x1EE77, span 0x1EE79 0x1EE7C,
    span 0x1EE7E 0x1EE7E, span 0x1EE80 0x1EE89, span 0x1EE8B 0x1EE9B, span 0x1EEA1 0x1EEA3,
    span 0x1EEA5 0x1EEA9, span 0x1EEAB 0x1EEBB, span 0x1EEF0 0x1EEF1, span 0x1F000 0x1F02B,
    span 0x1F030 0x1F093, span 0x1F0A0 0x1F0AE, span 0x1F0B1 0x1F0BF, span 0x1F0C1 0x1F0CF,
    span 0x1F0D1 0x1F0F5, span 0x1F100 0x1F1AD, span 0x1F1E6 0x1F202, span 0x1F210 0x1F23B,
    span 0x1F240 0x1F248, span 0x1F250 0x1F251, span 0x1F260 0x1F265, span 0x1F300 0x1F6D7,
    span 0x1F6DD 0x1F6EC, span 0x1F6F0 0x1F6FC, span 0x1F700 0x1F773, span 0x1F780 0x1F7D8,
    span 0x1F7E0 0x1F7EB, span 0x1F7F0 0x1F7F0, span 0x1F800 0x1F80B, span 0x1F810 0x1F847,
    span 0x1F850 0x1F859, span 0x1F860 0x1F887, span 0x1F890 0x1F8AD, span 0x1F8B0 0x1F8B1,
    span 0x1F900 0x1FA53, span 0x1FA60 0x1FA6D, span 0x1FA70 0x1FA74, span 0x1FA78 0x1FA7C,
    span 0x1FA80 0x1FA86, span 0x1FA90 0x1FAAC, span 0x1FAB0 0x1FABA, span 0x1FAC0 0x1FAC5,
    span 0x1FAD0 0x1FAD9, span 0x1FAE0 0x1FAE7, span 0x1FAF0 0x1FAF6, span 0x1FB00 0x1FB92,
    span 0x1FB94 0x1FBCA, span 0x1FBF0 0x1FBF9, span 0x20000 0x2A6DF, span 0x2A700 0x2B738,
    span 0x2B740 0x2B81D, span 0x2B820 0x2CEA1, span 0x2CEB0 0x2EBE0, span 0x2F800 0x2FA1D,
    span 0x30000 0x3134A, span 0xE0100 0xE01EF]

/-- `strconv.IsPrint`. -/
def isPrint (c : Char) : Bool :=
  let r := c.toNat
  if r ≤ 0xFF then (0x20 ≤ r && r ≤ 0x7E) || (0xA1 ≤ r && r != 0xAD)
  else printRanges.any fun range => range.1 ≤ r && r ≤ range.2

end Nack.Strconv
