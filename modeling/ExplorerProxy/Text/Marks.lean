import ExplorerProxy.Text.Ranges

/-!
# Combining marks

The marks that follow a letter and combine with it. A mark takes up room of its
own or not, and it has a class: marks of different classes do not touch each
other, and class zero keeps a mark in its place. The table is about the characters
of domain names; a range of it may run over others (Unicode 17).
-/

namespace ExplorerProxy.Text

set_option autoImplicit false
set_option maxRecDepth 10000

structure Mark where
  spacing : Bool
  combiningClass : Nat
  deriving DecidableEq, Repr

def Mark.over (combiningClass : Nat) : Mark := ⟨false, combiningClass⟩

def Mark.beside (combiningClass : Nat) : Mark := ⟨true, combiningClass⟩

def markRanges : Array (Nat × Nat × Mark) := #[
    (0x300, 0x314, .over 230), (0x315, 0x315, .over 232), (0x316, 0x319, .over 220),
    (0x31a, 0x31a, .over 232), (0x31b, 0x31b, .over 216), (0x31c, 0x320, .over 220),
    (0x321, 0x322, .over 202), (0x323, 0x326, .over 220), (0x327, 0x328, .over 202),
    (0x329, 0x333, .over 220), (0x334, 0x338, .over 1), (0x339, 0x33c, .over 220),
    (0x33d, 0x346, .over 230), (0x347, 0x349, .over 220), (0x34a, 0x34c, .over 230),
    (0x34d, 0x34e, .over 220), (0x350, 0x352, .over 230), (0x353, 0x356, .over 220),
    (0x357, 0x357, .over 230), (0x358, 0x358, .over 232), (0x359, 0x35a, .over 220),
    (0x35b, 0x35b, .over 230), (0x35c, 0x35c, .over 233), (0x35d, 0x35e, .over 234),
    (0x35f, 0x35f, .over 233), (0x360, 0x361, .over 234), (0x362, 0x362, .over 233),
    (0x363, 0x36f, .over 230), (0x483, 0x487, .over 230), (0x488, 0x489, .over 0),
    (0x591, 0x591, .over 220), (0x592, 0x595, .over 230), (0x596, 0x596, .over 220),
    (0x597, 0x599, .over 230), (0x59a, 0x59a, .over 222), (0x59b, 0x59b, .over 220),
    (0x59c, 0x5a1, .over 230), (0x5a2, 0x5a7, .over 220), (0x5a8, 0x5a9, .over 230),
    (0x5aa, 0x5aa, .over 220), (0x5ab, 0x5ac, .over 230), (0x5ad, 0x5ad, .over 222),
    (0x5ae, 0x5ae, .over 228), (0x5af, 0x5af, .over 230), (0x5b0, 0x5b0, .over 10),
    (0x5b1, 0x5b1, .over 11), (0x5b2, 0x5b2, .over 12), (0x5b3, 0x5b3, .over 13),
    (0x5b4, 0x5b4, .over 14), (0x5b5, 0x5b5, .over 15), (0x5b6, 0x5b6, .over 16),
    (0x5b7, 0x5b7, .over 17), (0x5b8, 0x5b8, .over 18), (0x5b9, 0x5ba, .over 19),
    (0x5bb, 0x5bb, .over 20), (0x5bc, 0x5bc, .over 21), (0x5bd, 0x5bd, .over 22),
    (0x5bf, 0x5bf, .over 23), (0x5c1, 0x5c1, .over 24), (0x5c2, 0x5c2, .over 25),
    (0x5c4, 0x5c4, .over 230), (0x5c5, 0x5c5, .over 220), (0x5c7, 0x5c7, .over 18),
    (0x610, 0x617, .over 230), (0x618, 0x618, .over 30), (0x619, 0x619, .over 31),
    (0x61a, 0x61a, .over 32), (0x64b, 0x64b, .over 27), (0x64c, 0x64c, .over 28),
    (0x64d, 0x64d, .over 29), (0x64e, 0x64e, .over 30), (0x64f, 0x64f, .over 31),
    (0x650, 0x650, .over 32), (0x651, 0x651, .over 33), (0x652, 0x652, .over 34),
    (0x653, 0x654, .over 230), (0x655, 0x656, .over 220), (0x657, 0x65b, .over 230),
    (0x65c, 0x65c, .over 220), (0x65d, 0x65e, .over 230), (0x65f, 0x65f, .over 220),
    (0x670, 0x670, .over 35), (0x6d6, 0x6dc, .over 230), (0x6df, 0x6e2, .over 230),
    (0x6e3, 0x6e3, .over 220), (0x6e4, 0x6e4, .over 230), (0x6e7, 0x6e8, .over 230),
    (0x6ea, 0x6ea, .over 220), (0x6eb, 0x6ec, .over 230), (0x6ed, 0x6ed, .over 220),
    (0x711, 0x711, .over 36), (0x730, 0x730, .over 230), (0x731, 0x731, .over 220),
    (0x732, 0x733, .over 230), (0x734, 0x734, .over 220), (0x735, 0x736, .over 230),
    (0x737, 0x739, .over 220), (0x73a, 0x73a, .over 230), (0x73b, 0x73c, .over 220),
    (0x73d, 0x73d, .over 230), (0x73e, 0x73e, .over 220), (0x73f, 0x741, .over 230),
    (0x742, 0x742, .over 220), (0x743, 0x743, .over 230), (0x744, 0x744, .over 220),
    (0x745, 0x745, .over 230), (0x746, 0x746, .over 220), (0x747, 0x747, .over 230),
    (0x748, 0x748, .over 220), (0x749, 0x74a, .over 230), (0x7a6, 0x7b0, .over 0),
    (0x7eb, 0x7f1, .over 230), (0x7f2, 0x7f2, .over 220), (0x7f3, 0x7f3, .over 230),
    (0x7fd, 0x7fd, .over 220), (0x816, 0x819, .over 230), (0x81b, 0x823, .over 230),
    (0x825, 0x827, .over 230), (0x829, 0x82d, .over 230), (0x859, 0x85b, .over 220),
    (0x897, 0x898, .over 230), (0x899, 0x89b, .over 220), (0x89c, 0x89f, .over 230),
    (0x8ca, 0x8ce, .over 230), (0x8cf, 0x8d3, .over 220), (0x8d4, 0x8e1, .over 230),
    (0x8e3, 0x8e3, .over 220), (0x8e4, 0x8e5, .over 230), (0x8e6, 0x8e6, .over 220),
    (0x8e7, 0x8e8, .over 230), (0x8e9, 0x8e9, .over 220), (0x8ea, 0x8ec, .over 230),
    (0x8ed, 0x8ef, .over 220), (0x8f0, 0x8f0, .over 27), (0x8f1, 0x8f1, .over 28),
    (0x8f2, 0x8f2, .over 29), (0x8f3, 0x8f5, .over 230), (0x8f6, 0x8f6, .over 220),
    (0x8f7, 0x8f8, .over 230), (0x8f9, 0x8fa, .over 220), (0x8fb, 0x8ff, .over 230),
    (0x900, 0x902, .over 0), (0x903, 0x903, .beside 0), (0x93a, 0x93a, .over 0),
    (0x93b, 0x93b, .beside 0), (0x93c, 0x93c, .over 7), (0x93e, 0x940, .beside 0),
    (0x941, 0x948, .over 0), (0x949, 0x94c, .beside 0), (0x94d, 0x94d, .over 9),
    (0x94e, 0x94f, .beside 0), (0x951, 0x951, .over 230), (0x952, 0x952, .over 220),
    (0x953, 0x954, .over 230), (0x955, 0x957, .over 0), (0x962, 0x963, .over 0),
    (0x981, 0x981, .over 0), (0x982, 0x983, .beside 0), (0x9bc, 0x9bc, .over 7),
    (0x9be, 0x9c0, .beside 0), (0x9c1, 0x9c4, .over 0), (0x9c7, 0x9cc, .beside 0),
    (0x9cd, 0x9cd, .over 9), (0x9d7, 0x9d7, .beside 0), (0x9e2, 0x9e3, .over 0),
    (0x9fe, 0x9fe, .over 230), (0xa01, 0xa02, .over 0), (0xa03, 0xa03, .beside 0),
    (0xa3c, 0xa3c, .over 7), (0xa3e, 0xa40, .beside 0), (0xa41, 0xa4c, .over 0),
    (0xa4d, 0xa4d, .over 9), (0xa51, 0xa51, .over 0), (0xa70, 0xa71, .over 0),
    (0xa75, 0xa75, .over 0), (0xa81, 0xa82, .over 0), (0xa83, 0xa83, .beside 0),
    (0xabc, 0xabc, .over 7), (0xabe, 0xac0, .beside 0), (0xac1, 0xac8, .over 0),
    (0xac9, 0xacc, .beside 0), (0xacd, 0xacd, .over 9), (0xae2, 0xae3, .over 0),
    (0xafa, 0xb01, .over 0), (0xb02, 0xb03, .beside 0), (0xb3c, 0xb3c, .over 7),
    (0xb3e, 0xb3e, .beside 0), (0xb3f, 0xb3f, .over 0), (0xb40, 0xb40, .beside 0),
    (0xb41, 0xb44, .over 0), (0xb47, 0xb4c, .beside 0), (0xb4d, 0xb4d, .over 9),
    (0xb55, 0xb56, .over 0), (0xb57, 0xb57, .beside 0), (0xb62, 0xb63, .over 0),
    (0xb82, 0xb82, .over 0), (0xbbe, 0xbbf, .beside 0), (0xbc0, 0xbc0, .over 0),
    (0xbc1, 0xbcc, .beside 0), (0xbcd, 0xbcd, .over 9), (0xbd7, 0xbd7, .beside 0),
    (0xc00, 0xc00, .over 0), (0xc01, 0xc03, .beside 0), (0xc04, 0xc04, .over 0),
    (0xc3c, 0xc3c, .over 7), (0xc3e, 0xc40, .over 0), (0xc41, 0xc44, .beside 0),
    (0xc46, 0xc4c, .over 0), (0xc4d, 0xc4d, .over 9), (0xc55, 0xc55, .over 84),
    (0xc56, 0xc56, .over 91), (0xc62, 0xc63, .over 0), (0xc81, 0xc81, .over 0),
    (0xc82, 0xc83, .beside 0), (0xcbc, 0xcbc, .over 7), (0xcbe, 0xcbe, .beside 0),
    (0xcbf, 0xcbf, .over 0), (0xcc0, 0xcc4, .beside 0), (0xcc6, 0xcc6, .over 0),
    (0xcc7, 0xccb, .beside 0), (0xccc, 0xccc, .over 0), (0xccd, 0xccd, .over 9),
    (0xcd5, 0xcd6, .beside 0), (0xce2, 0xce3, .over 0), (0xcf3, 0xcf3, .beside 0),
    (0xd00, 0xd01, .over 0), (0xd02, 0xd03, .beside 0), (0xd3b, 0xd3c, .over 9),
    (0xd3e, 0xd40, .beside 0), (0xd41, 0xd44, .over 0), (0xd46, 0xd4c, .beside 0),
    (0xd4d, 0xd4d, .over 9), (0xd57, 0xd57, .beside 0), (0xd62, 0xd63, .over 0),
    (0xd81, 0xd81, .over 0), (0xd82, 0xd83, .beside 0), (0xdca, 0xdca, .over 9),
    (0xdcf, 0xdd1, .beside 0), (0xdd2, 0xdd6, .over 0), (0xdd8, 0xddf, .beside 0),
    (0xdf2, 0xdf3, .beside 0), (0xe31, 0xe31, .over 0), (0xe34, 0xe37, .over 0),
    (0xe38, 0xe39, .over 103), (0xe3a, 0xe3a, .over 9), (0xe47, 0xe47, .over 0),
    (0xe48, 0xe4b, .over 107), (0xe4c, 0xe4e, .over 0), (0xeb1, 0xeb1, .over 0),
    (0xeb4, 0xeb7, .over 0), (0xeb8, 0xeb9, .over 118), (0xeba, 0xeba, .over 9),
    (0xebb, 0xebc, .over 0), (0xec8, 0xecb, .over 122), (0xecc, 0xece, .over 0),
    (0xf18, 0xf19, .over 220), (0xf35, 0xf35, .over 220), (0xf37, 0xf37, .over 220),
    (0xf39, 0xf39, .over 216), (0xf3e, 0xf3f, .beside 0), (0xf71, 0xf71, .over 129),
    (0xf72, 0xf72, .over 130), (0xf74, 0xf74, .over 132), (0xf7a, 0xf7d, .over 130),
    (0xf7e, 0xf7e, .over 0), (0xf7f, 0xf7f, .beside 0), (0xf80, 0xf80, .over 130),
    (0xf82, 0xf83, .over 230), (0xf84, 0xf84, .over 9), (0xf86, 0xf87, .over 230),
    (0xf8d, 0xfbc, .over 0), (0xfc6, 0xfc6, .over 220), (0x102b, 0x102c, .beside 0),
    (0x102d, 0x1030, .over 0), (0x1031, 0x1031, .beside 0), (0x1032, 0x1036, .over 0),
    (0x1037, 0x1037, .over 7), (0x1038, 0x1038, .beside 0), (0x1039, 0x103a, .over 9),
    (0x103b, 0x103c, .beside 0), (0x103d, 0x103e, .over 0), (0x1056, 0x1057, .beside 0),
    (0x1058, 0x1059, .over 0), (0x105e, 0x1060, .over 0), (0x1062, 0x1064, .beside 0),
    (0x1067, 0x106d, .beside 0), (0x1071, 0x1074, .over 0), (0x1082, 0x1082, .over 0),
    (0x1083, 0x1084, .beside 0), (0x1085, 0x1086, .over 0), (0x1087, 0x108c, .beside 0),
    (0x108d, 0x108d, .over 220), (0x108f, 0x108f, .beside 0), (0x109a, 0x109c, .beside 0),
    (0x109d, 0x109d, .over 0), (0x135d, 0x135f, .over 230), (0x1712, 0x1713, .over 0),
    (0x1714, 0x1714, .over 9), (0x1715, 0x1715, .beside 9), (0x1732, 0x1733, .over 0),
    (0x1734, 0x1734, .beside 9), (0x1752, 0x1753, .over 0), (0x1772, 0x1773, .over 0),
    (0x17b6, 0x17b6, .beside 0), (0x17b7, 0x17bd, .over 0), (0x17be, 0x17c5, .beside 0),
    (0x17c6, 0x17c6, .over 0), (0x17c7, 0x17c8, .beside 0), (0x17c9, 0x17d1, .over 0),
    (0x17d2, 0x17d2, .over 9), (0x17d3, 0x17d3, .over 0), (0x17dd, 0x17dd, .over 230),
    (0x1885, 0x1886, .over 0), (0x18a9, 0x18a9, .over 228), (0x1920, 0x1922, .over 0),
    (0x1923, 0x1926, .beside 0), (0x1927, 0x1928, .over 0), (0x1929, 0x1931, .beside 0),
    (0x1932, 0x1932, .over 0), (0x1933, 0x1938, .beside 0), (0x1939, 0x1939, .over 222),
    (0x193a, 0x193a, .over 230), (0x193b, 0x193b, .over 220), (0x1a17, 0x1a17, .over 230),
    (0x1a18, 0x1a18, .over 220), (0x1a19, 0x1a1a, .beside 0), (0x1a1b, 0x1a1b, .over 0),
    (0x1a55, 0x1a55, .beside 0), (0x1a56, 0x1a56, .over 0), (0x1a57, 0x1a57, .beside 0),
    (0x1a58, 0x1a5e, .over 0), (0x1a60, 0x1a60, .over 9), (0x1a61, 0x1a61, .beside 0),
    (0x1a62, 0x1a62, .over 0), (0x1a63, 0x1a64, .beside 0), (0x1a65, 0x1a6c, .over 0),
    (0x1a6d, 0x1a72, .beside 0), (0x1a73, 0x1a74, .over 0), (0x1a75, 0x1a7c, .over 230),
    (0x1a7f, 0x1a7f, .over 220), (0x1ab0, 0x1ab4, .over 230), (0x1ab5, 0x1aba, .over 220),
    (0x1abb, 0x1abc, .over 230), (0x1abd, 0x1abd, .over 220), (0x1abe, 0x1abe, .over 0),
    (0x1abf, 0x1ac0, .over 220), (0x1ac1, 0x1ac2, .over 230), (0x1ac3, 0x1ac4, .over 220),
    (0x1ac5, 0x1ac9, .over 230), (0x1aca, 0x1aca, .over 220), (0x1acb, 0x1adc, .over 230),
    (0x1add, 0x1add, .over 220), (0x1ae0, 0x1ae5, .over 230), (0x1ae6, 0x1ae6, .over 220),
    (0x1ae7, 0x1aea, .over 230), (0x1aeb, 0x1aeb, .over 234), (0x1b00, 0x1b03, .over 0),
    (0x1b04, 0x1b04, .beside 0), (0x1b34, 0x1b34, .over 7), (0x1b35, 0x1b35, .beside 0),
    (0x1b36, 0x1b3a, .over 0), (0x1b3b, 0x1b3b, .beside 0), (0x1b3c, 0x1b3c, .over 0),
    (0x1b3d, 0x1b41, .beside 0), (0x1b42, 0x1b42, .over 0), (0x1b43, 0x1b43, .beside 0),
    (0x1b44, 0x1b44, .beside 9), (0x1b6b, 0x1b6b, .over 230), (0x1b6c, 0x1b6c, .over 220),
    (0x1b6d, 0x1b73, .over 230), (0x1b80, 0x1b81, .over 0), (0x1b82, 0x1b82, .beside 0),
    (0x1ba1, 0x1ba1, .beside 0), (0x1ba2, 0x1ba5, .over 0), (0x1ba6, 0x1ba7, .beside 0),
    (0x1ba8, 0x1ba9, .over 0), (0x1baa, 0x1baa, .beside 9), (0x1bab, 0x1bab, .over 9),
    (0x1bac, 0x1bad, .over 0), (0x1be6, 0x1be6, .over 7), (0x1be7, 0x1be7, .beside 0),
    (0x1be8, 0x1be9, .over 0), (0x1bea, 0x1bec, .beside 0), (0x1bed, 0x1bed, .over 0),
    (0x1bee, 0x1bee, .beside 0), (0x1bef, 0x1bf1, .over 0), (0x1bf2, 0x1bf3, .beside 9),
    (0x1c24, 0x1c2b, .beside 0), (0x1c2c, 0x1c33, .over 0), (0x1c34, 0x1c35, .beside 0),
    (0x1c36, 0x1c36, .over 0), (0x1c37, 0x1c37, .over 7), (0x1cd0, 0x1cd2, .over 230),
    (0x1cd4, 0x1cd4, .over 1), (0x1cd5, 0x1cd9, .over 220), (0x1cda, 0x1cdb, .over 230),
    (0x1cdc, 0x1cdf, .over 220), (0x1ce0, 0x1ce0, .over 230), (0x1ce1, 0x1ce1, .beside 0),
    (0x1ce2, 0x1ce8, .over 1), (0x1ced, 0x1ced, .over 220), (0x1cf4, 0x1cf4, .over 230),
    (0x1cf7, 0x1cf7, .beside 0), (0x1cf8, 0x1cf9, .over 230), (0x1dc0, 0x1dc1, .over 230),
    (0x1dc2, 0x1dc2, .over 220), (0x1dc3, 0x1dc9, .over 230), (0x1dca, 0x1dca, .over 220),
    (0x1dcb, 0x1dcc, .over 230), (0x1dcd, 0x1dcd, .over 234), (0x1dce, 0x1dce, .over 214),
    (0x1dcf, 0x1dcf, .over 220), (0x1dd0, 0x1dd0, .over 202), (0x1dd1, 0x1df5, .over 230),
    (0x1df6, 0x1df6, .over 232), (0x1df7, 0x1df8, .over 228), (0x1df9, 0x1df9, .over 220),
    (0x1dfa, 0x1dfa, .over 218), (0x1dfb, 0x1dfb, .over 230), (0x1dfc, 0x1dfc, .over 233),
    (0x1dfd, 0x1dfd, .over 220), (0x1dfe, 0x1dfe, .over 230), (0x1dff, 0x1dff, .over 220),
    (0x20d0, 0x20d1, .over 230), (0x20d2, 0x20d3, .over 1), (0x20d4, 0x20d7, .over 230),
    (0x20d8, 0x20da, .over 1), (0x20db, 0x20dc, .over 230), (0x20dd, 0x20e0, .over 0),
    (0x20e1, 0x20e1, .over 230), (0x20e2, 0x20e4, .over 0), (0x20e5, 0x20e6, .over 1),
    (0x20e7, 0x20e7, .over 230), (0x20e8, 0x20e8, .over 220), (0x20e9, 0x20e9, .over 230),
    (0x20ea, 0x20eb, .over 1), (0x20ec, 0x20ef, .over 220), (0x20f0, 0x20f0, .over 230),
    (0x2cef, 0x2cf1, .over 230), (0x2d7f, 0x2d7f, .over 9), (0x2de0, 0x2dff, .over 230),
    (0x302a, 0x302a, .over 218), (0x302b, 0x302b, .over 228), (0x302c, 0x302c, .over 232),
    (0x302d, 0x302d, .over 222), (0x302e, 0x302f, .beside 224), (0x3099, 0x309a, .over 8),
    (0xa66f, 0xa66f, .over 230), (0xa670, 0xa672, .over 0), (0xa674, 0xa67d, .over 230),
    (0xa69e, 0xa69f, .over 230), (0xa6f0, 0xa6f1, .over 230), (0xa802, 0xa802, .over 0),
    (0xa806, 0xa806, .over 9), (0xa80b, 0xa80b, .over 0), (0xa823, 0xa824, .beside 0),
    (0xa825, 0xa826, .over 0), (0xa827, 0xa827, .beside 0), (0xa82c, 0xa82c, .over 9),
    (0xa880, 0xa881, .beside 0), (0xa8b4, 0xa8c3, .beside 0), (0xa8c4, 0xa8c4, .over 9),
    (0xa8c5, 0xa8c5, .over 0), (0xa8e0, 0xa8f1, .over 230), (0xa8ff, 0xa8ff, .over 0),
    (0xa926, 0xa92a, .over 0), (0xa92b, 0xa92d, .over 220), (0xa947, 0xa951, .over 0),
    (0xa952, 0xa952, .beside 0), (0xa953, 0xa953, .beside 9), (0xa980, 0xa982, .over 0),
    (0xa983, 0xa983, .beside 0), (0xa9b3, 0xa9b3, .over 7), (0xa9b4, 0xa9b5, .beside 0),
    (0xa9b6, 0xa9b9, .over 0), (0xa9ba, 0xa9bb, .beside 0), (0xa9bc, 0xa9bd, .over 0),
    (0xa9be, 0xa9bf, .beside 0), (0xa9c0, 0xa9c0, .beside 9), (0xa9e5, 0xa9e5, .over 0),
    (0xaa29, 0xaa2e, .over 0), (0xaa2f, 0xaa30, .beside 0), (0xaa31, 0xaa32, .over 0),
    (0xaa33, 0xaa34, .beside 0), (0xaa35, 0xaa36, .over 0), (0xaa43, 0xaa43, .over 0),
    (0xaa4c, 0xaa4c, .over 0), (0xaa4d, 0xaa4d, .beside 0), (0xaa7b, 0xaa7b, .beside 0),
    (0xaa7c, 0xaa7c, .over 0), (0xaa7d, 0xaa7d, .beside 0), (0xaab0, 0xaab0, .over 230),
    (0xaab2, 0xaab3, .over 230), (0xaab4, 0xaab4, .over 220), (0xaab7, 0xaab8, .over 230),
    (0xaabe, 0xaabf, .over 230), (0xaac1, 0xaac1, .over 230), (0xaaeb, 0xaaeb, .beside 0),
    (0xaaec, 0xaaed, .over 0), (0xaaee, 0xaaef, .beside 0), (0xaaf5, 0xaaf5, .beside 0),
    (0xaaf6, 0xaaf6, .over 9), (0xabe3, 0xabe4, .beside 0), (0xabe5, 0xabe5, .over 0),
    (0xabe6, 0xabe7, .beside 0), (0xabe8, 0xabe8, .over 0), (0xabe9, 0xabea, .beside 0),
    (0xabec, 0xabec, .beside 0), (0xabed, 0xabed, .over 9), (0xfb1e, 0xfb1e, .over 26),
    (0xfe20, 0xfe26, .over 230), (0xfe27, 0xfe2d, .over 220), (0xfe2e, 0xfe2f, .over 230),
    (0x101fd, 0x101fd, .over 220), (0x102e0, 0x102e0, .over 220), (0x10376, 0x1037a, .over 230),
    (0x10a01, 0x10a0c, .over 0), (0x10a0d, 0x10a0d, .over 220), (0x10a0e, 0x10a0e, .over 0),
    (0x10a0f, 0x10a0f, .over 230), (0x10a38, 0x10a38, .over 230), (0x10a39, 0x10a39, .over 1),
    (0x10a3a, 0x10a3a, .over 220), (0x10a3f, 0x10a3f, .over 9), (0x10ae5, 0x10ae5, .over 230),
    (0x10ae6, 0x10ae6, .over 220), (0x10d24, 0x10d27, .over 230), (0x10d69, 0x10d6d, .over 230),
    (0x10eab, 0x10eac, .over 230), (0x10efa, 0x10efb, .over 220), (0x10efc, 0x10efc, .over 0),
    (0x10efd, 0x10eff, .over 220), (0x10f46, 0x10f47, .over 220), (0x10f48, 0x10f4a, .over 230),
    (0x10f4b, 0x10f4b, .over 220), (0x10f4c, 0x10f4c, .over 230), (0x10f4d, 0x10f50, .over 220),
    (0x10f82, 0x10f82, .over 230), (0x10f83, 0x10f83, .over 220), (0x10f84, 0x10f84, .over 230),
    (0x10f85, 0x10f85, .over 220), (0x11000, 0x11000, .beside 0), (0x11001, 0x11001, .over 0),
    (0x11002, 0x11002, .beside 0), (0x11038, 0x11045, .over 0), (0x11046, 0x11046, .over 9),
    (0x11070, 0x11070, .over 9), (0x11073, 0x11074, .over 0), (0x1107f, 0x1107f, .over 9),
    (0x11080, 0x11081, .over 0), (0x11082, 0x11082, .beside 0), (0x110b0, 0x110b2, .beside 0),
    (0x110b3, 0x110b6, .over 0), (0x110b7, 0x110b8, .beside 0), (0x110b9, 0x110b9, .over 9),
    (0x110ba, 0x110ba, .over 7), (0x110c2, 0x110c2, .over 0), (0x11100, 0x11102, .over 230),
    (0x11127, 0x1112b, .over 0), (0x1112c, 0x1112c, .beside 0), (0x1112d, 0x11132, .over 0),
    (0x11133, 0x11134, .over 9), (0x11145, 0x11146, .beside 0), (0x11173, 0x11173, .over 7),
    (0x11180, 0x11181, .over 0), (0x11182, 0x11182, .beside 0), (0x111b3, 0x111b5, .beside 0),
    (0x111b6, 0x111be, .over 0), (0x111bf, 0x111bf, .beside 0), (0x111c0, 0x111c0, .beside 9),
    (0x111c9, 0x111c9, .over 0), (0x111ca, 0x111ca, .over 7), (0x111cb, 0x111cc, .over 0),
    (0x111ce, 0x111ce, .beside 0), (0x111cf, 0x111cf, .over 0), (0x1122c, 0x1122e, .beside 0),
    (0x1122f, 0x11231, .over 0), (0x11232, 0x11233, .beside 0), (0x11234, 0x11234, .over 0),
    (0x11235, 0x11235, .beside 9), (0x11236, 0x11236, .over 7), (0x11237, 0x11237, .over 0),
    (0x1123e, 0x1123e, .over 0), (0x11241, 0x11241, .over 0), (0x112df, 0x112df, .over 0),
    (0x112e0, 0x112e2, .beside 0), (0x112e3, 0x112e8, .over 0), (0x112e9, 0x112e9, .over 7),
    (0x112ea, 0x112ea, .over 9), (0x11300, 0x11301, .over 0), (0x11302, 0x11303, .beside 0),
    (0x1133b, 0x1133c, .over 7), (0x1133e, 0x1133f, .beside 0), (0x11340, 0x11340, .over 0),
    (0x11341, 0x1134c, .beside 0), (0x1134d, 0x1134d, .beside 9), (0x11357, 0x11357, .beside 0),
    (0x11362, 0x11363, .beside 0), (0x11366, 0x11374, .over 230), (0x113b8, 0x113ba, .beside 0),
    (0x113bb, 0x113c0, .over 0), (0x113c2, 0x113cd, .beside 0), (0x113ce, 0x113ce, .over 9),
    (0x113cf, 0x113cf, .beside 9), (0x113d0, 0x113d0, .over 9), (0x113d2, 0x113d2, .over 0),
    (0x113e1, 0x113e2, .over 0), (0x11435, 0x11437, .beside 0), (0x11438, 0x1143f, .over 0),
    (0x11440, 0x11441, .beside 0), (0x11442, 0x11442, .over 9), (0x11443, 0x11444, .over 0),
    (0x11445, 0x11445, .beside 0), (0x11446, 0x11446, .over 7), (0x1145e, 0x1145e, .over 230),
    (0x114b0, 0x114b2, .beside 0), (0x114b3, 0x114b8, .over 0), (0x114b9, 0x114b9, .beside 0),
    (0x114ba, 0x114ba, .over 0), (0x114bb, 0x114be, .beside 0), (0x114bf, 0x114c0, .over 0),
    (0x114c1, 0x114c1, .beside 0), (0x114c2, 0x114c2, .over 9), (0x114c3, 0x114c3, .over 7),
    (0x115af, 0x115b1, .beside 0), (0x115b2, 0x115b5, .over 0), (0x115b8, 0x115bb, .beside 0),
    (0x115bc, 0x115bd, .over 0), (0x115be, 0x115be, .beside 0), (0x115bf, 0x115bf, .over 9),
    (0x115c0, 0x115c0, .over 7), (0x115dc, 0x115dd, .over 0), (0x11630, 0x11632, .beside 0),
    (0x11633, 0x1163a, .over 0), (0x1163b, 0x1163c, .beside 0), (0x1163d, 0x1163d, .over 0),
    (0x1163e, 0x1163e, .beside 0), (0x1163f, 0x1163f, .over 9), (0x11640, 0x11640, .over 0),
    (0x116ab, 0x116ab, .over 0), (0x116ac, 0x116ac, .beside 0), (0x116ad, 0x116ad, .over 0),
    (0x116ae, 0x116af, .beside 0), (0x116b0, 0x116b5, .over 0), (0x116b6, 0x116b6, .beside 9),
    (0x116b7, 0x116b7, .over 7), (0x1171d, 0x1171d, .over 0), (0x1171e, 0x1171e, .beside 0),
    (0x1171f, 0x1171f, .over 0), (0x11720, 0x11721, .beside 0), (0x11722, 0x11725, .over 0),
    (0x11726, 0x11726, .beside 0), (0x11727, 0x1172a, .over 0), (0x1172b, 0x1172b, .over 9),
    (0x1182c, 0x1182e, .beside 0), (0x1182f, 0x11837, .over 0), (0x11838, 0x11838, .beside 0),
    (0x11839, 0x11839, .over 9), (0x1183a, 0x1183a, .over 7), (0x11930, 0x11938, .beside 0),
    (0x1193b, 0x1193c, .over 0), (0x1193d, 0x1193d, .beside 9), (0x1193e, 0x1193e, .over 9),
    (0x11940, 0x11940, .beside 0), (0x11942, 0x11942, .beside 0), (0x11943, 0x11943, .over 7),
    (0x119d1, 0x119d3, .beside 0), (0x119d4, 0x119db, .over 0), (0x119dc, 0x119df, .beside 0),
    (0x119e0, 0x119e0, .over 9), (0x119e4, 0x119e4, .beside 0), (0x11a01, 0x11a0a, .over 0),
    (0x11a33, 0x11a33, .over 0), (0x11a34, 0x11a34, .over 9), (0x11a35, 0x11a38, .over 0),
    (0x11a39, 0x11a39, .beside 0), (0x11a3b, 0x11a3e, .over 0), (0x11a47, 0x11a47, .over 9),
    (0x11a51, 0x11a56, .over 0), (0x11a57, 0x11a58, .beside 0), (0x11a59, 0x11a5b, .over 0),
    (0x11a8a, 0x11a96, .over 0), (0x11a97, 0x11a97, .beside 0), (0x11a98, 0x11a98, .over 0),
    (0x11a99, 0x11a99, .over 9), (0x11b60, 0x11b60, .over 0), (0x11b61, 0x11b61, .beside 0),
    (0x11b62, 0x11b64, .over 0), (0x11b65, 0x11b65, .beside 0), (0x11b66, 0x11b66, .over 0),
    (0x11b67, 0x11b67, .beside 0), (0x11c2f, 0x11c2f, .beside 0), (0x11c30, 0x11c3d, .over 0),
    (0x11c3e, 0x11c3e, .beside 0), (0x11c3f, 0x11c3f, .over 9), (0x11c92, 0x11ca7, .over 0),
    (0x11ca9, 0x11ca9, .beside 0), (0x11caa, 0x11cb0, .over 0), (0x11cb1, 0x11cb1, .beside 0),
    (0x11cb2, 0x11cb3, .over 0), (0x11cb4, 0x11cb4, .beside 0), (0x11cb5, 0x11cb6, .over 0),
    (0x11d31, 0x11d41, .over 0), (0x11d42, 0x11d42, .over 7), (0x11d43, 0x11d43, .over 0),
    (0x11d44, 0x11d45, .over 9), (0x11d47, 0x11d47, .over 0), (0x11d8a, 0x11d8e, .beside 0),
    (0x11d90, 0x11d91, .over 0), (0x11d93, 0x11d94, .beside 0), (0x11d95, 0x11d95, .over 0),
    (0x11d96, 0x11d96, .beside 0), (0x11d97, 0x11d97, .over 9), (0x11ef3, 0x11ef4, .over 0),
    (0x11ef5, 0x11ef6, .beside 0), (0x11f00, 0x11f01, .over 0), (0x11f03, 0x11f03, .beside 0),
    (0x11f34, 0x11f35, .beside 0), (0x11f36, 0x11f3a, .over 0), (0x11f3e, 0x11f3f, .beside 0),
    (0x11f40, 0x11f40, .over 0), (0x11f41, 0x11f41, .beside 9), (0x11f42, 0x11f42, .over 9),
    (0x11f5a, 0x11f5a, .over 0), (0x13440, 0x13440, .over 0), (0x13447, 0x13455, .over 0),
    (0x1611e, 0x16129, .over 0), (0x1612a, 0x1612c, .beside 0), (0x1612d, 0x1612e, .over 0),
    (0x1612f, 0x1612f, .over 9), (0x16af0, 0x16af4, .over 1), (0x16b30, 0x16b36, .over 230),
    (0x16f4f, 0x16f4f, .over 0), (0x16f51, 0x16f87, .beside 0), (0x16f8f, 0x16f92, .over 0),
    (0x16fe4, 0x16fe4, .over 0), (0x16ff0, 0x16ff1, .beside 6), (0x1bc9d, 0x1bc9d, .over 0),
    (0x1bc9e, 0x1bc9e, .over 1), (0x1cf00, 0x1cf46, .over 0), (0x1d165, 0x1d166, .beside 216),
    (0x1d167, 0x1d169, .over 1), (0x1d16d, 0x1d16d, .beside 226), (0x1d16e, 0x1d172, .beside 216),
    (0x1d17b, 0x1d182, .over 220), (0x1d185, 0x1d189, .over 230), (0x1d18a, 0x1d18b, .over 220),
    (0x1d1aa, 0x1d1ad, .over 230), (0x1d242, 0x1d244, .over 230), (0x1da00, 0x1da36, .over 0),
    (0x1da3b, 0x1da6c, .over 0), (0x1da75, 0x1da75, .over 0), (0x1da84, 0x1da84, .over 0),
    (0x1da9b, 0x1daaf, .over 0), (0x1e000, 0x1e08f, .over 230), (0x1e130, 0x1e136, .over 230),
    (0x1e2ae, 0x1e2ae, .over 230), (0x1e2ec, 0x1e2ef, .over 230), (0x1e4ec, 0x1e4ed, .over 232),
    (0x1e4ee, 0x1e4ee, .over 220), (0x1e4ef, 0x1e4ef, .over 230), (0x1e5ee, 0x1e5ee, .over 230),
    (0x1e5ef, 0x1e5ef, .over 220), (0x1e6e3, 0x1e6e3, .over 230), (0x1e6e6, 0x1e6e6, .over 230),
    (0x1e6ee, 0x1e6ef, .over 230), (0x1e6f5, 0x1e6f5, .over 230), (0x1e8d0, 0x1e8d6, .over 220),
    (0x1e944, 0x1e949, .over 230), (0x1e94a, 0x1e94a, .over 7)
  ]

def mark? (c : Char) : Option Mark := if c.toNat < 0x300 then none else findRange? markRanges c

def combiningClass (c : Char) : Nat := ((mark? c).map Mark.combiningClass).getD 0

def silencer : Nat := 9

end ExplorerProxy.Text
