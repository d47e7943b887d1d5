import InputDeck.Text.CharacterRun

/-!
# Composed characters

The lower-case and caseless characters that stand for a letter with marks, each with the sequence
that it stands for. Hangul syllables follow a rule and are not listed.
-/

namespace InputDeck.Text

def composedRuns : List CharacterRun :=
  [⟨0xe0, "a\u0300 a\u0301 a\u0302 a\u0303 a\u0308 a\u030a"⟩,
   ⟨0xe7, "c\u0327 e\u0300 e\u0301 e\u0302 e\u0308 i\u0300 i\u0301 i\u0302 i\u0308"⟩,
   ⟨0xf1, "n\u0303 o\u0300 o\u0301 o\u0302 o\u0303 o\u0308"⟩,
   ⟨0xf9, "u\u0300 u\u0301 u\u0302 u\u0308 y\u0301"⟩, ⟨0xff, "y\u0308"⟩, ⟨0x101, "a\u0304"⟩,
   ⟨0x103, "a\u0306"⟩, ⟨0x105, "a\u0328"⟩, ⟨0x107, "c\u0301"⟩, ⟨0x109, "c\u0302"⟩,
   ⟨0x10b, "c\u0307"⟩, ⟨0x10d, "c\u030c"⟩, ⟨0x10f, "d\u030c"⟩, ⟨0x113, "e\u0304"⟩,
   ⟨0x115, "e\u0306"⟩, ⟨0x117, "e\u0307"⟩, ⟨0x119, "e\u0328"⟩, ⟨0x11b, "e\u030c"⟩,
   ⟨0x11d, "g\u0302"⟩, ⟨0x11f, "g\u0306"⟩, ⟨0x121, "g\u0307"⟩, ⟨0x123, "g\u0327"⟩,
   ⟨0x125, "h\u0302"⟩, ⟨0x129, "i\u0303"⟩, ⟨0x12b, "i\u0304"⟩, ⟨0x12d, "i\u0306"⟩,
   ⟨0x12f, "i\u0328"⟩, ⟨0x135, "j\u0302"⟩, ⟨0x137, "k\u0327"⟩, ⟨0x13a, "l\u0301"⟩,
   ⟨0x13c, "l\u0327"⟩, ⟨0x13e, "l\u030c"⟩, ⟨0x144, "n\u0301"⟩, ⟨0x146, "n\u0327"⟩,
   ⟨0x148, "n\u030c"⟩, ⟨0x14d, "o\u0304"⟩, ⟨0x14f, "o\u0306"⟩, ⟨0x151, "o\u030b"⟩,
   ⟨0x155, "r\u0301"⟩, ⟨0x157, "r\u0327"⟩, ⟨0x159, "r\u030c"⟩, ⟨0x15b, "s\u0301"⟩,
   ⟨0x15d, "s\u0302"⟩, ⟨0x15f, "s\u0327"⟩, ⟨0x161, "s\u030c"⟩, ⟨0x163, "t\u0327"⟩,
   ⟨0x165, "t\u030c"⟩, ⟨0x169, "u\u0303"⟩, ⟨0x16b, "u\u0304"⟩, ⟨0x16d, "u\u0306"⟩,
   ⟨0x16f, "u\u030a"⟩, ⟨0x171, "u\u030b"⟩, ⟨0x173, "u\u0328"⟩, ⟨0x175, "w\u0302"⟩,
   ⟨0x177, "y\u0302"⟩, ⟨0x17a, "z\u0301"⟩, ⟨0x17c, "z\u0307"⟩, ⟨0x17e, "z\u030c"⟩,
   ⟨0x1a1, "o\u031b"⟩, ⟨0x1b0, "u\u031b"⟩, ⟨0x1ce, "a\u030c"⟩, ⟨0x1d0, "i\u030c"⟩,
   ⟨0x1d2, "o\u030c"⟩, ⟨0x1d4, "u\u030c"⟩, ⟨0x1d6, "u\u0308\u0304"⟩, ⟨0x1d8, "u\u0308\u0301"⟩,
   ⟨0x1da, "u\u0308\u030c"⟩, ⟨0x1dc, "u\u0308\u0300"⟩, ⟨0x1df, "a\u0308\u0304"⟩,
   ⟨0x1e1, "a\u0307\u0304"⟩, ⟨0x1e3, "æ\u0304"⟩, ⟨0x1e7, "g\u030c"⟩, ⟨0x1e9, "k\u030c"⟩,
   ⟨0x1eb, "o\u0328"⟩, ⟨0x1ed, "o\u0328\u0304"⟩, ⟨0x1ef, "ʒ\u030c j\u030c"⟩, ⟨0x1f5, "g\u0301"⟩,
   ⟨0x1f9, "n\u0300"⟩, ⟨0x1fb, "a\u030a\u0301"⟩, ⟨0x1fd, "æ\u0301"⟩, ⟨0x1ff, "ø\u0301"⟩,
   ⟨0x201, "a\u030f"⟩, ⟨0x203, "a\u0311"⟩, ⟨0x205, "e\u030f"⟩, ⟨0x207, "e\u0311"⟩,
   ⟨0x209, "i\u030f"⟩, ⟨0x20b, "i\u0311"⟩, ⟨0x20d, "o\u030f"⟩, ⟨0x20f, "o\u0311"⟩,
   ⟨0x211, "r\u030f"⟩, ⟨0x213, "r\u0311"⟩, ⟨0x215, "u\u030f"⟩, ⟨0x217, "u\u0311"⟩,
   ⟨0x219, "s\u0326"⟩, ⟨0x21b, "t\u0326"⟩, ⟨0x21f, "h\u030c"⟩, ⟨0x227, "a\u0307"⟩,
   ⟨0x229, "e\u0327"⟩, ⟨0x22b, "o\u0308\u0304"⟩, ⟨0x22d, "o\u0303\u0304"⟩, ⟨0x22f, "o\u0307"⟩,
   ⟨0x231, "o\u0307\u0304"⟩, ⟨0x233, "y\u0304"⟩, ⟨0x390, "ι\u0308\u0301"⟩,
   ⟨0x3ac, "α\u0301 ε\u0301 η\u0301 ι\u0301 υ\u0308\u0301"⟩,
   ⟨0x3ca, "ι\u0308 υ\u0308 ο\u0301 υ\u0301 ω\u0301"⟩, ⟨0x439, "и\u0306"⟩,
   ⟨0x450, "е\u0300 е\u0308"⟩, ⟨0x453, "г\u0301"⟩, ⟨0x457, "і\u0308"⟩,
   ⟨0x45c, "к\u0301 и\u0300 у\u0306"⟩, ⟨0x477, "ѵ\u030f"⟩, ⟨0x4c2, "ж\u0306"⟩, ⟨0x4d1, "а\u0306"⟩,
   ⟨0x4d3, "а\u0308"⟩, ⟨0x4d7, "е\u0306"⟩, ⟨0x4db, "ә\u0308"⟩, ⟨0x4dd, "ж\u0308"⟩,
   ⟨0x4df, "з\u0308"⟩, ⟨0x4e3, "и\u0304"⟩, ⟨0x4e5, "и\u0308"⟩, ⟨0x4e7, "о\u0308"⟩,
   ⟨0x4eb, "ө\u0308"⟩, ⟨0x4ed, "э\u0308"⟩, ⟨0x4ef, "у\u0304"⟩, ⟨0x4f1, "у\u0308"⟩,
   ⟨0x4f3, "у\u030b"⟩, ⟨0x4f5, "ч\u0308"⟩, ⟨0x4f9, "ы\u0308"⟩,
   ⟨0x622, "\u0627\u0653 \u0627\u0654 \u0648\u0654 \u0627\u0655 \u064a\u0654"⟩,
   ⟨0x6c0, "\u06d5\u0654"⟩, ⟨0x6c2, "\u06c1\u0654"⟩, ⟨0x6d3, "\u06d2\u0654"⟩,
   ⟨0x929, "\u0928\u093c"⟩, ⟨0x931, "\u0930\u093c"⟩, ⟨0x934, "\u0933\u093c"⟩,
   ⟨0x9cb, "\u09c7\u09be \u09c7\u09d7"⟩, ⟨0xb48, "\u0b47\u0b56"⟩,
   ⟨0xb4b, "\u0b47\u0b3e \u0b47\u0b57"⟩, ⟨0xb94, "\u0b92\u0bd7"⟩,
   ⟨0xbca, "\u0bc6\u0bbe \u0bc7\u0bbe \u0bc6\u0bd7"⟩, ⟨0xc48, "\u0c46\u0c56"⟩,
   ⟨0xcc0, "\u0cbf\u0cd5"⟩, ⟨0xcc7, "\u0cc6\u0cd5 \u0cc6\u0cd6"⟩,
   ⟨0xcca, "\u0cc6\u0cc2 \u0cc6\u0cc2\u0cd5"⟩, ⟨0xd4a, "\u0d46\u0d3e \u0d47\u0d3e \u0d46\u0d57"⟩,
   ⟨0xdda, "\u0dd9\u0dca"⟩, ⟨0xddc, "\u0dd9\u0dcf \u0dd9\u0dcf\u0dca \u0dd9\u0ddf"⟩,
   ⟨0x1026, "\u1025\u102e"⟩, ⟨0x1b06, "ᬅ\u1b35"⟩, ⟨0x1b08, "ᬇ\u1b35"⟩, ⟨0x1b0a, "ᬉ\u1b35"⟩,
   ⟨0x1b0c, "ᬋ\u1b35"⟩, ⟨0x1b0e, "ᬍ\u1b35"⟩, ⟨0x1b12, "ᬑ\u1b35"⟩, ⟨0x1b3b, "\u1b3a\u1b35"⟩,
   ⟨0x1b3d, "\u1b3c\u1b35"⟩, ⟨0x1b40, "\u1b3e\u1b35 \u1b3f\u1b35"⟩, ⟨0x1b43, "\u1b42\u1b35"⟩,
   ⟨0x1e01, "a\u0325"⟩, ⟨0x1e03, "b\u0307"⟩, ⟨0x1e05, "b\u0323"⟩, ⟨0x1e07, "b\u0331"⟩,
   ⟨0x1e09, "c\u0327\u0301"⟩, ⟨0x1e0b, "d\u0307"⟩, ⟨0x1e0d, "d\u0323"⟩, ⟨0x1e0f, "d\u0331"⟩,
   ⟨0x1e11, "d\u0327"⟩, ⟨0x1e13, "d\u032d"⟩, ⟨0x1e15, "e\u0304\u0300"⟩, ⟨0x1e17, "e\u0304\u0301"⟩,
   ⟨0x1e19, "e\u032d"⟩, ⟨0x1e1b, "e\u0330"⟩, ⟨0x1e1d, "e\u0327\u0306"⟩, ⟨0x1e1f, "f\u0307"⟩,
   ⟨0x1e21, "g\u0304"⟩, ⟨0x1e23, "h\u0307"⟩, ⟨0x1e25, "h\u0323"⟩, ⟨0x1e27, "h\u0308"⟩,
   ⟨0x1e29, "h\u0327"⟩, ⟨0x1e2b, "h\u032e"⟩, ⟨0x1e2d, "i\u0330"⟩, ⟨0x1e2f, "i\u0308\u0301"⟩,
   ⟨0x1e31, "k\u0301"⟩, ⟨0x1e33, "k\u0323"⟩, ⟨0x1e35, "k\u0331"⟩, ⟨0x1e37, "l\u0323"⟩,
   ⟨0x1e39, "l\u0323\u0304"⟩, ⟨0x1e3b, "l\u0331"⟩, ⟨0x1e3d, "l\u032d"⟩, ⟨0x1e3f, "m\u0301"⟩,
   ⟨0x1e41, "m\u0307"⟩, ⟨0x1e43, "m\u0323"⟩, ⟨0x1e45, "n\u0307"⟩, ⟨0x1e47, "n\u0323"⟩,
   ⟨0x1e49, "n\u0331"⟩, ⟨0x1e4b, "n\u032d"⟩, ⟨0x1e4d, "o\u0303\u0301"⟩, ⟨0x1e4f, "o\u0303\u0308"⟩,
   ⟨0x1e51, "o\u0304\u0300"⟩, ⟨0x1e53, "o\u0304\u0301"⟩, ⟨0x1e55, "p\u0301"⟩, ⟨0x1e57, "p\u0307"⟩,
   ⟨0x1e59, "r\u0307"⟩, ⟨0x1e5b, "r\u0323"⟩, ⟨0x1e5d, "r\u0323\u0304"⟩, ⟨0x1e5f, "r\u0331"⟩,
   ⟨0x1e61, "s\u0307"⟩, ⟨0x1e63, "s\u0323"⟩, ⟨0x1e65, "s\u0301\u0307"⟩, ⟨0x1e67, "s\u030c\u0307"⟩,
   ⟨0x1e69, "s\u0323\u0307"⟩, ⟨0x1e6b, "t\u0307"⟩, ⟨0x1e6d, "t\u0323"⟩, ⟨0x1e6f, "t\u0331"⟩,
   ⟨0x1e71, "t\u032d"⟩, ⟨0x1e73, "u\u0324"⟩, ⟨0x1e75, "u\u0330"⟩, ⟨0x1e77, "u\u032d"⟩,
   ⟨0x1e79, "u\u0303\u0301"⟩, ⟨0x1e7b, "u\u0304\u0308"⟩, ⟨0x1e7d, "v\u0303"⟩, ⟨0x1e7f, "v\u0323"⟩,
   ⟨0x1e81, "w\u0300"⟩, ⟨0x1e83, "w\u0301"⟩, ⟨0x1e85, "w\u0308"⟩, ⟨0x1e87, "w\u0307"⟩,
   ⟨0x1e89, "w\u0323"⟩, ⟨0x1e8b, "x\u0307"⟩, ⟨0x1e8d, "x\u0308"⟩, ⟨0x1e8f, "y\u0307"⟩,
   ⟨0x1e91, "z\u0302"⟩, ⟨0x1e93, "z\u0323"⟩, ⟨0x1e95, "z\u0331 h\u0331 t\u0308 w\u030a y\u030a"⟩,
   ⟨0x1ea1, "a\u0323"⟩, ⟨0x1ea3, "a\u0309"⟩, ⟨0x1ea5, "a\u0302\u0301"⟩, ⟨0x1ea7, "a\u0302\u0300"⟩,
   ⟨0x1ea9, "a\u0302\u0309"⟩, ⟨0x1eab, "a\u0302\u0303"⟩, ⟨0x1ead, "a\u0323\u0302"⟩,
   ⟨0x1eaf, "a\u0306\u0301"⟩, ⟨0x1eb1, "a\u0306\u0300"⟩, ⟨0x1eb3, "a\u0306\u0309"⟩,
   ⟨0x1eb5, "a\u0306\u0303"⟩, ⟨0x1eb7, "a\u0323\u0306"⟩, ⟨0x1eb9, "e\u0323"⟩, ⟨0x1ebb, "e\u0309"⟩,
   ⟨0x1ebd, "e\u0303"⟩, ⟨0x1ebf, "e\u0302\u0301"⟩, ⟨0x1ec1, "e\u0302\u0300"⟩,
   ⟨0x1ec3, "e\u0302\u0309"⟩, ⟨0x1ec5, "e\u0302\u0303"⟩, ⟨0x1ec7, "e\u0323\u0302"⟩,
   ⟨0x1ec9, "i\u0309"⟩, ⟨0x1ecb, "i\u0323"⟩, ⟨0x1ecd, "o\u0323"⟩, ⟨0x1ecf, "o\u0309"⟩,
   ⟨0x1ed1, "o\u0302\u0301"⟩, ⟨0x1ed3, "o\u0302\u0300"⟩, ⟨0x1ed5, "o\u0302\u0309"⟩,
   ⟨0x1ed7, "o\u0302\u0303"⟩, ⟨0x1ed9, "o\u0323\u0302"⟩, ⟨0x1edb, "o\u031b\u0301"⟩,
   ⟨0x1edd, "o\u031b\u0300"⟩, ⟨0x1edf, "o\u031b\u0309"⟩, ⟨0x1ee1, "o\u031b\u0303"⟩,
   ⟨0x1ee3, "o\u031b\u0323"⟩, ⟨0x1ee5, "u\u0323"⟩, ⟨0x1ee7, "u\u0309"⟩, ⟨0x1ee9, "u\u031b\u0301"⟩,
   ⟨0x1eeb, "u\u031b\u0300"⟩, ⟨0x1eed, "u\u031b\u0309"⟩, ⟨0x1eef, "u\u031b\u0303"⟩,
   ⟨0x1ef1, "u\u031b\u0323"⟩, ⟨0x1ef3, "y\u0300"⟩, ⟨0x1ef5, "y\u0323"⟩, ⟨0x1ef7, "y\u0309"⟩,
   ⟨0x1ef9, "y\u0303"⟩,
   ⟨0x1f00, "α\u0313 α\u0314 α\u0313\u0300 α\u0314\u0300 α\u0313\u0301 α\u0314\u0301 " ++
    "α\u0313\u0342 α\u0314\u0342"⟩,
   ⟨0x1f10, "ε\u0313 ε\u0314 ε\u0313\u0300 ε\u0314\u0300 ε\u0313\u0301 ε\u0314\u0301"⟩,
   ⟨0x1f20, "η\u0313 η\u0314 η\u0313\u0300 η\u0314\u0300 η\u0313\u0301 η\u0314\u0301 " ++
    "η\u0313\u0342 η\u0314\u0342"⟩,
   ⟨0x1f30, "ι\u0313 ι\u0314 ι\u0313\u0300 ι\u0314\u0300 ι\u0313\u0301 ι\u0314\u0301 " ++
    "ι\u0313\u0342 ι\u0314\u0342"⟩,
   ⟨0x1f40, "ο\u0313 ο\u0314 ο\u0313\u0300 ο\u0314\u0300 ο\u0313\u0301 ο\u0314\u0301"⟩,
   ⟨0x1f50, "υ\u0313 υ\u0314 υ\u0313\u0300 υ\u0314\u0300 υ\u0313\u0301 υ\u0314\u0301 " ++
    "υ\u0313\u0342 υ\u0314\u0342"⟩,
   ⟨0x1f60, "ω\u0313 ω\u0314 ω\u0313\u0300 ω\u0314\u0300 ω\u0313\u0301 ω\u0314\u0301 " ++
    "ω\u0313\u0342 ω\u0314\u0342"⟩,
   ⟨0x1f70, "α\u0300"⟩, ⟨0x1f72, "ε\u0300"⟩, ⟨0x1f74, "η\u0300"⟩, ⟨0x1f76, "ι\u0300"⟩,
   ⟨0x1f78, "ο\u0300"⟩, ⟨0x1f7a, "υ\u0300"⟩, ⟨0x1f7c, "ω\u0300"⟩, ⟨0x1fb0, "α\u0306 α\u0304"⟩,
   ⟨0x1fb6, "α\u0342"⟩, ⟨0x1fc6, "η\u0342"⟩, ⟨0x1fd0, "ι\u0306 ι\u0304 ι\u0308\u0300"⟩,
   ⟨0x1fd6, "ι\u0342 ι\u0308\u0342"⟩, ⟨0x1fe0, "υ\u0306 υ\u0304 υ\u0308\u0300"⟩,
   ⟨0x1fe4, "ρ\u0313 ρ\u0314 υ\u0342 υ\u0308\u0342"⟩, ⟨0x1ff6, "ω\u0342"⟩,
   ⟨0x219a, "←\u0338 →\u0338"⟩, ⟨0x21ae, "↔\u0338"⟩, ⟨0x21cd, "⇐\u0338 ⇔\u0338 ⇒\u0338"⟩,
   ⟨0x2204, "∃\u0338"⟩, ⟨0x2209, "∈\u0338"⟩, ⟨0x220c, "∋\u0338"⟩, ⟨0x2224, "∣\u0338"⟩,
   ⟨0x2226, "∥\u0338"⟩, ⟨0x2241, "∼\u0338"⟩, ⟨0x2244, "≃\u0338"⟩, ⟨0x2247, "≅\u0338"⟩,
   ⟨0x2249, "≈\u0338"⟩, ⟨0x2260, "=\u0338"⟩, ⟨0x2262, "≡\u0338"⟩,
   ⟨0x226d, "≍\u0338 <\u0338 >\u0338 ≤\u0338 ≥\u0338"⟩, ⟨0x2274, "≲\u0338 ≳\u0338"⟩,
   ⟨0x2278, "≶\u0338 ≷\u0338"⟩, ⟨0x2280, "≺\u0338 ≻\u0338"⟩, ⟨0x2284, "⊂\u0338 ⊃\u0338"⟩,
   ⟨0x2288, "⊆\u0338 ⊇\u0338"⟩, ⟨0x22ac, "⊢\u0338 ⊨\u0338 ⊩\u0338 ⊫\u0338"⟩,
   ⟨0x22e0, "≼\u0338 ≽\u0338 ⊑\u0338 ⊒\u0338"⟩, ⟨0x22ea, "⊲\u0338 ⊳\u0338 ⊴\u0338 ⊵\u0338"⟩,
   ⟨0x304c, "か\u3099"⟩, ⟨0x304e, "き\u3099"⟩, ⟨0x3050, "く\u3099"⟩, ⟨0x3052, "け\u3099"⟩,
   ⟨0x3054, "こ\u3099"⟩, ⟨0x3056, "さ\u3099"⟩, ⟨0x3058, "し\u3099"⟩, ⟨0x305a, "す\u3099"⟩,
   ⟨0x305c, "せ\u3099"⟩, ⟨0x305e, "そ\u3099"⟩, ⟨0x3060, "た\u3099"⟩, ⟨0x3062, "ち\u3099"⟩,
   ⟨0x3065, "つ\u3099"⟩, ⟨0x3067, "て\u3099"⟩, ⟨0x3069, "と\u3099"⟩, ⟨0x3070, "は\u3099 は\u309a"⟩,
   ⟨0x3073, "ひ\u3099 ひ\u309a"⟩, ⟨0x3076, "ふ\u3099 ふ\u309a"⟩, ⟨0x3079, "へ\u3099 へ\u309a"⟩,
   ⟨0x307c, "ほ\u3099 ほ\u309a"⟩, ⟨0x3094, "う\u3099"⟩, ⟨0x309e, "ゝ\u3099"⟩, ⟨0x30ac, "カ\u3099"⟩,
   ⟨0x30ae, "キ\u3099"⟩, ⟨0x30b0, "ク\u3099"⟩, ⟨0x30b2, "ケ\u3099"⟩, ⟨0x30b4, "コ\u3099"⟩,
   ⟨0x30b6, "サ\u3099"⟩, ⟨0x30b8, "シ\u3099"⟩, ⟨0x30ba, "ス\u3099"⟩, ⟨0x30bc, "セ\u3099"⟩,
   ⟨0x30be, "ソ\u3099"⟩, ⟨0x30c0, "タ\u3099"⟩, ⟨0x30c2, "チ\u3099"⟩, ⟨0x30c5, "ツ\u3099"⟩,
   ⟨0x30c7, "テ\u3099"⟩, ⟨0x30c9, "ト\u3099"⟩, ⟨0x30d0, "ハ\u3099 ハ\u309a"⟩,
   ⟨0x30d3, "ヒ\u3099 ヒ\u309a"⟩, ⟨0x30d6, "フ\u3099 フ\u309a"⟩, ⟨0x30d9, "ヘ\u3099 ヘ\u309a"⟩,
   ⟨0x30dc, "ホ\u3099 ホ\u309a"⟩, ⟨0x30f4, "ウ\u3099"⟩, ⟨0x30f7, "ワ\u3099 ヰ\u3099 ヱ\u3099 ヲ\u3099"⟩,
   ⟨0x30fe, "ヽ\u3099"⟩, ⟨0x105c9, "𐗒\u0307"⟩, ⟨0x105e4, "𐗚\u0307"⟩, ⟨0x1109a, "𑂚"⟩,
   ⟨0x1109c, "𑂜"⟩, ⟨0x110ab, "𑂫"⟩, ⟨0x1112e, "𑄮 𑄯"⟩, ⟨0x1134b, "𑍋 𑍌"⟩, ⟨0x11383, "𑎃"⟩,
   ⟨0x11385, "𑎅"⟩, ⟨0x1138e, "𑎎"⟩, ⟨0x11391, "𑎑"⟩, ⟨0x113c5, "𑏅"⟩, ⟨0x113c7, "𑏇 𑏈"⟩,
   ⟨0x114bb, "𑒻 𑒼"⟩, ⟨0x114be, "𑒾"⟩, ⟨0x115ba, "𑖺 𑖻"⟩, ⟨0x11938, "𑤸"⟩,
   ⟨0x16121, "𖄡 𖄢 𖄣 𖄤 𖄥 𖄦 𖄧 𖄨"⟩, ⟨0x16d68, "𖵨 𖵩 𖵪"⟩]

end InputDeck.Text
