import Sketchbook.Syntax.Table

/-!
The lexer of the sketch grammar, as numbers: the class of each character, and for each state of the
lexer the token it has read, if any, where the end of the text leads, and for each class the state
that follows. `Sketchbook.Syntax.Lexer` reads all of this.
-/
namespace Sketchbook.Syntax.LexerTable

def asciiClasses : Nat :=
  0x31a2c4870a0c07ef9ebc76e9cb86ed9ab4661993160bd72d58ad50152a13a64a183240c183060c1832344183210c183060c7d01f3a78e9c3668c982e58a952850a142850992224078e1a3058a1220386021420202040810204081020408102040810204102040c10102040810204080

def otherClass : Nat := 1

def letterClass : Nat := 6

/-- The class of characters beyond ASCII that continue an identifier and begin none. -/
def markClass : Nat := 71

/-- For each state, from the lowest bit: one more than the token read (8 bits), one more than the state at the end of the text (8 bits), then for each class 9 bits: whether the character is blank space to skip, and one more than the next state. -/
def states : Table Nat := ⟨[
  [0x1188842200f87c3e1f0f87c3e1f0f87c3e1f0f07c3e1f0f87c3e1f0f87c3e1f0f87c3a1c0d8683e1f0f87c3e1f0f87c32180b8582a14098482412088401e0e06830160a048200e060f814080381c00000200,
    1,
    0x1188842200f87c3e1f0f87c3e1f0f87c3e1f0f07c3e1f0f87c3e1f0f87c3e1f0f87c3a1c120683e1f0f87c3e1f0f87c32180b8582a14098482412088401e0e06830160a048200e060f814080381c00000200,
    0x9400000000000000000000000000000000000000000000000000000000003d, 0x9800000000000000c,
    0x9c000000000000000000000000000000000000000000000000000000000033,
    0xa4000000000000000000000000000000000000500000000000000000000018,
    0x2b158ac562b158ac562b158ac562b158ac562b158ac562b158ac562b158ac562b158ac562b150ac562b158ac562b158ac562b158ac562b158ac562b158ac562b158ac562b15800562b158ac5600158ac000000,
    22, 23, 0xb000000000000000000000000000000000000000000000000000000000002f,
    0xb80000000000000000000000000b400000000000000000000000000000002d, 58,
    0x188c0000000000000000000002f0000000000000000000000000000000000002e,
    0xcc663319800640000000000000000000000000000000000000044,
    0xd80000000000000000d4000000000680000000000000000000000000000030,
    0x800000000000000000783f000007c0000000003d1e0f4003b000e8000000000803c1f8f8783d1d8000000000000000000e470381c0006e0000000000000000000000000000000000000003,
    0x7800000007c0000000003d1e0f4000000108000000000003c000f8783d000000000000000000001048241208006e0000000000000000000000000000000000000003,
    0x2180000000000000000000000000000000000000000000000000003c, 78,
    0x114880000000000000000000000000000000000000000000000000000000026,
    0x118000000000000000000000000000000000000000000000000000000000019,
    0x2411c000000000000000000000000000000000000000000000000000000000025, 59,
    0x2480000000000000000000000000000000000000000000000000000000000000000000000000000000000000000000000000000000000000000005e,
    66,
    0x4f2793c9e4e2793c9a4f27930964b2593c9e4f2593c9e4f2793c9e4b2793c9e4b2793c9e4f2593c9e4f2793c9e4f2793c9e4f2793c9e4f2793c944a2513c9e4f2793c9e4f2792c9e4f2792c9e4f2793c000000,
    67, 0x140000000000000000000000000000000000000000000000000000000000032,
    0x1f0000000000f87c3e1f0f87c3e1f0f87c3e510f87c3e1f0f87c3e1f0f87c3e1f0f87c0000000003e1f0f87c3e1f0f87c00000000000000007c3e1f0f80000000000000000000000000f800000000000000002,
    0x1f0000000000f87c3e1f0f87c3e1f0f87c3e1f0f87c3e1f0f87c3e1f0f87c3e1f0f87c0000000003e1f0f87c3e1f0f87c00000000000000007c3e1f0f80000000000000000000000000f800000000000000002,
    73],
  [0xa60000000000000000000000000000000000000000000000000000000000000000000000000000000000000000000000148000000000000000000000000000000000000000000000000000000000031,
    18, 62,
    0x4e00000000000000000000000000000000000000000000000000000000000000000000000000000000000000000000000000000000000000000000000000000000000000000000000000000000000,
    42, 0x150000000000000000, 33, 43, 30,
    0x2b158ac562b158ac562b158ac562b158ac562b158ac562b158ac562b158ac562b158ac562b158ac562b158ac562b158ac562b158ac562b158ac562b158ac562b158ac562b158ac562b158ac562b158ac000000,
    0x2b158ac562b158ac562b158ac562b158ac562b158ac562b158ac562b158ac562b158ac562b150ac562b158ac562b158ac562b158ac562b158ac562b158ac562b158ac562b15954562b158ac5600158ac000000,
    28, 63, 26, 64, 27, 57, 0xac0000000000000000000000000000000000000000,
    0x3d1e0f400000015c000000000000000000783d000000000000000000000cc663319800000000000000000000000000000000000000000007,
    0x341a0d068341a0d068341a0d068341a0d068341a0d068341a0d068341a0d068341a0d068341a0d068341a0d068341a0d068341a0d068341a0d068341a0d068341a0d0b0341a0d068341a0d068341a0d0000000,
    0x351a8d46a351a8d46a351a8d46a351a8d46a351a8d46a351a8d46a351a8d46a351a8d46a351a8d46a351a8d46a351a8d46a351a8d46a351a8d46a351a8d46a351a8d46a351a8d46a351a8d46a001a8d4000089,
    29,
    0x3d1e0f4000000000000000000000000000783d000000000000000000000cc663319800000000000000000000000000000000000000000007,
    0xb400000000000000000000001640000000000000001680000000000000000000000000e470381c0006e0000000000000000000000000000000000000005,
    0xe80000000000000000000000000000000000000000000e472391c8006e0000000000000000000000000000000000000000,
    0xe472391c800000000000000000000000000000000000000000000,
    0x5b2d800000000000000000000000000000000000000000000,
    0x174ba5d2e800005c00170000000000000000000000000000000000, 7, 3,
    0xbc5e2f000000000000000000000000000000000000000000000,
    0x6030180c06030000000000000000000000c06030180000000000000000180c06030000be0000000000000000000000000000000000000000],
  [0x7800000007c0000000003d1e0f4000000184000000000003c000f8783d000000000000000000001048241208006e0000000000000000000000000000000000000003,
    0x104824120800000000000000000000000000000000000000000000, 70,
    0x188000000000000000000000000000000000000000000000000000000000034, 40, 41, 39,
    0x3218c000000000000000000000000000000000000000000000000000000000035,
    0x32800000000000000000000000000000000000000000000000000000000000000000000000000000000000000000000000000000000000000000000000000000,
    0xcc6633000000000000000000000000000000000000000000013, 20,
    0x680000000000000000000000000000000000000000000673399cce6733800000000000000000000ce673399c00000000000000019cce6733800000000000000000000000000000000000000000013,
    0x69349a4d26934800000000000000000000d269349a40000000000000001a4d26934800000000000000000000000000000000000000000013,
    17, 19, 32,
    0x1f0000000000f87c3e1f0f87c3e1f0f87c3e1f3507c3e1f0f87c3e1f0f87c3e1f0f87c0000000003e1f0f87c3e1f0f87c00000000000000007c3e1f0f80000000000000000000000000f800000000000000002,
    31, 44, 13, 11, 133, 0xcc663319800000000000000000000000000000000000000000000,
    0x341a0d068341a0d068341a0d068341a0d068341a0d068341a0d068341a0d068341a0d068341a0d068341a0d068341a0d068341a0d068341a0d068341a1ac68341a0d0b0341a0d068341a0d068341a0d0000000,
    0xe470381c000000000000000000000000000000000000000000000, 5,
    0xd800000000000000000000000ec0000000000000001b0000000000000000000000000000005b2d800000000000000000000000000000000000000000006,
    0x174ba5d2e800000000000000000000000000000000000000000000,
    0x3d000f4000000170000000000000000000003d00000000000000000000174ba5d2e800000000000000000000000000000000000000000007,
    0xb400000000000000000000000fc000000000000000168000000000000000000000000000bc5e2f000000000000000000000000000000000000000000005,
    0x6d369b4da6d36800000000000000000000da6d369b40000000000000001b4da6d36800000000000000000000000000000000000000000000,
    0xe40000000e20000000006038180c060301bc0000000000072001c4e06030180000000000000000180c06030000dc0000000000000000000000000000000000000004],
  [0x1cc000000000000000000000000000000000000000000104824120800000000000000000000000000000000000000000000,
    34, 35, 0x1d0000000000000000000000000000000000000000000000000000000000036,
    0xea0000000000000000000000000000000000000000000000000000000000000000000000000000000000000000000000000000000000000000000000000000000000000000000,
    0x964b25800000000000000000000000000000000000000000014,
    0x763b1d8ec763b000000000000000000000ec763b1d80000000000000001d8ec763b000000000000000000000000000000000000000000000,
    0x773b9dcee773b800000000000000000000ee773b9dc0000000000000001dcee773b800000000000000000000000000000000000000000000,
    0x4b2592c964b25800000000000000000000964b2592c00000000000000012c964b25800000000000000000000000000000000000000000000,
    0x1f0000000000f87c3e1f0f87c3e1f0f87c3e1f0f87c3e1f0f87c3e1f0f87c3e1f0f87c0000000003e1f0f87c3e1f0f87c00000000000000007c3e1f0f80000780000000000000000000f800000000000000002,
    138, 6,
    0xe40000000000000000006d3c9b4da6d3697c000000000007200000f26d369b40000000000000001b4da6d36800000000000000000000000000000000000000000008,
    0xe40000000000000000006d3c9b4da6d36800000000000007200000f26d369b40000000000000001b4da6d36800000000000000000000000000000000000000000008,
    0x6030180c06030000000000000000000000c06030180000000000000000180c06030000000000000000000000000000000000000000000000,
    0xe40000000e20000000006038180c060301bc0000000000072001c4e06030180000000000000000180c06030000dc7a001e8000000000000000000000000000000004,
    4, 0x1ecf67b3d800007a001e8000000000000000000000000000000000,
    0x1cc0000000000000000000000000000000000000000001f0f87c3e000000000000000000000000000000000000000000000,
    36,
    0x3e800000000000000000000000000000000000000000000000000000000000000000000000000000000000000000000000000000000000,
    0x69349a4d26934800000000000000000000d269349a40000000000000001a4d26934800000000000000000000000000000000000000000000,
    0x12c00000000000000000000000000000000000000000000000773b9dcee773b800000000000000000000ee773b9dc0000000000000001dcee773b800000000000000000000000000000000000000000000,
    0x7e00000000000000000000000000000000000000000000000000000000000000000000000000000000000000000000000000000000000000000000000000000000000000000,
    0xe40000000000000000006d3c9b4da6d3697c000000000007200000f26d369b40000000000000001b4da6d36800007a001e8000000000000000000000000000000008,
    0x1ecf67b3d800000000000000000000000000000000000000000000,
    0x7f001fc0000001e8000000000000000000007f000000000000000000001ecf67b3d800000000000000000000000000000000000000000008,
    0x7800000007c0000000003d1e0f40000001cc000000000003c000f8783d000000000000000000001f0f87c3e000000000000000000000000000000000000000000003,
    0x40000000000000000000000000000000000000000000000000000000000000000000000000000000000000000000000000000000000000000000000000000000000000000,
    0x40800000000000000000000000000000000000000000000000000000000000000000000000000000000000000000000000000000000000,
    8,
    0x8200000000000000000000000000000000000000000000000000000000000000000000000000000000000000000000000000000000000000],
  [0x41800000000000000000000000000000000000000000000000000000000000000000000000000000000000000000000000000,
    0x42000000000000000000000000000000000000000000000000000000000000000000000000000000000000000000000000000,
    0x10a0000000000000000000000000000000000000000000000000000000000000000000000000000000000000000000000000000000000000000000000000,
    0x10c0000000000000000000000000000000000000000000000000000000000000000000000000000000000000000000000000000000,
    0x43800000000000000000000000000000000000000000000000000000000000000000000000000000000000000000000000000000000000,
    0x44000000000000000000000000000000000000000000000000000000000000000000000000000000000000000000000000000000000000,
    0x224000000000000000000000000000000000000000000000000000000000000000000000000000000000000000000000000000000000,
    122, 118,
    0x1188842200f87c3e1f0f87c3e1f0f87c3e1f0f87c3e1f0f87c3e1f0f87c3e1f0f87c3a1c000683e1f0f87c3e1f0f87d16180b8582a14098482412088401e0e06830160a048200e060f814088ac5400000000,
    94,
    0x1188930200f87c3e1f0f87c3e1f0f87c3e1f0f07c3e1f0f87c3e1f0f87c3e1f0f87d2e1c000683e1f0f87c3e1f0f87c32184b255281409848241208a4d249106a411e0a048211c8d0f814088cc6400000200,
    51, 0x500000000000000000000018, 47, 0xb400000000000000000000000000000002d,
    0x18800000000000000000000002f0000000000000000000000000000000000002e,
    0xcc663319800000000000000000000000000000000000000000044,
    0xd4000000000680000000000000000000000000000030,
    0x115320000000000000000000000000000000000000000000000000000000026,
    0x118000000000000000000000000000000000000000000000000000000000000,
    0x4d11c000000000000000000000000000000000000000000000000000000000025, 50,
    0xa60000000000000000000000000000000000000000000000000000000000000000000000000000000000000000000000000000000000000000000000000000000000000000000000000000000000031,
    52, 0x4d800000000000000000000000000000000000000000000000000000000000035, 54,
    0x1188842000f87c3e1f0f87c3e1f0f87c3e1f0f07c3e1f0f87c3e1f0f87c3e1f0f87c3a00000683e1f0f87c3e1f0f87d16180b8582a144e848241208841240e06830160a048200e060f814089cce400000000,
    0x21800000000000000000000000000000000000000000000000000000,
    0x8930000f87c3e1f0f87c3e1f0f87c3e1f0f07c3e1f0f87c3e1f0f87c3e1f0f87d2e1c000683e1f0f87c3e1f0f87d16184b05928140980000000024d409106a411e0a048011c8d0f8013e9ecf400000000,
    0x94000000000000000000000000000000000000000000000000000000000000, 68],
  [0x8930200f87c3e1f0f87c3e1f0f87c3e1f0f87c3e1f0f87c3e1f0f87c3e1f0f87d2e1c000683e1f0f87c3e1f0f87d16184b25528140980000000024d409106a411e0a048011c8d0f8013ea1d0c00000000,
    0x152200f87c3e1f0f87c3e1f0f87c3e1f0f87c3e1f0f87c3e1f0f87c3e1f0f87c0000000683e1f0f87c3e1f0f87d16185429d4c1409800000000295480006800000a0480146000f80000a2d1400000000,
    24, 0x640000000000000000000000000000000000000044, 0xd4000000000680000000000000000000000000000000,
    38, 25, 37, 49,
    0xf87c3e1f0f87c3e1f0f87c3e1f0f87c3e1f0f87c3e1f0f87c3e1f0f87c0000000003e1f0f87c3e1f0f87d5600000014c000000000000029400000000000000000000000f80000aad5400000000,
    0x24800000000000000000000000000000000000000000000000000000000000000000000000000000000000000000000000000000000000000000000,
    0xb0582c160b0582c160b0582c160b0582c160b0582c160b0582c160b0582c160b0582c160b00dac160b0582c160b0582c160b0582c160b0582c160b0582bd60b0582c160b0582c160b0582b960ad56ac0000000,
    0xb0582c160b0582c160b0582c160b0582c160b0582c160b0582c160b0582c160b0582c160b0002c160b0582c160b0582c160b0582c160b0582c160b0582bd60b0582c160b0582c160b05800160ad56ac000000f,
    0xb2592c964b2592c964b2592c964b2592c964b2592c964b2592c964b2592c964b2592c964b258ac964b2592c964b2592c964b2592c964b2592c964b2592c964b2592c964b2592c964b25909964b2592c8000010,
    0xb0582c160b0582c160b0582c160b0582c160b0582c160b0582c160b0582c160b0582c160b0002c160b0582c160b0582c160b0582c160b0582c160b0582d160b0582c166b0582c160b05800160b0582c000000f,
    0xb0582c160b0582c160b0582c160b0582c160b0582c160b0582c160b0582c160b0582c160b0002c160b0582c160b0582c160b0582c160b0582c160b0582c160b0582c160b0582c160b05800160b0582c000000f,
    0x2c8000000000000000,
    0xb2592c964b2592c964b2592c964b2592c964b2592c964b2592c964b2592c964b2592c964b258ac964b2592c964b2592c964b2592c964b2592c964b2592c964b2592c964b2592c964b25900164b2592c8000010,
    0xb359acd66b359acd66b359acd66b359acd66b359acd66b359acd66b359acd66b359acd66b31a2cd66b359acd66b359acd66b359acd66b359acd66b359acd66b359acd6ab359acd66b3598d166b359acc00000f,
    0xb45a2d168b45a2d168b45a2d168b45a2d168b45a2d168b45a2d168b45a2d168b45a2d168b41aad168b45a2d168b45a2d168b45a2d168b45a2d168b45a2d168b45a2d168b45a2d168b45a0d568b05a2d000000f,
    0xb359acd66b359acd66b359acd66b359acd66b359acd66b359acd66b359acd66b359acd66b31a2cd66b359acd66b359acd66b359acd66b359acd66b359ac166b359acd6ab359acd66b3598d166b359acc00000f,
    0xb75badd6eb75badd6eb75badd6eb75badd6eb75badd6eb75badd6eb75badd6eb75badd6eb75cadd6eb75badd6eb75badd6eb75badd6eb75badd6eb75badd6eb75badd6eb75badd6eb75bae16eb75badc000000,
    0xb75badd6eb75badd6eb75badd6eb75badd6eb75badd6eb75badd6eb75badd6eb75badd6eb7002dd6eb75badd6eb75badd6eb75badd6eb75badd6eb75badd6eb75badd6eb75badd6eb75b8016eb75badc00000e,
    12,
    0x4b2592c964e2592cec4b25aec964b2592c964b2592c964b2592c964b2592c964b2592c964b2592c964b2592c964b2592c964b2592c964b2592d74ba5d12c964b2592c964b2592c964b2592c964b2592c000000,
    0xcc6633000000000000000000000000000000000000000000014,
    0x680000000000000000000000000000000000000000000673399cce6733800000000000000000000ce673399c00000000000000019cce6733800000000000000000000000000000000000000000000]]⟩

/-- The words that are keywords where the grammar allows them, with their tokens. -/
def keywords : List (String × Nat) := [
  ("true", 8), ("false", 9), ("null", 20), ("instanceof", 54), ("final", 55), ("new", 64),
  ("class", 68), ("extends", 70), ("switch", 71), ("case", 73), ("default", 74), ("_", 75),
  ("when", 76), ("assert", 78), ("do", 79), ("while", 80), ("break", 81), ("continue", 82),
  ("return", 83), ("yield", 84), ("synchronized", 85), ("throw", 86), ("try", 87), ("catch", 88),
  ("finally", 89), ("if", 90), ("else", 91), ("for", 92), ("open", 94), ("module", 95),
  ("requires", 96), ("transitive", 97), ("static", 98), ("exports", 99), ("to", 100),
  ("opens", 101), ("uses", 102), ("provides", 103), ("with", 104), ("package", 105),
  ("import", 106), ("enum", 107), ("public", 108), ("protected", 109), ("private", 110),
  ("abstract", 111), ("strictfp", 112), ("native", 113), ("transient", 114), ("volatile", 115),
  ("sealed", 116), ("implements", 118), ("permits", 119), ("record", 120), ("interface", 122),
  ("byte", 123), ("short", 124), ("int", 125), ("long", 126), ("char", 127), ("float", 128),
  ("double", 129), ("boolean", 130), ("void", 131), ("throws", 133), ("this", 134),
  ("super", 135)]

end Sketchbook.Syntax.LexerTable
