import PartCache.Text.Table

/-!
# The domain name mapping

Before a domain name is checked and converted, every code point is mapped: most
stay, some are dropped (default-ignorable characters such as the zero width
space or the soft hyphen), many are replaced by what they stand for (capitals by
small letters, full-width forms by plain ones, compatibility characters by their
decomposition, the ideographic full stop by the full stop), and the rest are
disallowed.  Four deviation characters (sharp s, final sigma and the two
joiners) stay as they are.

The table is the IDNA mapping table of Unicode 17.0.  Rows are sorted by their
first code point and hold up to the next row; runs of code points that each map
to the one at a fixed distance are one row, and so are the alternating capital
and small letters of many alphabets.
-/

namespace PartCache.Idna

open Text

set_option autoImplicit false

/-- What the mapping does with a code point. -/
inductive Action where
  | valid
  | ignored
  | disallowed
  | deviation
  /-- The code point maps to the one `delta` away. -/
  | shift (delta : Int)
  /-- In a run of alternating capital and small letters starting with a capital, a code
  point an even distance from the row's start maps to the next one; the others are
  valid. -/
  | pairs
  /-- The code point maps to these code points. -/
  | text (codePoints : List Nat)
  deriving DecidableEq, Repr, Inhabited

/-- The mapping rows from 0x0 on, part 1 of 11. -/
def mappingTable0 : Array (Nat × Action) := #[
  (0x0, .valid), (0x41, .shift 32), (0x5B, .valid), (0x80, .disallowed), (0xA0, .shift (-128)),
  (0xA1, .valid), (0xA8, .text [0x20, 0x308]), (0xA9, .valid), (0xAA, .shift (-73)),
  (0xAB, .valid), (0xAD, .ignored), (0xAE, .valid), (0xAF, .text [0x20, 0x304]), (0xB0, .valid),
  (0xB2, .shift (-128)), (0xB4, .text [0x20, 0x301]), (0xB5, .shift 775), (0xB6, .valid),
  (0xB8, .text [0x20, 0x327]), (0xB9, .shift (-136)), (0xBA, .shift (-75)), (0xBB, .valid),
  (0xBC, .text [0x31, 0x2044, 0x34]), (0xBD, .text [0x31, 0x2044, 0x32]),
  (0xBE, .text [0x33, 0x2044, 0x34]), (0xBF, .valid), (0xC0, .shift 32), (0xD7, .valid),
  (0xD8, .shift 32), (0xDF, .deviation), (0xE0, .valid), (0x100, .pairs),
  (0x130, .text [0x69, 0x307]), (0x131, .valid), (0x132, .text [0x69, 0x6A]), (0x134, .pairs),
  (0x136, .shift 1), (0x137, .valid), (0x139, .pairs), (0x13F, .text [0x6C, 0xB7]),
  (0x141, .pairs), (0x149, .text [0x2BC, 0x6E]), (0x14A, .pairs), (0x178, .shift (-121)),
  (0x179, .pairs), (0x17F, .shift (-268)), (0x180, .valid), (0x181, .shift 210), (0x182, .pairs),
  (0x186, .shift 206), (0x187, .pairs), (0x189, .shift 205), (0x18B, .shift 1), (0x18C, .valid),
  (0x18E, .shift 79), (0x18F, .shift 202), (0x190, .shift 203), (0x191, .pairs),
  (0x193, .shift 205), (0x194, .shift 207), (0x195, .valid), (0x196, .shift 211),
  (0x197, .shift 209), (0x198, .shift 1), (0x199, .valid), (0x19C, .shift 211),
  (0x19D, .shift 213), (0x19E, .valid), (0x19F, .shift 214), (0x1A0, .pairs),
  (0x1A6, .shift 218), (0x1A7, .pairs), (0x1A9, .shift 218), (0x1AA, .valid), (0x1AC, .pairs),
  (0x1AE, .shift 218), (0x1AF, .pairs), (0x1B1, .shift 217), (0x1B3, .pairs),
  (0x1B7, .shift 219), (0x1B8, .shift 1), (0x1B9, .valid), (0x1BC, .shift 1), (0x1BD, .valid),
  (0x1C4, .text [0x64, 0x17E]), (0x1C7, .text [0x6C, 0x6A]), (0x1CA, .text [0x6E, 0x6A]),
  (0x1CD, .pairs), (0x1DB, .shift 1), (0x1DC, .valid), (0x1DE, .pairs), (0x1EE, .shift 1),
  (0x1EF, .valid), (0x1F1, .text [0x64, 0x7A]), (0x1F4, .pairs), (0x1F6, .shift (-97)),
  (0x1F7, .shift (-56)), (0x1F8, .pairs), (0x220, .shift (-130)), (0x221, .valid),
  (0x222, .pairs), (0x232, .shift 1), (0x233, .valid), (0x23A, .shift 10795), (0x23B, .pairs),
  (0x23D, .shift (-163)), (0x23E, .shift 10792), (0x23F, .valid), (0x241, .pairs),
  (0x243, .shift (-195)), (0x244, .shift 69), (0x245, .shift 71), (0x246, .pairs),
  (0x24E, .shift 1), (0x24F, .valid), (0x2B0, .shift (-584)), (0x2B1, .shift (-75)),
  (0x2B2, .shift (-584)), (0x2B3, .shift (-577)), (0x2B4, .shift (-59)), (0x2B5, .shift (-58)),
  (0x2B6, .shift (-53)), (0x2B7, .shift (-576)), (0x2B8, .shift (-575)), (0x2B9, .valid),
  (0x2D8, .text [0x20, 0x306]), (0x2D9, .text [0x20, 0x307]), (0x2DA, .text [0x20, 0x30A]),
  (0x2DB, .text [0x20, 0x328]), (0x2DC, .text [0x20, 0x303]), (0x2DD, .text [0x20, 0x30B]),
  (0x2DE, .valid), (0x2E0, .shift (-125)), (0x2E1, .shift (-629)), (0x2E2, .shift (-623)),
  (0x2E3, .shift (-619)), (0x2E4, .shift (-79)), (0x2E5, .valid), (0x340, .shift (-64)),
  (0x342, .valid), (0x343, .shift (-48)), (0x344, .text [0x308, 0x301]), (0x345, .shift 116),
  (0x346, .valid), (0x34F, .ignored), (0x350, .valid), (0x370, .pairs), (0x374, .shift (-187)),
  (0x375, .valid), (0x376, .pairs), (0x378, .disallowed), (0x37A, .text [0x20, 0x3B9]),
  (0x37B, .valid), (0x37E, .shift (-835)), (0x37F, .shift 116), (0x380, .disallowed),
  (0x384, .text [0x20, 0x301]), (0x385, .text [0x20, 0x308, 0x301]), (0x386, .shift 38),
  (0x387, .shift (-720)), (0x388, .shift 37), (0x38B, .disallowed), (0x38C, .shift 64),
  (0x38D, .disallowed), (0x38E, .shift 63), (0x390, .valid), (0x391, .shift 32),
  (0x3A2, .disallowed), (0x3A3, .shift 32), (0x3AC, .valid), (0x3C2, .deviation),
  (0x3C3, .valid), (0x3CF, .shift 8), (0x3D0, .shift (-30)), (0x3D1, .shift (-25)),
  (0x3D2, .shift (-13)), (0x3D3, .shift (-6)), (0x3D4, .shift (-9)), (0x3D5, .shift (-15)),
  (0x3D6, .shift (-22)), (0x3D7, .valid), (0x3D8, .pairs), (0x3F0, .shift (-54)),
  (0x3F1, .shift (-48)), (0x3F2, .shift (-47)), (0x3F3, .valid), (0x3F4, .shift (-60)),
  (0x3F5, .shift (-64)), (0x3F6, .valid), (0x3F7, .pairs), (0x3F9, .shift (-54)),
  (0x3FA, .shift 1), (0x3FB, .valid), (0x3FD, .shift (-130)), (0x400, .shift 80),
  (0x410, .shift 32), (0x430, .valid), (0x460, .pairs), (0x480, .shift 1), (0x481, .valid),
  (0x48A, .pairs), (0x4C0, .shift 15), (0x4C1, .pairs), (0x4CD, .shift 1), (0x4CE, .valid),
  (0x4D0, .pairs), (0x530, .disallowed), (0x531, .shift 48), (0x557, .disallowed),
  (0x559, .valid), (0x587, .text [0x565, 0x582]), (0x588, .valid), (0x58B, .disallowed),
  (0x58D, .valid), (0x590, .disallowed), (0x591, .valid), (0x5C8, .disallowed), (0x5D0, .valid),
  (0x5EB, .disallowed), (0x5EF, .valid), (0x5F5, .disallowed), (0x606, .valid),
  (0x61C, .disallowed), (0x61D, .valid), (0x675, .text [0x627, 0x674]),
  (0x676, .text [0x648, 0x674]), (0x677, .text [0x6C7, 0x674]), (0x678, .text [0x64A, 0x674]),
  (0x679, .valid), (0x6DD, .disallowed), (0x6DE, .valid), (0x70E, .disallowed), (0x710, .valid),
  (0x74B, .disallowed), (0x74D, .valid), (0x7B2, .disallowed), (0x7C0, .valid),
  (0x7FB, .disallowed), (0x7FD, .valid), (0x82E, .disallowed), (0x830, .valid),
  (0x83F, .disallowed), (0x840, .valid), (0x85C, .disallowed), (0x85E, .valid),
  (0x85F, .disallowed), (0x860, .valid), (0x86B, .disallowed), (0x870, .valid),
  (0x890, .disallowed), (0x897, .valid), (0x8E2, .disallowed), (0x8E3, .valid),
  (0x958, .text [0x915, 0x93C]), (0x959, .text [0x916, 0x93C]), (0x95A, .text [0x917, 0x93C]),
  (0x95B, .text [0x91C, 0x93C]), (0x95C, .text [0x921, 0x93C]), (0x95D, .text [0x922, 0x93C]),
  (0x95E, .text [0x92B, 0x93C]), (0x95F, .text [0x92F, 0x93C]), (0x960, .valid),
  (0x984, .disallowed), (0x985, .valid), (0x98D, .disallowed), (0x98F, .valid),
  (0x991, .disallowed), (0x993, .valid), (0x9A9, .disallowed), (0x9AA, .valid),
  (0x9B1, .disallowed), (0x9B2, .valid), (0x9B3, .disallowed), (0x9B6, .valid),
  (0x9BA, .disallowed), (0x9BC, .valid), (0x9C5, .disallowed), (0x9C7, .valid),
  (0x9C9, .disallowed), (0x9CB, .valid), (0x9CF, .disallowed), (0x9D7, .valid),
  (0x9D8, .disallowed), (0x9DC, .text [0x9A1, 0x9BC]), (0x9DD, .text [0x9A2, 0x9BC]),
  (0x9DE, .disallowed), (0x9DF, .text [0x9AF, 0x9BC]), (0x9E0, .valid), (0x9E4, .disallowed),
  (0x9E6, .valid), (0x9FF, .disallowed), (0xA01, .valid), (0xA04, .disallowed), (0xA05, .valid),
  (0xA0B, .disallowed), (0xA0F, .valid), (0xA11, .disallowed), (0xA13, .valid),
  (0xA29, .disallowed), (0xA2A, .valid), (0xA31, .disallowed), (0xA32, .valid),
  (0xA33, .text [0xA32, 0xA3C]), (0xA34, .disallowed), (0xA35, .valid),
  (0xA36, .text [0xA38, 0xA3C]), (0xA37, .disallowed), (0xA38, .valid), (0xA3A, .disallowed),
  (0xA3C, .valid), (0xA3D, .disallowed), (0xA3E, .valid), (0xA43, .disallowed), (0xA47, .valid),
  (0xA49, .disallowed), (0xA4B, .valid), (0xA4E, .disallowed), (0xA51, .valid),
  (0xA52, .disallowed), (0xA59, .text [0xA16, 0xA3C]), (0xA5A, .text [0xA17, 0xA3C]),
  (0xA5B, .text [0xA1C, 0xA3C]), (0xA5C, .valid), (0xA5D, .disallowed),
  (0xA5E, .text [0xA2B, 0xA3C]), (0xA5F, .disallowed), (0xA66, .valid), (0xA77, .disallowed),
  (0xA81, .valid), (0xA84, .disallowed), (0xA85, .valid), (0xA8E, .disallowed), (0xA8F, .valid),
  (0xA92, .disallowed), (0xA93, .valid), (0xAA9, .disallowed), (0xAAA, .valid),
  (0xAB1, .disallowed), (0xAB2, .valid), (0xAB4, .disallowed), (0xAB5, .valid),
  (0xABA, .disallowed), (0xABC, .valid), (0xAC6, .disallowed), (0xAC7, .valid),
  (0xACA, .disallowed), (0xACB, .valid), (0xACE, .disallowed), (0xAD0, .valid),
  (0xAD1, .disallowed), (0xAE0, .valid), (0xAE4, .disallowed), (0xAE6, .valid),
  (0xAF2, .disallowed), (0xAF9, .valid), (0xB00, .disallowed), (0xB01, .valid),
  (0xB04, .disallowed), (0xB05, .valid), (0xB0D, .disallowed), (0xB0F, .valid),
  (0xB11, .disallowed), (0xB13, .valid), (0xB29, .disallowed), (0xB2A, .valid),
  (0xB31, .disallowed), (0xB32, .valid), (0xB34, .disallowed), (0xB35, .valid),
  (0xB3A, .disallowed), (0xB3C, .valid), (0xB45, .disallowed), (0xB47, .valid),
  (0xB49, .disallowed), (0xB4B, .valid), (0xB4E, .disallowed), (0xB55, .valid),
  (0xB58, .disallowed), (0xB5C, .text [0xB21, 0xB3C]), (0xB5D, .text [0xB22, 0xB3C]),
  (0xB5E, .disallowed), (0xB5F, .valid), (0xB64, .disallowed), (0xB66, .valid),
  (0xB78, .disallowed), (0xB82, .valid), (0xB84, .disallowed), (0xB85, .valid),
  (0xB8B, .disallowed), (0xB8E, .valid), (0xB91, .disallowed), (0xB92, .valid),
  (0xB96, .disallowed), (0xB99, .valid), (0xB9B, .disallowed), (0xB9C, .valid),
  (0xB9D, .disallowed), (0xB9E, .valid), (0xBA0, .disallowed), (0xBA3, .valid),
  (0xBA5, .disallowed), (0xBA8, .valid), (0xBAB, .disallowed), (0xBAE, .valid),
  (0xBBA, .disallowed), (0xBBE, .valid), (0xBC3, .disallowed), (0xBC6, .valid),
  (0xBC9, .disallowed), (0xBCA, .valid), (0xBCE, .disallowed), (0xBD0, .valid),
  (0xBD1, .disallowed), (0xBD7, .valid), (0xBD8, .disallowed), (0xBE6, .valid),
  (0xBFB, .disallowed), (0xC00, .valid), (0xC0D, .disallowed), (0xC0E, .valid),
  (0xC11, .disallowed), (0xC12, .valid), (0xC29, .disallowed), (0xC2A, .valid),
  (0xC3A, .disallowed), (0xC3C, .valid), (0xC45, .disallowed), (0xC46, .valid),
  (0xC49, .disallowed), (0xC4A, .valid), (0xC4E, .disallowed), (0xC55, .valid),
  (0xC57, .disallowed), (0xC58, .valid), (0xC5B, .disallowed), (0xC5C, .valid),
  (0xC5E, .disallowed), (0xC60, .valid), (0xC64, .disallowed), (0xC66, .valid),
  (0xC70, .disallowed), (0xC77, .valid), (0xC8D, .disallowed), (0xC8E, .valid),
  (0xC91, .disallowed), (0xC92, .valid), (0xCA9, .disallowed), (0xCAA, .valid),
  (0xCB4, .disallowed), (0xCB5, .valid), (0xCBA, .disallowed), (0xCBC, .valid),
  (0xCC5, .disallowed), (0xCC6, .valid), (0xCC9, .disallowed), (0xCCA, .valid),
  (0xCCE, .disallowed), (0xCD5, .valid), (0xCD7, .disallowed), (0xCDC, .valid),
  (0xCDF, .disallowed), (0xCE0, .valid), (0xCE4, .disallowed), (0xCE6, .valid),
  (0xCF0, .disallowed), (0xCF1, .valid), (0xCF4, .disallowed), (0xD00, .valid),
  (0xD0D, .disallowed), (0xD0E, .valid), (0xD11, .disallowed), (0xD12, .valid),
  (0xD45, .disallowed), (0xD46, .valid), (0xD49, .disallowed), (0xD4A, .valid),
  (0xD50, .disallowed), (0xD54, .valid), (0xD64, .disallowed), (0xD66, .valid),
  (0xD80, .disallowed), (0xD81, .valid), (0xD84, .disallowed), (0xD85, .valid),
  (0xD97, .disallowed), (0xD9A, .valid), (0xDB2, .disallowed), (0xDB3, .valid),
  (0xDBC, .disallowed), (0xDBD, .valid), (0xDBE, .disallowed), (0xDC0, .valid),
  (0xDC7, .disallowed), (0xDCA, .valid), (0xDCB, .disallowed), (0xDCF, .valid),
  (0xDD5, .disallowed), (0xDD6, .valid), (0xDD7, .disallowed), (0xDD8, .valid)]

/-- The mapping rows from 0xDE0 on, part 2 of 11. -/
def mappingTable1 : Array (Nat × Action) := #[
  (0xDE0, .disallowed), (0xDE6, .valid), (0xDF0, .disallowed), (0xDF2, .valid),
  (0xDF5, .disallowed), (0xE01, .valid), (0xE33, .text [0xE4D, 0xE32]), (0xE34, .valid),
  (0xE3B, .disallowed), (0xE3F, .valid), (0xE5C, .disallowed), (0xE81, .valid),
  (0xE83, .disallowed), (0xE84, .valid), (0xE85, .disallowed), (0xE86, .valid),
  (0xE8B, .disallowed), (0xE8C, .valid), (0xEA4, .disallowed), (0xEA5, .valid),
  (0xEA6, .disallowed), (0xEA7, .valid), (0xEB3, .text [0xECD, 0xEB2]), (0xEB4, .valid),
  (0xEBE, .disallowed), (0xEC0, .valid), (0xEC5, .disallowed), (0xEC6, .valid),
  (0xEC7, .disallowed), (0xEC8, .valid), (0xECF, .disallowed), (0xED0, .valid),
  (0xEDA, .disallowed), (0xEDC, .text [0xEAB, 0xE99]), (0xEDD, .text [0xEAB, 0xEA1]),
  (0xEDE, .valid), (0xEE0, .disallowed), (0xF00, .valid), (0xF0C, .shift (-1)), (0xF0D, .valid),
  (0xF43, .text [0xF42, 0xFB7]), (0xF44, .valid), (0xF48, .disallowed), (0xF49, .valid),
  (0xF4D, .text [0xF4C, 0xFB7]), (0xF4E, .valid), (0xF52, .text [0xF51, 0xFB7]), (0xF53, .valid),
  (0xF57, .text [0xF56, 0xFB7]), (0xF58, .valid), (0xF5C, .text [0xF5B, 0xFB7]), (0xF5D, .valid),
  (0xF69, .text [0xF40, 0xFB5]), (0xF6A, .valid), (0xF6D, .disallowed), (0xF71, .valid),
  (0xF73, .text [0xF71, 0xF72]), (0xF74, .valid), (0xF75, .text [0xF71, 0xF74]),
  (0xF76, .text [0xFB2, 0xF80]), (0xF77, .text [0xFB2, 0xF71, 0xF80]),
  (0xF78, .text [0xFB3, 0xF80]), (0xF79, .text [0xFB3, 0xF71, 0xF80]), (0xF7A, .valid),
  (0xF81, .text [0xF71, 0xF80]), (0xF82, .valid), (0xF93, .text [0xF92, 0xFB7]), (0xF94, .valid),
  (0xF98, .disallowed), (0xF99, .valid), (0xF9D, .text [0xF9C, 0xFB7]), (0xF9E, .valid),
  (0xFA2, .text [0xFA1, 0xFB7]), (0xFA3, .valid), (0xFA7, .text [0xFA6, 0xFB7]), (0xFA8, .valid),
  (0xFAC, .text [0xFAB, 0xFB7]), (0xFAD, .valid), (0xFB9, .text [0xF90, 0xFB5]), (0xFBA, .valid),
  (0xFBD, .disallowed), (0xFBE, .valid), (0xFCD, .disallowed), (0xFCE, .valid),
  (0xFDB, .disallowed), (0x1000, .valid), (0x10A0, .shift 7264), (0x10C6, .disallowed),
  (0x10C7, .shift 7264), (0x10C8, .disallowed), (0x10CD, .shift 7264), (0x10CE, .disallowed),
  (0x10D0, .valid), (0x10FC, .shift (-32)), (0x10FD, .valid), (0x115F, .ignored),
  (0x1161, .valid), (0x1249, .disallowed), (0x124A, .valid), (0x124E, .disallowed),
  (0x1250, .valid), (0x1257, .disallowed), (0x1258, .valid), (0x1259, .disallowed),
  (0x125A, .valid), (0x125E, .disallowed), (0x1260, .valid), (0x1289, .disallowed),
  (0x128A, .valid), (0x128E, .disallowed), (0x1290, .valid), (0x12B1, .disallowed),
  (0x12B2, .valid), (0x12B6, .disallowed), (0x12B8, .valid), (0x12BF, .disallowed),
  (0x12C0, .valid), (0x12C1, .disallowed), (0x12C2, .valid), (0x12C6, .disallowed),
  (0x12C8, .valid), (0x12D7, .disallowed), (0x12D8, .valid), (0x1311, .disallowed),
  (0x1312, .valid), (0x1316, .disallowed), (0x1318, .valid), (0x135B, .disallowed),
  (0x135D, .valid), (0x137D, .disallowed), (0x1380, .valid), (0x139A, .disallowed),
  (0x13A0, .valid), (0x13F6, .disallowed), (0x13F8, .shift (-8)), (0x13FE, .disallowed),
  (0x1400, .valid), (0x1680, .disallowed), (0x1681, .valid), (0x169D, .disallowed),
  (0x16A0, .valid), (0x16F9, .disallowed), (0x1700, .valid), (0x1716, .disallowed),
  (0x171F, .valid), (0x1737, .disallowed), (0x1740, .valid), (0x1754, .disallowed),
  (0x1760, .valid), (0x176D, .disallowed), (0x176E, .valid), (0x1771, .disallowed),
  (0x1772, .valid), (0x1774, .disallowed), (0x1780, .valid), (0x17B4, .ignored),
  (0x17B6, .valid), (0x17DE, .disallowed), (0x17E0, .valid), (0x17EA, .disallowed),
  (0x17F0, .valid), (0x17FA, .disallowed), (0x1800, .valid), (0x180B, .ignored),
  (0x1810, .valid), (0x181A, .disallowed), (0x1820, .valid), (0x1879, .disallowed),
  (0x1880, .valid), (0x18AB, .disallowed), (0x18B0, .valid), (0x18F6, .disallowed),
  (0x1900, .valid), (0x191F, .disallowed), (0x1920, .valid), (0x192C, .disallowed),
  (0x1930, .valid), (0x193C, .disallowed), (0x1940, .valid), (0x1941, .disallowed),
  (0x1944, .valid), (0x196E, .disallowed), (0x1970, .valid), (0x1975, .disallowed),
  (0x1980, .valid), (0x19AC, .disallowed), (0x19B0, .valid), (0x19CA, .disallowed),
  (0x19D0, .valid), (0x19DB, .disallowed), (0x19DE, .valid), (0x1A1C, .disallowed),
  (0x1A1E, .valid), (0x1A5F, .disallowed), (0x1A60, .valid), (0x1A7D, .disallowed),
  (0x1A7F, .valid), (0x1A8A, .disallowed), (0x1A90, .valid), (0x1A9A, .disallowed),
  (0x1AA0, .valid), (0x1AAE, .disallowed), (0x1AB0, .valid), (0x1ADE, .disallowed),
  (0x1AE0, .valid), (0x1AEC, .disallowed), (0x1B00, .valid), (0x1B4D, .disallowed),
  (0x1B4E, .valid), (0x1BF4, .disallowed), (0x1BFC, .valid), (0x1C38, .disallowed),
  (0x1C3B, .valid), (0x1C4A, .disallowed), (0x1C4D, .valid), (0x1C80, .shift (-6222)),
  (0x1C81, .shift (-6221)), (0x1C82, .shift (-6212)), (0x1C83, .shift (-6210)),
  (0x1C84, .text [0x442]), (0x1C86, .shift (-6204)), (0x1C87, .shift (-6180)),
  (0x1C88, .shift 35267), (0x1C89, .pairs), (0x1C8B, .disallowed), (0x1C90, .shift (-3008)),
  (0x1CBB, .disallowed), (0x1CBD, .shift (-3008)), (0x1CC0, .valid), (0x1CC8, .disallowed),
  (0x1CD0, .valid), (0x1CFB, .disallowed), (0x1D00, .valid), (0x1D2C, .shift (-7371)),
  (0x1D2D, .shift (-7239)), (0x1D2E, .shift (-7372)), (0x1D2F, .valid), (0x1D30, .shift (-7372)),
  (0x1D32, .shift (-6997)), (0x1D33, .shift (-7372)), (0x1D3B, .valid), (0x1D3C, .shift (-7373)),
  (0x1D3D, .shift (-6938)), (0x1D3E, .shift (-7374)), (0x1D3F, .shift (-7373)),
  (0x1D40, .shift (-7372)), (0x1D42, .shift (-7371)), (0x1D43, .shift (-7394)),
  (0x1D44, .shift (-6900)), (0x1D46, .shift (-68)), (0x1D47, .shift (-7397)),
  (0x1D48, .shift (-7396)), (0x1D4A, .shift (-6897)), (0x1D4B, .shift (-6896)),
  (0x1D4D, .shift (-7398)), (0x1D4E, .valid), (0x1D4F, .shift (-7396)), (0x1D50, .shift (-7395)),
  (0x1D51, .shift (-7174)), (0x1D52, .shift (-7395)), (0x1D53, .shift (-6911)),
  (0x1D54, .shift (-62)), (0x1D56, .shift (-7398)), (0x1D57, .shift (-7395)),
  (0x1D59, .shift (-60)), (0x1D5A, .shift (-6891)), (0x1D5B, .shift (-7397)),
  (0x1D5C, .shift (-55)), (0x1D5D, .shift (-6571)), (0x1D60, .shift (-6554)),
  (0x1D62, .shift (-7417)), (0x1D63, .shift (-7409)), (0x1D64, .shift (-7407)),
  (0x1D66, .shift (-6580)), (0x1D68, .shift (-6567)), (0x1D69, .shift (-6563)), (0x1D6B, .valid),
  (0x1D78, .shift (-6459)), (0x1D79, .valid), (0x1D9B, .shift (-6985)), (0x1D9C, .shift (-7481)),
  (0x1D9D, .shift (-6984)), (0x1D9E, .shift (-7342)), (0x1D9F, .shift (-6979)),
  (0x1DA0, .shift (-7482)), (0x1DA1, .shift (-6978)), (0x1DA2, .shift (-6977)),
  (0x1DA3, .shift (-6974)), (0x1DA4, .shift (-6972)), (0x1DA7, .shift (-44)),
  (0x1DA8, .shift (-6923)), (0x1DA9, .shift (-6972)), (0x1DAA, .shift (-37)),
  (0x1DAB, .shift (-6924)), (0x1DAC, .shift (-6971)), (0x1DAD, .shift (-6973)),
  (0x1DAE, .shift (-6972)), (0x1DB2, .shift (-6970)), (0x1DB3, .shift (-6961)),
  (0x1DB5, .shift (-7178)), (0x1DB6, .shift (-6957)), (0x1DB8, .shift (-156)),
  (0x1DB9, .shift (-6958)), (0x1DBB, .shift (-7489)), (0x1DBC, .shift (-6956)),
  (0x1DBF, .shift (-6663)), (0x1DC0, .valid), (0x1E00, .pairs), (0x1E94, .shift 1),
  (0x1E95, .valid), (0x1E9A, .text [0x61, 0x2BE]), (0x1E9B, .shift (-58)), (0x1E9C, .valid),
  (0x1E9E, .shift (-7615)), (0x1E9F, .valid), (0x1EA0, .pairs), (0x1EFE, .shift 1),
  (0x1EFF, .valid), (0x1F08, .shift (-8)), (0x1F10, .valid), (0x1F16, .disallowed),
  (0x1F18, .shift (-8)), (0x1F1E, .disallowed), (0x1F20, .valid), (0x1F28, .shift (-8)),
  (0x1F30, .valid), (0x1F38, .shift (-8)), (0x1F40, .valid), (0x1F46, .disallowed),
  (0x1F48, .shift (-8)), (0x1F4E, .disallowed), (0x1F50, .valid), (0x1F58, .disallowed),
  (0x1F59, .shift (-8)), (0x1F5A, .disallowed), (0x1F5B, .shift (-8)), (0x1F5C, .disallowed),
  (0x1F5D, .shift (-8)), (0x1F5E, .disallowed), (0x1F5F, .shift (-8)), (0x1F60, .valid),
  (0x1F68, .shift (-8)), (0x1F70, .valid), (0x1F71, .shift (-7109)), (0x1F72, .valid),
  (0x1F73, .shift (-7110)), (0x1F74, .valid), (0x1F75, .shift (-7111)), (0x1F76, .valid),
  (0x1F77, .shift (-7112)), (0x1F78, .valid), (0x1F79, .shift (-7085)), (0x1F7A, .valid),
  (0x1F7B, .shift (-7086)), (0x1F7C, .valid), (0x1F7D, .shift (-7087)), (0x1F7E, .disallowed),
  (0x1F80, .text [0x1F00, 0x3B9]), (0x1F81, .text [0x1F01, 0x3B9]),
  (0x1F82, .text [0x1F02, 0x3B9]), (0x1F83, .text [0x1F03, 0x3B9]),
  (0x1F84, .text [0x1F04, 0x3B9]), (0x1F85, .text [0x1F05, 0x3B9]),
  (0x1F86, .text [0x1F06, 0x3B9]), (0x1F87, .text [0x1F07, 0x3B9]),
  (0x1F88, .text [0x1F00, 0x3B9]), (0x1F89, .text [0x1F01, 0x3B9]),
  (0x1F8A, .text [0x1F02, 0x3B9]), (0x1F8B, .text [0x1F03, 0x3B9]),
  (0x1F8C, .text [0x1F04, 0x3B9]), (0x1F8D, .text [0x1F05, 0x3B9]),
  (0x1F8E, .text [0x1F06, 0x3B9]), (0x1F8F, .text [0x1F07, 0x3B9]),
  (0x1F90, .text [0x1F20, 0x3B9]), (0x1F91, .text [0x1F21, 0x3B9]),
  (0x1F92, .text [0x1F22, 0x3B9]), (0x1F93, .text [0x1F23, 0x3B9]),
  (0x1F94, .text [0x1F24, 0x3B9]), (0x1F95, .text [0x1F25, 0x3B9]),
  (0x1F96, .text [0x1F26, 0x3B9]), (0x1F97, .text [0x1F27, 0x3B9]),
  (0x1F98, .text [0x1F20, 0x3B9]), (0x1F99, .text [0x1F21, 0x3B9]),
  (0x1F9A, .text [0x1F22, 0x3B9]), (0x1F9B, .text [0x1F23, 0x3B9]),
  (0x1F9C, .text [0x1F24, 0x3B9]), (0x1F9D, .text [0x1F25, 0x3B9]),
  (0x1F9E, .text [0x1F26, 0x3B9]), (0x1F9F, .text [0x1F27, 0x3B9]),
  (0x1FA0, .text [0x1F60, 0x3B9]), (0x1FA1, .text [0x1F61, 0x3B9]),
  (0x1FA2, .text [0x1F62, 0x3B9]), (0x1FA3, .text [0x1F63, 0x3B9]),
  (0x1FA4, .text [0x1F64, 0x3B9]), (0x1FA5, .text [0x1F65, 0x3B9]),
  (0x1FA6, .text [0x1F66, 0x3B9]), (0x1FA7, .text [0x1F67, 0x3B9]),
  (0x1FA8, .text [0x1F60, 0x3B9]), (0x1FA9, .text [0x1F61, 0x3B9]),
  (0x1FAA, .text [0x1F62, 0x3B9]), (0x1FAB, .text [0x1F63, 0x3B9]),
  (0x1FAC, .text [0x1F64, 0x3B9]), (0x1FAD, .text [0x1F65, 0x3B9]),
  (0x1FAE, .text [0x1F66, 0x3B9]), (0x1FAF, .text [0x1F67, 0x3B9]), (0x1FB0, .valid),
  (0x1FB2, .text [0x1F70, 0x3B9]), (0x1FB3, .text [0x3B1, 0x3B9]),
  (0x1FB4, .text [0x3AC, 0x3B9]), (0x1FB5, .disallowed), (0x1FB6, .valid),
  (0x1FB7, .text [0x1FB6, 0x3B9]), (0x1FB8, .shift (-8)), (0x1FBA, .shift (-74)),
  (0x1FBB, .shift (-7183)), (0x1FBC, .text [0x3B1, 0x3B9]), (0x1FBD, .text [0x20, 0x313]),
  (0x1FBE, .shift (-7173)), (0x1FBF, .text [0x20, 0x313]), (0x1FC0, .text [0x20, 0x342]),
  (0x1FC1, .text [0x20, 0x308, 0x342]), (0x1FC2, .text [0x1F74, 0x3B9]),
  (0x1FC3, .text [0x3B7, 0x3B9]), (0x1FC4, .text [0x3AE, 0x3B9]), (0x1FC5, .disallowed),
  (0x1FC6, .valid), (0x1FC7, .text [0x1FC6, 0x3B9]), (0x1FC8, .shift (-86)),
  (0x1FC9, .shift (-7196)), (0x1FCA, .shift (-86)), (0x1FCB, .shift (-7197)),
  (0x1FCC, .text [0x3B7, 0x3B9]), (0x1FCD, .text [0x20, 0x313, 0x300]),
  (0x1FCE, .text [0x20, 0x313, 0x301]), (0x1FCF, .text [0x20, 0x313, 0x342]), (0x1FD0, .valid),
  (0x1FD3, .shift (-7235)), (0x1FD4, .disallowed), (0x1FD6, .valid), (0x1FD8, .shift (-8)),
  (0x1FDA, .shift (-100)), (0x1FDB, .shift (-7212)), (0x1FDC, .disallowed),
  (0x1FDD, .text [0x20, 0x314, 0x300]), (0x1FDE, .text [0x20, 0x314, 0x301]),
  (0x1FDF, .text [0x20, 0x314, 0x342]), (0x1FE0, .valid), (0x1FE3, .shift (-7219)),
  (0x1FE4, .valid), (0x1FE8, .shift (-8)), (0x1FEA, .shift (-112)), (0x1FEB, .shift (-7198)),
  (0x1FEC, .shift (-7)), (0x1FED, .text [0x20, 0x308, 0x300]),
  (0x1FEE, .text [0x20, 0x308, 0x301]), (0x1FEF, .shift (-8079)), (0x1FF0, .disallowed),
  (0x1FF2, .text [0x1F7C, 0x3B9]), (0x1FF3, .text [0x3C9, 0x3B9]),
  (0x1FF4, .text [0x3CE, 0x3B9]), (0x1FF5, .disallowed), (0x1FF6, .valid),
  (0x1FF7, .text [0x1FF6, 0x3B9]), (0x1FF8, .shift (-128)), (0x1FF9, .shift (-7213)),
  (0x1FFA, .shift (-126)), (0x1FFB, .shift (-7213)), (0x1FFC, .text [0x3C9, 0x3B9]),
  (0x1FFD, .text [0x20, 0x301]), (0x1FFE, .text [0x20, 0x314]), (0x1FFF, .disallowed),
  (0x2000, .text [0x20]), (0x200B, .ignored), (0x200C, .deviation), (0x200E, .disallowed),
  (0x2010, .valid), (0x2011, .shift (-1)), (0x2012, .valid), (0x2017, .text [0x20, 0x333]),
  (0x2018, .valid), (0x2024, .disallowed), (0x2027, .valid), (0x2028, .disallowed),
  (0x202F, .shift (-8207)), (0x2030, .valid), (0x2033, .text [0x2032, 0x2032]),
  (0x2034, .text [0x2032, 0x2032, 0x2032]), (0x2035, .valid), (0x2036, .text [0x2035, 0x2035]),
  (0x2037, .text [0x2035, 0x2035, 0x2035]), (0x2038, .valid), (0x203C, .text [0x21, 0x21]),
  (0x203D, .valid), (0x203E, .text [0x20, 0x305]), (0x203F, .valid),
  (0x2047, .text [0x3F, 0x3F]), (0x2048, .text [0x3F, 0x21]), (0x2049, .text [0x21, 0x3F]),
  (0x204A, .valid), (0x2057, .text [0x2032, 0x2032, 0x2032, 0x2032])]

/-- The mapping rows from 0x2058 on, part 3 of 11. -/
def mappingTable2 : Array (Nat × Action) := #[
  (0x2058, .valid), (0x205F, .shift (-8255)), (0x2060, .ignored), (0x2065, .disallowed),
  (0x206A, .ignored), (0x2070, .shift (-8256)), (0x2071, .shift (-8200)), (0x2072, .disallowed),
  (0x2074, .shift (-8256)), (0x207A, .shift (-8271)), (0x207B, .shift 407),
  (0x207C, .shift (-8255)), (0x207D, .shift (-8277)), (0x207F, .shift (-8209)),
  (0x2080, .shift (-8272)), (0x208A, .shift (-8287)), (0x208B, .shift 391),
  (0x208C, .shift (-8271)), (0x208D, .shift (-8293)), (0x208F, .disallowed),
  (0x2090, .shift (-8239)), (0x2091, .shift (-8236)), (0x2092, .shift (-8227)),
  (0x2093, .shift (-8219)), (0x2094, .shift (-7739)), (0x2095, .shift (-8237)),
  (0x2096, .shift (-8235)), (0x209A, .shift (-8234)), (0x209B, .shift (-8232)),
  (0x209D, .disallowed), (0x20A0, .valid), (0x20A8, .text [0x72, 0x73]), (0x20A9, .valid),
  (0x20C2, .disallowed), (0x20D0, .valid), (0x20F1, .disallowed),
  (0x2100, .text [0x61, 0x2F, 0x63]), (0x2101, .text [0x61, 0x2F, 0x73]),
  (0x2102, .shift (-8351)), (0x2103, .text [0xB0, 0x63]), (0x2104, .valid),
  (0x2105, .text [0x63, 0x2F, 0x6F]), (0x2106, .text [0x63, 0x2F, 0x75]),
  (0x2107, .shift (-7852)), (0x2108, .valid), (0x2109, .text [0xB0, 0x66]),
  (0x210A, .shift (-8355)), (0x210B, .text [0x68]), (0x210F, .shift (-8168)),
  (0x2110, .text [0x69]), (0x2112, .text [0x6C]), (0x2114, .valid), (0x2115, .shift (-8359)),
  (0x2116, .text [0x6E, 0x6F]), (0x2117, .valid), (0x2119, .shift (-8361)),
  (0x211B, .text [0x72]), (0x211E, .valid), (0x2120, .text [0x73, 0x6D]),
  (0x2121, .text [0x74, 0x65, 0x6C]), (0x2122, .text [0x74, 0x6D]), (0x2123, .valid),
  (0x2124, .shift (-8362)), (0x2125, .valid), (0x2126, .shift (-7517)), (0x2127, .valid),
  (0x2128, .shift (-8366)), (0x2129, .valid), (0x212A, .shift (-8383)), (0x212B, .shift (-8262)),
  (0x212C, .shift (-8394)), (0x212E, .valid), (0x212F, .text [0x65]), (0x2131, .shift (-8395)),
  (0x2132, .shift 28), (0x2133, .shift (-8390)), (0x2134, .shift (-8389)),
  (0x2135, .shift (-7013)), (0x2139, .shift (-8400)), (0x213A, .valid),
  (0x213B, .text [0x66, 0x61, 0x78]), (0x213C, .shift (-7548)), (0x213D, .text [0x3B3]),
  (0x213F, .shift (-7551)), (0x2140, .shift 209), (0x2141, .valid), (0x2145, .text [0x64]),
  (0x2147, .shift (-8418)), (0x2148, .shift (-8415)), (0x214A, .valid),
  (0x2150, .text [0x31, 0x2044, 0x37]), (0x2151, .text [0x31, 0x2044, 0x39]),
  (0x2152, .text [0x31, 0x2044, 0x31, 0x30]), (0x2153, .text [0x31, 0x2044, 0x33]),
  (0x2154, .text [0x32, 0x2044, 0x33]), (0x2155, .text [0x31, 0x2044, 0x35]),
  (0x2156, .text [0x32, 0x2044, 0x35]), (0x2157, .text [0x33, 0x2044, 0x35]),
  (0x2158, .text [0x34, 0x2044, 0x35]), (0x2159, .text [0x31, 0x2044, 0x36]),
  (0x215A, .text [0x35, 0x2044, 0x36]), (0x215B, .text [0x31, 0x2044, 0x38]),
  (0x215C, .text [0x33, 0x2044, 0x38]), (0x215D, .text [0x35, 0x2044, 0x38]),
  (0x215E, .text [0x37, 0x2044, 0x38]), (0x215F, .text [0x31, 0x2044]), (0x2160, .shift (-8439)),
  (0x2161, .text [0x69, 0x69]), (0x2162, .text [0x69, 0x69, 0x69]), (0x2163, .text [0x69, 0x76]),
  (0x2164, .shift (-8430)), (0x2165, .text [0x76, 0x69]), (0x2166, .text [0x76, 0x69, 0x69]),
  (0x2167, .text [0x76, 0x69, 0x69, 0x69]), (0x2168, .text [0x69, 0x78]),
  (0x2169, .shift (-8433)), (0x216A, .text [0x78, 0x69]), (0x216B, .text [0x78, 0x69, 0x69]),
  (0x216C, .shift (-8448)), (0x216D, .shift (-8458)), (0x216F, .shift (-8450)),
  (0x2170, .shift (-8455)), (0x2171, .text [0x69, 0x69]), (0x2172, .text [0x69, 0x69, 0x69]),
  (0x2173, .text [0x69, 0x76]), (0x2174, .shift (-8446)), (0x2175, .text [0x76, 0x69]),
  (0x2176, .text [0x76, 0x69, 0x69]), (0x2177, .text [0x76, 0x69, 0x69, 0x69]),
  (0x2178, .text [0x69, 0x78]), (0x2179, .shift (-8449)), (0x217A, .text [0x78, 0x69]),
  (0x217B, .text [0x78, 0x69, 0x69]), (0x217C, .shift (-8464)), (0x217D, .shift (-8474)),
  (0x217F, .shift (-8466)), (0x2180, .valid), (0x2183, .shift 1), (0x2184, .valid),
  (0x2189, .text [0x30, 0x2044, 0x33]), (0x218A, .valid), (0x218C, .disallowed),
  (0x2190, .valid), (0x222C, .text [0x222B, 0x222B]), (0x222D, .text [0x222B, 0x222B, 0x222B]),
  (0x222E, .valid), (0x222F, .text [0x222E, 0x222E]), (0x2230, .text [0x222E, 0x222E, 0x222E]),
  (0x2231, .valid), (0x2329, .shift 3295), (0x232B, .valid), (0x242A, .disallowed),
  (0x2440, .valid), (0x244B, .disallowed), (0x2460, .shift (-9263)),
  (0x2469, .text [0x31, 0x30]), (0x246A, .text [0x31, 0x31]), (0x246B, .text [0x31, 0x32]),
  (0x246C, .text [0x31, 0x33]), (0x246D, .text [0x31, 0x34]), (0x246E, .text [0x31, 0x35]),
  (0x246F, .text [0x31, 0x36]), (0x2470, .text [0x31, 0x37]), (0x2471, .text [0x31, 0x38]),
  (0x2472, .text [0x31, 0x39]), (0x2473, .text [0x32, 0x30]), (0x2474, .text [0x28, 0x31, 0x29]),
  (0x2475, .text [0x28, 0x32, 0x29]), (0x2476, .text [0x28, 0x33, 0x29]),
  (0x2477, .text [0x28, 0x34, 0x29]), (0x2478, .text [0x28, 0x35, 0x29]),
  (0x2479, .text [0x28, 0x36, 0x29]), (0x247A, .text [0x28, 0x37, 0x29]),
  (0x247B, .text [0x28, 0x38, 0x29]), (0x247C, .text [0x28, 0x39, 0x29]),
  (0x247D, .text [0x28, 0x31, 0x30, 0x29]), (0x247E, .text [0x28, 0x31, 0x31, 0x29]),
  (0x247F, .text [0x28, 0x31, 0x32, 0x29]), (0x2480, .text [0x28, 0x31, 0x33, 0x29]),
  (0x2481, .text [0x28, 0x31, 0x34, 0x29]), (0x2482, .text [0x28, 0x31, 0x35, 0x29]),
  (0x2483, .text [0x28, 0x31, 0x36, 0x29]), (0x2484, .text [0x28, 0x31, 0x37, 0x29]),
  (0x2485, .text [0x28, 0x31, 0x38, 0x29]), (0x2486, .text [0x28, 0x31, 0x39, 0x29]),
  (0x2487, .text [0x28, 0x32, 0x30, 0x29]), (0x2488, .disallowed),
  (0x249C, .text [0x28, 0x61, 0x29]), (0x249D, .text [0x28, 0x62, 0x29]),
  (0x249E, .text [0x28, 0x63, 0x29]), (0x249F, .text [0x28, 0x64, 0x29]),
  (0x24A0, .text [0x28, 0x65, 0x29]), (0x24A1, .text [0x28, 0x66, 0x29]),
  (0x24A2, .text [0x28, 0x67, 0x29]), (0x24A3, .text [0x28, 0x68, 0x29]),
  (0x24A4, .text [0x28, 0x69, 0x29]), (0x24A5, .text [0x28, 0x6A, 0x29]),
  (0x24A6, .text [0x28, 0x6B, 0x29]), (0x24A7, .text [0x28, 0x6C, 0x29]),
  (0x24A8, .text [0x28, 0x6D, 0x29]), (0x24A9, .text [0x28, 0x6E, 0x29]),
  (0x24AA, .text [0x28, 0x6F, 0x29]), (0x24AB, .text [0x28, 0x70, 0x29]),
  (0x24AC, .text [0x28, 0x71, 0x29]), (0x24AD, .text [0x28, 0x72, 0x29]),
  (0x24AE, .text [0x28, 0x73, 0x29]), (0x24AF, .text [0x28, 0x74, 0x29]),
  (0x24B0, .text [0x28, 0x75, 0x29]), (0x24B1, .text [0x28, 0x76, 0x29]),
  (0x24B2, .text [0x28, 0x77, 0x29]), (0x24B3, .text [0x28, 0x78, 0x29]),
  (0x24B4, .text [0x28, 0x79, 0x29]), (0x24B5, .text [0x28, 0x7A, 0x29]),
  (0x24B6, .shift (-9301)), (0x24D0, .shift (-9327)), (0x24EA, .shift (-9402)), (0x24EB, .valid),
  (0x2A0C, .text [0x222B, 0x222B, 0x222B, 0x222B]), (0x2A0D, .valid),
  (0x2A74, .text [0x3A, 0x3A, 0x3D]), (0x2A75, .text [0x3D, 0x3D]),
  (0x2A76, .text [0x3D, 0x3D, 0x3D]), (0x2A77, .valid), (0x2ADC, .text [0x2ADD, 0x338]),
  (0x2ADD, .valid), (0x2B74, .disallowed), (0x2B76, .valid), (0x2C00, .shift 48),
  (0x2C30, .valid), (0x2C60, .pairs), (0x2C62, .shift (-10743)), (0x2C63, .shift (-3814)),
  (0x2C64, .shift (-10727)), (0x2C65, .valid), (0x2C67, .pairs), (0x2C6D, .shift (-10780)),
  (0x2C6E, .shift (-10749)), (0x2C6F, .shift (-10783)), (0x2C70, .shift (-10782)),
  (0x2C71, .valid), (0x2C72, .shift 1), (0x2C73, .valid), (0x2C75, .shift 1), (0x2C76, .valid),
  (0x2C7C, .shift (-11282)), (0x2C7D, .shift (-11271)), (0x2C7E, .shift (-10815)),
  (0x2C80, .pairs), (0x2CE2, .shift 1), (0x2CE3, .valid), (0x2CEB, .pairs), (0x2CED, .shift 1),
  (0x2CEE, .valid), (0x2CF2, .pairs), (0x2CF4, .disallowed), (0x2CF9, .valid),
  (0x2D26, .disallowed), (0x2D27, .valid), (0x2D28, .disallowed), (0x2D2D, .valid),
  (0x2D2E, .disallowed), (0x2D30, .valid), (0x2D68, .disallowed), (0x2D6F, .shift (-14)),
  (0x2D70, .valid), (0x2D71, .disallowed), (0x2D7F, .valid), (0x2D97, .disallowed),
  (0x2DA0, .valid), (0x2DA7, .disallowed), (0x2DA8, .valid), (0x2DAF, .disallowed),
  (0x2DB0, .valid), (0x2DB7, .disallowed), (0x2DB8, .valid), (0x2DBF, .disallowed),
  (0x2DC0, .valid), (0x2DC7, .disallowed), (0x2DC8, .valid), (0x2DCF, .disallowed),
  (0x2DD0, .valid), (0x2DD7, .disallowed), (0x2DD8, .valid), (0x2DDF, .disallowed),
  (0x2DE0, .valid), (0x2E5E, .disallowed), (0x2E80, .valid), (0x2E9A, .disallowed),
  (0x2E9B, .valid), (0x2E9F, .shift 15662), (0x2EA0, .valid), (0x2EF3, .shift 28844),
  (0x2EF4, .disallowed), (0x2F00, .shift 7936), (0x2F01, .shift 7975), (0x2F02, .shift 7988),
  (0x2F03, .shift 7996), (0x2F04, .shift 8021), (0x2F05, .shift 8064), (0x2F06, .shift 8070),
  (0x2F07, .shift 8089), (0x2F08, .shift 8114), (0x2F09, .shift 8758), (0x2F0A, .shift 8795),
  (0x2F0B, .shift 8800), (0x2F0C, .shift 8822), (0x2F0D, .shift 8841), (0x2F0E, .shift 8861),
  (0x2F0F, .shift 8913), (0x2F10, .shift 8933), (0x2F11, .shift 8943), (0x2F12, .shift 9097),
  (0x2F13, .shift 9190), (0x2F14, .shift 9217), (0x2F15, .shift 9221), (0x2F16, .shift 9250),
  (0x2F17, .shift 9258), (0x2F18, .shift 9284), (0x2F19, .shift 9296), (0x2F1A, .shift 9320),
  (0x2F1B, .shift 9371), (0x2F1C, .shift 9388), (0x2F1D, .shift 9414), (0x2F1E, .shift 10169),
  (0x2F1F, .shift 10240), (0x2F20, .shift 10699), (0x2F21, .shift 10721), (0x2F22, .shift 10728),
  (0x2F23, .shift 10738), (0x2F24, .shift 10755), (0x2F25, .shift 10830), (0x2F26, .shift 11306),
  (0x2F27, .shift 11353), (0x2F28, .shift 11472), (0x2F29, .shift 11494), (0x2F2A, .shift 11512),
  (0x2F2B, .shift 11533), (0x2F2C, .shift 11586), (0x2F2D, .shift 11588), (0x2F2E, .shift 11949),
  (0x2F2F, .shift 11958), (0x2F30, .shift 11969), (0x2F31, .shift 11981), (0x2F32, .shift 12096),
  (0x2F33, .shift 12103), (0x2F34, .shift 12107), (0x2F35, .shift 12223), (0x2F36, .shift 12232),
  (0x2F37, .shift 12244), (0x2F38, .shift 12251), (0x2F39, .shift 12311), (0x2F3A, .shift 12327),
  (0x2F3B, .shift 12344), (0x2F3C, .shift 12423), (0x2F3D, .shift 13003), (0x2F3E, .shift 13048),
  (0x2F3F, .shift 13068), (0x2F40, .shift 13807), (0x2F41, .shift 13811), (0x2F42, .shift 13893),
  (0x2F43, .shift 13908), (0x2F44, .shift 13920), (0x2F45, .shift 13940), (0x2F46, .shift 13978),
  (0x2F47, .shift 13982), (0x2F48, .shift 14248), (0x2F49, .shift 14271), (0x2F4A, .shift 14302),
  (0x2F4B, .shift 15317), (0x2F4C, .shift 15382), (0x2F4D, .shift 15404), (0x2F4E, .shift 15461),
  (0x2F4F, .shift 15484), (0x2F50, .shift 15492), (0x2F51, .shift 15498), (0x2F52, .shift 15549),
  (0x2F53, .shift 15553), (0x2F54, .shift 15584), (0x2F55, .shift 16662), (0x2F56, .shift 17108),
  (0x2F57, .shift 17119), (0x2F58, .shift 17123), (0x2F59, .shift 17126), (0x2F5A, .shift 17133),
  (0x2F5B, .shift 17150), (0x2F5C, .shift 17151), (0x2F5D, .shift 17231), (0x2F5E, .shift 17446),
  (0x2F5F, .shift 17450), (0x2F60, .shift 17788), (0x2F61, .shift 17797), (0x2F62, .shift 17846),
  (0x2F63, .shift 17852), (0x2F64, .shift 17860), (0x2F65, .shift 17867), (0x2F66, .shift 17957),
  (0x2F67, .shift 17963), (0x2F68, .shift 18190), (0x2F69, .shift 18196), (0x2F6A, .shift 18244),
  (0x2F6B, .shift 18260), (0x2F6C, .shift 18306), (0x2F6D, .shift 18542), (0x2F6E, .shift 18548),
  (0x2F6F, .shift 18564), (0x2F70, .shift 18890), (0x2F71, .shift 19015), (0x2F72, .shift 19020),
  (0x2F73, .shift 19201), (0x2F74, .shift 19287), (0x2F75, .shift 19332), (0x2F76, .shift 19709),
  (0x2F77, .shift 19841), (0x2F78, .shift 20414), (0x2F79, .shift 20440), (0x2F7A, .shift 20496),
  (0x2F7B, .shift 20546), (0x2F7C, .shift 20613), (0x2F7D, .shift 20623), (0x2F7E, .shift 20628),
  (0x2F7F, .shift 20660), (0x2F80, .shift 20735), (0x2F81, .shift 20744), (0x2F82, .shift 21089),
  (0x2F83, .shift 21095), (0x2F84, .shift 21103), (0x2F85, .shift 21111), (0x2F86, .shift 21126),
  (0x2F87, .shift 21140), (0x2F88, .shift 21143), (0x2F89, .shift 21221), (0x2F8A, .shift 21224),
  (0x2F8B, .shift 21229), (0x2F8C, .shift 22209), (0x2F8D, .shift 22238), (0x2F8E, .shift 22706),
  (0x2F8F, .shift 22717), (0x2F90, .shift 22739), (0x2F91, .shift 23021), (0x2F92, .shift 23033),
  (0x2F93, .shift 23103), (0x2F94, .shift 23148), (0x2F95, .shift 23714), (0x2F96, .shift 23728),
  (0x2F97, .shift 23742), (0x2F98, .shift 23776), (0x2F99, .shift 23812), (0x2F9A, .shift 24010),
  (0x2F9B, .shift 24021), (0x2F9C, .shift 24087), (0x2F9D, .shift 24334), (0x2F9E, .shift 24364),
  (0x2F9F, .shift 24572), (0x2FA0, .shift 24592), (0x2FA1, .shift 24596), (0x2FA2, .shift 24815),
  (0x2FA3, .shift 24998), (0x2FA4, .shift 25122), (0x2FA5, .shift 25127), (0x2FA6, .shift 25131),
  (0x2FA7, .shift 26064), (0x2FA8, .shift 26072), (0x2FA9, .shift 26227), (0x2FAA, .shift 26380),
  (0x2FAB, .shift 26382), (0x2FAC, .shift 26428), (0x2FAD, .shift 26532), (0x2FAE, .shift 26544),
  (0x2FAF, .shift 26547), (0x2FB0, .shift 26553), (0x2FB1, .shift 26650), (0x2FB2, .shift 26683),
  (0x2FB3, .shift 26688), (0x2FB4, .shift 26701), (0x2FB5, .shift 26867), (0x2FB6, .shift 26917),
  (0x2FB7, .shift 26920), (0x2FB8, .shift 27102), (0x2FB9, .shift 27104), (0x2FBA, .shift 27122),
  (0x2FBB, .shift 27373), (0x2FBC, .shift 27420), (0x2FBD, .shift 27426), (0x2FBE, .shift 27495),
  (0x2FBF, .shift 27504), (0x2FC0, .shift 27506), (0x2FC1, .shift 27515), (0x2FC2, .shift 27544),
  (0x2FC3, .shift 27938), (0x2FC4, .shift 28337), (0x2FC5, .shift 28346), (0x2FC6, .shift 28383),
  (0x2FC7, .shift 28404), (0x2FC8, .shift 28411), (0x2FC9, .shift 28420), (0x2FCA, .shift 28423),
  (0x2FCB, .shift 28462), (0x2FCC, .shift 28465), (0x2FCD, .shift 28481), (0x2FCE, .shift 28485)]

/-- The mapping rows from 0x2FCF on, part 4 of 11. -/
def mappingTable3 : Array (Nat × Action) := #[
  (0x2FCF, .shift 28497), (0x2FD0, .shift 28523), (0x2FD1, .shift 28537), (0x2FD2, .shift 28544),
  (0x2FD3, .shift 28602), (0x2FD4, .shift 28616), (0x2FD5, .shift 28619), (0x2FD6, .disallowed),
  (0x3000, .shift (-12256)), (0x3001, .valid), (0x3002, .shift (-12244)), (0x3003, .valid),
  (0x3036, .shift (-36)), (0x3037, .valid), (0x3038, .shift 8969), (0x3039, .shift 8971),
  (0x303B, .valid), (0x3040, .disallowed), (0x3041, .valid), (0x3097, .disallowed),
  (0x3099, .valid), (0x309B, .text [0x20, 0x3099]), (0x309C, .text [0x20, 0x309A]),
  (0x309D, .valid), (0x309F, .text [0x3088, 0x308A]), (0x30A0, .valid),
  (0x30FF, .text [0x30B3, 0x30C8]), (0x3100, .disallowed), (0x3105, .valid),
  (0x3130, .disallowed), (0x3131, .shift (-8241)), (0x3133, .shift (-8073)),
  (0x3134, .shift (-8242)), (0x3135, .shift (-8073)), (0x3137, .shift (-8244)),
  (0x313A, .shift (-8074)), (0x3140, .shift (-8230)), (0x3141, .shift (-8251)),
  (0x3144, .shift (-8227)), (0x3145, .shift (-8252)), (0x314F, .shift (-8174)),
  (0x3164, .ignored), (0x3165, .shift (-8273)), (0x3167, .shift (-8096)),
  (0x3169, .shift (-8093)), (0x316A, .shift (-8092)), (0x316B, .shift (-8088)),
  (0x316C, .shift (-8085)), (0x316D, .shift (-8084)), (0x316E, .shift (-8274)),
  (0x316F, .shift (-8082)), (0x3170, .shift (-8081)), (0x3171, .shift (-8276)),
  (0x3173, .shift (-8275)), (0x3174, .shift (-8274)), (0x3176, .shift (-8271)),
  (0x3177, .shift (-8270)), (0x3178, .shift (-8269)), (0x317D, .shift (-8267)),
  (0x317E, .shift (-8264)), (0x317F, .shift (-8255)), (0x3180, .shift (-8249)),
  (0x3181, .shift (-8245)), (0x3182, .shift (-8081)), (0x3184, .shift (-8237)),
  (0x3187, .shift (-8195)), (0x3189, .shift (-8193)), (0x318A, .shift (-8185)),
  (0x318C, .shift (-8184)), (0x318D, .shift (-8175)), (0x318E, .shift (-8173)),
  (0x318F, .disallowed), (0x3190, .valid), (0x3192, .shift 7278), (0x3193, .shift 7417),
  (0x3194, .shift 7285), (0x3195, .shift 9542), (0x3196, .shift 7284), (0x3197, .shift 7318),
  (0x3198, .shift 7283), (0x3199, .shift 17305), (0x319A, .shift 7359), (0x319B, .shift 7294),
  (0x319C, .shift 7269), (0x319D, .shift 10124), (0x319E, .shift 9618), (0x319F, .shift 7451),
  (0x31A0, .valid), (0x31E6, .disallowed), (0x31F0, .valid),
  (0x3200, .text [0x28, 0x1100, 0x29]), (0x3201, .text [0x28, 0x1102, 0x29]),
  (0x3202, .text [0x28, 0x1103, 0x29]), (0x3203, .text [0x28, 0x1105, 0x29]),
  (0x3204, .text [0x28, 0x1106, 0x29]), (0x3205, .text [0x28, 0x1107, 0x29]),
  (0x3206, .text [0x28, 0x1109, 0x29]), (0x3207, .text [0x28, 0x110B, 0x29]),
  (0x3208, .text [0x28, 0x110C, 0x29]), (0x3209, .text [0x28, 0x110E, 0x29]),
  (0x320A, .text [0x28, 0x110F, 0x29]), (0x320B, .text [0x28, 0x1110, 0x29]),
  (0x320C, .text [0x28, 0x1111, 0x29]), (0x320D, .text [0x28, 0x1112, 0x29]),
  (0x320E, .text [0x28, 0xAC00, 0x29]), (0x320F, .text [0x28, 0xB098, 0x29]),
  (0x3210, .text [0x28, 0xB2E4, 0x29]), (0x3211, .text [0x28, 0xB77C, 0x29]),
  (0x3212, .text [0x28, 0xB9C8, 0x29]), (0x3213, .text [0x28, 0xBC14, 0x29]),
  (0x3214, .text [0x28, 0xC0AC, 0x29]), (0x3215, .text [0x28, 0xC544, 0x29]),
  (0x3216, .text [0x28, 0xC790, 0x29]), (0x3217, .text [0x28, 0xCC28, 0x29]),
  (0x3218, .text [0x28, 0xCE74, 0x29]), (0x3219, .text [0x28, 0xD0C0, 0x29]),
  (0x321A, .text [0x28, 0xD30C, 0x29]), (0x321B, .text [0x28, 0xD558, 0x29]),
  (0x321C, .text [0x28, 0xC8FC, 0x29]), (0x321D, .text [0x28, 0xC624, 0xC804, 0x29]),
  (0x321E, .text [0x28, 0xC624, 0xD6C4, 0x29]), (0x321F, .disallowed),
  (0x3220, .text [0x28, 0x4E00, 0x29]), (0x3221, .text [0x28, 0x4E8C, 0x29]),
  (0x3222, .text [0x28, 0x4E09, 0x29]), (0x3223, .text [0x28, 0x56DB, 0x29]),
  (0x3224, .text [0x28, 0x4E94, 0x29]), (0x3225, .text [0x28, 0x516D, 0x29]),
  (0x3226, .text [0x28, 0x4E03, 0x29]), (0x3227, .text [0x28, 0x516B, 0x29]),
  (0x3228, .text [0x28, 0x4E5D, 0x29]), (0x3229, .text [0x28, 0x5341, 0x29]),
  (0x322A, .text [0x28, 0x6708, 0x29]), (0x322B, .text [0x28, 0x706B, 0x29]),
  (0x322C, .text [0x28, 0x6C34, 0x29]), (0x322D, .text [0x28, 0x6728, 0x29]),
  (0x322E, .text [0x28, 0x91D1, 0x29]), (0x322F, .text [0x28, 0x571F, 0x29]),
  (0x3230, .text [0x28, 0x65E5, 0x29]), (0x3231, .text [0x28, 0x682A, 0x29]),
  (0x3232, .text [0x28, 0x6709, 0x29]), (0x3233, .text [0x28, 0x793E, 0x29]),
  (0x3234, .text [0x28, 0x540D, 0x29]), (0x3235, .text [0x28, 0x7279, 0x29]),
  (0x3236, .text [0x28, 0x8CA1, 0x29]), (0x3237, .text [0x28, 0x795D, 0x29]),
  (0x3238, .text [0x28, 0x52B4, 0x29]), (0x3239, .text [0x28, 0x4EE3, 0x29]),
  (0x323A, .text [0x28, 0x547C, 0x29]), (0x323B, .text [0x28, 0x5B66, 0x29]),
  (0x323C, .text [0x28, 0x76E3, 0x29]), (0x323D, .text [0x28, 0x4F01, 0x29]),
  (0x323E, .text [0x28, 0x8CC7, 0x29]), (0x323F, .text [0x28, 0x5354, 0x29]),
  (0x3240, .text [0x28, 0x796D, 0x29]), (0x3241, .text [0x28, 0x4F11, 0x29]),
  (0x3242, .text [0x28, 0x81EA, 0x29]), (0x3243, .text [0x28, 0x81F3, 0x29]),
  (0x3244, .shift 8971), (0x3245, .shift 11319), (0x3246, .shift 13121), (0x3247, .shift 18760),
  (0x3248, .valid), (0x3250, .text [0x70, 0x74, 0x65]), (0x3251, .text [0x32, 0x31]),
  (0x3252, .text [0x32, 0x32]), (0x3253, .text [0x32, 0x33]), (0x3254, .text [0x32, 0x34]),
  (0x3255, .text [0x32, 0x35]), (0x3256, .text [0x32, 0x36]), (0x3257, .text [0x32, 0x37]),
  (0x3258, .text [0x32, 0x38]), (0x3259, .text [0x32, 0x39]), (0x325A, .text [0x33, 0x30]),
  (0x325B, .text [0x33, 0x31]), (0x325C, .text [0x33, 0x32]), (0x325D, .text [0x33, 0x33]),
  (0x325E, .text [0x33, 0x34]), (0x325F, .text [0x33, 0x35]), (0x3260, .shift (-8544)),
  (0x3261, .shift (-8543)), (0x3263, .shift (-8542)), (0x3266, .shift (-8541)),
  (0x3267, .shift (-8540)), (0x3269, .shift (-8539)), (0x326E, .shift 31122),
  (0x326F, .shift 32297), (0x3270, .shift 32884), (0x3271, .shift 34059), (0x3272, .shift 34646),
  (0x3273, .shift 35233), (0x3274, .shift 36408), (0x3275, .shift 37583), (0x3276, .shift 38170),
  (0x3277, .shift 39345), (0x3278, .shift 39932), (0x3279, .shift 40519), (0x327A, .shift 41106),
  (0x327B, .shift 41693), (0x327C, .text [0xCC38, 0xACE0]), (0x327D, .text [0xC8FC, 0xC758]),
  (0x327E, .shift 37938), (0x327F, .valid), (0x3280, .shift 7040), (0x3281, .shift 7179),
  (0x3282, .shift 7047), (0x3283, .shift 9304), (0x3284, .shift 7184), (0x3285, .shift 7912),
  (0x3286, .shift 7037), (0x3287, .shift 7908), (0x3288, .shift 7125), (0x3289, .shift 8376),
  (0x328A, .shift 13438), (0x328B, .shift 15840), (0x328C, .shift 14760), (0x328D, .shift 13467),
  (0x328E, .shift 24387), (0x328F, .shift 9360), (0x3290, .shift 13141), (0x3291, .shift 13721),
  (0x3292, .shift 13431), (0x3293, .shift 18091), (0x3294, .shift 8569), (0x3295, .shift 16356),
  (0x3296, .shift 23051), (0x3297, .shift 18118), (0x3298, .shift 8220), (0x3299, .shift 18239),
  (0x329A, .shift 17053), (0x329B, .shift 9944), (0x329C, .shift 24013), (0x329D, .shift 7821),
  (0x329E, .shift 8402), (0x329F, .shift 14921), (0x32A0, .shift 25957), (0x32A1, .shift 7280),
  (0x32A2, .shift 7927), (0x32A3, .shift 14528), (0x32A4, .shift 7014), (0x32A5, .shift 7048),
  (0x32A6, .shift 7013), (0x32A7, .shift 11071), (0x32A8, .shift 8523), (0x32A9, .shift 8338),
  (0x32AA, .shift 10477), (0x32AB, .shift 10427), (0x32AC, .shift 17463), (0x32AD, .shift 7252),
  (0x32AE, .shift 23065), (0x32AF, .shift 8357), (0x32B0, .shift 9836),
  (0x32B1, .text [0x33, 0x36]), (0x32B2, .text [0x33, 0x37]), (0x32B3, .text [0x33, 0x38]),
  (0x32B4, .text [0x33, 0x39]), (0x32B5, .text [0x34, 0x30]), (0x32B6, .text [0x34, 0x31]),
  (0x32B7, .text [0x34, 0x32]), (0x32B8, .text [0x34, 0x33]), (0x32B9, .text [0x34, 0x34]),
  (0x32BA, .text [0x34, 0x35]), (0x32BB, .text [0x34, 0x36]), (0x32BC, .text [0x34, 0x37]),
  (0x32BD, .text [0x34, 0x38]), (0x32BE, .text [0x34, 0x39]), (0x32BF, .text [0x35, 0x30]),
  (0x32C0, .text [0x31, 0x6708]), (0x32C1, .text [0x32, 0x6708]), (0x32C2, .text [0x33, 0x6708]),
  (0x32C3, .text [0x34, 0x6708]), (0x32C4, .text [0x35, 0x6708]), (0x32C5, .text [0x36, 0x6708]),
  (0x32C6, .text [0x37, 0x6708]), (0x32C7, .text [0x38, 0x6708]), (0x32C8, .text [0x39, 0x6708]),
  (0x32C9, .text [0x31, 0x30, 0x6708]), (0x32CA, .text [0x31, 0x31, 0x6708]),
  (0x32CB, .text [0x31, 0x32, 0x6708]), (0x32CC, .text [0x68, 0x67]),
  (0x32CD, .text [0x65, 0x72, 0x67]), (0x32CE, .text [0x65, 0x76]),
  (0x32CF, .text [0x6C, 0x74, 0x64]), (0x32D0, .shift (-558)), (0x32D1, .shift (-557)),
  (0x32D2, .shift (-556)), (0x32D3, .shift (-555)), (0x32D4, .shift (-554)),
  (0x32D6, .shift (-553)), (0x32D7, .shift (-552)), (0x32D8, .shift (-551)),
  (0x32D9, .shift (-550)), (0x32DA, .shift (-549)), (0x32DB, .shift (-548)),
  (0x32DC, .shift (-547)), (0x32DD, .shift (-546)), (0x32DE, .shift (-545)),
  (0x32DF, .shift (-544)), (0x32E0, .shift (-543)), (0x32E1, .shift (-541)),
  (0x32E2, .shift (-540)), (0x32E3, .shift (-539)), (0x32E4, .shift (-538)),
  (0x32EA, .shift (-536)), (0x32EB, .shift (-534)), (0x32EC, .shift (-532)),
  (0x32ED, .shift (-530)), (0x32EE, .shift (-528)), (0x32F3, .shift (-527)),
  (0x32F4, .shift (-526)), (0x32F5, .shift (-525)), (0x32FB, .shift (-524)),
  (0x32FF, .text [0x4EE4, 0x548C]), (0x3300, .text [0x30A2, 0x30D1, 0x30FC, 0x30C8]),
  (0x3301, .text [0x30A2, 0x30EB, 0x30D5, 0x30A1]),
  (0x3302, .text [0x30A2, 0x30F3, 0x30DA, 0x30A2]), (0x3303, .text [0x30A2, 0x30FC, 0x30EB]),
  (0x3304, .text [0x30A4, 0x30CB, 0x30F3, 0x30B0]), (0x3305, .text [0x30A4, 0x30F3, 0x30C1]),
  (0x3306, .text [0x30A6, 0x30A9, 0x30F3]),
  (0x3307, .text [0x30A8, 0x30B9, 0x30AF, 0x30FC, 0x30C9]),
  (0x3308, .text [0x30A8, 0x30FC, 0x30AB, 0x30FC]), (0x3309, .text [0x30AA, 0x30F3, 0x30B9]),
  (0x330A, .text [0x30AA, 0x30FC, 0x30E0]), (0x330B, .text [0x30AB, 0x30A4, 0x30EA]),
  (0x330C, .text [0x30AB, 0x30E9, 0x30C3, 0x30C8]),
  (0x330D, .text [0x30AB, 0x30ED, 0x30EA, 0x30FC]), (0x330E, .text [0x30AC, 0x30ED, 0x30F3]),
  (0x330F, .text [0x30AC, 0x30F3, 0x30DE]), (0x3310, .text [0x30AE, 0x30AC]),
  (0x3311, .text [0x30AE, 0x30CB, 0x30FC]), (0x3312, .text [0x30AD, 0x30E5, 0x30EA, 0x30FC]),
  (0x3313, .text [0x30AE, 0x30EB, 0x30C0, 0x30FC]), (0x3314, .text [0x30AD, 0x30ED]),
  (0x3315, .text [0x30AD, 0x30ED, 0x30B0, 0x30E9, 0x30E0]),
  (0x3316, .text [0x30AD, 0x30ED, 0x30E1, 0x30FC, 0x30C8, 0x30EB]),
  (0x3317, .text [0x30AD, 0x30ED, 0x30EF, 0x30C3, 0x30C8]),
  (0x3318, .text [0x30B0, 0x30E9, 0x30E0]),
  (0x3319, .text [0x30B0, 0x30E9, 0x30E0, 0x30C8, 0x30F3]),
  (0x331A, .text [0x30AF, 0x30EB, 0x30BC, 0x30A4, 0x30ED]),
  (0x331B, .text [0x30AF, 0x30ED, 0x30FC, 0x30CD]), (0x331C, .text [0x30B1, 0x30FC, 0x30B9]),
  (0x331D, .text [0x30B3, 0x30EB, 0x30CA]), (0x331E, .text [0x30B3, 0x30FC, 0x30DD]),
  (0x331F, .text [0x30B5, 0x30A4, 0x30AF, 0x30EB]),
  (0x3320, .text [0x30B5, 0x30F3, 0x30C1, 0x30FC, 0x30E0]),
  (0x3321, .text [0x30B7, 0x30EA, 0x30F3, 0x30B0]), (0x3322, .text [0x30BB, 0x30F3, 0x30C1]),
  (0x3323, .text [0x30BB, 0x30F3, 0x30C8]), (0x3324, .text [0x30C0, 0x30FC, 0x30B9]),
  (0x3325, .text [0x30C7, 0x30B7]), (0x3326, .text [0x30C9, 0x30EB]),
  (0x3327, .text [0x30C8, 0x30F3]), (0x3328, .text [0x30CA, 0x30CE]),
  (0x3329, .text [0x30CE, 0x30C3, 0x30C8]), (0x332A, .text [0x30CF, 0x30A4, 0x30C4]),
  (0x332B, .text [0x30D1, 0x30FC, 0x30BB, 0x30F3, 0x30C8]),
  (0x332C, .text [0x30D1, 0x30FC, 0x30C4]), (0x332D, .text [0x30D0, 0x30FC, 0x30EC, 0x30EB]),
  (0x332E, .text [0x30D4, 0x30A2, 0x30B9, 0x30C8, 0x30EB]),
  (0x332F, .text [0x30D4, 0x30AF, 0x30EB]), (0x3330, .text [0x30D4, 0x30B3]),
  (0x3331, .text [0x30D3, 0x30EB]), (0x3332, .text [0x30D5, 0x30A1, 0x30E9, 0x30C3, 0x30C9]),
  (0x3333, .text [0x30D5, 0x30A3, 0x30FC, 0x30C8]),
  (0x3334, .text [0x30D6, 0x30C3, 0x30B7, 0x30A7, 0x30EB]),
  (0x3335, .text [0x30D5, 0x30E9, 0x30F3]),
  (0x3336, .text [0x30D8, 0x30AF, 0x30BF, 0x30FC, 0x30EB]), (0x3337, .text [0x30DA, 0x30BD]),
  (0x3338, .text [0x30DA, 0x30CB, 0x30D2]), (0x3339, .text [0x30D8, 0x30EB, 0x30C4]),
  (0x333A, .text [0x30DA, 0x30F3, 0x30B9]), (0x333B, .text [0x30DA, 0x30FC, 0x30B8]),
  (0x333C, .text [0x30D9, 0x30FC, 0x30BF]), (0x333D, .text [0x30DD, 0x30A4, 0x30F3, 0x30C8]),
  (0x333E, .text [0x30DC, 0x30EB, 0x30C8]), (0x333F, .text [0x30DB, 0x30F3]),
  (0x3340, .text [0x30DD, 0x30F3, 0x30C9]), (0x3341, .text [0x30DB, 0x30FC, 0x30EB]),
  (0x3342, .text [0x30DB, 0x30FC, 0x30F3]), (0x3343, .text [0x30DE, 0x30A4, 0x30AF, 0x30ED]),
  (0x3344, .text [0x30DE, 0x30A4, 0x30EB]), (0x3345, .text [0x30DE, 0x30C3, 0x30CF]),
  (0x3346, .text [0x30DE, 0x30EB, 0x30AF]),
  (0x3347, .text [0x30DE, 0x30F3, 0x30B7, 0x30E7, 0x30F3]),
  (0x3348, .text [0x30DF, 0x30AF, 0x30ED, 0x30F3]), (0x3349, .text [0x30DF, 0x30EA]),
  (0x334A, .text [0x30DF, 0x30EA, 0x30D0, 0x30FC, 0x30EB]), (0x334B, .text [0x30E1, 0x30AC]),
  (0x334C, .text [0x30E1, 0x30AC, 0x30C8, 0x30F3]),
  (0x334D, .text [0x30E1, 0x30FC, 0x30C8, 0x30EB]), (0x334E, .text [0x30E4, 0x30FC, 0x30C9]),
  (0x334F, .text [0x30E4, 0x30FC, 0x30EB]), (0x3350, .text [0x30E6, 0x30A2, 0x30F3]),
  (0x3351, .text [0x30EA, 0x30C3, 0x30C8, 0x30EB]), (0x3352, .text [0x30EA, 0x30E9]),
  (0x3353, .text [0x30EB, 0x30D4, 0x30FC]), (0x3354, .text [0x30EB, 0x30FC, 0x30D6, 0x30EB]),
  (0x3355, .text [0x30EC, 0x30E0]), (0x3356, .text [0x30EC, 0x30F3, 0x30C8, 0x30B2, 0x30F3]),
  (0x3357, .text [0x30EF, 0x30C3, 0x30C8]), (0x3358, .text [0x30, 0x70B9]),
  (0x3359, .text [0x31, 0x70B9]), (0x335A, .text [0x32, 0x70B9]), (0x335B, .text [0x33, 0x70B9]),
  (0x335C, .text [0x34, 0x70B9]), (0x335D, .text [0x35, 0x70B9]), (0x335E, .text [0x36, 0x70B9]),
  (0x335F, .text [0x37, 0x70B9]), (0x3360, .text [0x38, 0x70B9]), (0x3361, .text [0x39, 0x70B9]),
  (0x3362, .text [0x31, 0x30, 0x70B9]), (0x3363, .text [0x31, 0x31, 0x70B9]),
  (0x3364, .text [0x31, 0x32, 0x70B9]), (0x3365, .text [0x31, 0x33, 0x70B9]),
  (0x3366, .text [0x31, 0x34, 0x70B9]), (0x3367, .text [0x31, 0x35, 0x70B9]),
  (0x3368, .text [0x31, 0x36, 0x70B9]), (0x3369, .text [0x31, 0x37, 0x70B9]),
  (0x336A, .text [0x31, 0x38, 0x70B9]), (0x336B, .text [0x31, 0x39, 0x70B9]),
  (0x336C, .text [0x32, 0x30, 0x70B9]), (0x336D, .text [0x32, 0x31, 0x70B9]),
  (0x336E, .text [0x32, 0x32, 0x70B9]), (0x336F, .text [0x32, 0x33, 0x70B9]),
  (0x3370, .text [0x32, 0x34, 0x70B9]), (0x3371, .text [0x68, 0x70, 0x61]),
  (0x3372, .text [0x64, 0x61]), (0x3373, .text [0x61, 0x75]), (0x3374, .text [0x62, 0x61, 0x72]),
  (0x3375, .text [0x6F, 0x76]), (0x3376, .text [0x70, 0x63]), (0x3377, .text [0x64, 0x6D]),
  (0x3378, .text [0x64, 0x6D, 0x32]), (0x3379, .text [0x64, 0x6D, 0x33]),
  (0x337A, .text [0x69, 0x75]), (0x337B, .text [0x5E73, 0x6210]),
  (0x337C, .text [0x662D, 0x548C]), (0x337D, .text [0x5927, 0x6B63]),
  (0x337E, .text [0x660E, 0x6CBB]), (0x337F, .text [0x682A, 0x5F0F, 0x4F1A, 0x793E]),
  (0x3380, .text [0x70, 0x61]), (0x3381, .text [0x6E, 0x61]), (0x3382, .text [0x3BC, 0x61]),
  (0x3383, .text [0x6D, 0x61]), (0x3384, .text [0x6B, 0x61]), (0x3385, .text [0x6B, 0x62]),
  (0x3386, .text [0x6D, 0x62]), (0x3387, .text [0x67, 0x62]), (0x3388, .text [0x63, 0x61, 0x6C]),
  (0x3389, .text [0x6B, 0x63, 0x61, 0x6C]), (0x338A, .text [0x70, 0x66]),
  (0x338B, .text [0x6E, 0x66]), (0x338C, .text [0x3BC, 0x66]), (0x338D, .text [0x3BC, 0x67]),
  (0x338E, .text [0x6D, 0x67]), (0x338F, .text [0x6B, 0x67]), (0x3390, .text [0x68, 0x7A]),
  (0x3391, .text [0x6B, 0x68, 0x7A]), (0x3392, .text [0x6D, 0x68, 0x7A]),
  (0x3393, .text [0x67, 0x68, 0x7A]), (0x3394, .text [0x74, 0x68, 0x7A]),
  (0x3395, .text [0x3BC, 0x6C]), (0x3396, .text [0x6D, 0x6C]), (0x3397, .text [0x64, 0x6C]),
  (0x3398, .text [0x6B, 0x6C]), (0x3399, .text [0x66, 0x6D]), (0x339A, .text [0x6E, 0x6D]),
  (0x339B, .text [0x3BC, 0x6D]), (0x339C, .text [0x6D, 0x6D]), (0x339D, .text [0x63, 0x6D]),
  (0x339E, .text [0x6B, 0x6D]), (0x339F, .text [0x6D, 0x6D, 0x32]),
  (0x33A0, .text [0x63, 0x6D, 0x32]), (0x33A1, .text [0x6D, 0x32]),
  (0x33A2, .text [0x6B, 0x6D, 0x32]), (0x33A3, .text [0x6D, 0x6D, 0x33]),
  (0x33A4, .text [0x63, 0x6D, 0x33]), (0x33A5, .text [0x6D, 0x33]),
  (0x33A6, .text [0x6B, 0x6D, 0x33]), (0x33A7, .text [0x6D, 0x2215, 0x73]),
  (0x33A8, .text [0x6D, 0x2215, 0x73, 0x32]), (0x33A9, .text [0x70, 0x61]),
  (0x33AA, .text [0x6B, 0x70, 0x61]), (0x33AB, .text [0x6D, 0x70, 0x61]),
  (0x33AC, .text [0x67, 0x70, 0x61]), (0x33AD, .text [0x72, 0x61, 0x64]),
  (0x33AE, .text [0x72, 0x61, 0x64, 0x2215, 0x73]),
  (0x33AF, .text [0x72, 0x61, 0x64, 0x2215, 0x73, 0x32]), (0x33B0, .text [0x70, 0x73]),
  (0x33B1, .text [0x6E, 0x73]), (0x33B2, .text [0x3BC, 0x73]), (0x33B3, .text [0x6D, 0x73]),
  (0x33B4, .text [0x70, 0x76]), (0x33B5, .text [0x6E, 0x76]), (0x33B6, .text [0x3BC, 0x76]),
  (0x33B7, .text [0x6D, 0x76]), (0x33B8, .text [0x6B, 0x76]), (0x33B9, .text [0x6D, 0x76]),
  (0x33BA, .text [0x70, 0x77])]

/-- The mapping rows from 0x33BB on, part 5 of 11. -/
def mappingTable4 : Array (Nat × Action) := #[
  (0x33BB, .text [0x6E, 0x77]), (0x33BC, .text [0x3BC, 0x77]), (0x33BD, .text [0x6D, 0x77]),
  (0x33BE, .text [0x6B, 0x77]), (0x33BF, .text [0x6D, 0x77]), (0x33C0, .text [0x6B, 0x3C9]),
  (0x33C1, .text [0x6D, 0x3C9]), (0x33C2, .disallowed), (0x33C3, .text [0x62, 0x71]),
  (0x33C4, .text [0x63, 0x63]), (0x33C5, .text [0x63, 0x64]),
  (0x33C6, .text [0x63, 0x2215, 0x6B, 0x67]), (0x33C7, .disallowed),
  (0x33C8, .text [0x64, 0x62]), (0x33C9, .text [0x67, 0x79]), (0x33CA, .text [0x68, 0x61]),
  (0x33CB, .text [0x68, 0x70]), (0x33CC, .text [0x69, 0x6E]), (0x33CD, .text [0x6B, 0x6B]),
  (0x33CE, .text [0x6B, 0x6D]), (0x33CF, .text [0x6B, 0x74]), (0x33D0, .text [0x6C, 0x6D]),
  (0x33D1, .text [0x6C, 0x6E]), (0x33D2, .text [0x6C, 0x6F, 0x67]), (0x33D3, .text [0x6C, 0x78]),
  (0x33D4, .text [0x6D, 0x62]), (0x33D5, .text [0x6D, 0x69, 0x6C]),
  (0x33D6, .text [0x6D, 0x6F, 0x6C]), (0x33D7, .text [0x70, 0x68]), (0x33D8, .disallowed),
  (0x33D9, .text [0x70, 0x70, 0x6D]), (0x33DA, .text [0x70, 0x72]), (0x33DB, .text [0x73, 0x72]),
  (0x33DC, .text [0x73, 0x76]), (0x33DD, .text [0x77, 0x62]),
  (0x33DE, .text [0x76, 0x2215, 0x6D]), (0x33DF, .text [0x61, 0x2215, 0x6D]),
  (0x33E0, .text [0x31, 0x65E5]), (0x33E1, .text [0x32, 0x65E5]), (0x33E2, .text [0x33, 0x65E5]),
  (0x33E3, .text [0x34, 0x65E5]), (0x33E4, .text [0x35, 0x65E5]), (0x33E5, .text [0x36, 0x65E5]),
  (0x33E6, .text [0x37, 0x65E5]), (0x33E7, .text [0x38, 0x65E5]), (0x33E8, .text [0x39, 0x65E5]),
  (0x33E9, .text [0x31, 0x30, 0x65E5]), (0x33EA, .text [0x31, 0x31, 0x65E5]),
  (0x33EB, .text [0x31, 0x32, 0x65E5]), (0x33EC, .text [0x31, 0x33, 0x65E5]),
  (0x33ED, .text [0x31, 0x34, 0x65E5]), (0x33EE, .text [0x31, 0x35, 0x65E5]),
  (0x33EF, .text [0x31, 0x36, 0x65E5]), (0x33F0, .text [0x31, 0x37, 0x65E5]),
  (0x33F1, .text [0x31, 0x38, 0x65E5]), (0x33F2, .text [0x31, 0x39, 0x65E5]),
  (0x33F3, .text [0x32, 0x30, 0x65E5]), (0x33F4, .text [0x32, 0x31, 0x65E5]),
  (0x33F5, .text [0x32, 0x32, 0x65E5]), (0x33F6, .text [0x32, 0x33, 0x65E5]),
  (0x33F7, .text [0x32, 0x34, 0x65E5]), (0x33F8, .text [0x32, 0x35, 0x65E5]),
  (0x33F9, .text [0x32, 0x36, 0x65E5]), (0x33FA, .text [0x32, 0x37, 0x65E5]),
  (0x33FB, .text [0x32, 0x38, 0x65E5]), (0x33FC, .text [0x32, 0x39, 0x65E5]),
  (0x33FD, .text [0x33, 0x30, 0x65E5]), (0x33FE, .text [0x33, 0x31, 0x65E5]),
  (0x33FF, .text [0x67, 0x61, 0x6C]), (0x3400, .valid), (0xA48D, .disallowed), (0xA490, .valid),
  (0xA4C7, .disallowed), (0xA4D0, .valid), (0xA62C, .disallowed), (0xA640, .pairs),
  (0xA66C, .shift 1), (0xA66D, .valid), (0xA680, .pairs), (0xA69C, .shift (-41554)),
  (0xA69D, .shift (-41553)), (0xA69E, .valid), (0xA6F8, .disallowed), (0xA700, .valid),
  (0xA722, .pairs), (0xA72E, .shift 1), (0xA72F, .valid), (0xA732, .pairs),
  (0xA770, .shift (-1)), (0xA771, .valid), (0xA779, .pairs), (0xA77D, .shift (-35332)),
  (0xA77E, .pairs), (0xA786, .shift 1), (0xA787, .valid), (0xA78B, .pairs),
  (0xA78D, .shift (-42280)), (0xA78E, .valid), (0xA790, .pairs), (0xA792, .shift 1),
  (0xA793, .valid), (0xA796, .pairs), (0xA7AA, .shift (-42308)), (0xA7AB, .shift (-42319)),
  (0xA7AC, .shift (-42315)), (0xA7AD, .shift (-42305)), (0xA7AE, .shift (-42308)),
  (0xA7AF, .valid), (0xA7B0, .shift (-42258)), (0xA7B1, .shift (-42282)),
  (0xA7B2, .shift (-42261)), (0xA7B3, .shift 928), (0xA7B4, .pairs), (0xA7C4, .shift (-48)),
  (0xA7C5, .shift (-42307)), (0xA7C6, .shift (-35384)), (0xA7C7, .pairs),
  (0xA7CB, .shift (-42343)), (0xA7CC, .pairs), (0xA7DC, .shift (-42561)), (0xA7DD, .disallowed),
  (0xA7F1, .shift (-42878)), (0xA7F2, .shift (-42895)), (0xA7F3, .shift (-42893)),
  (0xA7F4, .shift (-42883)), (0xA7F5, .shift 1), (0xA7F6, .valid), (0xA7F8, .shift (-42705)),
  (0xA7F9, .shift (-42662)), (0xA7FA, .valid), (0xA82D, .disallowed), (0xA830, .valid),
  (0xA83A, .disallowed), (0xA840, .valid), (0xA878, .disallowed), (0xA880, .valid),
  (0xA8C6, .disallowed), (0xA8CE, .valid), (0xA8DA, .disallowed), (0xA8E0, .valid),
  (0xA954, .disallowed), (0xA95F, .valid), (0xA97D, .disallowed), (0xA980, .valid),
  (0xA9CE, .disallowed), (0xA9CF, .valid), (0xA9DA, .disallowed), (0xA9DE, .valid),
  (0xA9FF, .disallowed), (0xAA00, .valid), (0xAA37, .disallowed), (0xAA40, .valid),
  (0xAA4E, .disallowed), (0xAA50, .valid), (0xAA5A, .disallowed), (0xAA5C, .valid),
  (0xAAC3, .disallowed), (0xAADB, .valid), (0xAAF7, .disallowed), (0xAB01, .valid),
  (0xAB07, .disallowed), (0xAB09, .valid), (0xAB0F, .disallowed), (0xAB11, .valid),
  (0xAB17, .disallowed), (0xAB20, .valid), (0xAB27, .disallowed), (0xAB28, .valid),
  (0xAB2F, .disallowed), (0xAB30, .valid), (0xAB5C, .shift (-1077)), (0xAB5D, .shift (-38)),
  (0xAB5E, .shift (-43251)), (0xAB5F, .shift (-13)), (0xAB60, .valid), (0xAB69, .shift (-43228)),
  (0xAB6A, .valid), (0xAB6C, .disallowed), (0xAB70, .shift (-38864)), (0xABC0, .valid),
  (0xABEE, .disallowed), (0xABF0, .valid), (0xABFA, .disallowed), (0xAC00, .valid),
  (0xD7A4, .disallowed), (0xD7B0, .valid), (0xD7C7, .disallowed), (0xD7CB, .valid),
  (0xD7FC, .disallowed), (0xF900, .shift (-27832)), (0xF901, .shift (-37389)),
  (0xF902, .shift (-27192)), (0xF903, .shift (-27707)), (0xF904, .shift (-35379)),
  (0xF905, .shift (-43731)), (0xF906, .shift (-42273)), (0xF907, .text [0x9F9C]),
  (0xF909, .shift (-40888)), (0xF90A, .shift (-26425)), (0xF90B, .shift (-41860)),
  (0xF90C, .shift (-40900)), (0xF90D, .shift (-38679)), (0xF90E, .shift (-33445)),
  (0xF90F, .shift (-31114)), (0xF910, .shift (-29393)), (0xF911, .shift (-29015)),
  (0xF912, .shift (-28698)), (0xF913, .shift (-26756)), (0xF914, .shift (-36626)),
  (0xF915, .shift (-35834)), (0xF916, .shift (-34877)), (0xF917, .shift (-34105)),
  (0xF918, .shift (-29915)), (0xF919, .shift (-26543)), (0xF91A, .shift (-24361)),
  (0xF91B, .shift (-43673)), (0xF91C, .shift (-42407)), (0xF91D, .shift (-36377)),
  (0xF91E, .shift (-34563)), (0xF91F, .shift (-29426)), (0xF920, .shift (-23298)),
  (0xF921, .shift (-39889)), (0xF922, .shift (-35127)), (0xF923, .shift (-29526)),
  (0xF924, .shift (-28608)), (0xF925, .shift (-38492)), (0xF926, .shift (-30542)),
  (0xF927, .shift (-28936)), (0xF928, .shift (-39518)), (0xF929, .shift (-37394)),
  (0xF92A, .shift (-35776)), (0xF92B, .shift (-34351)), (0xF92C, .shift (-26718)),
  (0xF92D, .shift (-43431)), (0xF92E, .shift (-42871)), (0xF92F, .shift (-42577)),
  (0xF930, .shift (-37996)), (0xF931, .shift (-36446)), (0xF932, .shift (-34594)),
  (0xF933, .shift (-33356)), (0xF934, .shift (-31027)), (0xF935, .shift (-29487)),
  (0xF936, .shift (-29402)), (0xF937, .shift (-27464)), (0xF938, .shift (-25094)),
  (0xF939, .shift (-24010)), (0xF93A, .shift (-23360)), (0xF93B, .shift (-32943)),
  (0xF93C, .shift (-32701)), (0xF93D, .shift (-31645)), (0xF93E, .shift (-30069)),
  (0xF93F, .shift (-26171)), (0xF940, .shift (-23233)), (0xF941, .shift (-28267)),
  (0xF942, .shift (-41059)), (0xF943, .shift (-39487)), (0xF944, .shift (-31972)),
  (0xF945, .shift (-30919)), (0xF946, .shift (-34532)), (0xF947, .shift (-32893)),
  (0xF948, .shift (-27782)), (0xF949, .shift (-25170)), (0xF94A, .shift (-41074)),
  (0xF94B, .shift (-40169)), (0xF94C, .shift (-36665)), (0xF94D, .shift (-35699)),
  (0xF94E, .shift (-35391)), (0xF94F, .shift (-31776)), (0xF950, .shift (-31513)),
  (0xF951, .shift (-25350)), (0xF952, .shift (-42624)), (0xF953, .shift (-30920)),
  (0xF954, .shift (-42872)), (0xF955, .shift (-42889)), (0xF956, .shift (-32570)),
  (0xF957, .shift (-31641)), (0xF958, .shift (-30055)), (0xF959, .shift (-25316)),
  (0xF95A, .shift (-28122)), (0xF95B, .shift (-38540)), (0xF95C, .shift (-36698)),
  (0xF95D, .shift (-28255)), (0xF95E, .shift (-43813)), (0xF95F, .shift (-40312)),
  (0xF960, .shift (-39246)), (0xF961, .shift (-34266)), (0xF962, .shift (-33778)),
  (0xF963, .shift (-42572)), (0xF964, .shift (-32873)), (0xF965, .shift (-43430)),
  (0xF966, .shift (-39357)), (0xF967, .shift (-43866)), (0xF968, .shift (-35996)),
  (0xF969, .shift (-37873)), (0xF96A, .shift (-31816)), (0xF96B, .shift (-42408)),
  (0xF96C, .shift (-41230)), (0xF96D, .shift (-33388)), (0xF96E, .shift (-29989)),
  (0xF96F, .shift (-28357)), (0xF970, .shift (-36278)), (0xF971, .shift (-27073)),
  (0xF972, .shift (-36074)), (0xF973, .shift (-38517)), (0xF974, .shift (-30351)),
  (0xF975, .shift (-38357)), (0xF976, .shift (-33809)), (0xF977, .shift (-43721)),
  (0xF978, .shift (-43023)), (0xF979, .shift (-42928)), (0xF97A, .shift (-37113)),
  (0xF97B, .shift (-31892)), (0xF97C, .shift (-30477)), (0xF97D, .shift (-28331)),
  (0xF97E, .shift (-26543)), (0xF97F, .shift (-42634)), (0xF980, .shift (-42302)),
  (0xF981, .shift (-40974)), (0xF982, .shift (-39574)), (0xF983, .shift (-37822)),
  (0xF984, .shift (-35206)), (0xF985, .shift (-32859)), (0xF986, .shift (-25561)),
  (0xF987, .shift (-24349)), (0xF988, .shift (-23281)), (0xF989, .shift (-23227)),
  (0xF98A, .shift (-42735)), (0xF98B, .shift (-37573)), (0xF98C, .shift (-36373)),
  (0xF98D, .shift (-27179)), (0xF98E, .shift (-39706)), (0xF98F, .shift (-38911)),
  (0xF990, .shift (-38800)), (0xF991, .shift (-38135)), (0xF992, .shift (-35439)),
  (0xF993, .shift (-34890)), (0xF994, .shift (-34059)), (0xF995, .shift (-32715)),
  (0xF996, .shift (-31650)), (0xF997, .shift (-31016)), (0xF998, .shift (-27250)),
  (0xF999, .shift (-29867)), (0xF99A, .shift (-26999)), (0xF99B, .shift (-26193)),
  (0xF99C, .shift (-42885)), (0xF99D, .shift (-42746)), (0xF99E, .shift (-42209)),
  (0xF99F, .shift (-35031)), (0xF9A0, .shift (-28894)), (0xF9A1, .shift (-28407)),
  (0xF9A2, .shift (-39641)), (0xF9A3, .shift (-39342)), (0xF9A4, .shift (-38441)),
  (0xF9A5, .shift (-36343)), (0xF9A6, .shift (-32104)), (0xF9A7, .shift (-34354)),
  (0xF9A8, .shift (-43716)), (0xF9A9, .shift (-41648)), (0xF9AA, .shift (-40387)),
  (0xF9AB, .shift (-39921)), (0xF9AC, .shift (-39312)), (0xF9AD, .shift (-34299)),
  (0xF9AE, .shift (-34117)), (0xF9AF, .shift (-31253)), (0xF9B0, .shift (-31082)),
  (0xF9B1, .shift (-26493)), (0xF9B2, .shift (-25276)), (0xF9B3, .shift (-25195)),
  (0xF9B4, .shift (-24988)), (0xF9B5, .shift (-43562)), (0xF9B6, .shift (-32776)),
  (0xF9B7, .shift (-26627)), (0xF9B8, .shift (-25344)), (0xF9B9, .shift (-39128)),
  (0xF9BA, .shift (-43828)), (0xF9BB, .shift (-43233)), (0xF9BC, .shift (-40398)),
  (0xF9BD, .shift (-40318)), (0xF9BE, .shift (-37925)), (0xF9BF, .shift (-36797)),
  (0xF9C0, .shift (-34802)), (0xF9C1, .shift (-33663)), (0xF9C2, .shift (-29894)),
  (0xF9C3, .shift (-26951)), (0xF9C4, .shift (-23095)), (0xF9C5, .shift (-37693)),
  (0xF9C6, .shift (-25496)), (0xF9C7, .shift (-42814)), (0xF9C8, .shift (-37453)),
  (0xF9C9, .shift (-37334)), (0xF9CA, .shift (-35977)), (0xF9CB, .shift (-35631)),
  (0xF9CC, .shift (-34243)), (0xF9CD, .shift (-33908)), (0xF9CE, .shift (-33123)),
  (0xF9CF, .shift (-31935)), (0xF9D0, .shift (-24946)), (0xF9D1, .shift (-43108)),
  (0xF9D2, .shift (-38820)), (0xF9D3, .shift (-25435)), (0xF9D4, .shift (-43433)),
  (0xF9D5, .shift (-40124)), (0xF9D6, .shift (-35820)), (0xF9D7, .shift (-27309)),
  (0xF9D8, .shift (-39501)), (0xF9D9, .shift (-39061)), (0xF9DA, .shift (-37315)),
  (0xF9DB, .shift (-34388)), (0xF9DC, .shift (-25430)), (0xF9DD, .shift (-42932)),
  (0xF9DE, .shift (-42447)), (0xF9DF, .shift (-40314)), (0xF9E0, .shift (-37837)),
  (0xF9E1, .shift (-37523)), (0xF9E2, .shift (-37178)), (0xF9E3, .shift (-36094)),
  (0xF9E4, .shift (-34270)), (0xF9E5, .shift (-33795)), (0xF9E6, .shift (-31341)),
  (0xF9E7, .shift (-28952)), (0xF9E8, .shift (-28935)), (0xF9E9, .shift (-26653)),
  (0xF9EA, .shift (-25352)), (0xF9EB, .shift (-42668)), (0xF9EC, .shift (-35634)),
  (0xF9ED, .shift (-42448)), (0xF9EE, .shift (-34846)), (0xF9EF, .shift (-34135)),
  (0xF9F0, .shift (-29686)), (0xF9F1, .shift (-25422)), (0xF9F2, .shift (-23963)),
  (0xF9F3, .shift (-23380)), (0xF9F4, .shift (-37469)), (0xF9F5, .shift (-35882)),
  (0xF9F6, .shift (-30734)), (0xF9F7, .shift (-32556)), (0xF9F8, .shift (-32472)),
  (0xF9F9, .shift (-32103)), (0xF9FA, .shift (-34618)), (0xF9FB, .shift (-35170)),
  (0xF9FC, .shift (-28324)), (0xF9FD, .shift (-43837)), (0xF9FE, .shift (-30408)),
  (0xF9FF, .shift (-42949)), (0xFA00, .shift (-43001)), (0xFA01, .shift (-39771)),
  (0xFA02, .shift (-38703)), (0xFA03, .shift (-32045)), (0xFA04, .shift (-40575)),
  (0xFA05, .shift (-36071)), (0xFA06, .shift (-37714)), (0xFA07, .shift (-27340)),
  (0xFA08, .shift (-29116)), (0xFA09, .shift (-25532)), (0xFA0A, .shift (-28799)),
  (0xFA0B, .shift (-39736)), (0xFA0C, .shift (-43212)), (0xFA0D, .shift (-42061)),
  (0xFA0E, .valid), (0xFA10, .shift (-41398)), (0xFA11, .valid), (0xFA12, .shift (-37790)),
  (0xFA13, .valid), (0xFA15, .shift (-43063)), (0xFA16, .shift (-34540)),
  (0xFA17, .shift (-33613)), (0xFA18, .shift (-32988)), (0xFA19, .shift (-32955)),
  (0xFA1A, .shift (-32949)), (0xFA1B, .shift (-32908)), (0xFA1C, .shift (-25286)),
  (0xFA1D, .shift (-32095)), (0xFA1E, .shift (-31329)), (0xFA1F, .valid),
  (0xFA20, .shift (-29710)), (0xFA21, .valid), (0xFA22, .shift (-28458)), (0xFA23, .valid),
  (0xFA25, .shift (-27117)), (0xFA26, .shift (-26921)), (0xFA27, .valid),
  (0xFA2A, .shift (-24891)), (0xFA2B, .shift (-24879)), (0xFA2C, .shift (-24836)),
  (0xFA2D, .shift (-23673)), (0xFA2E, .shift (-26960)), (0xFA2F, .shift (-25464)),
  (0xFA30, .shift (-43650)), (0xFA31, .shift (-43338)), (0xFA32, .shift (-43237)),
  (0xFA33, .shift (-42858)), (0xFA34, .shift (-42832)), (0xFA35, .shift (-42724)),
  (0xFA36, .shift (-42137)), (0xFA37, .shift (-42033)), (0xFA38, .shift (-41936)),
  (0xFA39, .shift (-41465)), (0xFA3A, .shift (-41362)), (0xFA3B, .shift (-40407)),
  (0xFA3C, .shift (-40398))]

/-- The mapping rows from 0xFA3D on, part 6 of 11. -/
def mappingTable5 : Array (Nat × Action) := #[
  (0xFA3D, .shift (-39337)), (0xFA3E, .shift (-39126)), (0xFA3F, .shift (-39089)),
  (0xFA40, .shift (-38990)), (0xFA41, .shift (-38130)), (0xFA42, .shift (-37984)),
  (0xFA43, .shift (-37810)), (0xFA44, .shift (-37311)), (0xFA45, .shift (-36046)),
  (0xFA46, .shift (-35884)), (0xFA47, .shift (-35621)), (0xFA48, .shift (-35034)),
  (0xFA49, .shift (-34846)), (0xFA4A, .shift (-34344)), (0xFA4B, .shift (-33210)),
  (0xFA4C, .shift (-33038)), (0xFA4D, .shift (-33028)), (0xFA4E, .shift (-33030)),
  (0xFA4F, .shift (-33023)), (0xFA50, .shift (-33018)), (0xFA51, .shift (-33012)),
  (0xFA52, .shift (-32965)), (0xFA54, .shift (-32788)), (0xFA55, .shift (-32724)),
  (0xFA56, .shift (-32406)), (0xFA57, .shift (-31843)), (0xFA58, .shift (-31823)),
  (0xFA59, .shift (-31768)), (0xFA5A, .shift (-31464)), (0xFA5B, .shift (-31318)),
  (0xFA5C, .shift (-30831)), (0xFA5D, .text [0x8279]), (0xFA5F, .shift (-30216)),
  (0xFA60, .shift (-29008)), (0xFA61, .shift (-28875)), (0xFA62, .shift (-28513)),
  (0xFA63, .shift (-28458)), (0xFA64, .shift (-28049)), (0xFA65, .shift (-27997)),
  (0xFA66, .shift (-27312)), (0xFA67, .shift (-27183)), (0xFA68, .shift (-25477)),
  (0xFA69, .shift (-25194)), (0xFA6A, .shift (-25135)), (0xFA6B, .shift (-39414)),
  (0xFA6C, .shift 84098), (0xFA6D, .shift (-30805)), (0xFA6E, .disallowed),
  (0xFA70, .shift (-44106)), (0xFA71, .shift (-43196)), (0xFA72, .shift (-43274)),
  (0xFA73, .shift (-43763)), (0xFA74, .shift (-43311)), (0xFA75, .shift (-43253)),
  (0xFA76, .shift (-42927)), (0xFA77, .shift (-42877)), (0xFA78, .shift (-42203)),
  (0xFA79, .shift (-42276)), (0xFA7A, .shift (-42209)), (0xFA7B, .shift (-42137)),
  (0xFA7C, .shift (-41506)), (0xFA7D, .shift (-41418)), (0xFA7E, .shift (-41274)),
  (0xFA7F, .shift (-41259)), (0xFA80, .shift (-40990)), (0xFA81, .shift (-40793)),
  (0xFA82, .shift (-39856)), (0xFA83, .shift (-39850)), (0xFA84, .shift (-39707)),
  (0xFA85, .shift (-39640)), (0xFA86, .shift (-39342)), (0xFA87, .shift (-39225)),
  (0xFA88, .shift (-39296)), (0xFA89, .shift (-39163)), (0xFA8A, .shift (-39210)),
  (0xFA8B, .shift (-39065)), (0xFA8C, .shift (-39000)), (0xFA8D, .shift (-38601)),
  (0xFA8E, .shift (-38514)), (0xFA8F, .shift (-38461)), (0xFA90, .shift (-38202)),
  (0xFA91, .shift (-37917)), (0xFA92, .shift (-37755)), (0xFA93, .shift (-37752)),
  (0xFA94, .shift (-37694)), (0xFA95, .shift (-36636)), (0xFA96, .shift (-36572)),
  (0xFA97, .shift (-36182)), (0xFA98, .shift (-35773)), (0xFA99, .shift (-35790)),
  (0xFA9A, .shift (-35704)), (0xFA9B, .shift (-35453)), (0xFA9C, .shift (-35118)),
  (0xFA9D, .shift (-33526)), (0xFA9E, .shift (-34921)), (0xFA9F, .shift (-34800)),
  (0xFAA0, .shift (-34678)), (0xFAA1, .shift (-34352)), (0xFAA2, .shift (-34204)),
  (0xFAA3, .shift (-34152)), (0xFAA4, .shift (-33927)), (0xFAA5, .shift (-33926)),
  (0xFAA6, .shift (-33756)), (0xFAA7, .shift (-33740)), (0xFAA8, .shift (-33716)),
  (0xFAA9, .shift (-33631)), (0xFAAA, .shift (-33642)), (0xFAAB, .shift (-33247)),
  (0xFAAC, .shift (-32763)), (0xFAAD, .shift (-32493)), (0xFAAE, .shift (-32307)),
  (0xFAAF, .shift (-32084)), (0xFAB0, .shift (-31932)), (0xFAB1, .shift (-31603)),
  (0xFAB2, .shift (-31405)), (0xFAB3, .shift (-30561)), (0xFAB4, .shift (-30405)),
  (0xFAB5, .shift (-29500)), (0xFAB6, .shift (-29045)), (0xFAB7, .shift (-28977)),
  (0xFAB8, .shift (-28962)), (0xFAB9, .shift (-28666)), (0xFABA, .shift (-28610)),
  (0xFABB, .shift (-28656)), (0xFABC, .shift (-28603)), (0xFABD, .shift (-28607)),
  (0xFABE, .shift (-28625)), (0xFABF, .shift (-28550)), (0xFAC0, .shift (-28470)),
  (0xFAC1, .shift (-28089)), (0xFAC2, .shift (-27530)), (0xFAC3, .shift (-27217)),
  (0xFAC4, .shift (-26923)), (0xFAC5, .shift (-26703)), (0xFAC6, .shift (-25674)),
  (0xFAC7, .shift (-25572)), (0xFAC8, .shift (-25458)), (0xFAC9, .shift (-25326)),
  (0xFACA, .shift (-25291)), (0xFACB, .shift (-25280)), (0xFACC, .shift (-25233)),
  (0xFACD, .shift (-24507)), (0xFACE, .shift (-23346)), (0xFACF, .shift 77179),
  (0xFAD0, .shift 77172), (0xFAD1, .shift 80132), (0xFAD2, .shift (-48949)),
  (0xFAD3, .shift (-47803)), (0xFAD4, .shift (-47771)), (0xFAD5, .shift 87924),
  (0xFAD6, .shift 90618), (0xFAD7, .shift 99324), (0xFAD8, .shift (-23445)),
  (0xFAD9, .shift (-23371)), (0xFADA, .disallowed), (0xFB00, .text [0x66, 0x66]),
  (0xFB01, .text [0x66, 0x69]), (0xFB02, .text [0x66, 0x6C]), (0xFB03, .text [0x66, 0x66, 0x69]),
  (0xFB04, .text [0x66, 0x66, 0x6C]), (0xFB05, .text [0x73, 0x74]), (0xFB07, .disallowed),
  (0xFB13, .text [0x574, 0x576]), (0xFB14, .text [0x574, 0x565]), (0xFB15, .text [0x574, 0x56B]),
  (0xFB16, .text [0x57E, 0x576]), (0xFB17, .text [0x574, 0x56D]), (0xFB18, .disallowed),
  (0xFB1D, .text [0x5D9, 0x5B4]), (0xFB1E, .valid), (0xFB1F, .text [0x5F2, 0x5B7]),
  (0xFB20, .shift (-62782)), (0xFB21, .shift (-62801)), (0xFB22, .shift (-62799)),
  (0xFB24, .shift (-62793)), (0xFB27, .shift (-62783)), (0xFB28, .shift (-62782)),
  (0xFB29, .shift (-64254)), (0xFB2A, .text [0x5E9, 0x5C1]), (0xFB2B, .text [0x5E9, 0x5C2]),
  (0xFB2C, .text [0x5E9, 0x5BC, 0x5C1]), (0xFB2D, .text [0x5E9, 0x5BC, 0x5C2]),
  (0xFB2E, .text [0x5D0, 0x5B7]), (0xFB2F, .text [0x5D0, 0x5B8]), (0xFB30, .text [0x5D0, 0x5BC]),
  (0xFB31, .text [0x5D1, 0x5BC]), (0xFB32, .text [0x5D2, 0x5BC]), (0xFB33, .text [0x5D3, 0x5BC]),
  (0xFB34, .text [0x5D4, 0x5BC]), (0xFB35, .text [0x5D5, 0x5BC]), (0xFB36, .text [0x5D6, 0x5BC]),
  (0xFB37, .disallowed), (0xFB38, .text [0x5D8, 0x5BC]), (0xFB39, .text [0x5D9, 0x5BC]),
  (0xFB3A, .text [0x5DA, 0x5BC]), (0xFB3B, .text [0x5DB, 0x5BC]), (0xFB3C, .text [0x5DC, 0x5BC]),
  (0xFB3D, .disallowed), (0xFB3E, .text [0x5DE, 0x5BC]), (0xFB3F, .disallowed),
  (0xFB40, .text [0x5E0, 0x5BC]), (0xFB41, .text [0x5E1, 0x5BC]), (0xFB42, .disallowed),
  (0xFB43, .text [0x5E3, 0x5BC]), (0xFB44, .text [0x5E4, 0x5BC]), (0xFB45, .disallowed),
  (0xFB46, .text [0x5E6, 0x5BC]), (0xFB47, .text [0x5E7, 0x5BC]), (0xFB48, .text [0x5E8, 0x5BC]),
  (0xFB49, .text [0x5E9, 0x5BC]), (0xFB4A, .text [0x5EA, 0x5BC]), (0xFB4B, .text [0x5D5, 0x5B9]),
  (0xFB4C, .text [0x5D1, 0x5BF]), (0xFB4D, .text [0x5DB, 0x5BF]), (0xFB4E, .text [0x5E4, 0x5BF]),
  (0xFB4F, .text [0x5D0, 0x5DC]), (0xFB50, .text [0x671]), (0xFB52, .text [0x67B]),
  (0xFB56, .text [0x67E]), (0xFB5A, .text [0x680]), (0xFB5E, .text [0x67A]),
  (0xFB62, .text [0x67F]), (0xFB66, .text [0x679]), (0xFB6A, .text [0x6A4]),
  (0xFB6E, .text [0x6A6]), (0xFB72, .text [0x684]), (0xFB76, .text [0x683]),
  (0xFB7A, .text [0x686]), (0xFB7E, .text [0x687]), (0xFB82, .text [0x68D]),
  (0xFB84, .text [0x68C]), (0xFB86, .text [0x68E]), (0xFB88, .text [0x688]),
  (0xFB8A, .text [0x698]), (0xFB8C, .text [0x691]), (0xFB8E, .text [0x6A9]),
  (0xFB92, .text [0x6AF]), (0xFB96, .text [0x6B3]), (0xFB9A, .text [0x6B1]),
  (0xFB9E, .text [0x6BA]), (0xFBA0, .text [0x6BB]), (0xFBA4, .text [0x6C0]),
  (0xFBA6, .text [0x6C1]), (0xFBAA, .text [0x6BE]), (0xFBAE, .text [0x6D2]),
  (0xFBB0, .text [0x6D3]), (0xFBB2, .valid), (0xFBD3, .text [0x6AD]), (0xFBD7, .text [0x6C7]),
  (0xFBD9, .text [0x6C6]), (0xFBDB, .text [0x6C8]), (0xFBDD, .text [0x6C7, 0x674]),
  (0xFBDE, .text [0x6CB]), (0xFBE0, .text [0x6C5]), (0xFBE2, .text [0x6C9]),
  (0xFBE4, .text [0x6D0]), (0xFBE8, .text [0x649]), (0xFBEA, .text [0x626, 0x627]),
  (0xFBEC, .text [0x626, 0x6D5]), (0xFBEE, .text [0x626, 0x648]), (0xFBF0, .text [0x626, 0x6C7]),
  (0xFBF2, .text [0x626, 0x6C6]), (0xFBF4, .text [0x626, 0x6C8]), (0xFBF6, .text [0x626, 0x6D0]),
  (0xFBF9, .text [0x626, 0x649]), (0xFBFC, .text [0x6CC]), (0xFC00, .text [0x626, 0x62C]),
  (0xFC01, .text [0x626, 0x62D]), (0xFC02, .text [0x626, 0x645]), (0xFC03, .text [0x626, 0x649]),
  (0xFC04, .text [0x626, 0x64A]), (0xFC05, .text [0x628, 0x62C]), (0xFC06, .text [0x628, 0x62D]),
  (0xFC07, .text [0x628, 0x62E]), (0xFC08, .text [0x628, 0x645]), (0xFC09, .text [0x628, 0x649]),
  (0xFC0A, .text [0x628, 0x64A]), (0xFC0B, .text [0x62A, 0x62C]), (0xFC0C, .text [0x62A, 0x62D]),
  (0xFC0D, .text [0x62A, 0x62E]), (0xFC0E, .text [0x62A, 0x645]), (0xFC0F, .text [0x62A, 0x649]),
  (0xFC10, .text [0x62A, 0x64A]), (0xFC11, .text [0x62B, 0x62C]), (0xFC12, .text [0x62B, 0x645]),
  (0xFC13, .text [0x62B, 0x649]), (0xFC14, .text [0x62B, 0x64A]), (0xFC15, .text [0x62C, 0x62D]),
  (0xFC16, .text [0x62C, 0x645]), (0xFC17, .text [0x62D, 0x62C]), (0xFC18, .text [0x62D, 0x645]),
  (0xFC19, .text [0x62E, 0x62C]), (0xFC1A, .text [0x62E, 0x62D]), (0xFC1B, .text [0x62E, 0x645]),
  (0xFC1C, .text [0x633, 0x62C]), (0xFC1D, .text [0x633, 0x62D]), (0xFC1E, .text [0x633, 0x62E]),
  (0xFC1F, .text [0x633, 0x645]), (0xFC20, .text [0x635, 0x62D]), (0xFC21, .text [0x635, 0x645]),
  (0xFC22, .text [0x636, 0x62C]), (0xFC23, .text [0x636, 0x62D]), (0xFC24, .text [0x636, 0x62E]),
  (0xFC25, .text [0x636, 0x645]), (0xFC26, .text [0x637, 0x62D]), (0xFC27, .text [0x637, 0x645]),
  (0xFC28, .text [0x638, 0x645]), (0xFC29, .text [0x639, 0x62C]), (0xFC2A, .text [0x639, 0x645]),
  (0xFC2B, .text [0x63A, 0x62C]), (0xFC2C, .text [0x63A, 0x645]), (0xFC2D, .text [0x641, 0x62C]),
  (0xFC2E, .text [0x641, 0x62D]), (0xFC2F, .text [0x641, 0x62E]), (0xFC30, .text [0x641, 0x645]),
  (0xFC31, .text [0x641, 0x649]), (0xFC32, .text [0x641, 0x64A]), (0xFC33, .text [0x642, 0x62D]),
  (0xFC34, .text [0x642, 0x645]), (0xFC35, .text [0x642, 0x649]), (0xFC36, .text [0x642, 0x64A]),
  (0xFC37, .text [0x643, 0x627]), (0xFC38, .text [0x643, 0x62C]), (0xFC39, .text [0x643, 0x62D]),
  (0xFC3A, .text [0x643, 0x62E]), (0xFC3B, .text [0x643, 0x644]), (0xFC3C, .text [0x643, 0x645]),
  (0xFC3D, .text [0x643, 0x649]), (0xFC3E, .text [0x643, 0x64A]), (0xFC3F, .text [0x644, 0x62C]),
  (0xFC40, .text [0x644, 0x62D]), (0xFC41, .text [0x644, 0x62E]), (0xFC42, .text [0x644, 0x645]),
  (0xFC43, .text [0x644, 0x649]), (0xFC44, .text [0x644, 0x64A]), (0xFC45, .text [0x645, 0x62C]),
  (0xFC46, .text [0x645, 0x62D]), (0xFC47, .text [0x645, 0x62E]), (0xFC48, .text [0x645, 0x645]),
  (0xFC49, .text [0x645, 0x649]), (0xFC4A, .text [0x645, 0x64A]), (0xFC4B, .text [0x646, 0x62C]),
  (0xFC4C, .text [0x646, 0x62D]), (0xFC4D, .text [0x646, 0x62E]), (0xFC4E, .text [0x646, 0x645]),
  (0xFC4F, .text [0x646, 0x649]), (0xFC50, .text [0x646, 0x64A]), (0xFC51, .text [0x647, 0x62C]),
  (0xFC52, .text [0x647, 0x645]), (0xFC53, .text [0x647, 0x649]), (0xFC54, .text [0x647, 0x64A]),
  (0xFC55, .text [0x64A, 0x62C]), (0xFC56, .text [0x64A, 0x62D]), (0xFC57, .text [0x64A, 0x62E]),
  (0xFC58, .text [0x64A, 0x645]), (0xFC59, .text [0x64A, 0x649]), (0xFC5A, .text [0x64A, 0x64A]),
  (0xFC5B, .text [0x630, 0x670]), (0xFC5C, .text [0x631, 0x670]), (0xFC5D, .text [0x649, 0x670]),
  (0xFC5E, .text [0x20, 0x64C, 0x651]), (0xFC5F, .text [0x20, 0x64D, 0x651]),
  (0xFC60, .text [0x20, 0x64E, 0x651]), (0xFC61, .text [0x20, 0x64F, 0x651]),
  (0xFC62, .text [0x20, 0x650, 0x651]), (0xFC63, .text [0x20, 0x651, 0x670]),
  (0xFC64, .text [0x626, 0x631]), (0xFC65, .text [0x626, 0x632]), (0xFC66, .text [0x626, 0x645]),
  (0xFC67, .text [0x626, 0x646]), (0xFC68, .text [0x626, 0x649]), (0xFC69, .text [0x626, 0x64A]),
  (0xFC6A, .text [0x628, 0x631]), (0xFC6B, .text [0x628, 0x632]), (0xFC6C, .text [0x628, 0x645]),
  (0xFC6D, .text [0x628, 0x646]), (0xFC6E, .text [0x628, 0x649]), (0xFC6F, .text [0x628, 0x64A]),
  (0xFC70, .text [0x62A, 0x631]), (0xFC71, .text [0x62A, 0x632]), (0xFC72, .text [0x62A, 0x645]),
  (0xFC73, .text [0x62A, 0x646]), (0xFC74, .text [0x62A, 0x649]), (0xFC75, .text [0x62A, 0x64A]),
  (0xFC76, .text [0x62B, 0x631]), (0xFC77, .text [0x62B, 0x632]), (0xFC78, .text [0x62B, 0x645]),
  (0xFC79, .text [0x62B, 0x646]), (0xFC7A, .text [0x62B, 0x649]), (0xFC7B, .text [0x62B, 0x64A]),
  (0xFC7C, .text [0x641, 0x649]), (0xFC7D, .text [0x641, 0x64A]), (0xFC7E, .text [0x642, 0x649]),
  (0xFC7F, .text [0x642, 0x64A]), (0xFC80, .text [0x643, 0x627]), (0xFC81, .text [0x643, 0x644]),
  (0xFC82, .text [0x643, 0x645]), (0xFC83, .text [0x643, 0x649]), (0xFC84, .text [0x643, 0x64A]),
  (0xFC85, .text [0x644, 0x645]), (0xFC86, .text [0x644, 0x649]), (0xFC87, .text [0x644, 0x64A]),
  (0xFC88, .text [0x645, 0x627]), (0xFC89, .text [0x645, 0x645]), (0xFC8A, .text [0x646, 0x631]),
  (0xFC8B, .text [0x646, 0x632]), (0xFC8C, .text [0x646, 0x645]), (0xFC8D, .text [0x646, 0x646]),
  (0xFC8E, .text [0x646, 0x649]), (0xFC8F, .text [0x646, 0x64A]), (0xFC90, .text [0x649, 0x670]),
  (0xFC91, .text [0x64A, 0x631]), (0xFC92, .text [0x64A, 0x632]), (0xFC93, .text [0x64A, 0x645]),
  (0xFC94, .text [0x64A, 0x646]), (0xFC95, .text [0x64A, 0x649]), (0xFC96, .text [0x64A, 0x64A]),
  (0xFC97, .text [0x626, 0x62C]), (0xFC98, .text [0x626, 0x62D]), (0xFC99, .text [0x626, 0x62E]),
  (0xFC9A, .text [0x626, 0x645]), (0xFC9B, .text [0x626, 0x647]), (0xFC9C, .text [0x628, 0x62C]),
  (0xFC9D, .text [0x628, 0x62D]), (0xFC9E, .text [0x628, 0x62E]), (0xFC9F, .text [0x628, 0x645]),
  (0xFCA0, .text [0x628, 0x647]), (0xFCA1, .text [0x62A, 0x62C]), (0xFCA2, .text [0x62A, 0x62D]),
  (0xFCA3, .text [0x62A, 0x62E]), (0xFCA4, .text [0x62A, 0x645]), (0xFCA5, .text [0x62A, 0x647]),
  (0xFCA6, .text [0x62B, 0x645]), (0xFCA7, .text [0x62C, 0x62D]), (0xFCA8, .text [0x62C, 0x645]),
  (0xFCA9, .text [0x62D, 0x62C]), (0xFCAA, .text [0x62D, 0x645]), (0xFCAB, .text [0x62E, 0x62C]),
  (0xFCAC, .text [0x62E, 0x645]), (0xFCAD, .text [0x633, 0x62C]), (0xFCAE, .text [0x633, 0x62D]),
  (0xFCAF, .text [0x633, 0x62E]), (0xFCB0, .text [0x633, 0x645]), (0xFCB1, .text [0x635, 0x62D]),
  (0xFCB2, .text [0x635, 0x62E]), (0xFCB3, .text [0x635, 0x645]), (0xFCB4, .text [0x636, 0x62C]),
  (0xFCB5, .text [0x636, 0x62D]), (0xFCB6, .text [0x636, 0x62E]), (0xFCB7, .text [0x636, 0x645]),
  (0xFCB8, .text [0x637, 0x62D]), (0xFCB9, .text [0x638, 0x645]), (0xFCBA, .text [0x639, 0x62C]),
  (0xFCBB, .text [0x639, 0x645]), (0xFCBC, .text [0x63A, 0x62C]), (0xFCBD, .text [0x63A, 0x645]),
  (0xFCBE, .text [0x641, 0x62C]), (0xFCBF, .text [0x641, 0x62D]), (0xFCC0, .text [0x641, 0x62E]),
  (0xFCC1, .text [0x641, 0x645]), (0xFCC2, .text [0x642, 0x62D]), (0xFCC3, .text [0x642, 0x645]),
  (0xFCC4, .text [0x643, 0x62C]), (0xFCC5, .text [0x643, 0x62D]), (0xFCC6, .text [0x643, 0x62E]),
  (0xFCC7, .text [0x643, 0x644]), (0xFCC8, .text [0x643, 0x645]), (0xFCC9, .text [0x644, 0x62C]),
  (0xFCCA, .text [0x644, 0x62D]), (0xFCCB, .text [0x644, 0x62E]), (0xFCCC, .text [0x644, 0x645]),
  (0xFCCD, .text [0x644, 0x647]), (0xFCCE, .text [0x645, 0x62C]), (0xFCCF, .text [0x645, 0x62D]),
  (0xFCD0, .text [0x645, 0x62E]), (0xFCD1, .text [0x645, 0x645]), (0xFCD2, .text [0x646, 0x62C]),
  (0xFCD3, .text [0x646, 0x62D]), (0xFCD4, .text [0x646, 0x62E]), (0xFCD5, .text [0x646, 0x645]),
  (0xFCD6, .text [0x646, 0x647]), (0xFCD7, .text [0x647, 0x62C]), (0xFCD8, .text [0x647, 0x645]),
  (0xFCD9, .text [0x647, 0x670]), (0xFCDA, .text [0x64A, 0x62C]), (0xFCDB, .text [0x64A, 0x62D]),
  (0xFCDC, .text [0x64A, 0x62E]), (0xFCDD, .text [0x64A, 0x645]), (0xFCDE, .text [0x64A, 0x647]),
  (0xFCDF, .text [0x626, 0x645]), (0xFCE0, .text [0x626, 0x647]), (0xFCE1, .text [0x628, 0x645]),
  (0xFCE2, .text [0x628, 0x647]), (0xFCE3, .text [0x62A, 0x645]), (0xFCE4, .text [0x62A, 0x647]),
  (0xFCE5, .text [0x62B, 0x645]), (0xFCE6, .text [0x62B, 0x647]), (0xFCE7, .text [0x633, 0x645]),
  (0xFCE8, .text [0x633, 0x647]), (0xFCE9, .text [0x634, 0x645])]

/-- The mapping rows from 0xFCEA on, part 7 of 11. -/
def mappingTable6 : Array (Nat × Action) := #[
  (0xFCEA, .text [0x634, 0x647]), (0xFCEB, .text [0x643, 0x644]), (0xFCEC, .text [0x643, 0x645]),
  (0xFCED, .text [0x644, 0x645]), (0xFCEE, .text [0x646, 0x645]), (0xFCEF, .text [0x646, 0x647]),
  (0xFCF0, .text [0x64A, 0x645]), (0xFCF1, .text [0x64A, 0x647]),
  (0xFCF2, .text [0x640, 0x64E, 0x651]), (0xFCF3, .text [0x640, 0x64F, 0x651]),
  (0xFCF4, .text [0x640, 0x650, 0x651]), (0xFCF5, .text [0x637, 0x649]),
  (0xFCF6, .text [0x637, 0x64A]), (0xFCF7, .text [0x639, 0x649]), (0xFCF8, .text [0x639, 0x64A]),
  (0xFCF9, .text [0x63A, 0x649]), (0xFCFA, .text [0x63A, 0x64A]), (0xFCFB, .text [0x633, 0x649]),
  (0xFCFC, .text [0x633, 0x64A]), (0xFCFD, .text [0x634, 0x649]), (0xFCFE, .text [0x634, 0x64A]),
  (0xFCFF, .text [0x62D, 0x649]), (0xFD00, .text [0x62D, 0x64A]), (0xFD01, .text [0x62C, 0x649]),
  (0xFD02, .text [0x62C, 0x64A]), (0xFD03, .text [0x62E, 0x649]), (0xFD04, .text [0x62E, 0x64A]),
  (0xFD05, .text [0x635, 0x649]), (0xFD06, .text [0x635, 0x64A]), (0xFD07, .text [0x636, 0x649]),
  (0xFD08, .text [0x636, 0x64A]), (0xFD09, .text [0x634, 0x62C]), (0xFD0A, .text [0x634, 0x62D]),
  (0xFD0B, .text [0x634, 0x62E]), (0xFD0C, .text [0x634, 0x645]), (0xFD0D, .text [0x634, 0x631]),
  (0xFD0E, .text [0x633, 0x631]), (0xFD0F, .text [0x635, 0x631]), (0xFD10, .text [0x636, 0x631]),
  (0xFD11, .text [0x637, 0x649]), (0xFD12, .text [0x637, 0x64A]), (0xFD13, .text [0x639, 0x649]),
  (0xFD14, .text [0x639, 0x64A]), (0xFD15, .text [0x63A, 0x649]), (0xFD16, .text [0x63A, 0x64A]),
  (0xFD17, .text [0x633, 0x649]), (0xFD18, .text [0x633, 0x64A]), (0xFD19, .text [0x634, 0x649]),
  (0xFD1A, .text [0x634, 0x64A]), (0xFD1B, .text [0x62D, 0x649]), (0xFD1C, .text [0x62D, 0x64A]),
  (0xFD1D, .text [0x62C, 0x649]), (0xFD1E, .text [0x62C, 0x64A]), (0xFD1F, .text [0x62E, 0x649]),
  (0xFD20, .text [0x62E, 0x64A]), (0xFD21, .text [0x635, 0x649]), (0xFD22, .text [0x635, 0x64A]),
  (0xFD23, .text [0x636, 0x649]), (0xFD24, .text [0x636, 0x64A]), (0xFD25, .text [0x634, 0x62C]),
  (0xFD26, .text [0x634, 0x62D]), (0xFD27, .text [0x634, 0x62E]), (0xFD28, .text [0x634, 0x645]),
  (0xFD29, .text [0x634, 0x631]), (0xFD2A, .text [0x633, 0x631]), (0xFD2B, .text [0x635, 0x631]),
  (0xFD2C, .text [0x636, 0x631]), (0xFD2D, .text [0x634, 0x62C]), (0xFD2E, .text [0x634, 0x62D]),
  (0xFD2F, .text [0x634, 0x62E]), (0xFD30, .text [0x634, 0x645]), (0xFD31, .text [0x633, 0x647]),
  (0xFD32, .text [0x634, 0x647]), (0xFD33, .text [0x637, 0x645]), (0xFD34, .text [0x633, 0x62C]),
  (0xFD35, .text [0x633, 0x62D]), (0xFD36, .text [0x633, 0x62E]), (0xFD37, .text [0x634, 0x62C]),
  (0xFD38, .text [0x634, 0x62D]), (0xFD39, .text [0x634, 0x62E]), (0xFD3A, .text [0x637, 0x645]),
  (0xFD3B, .text [0x638, 0x645]), (0xFD3C, .text [0x627, 0x64B]), (0xFD3E, .valid),
  (0xFD50, .text [0x62A, 0x62C, 0x645]), (0xFD51, .text [0x62A, 0x62D, 0x62C]),
  (0xFD53, .text [0x62A, 0x62D, 0x645]), (0xFD54, .text [0x62A, 0x62E, 0x645]),
  (0xFD55, .text [0x62A, 0x645, 0x62C]), (0xFD56, .text [0x62A, 0x645, 0x62D]),
  (0xFD57, .text [0x62A, 0x645, 0x62E]), (0xFD58, .text [0x62C, 0x645, 0x62D]),
  (0xFD5A, .text [0x62D, 0x645, 0x64A]), (0xFD5B, .text [0x62D, 0x645, 0x649]),
  (0xFD5C, .text [0x633, 0x62D, 0x62C]), (0xFD5D, .text [0x633, 0x62C, 0x62D]),
  (0xFD5E, .text [0x633, 0x62C, 0x649]), (0xFD5F, .text [0x633, 0x645, 0x62D]),
  (0xFD61, .text [0x633, 0x645, 0x62C]), (0xFD62, .text [0x633, 0x645, 0x645]),
  (0xFD64, .text [0x635, 0x62D, 0x62D]), (0xFD66, .text [0x635, 0x645, 0x645]),
  (0xFD67, .text [0x634, 0x62D, 0x645]), (0xFD69, .text [0x634, 0x62C, 0x64A]),
  (0xFD6A, .text [0x634, 0x645, 0x62E]), (0xFD6C, .text [0x634, 0x645, 0x645]),
  (0xFD6E, .text [0x636, 0x62D, 0x649]), (0xFD6F, .text [0x636, 0x62E, 0x645]),
  (0xFD71, .text [0x637, 0x645, 0x62D]), (0xFD73, .text [0x637, 0x645, 0x645]),
  (0xFD74, .text [0x637, 0x645, 0x64A]), (0xFD75, .text [0x639, 0x62C, 0x645]),
  (0xFD76, .text [0x639, 0x645, 0x645]), (0xFD78, .text [0x639, 0x645, 0x649]),
  (0xFD79, .text [0x63A, 0x645, 0x645]), (0xFD7A, .text [0x63A, 0x645, 0x64A]),
  (0xFD7B, .text [0x63A, 0x645, 0x649]), (0xFD7C, .text [0x641, 0x62E, 0x645]),
  (0xFD7E, .text [0x642, 0x645, 0x62D]), (0xFD7F, .text [0x642, 0x645, 0x645]),
  (0xFD80, .text [0x644, 0x62D, 0x645]), (0xFD81, .text [0x644, 0x62D, 0x64A]),
  (0xFD82, .text [0x644, 0x62D, 0x649]), (0xFD83, .text [0x644, 0x62C, 0x62C]),
  (0xFD85, .text [0x644, 0x62E, 0x645]), (0xFD87, .text [0x644, 0x645, 0x62D]),
  (0xFD89, .text [0x645, 0x62D, 0x62C]), (0xFD8A, .text [0x645, 0x62D, 0x645]),
  (0xFD8B, .text [0x645, 0x62D, 0x64A]), (0xFD8C, .text [0x645, 0x62C, 0x62D]),
  (0xFD8D, .text [0x645, 0x62C, 0x645]), (0xFD8E, .text [0x645, 0x62E, 0x62C]),
  (0xFD8F, .text [0x645, 0x62E, 0x645]), (0xFD90, .valid), (0xFD92, .text [0x645, 0x62C, 0x62E]),
  (0xFD93, .text [0x647, 0x645, 0x62C]), (0xFD94, .text [0x647, 0x645, 0x645]),
  (0xFD95, .text [0x646, 0x62D, 0x645]), (0xFD96, .text [0x646, 0x62D, 0x649]),
  (0xFD97, .text [0x646, 0x62C, 0x645]), (0xFD99, .text [0x646, 0x62C, 0x649]),
  (0xFD9A, .text [0x646, 0x645, 0x64A]), (0xFD9B, .text [0x646, 0x645, 0x649]),
  (0xFD9C, .text [0x64A, 0x645, 0x645]), (0xFD9E, .text [0x628, 0x62E, 0x64A]),
  (0xFD9F, .text [0x62A, 0x62C, 0x64A]), (0xFDA0, .text [0x62A, 0x62C, 0x649]),
  (0xFDA1, .text [0x62A, 0x62E, 0x64A]), (0xFDA2, .text [0x62A, 0x62E, 0x649]),
  (0xFDA3, .text [0x62A, 0x645, 0x64A]), (0xFDA4, .text [0x62A, 0x645, 0x649]),
  (0xFDA5, .text [0x62C, 0x645, 0x64A]), (0xFDA6, .text [0x62C, 0x62D, 0x649]),
  (0xFDA7, .text [0x62C, 0x645, 0x649]), (0xFDA8, .text [0x633, 0x62E, 0x649]),
  (0xFDA9, .text [0x635, 0x62D, 0x64A]), (0xFDAA, .text [0x634, 0x62D, 0x64A]),
  (0xFDAB, .text [0x636, 0x62D, 0x64A]), (0xFDAC, .text [0x644, 0x62C, 0x64A]),
  (0xFDAD, .text [0x644, 0x645, 0x64A]), (0xFDAE, .text [0x64A, 0x62D, 0x64A]),
  (0xFDAF, .text [0x64A, 0x62C, 0x64A]), (0xFDB0, .text [0x64A, 0x645, 0x64A]),
  (0xFDB1, .text [0x645, 0x645, 0x64A]), (0xFDB2, .text [0x642, 0x645, 0x64A]),
  (0xFDB3, .text [0x646, 0x62D, 0x64A]), (0xFDB4, .text [0x642, 0x645, 0x62D]),
  (0xFDB5, .text [0x644, 0x62D, 0x645]), (0xFDB6, .text [0x639, 0x645, 0x64A]),
  (0xFDB7, .text [0x643, 0x645, 0x64A]), (0xFDB8, .text [0x646, 0x62C, 0x62D]),
  (0xFDB9, .text [0x645, 0x62E, 0x64A]), (0xFDBA, .text [0x644, 0x62C, 0x645]),
  (0xFDBB, .text [0x643, 0x645, 0x645]), (0xFDBC, .text [0x644, 0x62C, 0x645]),
  (0xFDBD, .text [0x646, 0x62C, 0x62D]), (0xFDBE, .text [0x62C, 0x62D, 0x64A]),
  (0xFDBF, .text [0x62D, 0x62C, 0x64A]), (0xFDC0, .text [0x645, 0x62C, 0x64A]),
  (0xFDC1, .text [0x641, 0x645, 0x64A]), (0xFDC2, .text [0x628, 0x62D, 0x64A]),
  (0xFDC3, .text [0x643, 0x645, 0x645]), (0xFDC4, .text [0x639, 0x62C, 0x645]),
  (0xFDC5, .text [0x635, 0x645, 0x645]), (0xFDC6, .text [0x633, 0x62E, 0x64A]),
  (0xFDC7, .text [0x646, 0x62C, 0x64A]), (0xFDC8, .valid), (0xFDD0, .disallowed),
  (0xFDF0, .text [0x635, 0x644, 0x6D2]), (0xFDF1, .text [0x642, 0x644, 0x6D2]),
  (0xFDF2, .text [0x627, 0x644, 0x644, 0x647]), (0xFDF3, .text [0x627, 0x643, 0x628, 0x631]),
  (0xFDF4, .text [0x645, 0x62D, 0x645, 0x62F]), (0xFDF5, .text [0x635, 0x644, 0x639, 0x645]),
  (0xFDF6, .text [0x631, 0x633, 0x648, 0x644]), (0xFDF7, .text [0x639, 0x644, 0x64A, 0x647]),
  (0xFDF8, .text [0x648, 0x633, 0x644, 0x645]), (0xFDF9, .text [0x635, 0x644, 0x649]),
  (0xFDFA, .text [0x635, 0x644, 0x649, 0x20, 0x627, 0x644, 0x644, 0x647, 0x20, 0x639, 0x644, 0x64A, 0x647, 0x20, 0x648, 0x633, 0x644, 0x645]),
  (0xFDFB, .text [0x62C, 0x644, 0x20, 0x62C, 0x644, 0x627, 0x644, 0x647]),
  (0xFDFC, .text [0x631, 0x6CC, 0x627, 0x644]), (0xFDFD, .valid), (0xFE00, .ignored),
  (0xFE10, .shift (-64996)), (0xFE11, .shift (-52752)), (0xFE12, .disallowed),
  (0xFE13, .shift (-64985)), (0xFE15, .shift (-65012)), (0xFE16, .shift (-64983)),
  (0xFE17, .shift (-52737)), (0xFE19, .disallowed), (0xFE20, .valid), (0xFE30, .disallowed),
  (0xFE31, .shift (-56861)), (0xFE32, .shift (-56863)), (0xFE33, .text [0x5F]),
  (0xFE35, .shift (-65037)), (0xFE37, .shift (-64956)), (0xFE38, .shift (-64955)),
  (0xFE39, .shift (-52773)), (0xFE3B, .shift (-52779)), (0xFE3D, .shift (-52787)),
  (0xFE3F, .shift (-52791)), (0xFE41, .shift (-52789)), (0xFE45, .valid),
  (0xFE47, .shift (-65004)), (0xFE48, .shift (-65003)), (0xFE49, .text [0x20, 0x305]),
  (0xFE4D, .text [0x5F]), (0xFE50, .shift (-65060)), (0xFE51, .shift (-52816)),
  (0xFE52, .disallowed), (0xFE54, .shift (-65049)), (0xFE55, .shift (-65051)),
  (0xFE56, .shift (-65047)), (0xFE57, .shift (-65078)), (0xFE58, .shift (-56900)),
  (0xFE59, .shift (-65073)), (0xFE5B, .shift (-64992)), (0xFE5C, .shift (-64991)),
  (0xFE5D, .shift (-52809)), (0xFE5F, .shift (-65084)), (0xFE60, .shift (-65082)),
  (0xFE61, .shift (-65079)), (0xFE63, .shift (-65078)), (0xFE64, .shift (-65064)),
  (0xFE65, .shift (-65063)), (0xFE66, .shift (-65065)), (0xFE67, .disallowed),
  (0xFE68, .shift (-65036)), (0xFE69, .shift (-65093)), (0xFE6B, .shift (-65067)),
  (0xFE6C, .disallowed), (0xFE70, .text [0x20, 0x64B]), (0xFE71, .text [0x640, 0x64B]),
  (0xFE72, .text [0x20, 0x64C]), (0xFE73, .valid), (0xFE74, .text [0x20, 0x64D]),
  (0xFE75, .disallowed), (0xFE76, .text [0x20, 0x64E]), (0xFE77, .text [0x640, 0x64E]),
  (0xFE78, .text [0x20, 0x64F]), (0xFE79, .text [0x640, 0x64F]), (0xFE7A, .text [0x20, 0x650]),
  (0xFE7B, .text [0x640, 0x650]), (0xFE7C, .text [0x20, 0x651]), (0xFE7D, .text [0x640, 0x651]),
  (0xFE7E, .text [0x20, 0x652]), (0xFE7F, .text [0x640, 0x652]), (0xFE80, .shift (-63583)),
  (0xFE81, .text [0x622]), (0xFE83, .text [0x623]), (0xFE85, .text [0x624]),
  (0xFE87, .text [0x625]), (0xFE89, .text [0x626]), (0xFE8D, .text [0x627]),
  (0xFE8F, .text [0x628]), (0xFE93, .text [0x629]), (0xFE95, .text [0x62A]),
  (0xFE99, .text [0x62B]), (0xFE9D, .text [0x62C]), (0xFEA1, .text [0x62D]),
  (0xFEA5, .text [0x62E]), (0xFEA9, .text [0x62F]), (0xFEAB, .text [0x630]),
  (0xFEAD, .text [0x631]), (0xFEAF, .text [0x632]), (0xFEB1, .text [0x633]),
  (0xFEB5, .text [0x634]), (0xFEB9, .text [0x635]), (0xFEBD, .text [0x636]),
  (0xFEC1, .text [0x637]), (0xFEC5, .text [0x638]), (0xFEC9, .text [0x639]),
  (0xFECD, .text [0x63A]), (0xFED1, .text [0x641]), (0xFED5, .text [0x642]),
  (0xFED9, .text [0x643]), (0xFEDD, .text [0x644]), (0xFEE1, .text [0x645]),
  (0xFEE5, .text [0x646]), (0xFEE9, .text [0x647]), (0xFEED, .text [0x648]),
  (0xFEEF, .text [0x649]), (0xFEF1, .text [0x64A]), (0xFEF5, .text [0x644, 0x622]),
  (0xFEF7, .text [0x644, 0x623]), (0xFEF9, .text [0x644, 0x625]), (0xFEFB, .text [0x644, 0x627]),
  (0xFEFD, .disallowed), (0xFEFF, .ignored), (0xFF00, .disallowed), (0xFF01, .shift (-65248)),
  (0xFF21, .shift (-65216)), (0xFF3B, .shift (-65248)), (0xFF5F, .shift (-54746)),
  (0xFF61, .shift (-65331)), (0xFF62, .shift (-53078)), (0xFF64, .shift (-53091)),
  (0xFF65, .shift (-52842)), (0xFF66, .shift (-52852)), (0xFF67, .shift (-52934)),
  (0xFF68, .shift (-52933)), (0xFF69, .shift (-52932)), (0xFF6A, .shift (-52931)),
  (0xFF6B, .shift (-52930)), (0xFF6C, .shift (-52873)), (0xFF6D, .shift (-52872)),
  (0xFF6E, .shift (-52871)), (0xFF6F, .shift (-52908)), (0xFF70, .shift (-52852)),
  (0xFF71, .shift (-52943)), (0xFF72, .shift (-52942)), (0xFF73, .shift (-52941)),
  (0xFF74, .shift (-52940)), (0xFF75, .shift (-52939)), (0xFF77, .shift (-52938)),
  (0xFF78, .shift (-52937)), (0xFF79, .shift (-52936)), (0xFF7A, .shift (-52935)),
  (0xFF7B, .shift (-52934)), (0xFF7C, .shift (-52933)), (0xFF7D, .shift (-52932)),
  (0xFF7E, .shift (-52931)), (0xFF7F, .shift (-52930)), (0xFF80, .shift (-52929)),
  (0xFF81, .shift (-52928)), (0xFF82, .shift (-52926)), (0xFF83, .shift (-52925)),
  (0xFF84, .shift (-52924)), (0xFF85, .shift (-52923)), (0xFF8B, .shift (-52921)),
  (0xFF8C, .shift (-52919)), (0xFF8D, .shift (-52917)), (0xFF8E, .shift (-52915)),
  (0xFF8F, .shift (-52913)), (0xFF94, .shift (-52912)), (0xFF95, .shift (-52911)),
  (0xFF96, .shift (-52910)), (0xFF9C, .shift (-52909)), (0xFF9D, .shift (-52906)),
  (0xFF9E, .shift (-52997)), (0xFFA0, .ignored), (0xFFA1, .shift (-61089)),
  (0xFFA3, .shift (-60921)), (0xFFA4, .shift (-61090)), (0xFFA5, .shift (-60921)),
  (0xFFA7, .shift (-61092)), (0xFFAA, .shift (-60922)), (0xFFB0, .shift (-61078)),
  (0xFFB1, .shift (-61099)), (0xFFB4, .shift (-61075)), (0xFFB5, .shift (-61100)),
  (0xFFBF, .disallowed), (0xFFC2, .shift (-61025)), (0xFFC8, .disallowed),
  (0xFFCA, .shift (-61027)), (0xFFD0, .disallowed), (0xFFD2, .shift (-61029)),
  (0xFFD8, .disallowed), (0xFFDA, .shift (-61031)), (0xFFDD, .disallowed),
  (0xFFE0, .shift (-65342)), (0xFFE2, .shift (-65334)), (0xFFE3, .text [0x20, 0x304]),
  (0xFFE4, .shift (-65342)), (0xFFE5, .shift (-65344)), (0xFFE6, .shift (-57149)),
  (0xFFE7, .disallowed), (0xFFE8, .shift (-56038)), (0xFFE9, .shift (-56921)),
  (0xFFED, .shift (-55885)), (0xFFEE, .shift (-55843)), (0xFFEF, .disallowed), (0x10000, .valid),
  (0x1000C, .disallowed), (0x1000D, .valid), (0x10027, .disallowed), (0x10028, .valid),
  (0x1003B, .disallowed), (0x1003C, .valid), (0x1003E, .disallowed), (0x1003F, .valid),
  (0x1004E, .disallowed), (0x10050, .valid), (0x1005E, .disallowed), (0x10080, .valid),
  (0x100FB, .disallowed), (0x10100, .valid), (0x10103, .disallowed), (0x10107, .valid),
  (0x10134, .disallowed), (0x10137, .valid), (0x1018F, .disallowed), (0x10190, .valid),
  (0x1019D, .disallowed), (0x101A0, .valid), (0x101A1, .disallowed), (0x101D0, .valid),
  (0x101FE, .disallowed), (0x10280, .valid), (0x1029D, .disallowed), (0x102A0, .valid),
  (0x102D1, .disallowed), (0x102E0, .valid), (0x102FC, .disallowed), (0x10300, .valid),
  (0x10324, .disallowed), (0x1032D, .valid), (0x1034B, .disallowed), (0x10350, .valid),
  (0x1037B, .disallowed), (0x10380, .valid), (0x1039E, .disallowed), (0x1039F, .valid),
  (0x103C4, .disallowed), (0x103C8, .valid), (0x103D6, .disallowed), (0x10400, .shift 40),
  (0x10428, .valid), (0x1049E, .disallowed), (0x104A0, .valid), (0x104AA, .disallowed),
  (0x104B0, .shift 40), (0x104D4, .disallowed), (0x104D8, .valid), (0x104FC, .disallowed),
  (0x10500, .valid), (0x10528, .disallowed), (0x10530, .valid), (0x10564, .disallowed),
  (0x1056F, .valid), (0x10570, .shift 39), (0x1057B, .disallowed), (0x1057C, .shift 39),
  (0x1058B, .disallowed), (0x1058C, .shift 39), (0x10593, .disallowed), (0x10594, .shift 39),
  (0x10596, .disallowed), (0x10597, .valid), (0x105A2, .disallowed), (0x105A3, .valid),
  (0x105B2, .disallowed), (0x105B3, .valid), (0x105BA, .disallowed), (0x105BB, .valid),
  (0x105BD, .disallowed), (0x105C0, .valid), (0x105F4, .disallowed), (0x10600, .valid),
  (0x10737, .disallowed), (0x10740, .valid), (0x10756, .disallowed), (0x10760, .valid),
  (0x10768, .disallowed), (0x10780, .valid), (0x10781, .shift (-66737)),
  (0x10783, .shift (-67229)), (0x10784, .shift (-66795)), (0x10785, .shift (-66866)),
  (0x10786, .disallowed), (0x10787, .shift (-66788)), (0x10788, .shift (-23586)),
  (0x10789, .shift (-66788)), (0x1078A, .shift (-66790)), (0x1078B, .shift (-66869)),
  (0x1078D, .shift (-59900)), (0x1078E, .shift (-66870)), (0x1078F, .shift (-66865)),
  (0x10790, .shift (-66791)), (0x10791, .shift (-66861)), (0x10792, .shift (-66864)),
  (0x10793, .shift (-66867)), (0x10794, .shift (-66809)), (0x10795, .shift (-67182)),
  (0x10796, .shift (-66810)), (0x10797, .shift (-66864)), (0x10798, .shift (-66836)),
  (0x10799, .shift (-66799))]

/-- The mapping rows from 0x1079B on, part 8 of 11. -/
def mappingTable7 : Array (Nat × Action) := #[
  (0x1079B, .shift (-66863)), (0x1079C, .shift 55144), (0x1079D, .shift (-24591)),
  (0x1079E, .shift (-66864)), (0x1079F, .shift 55142), (0x107A0, .shift (-66834)),
  (0x107A1, .shift 55141), (0x107A2, .shift (-67242)), (0x107A3, .shift (-66861)),
  (0x107A5, .shift (-67380)), (0x107A6, .shift (-66860)), (0x107A7, .shift 55137),
  (0x107A8, .shift (-66859)), (0x107AA, .shift (-66858)), (0x107AB, .shift (-66819)),
  (0x107AC, .shift (-66822)), (0x107AD, .shift (-23622)), (0x107AE, .shift (-66823)),
  (0x107AF, .shift (-66855)), (0x107B0, .shift (-56127)), (0x107B1, .disallowed),
  (0x107B2, .shift (-66851)), (0x107B3, .shift (-66834)), (0x107B5, .shift (-66845)),
  (0x107B6, .shift (-67062)), (0x107B9, .shift 55121), (0x107BA, .shift 55140),
  (0x107BB, .disallowed), (0x10800, .valid), (0x10806, .disallowed), (0x10808, .valid),
  (0x10809, .disallowed), (0x1080A, .valid), (0x10836, .disallowed), (0x10837, .valid),
  (0x10839, .disallowed), (0x1083C, .valid), (0x1083D, .disallowed), (0x1083F, .valid),
  (0x10856, .disallowed), (0x10857, .valid), (0x1089F, .disallowed), (0x108A7, .valid),
  (0x108B0, .disallowed), (0x108E0, .valid), (0x108F3, .disallowed), (0x108F4, .valid),
  (0x108F6, .disallowed), (0x108FB, .valid), (0x1091C, .disallowed), (0x1091F, .valid),
  (0x1093A, .disallowed), (0x1093F, .valid), (0x1095A, .disallowed), (0x10980, .valid),
  (0x109B8, .disallowed), (0x109BC, .valid), (0x109D0, .disallowed), (0x109D2, .valid),
  (0x10A04, .disallowed), (0x10A05, .valid), (0x10A07, .disallowed), (0x10A0C, .valid),
  (0x10A14, .disallowed), (0x10A15, .valid), (0x10A18, .disallowed), (0x10A19, .valid),
  (0x10A36, .disallowed), (0x10A38, .valid), (0x10A3B, .disallowed), (0x10A3F, .valid),
  (0x10A49, .disallowed), (0x10A50, .valid), (0x10A59, .disallowed), (0x10A60, .valid),
  (0x10AA0, .disallowed), (0x10AC0, .valid), (0x10AE7, .disallowed), (0x10AEB, .valid),
  (0x10AF7, .disallowed), (0x10B00, .valid), (0x10B36, .disallowed), (0x10B39, .valid),
  (0x10B56, .disallowed), (0x10B58, .valid), (0x10B73, .disallowed), (0x10B78, .valid),
  (0x10B92, .disallowed), (0x10B99, .valid), (0x10B9D, .disallowed), (0x10BA9, .valid),
  (0x10BB0, .disallowed), (0x10C00, .valid), (0x10C49, .disallowed), (0x10C80, .shift 64),
  (0x10CB3, .disallowed), (0x10CC0, .valid), (0x10CF3, .disallowed), (0x10CFA, .valid),
  (0x10D28, .disallowed), (0x10D30, .valid), (0x10D3A, .disallowed), (0x10D40, .valid),
  (0x10D50, .shift 32), (0x10D66, .disallowed), (0x10D69, .valid), (0x10D86, .disallowed),
  (0x10D8E, .valid), (0x10D90, .disallowed), (0x10E60, .valid), (0x10E7F, .disallowed),
  (0x10E80, .valid), (0x10EAA, .disallowed), (0x10EAB, .valid), (0x10EAE, .disallowed),
  (0x10EB0, .valid), (0x10EB2, .disallowed), (0x10EC2, .valid), (0x10EC8, .disallowed),
  (0x10ED0, .valid), (0x10ED9, .disallowed), (0x10EFA, .valid), (0x10F28, .disallowed),
  (0x10F30, .valid), (0x10F5A, .disallowed), (0x10F70, .valid), (0x10F8A, .disallowed),
  (0x10FB0, .valid), (0x10FCC, .disallowed), (0x10FE0, .valid), (0x10FF7, .disallowed),
  (0x11000, .valid), (0x1104E, .disallowed), (0x11052, .valid), (0x11076, .disallowed),
  (0x1107F, .valid), (0x110BD, .disallowed), (0x110BE, .valid), (0x110C3, .disallowed),
  (0x110D0, .valid), (0x110E9, .disallowed), (0x110F0, .valid), (0x110FA, .disallowed),
  (0x11100, .valid), (0x11135, .disallowed), (0x11136, .valid), (0x11148, .disallowed),
  (0x11150, .valid), (0x11177, .disallowed), (0x11180, .valid), (0x111E0, .disallowed),
  (0x111E1, .valid), (0x111F5, .disallowed), (0x11200, .valid), (0x11212, .disallowed),
  (0x11213, .valid), (0x11242, .disallowed), (0x11280, .valid), (0x11287, .disallowed),
  (0x11288, .valid), (0x11289, .disallowed), (0x1128A, .valid), (0x1128E, .disallowed),
  (0x1128F, .valid), (0x1129E, .disallowed), (0x1129F, .valid), (0x112AA, .disallowed),
  (0x112B0, .valid), (0x112EB, .disallowed), (0x112F0, .valid), (0x112FA, .disallowed),
  (0x11300, .valid), (0x11304, .disallowed), (0x11305, .valid), (0x1130D, .disallowed),
  (0x1130F, .valid), (0x11311, .disallowed), (0x11313, .valid), (0x11329, .disallowed),
  (0x1132A, .valid), (0x11331, .disallowed), (0x11332, .valid), (0x11334, .disallowed),
  (0x11335, .valid), (0x1133A, .disallowed), (0x1133B, .valid), (0x11345, .disallowed),
  (0x11347, .valid), (0x11349, .disallowed), (0x1134B, .valid), (0x1134E, .disallowed),
  (0x11350, .valid), (0x11351, .disallowed), (0x11357, .valid), (0x11358, .disallowed),
  (0x1135D, .valid), (0x11364, .disallowed), (0x11366, .valid), (0x1136D, .disallowed),
  (0x11370, .valid), (0x11375, .disallowed), (0x11380, .valid), (0x1138A, .disallowed),
  (0x1138B, .valid), (0x1138C, .disallowed), (0x1138E, .valid), (0x1138F, .disallowed),
  (0x11390, .valid), (0x113B6, .disallowed), (0x113B7, .valid), (0x113C1, .disallowed),
  (0x113C2, .valid), (0x113C3, .disallowed), (0x113C5, .valid), (0x113C6, .disallowed),
  (0x113C7, .valid), (0x113CB, .disallowed), (0x113CC, .valid), (0x113D6, .disallowed),
  (0x113D7, .valid), (0x113D9, .disallowed), (0x113E1, .valid), (0x113E3, .disallowed),
  (0x11400, .valid), (0x1145C, .disallowed), (0x1145D, .valid), (0x11462, .disallowed),
  (0x11480, .valid), (0x114C8, .disallowed), (0x114D0, .valid), (0x114DA, .disallowed),
  (0x11580, .valid), (0x115B6, .disallowed), (0x115B8, .valid), (0x115DE, .disallowed),
  (0x11600, .valid), (0x11645, .disallowed), (0x11650, .valid), (0x1165A, .disallowed),
  (0x11660, .valid), (0x1166D, .disallowed), (0x11680, .valid), (0x116BA, .disallowed),
  (0x116C0, .valid), (0x116CA, .disallowed), (0x116D0, .valid), (0x116E4, .disallowed),
  (0x11700, .valid), (0x1171B, .disallowed), (0x1171D, .valid), (0x1172C, .disallowed),
  (0x11730, .valid), (0x11747, .disallowed), (0x11800, .valid), (0x1183C, .disallowed),
  (0x118A0, .shift 32), (0x118C0, .valid), (0x118F3, .disallowed), (0x118FF, .valid),
  (0x11907, .disallowed), (0x11909, .valid), (0x1190A, .disallowed), (0x1190C, .valid),
  (0x11914, .disallowed), (0x11915, .valid), (0x11917, .disallowed), (0x11918, .valid),
  (0x11936, .disallowed), (0x11937, .valid), (0x11939, .disallowed), (0x1193B, .valid),
  (0x11947, .disallowed), (0x11950, .valid), (0x1195A, .disallowed), (0x119A0, .valid),
  (0x119A8, .disallowed), (0x119AA, .valid), (0x119D8, .disallowed), (0x119DA, .valid),
  (0x119E5, .disallowed), (0x11A00, .valid), (0x11A48, .disallowed), (0x11A50, .valid),
  (0x11AA3, .disallowed), (0x11AB0, .valid), (0x11AF9, .disallowed), (0x11B00, .valid),
  (0x11B0A, .disallowed), (0x11B60, .valid), (0x11B68, .disallowed), (0x11BC0, .valid),
  (0x11BE2, .disallowed), (0x11BF0, .valid), (0x11BFA, .disallowed), (0x11C00, .valid),
  (0x11C09, .disallowed), (0x11C0A, .valid), (0x11C37, .disallowed), (0x11C38, .valid),
  (0x11C46, .disallowed), (0x11C50, .valid), (0x11C6D, .disallowed), (0x11C70, .valid),
  (0x11C90, .disallowed), (0x11C92, .valid), (0x11CA8, .disallowed), (0x11CA9, .valid),
  (0x11CB7, .disallowed), (0x11D00, .valid), (0x11D07, .disallowed), (0x11D08, .valid),
  (0x11D0A, .disallowed), (0x11D0B, .valid), (0x11D37, .disallowed), (0x11D3A, .valid),
  (0x11D3B, .disallowed), (0x11D3C, .valid), (0x11D3E, .disallowed), (0x11D3F, .valid),
  (0x11D48, .disallowed), (0x11D50, .valid), (0x11D5A, .disallowed), (0x11D60, .valid),
  (0x11D66, .disallowed), (0x11D67, .valid), (0x11D69, .disallowed), (0x11D6A, .valid),
  (0x11D8F, .disallowed), (0x11D90, .valid), (0x11D92, .disallowed), (0x11D93, .valid),
  (0x11D99, .disallowed), (0x11DA0, .valid), (0x11DAA, .disallowed), (0x11DB0, .valid),
  (0x11DDC, .disallowed), (0x11DE0, .valid), (0x11DEA, .disallowed), (0x11EE0, .valid),
  (0x11EF9, .disallowed), (0x11F00, .valid), (0x11F11, .disallowed), (0x11F12, .valid),
  (0x11F3B, .disallowed), (0x11F3E, .valid), (0x11F5B, .disallowed), (0x11FB0, .valid),
  (0x11FB1, .disallowed), (0x11FC0, .valid), (0x11FF2, .disallowed), (0x11FFF, .valid),
  (0x1239A, .disallowed), (0x12400, .valid), (0x1246F, .disallowed), (0x12470, .valid),
  (0x12475, .disallowed), (0x12480, .valid), (0x12544, .disallowed), (0x12F90, .valid),
  (0x12FF3, .disallowed), (0x13000, .valid), (0x13430, .disallowed), (0x13440, .valid),
  (0x13456, .disallowed), (0x13460, .valid), (0x143FB, .disallowed), (0x14400, .valid),
  (0x14647, .disallowed), (0x16100, .valid), (0x1613A, .disallowed), (0x16800, .valid),
  (0x16A39, .disallowed), (0x16A40, .valid), (0x16A5F, .disallowed), (0x16A60, .valid),
  (0x16A6A, .disallowed), (0x16A6E, .valid), (0x16ABF, .disallowed), (0x16AC0, .valid),
  (0x16ACA, .disallowed), (0x16AD0, .valid), (0x16AEE, .disallowed), (0x16AF0, .valid),
  (0x16AF6, .disallowed), (0x16B00, .valid), (0x16B46, .disallowed), (0x16B50, .valid),
  (0x16B5A, .disallowed), (0x16B5B, .valid), (0x16B62, .disallowed), (0x16B63, .valid),
  (0x16B78, .disallowed), (0x16B7D, .valid), (0x16B90, .disallowed), (0x16D40, .valid),
  (0x16D7A, .disallowed), (0x16E40, .shift 32), (0x16E60, .valid), (0x16E9B, .disallowed),
  (0x16EA0, .shift 27), (0x16EB9, .disallowed), (0x16EBB, .valid), (0x16ED4, .disallowed),
  (0x16F00, .valid), (0x16F4B, .disallowed), (0x16F4F, .valid), (0x16F88, .disallowed),
  (0x16F8F, .valid), (0x16FA0, .disallowed), (0x16FE0, .valid), (0x16FE5, .disallowed),
  (0x16FF0, .valid), (0x16FF7, .disallowed), (0x17000, .valid), (0x18CD6, .disallowed),
  (0x18CFF, .valid), (0x18D1F, .disallowed), (0x18D80, .valid), (0x18DF3, .disallowed),
  (0x1AFF0, .valid), (0x1AFF4, .disallowed), (0x1AFF5, .valid), (0x1AFFC, .disallowed),
  (0x1AFFD, .valid), (0x1AFFF, .disallowed), (0x1B000, .valid), (0x1B123, .disallowed),
  (0x1B132, .valid), (0x1B133, .disallowed), (0x1B150, .valid), (0x1B153, .disallowed),
  (0x1B155, .valid), (0x1B156, .disallowed), (0x1B164, .valid), (0x1B168, .disallowed),
  (0x1B170, .valid), (0x1B2FC, .disallowed), (0x1BC00, .valid), (0x1BC6B, .disallowed),
  (0x1BC70, .valid), (0x1BC7D, .disallowed), (0x1BC80, .valid), (0x1BC89, .disallowed),
  (0x1BC90, .valid), (0x1BC9A, .disallowed), (0x1BC9C, .valid), (0x1BCA0, .ignored),
  (0x1BCA4, .disallowed), (0x1CC00, .valid), (0x1CCD6, .shift (-117877)),
  (0x1CCF0, .shift (-117952)), (0x1CCFA, .valid), (0x1CCFD, .disallowed), (0x1CD00, .valid),
  (0x1CEB4, .disallowed), (0x1CEBA, .valid), (0x1CED1, .disallowed), (0x1CEE0, .valid),
  (0x1CEF1, .disallowed), (0x1CF00, .valid), (0x1CF2E, .disallowed), (0x1CF30, .valid),
  (0x1CF47, .disallowed), (0x1CF50, .valid), (0x1CFC4, .disallowed), (0x1D000, .valid),
  (0x1D0F6, .disallowed), (0x1D100, .valid), (0x1D127, .disallowed), (0x1D129, .valid),
  (0x1D15E, .text [0x1D157, 0x1D165]), (0x1D15F, .text [0x1D158, 0x1D165]),
  (0x1D160, .text [0x1D158, 0x1D165, 0x1D16E]), (0x1D161, .text [0x1D158, 0x1D165, 0x1D16F]),
  (0x1D162, .text [0x1D158, 0x1D165, 0x1D170]), (0x1D163, .text [0x1D158, 0x1D165, 0x1D171]),
  (0x1D164, .text [0x1D158, 0x1D165, 0x1D172]), (0x1D165, .valid), (0x1D173, .ignored),
  (0x1D17B, .valid), (0x1D1BB, .text [0x1D1B9, 0x1D165]), (0x1D1BC, .text [0x1D1BA, 0x1D165]),
  (0x1D1BD, .text [0x1D1B9, 0x1D165, 0x1D16E]), (0x1D1BE, .text [0x1D1BA, 0x1D165, 0x1D16E]),
  (0x1D1BF, .text [0x1D1B9, 0x1D165, 0x1D16F]), (0x1D1C0, .text [0x1D1BA, 0x1D165, 0x1D16F]),
  (0x1D1C1, .valid), (0x1D1EB, .disallowed), (0x1D200, .valid), (0x1D246, .disallowed),
  (0x1D2C0, .valid), (0x1D2D4, .disallowed), (0x1D2E0, .valid), (0x1D2F4, .disallowed),
  (0x1D300, .valid), (0x1D357, .disallowed), (0x1D360, .valid), (0x1D379, .disallowed),
  (0x1D400, .shift (-119711)), (0x1D41A, .shift (-119737))]

/-- The mapping rows from 0x1D434 on, part 9 of 11. -/
def mappingTable8 : Array (Nat × Action) := #[
  (0x1D434, .shift (-119763)), (0x1D44E, .shift (-119789)), (0x1D455, .disallowed),
  (0x1D456, .shift (-119789)), (0x1D468, .shift (-119815)), (0x1D482, .shift (-119841)),
  (0x1D49C, .shift (-119867)), (0x1D49D, .disallowed), (0x1D49E, .shift (-119867)),
  (0x1D4A0, .disallowed), (0x1D4A2, .shift (-119867)), (0x1D4A3, .disallowed),
  (0x1D4A5, .shift (-119867)), (0x1D4A7, .disallowed), (0x1D4A9, .shift (-119867)),
  (0x1D4AD, .disallowed), (0x1D4AE, .shift (-119867)), (0x1D4B6, .shift (-119893)),
  (0x1D4BA, .disallowed), (0x1D4BB, .shift (-119893)), (0x1D4BC, .disallowed),
  (0x1D4BD, .shift (-119893)), (0x1D4C4, .disallowed), (0x1D4C5, .shift (-119893)),
  (0x1D4D0, .shift (-119919)), (0x1D4EA, .shift (-119945)), (0x1D504, .shift (-119971)),
  (0x1D506, .disallowed), (0x1D507, .shift (-119971)), (0x1D50B, .disallowed),
  (0x1D50D, .shift (-119971)), (0x1D515, .disallowed), (0x1D516, .shift (-119971)),
  (0x1D51D, .disallowed), (0x1D51E, .shift (-119997)), (0x1D538, .shift (-120023)),
  (0x1D53A, .disallowed), (0x1D53B, .shift (-120023)), (0x1D53F, .disallowed),
  (0x1D540, .shift (-120023)), (0x1D545, .disallowed), (0x1D546, .shift (-120023)),
  (0x1D547, .disallowed), (0x1D54A, .shift (-120023)), (0x1D551, .disallowed),
  (0x1D552, .shift (-120049)), (0x1D56C, .shift (-120075)), (0x1D586, .shift (-120101)),
  (0x1D5A0, .shift (-120127)), (0x1D5BA, .shift (-120153)), (0x1D5D4, .shift (-120179)),
  (0x1D5EE, .shift (-120205)), (0x1D608, .shift (-120231)), (0x1D622, .shift (-120257)),
  (0x1D63C, .shift (-120283)), (0x1D656, .shift (-120309)), (0x1D670, .shift (-120335)),
  (0x1D68A, .shift (-120361)), (0x1D6A4, .shift (-120179)), (0x1D6A5, .shift (-119918)),
  (0x1D6A6, .disallowed), (0x1D6A8, .shift (-119543)), (0x1D6B9, .shift (-119553)),
  (0x1D6BA, .shift (-119543)), (0x1D6C1, .shift (-111802)), (0x1D6C2, .shift (-119569)),
  (0x1D6D3, .text [0x3C3]), (0x1D6D5, .shift (-119569)), (0x1D6DB, .shift (-111833)),
  (0x1D6DC, .shift (-119591)), (0x1D6DD, .shift (-119589)), (0x1D6DE, .shift (-119588)),
  (0x1D6DF, .shift (-119577)), (0x1D6E0, .shift (-119583)), (0x1D6E1, .shift (-119585)),
  (0x1D6E2, .shift (-119601)), (0x1D6F3, .shift (-119611)), (0x1D6F4, .shift (-119601)),
  (0x1D6FB, .shift (-111860)), (0x1D6FC, .shift (-119627)), (0x1D70D, .text [0x3C3]),
  (0x1D70F, .shift (-119627)), (0x1D715, .shift (-111891)), (0x1D716, .shift (-119649)),
  (0x1D717, .shift (-119647)), (0x1D718, .shift (-119646)), (0x1D719, .shift (-119635)),
  (0x1D71A, .shift (-119641)), (0x1D71B, .shift (-119643)), (0x1D71C, .shift (-119659)),
  (0x1D72D, .shift (-119669)), (0x1D72E, .shift (-119659)), (0x1D735, .shift (-111918)),
  (0x1D736, .shift (-119685)), (0x1D747, .text [0x3C3]), (0x1D749, .shift (-119685)),
  (0x1D74F, .shift (-111949)), (0x1D750, .shift (-119707)), (0x1D751, .shift (-119705)),
  (0x1D752, .shift (-119704)), (0x1D753, .shift (-119693)), (0x1D754, .shift (-119699)),
  (0x1D755, .shift (-119701)), (0x1D756, .shift (-119717)), (0x1D767, .shift (-119727)),
  (0x1D768, .shift (-119717)), (0x1D76F, .shift (-111976)), (0x1D770, .shift (-119743)),
  (0x1D781, .text [0x3C3]), (0x1D783, .shift (-119743)), (0x1D789, .shift (-112007)),
  (0x1D78A, .shift (-119765)), (0x1D78B, .shift (-119763)), (0x1D78C, .shift (-119762)),
  (0x1D78D, .shift (-119751)), (0x1D78E, .shift (-119757)), (0x1D78F, .shift (-119759)),
  (0x1D790, .shift (-119775)), (0x1D7A1, .shift (-119785)), (0x1D7A2, .shift (-119775)),
  (0x1D7A9, .shift (-112034)), (0x1D7AA, .shift (-119801)), (0x1D7BB, .text [0x3C3]),
  (0x1D7BD, .shift (-119801)), (0x1D7C3, .shift (-112065)), (0x1D7C4, .shift (-119823)),
  (0x1D7C5, .shift (-119821)), (0x1D7C6, .shift (-119820)), (0x1D7C7, .shift (-119809)),
  (0x1D7C8, .shift (-119815)), (0x1D7C9, .shift (-119817)), (0x1D7CA, .text [0x3DD]),
  (0x1D7CC, .disallowed), (0x1D7CE, .shift (-120734)), (0x1D7D8, .shift (-120744)),
  (0x1D7E2, .shift (-120754)), (0x1D7EC, .shift (-120764)), (0x1D7F6, .shift (-120774)),
  (0x1D800, .valid), (0x1DA8C, .disallowed), (0x1DA9B, .valid), (0x1DAA0, .disallowed),
  (0x1DAA1, .valid), (0x1DAB0, .disallowed), (0x1DF00, .valid), (0x1DF1F, .disallowed),
  (0x1DF25, .valid), (0x1DF2B, .disallowed), (0x1E000, .valid), (0x1E007, .disallowed),
  (0x1E008, .valid), (0x1E019, .disallowed), (0x1E01B, .valid), (0x1E022, .disallowed),
  (0x1E023, .valid), (0x1E025, .disallowed), (0x1E026, .valid), (0x1E02B, .disallowed),
  (0x1E030, .shift (-121856)), (0x1E039, .shift (-121855)), (0x1E03C, .shift (-121854)),
  (0x1E047, .shift (-121852)), (0x1E048, .shift (-121851)), (0x1E04A, .shift (-80321)),
  (0x1E04B, .shift (-121714)), (0x1E04C, .shift (-121846)), (0x1E04D, .shift (-121845)),
  (0x1E04E, .shift (-121701)), (0x1E04F, .shift (-121760)), (0x1E050, .shift (-121729)),
  (0x1E051, .shift (-121889)), (0x1E05A, .shift (-121888)), (0x1E05C, .shift (-121886)),
  (0x1E05E, .shift (-121885)), (0x1E05F, .shift (-121884)), (0x1E065, .shift (-121883)),
  (0x1E067, .shift (-121814)), (0x1E068, .shift (-121874)), (0x1E069, .shift (-121876)),
  (0x1E06A, .shift (-121867)), (0x1E06B, .shift (-121792)), (0x1E06C, .shift (-80411)),
  (0x1E06D, .shift (-121788)), (0x1E06E, .disallowed), (0x1E08F, .valid), (0x1E090, .disallowed),
  (0x1E100, .valid), (0x1E12D, .disallowed), (0x1E130, .valid), (0x1E13E, .disallowed),
  (0x1E140, .valid), (0x1E14A, .disallowed), (0x1E14E, .valid), (0x1E150, .disallowed),
  (0x1E290, .valid), (0x1E2AF, .disallowed), (0x1E2C0, .valid), (0x1E2FA, .disallowed),
  (0x1E2FF, .valid), (0x1E300, .disallowed), (0x1E4D0, .valid), (0x1E4FA, .disallowed),
  (0x1E5D0, .valid), (0x1E5FB, .disallowed), (0x1E5FF, .valid), (0x1E600, .disallowed),
  (0x1E6C0, .valid), (0x1E6DF, .disallowed), (0x1E6E0, .valid), (0x1E6F6, .disallowed),
  (0x1E6FE, .valid), (0x1E700, .disallowed), (0x1E7E0, .valid), (0x1E7E7, .disallowed),
  (0x1E7E8, .valid), (0x1E7EC, .disallowed), (0x1E7ED, .valid), (0x1E7EF, .disallowed),
  (0x1E7F0, .valid), (0x1E7FF, .disallowed), (0x1E800, .valid), (0x1E8C5, .disallowed),
  (0x1E8C7, .valid), (0x1E8D7, .disallowed), (0x1E900, .shift 34), (0x1E922, .valid),
  (0x1E94C, .disallowed), (0x1E950, .valid), (0x1E95A, .disallowed), (0x1E95E, .valid),
  (0x1E960, .disallowed), (0x1EC71, .valid), (0x1ECB5, .disallowed), (0x1ED01, .valid),
  (0x1ED3E, .disallowed), (0x1EE00, .shift (-124889)), (0x1EE02, .shift (-124886)),
  (0x1EE03, .shift (-124884)), (0x1EE04, .disallowed), (0x1EE05, .shift (-124861)),
  (0x1EE06, .shift (-124884)), (0x1EE07, .shift (-124890)), (0x1EE08, .shift (-124881)),
  (0x1EE09, .shift (-124863)), (0x1EE0A, .shift (-124871)), (0x1EE0E, .shift (-124891)),
  (0x1EE0F, .shift (-124886)), (0x1EE10, .shift (-124879)), (0x1EE11, .shift (-124892)),
  (0x1EE12, .shift (-124880)), (0x1EE13, .shift (-124898)), (0x1EE14, .shift (-124896)),
  (0x1EE15, .shift (-124907)), (0x1EE17, .shift (-124905)), (0x1EE18, .shift (-124904)),
  (0x1EE19, .shift (-124899)), (0x1EE1A, .shift (-124898)), (0x1EE1B, .shift (-124897)),
  (0x1EE1C, .shift (-124846)), (0x1EE1D, .shift (-124771)), (0x1EE1E, .shift (-124797)),
  (0x1EE1F, .shift (-124848)), (0x1EE20, .disallowed), (0x1EE21, .shift (-124921)),
  (0x1EE22, .shift (-124918)), (0x1EE23, .disallowed), (0x1EE24, .shift (-124893)),
  (0x1EE25, .disallowed), (0x1EE27, .shift (-124922)), (0x1EE28, .disallowed),
  (0x1EE29, .shift (-124895)), (0x1EE2A, .shift (-124903)), (0x1EE2E, .shift (-124923)),
  (0x1EE2F, .shift (-124918)), (0x1EE30, .shift (-124911)), (0x1EE31, .shift (-124924)),
  (0x1EE32, .shift (-124912)), (0x1EE33, .disallowed), (0x1EE34, .shift (-124928)),
  (0x1EE35, .shift (-124939)), (0x1EE37, .shift (-124937)), (0x1EE38, .disallowed),
  (0x1EE39, .shift (-124931)), (0x1EE3A, .disallowed), (0x1EE3B, .shift (-124929)),
  (0x1EE3C, .disallowed), (0x1EE42, .shift (-124950)), (0x1EE43, .disallowed),
  (0x1EE47, .shift (-124954)), (0x1EE48, .disallowed), (0x1EE49, .shift (-124927)),
  (0x1EE4A, .disallowed), (0x1EE4B, .shift (-124935)), (0x1EE4C, .disallowed),
  (0x1EE4D, .shift (-124935)), (0x1EE4E, .shift (-124955)), (0x1EE4F, .shift (-124950)),
  (0x1EE50, .disallowed), (0x1EE51, .shift (-124956)), (0x1EE52, .shift (-124944)),
  (0x1EE53, .disallowed), (0x1EE54, .shift (-124960)), (0x1EE55, .disallowed),
  (0x1EE57, .shift (-124969)), (0x1EE58, .disallowed), (0x1EE59, .shift (-124963)),
  (0x1EE5A, .disallowed), (0x1EE5B, .shift (-124961)), (0x1EE5C, .disallowed),
  (0x1EE5D, .shift (-124835)), (0x1EE5E, .disallowed), (0x1EE5F, .shift (-124912)),
  (0x1EE60, .disallowed), (0x1EE61, .shift (-124985)), (0x1EE62, .shift (-124982)),
  (0x1EE63, .disallowed), (0x1EE64, .shift (-124957)), (0x1EE65, .disallowed),
  (0x1EE67, .shift (-124986)), (0x1EE68, .shift (-124977)), (0x1EE69, .shift (-124959)),
  (0x1EE6A, .shift (-124967)), (0x1EE6B, .disallowed), (0x1EE6C, .shift (-124967)),
  (0x1EE6E, .shift (-124987)), (0x1EE6F, .shift (-124982)), (0x1EE70, .shift (-124975)),
  (0x1EE71, .shift (-124988)), (0x1EE72, .shift (-124976)), (0x1EE73, .disallowed),
  (0x1EE74, .shift (-124992)), (0x1EE75, .shift (-125003)), (0x1EE77, .shift (-125001)),
  (0x1EE78, .disallowed), (0x1EE79, .shift (-124995)), (0x1EE7A, .shift (-124994)),
  (0x1EE7B, .shift (-124993)), (0x1EE7C, .shift (-124942)), (0x1EE7D, .disallowed),
  (0x1EE7E, .shift (-124893)), (0x1EE7F, .disallowed), (0x1EE80, .shift (-125017)),
  (0x1EE82, .shift (-125014)), (0x1EE83, .shift (-125012)), (0x1EE84, .shift (-124989)),
  (0x1EE86, .shift (-125012)), (0x1EE87, .shift (-125018)), (0x1EE88, .shift (-125009)),
  (0x1EE89, .shift (-124991)), (0x1EE8A, .disallowed), (0x1EE8B, .shift (-124999)),
  (0x1EE8E, .shift (-125019)), (0x1EE8F, .shift (-125014)), (0x1EE90, .shift (-125007)),
  (0x1EE91, .shift (-125020)), (0x1EE92, .shift (-125008)), (0x1EE93, .shift (-125026)),
  (0x1EE94, .shift (-125024)), (0x1EE95, .shift (-125035)), (0x1EE97, .shift (-125033)),
  (0x1EE98, .shift (-125032)), (0x1EE99, .shift (-125027)), (0x1EE9A, .shift (-125026)),
  (0x1EE9B, .shift (-125025)), (0x1EE9C, .disallowed), (0x1EEA1, .shift (-125049)),
  (0x1EEA2, .shift (-125046)), (0x1EEA3, .shift (-125044)), (0x1EEA4, .disallowed),
  (0x1EEA5, .shift (-125021)), (0x1EEA6, .shift (-125044)), (0x1EEA7, .shift (-125050)),
  (0x1EEA8, .shift (-125041)), (0x1EEA9, .shift (-125023)), (0x1EEAA, .disallowed),
  (0x1EEAB, .shift (-125031)), (0x1EEAE, .shift (-125051)), (0x1EEAF, .shift (-125046)),
  (0x1EEB0, .shift (-125039)), (0x1EEB1, .shift (-125052)), (0x1EEB2, .shift (-125040)),
  (0x1EEB3, .shift (-125058)), (0x1EEB4, .shift (-125056)), (0x1EEB5, .shift (-125067)),
  (0x1EEB7, .shift (-125065)), (0x1EEB8, .shift (-125064)), (0x1EEB9, .shift (-125059)),
  (0x1EEBA, .shift (-125058)), (0x1EEBB, .shift (-125057)), (0x1EEBC, .disallowed),
  (0x1EEF0, .valid), (0x1EEF2, .disallowed), (0x1F000, .valid), (0x1F02C, .disallowed),
  (0x1F030, .valid), (0x1F094, .disallowed), (0x1F0A0, .valid), (0x1F0AF, .disallowed),
  (0x1F0B1, .valid), (0x1F0C0, .disallowed), (0x1F0C1, .valid), (0x1F0D0, .disallowed),
  (0x1F0D1, .valid), (0x1F0F6, .disallowed), (0x1F101, .text [0x30, 0x2C]),
  (0x1F102, .text [0x31, 0x2C]), (0x1F103, .text [0x32, 0x2C]), (0x1F104, .text [0x33, 0x2C]),
  (0x1F105, .text [0x34, 0x2C]), (0x1F106, .text [0x35, 0x2C]), (0x1F107, .text [0x36, 0x2C]),
  (0x1F108, .text [0x37, 0x2C]), (0x1F109, .text [0x38, 0x2C]), (0x1F10A, .text [0x39, 0x2C]),
  (0x1F10B, .valid), (0x1F110, .text [0x28, 0x61, 0x29]), (0x1F111, .text [0x28, 0x62, 0x29]),
  (0x1F112, .text [0x28, 0x63, 0x29]), (0x1F113, .text [0x28, 0x64, 0x29]),
  (0x1F114, .text [0x28, 0x65, 0x29]), (0x1F115, .text [0x28, 0x66, 0x29]),
  (0x1F116, .text [0x28, 0x67, 0x29]), (0x1F117, .text [0x28, 0x68, 0x29]),
  (0x1F118, .text [0x28, 0x69, 0x29]), (0x1F119, .text [0x28, 0x6A, 0x29]),
  (0x1F11A, .text [0x28, 0x6B, 0x29]), (0x1F11B, .text [0x28, 0x6C, 0x29]),
  (0x1F11C, .text [0x28, 0x6D, 0x29]), (0x1F11D, .text [0x28, 0x6E, 0x29]),
  (0x1F11E, .text [0x28, 0x6F, 0x29]), (0x1F11F, .text [0x28, 0x70, 0x29]),
  (0x1F120, .text [0x28, 0x71, 0x29]), (0x1F121, .text [0x28, 0x72, 0x29]),
  (0x1F122, .text [0x28, 0x73, 0x29]), (0x1F123, .text [0x28, 0x74, 0x29]),
  (0x1F124, .text [0x28, 0x75, 0x29]), (0x1F125, .text [0x28, 0x76, 0x29]),
  (0x1F126, .text [0x28, 0x77, 0x29]), (0x1F127, .text [0x28, 0x78, 0x29]),
  (0x1F128, .text [0x28, 0x79, 0x29]), (0x1F129, .text [0x28, 0x7A, 0x29]),
  (0x1F12A, .text [0x3014, 0x73, 0x3015]), (0x1F12B, .shift (-127176)),
  (0x1F12C, .shift (-127162)), (0x1F12D, .text [0x63, 0x64]), (0x1F12E, .text [0x77, 0x7A]),
  (0x1F12F, .valid), (0x1F130, .shift (-127183)), (0x1F14A, .text [0x68, 0x76]),
  (0x1F14B, .text [0x6D, 0x76]), (0x1F14C, .text [0x73, 0x64]), (0x1F14D, .text [0x73, 0x73]),
  (0x1F14E, .text [0x70, 0x70, 0x76]), (0x1F14F, .text [0x77, 0x63]), (0x1F150, .valid),
  (0x1F16A, .text [0x6D, 0x63]), (0x1F16B, .text [0x6D, 0x64]), (0x1F16C, .text [0x6D, 0x72]),
  (0x1F16D, .valid), (0x1F190, .text [0x64, 0x6A]), (0x1F191, .valid), (0x1F1AE, .disallowed),
  (0x1F1E6, .valid), (0x1F200, .text [0x307B, 0x304B]), (0x1F201, .text [0x30B3, 0x30B3]),
  (0x1F202, .shift (-115021)), (0x1F203, .disallowed), (0x1F210, .shift (-102341)),
  (0x1F211, .shift (-104122)), (0x1F212, .shift (-106054)), (0x1F213, .shift (-115020)),
  (0x1F214, .shift (-107400)), (0x1F215, .shift (-104699)), (0x1F216, .shift (-92211)),
  (0x1F217, .shift (-104686)), (0x1F218, .shift (-107380)), (0x1F219, .shift (-101369)),
  (0x1F21A, .shift (-98553)), (0x1F21B, .shift (-101506)), (0x1F21C, .shift (-106447)),
  (0x1F21D, .shift (-103057)), (0x1F21E, .shift (-106641)), (0x1F21F, .shift (-101487)),
  (0x1F220, .shift (-106499)), (0x1F221, .shift (-95455)), (0x1F222, .shift (-97539)),
  (0x1F223, .shift (-91514)), (0x1F224, .shift (-104756)), (0x1F225, .shift (-105964)),
  (0x1F226, .shift (-99090)), (0x1F227, .shift (-102290)), (0x1F228, .shift (-102099)),
  (0x1F229, .shift (-107561)), (0x1F22A, .shift (-107553)), (0x1F22B, .shift (-90593)),
  (0x1F22C, .shift (-103494)), (0x1F22D, .shift (-107520)), (0x1F22E, .shift (-106043)),
  (0x1F22F, .shift (-102184)), (0x1F230, .shift (-91328))]

/-- The mapping rows from 0x1F231 on, part 10 of 11. -/
def mappingTable9 : Array (Nat × Action) := #[
  (0x1F231, .shift (-102366)), (0x1F232, .shift (-96433)), (0x1F233, .shift (-96185)),
  (0x1F234, .shift (-106028)), (0x1F235, .shift (-99253)), (0x1F236, .shift (-101165)),
  (0x1F237, .shift (-101167)), (0x1F238, .shift (-97541)), (0x1F239, .shift (-106439)),
  (0x1F23A, .shift (-105604)), (0x1F23B, .shift (-90350)), (0x1F23C, .disallowed),
  (0x1F240, .text [0x3014, 0x672C, 0x3015]), (0x1F241, .text [0x3014, 0x4E09, 0x3015]),
  (0x1F242, .text [0x3014, 0x4E8C, 0x3015]), (0x1F243, .text [0x3014, 0x5B89, 0x3015]),
  (0x1F244, .text [0x3014, 0x70B9, 0x3015]), (0x1F245, .text [0x3014, 0x6253, 0x3015]),
  (0x1F246, .text [0x3014, 0x76D7, 0x3015]), (0x1F247, .text [0x3014, 0x52DD, 0x3015]),
  (0x1F248, .text [0x3014, 0x6557, 0x3015]), (0x1F249, .disallowed), (0x1F250, .shift (-103097)),
  (0x1F251, .shift (-106082)), (0x1F252, .disallowed), (0x1F260, .valid), (0x1F266, .disallowed),
  (0x1F300, .valid), (0x1F6D9, .disallowed), (0x1F6DC, .valid), (0x1F6ED, .disallowed),
  (0x1F6F0, .valid), (0x1F6FD, .disallowed), (0x1F700, .valid), (0x1F7DA, .disallowed),
  (0x1F7E0, .valid), (0x1F7EC, .disallowed), (0x1F7F0, .valid), (0x1F7F1, .disallowed),
  (0x1F800, .valid), (0x1F80C, .disallowed), (0x1F810, .valid), (0x1F848, .disallowed),
  (0x1F850, .valid), (0x1F85A, .disallowed), (0x1F860, .valid), (0x1F888, .disallowed),
  (0x1F890, .valid), (0x1F8AE, .disallowed), (0x1F8B0, .valid), (0x1F8BC, .disallowed),
  (0x1F8C0, .valid), (0x1F8C2, .disallowed), (0x1F8D0, .valid), (0x1F8D9, .disallowed),
  (0x1F900, .valid), (0x1FA58, .disallowed), (0x1FA60, .valid), (0x1FA6E, .disallowed),
  (0x1FA70, .valid), (0x1FA7D, .disallowed), (0x1FA80, .valid), (0x1FA8B, .disallowed),
  (0x1FA8E, .valid), (0x1FAC7, .disallowed), (0x1FAC8, .valid), (0x1FAC9, .disallowed),
  (0x1FACD, .valid), (0x1FADD, .disallowed), (0x1FADF, .valid), (0x1FAEB, .disallowed),
  (0x1FAEF, .valid), (0x1FAF9, .disallowed), (0x1FB00, .valid), (0x1FB93, .disallowed),
  (0x1FB94, .valid), (0x1FBF0, .shift (-129984)), (0x1FBFA, .valid), (0x1FBFB, .disallowed),
  (0x20000, .valid), (0x2A6E0, .disallowed), (0x2A700, .valid), (0x2B81E, .disallowed),
  (0x2B820, .valid), (0x2CEAE, .disallowed), (0x2CEB0, .valid), (0x2EBE1, .disallowed),
  (0x2EBF0, .valid), (0x2EE5E, .disallowed), (0x2F800, .shift (-174531)),
  (0x2F801, .shift (-174537)), (0x2F802, .shift (-174529)), (0x2F803, .shift (-63201)),
  (0x2F804, .shift (-174244)), (0x2F805, .shift (-174167)), (0x2F806, .shift (-174155)),
  (0x2F807, .shift (-174085)), (0x2F808, .shift (-173966)), (0x2F809, .shift (-173936)),
  (0x2F80A, .shift (-173859)), (0x2F80B, .shift (-173884)), (0x2F80C, .shift (-181102)),
  (0x2F80D, .shift (-61907)), (0x2F80E, .shift (-173761)), (0x2F80F, .shift (-173755)),
  (0x2F810, .shift (-173740)), (0x2F811, .shift (-173722)), (0x2F812, .shift (-62198)),
  (0x2F813, .shift (-181082)), (0x2F814, .shift (-173741)), (0x2F815, .shift (-173704)),
  (0x2F816, .shift (-62155)), (0x2F817, .shift (-173696)), (0x2F818, .shift (-173684)),
  (0x2F819, .shift (-174413)), (0x2F81A, .shift (-173678)), (0x2F81B, .shift (-173670)),
  (0x2F81C, .shift (-26173)), (0x2F81D, .shift (-173608)), (0x2F81E, .shift (-173595)),
  (0x2F81F, .shift (-181056)), (0x2F820, .shift (-173541)), (0x2F821, .shift (-173531)),
  (0x2F822, .shift (-173488)), (0x2F823, .shift (-173484)), (0x2F824, .shift (-181007)),
  (0x2F825, .shift (-173406)), (0x2F826, .shift (-173405)), (0x2F827, .shift (-173379)),
  (0x2F828, .shift (-173358)), (0x2F829, .shift (-173348)), (0x2F82B, .shift (-173332)),
  (0x2F82C, .shift (-173283)), (0x2F82D, .shift (-173276)), (0x2F82E, .shift (-173268)),
  (0x2F82F, .shift (-173244)), (0x2F830, .shift (-173235)), (0x2F831, .text [0x537F]),
  (0x2F834, .shift (-60936)), (0x2F835, .shift (-165829)), (0x2F836, .shift (-173164)),
  (0x2F837, .shift (-173144)), (0x2F838, .shift (-60629)), (0x2F839, .shift (-173134)),
  (0x2F83A, .shift (-173129)), (0x2F83B, .shift (-173109)), (0x2F83C, .shift (-172958)),
  (0x2F83D, .shift (-173061)), (0x2F83E, .shift (-173046)), (0x2F83F, .shift (-173015)),
  (0x2F840, .shift (-172958)), (0x2F841, .shift (-172875)), (0x2F842, .shift (-172850)),
  (0x2F843, .shift (-172784)), (0x2F844, .shift (-172769)), (0x2F845, .text [0x5584]),
  (0x2F847, .shift (-172718)), (0x2F848, .shift (-172701)), (0x2F849, .shift (-172694)),
  (0x2F84A, .shift (-172680)), (0x2F84B, .shift (-172341)), (0x2F84C, .shift (-172614)),
  (0x2F84D, .shift (-172342)), (0x2F84E, .shift (-172541)), (0x2F84F, .shift (-172507)),
  (0x2F850, .shift (-173641)), (0x2F851, .shift (-171875)), (0x2F852, .shift (-172164)),
  (0x2F853, .shift (-172127)), (0x2F854, .shift (-172103)), (0x2F855, .shift (-172234)),
  (0x2F856, .shift (-172068)), (0x2F857, .shift (-172070)), (0x2F858, .shift (-171948)),
  (0x2F859, .shift (-58229)), (0x2F85A, .shift (-171880)), (0x2F85B, .shift (-171876)),
  (0x2F85C, .shift (-171862)), (0x2F85D, .shift (-171843)), (0x2F85E, .shift (-171836)),
  (0x2F85F, .shift (-171773)), (0x2F860, .shift (-57784)), (0x2F861, .shift (-57719)),
  (0x2F862, .shift (-171638)), (0x2F863, .shift (-171592)), (0x2F864, .shift (-171581)),
  (0x2F865, .shift (-171661)), (0x2F866, .shift (-171520)), (0x2F867, .shift (-180601)),
  (0x2F868, .shift (-180588)), (0x2F869, .shift (-171361)), (0x2F86A, .text [0x5B3E]),
  (0x2F86C, .shift (-56996)), (0x2F86D, .shift (-171178)), (0x2F86E, .shift (-171158)),
  (0x2F86F, .shift (-171144)), (0x2F870, .shift (-171133)), (0x2F871, .shift (-56665)),
  (0x2F872, .shift (-171123)), (0x2F873, .shift (-171117)), (0x2F874, .shift (-170273)),
  (0x2F875, .shift (-171091)), (0x2F876, .shift (-180469)), (0x2F877, .shift (-171031)),
  (0x2F878, .shift (-171018)), (0x2F879, .shift (-170937)), (0x2F87A, .shift (-170989)),
  (0x2F87B, .shift (-55959)), (0x2F87C, .shift (-170809)), (0x2F87D, .shift (-55959)),
  (0x2F87E, .shift (-170768)), (0x2F87F, .shift (-170772)), (0x2F880, .shift (-170756)),
  (0x2F881, .shift (-170656)), (0x2F883, .shift (-180308)), (0x2F884, .shift (-170631)),
  (0x2F885, .shift (-170589)), (0x2F886, .shift (-170569)), (0x2F887, .shift (-170526)),
  (0x2F888, .shift (-180262)), (0x2F889, .shift (-55046)), (0x2F88A, .shift (-180238)),
  (0x2F88B, .shift (-170459)), (0x2F88C, .shift (-170457)), (0x2F88D, .shift (-170455)),
  (0x2F88E, .shift (-170436)), (0x2F88F, .shift (-21757)), (0x2F890, .shift (-170386)),
  (0x2F891, .text [0x22331]), (0x2F893, .shift (-161426)), (0x2F894, .text [0x5F22]),
  (0x2F896, .shift (-180175)), (0x2F897, .shift (-50655)), (0x2F898, .shift (-38590)),
  (0x2F899, .shift (-170295)), (0x2F89A, .shift (-170287)), (0x2F89B, .shift (-180152)),
  (0x2F89C, .shift (-170242)), (0x2F89D, .shift (-170192)), (0x2F89E, .shift (-170183)),
  (0x2F89F, .shift (-170150)), (0x2F8A0, .shift (-170015)), (0x2F8A1, .shift (-180071)),
  (0x2F8A2, .shift (-180102)), (0x2F8A3, .shift (-169999)), (0x2F8A4, .shift (-53712)),
  (0x2F8A5, .shift (-169950)), (0x2F8A6, .shift (-169822)), (0x2F8A7, .shift (-169819)),
  (0x2F8A8, .shift (-169818)), (0x2F8A9, .shift (-169821)), (0x2F8AA, .shift (-169776)),
  (0x2F8AB, .shift (-169757)), (0x2F8AC, .shift (-169722)), (0x2F8AD, .shift (-169737)),
  (0x2F8AE, .shift (-169727)), (0x2F8AF, .shift (-169681)), (0x2F8B0, .shift (-169662)),
  (0x2F8B1, .shift (-169659)), (0x2F8B2, .shift (-169634)), (0x2F8B3, .shift (-169624)),
  (0x2F8B4, .shift (-169559)), (0x2F8B5, .shift (-169476)), (0x2F8B6, .shift (-169442)),
  (0x2F8B7, .shift (-169319)), (0x2F8B8, .shift (-52652)), (0x2F8B9, .shift (-169340)),
  (0x2F8BA, .shift (-169406)), (0x2F8BB, .shift (-169299)), (0x2F8BC, .shift (-169273)),
  (0x2F8BD, .shift (-169177)), (0x2F8BE, .shift (-52429)), (0x2F8BF, .shift (-169117)),
  (0x2F8C0, .shift (-169211)), (0x2F8C1, .shift (-169240)), (0x2F8C2, .shift (-179860)),
  (0x2F8C3, .shift (-169050)), (0x2F8C4, .shift (-169030)), (0x2F8C5, .shift (-169000)),
  (0x2F8C6, .shift (-169039)), (0x2F8C7, .shift (-179803)), (0x2F8C8, .shift (-168825)),
  (0x2F8C9, .shift (-168797)), (0x2F8CA, .shift (-51392)), (0x2F8CB, .shift (-168680)),
  (0x2F8CC, .shift (-168404)), (0x2F8CD, .shift (-168580)), (0x2F8CE, .shift (-179637)),
  (0x2F8CF, .shift (-168510)), (0x2F8D0, .shift (-179656)), (0x2F8D1, .shift (-179693)),
  (0x2F8D2, .shift (-173888)), (0x2F8D3, .shift (-173886)), (0x2F8D4, .shift (-168404)),
  (0x2F8D5, .shift (-168505)), (0x2F8D6, .shift (-161833)), (0x2F8D7, .shift (-177406)),
  (0x2F8D8, .shift (-168385)), (0x2F8D9, .shift (-168382)), (0x2F8DA, .shift (-168377)),
  (0x2F8DB, .shift (-168317)), (0x2F8DC, .shift (-168329)), (0x2F8DD, .shift (-50458)),
  (0x2F8DE, .shift (-179605)), (0x2F8DF, .shift (-168165)), (0x2F8E0, .shift (-168283)),
  (0x2F8E1, .shift (-168079)), (0x2F8E2, .shift (-168029)), (0x2F8E3, .shift (-50294)),
  (0x2F8E4, .shift (-168022)), (0x2F8E5, .shift (-168134)), (0x2F8E6, .shift (-167890)),
  (0x2F8E7, .shift (-179530)), (0x2F8E8, .shift (-167846)), (0x2F8E9, .shift (-167750)),
  (0x2F8EA, .shift (-167680)), (0x2F8EB, .shift (-167491)), (0x2F8EC, .shift (-49737)),
  (0x2F8ED, .shift (-167442)), (0x2F8EE, .shift (-179414)), (0x2F8EF, .shift (-167374)),
  (0x2F8F0, .shift (-49225)), (0x2F8F1, .shift (-167325)), (0x2F8F2, .shift (-179364)),
  (0x2F8F3, .shift (-167297)), (0x2F8F4, .shift (-167253)), (0x2F8F5, .shift (-167227)),
  (0x2F8F7, .shift (-48746)), (0x2F8F8, .shift (-56301)), (0x2F8F9, .shift (-48639)),
  (0x2F8FA, .shift (-167084)), (0x2F8FB, .shift (-48191)), (0x2F8FC, .shift (-166973)),
  (0x2F8FD, .shift (-166960)), (0x2F8FE, .shift (-167063)), (0x2F8FF, .shift (-166889)),
  (0x2F900, .shift (-166850)), (0x2F901, .shift (-166794)), (0x2F902, .shift (-166849)),
  (0x2F903, .shift (-166810)), (0x2F904, .shift (-166796)), (0x2F905, .shift (-166784)),
  (0x2F906, .shift (-48104)), (0x2F907, .shift (-166867)), (0x2F908, .shift (-166617)),
  (0x2F909, .shift (-166555)), (0x2F90A, .shift (-179159)), (0x2F90B, .shift (-166464)),
  (0x2F90C, .shift (-166469)), (0x2F90D, .shift (-47676)), (0x2F90E, .shift (-166677)),
  (0x2F90F, .shift (-166305)), (0x2F910, .shift (-47538)), (0x2F911, .shift (-47491)),
  (0x2F912, .shift (-166220)), (0x2F913, .shift (-166106)), (0x2F914, .shift (-166134)),
  (0x2F915, .shift (-166138)), (0x2F916, .shift (-179072)), (0x2F917, .shift (-166093)),
  (0x2F918, .shift (-166043)), (0x2F919, .shift (-166050)), (0x2F91A, .shift (-165997)),
  (0x2F91B, .shift (-62454)), (0x2F91C, .shift (-165847)), (0x2F91D, .shift (-46778)),
  (0x2F91E, .shift (-165762)), (0x2F91F, .shift (-46452)), (0x2F920, .shift (-165624)),
  (0x2F921, .shift (-165612)), (0x2F922, .shift (-165586)), (0x2F923, .shift (-45851)),
  (0x2F924, .shift (-165540)), (0x2F925, .shift (-165520)), (0x2F926, .shift (-45553)),
  (0x2F927, .shift (-45331)), (0x2F928, .shift (-165294)), (0x2F929, .shift (-165278)),
  (0x2F92A, .shift (-178814)), (0x2F92B, .shift (-165254)), (0x2F92C, .text [0x3EB8]),
  (0x2F92E, .shift (-165095)), (0x2F92F, .shift (-165075)), (0x2F930, .shift (-165055)),
  (0x2F931, .shift (-165036)), (0x2F932, .shift (-164968)), (0x2F933, .shift (-178712)),
  (0x2F934, .shift (-164880)), (0x2F935, .shift (-44287)), (0x2F936, .shift (-164856)),
  (0x2F937, .shift (-44197)), (0x2F938, .shift (-164808)), (0x2F939, .shift (-55194)),
  (0x2F93A, .shift (-164650)), (0x2F93B, .shift (-43418)), (0x2F93C, .shift (-43396)),
  (0x2F93D, .shift (-43257)), (0x2F93E, .shift (-178498)), (0x2F93F, .shift (-178487)),
  (0x2F940, .shift (-164428)), (0x2F941, .shift (-43086)), (0x2F942, .shift (-43088)),
  (0x2F943, .shift (-43050)), (0x2F944, .shift (-43025)), (0x2F945, .shift (-164391)),
  (0x2F946, .text [0x771F]), (0x2F948, .shift (-164350)), (0x2F949, .shift (-178448)),
  (0x2F94A, .shift (-164287)), (0x2F94B, .shift (-178437)), (0x2F94C, .shift (-178358)),
  (0x2F94D, .shift (-42288)), (0x2F94E, .shift (-164096)), (0x2F94F, .shift (-164035)),
  (0x2F950, .shift (-163972)), (0x2F951, .shift (-178286)), (0x2F952, .shift (-41772)),
  (0x2F953, .shift (-163837)), (0x2F954, .shift (-41658)), (0x2F955, .shift (-41616)),
  (0x2F956, .shift (-163783)), (0x2F957, .shift (-163692)), (0x2F958, .shift (-178217)),
  (0x2F959, .shift (-163609)), (0x2F95A, .shift (-163600)), (0x2F95B, .shift (-163596)),
  (0x2F95C, .shift (-40928)), (0x2F95D, .text [0x25AA7]), (0x2F95F, .shift (-163441)),
  (0x2F960, .shift (-178014)), (0x2F961, .shift (-40374)), (0x2F962, .shift (-163228)),
  (0x2F963, .shift (-163226)), (0x2F964, .shift (-177981)), (0x2F965, .shift (-40165)),
  (0x2F966, .shift (-162964)), (0x2F967, .shift (-177863)), (0x2F968, .shift (-162944)),
  (0x2F969, .shift (-162950)), (0x2F96A, .shift (-162922)), (0x2F96B, .shift (-39397)),
  (0x2F96C, .shift (-162825)), (0x2F96D, .shift (-177772)), (0x2F96E, .shift (-162727)),
  (0x2F96F, .shift (-162669)), (0x2F970, .shift (-162603)), (0x2F971, .shift (-177725)),
  (0x2F972, .shift (-38730)), (0x2F973, .shift (-38700)), (0x2F974, .shift (-177691)),
  (0x2F975, .shift (-38556)), (0x2F976, .shift (-162300)), (0x2F977, .shift (-38457)),
  (0x2F978, .shift (-162275)), (0x2F979, .shift (-162175)), (0x2F97A, .shift (-162165)),
  (0x2F97B, .shift (-38049)), (0x2F97C, .shift (-37977)), (0x2F97D, .shift (-162077)),
  (0x2F97E, .shift (-37846)), (0x2F97F, .shift (-162063)), (0x2F980, .shift (-50721)),
  (0x2F981, .shift (-177580)), (0x2F982, .shift (-162000)), (0x2F983, .shift (-161920)),
  (0x2F984, .shift (-177529)), (0x2F985, .shift (-161863)), (0x2F986, .shift (-171729)),
  (0x2F987, .shift (-37344)), (0x2F988, .shift (-37331)), (0x2F989, .shift (-50678)),
  (0x2F98A, .shift (-50670)), (0x2F98B, .shift (-161674)), (0x2F98C, .shift (-161672)),
  (0x2F98D, .shift (-158191)), (0x2F98E, .shift (-177443)), (0x2F98F, .shift (-161534)),
  (0x2F990, .shift (-161541)), (0x2F991, .shift (-161524)), (0x2F992, .shift (-173791)),
  (0x2F993, .shift (-161506)), (0x2F994, .shift (-161505)), (0x2F995, .shift (-161496)),
  (0x2F996, .shift (-161456)), (0x2F997, .shift (-36443)), (0x2F998, .shift (-161459)),
  (0x2F999, .shift (-161404)), (0x2F99A, .shift (-161335)), (0x2F99B, .shift (-161262)),
  (0x2F99C, .shift (-161401)), (0x2F99D, .shift (-161248)), (0x2F99E, .shift (-161207)),
  (0x2F99F, .shift (-161096)), (0x2F9A0, .shift (-161357)), (0x2F9A1, .shift (-161239)),
  (0x2F9A2, .shift (-161238)), (0x2F9A3, .shift (-161223)), (0x2F9A4, .shift (-36206)),
  (0x2F9A5, .shift (-35898)), (0x2F9A6, .shift (-36049))]

/-- The mapping rows from 0x2F9A7 on, part 11 of 11. -/
def mappingTable10 : Array (Nat × Action) := #[
  (0x2F9A7, .shift (-177276)), (0x2F9A8, .shift (-160951)), (0x2F9A9, .shift (-160950)),
  (0x2F9AA, .shift (-160916)), (0x2F9AB, .shift (-34273)), (0x2F9AC, .shift (-160840)),
  (0x2F9AD, .shift (-35457)), (0x2F9AE, .shift (-177233)), (0x2F9AF, .shift (-177230)),
  (0x2F9B0, .shift (-35327)), (0x2F9B1, .shift (-35039)), (0x2F9B2, .shift (-177223)),
  (0x2F9B3, .shift (-160611)), (0x2F9B4, .shift (-160600)), (0x2F9B5, .shift (-160590)),
  (0x2F9B6, .shift (-160589)), (0x2F9B7, .shift (-160526)), (0x2F9B8, .shift (-160560)),
  (0x2F9B9, .shift (-160427)), (0x2F9BA, .shift (-160472)), (0x2F9BB, .shift (-160322)),
  (0x2F9BC, .shift (-160404)), (0x2F9BD, .shift (-160338)), (0x2F9BE, .shift (-160312)),
  (0x2F9BF, .shift (-177128)), (0x2F9C0, .shift (-160223)), (0x2F9C1, .shift (-160192)),
  (0x2F9C2, .shift (-177097)), (0x2F9C3, .shift (-160099)), (0x2F9C4, .shift (-160097)),
  (0x2F9C5, .shift (-33630)), (0x2F9C6, .shift (-159983)), (0x2F9C7, .shift (-159977)),
  (0x2F9C8, .shift (-177043)), (0x2F9C9, .shift (-159951)), (0x2F9CA, .shift (-181519)),
  (0x2F9CB, .shift (-33053)), (0x2F9CC, .shift (-32870)), (0x2F9CD, .shift (-176911)),
  (0x2F9CE, .shift (-176903)), (0x2F9CF, .shift (-159535)), (0x2F9D0, .shift (-159459)),
  (0x2F9D1, .shift (-159303)), (0x2F9D2, .shift (-159101)), (0x2F9D3, .shift (-32043)),
  (0x2F9D4, .shift (-159017)), (0x2F9D5, .shift (-158996)), (0x2F9D6, .shift (-158907)),
  (0x2F9D7, .shift (-158816)), (0x2F9D8, .shift (-31401)), (0x2F9D9, .shift (-61909)),
  (0x2F9DA, .shift (-158735)), (0x2F9DB, .shift (-158751)), (0x2F9DC, .shift (-158700)),
  (0x2F9DD, .shift (-61695)), (0x2F9DE, .shift (-158474)), (0x2F9DF, .shift (-158375)),
  (0x2F9E0, .shift (-29710)), (0x2F9E1, .shift (-29684)), (0x2F9E2, .shift (-158030)),
  (0x2F9E3, .shift (-157938)), (0x2F9E4, .shift (-157907)), (0x2F9E5, .shift (-29367)),
  (0x2F9E6, .shift (-157899)), (0x2F9E7, .shift (-157615)), (0x2F9E8, .shift (-157457)),
  (0x2F9EA, .shift (-157550)), (0x2F9EB, .shift (-157170)), (0x2F9EC, .shift (-157143)),
  (0x2F9ED, .shift (-28147)), (0x2F9EE, .shift (-156771)), (0x2F9EF, .shift (-176218)),
  (0x2F9F0, .shift (-156729)), (0x2F9F1, .shift (-27770)), (0x2F9F2, .shift (-176140)),
  (0x2F9F3, .shift (-156464)), (0x2F9F4, .shift (-171074)), (0x2F9F5, .shift (-156370)),
  (0x2F9F6, .shift (-26801)), (0x2F9F7, .shift (-26589)), (0x2F9F8, .shift (-176010)),
  (0x2F9F9, .shift (-176003)), (0x2F9FA, .shift (-156186)), (0x2F9FB, .shift (-26097)),
  (0x2F9FC, .shift (-175946)), (0x2F9FD, .shift (-25959)), (0x2F9FE, .text [0x980B]),
  (0x2FA00, .shift (-156119)), (0x2FA01, .shift (-25675)), (0x2FA02, .shift (-155936)),
  (0x2FA03, .shift (-175824)), (0x2FA04, .shift (-155867)), (0x2FA05, .shift (-155742)),
  (0x2FA06, .shift (-155716)), (0x2FA07, .shift (-155657)), (0x2FA08, .shift (-175674)),
  (0x2FA09, .shift (-24281)), (0x2FA0A, .shift (-155384)), (0x2FA0B, .shift (-155083)),
  (0x2FA0C, .shift (-154895)), (0x2FA0D, .shift (-175423)), (0x2FA0E, .shift (-175393)),
  (0x2FA0F, .shift (-154792)), (0x2FA10, .shift (-22850)), (0x2FA11, .shift (-175385)),
  (0x2FA12, .shift (-22797)), (0x2FA13, .shift (-22533)), (0x2FA14, .shift (-22403)),
  (0x2FA15, .shift (-154458)), (0x2FA16, .shift (-175296)), (0x2FA17, .shift (-154398)),
  (0x2FA18, .shift (-154394)), (0x2FA19, .shift (-154388)), (0x2FA1A, .shift (-154379)),
  (0x2FA1B, .shift (-154373)), (0x2FA1C, .shift (-154337)), (0x2FA1D, .shift (-21533)),
  (0x2FA1E, .disallowed), (0x30000, .valid), (0x3134B, .disallowed), (0x31350, .valid),
  (0x3347A, .disallowed), (0xE0100, .ignored), (0xE01F0, .disallowed)]

/-- The mapping table: each row's action holds from its first code point to the next row's. -/
def mappingTable : Chunked (Nat × Action) :=
  #[mappingTable0, mappingTable1, mappingTable2, mappingTable3, mappingTable4, mappingTable5, mappingTable6, mappingTable7, mappingTable8, mappingTable9, mappingTable10]

/-- What the mapping does with a code point: the action of its row, and where its row
starts. -/
def rowOf (n : Nat) : Nat × Action :=
  (mappingTable.lastAtMost (·.1) n).getD (0, .disallowed)

/-- How a code point is mapped: dropped, kept, replaced by code points, or refused. -/
inductive Mapped where
  | keep
  | drop
  | replace (codePoints : List Nat)
  | refuse
  deriving DecidableEq, Repr

/-- What the mapping makes of a code point. Deviation characters are kept. -/
def mapCodePoint (n : Nat) : Mapped :=
  match rowOf n with
  | (_, .valid) | (_, .deviation) => .keep
  | (_, .ignored) => .drop
  | (_, .disallowed) => .refuse
  | (_, .shift delta) => .replace [(Int.ofNat n + delta).toNat]
  | (start, .pairs) => if (n - start) % 2 = 0 then .replace [n + 1] else .keep
  | (_, .text cs) => .replace cs

/-- Whether a code point may stand in a checked label: valid, or a deviation character. -/
def isValidInLabel (n : Nat) : Bool :=
  mapCodePoint n == .keep

end PartCache.Idna
