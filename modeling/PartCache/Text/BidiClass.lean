import PartCache.Text.Table

/-!
# Bidirectional classes

Every code point has a bidirectional class that says how it takes part in
laying out text of mixed direction: strong left-to-right (`l`), strong
right-to-left (`r`, and `al` for Arabic letters), numbers (`en`, `an`) and their
separators and terminators (`es`, `cs`, `et`), marks that take their direction
from their base (`nsm`), neutrals and the explicit formatting characters.  The
right-to-left rule for domain names is stated in these classes.

The table holds the classes of Unicode 15.0, defaults for unassigned code points
included, as sorted keys each holding up to the next.
-/

namespace PartCache.Text

set_option autoImplicit false

/-- The bidirectional classes. -/
inductive BidiClass where
  | l | r | al
  | en | es | et | an | cs
  | nsm | bn | b | s | ws | on
  | lre | lro | rle | rlo | pdf | lri | rli | fsi | pdi
  deriving DecidableEq, Repr, Inhabited

/-- The classes from 0x0 on, part 1 of 3. -/
def bidiClassTable0 : Array (Nat × BidiClass) := #[
  (0x0, .bn), (0x9, .s), (0xA, .b), (0xB, .s), (0xC, .ws), (0xD, .b), (0xE, .bn), (0x1C, .b),
  (0x1F, .s), (0x20, .ws), (0x21, .on), (0x23, .et), (0x26, .on), (0x2B, .es), (0x2C, .cs),
  (0x2D, .es), (0x2E, .cs), (0x30, .en), (0x3A, .cs), (0x3B, .on), (0x41, .l), (0x5B, .on),
  (0x61, .l), (0x7B, .on), (0x7F, .bn), (0x85, .b), (0x86, .bn), (0xA0, .cs), (0xA1, .on),
  (0xA2, .et), (0xA6, .on), (0xAA, .l), (0xAB, .on), (0xAD, .bn), (0xAE, .on), (0xB0, .et),
  (0xB2, .en), (0xB4, .on), (0xB5, .l), (0xB6, .on), (0xB9, .en), (0xBA, .l), (0xBB, .on),
  (0xC0, .l), (0xD7, .on), (0xD8, .l), (0xF7, .on), (0xF8, .l), (0x2B9, .on), (0x2BB, .l),
  (0x2C2, .on), (0x2D0, .l), (0x2D2, .on), (0x2E0, .l), (0x2E5, .on), (0x2EE, .l), (0x2EF, .on),
  (0x300, .nsm), (0x370, .l), (0x374, .on), (0x376, .l), (0x37E, .on), (0x37F, .l), (0x384, .on),
  (0x386, .l), (0x387, .on), (0x388, .l), (0x3F6, .on), (0x3F7, .l), (0x483, .nsm), (0x48A, .l),
  (0x58A, .on), (0x58B, .l), (0x58D, .on), (0x58F, .et), (0x590, .r), (0x591, .nsm), (0x5BE, .r),
  (0x5BF, .nsm), (0x5C0, .r), (0x5C1, .nsm), (0x5C3, .r), (0x5C4, .nsm), (0x5C6, .r),
  (0x5C7, .nsm), (0x5C8, .r), (0x600, .an), (0x606, .on), (0x608, .al), (0x609, .et),
  (0x60B, .al), (0x60C, .cs), (0x60D, .al), (0x60E, .on), (0x610, .nsm), (0x61B, .al),
  (0x64B, .nsm), (0x660, .an), (0x66A, .et), (0x66B, .an), (0x66D, .al), (0x670, .nsm),
  (0x671, .al), (0x6D6, .nsm), (0x6DD, .an), (0x6DE, .on), (0x6DF, .nsm), (0x6E5, .al),
  (0x6E7, .nsm), (0x6E9, .on), (0x6EA, .nsm), (0x6EE, .al), (0x6F0, .en), (0x6FA, .al),
  (0x711, .nsm), (0x712, .al), (0x730, .nsm), (0x74B, .al), (0x7A6, .nsm), (0x7B1, .al),
  (0x7C0, .r), (0x7EB, .nsm), (0x7F4, .r), (0x7F6, .on), (0x7FA, .r), (0x7FD, .nsm), (0x7FE, .r),
  (0x816, .nsm), (0x81A, .r), (0x81B, .nsm), (0x824, .r), (0x825, .nsm), (0x828, .r),
  (0x829, .nsm), (0x82E, .r), (0x859, .nsm), (0x85C, .r), (0x860, .al), (0x890, .an),
  (0x892, .al), (0x898, .nsm), (0x8A0, .al), (0x8CA, .nsm), (0x8E2, .an), (0x8E3, .nsm),
  (0x903, .l), (0x93A, .nsm), (0x93B, .l), (0x93C, .nsm), (0x93D, .l), (0x941, .nsm),
  (0x949, .l), (0x94D, .nsm), (0x94E, .l), (0x951, .nsm), (0x958, .l), (0x962, .nsm),
  (0x964, .l), (0x981, .nsm), (0x982, .l), (0x9BC, .nsm), (0x9BD, .l), (0x9C1, .nsm),
  (0x9C5, .l), (0x9CD, .nsm), (0x9CE, .l), (0x9E2, .nsm), (0x9E4, .l), (0x9F2, .et), (0x9F4, .l),
  (0x9FB, .et), (0x9FC, .l), (0x9FE, .nsm), (0x9FF, .l), (0xA01, .nsm), (0xA03, .l),
  (0xA3C, .nsm), (0xA3D, .l), (0xA41, .nsm), (0xA43, .l), (0xA47, .nsm), (0xA49, .l),
  (0xA4B, .nsm), (0xA4E, .l), (0xA51, .nsm), (0xA52, .l), (0xA70, .nsm), (0xA72, .l),
  (0xA75, .nsm), (0xA76, .l), (0xA81, .nsm), (0xA83, .l), (0xABC, .nsm), (0xABD, .l),
  (0xAC1, .nsm), (0xAC6, .l), (0xAC7, .nsm), (0xAC9, .l), (0xACD, .nsm), (0xACE, .l),
  (0xAE2, .nsm), (0xAE4, .l), (0xAF1, .et), (0xAF2, .l), (0xAFA, .nsm), (0xB00, .l),
  (0xB01, .nsm), (0xB02, .l), (0xB3C, .nsm), (0xB3D, .l), (0xB3F, .nsm), (0xB40, .l),
  (0xB41, .nsm), (0xB45, .l), (0xB4D, .nsm), (0xB4E, .l), (0xB55, .nsm), (0xB57, .l),
  (0xB62, .nsm), (0xB64, .l), (0xB82, .nsm), (0xB83, .l), (0xBC0, .nsm), (0xBC1, .l),
  (0xBCD, .nsm), (0xBCE, .l), (0xBF3, .on), (0xBF9, .et), (0xBFA, .on), (0xBFB, .l),
  (0xC00, .nsm), (0xC01, .l), (0xC04, .nsm), (0xC05, .l), (0xC3C, .nsm), (0xC3D, .l),
  (0xC3E, .nsm), (0xC41, .l), (0xC46, .nsm), (0xC49, .l), (0xC4A, .nsm), (0xC4E, .l),
  (0xC55, .nsm), (0xC57, .l), (0xC62, .nsm), (0xC64, .l), (0xC78, .on), (0xC7F, .l),
  (0xC81, .nsm), (0xC82, .l), (0xCBC, .nsm), (0xCBD, .l), (0xCCC, .nsm), (0xCCE, .l),
  (0xCE2, .nsm), (0xCE4, .l), (0xD00, .nsm), (0xD02, .l), (0xD3B, .nsm), (0xD3D, .l),
  (0xD41, .nsm), (0xD45, .l), (0xD4D, .nsm), (0xD4E, .l), (0xD62, .nsm), (0xD64, .l),
  (0xD81, .nsm), (0xD82, .l), (0xDCA, .nsm), (0xDCB, .l), (0xDD2, .nsm), (0xDD5, .l),
  (0xDD6, .nsm), (0xDD7, .l), (0xE31, .nsm), (0xE32, .l), (0xE34, .nsm), (0xE3B, .l),
  (0xE3F, .et), (0xE40, .l), (0xE47, .nsm), (0xE4F, .l), (0xEB1, .nsm), (0xEB2, .l),
  (0xEB4, .nsm), (0xEBD, .l), (0xEC8, .nsm), (0xECF, .l), (0xF18, .nsm), (0xF1A, .l),
  (0xF35, .nsm), (0xF36, .l), (0xF37, .nsm), (0xF38, .l), (0xF39, .nsm), (0xF3A, .on),
  (0xF3E, .l), (0xF71, .nsm), (0xF7F, .l), (0xF80, .nsm), (0xF85, .l), (0xF86, .nsm),
  (0xF88, .l), (0xF8D, .nsm), (0xF98, .l), (0xF99, .nsm), (0xFBD, .l), (0xFC6, .nsm),
  (0xFC7, .l), (0x102D, .nsm), (0x1031, .l), (0x1032, .nsm), (0x1038, .l), (0x1039, .nsm),
  (0x103B, .l), (0x103D, .nsm), (0x103F, .l), (0x1058, .nsm), (0x105A, .l), (0x105E, .nsm),
  (0x1061, .l), (0x1071, .nsm), (0x1075, .l), (0x1082, .nsm), (0x1083, .l), (0x1085, .nsm),
  (0x1087, .l), (0x108D, .nsm), (0x108E, .l), (0x109D, .nsm), (0x109E, .l), (0x135D, .nsm),
  (0x1360, .l), (0x1390, .on), (0x139A, .l), (0x1400, .on), (0x1401, .l), (0x1680, .ws),
  (0x1681, .l), (0x169B, .on), (0x169D, .l), (0x1712, .nsm), (0x1715, .l), (0x1732, .nsm),
  (0x1734, .l), (0x1752, .nsm), (0x1754, .l), (0x1772, .nsm), (0x1774, .l), (0x17B4, .nsm),
  (0x17B6, .l), (0x17B7, .nsm), (0x17BE, .l), (0x17C6, .nsm), (0x17C7, .l), (0x17C9, .nsm),
  (0x17D4, .l), (0x17DB, .et), (0x17DC, .l), (0x17DD, .nsm), (0x17DE, .l), (0x17F0, .on),
  (0x17FA, .l), (0x1800, .on), (0x180B, .nsm), (0x180E, .bn), (0x180F, .nsm), (0x1810, .l),
  (0x1885, .nsm), (0x1887, .l), (0x18A9, .nsm), (0x18AA, .l), (0x1920, .nsm), (0x1923, .l),
  (0x1927, .nsm), (0x1929, .l), (0x1932, .nsm), (0x1933, .l), (0x1939, .nsm), (0x193C, .l),
  (0x1940, .on), (0x1941, .l), (0x1944, .on), (0x1946, .l), (0x19DE, .on), (0x1A00, .l),
  (0x1A17, .nsm), (0x1A19, .l), (0x1A1B, .nsm), (0x1A1C, .l), (0x1A56, .nsm), (0x1A57, .l),
  (0x1A58, .nsm), (0x1A5F, .l), (0x1A60, .nsm), (0x1A61, .l), (0x1A62, .nsm), (0x1A63, .l),
  (0x1A65, .nsm), (0x1A6D, .l), (0x1A73, .nsm), (0x1A7D, .l), (0x1A7F, .nsm), (0x1A80, .l),
  (0x1AB0, .nsm), (0x1ACF, .l), (0x1B00, .nsm), (0x1B04, .l), (0x1B34, .nsm), (0x1B35, .l),
  (0x1B36, .nsm), (0x1B3B, .l), (0x1B3C, .nsm), (0x1B3D, .l), (0x1B42, .nsm), (0x1B43, .l),
  (0x1B6B, .nsm), (0x1B74, .l), (0x1B80, .nsm), (0x1B82, .l), (0x1BA2, .nsm), (0x1BA6, .l),
  (0x1BA8, .nsm), (0x1BAA, .l), (0x1BAB, .nsm), (0x1BAE, .l), (0x1BE6, .nsm), (0x1BE7, .l),
  (0x1BE8, .nsm), (0x1BEA, .l), (0x1BED, .nsm), (0x1BEE, .l), (0x1BEF, .nsm), (0x1BF2, .l),
  (0x1C2C, .nsm), (0x1C34, .l), (0x1C36, .nsm), (0x1C38, .l), (0x1CD0, .nsm), (0x1CD3, .l),
  (0x1CD4, .nsm), (0x1CE1, .l), (0x1CE2, .nsm), (0x1CE9, .l), (0x1CED, .nsm), (0x1CEE, .l),
  (0x1CF4, .nsm), (0x1CF5, .l), (0x1CF8, .nsm), (0x1CFA, .l), (0x1DC0, .nsm), (0x1E00, .l),
  (0x1FBD, .on), (0x1FBE, .l), (0x1FBF, .on), (0x1FC2, .l), (0x1FCD, .on), (0x1FD0, .l),
  (0x1FDD, .on), (0x1FE0, .l), (0x1FED, .on), (0x1FF0, .l), (0x1FFD, .on), (0x1FFF, .l),
  (0x2000, .ws), (0x200B, .bn), (0x200E, .l), (0x200F, .r), (0x2010, .on), (0x2028, .ws),
  (0x2029, .b), (0x202A, .lre), (0x202B, .rle), (0x202C, .pdf), (0x202D, .lro), (0x202E, .rlo),
  (0x202F, .cs), (0x2030, .et), (0x2035, .on), (0x2044, .cs), (0x2045, .on), (0x205F, .ws),
  (0x2060, .bn), (0x2066, .lri), (0x2067, .rli), (0x2068, .fsi), (0x2069, .pdi), (0x206A, .bn),
  (0x2070, .en), (0x2071, .l), (0x2074, .en), (0x207A, .es), (0x207C, .on), (0x207F, .l),
  (0x2080, .en), (0x208A, .es), (0x208C, .on), (0x208F, .l), (0x20A0, .et), (0x20D0, .nsm)]

/-- The classes from 0x20F1 on, part 2 of 3. -/
def bidiClassTable1 : Array (Nat × BidiClass) := #[
  (0x20F1, .l), (0x2100, .on), (0x2102, .l), (0x2103, .on), (0x2107, .l), (0x2108, .on),
  (0x210A, .l), (0x2114, .on), (0x2115, .l), (0x2116, .on), (0x2119, .l), (0x211E, .on),
  (0x2124, .l), (0x2125, .on), (0x2126, .l), (0x2127, .on), (0x2128, .l), (0x2129, .on),
  (0x212A, .l), (0x212E, .et), (0x212F, .l), (0x213A, .on), (0x213C, .l), (0x2140, .on),
  (0x2145, .l), (0x214A, .on), (0x214E, .l), (0x2150, .on), (0x2160, .l), (0x2189, .on),
  (0x218C, .l), (0x2190, .on), (0x2212, .es), (0x2213, .et), (0x2214, .on), (0x2336, .l),
  (0x237B, .on), (0x2395, .l), (0x2396, .on), (0x2427, .l), (0x2440, .on), (0x244B, .l),
  (0x2460, .on), (0x2488, .en), (0x249C, .l), (0x24EA, .on), (0x26AC, .l), (0x26AD, .on),
  (0x2800, .l), (0x2900, .on), (0x2B74, .l), (0x2B76, .on), (0x2B96, .l), (0x2B97, .on),
  (0x2C00, .l), (0x2CE5, .on), (0x2CEB, .l), (0x2CEF, .nsm), (0x2CF2, .l), (0x2CF9, .on),
  (0x2D00, .l), (0x2D7F, .nsm), (0x2D80, .l), (0x2DE0, .nsm), (0x2E00, .on), (0x2E5E, .l),
  (0x2E80, .on), (0x2E9A, .l), (0x2E9B, .on), (0x2EF4, .l), (0x2F00, .on), (0x2FD6, .l),
  (0x2FF0, .on), (0x2FFC, .l), (0x3000, .ws), (0x3001, .on), (0x3005, .l), (0x3008, .on),
  (0x3021, .l), (0x302A, .nsm), (0x302E, .l), (0x3030, .on), (0x3031, .l), (0x3036, .on),
  (0x3038, .l), (0x303D, .on), (0x3040, .l), (0x3099, .nsm), (0x309B, .on), (0x309D, .l),
  (0x30A0, .on), (0x30A1, .l), (0x30FB, .on), (0x30FC, .l), (0x31C0, .on), (0x31E4, .l),
  (0x321D, .on), (0x321F, .l), (0x3250, .on), (0x3260, .l), (0x327C, .on), (0x327F, .l),
  (0x32B1, .on), (0x32C0, .l), (0x32CC, .on), (0x32D0, .l), (0x3377, .on), (0x337B, .l),
  (0x33DE, .on), (0x33E0, .l), (0x33FF, .on), (0x3400, .l), (0x4DC0, .on), (0x4E00, .l),
  (0xA490, .on), (0xA4C7, .l), (0xA60D, .on), (0xA610, .l), (0xA66F, .nsm), (0xA673, .on),
  (0xA674, .nsm), (0xA67E, .on), (0xA680, .l), (0xA69E, .nsm), (0xA6A0, .l), (0xA6F0, .nsm),
  (0xA6F2, .l), (0xA700, .on), (0xA722, .l), (0xA788, .on), (0xA789, .l), (0xA802, .nsm),
  (0xA803, .l), (0xA806, .nsm), (0xA807, .l), (0xA80B, .nsm), (0xA80C, .l), (0xA825, .nsm),
  (0xA827, .l), (0xA828, .on), (0xA82C, .nsm), (0xA82D, .l), (0xA838, .et), (0xA83A, .l),
  (0xA874, .on), (0xA878, .l), (0xA8C4, .nsm), (0xA8C6, .l), (0xA8E0, .nsm), (0xA8F2, .l),
  (0xA8FF, .nsm), (0xA900, .l), (0xA926, .nsm), (0xA92E, .l), (0xA947, .nsm), (0xA952, .l),
  (0xA980, .nsm), (0xA983, .l), (0xA9B3, .nsm), (0xA9B4, .l), (0xA9B6, .nsm), (0xA9BA, .l),
  (0xA9BC, .nsm), (0xA9BE, .l), (0xA9E5, .nsm), (0xA9E6, .l), (0xAA29, .nsm), (0xAA2F, .l),
  (0xAA31, .nsm), (0xAA33, .l), (0xAA35, .nsm), (0xAA37, .l), (0xAA43, .nsm), (0xAA44, .l),
  (0xAA4C, .nsm), (0xAA4D, .l), (0xAA7C, .nsm), (0xAA7D, .l), (0xAAB0, .nsm), (0xAAB1, .l),
  (0xAAB2, .nsm), (0xAAB5, .l), (0xAAB7, .nsm), (0xAAB9, .l), (0xAABE, .nsm), (0xAAC0, .l),
  (0xAAC1, .nsm), (0xAAC2, .l), (0xAAEC, .nsm), (0xAAEE, .l), (0xAAF6, .nsm), (0xAAF7, .l),
  (0xAB6A, .on), (0xAB6C, .l), (0xABE5, .nsm), (0xABE6, .l), (0xABE8, .nsm), (0xABE9, .l),
  (0xABED, .nsm), (0xABEE, .l), (0xFB1D, .r), (0xFB1E, .nsm), (0xFB1F, .r), (0xFB29, .es),
  (0xFB2A, .r), (0xFB50, .al), (0xFD3E, .on), (0xFD50, .al), (0xFDCF, .on), (0xFDD0, .bn),
  (0xFDF0, .al), (0xFDFD, .on), (0xFE00, .nsm), (0xFE10, .on), (0xFE1A, .l), (0xFE20, .nsm),
  (0xFE30, .on), (0xFE50, .cs), (0xFE51, .on), (0xFE52, .cs), (0xFE53, .l), (0xFE54, .on),
  (0xFE55, .cs), (0xFE56, .on), (0xFE5F, .et), (0xFE60, .on), (0xFE62, .es), (0xFE64, .on),
  (0xFE67, .l), (0xFE68, .on), (0xFE69, .et), (0xFE6B, .on), (0xFE6C, .l), (0xFE70, .al),
  (0xFEFF, .bn), (0xFF00, .l), (0xFF01, .on), (0xFF03, .et), (0xFF06, .on), (0xFF0B, .es),
  (0xFF0C, .cs), (0xFF0D, .es), (0xFF0E, .cs), (0xFF10, .en), (0xFF1A, .cs), (0xFF1B, .on),
  (0xFF21, .l), (0xFF3B, .on), (0xFF41, .l), (0xFF5B, .on), (0xFF66, .l), (0xFFE0, .et),
  (0xFFE2, .on), (0xFFE5, .et), (0xFFE7, .l), (0xFFE8, .on), (0xFFEF, .l), (0xFFF0, .bn),
  (0xFFF9, .on), (0xFFFE, .bn), (0x10000, .l), (0x10101, .on), (0x10102, .l), (0x10140, .on),
  (0x1018D, .l), (0x10190, .on), (0x1019D, .l), (0x101A0, .on), (0x101A1, .l), (0x101FD, .nsm),
  (0x101FE, .l), (0x102E0, .nsm), (0x102E1, .en), (0x102FC, .l), (0x10376, .nsm), (0x1037B, .l),
  (0x10800, .r), (0x1091F, .on), (0x10920, .r), (0x10A01, .nsm), (0x10A04, .r), (0x10A05, .nsm),
  (0x10A07, .r), (0x10A0C, .nsm), (0x10A10, .r), (0x10A38, .nsm), (0x10A3B, .r), (0x10A3F, .nsm),
  (0x10A40, .r), (0x10AE5, .nsm), (0x10AE7, .r), (0x10B39, .on), (0x10B40, .r), (0x10D00, .al),
  (0x10D24, .nsm), (0x10D28, .al), (0x10D30, .an), (0x10D3A, .al), (0x10D40, .r), (0x10E60, .an),
  (0x10E7F, .r), (0x10EAB, .nsm), (0x10EAD, .r), (0x10EC0, .al), (0x10EFD, .nsm), (0x10F00, .r),
  (0x10F30, .al), (0x10F46, .nsm), (0x10F51, .al), (0x10F70, .r), (0x10F82, .nsm), (0x10F86, .r),
  (0x11000, .l), (0x11001, .nsm), (0x11002, .l), (0x11038, .nsm), (0x11047, .l), (0x11052, .on),
  (0x11066, .l), (0x11070, .nsm), (0x11071, .l), (0x11073, .nsm), (0x11075, .l), (0x1107F, .nsm),
  (0x11082, .l), (0x110B3, .nsm), (0x110B7, .l), (0x110B9, .nsm), (0x110BB, .l), (0x110C2, .nsm),
  (0x110C3, .l), (0x11100, .nsm), (0x11103, .l), (0x11127, .nsm), (0x1112C, .l), (0x1112D, .nsm),
  (0x11135, .l), (0x11173, .nsm), (0x11174, .l), (0x11180, .nsm), (0x11182, .l), (0x111B6, .nsm),
  (0x111BF, .l), (0x111C9, .nsm), (0x111CD, .l), (0x111CF, .nsm), (0x111D0, .l), (0x1122F, .nsm),
  (0x11232, .l), (0x11234, .nsm), (0x11235, .l), (0x11236, .nsm), (0x11238, .l), (0x1123E, .nsm),
  (0x1123F, .l), (0x11241, .nsm), (0x11242, .l), (0x112DF, .nsm), (0x112E0, .l), (0x112E3, .nsm),
  (0x112EB, .l), (0x11300, .nsm), (0x11302, .l), (0x1133B, .nsm), (0x1133D, .l), (0x11340, .nsm),
  (0x11341, .l), (0x11366, .nsm), (0x1136D, .l), (0x11370, .nsm), (0x11375, .l), (0x11438, .nsm),
  (0x11440, .l), (0x11442, .nsm), (0x11445, .l), (0x11446, .nsm), (0x11447, .l), (0x1145E, .nsm),
  (0x1145F, .l), (0x114B3, .nsm), (0x114B9, .l), (0x114BA, .nsm), (0x114BB, .l), (0x114BF, .nsm),
  (0x114C1, .l), (0x114C2, .nsm), (0x114C4, .l), (0x115B2, .nsm), (0x115B6, .l), (0x115BC, .nsm),
  (0x115BE, .l), (0x115BF, .nsm), (0x115C1, .l), (0x115DC, .nsm), (0x115DE, .l), (0x11633, .nsm),
  (0x1163B, .l), (0x1163D, .nsm), (0x1163E, .l), (0x1163F, .nsm), (0x11641, .l), (0x11660, .on),
  (0x1166D, .l), (0x116AB, .nsm), (0x116AC, .l), (0x116AD, .nsm), (0x116AE, .l), (0x116B0, .nsm),
  (0x116B6, .l), (0x116B7, .nsm), (0x116B8, .l), (0x1171D, .nsm), (0x11720, .l), (0x11722, .nsm),
  (0x11726, .l), (0x11727, .nsm), (0x1172C, .l), (0x1182F, .nsm), (0x11838, .l), (0x11839, .nsm),
  (0x1183B, .l), (0x1193B, .nsm), (0x1193D, .l), (0x1193E, .nsm), (0x1193F, .l), (0x11943, .nsm),
  (0x11944, .l), (0x119D4, .nsm), (0x119D8, .l), (0x119DA, .nsm), (0x119DC, .l), (0x119E0, .nsm),
  (0x119E1, .l), (0x11A01, .nsm), (0x11A07, .l), (0x11A09, .nsm), (0x11A0B, .l), (0x11A33, .nsm),
  (0x11A39, .l), (0x11A3B, .nsm), (0x11A3F, .l), (0x11A47, .nsm), (0x11A48, .l), (0x11A51, .nsm),
  (0x11A57, .l), (0x11A59, .nsm), (0x11A5C, .l), (0x11A8A, .nsm), (0x11A97, .l), (0x11A98, .nsm),
  (0x11A9A, .l), (0x11C30, .nsm), (0x11C37, .l), (0x11C38, .nsm), (0x11C3E, .l), (0x11C92, .nsm),
  (0x11CA8, .l), (0x11CAA, .nsm), (0x11CB1, .l), (0x11CB2, .nsm), (0x11CB4, .l), (0x11CB5, .nsm),
  (0x11CB7, .l), (0x11D31, .nsm), (0x11D37, .l), (0x11D3A, .nsm), (0x11D3B, .l), (0x11D3C, .nsm),
  (0x11D3E, .l), (0x11D3F, .nsm), (0x11D46, .l), (0x11D47, .nsm), (0x11D48, .l), (0x11D90, .nsm),
  (0x11D92, .l), (0x11D95, .nsm), (0x11D96, .l), (0x11D97, .nsm), (0x11D98, .l), (0x11EF3, .nsm),
  (0x11EF5, .l), (0x11F00, .nsm), (0x11F02, .l), (0x11F36, .nsm), (0x11F3B, .l), (0x11F40, .nsm),
  (0x11F41, .l), (0x11F42, .nsm), (0x11F43, .l), (0x11FD5, .on), (0x11FDD, .et), (0x11FE1, .on),
  (0x11FF2, .l), (0x13440, .nsm), (0x13441, .l), (0x13447, .nsm), (0x13456, .l), (0x16AF0, .nsm),
  (0x16AF5, .l), (0x16B30, .nsm)]

/-- The classes from 0x16B37 on, part 3 of 3. -/
def bidiClassTable2 : Array (Nat × BidiClass) := #[
  (0x16B37, .l), (0x16F4F, .nsm), (0x16F50, .l), (0x16F8F, .nsm), (0x16F93, .l), (0x16FE2, .on),
  (0x16FE3, .l), (0x16FE4, .nsm), (0x16FE5, .l), (0x1BC9D, .nsm), (0x1BC9F, .l), (0x1BCA0, .bn),
  (0x1BCA4, .l), (0x1CF00, .nsm), (0x1CF2E, .l), (0x1CF30, .nsm), (0x1CF47, .l), (0x1D167, .nsm),
  (0x1D16A, .l), (0x1D173, .bn), (0x1D17B, .nsm), (0x1D183, .l), (0x1D185, .nsm), (0x1D18C, .l),
  (0x1D1AA, .nsm), (0x1D1AE, .l), (0x1D1E9, .on), (0x1D1EB, .l), (0x1D200, .on), (0x1D242, .nsm),
  (0x1D245, .on), (0x1D246, .l), (0x1D300, .on), (0x1D357, .l), (0x1D6DB, .on), (0x1D6DC, .l),
  (0x1D715, .on), (0x1D716, .l), (0x1D74F, .on), (0x1D750, .l), (0x1D789, .on), (0x1D78A, .l),
  (0x1D7C3, .on), (0x1D7C4, .l), (0x1D7CE, .en), (0x1D800, .l), (0x1DA00, .nsm), (0x1DA37, .l),
  (0x1DA3B, .nsm), (0x1DA6D, .l), (0x1DA75, .nsm), (0x1DA76, .l), (0x1DA84, .nsm), (0x1DA85, .l),
  (0x1DA9B, .nsm), (0x1DAA0, .l), (0x1DAA1, .nsm), (0x1DAB0, .l), (0x1E000, .nsm), (0x1E007, .l),
  (0x1E008, .nsm), (0x1E019, .l), (0x1E01B, .nsm), (0x1E022, .l), (0x1E023, .nsm), (0x1E025, .l),
  (0x1E026, .nsm), (0x1E02B, .l), (0x1E08F, .nsm), (0x1E090, .l), (0x1E130, .nsm), (0x1E137, .l),
  (0x1E2AE, .nsm), (0x1E2AF, .l), (0x1E2EC, .nsm), (0x1E2F0, .l), (0x1E2FF, .et), (0x1E300, .l),
  (0x1E4EC, .nsm), (0x1E4F0, .l), (0x1E800, .r), (0x1E8D0, .nsm), (0x1E8D7, .r), (0x1E944, .nsm),
  (0x1E94B, .r), (0x1EC70, .al), (0x1ECC0, .r), (0x1ED00, .al), (0x1ED50, .r), (0x1EE00, .al),
  (0x1EEF0, .on), (0x1EEF2, .al), (0x1EF00, .r), (0x1F000, .on), (0x1F02C, .l), (0x1F030, .on),
  (0x1F094, .l), (0x1F0A0, .on), (0x1F0AF, .l), (0x1F0B1, .on), (0x1F0C0, .l), (0x1F0C1, .on),
  (0x1F0D0, .l), (0x1F0D1, .on), (0x1F0F6, .l), (0x1F100, .en), (0x1F10B, .on), (0x1F110, .l),
  (0x1F12F, .on), (0x1F130, .l), (0x1F16A, .on), (0x1F170, .l), (0x1F1AD, .on), (0x1F1AE, .l),
  (0x1F260, .on), (0x1F266, .l), (0x1F300, .on), (0x1F6D8, .l), (0x1F6DC, .on), (0x1F6ED, .l),
  (0x1F6F0, .on), (0x1F6FD, .l), (0x1F700, .on), (0x1F777, .l), (0x1F77B, .on), (0x1F7DA, .l),
  (0x1F7E0, .on), (0x1F7EC, .l), (0x1F7F0, .on), (0x1F7F1, .l), (0x1F800, .on), (0x1F80C, .l),
  (0x1F810, .on), (0x1F848, .l), (0x1F850, .on), (0x1F85A, .l), (0x1F860, .on), (0x1F888, .l),
  (0x1F890, .on), (0x1F8AE, .l), (0x1F8B0, .on), (0x1F8B2, .l), (0x1F900, .on), (0x1FA54, .l),
  (0x1FA60, .on), (0x1FA6E, .l), (0x1FA70, .on), (0x1FA7D, .l), (0x1FA80, .on), (0x1FA89, .l),
  (0x1FA90, .on), (0x1FABE, .l), (0x1FABF, .on), (0x1FAC6, .l), (0x1FACE, .on), (0x1FADC, .l),
  (0x1FAE0, .on), (0x1FAE9, .l), (0x1FAF0, .on), (0x1FAF9, .l), (0x1FB00, .on), (0x1FB93, .l),
  (0x1FB94, .on), (0x1FBCB, .l), (0x1FBF0, .en), (0x1FBFA, .l), (0x1FFFE, .bn), (0x20000, .l),
  (0x2FFFE, .bn), (0x30000, .l), (0x3FFFE, .bn), (0x40000, .l), (0x4FFFE, .bn), (0x50000, .l),
  (0x5FFFE, .bn), (0x60000, .l), (0x6FFFE, .bn), (0x70000, .l), (0x7FFFE, .bn), (0x80000, .l),
  (0x8FFFE, .bn), (0x90000, .l), (0x9FFFE, .bn), (0xA0000, .l), (0xAFFFE, .bn), (0xB0000, .l),
  (0xBFFFE, .bn), (0xC0000, .l), (0xCFFFE, .bn), (0xD0000, .l), (0xDFFFE, .bn), (0xE0100, .nsm),
  (0xE01F0, .bn), (0xE1000, .l), (0xEFFFE, .bn), (0xF0000, .l), (0xFFFFE, .bn), (0x100000, .l),
  (0x10FFFE, .bn), (0x110000, .l)]

/-- The bidirectional classes of all code points: each key holds up to the next. -/
def bidiClassTable : Chunked (Nat × BidiClass) :=
  #[bidiClassTable0, bidiClassTable1, bidiClassTable2]

/-- The bidirectional class of a code point. -/
def bidiClass (n : Nat) : BidiClass :=
  (bidiClassTable.stepValue n).getD .l

end PartCache.Text
