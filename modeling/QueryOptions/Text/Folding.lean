/-!
Capital letters beyond ASCII and their small forms.

A row gives the first and the last code point of a run of capitals, the
distance from one to the next, and what is added to reach the small form.
-/

namespace QueryOptions.Text

def capitalRuns : List (Nat × Nat × Nat × Int) :=
  [(0xC0, 0xD6, 1, 32), (0xD8, 0xDE, 1, 32), (0x100, 0x12E, 2, 1), (0x134, 0x136, 2, 1),
   (0x139, 0x13D, 2, 1), (0x141, 0x147, 2, 1), (0x14A, 0x176, 2, 1), (0x178, 0x178, 1, -121),
   (0x179, 0x17D, 2, 1), (0x181, 0x181, 1, 210), (0x182, 0x184, 2, 1), (0x186, 0x186, 1, 206),
   (0x187, 0x187, 1, 1), (0x189, 0x18A, 1, 205), (0x18B, 0x18B, 1, 1), (0x18E, 0x18E, 1, 79),
   (0x18F, 0x18F, 1, 202), (0x190, 0x190, 1, 203), (0x191, 0x191, 1, 1), (0x193, 0x193, 1, 205),
   (0x194, 0x194, 1, 207), (0x196, 0x196, 1, 211), (0x197, 0x197, 1, 209), (0x198, 0x198, 1, 1),
   (0x19C, 0x19C, 1, 211), (0x19D, 0x19D, 1, 213), (0x19F, 0x19F, 1, 214), (0x1A0, 0x1A4, 2, 1),
   (0x1A6, 0x1A6, 1, 218), (0x1A7, 0x1A7, 1, 1), (0x1A9, 0x1A9, 1, 218), (0x1AC, 0x1AC, 1, 1),
   (0x1AE, 0x1AE, 1, 218), (0x1AF, 0x1AF, 1, 1), (0x1B1, 0x1B2, 1, 217), (0x1B3, 0x1B5, 2, 1),
   (0x1B7, 0x1B7, 1, 219), (0x1B8, 0x1B8, 1, 1), (0x1BC, 0x1BC, 1, 1), (0x1CD, 0x1DB, 2, 1),
   (0x1DE, 0x1EE, 2, 1), (0x1F4, 0x1F4, 1, 1), (0x1F6, 0x1F6, 1, -97), (0x1F7, 0x1F7, 1, -56),
   (0x1F8, 0x21E, 2, 1), (0x220, 0x220, 1, -130), (0x222, 0x232, 2, 1), (0x23A, 0x23A, 1, 10795),
   (0x23B, 0x23B, 1, 1), (0x23D, 0x23D, 1, -163), (0x23E, 0x23E, 1, 10792), (0x241, 0x241, 1, 1),
   (0x243, 0x243, 1, -195), (0x244, 0x244, 1, 69), (0x245, 0x245, 1, 71), (0x246, 0x24E, 2, 1),
   (0x370, 0x372, 2, 1), (0x376, 0x376, 1, 1), (0x37F, 0x37F, 1, 116), (0x386, 0x386, 1, 38),
   (0x388, 0x38A, 1, 37), (0x38C, 0x38C, 1, 64), (0x38E, 0x38F, 1, 63), (0x391, 0x3A1, 1, 32),
   (0x3A3, 0x3AB, 1, 32), (0x3CF, 0x3CF, 1, 8), (0x3D2, 0x3D2, 1, -13), (0x3D3, 0x3D3, 1, -6),
   (0x3D4, 0x3D4, 1, -9), (0x3D8, 0x3EE, 2, 1), (0x3F4, 0x3F4, 1, -60), (0x3F7, 0x3F7, 1, 1),
   (0x3F9, 0x3F9, 1, -54), (0x3FA, 0x3FA, 1, 1), (0x3FD, 0x3FF, 1, -130), (0x400, 0x40F, 1, 80),
   (0x410, 0x42F, 1, 32), (0x460, 0x480, 2, 1), (0x48A, 0x4BE, 2, 1), (0x4C0, 0x4C0, 1, 15),
   (0x4C1, 0x4CD, 2, 1), (0x4D0, 0x52E, 2, 1), (0x531, 0x556, 1, 48), (0x10A0, 0x10C5, 1, 7264),
   (0x10C7, 0x10C7, 1, 7264), (0x10CD, 0x10CD, 1, 7264), (0x1C90, 0x1CBA, 1, -3008),
   (0x1CBD, 0x1CBF, 1, -3008), (0x1E00, 0x1E94, 2, 1), (0x1EA0, 0x1EFE, 2, 1),
   (0x1F08, 0x1F0F, 1, -8), (0x1F18, 0x1F1D, 1, -8), (0x1F28, 0x1F2F, 1, -8),
   (0x1F38, 0x1F3F, 1, -8), (0x1F48, 0x1F4D, 1, -8), (0x1F59, 0x1F5F, 2, -8),
   (0x1F68, 0x1F6F, 1, -8), (0x1FB8, 0x1FB9, 1, -8), (0x1FBA, 0x1FBA, 1, -74),
   (0x1FBB, 0x1FBB, 1, -7183), (0x1FC8, 0x1FC8, 1, -86), (0x1FC9, 0x1FC9, 1, -7196),
   (0x1FCA, 0x1FCA, 1, -86), (0x1FCB, 0x1FCB, 1, -7197), (0x1FD8, 0x1FD9, 1, -8),
   (0x1FDA, 0x1FDA, 1, -100), (0x1FDB, 0x1FDB, 1, -7212), (0x1FE8, 0x1FE9, 1, -8),
   (0x1FEA, 0x1FEA, 1, -112), (0x1FEB, 0x1FEB, 1, -7198), (0x1FEC, 0x1FEC, 1, -7),
   (0x1FF8, 0x1FF8, 1, -128), (0x1FF9, 0x1FF9, 1, -7213), (0x1FFA, 0x1FFA, 1, -126),
   (0x1FFB, 0x1FFB, 1, -7213), (0x2102, 0x2102, 1, -8351), (0x2107, 0x2107, 1, -7852),
   (0x210B, 0x210B, 1, -8355), (0x210C, 0x210C, 1, -8356), (0x210D, 0x210D, 1, -8357),
   (0x2110, 0x2110, 1, -8359), (0x2111, 0x2111, 1, -8360), (0x2112, 0x2112, 1, -8358),
   (0x2115, 0x2115, 1, -8359), (0x2119, 0x211B, 1, -8361), (0x211C, 0x211C, 1, -8362),
   (0x211D, 0x211D, 1, -8363), (0x2124, 0x2124, 1, -8362), (0x2126, 0x2126, 1, -7517),
   (0x2128, 0x2128, 1, -8366), (0x212A, 0x212A, 1, -8383), (0x212B, 0x212B, 1, -8262),
   (0x212C, 0x212D, 1, -8394), (0x2130, 0x2131, 1, -8395), (0x2132, 0x2132, 1, 28),
   (0x2133, 0x2133, 1, -8390), (0x213E, 0x213E, 1, -7563), (0x213F, 0x213F, 1, -7551),
   (0x2145, 0x2145, 1, -8417), (0x2183, 0x2183, 1, 1), (0x2C00, 0x2C2F, 1, 48),
   (0x2C60, 0x2C60, 1, 1), (0x2C62, 0x2C62, 1, -10743), (0x2C63, 0x2C63, 1, -3814),
   (0x2C64, 0x2C64, 1, -10727), (0x2C67, 0x2C6B, 2, 1), (0x2C6D, 0x2C6D, 1, -10780),
   (0x2C6E, 0x2C6E, 1, -10749), (0x2C6F, 0x2C6F, 1, -10783), (0x2C70, 0x2C70, 1, -10782),
   (0x2C72, 0x2C72, 1, 1), (0x2C75, 0x2C75, 1, 1), (0x2C7E, 0x2C7F, 1, -10815),
   (0x2C80, 0x2CE2, 2, 1), (0x2CEB, 0x2CED, 2, 1), (0x2CF2, 0x2CF2, 1, 1), (0xA640, 0xA66C, 2, 1),
   (0xA680, 0xA69A, 2, 1), (0xA722, 0xA72E, 2, 1), (0xA732, 0xA76E, 2, 1), (0xA779, 0xA77B, 2, 1),
   (0xA77D, 0xA77D, 1, -35332), (0xA77E, 0xA786, 2, 1), (0xA78B, 0xA78B, 1, 1),
   (0xA78D, 0xA78D, 1, -42280), (0xA790, 0xA792, 2, 1), (0xA796, 0xA7A8, 2, 1),
   (0xA7AA, 0xA7AA, 1, -42308), (0xA7AB, 0xA7AB, 1, -42319), (0xA7AC, 0xA7AC, 1, -42315),
   (0xA7AD, 0xA7AD, 1, -42305), (0xA7AE, 0xA7AE, 1, -42308), (0xA7B0, 0xA7B0, 1, -42258),
   (0xA7B1, 0xA7B1, 1, -42282), (0xA7B2, 0xA7B2, 1, -42261), (0xA7B3, 0xA7B3, 1, 928),
   (0xA7B4, 0xA7C2, 2, 1), (0xA7C4, 0xA7C4, 1, -48), (0xA7C5, 0xA7C5, 1, -42307),
   (0xA7C6, 0xA7C6, 1, -35384), (0xA7C7, 0xA7C9, 2, 1), (0xA7D0, 0xA7D0, 1, 1),
   (0xA7D6, 0xA7D8, 2, 1), (0xA7F5, 0xA7F5, 1, 1), (0xFF21, 0xFF3A, 1, -65216),
   (0x10400, 0x10427, 1, 40), (0x104B0, 0x104D3, 1, 40), (0x10570, 0x1057A, 1, 39),
   (0x1057C, 0x1058A, 1, 39), (0x1058C, 0x10592, 1, 39), (0x10594, 0x10595, 1, 39),
   (0x10C80, 0x10CB2, 1, 64), (0x118A0, 0x118BF, 1, 32), (0x16E40, 0x16E5F, 1, 32),
   (0x1D400, 0x1D419, 1, -119711), (0x1D434, 0x1D44D, 1, -119763), (0x1D468, 0x1D481, 1, -119815),
   (0x1D49C, 0x1D49E, 2, -119867), (0x1D49F, 0x1D49F, 1, -119867), (0x1D4A2, 0x1D4A2, 1, -119867),
   (0x1D4A5, 0x1D4A6, 1, -119867), (0x1D4A9, 0x1D4AC, 1, -119867), (0x1D4AE, 0x1D4B5, 1, -119867),
   (0x1D4D0, 0x1D4E9, 1, -119919), (0x1D504, 0x1D505, 1, -119971), (0x1D507, 0x1D50A, 1, -119971),
   (0x1D50D, 0x1D514, 1, -119971), (0x1D516, 0x1D51C, 1, -119971), (0x1D538, 0x1D539, 1, -120023),
   (0x1D53B, 0x1D53E, 1, -120023), (0x1D540, 0x1D544, 1, -120023), (0x1D546, 0x1D546, 1, -120023),
   (0x1D54A, 0x1D550, 1, -120023), (0x1D56C, 0x1D585, 1, -120075), (0x1D5A0, 0x1D5B9, 1, -120127),
   (0x1D5D4, 0x1D5ED, 1, -120179), (0x1D608, 0x1D621, 1, -120231), (0x1D63C, 0x1D655, 1, -120283),
   (0x1D670, 0x1D689, 1, -120335), (0x1D6A8, 0x1D6B8, 1, -119543), (0x1D6B9, 0x1D6B9, 1, -119553),
   (0x1D6BA, 0x1D6C0, 1, -119543), (0x1D6E2, 0x1D6F2, 1, -119601), (0x1D6F3, 0x1D6F3, 1, -119611),
   (0x1D6F4, 0x1D6FA, 1, -119601), (0x1D71C, 0x1D72C, 1, -119659), (0x1D72D, 0x1D72D, 1, -119669),
   (0x1D72E, 0x1D734, 1, -119659), (0x1D756, 0x1D766, 1, -119717), (0x1D767, 0x1D767, 1, -119727),
   (0x1D768, 0x1D76E, 1, -119717), (0x1D790, 0x1D7A0, 1, -119775), (0x1D7A1, 0x1D7A1, 1, -119785),
   (0x1D7A2, 0x1D7A8, 1, -119775), (0x1D7CA, 0x1D7CA, 1, -119789), (0x1E900, 0x1E921, 1, 34)]

/-- The small form of a capital letter, and any other character itself. -/
def fold (c : Char) : Char :=
  if c.toNat < 128 then c.toLower
  else
    match capitalRuns.find? fun (first, last, step, _) =>
        first ≤ c.toNat && c.toNat ≤ last && (c.toNat - first) % step = 0 with
    | some (_, _, _, shift) => Char.ofNat ((c.toNat : Int) + shift).toNat
    | none => c

end QueryOptions.Text
