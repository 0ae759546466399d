import ClientGen.Text.Ranges

/-!
# Letters of host names

Which characters beyond ASCII may stand in the name of a host, and what is known of them
where a name is checked: marks, directions of writing, joining and scripts. A character
that is not in `nameRanges` stands in no name unless its neighbours allow it. Younger
characters are in it too, though nothing else is known of them.
-/
namespace ClientGen.Address

open ClientGen.Text

/-! ## 1. Letters, digits and marks -/

/-- Characters that may stand anywhere in a name. -/
def nameRanges : List CodeRange :=
  [⟨0x2D, 0x2D, 1⟩, ⟨0x30, 0x39, 1⟩, ⟨0x61, 0x7A, 1⟩, ⟨0xDF, 0xF6, 1⟩, ⟨0xF8, 0xFF, 1⟩,
   ⟨0x101, 0x131, 2⟩, ⟨0x135, 0x135, 1⟩, ⟨0x137, 0x138, 1⟩, ⟨0x13A, 0x13E, 2⟩, ⟨0x142, 0x148, 2⟩,
   ⟨0x14B, 0x177, 2⟩, ⟨0x17A, 0x180, 2⟩, ⟨0x183, 0x185, 2⟩, ⟨0x188, 0x188, 1⟩, ⟨0x18C, 0x18D, 1⟩,
   ⟨0x192, 0x192, 1⟩, ⟨0x195, 0x195, 1⟩, ⟨0x199, 0x19B, 1⟩, ⟨0x19E, 0x19E, 1⟩, ⟨0x1A1, 0x1A5, 2⟩,
   ⟨0x1A8, 0x1A8, 1⟩, ⟨0x1AA, 0x1AB, 1⟩, ⟨0x1AD, 0x1AD, 1⟩, ⟨0x1B0, 0x1B0, 1⟩, ⟨0x1B4, 0x1B6, 2⟩,
   ⟨0x1B9, 0x1BB, 1⟩, ⟨0x1BD, 0x1C3, 1⟩, ⟨0x1CE, 0x1DA, 2⟩, ⟨0x1DC, 0x1DD, 1⟩, ⟨0x1DF, 0x1ED, 2⟩,
   ⟨0x1EF, 0x1F0, 1⟩, ⟨0x1F5, 0x1F5, 1⟩, ⟨0x1F9, 0x231, 2⟩, ⟨0x233, 0x239, 1⟩, ⟨0x23C, 0x23C, 1⟩,
   ⟨0x23F, 0x240, 1⟩, ⟨0x242, 0x242, 1⟩, ⟨0x247, 0x24D, 2⟩, ⟨0x24F, 0x2AF, 1⟩, ⟨0x2B9, 0x2C1, 1⟩,
   ⟨0x2C6, 0x2D1, 1⟩, ⟨0x2EC, 0x2EE, 2⟩, ⟨0x300, 0x33F, 1⟩, ⟨0x342, 0x342, 1⟩, ⟨0x346, 0x34E, 1⟩,
   ⟨0x350, 0x36F, 1⟩, ⟨0x371, 0x373, 2⟩, ⟨0x377, 0x377, 1⟩, ⟨0x37B, 0x37D, 1⟩, ⟨0x390, 0x390, 1⟩,
   ⟨0x3AC, 0x3CE, 1⟩, ⟨0x3D7, 0x3EF, 2⟩, ⟨0x3F3, 0x3F3, 1⟩, ⟨0x3F8, 0x3F8, 1⟩, ⟨0x3FB, 0x3FC, 1⟩,
   ⟨0x430, 0x45F, 1⟩, ⟨0x461, 0x481, 2⟩, ⟨0x483, 0x487, 1⟩, ⟨0x48B, 0x4BF, 2⟩, ⟨0x4C2, 0x4CC, 2⟩,
   ⟨0x4CE, 0x4CF, 1⟩, ⟨0x4D1, 0x52F, 2⟩, ⟨0x559, 0x559, 1⟩, ⟨0x560, 0x586, 1⟩, ⟨0x588, 0x588, 1⟩,
   ⟨0x591, 0x5BD, 1⟩, ⟨0x5BF, 0x5BF, 1⟩, ⟨0x5C1, 0x5C2, 1⟩, ⟨0x5C4, 0x5C5, 1⟩, ⟨0x5C7, 0x5C8, 1⟩,
   ⟨0x5D0, 0x5EA, 1⟩, ⟨0x5EF, 0x5F2, 1⟩, ⟨0x610, 0x61A, 1⟩, ⟨0x620, 0x63F, 1⟩, ⟨0x641, 0x65F, 1⟩,
   ⟨0x66E, 0x674, 1⟩, ⟨0x679, 0x6D3, 1⟩, ⟨0x6D5, 0x6DC, 1⟩, ⟨0x6DF, 0x6E8, 1⟩, ⟨0x6EA, 0x6EF, 1⟩,
   ⟨0x6FA, 0x6FF, 1⟩, ⟨0x710, 0x74A, 1⟩, ⟨0x74D, 0x7B1, 1⟩, ⟨0x7C0, 0x7F5, 1⟩, ⟨0x7FD, 0x7FD, 1⟩,
   ⟨0x800, 0x82D, 1⟩, ⟨0x840, 0x85B, 1⟩, ⟨0x860, 0x86A, 1⟩, ⟨0x870, 0x887, 1⟩, ⟨0x889, 0x88F, 1⟩,
   ⟨0x897, 0x8E1, 1⟩, ⟨0x8E3, 0x957, 1⟩, ⟨0x960, 0x963, 1⟩, ⟨0x966, 0x96F, 1⟩, ⟨0x971, 0x983, 1⟩,
   ⟨0x985, 0x98C, 1⟩, ⟨0x98F, 0x990, 1⟩, ⟨0x993, 0x9A8, 1⟩, ⟨0x9AA, 0x9B0, 1⟩, ⟨0x9B2, 0x9B2, 1⟩,
   ⟨0x9B6, 0x9B9, 1⟩, ⟨0x9BC, 0x9C4, 1⟩, ⟨0x9C7, 0x9C8, 1⟩, ⟨0x9CB, 0x9CE, 1⟩, ⟨0x9D7, 0x9D7, 1⟩,
   ⟨0x9E0, 0x9E3, 1⟩, ⟨0x9E6, 0x9F1, 1⟩, ⟨0x9FC, 0x9FE, 2⟩, ⟨0xA01, 0xA03, 1⟩, ⟨0xA05, 0xA0A, 1⟩,
   ⟨0xA0F, 0xA10, 1⟩, ⟨0xA13, 0xA28, 1⟩, ⟨0xA2A, 0xA30, 1⟩, ⟨0xA32, 0xA32, 1⟩, ⟨0xA35, 0xA35, 1⟩,
   ⟨0xA38, 0xA39, 1⟩, ⟨0xA3C, 0xA3C, 1⟩, ⟨0xA3E, 0xA42, 1⟩, ⟨0xA47, 0xA48, 1⟩, ⟨0xA4B, 0xA4D, 1⟩,
   ⟨0xA51, 0xA51, 1⟩, ⟨0xA5C, 0xA5C, 1⟩, ⟨0xA66, 0xA75, 1⟩, ⟨0xA81, 0xA83, 1⟩, ⟨0xA85, 0xA8D, 1⟩,
   ⟨0xA8F, 0xA91, 1⟩, ⟨0xA93, 0xAA8, 1⟩, ⟨0xAAA, 0xAB0, 1⟩, ⟨0xAB2, 0xAB3, 1⟩, ⟨0xAB5, 0xAB9, 1⟩,
   ⟨0xABC, 0xAC5, 1⟩, ⟨0xAC7, 0xAC9, 1⟩, ⟨0xACB, 0xACD, 1⟩, ⟨0xAD0, 0xAD0, 1⟩, ⟨0xAE0, 0xAE3, 1⟩,
   ⟨0xAE6, 0xAEF, 1⟩, ⟨0xAF9, 0xAFF, 1⟩, ⟨0xB01, 0xB03, 1⟩, ⟨0xB05, 0xB0C, 1⟩, ⟨0xB0F, 0xB10, 1⟩,
   ⟨0xB13, 0xB28, 1⟩, ⟨0xB2A, 0xB30, 1⟩, ⟨0xB32, 0xB33, 1⟩, ⟨0xB35, 0xB39, 1⟩, ⟨0xB3C, 0xB44, 1⟩,
   ⟨0xB47, 0xB48, 1⟩, ⟨0xB4B, 0xB4D, 1⟩, ⟨0xB55, 0xB57, 1⟩, ⟨0xB5F, 0xB63, 1⟩, ⟨0xB66, 0xB6F, 1⟩,
   ⟨0xB71, 0xB71, 1⟩, ⟨0xB82, 0xB83, 1⟩, ⟨0xB85, 0xB8A, 1⟩, ⟨0xB8E, 0xB90, 1⟩, ⟨0xB92, 0xB95, 1⟩,
   ⟨0xB99, 0xB9A, 1⟩, ⟨0xB9C, 0xB9C, 1⟩, ⟨0xB9E, 0xB9F, 1⟩, ⟨0xBA3, 0xBA4, 1⟩, ⟨0xBA8, 0xBAA, 1⟩,
   ⟨0xBAE, 0xBB9, 1⟩, ⟨0xBBE, 0xBC2, 1⟩, ⟨0xBC6, 0xBC8, 1⟩, ⟨0xBCA, 0xBCD, 1⟩, ⟨0xBD0, 0xBD0, 1⟩,
   ⟨0xBD7, 0xBD7, 1⟩, ⟨0xBE6, 0xBEF, 1⟩, ⟨0xC00, 0xC0C, 1⟩, ⟨0xC0E, 0xC10, 1⟩, ⟨0xC12, 0xC28, 1⟩,
   ⟨0xC2A, 0xC39, 1⟩, ⟨0xC3C, 0xC44, 1⟩, ⟨0xC46, 0xC48, 1⟩, ⟨0xC4A, 0xC4D, 1⟩, ⟨0xC55, 0xC56, 1⟩,
   ⟨0xC58, 0xC5A, 1⟩, ⟨0xC5C, 0xC5D, 1⟩, ⟨0xC60, 0xC63, 1⟩, ⟨0xC66, 0xC6F, 1⟩, ⟨0xC80, 0xC83, 1⟩,
   ⟨0xC85, 0xC8C, 1⟩, ⟨0xC8E, 0xC90, 1⟩, ⟨0xC92, 0xCA8, 1⟩, ⟨0xCAA, 0xCB3, 1⟩, ⟨0xCB5, 0xCB9, 1⟩,
   ⟨0xCBC, 0xCC4, 1⟩, ⟨0xCC6, 0xCC8, 1⟩, ⟨0xCCA, 0xCCD, 1⟩, ⟨0xCD5, 0xCD6, 1⟩, ⟨0xCDC, 0xCDE, 1⟩,
   ⟨0xCE0, 0xCE3, 1⟩, ⟨0xCE6, 0xCEF, 1⟩, ⟨0xCF1, 0xCF3, 1⟩, ⟨0xD00, 0xD0C, 1⟩, ⟨0xD0E, 0xD10, 1⟩,
   ⟨0xD12, 0xD44, 1⟩, ⟨0xD46, 0xD48, 1⟩, ⟨0xD4A, 0xD4E, 1⟩, ⟨0xD54, 0xD57, 1⟩, ⟨0xD5F, 0xD63, 1⟩,
   ⟨0xD66, 0xD6F, 1⟩, ⟨0xD7A, 0xD7F, 1⟩, ⟨0xD81, 0xD83, 1⟩, ⟨0xD85, 0xD96, 1⟩, ⟨0xD9A, 0xDB1, 1⟩,
   ⟨0xDB3, 0xDBB, 1⟩, ⟨0xDBD, 0xDBD, 1⟩, ⟨0xDC0, 0xDC6, 1⟩, ⟨0xDCA, 0xDCA, 1⟩, ⟨0xDCF, 0xDD4, 1⟩,
   ⟨0xDD6, 0xDD6, 1⟩, ⟨0xDD8, 0xDDF, 1⟩, ⟨0xDE6, 0xDEF, 1⟩, ⟨0xDF2, 0xDF3, 1⟩, ⟨0xE01, 0xE32, 1⟩,
   ⟨0xE34, 0xE3A, 1⟩, ⟨0xE40, 0xE4E, 1⟩, ⟨0xE50, 0xE59, 1⟩, ⟨0xE81, 0xE82, 1⟩, ⟨0xE84, 0xE84, 1⟩,
   ⟨0xE86, 0xE8A, 1⟩, ⟨0xE8C, 0xEA3, 1⟩, ⟨0xEA5, 0xEA5, 1⟩, ⟨0xEA7, 0xEB2, 1⟩, ⟨0xEB4, 0xEBD, 1⟩,
   ⟨0xEC0, 0xEC4, 1⟩, ⟨0xEC6, 0xEC6, 1⟩, ⟨0xEC8, 0xECE, 1⟩, ⟨0xED0, 0xED9, 1⟩, ⟨0xEDE, 0xEDF, 1⟩,
   ⟨0xF00, 0xF00, 1⟩, ⟨0xF0B, 0xF0B, 1⟩, ⟨0xF18, 0xF19, 1⟩, ⟨0xF20, 0xF29, 1⟩, ⟨0xF35, 0xF39, 2⟩,
   ⟨0xF3E, 0xF42, 1⟩, ⟨0xF44, 0xF47, 1⟩, ⟨0xF49, 0xF4C, 1⟩, ⟨0xF4E, 0xF51, 1⟩, ⟨0xF53, 0xF56, 1⟩,
   ⟨0xF58, 0xF5B, 1⟩, ⟨0xF5D, 0xF68, 1⟩, ⟨0xF6A, 0xF6C, 1⟩, ⟨0xF71, 0xF72, 1⟩, ⟨0xF74, 0xF74, 1⟩,
   ⟨0xF7A, 0xF80, 1⟩, ⟨0xF82, 0xF84, 1⟩, ⟨0xF86, 0xF92, 1⟩, ⟨0xF94, 0xF97, 1⟩, ⟨0xF99, 0xF9C, 1⟩,
   ⟨0xF9E, 0xFA1, 1⟩, ⟨0xFA3, 0xFA6, 1⟩, ⟨0xFA8, 0xFAB, 1⟩, ⟨0xFAD, 0xFB8, 1⟩, ⟨0xFBA, 0xFBC, 1⟩,
   ⟨0xFC6, 0xFC6, 1⟩, ⟨0x1000, 0x1049, 1⟩, ⟨0x1050, 0x109D, 1⟩, ⟨0x10D0, 0x10FA, 1⟩,
   ⟨0x10FD, 0x10FF, 1⟩, ⟨0x1200, 0x1248, 1⟩, ⟨0x124A, 0x124D, 1⟩, ⟨0x1250, 0x1256, 1⟩,
   ⟨0x1258, 0x1258, 1⟩, ⟨0x125A, 0x125D, 1⟩, ⟨0x1260, 0x1288, 1⟩, ⟨0x128A, 0x128D, 1⟩,
   ⟨0x1290, 0x12B0, 1⟩, ⟨0x12B2, 0x12B5, 1⟩, ⟨0x12B8, 0x12BE, 1⟩, ⟨0x12C0, 0x12C0, 1⟩,
   ⟨0x12C2, 0x12C5, 1⟩, ⟨0x12C8, 0x12D6, 1⟩, ⟨0x12D8, 0x1310, 1⟩, ⟨0x1312, 0x1315, 1⟩,
   ⟨0x1318, 0x135A, 1⟩, ⟨0x135D, 0x135F, 1⟩, ⟨0x1380, 0x138F, 1⟩, ⟨0x13A0, 0x13F5, 1⟩,
   ⟨0x1401, 0x166C, 1⟩, ⟨0x166F, 0x167F, 1⟩, ⟨0x1681, 0x169A, 1⟩, ⟨0x16A0, 0x16EA, 1⟩,
   ⟨0x16F1, 0x16F8, 1⟩, ⟨0x1700, 0x1715, 1⟩, ⟨0x171F, 0x1734, 1⟩, ⟨0x1740, 0x1753, 1⟩,
   ⟨0x1760, 0x176C, 1⟩, ⟨0x176E, 0x1770, 1⟩, ⟨0x1772, 0x1773, 1⟩, ⟨0x1780, 0x17B3, 1⟩,
   ⟨0x17B6, 0x17D3, 1⟩, ⟨0x17D7, 0x17D7, 1⟩, ⟨0x17DC, 0x17DD, 1⟩, ⟨0x17E0, 0x17E9, 1⟩,
   ⟨0x1810, 0x1819, 1⟩, ⟨0x1820, 0x1878, 1⟩, ⟨0x1880, 0x18AA, 1⟩, ⟨0x18B0, 0x18F5, 1⟩,
   ⟨0x1900, 0x191E, 1⟩, ⟨0x1920, 0x192B, 1⟩, ⟨0x1930, 0x193B, 1⟩, ⟨0x1946, 0x196D, 1⟩,
   ⟨0x1970, 0x1974, 1⟩, ⟨0x1980, 0x19AB, 1⟩, ⟨0x19B0, 0x19C9, 1⟩, ⟨0x19D0, 0x19D9, 1⟩,
   ⟨0x1A00, 0x1A1B, 1⟩, ⟨0x1A20, 0x1A5E, 1⟩, ⟨0x1A60, 0x1A7C, 1⟩, ⟨0x1A7F, 0x1A89, 1⟩,
   ⟨0x1A90, 0x1A99, 1⟩, ⟨0x1AA7, 0x1AA7, 1⟩, ⟨0x1AB0, 0x1ABD, 1⟩, ⟨0x1ABF, 0x1ADD, 1⟩,
   ⟨0x1AE0, 0x1AEB, 1⟩, ⟨0x1B00, 0x1B4C, 1⟩, ⟨0x1B50, 0x1B59, 1⟩, ⟨0x1B6B, 0x1B73, 1⟩,
   ⟨0x1B80, 0x1BF3, 1⟩, ⟨0x1C00, 0x1C37, 1⟩, ⟨0x1C40, 0x1C49, 1⟩, ⟨0x1C4D, 0x1C7D, 1⟩,
   ⟨0x1C8A, 0x1C8A, 1⟩, ⟨0x1CD0, 0x1CD2, 1⟩, ⟨0x1CD4, 0x1CFA, 1⟩, ⟨0x1D00, 0x1D2B, 1⟩,
   ⟨0x1D2F, 0x1D2F, 1⟩, ⟨0x1D3B, 0x1D3B, 1⟩, ⟨0x1D4E, 0x1D4E, 1⟩, ⟨0x1D6B, 0x1D77, 1⟩,
   ⟨0x1D79, 0x1D9A, 1⟩, ⟨0x1DC0, 0x1DFF, 1⟩, ⟨0x1E01, 0x1E93, 2⟩, ⟨0x1E95, 0x1E99, 1⟩,
   ⟨0x1E9C, 0x1E9D, 1⟩, ⟨0x1E9F, 0x1EFD, 2⟩, ⟨0x1EFF, 0x1F07, 1⟩, ⟨0x1F10, 0x1F15, 1⟩,
   ⟨0x1F20, 0x1F27, 1⟩, ⟨0x1F30, 0x1F37, 1⟩, ⟨0x1F40, 0x1F45, 1⟩, ⟨0x1F50, 0x1F57, 1⟩,
   ⟨0x1F60, 0x1F67, 1⟩, ⟨0x1F70, 0x1F7C, 2⟩, ⟨0x1FB0, 0x1FB1, 1⟩, ⟨0x1FB6, 0x1FB6, 1⟩,
   ⟨0x1FC6, 0x1FC6, 1⟩, ⟨0x1FD0, 0x1FD2, 1⟩, ⟨0x1FD6, 0x1FD7, 1⟩, ⟨0x1FE0, 0x1FE2, 1⟩,
   ⟨0x1FE4, 0x1FE7, 1⟩, ⟨0x1FF6, 0x1FF6, 1⟩, ⟨0x214E, 0x214E, 1⟩, ⟨0x2184, 0x2184, 1⟩,
   ⟨0x2C30, 0x2C5F, 1⟩, ⟨0x2C61, 0x2C61, 1⟩, ⟨0x2C65, 0x2C66, 1⟩, ⟨0x2C68, 0x2C6C, 2⟩,
   ⟨0x2C71, 0x2C71, 1⟩, ⟨0x2C73, 0x2C74, 1⟩, ⟨0x2C76, 0x2C7B, 1⟩, ⟨0x2C81, 0x2CE1, 2⟩,
   ⟨0x2CE3, 0x2CE4, 1⟩, ⟨0x2CEC, 0x2CEC, 1⟩, ⟨0x2CEE, 0x2CF1, 1⟩, ⟨0x2CF3, 0x2CF3, 1⟩,
   ⟨0x2D00, 0x2D25, 1⟩, ⟨0x2D27, 0x2D27, 1⟩, ⟨0x2D2D, 0x2D2D, 1⟩, ⟨0x2D30, 0x2D67, 1⟩,
   ⟨0x2D7F, 0x2D96, 1⟩, ⟨0x2DA0, 0x2DA6, 1⟩, ⟨0x2DA8, 0x2DAE, 1⟩, ⟨0x2DB0, 0x2DB6, 1⟩,
   ⟨0x2DB8, 0x2DBE, 1⟩, ⟨0x2DC0, 0x2DC6, 1⟩, ⟨0x2DC8, 0x2DCE, 1⟩, ⟨0x2DD0, 0x2DD6, 1⟩,
   ⟨0x2DD8, 0x2DDE, 1⟩, ⟨0x2DE0, 0x2DFF, 1⟩, ⟨0x2E2F, 0x2E2F, 1⟩, ⟨0x3005, 0x3007, 1⟩,
   ⟨0x302A, 0x302D, 1⟩, ⟨0x303C, 0x303C, 1⟩, ⟨0x3041, 0x3096, 1⟩, ⟨0x3099, 0x309A, 1⟩,
   ⟨0x309D, 0x309E, 1⟩, ⟨0x30A1, 0x30FA, 1⟩, ⟨0x30FC, 0x30FE, 1⟩, ⟨0x3105, 0x312F, 1⟩,
   ⟨0x31A0, 0x31BF, 1⟩, ⟨0x31F0, 0x31FF, 1⟩, ⟨0x3400, 0x4DBF, 1⟩, ⟨0x4E00, 0xA48C, 1⟩,
   ⟨0xA4D0, 0xA4FD, 1⟩, ⟨0xA500, 0xA60C, 1⟩, ⟨0xA610, 0xA62B, 1⟩, ⟨0xA641, 0xA66B, 2⟩,
   ⟨0xA66D, 0xA66F, 1⟩, ⟨0xA674, 0xA67D, 1⟩, ⟨0xA67F, 0xA69B, 2⟩, ⟨0xA69E, 0xA6E5, 1⟩,
   ⟨0xA6F0, 0xA6F1, 1⟩, ⟨0xA717, 0xA71F, 1⟩, ⟨0xA723, 0xA72D, 2⟩, ⟨0xA72F, 0xA731, 1⟩,
   ⟨0xA733, 0xA76F, 2⟩, ⟨0xA771, 0xA778, 1⟩, ⟨0xA77A, 0xA77C, 2⟩, ⟨0xA77F, 0xA785, 2⟩,
   ⟨0xA787, 0xA788, 1⟩, ⟨0xA78C, 0xA78C, 1⟩, ⟨0xA78E, 0xA78F, 1⟩, ⟨0xA791, 0xA791, 1⟩,
   ⟨0xA793, 0xA795, 1⟩, ⟨0xA797, 0xA7A9, 2⟩, ⟨0xA7AF, 0xA7AF, 1⟩, ⟨0xA7B5, 0xA7C3, 2⟩,
   ⟨0xA7C8, 0xA7CA, 2⟩, ⟨0xA7CD, 0xA7DB, 2⟩, ⟨0xA7F6, 0xA7F7, 1⟩, ⟨0xA7FA, 0xA827, 1⟩,
   ⟨0xA82C, 0xA82C, 1⟩, ⟨0xA840, 0xA873, 1⟩, ⟨0xA880, 0xA8C5, 1⟩, ⟨0xA8D0, 0xA8D9, 1⟩,
   ⟨0xA8E0, 0xA8F7, 1⟩, ⟨0xA8FB, 0xA8FB, 1⟩, ⟨0xA8FD, 0xA92D, 1⟩, ⟨0xA930, 0xA953, 1⟩,
   ⟨0xA980, 0xA9C0, 1⟩, ⟨0xA9CF, 0xA9D9, 1⟩, ⟨0xA9E0, 0xA9FE, 1⟩, ⟨0xAA00, 0xAA36, 1⟩,
   ⟨0xAA40, 0xAA4D, 1⟩, ⟨0xAA50, 0xAA59, 1⟩, ⟨0xAA60, 0xAA76, 1⟩, ⟨0xAA7A, 0xAAC2, 1⟩,
   ⟨0xAADB, 0xAADD, 1⟩, ⟨0xAAE0, 0xAAEF, 1⟩, ⟨0xAAF2, 0xAAF6, 1⟩, ⟨0xAB01, 0xAB06, 1⟩,
   ⟨0xAB09, 0xAB0E, 1⟩, ⟨0xAB11, 0xAB16, 1⟩, ⟨0xAB20, 0xAB26, 1⟩, ⟨0xAB28, 0xAB2E, 1⟩,
   ⟨0xAB30, 0xAB5A, 1⟩, ⟨0xAB60, 0xAB68, 1⟩, ⟨0xABC0, 0xABEA, 1⟩, ⟨0xABEC, 0xABED, 1⟩,
   ⟨0xABF0, 0xABF9, 1⟩, ⟨0xAC00, 0xD7A3, 1⟩, ⟨0xFA0E, 0xFA0F, 1⟩, ⟨0xFA11, 0xFA11, 1⟩,
   ⟨0xFA13, 0xFA14, 1⟩, ⟨0xFA1F, 0xFA21, 2⟩, ⟨0xFA23, 0xFA24, 1⟩, ⟨0xFA27, 0xFA29, 1⟩,
   ⟨0xFB1E, 0xFB1E, 1⟩, ⟨0xFE20, 0xFE2F, 1⟩, ⟨0xFE73, 0xFE73, 1⟩, ⟨0x10000, 0x1000B, 1⟩,
   ⟨0x1000D, 0x10026, 1⟩, ⟨0x10028, 0x1003A, 1⟩, ⟨0x1003C, 0x1003D, 1⟩, ⟨0x1003F, 0x1004D, 1⟩,
   ⟨0x10050, 0x1005D, 1⟩, ⟨0x10080, 0x100FA, 1⟩, ⟨0x101FD, 0x101FD, 1⟩, ⟨0x10280, 0x1029C, 1⟩,
   ⟨0x102A0, 0x102D0, 1⟩, ⟨0x102E0, 0x102E0, 1⟩, ⟨0x10300, 0x1031F, 1⟩, ⟨0x1032D, 0x10340, 1⟩,
   ⟨0x10342, 0x10349, 1⟩, ⟨0x10350, 0x1037A, 1⟩, ⟨0x10380, 0x1039D, 1⟩, ⟨0x103A0, 0x103C3, 1⟩,
   ⟨0x103C8, 0x103CF, 1⟩, ⟨0x10428, 0x1049D, 1⟩, ⟨0x104A0, 0x104A9, 1⟩, ⟨0x104D8, 0x104FB, 1⟩,
   ⟨0x10500, 0x10527, 1⟩, ⟨0x10530, 0x10563, 1⟩, ⟨0x10597, 0x105A1, 1⟩, ⟨0x105A3, 0x105B1, 1⟩,
   ⟨0x105B3, 0x105B9, 1⟩, ⟨0x105BB, 0x105BC, 1⟩, ⟨0x105C0, 0x105F3, 1⟩, ⟨0x10600, 0x10736, 1⟩,
   ⟨0x10740, 0x10755, 1⟩, ⟨0x10760, 0x10767, 1⟩, ⟨0x10780, 0x10780, 1⟩, ⟨0x10800, 0x10805, 1⟩,
   ⟨0x10808, 0x10808, 1⟩, ⟨0x1080A, 0x10835, 1⟩, ⟨0x10837, 0x10838, 1⟩, ⟨0x1083C, 0x1083C, 1⟩,
   ⟨0x1083F, 0x10855, 1⟩, ⟨0x10860, 0x10876, 1⟩, ⟨0x10880, 0x1089E, 1⟩, ⟨0x108E0, 0x108F2, 1⟩,
   ⟨0x108F4, 0x108F5, 1⟩, ⟨0x10900, 0x10915, 1⟩, ⟨0x10920, 0x10939, 1⟩, ⟨0x10940, 0x10959, 1⟩,
   ⟨0x10980, 0x109B7, 1⟩, ⟨0x109BE, 0x109BF, 1⟩, ⟨0x10A00, 0x10A03, 1⟩, ⟨0x10A05, 0x10A06, 1⟩,
   ⟨0x10A0C, 0x10A13, 1⟩, ⟨0x10A15, 0x10A17, 1⟩, ⟨0x10A19, 0x10A35, 1⟩, ⟨0x10A38, 0x10A3A, 1⟩,
   ⟨0x10A3F, 0x10A3F, 1⟩, ⟨0x10A60, 0x10A7C, 1⟩, ⟨0x10A80, 0x10A9C, 1⟩, ⟨0x10AC0, 0x10AC7, 1⟩,
   ⟨0x10AC9, 0x10AE6, 1⟩, ⟨0x10B00, 0x10B35, 1⟩, ⟨0x10B40, 0x10B55, 1⟩, ⟨0x10B60, 0x10B72, 1⟩,
   ⟨0x10B80, 0x10B91, 1⟩, ⟨0x10C00, 0x10C48, 1⟩, ⟨0x10CC0, 0x10CF2, 1⟩, ⟨0x10D00, 0x10D27, 1⟩,
   ⟨0x10D30, 0x10D39, 1⟩, ⟨0x10D40, 0x10D4F, 1⟩, ⟨0x10D69, 0x10D6D, 1⟩, ⟨0x10D6F, 0x10D85, 1⟩,
   ⟨0x10E80, 0x10EA9, 1⟩, ⟨0x10EAB, 0x10EAC, 1⟩, ⟨0x10EB0, 0x10EB1, 1⟩, ⟨0x10EC2, 0x10EC7, 1⟩,
   ⟨0x10EFA, 0x10F1C, 1⟩, ⟨0x10F27, 0x10F27, 1⟩, ⟨0x10F30, 0x10F50, 1⟩, ⟨0x10F70, 0x10F85, 1⟩,
   ⟨0x10FB0, 0x10FC4, 1⟩, ⟨0x10FE0, 0x10FF6, 1⟩, ⟨0x11000, 0x11046, 1⟩, ⟨0x11066, 0x11075, 1⟩,
   ⟨0x1107F, 0x110BA, 1⟩, ⟨0x110C2, 0x110C2, 1⟩, ⟨0x110D0, 0x110E8, 1⟩, ⟨0x110F0, 0x110F9, 1⟩,
   ⟨0x11100, 0x11134, 1⟩, ⟨0x11136, 0x1113F, 1⟩, ⟨0x11144, 0x11147, 1⟩, ⟨0x11150, 0x11173, 1⟩,
   ⟨0x11176, 0x11176, 1⟩, ⟨0x11180, 0x111C4, 1⟩, ⟨0x111C9, 0x111CC, 1⟩, ⟨0x111CE, 0x111DA, 1⟩,
   ⟨0x111DC, 0x111DC, 1⟩, ⟨0x11200, 0x11211, 1⟩, ⟨0x11213, 0x11237, 1⟩, ⟨0x1123E, 0x11241, 1⟩,
   ⟨0x11280, 0x11286, 1⟩, ⟨0x11288, 0x11288, 1⟩, ⟨0x1128A, 0x1128D, 1⟩, ⟨0x1128F, 0x1129D, 1⟩,
   ⟨0x1129F, 0x112A8, 1⟩, ⟨0x112B0, 0x112EA, 1⟩, ⟨0x112F0, 0x112F9, 1⟩, ⟨0x11300, 0x11303, 1⟩,
   ⟨0x11305, 0x1130C, 1⟩, ⟨0x1130F, 0x11310, 1⟩, ⟨0x11313, 0x11328, 1⟩, ⟨0x1132A, 0x11330, 1⟩,
   ⟨0x11332, 0x11333, 1⟩, ⟨0x11335, 0x11339, 1⟩, ⟨0x1133B, 0x11344, 1⟩, ⟨0x11347, 0x11348, 1⟩,
   ⟨0x1134B, 0x1134D, 1⟩, ⟨0x11350, 0x11350, 1⟩, ⟨0x11357, 0x11357, 1⟩, ⟨0x1135D, 0x11363, 1⟩,
   ⟨0x11366, 0x1136C, 1⟩, ⟨0x11370, 0x11374, 1⟩, ⟨0x11380, 0x11389, 1⟩, ⟨0x1138B, 0x1138B, 1⟩,
   ⟨0x1138E, 0x1138E, 1⟩, ⟨0x11390, 0x113B5, 1⟩, ⟨0x113B7, 0x113C0, 1⟩, ⟨0x113C2, 0x113C2, 1⟩,
   ⟨0x113C5, 0x113C5, 1⟩, ⟨0x113C7, 0x113CA, 1⟩, ⟨0x113CC, 0x113D3, 1⟩, ⟨0x113E1, 0x113E2, 1⟩,
   ⟨0x11400, 0x1144A, 1⟩, ⟨0x11450, 0x11459, 1⟩, ⟨0x1145E, 0x11461, 1⟩, ⟨0x11480, 0x114C5, 1⟩,
   ⟨0x114C7, 0x114C7, 1⟩, ⟨0x114D0, 0x114D9, 1⟩, ⟨0x11580, 0x115B5, 1⟩, ⟨0x115B8, 0x115C0, 1⟩,
   ⟨0x115D8, 0x115DD, 1⟩, ⟨0x11600, 0x11640, 1⟩, ⟨0x11644, 0x11644, 1⟩, ⟨0x11650, 0x11659, 1⟩,
   ⟨0x11680, 0x116B8, 1⟩, ⟨0x116C0, 0x116C9, 1⟩, ⟨0x116D0, 0x116E3, 1⟩, ⟨0x11700, 0x1171A, 1⟩,
   ⟨0x1171D, 0x1172B, 1⟩, ⟨0x11730, 0x11739, 1⟩, ⟨0x11740, 0x11746, 1⟩, ⟨0x11800, 0x1183A, 1⟩,
   ⟨0x118C0, 0x118E9, 1⟩, ⟨0x118FF, 0x11906, 1⟩, ⟨0x11909, 0x11909, 1⟩, ⟨0x1190C, 0x11913, 1⟩,
   ⟨0x11915, 0x11916, 1⟩, ⟨0x11918, 0x11935, 1⟩, ⟨0x11937, 0x11938, 1⟩, ⟨0x1193B, 0x11943, 1⟩,
   ⟨0x11950, 0x11959, 1⟩, ⟨0x119A0, 0x119A7, 1⟩, ⟨0x119AA, 0x119D7, 1⟩, ⟨0x119DA, 0x119E1, 1⟩,
   ⟨0x119E3, 0x119E4, 1⟩, ⟨0x11A00, 0x11A3E, 1⟩, ⟨0x11A47, 0x11A47, 1⟩, ⟨0x11A50, 0x11A99, 1⟩,
   ⟨0x11A9D, 0x11A9D, 1⟩, ⟨0x11AB0, 0x11AF8, 1⟩, ⟨0x11B60, 0x11B67, 1⟩, ⟨0x11BC0, 0x11BE0, 1⟩,
   ⟨0x11BF0, 0x11BF9, 1⟩, ⟨0x11C00, 0x11C08, 1⟩, ⟨0x11C0A, 0x11C36, 1⟩, ⟨0x11C38, 0x11C40, 1⟩,
   ⟨0x11C50, 0x11C59, 1⟩, ⟨0x11C72, 0x11C8F, 1⟩, ⟨0x11C92, 0x11CA7, 1⟩, ⟨0x11CA9, 0x11CB6, 1⟩,
   ⟨0x11D00, 0x11D06, 1⟩, ⟨0x11D08, 0x11D09, 1⟩, ⟨0x11D0B, 0x11D36, 1⟩, ⟨0x11D3A, 0x11D3A, 1⟩,
   ⟨0x11D3C, 0x11D3D, 1⟩, ⟨0x11D3F, 0x11D47, 1⟩, ⟨0x11D50, 0x11D59, 1⟩, ⟨0x11D60, 0x11D65, 1⟩,
   ⟨0x11D67, 0x11D68, 1⟩, ⟨0x11D6A, 0x11D8E, 1⟩, ⟨0x11D90, 0x11D91, 1⟩, ⟨0x11D93, 0x11D98, 1⟩,
   ⟨0x11DA0, 0x11DA9, 1⟩, ⟨0x11DB0, 0x11DDB, 1⟩, ⟨0x11DE0, 0x11DE9, 1⟩, ⟨0x11EE0, 0x11EF6, 1⟩,
   ⟨0x11F00, 0x11F10, 1⟩, ⟨0x11F12, 0x11F3A, 1⟩, ⟨0x11F3E, 0x11F42, 1⟩, ⟨0x11F50, 0x11F5A, 1⟩,
   ⟨0x11FB0, 0x11FB0, 1⟩, ⟨0x12000, 0x12399, 1⟩, ⟨0x12480, 0x12543, 1⟩, ⟨0x12F90, 0x12FF0, 1⟩,
   ⟨0x13000, 0x1342F, 1⟩, ⟨0x13440, 0x13455, 1⟩, ⟨0x13460, 0x143FA, 1⟩, ⟨0x14400, 0x14646, 1⟩,
   ⟨0x16100, 0x16139, 1⟩, ⟨0x16800, 0x16A38, 1⟩, ⟨0x16A40, 0x16A5E, 1⟩, ⟨0x16A60, 0x16A69, 1⟩,
   ⟨0x16A70, 0x16ABE, 1⟩, ⟨0x16AC0, 0x16AC9, 1⟩, ⟨0x16AD0, 0x16AED, 1⟩, ⟨0x16AF0, 0x16AF4, 1⟩,
   ⟨0x16B00, 0x16B36, 1⟩, ⟨0x16B40, 0x16B43, 1⟩, ⟨0x16B50, 0x16B59, 1⟩, ⟨0x16B63, 0x16B77, 1⟩,
   ⟨0x16B7D, 0x16B8F, 1⟩, ⟨0x16D40, 0x16D6C, 1⟩, ⟨0x16D70, 0x16D79, 1⟩, ⟨0x16E60, 0x16E7F, 1⟩,
   ⟨0x16EBB, 0x16ED3, 1⟩, ⟨0x16F00, 0x16F4A, 1⟩, ⟨0x16F4F, 0x16F87, 1⟩, ⟨0x16F8F, 0x16F9F, 1⟩,
   ⟨0x16FE0, 0x16FE1, 1⟩, ⟨0x16FE3, 0x16FE4, 1⟩, ⟨0x16FF0, 0x16FF3, 1⟩, ⟨0x17000, 0x18CD5, 1⟩,
   ⟨0x18CFF, 0x18D1E, 1⟩, ⟨0x18D80, 0x18DF2, 1⟩, ⟨0x1AFF0, 0x1AFF3, 1⟩, ⟨0x1AFF5, 0x1AFFB, 1⟩,
   ⟨0x1AFFD, 0x1AFFE, 1⟩, ⟨0x1B000, 0x1B122, 1⟩, ⟨0x1B132, 0x1B132, 1⟩, ⟨0x1B150, 0x1B152, 1⟩,
   ⟨0x1B155, 0x1B155, 1⟩, ⟨0x1B164, 0x1B167, 1⟩, ⟨0x1B170, 0x1B2FB, 1⟩, ⟨0x1BC00, 0x1BC6A, 1⟩,
   ⟨0x1BC70, 0x1BC7C, 1⟩, ⟨0x1BC80, 0x1BC88, 1⟩, ⟨0x1BC90, 0x1BC99, 1⟩, ⟨0x1BC9D, 0x1BC9E, 1⟩,
   ⟨0x1CF00, 0x1CF2D, 1⟩, ⟨0x1CF30, 0x1CF46, 1⟩, ⟨0x1DA00, 0x1DA36, 1⟩, ⟨0x1DA3B, 0x1DA6C, 1⟩,
   ⟨0x1DA75, 0x1DA75, 1⟩, ⟨0x1DA84, 0x1DA84, 1⟩, ⟨0x1DA9B, 0x1DA9F, 1⟩, ⟨0x1DAA1, 0x1DAAF, 1⟩,
   ⟨0x1DF00, 0x1DF1E, 1⟩, ⟨0x1DF25, 0x1DF2A, 1⟩, ⟨0x1E000, 0x1E006, 1⟩, ⟨0x1E008, 0x1E018, 1⟩,
   ⟨0x1E01B, 0x1E021, 1⟩, ⟨0x1E023, 0x1E024, 1⟩, ⟨0x1E026, 0x1E02A, 1⟩, ⟨0x1E08F, 0x1E08F, 1⟩,
   ⟨0x1E100, 0x1E12C, 1⟩, ⟨0x1E130, 0x1E13D, 1⟩, ⟨0x1E140, 0x1E149, 1⟩, ⟨0x1E14E, 0x1E14E, 1⟩,
   ⟨0x1E290, 0x1E2AE, 1⟩, ⟨0x1E2C0, 0x1E2F9, 1⟩, ⟨0x1E4D0, 0x1E4F9, 1⟩, ⟨0x1E5D0, 0x1E5FA, 1⟩,
   ⟨0x1E6C0, 0x1E6DE, 1⟩, ⟨0x1E6E0, 0x1E6F5, 1⟩, ⟨0x1E6FE, 0x1E6FF, 1⟩, ⟨0x1E7E0, 0x1E7E6, 1⟩,
   ⟨0x1E7E8, 0x1E7EB, 1⟩, ⟨0x1E7ED, 0x1E7EE, 1⟩, ⟨0x1E7F0, 0x1E7FE, 1⟩, ⟨0x1E800, 0x1E8C4, 1⟩,
   ⟨0x1E8D0, 0x1E8D6, 1⟩, ⟨0x1E922, 0x1E94B, 1⟩, ⟨0x1E950, 0x1E959, 1⟩, ⟨0x20000, 0x2A6DF, 1⟩,
   ⟨0x2A700, 0x2B81D, 1⟩, ⟨0x2B820, 0x2CEAD, 1⟩, ⟨0x2CEB0, 0x2EBE0, 1⟩, ⟨0x2EBF0, 0x2EE5D, 1⟩,
   ⟨0x30000, 0x3134A, 1⟩, ⟨0x31350, 0x33479, 1⟩]

/-- Marks: they belong to the character before them. -/
def markRanges : List CodeRange :=
  [⟨0x300, 0x36F, 1⟩, ⟨0x483, 0x489, 1⟩, ⟨0x591, 0x5BD, 1⟩, ⟨0x5BF, 0x5BF, 1⟩, ⟨0x5C1, 0x5C2, 1⟩,
   ⟨0x5C4, 0x5C5, 1⟩, ⟨0x5C7, 0x5C7, 1⟩, ⟨0x610, 0x61A, 1⟩, ⟨0x64B, 0x65F, 1⟩, ⟨0x670, 0x670, 1⟩,
   ⟨0x6D6, 0x6DC, 1⟩, ⟨0x6DF, 0x6E4, 1⟩, ⟨0x6E7, 0x6E8, 1⟩, ⟨0x6EA, 0x6ED, 1⟩, ⟨0x711, 0x711, 1⟩,
   ⟨0x730, 0x74A, 1⟩, ⟨0x7A6, 0x7B0, 1⟩, ⟨0x7EB, 0x7F3, 1⟩, ⟨0x7FD, 0x7FD, 1⟩, ⟨0x816, 0x819, 1⟩,
   ⟨0x81B, 0x823, 1⟩, ⟨0x825, 0x827, 1⟩, ⟨0x829, 0x82D, 1⟩, ⟨0x859, 0x85B, 1⟩, ⟨0x898, 0x89F, 1⟩,
   ⟨0x8CA, 0x8E1, 1⟩, ⟨0x8E3, 0x903, 1⟩, ⟨0x93A, 0x93C, 1⟩, ⟨0x93E, 0x94F, 1⟩, ⟨0x951, 0x957, 1⟩,
   ⟨0x962, 0x963, 1⟩, ⟨0x981, 0x983, 1⟩, ⟨0x9BC, 0x9BC, 1⟩, ⟨0x9BE, 0x9C4, 1⟩, ⟨0x9C7, 0x9C8, 1⟩,
   ⟨0x9CB, 0x9CD, 1⟩, ⟨0x9D7, 0x9D7, 1⟩, ⟨0x9E2, 0x9E3, 1⟩, ⟨0x9FE, 0x9FE, 1⟩, ⟨0xA01, 0xA03, 1⟩,
   ⟨0xA3C, 0xA3C, 1⟩, ⟨0xA3E, 0xA42, 1⟩, ⟨0xA47, 0xA48, 1⟩, ⟨0xA4B, 0xA4D, 1⟩, ⟨0xA51, 0xA51, 1⟩,
   ⟨0xA70, 0xA71, 1⟩, ⟨0xA75, 0xA75, 1⟩, ⟨0xA81, 0xA83, 1⟩, ⟨0xABC, 0xABC, 1⟩, ⟨0xABE, 0xAC5, 1⟩,
   ⟨0xAC7, 0xAC9, 1⟩, ⟨0xACB, 0xACD, 1⟩, ⟨0xAE2, 0xAE3, 1⟩, ⟨0xAFA, 0xAFF, 1⟩, ⟨0xB01, 0xB03, 1⟩,
   ⟨0xB3C, 0xB3C, 1⟩, ⟨0xB3E, 0xB44, 1⟩, ⟨0xB47, 0xB48, 1⟩, ⟨0xB4B, 0xB4D, 1⟩, ⟨0xB55, 0xB57, 1⟩,
   ⟨0xB62, 0xB63, 1⟩, ⟨0xB82, 0xB82, 1⟩, ⟨0xBBE, 0xBC2, 1⟩, ⟨0xBC6, 0xBC8, 1⟩, ⟨0xBCA, 0xBCD, 1⟩,
   ⟨0xBD7, 0xBD7, 1⟩, ⟨0xC00, 0xC04, 1⟩, ⟨0xC3C, 0xC3C, 1⟩, ⟨0xC3E, 0xC44, 1⟩, ⟨0xC46, 0xC48, 1⟩,
   ⟨0xC4A, 0xC4D, 1⟩, ⟨0xC55, 0xC56, 1⟩, ⟨0xC62, 0xC63, 1⟩, ⟨0xC81, 0xC83, 1⟩, ⟨0xCBC, 0xCBC, 1⟩,
   ⟨0xCBE, 0xCC4, 1⟩, ⟨0xCC6, 0xCC8, 1⟩, ⟨0xCCA, 0xCCD, 1⟩, ⟨0xCD5, 0xCD6, 1⟩, ⟨0xCE2, 0xCE3, 1⟩,
   ⟨0xD00, 0xD03, 1⟩, ⟨0xD3B, 0xD3C, 1⟩, ⟨0xD3E, 0xD44, 1⟩, ⟨0xD46, 0xD48, 1⟩, ⟨0xD4A, 0xD4D, 1⟩,
   ⟨0xD57, 0xD57, 1⟩, ⟨0xD62, 0xD63, 1⟩, ⟨0xD81, 0xD83, 1⟩, ⟨0xDCA, 0xDCA, 1⟩, ⟨0xDCF, 0xDD4, 1⟩,
   ⟨0xDD6, 0xDD6, 1⟩, ⟨0xDD8, 0xDDF, 1⟩, ⟨0xDF2, 0xDF3, 1⟩, ⟨0xE31, 0xE31, 1⟩, ⟨0xE34, 0xE3A, 1⟩,
   ⟨0xE47, 0xE4E, 1⟩, ⟨0xEB1, 0xEB1, 1⟩, ⟨0xEB4, 0xEBC, 1⟩, ⟨0xEC8, 0xECD, 1⟩, ⟨0xF18, 0xF19, 1⟩,
   ⟨0xF35, 0xF39, 2⟩, ⟨0xF3E, 0xF3F, 1⟩, ⟨0xF71, 0xF84, 1⟩, ⟨0xF86, 0xF87, 1⟩, ⟨0xF8D, 0xF97, 1⟩,
   ⟨0xF99, 0xFBC, 1⟩, ⟨0xFC6, 0xFC6, 1⟩, ⟨0x102B, 0x103E, 1⟩, ⟨0x1056, 0x1059, 1⟩,
   ⟨0x105E, 0x1060, 1⟩, ⟨0x1062, 0x1064, 1⟩, ⟨0x1067, 0x106D, 1⟩, ⟨0x1071, 0x1074, 1⟩,
   ⟨0x1082, 0x108D, 1⟩, ⟨0x108F, 0x108F, 1⟩, ⟨0x109A, 0x109D, 1⟩, ⟨0x135D, 0x135F, 1⟩,
   ⟨0x1712, 0x1715, 1⟩, ⟨0x1732, 0x1734, 1⟩, ⟨0x1752, 0x1753, 1⟩, ⟨0x1772, 0x1773, 1⟩,
   ⟨0x17B4, 0x17D3, 1⟩, ⟨0x17DD, 0x17DD, 1⟩, ⟨0x180B, 0x180D, 1⟩, ⟨0x180F, 0x180F, 1⟩,
   ⟨0x1885, 0x1886, 1⟩, ⟨0x18A9, 0x18A9, 1⟩, ⟨0x1920, 0x192B, 1⟩, ⟨0x1930, 0x193B, 1⟩,
   ⟨0x1A17, 0x1A1B, 1⟩, ⟨0x1A55, 0x1A5E, 1⟩, ⟨0x1A60, 0x1A7C, 1⟩, ⟨0x1A7F, 0x1A7F, 1⟩,
   ⟨0x1AB0, 0x1ACE, 1⟩, ⟨0x1B00, 0x1B04, 1⟩, ⟨0x1B34, 0x1B44, 1⟩, ⟨0x1B6B, 0x1B73, 1⟩,
   ⟨0x1B80, 0x1B82, 1⟩, ⟨0x1BA1, 0x1BAD, 1⟩, ⟨0x1BE6, 0x1BF3, 1⟩, ⟨0x1C24, 0x1C37, 1⟩,
   ⟨0x1CD0, 0x1CD2, 1⟩, ⟨0x1CD4, 0x1CE8, 1⟩, ⟨0x1CED, 0x1CED, 1⟩, ⟨0x1CF4, 0x1CF4, 1⟩,
   ⟨0x1CF7, 0x1CF9, 1⟩, ⟨0x1DC0, 0x1DFF, 1⟩, ⟨0x20D0, 0x20F0, 1⟩, ⟨0x2CEF, 0x2CF1, 1⟩,
   ⟨0x2D7F, 0x2D7F, 1⟩, ⟨0x2DE0, 0x2DFF, 1⟩, ⟨0x302A, 0x302F, 1⟩, ⟨0x3099, 0x309A, 1⟩,
   ⟨0xA66F, 0xA672, 1⟩, ⟨0xA674, 0xA67D, 1⟩, ⟨0xA69E, 0xA69F, 1⟩, ⟨0xA6F0, 0xA6F1, 1⟩,
   ⟨0xA802, 0xA802, 1⟩, ⟨0xA806, 0xA806, 1⟩, ⟨0xA80B, 0xA80B, 1⟩, ⟨0xA823, 0xA827, 1⟩,
   ⟨0xA82C, 0xA82C, 1⟩, ⟨0xA880, 0xA881, 1⟩, ⟨0xA8B4, 0xA8C5, 1⟩, ⟨0xA8E0, 0xA8F1, 1⟩,
   ⟨0xA8FF, 0xA8FF, 1⟩, ⟨0xA926, 0xA92D, 1⟩, ⟨0xA947, 0xA953, 1⟩, ⟨0xA980, 0xA983, 1⟩,
   ⟨0xA9B3, 0xA9C0, 1⟩, ⟨0xA9E5, 0xA9E5, 1⟩, ⟨0xAA29, 0xAA36, 1⟩, ⟨0xAA43, 0xAA43, 1⟩,
   ⟨0xAA4C, 0xAA4D, 1⟩, ⟨0xAA7B, 0xAA7D, 1⟩, ⟨0xAAB0, 0xAAB0, 1⟩, ⟨0xAAB2, 0xAAB4, 1⟩,
   ⟨0xAAB7, 0xAAB8, 1⟩, ⟨0xAABE, 0xAABF, 1⟩, ⟨0xAAC1, 0xAAC1, 1⟩, ⟨0xAAEB, 0xAAEF, 1⟩,
   ⟨0xAAF5, 0xAAF6, 1⟩, ⟨0xABE3, 0xABEA, 1⟩, ⟨0xABEC, 0xABED, 1⟩, ⟨0xFB1E, 0xFB1E, 1⟩,
   ⟨0xFE00, 0xFE0F, 1⟩, ⟨0xFE20, 0xFE2F, 1⟩, ⟨0x101FD, 0x101FD, 1⟩, ⟨0x102E0, 0x102E0, 1⟩,
   ⟨0x10376, 0x1037A, 1⟩, ⟨0x10A01, 0x10A03, 1⟩, ⟨0x10A05, 0x10A06, 1⟩, ⟨0x10A0C, 0x10A0F, 1⟩,
   ⟨0x10A38, 0x10A3A, 1⟩, ⟨0x10A3F, 0x10A3F, 1⟩, ⟨0x10AE5, 0x10AE6, 1⟩, ⟨0x10D24, 0x10D27, 1⟩,
   ⟨0x10EAB, 0x10EAC, 1⟩, ⟨0x10F46, 0x10F50, 1⟩, ⟨0x10F82, 0x10F85, 1⟩, ⟨0x11000, 0x11002, 1⟩,
   ⟨0x11038, 0x11046, 1⟩, ⟨0x11070, 0x11070, 1⟩, ⟨0x11073, 0x11074, 1⟩, ⟨0x1107F, 0x11082, 1⟩,
   ⟨0x110B0, 0x110BA, 1⟩, ⟨0x110C2, 0x110C2, 1⟩, ⟨0x11100, 0x11102, 1⟩, ⟨0x11127, 0x11134, 1⟩,
   ⟨0x11145, 0x11146, 1⟩, ⟨0x11173, 0x11173, 1⟩, ⟨0x11180, 0x11182, 1⟩, ⟨0x111B3, 0x111C0, 1⟩,
   ⟨0x111C9, 0x111CC, 1⟩, ⟨0x111CE, 0x111CF, 1⟩, ⟨0x1122C, 0x11237, 1⟩, ⟨0x1123E, 0x1123E, 1⟩,
   ⟨0x112DF, 0x112EA, 1⟩, ⟨0x11300, 0x11303, 1⟩, ⟨0x1133B, 0x1133C, 1⟩, ⟨0x1133E, 0x11344, 1⟩,
   ⟨0x11347, 0x11348, 1⟩, ⟨0x1134B, 0x1134D, 1⟩, ⟨0x11357, 0x11357, 1⟩, ⟨0x11362, 0x11363, 1⟩,
   ⟨0x11366, 0x1136C, 1⟩, ⟨0x11370, 0x11374, 1⟩, ⟨0x11435, 0x11446, 1⟩, ⟨0x1145E, 0x1145E, 1⟩,
   ⟨0x114B0, 0x114C3, 1⟩, ⟨0x115AF, 0x115B5, 1⟩, ⟨0x115B8, 0x115C0, 1⟩, ⟨0x115DC, 0x115DD, 1⟩,
   ⟨0x11630, 0x11640, 1⟩, ⟨0x116AB, 0x116B7, 1⟩, ⟨0x1171D, 0x1172B, 1⟩, ⟨0x1182C, 0x1183A, 1⟩,
   ⟨0x11930, 0x11935, 1⟩, ⟨0x11937, 0x11938, 1⟩, ⟨0x1193B, 0x1193E, 1⟩, ⟨0x11940, 0x11940, 1⟩,
   ⟨0x11942, 0x11943, 1⟩, ⟨0x119D1, 0x119D7, 1⟩, ⟨0x119DA, 0x119E0, 1⟩, ⟨0x119E4, 0x119E4, 1⟩,
   ⟨0x11A01, 0x11A0A, 1⟩, ⟨0x11A33, 0x11A39, 1⟩, ⟨0x11A3B, 0x11A3E, 1⟩, ⟨0x11A47, 0x11A47, 1⟩,
   ⟨0x11A51, 0x11A5B, 1⟩, ⟨0x11A8A, 0x11A99, 1⟩, ⟨0x11C2F, 0x11C36, 1⟩, ⟨0x11C38, 0x11C3F, 1⟩,
   ⟨0x11C92, 0x11CA7, 1⟩, ⟨0x11CA9, 0x11CB6, 1⟩, ⟨0x11D31, 0x11D36, 1⟩, ⟨0x11D3A, 0x11D3A, 1⟩,
   ⟨0x11D3C, 0x11D3D, 1⟩, ⟨0x11D3F, 0x11D45, 1⟩, ⟨0x11D47, 0x11D47, 1⟩, ⟨0x11D8A, 0x11D8E, 1⟩,
   ⟨0x11D90, 0x11D91, 1⟩, ⟨0x11D93, 0x11D97, 1⟩, ⟨0x11EF3, 0x11EF6, 1⟩, ⟨0x16AF0, 0x16AF4, 1⟩,
   ⟨0x16B30, 0x16B36, 1⟩, ⟨0x16F4F, 0x16F4F, 1⟩, ⟨0x16F51, 0x16F87, 1⟩, ⟨0x16F8F, 0x16F92, 1⟩,
   ⟨0x16FE4, 0x16FE4, 1⟩, ⟨0x16FF0, 0x16FF1, 1⟩, ⟨0x1BC9D, 0x1BC9E, 1⟩, ⟨0x1CF00, 0x1CF2D, 1⟩,
   ⟨0x1CF30, 0x1CF46, 1⟩, ⟨0x1D165, 0x1D169, 1⟩, ⟨0x1D16D, 0x1D172, 1⟩, ⟨0x1D17B, 0x1D182, 1⟩,
   ⟨0x1D185, 0x1D18B, 1⟩, ⟨0x1D1AA, 0x1D1AD, 1⟩, ⟨0x1D242, 0x1D244, 1⟩, ⟨0x1DA00, 0x1DA36, 1⟩,
   ⟨0x1DA3B, 0x1DA6C, 1⟩, ⟨0x1DA75, 0x1DA75, 1⟩, ⟨0x1DA84, 0x1DA84, 1⟩, ⟨0x1DA9B, 0x1DA9F, 1⟩,
   ⟨0x1DAA1, 0x1DAAF, 1⟩, ⟨0x1E000, 0x1E006, 1⟩, ⟨0x1E008, 0x1E018, 1⟩, ⟨0x1E01B, 0x1E021, 1⟩,
   ⟨0x1E023, 0x1E024, 1⟩, ⟨0x1E026, 0x1E02A, 1⟩, ⟨0x1E130, 0x1E136, 1⟩, ⟨0x1E2AE, 0x1E2AE, 1⟩,
   ⟨0x1E2EC, 0x1E2EF, 1⟩, ⟨0x1E8D0, 0x1E8D6, 1⟩, ⟨0x1E944, 0x1E94A, 1⟩, ⟨0xE0100, 0xE01EF, 1⟩]

/-! ## 2. Directions of characters that stand in names -/

/-- Marks that take no room of their own. -/
def attachedRanges : List CodeRange :=
  [⟨0x300, 0x33F, 1⟩, ⟨0x342, 0x342, 1⟩, ⟨0x346, 0x34E, 1⟩, ⟨0x350, 0x36F, 1⟩, ⟨0x483, 0x487, 1⟩,
   ⟨0x591, 0x5BD, 1⟩, ⟨0x5BF, 0x5BF, 1⟩, ⟨0x5C1, 0x5C2, 1⟩, ⟨0x5C4, 0x5C5, 1⟩, ⟨0x5C7, 0x5C7, 1⟩,
   ⟨0x610, 0x61A, 1⟩, ⟨0x64B, 0x65F, 1⟩, ⟨0x670, 0x670, 1⟩, ⟨0x6D6, 0x6DC, 1⟩, ⟨0x6DF, 0x6E4, 1⟩,
   ⟨0x6E7, 0x6E8, 1⟩, ⟨0x6EA, 0x6ED, 1⟩, ⟨0x711, 0x711, 1⟩, ⟨0x730, 0x74A, 1⟩, ⟨0x7A6, 0x7B0, 1⟩,
   ⟨0x7EB, 0x7F3, 1⟩, ⟨0x7FD, 0x7FD, 1⟩, ⟨0x816, 0x819, 1⟩, ⟨0x81B, 0x823, 1⟩, ⟨0x825, 0x827, 1⟩,
   ⟨0x829, 0x82D, 1⟩, ⟨0x859, 0x85B, 1⟩, ⟨0x898, 0x89F, 1⟩, ⟨0x8CA, 0x8E1, 1⟩, ⟨0x8E3, 0x902, 1⟩,
   ⟨0x93A, 0x93C, 2⟩, ⟨0x941, 0x948, 1⟩, ⟨0x94D, 0x94D, 1⟩, ⟨0x951, 0x957, 1⟩, ⟨0x962, 0x963, 1⟩,
   ⟨0x981, 0x981, 1⟩, ⟨0x9BC, 0x9BC, 1⟩, ⟨0x9C1, 0x9C4, 1⟩, ⟨0x9CD, 0x9CD, 1⟩, ⟨0x9E2, 0x9E3, 1⟩,
   ⟨0x9FE, 0x9FE, 1⟩, ⟨0xA01, 0xA02, 1⟩, ⟨0xA3C, 0xA3C, 1⟩, ⟨0xA41, 0xA42, 1⟩, ⟨0xA47, 0xA48, 1⟩,
   ⟨0xA4B, 0xA4D, 1⟩, ⟨0xA51, 0xA51, 1⟩, ⟨0xA70, 0xA71, 1⟩, ⟨0xA75, 0xA75, 1⟩, ⟨0xA81, 0xA82, 1⟩,
   ⟨0xABC, 0xABC, 1⟩, ⟨0xAC1, 0xAC5, 1⟩, ⟨0xAC7, 0xAC8, 1⟩, ⟨0xACD, 0xACD, 1⟩, ⟨0xAE2, 0xAE3, 1⟩,
   ⟨0xAFA, 0xAFF, 1⟩, ⟨0xB01, 0xB01, 1⟩, ⟨0xB3C, 0xB3C, 1⟩, ⟨0xB3F, 0xB3F, 1⟩, ⟨0xB41, 0xB44, 1⟩,
   ⟨0xB4D, 0xB4D, 1⟩, ⟨0xB55, 0xB56, 1⟩, ⟨0xB62, 0xB63, 1⟩, ⟨0xB82, 0xB82, 1⟩, ⟨0xBC0, 0xBC0, 1⟩,
   ⟨0xBCD, 0xBCD, 1⟩, ⟨0xC00, 0xC00, 1⟩, ⟨0xC04, 0xC04, 1⟩, ⟨0xC3C, 0xC3C, 1⟩, ⟨0xC3E, 0xC40, 1⟩,
   ⟨0xC46, 0xC48, 1⟩, ⟨0xC4A, 0xC4D, 1⟩, ⟨0xC55, 0xC56, 1⟩, ⟨0xC62, 0xC63, 1⟩, ⟨0xC81, 0xC81, 1⟩,
   ⟨0xCBC, 0xCBC, 1⟩, ⟨0xCCC, 0xCCD, 1⟩, ⟨0xCE2, 0xCE3, 1⟩, ⟨0xD00, 0xD01, 1⟩, ⟨0xD3B, 0xD3C, 1⟩,
   ⟨0xD41, 0xD44, 1⟩, ⟨0xD4D, 0xD4D, 1⟩, ⟨0xD62, 0xD63, 1⟩, ⟨0xD81, 0xD81, 1⟩, ⟨0xDCA, 0xDCA, 1⟩,
   ⟨0xDD2, 0xDD4, 1⟩, ⟨0xDD6, 0xDD6, 1⟩, ⟨0xE31, 0xE31, 1⟩, ⟨0xE34, 0xE3A, 1⟩, ⟨0xE47, 0xE4E, 1⟩,
   ⟨0xEB1, 0xEB1, 1⟩, ⟨0xEB4, 0xEBC, 1⟩, ⟨0xEC8, 0xECD, 1⟩, ⟨0xF18, 0xF19, 1⟩, ⟨0xF35, 0xF39, 2⟩,
   ⟨0xF71, 0xF72, 1⟩, ⟨0xF74, 0xF74, 1⟩, ⟨0xF7A, 0xF7E, 1⟩, ⟨0xF80, 0xF80, 1⟩, ⟨0xF82, 0xF84, 1⟩,
   ⟨0xF86, 0xF87, 1⟩, ⟨0xF8D, 0xF92, 1⟩, ⟨0xF94, 0xF97, 1⟩, ⟨0xF99, 0xF9C, 1⟩, ⟨0xF9E, 0xFA1, 1⟩,
   ⟨0xFA3, 0xFA6, 1⟩, ⟨0xFA8, 0xFAB, 1⟩, ⟨0xFAD, 0xFB8, 1⟩, ⟨0xFBA, 0xFBC, 1⟩, ⟨0xFC6, 0xFC6, 1⟩,
   ⟨0x102D, 0x1030, 1⟩, ⟨0x1032, 0x1037, 1⟩, ⟨0x1039, 0x103A, 1⟩, ⟨0x103D, 0x103E, 1⟩,
   ⟨0x1058, 0x1059, 1⟩, ⟨0x105E, 0x1060, 1⟩, ⟨0x1071, 0x1074, 1⟩, ⟨0x1082, 0x1082, 1⟩,
   ⟨0x1085, 0x1086, 1⟩, ⟨0x108D, 0x108D, 1⟩, ⟨0x109D, 0x109D, 1⟩, ⟨0x135D, 0x135F, 1⟩,
   ⟨0x1712, 0x1714, 1⟩, ⟨0x1732, 0x1733, 1⟩, ⟨0x1752, 0x1753, 1⟩, ⟨0x1772, 0x1773, 1⟩,
   ⟨0x17B7, 0x17BD, 1⟩, ⟨0x17C6, 0x17C6, 1⟩, ⟨0x17C9, 0x17D3, 1⟩, ⟨0x17DD, 0x17DD, 1⟩,
   ⟨0x1885, 0x1886, 1⟩, ⟨0x18A9, 0x18A9, 1⟩, ⟨0x1920, 0x1922, 1⟩, ⟨0x1927, 0x1928, 1⟩,
   ⟨0x1932, 0x1932, 1⟩, ⟨0x1939, 0x193B, 1⟩, ⟨0x1A17, 0x1A18, 1⟩, ⟨0x1A1B, 0x1A1B, 1⟩,
   ⟨0x1A56, 0x1A56, 1⟩, ⟨0x1A58, 0x1A5E, 1⟩, ⟨0x1A60, 0x1A62, 2⟩, ⟨0x1A65, 0x1A6C, 1⟩,
   ⟨0x1A73, 0x1A7C, 1⟩, ⟨0x1A7F, 0x1A7F, 1⟩, ⟨0x1AB0, 0x1ABD, 1⟩, ⟨0x1ABF, 0x1ACE, 1⟩,
   ⟨0x1B00, 0x1B03, 1⟩, ⟨0x1B34, 0x1B34, 1⟩, ⟨0x1B36, 0x1B3A, 1⟩, ⟨0x1B3C, 0x1B3C, 1⟩,
   ⟨0x1B42, 0x1B42, 1⟩, ⟨0x1B6B, 0x1B73, 1⟩, ⟨0x1B80, 0x1B81, 1⟩, ⟨0x1BA2, 0x1BA5, 1⟩,
   ⟨0x1BA8, 0x1BA9, 1⟩, ⟨0x1BAB, 0x1BAD, 1⟩, ⟨0x1BE6, 0x1BE6, 1⟩, ⟨0x1BE8, 0x1BE9, 1⟩,
   ⟨0x1BED, 0x1BED, 1⟩, ⟨0x1BEF, 0x1BF1, 1⟩, ⟨0x1C2C, 0x1C33, 1⟩, ⟨0x1C36, 0x1C37, 1⟩,
   ⟨0x1CD0, 0x1CD2, 1⟩, ⟨0x1CD4, 0x1CE0, 1⟩, ⟨0x1CE2, 0x1CE8, 1⟩, ⟨0x1CED, 0x1CED, 1⟩,
   ⟨0x1CF4, 0x1CF4, 1⟩, ⟨0x1CF8, 0x1CF9, 1⟩, ⟨0x1DC0, 0x1DFF, 1⟩, ⟨0x2CEF, 0x2CF1, 1⟩,
   ⟨0x2D7F, 0x2D7F, 1⟩, ⟨0x2DE0, 0x2DFF, 1⟩, ⟨0x302A, 0x302D, 1⟩, ⟨0x3099, 0x309A, 1⟩,
   ⟨0xA66F, 0xA66F, 1⟩, ⟨0xA674, 0xA67D, 1⟩, ⟨0xA69E, 0xA69F, 1⟩, ⟨0xA6F0, 0xA6F1, 1⟩,
   ⟨0xA802, 0xA802, 1⟩, ⟨0xA806, 0xA806, 1⟩, ⟨0xA80B, 0xA80B, 1⟩, ⟨0xA825, 0xA826, 1⟩,
   ⟨0xA82C, 0xA82C, 1⟩, ⟨0xA8C4, 0xA8C5, 1⟩, ⟨0xA8E0, 0xA8F1, 1⟩, ⟨0xA8FF, 0xA8FF, 1⟩,
   ⟨0xA926, 0xA92D, 1⟩, ⟨0xA947, 0xA951, 1⟩, ⟨0xA980, 0xA982, 1⟩, ⟨0xA9B3, 0xA9B3, 1⟩,
   ⟨0xA9B6, 0xA9B9, 1⟩, ⟨0xA9BC, 0xA9BD, 1⟩, ⟨0xA9E5, 0xA9E5, 1⟩, ⟨0xAA29, 0xAA2E, 1⟩,
   ⟨0xAA31, 0xAA32, 1⟩, ⟨0xAA35, 0xAA36, 1⟩, ⟨0xAA43, 0xAA43, 1⟩, ⟨0xAA4C, 0xAA4C, 1⟩,
   ⟨0xAA7C, 0xAA7C, 1⟩, ⟨0xAAB0, 0xAAB0, 1⟩, ⟨0xAAB2, 0xAAB4, 1⟩, ⟨0xAAB7, 0xAAB8, 1⟩,
   ⟨0xAABE, 0xAABF, 1⟩, ⟨0xAAC1, 0xAAC1, 1⟩, ⟨0xAAEC, 0xAAED, 1⟩, ⟨0xAAF6, 0xAAF6, 1⟩,
   ⟨0xABE5, 0xABE5, 1⟩, ⟨0xABE8, 0xABE8, 1⟩, ⟨0xABED, 0xABED, 1⟩, ⟨0xFB1E, 0xFB1E, 1⟩,
   ⟨0xFE20, 0xFE2F, 1⟩, ⟨0x101FD, 0x101FD, 1⟩, ⟨0x102E0, 0x102E0, 1⟩, ⟨0x10376, 0x1037A, 1⟩,
   ⟨0x10A01, 0x10A03, 1⟩, ⟨0x10A05, 0x10A06, 1⟩, ⟨0x10A0C, 0x10A0F, 1⟩, ⟨0x10A38, 0x10A3A, 1⟩,
   ⟨0x10A3F, 0x10A3F, 1⟩, ⟨0x10AE5, 0x10AE6, 1⟩, ⟨0x10D24, 0x10D27, 1⟩, ⟨0x10EAB, 0x10EAC, 1⟩,
   ⟨0x10F46, 0x10F50, 1⟩, ⟨0x10F82, 0x10F85, 1⟩, ⟨0x11001, 0x11001, 1⟩, ⟨0x11038, 0x11046, 1⟩,
   ⟨0x11070, 0x11070, 1⟩, ⟨0x11073, 0x11074, 1⟩, ⟨0x1107F, 0x11081, 1⟩, ⟨0x110B3, 0x110B6, 1⟩,
   ⟨0x110B9, 0x110BA, 1⟩, ⟨0x110C2, 0x110C2, 1⟩, ⟨0x11100, 0x11102, 1⟩, ⟨0x11127, 0x1112B, 1⟩,
   ⟨0x1112D, 0x11134, 1⟩, ⟨0x11173, 0x11173, 1⟩, ⟨0x11180, 0x11181, 1⟩, ⟨0x111B6, 0x111BE, 1⟩,
   ⟨0x111C9, 0x111CC, 1⟩, ⟨0x111CF, 0x111CF, 1⟩, ⟨0x1122F, 0x11231, 1⟩, ⟨0x11234, 0x11234, 1⟩,
   ⟨0x11236, 0x11237, 1⟩, ⟨0x1123E, 0x1123E, 1⟩, ⟨0x112DF, 0x112DF, 1⟩, ⟨0x112E3, 0x112EA, 1⟩,
   ⟨0x11300, 0x11301, 1⟩, ⟨0x1133B, 0x1133C, 1⟩, ⟨0x11340, 0x11340, 1⟩, ⟨0x11366, 0x1136C, 1⟩,
   ⟨0x11370, 0x11374, 1⟩, ⟨0x11438, 0x1143F, 1⟩, ⟨0x11442, 0x11444, 1⟩, ⟨0x11446, 0x11446, 1⟩,
   ⟨0x1145E, 0x1145E, 1⟩, ⟨0x114B3, 0x114B8, 1⟩, ⟨0x114BA, 0x114BA, 1⟩, ⟨0x114BF, 0x114C0, 1⟩,
   ⟨0x114C2, 0x114C3, 1⟩, ⟨0x115B2, 0x115B5, 1⟩, ⟨0x115BC, 0x115BD, 1⟩, ⟨0x115BF, 0x115C0, 1⟩,
   ⟨0x115DC, 0x115DD, 1⟩, ⟨0x11633, 0x1163A, 1⟩, ⟨0x1163D, 0x1163D, 1⟩, ⟨0x1163F, 0x11640, 1⟩,
   ⟨0x116AB, 0x116AD, 2⟩, ⟨0x116B0, 0x116B5, 1⟩, ⟨0x116B7, 0x116B7, 1⟩, ⟨0x1171D, 0x1171F, 1⟩,
   ⟨0x11722, 0x11725, 1⟩, ⟨0x11727, 0x1172B, 1⟩, ⟨0x1182F, 0x11837, 1⟩, ⟨0x11839, 0x1183A, 1⟩,
   ⟨0x1193B, 0x1193C, 1⟩, ⟨0x1193E, 0x1193E, 1⟩, ⟨0x11943, 0x11943, 1⟩, ⟨0x119D4, 0x119D7, 1⟩,
   ⟨0x119DA, 0x119DB, 1⟩, ⟨0x119E0, 0x119E0, 1⟩, ⟨0x11A01, 0x11A06, 1⟩, ⟨0x11A09, 0x11A0A, 1⟩,
   ⟨0x11A33, 0x11A38, 1⟩, ⟨0x11A3B, 0x11A3E, 1⟩, ⟨0x11A47, 0x11A47, 1⟩, ⟨0x11A51, 0x11A56, 1⟩,
   ⟨0x11A59, 0x11A5B, 1⟩, ⟨0x11A8A, 0x11A96, 1⟩, ⟨0x11A98, 0x11A99, 1⟩, ⟨0x11C30, 0x11C36, 1⟩,
   ⟨0x11C38, 0x11C3D, 1⟩, ⟨0x11C92, 0x11CA7, 1⟩, ⟨0x11CAA, 0x11CB0, 1⟩, ⟨0x11CB2, 0x11CB3, 1⟩,
   ⟨0x11CB5, 0x11CB6, 1⟩, ⟨0x11D31, 0x11D36, 1⟩, ⟨0x11D3A, 0x11D3A, 1⟩, ⟨0x11D3C, 0x11D3D, 1⟩,
   ⟨0x11D3F, 0x11D45, 1⟩, ⟨0x11D47, 0x11D47, 1⟩, ⟨0x11D90, 0x11D91, 1⟩, ⟨0x11D95, 0x11D97, 2⟩,
   ⟨0x11EF3, 0x11EF4, 1⟩, ⟨0x16AF0, 0x16AF4, 1⟩, ⟨0x16B30, 0x16B36, 1⟩, ⟨0x16F4F, 0x16F4F, 1⟩,
   ⟨0x16F8F, 0x16F92, 1⟩, ⟨0x16FE4, 0x16FE4, 1⟩, ⟨0x1BC9D, 0x1BC9E, 1⟩, ⟨0x1CF00, 0x1CF2D, 1⟩,
   ⟨0x1CF30, 0x1CF46, 1⟩, ⟨0x1DA00, 0x1DA36, 1⟩, ⟨0x1DA3B, 0x1DA6C, 1⟩, ⟨0x1DA75, 0x1DA75, 1⟩,
   ⟨0x1DA84, 0x1DA84, 1⟩, ⟨0x1DA9B, 0x1DA9F, 1⟩, ⟨0x1DAA1, 0x1DAAF, 1⟩, ⟨0x1E000, 0x1E006, 1⟩,
   ⟨0x1E008, 0x1E018, 1⟩, ⟨0x1E01B, 0x1E021, 1⟩, ⟨0x1E023, 0x1E024, 1⟩, ⟨0x1E026, 0x1E02A, 1⟩,
   ⟨0x1E130, 0x1E136, 1⟩, ⟨0x1E2AE, 0x1E2AE, 1⟩, ⟨0x1E2EC, 0x1E2EF, 1⟩, ⟨0x1E8D0, 0x1E8D6, 1⟩,
   ⟨0x1E944, 0x1E94A, 1⟩]

/-- Letters written from the right to the left, the Arabic ones apart. -/
def rightRanges : List CodeRange :=
  [⟨0x5D0, 0x5EA, 1⟩, ⟨0x5EF, 0x5F4, 1⟩, ⟨0x7C0, 0x7EA, 1⟩, ⟨0x7F4, 0x7F5, 1⟩, ⟨0x800, 0x815, 1⟩,
   ⟨0x81A, 0x81A, 1⟩, ⟨0x824, 0x824, 1⟩, ⟨0x828, 0x828, 1⟩, ⟨0x840, 0x858, 1⟩,
   ⟨0x10800, 0x10805, 1⟩, ⟨0x10808, 0x10808, 1⟩, ⟨0x1080A, 0x10835, 1⟩, ⟨0x10837, 0x10838, 1⟩,
   ⟨0x1083C, 0x1083C, 1⟩, ⟨0x1083F, 0x10855, 1⟩, ⟨0x10860, 0x10876, 1⟩, ⟨0x10880, 0x1089E, 1⟩,
   ⟨0x108E0, 0x108F2, 1⟩, ⟨0x108F4, 0x108F5, 1⟩, ⟨0x10900, 0x10915, 1⟩, ⟨0x10920, 0x10939, 1⟩,
   ⟨0x10980, 0x109B7, 1⟩, ⟨0x109BE, 0x109BF, 1⟩, ⟨0x10A00, 0x10A00, 1⟩, ⟨0x10A10, 0x10A13, 1⟩,
   ⟨0x10A15, 0x10A17, 1⟩, ⟨0x10A19, 0x10A35, 1⟩, ⟨0x10A60, 0x10A7C, 1⟩, ⟨0x10A80, 0x10A9C, 1⟩,
   ⟨0x10AC0, 0x10AC7, 1⟩, ⟨0x10AC9, 0x10AE4, 1⟩, ⟨0x10B00, 0x10B35, 1⟩, ⟨0x10B40, 0x10B55, 1⟩,
   ⟨0x10B60, 0x10B72, 1⟩, ⟨0x10B80, 0x10B91, 1⟩, ⟨0x10C00, 0x10C48, 1⟩, ⟨0x10CC0, 0x10CF2, 1⟩,
   ⟨0x10E80, 0x10EA9, 1⟩, ⟨0x10EB0, 0x10EB1, 1⟩, ⟨0x10F00, 0x10F1C, 1⟩, ⟨0x10F27, 0x10F27, 1⟩,
   ⟨0x10F70, 0x10F81, 1⟩, ⟨0x10FB0, 0x10FC4, 1⟩, ⟨0x10FE0, 0x10FF6, 1⟩, ⟨0x1E800, 0x1E8C4, 1⟩,
   ⟨0x1E922, 0x1E943, 1⟩, ⟨0x1E94B, 0x1E94B, 1⟩, ⟨0x1E950, 0x1E959, 1⟩]

/-- Letters of the Arabic kind. -/
def arabicRanges : List CodeRange :=
  [⟨0x620, 0x63F, 1⟩, ⟨0x641, 0x64A, 1⟩, ⟨0x66E, 0x66F, 1⟩, ⟨0x671, 0x674, 1⟩, ⟨0x679, 0x6D3, 1⟩,
   ⟨0x6D5, 0x6D5, 1⟩, ⟨0x6E5, 0x6E6, 1⟩, ⟨0x6EE, 0x6EF, 1⟩, ⟨0x6FA, 0x6FF, 1⟩, ⟨0x710, 0x710, 1⟩,
   ⟨0x712, 0x72F, 1⟩, ⟨0x74D, 0x7A5, 1⟩, ⟨0x7B1, 0x7B1, 1⟩, ⟨0x860, 0x86A, 1⟩, ⟨0x870, 0x887, 1⟩,
   ⟨0x889, 0x88E, 1⟩, ⟨0x8A0, 0x8C9, 1⟩, ⟨0xFE73, 0xFE73, 1⟩, ⟨0x10D00, 0x10D23, 1⟩,
   ⟨0x10F30, 0x10F45, 1⟩]

/-- Digits of the Arabic kind. -/
def arabicNumberRanges : List CodeRange :=
  [⟨0x660, 0x669, 1⟩, ⟨0x10D30, 0x10D39, 1⟩]

/-- Digits of the European kind. -/
def numberRanges : List CodeRange :=
  [⟨0x30, 0x39, 1⟩, ⟨0x6F0, 0x6F9, 1⟩]

/-- Characters that take the direction of their neighbours. -/
def neutralRanges : List CodeRange :=
  [⟨0x2D, 0x2D, 1⟩, ⟨0xB7, 0xB7, 1⟩, ⟨0x2B9, 0x2BA, 1⟩, ⟨0x2C6, 0x2CF, 1⟩, ⟨0x2EC, 0x2EC, 1⟩,
   ⟨0x375, 0x375, 1⟩, ⟨0x200C, 0x200D, 1⟩, ⟨0x2E2F, 0x2E2F, 1⟩, ⟨0x30FB, 0x30FB, 1⟩,
   ⟨0xA67F, 0xA67F, 1⟩, ⟨0xA717, 0xA71F, 1⟩, ⟨0xA788, 0xA788, 1⟩]

/-- Characters of which no direction is known. -/
def unknownRanges : List CodeRange :=
  [⟨0x5C8, 0x5C8, 1⟩, ⟨0x88F, 0x88F, 1⟩, ⟨0x897, 0x897, 1⟩, ⟨0xC5C, 0xC5C, 1⟩, ⟨0xCDC, 0xCDC, 1⟩,
   ⟨0xCF3, 0xCF3, 1⟩, ⟨0xECE, 0xECE, 1⟩, ⟨0x1ACF, 0x1ADD, 1⟩, ⟨0x1AE0, 0x1AEB, 1⟩,
   ⟨0x1C8A, 0x1C8A, 1⟩, ⟨0xA7CD, 0xA7CF, 2⟩, ⟨0xA7DB, 0xA7DB, 1⟩, ⟨0x105C0, 0x105F3, 1⟩,
   ⟨0x10940, 0x10959, 1⟩, ⟨0x10D40, 0x10D4F, 1⟩, ⟨0x10D69, 0x10D6D, 1⟩, ⟨0x10D6F, 0x10D85, 1⟩,
   ⟨0x10EC2, 0x10EC7, 1⟩, ⟨0x10EFA, 0x10EFF, 1⟩, ⟨0x1123F, 0x11241, 1⟩, ⟨0x11380, 0x11389, 1⟩,
   ⟨0x1138B, 0x1138B, 1⟩, ⟨0x1138E, 0x1138E, 1⟩, ⟨0x11390, 0x113B5, 1⟩, ⟨0x113B7, 0x113C0, 1⟩,
   ⟨0x113C2, 0x113C2, 1⟩, ⟨0x113C5, 0x113C5, 1⟩, ⟨0x113C7, 0x113CA, 1⟩, ⟨0x113CC, 0x113D3, 1⟩,
   ⟨0x113E1, 0x113E2, 1⟩, ⟨0x116D0, 0x116E3, 1⟩, ⟨0x11B60, 0x11B67, 1⟩, ⟨0x11BC0, 0x11BE0, 1⟩,
   ⟨0x11BF0, 0x11BF9, 1⟩, ⟨0x11DB0, 0x11DDB, 1⟩, ⟨0x11DE0, 0x11DE9, 1⟩, ⟨0x11F00, 0x11F10, 1⟩,
   ⟨0x11F12, 0x11F3A, 1⟩, ⟨0x11F3E, 0x11F42, 1⟩, ⟨0x11F50, 0x11F5A, 1⟩, ⟨0x1342F, 0x1342F, 1⟩,
   ⟨0x13440, 0x13455, 1⟩, ⟨0x13460, 0x143FA, 1⟩, ⟨0x16100, 0x16139, 1⟩, ⟨0x16D40, 0x16D6C, 1⟩,
   ⟨0x16D70, 0x16D79, 1⟩, ⟨0x16EBB, 0x16ED3, 1⟩, ⟨0x16FF2, 0x16FF3, 1⟩, ⟨0x187F8, 0x187FF, 1⟩,
   ⟨0x18CFF, 0x18CFF, 1⟩, ⟨0x18D09, 0x18D1E, 1⟩, ⟨0x18D80, 0x18DF2, 1⟩, ⟨0x1B132, 0x1B132, 1⟩,
   ⟨0x1B155, 0x1B155, 1⟩, ⟨0x1DF25, 0x1DF2A, 1⟩, ⟨0x1E08F, 0x1E08F, 1⟩, ⟨0x1E4D0, 0x1E4F9, 1⟩,
   ⟨0x1E5D0, 0x1E5FA, 1⟩, ⟨0x1E6C0, 0x1E6DE, 1⟩, ⟨0x1E6E0, 0x1E6F5, 1⟩, ⟨0x1E6FE, 0x1E6FF, 1⟩,
   ⟨0x2B739, 0x2B73F, 1⟩, ⟨0x2CEA2, 0x2CEAD, 1⟩, ⟨0x2EBF0, 0x2EE5D, 1⟩, ⟨0x31350, 0x33479, 1⟩]

/-- Characters of which nothing but the direction is known. -/
def unnamedRanges : List CodeRange :=
  [⟨0x17000, 0x187F7, 1⟩, ⟨0x18D00, 0x18D08, 1⟩]

/-! ## 3. Joining and scripts -/

/-- Letters that join on both sides. -/
def joiningRanges : List CodeRange :=
  [⟨0x620, 0x620, 1⟩, ⟨0x626, 0x628, 2⟩, ⟨0x62A, 0x62E, 1⟩, ⟨0x633, 0x63F, 1⟩, ⟨0x641, 0x647, 1⟩,
   ⟨0x649, 0x64A, 1⟩, ⟨0x66E, 0x66F, 1⟩, ⟨0x678, 0x687, 1⟩, ⟨0x69A, 0x6BF, 1⟩, ⟨0x6C1, 0x6C2, 1⟩,
   ⟨0x6CC, 0x6CE, 2⟩, ⟨0x6D0, 0x6D1, 1⟩, ⟨0x6FA, 0x6FC, 1⟩, ⟨0x6FF, 0x6FF, 1⟩, ⟨0x712, 0x714, 1⟩,
   ⟨0x71A, 0x71D, 1⟩, ⟨0x71F, 0x727, 1⟩, ⟨0x729, 0x72B, 2⟩, ⟨0x72D, 0x72E, 1⟩, ⟨0x74E, 0x758, 1⟩,
   ⟨0x75C, 0x76A, 1⟩, ⟨0x76D, 0x770, 1⟩, ⟨0x772, 0x772, 1⟩, ⟨0x775, 0x777, 1⟩, ⟨0x77A, 0x77F, 1⟩,
   ⟨0x7CA, 0x7EA, 1⟩, ⟨0x841, 0x845, 1⟩, ⟨0x848, 0x848, 1⟩, ⟨0x84A, 0x853, 1⟩, ⟨0x855, 0x855, 1⟩,
   ⟨0x860, 0x860, 1⟩, ⟨0x862, 0x865, 1⟩, ⟨0x868, 0x868, 1⟩, ⟨0x886, 0x886, 1⟩, ⟨0x889, 0x88D, 1⟩,
   ⟨0x88F, 0x88F, 1⟩, ⟨0x8A0, 0x8A9, 1⟩, ⟨0x8AF, 0x8B0, 1⟩, ⟨0x8B3, 0x8B8, 1⟩, ⟨0x8BA, 0x8C8, 1⟩,
   ⟨0x1807, 0x1807, 1⟩, ⟨0x1820, 0x1878, 1⟩, ⟨0x1887, 0x18A8, 1⟩, ⟨0x18AA, 0x18AA, 1⟩,
   ⟨0xA840, 0xA871, 1⟩, ⟨0x10AC0, 0x10AC4, 1⟩, ⟨0x10AD3, 0x10AD6, 1⟩, ⟨0x10AD8, 0x10ADC, 1⟩,
   ⟨0x10ADE, 0x10AE0, 1⟩, ⟨0x10AEB, 0x10AEE, 1⟩, ⟨0x10B80, 0x10B82, 2⟩, ⟨0x10B86, 0x10B88, 1⟩,
   ⟨0x10B8A, 0x10B8B, 1⟩, ⟨0x10B8D, 0x10B8D, 1⟩, ⟨0x10B90, 0x10B90, 1⟩, ⟨0x10BAD, 0x10BAE, 1⟩,
   ⟨0x10D01, 0x10D21, 1⟩, ⟨0x10D23, 0x10D23, 1⟩, ⟨0x10EC3, 0x10EC4, 1⟩, ⟨0x10EC6, 0x10EC7, 1⟩,
   ⟨0x10F30, 0x10F32, 1⟩, ⟨0x10F34, 0x10F44, 1⟩, ⟨0x10F51, 0x10F53, 1⟩, ⟨0x10F70, 0x10F73, 1⟩,
   ⟨0x10F76, 0x10F81, 1⟩, ⟨0x10FB0, 0x10FB0, 1⟩, ⟨0x10FB2, 0x10FB3, 1⟩, ⟨0x10FB8, 0x10FB8, 1⟩,
   ⟨0x10FBB, 0x10FBC, 1⟩, ⟨0x10FBE, 0x10FBF, 1⟩, ⟨0x10FC1, 0x10FC1, 1⟩, ⟨0x10FC4, 0x10FC4, 1⟩,
   ⟨0x10FCA, 0x10FCA, 1⟩, ⟨0x1E900, 0x1E943, 1⟩]

/-- Letters that join to the one before them. -/
def joiningBeforeRanges : List CodeRange :=
  [⟨0x622, 0x625, 1⟩, ⟨0x627, 0x629, 2⟩, ⟨0x62F, 0x632, 1⟩, ⟨0x648, 0x648, 1⟩, ⟨0x671, 0x673, 1⟩,
   ⟨0x675, 0x677, 1⟩, ⟨0x688, 0x699, 1⟩, ⟨0x6C0, 0x6C0, 1⟩, ⟨0x6C3, 0x6CB, 1⟩, ⟨0x6CD, 0x6CF, 2⟩,
   ⟨0x6D2, 0x6D3, 1⟩, ⟨0x6D5, 0x6D5, 1⟩, ⟨0x6EE, 0x6EF, 1⟩, ⟨0x710, 0x710, 1⟩, ⟨0x715, 0x719, 1⟩,
   ⟨0x71E, 0x71E, 1⟩, ⟨0x728, 0x72C, 2⟩, ⟨0x72F, 0x72F, 1⟩, ⟨0x74D, 0x74D, 1⟩, ⟨0x759, 0x75B, 1⟩,
   ⟨0x76B, 0x76C, 1⟩, ⟨0x771, 0x771, 1⟩, ⟨0x773, 0x774, 1⟩, ⟨0x778, 0x779, 1⟩, ⟨0x840, 0x840, 1⟩,
   ⟨0x846, 0x847, 1⟩, ⟨0x849, 0x849, 1⟩, ⟨0x854, 0x854, 1⟩, ⟨0x856, 0x858, 1⟩, ⟨0x867, 0x867, 1⟩,
   ⟨0x869, 0x86A, 1⟩, ⟨0x870, 0x882, 1⟩, ⟨0x88E, 0x88E, 1⟩, ⟨0x8AA, 0x8AC, 1⟩, ⟨0x8AE, 0x8AE, 1⟩,
   ⟨0x8B1, 0x8B2, 1⟩, ⟨0x8B9, 0x8B9, 1⟩, ⟨0x10AC5, 0x10AC7, 2⟩, ⟨0x10AC9, 0x10ACA, 1⟩,
   ⟨0x10ACE, 0x10AD2, 1⟩, ⟨0x10ADD, 0x10ADD, 1⟩, ⟨0x10AE1, 0x10AE1, 1⟩, ⟨0x10AE4, 0x10AE4, 1⟩,
   ⟨0x10AEF, 0x10AEF, 1⟩, ⟨0x10B81, 0x10B81, 1⟩, ⟨0x10B83, 0x10B85, 1⟩, ⟨0x10B89, 0x10B89, 1⟩,
   ⟨0x10B8C, 0x10B8C, 1⟩, ⟨0x10B8E, 0x10B8F, 1⟩, ⟨0x10B91, 0x10B91, 1⟩, ⟨0x10BA9, 0x10BAC, 1⟩,
   ⟨0x10D22, 0x10D22, 1⟩, ⟨0x10EC2, 0x10EC2, 1⟩, ⟨0x10F33, 0x10F33, 1⟩, ⟨0x10F54, 0x10F54, 1⟩,
   ⟨0x10F74, 0x10F75, 1⟩, ⟨0x10FB4, 0x10FB6, 1⟩, ⟨0x10FB9, 0x10FBA, 1⟩, ⟨0x10FBD, 0x10FBD, 1⟩,
   ⟨0x10FC2, 0x10FC3, 1⟩, ⟨0x10FC9, 0x10FC9, 1⟩]

/-- Letters that join to the one after them. -/
def joiningAfterRanges : List CodeRange :=
  [⟨0xA872, 0xA872, 1⟩, ⟨0x10ACD, 0x10ACD, 1⟩, ⟨0x10AD7, 0x10AD7, 1⟩, ⟨0x10D00, 0x10D00, 1⟩,
   ⟨0x10FCB, 0x10FCB, 1⟩]

/-- Marks over which letters join. -/
def joinedOverRanges : List CodeRange :=
  [⟨0xAD, 0xAD, 1⟩, ⟨0x300, 0x36F, 1⟩, ⟨0x483, 0x489, 1⟩, ⟨0x591, 0x5BD, 1⟩, ⟨0x5BF, 0x5BF, 1⟩,
   ⟨0x5C1, 0x5C2, 1⟩, ⟨0x5C4, 0x5C5, 1⟩, ⟨0x5C7, 0x5C7, 1⟩, ⟨0x610, 0x61A, 1⟩, ⟨0x61C, 0x61C, 1⟩,
   ⟨0x64B, 0x65F, 1⟩, ⟨0x670, 0x670, 1⟩, ⟨0x6D6, 0x6DC, 1⟩, ⟨0x6DF, 0x6E4, 1⟩, ⟨0x6E7, 0x6E8, 1⟩,
   ⟨0x6EA, 0x6ED, 1⟩, ⟨0x70F, 0x711, 2⟩, ⟨0x730, 0x74A, 1⟩, ⟨0x7A6, 0x7B0, 1⟩, ⟨0x7EB, 0x7F3, 1⟩,
   ⟨0x7FD, 0x7FD, 1⟩, ⟨0x816, 0x819, 1⟩, ⟨0x81B, 0x823, 1⟩, ⟨0x825, 0x827, 1⟩, ⟨0x829, 0x82D, 1⟩,
   ⟨0x859, 0x85B, 1⟩, ⟨0x897, 0x89F, 1⟩, ⟨0x8CA, 0x8E1, 1⟩, ⟨0x8E3, 0x902, 1⟩, ⟨0x93A, 0x93C, 2⟩,
   ⟨0x941, 0x948, 1⟩, ⟨0x94D, 0x94D, 1⟩, ⟨0x951, 0x957, 1⟩, ⟨0x962, 0x963, 1⟩, ⟨0x981, 0x981, 1⟩,
   ⟨0x9BC, 0x9BC, 1⟩, ⟨0x9C1, 0x9C4, 1⟩, ⟨0x9CD, 0x9CD, 1⟩, ⟨0x9E2, 0x9E3, 1⟩, ⟨0x9FE, 0x9FE, 1⟩,
   ⟨0xA01, 0xA02, 1⟩, ⟨0xA3C, 0xA3C, 1⟩, ⟨0xA41, 0xA42, 1⟩, ⟨0xA47, 0xA48, 1⟩, ⟨0xA4B, 0xA4D, 1⟩,
   ⟨0xA51, 0xA51, 1⟩, ⟨0xA70, 0xA71, 1⟩, ⟨0xA75, 0xA75, 1⟩, ⟨0xA81, 0xA82, 1⟩, ⟨0xABC, 0xABC, 1⟩,
   ⟨0xAC1, 0xAC5, 1⟩, ⟨0xAC7, 0xAC8, 1⟩, ⟨0xACD, 0xACD, 1⟩, ⟨0xAE2, 0xAE3, 1⟩, ⟨0xAFA, 0xAFF, 1⟩,
   ⟨0xB01, 0xB01, 1⟩, ⟨0xB3C, 0xB3C, 1⟩, ⟨0xB3F, 0xB3F, 1⟩, ⟨0xB41, 0xB44, 1⟩, ⟨0xB4D, 0xB4D, 1⟩,
   ⟨0xB55, 0xB56, 1⟩, ⟨0xB62, 0xB63, 1⟩, ⟨0xB82, 0xB82, 1⟩, ⟨0xBC0, 0xBC0, 1⟩, ⟨0xBCD, 0xBCD, 1⟩,
   ⟨0xC00, 0xC00, 1⟩, ⟨0xC04, 0xC04, 1⟩, ⟨0xC3C, 0xC3C, 1⟩, ⟨0xC3E, 0xC40, 1⟩, ⟨0xC46, 0xC48, 1⟩,
   ⟨0xC4A, 0xC4D, 1⟩, ⟨0xC55, 0xC56, 1⟩, ⟨0xC62, 0xC63, 1⟩, ⟨0xC81, 0xC81, 1⟩, ⟨0xCBC, 0xCBC, 1⟩,
   ⟨0xCBF, 0xCBF, 1⟩, ⟨0xCC6, 0xCC6, 1⟩, ⟨0xCCC, 0xCCD, 1⟩, ⟨0xCE2, 0xCE3, 1⟩, ⟨0xD00, 0xD01, 1⟩,
   ⟨0xD3B, 0xD3C, 1⟩, ⟨0xD41, 0xD44, 1⟩, ⟨0xD4D, 0xD4D, 1⟩, ⟨0xD62, 0xD63, 1⟩, ⟨0xD81, 0xD81, 1⟩,
   ⟨0xDCA, 0xDCA, 1⟩, ⟨0xDD2, 0xDD4, 1⟩, ⟨0xDD6, 0xDD6, 1⟩, ⟨0xE31, 0xE31, 1⟩, ⟨0xE34, 0xE3A, 1⟩,
   ⟨0xE47, 0xE4E, 1⟩, ⟨0xEB1, 0xEB1, 1⟩, ⟨0xEB4, 0xEBC, 1⟩, ⟨0xEC8, 0xECE, 1⟩, ⟨0xF18, 0xF19, 1⟩,
   ⟨0xF35, 0xF39, 2⟩, ⟨0xF71, 0xF7E, 1⟩, ⟨0xF80, 0xF84, 1⟩, ⟨0xF86, 0xF87, 1⟩, ⟨0xF8D, 0xF97, 1⟩,
   ⟨0xF99, 0xFBC, 1⟩, ⟨0xFC6, 0xFC6, 1⟩, ⟨0x102D, 0x1030, 1⟩, ⟨0x1032, 0x1037, 1⟩,
   ⟨0x1039, 0x103A, 1⟩, ⟨0x103D, 0x103E, 1⟩, ⟨0x1058, 0x1059, 1⟩, ⟨0x105E, 0x1060, 1⟩,
   ⟨0x1071, 0x1074, 1⟩, ⟨0x1082, 0x1082, 1⟩, ⟨0x1085, 0x1086, 1⟩, ⟨0x108D, 0x108D, 1⟩,
   ⟨0x109D, 0x109D, 1⟩, ⟨0x135D, 0x135F, 1⟩, ⟨0x1712, 0x1714, 1⟩, ⟨0x1732, 0x1733, 1⟩,
   ⟨0x1752, 0x1753, 1⟩, ⟨0x1772, 0x1773, 1⟩, ⟨0x17B4, 0x17B5, 1⟩, ⟨0x17B7, 0x17BD, 1⟩,
   ⟨0x17C6, 0x17C6, 1⟩, ⟨0x17C9, 0x17D3, 1⟩, ⟨0x17DD, 0x17DD, 1⟩, ⟨0x180B, 0x180D, 1⟩,
   ⟨0x180F, 0x180F, 1⟩, ⟨0x1885, 0x1886, 1⟩, ⟨0x18A9, 0x18A9, 1⟩, ⟨0x1920, 0x1922, 1⟩,
   ⟨0x1927, 0x1928, 1⟩, ⟨0x1932, 0x1932, 1⟩, ⟨0x1939, 0x193B, 1⟩, ⟨0x1A17, 0x1A18, 1⟩,
   ⟨0x1A1B, 0x1A1B, 1⟩, ⟨0x1A56, 0x1A56, 1⟩, ⟨0x1A58, 0x1A5E, 1⟩, ⟨0x1A60, 0x1A62, 2⟩,
   ⟨0x1A65, 0x1A6C, 1⟩, ⟨0x1A73, 0x1A7C, 1⟩, ⟨0x1A7F, 0x1A7F, 1⟩, ⟨0x1AB0, 0x1ADD, 1⟩,
   ⟨0x1AE0, 0x1AEB, 1⟩, ⟨0x1B00, 0x1B03, 1⟩, ⟨0x1B34, 0x1B34, 1⟩, ⟨0x1B36, 0x1B3A, 1⟩,
   ⟨0x1B3C, 0x1B3C, 1⟩, ⟨0x1B42, 0x1B42, 1⟩, ⟨0x1B6B, 0x1B73, 1⟩, ⟨0x1B80, 0x1B81, 1⟩,
   ⟨0x1BA2, 0x1BA5, 1⟩, ⟨0x1BA8, 0x1BA9, 1⟩, ⟨0x1BAB, 0x1BAD, 1⟩, ⟨0x1BE6, 0x1BE6, 1⟩,
   ⟨0x1BE8, 0x1BE9, 1⟩, ⟨0x1BED, 0x1BED, 1⟩, ⟨0x1BEF, 0x1BF1, 1⟩, ⟨0x1C2C, 0x1C33, 1⟩,
   ⟨0x1C36, 0x1C37, 1⟩, ⟨0x1CD0, 0x1CD2, 1⟩, ⟨0x1CD4, 0x1CE0, 1⟩, ⟨0x1CE2, 0x1CE8, 1⟩,
   ⟨0x1CED, 0x1CED, 1⟩, ⟨0x1CF4, 0x1CF4, 1⟩, ⟨0x1CF8, 0x1CF9, 1⟩, ⟨0x1DC0, 0x1DFF, 1⟩,
   ⟨0x200B, 0x200B, 1⟩, ⟨0x200E, 0x200F, 1⟩, ⟨0x202A, 0x202E, 1⟩, ⟨0x2060, 0x2064, 1⟩,
   ⟨0x206A, 0x206F, 1⟩, ⟨0x20D0, 0x20F0, 1⟩, ⟨0x2CEF, 0x2CF1, 1⟩, ⟨0x2D7F, 0x2D7F, 1⟩,
   ⟨0x2DE0, 0x2DFF, 1⟩, ⟨0x302A, 0x302D, 1⟩, ⟨0x3099, 0x309A, 1⟩, ⟨0xA66F, 0xA672, 1⟩,
   ⟨0xA674, 0xA67D, 1⟩, ⟨0xA69E, 0xA69F, 1⟩, ⟨0xA6F0, 0xA6F1, 1⟩, ⟨0xA802, 0xA802, 1⟩,
   ⟨0xA806, 0xA806, 1⟩, ⟨0xA80B, 0xA80B, 1⟩, ⟨0xA825, 0xA826, 1⟩, ⟨0xA82C, 0xA82C, 1⟩,
   ⟨0xA8C4, 0xA8C5, 1⟩, ⟨0xA8E0, 0xA8F1, 1⟩, ⟨0xA8FF, 0xA8FF, 1⟩, ⟨0xA926, 0xA92D, 1⟩,
   ⟨0xA947, 0xA951, 1⟩, ⟨0xA980, 0xA982, 1⟩, ⟨0xA9B3, 0xA9B3, 1⟩, ⟨0xA9B6, 0xA9B9, 1⟩,
   ⟨0xA9BC, 0xA9BD, 1⟩, ⟨0xA9E5, 0xA9E5, 1⟩, ⟨0xAA29, 0xAA2E, 1⟩, ⟨0xAA31, 0xAA32, 1⟩,
   ⟨0xAA35, 0xAA36, 1⟩, ⟨0xAA43, 0xAA43, 1⟩, ⟨0xAA4C, 0xAA4C, 1⟩, ⟨0xAA7C, 0xAA7C, 1⟩,
   ⟨0xAAB0, 0xAAB0, 1⟩, ⟨0xAAB2, 0xAAB4, 1⟩, ⟨0xAAB7, 0xAAB8, 1⟩, ⟨0xAABE, 0xAABF, 1⟩,
   ⟨0xAAC1, 0xAAC1, 1⟩, ⟨0xAAEC, 0xAAED, 1⟩, ⟨0xAAF6, 0xAAF6, 1⟩, ⟨0xABE5, 0xABE5, 1⟩,
   ⟨0xABE8, 0xABE8, 1⟩, ⟨0xABED, 0xABED, 1⟩, ⟨0xFB1E, 0xFB1E, 1⟩, ⟨0xFE00, 0xFE0F, 1⟩,
   ⟨0xFE20, 0xFE2F, 1⟩, ⟨0xFEFF, 0xFEFF, 1⟩, ⟨0xFFF9, 0xFFFB, 1⟩, ⟨0x101FD, 0x101FD, 1⟩,
   ⟨0x102E0, 0x102E0, 1⟩, ⟨0x10376, 0x1037A, 1⟩, ⟨0x10A01, 0x10A03, 1⟩, ⟨0x10A05, 0x10A06, 1⟩,
   ⟨0x10A0C, 0x10A0F, 1⟩, ⟨0x10A38, 0x10A3A, 1⟩, ⟨0x10A3F, 0x10A3F, 1⟩, ⟨0x10AE5, 0x10AE6, 1⟩,
   ⟨0x10D24, 0x10D27, 1⟩, ⟨0x10D69, 0x10D6D, 1⟩, ⟨0x10EAB, 0x10EAC, 1⟩, ⟨0x10EFA, 0x10EFF, 1⟩,
   ⟨0x10F46, 0x10F50, 1⟩, ⟨0x10F82, 0x10F85, 1⟩, ⟨0x11001, 0x11001, 1⟩, ⟨0x11038, 0x11046, 1⟩,
   ⟨0x11070, 0x11070, 1⟩, ⟨0x11073, 0x11074, 1⟩, ⟨0x1107F, 0x11081, 1⟩, ⟨0x110B3, 0x110B6, 1⟩,
   ⟨0x110B9, 0x110BA, 1⟩, ⟨0x110C2, 0x110C2, 1⟩, ⟨0x11100, 0x11102, 1⟩, ⟨0x11127, 0x1112B, 1⟩,
   ⟨0x1112D, 0x11134, 1⟩, ⟨0x11173, 0x11173, 1⟩, ⟨0x11180, 0x11181, 1⟩, ⟨0x111B6, 0x111BE, 1⟩,
   ⟨0x111C9, 0x111CC, 1⟩, ⟨0x111CF, 0x111CF, 1⟩, ⟨0x1122F, 0x11231, 1⟩, ⟨0x11234, 0x11234, 1⟩,
   ⟨0x11236, 0x11237, 1⟩, ⟨0x1123E, 0x1123E, 1⟩, ⟨0x11241, 0x11241, 1⟩, ⟨0x112DF, 0x112DF, 1⟩,
   ⟨0x112E3, 0x112EA, 1⟩, ⟨0x11300, 0x11301, 1⟩, ⟨0x1133B, 0x1133C, 1⟩, ⟨0x11340, 0x11340, 1⟩,
   ⟨0x11366, 0x1136C, 1⟩, ⟨0x11370, 0x11374, 1⟩, ⟨0x113BB, 0x113C0, 1⟩, ⟨0x113CE, 0x113D2, 2⟩,
   ⟨0x113E1, 0x113E2, 1⟩, ⟨0x11438, 0x1143F, 1⟩, ⟨0x11442, 0x11444, 1⟩, ⟨0x11446, 0x11446, 1⟩,
   ⟨0x1145E, 0x1145E, 1⟩, ⟨0x114B3, 0x114B8, 1⟩, ⟨0x114BA, 0x114BA, 1⟩, ⟨0x114BF, 0x114C0, 1⟩,
   ⟨0x114C2, 0x114C3, 1⟩, ⟨0x115B2, 0x115B5, 1⟩, ⟨0x115BC, 0x115BD, 1⟩, ⟨0x115BF, 0x115C0, 1⟩,
   ⟨0x115DC, 0x115DD, 1⟩, ⟨0x11633, 0x1163A, 1⟩, ⟨0x1163D, 0x1163D, 1⟩, ⟨0x1163F, 0x11640, 1⟩,
   ⟨0x116AB, 0x116AD, 2⟩, ⟨0x116B0, 0x116B5, 1⟩, ⟨0x116B7, 0x116B7, 1⟩, ⟨0x1171D, 0x1171F, 2⟩,
   ⟨0x11722, 0x11725, 1⟩, ⟨0x11727, 0x1172B, 1⟩, ⟨0x1182F, 0x11837, 1⟩, ⟨0x11839, 0x1183A, 1⟩,
   ⟨0x1193B, 0x1193C, 1⟩, ⟨0x1193E, 0x1193E, 1⟩, ⟨0x11943, 0x11943, 1⟩, ⟨0x119D4, 0x119D7, 1⟩,
   ⟨0x119DA, 0x119DB, 1⟩, ⟨0x119E0, 0x119E0, 1⟩, ⟨0x11A01, 0x11A0A, 1⟩, ⟨0x11A33, 0x11A38, 1⟩,
   ⟨0x11A3B, 0x11A3E, 1⟩, ⟨0x11A47, 0x11A47, 1⟩, ⟨0x11A51, 0x11A56, 1⟩, ⟨0x11A59, 0x11A5B, 1⟩,
   ⟨0x11A8A, 0x11A96, 1⟩, ⟨0x11A98, 0x11A99, 1⟩, ⟨0x11B60, 0x11B60, 1⟩, ⟨0x11B62, 0x11B64, 1⟩,
   ⟨0x11B66, 0x11B66, 1⟩, ⟨0x11C30, 0x11C36, 1⟩, ⟨0x11C38, 0x11C3D, 1⟩, ⟨0x11C3F, 0x11C3F, 1⟩,
   ⟨0x11C92, 0x11CA7, 1⟩, ⟨0x11CAA, 0x11CB0, 1⟩, ⟨0x11CB2, 0x11CB3, 1⟩, ⟨0x11CB5, 0x11CB6, 1⟩,
   ⟨0x11D31, 0x11D36, 1⟩, ⟨0x11D3A, 0x11D3A, 1⟩, ⟨0x11D3C, 0x11D3D, 1⟩, ⟨0x11D3F, 0x11D45, 1⟩,
   ⟨0x11D47, 0x11D47, 1⟩, ⟨0x11D90, 0x11D91, 1⟩, ⟨0x11D95, 0x11D97, 2⟩, ⟨0x11EF3, 0x11EF4, 1⟩,
   ⟨0x11F00, 0x11F01, 1⟩, ⟨0x11F36, 0x11F3A, 1⟩, ⟨0x11F40, 0x11F42, 2⟩, ⟨0x11F5A, 0x11F5A, 1⟩,
   ⟨0x13430, 0x13440, 1⟩, ⟨0x13447, 0x13455, 1⟩, ⟨0x1611E, 0x16129, 1⟩, ⟨0x1612D, 0x1612F, 1⟩,
   ⟨0x16AF0, 0x16AF4, 1⟩, ⟨0x16B30, 0x16B36, 1⟩, ⟨0x16F4F, 0x16F4F, 1⟩, ⟨0x16F8F, 0x16F92, 1⟩,
   ⟨0x16FE4, 0x16FE4, 1⟩, ⟨0x1BC9D, 0x1BC9E, 1⟩, ⟨0x1BCA0, 0x1BCA3, 1⟩, ⟨0x1CF00, 0x1CF2D, 1⟩,
   ⟨0x1CF30, 0x1CF46, 1⟩, ⟨0x1D167, 0x1D169, 1⟩, ⟨0x1D173, 0x1D182, 1⟩, ⟨0x1D185, 0x1D18B, 1⟩,
   ⟨0x1D1AA, 0x1D1AD, 1⟩, ⟨0x1D242, 0x1D244, 1⟩, ⟨0x1DA00, 0x1DA36, 1⟩, ⟨0x1DA3B, 0x1DA6C, 1⟩,
   ⟨0x1DA75, 0x1DA75, 1⟩, ⟨0x1DA84, 0x1DA84, 1⟩, ⟨0x1DA9B, 0x1DA9F, 1⟩, ⟨0x1DAA1, 0x1DAAF, 1⟩,
   ⟨0x1E000, 0x1E006, 1⟩, ⟨0x1E008, 0x1E018, 1⟩, ⟨0x1E01B, 0x1E021, 1⟩, ⟨0x1E023, 0x1E024, 1⟩,
   ⟨0x1E026, 0x1E02A, 1⟩, ⟨0x1E08F, 0x1E08F, 1⟩, ⟨0x1E130, 0x1E136, 1⟩, ⟨0x1E2AE, 0x1E2AE, 1⟩,
   ⟨0x1E2EC, 0x1E2EF, 1⟩, ⟨0x1E4EC, 0x1E4EF, 1⟩, ⟨0x1E5EE, 0x1E5EF, 1⟩, ⟨0x1E6E3, 0x1E6E3, 1⟩,
   ⟨0x1E6E6, 0x1E6E6, 1⟩, ⟨0x1E6EE, 0x1E6EF, 1⟩, ⟨0x1E6F5, 0x1E6F5, 1⟩, ⟨0x1E8D0, 0x1E8D6, 1⟩,
   ⟨0x1E944, 0x1E94B, 1⟩, ⟨0xE0001, 0xE0001, 1⟩, ⟨0xE0020, 0xE007F, 1⟩, ⟨0xE0100, 0xE01EF, 1⟩]

/-- Marks that take the vowel from a letter. -/
def silencingRanges : List CodeRange :=
  [⟨0x94D, 0x94D, 1⟩, ⟨0x9CD, 0x9CD, 1⟩, ⟨0xA4D, 0xA4D, 1⟩, ⟨0xACD, 0xACD, 1⟩, ⟨0xB4D, 0xB4D, 1⟩,
   ⟨0xBCD, 0xBCD, 1⟩, ⟨0xC4D, 0xC4D, 1⟩, ⟨0xCCD, 0xCCD, 1⟩, ⟨0xD3B, 0xD3C, 1⟩, ⟨0xD4D, 0xD4D, 1⟩,
   ⟨0xDCA, 0xDCA, 1⟩, ⟨0xE3A, 0xE3A, 1⟩, ⟨0xEBA, 0xEBA, 1⟩, ⟨0xF84, 0xF84, 1⟩,
   ⟨0x1039, 0x103A, 1⟩, ⟨0x1714, 0x1715, 1⟩, ⟨0x1734, 0x1734, 1⟩, ⟨0x17D2, 0x17D2, 1⟩,
   ⟨0x1A60, 0x1A60, 1⟩, ⟨0x1B44, 0x1B44, 1⟩, ⟨0x1BAA, 0x1BAB, 1⟩, ⟨0x1BF2, 0x1BF3, 1⟩,
   ⟨0x2D7F, 0x2D7F, 1⟩, ⟨0xA806, 0xA806, 1⟩, ⟨0xA82C, 0xA82C, 1⟩, ⟨0xA8C4, 0xA8C4, 1⟩,
   ⟨0xA953, 0xA953, 1⟩, ⟨0xA9C0, 0xA9C0, 1⟩, ⟨0xAAF6, 0xAAF6, 1⟩, ⟨0xABED, 0xABED, 1⟩,
   ⟨0x10A3F, 0x10A3F, 1⟩, ⟨0x11046, 0x11046, 1⟩, ⟨0x11070, 0x11070, 1⟩, ⟨0x1107F, 0x1107F, 1⟩,
   ⟨0x110B9, 0x110B9, 1⟩, ⟨0x11133, 0x11134, 1⟩, ⟨0x111C0, 0x111C0, 1⟩, ⟨0x11235, 0x11235, 1⟩,
   ⟨0x112EA, 0x112EA, 1⟩, ⟨0x1134D, 0x1134D, 1⟩, ⟨0x11442, 0x11442, 1⟩, ⟨0x114C2, 0x114C2, 1⟩,
   ⟨0x115BF, 0x115BF, 1⟩, ⟨0x1163F, 0x1163F, 1⟩, ⟨0x116B6, 0x116B6, 1⟩, ⟨0x1172B, 0x1172B, 1⟩,
   ⟨0x11839, 0x11839, 1⟩, ⟨0x1193D, 0x1193E, 1⟩, ⟨0x119E0, 0x119E0, 1⟩, ⟨0x11A34, 0x11A34, 1⟩,
   ⟨0x11A47, 0x11A47, 1⟩, ⟨0x11A99, 0x11A99, 1⟩, ⟨0x11C3F, 0x11C3F, 1⟩, ⟨0x11D44, 0x11D45, 1⟩,
   ⟨0x11D97, 0x11D97, 1⟩]

/-- Greek letters. -/
def greekRanges : List CodeRange :=
  [⟨0x370, 0x373, 1⟩, ⟨0x375, 0x377, 1⟩, ⟨0x37A, 0x37D, 1⟩, ⟨0x37F, 0x37F, 1⟩, ⟨0x384, 0x386, 2⟩,
   ⟨0x388, 0x38A, 1⟩, ⟨0x38C, 0x38C, 1⟩, ⟨0x38E, 0x3A1, 1⟩, ⟨0x3A3, 0x3E1, 1⟩, ⟨0x3F0, 0x3FF, 1⟩,
   ⟨0x1D26, 0x1D2A, 1⟩, ⟨0x1D5D, 0x1D61, 1⟩, ⟨0x1D66, 0x1D6A, 1⟩, ⟨0x1DBF, 0x1DBF, 1⟩,
   ⟨0x1F00, 0x1F15, 1⟩, ⟨0x1F18, 0x1F1D, 1⟩, ⟨0x1F20, 0x1F45, 1⟩, ⟨0x1F48, 0x1F4D, 1⟩,
   ⟨0x1F50, 0x1F57, 1⟩, ⟨0x1F59, 0x1F5D, 2⟩, ⟨0x1F5F, 0x1F7D, 1⟩, ⟨0x1F80, 0x1FB4, 1⟩,
   ⟨0x1FB6, 0x1FC4, 1⟩, ⟨0x1FC6, 0x1FD3, 1⟩, ⟨0x1FD6, 0x1FDB, 1⟩, ⟨0x1FDD, 0x1FEF, 1⟩,
   ⟨0x1FF2, 0x1FF4, 1⟩, ⟨0x1FF6, 0x1FFE, 1⟩, ⟨0x2126, 0x2126, 1⟩, ⟨0xAB65, 0xAB65, 1⟩,
   ⟨0x10140, 0x1018E, 1⟩, ⟨0x101A0, 0x101A0, 1⟩, ⟨0x1D200, 0x1D245, 1⟩]

/-- Hebrew letters. -/
def hebrewRanges : List CodeRange :=
  [⟨0x591, 0x5C7, 1⟩, ⟨0x5D0, 0x5EA, 1⟩, ⟨0x5EF, 0x5F4, 1⟩, ⟨0xFB1D, 0xFB36, 1⟩,
   ⟨0xFB38, 0xFB3C, 1⟩, ⟨0xFB3E, 0xFB3E, 1⟩, ⟨0xFB40, 0xFB41, 1⟩, ⟨0xFB43, 0xFB44, 1⟩,
   ⟨0xFB46, 0xFB4F, 1⟩]

/-- Letters of the Japanese and Chinese scripts. -/
def kanaRanges : List CodeRange :=
  [⟨0x2E80, 0x2E99, 1⟩, ⟨0x2E9B, 0x2EF3, 1⟩, ⟨0x2F00, 0x2FD5, 1⟩, ⟨0x3005, 0x3007, 2⟩,
   ⟨0x3021, 0x3029, 1⟩, ⟨0x3038, 0x303B, 1⟩, ⟨0x3041, 0x3096, 1⟩, ⟨0x309D, 0x309F, 1⟩,
   ⟨0x30A1, 0x30FA, 1⟩, ⟨0x30FD, 0x30FF, 1⟩, ⟨0x31F0, 0x31FF, 1⟩, ⟨0x32D0, 0x32FE, 1⟩,
   ⟨0x3300, 0x3357, 1⟩, ⟨0x3400, 0x4DBF, 1⟩, ⟨0x4E00, 0x9FFF, 1⟩, ⟨0xF900, 0xFA6D, 1⟩,
   ⟨0xFA70, 0xFAD9, 1⟩, ⟨0xFF66, 0xFF6F, 1⟩, ⟨0xFF71, 0xFF9D, 1⟩, ⟨0x16FE2, 0x16FE3, 1⟩,
   ⟨0x16FF0, 0x16FF6, 1⟩, ⟨0x1AFF0, 0x1AFF3, 1⟩, ⟨0x1AFF5, 0x1AFFB, 1⟩, ⟨0x1AFFD, 0x1AFFE, 1⟩,
   ⟨0x1B000, 0x1B122, 1⟩, ⟨0x1B132, 0x1B132, 1⟩, ⟨0x1B150, 0x1B152, 1⟩, ⟨0x1B155, 0x1B155, 1⟩,
   ⟨0x1B164, 0x1B167, 1⟩, ⟨0x1F200, 0x1F200, 1⟩, ⟨0x20000, 0x2A6DF, 1⟩, ⟨0x2A700, 0x2B81D, 1⟩,
   ⟨0x2B820, 0x2CEAD, 1⟩, ⟨0x2CEB0, 0x2EBE0, 1⟩, ⟨0x2EBF0, 0x2EE5D, 1⟩, ⟨0x2F800, 0x2FA1D, 1⟩,
   ⟨0x30000, 0x3134A, 1⟩, ⟨0x31350, 0x33479, 1⟩]

end ClientGen.Address
