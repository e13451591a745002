import UiTags.Text.Case

/-!
# Upper case, title case and case folding

The full upper-case, title-case and case-folding mappings of the Unicode 14 character database.
Most characters map to one character; the upper-case mapping is stored as runs (as the
lower-case one is) with the characters that map to several characters listed apart. The
title-case mapping is the upper-case one except for the characters listed, and case folding is
the lower-case mapping except for the characters listed.
-/

namespace UiTags
namespace Text

/-- The runs of the single-character upper-case mapping, ascending. -/
def upperRuns : List CaseRun := [
  ⟨0x0061, 0x007A, 1, -32⟩, ⟨0x00B5, 0x00B5, 1, 743⟩, ⟨0x00E0, 0x00F6, 1, -32⟩, ⟨0x00F8, 0x00FE, 1, -32⟩,
  ⟨0x00FF, 0x00FF, 1, 121⟩, ⟨0x0101, 0x012F, 2, -1⟩, ⟨0x0131, 0x0131, 1, -232⟩, ⟨0x0133, 0x0137, 2, -1⟩,
  ⟨0x013A, 0x0148, 2, -1⟩, ⟨0x014B, 0x0177, 2, -1⟩, ⟨0x017A, 0x017E, 2, -1⟩, ⟨0x017F, 0x017F, 1, -300⟩,
  ⟨0x0180, 0x0180, 1, 195⟩, ⟨0x0183, 0x0185, 2, -1⟩, ⟨0x0188, 0x0188, 1, -1⟩, ⟨0x018C, 0x018C, 1, -1⟩,
  ⟨0x0192, 0x0192, 1, -1⟩, ⟨0x0195, 0x0195, 1, 97⟩, ⟨0x0199, 0x0199, 1, -1⟩, ⟨0x019A, 0x019A, 1, 163⟩,
  ⟨0x019E, 0x019E, 1, 130⟩, ⟨0x01A1, 0x01A5, 2, -1⟩, ⟨0x01A8, 0x01A8, 1, -1⟩, ⟨0x01AD, 0x01AD, 1, -1⟩,
  ⟨0x01B0, 0x01B0, 1, -1⟩, ⟨0x01B4, 0x01B6, 2, -1⟩, ⟨0x01B9, 0x01B9, 1, -1⟩, ⟨0x01BD, 0x01BD, 1, -1⟩,
  ⟨0x01BF, 0x01BF, 1, 56⟩, ⟨0x01C5, 0x01C5, 1, -1⟩, ⟨0x01C6, 0x01C6, 1, -2⟩, ⟨0x01C8, 0x01C8, 1, -1⟩,
  ⟨0x01C9, 0x01C9, 1, -2⟩, ⟨0x01CB, 0x01CB, 1, -1⟩, ⟨0x01CC, 0x01CC, 1, -2⟩, ⟨0x01CE, 0x01DC, 2, -1⟩,
  ⟨0x01DD, 0x01DD, 1, -79⟩, ⟨0x01DF, 0x01EF, 2, -1⟩, ⟨0x01F2, 0x01F2, 1, -1⟩, ⟨0x01F3, 0x01F3, 1, -2⟩,
  ⟨0x01F5, 0x01F5, 1, -1⟩, ⟨0x01F9, 0x021F, 2, -1⟩, ⟨0x0223, 0x0233, 2, -1⟩, ⟨0x023C, 0x023C, 1, -1⟩,
  ⟨0x023F, 0x0240, 1, 10815⟩, ⟨0x0242, 0x0242, 1, -1⟩, ⟨0x0247, 0x024F, 2, -1⟩, ⟨0x0250, 0x0250, 1, 10783⟩,
  ⟨0x0251, 0x0251, 1, 10780⟩, ⟨0x0252, 0x0252, 1, 10782⟩, ⟨0x0253, 0x0253, 1, -210⟩, ⟨0x0254, 0x0254, 1, -206⟩,
  ⟨0x0256, 0x0257, 1, -205⟩, ⟨0x0259, 0x0259, 1, -202⟩, ⟨0x025B, 0x025B, 1, -203⟩, ⟨0x025C, 0x025C, 1, 42319⟩,
  ⟨0x0260, 0x0260, 1, -205⟩, ⟨0x0261, 0x0261, 1, 42315⟩, ⟨0x0263, 0x0263, 1, -207⟩, ⟨0x0265, 0x0265, 1, 42280⟩,
  ⟨0x0266, 0x0266, 1, 42308⟩, ⟨0x0268, 0x0268, 1, -209⟩, ⟨0x0269, 0x0269, 1, -211⟩, ⟨0x026A, 0x026A, 1, 42308⟩,
  ⟨0x026B, 0x026B, 1, 10743⟩, ⟨0x026C, 0x026C, 1, 42305⟩, ⟨0x026F, 0x026F, 1, -211⟩, ⟨0x0271, 0x0271, 1, 10749⟩,
  ⟨0x0272, 0x0272, 1, -213⟩, ⟨0x0275, 0x0275, 1, -214⟩, ⟨0x027D, 0x027D, 1, 10727⟩, ⟨0x0280, 0x0280, 1, -218⟩,
  ⟨0x0282, 0x0282, 1, 42307⟩, ⟨0x0283, 0x0283, 1, -218⟩, ⟨0x0287, 0x0287, 1, 42282⟩, ⟨0x0288, 0x0288, 1, -218⟩,
  ⟨0x0289, 0x0289, 1, -69⟩, ⟨0x028A, 0x028B, 1, -217⟩, ⟨0x028C, 0x028C, 1, -71⟩, ⟨0x0292, 0x0292, 1, -219⟩,
  ⟨0x029D, 0x029D, 1, 42261⟩, ⟨0x029E, 0x029E, 1, 42258⟩, ⟨0x0345, 0x0345, 1, 84⟩, ⟨0x0371, 0x0373, 2, -1⟩,
  ⟨0x0377, 0x0377, 1, -1⟩, ⟨0x037B, 0x037D, 1, 130⟩, ⟨0x03AC, 0x03AC, 1, -38⟩, ⟨0x03AD, 0x03AF, 1, -37⟩,
  ⟨0x03B1, 0x03C1, 1, -32⟩, ⟨0x03C2, 0x03C2, 1, -31⟩, ⟨0x03C3, 0x03CB, 1, -32⟩, ⟨0x03CC, 0x03CC, 1, -64⟩,
  ⟨0x03CD, 0x03CE, 1, -63⟩, ⟨0x03D0, 0x03D0, 1, -62⟩, ⟨0x03D1, 0x03D1, 1, -57⟩, ⟨0x03D5, 0x03D5, 1, -47⟩,
  ⟨0x03D6, 0x03D6, 1, -54⟩, ⟨0x03D7, 0x03D7, 1, -8⟩, ⟨0x03D9, 0x03EF, 2, -1⟩, ⟨0x03F0, 0x03F0, 1, -86⟩,
  ⟨0x03F1, 0x03F1, 1, -80⟩, ⟨0x03F2, 0x03F2, 1, 7⟩, ⟨0x03F3, 0x03F3, 1, -116⟩, ⟨0x03F5, 0x03F5, 1, -96⟩,
  ⟨0x03F8, 0x03F8, 1, -1⟩, ⟨0x03FB, 0x03FB, 1, -1⟩, ⟨0x0430, 0x044F, 1, -32⟩, ⟨0x0450, 0x045F, 1, -80⟩,
  ⟨0x0461, 0x0481, 2, -1⟩, ⟨0x048B, 0x04BF, 2, -1⟩, ⟨0x04C2, 0x04CE, 2, -1⟩, ⟨0x04CF, 0x04CF, 1, -15⟩,
  ⟨0x04D1, 0x052F, 2, -1⟩, ⟨0x0561, 0x0586, 1, -48⟩, ⟨0x10D0, 0x10FA, 1, 3008⟩, ⟨0x10FD, 0x10FF, 1, 3008⟩,
  ⟨0x13F8, 0x13FD, 1, -8⟩, ⟨0x1C80, 0x1C80, 1, -6254⟩, ⟨0x1C81, 0x1C81, 1, -6253⟩, ⟨0x1C82, 0x1C82, 1, -6244⟩,
  ⟨0x1C83, 0x1C84, 1, -6242⟩, ⟨0x1C85, 0x1C85, 1, -6243⟩, ⟨0x1C86, 0x1C86, 1, -6236⟩, ⟨0x1C87, 0x1C87, 1, -6181⟩,
  ⟨0x1C88, 0x1C88, 1, 35266⟩, ⟨0x1D79, 0x1D79, 1, 35332⟩, ⟨0x1D7D, 0x1D7D, 1, 3814⟩, ⟨0x1D8E, 0x1D8E, 1, 35384⟩,
  ⟨0x1E01, 0x1E95, 2, -1⟩, ⟨0x1E9B, 0x1E9B, 1, -59⟩, ⟨0x1EA1, 0x1EFF, 2, -1⟩, ⟨0x1F00, 0x1F07, 1, 8⟩,
  ⟨0x1F10, 0x1F15, 1, 8⟩, ⟨0x1F20, 0x1F27, 1, 8⟩, ⟨0x1F30, 0x1F37, 1, 8⟩, ⟨0x1F40, 0x1F45, 1, 8⟩,
  ⟨0x1F51, 0x1F57, 2, 8⟩, ⟨0x1F60, 0x1F67, 1, 8⟩, ⟨0x1F70, 0x1F71, 1, 74⟩, ⟨0x1F72, 0x1F75, 1, 86⟩,
  ⟨0x1F76, 0x1F77, 1, 100⟩, ⟨0x1F78, 0x1F79, 1, 128⟩, ⟨0x1F7A, 0x1F7B, 1, 112⟩, ⟨0x1F7C, 0x1F7D, 1, 126⟩,
  ⟨0x1FB0, 0x1FB1, 1, 8⟩, ⟨0x1FBE, 0x1FBE, 1, -7205⟩, ⟨0x1FD0, 0x1FD1, 1, 8⟩, ⟨0x1FE0, 0x1FE1, 1, 8⟩,
  ⟨0x1FE5, 0x1FE5, 1, 7⟩, ⟨0x214E, 0x214E, 1, -28⟩, ⟨0x2170, 0x217F, 1, -16⟩, ⟨0x2184, 0x2184, 1, -1⟩,
  ⟨0x24D0, 0x24E9, 1, -26⟩, ⟨0x2C30, 0x2C5F, 1, -48⟩, ⟨0x2C61, 0x2C61, 1, -1⟩, ⟨0x2C65, 0x2C65, 1, -10795⟩,
  ⟨0x2C66, 0x2C66, 1, -10792⟩, ⟨0x2C68, 0x2C6C, 2, -1⟩, ⟨0x2C73, 0x2C73, 1, -1⟩, ⟨0x2C76, 0x2C76, 1, -1⟩,
  ⟨0x2C81, 0x2CE3, 2, -1⟩, ⟨0x2CEC, 0x2CEE, 2, -1⟩, ⟨0x2CF3, 0x2CF3, 1, -1⟩, ⟨0x2D00, 0x2D25, 1, -7264⟩,
  ⟨0x2D27, 0x2D27, 1, -7264⟩, ⟨0x2D2D, 0x2D2D, 1, -7264⟩, ⟨0xA641, 0xA66D, 2, -1⟩, ⟨0xA681, 0xA69B, 2, -1⟩,
  ⟨0xA723, 0xA72F, 2, -1⟩, ⟨0xA733, 0xA76F, 2, -1⟩, ⟨0xA77A, 0xA77C, 2, -1⟩, ⟨0xA77F, 0xA787, 2, -1⟩,
  ⟨0xA78C, 0xA78C, 1, -1⟩, ⟨0xA791, 0xA793, 2, -1⟩, ⟨0xA794, 0xA794, 1, 48⟩, ⟨0xA797, 0xA7A9, 2, -1⟩,
  ⟨0xA7B5, 0xA7C3, 2, -1⟩, ⟨0xA7C8, 0xA7CA, 2, -1⟩, ⟨0xA7D1, 0xA7D1, 1, -1⟩, ⟨0xA7D7, 0xA7D9, 2, -1⟩,
  ⟨0xA7F6, 0xA7F6, 1, -1⟩, ⟨0xAB53, 0xAB53, 1, -928⟩, ⟨0xAB70, 0xABBF, 1, -38864⟩, ⟨0xFF41, 0xFF5A, 1, -32⟩,
  ⟨0x10428, 0x1044F, 1, -40⟩, ⟨0x104D8, 0x104FB, 1, -40⟩, ⟨0x10597, 0x105A1, 1, -39⟩, ⟨0x105A3, 0x105B1, 1, -39⟩,
  ⟨0x105B3, 0x105B9, 1, -39⟩, ⟨0x105BB, 0x105BC, 1, -39⟩, ⟨0x10CC0, 0x10CF2, 1, -64⟩, ⟨0x118C0, 0x118DF, 1, -32⟩,
  ⟨0x16E60, 0x16E7F, 1, -32⟩, ⟨0x1E922, 0x1E943, 1, -34⟩]

/-- The characters whose upper-case form is several characters. -/
def upperSpecial : List (Nat × List Char) := [
  (0x00DF, [Char.ofNat 0x0053, Char.ofNat 0x0053]), (0x0149, [Char.ofNat 0x02BC, Char.ofNat 0x004E]), (0x01F0, [Char.ofNat 0x004A, Char.ofNat 0x030C]),
  (0x0390, [Char.ofNat 0x0399, Char.ofNat 0x0308, Char.ofNat 0x0301]), (0x03B0, [Char.ofNat 0x03A5, Char.ofNat 0x0308, Char.ofNat 0x0301]), (0x0587, [Char.ofNat 0x0535, Char.ofNat 0x0552]),
  (0x1E96, [Char.ofNat 0x0048, Char.ofNat 0x0331]), (0x1E97, [Char.ofNat 0x0054, Char.ofNat 0x0308]), (0x1E98, [Char.ofNat 0x0057, Char.ofNat 0x030A]),
  (0x1E99, [Char.ofNat 0x0059, Char.ofNat 0x030A]), (0x1E9A, [Char.ofNat 0x0041, Char.ofNat 0x02BE]), (0x1F50, [Char.ofNat 0x03A5, Char.ofNat 0x0313]),
  (0x1F52, [Char.ofNat 0x03A5, Char.ofNat 0x0313, Char.ofNat 0x0300]), (0x1F54, [Char.ofNat 0x03A5, Char.ofNat 0x0313, Char.ofNat 0x0301]), (0x1F56, [Char.ofNat 0x03A5, Char.ofNat 0x0313, Char.ofNat 0x0342]),
  (0x1F80, [Char.ofNat 0x1F08, Char.ofNat 0x0399]), (0x1F81, [Char.ofNat 0x1F09, Char.ofNat 0x0399]), (0x1F82, [Char.ofNat 0x1F0A, Char.ofNat 0x0399]),
  (0x1F83, [Char.ofNat 0x1F0B, Char.ofNat 0x0399]), (0x1F84, [Char.ofNat 0x1F0C, Char.ofNat 0x0399]), (0x1F85, [Char.ofNat 0x1F0D, Char.ofNat 0x0399]),
  (0x1F86, [Char.ofNat 0x1F0E, Char.ofNat 0x0399]), (0x1F87, [Char.ofNat 0x1F0F, Char.ofNat 0x0399]), (0x1F88, [Char.ofNat 0x1F08, Char.ofNat 0x0399]),
  (0x1F89, [Char.ofNat 0x1F09, Char.ofNat 0x0399]), (0x1F8A, [Char.ofNat 0x1F0A, Char.ofNat 0x0399]), (0x1F8B, [Char.ofNat 0x1F0B, Char.ofNat 0x0399]),
  (0x1F8C, [Char.ofNat 0x1F0C, Char.ofNat 0x0399]), (0x1F8D, [Char.ofNat 0x1F0D, Char.ofNat 0x0399]), (0x1F8E, [Char.ofNat 0x1F0E, Char.ofNat 0x0399]),
  (0x1F8F, [Char.ofNat 0x1F0F, Char.ofNat 0x0399]), (0x1F90, [Char.ofNat 0x1F28, Char.ofNat 0x0399]), (0x1F91, [Char.ofNat 0x1F29, Char.ofNat 0x0399]),
  (0x1F92, [Char.ofNat 0x1F2A, Char.ofNat 0x0399]), (0x1F93, [Char.ofNat 0x1F2B, Char.ofNat 0x0399]), (0x1F94, [Char.ofNat 0x1F2C, Char.ofNat 0x0399]),
  (0x1F95, [Char.ofNat 0x1F2D, Char.ofNat 0x0399]), (0x1F96, [Char.ofNat 0x1F2E, Char.ofNat 0x0399]), (0x1F97, [Char.ofNat 0x1F2F, Char.ofNat 0x0399]),
  (0x1F98, [Char.ofNat 0x1F28, Char.ofNat 0x0399]), (0x1F99, [Char.ofNat 0x1F29, Char.ofNat 0x0399]), (0x1F9A, [Char.ofNat 0x1F2A, Char.ofNat 0x0399]),
  (0x1F9B, [Char.ofNat 0x1F2B, Char.ofNat 0x0399]), (0x1F9C, [Char.ofNat 0x1F2C, Char.ofNat 0x0399]), (0x1F9D, [Char.ofNat 0x1F2D, Char.ofNat 0x0399]),
  (0x1F9E, [Char.ofNat 0x1F2E, Char.ofNat 0x0399]), (0x1F9F, [Char.ofNat 0x1F2F, Char.ofNat 0x0399]), (0x1FA0, [Char.ofNat 0x1F68, Char.ofNat 0x0399]),
  (0x1FA1, [Char.ofNat 0x1F69, Char.ofNat 0x0399]), (0x1FA2, [Char.ofNat 0x1F6A, Char.ofNat 0x0399]), (0x1FA3, [Char.ofNat 0x1F6B, Char.ofNat 0x0399]),
  (0x1FA4, [Char.ofNat 0x1F6C, Char.ofNat 0x0399]), (0x1FA5, [Char.ofNat 0x1F6D, Char.ofNat 0x0399]), (0x1FA6, [Char.ofNat 0x1F6E, Char.ofNat 0x0399]),
  (0x1FA7, [Char.ofNat 0x1F6F, Char.ofNat 0x0399]), (0x1FA8, [Char.ofNat 0x1F68, Char.ofNat 0x0399]), (0x1FA9, [Char.ofNat 0x1F69, Char.ofNat 0x0399]),
  (0x1FAA, [Char.ofNat 0x1F6A, Char.ofNat 0x0399]), (0x1FAB, [Char.ofNat 0x1F6B, Char.ofNat 0x0399]), (0x1FAC, [Char.ofNat 0x1F6C, Char.ofNat 0x0399]),
  (0x1FAD, [Char.ofNat 0x1F6D, Char.ofNat 0x0399]), (0x1FAE, [Char.ofNat 0x1F6E, Char.ofNat 0x0399]), (0x1FAF, [Char.ofNat 0x1F6F, Char.ofNat 0x0399]),
  (0x1FB2, [Char.ofNat 0x1FBA, Char.ofNat 0x0399]), (0x1FB3, [Char.ofNat 0x0391, Char.ofNat 0x0399]), (0x1FB4, [Char.ofNat 0x0386, Char.ofNat 0x0399]),
  (0x1FB6, [Char.ofNat 0x0391, Char.ofNat 0x0342]), (0x1FB7, [Char.ofNat 0x0391, Char.ofNat 0x0342, Char.ofNat 0x0399]), (0x1FBC, [Char.ofNat 0x0391, Char.ofNat 0x0399]),
  (0x1FC2, [Char.ofNat 0x1FCA, Char.ofNat 0x0399]), (0x1FC3, [Char.ofNat 0x0397, Char.ofNat 0x0399]), (0x1FC4, [Char.ofNat 0x0389, Char.ofNat 0x0399]),
  (0x1FC6, [Char.ofNat 0x0397, Char.ofNat 0x0342]), (0x1FC7, [Char.ofNat 0x0397, Char.ofNat 0x0342, Char.ofNat 0x0399]), (0x1FCC, [Char.ofNat 0x0397, Char.ofNat 0x0399]),
  (0x1FD2, [Char.ofNat 0x0399, Char.ofNat 0x0308, Char.ofNat 0x0300]), (0x1FD3, [Char.ofNat 0x0399, Char.ofNat 0x0308, Char.ofNat 0x0301]), (0x1FD6, [Char.ofNat 0x0399, Char.ofNat 0x0342]),
  (0x1FD7, [Char.ofNat 0x0399, Char.ofNat 0x0308, Char.ofNat 0x0342]), (0x1FE2, [Char.ofNat 0x03A5, Char.ofNat 0x0308, Char.ofNat 0x0300]), (0x1FE3, [Char.ofNat 0x03A5, Char.ofNat 0x0308, Char.ofNat 0x0301]),
  (0x1FE4, [Char.ofNat 0x03A1, Char.ofNat 0x0313]), (0x1FE6, [Char.ofNat 0x03A5, Char.ofNat 0x0342]), (0x1FE7, [Char.ofNat 0x03A5, Char.ofNat 0x0308, Char.ofNat 0x0342]),
  (0x1FF2, [Char.ofNat 0x1FFA, Char.ofNat 0x0399]), (0x1FF3, [Char.ofNat 0x03A9, Char.ofNat 0x0399]), (0x1FF4, [Char.ofNat 0x038F, Char.ofNat 0x0399]),
  (0x1FF6, [Char.ofNat 0x03A9, Char.ofNat 0x0342]), (0x1FF7, [Char.ofNat 0x03A9, Char.ofNat 0x0342, Char.ofNat 0x0399]), (0x1FFC, [Char.ofNat 0x03A9, Char.ofNat 0x0399]),
  (0xFB00, [Char.ofNat 0x0046, Char.ofNat 0x0046]), (0xFB01, [Char.ofNat 0x0046, Char.ofNat 0x0049]), (0xFB02, [Char.ofNat 0x0046, Char.ofNat 0x004C]),
  (0xFB03, [Char.ofNat 0x0046, Char.ofNat 0x0046, Char.ofNat 0x0049]), (0xFB04, [Char.ofNat 0x0046, Char.ofNat 0x0046, Char.ofNat 0x004C]), (0xFB05, [Char.ofNat 0x0053, Char.ofNat 0x0054]),
  (0xFB06, [Char.ofNat 0x0053, Char.ofNat 0x0054]), (0xFB13, [Char.ofNat 0x0544, Char.ofNat 0x0546]), (0xFB14, [Char.ofNat 0x0544, Char.ofNat 0x0535]),
  (0xFB15, [Char.ofNat 0x0544, Char.ofNat 0x053B]), (0xFB16, [Char.ofNat 0x054E, Char.ofNat 0x0546]), (0xFB17, [Char.ofNat 0x0544, Char.ofNat 0x053D])]

/-- The characters whose title-case form differs from their upper-case form. -/
def titleSpecial : List (Nat × List Char) := [
  (0x00DF, [Char.ofNat 0x0053, Char.ofNat 0x0073]), (0x01C4, [Char.ofNat 0x01C5]), (0x01C5, [Char.ofNat 0x01C5]),
  (0x01C6, [Char.ofNat 0x01C5]), (0x01C7, [Char.ofNat 0x01C8]), (0x01C8, [Char.ofNat 0x01C8]),
  (0x01C9, [Char.ofNat 0x01C8]), (0x01CA, [Char.ofNat 0x01CB]), (0x01CB, [Char.ofNat 0x01CB]),
  (0x01CC, [Char.ofNat 0x01CB]), (0x01F1, [Char.ofNat 0x01F2]), (0x01F2, [Char.ofNat 0x01F2]),
  (0x01F3, [Char.ofNat 0x01F2]), (0x0587, [Char.ofNat 0x0535, Char.ofNat 0x0582]), (0x10D0, [Char.ofNat 0x10D0]),
  (0x10D1, [Char.ofNat 0x10D1]), (0x10D2, [Char.ofNat 0x10D2]), (0x10D3, [Char.ofNat 0x10D3]),
  (0x10D4, [Char.ofNat 0x10D4]), (0x10D5, [Char.ofNat 0x10D5]), (0x10D6, [Char.ofNat 0x10D6]),
  (0x10D7, [Char.ofNat 0x10D7]), (0x10D8, [Char.ofNat 0x10D8]), (0x10D9, [Char.ofNat 0x10D9]),
  (0x10DA, [Char.ofNat 0x10DA]), (0x10DB, [Char.ofNat 0x10DB]), (0x10DC, [Char.ofNat 0x10DC]),
  (0x10DD, [Char.ofNat 0x10DD]), (0x10DE, [Char.ofNat 0x10DE]), (0x10DF, [Char.ofNat 0x10DF]),
  (0x10E0, [Char.ofNat 0x10E0]), (0x10E1, [Char.ofNat 0x10E1]), (0x10E2, [Char.ofNat 0x10E2]),
  (0x10E3, [Char.ofNat 0x10E3]), (0x10E4, [Char.ofNat 0x10E4]), (0x10E5, [Char.ofNat 0x10E5]),
  (0x10E6, [Char.ofNat 0x10E6]), (0x10E7, [Char.ofNat 0x10E7]), (0x10E8, [Char.ofNat 0x10E8]),
  (0x10E9, [Char.ofNat 0x10E9]), (0x10EA, [Char.ofNat 0x10EA]), (0x10EB, [Char.ofNat 0x10EB]),
  (0x10EC, [Char.ofNat 0x10EC]), (0x10ED, [Char.ofNat 0x10ED]), (0x10EE, [Char.ofNat 0x10EE]),
  (0x10EF, [Char.ofNat 0x10EF]), (0x10F0, [Char.ofNat 0x10F0]), (0x10F1, [Char.ofNat 0x10F1]),
  (0x10F2, [Char.ofNat 0x10F2]), (0x10F3, [Char.ofNat 0x10F3]), (0x10F4, [Char.ofNat 0x10F4]),
  (0x10F5, [Char.ofNat 0x10F5]), (0x10F6, [Char.ofNat 0x10F6]), (0x10F7, [Char.ofNat 0x10F7]),
  (0x10F8, [Char.ofNat 0x10F8]), (0x10F9, [Char.ofNat 0x10F9]), (0x10FA, [Char.ofNat 0x10FA]),
  (0x10FD, [Char.ofNat 0x10FD]), (0x10FE, [Char.ofNat 0x10FE]), (0x10FF, [Char.ofNat 0x10FF]),
  (0x1F80, [Char.ofNat 0x1F88]), (0x1F81, [Char.ofNat 0x1F89]), (0x1F82, [Char.ofNat 0x1F8A]),
  (0x1F83, [Char.ofNat 0x1F8B]), (0x1F84, [Char.ofNat 0x1F8C]), (0x1F85, [Char.ofNat 0x1F8D]),
  (0x1F86, [Char.ofNat 0x1F8E]), (0x1F87, [Char.ofNat 0x1F8F]), (0x1F88, [Char.ofNat 0x1F88]),
  (0x1F89, [Char.ofNat 0x1F89]), (0x1F8A, [Char.ofNat 0x1F8A]), (0x1F8B, [Char.ofNat 0x1F8B]),
  (0x1F8C, [Char.ofNat 0x1F8C]), (0x1F8D, [Char.ofNat 0x1F8D]), (0x1F8E, [Char.ofNat 0x1F8E]),
  (0x1F8F, [Char.ofNat 0x1F8F]), (0x1F90, [Char.ofNat 0x1F98]), (0x1F91, [Char.ofNat 0x1F99]),
  (0x1F92, [Char.ofNat 0x1F9A]), (0x1F93, [Char.ofNat 0x1F9B]), (0x1F94, [Char.ofNat 0x1F9C]),
  (0x1F95, [Char.ofNat 0x1F9D]), (0x1F96, [Char.ofNat 0x1F9E]), (0x1F97, [Char.ofNat 0x1F9F]),
  (0x1F98, [Char.ofNat 0x1F98]), (0x1F99, [Char.ofNat 0x1F99]), (0x1F9A, [Char.ofNat 0x1F9A]),
  (0x1F9B, [Char.ofNat 0x1F9B]), (0x1F9C, [Char.ofNat 0x1F9C]), (0x1F9D, [Char.ofNat 0x1F9D]),
  (0x1F9E, [Char.ofNat 0x1F9E]), (0x1F9F, [Char.ofNat 0x1F9F]), (0x1FA0, [Char.ofNat 0x1FA8]),
  (0x1FA1, [Char.ofNat 0x1FA9]), (0x1FA2, [Char.ofNat 0x1FAA]), (0x1FA3, [Char.ofNat 0x1FAB]),
  (0x1FA4, [Char.ofNat 0x1FAC]), (0x1FA5, [Char.ofNat 0x1FAD]), (0x1FA6, [Char.ofNat 0x1FAE]),
  (0x1FA7, [Char.ofNat 0x1FAF]), (0x1FA8, [Char.ofNat 0x1FA8]), (0x1FA9, [Char.ofNat 0x1FA9]),
  (0x1FAA, [Char.ofNat 0x1FAA]), (0x1FAB, [Char.ofNat 0x1FAB]), (0x1FAC, [Char.ofNat 0x1FAC]),
  (0x1FAD, [Char.ofNat 0x1FAD]), (0x1FAE, [Char.ofNat 0x1FAE]), (0x1FAF, [Char.ofNat 0x1FAF]),
  (0x1FB2, [Char.ofNat 0x1FBA, Char.ofNat 0x0345]), (0x1FB3, [Char.ofNat 0x1FBC]), (0x1FB4, [Char.ofNat 0x0386, Char.ofNat 0x0345]),
  (0x1FB7, [Char.ofNat 0x0391, Char.ofNat 0x0342, Char.ofNat 0x0345]), (0x1FBC, [Char.ofNat 0x1FBC]), (0x1FC2, [Char.ofNat 0x1FCA, Char.ofNat 0x0345]),
  (0x1FC3, [Char.ofNat 0x1FCC]), (0x1FC4, [Char.ofNat 0x0389, Char.ofNat 0x0345]), (0x1FC7, [Char.ofNat 0x0397, Char.ofNat 0x0342, Char.ofNat 0x0345]),
  (0x1FCC, [Char.ofNat 0x1FCC]), (0x1FF2, [Char.ofNat 0x1FFA, Char.ofNat 0x0345]), (0x1FF3, [Char.ofNat 0x1FFC]),
  (0x1FF4, [Char.ofNat 0x038F, Char.ofNat 0x0345]), (0x1FF7, [Char.ofNat 0x03A9, Char.ofNat 0x0342, Char.ofNat 0x0345]), (0x1FFC, [Char.ofNat 0x1FFC]),
  (0xFB00, [Char.ofNat 0x0046, Char.ofNat 0x0066]), (0xFB01, [Char.ofNat 0x0046, Char.ofNat 0x0069]), (0xFB02, [Char.ofNat 0x0046, Char.ofNat 0x006C]),
  (0xFB03, [Char.ofNat 0x0046, Char.ofNat 0x0066, Char.ofNat 0x0069]), (0xFB04, [Char.ofNat 0x0046, Char.ofNat 0x0066, Char.ofNat 0x006C]), (0xFB05, [Char.ofNat 0x0053, Char.ofNat 0x0074]),
  (0xFB06, [Char.ofNat 0x0053, Char.ofNat 0x0074]), (0xFB13, [Char.ofNat 0x0544, Char.ofNat 0x0576]), (0xFB14, [Char.ofNat 0x0544, Char.ofNat 0x0565]),
  (0xFB15, [Char.ofNat 0x0544, Char.ofNat 0x056B]), (0xFB16, [Char.ofNat 0x054E, Char.ofNat 0x0576]), (0xFB17, [Char.ofNat 0x0544, Char.ofNat 0x056D])]

/-- The characters whose case folding differs from their lower-case form. -/
def foldSpecial : List (Nat × List Char) := [
  (0x00B5, [Char.ofNat 0x03BC]), (0x00DF, [Char.ofNat 0x0073, Char.ofNat 0x0073]), (0x0149, [Char.ofNat 0x02BC, Char.ofNat 0x006E]),
  (0x017F, [Char.ofNat 0x0073]), (0x01F0, [Char.ofNat 0x006A, Char.ofNat 0x030C]), (0x0345, [Char.ofNat 0x03B9]),
  (0x0390, [Char.ofNat 0x03B9, Char.ofNat 0x0308, Char.ofNat 0x0301]), (0x03B0, [Char.ofNat 0x03C5, Char.ofNat 0x0308, Char.ofNat 0x0301]), (0x03C2, [Char.ofNat 0x03C3]),
  (0x03D0, [Char.ofNat 0x03B2]), (0x03D1, [Char.ofNat 0x03B8]), (0x03D5, [Char.ofNat 0x03C6]),
  (0x03D6, [Char.ofNat 0x03C0]), (0x03F0, [Char.ofNat 0x03BA]), (0x03F1, [Char.ofNat 0x03C1]),
  (0x03F5, [Char.ofNat 0x03B5]), (0x0587, [Char.ofNat 0x0565, Char.ofNat 0x0582]), (0x13A0, [Char.ofNat 0x13A0]),
  (0x13A1, [Char.ofNat 0x13A1]), (0x13A2, [Char.ofNat 0x13A2]), (0x13A3, [Char.ofNat 0x13A3]),
  (0x13A4, [Char.ofNat 0x13A4]), (0x13A5, [Char.ofNat 0x13A5]), (0x13A6, [Char.ofNat 0x13A6]),
  (0x13A7, [Char.ofNat 0x13A7]), (0x13A8, [Char.ofNat 0x13A8]), (0x13A9, [Char.ofNat 0x13A9]),
  (0x13AA, [Char.ofNat 0x13AA]), (0x13AB, [Char.ofNat 0x13AB]), (0x13AC, [Char.ofNat 0x13AC]),
  (0x13AD, [Char.ofNat 0x13AD]), (0x13AE, [Char.ofNat 0x13AE]), (0x13AF, [Char.ofNat 0x13AF]),
  (0x13B0, [Char.ofNat 0x13B0]), (0x13B1, [Char.ofNat 0x13B1]), (0x13B2, [Char.ofNat 0x13B2]),
  (0x13B3, [Char.ofNat 0x13B3]), (0x13B4, [Char.ofNat 0x13B4]), (0x13B5, [Char.ofNat 0x13B5]),
  (0x13B6, [Char.ofNat 0x13B6]), (0x13B7, [Char.ofNat 0x13B7]), (0x13B8, [Char.ofNat 0x13B8]),
  (0x13B9, [Char.ofNat 0x13B9]), (0x13BA, [Char.ofNat 0x13BA]), (0x13BB, [Char.ofNat 0x13BB]),
  (0x13BC, [Char.ofNat 0x13BC]), (0x13BD, [Char.ofNat 0x13BD]), (0x13BE, [Char.ofNat 0x13BE]),
  (0x13BF, [Char.ofNat 0x13BF]), (0x13C0, [Char.ofNat 0x13C0]), (0x13C1, [Char.ofNat 0x13C1]),
  (0x13C2, [Char.ofNat 0x13C2]), (0x13C3, [Char.ofNat 0x13C3]), (0x13C4, [Char.ofNat 0x13C4]),
  (0x13C5, [Char.ofNat 0x13C5]), (0x13C6, [Char.ofNat 0x13C6]), (0x13C7, [Char.ofNat 0x13C7]),
  (0x13C8, [Char.ofNat 0x13C8]), (0x13C9, [Char.ofNat 0x13C9]), (0x13CA, [Char.ofNat 0x13CA]),
  (0x13CB, [Char.ofNat 0x13CB]), (0x13CC, [Char.ofNat 0x13CC]), (0x13CD, [Char.ofNat 0x13CD]),
  (0x13CE, [Char.ofNat 0x13CE]), (0x13CF, [Char.ofNat 0x13CF]), (0x13D0, [Char.ofNat 0x13D0]),
  (0x13D1, [Char.ofNat 0x13D1]), (0x13D2, [Char.ofNat 0x13D2]), (0x13D3, [Char.ofNat 0x13D3]),
  (0x13D4, [Char.ofNat 0x13D4]), (0x13D5, [Char.ofNat 0x13D5]), (0x13D6, [Char.ofNat 0x13D6]),
  (0x13D7, [Char.ofNat 0x13D7]), (0x13D8, [Char.ofNat 0x13D8]), (0x13D9, [Char.ofNat 0x13D9]),
  (0x13DA, [Char.ofNat 0x13DA]), (0x13DB, [Char.ofNat 0x13DB]), (0x13DC, [Char.ofNat 0x13DC]),
  (0x13DD, [Char.ofNat 0x13DD]), (0x13DE, [Char.ofNat 0x13DE]), (0x13DF, [Char.ofNat 0x13DF]),
  (0x13E0, [Char.ofNat 0x13E0]), (0x13E1, [Char.ofNat 0x13E1]), (0x13E2, [Char.ofNat 0x13E2]),
  (0x13E3, [Char.ofNat 0x13E3]), (0x13E4, [Char.ofNat 0x13E4]), (0x13E5, [Char.ofNat 0x13E5]),
  (0x13E6, [Char.ofNat 0x13E6]), (0x13E7, [Char.ofNat 0x13E7]), (0x13E8, [Char.ofNat 0x13E8]),
  (0x13E9, [Char.ofNat 0x13E9]), (0x13EA, [Char.ofNat 0x13EA]), (0x13EB, [Char.ofNat 0x13EB]),
  (0x13EC, [Char.ofNat 0x13EC]), (0x13ED, [Char.ofNat 0x13ED]), (0x13EE, [Char.ofNat 0x13EE]),
  (0x13EF, [Char.ofNat 0x13EF]), (0x13F0, [Char.ofNat 0x13F0]), (0x13F1, [Char.ofNat 0x13F1]),
  (0x13F2, [Char.ofNat 0x13F2]), (0x13F3, [Char.ofNat 0x13F3]), (0x13F4, [Char.ofNat 0x13F4]),
  (0x13F5, [Char.ofNat 0x13F5]), (0x13F8, [Char.ofNat 0x13F0]), (0x13F9, [Char.ofNat 0x13F1]),
  (0x13FA, [Char.ofNat 0x13F2]), (0x13FB, [Char.ofNat 0x13F3]), (0x13FC, [Char.ofNat 0x13F4]),
  (0x13FD, [Char.ofNat 0x13F5]), (0x1C80, [Char.ofNat 0x0432]), (0x1C81, [Char.ofNat 0x0434]),
  (0x1C82, [Char.ofNat 0x043E]), (0x1C83, [Char.ofNat 0x0441]), (0x1C84, [Char.ofNat 0x0442]),
  (0x1C85, [Char.ofNat 0x0442]), (0x1C86, [Char.ofNat 0x044A]), (0x1C87, [Char.ofNat 0x0463]),
  (0x1C88, [Char.ofNat 0xA64B]), (0x1E96, [Char.ofNat 0x0068, Char.ofNat 0x0331]), (0x1E97, [Char.ofNat 0x0074, Char.ofNat 0x0308]),
  (0x1E98, [Char.ofNat 0x0077, Char.ofNat 0x030A]), (0x1E99, [Char.ofNat 0x0079, Char.ofNat 0x030A]), (0x1E9A, [Char.ofNat 0x0061, Char.ofNat 0x02BE]),
  (0x1E9B, [Char.ofNat 0x1E61]), (0x1E9E, [Char.ofNat 0x0073, Char.ofNat 0x0073]), (0x1F50, [Char.ofNat 0x03C5, Char.ofNat 0x0313]),
  (0x1F52, [Char.ofNat 0x03C5, Char.ofNat 0x0313, Char.ofNat 0x0300]), (0x1F54, [Char.ofNat 0x03C5, Char.ofNat 0x0313, Char.ofNat 0x0301]), (0x1F56, [Char.ofNat 0x03C5, Char.ofNat 0x0313, Char.ofNat 0x0342]),
  (0x1F80, [Char.ofNat 0x1F00, Char.ofNat 0x03B9]), (0x1F81, [Char.ofNat 0x1F01, Char.ofNat 0x03B9]), (0x1F82, [Char.ofNat 0x1F02, Char.ofNat 0x03B9]),
  (0x1F83, [Char.ofNat 0x1F03, Char.ofNat 0x03B9]), (0x1F84, [Char.ofNat 0x1F04, Char.ofNat 0x03B9]), (0x1F85, [Char.ofNat 0x1F05, Char.ofNat 0x03B9]),
  (0x1F86, [Char.ofNat 0x1F06, Char.ofNat 0x03B9]), (0x1F87, [Char.ofNat 0x1F07, Char.ofNat 0x03B9]), (0x1F88, [Char.ofNat 0x1F00, Char.ofNat 0x03B9]),
  (0x1F89, [Char.ofNat 0x1F01, Char.ofNat 0x03B9]), (0x1F8A, [Char.ofNat 0x1F02, Char.ofNat 0x03B9]), (0x1F8B, [Char.ofNat 0x1F03, Char.ofNat 0x03B9]),
  (0x1F8C, [Char.ofNat 0x1F04, Char.ofNat 0x03B9]), (0x1F8D, [Char.ofNat 0x1F05, Char.ofNat 0x03B9]), (0x1F8E, [Char.ofNat 0x1F06, Char.ofNat 0x03B9]),
  (0x1F8F, [Char.ofNat 0x1F07, Char.ofNat 0x03B9]), (0x1F90, [Char.ofNat 0x1F20, Char.ofNat 0x03B9]), (0x1F91, [Char.ofNat 0x1F21, Char.ofNat 0x03B9]),
  (0x1F92, [Char.ofNat 0x1F22, Char.ofNat 0x03B9]), (0x1F93, [Char.ofNat 0x1F23, Char.ofNat 0x03B9]), (0x1F94, [Char.ofNat 0x1F24, Char.ofNat 0x03B9]),
  (0x1F95, [Char.ofNat 0x1F25, Char.ofNat 0x03B9]), (0x1F96, [Char.ofNat 0x1F26, Char.ofNat 0x03B9]), (0x1F97, [Char.ofNat 0x1F27, Char.ofNat 0x03B9]),
  (0x1F98, [Char.ofNat 0x1F20, Char.ofNat 0x03B9]), (0x1F99, [Char.ofNat 0x1F21, Char.ofNat 0x03B9]), (0x1F9A, [Char.ofNat 0x1F22, Char.ofNat 0x03B9]),
  (0x1F9B, [Char.ofNat 0x1F23, Char.ofNat 0x03B9]), (0x1F9C, [Char.ofNat 0x1F24, Char.ofNat 0x03B9]), (0x1F9D, [Char.ofNat 0x1F25, Char.ofNat 0x03B9]),
  (0x1F9E, [Char.ofNat 0x1F26, Char.ofNat 0x03B9]), (0x1F9F, [Char.ofNat 0x1F27, Char.ofNat 0x03B9]), (0x1FA0, [Char.ofNat 0x1F60, Char.ofNat 0x03B9]),
  (0x1FA1, [Char.ofNat 0x1F61, Char.ofNat 0x03B9]), (0x1FA2, [Char.ofNat 0x1F62, Char.ofNat 0x03B9]), (0x1FA3, [Char.ofNat 0x1F63, Char.ofNat 0x03B9]),
  (0x1FA4, [Char.ofNat 0x1F64, Char.ofNat 0x03B9]), (0x1FA5, [Char.ofNat 0x1F65, Char.ofNat 0x03B9]), (0x1FA6, [Char.ofNat 0x1F66, Char.ofNat 0x03B9]),
  (0x1FA7, [Char.ofNat 0x1F67, Char.ofNat 0x03B9]), (0x1FA8, [Char.ofNat 0x1F60, Char.ofNat 0x03B9]), (0x1FA9, [Char.ofNat 0x1F61, Char.ofNat 0x03B9]),
  (0x1FAA, [Char.ofNat 0x1F62, Char.ofNat 0x03B9]), (0x1FAB, [Char.ofNat 0x1F63, Char.ofNat 0x03B9]), (0x1FAC, [Char.ofNat 0x1F64, Char.ofNat 0x03B9]),
  (0x1FAD, [Char.ofNat 0x1F65, Char.ofNat 0x03B9]), (0x1FAE, [Char.ofNat 0x1F66, Char.ofNat 0x03B9]), (0x1FAF, [Char.ofNat 0x1F67, Char.ofNat 0x03B9]),
  (0x1FB2, [Char.ofNat 0x1F70, Char.ofNat 0x03B9]), (0x1FB3, [Char.ofNat 0x03B1, Char.ofNat 0x03B9]), (0x1FB4, [Char.ofNat 0x03AC, Char.ofNat 0x03B9]),
  (0x1FB6, [Char.ofNat 0x03B1, Char.ofNat 0x0342]), (0x1FB7, [Char.ofNat 0x03B1, Char.ofNat 0x0342, Char.ofNat 0x03B9]), (0x1FBC, [Char.ofNat 0x03B1, Char.ofNat 0x03B9]),
  (0x1FBE, [Char.ofNat 0x03B9]), (0x1FC2, [Char.ofNat 0x1F74, Char.ofNat 0x03B9]), (0x1FC3, [Char.ofNat 0x03B7, Char.ofNat 0x03B9]),
  (0x1FC4, [Char.ofNat 0x03AE, Char.ofNat 0x03B9]), (0x1FC6, [Char.ofNat 0x03B7, Char.ofNat 0x0342]), (0x1FC7, [Char.ofNat 0x03B7, Char.ofNat 0x0342, Char.ofNat 0x03B9]),
  (0x1FCC, [Char.ofNat 0x03B7, Char.ofNat 0x03B9]), (0x1FD2, [Char.ofNat 0x03B9, Char.ofNat 0x0308, Char.ofNat 0x0300]), (0x1FD3, [Char.ofNat 0x03B9, Char.ofNat 0x0308, Char.ofNat 0x0301]),
  (0x1FD6, [Char.ofNat 0x03B9, Char.ofNat 0x0342]), (0x1FD7, [Char.ofNat 0x03B9, Char.ofNat 0x0308, Char.ofNat 0x0342]), (0x1FE2, [Char.ofNat 0x03C5, Char.ofNat 0x0308, Char.ofNat 0x0300]),
  (0x1FE3, [Char.ofNat 0x03C5, Char.ofNat 0x0308, Char.ofNat 0x0301]), (0x1FE4, [Char.ofNat 0x03C1, Char.ofNat 0x0313]), (0x1FE6, [Char.ofNat 0x03C5, Char.ofNat 0x0342]),
  (0x1FE7, [Char.ofNat 0x03C5, Char.ofNat 0x0308, Char.ofNat 0x0342]), (0x1FF2, [Char.ofNat 0x1F7C, Char.ofNat 0x03B9]), (0x1FF3, [Char.ofNat 0x03C9, Char.ofNat 0x03B9]),
  (0x1FF4, [Char.ofNat 0x03CE, Char.ofNat 0x03B9]), (0x1FF6, [Char.ofNat 0x03C9, Char.ofNat 0x0342]), (0x1FF7, [Char.ofNat 0x03C9, Char.ofNat 0x0342, Char.ofNat 0x03B9]),
  (0x1FFC, [Char.ofNat 0x03C9, Char.ofNat 0x03B9]), (0xAB70, [Char.ofNat 0x13A0]), (0xAB71, [Char.ofNat 0x13A1]),
  (0xAB72, [Char.ofNat 0x13A2]), (0xAB73, [Char.ofNat 0x13A3]), (0xAB74, [Char.ofNat 0x13A4]),
  (0xAB75, [Char.ofNat 0x13A5]), (0xAB76, [Char.ofNat 0x13A6]), (0xAB77, [Char.ofNat 0x13A7]),
  (0xAB78, [Char.ofNat 0x13A8]), (0xAB79, [Char.ofNat 0x13A9]), (0xAB7A, [Char.ofNat 0x13AA]),
  (0xAB7B, [Char.ofNat 0x13AB]), (0xAB7C, [Char.ofNat 0x13AC]), (0xAB7D, [Char.ofNat 0x13AD]),
  (0xAB7E, [Char.ofNat 0x13AE]), (0xAB7F, [Char.ofNat 0x13AF]), (0xAB80, [Char.ofNat 0x13B0]),
  (0xAB81, [Char.ofNat 0x13B1]), (0xAB82, [Char.ofNat 0x13B2]), (0xAB83, [Char.ofNat 0x13B3]),
  (0xAB84, [Char.ofNat 0x13B4]), (0xAB85, [Char.ofNat 0x13B5]), (0xAB86, [Char.ofNat 0x13B6]),
  (0xAB87, [Char.ofNat 0x13B7]), (0xAB88, [Char.ofNat 0x13B8]), (0xAB89, [Char.ofNat 0x13B9]),
  (0xAB8A, [Char.ofNat 0x13BA]), (0xAB8B, [Char.ofNat 0x13BB]), (0xAB8C, [Char.ofNat 0x13BC]),
  (0xAB8D, [Char.ofNat 0x13BD]), (0xAB8E, [Char.ofNat 0x13BE]), (0xAB8F, [Char.ofNat 0x13BF]),
  (0xAB90, [Char.ofNat 0x13C0]), (0xAB91, [Char.ofNat 0x13C1]), (0xAB92, [Char.ofNat 0x13C2]),
  (0xAB93, [Char.ofNat 0x13C3]), (0xAB94, [Char.ofNat 0x13C4]), (0xAB95, [Char.ofNat 0x13C5]),
  (0xAB96, [Char.ofNat 0x13C6]), (0xAB97, [Char.ofNat 0x13C7]), (0xAB98, [Char.ofNat 0x13C8]),
  (0xAB99, [Char.ofNat 0x13C9]), (0xAB9A, [Char.ofNat 0x13CA]), (0xAB9B, [Char.ofNat 0x13CB]),
  (0xAB9C, [Char.ofNat 0x13CC]), (0xAB9D, [Char.ofNat 0x13CD]), (0xAB9E, [Char.ofNat 0x13CE]),
  (0xAB9F, [Char.ofNat 0x13CF]), (0xABA0, [Char.ofNat 0x13D0]), (0xABA1, [Char.ofNat 0x13D1]),
  (0xABA2, [Char.ofNat 0x13D2]), (0xABA3, [Char.ofNat 0x13D3]), (0xABA4, [Char.ofNat 0x13D4]),
  (0xABA5, [Char.ofNat 0x13D5]), (0xABA6, [Char.ofNat 0x13D6]), (0xABA7, [Char.ofNat 0x13D7]),
  (0xABA8, [Char.ofNat 0x13D8]), (0xABA9, [Char.ofNat 0x13D9]), (0xABAA, [Char.ofNat 0x13DA]),
  (0xABAB, [Char.ofNat 0x13DB]), (0xABAC, [Char.ofNat 0x13DC]), (0xABAD, [Char.ofNat 0x13DD]),
  (0xABAE, [Char.ofNat 0x13DE]), (0xABAF, [Char.ofNat 0x13DF]), (0xABB0, [Char.ofNat 0x13E0]),
  (0xABB1, [Char.ofNat 0x13E1]), (0xABB2, [Char.ofNat 0x13E2]), (0xABB3, [Char.ofNat 0x13E3]),
  (0xABB4, [Char.ofNat 0x13E4]), (0xABB5, [Char.ofNat 0x13E5]), (0xABB6, [Char.ofNat 0x13E6]),
  (0xABB7, [Char.ofNat 0x13E7]), (0xABB8, [Char.ofNat 0x13E8]), (0xABB9, [Char.ofNat 0x13E9]),
  (0xABBA, [Char.ofNat 0x13EA]), (0xABBB, [Char.ofNat 0x13EB]), (0xABBC, [Char.ofNat 0x13EC]),
  (0xABBD, [Char.ofNat 0x13ED]), (0xABBE, [Char.ofNat 0x13EE]), (0xABBF, [Char.ofNat 0x13EF]),
  (0xFB00, [Char.ofNat 0x0066, Char.ofNat 0x0066]), (0xFB01, [Char.ofNat 0x0066, Char.ofNat 0x0069]), (0xFB02, [Char.ofNat 0x0066, Char.ofNat 0x006C]),
  (0xFB03, [Char.ofNat 0x0066, Char.ofNat 0x0066, Char.ofNat 0x0069]), (0xFB04, [Char.ofNat 0x0066, Char.ofNat 0x0066, Char.ofNat 0x006C]), (0xFB05, [Char.ofNat 0x0073, Char.ofNat 0x0074]),
  (0xFB06, [Char.ofNat 0x0073, Char.ofNat 0x0074]), (0xFB13, [Char.ofNat 0x0574, Char.ofNat 0x0576]), (0xFB14, [Char.ofNat 0x0574, Char.ofNat 0x0565]),
  (0xFB15, [Char.ofNat 0x0574, Char.ofNat 0x056B]), (0xFB16, [Char.ofNat 0x057E, Char.ofNat 0x0576]), (0xFB17, [Char.ofNat 0x0574, Char.ofNat 0x056D])]

/-- The run that moves a code point to upper case, if any. -/
def upperRun? (n : Nat) : Option CaseRun :=
  upperRuns.find? fun r => r.lo ≤ n && n ≤ r.hi && (n - r.lo) % r.step == 0

/-- The upper-case form of one character. -/
def upperChar (c : Char) : List Char :=
  match upperSpecial.lookup c.toNat with
  | some t => t
  | none =>
    match upperRun? c.toNat with
    | some r => [Char.ofNat (Int.toNat (c.toNat + r.shift))]
    | none => [c]

/-- The title-case form of one character. -/
def titleChar (c : Char) : List Char :=
  match titleSpecial.lookup c.toNat with
  | some t => t
  | none => upperChar c

/-- The case folding of one character. -/
def foldChar (c : Char) : List Char :=
  match foldSpecial.lookup c.toNat with
  | some t => t
  | none => lowerChar c

/-- The upper-case form of a text, character by character. -/
def upper (s : String) : String :=
  String.ofList (s.toList.flatMap upperChar)

/-- The case folding of a text, character by character. -/
def casefold (s : String) : String :=
  String.ofList (s.toList.flatMap foldChar)

end Text
end UiTags
