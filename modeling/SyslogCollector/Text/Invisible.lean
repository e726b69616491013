import SyslogCollector.Text.CodeRanges
/-!
# Characters that show nothing

Control characters, format characters, separators other than the space, and fillers: the characters
that stand in a text without a shape of their own. Characters for private use are with them, because
nobody knows their shape.
-/

namespace SyslogCollector.Text

/-- The general categories `Cc`, `Cf`, `Zl`, `Zp` and `Zs` without the space. -/
def controlsAndSeparators : CodeRanges :=
  [(0x0000, 0x001F), (0x007F, 0x00A0), (0x00AD, 0x00AD), (0x0600, 0x0605), (0x061C, 0x061C),
    (0x06DD, 0x06DD), (0x070F, 0x070F), (0x0890, 0x0891), (0x08E2, 0x08E2), (0x1680, 0x1680),
    (0x180E, 0x180E), (0x2000, 0x200F), (0x2028, 0x202F), (0x205F, 0x2064), (0x2066, 0x206F),
    (0x3000, 0x3000), (0xFEFF, 0xFEFF), (0xFFF9, 0xFFFB), (0x110BD, 0x110BD), (0x110CD, 0x110CD),
    (0x13430, 0x1343F), (0x1BCA0, 0x1BCA3), (0x1D173, 0x1D17A), (0xE0001, 0xE0001),
    (0xE0020, 0xE007F)]

/-- The letters with the property `Default_Ignorable_Code_Point`. -/
def fillers : CodeRanges :=
  [(0x115F, 0x1160), (0x3164, 0x3164), (0xFFA0, 0xFFA0)]

/-- The general category `Co`. -/
def privateUse : CodeRanges :=
  [(0xE000, 0xF8FF), (0xF0000, 0xFFFFD), (0x100000, 0x10FFFD)]

/-- Whether a character shows nothing that is known. -/
def isInvisible (c : Char) : Bool :=
  controlsAndSeparators.covers c || fillers.covers c || privateUse.covers c

end SyslogCollector.Text
