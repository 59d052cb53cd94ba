import RemoteConsole.Name.Joining
import RemoteConsole.Name.Mapping
import RemoteConsole.Name.Punycode

/-!
# Labels

A label is a part of a name between full stops. It means a text of any script,
and is written in ASCII: a text that is not ASCII becomes Punycode behind a
sign.

* `Label.read?` — the text that a label means.
* `Label.isProper` — whether a text may be a label.
* `Label.write` — the ASCII form.
-/

namespace RemoteConsole.Label

/-! ## Characters -/

/-- Whether a text is ASCII. -/
def isAscii (text : List Char) : Bool :=
  text.all Punycode.isPlain

/-- Whether no label may hold a character, because an address gives it a
meaning. -/
def isForbidden (c : Char) : Bool :=
  c.toNat ≤ 0x20 || c.toNat == 0x7F || "#/:<>?@[\\]^|%".toList.contains c

/-- The marks that have a width, or that turn with the direction of writing. -/
def wideMarks : CodePoints := ⟨
  [0x903, 0x904, 0x93B, 0x93C, 0x93E, 0x941, 0x949, 0x94D, 0x94E, 0x950, 0x982, 0x985, 0x9BE,
    0x9C1, 0x9C7, 0x9CD, 0x9D7, 0x9E0, 0xA03, 0xA05, 0xA3E, 0xA41, 0xA83, 0xA85, 0xABE, 0xAC1,
    0xAC9, 0xACD, 0xB02, 0xB05, 0xB3E, 0xB3F, 0xB40, 0xB41, 0xB47, 0xB4D, 0xB57, 0xB5F, 0xBBE,
    0xBC0, 0xBC1, 0xBCD, 0xBD7, 0xBE6, 0xC01, 0xC04, 0xC41, 0xC46, 0xC82, 0xC84, 0xCBE, 0xCCC,
    0xCD5, 0xCDC, 0xCF3, 0xD00, 0xD02, 0xD04, 0xD3E, 0xD41, 0xD46, 0xD4D, 0xD57, 0xD58, 0xD82,
    0xD85, 0xDCF, 0xDD2, 0xDD8, 0xDE6, 0xDF2, 0xDF4, 0xF3E, 0xF40, 0xF7F, 0xF80, 0x102B, 0x102D,
    0x1031, 0x1032, 0x1038, 0x1039, 0x103B, 0x103D, 0x1056, 0x1058, 0x1062, 0x1065, 0x1067,
    0x106E, 0x1083, 0x1085, 0x1087, 0x108D, 0x108F, 0x1090, 0x109A, 0x109D, 0x1715, 0x171F,
    0x1734, 0x1735, 0x17B6, 0x17B7, 0x17BE, 0x17C6, 0x17C7, 0x17C9, 0x1923, 0x1927, 0x1929,
    0x1932, 0x1933, 0x1939, 0x1A19, 0x1A1B, 0x1A55, 0x1A56, 0x1A57, 0x1A58, 0x1A61, 0x1A62,
    0x1A63, 0x1A65, 0x1A6D, 0x1A73, 0x1B04, 0x1B05, 0x1B35, 0x1B36, 0x1B3B, 0x1B3C, 0x1B3D,
    0x1B42, 0x1B43, 0x1B45, 0x1B82, 0x1B83, 0x1BA1, 0x1BA2, 0x1BA6, 0x1BA8, 0x1BAA, 0x1BAB,
    0x1BE7, 0x1BE8, 0x1BEA, 0x1BED, 0x1BEE, 0x1BEF, 0x1BF2, 0x1BFC, 0x1C24, 0x1C2C, 0x1C34,
    0x1C36, 0x1CE1, 0x1CE2, 0x1CF7, 0x1CF8, 0x302E, 0x3030, 0xA823, 0xA825, 0xA827, 0xA828,
    0xA880, 0xA882, 0xA8B4, 0xA8C4, 0xA952, 0xA95F, 0xA983, 0xA984, 0xA9B4, 0xA9B6, 0xA9BA,
    0xA9BC, 0xA9BE, 0xA9C1, 0xAA2F, 0xAA31, 0xAA33, 0xAA35, 0xAA4D, 0xAA50, 0xAA7B, 0xAA7C,
    0xAA7D, 0xAA7E, 0xAAEB, 0xAAEC, 0xAAEE, 0xAAF0, 0xAAF5, 0xAAF6, 0xABE3, 0xABE5, 0xABE6,
    0xABE8, 0xABE9, 0xABEB, 0xABEC, 0xABED, 0x11000, 0x11001, 0x11002, 0x11003, 0x11082, 0x11083,
    0x110B0, 0x110B3, 0x110B7, 0x110B9, 0x1112C, 0x1112D, 0x11145, 0x11147, 0x11182, 0x11183,
    0x111B3, 0x111B6, 0x111BF, 0x111C1, 0x111CE, 0x111CF, 0x1122C, 0x1122F, 0x11232, 0x11234,
    0x11235, 0x11236, 0x112E0, 0x112E3, 0x11302, 0x11305, 0x1133E, 0x11340, 0x11341, 0x11350,
    0x11357, 0x1135D, 0x11362, 0x11366, 0x113B8, 0x113BB, 0x113C2, 0x113CE, 0x113CF, 0x113D0,
    0x11435, 0x11438, 0x11440, 0x11442, 0x11445, 0x11446, 0x114B0, 0x114B3, 0x114B9, 0x114BA,
    0x114BB, 0x114BF, 0x114C1, 0x114C2, 0x115AF, 0x115B2, 0x115B8, 0x115BC, 0x115BE, 0x115BF,
    0x11630, 0x11633, 0x1163B, 0x1163D, 0x1163E, 0x1163F, 0x116AC, 0x116AD, 0x116AE, 0x116B0,
    0x116B6, 0x116B7, 0x1171E, 0x1171F, 0x11720, 0x11722, 0x11726, 0x11727, 0x1182C, 0x1182F,
    0x11838, 0x11839, 0x11930, 0x1193B, 0x1193D, 0x1193E, 0x11940, 0x11941, 0x11942, 0x11943,
    0x119D1, 0x119D4, 0x119DC, 0x119E0, 0x119E4, 0x11A00, 0x11A07, 0x11A09, 0x11A39, 0x11A3A,
    0x11A57, 0x11A59, 0x11A97, 0x11A98, 0x11B61, 0x11B62, 0x11B65, 0x11B66, 0x11B67, 0x11BC0,
    0x11C2F, 0x11C30, 0x11C3E, 0x11C40, 0x11CA9, 0x11CAA, 0x11CB1, 0x11CB2, 0x11CB4, 0x11CB5,
    0x11D8A, 0x11D90, 0x11D93, 0x11D95, 0x11D96, 0x11D97, 0x11EF5, 0x11EF7, 0x11F03, 0x11F04,
    0x11F34, 0x11F36, 0x11F3E, 0x11F40, 0x11F41, 0x11F42, 0x1612A, 0x1612D, 0x16F51, 0x16F8F,
    0x16FF0, 0x16FF2, 0x1D165, 0x1D167, 0x1D16D, 0x1D17B]⟩

/-- Whether a character is a mark, which needs a letter before it. -/
def isMark (c : Char) : Bool :=
  Direction.marks.mem c || wideMarks.mem c

/-! ## Reading -/

/-- The sign before Punycode. -/
def sign : List Char := "xn--".toList

/-- The greatest length of Punycode. -/
def maxWritten : Nat := 2000

/-- The greatest length of a text that has to be written as Punycode. -/
def maxRead : Nat := 1000

/-- The text of Punycode, if it was written from the one form of a text. -/
def decode? (written : List Char) : Option (List Char) :=
  -- what ends in a hyphen writes a text that needs no Punycode
  if written.isEmpty ∨ written.getLast? = some '-' ∨ maxWritten < written.length then none
  else (Punycode.decode? written).filter fun text =>
    Mapping.isFixed text && decide (Composition.normal text = text)

/-- The text that a label means. -/
def read? (label : List Char) : Option (List Char) :=
  if sign.isPrefixOf label then
    if isAscii label then decode? (label.drop sign.length) else none
  else if isAscii label || label.length ≤ maxRead then some label
  else none

/-- Whether a text may be a label. -/
def isProper (text : List Char) : Bool :=
  text.all (!isForbidden ·) && !text.head?.any isMark && Joining.isMeaningful text

/-! ## Writing -/

/-- The ASCII form of a text. -/
def write (text : List Char) : List Char :=
  if isAscii text then text else sign ++ Punycode.encode text

end RemoteConsole.Label
