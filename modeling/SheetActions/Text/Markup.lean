/-! Characters in markup.

A workbook file holds its texts as markup, which cannot hold some characters: most control
characters, and the two codes at the end of the basic plane that stand for no character. -/
namespace SheetActions.Text

/-- Whether markup can hold a character. -/
def isMarkupChar (c : Char) : Bool :=
  c = '\t' || c = '\n' || c = '\r' || (0x20 ≤ c.toNat && c.toNat ≠ 0xFFFE && c.toNat ≠ 0xFFFF)

end SheetActions.Text
