import SelectorScan.Dns.Nameprep.Table

/-!
# Characters that no label may hold

Spaces and controls beyond ASCII, private and surrogate code points, non-characters, and characters
that change how text is shown.
-/

namespace SelectorScan.Dns.Nameprep

def prohibitedRows : List String := [
  "80-A0;340-341;6DD;70F;1680;180E;2000-200F;2028-202F;205F-2063;206A-206F;2FF0-2FFB;3000",
  "E000-F8FF;FDD0-FDEF;FEFF;FFF9-FFFF;1D173-1D17A;1FFFE-1FFFF;2FFFE-2FFFF;3FFFE-3FFFF;4FFFE-4FFFF",
  "5FFFE-5FFFF;6FFFE-6FFFF;7FFFE-7FFFF;8FFFE-8FFFF;9FFFE-9FFFF;AFFFE-AFFFF;BFFFE-BFFFF",
  "CFFFE-CFFFF;DFFFE-DFFFF;E0001;E0020-E007F;EFFFE-10FFFF"]

def prohibitedTable : Table :=
  Table.ofRows prohibitedRows

end SelectorScan.Dns.Nameprep
