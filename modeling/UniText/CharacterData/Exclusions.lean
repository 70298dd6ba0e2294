/-! Characters that are kept out of composition, apart from those that are for a general reason. -/

namespace UniText.CharacterData

/-- Each row holds one character, or the first and the last of a range. -/
def exclusionRows : String := "
  0958 095F; 09DC 09DD; 09DF; 0A33; 0A36; 0A59 0A5B; 0A5E; 0B5C 0B5D; 0F43; 0F4D; 0F52; 0F57;
  0F5C; 0F69; 0F76; 0F78; 0F93; 0F9D; 0FA2; 0FA7; 0FAC; 0FB9; 2ADC; FB1D; FB1F; FB2A FB36;
  FB38 FB3C; FB3E; FB40 FB41; FB43 FB44; FB46 FB4E; 1D15E 1D164; 1D1BB 1D1C0"

end UniText.CharacterData
