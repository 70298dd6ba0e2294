/-! Compatibility mappings of letters in the shapes that they take within a word. -/

namespace UniText.CharacterData

/-- Each row holds a shape at the start of a word and its letters. -/
def initialRows : String := "
  FB54 067B; FB58 067E; FB5C 0680; FB60 067A; FB64 067F; FB68 0679; FB6C 06A4; FB70 06A6;
  FB74 0684; FB78 0683; FB7C 0686; FB80 0687; FB90 06A9; FB94 06AF; FB98 06B3; FB9C 06B1;
  FBA2 06BB; FBA8 06C1; FBAC 06BE; FBD5 06AD; FBE6 06D0; FBE8 0649; FBF8 0626 06D0;
  FBFB 0626 0649; FBFE 06CC; FC97 0626 062C; FC98 0626 062D; FC99 0626 062E; FC9A 0626 0645;
  FC9B 0626 0647; FC9C 0628 062C; FC9D 0628 062D; FC9E 0628 062E; FC9F 0628 0645; FCA0 0628 0647;
  FCA1 062A 062C; FCA2 062A 062D; FCA3 062A 062E; FCA4 062A 0645; FCA5 062A 0647; FCA6 062B 0645;
  FCA7 062C 062D; FCA8 062C 0645; FCA9 062D 062C; FCAA 062D 0645; FCAB 062E 062C; FCAC 062E 0645;
  FCAD 0633 062C; FCAE 0633 062D; FCAF 0633 062E; FCB0 0633 0645; FCB1 0635 062D; FCB2 0635 062E;
  FCB3 0635 0645; FCB4 0636 062C; FCB5 0636 062D; FCB6 0636 062E; FCB7 0636 0645; FCB8 0637 062D;
  FCB9 0638 0645; FCBA 0639 062C; FCBB 0639 0645; FCBC 063A 062C; FCBD 063A 0645; FCBE 0641 062C;
  FCBF 0641 062D; FCC0 0641 062E; FCC1 0641 0645; FCC2 0642 062D; FCC3 0642 0645; FCC4 0643 062C;
  FCC5 0643 062D; FCC6 0643 062E; FCC7 0643 0644; FCC8 0643 0645; FCC9 0644 062C; FCCA 0644 062D;
  FCCB 0644 062E; FCCC 0644 0645; FCCD 0644 0647; FCCE 0645 062C; FCCF 0645 062D; FCD0 0645 062E;
  FCD1 0645 0645; FCD2 0646 062C; FCD3 0646 062D; FCD4 0646 062E; FCD5 0646 0645; FCD6 0646 0647;
  FCD7 0647 062C; FCD8 0647 0645; FCD9 0647 0670; FCDA 064A 062C; FCDB 064A 062D; FCDC 064A 062E;
  FCDD 064A 0645; FCDE 064A 0647; FD2D 0634 062C; FD2E 0634 062D; FD2F 0634 062E; FD30 0634 0645;
  FD31 0633 0647; FD32 0634 0647; FD33 0637 0645; FD50 062A 062C 0645; FD52 062A 062D 062C;
  FD53 062A 062D 0645; FD54 062A 062E 0645; FD55 062A 0645 062C; FD56 062A 0645 062D;
  FD57 062A 0645 062E; FD59 062C 0645 062D; FD5C 0633 062D 062C; FD5D 0633 062C 062D;
  FD60 0633 0645 062D; FD61 0633 0645 062C; FD63 0633 0645 0645; FD65 0635 062D 062D;
  FD68 0634 062D 0645; FD6B 0634 0645 062E; FD6D 0634 0645 0645; FD70 0636 062E 0645;
  FD72 0637 0645 062D; FD73 0637 0645 0645; FD77 0639 0645 0645; FD7D 0641 062E 0645;
  FD83 0644 062C 062C; FD86 0644 062E 0645; FD88 0644 0645 062D; FD89 0645 062D 062C;
  FD8A 0645 062D 0645; FD8C 0645 062C 062D; FD8D 0645 062C 0645; FD8E 0645 062E 062C;
  FD8F 0645 062E 0645; FD92 0645 062C 062E; FD93 0647 0645 062C; FD94 0647 0645 0645;
  FD95 0646 062D 0645; FD98 0646 062C 0645; FD9D 064A 0645 0645; FDB4 0642 0645 062D;
  FDB5 0644 062D 0645; FDB8 0646 062C 062D; FDBA 0644 062C 0645; FDC3 0643 0645 0645;
  FDC4 0639 062C 0645; FDC5 0635 0645 0645; FE8B 0626; FE91 0628; FE97 062A; FE9B 062B; FE9F 062C;
  FEA3 062D; FEA7 062E; FEB3 0633; FEB7 0634; FEBB 0635; FEBF 0636; FEC3 0637; FEC7 0638;
  FECB 0639; FECF 063A; FED3 0641; FED7 0642; FEDB 0643; FEDF 0644; FEE3 0645; FEE7 0646;
  FEEB 0647; FEF3 064A"

/-- Each row holds a shape inside a word and its letters. -/
def medialRows : String := "
  FB55 067B; FB59 067E; FB5D 0680; FB61 067A; FB65 067F; FB69 0679; FB6D 06A4; FB71 06A6;
  FB75 0684; FB79 0683; FB7D 0686; FB81 0687; FB91 06A9; FB95 06AF; FB99 06B3; FB9D 06B1;
  FBA3 06BB; FBA9 06C1; FBAD 06BE; FBD6 06AD; FBE7 06D0; FBE9 0649; FBFF 06CC; FCDF 0626 0645;
  FCE0 0626 0647; FCE1 0628 0645; FCE2 0628 0647; FCE3 062A 0645; FCE4 062A 0647; FCE5 062B 0645;
  FCE6 062B 0647; FCE7 0633 0645; FCE8 0633 0647; FCE9 0634 0645; FCEA 0634 0647; FCEB 0643 0644;
  FCEC 0643 0645; FCED 0644 0645; FCEE 0646 0645; FCEF 0646 0647; FCF0 064A 0645; FCF1 064A 0647;
  FCF2 0640 064E 0651; FCF3 0640 064F 0651; FCF4 0640 0650 0651; FD34 0633 062C; FD35 0633 062D;
  FD36 0633 062E; FD37 0634 062C; FD38 0634 062D; FD39 0634 062E; FD3A 0637 0645; FD3B 0638 0645;
  FE71 0640 064B; FE77 0640 064E; FE79 0640 064F; FE7B 0640 0650; FE7D 0640 0651; FE7F 0640 0652;
  FE8C 0626; FE92 0628; FE98 062A; FE9C 062B; FEA0 062C; FEA4 062D; FEA8 062E; FEB4 0633;
  FEB8 0634; FEBC 0635; FEC0 0636; FEC4 0637; FEC8 0638; FECC 0639; FED0 063A; FED4 0641;
  FED8 0642; FEDC 0643; FEE0 0644; FEE4 0645; FEE8 0646; FEEC 0647; FEF4 064A"

/-- Each row holds a shape at the end of a word and its letters. -/
def finalRows : String := "
  FB51 0671; FB53 067B; FB57 067E; FB5B 0680; FB5F 067A; FB63 067F; FB67 0679; FB6B 06A4;
  FB6F 06A6; FB73 0684; FB77 0683; FB7B 0686; FB7F 0687; FB83 068D; FB85 068C; FB87 068E;
  FB89 0688; FB8B 0698; FB8D 0691; FB8F 06A9; FB93 06AF; FB97 06B3; FB9B 06B1; FB9F 06BA;
  FBA1 06BB; FBA5 06C0; FBA7 06C1; FBAB 06BE; FBAF 06D2; FBB1 06D3; FBD4 06AD; FBD8 06C7;
  FBDA 06C6; FBDC 06C8; FBDF 06CB; FBE1 06C5; FBE3 06C9; FBE5 06D0; FBEB 0626 0627;
  FBED 0626 06D5; FBEF 0626 0648; FBF1 0626 06C7; FBF3 0626 06C6; FBF5 0626 06C8; FBF7 0626 06D0;
  FBFA 0626 0649; FBFD 06CC; FC64 0626 0631; FC65 0626 0632; FC66 0626 0645; FC67 0626 0646;
  FC68 0626 0649; FC69 0626 064A; FC6A 0628 0631; FC6B 0628 0632; FC6C 0628 0645; FC6D 0628 0646;
  FC6E 0628 0649; FC6F 0628 064A; FC70 062A 0631; FC71 062A 0632; FC72 062A 0645; FC73 062A 0646;
  FC74 062A 0649; FC75 062A 064A; FC76 062B 0631; FC77 062B 0632; FC78 062B 0645; FC79 062B 0646;
  FC7A 062B 0649; FC7B 062B 064A; FC7C 0641 0649; FC7D 0641 064A; FC7E 0642 0649; FC7F 0642 064A;
  FC80 0643 0627; FC81 0643 0644; FC82 0643 0645; FC83 0643 0649; FC84 0643 064A; FC85 0644 0645;
  FC86 0644 0649; FC87 0644 064A; FC88 0645 0627; FC89 0645 0645; FC8A 0646 0631; FC8B 0646 0632;
  FC8C 0646 0645; FC8D 0646 0646; FC8E 0646 0649; FC8F 0646 064A; FC90 0649 0670; FC91 064A 0631;
  FC92 064A 0632; FC93 064A 0645; FC94 064A 0646; FC95 064A 0649; FC96 064A 064A; FD11 0637 0649;
  FD12 0637 064A; FD13 0639 0649; FD14 0639 064A; FD15 063A 0649; FD16 063A 064A; FD17 0633 0649;
  FD18 0633 064A; FD19 0634 0649; FD1A 0634 064A; FD1B 062D 0649; FD1C 062D 064A; FD1D 062C 0649;
  FD1E 062C 064A; FD1F 062E 0649; FD20 062E 064A; FD21 0635 0649; FD22 0635 064A; FD23 0636 0649;
  FD24 0636 064A; FD25 0634 062C; FD26 0634 062D; FD27 0634 062E; FD28 0634 0645; FD29 0634 0631;
  FD2A 0633 0631; FD2B 0635 0631; FD2C 0636 0631; FD3C 0627 064B; FD51 062A 062D 062C;
  FD58 062C 0645 062D; FD5A 062D 0645 064A; FD5B 062D 0645 0649; FD5E 0633 062C 0649;
  FD5F 0633 0645 062D; FD62 0633 0645 0645; FD64 0635 062D 062D; FD66 0635 0645 0645;
  FD67 0634 062D 0645; FD69 0634 062C 064A; FD6A 0634 0645 062E; FD6C 0634 0645 0645;
  FD6E 0636 062D 0649; FD6F 0636 062E 0645; FD71 0637 0645 062D; FD74 0637 0645 064A;
  FD75 0639 062C 0645; FD76 0639 0645 0645; FD78 0639 0645 0649; FD79 063A 0645 0645;
  FD7A 063A 0645 064A; FD7B 063A 0645 0649; FD7C 0641 062E 0645; FD7E 0642 0645 062D;
  FD7F 0642 0645 0645; FD80 0644 062D 0645; FD81 0644 062D 064A; FD82 0644 062D 0649;
  FD84 0644 062C 062C; FD85 0644 062E 0645; FD87 0644 0645 062D; FD8B 0645 062D 064A;
  FD96 0646 062D 0649; FD97 0646 062C 0645; FD99 0646 062C 0649; FD9A 0646 0645 064A;
  FD9B 0646 0645 0649; FD9C 064A 0645 0645; FD9E 0628 062E 064A; FD9F 062A 062C 064A;
  FDA0 062A 062C 0649; FDA1 062A 062E 064A; FDA2 062A 062E 0649; FDA3 062A 0645 064A;
  FDA4 062A 0645 0649; FDA5 062C 0645 064A; FDA6 062C 062D 0649; FDA7 062C 0645 0649;
  FDA8 0633 062E 0649; FDA9 0635 062D 064A; FDAA 0634 062D 064A; FDAB 0636 062D 064A;
  FDAC 0644 062C 064A; FDAD 0644 0645 064A; FDAE 064A 062D 064A; FDAF 064A 062C 064A;
  FDB0 064A 0645 064A; FDB1 0645 0645 064A; FDB2 0642 0645 064A; FDB3 0646 062D 064A;
  FDB6 0639 0645 064A; FDB7 0643 0645 064A; FDB9 0645 062E 064A; FDBB 0643 0645 0645;
  FDBC 0644 062C 0645; FDBD 0646 062C 062D; FDBE 062C 062D 064A; FDBF 062D 062C 064A;
  FDC0 0645 062C 064A; FDC1 0641 0645 064A; FDC2 0628 062D 064A; FDC6 0633 062E 064A;
  FDC7 0646 062C 064A; FE82 0622; FE84 0623; FE86 0624; FE88 0625; FE8A 0626; FE8E 0627;
  FE90 0628; FE94 0629; FE96 062A; FE9A 062B; FE9E 062C; FEA2 062D; FEA6 062E; FEAA 062F;
  FEAC 0630; FEAE 0631; FEB0 0632; FEB2 0633; FEB6 0634; FEBA 0635; FEBE 0636; FEC2 0637;
  FEC6 0638; FECA 0639; FECE 063A; FED2 0641; FED6 0642; FEDA 0643; FEDE 0644; FEE2 0645;
  FEE6 0646; FEEA 0647; FEEE 0648; FEF0 0649; FEF2 064A; FEF6 0644 0622; FEF8 0644 0623;
  FEFA 0644 0625; FEFC 0644 0627"

/-- Each row holds a shape that stands alone and its letters. -/
def isolatedRows : String := "
  FB50 0671; FB52 067B; FB56 067E; FB5A 0680; FB5E 067A; FB62 067F; FB66 0679; FB6A 06A4;
  FB6E 06A6; FB72 0684; FB76 0683; FB7A 0686; FB7E 0687; FB82 068D; FB84 068C; FB86 068E;
  FB88 0688; FB8A 0698; FB8C 0691; FB8E 06A9; FB92 06AF; FB96 06B3; FB9A 06B1; FB9E 06BA;
  FBA0 06BB; FBA4 06C0; FBA6 06C1; FBAA 06BE; FBAE 06D2; FBB0 06D3; FBD3 06AD; FBD7 06C7;
  FBD9 06C6; FBDB 06C8; FBDD 0677; FBDE 06CB; FBE0 06C5; FBE2 06C9; FBE4 06D0; FBEA 0626 0627;
  FBEC 0626 06D5; FBEE 0626 0648; FBF0 0626 06C7; FBF2 0626 06C6; FBF4 0626 06C8; FBF6 0626 06D0;
  FBF9 0626 0649; FBFC 06CC; FC00 0626 062C; FC01 0626 062D; FC02 0626 0645; FC03 0626 0649;
  FC04 0626 064A; FC05 0628 062C; FC06 0628 062D; FC07 0628 062E; FC08 0628 0645; FC09 0628 0649;
  FC0A 0628 064A; FC0B 062A 062C; FC0C 062A 062D; FC0D 062A 062E; FC0E 062A 0645; FC0F 062A 0649;
  FC10 062A 064A; FC11 062B 062C; FC12 062B 0645; FC13 062B 0649; FC14 062B 064A; FC15 062C 062D;
  FC16 062C 0645; FC17 062D 062C; FC18 062D 0645; FC19 062E 062C; FC1A 062E 062D; FC1B 062E 0645;
  FC1C 0633 062C; FC1D 0633 062D; FC1E 0633 062E; FC1F 0633 0645; FC20 0635 062D; FC21 0635 0645;
  FC22 0636 062C; FC23 0636 062D; FC24 0636 062E; FC25 0636 0645; FC26 0637 062D; FC27 0637 0645;
  FC28 0638 0645; FC29 0639 062C; FC2A 0639 0645; FC2B 063A 062C; FC2C 063A 0645; FC2D 0641 062C;
  FC2E 0641 062D; FC2F 0641 062E; FC30 0641 0645; FC31 0641 0649; FC32 0641 064A; FC33 0642 062D;
  FC34 0642 0645; FC35 0642 0649; FC36 0642 064A; FC37 0643 0627; FC38 0643 062C; FC39 0643 062D;
  FC3A 0643 062E; FC3B 0643 0644; FC3C 0643 0645; FC3D 0643 0649; FC3E 0643 064A; FC3F 0644 062C;
  FC40 0644 062D; FC41 0644 062E; FC42 0644 0645; FC43 0644 0649; FC44 0644 064A; FC45 0645 062C;
  FC46 0645 062D; FC47 0645 062E; FC48 0645 0645; FC49 0645 0649; FC4A 0645 064A; FC4B 0646 062C;
  FC4C 0646 062D; FC4D 0646 062E; FC4E 0646 0645; FC4F 0646 0649; FC50 0646 064A; FC51 0647 062C;
  FC52 0647 0645; FC53 0647 0649; FC54 0647 064A; FC55 064A 062C; FC56 064A 062D; FC57 064A 062E;
  FC58 064A 0645; FC59 064A 0649; FC5A 064A 064A; FC5B 0630 0670; FC5C 0631 0670; FC5D 0649 0670;
  FC5E 0020 064C 0651; FC5F 0020 064D 0651; FC60 0020 064E 0651; FC61 0020 064F 0651;
  FC62 0020 0650 0651; FC63 0020 0651 0670; FCF5 0637 0649; FCF6 0637 064A; FCF7 0639 0649;
  FCF8 0639 064A; FCF9 063A 0649; FCFA 063A 064A; FCFB 0633 0649; FCFC 0633 064A; FCFD 0634 0649;
  FCFE 0634 064A; FCFF 062D 0649; FD00 062D 064A; FD01 062C 0649; FD02 062C 064A; FD03 062E 0649;
  FD04 062E 064A; FD05 0635 0649; FD06 0635 064A; FD07 0636 0649; FD08 0636 064A; FD09 0634 062C;
  FD0A 0634 062D; FD0B 0634 062E; FD0C 0634 0645; FD0D 0634 0631; FD0E 0633 0631; FD0F 0635 0631;
  FD10 0636 0631; FD3D 0627 064B; FDF0 0635 0644 06D2; FDF1 0642 0644 06D2;
  FDF2 0627 0644 0644 0647; FDF3 0627 0643 0628 0631; FDF4 0645 062D 0645 062F;
  FDF5 0635 0644 0639 0645; FDF6 0631 0633 0648 0644; FDF7 0639 0644 064A 0647;
  FDF8 0648 0633 0644 0645; FDF9 0635 0644 0649;
  FDFA 0635 0644 0649 0020 0627 0644 0644 0647 0020 0639 0644 064A 0647 0020 0648 0633 0644 0645;
  FDFB 062C 0644 0020 062C 0644 0627 0644 0647; FDFC 0631 06CC 0627 0644; FE70 0020 064B;
  FE72 0020 064C; FE74 0020 064D; FE76 0020 064E; FE78 0020 064F; FE7A 0020 0650; FE7C 0020 0651;
  FE7E 0020 0652; FE80 0621; FE81 0622; FE83 0623; FE85 0624; FE87 0625; FE89 0626; FE8D 0627;
  FE8F 0628; FE93 0629; FE95 062A; FE99 062B; FE9D 062C; FEA1 062D; FEA5 062E; FEA9 062F;
  FEAB 0630; FEAD 0631; FEAF 0632; FEB1 0633; FEB5 0634; FEB9 0635; FEBD 0636; FEC1 0637;
  FEC5 0638; FEC9 0639; FECD 063A; FED1 0641; FED5 0642; FED9 0643; FEDD 0644; FEE1 0645;
  FEE5 0646; FEE9 0647; FEED 0648; FEEF 0649; FEF1 064A; FEF5 0644 0622; FEF7 0644 0623;
  FEF9 0644 0625; FEFB 0644 0627"

end UniText.CharacterData
