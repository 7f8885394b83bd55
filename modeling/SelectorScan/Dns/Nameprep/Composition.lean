import SelectorScan.Dns.Nameprep.Table

/-!
# Canonical composition

The pairs of characters, Hangul apart, that normalization puts together. A pair is looked up by the
first character times 0x200000 plus the second.
-/

namespace SelectorScan.Dns.Nameprep

/-- The character that a pair makes. -/
def compositionRows : List String := [
  "7800338 226E;7A00338 2260;7C00338 226F;8200300 C0;8200301 C1;8200302 C2;8200303 C3;8200304 100",
  "8200306 102;8200307 226;8200308 C4;8200309 1EA2;820030A C5;820030C 1CD;820030F 200;8200311 202",
  "8200323 1EA0;8200325 1E00;8200328 104;8400307 1E02;8400323 1E04;8400331 1E06;8600301 106",
  "8600302 108;8600307 10A;860030C 10C;8600327 C7;8800307 1E0A;880030C 10E;8800323 1E0C",
  "8800327 1E10;880032D 1E12;8800331 1E0E;8A00300 C8;8A00301 C9;8A00302 CA;8A00303 1EBC",
  "8A00304 112;8A00306 114;8A00307 116;8A00308 CB;8A00309 1EBA;8A0030C 11A;8A0030F 204",
  "8A00311 206;8A00323 1EB8;8A00327 228;8A00328 118;8A0032D 1E18;8A00330 1E1A;8C00307 1E1E",
  "8E00301 1F4;8E00302 11C;8E00304 1E20;8E00306 11E;8E00307 120;8E0030C 1E6;8E00327 122",
  "9000302 124;9000307 1E22;9000308 1E26;900030C 21E;9000323 1E24;9000327 1E28;900032E 1E2A",
  "9200300 CC;9200301 CD;9200302 CE;9200303 128;9200304 12A;9200306 12C;9200307 130;9200308 CF",
  "9200309 1EC8;920030C 1CF;920030F 208;9200311 20A;9200323 1ECA;9200328 12E;9200330 1E2C",
  "9400302 134;9600301 1E30;960030C 1E8;9600323 1E32;9600327 136;9600331 1E34;9800301 139",
  "980030C 13D;9800323 1E36;9800327 13B;980032D 1E3C;9800331 1E3A;9A00301 1E3E;9A00307 1E40",
  "9A00323 1E42;9C00300 1F8;9C00301 143;9C00303 D1;9C00307 1E44;9C0030C 147;9C00323 1E46",
  "9C00327 145;9C0032D 1E4A;9C00331 1E48;9E00300 D2;9E00301 D3;9E00302 D4;9E00303 D5;9E00304 14C",
  "9E00306 14E;9E00307 22E;9E00308 D6;9E00309 1ECE;9E0030B 150;9E0030C 1D1;9E0030F 20C",
  "9E00311 20E;9E0031B 1A0;9E00323 1ECC;9E00328 1EA;A000301 1E54;A000307 1E56;A400301 154",
  "A400307 1E58;A40030C 158;A40030F 210;A400311 212;A400323 1E5A;A400327 156;A400331 1E5E",
  "A600301 15A;A600302 15C;A600307 1E60;A60030C 160;A600323 1E62;A600326 218;A600327 15E",
  "A800307 1E6A;A80030C 164;A800323 1E6C;A800326 21A;A800327 162;A80032D 1E70;A800331 1E6E",
  "AA00300 D9;AA00301 DA;AA00302 DB;AA00303 168;AA00304 16A;AA00306 16C;AA00308 DC;AA00309 1EE6",
  "AA0030A 16E;AA0030B 170;AA0030C 1D3;AA0030F 214;AA00311 216;AA0031B 1AF;AA00323 1EE4",
  "AA00324 1E72;AA00328 172;AA0032D 1E76;AA00330 1E74;AC00303 1E7C;AC00323 1E7E;AE00300 1E80",
  "AE00301 1E82;AE00302 174;AE00307 1E86;AE00308 1E84;AE00323 1E88;B000307 1E8A;B000308 1E8C",
  "B200300 1EF2;B200301 DD;B200302 176;B200303 1EF8;B200304 232;B200307 1E8E;B200308 178",
  "B200309 1EF6;B200323 1EF4;B400301 179;B400302 1E90;B400307 17B;B40030C 17D;B400323 1E92",
  "B400331 1E94;C200300 E0;C200301 E1;C200302 E2;C200303 E3;C200304 101;C200306 103;C200307 227",
  "C200308 E4;C200309 1EA3;C20030A E5;C20030C 1CE;C20030F 201;C200311 203;C200323 1EA1",
  "C200325 1E01;C200328 105;C400307 1E03;C400323 1E05;C400331 1E07;C600301 107;C600302 109",
  "C600307 10B;C60030C 10D;C600327 E7;C800307 1E0B;C80030C 10F;C800323 1E0D;C800327 1E11",
  "C80032D 1E13;C800331 1E0F;CA00300 E8;CA00301 E9;CA00302 EA;CA00303 1EBD;CA00304 113",
  "CA00306 115;CA00307 117;CA00308 EB;CA00309 1EBB;CA0030C 11B;CA0030F 205;CA00311 207",
  "CA00323 1EB9;CA00327 229;CA00328 119;CA0032D 1E19;CA00330 1E1B;CC00307 1E1F;CE00301 1F5",
  "CE00302 11D;CE00304 1E21;CE00306 11F;CE00307 121;CE0030C 1E7;CE00327 123;D000302 125",
  "D000307 1E23;D000308 1E27;D00030C 21F;D000323 1E25;D000327 1E29;D00032E 1E2B;D000331 1E96",
  "D200300 EC;D200301 ED;D200302 EE;D200303 129;D200304 12B;D200306 12D;D200308 EF;D200309 1EC9",
  "D20030C 1D0;D20030F 209;D200311 20B;D200323 1ECB;D200328 12F;D200330 1E2D;D400302 135",
  "D40030C 1F0;D600301 1E31;D60030C 1E9;D600323 1E33;D600327 137;D600331 1E35;D800301 13A",
  "D80030C 13E;D800323 1E37;D800327 13C;D80032D 1E3D;D800331 1E3B;DA00301 1E3F;DA00307 1E41",
  "DA00323 1E43;DC00300 1F9;DC00301 144;DC00303 F1;DC00307 1E45;DC0030C 148;DC00323 1E47",
  "DC00327 146;DC0032D 1E4B;DC00331 1E49;DE00300 F2;DE00301 F3;DE00302 F4;DE00303 F5;DE00304 14D",
  "DE00306 14F;DE00307 22F;DE00308 F6;DE00309 1ECF;DE0030B 151;DE0030C 1D2;DE0030F 20D",
  "DE00311 20F;DE0031B 1A1;DE00323 1ECD;DE00328 1EB;E000301 1E55;E000307 1E57;E400301 155",
  "E400307 1E59;E40030C 159;E40030F 211;E400311 213;E400323 1E5B;E400327 157;E400331 1E5F",
  "E600301 15B;E600302 15D;E600307 1E61;E60030C 161;E600323 1E63;E600326 219;E600327 15F",
  "E800307 1E6B;E800308 1E97;E80030C 165;E800323 1E6D;E800326 21B;E800327 163;E80032D 1E71",
  "E800331 1E6F;EA00300 F9;EA00301 FA;EA00302 FB;EA00303 169;EA00304 16B;EA00306 16D;EA00308 FC",
  "EA00309 1EE7;EA0030A 16F;EA0030B 171;EA0030C 1D4;EA0030F 215;EA00311 217;EA0031B 1B0",
  "EA00323 1EE5;EA00324 1E73;EA00328 173;EA0032D 1E77;EA00330 1E75;EC00303 1E7D;EC00323 1E7F",
  "EE00300 1E81;EE00301 1E83;EE00302 175;EE00307 1E87;EE00308 1E85;EE0030A 1E98;EE00323 1E89",
  "F000307 1E8B;F000308 1E8D;F200300 1EF3;F200301 FD;F200302 177;F200303 1EF9;F200304 233",
  "F200307 1E8F;F200308 FF;F200309 1EF7;F20030A 1E99;F200323 1EF5;F400301 17A;F400302 1E91",
  "F400307 17C;F40030C 17E;F400323 1E93;F400331 1E95;15000300 1FED;15000301 385;15000342 1FC1",
  "18400300 1EA6;18400301 1EA4;18400303 1EAA;18400309 1EA8;18800304 1DE;18A00301 1FA;18C00301 1FC",
  "18C00304 1E2;18E00301 1E08;19400300 1EC0;19400301 1EBE;19400303 1EC4;19400309 1EC2",
  "19E00301 1E2E;1A800300 1ED2;1A800301 1ED0;1A800303 1ED6;1A800309 1ED4;1AA00301 1E4C",
  "1AA00304 22C;1AA00308 1E4E;1AC00304 22A;1B000301 1FE;1B800300 1DB;1B800301 1D7;1B800304 1D5",
  "1B80030C 1D9;1C400300 1EA7;1C400301 1EA5;1C400303 1EAB;1C400309 1EA9;1C800304 1DF;1CA00301 1FB",
  "1CC00301 1FD;1CC00304 1E3;1CE00301 1E09;1D400300 1EC1;1D400301 1EBF;1D400303 1EC5",
  "1D400309 1EC3;1DE00301 1E2F;1E800300 1ED3;1E800301 1ED1;1E800303 1ED7;1E800309 1ED5",
  "1EA00301 1E4D;1EA00304 22D;1EA00308 1E4F;1EC00304 22B;1F000301 1FF;1F800300 1DC;1F800301 1D8",
  "1F800304 1D6;1F80030C 1DA;20400300 1EB0;20400301 1EAE;20400303 1EB4;20400309 1EB2",
  "20600300 1EB1;20600301 1EAF;20600303 1EB5;20600309 1EB3;22400300 1E14;22400301 1E16",
  "22600300 1E15;22600301 1E17;29800300 1E50;29800301 1E52;29A00300 1E51;29A00301 1E53",
  "2B400307 1E64;2B600307 1E65;2C000307 1E66;2C200307 1E67;2D000301 1E78;2D200301 1E79",
  "2D400308 1E7A;2D600308 1E7B;2FE00307 1E9B;34000300 1EDC;34000301 1EDA;34000303 1EE0",
  "34000309 1EDE;34000323 1EE2;34200300 1EDD;34200301 1EDB;34200303 1EE1;34200309 1EDF",
  "34200323 1EE3;35E00300 1EEA;35E00301 1EE8;35E00303 1EEE;35E00309 1EEC;35E00323 1EF0",
  "36000300 1EEB;36000301 1EE9;36000303 1EEF;36000309 1EED;36000323 1EF1;36E0030C 1EE",
  "3D400304 1EC;3D600304 1ED;44C00304 1E0;44E00304 1E1;45000306 1E1C;45200306 1E1D;45C00304 230",
  "45E00304 231;5240030C 1EF;72200300 1FBA;72200301 386;72200304 1FB9;72200306 1FB8;72200313 1F08",
  "72200314 1F09;72200345 1FBC;72A00300 1FC8;72A00301 388;72A00313 1F18;72A00314 1F19",
  "72E00300 1FCA;72E00301 389;72E00313 1F28;72E00314 1F29;72E00345 1FCC;73200300 1FDA",
  "73200301 38A;73200304 1FD9;73200306 1FD8;73200308 3AA;73200313 1F38;73200314 1F39",
  "73E00300 1FF8;73E00301 38C;73E00313 1F48;73E00314 1F49;74200314 1FEC;74A00300 1FEA",
  "74A00301 38E;74A00304 1FE9;74A00306 1FE8;74A00308 3AB;74A00314 1F59;75200300 1FFA;75200301 38F",
  "75200313 1F68;75200314 1F69;75200345 1FFC;75800345 1FB4;75C00345 1FC4;76200300 1F70",
  "76200301 3AC;76200304 1FB1;76200306 1FB0;76200313 1F00;76200314 1F01;76200342 1FB6",
  "76200345 1FB3;76A00300 1F72;76A00301 3AD;76A00313 1F10;76A00314 1F11;76E00300 1F74",
  "76E00301 3AE;76E00313 1F20;76E00314 1F21;76E00342 1FC6;76E00345 1FC3;77200300 1F76",
  "77200301 3AF;77200304 1FD1;77200306 1FD0;77200308 3CA;77200313 1F30;77200314 1F31",
  "77200342 1FD6;77E00300 1F78;77E00301 3CC;77E00313 1F40;77E00314 1F41;78200313 1FE4",
  "78200314 1FE5;78A00300 1F7A;78A00301 3CD;78A00304 1FE1;78A00306 1FE0;78A00308 3CB",
  "78A00313 1F50;78A00314 1F51;78A00342 1FE6;79200300 1F7C;79200301 3CE;79200313 1F60",
  "79200314 1F61;79200342 1FF6;79200345 1FF3;79400300 1FD2;79400301 390;79400342 1FD7",
  "79600300 1FE2;79600301 3B0;79600342 1FE7;79C00345 1FF4;7A400301 3D3;7A400308 3D4;80C00308 407",
  "82000306 4D0;82000308 4D2;82600301 403;82A00300 400;82A00306 4D6;82A00308 401;82C00306 4C1",
  "82C00308 4DC;82E00308 4DE;83000300 40D;83000304 4E2;83000306 419;83000308 4E4;83400301 40C",
  "83C00308 4E6;84600304 4EE;84600306 40E;84600308 4F0;8460030B 4F2;84E00308 4F4;85600308 4F8",
  "85A00308 4EC;86000306 4D1;86000308 4D3;86600301 453;86A00300 450;86A00306 4D7;86A00308 451",
  "86C00306 4C2;86C00308 4DD;86E00308 4DF;87000300 45D;87000304 4E3;87000306 439;87000308 4E5",
  "87400301 45C;87C00308 4E7;88600304 4EF;88600306 45E;88600308 4F1;8860030B 4F3;88E00308 4F5",
  "89600308 4F9;89A00308 4ED;8AC00308 457;8E80030F 476;8EA0030F 477;9B000308 4DA;9B200308 4DB",
  "9D000308 4EA;9D200308 4EB;C4E00653 622;C4E00654 623;C4E00655 625;C9000654 624;C9400654 626",
  "D8200654 6C2;DA400654 6D3;DAA00654 6C0;12500093C 929;12600093C 931;12660093C 934;138E009BE 9CB",
  "138E009D7 9CC;168E00B3E B4B;168E00B56 B48;168E00B57 B4C;172400BD7 B94;178C00BBE BCA",
  "178C00BD7 BCC;178E00BBE BCB;188C00C56 C48;197E00CD5 CC0;198C00CC2 CCA;198C00CD5 CC7",
  "198C00CD6 CC8;199400CD5 CCB;1A8C00D3E D4A;1A8C00D57 D4C;1A8E00D3E D4B;1BB200DCA DDA",
  "1BB200DCF DDC;1BB200DDF DDE;1BB800DCA DDD;204A0102E 1026;360A01B35 1B06;360E01B35 1B08",
  "361201B35 1B0A;361601B35 1B0C;361A01B35 1B0E;362201B35 1B12;367401B35 1B3B;367801B35 1B3D",
  "367C01B35 1B40;367E01B35 1B41;368401B35 1B43;3C6C00304 1E38;3C6E00304 1E39;3CB400304 1E5C",
  "3CB600304 1E5D;3CC400307 1E68;3CC600307 1E69;3D4000302 1EAC;3D4000306 1EB6;3D4200302 1EAD",
  "3D4200306 1EB7;3D7000302 1EC6;3D7200302 1EC7;3D9800302 1ED8;3D9A00302 1ED9;3E0000300 1F02",
  "3E0000301 1F04;3E0000342 1F06;3E0000345 1F80;3E0200300 1F03;3E0200301 1F05;3E0200342 1F07",
  "3E0200345 1F81;3E0400345 1F82;3E0600345 1F83;3E0800345 1F84;3E0A00345 1F85;3E0C00345 1F86",
  "3E0E00345 1F87;3E1000300 1F0A;3E1000301 1F0C;3E1000342 1F0E;3E1000345 1F88;3E1200300 1F0B",
  "3E1200301 1F0D;3E1200342 1F0F;3E1200345 1F89;3E1400345 1F8A;3E1600345 1F8B;3E1800345 1F8C",
  "3E1A00345 1F8D;3E1C00345 1F8E;3E1E00345 1F8F;3E2000300 1F12;3E2000301 1F14;3E2200300 1F13",
  "3E2200301 1F15;3E3000300 1F1A;3E3000301 1F1C;3E3200300 1F1B;3E3200301 1F1D;3E4000300 1F22",
  "3E4000301 1F24;3E4000342 1F26;3E4000345 1F90;3E4200300 1F23;3E4200301 1F25;3E4200342 1F27",
  "3E4200345 1F91;3E4400345 1F92;3E4600345 1F93;3E4800345 1F94;3E4A00345 1F95;3E4C00345 1F96",
  "3E4E00345 1F97;3E5000300 1F2A;3E5000301 1F2C;3E5000342 1F2E;3E5000345 1F98;3E5200300 1F2B",
  "3E5200301 1F2D;3E5200342 1F2F;3E5200345 1F99;3E5400345 1F9A;3E5600345 1F9B;3E5800345 1F9C",
  "3E5A00345 1F9D;3E5C00345 1F9E;3E5E00345 1F9F;3E6000300 1F32;3E6000301 1F34;3E6000342 1F36",
  "3E6200300 1F33;3E6200301 1F35;3E6200342 1F37;3E7000300 1F3A;3E7000301 1F3C;3E7000342 1F3E",
  "3E7200300 1F3B;3E7200301 1F3D;3E7200342 1F3F;3E8000300 1F42;3E8000301 1F44;3E8200300 1F43",
  "3E8200301 1F45;3E9000300 1F4A;3E9000301 1F4C;3E9200300 1F4B;3E9200301 1F4D;3EA000300 1F52",
  "3EA000301 1F54;3EA000342 1F56;3EA200300 1F53;3EA200301 1F55;3EA200342 1F57;3EB200300 1F5B",
  "3EB200301 1F5D;3EB200342 1F5F;3EC000300 1F62;3EC000301 1F64;3EC000342 1F66;3EC000345 1FA0",
  "3EC200300 1F63;3EC200301 1F65;3EC200342 1F67;3EC200345 1FA1;3EC400345 1FA2;3EC600345 1FA3",
  "3EC800345 1FA4;3ECA00345 1FA5;3ECC00345 1FA6;3ECE00345 1FA7;3ED000300 1F6A;3ED000301 1F6C",
  "3ED000342 1F6E;3ED000345 1FA8;3ED200300 1F6B;3ED200301 1F6D;3ED200342 1F6F;3ED200345 1FA9",
  "3ED400345 1FAA;3ED600345 1FAB;3ED800345 1FAC;3EDA00345 1FAD;3EDC00345 1FAE;3EDE00345 1FAF",
  "3EE000345 1FB2;3EE800345 1FC2;3EF800345 1FF2;3F6C00345 1FB7;3F7E00300 1FCD;3F7E00301 1FCE",
  "3F7E00342 1FCF;3F8C00345 1FC7;3FEC00345 1FF7;3FFC00300 1FDD;3FFC00301 1FDE;3FFC00342 1FDF",
  "432000338 219A;432400338 219B;432800338 21AE;43A000338 21CD;43A400338 21CF;43A800338 21CE",
  "440600338 2204;441000338 2209;441600338 220C;444600338 2224;444A00338 2226;447800338 2241",
  "448600338 2244;448A00338 2247;449000338 2249;449A00338 226D;44C200338 2262;44C800338 2270",
  "44CA00338 2271;44E400338 2274;44E600338 2275;44EC00338 2278;44EE00338 2279;44F400338 2280",
  "44F600338 2281;44F800338 22E0;44FA00338 22E1;450400338 2284;450600338 2285;450C00338 2288",
  "450E00338 2289;452200338 22E2;452400338 22E3;454400338 22AC;455000338 22AD;455200338 22AE",
  "455600338 22AF;456400338 22EA;456600338 22EB;456800338 22EC;456A00338 22ED;608C03099 3094",
  "609603099 304C;609A03099 304E;609E03099 3050;60A203099 3052;60A603099 3054;60AA03099 3056",
  "60AE03099 3058;60B203099 305A;60B603099 305C;60BA03099 305E;60BE03099 3060;60C203099 3062",
  "60C803099 3065;60CC03099 3067;60D003099 3069;60DE03099 3070;60DE0309A 3071;60E403099 3073",
  "60E40309A 3074;60EA03099 3076;60EA0309A 3077;60F003099 3079;60F00309A 307A;60F603099 307C",
  "60F60309A 307D;613A03099 309E;614C03099 30F4;615603099 30AC;615A03099 30AE;615E03099 30B0",
  "616203099 30B2;616603099 30B4;616A03099 30B6;616E03099 30B8;617203099 30BA;617603099 30BC",
  "617A03099 30BE;617E03099 30C0;618203099 30C2;618803099 30C5;618C03099 30C7;619003099 30C9",
  "619E03099 30D0;619E0309A 30D1;61A403099 30D3;61A40309A 30D4;61AA03099 30D6;61AA0309A 30D7",
  "61B003099 30D9;61B00309A 30DA;61B603099 30DC;61B60309A 30DD;61DE03099 30F7;61E003099 30F8",
  "61E203099 30F9;61E403099 30FA;61FA03099 30FE;22132110BA 1109A;22136110BA 1109C",
  "2214A110BA 110AB;2226211127 1112E;2226411127 1112F;2268E1133E 1134B;2268E11357 1134C",
  "22972114B0 114BC;22972114BA 114BB;22972114BD 114BE;22B70115AF 115BA;22B72115AF 115BB",
  "2326A11930 11938"]

def compositionTable : Table :=
  Table.ofRows compositionRows

end SelectorScan.Dns.Nameprep
