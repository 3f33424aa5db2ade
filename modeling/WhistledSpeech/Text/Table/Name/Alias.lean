/-!
# Further names of characters

Names of control characters, which have no others, corrected names and abbreviations.

Entries stand in the order of their code points, with semicolons between them; line breaks and
blanks in front of an entry do not count. An entry is a code point in base sixteen, left out if it
is the one after that of the entry before; a small letter for the number of words its name shares
with that entry at the front, `a` for none; and the rest of the name.
-/

namespace WhistledSpeech.Text.Table

/-- Further names of characters, several of one character side by side. -/
def aliasNames : String :=
  "0aNULL;0aNUL;aSTART OF HEADING;1aSOH;aSTART OF TEXT;2aSTX;aEND OF TEXT;3aETX;
  aEND OF TRANSMISSION;4aEOT;aENQUIRY;5aENQ;aACKNOWLEDGE;6aACK;aALERT;7aBEL;aBACKSPACE;8aBS;
  aCHARACTER TABULATION;9aHORIZONTAL TABULATION;9aHT;9aTAB;aLINE FEED;AaNEW LINE;AaEND OF LINE;
  AaEOL;AaLF;AaNL;aLINE TABULATION;BaVERTICAL TABULATION;BaVT;aFORM FEED;CaFF;aCARRIAGE RETURN;
  DaCR;aSHIFT OUT;EaLOCKING-SHIFT ONE;EaSO;aSHIFT IN;FaLOCKING-SHIFT ZERO;FaSI;aDATA LINK ESCAPE;
  10aDLE;aDEVICE CONTROL ONE;11aDC1;aDEVICE CONTROL TWO;12aDC2;aDEVICE CONTROL THREE;13aDC3;
  aDEVICE CONTROL FOUR;14aDC4;aNEGATIVE ACKNOWLEDGE;15aNAK;aSYNCHRONOUS IDLE;16aSYN;
  aEND OF TRANSMISSION BLOCK;17aETB;aCANCEL;18aCAN;aEND OF MEDIUM;19aEOM;aSUBSTITUTE;1AaSUB;
  aESCAPE;1BaESC;aINFORMATION SEPARATOR FOUR;1CaFILE SEPARATOR;1CaFS;
  aINFORMATION SEPARATOR THREE;1DaGROUP SEPARATOR;1DaGS;aINFORMATION SEPARATOR TWO;
  1EaRECORD SEPARATOR;1EaRS;aINFORMATION SEPARATOR ONE;1FaUNIT SEPARATOR;1FaUS;aSP;7FaDELETE;
  7FaDEL;aPADDING CHARACTER;80aPAD;aHIGH OCTET PRESET;81aHOP;aBREAK PERMITTED HERE;82aBPH;
  aNO BREAK HERE;83aNBH;aINDEX;84aIND;aNEXT LINE;85aNEL;aSTART OF SELECTED AREA;86aSSA;
  aEND OF SELECTED AREA;87aESA;aCHARACTER TABULATION SET;88aHORIZONTAL TABULATION SET;88aHTS;
  aCHARACTER TABULATION WITH JUSTIFICATION;89aHORIZONTAL TABULATION WITH JUSTIFICATION;89aHTJ;
  aLINE TABULATION SET;8AaVERTICAL TABULATION SET;8AaVTS;aPARTIAL LINE FORWARD;8BcDOWN;8BaPLD;
  aPARTIAL LINE BACKWARD;8CcUP;8CaPLU;aREVERSE LINE FEED;8DbINDEX;8DaRI;aSINGLE SHIFT TWO;
  8EaSINGLE-SHIFT-2;8EaSS2;aSINGLE SHIFT THREE;8FaSINGLE-SHIFT-3;8FaSS3;aDEVICE CONTROL STRING;
  90aDCS;aPRIVATE USE ONE;91bUSE-1;91aPU1;aPRIVATE USE TWO;92bUSE-2;92aPU2;aSET TRANSMIT STATE;
  93aSTS;aCANCEL CHARACTER;94aCCH;aMESSAGE WAITING;95aMW;aSTART OF GUARDED AREA;
  96cPROTECTED AREA;96aSPA;aEND OF GUARDED AREA;97cPROTECTED AREA;97aEPA;aSTART OF STRING;98aSOS;
  aSINGLE GRAPHIC CHARACTER INTRODUCER;99aSGC;aSINGLE CHARACTER INTRODUCER;9AaSCI;
  aCONTROL SEQUENCE INTRODUCER;9BaCSI;aSTRING TERMINATOR;9CaST;aOPERATING SYSTEM COMMAND;9DaOSC;
  aPRIVACY MESSAGE;9EaPM;aAPPLICATION PROGRAM COMMAND;9FaAPC;aNBSP;ADaSHY;
  1A2aLATIN CAPITAL LETTER GHA;bSMALL LETTER GHA;34FaCGJ;61CaALM;
  709aSYRIAC SUBLINEAR COLON SKEWED LEFT;CDEaKANNADA LETTER LLLA;E9DaLAO LETTER FO FON;E9FdFAY;
  EA3cRO;EA5cLO;FD0aTIBETAN MARK BKA- SHOG GI MGO RGYAN;11ECaHANGUL JONGSEONG YESIEUNG-KIYEOK;
  cYESIEUNG-SSANGKIYEOK;cSSANGYESIEUNG;cYESIEUNG-KHIEUKH;180BaFVS1;aFVS2;aFVS3;aMVS;aFVS4;
  200BaZWSP;aZWNJ;aZWJ;aLRM;aRLM;202AaLRE;aRLE;aPDF;aLRO;aRLO;aNNBSP;205FaMMSP;aWJ;2066aLRI;aRLI;
  aFSI;aPDI;2118aWEIERSTRASS ELLIPTIC FUNCTION;2448aMICR ON US SYMBOL;bDASH SYMBOL;
  2B7AaLEFTWARDS TRIANGLE-HEADED ARROW WITH DOUBLE VERTICAL STROKE;
  2B7CaRIGHTWARDS TRIANGLE-HEADED ARROW WITH DOUBLE VERTICAL STROKE;
  A015aYI SYLLABLE ITERATION MARK;AA6EaMYANMAR LETTER KHAMTI LLA;FE00aVS1;aVS2;aVS3;aVS4;aVS5;
  aVS6;aVS7;aVS8;aVS9;aVS10;aVS11;aVS12;aVS13;aVS14;aVS15;aVS16;
  FE18aPRESENTATION FORM FOR VERTICAL RIGHT WHITE LENTICULAR BRACKET;FEFFaBYTE ORDER MARK;
  FEFFaBOM;FEFFaZWNBSP;122D4aCUNEIFORM SIGN NU11 TENU;dOVER NU11 BUR OVER BUR;
  16E56aMEDEFAIDRIN CAPITAL LETTER H;dNG;16E76bSMALL LETTER H;dNG;1B001aHENTAIGANA LETTER E-1;
  1D0C5aBYZANTINE MUSICAL SYMBOL FTHORA SKLIRON CHROMA VASIS;E0100aVS17;aVS18;aVS19;aVS20;aVS21;
  aVS22;aVS23;aVS24;aVS25;aVS26;aVS27;aVS28;aVS29;aVS30;aVS31;aVS32;aVS33;aVS34;aVS35;aVS36;
  aVS37;aVS38;aVS39;aVS40;aVS41;aVS42;aVS43;aVS44;aVS45;aVS46;aVS47;aVS48;aVS49;aVS50;aVS51;
  aVS52;aVS53;aVS54;aVS55;aVS56;aVS57;aVS58;aVS59;aVS60;aVS61;aVS62;aVS63;aVS64;aVS65;aVS66;
  aVS67;aVS68;aVS69;aVS70;aVS71;aVS72;aVS73;aVS74;aVS75;aVS76;aVS77;aVS78;aVS79;aVS80;aVS81;
  aVS82;aVS83;aVS84;aVS85;aVS86;aVS87;aVS88;aVS89;aVS90;aVS91;aVS92;aVS93;aVS94;aVS95;aVS96;
  aVS97;aVS98;aVS99;aVS100;aVS101;aVS102;aVS103;aVS104;aVS105;aVS106;aVS107;aVS108;aVS109;aVS110;
  aVS111;aVS112;aVS113;aVS114;aVS115;aVS116;aVS117;aVS118;aVS119;aVS120;aVS121;aVS122;aVS123;
  aVS124;aVS125;aVS126;aVS127;aVS128;aVS129;aVS130;aVS131;aVS132;aVS133;aVS134;aVS135;aVS136;
  aVS137;aVS138;aVS139;aVS140;aVS141;aVS142;aVS143;aVS144;aVS145;aVS146;aVS147;aVS148;aVS149;
  aVS150;aVS151;aVS152;aVS153;aVS154;aVS155;aVS156;aVS157;aVS158;aVS159;aVS160;aVS161;aVS162;
  aVS163;aVS164;aVS165;aVS166;aVS167;aVS168;aVS169;aVS170;aVS171;aVS172;aVS173;aVS174;aVS175;
  aVS176;aVS177;aVS178;aVS179;aVS180;aVS181;aVS182;aVS183;aVS184;aVS185;aVS186;aVS187;aVS188;
  aVS189;aVS190;aVS191;aVS192;aVS193;aVS194;aVS195;aVS196;aVS197;aVS198;aVS199;aVS200;aVS201;
  aVS202;aVS203;aVS204;aVS205;aVS206;aVS207;aVS208;aVS209;aVS210;aVS211;aVS212;aVS213;aVS214;
  aVS215;aVS216;aVS217;aVS218;aVS219;aVS220;aVS221;aVS222;aVS223;aVS224;aVS225;aVS226;aVS227;
  aVS228;aVS229;aVS230;aVS231;aVS232;aVS233;aVS234;aVS235;aVS236;aVS237;aVS238;aVS239;aVS240;
  aVS241;aVS242;aVS243;aVS244;aVS245;aVS246;aVS247;aVS248;aVS249;aVS250;aVS251;aVS252;aVS253;
  aVS254;aVS255;aVS256"

end WhistledSpeech.Text.Table
