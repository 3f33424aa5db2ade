/-!
# Names of characters of ancient scripts

From Linear B to the scripts of Central and South Asia.

Entries stand in the order of their code points, with semicolons between them; line breaks and
blanks in front of an entry do not count. An entry is a code point in base sixteen, left out if it
is the one after that of the entry before; a small letter for the number of words its name shares
with that entry at the front, `a` for none; and the rest of the name.
-/

namespace WhistledSpeech.Text.Table

/-- The names of the characters from U+10000 to U+11FFF. -/
def ancientNames : String :=
  "10000aLINEAR B SYLLABLE B008 A;dB038 E;dB028 I;dB061 O;dB010 U;dB001 DA;dB045 DE;dB007 DI;
  dB014 DO;dB051 DU;dB057 JA;dB046 JE;1000DdB036 JO;dB065 JU;dB077 KA;dB044 KE;dB067 KI;dB070 KO;
  dB081 KU;dB080 MA;dB013 ME;dB073 MI;dB015 MO;dB023 MU;dB006 NA;dB024 NE;dB030 NI;dB052 NO;
  dB055 NU;dB003 PA;dB072 PE;dB039 PI;dB011 PO;dB050 PU;dB016 QA;dB078 QE;dB021 QI;dB032 QO;
  10028dB060 RA;dB027 RE;dB053 RI;dB002 RO;dB026 RU;dB031 SA;dB009 SE;dB041 SI;dB012 SO;dB058 SU;
  dB059 TA;dB004 TE;dB037 TI;dB005 TO;dB069 TU;dB054 WA;dB075 WE;dB040 WI;dB042 WO;1003CdB017 ZA;
  dB074 ZE;1003FdB020 ZO;dB025 A2;dB043 A3;dB085 AU;dB071 DWE;dB090 DWO;dB048 NWA;dB029 PU2;
  dB062 PTE;dB076 RA2;dB033 RA3;dB068 RO2;dB066 TA2;dB087 TWE;dB091 TWO;10050cSYMBOL B018;dB019;
  dB022;dB034;dB047;dB049;dB056;dB063;dB064;dB079;dB082;dB083;dB086;dB089;
  10080cIDEOGRAM B100 MAN;dB102 WOMAN;dB104 DEER;dB105 EQUID;dB105F MARE;dB105M STALLION;
  dB106F EWE;dB106M RAM;dB107F SHE-GOAT;dB107M HE-GOAT;dB108F SOW;dB108M BOAR;dB109F COW;
  dB109M BULL;dB120 WHEAT;dB121 BARLEY;dB122 OLIVE;dB123 SPICE;dB125 CYPERUS;cMONOGRAM B127 KAPO;
  dB128 KANAKO;cIDEOGRAM B130 OIL;dB131 WINE;dB132;cMONOGRAM B133 AREPA;dB135 MERI;
  cIDEOGRAM B140 BRONZE;dB141 GOLD;dB142;dB145 WOOL;dB146;dB150;dB151 HORN;dB152;dB153;dB154;
  cMONOGRAM B156 TURO2;cIDEOGRAM B157;dB158;dB159 CLOTH;dB160;dB161;dB162 GARMENT;dB163 ARMOUR;
  dB164;dB165;dB166;dB167;dB168;dB169;dB170;dB171;dB172;dB173 MONTH;dB174;dB176 TREE;dB177;dB178;
  dB179;dB180;dB181;dB182;dB183;dB184;dB185;dB189;dB190;dB191 HELMET;dB220 FOOTSTOOL;
  dB225 BATHTUB;dB230 SPEAR;dB231 ARROW;dB232;dB233 SWORD;dB234;dB236;dB240 WHEELED CHARIOT;
  dB241 CHARIOT;dB242 CHARIOT FRAME;dB243 WHEEL;dB245;dB246;cMONOGRAM B247 DIPTE;cIDEOGRAM B248;
  dB249;dB251;dB252;dB253;dB254 DART;dB255;dB256;dB257;dB258;dB259;dVESSEL B155;eB200;eB201;
  eB202;eB203;eB204;eB205;eB206;eB207;eB208;eB209;eB210;eB211;eB212;eB213;eB214;eB215;eB216;
  eB217;eB218;eB219;eB221;eB222;eB226;eB227;eB228;eB229;eB250;eB305;
  10100aAEGEAN WORD SEPARATOR LINE;dDOT;bCHECK MARK;10107bNUMBER ONE;cTWO;cTHREE;cFOUR;cFIVE;
  cSIX;cSEVEN;cEIGHT;cNINE;cTEN;cTWENTY;cTHIRTY;cFORTY;cFIFTY;cSIXTY;cSEVENTY;cEIGHTY;cNINETY;
  cONE HUNDRED;cTWO HUNDRED;cTHREE HUNDRED;cFOUR HUNDRED;cFIVE HUNDRED;cSIX HUNDRED;
  cSEVEN HUNDRED;cEIGHT HUNDRED;cNINE HUNDRED;cONE THOUSAND;cTWO THOUSAND;cTHREE THOUSAND;
  cFOUR THOUSAND;cFIVE THOUSAND;cSIX THOUSAND;cSEVEN THOUSAND;cEIGHT THOUSAND;cNINE THOUSAND;
  cTEN THOUSAND;cTWENTY THOUSAND;cTHIRTY THOUSAND;cFORTY THOUSAND;cFIFTY THOUSAND;
  cSIXTY THOUSAND;cSEVENTY THOUSAND;cEIGHTY THOUSAND;cNINETY THOUSAND;10137bWEIGHT BASE UNIT;
  cFIRST SUBUNIT;cSECOND SUBUNIT;cTHIRD SUBUNIT;cFOURTH SUBUNIT;bDRY MEASURE FIRST SUBUNIT;
  bLIQUID MEASURE FIRST SUBUNIT;bMEASURE SECOND SUBUNIT;cTHIRD SUBUNIT;
  aGREEK ACROPHONIC ATTIC ONE QUARTER;eHALF;eDRACHMA;dFIVE;dFIFTY;dFIVE HUNDRED;eTHOUSAND;
  dFIFTY THOUSAND;dFIVE TALENTS;dTEN TALENTS;dFIFTY TALENTS;dONE HUNDRED TALENTS;
  dFIVE HUNDRED TALENTS;dONE THOUSAND TALENTS;dFIVE THOUSAND TALENTS;eSTATERS;dTEN STATERS;
  dFIFTY STATERS;dONE HUNDRED STATERS;dFIVE HUNDRED STATERS;dONE THOUSAND STATERS;
  dTEN THOUSAND STATERS;dFIFTY THOUSAND STATERS;dTEN MNAS;cHERAEUM ONE PLETHRON;cTHESPIAN ONE;
  cHERMIONIAN ONE;cEPIDAUREAN TWO;cTHESPIAN TWO;cCYRENAIC TWO DRACHMAS;cEPIDAUREAN TWO DRACHMAS;
  cTROEZENIAN FIVE;dTEN;eALTERNATE FORM;cHERMIONIAN TEN;cMESSENIAN TEN;cTHESPIAN TEN;dTHIRTY;
  cTROEZENIAN FIFTY;eALTERNATE FORM;cHERMIONIAN FIFTY;cTHESPIAN FIFTY;dONE HUNDRED;
  dTHREE HUNDRED;cEPIDAUREAN FIVE HUNDRED;cTROEZENIAN FIVE HUNDRED;cTHESPIAN FIVE HUNDRED;
  cCARYSTIAN FIVE HUNDRED;cNAXIAN FIVE HUNDRED;cTHESPIAN ONE THOUSAND;dFIVE THOUSAND;
  cDELPHIC FIVE MNAS;cSTRATIAN FIFTY MNAS;bONE HALF SIGN;eALTERNATE FORM;bTWO THIRDS SIGN;
  bTHREE QUARTERS SIGN;bYEAR SIGN;bTALENT SIGN;bDRACHMA SIGN;bOBOL SIGN;bTWO OBOLS SIGN;
  bTHREE OBOLS SIGN;bFOUR OBOLS SIGN;bFIVE OBOLS SIGN;bMETRETES SIGN;bKYATHOS BASE SIGN;
  bLITRA SIGN;bOUNKIA SIGN;bXESTES SIGN;bARTABE SIGN;bAROURA SIGN;bGRAMMA SIGN;
  bTRYBLION BASE SIGN;bZERO SIGN;bONE QUARTER SIGN;bSINUSOID SIGN;bINDICTION SIGN;aNOMISMA SIGN;
  10190aROMAN SEXTANS SIGN;bUNCIA SIGN;bSEMUNCIA SIGN;bSEXTULA SIGN;bDIMIDIA SEXTULA SIGN;
  bSILIQUA SIGN;bDENARIUS SIGN;bQUINARIUS SIGN;bSESTERTIUS SIGN;bDUPONDIUS SIGN;bAS SIGN;
  bCENTURIAL SIGN;aASCIA SYMBOL;101A0aGREEK SYMBOL TAU RHO;101D0aPHAISTOS DISC SIGN PEDESTRIAN;
  dPLUMED HEAD;dTATTOOED HEAD;dCAPTIVE;dCHILD;dWOMAN;dHELMET;dGAUNTLET;dTIARA;dARROW;dBOW;
  dSHIELD;dCLUB;dMANACLES;dMATTOCK;dSAW;dLID;dBOOMERANG;dCARPENTRY PLANE;dDOLIUM;dCOMB;dSLING;
  dCOLUMN;dBEEHIVE;dSHIP;dHORN;dHIDE;dBULLS LEG;dCAT;dRAM;dEAGLE;dDOVE;dTUNNY;dBEE;dPLANE TREE;
  dVINE;dPAPYRUS;dROSETTE;dLILY;dOX BACK;dFLUTE;dGRATER;dSTRAINER;dSMALL AXE;dWAVY BAND;
  dCOMBINING OBLIQUE STROKE;10280aLYCIAN LETTER A;cE;cB;cBH;cG;cD;cI;cW;cZ;cTH;cJ;cK;cQ;cL;cM;cN;
  cMM;cNN;cU;cP;cKK;cR;cS;cT;cTT;cAN;cEN;cH;cX;102A0aCARIAN LETTER A;cP2;cD;cL;cUUU;cR;cLD;cA2;
  cQ;cB;cM;cO;cD2;cT;cSH;cSH2;cS;cC-18;cU;cNN;cX;cN;cTT2;cP;cSS;cI;cE;cUUUU;cK;cK2;cND;cUU;cG;
  cG2;cST;cST2;cNG;cII;cC-39;cTT;cUUU2;cRR;cMB;cMB2;cMB3;cMB4;cLD2;cE2;cUUU3;
  102E0aCOPTIC EPACT THOUSANDS MARK;cDIGIT ONE;dTWO;dTHREE;dFOUR;dFIVE;dSIX;dSEVEN;dEIGHT;dNINE;
  cNUMBER TEN;dTWENTY;dTHIRTY;dFORTY;dFIFTY;dSIXTY;dSEVENTY;dEIGHTY;dNINETY;dONE HUNDRED;
  dTWO HUNDRED;dTHREE HUNDRED;dFOUR HUNDRED;dFIVE HUNDRED;dSIX HUNDRED;dSEVEN HUNDRED;
  dEIGHT HUNDRED;dNINE HUNDRED;10300aOLD ITALIC LETTER A;dBE;dKE;dDE;dE;dVE;dZE;dHE;dTHE;dI;dKA;
  dEL;dEM;dEN;dESH;dO;dPE;dSHE;dKU;dER;dES;dTE;dU;dEKS;dPHE;dKHE;dEF;dERS;dCHE;dII;dUU;dESS;
  cNUMERAL ONE;dFIVE;dTEN;dFIFTY;1032DcLETTER YE;dNORTHERN TSE;dSOUTHERN TSE;aGOTHIC LETTER AHSA;
  cBAIRKAN;cGIBA;cDAGS;cAIHVUS;cQAIRTHRA;cIUJA;cHAGL;cTHIUTH;cEIS;cKUSMA;cLAGUS;cMANNA;cNAUTHS;
  cJER;cURUS;cPAIRTHRA;cNINETY;cRAIDA;cSAUIL;cTEIWS;cWINJA;cFAIHU;cIGGWS;cHWAIR;cOTHAL;
  cNINE HUNDRED;10350aOLD PERMIC LETTER AN;dBUR;dGAI;dDOI;dE;dZHOI;dDZHOI;dZATA;dDZITA;dI;dKOKE;
  dLEI;dMENOE;dNENOE;dVOOI;dPEEI;dREI;dSII;dTAI;dU;dCHERY;dSHOOI;dSHCHOOI;dYRY;dYERU;dO;dOO;dEF;
  dHA;dTSIU;dVER;dYER;dYERI;dYAT;dIE;dYU;dYA;dIA;aCOMBINING OLD PERMIC LETTER AN;eDOI;eZATA;
  eNENOE;eSII;10380aUGARITIC LETTER ALPA;cBETA;cGAMLA;cKHA;cDELTA;cHO;cWO;cZETA;cHOTA;cTET;cYOD;
  cKAF;cSHIN;cLAMDA;cMEM;cDHAL;cNUN;cZU;cSAMKA;cAIN;cPU;cSADE;cQOPA;cRASHA;cTHANNA;cGHAIN;cTO;cI;
  cU;cSSU;1039FbWORD DIVIDER;aOLD PERSIAN SIGN A;dI;dU;dKA;dKU;dGA;dGU;dXA;dCA;dJA;dJI;dTA;dTU;
  dDA;dDI;dDU;dTHA;dPA;dBA;dFA;dNA;dNU;dMA;dMI;dMU;dYA;dVA;dVI;dRA;dRU;dLA;dSA;dZA;dSHA;dSSA;dHA;
  103C8dAURAMAZDAA;dAURAMAZDAA-2;dAURAMAZDAAHA;dXSHAAYATHIYA;dDAHYAAUSH;dDAHYAAUSH-2;dBAGA;
  dBUUMISH;cWORD DIVIDER;cNUMBER ONE;dTWO;dTEN;dTWENTY;dHUNDRED;
  10400aDESERET CAPITAL LETTER LONG I;eE;eA;eAH;eO;eOO;dSHORT I;eE;eA;eAH;eO;eOO;dAY;dOW;dWU;
  dYEE;dH;dPEE;dBEE;dTEE;dDEE;dCHEE;dJEE;dKAY;dGAY;dEF;dVEE;dETH;dTHEE;dES;dZEE;dESH;dZHEE;dER;
  dEL;dEM;dEN;dENG;dOI;dEW;bSMALL LETTER LONG I;eE;eA;eAH;eO;eOO;dSHORT I;eE;eA;eAH;eO;eOO;dAY;
  dOW;dWU;dYEE;dH;dPEE;dBEE;dTEE;dDEE;dCHEE;dJEE;dKAY;dGAY;dEF;dVEE;dETH;dTHEE;dES;dZEE;dESH;
  dZHEE;dER;dEL;dEM;dEN;dENG;dOI;dEW;aSHAVIAN LETTER PEEP;cTOT;cKICK;cFEE;cTHIGH;cSO;cSURE;
  cCHURCH;cYEA;cHUNG;cBIB;cDEAD;cGAG;cVOW;cTHEY;cZOO;cMEASURE;cJUDGE;cWOE;cHA-HA;cLOLL;cMIME;cIF;
  cEGG;cASH;cADO;cON;cWOOL;cOUT;cAH;cROAR;cNUN;cEAT;cAGE;cICE;cUP;cOAK;cOOZE;cOIL;cAWE;cARE;cOR;
  cAIR;cERR;cARRAY;cEAR;cIAN;cYEW;aOSMANYA LETTER ALEF;cBA;cTA;cJA;cXA;cKHA;cDEEL;cRA;cSA;cSHIIN;
  cDHA;cCAYN;cGA;cFA;cQAAF;cKAAF;cLAAN;cMIIN;cNUUN;cWAW;cHA;cYA;cA;cE;cI;cO;cU;cAA;cEE;cOO;
  104A0bDIGIT ZERO;cONE;cTWO;cTHREE;cFOUR;cFIVE;cSIX;cSEVEN;cEIGHT;cNINE;
  104B0aOSAGE CAPITAL LETTER A;dAI;dAIN;dAH;dBRA;dCHA;dEHCHA;dE;dEIN;dHA;dHYA;dI;dKA;dEHKA;dKYA;
  dLA;dMA;dNA;dO;dOIN;dPA;dEHPA;dSA;dSHA;dTA;dEHTA;dTSA;dEHTSA;dTSHA;dDHA;dU;dWA;dKHA;dGHA;dZA;
  dZHA;104D8bSMALL LETTER A;dAI;dAIN;dAH;dBRA;dCHA;dEHCHA;dE;dEIN;dHA;dHYA;dI;dKA;dEHKA;dKYA;dLA;
  dMA;dNA;dO;dOIN;dPA;dEHPA;dSA;dSHA;dTA;dEHTA;dTSA;dEHTSA;dTSHA;dDHA;dU;dWA;dKHA;dGHA;dZA;dZHA;
  10500aELBASAN LETTER A;cBE;cCE;cCHE;cDE;cNDE;cDHE;cEI;cE;cFE;cGE;cGJE;cHE;cI;cJE;cKE;cLE;cLLE;
  cME;cNE;cNA;cNJE;cO;cPE;cQE;cRE;cRRE;cSE;cSHE;cTE;cTHE;cU;cVE;cXE;cY;cZE;cZHE;cGHE;cGHAMMA;
  cKHE;10530aCAUCASIAN ALBANIAN LETTER ALT;dBET;dGIM;dDAT;dEB;dZARL;dEYN;dZHIL;dTAS;dCHA;dYOWD;
  dZHA;dIRB;dSHA;dLAN;dINYA;dXEYN;dDYAN;dCAR;dJHOX;dKAR;dLYIT;dHEYT;dQAY;dAOR;dCHOY;dCHI;dCYAY;
  dMAQ;dQAR;dNOWC;dDZYAY;dSHAK;dJAYN;dON;dTYAY;dFAM;dDZAY;dCHAT;dPEN;dGHEYS;dRAT;dSEYK;dVEYZ;
  dTIWR;dSHOY;dIWN;dCYAW;dCAYN;dYAYD;dPIWR;dKIW;1056FcCITATION MARK;aVITHKUQI CAPITAL LETTER A;
  dBBE;dBE;dCE;dCHE;dDE;dDHE;dEI;dE;dFE;dGA;1057CdHA;dHHA;dI;dIJE;dJE;dKA;dLA;dLLA;dME;dNE;dNJE;
  dO;dPE;dQA;dRE;1058CdSE;dSHE;dTE;dTHE;dU;dVE;dXE;10594dY;dZE;10597bSMALL LETTER A;dBBE;dBE;dCE;
  dCHE;dDE;dDHE;dEI;dE;dFE;dGA;105A3dHA;dHHA;dI;dIJE;dJE;dKA;dLA;dLLA;dME;dNE;dNJE;dO;dPE;dQA;
  dRE;105B3dSE;dSHE;dTE;dTHE;dU;dVE;dXE;105BBdY;dZE;10600aLINEAR A SIGN AB001;dAB002;dAB003;
  dAB004;dAB005;dAB006;dAB007;dAB008;dAB009;dAB010;dAB011;dAB013;dAB016;dAB017;dAB020;dAB021;
  dAB021F;dAB021M;dAB022;dAB022F;dAB022M;dAB023;dAB023M;dAB024;dAB026;dAB027;dAB028;dA028B;
  dAB029;dAB030;dAB031;dAB034;dAB037;dAB038;dAB039;dAB040;dAB041;dAB044;dAB045;dAB046;dAB047;
  dAB048;dAB049;dAB050;dAB051;dAB053;dAB054;dAB055;dAB056;dAB057;dAB058;dAB059;dAB060;dAB061;
  dAB065;dAB066;dAB067;dAB069;dAB070;dAB073;dAB074;dAB076;dAB077;dAB078;dAB079;dAB080;dAB081;
  dAB082;dAB085;dAB086;dAB087;dA100-102;dAB118;dAB120;dA120B;dAB122;dAB123;dAB131A;dAB131B;
  dA131C;dAB164;dAB171;dAB180;dAB188;dAB191;dA301;dA302;dA303;dA304;dA305;dA306;dA307;dA308;
  dA309A;dA309B;dA309C;dA310;dA311;dA312;dA313A;dA313B;dA313C;dA314;dA315;dA316;dA317;dA318;
  dA319;dA320;dA321;dA322;dA323;dA324;dA325;dA326;dA327;dA328;dA329;dA330;dA331;dA332;dA333;
  dA334;dA335;dA336;dA337;dA338;dA339;dA340;dA341;dA342;dA343;dA344;dA345;dA346;dA347;dA348;
  dA349;dA350;dA351;dA352;dA353;dA354;dA355;dA356;dA357;dA358;dA359;dA360;dA361;dA362;dA363;
  dA364;dA365;dA366;dA367;dA368;dA369;dA370;dA371;dA400-VAS;dA401-VAS;dA402-VAS;dA403-VAS;
  dA404-VAS;dA405-VAS;dA406-VAS;dA407-VAS;dA408-VAS;dA409-VAS;dA410-VAS;dA411-VAS;dA412-VAS;
  dA413-VAS;dA414-VAS;dA415-VAS;dA416-VAS;dA417-VAS;dA418-VAS;dA501;dA502;dA503;dA504;dA505;
  dA506;dA508;dA509;dA510;dA511;dA512;dA513;dA515;dA516;dA520;dA521;dA523;dA524;dA525;dA526;
  dA527;dA528;dA529;dA530;dA531;dA532;dA534;dA535;dA536;dA537;dA538;dA539;dA540;dA541;dA542;
  dA545;dA547;dA548;dA549;dA550;dA551;dA552;dA553;dA554;dA555;dA556;dA557;dA559;dA563;dA564;
  dA565;dA566;dA568;dA569;dA570;dA571;dA572;dA573;dA574;dA575;dA576;dA577;dA578;dA579;dA580;
  dA581;dA582;dA583;dA584;dA585;dA586;dA587;dA588;dA589;dA591;dA592;dA594;dA595;dA596;dA598;
  dA600;dA601;dA602;dA603;dA604;dA606;dA608;dA609;dA610;dA611;dA612;dA613;dA614;dA615;dA616;
  dA617;dA618;dA619;dA620;dA621;dA622;dA623;dA624;dA626;dA627;dA628;dA629;dA634;dA637;dA638;
  dA640;dA642;dA643;dA644;dA645;dA646;dA648;dA649;dA651;dA652;dA653;dA654;dA655;dA656;dA657;
  dA658;dA659;dA660;dA661;dA662;dA663;dA664;10740dA701 A;dA702 B;dA703 D;dA704 E;dA705 F;dA706 H;
  dA707 J;dA708 K;dA709 L;dA709-2 L2;dA709-3 L3;dA709-4 L4;dA709-6 L6;dA710 W;dA711 X;dA712 Y;
  dA713 OMEGA;dA714 ABB;dA715 BB;dA717 DD;dA726 EYYY;dA732 JE;10760dA800;dA801;dA802;dA803;dA804;
  dA805;dA806;dA807;10780aMODIFIER LETTER SMALL CAPITAL AA;cSUPERSCRIPT TRIANGULAR COLON;
  dHALF TRIANGULAR COLON;cSMALL AE;dCAPITAL B;dB WITH HOOK;10787dDZ DIGRAPH;fWITH RETROFLEX HOOK;
  gCURL;dDEZH DIGRAPH;dD WITH TAIL;fHOOK;gAND TAIL;dREVERSED E;dCLOSED REVERSED OPEN E;
  dFENG DIGRAPH;dRAMS HORN;dCAPITAL G;dG WITH HOOK;dCAPITAL G WITH HOOK;dH WITH STROKE;
  dCAPITAL H;dHENG WITH HOOK;dDOTLESS J WITH STROKE AND HOOK;dLS DIGRAPH;dLZ DIGRAPH;
  dL WITH BELT;dCAPITAL L WITH BELT;dL WITH RETROFLEX HOOK AND BELT;dLEZH;eWITH RETROFLEX HOOK;
  dTURNED Y;fWITH BELT;dO WITH STROKE;dCAPITAL OE;dCLOSED OMEGA;dQ;dTURNED R WITH LONG LEG;
  iAND RETROFLEX HOOK;dR WITH TAIL;fFISHHOOK;dCAPITAL R;dTC DIGRAPH WITH CURL;dTS DIGRAPH;
  fWITH RETROFLEX HOOK;dTESH DIGRAPH;dT WITH RETROFLEX HOOK;dV WITH RIGHT HOOK;107B2dCAPITAL Y;
  cGLOTTAL STOP WITH STROKE;cREVERSED GLOTTAL STOP WITH STROKE;cBILABIAL CLICK;cDENTAL CLICK;
  cLATERAL CLICK;cALVEOLAR CLICK;cRETROFLEX CLICK WITH RETROFLEX HOOK;cSMALL S WITH CURL;
  10800aCYPRIOT SYLLABLE A;cE;cI;cO;cU;cJA;10808cJO;1080AcKA;cKE;cKI;cKO;cKU;cLA;cLE;cLI;cLO;cLU;
  cMA;cME;cMI;cMO;cMU;cNA;cNE;cNI;cNO;cNU;cPA;cPE;cPI;cPO;cPU;cRA;cRE;cRI;cRO;cRU;cSA;cSE;cSI;
  cSO;cSU;cTA;cTE;cTI;cTO;cTU;cWA;cWE;cWI;cWO;10837cXA;cXE;1083CcZA;1083FcZO;
  aIMPERIAL ARAMAIC LETTER ALEPH;dBETH;dGIMEL;dDALETH;dHE;dWAW;dZAYIN;dHETH;dTETH;dYODH;dKAPH;
  dLAMEDH;dMEM;dNUN;dSAMEKH;dAYIN;dPE;dSADHE;dQOPH;dRESH;dSHIN;dTAW;10857cSECTION SIGN;
  cNUMBER ONE;dTWO;dTHREE;dTEN;dTWENTY;dONE HUNDRED;eTHOUSAND;dTEN THOUSAND;
  aPALMYRENE LETTER ALEPH;cBETH;cGIMEL;cDALETH;cHE;cWAW;cZAYIN;cHETH;cTETH;cYODH;cKAPH;cLAMEDH;
  cMEM;cFINAL NUN;cNUN;cSAMEKH;cAYIN;cPE;cSADHE;cQOPH;cRESH;cSHIN;cTAW;bLEFT-POINTING FLEURON;
  bRIGHT-POINTING FLEURON;bNUMBER ONE;cTWO;cTHREE;cFOUR;cFIVE;cTEN;cTWENTY;
  aNABATAEAN LETTER FINAL ALEPH;cALEPH;cFINAL BETH;cBETH;cGIMEL;cDALETH;cFINAL HE;cHE;cWAW;
  cZAYIN;cHETH;cTETH;cFINAL YODH;cYODH;cFINAL KAPH;cKAPH;cFINAL LAMEDH;cLAMEDH;cFINAL MEM;cMEM;
  cFINAL NUN;cNUN;cSAMEKH;cAYIN;cPE;cSADHE;cQOPH;cRESH;cFINAL SHIN;cSHIN;cTAW;108A7bNUMBER ONE;
  cTWO;cTHREE;cFOUR;bCRUCIFORM NUMBER FOUR;bNUMBER FIVE;cTEN;cTWENTY;cONE HUNDRED;
  108E0aHATRAN LETTER ALEPH;cBETH;cGIMEL;cDALETH-RESH;cHE;cWAW;cZAYN;cHETH;cTETH;cYODH;cKAPH;
  cLAMEDH;cMEM;cNUN;cSAMEKH;cAYN;cPE;cSADHE;cQOPH;108F4cSHIN;cTAW;108FBbNUMBER ONE;cFIVE;cTEN;
  cTWENTY;cONE HUNDRED;aPHOENICIAN LETTER ALF;cBET;cGAML;cDELT;cHE;cWAU;cZAI;cHET;cTET;cYOD;cKAF;
  cLAMD;cMEM;cNUN;cSEMK;cAIN;cPE;cSADE;cQOF;cROSH;cSHIN;cTAU;bNUMBER ONE;cTEN;cTWENTY;
  cONE HUNDRED;cTWO;cTHREE;1091FbWORD SEPARATOR;aLYDIAN LETTER A;cB;cG;cD;cE;cV;cI;cY;cK;cL;cM;
  cN;cO;cR;cSS;cT;cU;cF;cQ;cS;cTT;cAN;cEN;cLY;cNN;cC;1093FbTRIANGULAR MARK;
  10980aMEROITIC HIEROGLYPHIC LETTER A;dE;dI;dO;dYA;dWA;dBA;dBA-2;dPA;dMA;dNA;dNA-2;dNE;dNE-2;
  dRA;dRA-2;dLA;dKHA;dHHA;dSA;dSA-2;dSE;dKA;dQA;dTA;dTA-2;dTE;dTE-2;dTO;dDA;cSYMBOL VIDJ;dVIDJ-2;
  bCURSIVE LETTER A;dE;dI;dO;dYA;dWA;dBA;dPA;dMA;dNA;dNE;dRA;dLA;dKHA;dHHA;dSA;dARCHAIC SA;dSE;
  dKA;dQA;dTA;dTE;dTO;dDA;109BCcFRACTION ELEVEN TWELFTHS;dONE HALF;cLOGOGRAM RMT;dIMN;
  cNUMBER ONE;dTWO;dTHREE;dFOUR;dFIVE;dSIX;dSEVEN;dEIGHT;dNINE;dTEN;dTWENTY;dTHIRTY;dFORTY;
  dFIFTY;dSIXTY;dSEVENTY;109D2dONE HUNDRED;dTWO HUNDRED;dTHREE HUNDRED;dFOUR HUNDRED;
  dFIVE HUNDRED;dSIX HUNDRED;dSEVEN HUNDRED;dEIGHT HUNDRED;dNINE HUNDRED;dONE THOUSAND;
  dTWO THOUSAND;dTHREE THOUSAND;dFOUR THOUSAND;dFIVE THOUSAND;dSIX THOUSAND;dSEVEN THOUSAND;
  dEIGHT THOUSAND;dNINE THOUSAND;dTEN THOUSAND;dTWENTY THOUSAND;dTHIRTY THOUSAND;dFORTY THOUSAND;
  dFIFTY THOUSAND;dSIXTY THOUSAND;dSEVENTY THOUSAND;dEIGHTY THOUSAND;dNINETY THOUSAND;
  dONE HUNDRED THOUSAND;dTWO HUNDRED THOUSAND;dTHREE HUNDRED THOUSAND;dFOUR HUNDRED THOUSAND;
  dFIVE HUNDRED THOUSAND;dSIX HUNDRED THOUSAND;dSEVEN HUNDRED THOUSAND;dEIGHT HUNDRED THOUSAND;
  dNINE HUNDRED THOUSAND;cFRACTION ONE TWELFTH;dTWO TWELFTHS;dTHREE TWELFTHS;dFOUR TWELFTHS;
  dFIVE TWELFTHS;dSIX TWELFTHS;dSEVEN TWELFTHS;dEIGHT TWELFTHS;dNINE TWELFTHS;dTEN TWELFTHS;
  aKHAROSHTHI LETTER A;bVOWEL SIGN I;dU;dVOCALIC R;10A05dE;dO;10A0CcLENGTH MARK;
  bSIGN DOUBLE RING BELOW;cANUSVARA;cVISARGA;bLETTER KA;cKHA;cGA;cGHA;10A15cCA;cCHA;cJA;
  10A19cNYA;cTTA;cTTHA;cDDA;cDDHA;cNNA;cTA;cTHA;cDA;cDHA;cNA;cPA;cPHA;cBA;cBHA;cMA;cYA;cRA;cLA;
  cVA;cSHA;cSSA;cSA;cZA;cHA;cKKA;cTTTHA;cTTTA;cVHA;10A38bSIGN BAR ABOVE;cCAUDA;cDOT BELOW;
  10A3FbVIRAMA;bDIGIT ONE;cTWO;cTHREE;cFOUR;bNUMBER TEN;cTWENTY;cONE HUNDRED;dTHOUSAND;
  bFRACTION ONE HALF;10A50bPUNCTUATION DOT;cSMALL CIRCLE;cCIRCLE;cCRESCENT BAR;cMANGALAM;cLOTUS;
  cDANDA;cDOUBLE DANDA;cLINES;10A60aOLD SOUTH ARABIAN LETTER HE;eLAMEDH;eHETH;eMEM;eQOPH;eWAW;
  eSHIN;eRESH;eBETH;eTAW;eSAT;eKAPH;eNUN;eKHETH;eSADHE;eSAMEKH;eFE;eALEF;eAYN;eDHADHE;eGIMEL;
  eDALETH;eGHAYN;eTETH;eZAYN;eDHALETH;eYODH;eTHAW;eTHETH;dNUMBER ONE;eFIFTY;dNUMERIC INDICATOR;
  bNORTH ARABIAN LETTER HEH;eLAM;eHAH;eMEEM;eQAF;eWAW;eES-2;eREH;eBEH;eTEH;eES-1;eKAF;eNOON;
  eKHAH;eSAD;eES-3;eFEH;eALEF;eAIN;eDAD;eGEEM;eDAL;eGHAIN;eTAH;eZAIN;eTHAL;eYEH;eTHEH;eZAH;
  dNUMBER ONE;eTEN;eTWENTY;10AC0aMANICHAEAN LETTER ALEPH;cBETH;cBHETH;cGIMEL;cGHIMEL;cDALETH;cHE;
  cWAW;bSIGN UD;bLETTER ZAYIN;cZHAYIN;cJAYIN;cJHAYIN;cHETH;cTETH;cYODH;cKAPH;cXAPH;cKHAPH;
  cLAMEDH;cDHAMEDH;cTHAMEDH;cMEM;cNUN;cSAMEKH;cAYIN;cAAYIN;cPE;cFE;cSADHE;cQOPH;cXOPH;cQHOPH;
  cRESH;cSHIN;cSSHIN;cTAW;bABBREVIATION MARK ABOVE;dBELOW;10AEBbNUMBER ONE;cFIVE;cTEN;cTWENTY;
  cONE HUNDRED;bPUNCTUATION STAR;cFLEURON;cDOUBLE DOT WITHIN DOT;cDOT WITHIN DOT;cDOT;cTWO DOTS;
  cLINE FILLER;10B00aAVESTAN LETTER A;cAA;cAO;cAAO;cAN;cAAN;cAE;cAEE;cE;cEE;cO;cOO;cI;cII;cU;cUU;
  cKE;cXE;cXYE;cXVE;cGE;cGGE;cGHE;cCE;cJE;cTE;cTHE;cDE;cDHE;cTTE;cPE;cFE;cBE;cBHE;cNGE;cNGYE;
  cNGVE;cNE;cNYE;cNNE;cME;cHME;cYYE;cYE;cVE;cRE;cLE;cSE;cZE;cSHE;cZHE;cSHYE;cSSHE;cHE;
  10B39bABBREVIATION MARK;aTINY TWO DOTS OVER ONE DOT PUNCTUATION;
  aSMALL TWO DOTS OVER ONE DOT PUNCTUATION;aLARGE TWO DOTS OVER ONE DOT PUNCTUATION;
  bONE DOT OVER TWO DOTS PUNCTUATION;bTWO RINGS OVER ONE RING PUNCTUATION;
  bONE RING OVER TWO RINGS PUNCTUATION;aINSCRIPTIONAL PARTHIAN LETTER ALEPH;dBETH;dGIMEL;dDALETH;
  dHE;dWAW;dZAYIN;dHETH;dTETH;dYODH;dKAPH;dLAMEDH;dMEM;dNUN;dSAMEKH;dAYIN;dPE;dSADHE;dQOPH;dRESH;
  dSHIN;dTAW;10B58cNUMBER ONE;dTWO;dTHREE;dFOUR;dTEN;dTWENTY;dONE HUNDRED;eTHOUSAND;
  bPAHLAVI LETTER ALEPH;dBETH;dGIMEL;dDALETH;dHE;dWAW-AYIN-RESH;dZAYIN;dHETH;dTETH;dYODH;dKAPH;
  dLAMEDH;dMEM-QOPH;dNUN;dSAMEKH;dPE;dSADHE;dSHIN;dTAW;10B78cNUMBER ONE;dTWO;dTHREE;dFOUR;dTEN;
  dTWENTY;dONE HUNDRED;eTHOUSAND;aPSALTER PAHLAVI LETTER ALEPH;dBETH;dGIMEL;dDALETH;dHE;
  dWAW-AYIN-RESH;dZAYIN;dHETH;dYODH;dKAPH;dLAMEDH;dMEM-QOPH;dNUN;dSAMEKH;dPE;dSADHE;dSHIN;dTAW;
  10B99cSECTION MARK;cTURNED SECTION MARK;cFOUR DOTS WITH CROSS;fDOT;10BA9cNUMBER ONE;dTWO;
  dTHREE;dFOUR;dTEN;dTWENTY;dONE HUNDRED;10C00aOLD TURKIC LETTER ORKHON A;dYENISEI A;eAE;
  dORKHON I;dYENISEI I;eE;dORKHON O;eOE;dYENISEI OE;dORKHON AB;dYENISEI AB;dORKHON AEB;
  dYENISEI AEB;dORKHON AG;dYENISEI AG;dORKHON AEG;dYENISEI AEG;dORKHON AD;dYENISEI AD;
  dORKHON AED;eEZ;dYENISEI EZ;dORKHON AY;dYENISEI AY;dORKHON AEY;dYENISEI AEY;dORKHON AEK;
  dYENISEI AEK;dORKHON OEK;dYENISEI OEK;dORKHON AL;dYENISEI AL;dORKHON AEL;eELT;eEM;eAN;eAEN;
  dYENISEI AEN;dORKHON ENT;dYENISEI ENT;dORKHON ENC;dYENISEI ENC;dORKHON ENY;dYENISEI ENY;eANG;
  dORKHON ENG;dYENISEI AENG;dORKHON EP;eOP;eIC;eEC;dYENISEI EC;dORKHON AQ;dYENISEI AQ;dORKHON IQ;
  dYENISEI IQ;dORKHON OQ;dYENISEI OQ;dORKHON AR;dYENISEI AR;dORKHON AER;eAS;eAES;eASH;
  dYENISEI ASH;dORKHON ESH;dYENISEI ESH;dORKHON AT;dYENISEI AT;dORKHON AET;dYENISEI AET;
  dORKHON OT;eBASH;10C80bHUNGARIAN CAPITAL LETTER A;eAA;eEB;eAMB;eEC;eENC;eECS;eED;eAND;eE;
  eCLOSE E;eEE;eEF;eEG;eEGY;eEH;eI;eII;eEJ;eEK;eAK;eUNK;eEL;eELY;eEM;eEN;eENY;eO;eOO;
  eNIKOLSBURG OE;eRUDIMENTA OE;eOEE;eEP;eEMP;eER;eSHORT ER;eES;eESZ;eET;eENT;eETY;eECH;eU;eUU;
  eNIKOLSBURG UE;eRUDIMENTA UE;eEV;eEZ;eEZS;eENT-SHAPED SIGN;eUS;10CC0cSMALL LETTER A;eAA;eEB;
  eAMB;eEC;eENC;eECS;eED;eAND;eE;eCLOSE E;eEE;eEF;eEG;eEGY;eEH;eI;eII;eEJ;eEK;eAK;eUNK;eEL;eELY;
  eEM;eEN;eENY;eO;eOO;eNIKOLSBURG OE;eRUDIMENTA OE;eOEE;eEP;eEMP;eER;eSHORT ER;eES;eESZ;eET;eENT;
  eETY;eECH;eU;eUU;eNIKOLSBURG UE;eRUDIMENTA UE;eEV;eEZ;eEZS;eENT-SHAPED SIGN;eUS;
  10CFAcNUMBER ONE;dFIVE;dTEN;dFIFTY;dONE HUNDRED;eTHOUSAND;aHANIFI ROHINGYA LETTER A;dBA;dPA;
  dTA;dTTA;dJA;dCA;dHA;dKHA;dFA;dDA;dDDA;dRA;dRRA;dZA;dSA;dSHA;dKA;dGA;dLA;dMA;dNA;dWA;dKINNA WA;
  dYA;dKINNA YA;dNGA;dNYA;dVA;cVOWEL A;dI;dU;dE;dO;cMARK SAKIN;dNA KHONNA;cSIGN HARBAHAY;dTAHALA;
  dTANA;dTASSI;10D30cDIGIT ZERO;dONE;dTWO;dTHREE;dFOUR;dFIVE;dSIX;dSEVEN;dEIGHT;dNINE;
  10E60aRUMI DIGIT ONE;cTWO;cTHREE;cFOUR;cFIVE;cSIX;cSEVEN;cEIGHT;cNINE;bNUMBER TEN;cTWENTY;
  cTHIRTY;cFORTY;cFIFTY;cSIXTY;cSEVENTY;cEIGHTY;cNINETY;cONE HUNDRED;cTWO HUNDRED;cTHREE HUNDRED;
  cFOUR HUNDRED;cFIVE HUNDRED;cSIX HUNDRED;cSEVEN HUNDRED;cEIGHT HUNDRED;cNINE HUNDRED;
  bFRACTION ONE HALF;dQUARTER;dTHIRD;cTWO THIRDS;10E80aYEZIDI LETTER ELIF;cBE;cPE;cPHE;cTHE;cSE;
  cCIM;cCHIM;cCHHIM;cHHA;cXA;cDAL;cZAL;cRA;cRHA;cZA;cJA;cSIN;cSHIN;cSAD;cDAD;cTA;cZE;cEYN;cXHEYN;
  cFA;cVA;dALTERNATE FORM;cQAF;cKAF;cKHAF;cGAF;cLAM;cMIM;cNUN;cUM;cWAW;cOW;cEW;cHAY;cYOT;cET;
  10EABbCOMBINING HAMZA MARK;cMADDA MARK;bHYPHENATION MARK;10EB0bLETTER LAM WITH DOT ABOVE;
  cYOT WITH CIRCUMFLEX ABOVE;10F00aOLD SOGDIAN LETTER ALEPH;dFINAL ALEPH;dBETH;dFINAL BETH;
  dGIMEL;dHE;dFINAL HE;dWAW;dZAYIN;dHETH;dYODH;dKAPH;dLAMEDH;dMEM;dNUN;dFINAL NUN;
  fWITH VERTICAL TAIL;dSAMEKH;dAYIN;dALTERNATE AYIN;dPE;dSADHE;dFINAL SADHE;fWITH VERTICAL TAIL;
  dRESH-AYIN-DALETH;dSHIN;dTAW;dFINAL TAW;fWITH VERTICAL TAIL;cNUMBER ONE;dTWO;dTHREE;dFOUR;
  dFIVE;dTEN;dTWENTY;dTHIRTY;dONE HUNDRED;cFRACTION ONE HALF;cLIGATURE AYIN-DALETH;
  10F30aSOGDIAN LETTER ALEPH;cBETH;cGIMEL;cHE;cWAW;cZAYIN;cHETH;cYODH;cKAPH;cLAMEDH;cMEM;cNUN;
  cSAMEKH;cAYIN;cPE;cSADHE;cRESH-AYIN;cSHIN;cTAW;cFETH;cLESH;bINDEPENDENT SHIN;
  bCOMBINING DOT BELOW;cTWO DOTS BELOW;cDOT ABOVE;cTWO DOTS ABOVE;cCURVE ABOVE;dBELOW;
  cHOOK ABOVE;dBELOW;cLONG HOOK BELOW;cRESH BELOW;cSTROKE BELOW;bNUMBER ONE;cTEN;cTWENTY;
  cONE HUNDRED;bPUNCTUATION TWO VERTICAL BARS;fWITH DOTS;cCIRCLE WITH DOT;cTWO CIRCLES WITH DOTS;
  cHALF CIRCLE WITH DOT;10F70aOLD UYGHUR LETTER ALEPH;dBETH;dGIMEL-HETH;dWAW;dZAYIN;dFINAL HETH;
  dYODH;dKAPH;dLAMEDH;dMEM;dNUN;dSAMEKH;dPE;dSADHE;dRESH;dSHIN;dTAW;dLESH;cCOMBINING DOT ABOVE;
  eBELOW;dTWO DOTS ABOVE;fBELOW;cPUNCTUATION BAR;dTWO BARS;eDOTS;dFOUR DOTS;
  10FB0aCHORASMIAN LETTER ALEPH;cSMALL ALEPH;cBETH;cGIMEL;cDALETH;cHE;cWAW;cCURLED WAW;cZAYIN;
  cHETH;cYODH;cKAPH;cLAMEDH;cMEM;cNUN;cSAMEKH;cAYIN;cPE;cRESH;cSHIN;cTAW;bNUMBER ONE;cTWO;cTHREE;
  cFOUR;cTEN;cTWENTY;cONE HUNDRED;10FE0aELYMAIC LETTER ALEPH;cBETH;cGIMEL;cDALETH;cHE;cWAW;
  cZAYIN;cHETH;cTETH;cYODH;cKAPH;cLAMEDH;cMEM;cNUN;cSAMEKH;cAYIN;cPE;cSADHE;cQOPH;cRESH;cSHIN;
  cTAW;bLIGATURE ZAYIN-YODH;11000aBRAHMI SIGN CANDRABINDU;cANUSVARA;cVISARGA;cJIHVAMULIYA;
  cUPADHMANIYA;bLETTER A;cAA;cI;cII;cU;cUU;cVOCALIC R;dRR;dL;dLL;cE;cAI;cO;cAU;cKA;cKHA;cGA;cGHA;
  cNGA;cCA;cCHA;cJA;cJHA;cNYA;cTTA;cTTHA;cDDA;cDDHA;cNNA;cTA;cTHA;cDA;cDHA;cNA;cPA;cPHA;cBA;cBHA;
  cMA;cYA;cRA;cLA;cVA;cSHA;cSSA;cSA;cHA;cLLA;cOLD TAMIL LLLA;eRRA;eNNNA;bVOWEL SIGN AA;
  dBHATTIPROLU AA;dI;dII;dU;dUU;dVOCALIC R;eRR;eL;eLL;dE;dAI;dO;dAU;bVIRAMA;bDANDA;bDOUBLE DANDA;
  bPUNCTUATION DOT;cDOUBLE DOT;cLINE;cCRESCENT BAR;cLOTUS;11052bNUMBER ONE;cTWO;cTHREE;cFOUR;
  cFIVE;cSIX;cSEVEN;cEIGHT;cNINE;cTEN;cTWENTY;cTHIRTY;cFORTY;cFIFTY;cSIXTY;cSEVENTY;cEIGHTY;
  cNINETY;cONE HUNDRED;dTHOUSAND;bDIGIT ZERO;cONE;cTWO;cTHREE;cFOUR;cFIVE;cSIX;cSEVEN;cEIGHT;
  cNINE;bSIGN OLD TAMIL VIRAMA;bLETTER OLD TAMIL SHORT E;fO;bVOWEL SIGN OLD TAMIL SHORT E;gO;
  bLETTER OLD TAMIL LLA;1107FbNUMBER JOINER;aKAITHI SIGN CANDRABINDU;cANUSVARA;cVISARGA;
  bLETTER A;cAA;cI;cII;cU;cUU;cE;cAI;cO;cAU;cKA;cKHA;cGA;cGHA;cNGA;cCA;cCHA;cJA;cJHA;cNYA;cTTA;
  cTTHA;cDDA;cDDDHA;cDDHA;cRHA;cNNA;cTA;cTHA;cDA;cDHA;cNA;cPA;cPHA;cBA;cBHA;cMA;cYA;cRA;cLA;cVA;
  cSHA;cSSA;cSA;cHA;bVOWEL SIGN AA;dI;dII;dU;dUU;dE;dAI;dO;dAU;bSIGN VIRAMA;cNUKTA;
  bABBREVIATION SIGN;bENUMERATION SIGN;bNUMBER SIGN;bSECTION MARK;bDOUBLE SECTION MARK;bDANDA;
  bDOUBLE DANDA;bVOWEL SIGN VOCALIC R;110CDbNUMBER SIGN ABOVE;110D0aSORA SOMPENG LETTER SAH;dTAH;
  dBAH;dCAH;dDAH;dGAH;dMAH;dNGAH;dLAH;dNAH;dVAH;dPAH;dYAH;dRAH;dHAH;dKAH;dJAH;dNYAH;dAH;dEEH;dIH;
  dUH;dOH;dEH;dMAE;110F0cDIGIT ZERO;dONE;dTWO;dTHREE;dFOUR;dFIVE;dSIX;dSEVEN;dEIGHT;dNINE;
  11100aCHAKMA SIGN CANDRABINDU;cANUSVARA;cVISARGA;bLETTER AA;cI;cU;cE;cKAA;cKHAA;cGAA;cGHAA;
  cNGAA;cCAA;cCHAA;cJAA;cJHAA;cNYAA;cTTAA;cTTHAA;cDDAA;cDDHAA;cNNAA;cTAA;cTHAA;cDAA;cDHAA;cNAA;
  cPAA;cPHAA;cBAA;cBHAA;cMAA;cYYAA;cYAA;cRAA;cLAA;cWAA;cSAA;cHAA;bVOWEL SIGN A;dI;dII;dU;dUU;dE;
  dAI;dO;dAU;dOI;bO MARK;bAU MARK;bVIRAMA;bMAAYYAA;11136bDIGIT ZERO;cONE;cTWO;cTHREE;cFOUR;cFIVE;
  cSIX;cSEVEN;cEIGHT;cNINE;bSECTION MARK;bDANDA;bDOUBLE DANDA;bQUESTION MARK;bLETTER LHAA;
  bVOWEL SIGN AA;dEI;bLETTER VAA;11150aMAHAJANI LETTER A;cI;cU;cE;cO;cKA;cKHA;cGA;cGHA;cCA;cCHA;
  cJA;cJHA;cNYA;cTTA;cTTHA;cDDA;cDDHA;cNNA;cTA;cTHA;cDA;cDHA;cNA;cPA;cPHA;cBA;cBHA;cMA;cRA;cLA;
  cVA;cSA;cHA;cRRA;bSIGN NUKTA;bABBREVIATION SIGN;bSECTION MARK;bLIGATURE SHRI;
  11180aSHARADA SIGN CANDRABINDU;cANUSVARA;cVISARGA;bLETTER A;cAA;cI;cII;cU;cUU;cVOCALIC R;dRR;
  dL;dLL;cE;cAI;cO;cAU;cKA;cKHA;cGA;cGHA;cNGA;cCA;cCHA;cJA;cJHA;cNYA;cTTA;cTTHA;cDDA;cDDHA;cNNA;
  cTA;cTHA;cDA;cDHA;cNA;cPA;cPHA;cBA;cBHA;cMA;cYA;cRA;cLA;cLLA;cVA;cSHA;cSSA;cSA;cHA;
  bVOWEL SIGN AA;dI;dII;dU;dUU;dVOCALIC R;eRR;eL;eLL;dE;dAI;dO;dAU;bSIGN VIRAMA;cAVAGRAHA;
  cJIHVAMULIYA;cUPADHMANIYA;bOM;bDANDA;bDOUBLE DANDA;bABBREVIATION SIGN;bSEPARATOR;bSANDHI MARK;
  bSIGN NUKTA;bVOWEL MODIFIER MARK;bEXTRA SHORT VOWEL MARK;bSUTRA MARK;
  bVOWEL SIGN PRISHTHAMATRA E;bSIGN INVERTED CANDRABINDU;bDIGIT ZERO;cONE;cTWO;cTHREE;cFOUR;
  cFIVE;cSIX;cSEVEN;cEIGHT;cNINE;bEKAM;bSIGN SIDDHAM;bHEADSTROKE;bCONTINUATION SIGN;
  bSECTION MARK-1;cMARK-2;111E1aSINHALA ARCHAIC DIGIT ONE;dTWO;dTHREE;dFOUR;dFIVE;dSIX;dSEVEN;
  dEIGHT;dNINE;cNUMBER TEN;dTWENTY;dTHIRTY;dFORTY;dFIFTY;dSIXTY;dSEVENTY;dEIGHTY;dNINETY;
  dONE HUNDRED;eTHOUSAND;11200aKHOJKI LETTER A;cAA;cI;cU;cE;cAI;cO;cAU;cKA;cKHA;cGA;cGGA;cGHA;
  cNGA;cCA;cCHA;cJA;cJJA;11213cNYA;cTTA;cTTHA;cDDA;cDDHA;cNNA;cTA;cTHA;cDA;cDDDA;cDHA;cNA;cPA;
  cPHA;cBA;cBBA;cBHA;cMA;cYA;cRA;cLA;cVA;cSA;cHA;cLLA;bVOWEL SIGN AA;dI;dII;dU;dE;dAI;dO;dAU;
  bSIGN ANUSVARA;cVIRAMA;cNUKTA;cSHADDA;bDANDA;bDOUBLE DANDA;bWORD SEPARATOR;bSECTION MARK;
  bDOUBLE SECTION MARK;bABBREVIATION SIGN;bSIGN SUKUN;11280aMULTANI LETTER A;cI;cU;cE;cKA;cKHA;
  cGA;11288cGHA;1128AcCA;cCHA;cJA;cJJA;1128FcNYA;cTTA;cTTHA;cDDA;cDDDA;cDDHA;cNNA;cTA;cTHA;cDA;
  cDHA;cNA;cPA;cPHA;cBA;1129FcBHA;cMA;cYA;cRA;cLA;cVA;cSA;cHA;cRRA;cRHA;bSECTION MARK;
  112B0aKHUDAWADI LETTER A;cAA;cI;cII;cU;cUU;cE;cAI;cO;cAU;cKA;cKHA;cGA;cGGA;cGHA;cNGA;cCA;cCHA;
  cJA;cJJA;cJHA;cNYA;cTTA;cTTHA;cDDA;cDDDA;cRRA;cDDHA;cNNA;cTA;cTHA;cDA;cDHA;cNA;cPA;cPHA;cBA;
  cBBA;cBHA;cMA;cYA;cRA;cLA;cVA;cSHA;cSA;cHA;bSIGN ANUSVARA;bVOWEL SIGN AA;dI;dII;dU;dUU;dE;dAI;
  dO;dAU;bSIGN NUKTA;cVIRAMA;112F0bDIGIT ZERO;cONE;cTWO;cTHREE;cFOUR;cFIVE;cSIX;cSEVEN;cEIGHT;
  cNINE;11300aGRANTHA SIGN COMBINING ANUSVARA ABOVE;cCANDRABINDU;cANUSVARA;cVISARGA;
  11305bLETTER A;cAA;cI;cII;cU;cUU;cVOCALIC R;dL;1130FcEE;cAI;11313cOO;cAU;cKA;cKHA;cGA;cGHA;
  cNGA;cCA;cCHA;cJA;cJHA;cNYA;cTTA;cTTHA;cDDA;cDDHA;cNNA;cTA;cTHA;cDA;cDHA;cNA;1132AcPA;cPHA;cBA;
  cBHA;cMA;cYA;cRA;11332cLA;cLLA;11335cVA;cSHA;cSSA;cSA;cHA;1133BaCOMBINING BINDU BELOW;
  aGRANTHA SIGN NUKTA;cAVAGRAHA;bVOWEL SIGN AA;dI;dII;dU;dUU;dVOCALIC R;eRR;11347dEE;dAI;
  1134BdOO;dAU;bSIGN VIRAMA;11350bOM;11357bAU LENGTH MARK;1135DbSIGN PLUTA;
  bLETTER VEDIC ANUSVARA;dDOUBLE ANUSVARA;cVOCALIC RR;dLL;bVOWEL SIGN VOCALIC L;eLL;
  11366aCOMBINING GRANTHA DIGIT ZERO;dONE;dTWO;dTHREE;dFOUR;dFIVE;dSIX;11370cLETTER A;dKA;dNA;
  dVI;dPA;11400aNEWA LETTER A;cAA;cI;cII;cU;cUU;cVOCALIC R;dRR;dL;dLL;cE;cAI;cO;cAU;cKA;cKHA;cGA;
  cGHA;cNGA;cNGHA;cCA;cCHA;cJA;cJHA;cNYA;cNYHA;cTTA;cTTHA;cDDA;cDDHA;cNNA;cTA;cTHA;cDA;cDHA;cNA;
  cNHA;cPA;cPHA;cBA;cBHA;cMA;cMHA;cYA;cRA;cRHA;cLA;cLHA;cWA;cSHA;cSSA;cSA;cHA;bVOWEL SIGN AA;dI;
  dII;dU;dUU;dVOCALIC R;eRR;eL;eLL;dE;dAI;dO;dAU;bSIGN VIRAMA;cCANDRABINDU;cANUSVARA;cVISARGA;
  cNUKTA;cAVAGRAHA;cFINAL ANUSVARA;bOM;bSIDDHI;bDANDA;bDOUBLE DANDA;bCOMMA;bGAP FILLER;
  bABBREVIATION SIGN;bDIGIT ZERO;cONE;cTWO;cTHREE;cFOUR;cFIVE;cSIX;cSEVEN;cEIGHT;cNINE;
  bDOUBLE COMMA;bPLACEHOLDER MARK;1145DbINSERTION SIGN;bSANDHI MARK;bLETTER VEDIC ANUSVARA;
  bSIGN JIHVAMULIYA;cUPADHMANIYA;11480aTIRHUTA ANJI;bLETTER A;cAA;cI;cII;cU;cUU;cVOCALIC R;dRR;
  dL;dLL;cE;cAI;cO;cAU;cKA;cKHA;cGA;cGHA;cNGA;cCA;cCHA;cJA;cJHA;cNYA;cTTA;cTTHA;cDDA;cDDHA;cNNA;
  cTA;cTHA;cDA;cDHA;cNA;cPA;cPHA;cBA;cBHA;cMA;cYA;cRA;cLA;cVA;cSHA;cSSA;cSA;cHA;bVOWEL SIGN AA;
  dI;dII;dU;dUU;dVOCALIC R;eRR;eL;eLL;dE;dSHORT E;dAI;dO;dSHORT O;dAU;bSIGN CANDRABINDU;
  cANUSVARA;cVISARGA;cVIRAMA;cNUKTA;cAVAGRAHA;bGVANG;bABBREVIATION SIGN;bOM;114D0bDIGIT ZERO;
  cONE;cTWO;cTHREE;cFOUR;cFIVE;cSIX;cSEVEN;cEIGHT;cNINE;11580aSIDDHAM LETTER A;cAA;cI;cII;cU;cUU;
  cVOCALIC R;dRR;dL;dLL;cE;cAI;cO;cAU;cKA;cKHA;cGA;cGHA;cNGA;cCA;cCHA;cJA;cJHA;cNYA;cTTA;cTTHA;
  cDDA;cDDHA;cNNA;cTA;cTHA;cDA;cDHA;cNA;cPA;cPHA;cBA;cBHA;cMA;cYA;cRA;cLA;cVA;cSHA;cSSA;cSA;cHA;
  bVOWEL SIGN AA;dI;dII;dU;dUU;dVOCALIC R;eRR;115B8dE;dAI;dO;dAU;bSIGN CANDRABINDU;cANUSVARA;
  cVISARGA;cVIRAMA;cNUKTA;cSIDDHAM;bDANDA;bDOUBLE DANDA;bSEPARATOR DOT;cBAR;bREPETITION MARK-1;
  cMARK-2;cMARK-3;bEND OF TEXT MARK;bSECTION MARK WITH TRIDENT AND U-SHAPED ORNAMENTS;
  gDOTTED CRESCENTS;eRAYS AND DOTTED CRESCENTS;hDOUBLE CRESCENTS;hTRIPLE CRESCENTS;dDOUBLE RING;
  fWITH RAYS;dWITH DOUBLE CRESCENTS;eTRIPLE CRESCENTS;eQUADRUPLE CRESCENTS;eSEPTUPLE CRESCENTS;
  eCIRCLES AND RAYS;gTWO ENCLOSURES;gFOUR ENCLOSURES;bLETTER THREE-CIRCLE ALTERNATE I;
  cTWO-CIRCLE ALTERNATE I;eII;cALTERNATE U;bVOWEL SIGN ALTERNATE U;eUU;11600aMODI LETTER A;cAA;
  cI;cII;cU;cUU;cVOCALIC R;dRR;dL;dLL;cE;cAI;cO;cAU;cKA;cKHA;cGA;cGHA;cNGA;cCA;cCHA;cJA;cJHA;
  cNYA;cTTA;cTTHA;cDDA;cDDHA;cNNA;cTA;cTHA;cDA;cDHA;cNA;cPA;cPHA;cBA;cBHA;cMA;cYA;cRA;cLA;cVA;
  cSHA;cSSA;cSA;cHA;cLLA;bVOWEL SIGN AA;dI;dII;dU;dUU;dVOCALIC R;eRR;eL;eLL;dE;dAI;dO;dAU;
  bSIGN ANUSVARA;cVISARGA;cVIRAMA;cARDHACANDRA;bDANDA;bDOUBLE DANDA;bABBREVIATION SIGN;
  bSIGN HUVA;11650bDIGIT ZERO;cONE;cTWO;cTHREE;cFOUR;cFIVE;cSIX;cSEVEN;cEIGHT;cNINE;
  11660aMONGOLIAN BIRGA WITH ORNAMENT;bROTATED BIRGA;bDOUBLE BIRGA WITH ORNAMENT;
  bTRIPLE BIRGA WITH ORNAMENT;bBIRGA WITH DOUBLE ORNAMENT;bROTATED BIRGA WITH ORNAMENT;
  eDOUBLE ORNAMENT;bINVERTED BIRGA;dWITH DOUBLE ORNAMENT;bSWIRL BIRGA;dWITH ORNAMENT;
  eDOUBLE ORNAMENT;bTURNED SWIRL BIRGA WITH DOUBLE ORNAMENT;11680aTAKRI LETTER A;cAA;cI;cII;cU;
  cUU;cE;cAI;cO;cAU;cKA;cKHA;cGA;cGHA;cNGA;cCA;cCHA;cJA;cJHA;cNYA;cTTA;cTTHA;cDDA;cDDHA;cNNA;cTA;
  cTHA;cDA;cDHA;cNA;cPA;cPHA;cBA;cBHA;cMA;cYA;cRA;cLA;cVA;cSHA;cSA;cHA;cRRA;bSIGN ANUSVARA;
  cVISARGA;bVOWEL SIGN AA;dI;dII;dU;dUU;dE;dAI;dO;dAU;bSIGN VIRAMA;cNUKTA;bLETTER ARCHAIC KHA;
  bABBREVIATION SIGN;116C0bDIGIT ZERO;cONE;cTWO;cTHREE;cFOUR;cFIVE;cSIX;cSEVEN;cEIGHT;cNINE;
  11700aAHOM LETTER KA;cKHA;cNGA;cNA;cTA;cALTERNATE TA;cPA;cPHA;cBA;cMA;cJA;cCHA;cTHA;cRA;cLA;
  cSA;cNYA;cHA;cA;cDA;cDHA;cGA;cALTERNATE GA;cGHA;cBHA;cJHA;cALTERNATE BA;
  1171DbCONSONANT SIGN MEDIAL LA;eRA;eLIGATING RA;bVOWEL SIGN A;dAA;dI;dII;dU;dUU;dE;dAW;dO;dAI;
  dAM;bSIGN KILLER;11730bDIGIT ZERO;cONE;cTWO;cTHREE;cFOUR;cFIVE;cSIX;cSEVEN;cEIGHT;cNINE;
  bNUMBER TEN;cTWENTY;bSIGN SMALL SECTION;cSECTION;cRULAI;bSYMBOL VI;bLETTER CA;cTTA;cTTHA;cDDA;
  cDDHA;cNNA;cLLA;11800aDOGRA LETTER A;cAA;cI;cII;cU;cUU;cE;cAI;cO;cAU;cKA;cKHA;cGA;cGHA;cNGA;
  cCA;cCHA;cJA;cJHA;cNYA;cTTA;cTTHA;cDDA;cDDHA;cNNA;cTA;cTHA;cDA;cDHA;cNA;cPA;cPHA;cBA;cBHA;cMA;
  cYA;cRA;cLA;cVA;cSHA;cSSA;cSA;cHA;cRRA;bVOWEL SIGN AA;dI;dII;dU;dUU;dVOCALIC R;eRR;dE;dAI;dO;
  dAU;bSIGN ANUSVARA;cVISARGA;cVIRAMA;cNUKTA;bABBREVIATION SIGN;
  118A0aWARANG CITI CAPITAL LETTER NGAA;eA;eWI;eYU;eYA;eYO;eII;eUU;eE;eO;eANG;eGA;eKO;eENY;eYUJ;
  eUC;eENN;eODD;eTTE;eNUNG;eDA;eAT;eAM;eBU;ePU;eHIYO;eHOLO;eHORR;eHAR;eSSUU;eSII;eVIYO;
  cSMALL LETTER NGAA;eA;eWI;eYU;eYA;eYO;eII;eUU;eE;eO;eANG;eGA;eKO;eENY;eYUJ;eUC;eENN;eODD;eTTE;
  eNUNG;eDA;eAT;eAM;eBU;ePU;eHIYO;eHOLO;eHORR;eHAR;eSSUU;eSII;eVIYO;cDIGIT ZERO;dONE;dTWO;dTHREE;
  dFOUR;dFIVE;dSIX;dSEVEN;dEIGHT;dNINE;cNUMBER TEN;dTWENTY;dTHIRTY;dFORTY;dFIFTY;dSIXTY;dSEVENTY;
  dEIGHTY;dNINETY;118FFcOM;aDIVES AKURU LETTER A;dAA;dI;dII;dU;dUU;dE;11909dO;1190CdKA;dKHA;dGA;
  dGHA;dNGA;dCA;dCHA;dJA;11915dNYA;dTTA;11918dDDA;dDDHA;dNNA;dTA;dTHA;dDA;dDHA;dNA;dPA;dPHA;dBA;
  dBHA;dMA;dYA;dYYA;dRA;dLA;dVA;dSHA;dSSA;dSA;dHA;dLLA;dZA;cVOWEL SIGN AA;eI;eII;eU;eUU;eE;
  11937eAI;eO;1193BcSIGN ANUSVARA;dCANDRABINDU;dHALANTA;cVIRAMA;cPREFIXED NASAL SIGN;cMEDIAL YA;
  cINITIAL RA;cMEDIAL RA;cSIGN NUKTA;cDOUBLE DANDA;cGAP FILLER;cEND OF TEXT MARK;
  11950cDIGIT ZERO;dONE;dTWO;dTHREE;dFOUR;dFIVE;dSIX;dSEVEN;dEIGHT;dNINE;
  119A0aNANDINAGARI LETTER A;cAA;cI;cII;cU;cUU;cVOCALIC R;dRR;119AAcE;cAI;cO;cAU;cKA;cKHA;cGA;
  cGHA;cNGA;cCA;cCHA;cJA;cJHA;cNYA;cTTA;cTTHA;cDDA;cDDHA;cNNA;cTA;cTHA;cDA;cDHA;cNA;cPA;cPHA;cBA;
  cBHA;cMA;cYA;cRA;cLA;cVA;cSHA;cSSA;cSA;cHA;cLLA;cRRA;bVOWEL SIGN AA;dI;dII;dU;dUU;dVOCALIC R;
  eRR;119DAdE;dAI;dO;dAU;bSIGN ANUSVARA;cVISARGA;cVIRAMA;cAVAGRAHA;cSIDDHAM;bHEADSTROKE;
  bVOWEL SIGN PRISHTHAMATRA E;11A00aZANABAZAR SQUARE LETTER A;cVOWEL SIGN I;eUE;eU;eE;eOE;eO;eAI;
  eAU;eREVERSED I;dLENGTH MARK;cLETTER KA;dKHA;dGA;dGHA;dNGA;dCA;dCHA;dJA;dNYA;dTTA;dTTHA;dDDA;
  dDDHA;dNNA;dTA;dTHA;dDA;dDHA;dNA;dPA;dPHA;dBA;dBHA;dMA;dTSA;dTSHA;dDZA;dDZHA;dZHA;dZA;d-A;dYA;
  dRA;dLA;dVA;dSHA;dSSA;dSA;dHA;dKSSA;cFINAL CONSONANT MARK;cSIGN VIRAMA;dCANDRABINDU;
  eWITH ORNAMENT;dCANDRA WITH ORNAMENT;dANUSVARA;dVISARGA;cCLUSTER-INITIAL LETTER RA;
  cCLUSTER-FINAL LETTER YA;eRA;eLA;eVA;cINITIAL HEAD MARK;cCLOSING HEAD MARK;cMARK TSHEG;dSHAD;
  dDOUBLE SHAD;dLONG TSHEG;cINITIAL DOUBLE-LINED HEAD MARK;cCLOSING DOUBLE-LINED HEAD MARK;
  cSUBJOINER;11A50aSOYOMBO LETTER A;bVOWEL SIGN I;dUE;dU;dE;dO;dOE;dAI;dAU;dVOCALIC R;eL;
  cLENGTH MARK;bLETTER KA;cKHA;cGA;cGHA;cNGA;cCA;cCHA;cJA;cJHA;cNYA;cTTA;cTTHA;cDDA;cDDHA;cNNA;
  cTA;cTHA;cDA;cDHA;cNA;cPA;cPHA;cBA;cBHA;cMA;cTSA;cTSHA;cDZA;cZHA;cZA;c-A;cYA;cRA;cLA;cVA;cSHA;
  cSSA;cSA;cHA;cKSSA;bSIGN JIHVAMULIYA;cUPADHMANIYA;bCLUSTER-INITIAL LETTER RA;dLA;dSHA;dSA;
  bFINAL CONSONANT SIGN G;eK;eNG;eD;eN;eB;eM;eR;eL;eSH;eS;e-A;bSIGN ANUSVARA;cVISARGA;
  bGEMINATION MARK;bSUBJOINER;bMARK TSHEG;cSHAD;cDOUBLE SHAD;cPLUTA;
  bHEAD MARK WITH MOON AND SUN AND TRIPLE FLAME;iFLAME;gSUN;bTERMINAL MARK-1;cMARK-2;
  11AB0aCANADIAN SYLLABICS NATTILIK HI;dHII;dHO;dHOO;dHA;dHAA;dSHRI;dSHRII;dSHRO;dSHROO;dSHRA;
  dSHRAA;cSPE;cSPI;cSPO;cSPA;aPAU CIN HAU LETTER PA;eKA;eLA;eMA;eDA;eZA;eVA;eNGA;eHA;eGA;eKHA;
  eSA;eBA;eCA;eTA;eTHA;eNA;ePHA;eRA;eFA;eCHA;eA;eE;eI;eO;eU;eUA;eIA;eFINAL P;fK;fT;fM;fN;fL;fW;
  fNG;fY;dRISING TONE LONG;eTONE;dSANDHI GLOTTAL STOP;dRISING TONE LONG FINAL;fFINAL;
  dSANDHI GLOTTAL STOP FINAL;eTONE LONG;eTONE;fLONG FINAL;fFINAL;dMID-LEVEL TONE;
  dGLOTTAL STOP VARIANT;dMID-LEVEL TONE LONG FINAL;fFINAL;dLOW-FALLING TONE LONG;eTONE;
  dGLOTTAL STOP;dLOW-FALLING TONE LONG FINAL;fFINAL;dGLOTTAL STOP FINAL;11C00aBHAIKSUKI LETTER A;
  cAA;cI;cII;cU;cUU;cVOCALIC R;dRR;dL;11C0AcE;cAI;cO;cAU;cKA;cKHA;cGA;cGHA;cNGA;cCA;cCHA;cJA;
  cJHA;cNYA;cTTA;cTTHA;cDDA;cDDHA;cNNA;cTA;cTHA;cDA;cDHA;cNA;cPA;cPHA;cBA;cBHA;cMA;cYA;cRA;cLA;
  cVA;cSHA;cSSA;cSA;cHA;bVOWEL SIGN AA;dI;dII;dU;dUU;dVOCALIC R;eRR;eL;11C38dE;dAI;dO;dAU;
  bSIGN CANDRABINDU;cANUSVARA;cVISARGA;cVIRAMA;cAVAGRAHA;bDANDA;bDOUBLE DANDA;bWORD SEPARATOR;
  bGAP FILLER-1;cFILLER-2;11C50bDIGIT ZERO;cONE;cTWO;cTHREE;cFOUR;cFIVE;cSIX;cSEVEN;cEIGHT;cNINE;
  bNUMBER ONE;cTWO;cTHREE;cFOUR;cFIVE;cSIX;cSEVEN;cEIGHT;cNINE;cTEN;cTWENTY;cTHIRTY;cFORTY;
  cFIFTY;cSIXTY;cSEVENTY;cEIGHTY;cNINETY;bHUNDREDS UNIT MARK;11C70aMARCHEN HEAD MARK;bMARK SHAD;
  bLETTER KA;cKHA;cGA;cNGA;cCA;cCHA;cJA;cNYA;cTA;cTHA;cDA;cNA;cPA;cPHA;cBA;cMA;cTSA;cTSHA;cDZA;
  cWA;cZHA;cZA;c-A;cYA;cRA;cLA;cSHA;cSA;cHA;cA;11C92bSUBJOINED LETTER KA;dKHA;dGA;dNGA;dCA;dCHA;
  dJA;dNYA;dTA;dTHA;dDA;dNA;dPA;dPHA;dBA;dMA;dTSA;dTSHA;dDZA;dWA;dZHA;dZA;11CA9dYA;dRA;dLA;dSHA;
  dSA;dHA;dA;bVOWEL SIGN AA;dI;dU;dE;dO;bSIGN ANUSVARA;cCANDRABINDU;11D00aMASARAM GONDI LETTER A;
  dAA;dI;dII;dU;dUU;dE;11D08dAI;dO;11D0BdAU;dKA;dKHA;dGA;dGHA;dNGA;dCA;dCHA;dJA;dJHA;dNYA;dTTA;
  dTTHA;dDDA;dDDHA;dNNA;dTA;dTHA;dDA;dDHA;dNA;dPA;dPHA;dBA;dBHA;dMA;dYA;dRA;dLA;dVA;dSHA;dSSA;
  dSA;dHA;dLLA;dKSSA;dJNYA;dTRA;cVOWEL SIGN AA;eI;eII;eU;eUU;eVOCALIC R;11D3AeE;11D3CeAI;eO;
  11D3FeAU;cSIGN ANUSVARA;dVISARGA;dNUKTA;dCANDRA;dHALANTA;cVIRAMA;cREPHA;cRA-KARA;
  11D50cDIGIT ZERO;dONE;dTWO;dTHREE;dFOUR;dFIVE;dSIX;dSEVEN;dEIGHT;dNINE;
  11D60aGUNJALA GONDI LETTER A;dAA;dI;dII;dU;dUU;11D67dEE;dAI;11D6AdOO;dAU;dYA;dVA;dBA;dBHA;dMA;
  dKA;dKHA;dTA;dTHA;dLA;dGA;dGHA;dDA;dDHA;dNA;dCA;dCHA;dTTA;dTTHA;dLLA;dJA;dJHA;dDDA;dDDHA;dNGA;
  dPA;dPHA;dHA;dRA;dSA;cVOWEL SIGN AA;eI;eII;eU;eUU;11D90eEE;eAI;11D93eOO;eAU;cSIGN ANUSVARA;
  dVISARGA;cVIRAMA;cOM;11DA0cDIGIT ZERO;dONE;dTWO;dTHREE;dFOUR;dFIVE;dSIX;dSEVEN;dEIGHT;dNINE;
  11EE0aMAKASAR LETTER KA;cGA;cNGA;cPA;cBA;cMA;cTA;cDA;cNA;cCA;cJA;cNYA;cYA;cRA;cLA;cVA;cSA;cA;
  bANGKA;bVOWEL SIGN I;dU;dE;dO;bPASSIMBANG;bEND OF SECTION;11FB0aLISU LETTER YHA;
  11FC0aTAMIL FRACTION ONE THREE-HUNDRED-AND-TWENTIETH;dONE-HUNDRED-AND-SIXTIETH;dEIGHTIETH;
  dSIXTY-FOURTH;dFORTIETH;dTHIRTY-SECOND;cTHREE EIGHTIETHS;dSIXTY-FOURTHS;cONE TWENTIETH;
  dSIXTEENTH-1;dSIXTEENTH-2;dTENTH;dEIGHTH;cTHREE TWENTIETHS;dSIXTEENTHS;cONE FIFTH;dQUARTER;
  dHALF-1;dHALF-2;cTHREE QUARTERS;cDOWNSCALING FACTOR KIIZH;bSIGN NEL;cCEVITU;cAAZHAAKKU;
  cUZHAKKU;cMUUVUZHAKKU;cKURUNI;cPATHAKKU;cMUKKURUNI;cKAACU;cPANAM;cPON;cVARAAKAN;cPAARAM;cKUZHI;
  cVELI;bWET CULTIVATION SIGN;bDRY CULTIVATION SIGN;bLAND SIGN;bSALT PAN SIGN;
  bTRADITIONAL CREDIT SIGN;cNUMBER SIGN;bCURRENT SIGN;bAND ODD SIGN;bSPENT SIGN;bTOTAL SIGN;
  bIN POSSESSION SIGN;bSTARTING FROM SIGN;bSIGN MUTHALIYA;cVAKAIYARAA;
  11FFFbPUNCTUATION END OF TEXT"

end WhistledSpeech.Text.Table
