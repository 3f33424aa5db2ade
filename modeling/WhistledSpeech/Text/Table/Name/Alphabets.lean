/-!
# Names of letters of the alphabets

From Latin to Tibetan.

Entries stand in the order of their code points, with semicolons between them; line breaks and
blanks in front of an entry do not count. An entry is a code point in base sixteen, left out if it
is the one after that of the entry before; a small letter for the number of words its name shares
with that entry at the front, `a` for none; and the rest of the name.
-/

namespace WhistledSpeech.Text.Table

/-- The names of the characters from U+0020 to U+0FDA. -/
def alphabetNames : String :=
  "20aSPACE;aEXCLAMATION MARK;aQUOTATION MARK;aNUMBER SIGN;aDOLLAR SIGN;aPERCENT SIGN;aAMPERSAND;
  aAPOSTROPHE;aLEFT PARENTHESIS;aRIGHT PARENTHESIS;aASTERISK;aPLUS SIGN;aCOMMA;aHYPHEN-MINUS;
  aFULL STOP;aSOLIDUS;aDIGIT ZERO;bONE;bTWO;bTHREE;bFOUR;bFIVE;bSIX;bSEVEN;bEIGHT;bNINE;aCOLON;
  aSEMICOLON;aLESS-THAN SIGN;aEQUALS SIGN;aGREATER-THAN SIGN;aQUESTION MARK;aCOMMERCIAL AT;
  aLATIN CAPITAL LETTER A;dB;dC;dD;dE;dF;dG;dH;dI;dJ;dK;dL;dM;dN;dO;dP;dQ;dR;dS;dT;dU;dV;dW;dX;
  dY;dZ;aLEFT SQUARE BRACKET;aREVERSE SOLIDUS;aRIGHT SQUARE BRACKET;aCIRCUMFLEX ACCENT;aLOW LINE;
  aGRAVE ACCENT;aLATIN SMALL LETTER A;dB;dC;dD;dE;dF;dG;dH;dI;dJ;dK;dL;dM;dN;dO;dP;dQ;dR;dS;dT;
  dU;dV;dW;dX;dY;dZ;aLEFT CURLY BRACKET;aVERTICAL LINE;aRIGHT CURLY BRACKET;aTILDE;
  A0aNO-BREAK SPACE;aINVERTED EXCLAMATION MARK;aCENT SIGN;aPOUND SIGN;aCURRENCY SIGN;aYEN SIGN;
  aBROKEN BAR;aSECTION SIGN;aDIAERESIS;aCOPYRIGHT SIGN;aFEMININE ORDINAL INDICATOR;
  aLEFT-POINTING DOUBLE ANGLE QUOTATION MARK;aNOT SIGN;aSOFT HYPHEN;aREGISTERED SIGN;aMACRON;
  aDEGREE SIGN;aPLUS-MINUS SIGN;aSUPERSCRIPT TWO;bTHREE;aACUTE ACCENT;aMICRO SIGN;aPILCROW SIGN;
  aMIDDLE DOT;aCEDILLA;aSUPERSCRIPT ONE;aMASCULINE ORDINAL INDICATOR;
  aRIGHT-POINTING DOUBLE ANGLE QUOTATION MARK;aVULGAR FRACTION ONE QUARTER;dHALF;cTHREE QUARTERS;
  aINVERTED QUESTION MARK;aLATIN CAPITAL LETTER A WITH GRAVE;fACUTE;fCIRCUMFLEX;fTILDE;
  fDIAERESIS;fRING ABOVE;dAE;dC WITH CEDILLA;dE WITH GRAVE;fACUTE;fCIRCUMFLEX;fDIAERESIS;
  dI WITH GRAVE;fACUTE;fCIRCUMFLEX;fDIAERESIS;dETH;dN WITH TILDE;dO WITH GRAVE;fACUTE;
  fCIRCUMFLEX;fTILDE;fDIAERESIS;aMULTIPLICATION SIGN;aLATIN CAPITAL LETTER O WITH STROKE;
  dU WITH GRAVE;fACUTE;fCIRCUMFLEX;fDIAERESIS;dY WITH ACUTE;dTHORN;bSMALL LETTER SHARP S;
  dA WITH GRAVE;fACUTE;fCIRCUMFLEX;fTILDE;fDIAERESIS;fRING ABOVE;dAE;dC WITH CEDILLA;
  dE WITH GRAVE;fACUTE;fCIRCUMFLEX;fDIAERESIS;dI WITH GRAVE;fACUTE;fCIRCUMFLEX;fDIAERESIS;dETH;
  dN WITH TILDE;dO WITH GRAVE;fACUTE;fCIRCUMFLEX;fTILDE;fDIAERESIS;aDIVISION SIGN;
  aLATIN SMALL LETTER O WITH STROKE;dU WITH GRAVE;fACUTE;fCIRCUMFLEX;fDIAERESIS;dY WITH ACUTE;
  dTHORN;dY WITH DIAERESIS;bCAPITAL LETTER A WITH MACRON;bSMALL LETTER A WITH MACRON;
  bCAPITAL LETTER A WITH BREVE;bSMALL LETTER A WITH BREVE;bCAPITAL LETTER A WITH OGONEK;
  bSMALL LETTER A WITH OGONEK;bCAPITAL LETTER C WITH ACUTE;bSMALL LETTER C WITH ACUTE;
  bCAPITAL LETTER C WITH CIRCUMFLEX;bSMALL LETTER C WITH CIRCUMFLEX;
  bCAPITAL LETTER C WITH DOT ABOVE;bSMALL LETTER C WITH DOT ABOVE;bCAPITAL LETTER C WITH CARON;
  bSMALL LETTER C WITH CARON;bCAPITAL LETTER D WITH CARON;bSMALL LETTER D WITH CARON;
  bCAPITAL LETTER D WITH STROKE;bSMALL LETTER D WITH STROKE;bCAPITAL LETTER E WITH MACRON;
  bSMALL LETTER E WITH MACRON;bCAPITAL LETTER E WITH BREVE;bSMALL LETTER E WITH BREVE;
  bCAPITAL LETTER E WITH DOT ABOVE;bSMALL LETTER E WITH DOT ABOVE;bCAPITAL LETTER E WITH OGONEK;
  bSMALL LETTER E WITH OGONEK;bCAPITAL LETTER E WITH CARON;bSMALL LETTER E WITH CARON;
  bCAPITAL LETTER G WITH CIRCUMFLEX;bSMALL LETTER G WITH CIRCUMFLEX;bCAPITAL LETTER G WITH BREVE;
  bSMALL LETTER G WITH BREVE;bCAPITAL LETTER G WITH DOT ABOVE;bSMALL LETTER G WITH DOT ABOVE;
  bCAPITAL LETTER G WITH CEDILLA;bSMALL LETTER G WITH CEDILLA;bCAPITAL LETTER H WITH CIRCUMFLEX;
  bSMALL LETTER H WITH CIRCUMFLEX;bCAPITAL LETTER H WITH STROKE;bSMALL LETTER H WITH STROKE;
  bCAPITAL LETTER I WITH TILDE;bSMALL LETTER I WITH TILDE;bCAPITAL LETTER I WITH MACRON;
  bSMALL LETTER I WITH MACRON;bCAPITAL LETTER I WITH BREVE;bSMALL LETTER I WITH BREVE;
  bCAPITAL LETTER I WITH OGONEK;bSMALL LETTER I WITH OGONEK;bCAPITAL LETTER I WITH DOT ABOVE;
  bSMALL LETTER DOTLESS I;bCAPITAL LIGATURE IJ;bSMALL LIGATURE IJ;
  bCAPITAL LETTER J WITH CIRCUMFLEX;bSMALL LETTER J WITH CIRCUMFLEX;
  bCAPITAL LETTER K WITH CEDILLA;bSMALL LETTER K WITH CEDILLA;dKRA;bCAPITAL LETTER L WITH ACUTE;
  bSMALL LETTER L WITH ACUTE;bCAPITAL LETTER L WITH CEDILLA;bSMALL LETTER L WITH CEDILLA;
  bCAPITAL LETTER L WITH CARON;bSMALL LETTER L WITH CARON;bCAPITAL LETTER L WITH MIDDLE DOT;
  bSMALL LETTER L WITH MIDDLE DOT;bCAPITAL LETTER L WITH STROKE;bSMALL LETTER L WITH STROKE;
  bCAPITAL LETTER N WITH ACUTE;bSMALL LETTER N WITH ACUTE;bCAPITAL LETTER N WITH CEDILLA;
  bSMALL LETTER N WITH CEDILLA;bCAPITAL LETTER N WITH CARON;bSMALL LETTER N WITH CARON;
  ePRECEDED BY APOSTROPHE;bCAPITAL LETTER ENG;bSMALL LETTER ENG;bCAPITAL LETTER O WITH MACRON;
  bSMALL LETTER O WITH MACRON;bCAPITAL LETTER O WITH BREVE;bSMALL LETTER O WITH BREVE;
  bCAPITAL LETTER O WITH DOUBLE ACUTE;bSMALL LETTER O WITH DOUBLE ACUTE;bCAPITAL LIGATURE OE;
  bSMALL LIGATURE OE;bCAPITAL LETTER R WITH ACUTE;bSMALL LETTER R WITH ACUTE;
  bCAPITAL LETTER R WITH CEDILLA;bSMALL LETTER R WITH CEDILLA;bCAPITAL LETTER R WITH CARON;
  bSMALL LETTER R WITH CARON;bCAPITAL LETTER S WITH ACUTE;bSMALL LETTER S WITH ACUTE;
  bCAPITAL LETTER S WITH CIRCUMFLEX;bSMALL LETTER S WITH CIRCUMFLEX;
  bCAPITAL LETTER S WITH CEDILLA;bSMALL LETTER S WITH CEDILLA;bCAPITAL LETTER S WITH CARON;
  bSMALL LETTER S WITH CARON;bCAPITAL LETTER T WITH CEDILLA;bSMALL LETTER T WITH CEDILLA;
  bCAPITAL LETTER T WITH CARON;bSMALL LETTER T WITH CARON;bCAPITAL LETTER T WITH STROKE;
  bSMALL LETTER T WITH STROKE;bCAPITAL LETTER U WITH TILDE;bSMALL LETTER U WITH TILDE;
  bCAPITAL LETTER U WITH MACRON;bSMALL LETTER U WITH MACRON;bCAPITAL LETTER U WITH BREVE;
  bSMALL LETTER U WITH BREVE;bCAPITAL LETTER U WITH RING ABOVE;bSMALL LETTER U WITH RING ABOVE;
  bCAPITAL LETTER U WITH DOUBLE ACUTE;bSMALL LETTER U WITH DOUBLE ACUTE;
  bCAPITAL LETTER U WITH OGONEK;bSMALL LETTER U WITH OGONEK;bCAPITAL LETTER W WITH CIRCUMFLEX;
  bSMALL LETTER W WITH CIRCUMFLEX;bCAPITAL LETTER Y WITH CIRCUMFLEX;
  bSMALL LETTER Y WITH CIRCUMFLEX;bCAPITAL LETTER Y WITH DIAERESIS;dZ WITH ACUTE;
  bSMALL LETTER Z WITH ACUTE;bCAPITAL LETTER Z WITH DOT ABOVE;bSMALL LETTER Z WITH DOT ABOVE;
  bCAPITAL LETTER Z WITH CARON;bSMALL LETTER Z WITH CARON;dLONG S;dB WITH STROKE;
  bCAPITAL LETTER B WITH HOOK;fTOPBAR;bSMALL LETTER B WITH TOPBAR;bCAPITAL LETTER TONE SIX;
  bSMALL LETTER TONE SIX;bCAPITAL LETTER OPEN O;dC WITH HOOK;bSMALL LETTER C WITH HOOK;
  bCAPITAL LETTER AFRICAN D;dD WITH HOOK;fTOPBAR;bSMALL LETTER D WITH TOPBAR;dTURNED DELTA;
  bCAPITAL LETTER REVERSED E;dSCHWA;dOPEN E;dF WITH HOOK;bSMALL LETTER F WITH HOOK;
  bCAPITAL LETTER G WITH HOOK;dGAMMA;bSMALL LETTER HV;bCAPITAL LETTER IOTA;dI WITH STROKE;
  dK WITH HOOK;bSMALL LETTER K WITH HOOK;dL WITH BAR;dLAMBDA WITH STROKE;
  bCAPITAL LETTER TURNED M;dN WITH LEFT HOOK;bSMALL LETTER N WITH LONG RIGHT LEG;
  bCAPITAL LETTER O WITH MIDDLE TILDE;fHORN;bSMALL LETTER O WITH HORN;bCAPITAL LETTER OI;
  bSMALL LETTER OI;bCAPITAL LETTER P WITH HOOK;bSMALL LETTER P WITH HOOK;bLETTER YR;
  bCAPITAL LETTER TONE TWO;bSMALL LETTER TONE TWO;bCAPITAL LETTER ESH;bLETTER REVERSED ESH LOOP;
  bSMALL LETTER T WITH PALATAL HOOK;bCAPITAL LETTER T WITH HOOK;bSMALL LETTER T WITH HOOK;
  bCAPITAL LETTER T WITH RETROFLEX HOOK;dU WITH HORN;bSMALL LETTER U WITH HORN;
  bCAPITAL LETTER UPSILON;dV WITH HOOK;dY WITH HOOK;bSMALL LETTER Y WITH HOOK;
  bCAPITAL LETTER Z WITH STROKE;bSMALL LETTER Z WITH STROKE;bCAPITAL LETTER EZH;eREVERSED;
  bSMALL LETTER EZH REVERSED;eWITH TAIL;bLETTER TWO WITH STROKE;bCAPITAL LETTER TONE FIVE;
  bSMALL LETTER TONE FIVE;bLETTER INVERTED GLOTTAL STOP WITH STROKE;cWYNN;cDENTAL CLICK;
  cLATERAL CLICK;cALVEOLAR CLICK;cRETROFLEX CLICK;bCAPITAL LETTER DZ WITH CARON;
  dD WITH SMALL LETTER Z WITH CARON;bSMALL LETTER DZ WITH CARON;bCAPITAL LETTER LJ;
  dL WITH SMALL LETTER J;bSMALL LETTER LJ;bCAPITAL LETTER NJ;dN WITH SMALL LETTER J;
  bSMALL LETTER NJ;bCAPITAL LETTER A WITH CARON;bSMALL LETTER A WITH CARON;
  bCAPITAL LETTER I WITH CARON;bSMALL LETTER I WITH CARON;bCAPITAL LETTER O WITH CARON;
  bSMALL LETTER O WITH CARON;bCAPITAL LETTER U WITH CARON;bSMALL LETTER U WITH CARON;
  bCAPITAL LETTER U WITH DIAERESIS AND MACRON;bSMALL LETTER U WITH DIAERESIS AND MACRON;
  bCAPITAL LETTER U WITH DIAERESIS AND ACUTE;bSMALL LETTER U WITH DIAERESIS AND ACUTE;
  bCAPITAL LETTER U WITH DIAERESIS AND CARON;bSMALL LETTER U WITH DIAERESIS AND CARON;
  bCAPITAL LETTER U WITH DIAERESIS AND GRAVE;bSMALL LETTER U WITH DIAERESIS AND GRAVE;dTURNED E;
  bCAPITAL LETTER A WITH DIAERESIS AND MACRON;bSMALL LETTER A WITH DIAERESIS AND MACRON;
  bCAPITAL LETTER A WITH DOT ABOVE AND MACRON;bSMALL LETTER A WITH DOT ABOVE AND MACRON;
  bCAPITAL LETTER AE WITH MACRON;bSMALL LETTER AE WITH MACRON;bCAPITAL LETTER G WITH STROKE;
  bSMALL LETTER G WITH STROKE;bCAPITAL LETTER G WITH CARON;bSMALL LETTER G WITH CARON;
  bCAPITAL LETTER K WITH CARON;bSMALL LETTER K WITH CARON;bCAPITAL LETTER O WITH OGONEK;
  bSMALL LETTER O WITH OGONEK;bCAPITAL LETTER O WITH OGONEK AND MACRON;
  bSMALL LETTER O WITH OGONEK AND MACRON;bCAPITAL LETTER EZH WITH CARON;
  bSMALL LETTER EZH WITH CARON;dJ WITH CARON;bCAPITAL LETTER DZ;dD WITH SMALL LETTER Z;
  bSMALL LETTER DZ;bCAPITAL LETTER G WITH ACUTE;bSMALL LETTER G WITH ACUTE;bCAPITAL LETTER HWAIR;
  dWYNN;dN WITH GRAVE;bSMALL LETTER N WITH GRAVE;bCAPITAL LETTER A WITH RING ABOVE AND ACUTE;
  bSMALL LETTER A WITH RING ABOVE AND ACUTE;bCAPITAL LETTER AE WITH ACUTE;
  bSMALL LETTER AE WITH ACUTE;bCAPITAL LETTER O WITH STROKE AND ACUTE;
  bSMALL LETTER O WITH STROKE AND ACUTE;bCAPITAL LETTER A WITH DOUBLE GRAVE;
  bSMALL LETTER A WITH DOUBLE GRAVE;bCAPITAL LETTER A WITH INVERTED BREVE;
  bSMALL LETTER A WITH INVERTED BREVE;bCAPITAL LETTER E WITH DOUBLE GRAVE;
  bSMALL LETTER E WITH DOUBLE GRAVE;bCAPITAL LETTER E WITH INVERTED BREVE;
  bSMALL LETTER E WITH INVERTED BREVE;bCAPITAL LETTER I WITH DOUBLE GRAVE;
  bSMALL LETTER I WITH DOUBLE GRAVE;bCAPITAL LETTER I WITH INVERTED BREVE;
  bSMALL LETTER I WITH INVERTED BREVE;bCAPITAL LETTER O WITH DOUBLE GRAVE;
  bSMALL LETTER O WITH DOUBLE GRAVE;bCAPITAL LETTER O WITH INVERTED BREVE;
  bSMALL LETTER O WITH INVERTED BREVE;bCAPITAL LETTER R WITH DOUBLE GRAVE;
  bSMALL LETTER R WITH DOUBLE GRAVE;bCAPITAL LETTER R WITH INVERTED BREVE;
  bSMALL LETTER R WITH INVERTED BREVE;bCAPITAL LETTER U WITH DOUBLE GRAVE;
  bSMALL LETTER U WITH DOUBLE GRAVE;bCAPITAL LETTER U WITH INVERTED BREVE;
  bSMALL LETTER U WITH INVERTED BREVE;bCAPITAL LETTER S WITH COMMA BELOW;
  bSMALL LETTER S WITH COMMA BELOW;bCAPITAL LETTER T WITH COMMA BELOW;
  bSMALL LETTER T WITH COMMA BELOW;bCAPITAL LETTER YOGH;bSMALL LETTER YOGH;
  bCAPITAL LETTER H WITH CARON;bSMALL LETTER H WITH CARON;bCAPITAL LETTER N WITH LONG RIGHT LEG;
  bSMALL LETTER D WITH CURL;bCAPITAL LETTER OU;bSMALL LETTER OU;bCAPITAL LETTER Z WITH HOOK;
  bSMALL LETTER Z WITH HOOK;bCAPITAL LETTER A WITH DOT ABOVE;bSMALL LETTER A WITH DOT ABOVE;
  bCAPITAL LETTER E WITH CEDILLA;bSMALL LETTER E WITH CEDILLA;
  bCAPITAL LETTER O WITH DIAERESIS AND MACRON;bSMALL LETTER O WITH DIAERESIS AND MACRON;
  bCAPITAL LETTER O WITH TILDE AND MACRON;bSMALL LETTER O WITH TILDE AND MACRON;
  bCAPITAL LETTER O WITH DOT ABOVE;bSMALL LETTER O WITH DOT ABOVE;
  bCAPITAL LETTER O WITH DOT ABOVE AND MACRON;bSMALL LETTER O WITH DOT ABOVE AND MACRON;
  bCAPITAL LETTER Y WITH MACRON;bSMALL LETTER Y WITH MACRON;dL WITH CURL;dN WITH CURL;
  dT WITH CURL;dDOTLESS J;dDB DIGRAPH;dQP DIGRAPH;bCAPITAL LETTER A WITH STROKE;dC WITH STROKE;
  bSMALL LETTER C WITH STROKE;bCAPITAL LETTER L WITH BAR;dT WITH DIAGONAL STROKE;
  bSMALL LETTER S WITH SWASH TAIL;dZ WITH SWASH TAIL;bCAPITAL LETTER GLOTTAL STOP;
  bSMALL LETTER GLOTTAL STOP;bCAPITAL LETTER B WITH STROKE;dU BAR;dTURNED V;dE WITH STROKE;
  bSMALL LETTER E WITH STROKE;bCAPITAL LETTER J WITH STROKE;bSMALL LETTER J WITH STROKE;
  bCAPITAL LETTER SMALL Q WITH HOOK TAIL;bSMALL LETTER Q WITH HOOK TAIL;
  bCAPITAL LETTER R WITH STROKE;bSMALL LETTER R WITH STROKE;bCAPITAL LETTER Y WITH STROKE;
  bSMALL LETTER Y WITH STROKE;dTURNED A;dALPHA;dTURNED ALPHA;dB WITH HOOK;dOPEN O;dC WITH CURL;
  dD WITH TAIL;fHOOK;dREVERSED E;dSCHWA;eWITH HOOK;dOPEN E;dREVERSED OPEN E;gWITH HOOK;
  dCLOSED REVERSED OPEN E;dDOTLESS J WITH STROKE;dG WITH HOOK;dSCRIPT G;bLETTER SMALL CAPITAL G;
  bSMALL LETTER GAMMA;dRAMS HORN;dTURNED H;dH WITH HOOK;dHENG WITH HOOK;dI WITH STROKE;dIOTA;
  bLETTER SMALL CAPITAL I;bSMALL LETTER L WITH MIDDLE TILDE;fBELT;fRETROFLEX HOOK;dLEZH;
  dTURNED M;fWITH LONG LEG;dM WITH HOOK;dN WITH LEFT HOOK;fRETROFLEX HOOK;
  bLETTER SMALL CAPITAL N;bSMALL LETTER BARRED O;bLETTER SMALL CAPITAL OE;
  bSMALL LETTER CLOSED OMEGA;dPHI;dTURNED R;fWITH LONG LEG;gHOOK;dR WITH LONG LEG;fTAIL;
  fFISHHOOK;dREVERSED R WITH FISHHOOK;bLETTER SMALL CAPITAL R;eINVERTED R;
  bSMALL LETTER S WITH HOOK;dESH;dDOTLESS J WITH STROKE AND HOOK;dSQUAT REVERSED ESH;
  dESH WITH CURL;dTURNED T;dT WITH RETROFLEX HOOK;dU BAR;dUPSILON;dV WITH HOOK;dTURNED V;eW;eY;
  bLETTER SMALL CAPITAL Y;bSMALL LETTER Z WITH RETROFLEX HOOK;fCURL;dEZH;eWITH CURL;
  bLETTER GLOTTAL STOP;cPHARYNGEAL VOICED FRICATIVE;cINVERTED GLOTTAL STOP;cSTRETCHED C;
  cBILABIAL CLICK;cSMALL CAPITAL B;bSMALL LETTER CLOSED OPEN E;bLETTER SMALL CAPITAL G WITH HOOK;
  eH;bSMALL LETTER J WITH CROSSED-TAIL;dTURNED K;bLETTER SMALL CAPITAL L;
  bSMALL LETTER Q WITH HOOK;bLETTER GLOTTAL STOP WITH STROKE;cREVERSED GLOTTAL STOP WITH STROKE;
  bSMALL LETTER DZ DIGRAPH;dDEZH DIGRAPH;dDZ DIGRAPH WITH CURL;dTS DIGRAPH;dTESH DIGRAPH;
  dTC DIGRAPH WITH CURL;dFENG DIGRAPH;dLS DIGRAPH;dLZ DIGRAPH;bLETTER BILABIAL PERCUSSIVE;
  cBIDENTAL PERCUSSIVE;bSMALL LETTER TURNED H WITH FISHHOOK;hAND TAIL;aMODIFIER LETTER SMALL H;
  eWITH HOOK;dJ;dR;dTURNED R;fWITH HOOK;dCAPITAL INVERTED R;dW;dY;cPRIME;cDOUBLE PRIME;
  cTURNED COMMA;cAPOSTROPHE;cREVERSED COMMA;cRIGHT HALF RING;cLEFT HALF RING;cGLOTTAL STOP;
  cREVERSED GLOTTAL STOP;cLEFT ARROWHEAD;cRIGHT ARROWHEAD;cUP ARROWHEAD;cDOWN ARROWHEAD;
  cCIRCUMFLEX ACCENT;aCARON;aMODIFIER LETTER VERTICAL LINE;cMACRON;cACUTE ACCENT;cGRAVE ACCENT;
  cLOW VERTICAL LINE;dMACRON;dGRAVE ACCENT;dACUTE ACCENT;cTRIANGULAR COLON;
  cHALF TRIANGULAR COLON;cCENTRED RIGHT HALF RING;dLEFT HALF RING;cUP TACK;cDOWN TACK;cPLUS SIGN;
  cMINUS SIGN;aBREVE;aDOT ABOVE;aRING ABOVE;aOGONEK;aSMALL TILDE;aDOUBLE ACUTE ACCENT;
  aMODIFIER LETTER RHOTIC HOOK;cCROSS ACCENT;cSMALL GAMMA;dL;dS;dX;dREVERSED GLOTTAL STOP;
  cEXTRA-HIGH TONE BAR;cHIGH TONE BAR;cMID TONE BAR;cLOW TONE BAR;cEXTRA-LOW TONE BAR;
  cYIN DEPARTING TONE MARK;cYANG DEPARTING TONE MARK;cVOICING;cUNASPIRATED;cDOUBLE APOSTROPHE;
  cLOW DOWN ARROWHEAD;dUP ARROWHEAD;dLEFT ARROWHEAD;dRIGHT ARROWHEAD;dRING;cMIDDLE GRAVE ACCENT;
  dDOUBLE GRAVE ACCENT;eACUTE ACCENT;cLOW TILDE;cRAISED COLON;cBEGIN HIGH TONE;cEND HIGH TONE;
  cBEGIN LOW TONE;cEND LOW TONE;cSHELF;cOPEN SHELF;cLOW LEFT ARROW;aCOMBINING GRAVE ACCENT;
  bACUTE ACCENT;bCIRCUMFLEX ACCENT;bTILDE;bMACRON;bOVERLINE;bBREVE;bDOT ABOVE;bDIAERESIS;
  bHOOK ABOVE;bRING ABOVE;bDOUBLE ACUTE ACCENT;bCARON;bVERTICAL LINE ABOVE;
  bDOUBLE VERTICAL LINE ABOVE;cGRAVE ACCENT;bCANDRABINDU;bINVERTED BREVE;bTURNED COMMA ABOVE;
  bCOMMA ABOVE;bREVERSED COMMA ABOVE;bCOMMA ABOVE RIGHT;bGRAVE ACCENT BELOW;bACUTE ACCENT BELOW;
  bLEFT TACK BELOW;bRIGHT TACK BELOW;bLEFT ANGLE ABOVE;bHORN;bLEFT HALF RING BELOW;
  bUP TACK BELOW;bDOWN TACK BELOW;bPLUS SIGN BELOW;bMINUS SIGN BELOW;bPALATALIZED HOOK BELOW;
  bRETROFLEX HOOK BELOW;bDOT BELOW;bDIAERESIS BELOW;bRING BELOW;bCOMMA BELOW;bCEDILLA;bOGONEK;
  bVERTICAL LINE BELOW;bBRIDGE BELOW;bINVERTED DOUBLE ARCH BELOW;bCARON BELOW;
  bCIRCUMFLEX ACCENT BELOW;bBREVE BELOW;bINVERTED BREVE BELOW;bTILDE BELOW;bMACRON BELOW;
  bLOW LINE;bDOUBLE LOW LINE;bTILDE OVERLAY;bSHORT STROKE OVERLAY;bLONG STROKE OVERLAY;
  bSHORT SOLIDUS OVERLAY;bLONG SOLIDUS OVERLAY;bRIGHT HALF RING BELOW;bINVERTED BRIDGE BELOW;
  bSQUARE BELOW;bSEAGULL BELOW;bX ABOVE;bVERTICAL TILDE;bDOUBLE OVERLINE;bGRAVE TONE MARK;
  bACUTE TONE MARK;bGREEK PERISPOMENI;cKORONIS;cDIALYTIKA TONOS;cYPOGEGRAMMENI;bBRIDGE ABOVE;
  bEQUALS SIGN BELOW;bDOUBLE VERTICAL LINE BELOW;bLEFT ANGLE BELOW;bNOT TILDE ABOVE;
  bHOMOTHETIC ABOVE;bALMOST EQUAL TO ABOVE;bLEFT RIGHT ARROW BELOW;bUPWARDS ARROW BELOW;
  bGRAPHEME JOINER;bRIGHT ARROWHEAD ABOVE;bLEFT HALF RING ABOVE;bFERMATA;bX BELOW;
  bLEFT ARROWHEAD BELOW;bRIGHT ARROWHEAD BELOW;dAND UP ARROWHEAD BELOW;cHALF RING ABOVE;
  bDOT ABOVE RIGHT;bASTERISK BELOW;bDOUBLE RING BELOW;bZIGZAG ABOVE;bDOUBLE BREVE BELOW;cBREVE;
  cMACRON;dBELOW;cTILDE;cINVERTED BREVE;cRIGHTWARDS ARROW BELOW;bLATIN SMALL LETTER A;eE;eI;eO;
  eU;eC;eD;eH;eM;eR;eT;eV;eX;aGREEK CAPITAL LETTER HETA;bSMALL LETTER HETA;
  bCAPITAL LETTER ARCHAIC SAMPI;bSMALL LETTER ARCHAIC SAMPI;bNUMERAL SIGN;bLOWER NUMERAL SIGN;
  bCAPITAL LETTER PAMPHYLIAN DIGAMMA;bSMALL LETTER PAMPHYLIAN DIGAMMA;37AbYPOGEGRAMMENI;
  bSMALL REVERSED LUNATE SIGMA SYMBOL;cDOTTED LUNATE SIGMA SYMBOL;
  cREVERSED DOTTED LUNATE SIGMA SYMBOL;bQUESTION MARK;bCAPITAL LETTER YOT;384bTONOS;
  bDIALYTIKA TONOS;bCAPITAL LETTER ALPHA WITH TONOS;bANO TELEIA;
  bCAPITAL LETTER EPSILON WITH TONOS;dETA WITH TONOS;dIOTA WITH TONOS;38CdOMICRON WITH TONOS;
  38EdUPSILON WITH TONOS;dOMEGA WITH TONOS;bSMALL LETTER IOTA WITH DIALYTIKA AND TONOS;
  bCAPITAL LETTER ALPHA;dBETA;dGAMMA;dDELTA;dEPSILON;dZETA;dETA;dTHETA;dIOTA;dKAPPA;dLAMDA;dMU;
  dNU;dXI;dOMICRON;dPI;dRHO;3A3dSIGMA;dTAU;dUPSILON;dPHI;dCHI;dPSI;dOMEGA;dIOTA WITH DIALYTIKA;
  dUPSILON WITH DIALYTIKA;bSMALL LETTER ALPHA WITH TONOS;dEPSILON WITH TONOS;dETA WITH TONOS;
  dIOTA WITH TONOS;dUPSILON WITH DIALYTIKA AND TONOS;dALPHA;dBETA;dGAMMA;dDELTA;dEPSILON;dZETA;
  dETA;dTHETA;dIOTA;dKAPPA;dLAMDA;dMU;dNU;dXI;dOMICRON;dPI;dRHO;dFINAL SIGMA;dSIGMA;dTAU;
  dUPSILON;dPHI;dCHI;dPSI;dOMEGA;dIOTA WITH DIALYTIKA;dUPSILON WITH DIALYTIKA;
  dOMICRON WITH TONOS;dUPSILON WITH TONOS;dOMEGA WITH TONOS;bCAPITAL KAI SYMBOL;bBETA SYMBOL;
  bTHETA SYMBOL;bUPSILON WITH HOOK SYMBOL;dACUTE AND HOOK SYMBOL;dDIAERESIS AND HOOK SYMBOL;
  bPHI SYMBOL;bPI SYMBOL;bKAI SYMBOL;bLETTER ARCHAIC KOPPA;bSMALL LETTER ARCHAIC KOPPA;
  bLETTER STIGMA;bSMALL LETTER STIGMA;bLETTER DIGAMMA;bSMALL LETTER DIGAMMA;bLETTER KOPPA;
  bSMALL LETTER KOPPA;bLETTER SAMPI;bSMALL LETTER SAMPI;aCOPTIC CAPITAL LETTER SHEI;
  bSMALL LETTER SHEI;bCAPITAL LETTER FEI;bSMALL LETTER FEI;bCAPITAL LETTER KHEI;
  bSMALL LETTER KHEI;bCAPITAL LETTER HORI;bSMALL LETTER HORI;bCAPITAL LETTER GANGIA;
  bSMALL LETTER GANGIA;bCAPITAL LETTER SHIMA;bSMALL LETTER SHIMA;bCAPITAL LETTER DEI;
  bSMALL LETTER DEI;aGREEK KAPPA SYMBOL;bRHO SYMBOL;bLUNATE SIGMA SYMBOL;bLETTER YOT;
  bCAPITAL THETA SYMBOL;bLUNATE EPSILON SYMBOL;bREVERSED LUNATE EPSILON SYMBOL;
  bCAPITAL LETTER SHO;bSMALL LETTER SHO;bCAPITAL LUNATE SIGMA SYMBOL;cLETTER SAN;
  bSMALL LETTER SAN;bRHO WITH STROKE SYMBOL;bCAPITAL REVERSED LUNATE SIGMA SYMBOL;
  cDOTTED LUNATE SIGMA SYMBOL;cREVERSED DOTTED LUNATE SIGMA SYMBOL;
  aCYRILLIC CAPITAL LETTER IE WITH GRAVE;dIO;dDJE;dGJE;dUKRAINIAN IE;dDZE;
  dBYELORUSSIAN-UKRAINIAN I;dYI;dJE;dLJE;dNJE;dTSHE;dKJE;dI WITH GRAVE;dSHORT U;dDZHE;dA;dBE;dVE;
  dGHE;dDE;dIE;dZHE;dZE;dI;dSHORT I;dKA;dEL;dEM;dEN;dO;dPE;dER;dES;dTE;dU;dEF;dHA;dTSE;dCHE;dSHA;
  dSHCHA;dHARD SIGN;dYERU;dSOFT SIGN;dE;dYU;dYA;bSMALL LETTER A;dBE;dVE;dGHE;dDE;dIE;dZHE;dZE;dI;
  dSHORT I;dKA;dEL;dEM;dEN;dO;dPE;dER;dES;dTE;dU;dEF;dHA;dTSE;dCHE;dSHA;dSHCHA;dHARD SIGN;dYERU;
  dSOFT SIGN;dE;dYU;dYA;dIE WITH GRAVE;dIO;dDJE;dGJE;dUKRAINIAN IE;dDZE;
  dBYELORUSSIAN-UKRAINIAN I;dYI;dJE;dLJE;dNJE;dTSHE;dKJE;dI WITH GRAVE;dSHORT U;dDZHE;
  bCAPITAL LETTER OMEGA;bSMALL LETTER OMEGA;bCAPITAL LETTER YAT;bSMALL LETTER YAT;
  bCAPITAL LETTER IOTIFIED E;bSMALL LETTER IOTIFIED E;bCAPITAL LETTER LITTLE YUS;
  bSMALL LETTER LITTLE YUS;bCAPITAL LETTER IOTIFIED LITTLE YUS;bSMALL LETTER IOTIFIED LITTLE YUS;
  bCAPITAL LETTER BIG YUS;bSMALL LETTER BIG YUS;bCAPITAL LETTER IOTIFIED BIG YUS;
  bSMALL LETTER IOTIFIED BIG YUS;bCAPITAL LETTER KSI;bSMALL LETTER KSI;bCAPITAL LETTER PSI;
  bSMALL LETTER PSI;bCAPITAL LETTER FITA;bSMALL LETTER FITA;bCAPITAL LETTER IZHITSA;
  bSMALL LETTER IZHITSA;bCAPITAL LETTER IZHITSA WITH DOUBLE GRAVE ACCENT;
  bSMALL LETTER IZHITSA WITH DOUBLE GRAVE ACCENT;bCAPITAL LETTER UK;bSMALL LETTER UK;
  bCAPITAL LETTER ROUND OMEGA;bSMALL LETTER ROUND OMEGA;bCAPITAL LETTER OMEGA WITH TITLO;
  bSMALL LETTER OMEGA WITH TITLO;bCAPITAL LETTER OT;bSMALL LETTER OT;bCAPITAL LETTER KOPPA;
  bSMALL LETTER KOPPA;bTHOUSANDS SIGN;aCOMBINING CYRILLIC TITLO;cPALATALIZATION;cDASIA PNEUMATA;
  cPSILI PNEUMATA;cPOKRYTIE;cHUNDRED THOUSANDS SIGN;cMILLIONS SIGN;
  aCYRILLIC CAPITAL LETTER SHORT I WITH TAIL;bSMALL LETTER SHORT I WITH TAIL;
  bCAPITAL LETTER SEMISOFT SIGN;bSMALL LETTER SEMISOFT SIGN;bCAPITAL LETTER ER WITH TICK;
  bSMALL LETTER ER WITH TICK;bCAPITAL LETTER GHE WITH UPTURN;bSMALL LETTER GHE WITH UPTURN;
  bCAPITAL LETTER GHE WITH STROKE;bSMALL LETTER GHE WITH STROKE;
  bCAPITAL LETTER GHE WITH MIDDLE HOOK;bSMALL LETTER GHE WITH MIDDLE HOOK;
  bCAPITAL LETTER ZHE WITH DESCENDER;bSMALL LETTER ZHE WITH DESCENDER;
  bCAPITAL LETTER ZE WITH DESCENDER;bSMALL LETTER ZE WITH DESCENDER;
  bCAPITAL LETTER KA WITH DESCENDER;bSMALL LETTER KA WITH DESCENDER;
  bCAPITAL LETTER KA WITH VERTICAL STROKE;bSMALL LETTER KA WITH VERTICAL STROKE;
  bCAPITAL LETTER KA WITH STROKE;bSMALL LETTER KA WITH STROKE;bCAPITAL LETTER BASHKIR KA;
  bSMALL LETTER BASHKIR KA;bCAPITAL LETTER EN WITH DESCENDER;bSMALL LETTER EN WITH DESCENDER;
  bCAPITAL LIGATURE EN GHE;bSMALL LIGATURE EN GHE;bCAPITAL LETTER PE WITH MIDDLE HOOK;
  bSMALL LETTER PE WITH MIDDLE HOOK;bCAPITAL LETTER ABKHASIAN HA;bSMALL LETTER ABKHASIAN HA;
  bCAPITAL LETTER ES WITH DESCENDER;bSMALL LETTER ES WITH DESCENDER;
  bCAPITAL LETTER TE WITH DESCENDER;bSMALL LETTER TE WITH DESCENDER;bCAPITAL LETTER STRAIGHT U;
  bSMALL LETTER STRAIGHT U;bCAPITAL LETTER STRAIGHT U WITH STROKE;
  bSMALL LETTER STRAIGHT U WITH STROKE;bCAPITAL LETTER HA WITH DESCENDER;
  bSMALL LETTER HA WITH DESCENDER;bCAPITAL LIGATURE TE TSE;bSMALL LIGATURE TE TSE;
  bCAPITAL LETTER CHE WITH DESCENDER;bSMALL LETTER CHE WITH DESCENDER;
  bCAPITAL LETTER CHE WITH VERTICAL STROKE;bSMALL LETTER CHE WITH VERTICAL STROKE;
  bCAPITAL LETTER SHHA;bSMALL LETTER SHHA;bCAPITAL LETTER ABKHASIAN CHE;
  bSMALL LETTER ABKHASIAN CHE;bCAPITAL LETTER ABKHASIAN CHE WITH DESCENDER;
  bSMALL LETTER ABKHASIAN CHE WITH DESCENDER;bLETTER PALOCHKA;bCAPITAL LETTER ZHE WITH BREVE;
  bSMALL LETTER ZHE WITH BREVE;bCAPITAL LETTER KA WITH HOOK;bSMALL LETTER KA WITH HOOK;
  bCAPITAL LETTER EL WITH TAIL;bSMALL LETTER EL WITH TAIL;bCAPITAL LETTER EN WITH HOOK;
  bSMALL LETTER EN WITH HOOK;bCAPITAL LETTER EN WITH TAIL;bSMALL LETTER EN WITH TAIL;
  bCAPITAL LETTER KHAKASSIAN CHE;bSMALL LETTER KHAKASSIAN CHE;bCAPITAL LETTER EM WITH TAIL;
  bSMALL LETTER EM WITH TAIL;dPALOCHKA;bCAPITAL LETTER A WITH BREVE;bSMALL LETTER A WITH BREVE;
  bCAPITAL LETTER A WITH DIAERESIS;bSMALL LETTER A WITH DIAERESIS;bCAPITAL LIGATURE A IE;
  bSMALL LIGATURE A IE;bCAPITAL LETTER IE WITH BREVE;bSMALL LETTER IE WITH BREVE;
  bCAPITAL LETTER SCHWA;bSMALL LETTER SCHWA;bCAPITAL LETTER SCHWA WITH DIAERESIS;
  bSMALL LETTER SCHWA WITH DIAERESIS;bCAPITAL LETTER ZHE WITH DIAERESIS;
  bSMALL LETTER ZHE WITH DIAERESIS;bCAPITAL LETTER ZE WITH DIAERESIS;
  bSMALL LETTER ZE WITH DIAERESIS;bCAPITAL LETTER ABKHASIAN DZE;bSMALL LETTER ABKHASIAN DZE;
  bCAPITAL LETTER I WITH MACRON;bSMALL LETTER I WITH MACRON;bCAPITAL LETTER I WITH DIAERESIS;
  bSMALL LETTER I WITH DIAERESIS;bCAPITAL LETTER O WITH DIAERESIS;bSMALL LETTER O WITH DIAERESIS;
  bCAPITAL LETTER BARRED O;bSMALL LETTER BARRED O;bCAPITAL LETTER BARRED O WITH DIAERESIS;
  bSMALL LETTER BARRED O WITH DIAERESIS;bCAPITAL LETTER E WITH DIAERESIS;
  bSMALL LETTER E WITH DIAERESIS;bCAPITAL LETTER U WITH MACRON;bSMALL LETTER U WITH MACRON;
  bCAPITAL LETTER U WITH DIAERESIS;bSMALL LETTER U WITH DIAERESIS;
  bCAPITAL LETTER U WITH DOUBLE ACUTE;bSMALL LETTER U WITH DOUBLE ACUTE;
  bCAPITAL LETTER CHE WITH DIAERESIS;bSMALL LETTER CHE WITH DIAERESIS;
  bCAPITAL LETTER GHE WITH DESCENDER;bSMALL LETTER GHE WITH DESCENDER;
  bCAPITAL LETTER YERU WITH DIAERESIS;bSMALL LETTER YERU WITH DIAERESIS;
  bCAPITAL LETTER GHE WITH STROKE AND HOOK;bSMALL LETTER GHE WITH STROKE AND HOOK;
  bCAPITAL LETTER HA WITH HOOK;bSMALL LETTER HA WITH HOOK;bCAPITAL LETTER HA WITH STROKE;
  bSMALL LETTER HA WITH STROKE;bCAPITAL LETTER KOMI DE;bSMALL LETTER KOMI DE;
  bCAPITAL LETTER KOMI DJE;bSMALL LETTER KOMI DJE;bCAPITAL LETTER KOMI ZJE;
  bSMALL LETTER KOMI ZJE;bCAPITAL LETTER KOMI DZJE;bSMALL LETTER KOMI DZJE;
  bCAPITAL LETTER KOMI LJE;bSMALL LETTER KOMI LJE;bCAPITAL LETTER KOMI NJE;
  bSMALL LETTER KOMI NJE;bCAPITAL LETTER KOMI SJE;bSMALL LETTER KOMI SJE;
  bCAPITAL LETTER KOMI TJE;bSMALL LETTER KOMI TJE;bCAPITAL LETTER REVERSED ZE;
  bSMALL LETTER REVERSED ZE;bCAPITAL LETTER EL WITH HOOK;bSMALL LETTER EL WITH HOOK;
  bCAPITAL LETTER LHA;bSMALL LETTER LHA;bCAPITAL LETTER RHA;bSMALL LETTER RHA;
  bCAPITAL LETTER YAE;bSMALL LETTER YAE;bCAPITAL LETTER QA;bSMALL LETTER QA;bCAPITAL LETTER WE;
  bSMALL LETTER WE;bCAPITAL LETTER ALEUT KA;bSMALL LETTER ALEUT KA;
  bCAPITAL LETTER EL WITH MIDDLE HOOK;bSMALL LETTER EL WITH MIDDLE HOOK;
  bCAPITAL LETTER EN WITH MIDDLE HOOK;bSMALL LETTER EN WITH MIDDLE HOOK;
  bCAPITAL LETTER PE WITH DESCENDER;bSMALL LETTER PE WITH DESCENDER;
  bCAPITAL LETTER SHHA WITH DESCENDER;bSMALL LETTER SHHA WITH DESCENDER;
  bCAPITAL LETTER EN WITH LEFT HOOK;bSMALL LETTER EN WITH LEFT HOOK;bCAPITAL LETTER DZZHE;
  bSMALL LETTER DZZHE;bCAPITAL LETTER DCHE;bSMALL LETTER DCHE;bCAPITAL LETTER EL WITH DESCENDER;
  bSMALL LETTER EL WITH DESCENDER;531aARMENIAN CAPITAL LETTER AYB;dBEN;dGIM;dDA;dECH;dZA;dEH;dET;
  dTO;dZHE;dINI;dLIWN;dXEH;dCA;dKEN;dHO;dJA;dGHAD;dCHEH;dMEN;dYI;dNOW;dSHA;dVO;dCHA;dPEH;dJHEH;
  dRA;dSEH;dVEW;dTIWN;dREH;dCO;dYIWN;dPIWR;dKEH;dOH;dFEH;559bMODIFIER LETTER LEFT HALF RING;
  bAPOSTROPHE;bEMPHASIS MARK;bEXCLAMATION MARK;bCOMMA;bQUESTION MARK;bABBREVIATION MARK;
  bSMALL LETTER TURNED AYB;dAYB;dBEN;dGIM;dDA;dECH;dZA;dEH;dET;dTO;dZHE;dINI;dLIWN;dXEH;dCA;dKEN;
  dHO;dJA;dGHAD;dCHEH;dMEN;dYI;dNOW;dSHA;dVO;dCHA;dPEH;dJHEH;dRA;dSEH;dVEW;dTIWN;dREH;dCO;dYIWN;
  dPIWR;dKEH;dOH;dFEH;cLIGATURE ECH YIWN;cLETTER YI WITH STROKE;bFULL STOP;bHYPHEN;
  58DaRIGHT-FACING ARMENIAN ETERNITY SIGN;aLEFT-FACING ARMENIAN ETERNITY SIGN;
  aARMENIAN DRAM SIGN;591aHEBREW ACCENT ETNAHTA;cSEGOL;cSHALSHELET;cZAQEF QATAN;dGADOL;cTIPEHA;
  cREVIA;cZARQA;cPASHTA;cYETIV;cTEVIR;cGERESH;dMUQDAM;cGERSHAYIM;cQARNEY PARA;cTELISHA GEDOLA;
  cPAZER;cATNAH HAFUKH;cMUNAH;cMAHAPAKH;cMERKHA;dKEFULA;cDARGA;cQADMA;cTELISHA QETANA;
  cYERAH BEN YOMO;cOLE;cILUY;cDEHI;cZINOR;bMARK MASORA CIRCLE;bPOINT SHEVA;cHATAF SEGOL;dPATAH;
  dQAMATS;cHIRIQ;cTSERE;cSEGOL;cPATAH;cQAMATS;cHOLAM;dHASER FOR VAV;cQUBUTS;cDAGESH OR MAPIQ;
  cMETEG;bPUNCTUATION MAQAF;bPOINT RAFE;bPUNCTUATION PASEQ;bPOINT SHIN DOT;cSIN DOT;
  bPUNCTUATION SOF PASUQ;bMARK UPPER DOT;cLOWER DOT;bPUNCTUATION NUN HAFUKHA;bPOINT QAMATS QATAN;
  5D0bLETTER ALEF;cBET;cGIMEL;cDALET;cHE;cVAV;cZAYIN;cHET;cTET;cYOD;cFINAL KAF;cKAF;cLAMED;
  cFINAL MEM;cMEM;cFINAL NUN;cNUN;cSAMEKH;cAYIN;cFINAL PE;cPE;cFINAL TSADI;cTSADI;cQOF;cRESH;
  cSHIN;cTAV;5EFbYOD TRIANGLE;bLIGATURE YIDDISH DOUBLE VAV;dVAV YOD;dDOUBLE YOD;
  bPUNCTUATION GERESH;cGERSHAYIM;600aARABIC NUMBER SIGN;bSIGN SANAH;bFOOTNOTE MARKER;bSIGN SAFHA;
  cSAMVAT;bNUMBER MARK ABOVE;aARABIC-INDIC CUBE ROOT;bFOURTH ROOT;aARABIC RAY;
  aARABIC-INDIC PER MILLE SIGN;cTEN THOUSAND SIGN;aAFGHANI SIGN;aARABIC COMMA;bDATE SEPARATOR;
  bPOETIC VERSE SIGN;bSIGN MISRA;cSALLALLAHOU ALAYHE WASSALLAM;cALAYHE ASSALLAM;
  cRAHMATULLAH ALAYHE;cRADI ALLAHOU ANHU;cTAKHALLUS;bSMALL HIGH TAH;
  dLIGATURE ALEF WITH LAM WITH YEH;dZAIN;cFATHA;cDAMMA;cKASRA;bSEMICOLON;bLETTER MARK;
  bEND OF TEXT MARK;bTRIPLE DOT PUNCTUATION MARK;bQUESTION MARK;bLETTER KASHMIRI YEH;cHAMZA;
  cALEF WITH MADDA ABOVE;eHAMZA ABOVE;cWAW WITH HAMZA ABOVE;cALEF WITH HAMZA BELOW;
  cYEH WITH HAMZA ABOVE;cALEF;cBEH;cTEH MARBUTA;cTEH;cTHEH;cJEEM;cHAH;cKHAH;cDAL;cTHAL;cREH;
  cZAIN;cSEEN;cSHEEN;cSAD;cDAD;cTAH;cZAH;cAIN;cGHAIN;cKEHEH WITH TWO DOTS ABOVE;
  eTHREE DOTS BELOW;cFARSI YEH WITH INVERTED V;fTWO DOTS ABOVE;fTHREE DOTS ABOVE;bTATWEEL;
  bLETTER FEH;cQAF;cKAF;cLAM;cMEEM;cNOON;cHEH;cWAW;cALEF MAKSURA;cYEH;bFATHATAN;bDAMMATAN;
  bKASRATAN;bFATHA;bDAMMA;bKASRA;bSHADDA;bSUKUN;bMADDAH ABOVE;bHAMZA ABOVE;cBELOW;
  bSUBSCRIPT ALEF;bINVERTED DAMMA;bMARK NOON GHUNNA;bZWARAKAY;bVOWEL SIGN SMALL V ABOVE;
  dINVERTED SMALL V ABOVE;dDOT BELOW;bREVERSED DAMMA;bFATHA WITH TWO DOTS;bWAVY HAMZA BELOW;
  aARABIC-INDIC DIGIT ZERO;cONE;cTWO;cTHREE;cFOUR;cFIVE;cSIX;cSEVEN;cEIGHT;cNINE;
  aARABIC PERCENT SIGN;bDECIMAL SEPARATOR;bTHOUSANDS SEPARATOR;bFIVE POINTED STAR;
  bLETTER DOTLESS BEH;dQAF;cSUPERSCRIPT ALEF;cALEF WASLA;dWITH WAVY HAMZA ABOVE;gBELOW;
  cHIGH HAMZA;eALEF;eWAW;cU WITH HAMZA ABOVE;cHIGH HAMZA YEH;cTTEH;cTTEHEH;cBEEH;cTEH WITH RING;
  eTHREE DOTS ABOVE DOWNWARDS;cPEH;cTEHEH;cBEHEH;cHAH WITH HAMZA ABOVE;eTWO DOTS VERTICAL ABOVE;
  cNYEH;cDYEH;cHAH WITH THREE DOTS ABOVE;cTCHEH;cTCHEHEH;cDDAL;cDAL WITH RING;eDOT BELOW;
  gAND SMALL TAH;cDAHAL;cDDAHAL;cDUL;cDAL WITH THREE DOTS ABOVE DOWNWARDS;eFOUR DOTS ABOVE;cRREH;
  cREH WITH SMALL V;eRING;eDOT BELOW;eSMALL V BELOW;eDOT BELOW AND DOT ABOVE;eTWO DOTS ABOVE;
  cJEH;cREH WITH FOUR DOTS ABOVE;cSEEN WITH DOT BELOW AND DOT ABOVE;eTHREE DOTS BELOW;
  hAND THREE DOTS ABOVE;cSAD WITH TWO DOTS BELOW;eTHREE DOTS ABOVE;cTAH WITH THREE DOTS ABOVE;
  cAIN WITH THREE DOTS ABOVE;cDOTLESS FEH;cFEH WITH DOT MOVED BELOW;fBELOW;cVEH;
  cFEH WITH THREE DOTS BELOW;cPEHEH;cQAF WITH DOT ABOVE;eTHREE DOTS ABOVE;cKEHEH;cSWASH KAF;
  cKAF WITH RING;eDOT ABOVE;cNG;cKAF WITH THREE DOTS BELOW;cGAF;dWITH RING;cNGOEH;
  cGAF WITH TWO DOTS BELOW;cGUEH;cGAF WITH THREE DOTS ABOVE;cLAM WITH SMALL V;eDOT ABOVE;
  eTHREE DOTS ABOVE;gBELOW;cNOON WITH DOT BELOW;dGHUNNA;cRNOON;cNOON WITH RING;eTHREE DOTS ABOVE;
  cHEH DOACHASHMEE;cTCHEH WITH DOT ABOVE;cHEH WITH YEH ABOVE;dGOAL;eWITH HAMZA ABOVE;
  cTEH MARBUTA GOAL;cWAW WITH RING;cKIRGHIZ OE;cOE;cU;cYU;cKIRGHIZ YU;cWAW WITH TWO DOTS ABOVE;
  cVE;cFARSI YEH;cYEH WITH TAIL;eSMALL V;cWAW WITH DOT ABOVE;cE;cYEH WITH THREE DOTS BELOW;
  dBARREE;eWITH HAMZA ABOVE;bFULL STOP;bLETTER AE;
  bSMALL HIGH LIGATURE SAD WITH LAM WITH ALEF MAKSURA;eQAF WITH LAM WITH ALEF MAKSURA;
  dMEEM INITIAL FORM;dLAM ALEF;dJEEM;dTHREE DOTS;dSEEN;bEND OF AYAH;bSTART OF RUB EL HIZB;
  bSMALL HIGH ROUNDED ZERO;dUPRIGHT RECTANGULAR ZERO;dDOTLESS HEAD OF KHAH;dMEEM ISOLATED FORM;
  cLOW SEEN;cHIGH MADDA;cWAW;cYEH;cHIGH YEH;dNOON;bPLACE OF SAJDAH;bEMPTY CENTRE LOW STOP;
  dHIGH STOP;bROUNDED HIGH STOP WITH FILLED CENTRE;bSMALL LOW MEEM;bLETTER DAL WITH INVERTED V;
  cREH WITH INVERTED V;aEXTENDED ARABIC-INDIC DIGIT ZERO;dONE;dTWO;dTHREE;dFOUR;dFIVE;dSIX;
  dSEVEN;dEIGHT;dNINE;aARABIC LETTER SHEEN WITH DOT BELOW;cDAD WITH DOT BELOW;
  cGHAIN WITH DOT BELOW;bSIGN SINDHI AMPERSAND;dPOSTPOSITION MEN;bLETTER HEH WITH INVERTED V;
  aSYRIAC END OF PARAGRAPH;bSUPRALINEAR FULL STOP;bSUBLINEAR FULL STOP;bSUPRALINEAR COLON;
  bSUBLINEAR COLON;bHORIZONTAL COLON;bCOLON SKEWED LEFT;dRIGHT;bSUPRALINEAR COLON SKEWED LEFT;
  bSUBLINEAR COLON SKEWED RIGHT;bCONTRACTION;bHARKLEAN OBELUS;cMETOBELUS;cASTERISCUS;
  70FbABBREVIATION MARK;bLETTER ALAPH;cSUPERSCRIPT ALAPH;cBETH;cGAMAL;dGARSHUNI;cDALATH;
  cDOTLESS DALATH RISH;cHE;cWAW;cZAIN;cHETH;cTETH;dGARSHUNI;cYUDH;dHE;cKAPH;cLAMADH;cMIM;cNUN;
  cSEMKATH;cFINAL SEMKATH;cE;cPE;cREVERSED PE;cSADHE;cQAPH;cRISH;cSHIN;cTAW;cPERSIAN BHETH;
  dGHAMAL;dDHALATH;bPTHAHA ABOVE;cBELOW;cDOTTED;bZQAPHA ABOVE;cBELOW;cDOTTED;bRBASA ABOVE;cBELOW;
  bDOTTED ZLAMA HORIZONTAL;dANGULAR;bHBASA ABOVE;cBELOW;bHBASA-ESASA DOTTED;bESASA ABOVE;cBELOW;
  bRWAHA;bFEMININE DOT;bQUSHSHAYA;bRUKKAKHA;bTWO VERTICAL DOTS ABOVE;eBELOW;bTHREE DOTS ABOVE;
  dBELOW;bOBLIQUE LINE ABOVE;dBELOW;bMUSIC;bBARREKH;74DbLETTER SOGDIAN ZHAIN;dKHAPH;dFE;
  aARABIC LETTER BEH WITH THREE DOTS HORIZONTALLY BELOW;eDOT BELOW AND THREE DOTS ABOVE;
  eTHREE DOTS POINTING UPWARDS BELOW;jAND TWO DOTS ABOVE;eTWO DOTS BELOW AND DOT ABOVE;
  eINVERTED SMALL V BELOW;eSMALL V;cHAH WITH TWO DOTS ABOVE;eTHREE DOTS POINTING UPWARDS BELOW;
  cDAL WITH TWO DOTS VERTICALLY BELOW AND SMALL TAH;eINVERTED SMALL V BELOW;cREH WITH STROKE;
  cSEEN WITH FOUR DOTS ABOVE;cAIN WITH TWO DOTS ABOVE;eTHREE DOTS POINTING DOWNWARDS ABOVE;
  eTWO DOTS VERTICALLY ABOVE;cFEH WITH TWO DOTS BELOW;eTHREE DOTS POINTING UPWARDS BELOW;
  cKEHEH WITH DOT ABOVE;eTHREE DOTS ABOVE;gPOINTING UPWARDS BELOW;cMEEM WITH DOT ABOVE;fBELOW;
  cNOON WITH TWO DOTS BELOW;eSMALL TAH;fV;cLAM WITH BAR;cREH WITH TWO DOTS VERTICALLY ABOVE;
  eHAMZA ABOVE;cSEEN WITH TWO DOTS VERTICALLY ABOVE;cHAH WITH SMALL ARABIC LETTER TAH BELOW;
  iAND TWO DOTS;cSEEN WITH SMALL ARABIC LETTER TAH AND TWO DOTS;
  cREH WITH SMALL ARABIC LETTER TAH AND TWO DOTS;cHAH WITH SMALL ARABIC LETTER TAH ABOVE;
  cALEF WITH EXTENDED ARABIC-INDIC DIGIT TWO ABOVE;hTHREE ABOVE;
  cFARSI YEH WITH EXTENDED ARABIC-INDIC DIGIT TWO ABOVE;iTHREE ABOVE;iFOUR BELOW;
  cWAW WITH EXTENDED ARABIC-INDIC DIGIT TWO ABOVE;hTHREE ABOVE;
  cYEH BARREE WITH EXTENDED ARABIC-INDIC DIGIT TWO ABOVE;iTHREE ABOVE;
  cHAH WITH EXTENDED ARABIC-INDIC DIGIT FOUR BELOW;
  cSEEN WITH EXTENDED ARABIC-INDIC DIGIT FOUR ABOVE;eINVERTED V;cKAF WITH TWO DOTS ABOVE;
  aTHAANA LETTER HAA;cSHAVIYANI;cNOONU;cRAA;cBAA;cLHAVIYANI;cKAAFU;cALIFU;cVAAVU;cMEEMU;cFAAFU;
  cDHAALU;cTHAA;cLAAMU;cGAAFU;cGNAVIYANI;cSEENU;cDAVIYANI;cZAVIYANI;cTAVIYANI;cYAA;cPAVIYANI;
  cJAVIYANI;cCHAVIYANI;cTTAA;cHHAA;cKHAA;cTHAALU;cZAA;cSHEENU;cSAADHU;cDAADHU;cTO;cZO;cAINU;
  cGHAINU;cQAAFU;cWAAVU;bABAFILI;bAABAAFILI;bIBIFILI;bEEBEEFILI;bUBUFILI;bOOBOOFILI;bEBEFILI;
  bEYBEYFILI;bOBOFILI;bOABOAFILI;bSUKUN;bLETTER NAA;7C0aNKO DIGIT ZERO;cONE;cTWO;cTHREE;cFOUR;
  cFIVE;cSIX;cSEVEN;cEIGHT;cNINE;bLETTER A;cEE;cI;cE;cU;cOO;cO;cDAGBASINNA;cN;cBA;cPA;cTA;cJA;
  cCHA;cDA;cRA;cRRA;cSA;cGBA;cFA;cKA;cLA;cNA WOLOSO;cMA;cNYA;cNA;cHA;cWA;cYA;cNYA WOLOSO;
  cJONA JA;dCHA;dRA;bCOMBINING SHORT HIGH TONE;dLOW TONE;dRISING TONE;cLONG DESCENDING TONE;
  dHIGH TONE;dLOW TONE;dRISING TONE;cNASALIZATION MARK;cDOUBLE DOT ABOVE;bHIGH TONE APOSTROPHE;
  bLOW TONE APOSTROPHE;bSYMBOL OO DENNEN;cGBAKURUNEN;bCOMMA;bEXCLAMATION MARK;bLAJANYALAN;
  7FDbDANTAYALAN;bDOROME SIGN;bTAMAN SIGN;aSAMARITAN LETTER ALAF;cBIT;cGAMAN;cDALAT;cIY;cBAA;
  cZEN;cIT;cTIT;cYUT;cKAAF;cLABAT;cMIM;cNUN;cSINGAAT;cIN;cFI;cTSAADIY;cQUF;cRISH;cSHAN;cTAAF;
  bMARK IN;cIN-ALAF;cOCCLUSION;cDAGESH;bMODIFIER LETTER EPENTHETIC YUT;bMARK EPENTHETIC YUT;
  bVOWEL SIGN LONG E;dE;dOVERLONG AA;dLONG AA;dAA;dOVERLONG A;dLONG A;dA;
  bMODIFIER LETTER SHORT A;bVOWEL SIGN SHORT A;dLONG U;dU;bMODIFIER LETTER I;bVOWEL SIGN LONG I;
  dI;dO;dSUKUN;bMARK NEQUDAA;830bPUNCTUATION NEQUDAA;cAFSAAQ;cANGED;cBAU;cATMAAU;cSHIYYAALAA;
  bABBREVIATION MARK;bPUNCTUATION MELODIC QITSA;cZIQAA;cQITSA;cZAEF;cTURU;cARKAANU;cSOF MASHFAAT;
  cANNAAU;840aMANDAIC LETTER HALQA;cAB;cAG;cAD;cAH;cUSHENNA;cAZ;cIT;cATT;cAKSA;cAK;cAL;cAM;cAN;
  cAS;cIN;cAP;cASZ;cAQ;cAR;cASH;cAT;cDUSHENNA;cKAD;cAIN;bAFFRICATION MARK;bVOCALIZATION MARK;
  bGEMINATION MARK;85EbPUNCTUATION;860aSYRIAC LETTER MALAYALAM NGA;dJA;dNYA;dTTA;dNNA;dNNNA;dBHA;
  dRA;dLLA;dLLLA;dSSA;870aARABIC LETTER ALEF WITH ATTACHED FATHA;fTOP RIGHT FATHA;
  eRIGHT MIDDLE STROKE;eLEFT MIDDLE STROKE;eATTACHED KASRA;fBOTTOM RIGHT KASRA;fROUND DOT ABOVE;
  fRIGHT ROUND DOT;fLEFT ROUND DOT;fROUND DOT BELOW;eDOT ABOVE;
  eATTACHED TOP RIGHT FATHA AND DOT ABOVE;eRIGHT MIDDLE STROKE AND DOT ABOVE;
  eATTACHED BOTTOM RIGHT KASRA AND DOT ABOVE;fTOP RIGHT FATHA AND LEFT RING;
  eRIGHT MIDDLE STROKE AND LEFT RING;eATTACHED BOTTOM RIGHT KASRA AND LEFT RING;fRIGHT HAMZA;
  fLEFT HAMZA;bTATWEEL WITH OVERSTRUCK HAMZA;eWAW;dTWO DOTS BELOW;bLETTER THIN YEH;
  bBASELINE ROUND DOT;bRAISED ROUND DOT;bLETTER NOON WITH INVERTED SMALL V;
  cHAH WITH INVERTED SMALL V BELOW;cTAH WITH DOT BELOW;eTHREE DOTS BELOW;
  cKEHEH WITH TWO DOTS VERTICALLY BELOW;bVERTICAL TAIL;890bPOUND MARK ABOVE;bPIASTRE MARK ABOVE;
  898bSMALL HIGH WORD AL-JUZ;cLOW WORD ISHMAAM;eIMAALA;eTASHEEL;bMADDA WAAJIB;
  bSUPERSCRIPT ALEF MOKHASSAS;bDOUBLED MADDA;bHALF MADDA OVER MADDA;
  bLETTER BEH WITH SMALL V BELOW;eHAMZA ABOVE;cJEEM WITH TWO DOTS ABOVE;cTAH WITH TWO DOTS ABOVE;
  cFEH WITH DOT BELOW AND THREE DOTS ABOVE;cQAF WITH DOT BELOW;cLAM WITH DOUBLE BAR;
  cMEEM WITH THREE DOTS ABOVE;cYEH WITH TWO DOTS BELOW AND HAMZA ABOVE;iDOT ABOVE;cREH WITH LOOP;
  cWAW WITH DOT WITHIN;cROHINGYA YEH;cLOW ALEF;cDAL WITH THREE DOTS BELOW;
  cSAD WITH THREE DOTS BELOW;cGAF WITH INVERTED STROKE;cSTRAIGHT WAW;cZAIN WITH INVERTED V ABOVE;
  cAIN WITH THREE DOTS BELOW;cKAF WITH DOT BELOW;cQAF WITH DOT BELOW AND NO DOTS ABOVE;
  cBEH WITH SMALL MEEM ABOVE;cPEH WITH SMALL MEEM ABOVE;cTEH WITH SMALL TEH ABOVE;
  cREH WITH SMALL NOON ABOVE;cYEH WITH TWO DOTS BELOW AND SMALL NOON ABOVE;cAFRICAN FEH;dQAF;
  dNOON;cPEH WITH SMALL V;cTEH WITH SMALL V;cTTEH WITH SMALL V;cTCHEH WITH SMALL V;
  cKEHEH WITH SMALL V;cGHAIN WITH THREE DOTS ABOVE;cAFRICAN QAF WITH THREE DOTS ABOVE;
  cJEEM WITH THREE DOTS ABOVE;gBELOW;cLAM WITH SMALL ARABIC LETTER TAH ABOVE;cGRAF;
  bSMALL FARSI YEH;cHIGH FARSI YEH;dYEH BARREE WITH TWO DOTS BELOW;dWORD SAH;dZAH;
  bLARGE ROUND DOT ABOVE;eBELOW;bSUKUN BELOW;bLARGE CIRCLE BELOW;cROUND DOT INSIDE CIRCLE BELOW;
  bSMALL LOW WAW;cHIGH WORD AR-RUB;dSAD;dAIN;dQAF;dNOON WITH KASRA;cLOW NOON WITH KASRA;
  cHIGH WORD ATH-THALATHA;eAS-SAJDA;eAN-NISF;eSAKTA;eQIF;eWAQFA;dFOOTNOTE MARKER;dSIGN SAFHA;
  bDISPUTED END OF AYAH;bTURNED DAMMA BELOW;bCURLY FATHA;cDAMMA;cKASRA;cFATHATAN;cDAMMATAN;
  cKASRATAN;bTONE ONE DOT ABOVE;cTWO DOTS ABOVE;cLOOP ABOVE;cONE DOT BELOW;cTWO DOTS BELOW;
  cLOOP BELOW;bOPEN FATHATAN;cDAMMATAN;cKASRATAN;bSMALL HIGH WAW;bFATHA WITH RING;dDOT ABOVE;
  bKASRA WITH DOT BELOW;bLEFT ARROWHEAD ABOVE;bRIGHT ARROWHEAD ABOVE;bLEFT ARROWHEAD BELOW;
  bRIGHT ARROWHEAD BELOW;bDOUBLE RIGHT ARROWHEAD ABOVE;fWITH DOT;bRIGHT ARROWHEAD ABOVE WITH DOT;
  bDAMMA WITH DOT;bMARK SIDEWAYS NOON GHUNNA;aDEVANAGARI SIGN INVERTED CANDRABINDU;cCANDRABINDU;
  cANUSVARA;cVISARGA;bLETTER SHORT A;cA;cAA;cI;cII;cU;cUU;cVOCALIC R;dL;cCANDRA E;cSHORT E;cE;
  cAI;cCANDRA O;cSHORT O;cO;cAU;cKA;cKHA;cGA;cGHA;cNGA;cCA;cCHA;cJA;cJHA;cNYA;cTTA;cTTHA;cDDA;
  cDDHA;cNNA;cTA;cTHA;cDA;cDHA;cNA;cNNNA;cPA;cPHA;cBA;cBHA;cMA;cYA;cRA;cRRA;cLA;cLLA;cLLLA;cVA;
  cSHA;cSSA;cSA;cHA;bVOWEL SIGN OE;dOOE;bSIGN NUKTA;cAVAGRAHA;bVOWEL SIGN AA;dI;dII;dU;dUU;
  dVOCALIC R;eRR;dCANDRA E;dSHORT E;dE;dAI;dCANDRA O;dSHORT O;dO;dAU;bSIGN VIRAMA;
  bVOWEL SIGN PRISHTHAMATRA E;dAW;bOM;bSTRESS SIGN UDATTA;dANUDATTA;bGRAVE ACCENT;bACUTE ACCENT;
  bVOWEL SIGN CANDRA LONG E;dUE;dUUE;bLETTER QA;cKHHA;cGHHA;cZA;cDDDHA;cRHA;cFA;cYYA;cVOCALIC RR;
  dLL;bVOWEL SIGN VOCALIC L;eLL;bDANDA;bDOUBLE DANDA;bDIGIT ZERO;cONE;cTWO;cTHREE;cFOUR;cFIVE;
  cSIX;cSEVEN;cEIGHT;cNINE;bABBREVIATION SIGN;bSIGN HIGH SPACING DOT;bLETTER CANDRA A;cOE;cOOE;
  cAW;cUE;cUUE;cMARWARI DDA;cZHA;cHEAVY YA;cGGA;cJJA;cGLOTTAL STOP;cDDDA;cBBA;aBENGALI ANJI;
  bSIGN CANDRABINDU;cANUSVARA;cVISARGA;985bLETTER A;cAA;cI;cII;cU;cUU;cVOCALIC R;dL;98FcE;cAI;
  993cO;cAU;cKA;cKHA;cGA;cGHA;cNGA;cCA;cCHA;cJA;cJHA;cNYA;cTTA;cTTHA;cDDA;cDDHA;cNNA;cTA;cTHA;
  cDA;cDHA;cNA;9AAcPA;cPHA;cBA;cBHA;cMA;cYA;cRA;9B2cLA;9B6cSHA;cSSA;cSA;cHA;9BCbSIGN NUKTA;
  cAVAGRAHA;bVOWEL SIGN AA;dI;dII;dU;dUU;dVOCALIC R;eRR;9C7dE;dAI;9CBdO;dAU;bSIGN VIRAMA;
  bLETTER KHANDA TA;9D7bAU LENGTH MARK;9DCbLETTER RRA;cRHA;9DFcYYA;cVOCALIC RR;dLL;
  bVOWEL SIGN VOCALIC L;eLL;9E6bDIGIT ZERO;cONE;cTWO;cTHREE;cFOUR;cFIVE;cSIX;cSEVEN;cEIGHT;cNINE;
  bLETTER RA WITH MIDDLE DIAGONAL;eLOWER DIAGONAL;bRUPEE MARK;cSIGN;bCURRENCY NUMERATOR ONE;dTWO;
  dTHREE;dFOUR;dONE LESS THAN THE DENOMINATOR;cDENOMINATOR SIXTEEN;bISSHAR;bGANDA MARK;
  bLETTER VEDIC ANUSVARA;bABBREVIATION SIGN;bSANDHI MARK;A01aGURMUKHI SIGN ADAK BINDI;cBINDI;
  cVISARGA;A05bLETTER A;cAA;cI;cII;cU;cUU;A0FcEE;cAI;A13cOO;cAU;cKA;cKHA;cGA;cGHA;cNGA;cCA;cCHA;
  cJA;cJHA;cNYA;cTTA;cTTHA;cDDA;cDDHA;cNNA;cTA;cTHA;cDA;cDHA;cNA;A2AcPA;cPHA;cBA;cBHA;cMA;cYA;
  cRA;A32cLA;cLLA;A35cVA;cSHA;A38cSA;cHA;A3CbSIGN NUKTA;A3EbVOWEL SIGN AA;dI;dII;dU;dUU;A47dEE;
  dAI;A4BdOO;dAU;bSIGN VIRAMA;A51cUDAAT;A59bLETTER KHHA;cGHHA;cZA;cRRA;A5EcFA;A66bDIGIT ZERO;
  cONE;cTWO;cTHREE;cFOUR;cFIVE;cSIX;cSEVEN;cEIGHT;cNINE;bTIPPI;bADDAK;bIRI;bURA;bEK ONKAR;
  bSIGN YAKASH;bABBREVIATION SIGN;A81aGUJARATI SIGN CANDRABINDU;cANUSVARA;cVISARGA;A85bLETTER A;
  cAA;cI;cII;cU;cUU;cVOCALIC R;dL;bVOWEL CANDRA E;A8FbLETTER E;cAI;bVOWEL CANDRA O;A93bLETTER O;
  cAU;cKA;cKHA;cGA;cGHA;cNGA;cCA;cCHA;cJA;cJHA;cNYA;cTTA;cTTHA;cDDA;cDDHA;cNNA;cTA;cTHA;cDA;cDHA;
  cNA;AAAcPA;cPHA;cBA;cBHA;cMA;cYA;cRA;AB2cLA;cLLA;AB5cVA;cSHA;cSSA;cSA;cHA;ABCbSIGN NUKTA;
  cAVAGRAHA;bVOWEL SIGN AA;dI;dII;dU;dUU;dVOCALIC R;eRR;dCANDRA E;AC7dE;dAI;dCANDRA O;ACBdO;dAU;
  bSIGN VIRAMA;AD0bOM;AE0bLETTER VOCALIC RR;dLL;bVOWEL SIGN VOCALIC L;eLL;AE6bDIGIT ZERO;cONE;
  cTWO;cTHREE;cFOUR;cFIVE;cSIX;cSEVEN;cEIGHT;cNINE;bABBREVIATION SIGN;bRUPEE SIGN;AF9bLETTER ZHA;
  bSIGN SUKUN;cSHADDA;cMADDAH;cTHREE-DOT NUKTA ABOVE;cCIRCLE NUKTA ABOVE;cTWO-CIRCLE NUKTA ABOVE;
  B01aORIYA SIGN CANDRABINDU;cANUSVARA;cVISARGA;B05bLETTER A;cAA;cI;cII;cU;cUU;cVOCALIC R;dL;
  B0FcE;cAI;B13cO;cAU;cKA;cKHA;cGA;cGHA;cNGA;cCA;cCHA;cJA;cJHA;cNYA;cTTA;cTTHA;cDDA;cDDHA;cNNA;
  cTA;cTHA;cDA;cDHA;cNA;B2AcPA;cPHA;cBA;cBHA;cMA;cYA;cRA;B32cLA;cLLA;B35cVA;cSHA;cSSA;cSA;cHA;
  B3CbSIGN NUKTA;cAVAGRAHA;bVOWEL SIGN AA;dI;dII;dU;dUU;dVOCALIC R;eRR;B47dE;dAI;B4BdO;dAU;
  bSIGN VIRAMA;B55cOVERLINE;bAI LENGTH MARK;bAU LENGTH MARK;B5CbLETTER RRA;cRHA;B5FcYYA;
  cVOCALIC RR;dLL;bVOWEL SIGN VOCALIC L;eLL;B66bDIGIT ZERO;cONE;cTWO;cTHREE;cFOUR;cFIVE;cSIX;
  cSEVEN;cEIGHT;cNINE;bISSHAR;bLETTER WA;bFRACTION ONE QUARTER;dHALF;cTHREE QUARTERS;
  cONE SIXTEENTH;dEIGHTH;cTHREE SIXTEENTHS;B82aTAMIL SIGN ANUSVARA;cVISARGA;B85bLETTER A;cAA;cI;
  cII;cU;cUU;B8EcE;cEE;cAI;B92cO;cOO;cAU;cKA;B99cNGA;cCA;B9CcJA;B9EcNYA;cTTA;BA3cNNA;cTA;BA8cNA;
  cNNNA;cPA;BAEcMA;cYA;cRA;cRRA;cLA;cLLA;cLLLA;cVA;cSHA;cSSA;cSA;cHA;BBEbVOWEL SIGN AA;dI;dII;dU;
  dUU;BC6dE;dEE;dAI;BCAdO;dOO;dAU;bSIGN VIRAMA;BD0bOM;BD7bAU LENGTH MARK;BE6bDIGIT ZERO;cONE;
  cTWO;cTHREE;cFOUR;cFIVE;cSIX;cSEVEN;cEIGHT;cNINE;bNUMBER TEN;cONE HUNDRED;dTHOUSAND;bDAY SIGN;
  bMONTH SIGN;bYEAR SIGN;bDEBIT SIGN;bCREDIT SIGN;bAS ABOVE SIGN;bRUPEE SIGN;bNUMBER SIGN;
  C00aTELUGU SIGN COMBINING CANDRABINDU ABOVE;cCANDRABINDU;cANUSVARA;cVISARGA;
  cCOMBINING ANUSVARA ABOVE;bLETTER A;cAA;cI;cII;cU;cUU;cVOCALIC R;dL;C0EcE;cEE;cAI;C12cO;cOO;
  cAU;cKA;cKHA;cGA;cGHA;cNGA;cCA;cCHA;cJA;cJHA;cNYA;cTTA;cTTHA;cDDA;cDDHA;cNNA;cTA;cTHA;cDA;cDHA;
  cNA;C2AcPA;cPHA;cBA;cBHA;cMA;cYA;cRA;cRRA;cLA;cLLA;cLLLA;cVA;cSHA;cSSA;cSA;cHA;C3CbSIGN NUKTA;
  cAVAGRAHA;bVOWEL SIGN AA;dI;dII;dU;dUU;dVOCALIC R;eRR;C46dE;dEE;dAI;C4AdO;dOO;dAU;bSIGN VIRAMA;
  C55bLENGTH MARK;bAI LENGTH MARK;C58bLETTER TSA;cDZA;cRRRA;C5DcNAKAARA POLLU;C60cVOCALIC RR;dLL;
  bVOWEL SIGN VOCALIC L;eLL;C66bDIGIT ZERO;cONE;cTWO;cTHREE;cFOUR;cFIVE;cSIX;cSEVEN;cEIGHT;cNINE;
  C77bSIGN SIDDHAM;bFRACTION DIGIT ZERO FOR ODD POWERS OF FOUR;dONE FOR ODD POWERS OF FOUR;
  dTWO FOR ODD POWERS OF FOUR;dTHREE FOR ODD POWERS OF FOUR;dONE FOR EVEN POWERS OF FOUR;
  dTWO FOR EVEN POWERS OF FOUR;dTHREE FOR EVEN POWERS OF FOUR;bSIGN TUUMU;
  aKANNADA SIGN SPACING CANDRABINDU;cCANDRABINDU;cANUSVARA;cVISARGA;cSIDDHAM;bLETTER A;cAA;cI;
  cII;cU;cUU;cVOCALIC R;dL;C8EcE;cEE;cAI;C92cO;cOO;cAU;cKA;cKHA;cGA;cGHA;cNGA;cCA;cCHA;cJA;cJHA;
  cNYA;cTTA;cTTHA;cDDA;cDDHA;cNNA;cTA;cTHA;cDA;cDHA;cNA;CAAcPA;cPHA;cBA;cBHA;cMA;cYA;cRA;cRRA;
  cLA;cLLA;CB5cVA;cSHA;cSSA;cSA;cHA;CBCbSIGN NUKTA;cAVAGRAHA;bVOWEL SIGN AA;dI;dII;dU;dUU;
  dVOCALIC R;eRR;CC6dE;dEE;dAI;CCAdO;dOO;dAU;bSIGN VIRAMA;CD5bLENGTH MARK;bAI LENGTH MARK;
  CDDbLETTER NAKAARA POLLU;cFA;CE0cVOCALIC RR;dLL;bVOWEL SIGN VOCALIC L;eLL;CE6bDIGIT ZERO;cONE;
  cTWO;cTHREE;cFOUR;cFIVE;cSIX;cSEVEN;cEIGHT;cNINE;CF1bSIGN JIHVAMULIYA;cUPADHMANIYA;
  D00aMALAYALAM SIGN COMBINING ANUSVARA ABOVE;cCANDRABINDU;cANUSVARA;cVISARGA;
  bLETTER VEDIC ANUSVARA;cA;cAA;cI;cII;cU;cUU;cVOCALIC R;dL;D0EcE;cEE;cAI;D12cO;cOO;cAU;cKA;cKHA;
  cGA;cGHA;cNGA;cCA;cCHA;cJA;cJHA;cNYA;cTTA;cTTHA;cDDA;cDDHA;cNNA;cTA;cTHA;cDA;cDHA;cNA;cNNNA;
  cPA;cPHA;cBA;cBHA;cMA;cYA;cRA;cRRA;cLA;cLLA;cLLLA;cVA;cSHA;cSSA;cSA;cHA;cTTTA;
  bSIGN VERTICAL BAR VIRAMA;cCIRCULAR VIRAMA;cAVAGRAHA;bVOWEL SIGN AA;dI;dII;dU;dUU;dVOCALIC R;
  eRR;D46dE;dEE;dAI;D4AdO;dOO;dAU;bSIGN VIRAMA;bLETTER DOT REPH;bSIGN PARA;D54bLETTER CHILLU M;
  dY;dLLL;bAU LENGTH MARK;bFRACTION ONE ONE-HUNDRED-AND-SIXTIETH;dFORTIETH;cTHREE EIGHTIETHS;
  cONE TWENTIETH;dTENTH;cTHREE TWENTIETHS;cONE FIFTH;bLETTER ARCHAIC II;cVOCALIC RR;dLL;
  bVOWEL SIGN VOCALIC L;eLL;D66bDIGIT ZERO;cONE;cTWO;cTHREE;cFOUR;cFIVE;cSIX;cSEVEN;cEIGHT;cNINE;
  bNUMBER TEN;cONE HUNDRED;dTHOUSAND;bFRACTION ONE QUARTER;dHALF;cTHREE QUARTERS;cONE SIXTEENTH;
  dEIGHTH;cTHREE SIXTEENTHS;bDATE MARK;bLETTER CHILLU NN;dN;dRR;dL;dLL;dK;
  D81aSINHALA SIGN CANDRABINDU;cANUSVARAYA;cVISARGAYA;D85bLETTER AYANNA;cAAYANNA;cAEYANNA;
  cAEEYANNA;cIYANNA;cIIYANNA;cUYANNA;cUUYANNA;cIRUYANNA;cIRUUYANNA;cILUYANNA;cILUUYANNA;cEYANNA;
  cEEYANNA;cAIYANNA;cOYANNA;cOOYANNA;cAUYANNA;D9AcALPAPRAANA KAYANNA;cMAHAAPRAANA KAYANNA;
  cALPAPRAANA GAYANNA;cMAHAAPRAANA GAYANNA;cKANTAJA NAASIKYAYA;cSANYAKA GAYANNA;
  cALPAPRAANA CAYANNA;cMAHAAPRAANA CAYANNA;cALPAPRAANA JAYANNA;cMAHAAPRAANA JAYANNA;
  cTAALUJA NAASIKYAYA;dSANYOOGA NAAKSIKYAYA;cSANYAKA JAYANNA;cALPAPRAANA TTAYANNA;
  cMAHAAPRAANA TTAYANNA;cALPAPRAANA DDAYANNA;cMAHAAPRAANA DDAYANNA;cMUURDHAJA NAYANNA;
  cSANYAKA DDAYANNA;cALPAPRAANA TAYANNA;cMAHAAPRAANA TAYANNA;cALPAPRAANA DAYANNA;
  cMAHAAPRAANA DAYANNA;cDANTAJA NAYANNA;DB3cSANYAKA DAYANNA;cALPAPRAANA PAYANNA;
  cMAHAAPRAANA PAYANNA;cALPAPRAANA BAYANNA;cMAHAAPRAANA BAYANNA;cMAYANNA;cAMBA BAYANNA;cYAYANNA;
  cRAYANNA;DBDcDANTAJA LAYANNA;DC0cVAYANNA;cTAALUJA SAYANNA;cMUURDHAJA SAYANNA;cDANTAJA SAYANNA;
  cHAYANNA;cMUURDHAJA LAYANNA;cFAYANNA;DCAbSIGN AL-LAKUNA;DCFbVOWEL SIGN AELA-PILLA;
  dKETTI AEDA-PILLA;dDIGA AEDA-PILLA;dKETTI IS-PILLA;dDIGA IS-PILLA;dKETTI PAA-PILLA;
  DD6dDIGA PAA-PILLA;DD8dGAETTA-PILLA;dKOMBUVA;dDIGA KOMBUVA;dKOMBU DEKA;dKOMBUVA HAA AELA-PILLA;
  fDIGA AELA-PILLA;fGAYANUKITTA;dGAYANUKITTA;DE6bLITH DIGIT ZERO;dONE;dTWO;dTHREE;dFOUR;dFIVE;
  dSIX;dSEVEN;dEIGHT;dNINE;DF2bVOWEL SIGN DIGA GAETTA-PILLA;eGAYANUKITTA;bPUNCTUATION KUNDDALIYA;
  E01aTHAI CHARACTER KO KAI;cKHO KHAI;dKHUAT;dKHWAI;dKHON;dRAKHANG;cNGO NGU;cCHO CHAN;dCHING;
  dCHANG;cSO SO;cCHO CHOE;cYO YING;cDO CHADA;cTO PATAK;cTHO THAN;dNANGMONTHO;dPHUTHAO;cNO NEN;
  cDO DEK;cTO TAO;cTHO THUNG;dTHAHAN;dTHONG;cNO NU;cBO BAIMAI;cPO PLA;cPHO PHUNG;cFO FA;
  cPHO PHAN;cFO FAN;cPHO SAMPHAO;cMO MA;cYO YAK;cRO RUA;cRU;cLO LING;cLU;cWO WAEN;cSO SALA;dRUSI;
  dSUA;cHO HIP;cLO CHULA;cO ANG;cHO NOKHUK;cPAIYANNOI;cSARA A;cMAI HAN-AKAT;cSARA AA;dAM;dI;dII;
  dUE;dUEE;dU;dUU;cPHINTHU;E3FbCURRENCY SYMBOL BAHT;bCHARACTER SARA E;dAE;dO;dAI MAIMUAN;
  eMAIMALAI;cLAKKHANGYAO;cMAIYAMOK;cMAITAIKHU;cMAI EK;dTHO;dTRI;dCHATTAWA;cTHANTHAKHAT;cNIKHAHIT;
  cYAMAKKAN;cFONGMAN;bDIGIT ZERO;cONE;cTWO;cTHREE;cFOUR;cFIVE;cSIX;cSEVEN;cEIGHT;cNINE;
  bCHARACTER ANGKHANKHU;cKHOMUT;E81aLAO LETTER KO;cKHO SUNG;E84dTAM;E86cPALI GHA;cNGO;cCO;
  cPALI CHA;cSO TAM;E8CcPALI JHA;cNYO;cPALI NYA;dTTA;dTTHA;dDDA;dDDHA;dNNA;cDO;cTO;cTHO SUNG;
  dTAM;cPALI DHA;cNO;cBO;cPO;cPHO SUNG;cFO TAM;cPHO TAM;cFO SUNG;cPALI BHA;cMO;cYO;cLO LING;
  EA5dLOOT;EA7cWO;cSANSKRIT SHA;dSSA;cSO SUNG;cHO SUNG;cPALI LLA;cO;cHO TAM;bELLIPSIS;
  bVOWEL SIGN A;dMAI KAN;dAA;dAM;dI;dII;dY;dYY;dU;dUU;bSIGN PALI VIRAMA;bVOWEL SIGN MAI KON;
  bSEMIVOWEL SIGN LO;dNYO;EC0bVOWEL SIGN E;dEI;dO;dAY;dAI;EC6bKO LA;EC8bTONE MAI EK;dTHO;dTI;
  dCATAWA;bCANCELLATION MARK;bNIGGAHITA;ED0bDIGIT ZERO;cONE;cTWO;cTHREE;cFOUR;cFIVE;cSIX;cSEVEN;
  cEIGHT;cNINE;EDCbHO NO;cMO;bLETTER KHMU GO;dNYO;F00aTIBETAN SYLLABLE OM;
  bMARK GTER YIG MGO TRUNCATED A;f-UM RNAM BCAD MA;gGTER TSHEG MA;cINITIAL YIG MGO MDUN MA;
  cCLOSING YIG MGO SGAB MA;cCARET YIG MGO PHUR SHAD MA;cYIG MGO TSHEG SHAD MA;cSBRUL SHAD;
  cBSKUR YIG MGO;cBKA- SHOG YIG MGO;cINTERSYLLABIC TSHEG;cDELIMITER TSHEG BSTAR;cSHAD;cNYIS SHAD;
  cTSHEG SHAD;cNYIS TSHEG SHAD;cRIN CHEN SPUNGS SHAD;cRGYA GRAM SHAD;
  cCARET -DZUD RTAGS ME LONG CAN;cGTER TSHEG;bLOGOTYPE SIGN CHAD RTAGS;dLHAG RTAGS;
  bASTROLOGICAL SIGN SGRA GCAN -CHAR RTAGS;d-KHYUD PA;dSDONG TSHUGS;bSIGN RDEL DKAR GCIG;eGNYIS;
  eGSUM;dNAG GCIG;eGNYIS;dDKAR RDEL NAG;bDIGIT ZERO;cONE;cTWO;cTHREE;cFOUR;cFIVE;cSIX;cSEVEN;
  cEIGHT;cNINE;cHALF ONE;dTWO;dTHREE;dFOUR;dFIVE;dSIX;dSEVEN;dEIGHT;dNINE;dZERO;
  bMARK BSDUS RTAGS;cNGAS BZUNG NYI ZLA;cCARET -DZUD RTAGS BZHI MIG CAN;cNGAS BZUNG SGOR RTAGS;
  cCHE MGO;cTSA -PHRU;cGUG RTAGS GYON;eGYAS;cANG KHANG GYON;eGYAS;bSIGN YAR TSHES;cMAR TSHES;
  bLETTER KA;cKHA;cGA;cGHA;cNGA;cCA;cCHA;cJA;F49cNYA;cTTA;cTTHA;cDDA;cDDHA;cNNA;cTA;cTHA;cDA;
  cDHA;cNA;cPA;cPHA;cBA;cBHA;cMA;cTSA;cTSHA;cDZA;cDZHA;cWA;cZHA;cZA;c-A;cYA;cRA;cLA;cSHA;cSSA;
  cSA;cHA;cA;cKSSA;cFIXED-FORM RA;cKKA;cRRA;F71bVOWEL SIGN AA;dI;dII;dU;dUU;dVOCALIC R;eRR;eL;
  eLL;dE;dEE;dO;dOO;bSIGN RJES SU NGA RO;cRNAM BCAD;bVOWEL SIGN REVERSED I;eII;
  bSIGN NYI ZLA NAA DA;cSNA LDAN;bMARK HALANTA;cPALUTA;bSIGN LCI RTAGS;cYANG RTAGS;cLCE TSA CAN;
  cMCHU CAN;cGRU CAN RGYINGS;dMED RGYINGS;cINVERTED MCHU CAN;bSUBJOINED SIGN LCE TSA CAN;
  dMCHU CAN;dINVERTED MCHU CAN;cLETTER KA;dKHA;dGA;dGHA;dNGA;dCA;dCHA;dJA;F99dNYA;dTTA;dTTHA;
  dDDA;dDDHA;dNNA;dTA;dTHA;dDA;dDHA;dNA;dPA;dPHA;dBA;dBHA;dMA;dTSA;dTSHA;dDZA;dDZHA;dWA;dZHA;dZA;
  d-A;dYA;dRA;dLA;dSHA;dSSA;dSA;dHA;dA;dKSSA;dFIXED-FORM WA;eYA;eRA;FBEbKU RU KHA;eBZHI MIG CAN;
  bCANTILLATION SIGN HEAVY BEAT;dLIGHT BEAT;dCANG TE-U;dSBUB -CHAL;bSYMBOL DRIL BU;cRDO RJE;
  cPADMA GDAN;cRDO RJE RGYA GRAM;cPHUR PA;cNOR BU;eNYIS -KHYIL;eGSUM -KHYIL;eBZHI -KHYIL;
  FCEbSIGN RDEL NAG RDEL DKAR;eGSUM;bMARK BSKA- SHOG GI MGO RGYAN;cMNYAM YIG GI MGO RGYAN;
  cNYIS TSHEG;cINITIAL BRDA RNYING YIG MGO MDUN MA;cCLOSING BRDA RNYING YIG MGO SGAB MA;
  aRIGHT-FACING SVASTI SIGN;aLEFT-FACING SVASTI SIGN;aRIGHT-FACING SVASTI SIGN WITH DOTS;
  aLEFT-FACING SVASTI SIGN WITH DOTS;aTIBETAN MARK LEADING MCHAN RTAGS;cTRAILING MCHAN RTAGS"

end WhistledSpeech.Text.Table
