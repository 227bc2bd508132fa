import UmlPress.Text.Quoted

/-!
# Names of characters

The names that the standard gives to the characters of the common blocks, to
ideographs and to Hangul syllables, and the other names of controls. A small
letter in the table stands for a phrase that many names have.
-/
namespace UmlPress.Text

/-- The phrases that small letters stand for. -/
def phrases : List (Char × String) := [
  ('a', " LETTER "), ('b', " WITH "), ('c', " CAPITAL"), ('d', "BOX DRAWINGS "), ('e', " SMALL"),
  ('f', "LATIN"), ('g', " ARROW"), ('h', "WHITE "), ('i', "CYRILLIC"), ('j', "KATAKANA"),
  ('k', "COMBINING "), ('l', "RIGHTWARDS"), ('m', " AND "), ('n', "RIGHT"), ('o', "BLACK "),
  ('p', "HIRAGANA"), ('q', "LEFT "), ('r', " SYMBOL"), ('s', " SIGN"), ('t', "DOUBLE"),
  ('u', "ROMAN NUMERAL "), ('v', "GREEK"), ('w', "HEAVY"), ('x', "VERTICAL"), ('y', "CIRCLED "),
  ('z', "DINGBAT NEGATIVE ")]

/-- Names of characters that follow each other, by the first of them. An empty one
stands for a character without a name. -/
def nameRuns : List (Nat × String) := [
  (0x20, "SPACE,EXCLAMATION MARK,QUOTATION MARK,NUMBERs,DOLLARs,PERCENTs,AMPERSAND"),
  (0x27, "APOSTROPHE,qPARENTHESIS,n PARENTHESIS,ASTERISK,PLUSs,COMMA,HYPHEN-MINUS"),
  (0x2e, "FULL STOP,SOLIDUS,DIGIT ZERO,DIGIT ONE,DIGIT TWO,DIGIT THREE,DIGIT FOUR"),
  (0x35, "DIGIT FIVE,DIGIT SIX,DIGIT SEVEN,DIGIT EIGHT,DIGIT NINE,COLON,SEMICOLON"),
  (0x3c, "LESS-THANs,EQUALSs,GREATER-THANs,QUESTION MARK,COMMERCIAL AT,fcaA,fcaB,fcaC,fcaD"),
  (0x45, "fcaE,fcaF,fcaG,fcaH,fcaI,fcaJ,fcaK,fcaL,fcaM,fcaN,fcaO,fcaP,fcaQ,fcaR,fcaS,fcaT"),
  (0x55, "fcaU,fcaV,fcaW,fcaX,fcaY,fcaZ,qSQUARE BRACKET,REVERSE SOLIDUS,n SQUARE BRACKET"),
  (0x5e, "CIRCUMFLEX ACCENT,LOW LINE,GRAVE ACCENT,feaA,feaB,feaC,feaD,feaE,feaF,feaG,feaH"),
  (0x69, "feaI,feaJ,feaK,feaL,feaM,feaN,feaO,feaP,feaQ,feaR,feaS,feaT,feaU,feaV,feaW,feaX"),
  (0x79, "feaY,feaZ,qCURLY BRACKET,x LINE,n CURLY BRACKET,TILDE"),
  (0xa0, "NO-BREAK SPACE,INVERTED EXCLAMATION MARK,CENTs,POUNDs,CURRENCYs,YENs,BROKEN BAR"),
  (0xa7, "SECTIONs,DIAERESIS,COPYns,FEMININE ORDINAL INDICATOR"),
  (0xab, "LEFT-POINTING t ANGLE QUOTATION MARK,NOTs,SOFT HYPHEN,REGISTEREDs,MACRON,DEGREEs"),
  (0xb1, "PLUS-MINUSs,SUPERSCRIPT TWO,SUPERSCRIPT THREE,ACUTE ACCENT,MICROs,PILCROWs"),
  (0xb7, "MIDDLE DOT,CEDILLA,SUPERSCRIPT ONE,MASCULINE ORDINAL INDICATOR"),
  (0xbb, "n-POINTING t ANGLE QUOTATION MARK,VULGAR FRACTION ONE QUARTER"),
  (0xbd, "VULGAR FRACTION ONE HALF,VULGAR FRACTION THREE QUARTERS,INVERTED QUESTION MARK"),
  (0xc0, "fcaAbGRAVE,fcaAbACUTE,fcaAbCIRCUMFLEX,fcaAbTILDE,fcaAbDIAERESIS,fcaAbRING ABOVE"),
  (0xc6, "fcaAE,fcaCbCEDILLA,fcaEbGRAVE,fcaEbACUTE,fcaEbCIRCUMFLEX,fcaEbDIAERESIS"),
  (0xcc, "fcaIbGRAVE,fcaIbACUTE,fcaIbCIRCUMFLEX,fcaIbDIAERESIS,fcaETH,fcaNbTILDE"),
  (0xd2, "fcaObGRAVE,fcaObACUTE,fcaObCIRCUMFLEX,fcaObTILDE,fcaObDIAERESIS,MULTIPLICATIONs"),
  (0xd8, "fcaObSTROKE,fcaUbGRAVE,fcaUbACUTE,fcaUbCIRCUMFLEX,fcaUbDIAERESIS,fcaYbACUTE"),
  (0xde, "fcaTHORN,feaSHARP S,feaAbGRAVE,feaAbACUTE,feaAbCIRCUMFLEX,feaAbTILDE"),
  (0xe4, "feaAbDIAERESIS,feaAbRING ABOVE,feaAE,feaCbCEDILLA,feaEbGRAVE,feaEbACUTE"),
  (0xea, "feaEbCIRCUMFLEX,feaEbDIAERESIS,feaIbGRAVE,feaIbACUTE,feaIbCIRCUMFLEX"),
  (0xef, "feaIbDIAERESIS,feaETH,feaNbTILDE,feaObGRAVE,feaObACUTE,feaObCIRCUMFLEX"),
  (0xf5, "feaObTILDE,feaObDIAERESIS,DIVISIONs,feaObSTROKE,feaUbGRAVE,feaUbACUTE"),
  (0xfb, "feaUbCIRCUMFLEX,feaUbDIAERESIS,feaYbACUTE,feaTHORN,feaYbDIAERESIS,fcaAbMACRON"),
  (0x101, "feaAbMACRON,fcaAbBREVE,feaAbBREVE,fcaAbOGONEK,feaAbOGONEK,fcaCbACUTE,feaCbACUTE"),
  (0x108, "fcaCbCIRCUMFLEX,feaCbCIRCUMFLEX,fcaCbDOT ABOVE,feaCbDOT ABOVE,fcaCbCARON"),
  (0x10d, "feaCbCARON,fcaDbCARON,feaDbCARON,fcaDbSTROKE,feaDbSTROKE,fcaEbMACRON,feaEbMACRON"),
  (0x114, "fcaEbBREVE,feaEbBREVE,fcaEbDOT ABOVE,feaEbDOT ABOVE,fcaEbOGONEK,feaEbOGONEK"),
  (0x11a, "fcaEbCARON,feaEbCARON,fcaGbCIRCUMFLEX,feaGbCIRCUMFLEX,fcaGbBREVE,feaGbBREVE"),
  (0x120, "fcaGbDOT ABOVE,feaGbDOT ABOVE,fcaGbCEDILLA,feaGbCEDILLA,fcaHbCIRCUMFLEX"),
  (0x125, "feaHbCIRCUMFLEX,fcaHbSTROKE,feaHbSTROKE,fcaIbTILDE,feaIbTILDE,fcaIbMACRON"),
  (0x12b, "feaIbMACRON,fcaIbBREVE,feaIbBREVE,fcaIbOGONEK,feaIbOGONEK,fcaIbDOT ABOVE"),
  (0x131, "feaDOTLESS I,fc LIGATURE IJ,fe LIGATURE IJ,fcaJbCIRCUMFLEX,feaJbCIRCUMFLEX"),
  (0x136, "fcaKbCEDILLA,feaKbCEDILLA,feaKRA,fcaLbACUTE,feaLbACUTE,fcaLbCEDILLA,feaLbCEDILLA"),
  (0x13d, "fcaLbCARON,feaLbCARON,fcaLbMIDDLE DOT,feaLbMIDDLE DOT,fcaLbSTROKE,feaLbSTROKE"),
  (0x143, "fcaNbACUTE,feaNbACUTE,fcaNbCEDILLA,feaNbCEDILLA,fcaNbCARON,feaNbCARON"),
  (0x149, "feaN PRECEDED BY APOSTROPHE,fcaENG,feaENG,fcaObMACRON,feaObMACRON,fcaObBREVE"),
  (0x14f, "feaObBREVE,fcaObt ACUTE,feaObt ACUTE,fc LIGATURE OE,fe LIGATURE OE,fcaRbACUTE"),
  (0x155, "feaRbACUTE,fcaRbCEDILLA,feaRbCEDILLA,fcaRbCARON,feaRbCARON,fcaSbACUTE,feaSbACUTE"),
  (0x15c, "fcaSbCIRCUMFLEX,feaSbCIRCUMFLEX,fcaSbCEDILLA,feaSbCEDILLA,fcaSbCARON,feaSbCARON"),
  (0x162, "fcaTbCEDILLA,feaTbCEDILLA,fcaTbCARON,feaTbCARON,fcaTbSTROKE,feaTbSTROKE"),
  (0x168, "fcaUbTILDE,feaUbTILDE,fcaUbMACRON,feaUbMACRON,fcaUbBREVE,feaUbBREVE"),
  (0x16e, "fcaUbRING ABOVE,feaUbRING ABOVE,fcaUbt ACUTE,feaUbt ACUTE,fcaUbOGONEK"),
  (0x173, "feaUbOGONEK,fcaWbCIRCUMFLEX,feaWbCIRCUMFLEX,fcaYbCIRCUMFLEX,feaYbCIRCUMFLEX"),
  (0x178, "fcaYbDIAERESIS,fcaZbACUTE,feaZbACUTE,fcaZbDOT ABOVE,feaZbDOT ABOVE,fcaZbCARON"),
  (0x17e, "feaZbCARON,feaLONG S"),
  (0x2c6, "MODIFIERaCIRCUMFLEX ACCENT,CARON,MODIFIERax LINE,MODIFIERaMACRON"),
  (0x2ca, "MODIFIERaACUTE ACCENT,MODIFIERaGRAVE ACCENT,MODIFIERaLOW x LINE"),
  (0x2cd, "MODIFIERaLOW MACRON,MODIFIERaLOW GRAVE ACCENT,MODIFIERaLOW ACUTE ACCENT"),
  (0x2d0, "MODIFIERaTRIANGULAR COLON,MODIFIERaHALF TRIANGULAR COLON"),
  (0x2d2, "MODIFIERaCENTRED n HALF RING,MODIFIERaCENTRED qHALF RING,MODIFIERaUP TACK"),
  (0x2d5, "MODIFIERaDOWN TACK,MODIFIERaPLUSs,MODIFIERaMINUSs,BREVE,DOT ABOVE,RING ABOVE"),
  (0x2db, "OGONEK,SMALL TILDE,t ACUTE ACCENT"),
  (0x300, "kGRAVE ACCENT,kACUTE ACCENT,kCIRCUMFLEX ACCENT,kTILDE,kMACRON,kOVERLINE,kBREVE"),
  (0x307, "kDOT ABOVE,kDIAERESIS,kHOOK ABOVE,kRING ABOVE,kt ACUTE ACCENT,kCARON"),
  (0x30d, "kx LINE ABOVE,kt x LINE ABOVE,kt GRAVE ACCENT,kCANDRABINDU,kINVERTED BREVE"),
  (0x312, "kTURNED COMMA ABOVE,kCOMMA ABOVE,kREVERSED COMMA ABOVE,kCOMMA ABOVE n"),
  (0x316, "kGRAVE ACCENT BELOW,kACUTE ACCENT BELOW,kqTACK BELOW,kn TACK BELOW,kqANGLE ABOVE"),
  (0x31b, "kHORN,kqHALF RING BELOW,kUP TACK BELOW,kDOWN TACK BELOW,kPLUSs BELOW"),
  (0x320, "kMINUSs BELOW,kPALATALIZED HOOK BELOW,kRETROFLEX HOOK BELOW,kDOT BELOW"),
  (0x324, "kDIAERESIS BELOW,kRING BELOW,kCOMMA BELOW,kCEDILLA,kOGONEK,kx LINE BELOW"),
  (0x32a, "kBRIDGE BELOW,kINVERTED t ARCH BELOW,kCARON BELOW,kCIRCUMFLEX ACCENT BELOW"),
  (0x32e, "kBREVE BELOW,kINVERTED BREVE BELOW,kTILDE BELOW,kMACRON BELOW,kLOW LINE"),
  (0x333, "kt LOW LINE,kTILDE OVERLAY,kSHORT STROKE OVERLAY,kLONG STROKE OVERLAY"),
  (0x337, "kSHORT SOLIDUS OVERLAY,kLONG SOLIDUS OVERLAY,kn HALF RING BELOW"),
  (0x33a, "kINVERTED BRIDGE BELOW,kSQUARE BELOW,kSEAGULL BELOW,kX ABOVE,kx TILDE"),
  (0x33f, "kt OVERLINE,kGRAVE TONE MARK,kACUTE TONE MARK,kv PERISPOMENI,kv KORONIS"),
  (0x344, "kv DIALYTIKA TONOS,kv YPOGEGRAMMENI"),
  (0x370, "vcaHETA,veaHETA,vcaARCHAIC SAMPI,veaARCHAIC SAMPI,v NUMERALs,v LOWER NUMERALs"),
  (0x376, "vcaPAMPHYLIAN DIGAMMA,veaPAMPHYLIAN DIGAMMA,,,v YPOGEGRAMMENI"),
  (0x37b, "ve REVERSED LUNATE SIGMAr,ve DOTTED LUNATE SIGMAr"),
  (0x37d, "ve REVERSED DOTTED LUNATE SIGMAr,v QUESTION MARK,vcaYOT,,,,,v TONOS"),
  (0x385, "v DIALYTIKA TONOS,vcaALPHAbTONOS,v ANO TELEIA,vcaEPSILONbTONOS,vcaETAbTONOS"),
  (0x38a, "vcaIOTAbTONOS,,vcaOMICRONbTONOS,,vcaUPSILONbTONOS,vcaOMEGAbTONOS"),
  (0x390, "veaIOTAbDIALYTIKAmTONOS,vcaALPHA,vcaBETA,vcaGAMMA,vcaDELTA,vcaEPSILON,vcaZETA"),
  (0x397, "vcaETA,vcaTHETA,vcaIOTA,vcaKAPPA,vcaLAMDA,vcaMU,vcaNU,vcaXI,vcaOMICRON,vcaPI"),
  (0x3a1, "vcaRHO,,vcaSIGMA,vcaTAU,vcaUPSILON,vcaPHI,vcaCHI,vcaPSI,vcaOMEGA"),
  (0x3aa, "vcaIOTAbDIALYTIKA,vcaUPSILONbDIALYTIKA,veaALPHAbTONOS,veaEPSILONbTONOS"),
  (0x3ae, "veaETAbTONOS,veaIOTAbTONOS,veaUPSILONbDIALYTIKAmTONOS,veaALPHA,veaBETA,veaGAMMA"),
  (0x3b4, "veaDELTA,veaEPSILON,veaZETA,veaETA,veaTHETA,veaIOTA,veaKAPPA,veaLAMDA,veaMU"),
  (0x3bd, "veaNU,veaXI,veaOMICRON,veaPI,veaRHO,veaFINAL SIGMA,veaSIGMA,veaTAU,veaUPSILON"),
  (0x3c6, "veaPHI,veaCHI,veaPSI,veaOMEGA,veaIOTAbDIALYTIKA,veaUPSILONbDIALYTIKA"),
  (0x3cc, "veaOMICRONbTONOS,veaUPSILONbTONOS,veaOMEGAbTONOS,vc KAIr,v BETAr,v THETAr"),
  (0x3d2, "v UPSILONbHOOKr,v UPSILONbACUTEmHOOKr,v UPSILONbDIAERESISmHOOKr,v PHIr,v PIr"),
  (0x3d7, "v KAIr,vaARCHAIC KOPPA,veaARCHAIC KOPPA,vaSTIGMA,veaSTIGMA,vaDIGAMMA,veaDIGAMMA"),
  (0x3de, "vaKOPPA,veaKOPPA,vaSAMPI,veaSAMPI,COPTICcaSHEI,COPTICeaSHEI,COPTICcaFEI"),
  (0x3e5, "COPTICeaFEI,COPTICcaKHEI,COPTICeaKHEI,COPTICcaHORI,COPTICeaHORI,COPTICcaGANGIA"),
  (0x3eb, "COPTICeaGANGIA,COPTICcaSHIMA,COPTICeaSHIMA,COPTICcaDEI,COPTICeaDEI,v KAPPAr"),
  (0x3f1, "v RHOr,v LUNATE SIGMAr,vaYOT,vc THETAr,v LUNATE EPSILONr"),
  (0x3f6, "v REVERSED LUNATE EPSILONr,vcaSHO,veaSHO,vc LUNATE SIGMAr,vcaSAN,veaSAN"),
  (0x3fc, "v RHObSTROKEr,vc REVERSED LUNATE SIGMAr,vc DOTTED LUNATE SIGMAr"),
  (0x3ff, "vc REVERSED DOTTED LUNATE SIGMAr"),
  (0x400, "icaIEbGRAVE,icaIO,icaDJE,icaGJE,icaUKRAINIAN IE,icaDZE"),
  (0x406, "icaBYELORUSSIAN-UKRAINIAN I,icaYI,icaJE,icaLJE,icaNJE,icaTSHE,icaKJE,icaIbGRAVE"),
  (0x40e, "icaSHORT U,icaDZHE,icaA,icaBE,icaVE,icaGHE,icaDE,icaIE,icaZHE,icaZE,icaI"),
  (0x419, "icaSHORT I,icaKA,icaEL,icaEM,icaEN,icaO,icaPE,icaER,icaES,icaTE,icaU,icaEF,icaHA"),
  (0x426, "icaTSE,icaCHE,icaSHA,icaSHCHA,icaHARDs,icaYERU,icaSOFTs,icaE,icaYU,icaYA,ieaA"),
  (0x431, "ieaBE,ieaVE,ieaGHE,ieaDE,ieaIE,ieaZHE,ieaZE,ieaI,ieaSHORT I,ieaKA,ieaEL,ieaEM"),
  (0x43d, "ieaEN,ieaO,ieaPE,ieaER,ieaES,ieaTE,ieaU,ieaEF,ieaHA,ieaTSE,ieaCHE,ieaSHA"),
  (0x449, "ieaSHCHA,ieaHARDs,ieaYERU,ieaSOFTs,ieaE,ieaYU,ieaYA,ieaIEbGRAVE,ieaIO,ieaDJE"),
  (0x453, "ieaGJE,ieaUKRAINIAN IE,ieaDZE,ieaBYELORUSSIAN-UKRAINIAN I,ieaYI,ieaJE,ieaLJE"),
  (0x45a, "ieaNJE,ieaTSHE,ieaKJE,ieaIbGRAVE,ieaSHORT U,ieaDZHE"),
  (0x5d0, "HEBREWaALEF,HEBREWaBET,HEBREWaGIMEL,HEBREWaDALET,HEBREWaHE,HEBREWaVAV"),
  (0x5d6, "HEBREWaZAYIN,HEBREWaHET,HEBREWaTET,HEBREWaYOD,HEBREWaFINAL KAF,HEBREWaKAF"),
  (0x5dc, "HEBREWaLAMED,HEBREWaFINAL MEM,HEBREWaMEM,HEBREWaFINAL NUN,HEBREWaNUN"),
  (0x5e1, "HEBREWaSAMEKH,HEBREWaAYIN,HEBREWaFINAL PE,HEBREWaPE,HEBREWaFINAL TSADI"),
  (0x5e6, "HEBREWaTSADI,HEBREWaQOF,HEBREWaRESH,HEBREWaSHIN,HEBREWaTAV"),
  (0x621, "ARABICaHAMZA,ARABICaALEFbMADDA ABOVE,ARABICaALEFbHAMZA ABOVE"),
  (0x624, "ARABICaWAWbHAMZA ABOVE,ARABICaALEFbHAMZA BELOW,ARABICaYEHbHAMZA ABOVE"),
  (0x627, "ARABICaALEF,ARABICaBEH,ARABICaTEH MARBUTA,ARABICaTEH,ARABICaTHEH,ARABICaJEEM"),
  (0x62d, "ARABICaHAH,ARABICaKHAH,ARABICaDAL,ARABICaTHAL,ARABICaREH,ARABICaZAIN,ARABICaSEEN"),
  (0x634, "ARABICaSHEEN,ARABICaSAD,ARABICaDAD,ARABICaTAH,ARABICaZAH,ARABICaAIN,ARABICaGHAIN"),
  (0x63b, "ARABICaKEHEHbTWO DOTS ABOVE,ARABICaKEHEHbTHREE DOTS BELOW"),
  (0x63d, "ARABICaFARSI YEHbINVERTED V,ARABICaFARSI YEHbTWO DOTS ABOVE"),
  (0x63f, "ARABICaFARSI YEHbTHREE DOTS ABOVE,ARABIC TATWEEL,ARABICaFEH,ARABICaQAF"),
  (0x643, "ARABICaKAF,ARABICaLAM,ARABICaMEEM,ARABICaNOON,ARABICaHEH,ARABICaWAW"),
  (0x649, "ARABICaALEF MAKSURA,ARABICaYEH"),
  (0x1e9e, "fcaSHARP S"),
  (0x2000, "EN QUAD,EM QUAD,EN SPACE,EM SPACE,THREE-PER-EM SPACE,FOUR-PER-EM SPACE"),
  (0x2006, "SIX-PER-EM SPACE,FIGURE SPACE,PUNCTUATION SPACE,THIN SPACE,HAIR SPACE"),
  (0x200b, "ZERO WIDTH SPACE,ZERO WIDTH NON-JOINER,ZERO WIDTH JOINER,LEFT-TO-n MARK"),
  (0x200f, "n-TO-qMARK,HYPHEN,NON-BREAKING HYPHEN,FIGURE DASH,EN DASH,EM DASH,HORIZONTAL BAR"),
  (0x2016, "t x LINE,t LOW LINE,qSINGLE QUOTATION MARK,n SINGLE QUOTATION MARK"),
  (0x201a, "SINGLE LOW-9 QUOTATION MARK,SINGLE HIGH-REVERSED-9 QUOTATION MARK"),
  (0x201c, "qt QUOTATION MARK,n t QUOTATION MARK,t LOW-9 QUOTATION MARK"),
  (0x201f, "t HIGH-REVERSED-9 QUOTATION MARK,DAGGER,t DAGGER,BULLET,TRIANGULAR BULLET"),
  (0x2024, "ONE DOT LEADER,TWO DOT LEADER,HORIZONTAL ELLIPSIS,HYPHENATION POINT"),
  (0x2028, "LINE SEPARATOR,PARAGRAPH SEPARATOR,LEFT-TO-n EMBEDDING,n-TO-qEMBEDDING"),
  (0x202c, "POP DIRECTIONAL FORMATTING,LEFT-TO-n OVERRIDE,n-TO-qOVERRIDE"),
  (0x202f, "NARROW NO-BREAK SPACE,PER MILLEs,PER TEN THOUSANDs,PRIME,t PRIME,TRIPLE PRIME"),
  (0x2035, "REVERSED PRIME,REVERSED t PRIME,REVERSED TRIPLE PRIME,CARET"),
  (0x2039, "SINGLE LEFT-POINTING ANGLE QUOTATION MARK,SINGLE n-POINTING ANGLE QUOTATION MARK"),
  (0x203b, "REFERENCE MARK,t EXCLAMATION MARK,INTERROBANG,OVERLINE,UNDERTIE,CHARACTER TIE"),
  (0x2041, "CARET INSERTION POINT,ASTERISM,HYPHEN BULLET,FRACTION SLASH"),
  (0x2045, "qSQUARE BRACKETbQUILL,n SQUARE BRACKETbQUILL,t QUESTION MARK"),
  (0x2048, "QUESTION EXCLAMATION MARK,EXCLAMATION QUESTION MARK,TIRONIANs ET"),
  (0x204b, "REVERSED PILCROWs,oLEFTWARDS BULLET,ol BULLET,LOW ASTERISK,REVERSED SEMICOLON"),
  (0x2050, "CLOSE UP,TWO ASTERISKS ALIGNED xLY,COMMERCIAL MINUSs,SWUNG DASH"),
  (0x2054, "INVERTED UNDERTIE,FLOWER PUNCTUATION MARK,THREE DOT PUNCTUATION,QUADRUPLE PRIME"),
  (0x2058, "FOUR DOT PUNCTUATION,FIVE DOT PUNCTUATION,TWO DOT PUNCTUATION,FOUR DOT MARK"),
  (0x205c, "DOTTED CROSS,TRICOLON,x FOUR DOTS,MEDIUM MATHEMATICAL SPACE,WORD JOINER"),
  (0x2061, "FUNCTION APPLICATION,INVISIBLE TIMES,INVISIBLE SEPARATOR,INVISIBLE PLUS,"),
  (0x2066, "LEFT-TO-n ISOLATE,n-TO-qISOLATE,FIRST STRONG ISOLATE,POP DIRECTIONAL ISOLATE"),
  (0x206a, "INHIBIT SYMMETRIC SWAPPING,ACTIVATE SYMMETRIC SWAPPING"),
  (0x206c, "INHIBIT ARABIC FORM SHAPING,ACTIVATE ARABIC FORM SHAPING,NATIONAL DIGIT SHAPES"),
  (0x206f, "NOMINAL DIGIT SHAPES"),
  (0x2070, "SUPERSCRIPT ZERO,SUPERSCRIPT feaI,,,SUPERSCRIPT FOUR,SUPERSCRIPT FIVE"),
  (0x2076, "SUPERSCRIPT SIX,SUPERSCRIPT SEVEN,SUPERSCRIPT EIGHT,SUPERSCRIPT NINE"),
  (0x207a, "SUPERSCRIPT PLUSs,SUPERSCRIPT MINUS,SUPERSCRIPT EQUALSs,SUPERSCRIPT qPARENTHESIS"),
  (0x207e, "SUPERSCRIPT n PARENTHESIS,SUPERSCRIPT feaN,SUBSCRIPT ZERO,SUBSCRIPT ONE"),
  (0x2082, "SUBSCRIPT TWO,SUBSCRIPT THREE,SUBSCRIPT FOUR,SUBSCRIPT FIVE,SUBSCRIPT SIX"),
  (0x2087, "SUBSCRIPT SEVEN,SUBSCRIPT EIGHT,SUBSCRIPT NINE,SUBSCRIPT PLUSs,SUBSCRIPT MINUS"),
  (0x208c, "SUBSCRIPT EQUALSs,SUBSCRIPT qPARENTHESIS,SUBSCRIPT n PARENTHESIS,,f SUBSCRIPTeaA"),
  (0x2091, "f SUBSCRIPTeaE,f SUBSCRIPTeaO,f SUBSCRIPTeaX,f SUBSCRIPTeaSCHWA,f SUBSCRIPTeaH"),
  (0x2096, "f SUBSCRIPTeaK,f SUBSCRIPTeaL,f SUBSCRIPTeaM,f SUBSCRIPTeaN,f SUBSCRIPTeaP"),
  (0x209b, "f SUBSCRIPTeaS,f SUBSCRIPTeaT"),
  (0x20a0, "EURO-CURRENCYs,COLONs,CRUZEIROs,FRENCH FRANCs,LIRAs,MILLs,NAIRAs,PESETAs,RUPEEs"),
  (0x20a9, "WONs,NEW SHEQELs,DONGs,EUROs,KIPs,TUGRIKs,DRACHMAs,GERMAN PENNYs,PESOs,GUARANIs"),
  (0x20b3, "AUSTRALs,HRYVNIAs,CEDIs,LIVRE TOURNOISs,SPESMILOs,TENGEs,INDIAN RUPEEs"),
  (0x20ba, "TURKISH LIRAs,NORDIC MARKs,MANATs,RUBLEs,LARIs,BITCOINs,SOMs"),
  (0x2100, "ACCOUNT OF,ADDRESSED TO THE SUBJECT,t-STRUCKc C,DEGREE CELSIUS,CENTRE LINEr"),
  (0x2105, "CARE OF,CADA UNA,EULER CONSTANT,SCRUPLE,DEGREE FAHRENHEIT,SCRIPTe G,SCRIPTc H"),
  (0x210c, "BLACK-LETTERc H,t-STRUCKc H,PLANCK CONSTANT,PLANCK CONSTANT OVER TWO PI"),
  (0x2110, "SCRIPTc I,BLACK-LETTERc I,SCRIPTc L,SCRIPTe L,L B BARr,t-STRUCKc N,NUMEROs"),
  (0x2117, "SOUND RECORDING COPYn,SCRIPTc P,t-STRUCKc P,t-STRUCKc Q,SCRIPTc R"),
  (0x211c, "BLACK-LETTERc R,t-STRUCKc R,PRESCRIPTION TAKE,RESPONSE,SERVICE MARK,TELEPHONEs"),
  (0x2122, "TRADE MARKs,VERSICLE,t-STRUCKc Z,OUNCEs,OHMs,INVERTED OHMs,BLACK-LETTERc Z"),
  (0x2129, "TURNED veaIOTA,KELVINs,ANGSTROMs,SCRIPTc B,BLACK-LETTERc C,ESTIMATEDr,SCRIPTe E"),
  (0x2130, "SCRIPTc E,SCRIPTc F,TURNEDc F,SCRIPTc M,SCRIPTe O,ALEFr,BETr,GIMELr,DALETr"),
  (0x2139, "INFORMATION SOURCE,ROTATEDc Q,FACSIMILEs,t-STRUCKe PI,t-STRUCKe GAMMA"),
  (0x213e, "t-STRUCKc GAMMA,t-STRUCKc PI,t-STRUCK N-ARY SUMMATION,TURNED SANS-SERIFc G"),
  (0x2142, "TURNED SANS-SERIFc L,REVERSED SANS-SERIFc L,TURNED SANS-SERIFc Y"),
  (0x2145, "t-STRUCK ITALICc D,t-STRUCK ITALICe D,t-STRUCK ITALICe E,t-STRUCK ITALICe I"),
  (0x2149, "t-STRUCK ITALICe J,PROPERTY LINE,TURNED AMPERSAND,PERs,AKTIESELSKAB,TURNEDe F"),
  (0x214f, "SYMBOL FOR SAMARITAN SOURCE,VULGAR FRACTION ONE SEVENTH"),
  (0x2151, "VULGAR FRACTION ONE NINTH,VULGAR FRACTION ONE TENTH,VULGAR FRACTION ONE THIRD"),
  (0x2154, "VULGAR FRACTION TWO THIRDS,VULGAR FRACTION ONE FIFTH,VULGAR FRACTION TWO FIFTHS"),
  (0x2157, "VULGAR FRACTION THREE FIFTHS,VULGAR FRACTION FOUR FIFTHS"),
  (0x2159, "VULGAR FRACTION ONE SIXTH,VULGAR FRACTION FIVE SIXTHS,VULGAR FRACTION ONE EIGHTH"),
  (0x215c, "VULGAR FRACTION THREE EIGHTHS,VULGAR FRACTION FIVE EIGHTHS"),
  (0x215e, "VULGAR FRACTION SEVEN EIGHTHS,FRACTION NUMERATOR ONE,uONE,uTWO,uTHREE,uFOUR"),
  (0x2164, "uFIVE,uSIX,uSEVEN,uEIGHT,uNINE,uTEN,uELEVEN,uTWELVE,uFIFTY,uONE HUNDRED"),
  (0x216e, "uFIVE HUNDRED,uONE THOUSAND,SMALL uONE,SMALL uTWO,SMALL uTHREE,SMALL uFOUR"),
  (0x2174, "SMALL uFIVE,SMALL uSIX,SMALL uSEVEN,SMALL uEIGHT,SMALL uNINE,SMALL uTEN"),
  (0x217a, "SMALL uELEVEN,SMALL uTWELVE,SMALL uFIFTY,SMALL uONE HUNDRED,SMALL uFIVE HUNDRED"),
  (0x217f, "SMALL uONE THOUSAND,uONE THOUSAND C D,uFIVE THOUSAND,uTEN THOUSAND"),
  (0x2183, "uREVERSED ONE HUNDRED,feaREVERSED C,uSIX LATE FORM,uFIFTY EARLY FORM"),
  (0x2187, "uFIFTY THOUSAND,uONE HUNDRED THOUSAND,VULGAR FRACTION ZERO THIRDS"),
  (0x218a, "TURNED DIGIT TWO,TURNED DIGIT THREE"),
  (0x2190, "LEFTWARDSg,UPWARDSg,lg,DOWNWARDSg,qng,UP DOWNg,NORTH WESTg,NORTH EASTg"),
  (0x2198, "SOUTH EASTg,SOUTH WESTg,LEFTWARDSgbSTROKE,lgbSTROKE,LEFTWARDS WAVEg,l WAVEg"),
  (0x219e, "LEFTWARDS TWO HEADEDg,UPWARDS TWO HEADEDg,l TWO HEADEDg,DOWNWARDS TWO HEADEDg"),
  (0x21a2, "LEFTWARDSgbTAIL,lgbTAIL,LEFTWARDSg FROM BAR,UPWARDSg FROM BAR,lg FROM BAR"),
  (0x21a7, "DOWNWARDSg FROM BAR,UP DOWNgbBASE,LEFTWARDSgbHOOK,lgbHOOK,LEFTWARDSgbLOOP"),
  (0x21ac, "lgbLOOP,qn WAVEg,qngbSTROKE,DOWNWARDS ZIGZAGg,UPWARDSgbTIP LEFTWARDS"),
  (0x21b1, "UPWARDSgbTIP l,DOWNWARDSgbTIP LEFTWARDS,DOWNWARDSgbTIP l,lgbCORNER DOWNWARDS"),
  (0x21b5, "DOWNWARDSgbCORNER LEFTWARDS,ANTICLOCKWISE TOP SEMICIRCLEg"),
  (0x21b7, "CLOCKWISE TOP SEMICIRCLEg,NORTH WESTg TO LONG BAR"),
  (0x21b9, "LEFTWARDSg TO BAR OVER lg TO BAR,ANTICLOCKWISE OPEN CIRCLEg"),
  (0x21bb, "CLOCKWISE OPEN CIRCLEg,LEFTWARDS HARPOONbBARB UPWARDS"),
  (0x21bd, "LEFTWARDS HARPOONbBARB DOWNWARDS,UPWARDS HARPOONbBARB l"),
  (0x21bf, "UPWARDS HARPOONbBARB LEFTWARDS,l HARPOONbBARB UPWARDS,l HARPOONbBARB DOWNWARDS"),
  (0x21c2, "DOWNWARDS HARPOONbBARB l,DOWNWARDS HARPOONbBARB LEFTWARDS,lg OVER LEFTWARDSg"),
  (0x21c5, "UPWARDSg LEFTWARDS OF DOWNWARDSg,LEFTWARDSg OVER lg,LEFTWARDS PAIREDgS"),
  (0x21c8, "UPWARDS PAIREDgS,l PAIREDgS,DOWNWARDS PAIREDgS,LEFTWARDS HARPOON OVER l HARPOON"),
  (0x21cc, "l HARPOON OVER LEFTWARDS HARPOON,LEFTWARDS tgbSTROKE,qn tgbSTROKE,l tgbSTROKE"),
  (0x21d0, "LEFTWARDS tg,UPWARDS tg,l tg,DOWNWARDS tg,qn tg,UP DOWN tg,NORTH WEST tg"),
  (0x21d7, "NORTH EAST tg,SOUTH EAST tg,SOUTH WEST tg,LEFTWARDS TRIPLEg,l TRIPLEg"),
  (0x21dc, "LEFTWARDS SQUIGGLEg,l SQUIGGLEg,UPWARDSgbt STROKE,DOWNWARDSgbt STROKE"),
  (0x21e0, "LEFTWARDS DASHEDg,UPWARDS DASHEDg,l DASHEDg,DOWNWARDS DASHEDg,LEFTWARDSg TO BAR"),
  (0x21e5, "lg TO BAR,LEFTWARDS WHITEg,UPWARDS WHITEg,l WHITEg,DOWNWARDS WHITEg"),
  (0x21ea, "UPWARDS WHITEg FROM BAR,UPWARDS WHITEg ON PEDESTAL"),
  (0x21ec, "UPWARDS WHITEg ON PEDESTALbHORIZONTAL BAR,UPWARDS WHITEg ON PEDESTALbx BAR"),
  (0x21ee, "UPWARDS htg,UPWARDS htg ON PEDESTAL,l WHITEg FROM WALL,NORTH WESTg TO CORNER"),
  (0x21f2, "SOUTH EASTg TO CORNER,UP DOWN WHITEg,ngbSMALL CIRCLE"),
  (0x21f5, "DOWNWARDSg LEFTWARDS OF UPWARDSg,THREE lgS,LEFTWARDSgbx STROKE,lgbx STROKE"),
  (0x21f9, "qngbx STROKE,LEFTWARDSgbt x STROKE,lgbt x STROKE,qngbt x STROKE"),
  (0x21fd, "LEFTWARDS OPEN-HEADEDg,l OPEN-HEADEDg,qn OPEN-HEADEDg"),
  (0x2200, "FOR ALL,COMPLEMENT,PARTIAL DIFFERENTIAL,THERE EXISTS,THERE DOES NOT EXIST"),
  (0x2205, "EMPTY SET,INCREMENT,NABLA,ELEMENT OF,NOT AN ELEMENT OF,SMALL ELEMENT OF"),
  (0x220b, "CONTAINS AS MEMBER,DOES NOT CONTAIN AS MEMBER,SMALL CONTAINS AS MEMBER"),
  (0x220e, "END OF PROOF,N-ARY PRODUCT,N-ARY COPRODUCT,N-ARY SUMMATION,MINUSs,MINUS-OR-PLUSs"),
  (0x2214, "DOT PLUS,DIVISION SLASH,SET MINUS,ASTERISK OPERATOR,RING OPERATOR"),
  (0x2219, "BULLET OPERATOR,SQUARE ROOT,CUBE ROOT,FOURTH ROOT,PROPORTIONAL TO,INFINITY"),
  (0x221f, "n ANGLE,ANGLE,MEASURED ANGLE,SPHERICAL ANGLE,DIVIDES,DOES NOT DIVIDE,PARALLEL TO"),
  (0x2226, "NOT PARALLEL TO,LOGICAL AND,LOGICAL OR,INTERSECTION,UNION,INTEGRAL,t INTEGRAL"),
  (0x222d, "TRIPLE INTEGRAL,CONTOUR INTEGRAL,SURFACE INTEGRAL,VOLUME INTEGRAL"),
  (0x2231, "CLOCKWISE INTEGRAL,CLOCKWISE CONTOUR INTEGRAL,ANTICLOCKWISE CONTOUR INTEGRAL"),
  (0x2234, "THEREFORE,BECAUSE,RATIO,PROPORTION,DOT MINUS,EXCESS,GEOMETRIC PROPORTION"),
  (0x223b, "HOMOTHETIC,TILDE OPERATOR,REVERSED TILDE,INVERTED LAZY S,SINE WAVE"),
  (0x2240, "WREATH PRODUCT,NOT TILDE,MINUS TILDE,ASYMPTOTICALLY EQUAL TO"),
  (0x2244, "NOT ASYMPTOTICALLY EQUAL TO,APPROXIMATELY EQUAL TO"),
  (0x2246, "APPROXIMATELY BUT NOT ACTUALLY EQUAL TO"),
  (0x2247, "NEITHER APPROXIMATELY NOR ACTUALLY EQUAL TO,ALMOST EQUAL TO,NOT ALMOST EQUAL TO"),
  (0x224a, "ALMOST EQUAL OR EQUAL TO,TRIPLE TILDE,ALL EQUAL TO,EQUIVALENT TO"),
  (0x224e, "GEOMETRICALLY EQUIVALENT TO,DIFFERENCE BETWEEN,APPROACHES THE LIMIT"),
  (0x2251, "GEOMETRICALLY EQUAL TO,APPROXIMATELY EQUAL TO OR THE IMAGE OF"),
  (0x2253, "IMAGE OF OR APPROXIMATELY EQUAL TO,COLON EQUALS,EQUALS COLON,RING IN EQUAL TO"),
  (0x2257, "RING EQUAL TO,CORRESPONDS TO,ESTIMATES,EQUIANGULAR TO,STAR EQUALS,DELTA EQUAL TO"),
  (0x225d, "EQUAL TO BY DEFINITION,MEASURED BY,QUESTIONED EQUAL TO,NOT EQUAL TO,IDENTICAL TO"),
  (0x2262, "NOT IDENTICAL TO,STRICTLY EQUIVALENT TO,LESS-THAN OR EQUAL TO"),
  (0x2265, "GREATER-THAN OR EQUAL TO,LESS-THAN OVER EQUAL TO,GREATER-THAN OVER EQUAL TO"),
  (0x2268, "LESS-THAN BUT NOT EQUAL TO,GREATER-THAN BUT NOT EQUAL TO,MUCH LESS-THAN"),
  (0x226b, "MUCH GREATER-THAN,BETWEEN,NOT EQUIVALENT TO,NOT LESS-THAN,NOT GREATER-THAN"),
  (0x2270, "NEITHER LESS-THAN NOR EQUAL TO,NEITHER GREATER-THAN NOR EQUAL TO"),
  (0x2272, "LESS-THAN OR EQUIVALENT TO,GREATER-THAN OR EQUIVALENT TO"),
  (0x2274, "NEITHER LESS-THAN NOR EQUIVALENT TO,NEITHER GREATER-THAN NOR EQUIVALENT TO"),
  (0x2276, "LESS-THAN OR GREATER-THAN,GREATER-THAN OR LESS-THAN"),
  (0x2278, "NEITHER LESS-THAN NOR GREATER-THAN,NEITHER GREATER-THAN NOR LESS-THAN,PRECEDES"),
  (0x227b, "SUCCEEDS,PRECEDES OR EQUAL TO,SUCCEEDS OR EQUAL TO,PRECEDES OR EQUIVALENT TO"),
  (0x227f, "SUCCEEDS OR EQUIVALENT TO,DOES NOT PRECEDE,DOES NOT SUCCEED,SUBSET OF"),
  (0x2283, "SUPERSET OF,NOT A SUBSET OF,NOT A SUPERSET OF,SUBSET OF OR EQUAL TO"),
  (0x2287, "SUPERSET OF OR EQUAL TO,NEITHER A SUBSET OF NOR EQUAL TO"),
  (0x2289, "NEITHER A SUPERSET OF NOR EQUAL TO,SUBSET OFbNOT EQUAL TO"),
  (0x228b, "SUPERSET OFbNOT EQUAL TO,MULTISET,MULTISET MULTIPLICATION,MULTISET UNION"),
  (0x228f, "SQUARE IMAGE OF,SQUARE ORIGINAL OF,SQUARE IMAGE OF OR EQUAL TO"),
  (0x2292, "SQUARE ORIGINAL OF OR EQUAL TO,SQUARE CAP,SQUARE CUP,yPLUS,yMINUS,yTIMES"),
  (0x2298, "yDIVISION SLASH,yDOT OPERATOR,yRING OPERATOR,yASTERISK OPERATOR,yEQUALS,yDASH"),
  (0x229e, "SQUARED PLUS,SQUARED MINUS,SQUARED TIMES,SQUARED DOT OPERATOR,n TACK,qTACK"),
  (0x22a4, "DOWN TACK,UP TACK,ASSERTION,MODELS,TRUE,FORCES,TRIPLE x BAR n TURNSTILE"),
  (0x22ab, "t x BAR t n TURNSTILE,DOES NOT PROVE,NOT TRUE,DOES NOT FORCE"),
  (0x22af, "NEGATED t x BAR t n TURNSTILE,PRECEDES UNDER RELATION,SUCCEEDS UNDER RELATION"),
  (0x22b2, "NORMAL SUBGROUP OF,CONTAINS AS NORMAL SUBGROUP,NORMAL SUBGROUP OF OR EQUAL TO"),
  (0x22b5, "CONTAINS AS NORMAL SUBGROUP OR EQUAL TO,ORIGINAL OF,IMAGE OF,MULTIMAP"),
  (0x22b9, "HERMITIAN CONJUGATE MATRIX,INTERCALATE,XOR,NAND,NOR,n ANGLEbARC,n TRIANGLE"),
  (0x22c0, "N-ARY LOGICAL AND,N-ARY LOGICAL OR,N-ARY INTERSECTION,N-ARY UNION"),
  (0x22c4, "DIAMOND OPERATOR,DOT OPERATOR,STAR OPERATOR,DIVISION TIMES,BOWTIE"),
  (0x22c9, "qNORMAL FACTOR SEMIDIRECT PRODUCT,n NORMAL FACTOR SEMIDIRECT PRODUCT"),
  (0x22cb, "qSEMIDIRECT PRODUCT,n SEMIDIRECT PRODUCT,REVERSED TILDE EQUALS,CURLY LOGICAL OR"),
  (0x22cf, "CURLY LOGICAL AND,t SUBSET,t SUPERSET,t INTERSECTION,t UNION,PITCHFORK"),
  (0x22d5, "EQUALmPARALLEL TO,LESS-THANbDOT,GREATER-THANbDOT,VERY MUCH LESS-THAN"),
  (0x22d9, "VERY MUCH GREATER-THAN,LESS-THAN EQUAL TO OR GREATER-THAN"),
  (0x22db, "GREATER-THAN EQUAL TO OR LESS-THAN,EQUAL TO OR LESS-THAN"),
  (0x22dd, "EQUAL TO OR GREATER-THAN,EQUAL TO OR PRECEDES,EQUAL TO OR SUCCEEDS"),
  (0x22e0, "DOES NOT PRECEDE OR EQUAL,DOES NOT SUCCEED OR EQUAL"),
  (0x22e2, "NOT SQUARE IMAGE OF OR EQUAL TO,NOT SQUARE ORIGINAL OF OR EQUAL TO"),
  (0x22e4, "SQUARE IMAGE OF OR NOT EQUAL TO,SQUARE ORIGINAL OF OR NOT EQUAL TO"),
  (0x22e6, "LESS-THAN BUT NOT EQUIVALENT TO,GREATER-THAN BUT NOT EQUIVALENT TO"),
  (0x22e8, "PRECEDES BUT NOT EQUIVALENT TO,SUCCEEDS BUT NOT EQUIVALENT TO"),
  (0x22ea, "NOT NORMAL SUBGROUP OF,DOES NOT CONTAIN AS NORMAL SUBGROUP"),
  (0x22ec, "NOT NORMAL SUBGROUP OF OR EQUAL TO,DOES NOT CONTAIN AS NORMAL SUBGROUP OR EQUAL"),
  (0x22ee, "x ELLIPSIS,MIDLINE HORIZONTAL ELLIPSIS,UP n DIAGONAL ELLIPSIS"),
  (0x22f1, "DOWN n DIAGONAL ELLIPSIS,ELEMENT OFbLONG HORIZONTAL STROKE"),
  (0x22f3, "ELEMENT OFbx BAR AT END OF HORIZONTAL STROKE"),
  (0x22f4, "SMALL ELEMENT OFbx BAR AT END OF HORIZONTAL STROKE,ELEMENT OFbDOT ABOVE"),
  (0x22f6, "ELEMENT OFbOVERBAR,SMALL ELEMENT OFbOVERBAR,ELEMENT OFbUNDERBAR"),
  (0x22f9, "ELEMENT OFbTWO HORIZONTAL STROKES,CONTAINSbLONG HORIZONTAL STROKE"),
  (0x22fb, "CONTAINSbx BAR AT END OF HORIZONTAL STROKE"),
  (0x22fc, "SMALL CONTAINSbx BAR AT END OF HORIZONTAL STROKE,CONTAINSbOVERBAR"),
  (0x22fe, "SMALL CONTAINSbOVERBAR,Z NOTATION BAG MEMBERSHIP"),
  (0x2300, "DIAMETERs,ELECTRICg,HOUSE,UPgHEAD,DOWNgHEAD,PROJECTIVE,PERSPECTIVE,WAVY LINE"),
  (0x2308, "qCEILING,n CEILING,qFLOOR,n FLOOR,BOTTOM n CROP,BOTTOM qCROP,TOP n CROP"),
  (0x230f, "TOP qCROP,REVERSED NOTs,SQUARE LOZENGE,ARC,SEGMENT,SECTOR,TELEPHONE RECORDER"),
  (0x2316, "POSITION INDICATOR,VIEWDATA SQUARE,PLACE OF INTERESTs,TURNED NOTs,WATCH"),
  (0x231b, "HOURGLASS,TOP qCORNER,TOP n CORNER,BOTTOM qCORNER,BOTTOM n CORNER"),
  (0x2320, "TOP HALF INTEGRAL,BOTTOM HALF INTEGRAL,FROWN,SMILE"),
  (0x2324, "UPgHEAD BETWEEN TWO HORIZONTAL BARS,OPTION KEY,ERASE TO THE n"),
  (0x2327, "X IN A RECTANGLE BOX,KEYBOARD,LEFT-POINTING ANGLE BRACKET"),
  (0x232a, "n-POINTING ANGLE BRACKET,ERASE TO THE LEFT"),
  (0x23e9, "on-POINTING t TRIANGLE,oLEFT-POINTING t TRIANGLE,oUP-POINTING t TRIANGLE"),
  (0x23ec, "oDOWN-POINTING t TRIANGLE,on-POINTING t TRIANGLEbx BAR"),
  (0x23ee, "oLEFT-POINTING t TRIANGLEbx BAR,on-POINTING TRIANGLEbt x BAR,ALARM CLOCK"),
  (0x23f1, "STOPWATCH,TIMER CLOCK,HOURGLASSbFLOWING SAND,oMEDIUM LEFT-POINTING TRIANGLE"),
  (0x23f5, "oMEDIUM n-POINTING TRIANGLE,oMEDIUM UP-POINTING TRIANGLE"),
  (0x23f7, "oMEDIUM DOWN-POINTING TRIANGLE,t x BAR,oSQUARE FOR STOP,oCIRCLE FOR RECORD"),
  (0x2460, "yDIGIT ONE,yDIGIT TWO,yDIGIT THREE,yDIGIT FOUR,yDIGIT FIVE,yDIGIT SIX"),
  (0x2466, "yDIGIT SEVEN,yDIGIT EIGHT,yDIGIT NINE,yNUMBER TEN,yNUMBER ELEVEN,yNUMBER TWELVE"),
  (0x246c, "yNUMBER THIRTEEN,yNUMBER FOURTEEN,yNUMBER FIFTEEN,yNUMBER SIXTEEN"),
  (0x2470, "yNUMBER SEVENTEEN,yNUMBER EIGHTEEN,yNUMBER NINETEEN,yNUMBER TWENTY"),
  (0x2500, "dLIGHT HORIZONTAL,dw HORIZONTAL,dLIGHT x,dw x,dLIGHT TRIPLE DASH HORIZONTAL"),
  (0x2505, "dw TRIPLE DASH HORIZONTAL,dLIGHT TRIPLE DASH x,dw TRIPLE DASH x"),
  (0x2508, "dLIGHT QUADRUPLE DASH HORIZONTAL,dw QUADRUPLE DASH HORIZONTAL"),
  (0x250a, "dLIGHT QUADRUPLE DASH x,dw QUADRUPLE DASH x,dLIGHT DOWNmn,dDOWN LIGHTmn w"),
  (0x250e, "dDOWN wmn LIGHT,dw DOWNmn,dLIGHT DOWNmLEFT,dDOWN LIGHTmqw,dDOWN wmqLIGHT"),
  (0x2513, "dw DOWNmLEFT,dLIGHT UPmn,dUP LIGHTmn w,dUP wmn LIGHT,dw UPmn,dLIGHT UPmLEFT"),
  (0x2519, "dUP LIGHTmqw,dUP wmqLIGHT,dw UPmLEFT,dLIGHT xmn,dx LIGHTmn w,dUP wmn DOWN LIGHT"),
  (0x251f, "dDOWN wmn UP LIGHT,dx wmn LIGHT,dDOWN LIGHTmn UP w,dUP LIGHTmn DOWN w,dw xmn"),
  (0x2524, "dLIGHT xmLEFT,dx LIGHTmqw,dUP wmqDOWN LIGHT,dDOWN wmqUP LIGHT,dx wmqLIGHT"),
  (0x2529, "dDOWN LIGHTmqUP w,dUP LIGHTmqDOWN w,dw xmLEFT,dLIGHT DOWNmHORIZONTAL"),
  (0x252d, "dqwmn DOWN LIGHT,dn wmqDOWN LIGHT,dDOWN LIGHTmHORIZONTAL w"),
  (0x2530, "dDOWN wmHORIZONTAL LIGHT,dn LIGHTmqDOWN w,dqLIGHTmn DOWN w,dw DOWNmHORIZONTAL"),
  (0x2534, "dLIGHT UPmHORIZONTAL,dqwmn UP LIGHT,dn wmqUP LIGHT,dUP LIGHTmHORIZONTAL w"),
  (0x2538, "dUP wmHORIZONTAL LIGHT,dn LIGHTmqUP w,dqLIGHTmn UP w,dw UPmHORIZONTAL"),
  (0x253c, "dLIGHT xmHORIZONTAL,dqwmn x LIGHT,dn wmqx LIGHT,dx LIGHTmHORIZONTAL w"),
  (0x2540, "dUP wmDOWN HORIZONTAL LIGHT,dDOWN wmUP HORIZONTAL LIGHT,dx wmHORIZONTAL LIGHT"),
  (0x2543, "dqUP wmn DOWN LIGHT,dn UP wmqDOWN LIGHT,dqDOWN wmn UP LIGHT,dn DOWN wmqUP LIGHT"),
  (0x2547, "dDOWN LIGHTmUP HORIZONTAL w,dUP LIGHTmDOWN HORIZONTAL w,dn LIGHTmqx w"),
  (0x254a, "dqLIGHTmn x w,dw xmHORIZONTAL,dLIGHT t DASH HORIZONTAL,dw t DASH HORIZONTAL"),
  (0x254e, "dLIGHT t DASH x,dw t DASH x,dt HORIZONTAL,dt x,dDOWN SINGLEmn t,dDOWN tmn SINGLE"),
  (0x2554, "dt DOWNmn,dDOWN SINGLEmqt,dDOWN tmqSINGLE,dt DOWNmLEFT,dUP SINGLEmn t"),
  (0x2559, "dUP tmn SINGLE,dt UPmn,dUP SINGLEmqt,dUP tmqSINGLE,dt UPmLEFT,dx SINGLEmn t"),
  (0x255f, "dx tmn SINGLE,dt xmn,dx SINGLEmqt,dx tmqSINGLE,dt xmLEFT"),
  (0x2564, "dDOWN SINGLEmHORIZONTAL t,dDOWN tmHORIZONTAL SINGLE,dt DOWNmHORIZONTAL"),
  (0x2567, "dUP SINGLEmHORIZONTAL t,dUP tmHORIZONTAL SINGLE,dt UPmHORIZONTAL"),
  (0x256a, "dx SINGLEmHORIZONTAL t,dx tmHORIZONTAL SINGLE,dt xmHORIZONTAL,dLIGHT ARC DOWNmn"),
  (0x256e, "dLIGHT ARC DOWNmLEFT,dLIGHT ARC UPmLEFT,dLIGHT ARC UPmn"),
  (0x2571, "dLIGHT DIAGONAL UPPER n TO LOWER LEFT,dLIGHT DIAGONAL UPPER qTO LOWER n"),
  (0x2573, "dLIGHT DIAGONAL CROSS,dLIGHT LEFT,dLIGHT UP,dLIGHT n,dLIGHT DOWN,dw LEFT,dw UP"),
  (0x257a, "dw n,dw DOWN,dLIGHT LEFTmw n,dLIGHT UPmw DOWN,dw LEFTmLIGHT n,dw UPmLIGHT DOWN"),
  (0x2580, "UPPER HALF BLOCK,LOWER ONE EIGHTH BLOCK,LOWER ONE QUARTER BLOCK"),
  (0x2583, "LOWER THREE EIGHTHS BLOCK,LOWER HALF BLOCK,LOWER FIVE EIGHTHS BLOCK"),
  (0x2586, "LOWER THREE QUARTERS BLOCK,LOWER SEVEN EIGHTHS BLOCK,FULL BLOCK"),
  (0x2589, "qSEVEN EIGHTHS BLOCK,qTHREE QUARTERS BLOCK,qFIVE EIGHTHS BLOCK,qHALF BLOCK"),
  (0x258d, "qTHREE EIGHTHS BLOCK,qONE QUARTER BLOCK,qONE EIGHTH BLOCK,n HALF BLOCK"),
  (0x2591, "LIGHT SHADE,MEDIUM SHADE,DARK SHADE,UPPER ONE EIGHTH BLOCK,n ONE EIGHTH BLOCK"),
  (0x2596, "QUADRANT LOWER LEFT,QUADRANT LOWER n,QUADRANT UPPER LEFT"),
  (0x2599, "QUADRANT UPPER LEFTmLOWER LEFTmLOWER n,QUADRANT UPPER LEFTmLOWER n"),
  (0x259b, "QUADRANT UPPER LEFTmUPPER nmLOWER LEFT,QUADRANT UPPER LEFTmUPPER nmLOWER n"),
  (0x259d, "QUADRANT UPPER n,QUADRANT UPPER nmLOWER LEFT,QUADRANT UPPER nmLOWER LEFTmLOWER n"),
  (0x25a0, "oSQUARE,hSQUARE,hSQUAREbROUNDED CORNERS,hSQUARE CONTAINING BLACKe SQUARE"),
  (0x25a4, "SQUAREbHORIZONTAL FILL,SQUAREbx FILL,SQUAREbORTHOGONAL CROSSHATCH FILL"),
  (0x25a7, "SQUAREbUPPER qTO LOWER n FILL,SQUAREbUPPER n TO LOWER qFILL"),
  (0x25a9, "SQUAREbDIAGONAL CROSSHATCH FILL,BLACKe SQUARE,WHITEe SQUARE,oRECTANGLE"),
  (0x25ad, "hRECTANGLE,ox RECTANGLE,hx RECTANGLE,oPARALLELOGRAM,hPARALLELOGRAM"),
  (0x25b2, "oUP-POINTING TRIANGLE,hUP-POINTING TRIANGLE,oUP-POINTINGe TRIANGLE"),
  (0x25b5, "hUP-POINTINGe TRIANGLE,on-POINTING TRIANGLE,hn-POINTING TRIANGLE"),
  (0x25b8, "on-POINTINGe TRIANGLE,hn-POINTINGe TRIANGLE,on-POINTING POINTER"),
  (0x25bb, "hn-POINTING POINTER,oDOWN-POINTING TRIANGLE,hDOWN-POINTING TRIANGLE"),
  (0x25be, "oDOWN-POINTINGe TRIANGLE,hDOWN-POINTINGe TRIANGLE,oLEFT-POINTING TRIANGLE"),
  (0x25c1, "hLEFT-POINTING TRIANGLE,oLEFT-POINTINGe TRIANGLE,hLEFT-POINTINGe TRIANGLE"),
  (0x25c4, "oLEFT-POINTING POINTER,hLEFT-POINTING POINTER,oDIAMOND,hDIAMOND"),
  (0x25c8, "hDIAMOND CONTAINING BLACKe DIAMOND,FISHEYE,LOZENGE,hCIRCLE,DOTTED CIRCLE"),
  (0x25cd, "CIRCLEbx FILL,BULLSEYE,oCIRCLE,CIRCLEbqHALF BLACK,CIRCLEbn HALF BLACK"),
  (0x25d2, "CIRCLEbLOWER HALF BLACK,CIRCLEbUPPER HALF BLACK,CIRCLEbUPPER n QUADRANT BLACK"),
  (0x25d5, "CIRCLEbALL BUT UPPER qQUADRANT BLACK,qHALF oCIRCLE,n HALF oCIRCLE,INVERSE BULLET"),
  (0x25d9, "INVERSE hCIRCLE,UPPER HALF INVERSE hCIRCLE,LOWER HALF INVERSE hCIRCLE"),
  (0x25dc, "UPPER qQUADRANT CIRCULAR ARC,UPPER n QUADRANT CIRCULAR ARC"),
  (0x25de, "LOWER n QUADRANT CIRCULAR ARC,LOWER qQUADRANT CIRCULAR ARC,UPPER HALF CIRCLE"),
  (0x25e1, "LOWER HALF CIRCLE,oLOWER n TRIANGLE,oLOWER qTRIANGLE,oUPPER qTRIANGLE"),
  (0x25e5, "oUPPER n TRIANGLE,hBULLET,SQUAREbqHALF BLACK,SQUAREbn HALF BLACK"),
  (0x25e9, "SQUAREbUPPER qDIAGONAL HALF BLACK,SQUAREbLOWER n DIAGONAL HALF BLACK"),
  (0x25eb, "hSQUAREbx BISECTING LINE,hUP-POINTING TRIANGLEbDOT"),
  (0x25ed, "UP-POINTING TRIANGLEbqHALF BLACK,UP-POINTING TRIANGLEbn HALF BLACK,LARGE CIRCLE"),
  (0x25f0, "hSQUAREbUPPER qQUADRANT,hSQUAREbLOWER qQUADRANT,hSQUAREbLOWER n QUADRANT"),
  (0x25f3, "hSQUAREbUPPER n QUADRANT,hCIRCLEbUPPER qQUADRANT,hCIRCLEbLOWER qQUADRANT"),
  (0x25f6, "hCIRCLEbLOWER n QUADRANT,hCIRCLEbUPPER n QUADRANT,UPPER qTRIANGLE"),
  (0x25f9, "UPPER n TRIANGLE,LOWER qTRIANGLE,hMEDIUM SQUARE,oMEDIUM SQUARE,hMEDIUMe SQUARE"),
  (0x25fe, "oMEDIUMe SQUARE,LOWER n TRIANGLE"),
  (0x2600, "oSUNbRAYS,CLOUD,UMBRELLA,SNOWMAN,COMET,oSTAR,hSTAR,LIGHTNING,THUNDERSTORM,SUN"),
  (0x260a, "ASCENDING NODE,DESCENDING NODE,CONJUNCTION,OPPOSITION,oTELEPHONE,hTELEPHONE"),
  (0x2610, "BALLOT BOX,BALLOT BOXbCHECK,BALLOT BOXbX,SALTIRE,UMBRELLAbRAIN DROPS"),
  (0x2615, "HOT BEVERAGE,hSHOGI PIECE,oSHOGI PIECE,SHAMROCK"),
  (0x2619, "REVERSED ROTATED FLORAL HEART BULLET,oqPOINTING INDEX,on POINTING INDEX"),
  (0x261c, "hqPOINTING INDEX,hUP POINTING INDEX,hn POINTING INDEX,hDOWN POINTING INDEX"),
  (0x2620, "SKULLmCROSSBONES,CAUTIONs,RADIOACTIVEs,BIOHAZARDs,CADUCEUS,ANKH,ORTHODOX CROSS"),
  (0x2627, "CHI RHO,CROSS OF LORRAINE,CROSS OF JERUSALEM,STARmCRESCENT,FARSIr,ADI SHAKTI"),
  (0x262d, "HAMMERmSICKLE,PEACEr,YIN YANG,TRIGRAM FOR HEAVEN,TRIGRAM FOR LAKE"),
  (0x2632, "TRIGRAM FOR FIRE,TRIGRAM FOR THUNDER,TRIGRAM FOR WIND,TRIGRAM FOR WATER"),
  (0x2636, "TRIGRAM FOR MOUNTAIN,TRIGRAM FOR EARTH,WHEEL OF DHARMA,hFROWNING FACE"),
  (0x263a, "hSMILING FACE,oSMILING FACE,hSUNbRAYS,FIRST QUARTER MOON,LAST QUARTER MOON"),
  (0x263f, "MERCURY,FEMALEs,EARTH,MALEs,JUPITER,SATURN,URANUS,NEPTUNE,PLUTO,ARIES,TAURUS"),
  (0x264a, "GEMINI,CANCER,LEO,VIRGO,LIBRA,SCORPIUS,SAGITTARIUS,CAPRICORN,AQUARIUS,PISCES"),
  (0x2654, "hCHESS KING,hCHESS QUEEN,hCHESS ROOK,hCHESS BISHOP,hCHESS KNIGHT,hCHESS PAWN"),
  (0x265a, "oCHESS KING,oCHESS QUEEN,oCHESS ROOK,oCHESS BISHOP,oCHESS KNIGHT,oCHESS PAWN"),
  (0x2660, "oSPADE SUIT,hHEART SUIT,hDIAMOND SUIT,oCLUB SUIT,hSPADE SUIT,oHEART SUIT"),
  (0x2666, "oDIAMOND SUIT,hCLUB SUIT,HOT SPRINGS,QUARTER NOTE,EIGHTH NOTE"),
  (0x266b, "BEAMED EIGHTH NOTES,BEAMED SIXTEENTH NOTES,MUSIC FLATs,MUSIC NATURALs"),
  (0x266f, "MUSIC SHARPs,WEST SYRIAC CROSS,EAST SYRIAC CROSS,UNIVERSAL RECYCLINGr"),
  (0x2673, "RECYCLINGr FOR TYPE-1 PLASTICS,RECYCLINGr FOR TYPE-2 PLASTICS"),
  (0x2675, "RECYCLINGr FOR TYPE-3 PLASTICS,RECYCLINGr FOR TYPE-4 PLASTICS"),
  (0x2677, "RECYCLINGr FOR TYPE-5 PLASTICS,RECYCLINGr FOR TYPE-6 PLASTICS"),
  (0x2679, "RECYCLINGr FOR TYPE-7 PLASTICS,RECYCLINGr FOR GENERIC MATERIALS"),
  (0x267b, "oUNIVERSAL RECYCLINGr,RECYCLED PAPERr,PARTIALLY-RECYCLED PAPERr,PERMANENT PAPERs"),
  (0x267f, "WHEELCHAIRr,DIE FACE-1,DIE FACE-2,DIE FACE-3,DIE FACE-4,DIE FACE-5,DIE FACE-6"),
  (0x2686, "hCIRCLEbDOT n,hCIRCLEbTWO DOTS,oCIRCLEbhDOT n,oCIRCLEbTWO hDOTS"),
  (0x268a, "MONOGRAM FOR YANG,MONOGRAM FOR YIN,DIGRAM FOR GREATER YANG,DIGRAM FOR LESSER YIN"),
  (0x268e, "DIGRAM FOR LESSER YANG,DIGRAM FOR GREATER YIN,hFLAG,oFLAG,HAMMERmPICK,ANCHOR"),
  (0x2694, "CROSSED SWORDS,STAFF OF AESCULAPIUS,SCALES,ALEMBIC,FLOWER,GEAR,STAFF OF HERMES"),
  (0x269b, "ATOMr,FLEUR-DE-LIS,OUTLINED hSTAR,THREE LINES CONVERGING n"),
  (0x269f, "THREE LINES CONVERGING LEFT,WARNINGs,HIGH VOLTAGEs,tD FEMALEs,tD MALEs"),
  (0x26a4, "INTERLOCKED FEMALEmMALEs,MALEmFEMALEs,MALEbSTROKEs,MALEbSTROKEmMALEmFEMALEs"),
  (0x26a8, "x MALEbSTROKEs,HORIZONTAL MALEbSTROKEs,MEDIUM hCIRCLE,MEDIUM oCIRCLE"),
  (0x26ac, "MEDIUMe hCIRCLE,MARRIAGEr,DIVORCEr,UNMARRIED PARTNERSHIPr,COFFIN,FUNERAL URN"),
  (0x26b2, "NEUTER,CERES,PALLAS,JUNO,VESTA,CHIRON,oMOON LILITH,SEXTILE,SEMISEXTILE,QUINCUNX"),
  (0x26bc, "SESQUIQUADRATE,SOCCER BALL,BASEBALL,SQUARED KEY,hDRAUGHTS MAN,hDRAUGHTS KING"),
  (0x26c2, "oDRAUGHTS MAN,oDRAUGHTS KING,SNOWMAN WITHOUT SNOW,SUN BEHIND CLOUD,RAIN,oSNOWMAN"),
  (0x26c8, "THUNDER CLOUDmRAIN,TURNED hSHOGI PIECE,TURNED oSHOGI PIECE,hDIAMOND IN SQUARE"),
  (0x26cc, "CROSSING LANES,DISABLED CAR,OPHIUCHUS,PICK,CAR SLIDING,HELMETbhCROSS"),
  (0x26d2, "yCROSSING LANES,CHAINS,NO ENTRY,ALTERNATE ONE-WAY qWAY TRAFFIC"),
  (0x26d6, "oTWO-WAY qWAY TRAFFIC,hTWO-WAY qWAY TRAFFIC,oqLANE MERGE,hqLANE MERGE"),
  (0x26da, "DRIVE SLOWs,w hDOWN-POINTING TRIANGLE,qCLOSED ENTRY,SQUARED SALTIRE"),
  (0x26de, "FALLING DIAGONAL IN hCIRCLE IN oSQUARE,oTRUCK,RESTRICTED qENTRY-1"),
  (0x26e1, "RESTRICTED qENTRY-2,ASTRONOMICALr FOR URANUS,w CIRCLEbSTROKEmTWO DOTS ABOVE"),
  (0x26e4, "PENTAGRAM,n-HANDED INTERLACED PENTAGRAM,LEFT-HANDED INTERLACED PENTAGRAM"),
  (0x26e7, "INVERTED PENTAGRAM,oCROSS ON SHIELD,SHINTO SHRINE,CHURCH,CASTLE,HISTORIC SITE"),
  (0x26ed, "GEAR WITHOUT HUB,GEARbHANDLES,MAPr FOR LIGHTHOUSE,MOUNTAIN,UMBRELLA ON GROUND"),
  (0x26f2, "FOUNTAIN,FLAG IN HOLE,FERRY,SAILBOAT,SQUARE FOUR CORNERS,SKIER,ICE SKATE"),
  (0x26f9, "PERSONbBALL,TENT,JAPANESE BANKr,HEADSTONE GRAVEYARDr,FUEL PUMP,CUP ON oSQUARE"),
  (0x26ff, "hFLAGbHORIZONTAL MIDDLE oSTRIPE,oSAFETY SCISSORS,UPPER BLADE SCISSORS,oSCISSORS"),
  (0x2703, "LOWER BLADE SCISSORS,hSCISSORS,hw CHECK MARK,TELEPHONE LOCATIONs,TAPE DRIVE"),
  (0x2708, "AIRPLANE,ENVELOPE,RAISED FIST,RAISED HAND,VICTORY HAND,WRITING HAND"),
  (0x270e, "LOWER n PENCIL,PENCIL,UPPER n PENCIL,hNIB,oNIB,CHECK MARK,w CHECK MARK"),
  (0x2715, "MULTIPLICATION X,w MULTIPLICATION X,BALLOT X,w BALLOT X,OUTLINED v CROSS"),
  (0x271a, "w v CROSS,OPEN CENTRE CROSS,w OPEN CENTRE CROSS,f CROSS,SHADOWED hf CROSS"),
  (0x271f, "OUTLINED f CROSS,MALTESE CROSS,STAR OF DAVID,FOUR TEARDROP-SPOKED ASTERISK"),
  (0x2723, "FOUR BALLOON-SPOKED ASTERISK,w FOUR BALLOON-SPOKED ASTERISK"),
  (0x2725, "FOUR CLUB-SPOKED ASTERISK,oFOUR POINTED STAR,hFOUR POINTED STAR,SPARKLES"),
  (0x2729, "STRESS OUTLINED hSTAR,yhSTAR,OPEN CENTRE oSTAR,oCENTRE hSTAR,OUTLINED oSTAR"),
  (0x272e, "w OUTLINED oSTAR,PINWHEEL STAR,SHADOWED hSTAR,w ASTERISK,OPEN CENTRE ASTERISK"),
  (0x2733, "EIGHT SPOKED ASTERISK,EIGHT POINTED oSTAR,EIGHT POINTED PINWHEEL STAR"),
  (0x2736, "SIX POINTED oSTAR,EIGHT POINTED RECTILINEAR oSTAR"),
  (0x2738, "w EIGHT POINTED RECTILINEAR oSTAR,TWELVE POINTED oSTAR,SIXTEEN POINTED ASTERISK"),
  (0x273b, "TEARDROP-SPOKED ASTERISK,OPEN CENTRE TEARDROP-SPOKED ASTERISK"),
  (0x273d, "w TEARDROP-SPOKED ASTERISK,SIX PETALLED BLACKmhFLORETTE,oFLORETTE,hFLORETTE"),
  (0x2741, "EIGHT PETALLED OUTLINED oFLORETTE,yOPEN CENTRE EIGHT POINTED STAR"),
  (0x2743, "w TEARDROP-SPOKED PINWHEEL ASTERISK,SNOWFLAKE,TIGHT TRIFOLIATE SNOWFLAKE"),
  (0x2746, "w CHEVRON SNOWFLAKE,SPARKLE,w SPARKLE,BALLOON-SPOKED ASTERISK"),
  (0x274a, "EIGHT TEARDROP-SPOKED PROPELLER ASTERISK"),
  (0x274b, "w EIGHT TEARDROP-SPOKED PROPELLER ASTERISK,CROSS MARK,SHADOWED hCIRCLE"),
  (0x274e, "NEGATIVE SQUARED CROSS MARK,LOWER n DROP-SHADOWED hSQUARE"),
  (0x2750, "UPPER n DROP-SHADOWED hSQUARE,LOWER n SHADOWED hSQUARE,UPPER n SHADOWED hSQUARE"),
  (0x2753, "oQUESTION MARK ORNAMENT,hQUESTION MARK ORNAMENT,hEXCLAMATION MARK ORNAMENT"),
  (0x2756, "oDIAMOND MINUS hX,w EXCLAMATION MARKr,LIGHT x BAR,MEDIUM x BAR,w x BAR"),
  (0x275b, "w SINGLE TURNED COMMA QUOTATION MARK ORNAMENT"),
  (0x275c, "w SINGLE COMMA QUOTATION MARK ORNAMENT,w t TURNED COMMA QUOTATION MARK ORNAMENT"),
  (0x275e, "w t COMMA QUOTATION MARK ORNAMENT,w LOW SINGLE COMMA QUOTATION MARK ORNAMENT"),
  (0x2760, "w LOW t COMMA QUOTATION MARK ORNAMENT,CURVED STEM PARAGRAPHs ORNAMENT"),
  (0x2762, "w EXCLAMATION MARK ORNAMENT,w HEART EXCLAMATION MARK ORNAMENT,w oHEART"),
  (0x2765, "ROTATED w oHEART BULLET,FLORAL HEART,ROTATED FLORAL HEART BULLET"),
  (0x2768, "MEDIUM qPARENTHESIS ORNAMENT,MEDIUM n PARENTHESIS ORNAMENT"),
  (0x276a, "MEDIUM FLATTENED qPARENTHESIS ORNAMENT,MEDIUM FLATTENED n PARENTHESIS ORNAMENT"),
  (0x276c, "MEDIUM LEFT-POINTING ANGLE BRACKET ORNAMENT"),
  (0x276d, "MEDIUM n-POINTING ANGLE BRACKET ORNAMENT"),
  (0x276e, "w LEFT-POINTING ANGLE QUOTATION MARK ORNAMENT"),
  (0x276f, "w n-POINTING ANGLE QUOTATION MARK ORNAMENT"),
  (0x2770, "w LEFT-POINTING ANGLE BRACKET ORNAMENT,w n-POINTING ANGLE BRACKET ORNAMENT"),
  (0x2772, "LIGHT qTORTOISE SHELL BRACKET ORNAMENT,LIGHT n TORTOISE SHELL BRACKET ORNAMENT"),
  (0x2774, "MEDIUM qCURLY BRACKET ORNAMENT,MEDIUM n CURLY BRACKET ORNAMENT,zyDIGIT ONE"),
  (0x2777, "zyDIGIT TWO,zyDIGIT THREE,zyDIGIT FOUR,zyDIGIT FIVE,zyDIGIT SIX,zyDIGIT SEVEN"),
  (0x277d, "zyDIGIT EIGHT,zyDIGIT NINE,zyNUMBER TEN,DINGBAT ySANS-SERIF DIGIT ONE"),
  (0x2781, "DINGBAT ySANS-SERIF DIGIT TWO,DINGBAT ySANS-SERIF DIGIT THREE"),
  (0x2783, "DINGBAT ySANS-SERIF DIGIT FOUR,DINGBAT ySANS-SERIF DIGIT FIVE"),
  (0x2785, "DINGBAT ySANS-SERIF DIGIT SIX,DINGBAT ySANS-SERIF DIGIT SEVEN"),
  (0x2787, "DINGBAT ySANS-SERIF DIGIT EIGHT,DINGBAT ySANS-SERIF DIGIT NINE"),
  (0x2789, "DINGBAT ySANS-SERIF NUMBER TEN,zySANS-SERIF DIGIT ONE,zySANS-SERIF DIGIT TWO"),
  (0x278c, "zySANS-SERIF DIGIT THREE,zySANS-SERIF DIGIT FOUR,zySANS-SERIF DIGIT FIVE"),
  (0x278f, "zySANS-SERIF DIGIT SIX,zySANS-SERIF DIGIT SEVEN,zySANS-SERIF DIGIT EIGHT"),
  (0x2792, "zySANS-SERIF DIGIT NINE,zySANS-SERIF NUMBER TEN,w WIDE-HEADED lg,w PLUSs"),
  (0x2796, "w MINUSs,w DIVISIONs,w SOUTH EASTg,w lg,w NORTH EASTg,DRAFTING POINT lg"),
  (0x279c, "w ROUND-TIPPED lg,TRIANGLE-HEADED lg,w TRIANGLE-HEADED lg"),
  (0x279f, "DASHED TRIANGLE-HEADED lg,w DASHED TRIANGLE-HEADED lg,olg"),
  (0x27a2, "THREE-D TOP-LIGHTED lgHEAD,THREE-D BOTTOM-LIGHTED lgHEAD,olgHEAD"),
  (0x27a5, "w oCURVED DOWNWARDSmlg,w oCURVED UPWARDSmlg,SQUAT olg,w CONCAVE-POINTED olg"),
  (0x27a9, "n-SHADED hlg,LEFT-SHADED hlg,BACK-TILTED SHADOWED hlg,FRONT-TILTED SHADOWED hlg"),
  (0x27ad, "w LOWER n-SHADOWED hlg,w UPPER n-SHADOWED hlg,NOTCHED LOWER n-SHADOWED hlg"),
  (0x27b0, "CURLY LOOP,NOTCHED UPPER n-SHADOWED hlg,yw hlg,WHITE-FEATHERED lg"),
  (0x27b4, "BLACK-FEATHERED SOUTH EASTg,BLACK-FEATHERED lg,BLACK-FEATHERED NORTH EASTg"),
  (0x27b7, "w BLACK-FEATHERED SOUTH EASTg,w BLACK-FEATHERED lg,w BLACK-FEATHERED NORTH EASTg"),
  (0x27ba, "TEARDROP-BARBED lg,w TEARDROP-SHANKED lg,WEDGE-TAILED lg,w WEDGE-TAILED lg"),
  (0x27be, "OPEN-OUTLINED lg,t CURLY LOOP"),
  (0x3000, "IDEOGRAPHIC SPACE,IDEOGRAPHIC COMMA,IDEOGRAPHIC FULL STOP,DITTO MARK"),
  (0x3004, "JAPANESE INDUSTRIAL STANDARDr,IDEOGRAPHIC ITERATION MARK"),
  (0x3006, "IDEOGRAPHIC CLOSING MARK,IDEOGRAPHIC NUMBER ZERO,qANGLE BRACKET,n ANGLE BRACKET"),
  (0x300a, "qt ANGLE BRACKET,n t ANGLE BRACKET,qCORNER BRACKET,n CORNER BRACKET"),
  (0x300e, "qhCORNER BRACKET,n hCORNER BRACKET,qoLENTICULAR BRACKET,n oLENTICULAR BRACKET"),
  (0x3012, "POSTAL MARK,GETA MARK,qTORTOISE SHELL BRACKET,n TORTOISE SHELL BRACKET"),
  (0x3016, "qhLENTICULAR BRACKET,n hLENTICULAR BRACKET,qhTORTOISE SHELL BRACKET"),
  (0x3019, "n hTORTOISE SHELL BRACKET,qhSQUARE BRACKET,n hSQUARE BRACKET,WAVE DASH"),
  (0x301d, "REVERSED t PRIME QUOTATION MARK,t PRIME QUOTATION MARK"),
  (0x301f, "LOW t PRIME QUOTATION MARK"),
  (0x3041, "paSMALL A,paA,paSMALL I,paI,paSMALL U,paU,paSMALL E,paE,paSMALL O,paO,paKA,paGA"),
  (0x304d, "paKI,paGI,paKU,paGU,paKE,paGE,paKO,paGO,paSA,paZA,paSI,paZI,paSU,paZU,paSE,paZE"),
  (0x305d, "paSO,paZO,paTA,paDA,paTI,paDI,paSMALL TU,paTU,paDU,paTE,paDE,paTO,paDO,paNA,paNI"),
  (0x306c, "paNU,paNE,paNO,paHA,paBA,paPA,paHI,paBI,paPI,paHU,paBU,paPU,paHE,paBE,paPE,paHO"),
  (0x307c, "paBO,paPO,paMA,paMI,paMU,paME,paMO,paSMALL YA,paYA,paSMALL YU,paYU,paSMALL YO"),
  (0x3088, "paYO,paRA,paRI,paRU,paRE,paRO,paSMALL WA,paWA,paWI,paWE,paWO,paN,paVU,paSMALL KA"),
  (0x3096, "paSMALL KE,,,kj-p VOICED SOUND MARK,kj-p SEMI-VOICED SOUND MARK"),
  (0x309b, "j-p VOICED SOUND MARK,j-p SEMI-VOICED SOUND MARK,p ITERATION MARK"),
  (0x309e, "p VOICED ITERATION MARK,p DIGRAPH YORI,j-p t HYPHEN,jaSMALL A,jaA,jaSMALL I,jaI"),
  (0x30a5, "jaSMALL U,jaU,jaSMALL E,jaE,jaSMALL O,jaO,jaKA,jaGA,jaKI,jaGI,jaKU,jaGU,jaKE"),
  (0x30b2, "jaGE,jaKO,jaGO,jaSA,jaZA,jaSI,jaZI,jaSU,jaZU,jaSE,jaZE,jaSO,jaZO,jaTA,jaDA,jaTI"),
  (0x30c2, "jaDI,jaSMALL TU,jaTU,jaDU,jaTE,jaDE,jaTO,jaDO,jaNA,jaNI,jaNU,jaNE,jaNO,jaHA,jaBA"),
  (0x30d1, "jaPA,jaHI,jaBI,jaPI,jaHU,jaBU,jaPU,jaHE,jaBE,jaPE,jaHO,jaBO,jaPO,jaMA,jaMI,jaMU"),
  (0x30e1, "jaME,jaMO,jaSMALL YA,jaYA,jaSMALL YU,jaYU,jaSMALL YO,jaYO,jaRA,jaRI,jaRU,jaRE"),
  (0x30ed, "jaRO,jaSMALL WA,jaWA,jaWI,jaWE,jaWO,jaN,jaVU,jaSMALL KA,jaSMALL KE,jaVA,jaVI"),
  (0x30f9, "jaVE,jaVO,j MIDDLE DOT,j-p PROLONGED SOUND MARK,j ITERATION MARK"),
  (0x30fe, "j VOICED ITERATION MARK,j DIGRAPH KOTO"),
  (0xfb00, "fe LIGATURE FF,fe LIGATURE FI,fe LIGATURE FL,fe LIGATURE FFI,fe LIGATURE FFL"),
  (0xfb05, "fe LIGATURE LONG S T,fe LIGATURE ST"),
  (0xfeff, "ZERO WIDTH NO-BREAK SPACE"),
  (0xfffc, "OBJECT REPLACEMENT CHARACTER,REPLACEMENT CHARACTER"),
  (0x1f300, "CYCLONE,FOGGY,CLOSED UMBRELLA,NIGHTbSTARS,SUNRISE OVER MOUNTAINS,SUNRISE"),
  (0x1f306, "CITYSCAPE AT DUSK,SUNSET OVER BUILDINGS,RAINBOW,BRIDGE AT NIGHT,WATER WAVE"),
  (0x1f30b, "VOLCANO,MILKY WAY,EARTH GLOBE EUROPE-AFRICA,EARTH GLOBE AMERICAS"),
  (0x1f30f, "EARTH GLOBE ASIA-AUSTRALIA,GLOBEbMERIDIANS,NEW MOONr,WAXING CRESCENT MOONr"),
  (0x1f313, "FIRST QUARTER MOONr,WAXING GIBBOUS MOONr,FULL MOONr,WANING GIBBOUS MOONr"),
  (0x1f317, "LAST QUARTER MOONr,WANING CRESCENT MOONr,CRESCENT MOON,NEW MOONbFACE"),
  (0x1f31b, "FIRST QUARTER MOONbFACE,LAST QUARTER MOONbFACE,FULL MOONbFACE,SUNbFACE"),
  (0x1f31f, "GLOWING STAR,SHOOTING STAR,THERMOMETER,oDROPLET,hSUN,hSUNbSMALL CLOUD"),
  (0x1f325, "hSUN BEHIND CLOUD,hSUN BEHIND CLOUDbRAIN,CLOUDbRAIN,CLOUDbSNOW,CLOUDbLIGHTNING"),
  (0x1f32a, "CLOUDbTORNADO,FOG,WIND BLOWING FACE,HOT DOG,TACO,BURRITO,CHESTNUT,SEEDLING"),
  (0x1f332, "EVERGREEN TREE,DECIDUOUS TREE,PALM TREE,CACTUS,HOT PEPPER,TULIP,CHERRY BLOSSOM"),
  (0x1f339, "ROSE,HIBISCUS,SUNFLOWER,BLOSSOM,EAR OF MAIZE,EAR OF RICE,HERB,FOUR LEAF CLOVER"),
  (0x1f341, "MAPLE LEAF,FALLEN LEAF,LEAF FLUTTERING IN WIND,MUSHROOM,TOMATO,AUBERGINE,GRAPES"),
  (0x1f348, "MELON,WATERMELON,TANGERINE,LEMON,BANANA,PINEAPPLE,RED APPLE,GREEN APPLE,PEAR"),
  (0x1f351, "PEACH,CHERRIES,STRAWBERRY,HAMBURGER,SLICE OF PIZZA,MEAT ON BONE,POULTRY LEG"),
  (0x1f358, "RICE CRACKER,RICE BALL,COOKED RICE,CURRYmRICE,STEAMING BOWL,SPAGHETTI,BREAD"),
  (0x1f35f, "FRENCH FRIES,ROASTED SWEET POTATO,DANGO,ODEN,SUSHI,FRIED SHRIMP"),
  (0x1f365, "FISH CAKEbSWIRL DESIGN,SOFT ICE CREAM,SHAVED ICE,ICE CREAM,DOUGHNUT,COOKIE"),
  (0x1f36b, "CHOCOLATE BAR,CANDY,LOLLIPOP,CUSTARD,HONEY POT,SHORTCAKE,BENTO BOX,POT OF FOOD"),
  (0x1f373, "COOKING,FORKmKNIFE,TEACUP WITHOUT HANDLE,SAKE BOTTLEmCUP,WINE GLASS"),
  (0x1f378, "COCKTAIL GLASS,TROPICAL DRINK,BEER MUG,CLINKING BEER MUGS,BABY BOTTLE"),
  (0x1f37d, "FORKmKNIFEbPLATE,BOTTLEbPOPPING CORK,POPCORN,RIBBON,WRAPPED PRESENT"),
  (0x1f382, "BIRTHDAY CAKE,JACK-O-LANTERN,CHRISTMAS TREE,FATHER CHRISTMAS,FIREWORKS"),
  (0x1f387, "FIREWORK SPARKLER,BALLOON,PARTY POPPER,CONFETTI BALL,TANABATA TREE,CROSSED FLAGS"),
  (0x1f38d, "PINE DECORATION,JAPANESE DOLLS,CARP STREAMER,WIND CHIME,MOON VIEWING CEREMONY"),
  (0x1f392, "SCHOOL SATCHEL,GRADUATION CAP,HEARTbTIP ON THE LEFT,BOUQUET OF FLOWERS"),
  (0x1f396, "MILITARY MEDAL,REMINDER RIBBON,MUSICAL KEYBOARDbJACKS,STUDIO MICROPHONE"),
  (0x1f39a, "LEVEL SLIDER,CONTROL KNOBS,BEAMED ASCENDING MUSICAL NOTES"),
  (0x1f39d, "BEAMED DESCENDING MUSICAL NOTES,FILM FRAMES,ADMISSION TICKETS,CAROUSEL HORSE"),
  (0x1f3a1, "FERRIS WHEEL,ROLLER COASTER,FISHING POLEmFISH,MICROPHONE,MOVIE CAMERA,CINEMA"),
  (0x1f3a7, "HEADPHONE,ARTIST PALETTE,TOP HAT,CIRCUS TENT,TICKET,CLAPPER BOARD"),
  (0x1f3ad, "PERFORMING ARTS,VIDEO GAME,DIRECT HIT,SLOT MACHINE,BILLIARDS,GAME DIE,BOWLING"),
  (0x1f3b4, "FLOWER PLAYING CARDS,MUSICAL NOTE,MULTIPLE MUSICAL NOTES,SAXOPHONE,GUITAR"),
  (0x1f3b9, "MUSICAL KEYBOARD,TRUMPET,VIOLIN,MUSICAL SCORE,RUNNING SHIRTbSASH"),
  (0x1f3be, "TENNIS RACQUETmBALL,SKImSKI BOOT,BASKETBALLmHOOP,CHEQUERED FLAG,SNOWBOARDER"),
  (0x1f3c3, "RUNNER,SURFER,SPORTS MEDAL,TROPHY,HORSE RACING,AMERICAN FOOTBALL,RUGBY FOOTBALL"),
  (0x1f3ca, "SWIMMER,WEIGHT LIFTER,GOLFER,RACING MOTORCYCLE,RACING CAR,CRICKET BATmBALL"),
  (0x1f3d0, "VOLLEYBALL,FIELD HOCKEY STICKmBALL,ICE HOCKEY STICKmPUCK"),
  (0x1f3d3, "TABLE TENNIS PADDLEmBALL,SNOW CAPPED MOUNTAIN,CAMPING,BEACHbUMBRELLA"),
  (0x1f3d7, "BUILDING CONSTRUCTION,HOUSE BUILDINGS,CITYSCAPE,DERELICT HOUSE BUILDING"),
  (0x1f3db, "CLASSICAL BUILDING,DESERT,DESERT ISLAND,NATIONAL PARK,STADIUM,HOUSE BUILDING"),
  (0x1f3e1, "HOUSEbGARDEN,OFFICE BUILDING,JAPANESE POST OFFICE,EUROPEAN POST OFFICE,HOSPITAL"),
  (0x1f3e6, "BANK,AUTOMATED TELLER MACHINE,HOTEL,LOVE HOTEL,CONVENIENCE STORE,SCHOOL"),
  (0x1f3ec, "DEPARTMENT STORE,FACTORY,IZAKAYA LANTERN,JAPANESE CASTLE,EUROPEAN CASTLE"),
  (0x1f3f1, "hPENNANT,oPENNANT,WAVING hFLAG,WAVING oFLAG,ROSETTE,oROSETTE,LABEL"),
  (0x1f3f8, "BADMINTON RACQUETmSHUTTLECOCK,BOW ANDg,AMPHORA"),
  (0x1f3fb, "EMOJI MODIFIER FITZPATRICK TYPE-1-2,EMOJI MODIFIER FITZPATRICK TYPE-3"),
  (0x1f3fd, "EMOJI MODIFIER FITZPATRICK TYPE-4,EMOJI MODIFIER FITZPATRICK TYPE-5"),
  (0x1f3ff, "EMOJI MODIFIER FITZPATRICK TYPE-6,RAT,MOUSE,OX,WATER BUFFALO,COW,TIGER,LEOPARD"),
  (0x1f407, "RABBIT,CAT,DRAGON,CROCODILE,WHALE,SNAIL,SNAKE,HORSE,RAM,GOAT,SHEEP,MONKEY"),
  (0x1f413, "ROOSTER,CHICKEN,DOG,PIG,BOAR,ELEPHANT,OCTOPUS,SPIRAL SHELL,BUG,ANT,HONEYBEE"),
  (0x1f41e, "LADY BEETLE,FISH,TROPICAL FISH,BLOWFISH,TURTLE,HATCHING CHICK,BABY CHICK"),
  (0x1f425, "FRONT-FACING BABY CHICK,BIRD,PENGUIN,KOALA,POODLE,DROMEDARY CAMEL,BACTRIAN CAMEL"),
  (0x1f42c, "DOLPHIN,MOUSE FACE,COW FACE,TIGER FACE,RABBIT FACE,CAT FACE,DRAGON FACE"),
  (0x1f433, "SPOUTING WHALE,HORSE FACE,MONKEY FACE,DOG FACE,PIG FACE,FROG FACE,HAMSTER FACE"),
  (0x1f43a, "WOLF FACE,BEAR FACE,PANDA FACE,PIG NOSE,PAW PRINTS,CHIPMUNK,EYES,EYE,EAR,NOSE"),
  (0x1f444, "MOUTH,TONGUE,hUP POINTING BACKHAND INDEX,hDOWN POINTING BACKHAND INDEX"),
  (0x1f448, "hqPOINTING BACKHAND INDEX,hn POINTING BACKHAND INDEX,FISTED HANDs,WAVING HANDs"),
  (0x1f44c, "OK HANDs,THUMBS UPs,THUMBS DOWNs,CLAPPING HANDSs,OPEN HANDSs,CROWN,WOMANS HAT"),
  (0x1f453, "EYEGLASSES,NECKTIE,T-SHIRT,JEANS,DRESS,KIMONO,BIKINI,WOMANS CLOTHES,PURSE"),
  (0x1f45c, "HANDBAG,POUCH,MANS SHOE,ATHLETIC SHOE,HIGH-HEELED SHOE,WOMANS SANDAL"),
  (0x1f462, "WOMANS BOOTS,FOOTPRINTS,BUST IN SILHOUETTE,BUSTS IN SILHOUETTE,BOY,GIRL,MAN"),
  (0x1f469, "WOMAN,FAMILY,MANmWOMAN HOLDING HANDS,TWO MEN HOLDING HANDS"),
  (0x1f46d, "TWO WOMEN HOLDING HANDS,POLICE OFFICER,WOMANbBUNNY EARS,BRIDEbVEIL"),
  (0x1f471, "PERSONbBLOND HAIR,MANbGUA PI MAO,MANbTURBAN,OLDER MAN,OLDER WOMAN,BABY"),
  (0x1f477, "CONSTRUCTION WORKER,PRINCESS,JAPANESE OGRE,JAPANESE GOBLIN,GHOST,BABY ANGEL"),
  (0x1f47d, "EXTRATERRESTRIAL ALIEN,ALIEN MONSTER,IMP,SKULL,INFORMATION DESK PERSON,GUARDSMAN"),
  (0x1f483, "DANCER,LIPSTICK,NAIL POLISH,FACE MASSAGE,HAIRCUT,BARBER POLE,SYRINGE,PILL"),
  (0x1f48b, "KISS MARK,LOVE LETTER,RING,GEM STONE,KISS,BOUQUET,COUPLEbHEART,WEDDING"),
  (0x1f493, "BEATING HEART,BROKEN HEART,TWO HEARTS,SPARKLING HEART,GROWING HEART,HEARTbARROW"),
  (0x1f499, "BLUE HEART,GREEN HEART,YELLOW HEART,PURPLE HEART,HEARTbRIBBON,REVOLVING HEARTS"),
  (0x1f49f, "HEART DECORATION,DIAMOND SHAPEbA DOT INSIDE,ELECTRIC LIGHT BULB,ANGERr,BOMB"),
  (0x1f4a4, "SLEEPINGr,COLLISIONr,SPLASHING SWEATr,DROPLET,DASHr,PILE OF POO,FLEXED BICEPS"),
  (0x1f4ab, "DIZZYr,SPEECH BALLOON,THOUGHT BALLOON,hFLOWER,HUNDRED POINTSr,MONEY BAG"),
  (0x1f4b1, "CURRENCY EXCHANGE,w DOLLARs,CREDIT CARD,BANKNOTEbYENs,BANKNOTEbDOLLARs"),
  (0x1f4b6, "BANKNOTEbEUROs,BANKNOTEbPOUNDs,MONEYbWINGS,CHARTbUPWARDS TRENDmYENs,SEAT"),
  (0x1f4bb, "PERSONAL COMPUTER,BRIEFCASE,MINIDISC,FLOPPY DISK,OPTICAL DISC,DVD,FILE FOLDER"),
  (0x1f4c2, "OPEN FILE FOLDER,PAGEbCURL,PAGE FACING UP,CALENDAR,TEAR-OFF CALENDAR,CARD INDEX"),
  (0x1f4c8, "CHARTbUPWARDS TREND,CHARTbDOWNWARDS TREND,BAR CHART,CLIPBOARD,PUSHPIN"),
  (0x1f4cd, "ROUND PUSHPIN,PAPERCLIP,STRAIGHT RULER,TRIANGULAR RULER,BOOKMARK TABS,LEDGER"),
  (0x1f4d3, "NOTEBOOK,NOTEBOOKbDECORATIVE COVER,CLOSED BOOK,OPEN BOOK,GREEN BOOK,BLUE BOOK"),
  (0x1f4d9, "ORANGE BOOK,BOOKS,NAME BADGE,SCROLL,MEMO,TELEPHONE RECEIVER,PAGER,FAX MACHINE"),
  (0x1f4e1, "SATELLITE ANTENNA,PUBLIC ADDRESS LOUDSPEAKER,CHEERING MEGAPHONE,OUTBOX TRAY"),
  (0x1f4e5, "INBOX TRAY,PACKAGE,E-MAILr,INCOMING ENVELOPE,ENVELOPEbDOWNWARDSg ABOVE"),
  (0x1f4ea, "CLOSED MAILBOXbLOWERED FLAG,CLOSED MAILBOXbRAISED FLAG,OPEN MAILBOXbRAISED FLAG"),
  (0x1f4ed, "OPEN MAILBOXbLOWERED FLAG,POSTBOX,POSTAL HORN,NEWSPAPER,MOBILE PHONE"),
  (0x1f4f2, "MOBILE PHONEblg AT LEFT,VIBRATION MODE,MOBILE PHONE OFF,NO MOBILE PHONES"),
  (0x1f4f6, "ANTENNAbBARS,CAMERA,CAMERAbFLASH,VIDEO CAMERA,TELEVISION,RADIO,VIDEOCASSETTE"),
  (0x1f4fd, "FILM PROJECTOR,PORTABLE STEREO,PRAYER BEADS,TWISTED lgS"),
  (0x1f501, "CLOCKWISE lmLEFTWARDS OPEN CIRCLEgS"),
  (0x1f502, "CLOCKWISE lmLEFTWARDS OPEN CIRCLEgSbyONE OVERLAY"),
  (0x1f503, "CLOCKWISE DOWNWARDSmUPWARDS OPEN CIRCLEgS"),
  (0x1f504, "ANTICLOCKWISE DOWNWARDSmUPWARDS OPEN CIRCLEgS,LOW BnNESSr,HIGH BnNESSr"),
  (0x1f507, "SPEAKERbCANCELLATION STROKE,SPEAKER,SPEAKERbONE SOUND WAVE"),
  (0x1f50a, "SPEAKERbTHREE SOUND WAVES,BATTERY,ELECTRIC PLUG,LEFT-POINTING MAGNIFYING GLASS"),
  (0x1f50e, "n-POINTING MAGNIFYING GLASS,LOCKbINK PEN,CLOSED LOCKbKEY,KEY,LOCK,OPEN LOCK,BELL"),
  (0x1f515, "BELLbCANCELLATION STROKE,BOOKMARK,LINKr,RADIO BUTTON,BACKbLEFTWARDSg ABOVE"),
  (0x1f51a, "ENDbLEFTWARDSg ABOVE,ONbEXCLAMATION MARKbqng ABOVE,SOONblg ABOVE"),
  (0x1f51d, "TOPbUPWARDSg ABOVE,NO ONE UNDER EIGHTEENr,KEYCAP TEN,INPUTr FOR fc LETTERS"),
  (0x1f521, "INPUTr FOR fe LETTERS,INPUTr FOR NUMBERS,INPUTr FORrS,INPUTr FOR f LETTERS,FIRE"),
  (0x1f526, "ELECTRIC TORCH,WRENCH,HAMMER,NUTmBOLT,HOCHO,PISTOL,MICROSCOPE,TELESCOPE"),
  (0x1f52e, "CRYSTAL BALL,SIX POINTED STARbMIDDLE DOT,JAPANESEr FOR BEGINNER,TRIDENT EMBLEM"),
  (0x1f532, "oSQUARE BUTTON,hSQUARE BUTTON,LARGE RED CIRCLE,LARGE BLUE CIRCLE"),
  (0x1f536, "LARGE ORANGE DIAMOND,LARGE BLUE DIAMOND,SMALL ORANGE DIAMOND,SMALL BLUE DIAMOND"),
  (0x1f53a, "UP-POINTING RED TRIANGLE,DOWN-POINTING RED TRIANGLE,UP-POINTINGe RED TRIANGLE"),
  (0x1f53d, "DOWN-POINTINGe RED TRIANGLE,LOWER n SHADOWED hCIRCLE,UPPER n SHADOWED hCIRCLE"),
  (0x1f540, "yCROSS POMMEE,CROSS POMMEEbHALF-CIRCLE BELOW,CROSS POMMEE"),
  (0x1f543, "NOTCHED qSEMICIRCLEbTHREE DOTS,NOTCHED n SEMICIRCLEbTHREE DOTS"),
  (0x1f545, "SYMBOL FOR MARKS CHAPTER,hf CROSS,w f CROSS,CELTIC CROSS,OMr,DOVE OF PEACE,KAABA"),
  (0x1f54c, "MOSQUE,SYNAGOGUE,MENORAHbNINE BRANCHES,BOWL OF HYGIEIA,CLOCK FACE ONE OCLOCK"),
  (0x1f551, "CLOCK FACE TWO OCLOCK,CLOCK FACE THREE OCLOCK,CLOCK FACE FOUR OCLOCK"),
  (0x1f554, "CLOCK FACE FIVE OCLOCK,CLOCK FACE SIX OCLOCK,CLOCK FACE SEVEN OCLOCK"),
  (0x1f557, "CLOCK FACE EIGHT OCLOCK,CLOCK FACE NINE OCLOCK,CLOCK FACE TEN OCLOCK"),
  (0x1f55a, "CLOCK FACE ELEVEN OCLOCK,CLOCK FACE TWELVE OCLOCK,CLOCK FACE ONE-THIRTY"),
  (0x1f55d, "CLOCK FACE TWO-THIRTY,CLOCK FACE THREE-THIRTY,CLOCK FACE FOUR-THIRTY"),
  (0x1f560, "CLOCK FACE FIVE-THIRTY,CLOCK FACE SIX-THIRTY,CLOCK FACE SEVEN-THIRTY"),
  (0x1f563, "CLOCK FACE EIGHT-THIRTY,CLOCK FACE NINE-THIRTY,CLOCK FACE TEN-THIRTY"),
  (0x1f566, "CLOCK FACE ELEVEN-THIRTY,CLOCK FACE TWELVE-THIRTY,n SPEAKER"),
  (0x1f569, "n SPEAKERbONE SOUND WAVE,n SPEAKERbTHREE SOUND WAVES,BULLHORN"),
  (0x1f56c, "BULLHORNbSOUND WAVES,RINGING BELL,BOOK,CANDLE,MANTELPIECE CLOCK"),
  (0x1f571, "oSKULLmCROSSBONES,NO PIRACY,HOLE,MAN IN BUSINESS SUIT LEVITATING,SLEUTH OR SPY"),
  (0x1f576, "DARK SUNGLASSES,SPIDER,SPIDER WEB,JOYSTICK,MAN DANCING,qHAND TELEPHONE RECEIVER"),
  (0x1f57c, "TELEPHONE RECEIVERbPAGE,n HAND TELEPHONE RECEIVER,hTOUCHTONE TELEPHONE"),
  (0x1f57f, "oTOUCHTONE TELEPHONE,TELEPHONE ON TOP OF MODEM,CLAMSHELL MOBILE PHONE"),
  (0x1f582, "BACK OF ENVELOPE,STAMPED ENVELOPE,ENVELOPEbLIGHTNING,FLYING ENVELOPE"),
  (0x1f586, "PEN OVER STAMPED ENVELOPE,LINKED PAPERCLIPS,oPUSHPIN,LOWER qPENCIL"),
  (0x1f58a, "LOWER qBALLPOINT PEN,LOWER qFOUNTAIN PEN,LOWER qPAINTBRUSH,LOWER qCRAYON"),
  (0x1f58e, "qWRITING HAND,TURNED OK HANDs,RAISED HANDbFINGERS SPLAYED"),
  (0x1f591, "REVERSED RAISED HANDbFINGERS SPLAYED,REVERSED THUMBS UPs,REVERSED THUMBS DOWNs"),
  (0x1f594, "REVERSED VICTORY HAND,REVERSED HANDbMIDDLE FINGER EXTENDED"),
  (0x1f596, "RAISED HANDbPART BETWEEN MIDDLEmRING FINGERS,hDOWN POINTING qHAND INDEX"),
  (0x1f598, "SIDEWAYS hqPOINTING INDEX,SIDEWAYS hn POINTING INDEX,SIDEWAYS oqPOINTING INDEX"),
  (0x1f59b, "SIDEWAYS on POINTING INDEX,oqPOINTING BACKHAND INDEX,on POINTING BACKHAND INDEX"),
  (0x1f59e, "SIDEWAYS hUP POINTING INDEX,SIDEWAYS hDOWN POINTING INDEX"),
  (0x1f5a0, "SIDEWAYS oUP POINTING INDEX,SIDEWAYS oDOWN POINTING INDEX"),
  (0x1f5a2, "oUP POINTING BACKHAND INDEX,oDOWN POINTING BACKHAND INDEX,oHEART"),
  (0x1f5a5, "DESKTOP COMPUTER,KEYBOARDmMOUSE,THREE NETWORKED COMPUTERS,PRINTER"),
  (0x1f5a9, "POCKET CALCULATOR,oHARD SHELL FLOPPY DISK,hHARD SHELL FLOPPY DISK"),
  (0x1f5ac, "SOFT SHELL FLOPPY DISK,TAPE CARTRIDGE,WIRED KEYBOARD,ONE BUTTON MOUSE"),
  (0x1f5b0, "TWO BUTTON MOUSE,THREE BUTTON MOUSE,TRACKBALL,OLD PERSONAL COMPUTER,HARD DISK"),
  (0x1f5b5, "SCREEN,PRINTER ICON,FAX ICON,OPTICAL DISC ICON,DOCUMENTbTEXT"),
  (0x1f5ba, "DOCUMENTbTEXTmPICTURE,DOCUMENTbPICTURE,FRAMEbPICTURE,FRAMEbTILES,FRAMEbAN X"),
  (0x1f5bf, "oFOLDER,FOLDER,OPEN FOLDER,CARD INDEX DIVIDERS,CARD FILE BOX,FILE CABINET"),
  (0x1f5c5, "EMPTY NOTE,EMPTY NOTE PAGE,EMPTY NOTE PAD,NOTE,NOTE PAGE,NOTE PAD,EMPTY DOCUMENT"),
  (0x1f5cc, "EMPTY PAGE,EMPTY PAGES,DOCUMENT,PAGE,PAGES,WASTEBASKET,SPIRAL NOTE PAD"),
  (0x1f5d3, "SPIRAL CALENDAR PAD,DESKTOP WINDOW,MINIMIZE,MAXIMIZE,OVERLAP"),
  (0x1f5d8, "CLOCKWISE nmqSEMICIRCLEgS,CANCELLATION X,INCREASE FONT SIZEr,DECREASE FONT SIZEr"),
  (0x1f5dc, "COMPRESSION,OLD KEY,ROLLED-UP NEWSPAPER,PAGEbyTEXT,STOCK CHART,DAGGER KNIFE,LIPS"),
  (0x1f5e3, "SPEAKING HEAD IN SILHOUETTE,THREE RAYS ABOVE,THREE RAYS BELOW,THREE RAYS LEFT"),
  (0x1f5e7, "THREE RAYS n,qSPEECH BUBBLE,n SPEECH BUBBLE,TWO SPEECH BUBBLES"),
  (0x1f5eb, "THREE SPEECH BUBBLES,qTHOUGHT BUBBLE,n THOUGHT BUBBLE,qANGER BUBBLE"),
  (0x1f5ef, "n ANGER BUBBLE,MOOD BUBBLE,LIGHTNING MOOD BUBBLE,LIGHTNING MOOD"),
  (0x1f5f3, "BALLOT BOXbBALLOT,BALLOT SCRIPT X,BALLOT BOXbSCRIPT X,BALLOT BOLD SCRIPT X"),
  (0x1f5f7, "BALLOT BOXbBOLD SCRIPT X,LIGHT CHECK MARK,BALLOT BOXbBOLD CHECK,WORLD MAP"),
  (0x1f5fb, "MOUNT FUJI,TOKYO TOWER,STATUE OF LIBERTY,SILHOUETTE OF JAPAN,MOYAI,GRINNING FACE"),
  (0x1f601, "GRINNING FACEbSMILING EYES,FACEbTEARS OF JOY,SMILING FACEbOPEN MOUTH"),
  (0x1f604, "SMILING FACEbOPEN MOUTHmSMILING EYES,SMILING FACEbOPEN MOUTHmCOLD SWEAT"),
  (0x1f606, "SMILING FACEbOPEN MOUTHmTIGHTLY-CLOSED EYES,SMILING FACEbHALO,SMILING FACEbHORNS"),
  (0x1f609, "WINKING FACE,SMILING FACEbSMILING EYES,FACE SAVOURING DELICIOUS FOOD"),
  (0x1f60c, "RELIEVED FACE,SMILING FACEbHEART-SHAPED EYES,SMILING FACEbSUNGLASSES"),
  (0x1f60f, "SMIRKING FACE,NEUTRAL FACE,EXPRESSIONLESS FACE,UNAMUSED FACE,FACEbCOLD SWEAT"),
  (0x1f614, "PENSIVE FACE,CONFUSED FACE,CONFOUNDED FACE,KISSING FACE,FACE THROWING A KISS"),
  (0x1f619, "KISSING FACEbSMILING EYES,KISSING FACEbCLOSED EYES,FACEbSTUCK-OUT TONGUE"),
  (0x1f61c, "FACEbSTUCK-OUT TONGUEmWINKING EYE,FACEbSTUCK-OUT TONGUEmTIGHTLY-CLOSED EYES"),
  (0x1f61e, "DISAPPOINTED FACE,WORRIED FACE,ANGRY FACE,POUTING FACE,CRYING FACE"),
  (0x1f623, "PERSEVERING FACE,FACEbLOOK OF TRIUMPH,DISAPPOINTED BUT RELIEVED FACE"),
  (0x1f626, "FROWNING FACEbOPEN MOUTH,ANGUISHED FACE,FEARFUL FACE,WEARY FACE,SLEEPY FACE"),
  (0x1f62b, "TIRED FACE,GRIMACING FACE,LOUDLY CRYING FACE,FACEbOPEN MOUTH,HUSHED FACE"),
  (0x1f630, "FACEbOPEN MOUTHmCOLD SWEAT,FACE SCREAMING IN FEAR,ASTONISHED FACE,FLUSHED FACE"),
  (0x1f634, "SLEEPING FACE,DIZZY FACE,FACE WITHOUT MOUTH,FACEbMEDICAL MASK"),
  (0x1f638, "GRINNING CAT FACEbSMILING EYES,CAT FACEbTEARS OF JOY,SMILING CAT FACEbOPEN MOUTH"),
  (0x1f63b, "SMILING CAT FACEbHEART-SHAPED EYES,CAT FACEbWRY SMILE"),
  (0x1f63d, "KISSING CAT FACEbCLOSED EYES,POUTING CAT FACE,CRYING CAT FACE,WEARY CAT FACE"),
  (0x1f641, "SLIGHTLY FROWNING FACE,SLIGHTLY SMILING FACE,UPSIDE-DOWN FACE,FACEbROLLING EYES"),
  (0x1f645, "FACEbNO GOOD GESTURE,FACEbOK GESTURE,PERSON BOWING DEEPLY,SEE-NO-EVIL MONKEY"),
  (0x1f649, "HEAR-NO-EVIL MONKEY,SPEAK-NO-EVIL MONKEY,HAPPY PERSON RAISING ONE HAND"),
  (0x1f64c, "PERSON RAISING BOTH HANDS IN CELEBRATION,PERSON FROWNING,PERSONbPOUTING FACE"),
  (0x1f64f, "PERSONbFOLDED HANDS"),
  (0x1f680, "ROCKET,HELICOPTER,STEAM LOCOMOTIVE,RAILWAY CAR,HIGH-SPEED TRAIN"),
  (0x1f685, "HIGH-SPEED TRAINbBULLET NOSE,TRAIN,METRO,LIGHT RAIL,STATION,TRAM,TRAM CAR,BUS"),
  (0x1f68d, "ONCOMING BUS,TROLLEYBUS,BUS STOP,MINIBUS,AMBULANCE,FIRE ENGINE,POLICE CAR"),
  (0x1f694, "ONCOMING POLICE CAR,TAXI,ONCOMING TAXI,AUTOMOBILE,ONCOMING AUTOMOBILE"),
  (0x1f699, "RECREATIONAL VEHICLE,DELIVERY TRUCK,ARTICULATED LORRY,TRACTOR,MONORAIL"),
  (0x1f69e, "MOUNTAIN RAILWAY,SUSPENSION RAILWAY,MOUNTAIN CABLEWAY,AERIAL TRAMWAY,SHIP"),
  (0x1f6a3, "ROWBOAT,SPEEDBOAT,HORIZONTAL TRAFFIC LIGHT,x TRAFFIC LIGHT,CONSTRUCTIONs"),
  (0x1f6a8, "POLICE CARS REVOLVING LIGHT,TRIANGULAR FLAG ON POST,DOOR,NO ENTRYs,SMOKINGr"),
  (0x1f6ad, "NO SMOKINGr,PUT LITTER IN ITS PLACEr,DO NOT LITTERr,POTABLE WATERr"),
  (0x1f6b1, "NON-POTABLE WATERr,BICYCLE,NO BICYCLES,BICYCLIST,MOUNTAIN BICYCLIST,PEDESTRIAN"),
  (0x1f6b7, "NO PEDESTRIANS,CHILDREN CROSSING,MENSr,WOMENSr,RESTROOM,BABYr,TOILET"),
  (0x1f6be, "WATER CLOSET,SHOWER,BATH,BATHTUB,PASSPORT CONTROL,CUSTOMS,BAGGAGE CLAIM,qLUGGAGE"),
  (0x1f6c6, "TRIANGLEbROUNDED CORNERS,PROHIBITEDs,yINFORMATION SOURCE,BOYSr,GIRLSr,COUCHmLAMP"),
  (0x1f6cc, "SLEEPING ACCOMMODATION,SHOPPING BAGS,BELLHOP BELL,BED,PLACE OF WORSHIP"),
  (0x1f6d1, "OCTAGONALs,SHOPPING TROLLEY,STUPA,PAGODA,HINDU TEMPLE,HUT,ELEVATOR,,,,,"),
  (0x1f6dd, "PLAYGROUND SLIDE,WHEEL,RING BUOY,HAMMERmWRENCH,SHIELD,OIL DRUM,MOTORWAY"),
  (0x1f6e4, "RAILWAY TRACK,MOTOR BOAT,UP-POINTING MILITARY AIRPLANE,UP-POINTING AIRPLANE"),
  (0x1f6e8, "UP-POINTINGe AIRPLANE,SMALL AIRPLANE,NORTHEAST-POINTING AIRPLANE"),
  (0x1f6eb, "AIRPLANE DEPARTURE,AIRPLANE ARRIVING,,,,SATELLITE,ONCOMING FIRE ENGINE"),
  (0x1f6f2, "DIESEL LOCOMOTIVE,PASSENGER SHIP,SCOOTER,MOTOR SCOOTER,CANOE,SLED,FLYING SAUCER"),
  (0x1f6f9, "SKATEBOARD,AUTO RICKSHAW,PICKUP TRUCK,ROLLER SKATE")]

/-- Names that characters have besides, or instead of one. -/
def otherNames : List (Nat × String) := [
  (0x0, "NULL"), (0x0, "NUL"), (0x1, "START OF HEADING"), (0x1, "SOH"), (0x2, "START OF TEXT"),
  (0x2, "STX"), (0x3, "END OF TEXT"), (0x3, "ETX"), (0x4, "END OF TRANSMISSION"), (0x4, "EOT"),
  (0x5, "ENQUIRY"), (0x5, "ENQ"), (0x6, "ACKNOWLEDGE"), (0x6, "ACK"), (0x7, "ALERT"),
  (0x7, "BEL"), (0x8, "BACKSPACE"), (0x8, "BS"), (0x9, "CHARACTER TABULATION"),
  (0x9, "HORIZONTAL TABULATION"), (0x9, "TAB"), (0x9, "HT"), (0xa, "LINE FEED"),
  (0xa, "NEW LINE"), (0xa, "END OF LINE"), (0xa, "LF"), (0xa, "NL"), (0xa, "EOL"),
  (0xb, "LINE TABULATION"), (0xb, "VERTICAL TABULATION"), (0xb, "VT"), (0xc, "FORM FEED"),
  (0xc, "FF"), (0xd, "CARRIAGE RETURN"), (0xd, "CR"), (0xe, "SHIFT OUT"),
  (0xe, "LOCKING-SHIFT ONE"), (0xe, "SO"), (0xf, "SHIFT IN"), (0xf, "LOCKING-SHIFT ZERO"),
  (0xf, "SI"), (0x10, "DATA LINK ESCAPE"), (0x10, "DLE"), (0x11, "DEVICE CONTROL ONE"),
  (0x11, "DC1"), (0x12, "DEVICE CONTROL TWO"), (0x12, "DC2"), (0x13, "DEVICE CONTROL THREE"),
  (0x13, "DC3"), (0x14, "DEVICE CONTROL FOUR"), (0x14, "DC4"), (0x15, "NEGATIVE ACKNOWLEDGE"),
  (0x15, "NAK"), (0x16, "SYNCHRONOUS IDLE"), (0x16, "SYN"), (0x17, "END OF TRANSMISSION BLOCK"),
  (0x17, "ETB"), (0x18, "CANCEL"), (0x18, "CAN"), (0x19, "END OF MEDIUM"), (0x19, "EOM"),
  (0x1a, "SUBSTITUTE"), (0x1a, "SUB"), (0x1b, "ESCAPE"), (0x1b, "ESC"),
  (0x1c, "INFORMATION SEPARATOR FOUR"), (0x1c, "FILE SEPARATOR"), (0x1c, "FS"),
  (0x1d, "INFORMATION SEPARATOR THREE"), (0x1d, "GROUP SEPARATOR"), (0x1d, "GS"),
  (0x1e, "INFORMATION SEPARATOR TWO"), (0x1e, "RECORD SEPARATOR"), (0x1e, "RS"),
  (0x1f, "INFORMATION SEPARATOR ONE"), (0x1f, "UNIT SEPARATOR"), (0x1f, "US"), (0x20, "SP"),
  (0x7f, "DELETE"), (0x7f, "DEL"), (0x80, "PADDING CHARACTER"), (0x81, "HIGH OCTET PRESET"),
  (0x82, "BREAK PERMITTED HERE"), (0x83, "NO BREAK HERE"), (0x84, "INDEX"), (0x85, "NEXT LINE"),
  (0x85, "NEL"), (0x86, "START OF SELECTED AREA"), (0x87, "END OF SELECTED AREA"),
  (0x88, "CHARACTER TABULATION SET"), (0x88, "HORIZONTAL TABULATION SET"),
  (0x89, "CHARACTER TABULATION WITH JUSTIFICATION"),
  (0x89, "HORIZONTAL TABULATION WITH JUSTIFICATION"), (0x8a, "LINE TABULATION SET"),
  (0x8a, "VERTICAL TABULATION SET"), (0x8b, "PARTIAL LINE FORWARD"), (0x8b, "PARTIAL LINE DOWN"),
  (0x8c, "PARTIAL LINE BACKWARD"), (0x8c, "PARTIAL LINE UP"), (0x8d, "REVERSE LINE FEED"),
  (0x8d, "REVERSE INDEX"), (0x8e, "SINGLE SHIFT TWO"), (0x8e, "SINGLE-SHIFT-2"),
  (0x8f, "SINGLE SHIFT THREE"), (0x8f, "SINGLE-SHIFT-3"), (0x90, "DEVICE CONTROL STRING"),
  (0x91, "PRIVATE USE ONE"), (0x91, "PRIVATE USE-1"), (0x92, "PRIVATE USE TWO"),
  (0x92, "PRIVATE USE-2"), (0x93, "SET TRANSMIT STATE"), (0x94, "CANCEL CHARACTER"),
  (0x95, "MESSAGE WAITING"), (0x96, "START OF GUARDED AREA"), (0x96, "START OF PROTECTED AREA"),
  (0x97, "END OF GUARDED AREA"), (0x97, "END OF PROTECTED AREA"), (0x98, "START OF STRING"),
  (0x99, "SINGLE GRAPHIC CHARACTER INTRODUCER"), (0x9a, "SINGLE CHARACTER INTRODUCER"),
  (0x9b, "CONTROL SEQUENCE INTRODUCER"), (0x9c, "STRING TERMINATOR"),
  (0x9d, "OPERATING SYSTEM COMMAND"), (0x9e, "PRIVACY MESSAGE"),
  (0x9f, "APPLICATION PROGRAM COMMAND"), (0xa0, "NBSP"), (0xad, "SHY"),
  (0x1a2, "LATIN CAPITAL LETTER GHA"), (0x1a3, "LATIN SMALL LETTER GHA"), (0x34f, "CGJ"),
  (0x200b, "ZWSP"), (0x200c, "ZWNJ"), (0x200d, "ZWJ"), (0x200e, "LRM"), (0x200f, "RLM"),
  (0x202a, "LRE"), (0x202b, "RLE"), (0x202c, "PDF"), (0x202d, "LRO"), (0x202e, "RLO"),
  (0x202f, "NNBSP"), (0x205f, "MMSP"), (0x2060, "WJ"), (0x2066, "LRI"), (0x2067, "RLI"),
  (0x2068, "FSI"), (0x2069, "PDI"), (0x2118, "WEIERSTRASS ELLIPTIC FUNCTION"),
  (0xfeff, "BYTE ORDER MARK"), (0xfeff, "BOM"), (0xfeff, "ZWNBSP")]

def spelled (s : List Char) : List Char :=
  s.flatMap fun c => ((phrases.lookup c).map String.toList).getD [c]

/-- The place of a name among names with commas between them. -/
def placeOf? (name : List Char) (names : String) : Option Nat :=
  (names.splitOn ",").findIdx? fun n => n ≠ "" && spelled n.toList = name

def ideographs : List (Nat × Nat) :=
  [(0x3400, 0x4dbf), (0x4e00, 0x9fff), (0x20000, 0x2a6df), (0x2a700, 0x2b738),
   (0x2b740, 0x2b81d), (0x2b820, 0x2cea1), (0x2ceb0, 0x2ebe0), (0x30000, 0x3134a)]

/-- The number that four or five digits stand for, whose letters are capitals. -/
def hexNumber? (s : List Char) : Option Nat :=
  if s.length = 4 || s.length = 5 then
    s.foldlM (fun n c => ("0123456789ABCDEF".toList.idxOf? c).map (16 * n + ·)) 0
  else none

def ideograph? (name : List Char) : Option Char :=
  let lead := "CJK UNIFIED IDEOGRAPH-".toList
  if lead.isPrefixOf name then
    ((hexNumber? (name.drop lead.length)).map Char.ofNat).filter (within ideographs)
  else none

/-- The sounds that a syllable begins with, goes on with and ends with. -/
def syllableSounds : List (List String) := [
  ["G", "GG", "N", "D", "DD", "R", "M", "B", "BB", "S", "SS", "", "J", "JJ", "C", "K", "T", "P",
   "H"],
  ["A", "AE", "YA", "YAE", "EO", "E", "YEO", "YE", "O", "WA", "WAE", "OE", "YO", "U", "WEO", "WE",
   "WI", "YU", "EU", "YI", "I"],
  ["", "G", "GG", "GS", "N", "NJ", "NH", "D", "L", "LG", "LM", "LB", "LS", "LT", "LP", "LH", "M",
   "B", "BS", "S", "SS", "NG", "J", "C", "K", "T", "P", "H"]]

/-- The longest of some sounds in front of a text, its number and the rest. -/
def soundOf? (sounds : List String) (s : List Char) : Option (Nat × List Char) :=
  let fits := sounds.zipIdx.filter fun e => e.1.toList.isPrefixOf s
  (fits.foldl (fun (longest : Option (String × Nat)) e =>
    if longest.any fun l => e.1.length ≤ l.1.length then longest else some e) none).map
    fun e => (e.2, s.drop e.1.length)

/-- A syllable by the numbers of its sounds. -/
def syllableFrom (n : Nat) : List (List String) → List Char → Option Nat
  | [], [] => some n
  | [], _ => none
  | sounds :: r, s =>
    match soundOf? sounds s with
    | none => none
    | some (i, rest) => syllableFrom (n * sounds.length + i) r rest

def syllable? (name : List Char) : Option Char :=
  let lead := "HANGUL SYLLABLE ".toList
  if lead.isPrefixOf name then
    (syllableFrom 0 syllableSounds (name.drop lead.length)).map fun n => .ofNat (0xac00 + n)
  else none

/-- The character of a name. Small letters count as capitals but in the names that
are made by a rule. -/
def named? (name : List Char) : Option Char :=
  let capitals := name.map Char.toUpper
  syllable? name <|> ideograph? name <|>
    (nameRuns.findSome? fun r => (placeOf? capitals r.2).map fun i => .ofNat (r.1 + i)) <|>
    (otherNames.find? fun e => e.2.toList = capitals).map fun e => .ofNat e.1

end UmlPress.Text
