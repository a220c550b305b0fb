import ParamGate.Text.CharName.Alphabets
import ParamGate.Text.CharName.Notations
import ParamGate.Text.CharName.Scripts
import ParamGate.Text.CharName.Signs
import ParamGate.Text.CharName.Syllables
import ParamGate.Text.Ranges

/-!
Characters by name, as in the Unicode 14 character database. Most names are listed; those of Hangul
syllables are spelled from the letters, and ideographs are named by their code points.
-/

namespace ParamGate.Text

/-- Characters that go by another name or by an abbreviation. -/
def otherNames : List (String × Nat) := [
  ("NULL", 0), ("NUL", 0), ("START OF HEADING", 1), ("SOH", 1), ("START OF TEXT", 2), ("STX", 2),
  ("END OF TEXT", 3), ("ETX", 3), ("END OF TRANSMISSION", 4), ("EOT", 4), ("ENQUIRY", 5),
  ("ENQ", 5), ("ACKNOWLEDGE", 6), ("ACK", 6), ("ALERT", 7), ("BEL", 7), ("BACKSPACE", 8), ("BS", 8),
  ("CHARACTER TABULATION", 9), ("HORIZONTAL TABULATION", 9), ("HT", 9), ("TAB", 9),
  ("LINE FEED", 10), ("NEW LINE", 10), ("END OF LINE", 10), ("LF", 10), ("NL", 10), ("EOL", 10),
  ("LINE TABULATION", 11), ("VERTICAL TABULATION", 11), ("VT", 11), ("FORM FEED", 12), ("FF", 12),
  ("CARRIAGE RETURN", 13), ("CR", 13), ("SHIFT OUT", 14), ("LOCKING-SHIFT ONE", 14), ("SO", 14),
  ("SHIFT IN", 15), ("LOCKING-SHIFT ZERO", 15), ("SI", 15), ("DATA LINK ESCAPE", 16), ("DLE", 16),
  ("DEVICE CONTROL ONE", 17), ("DC1", 17), ("DEVICE CONTROL TWO", 18), ("DC2", 18),
  ("DEVICE CONTROL THREE", 19), ("DC3", 19), ("DEVICE CONTROL FOUR", 20), ("DC4", 20),
  ("NEGATIVE ACKNOWLEDGE", 21), ("NAK", 21), ("SYNCHRONOUS IDLE", 22), ("SYN", 22),
  ("END OF TRANSMISSION BLOCK", 23), ("ETB", 23), ("CANCEL", 24), ("CAN", 24),
  ("END OF MEDIUM", 25), ("EOM", 25), ("SUBSTITUTE", 26), ("SUB", 26), ("ESCAPE", 27), ("ESC", 27),
  ("INFORMATION SEPARATOR FOUR", 28), ("FILE SEPARATOR", 28), ("FS", 28),
  ("INFORMATION SEPARATOR THREE", 29), ("GROUP SEPARATOR", 29), ("GS", 29),
  ("INFORMATION SEPARATOR TWO", 30), ("RECORD SEPARATOR", 30), ("RS", 30),
  ("INFORMATION SEPARATOR ONE", 31), ("UNIT SEPARATOR", 31), ("US", 31), ("SP", 32),
  ("DELETE", 127), ("DEL", 127), ("PADDING CHARACTER", 128), ("PAD", 128),
  ("HIGH OCTET PRESET", 129), ("HOP", 129), ("BREAK PERMITTED HERE", 130), ("BPH", 130),
  ("NO BREAK HERE", 131), ("NBH", 131), ("INDEX", 132), ("IND", 132), ("NEXT LINE", 133),
  ("NEL", 133), ("START OF SELECTED AREA", 134), ("SSA", 134), ("END OF SELECTED AREA", 135),
  ("ESA", 135), ("CHARACTER TABULATION SET", 136), ("HORIZONTAL TABULATION SET", 136), ("HTS", 136),
  ("CHARACTER TABULATION WITH JUSTIFICATION", 137),
  ("HORIZONTAL TABULATION WITH JUSTIFICATION", 137), ("HTJ", 137), ("LINE TABULATION SET", 138),
  ("VERTICAL TABULATION SET", 138), ("VTS", 138), ("PARTIAL LINE FORWARD", 139),
  ("PARTIAL LINE DOWN", 139), ("PLD", 139), ("PARTIAL LINE BACKWARD", 140),
  ("PARTIAL LINE UP", 140), ("PLU", 140), ("REVERSE LINE FEED", 141), ("REVERSE INDEX", 141),
  ("RI", 141), ("SINGLE SHIFT TWO", 142), ("SINGLE-SHIFT-2", 142), ("SS2", 142),
  ("SINGLE SHIFT THREE", 143), ("SINGLE-SHIFT-3", 143), ("SS3", 143),
  ("DEVICE CONTROL STRING", 144), ("DCS", 144), ("PRIVATE USE ONE", 145), ("PRIVATE USE-1", 145),
  ("PU1", 145), ("PRIVATE USE TWO", 146), ("PRIVATE USE-2", 146), ("PU2", 146),
  ("SET TRANSMIT STATE", 147), ("STS", 147), ("CANCEL CHARACTER", 148), ("CCH", 148),
  ("MESSAGE WAITING", 149), ("MW", 149), ("START OF GUARDED AREA", 150),
  ("START OF PROTECTED AREA", 150), ("SPA", 150), ("END OF GUARDED AREA", 151),
  ("END OF PROTECTED AREA", 151), ("EPA", 151), ("START OF STRING", 152), ("SOS", 152),
  ("SINGLE GRAPHIC CHARACTER INTRODUCER", 153), ("SGC", 153), ("SINGLE CHARACTER INTRODUCER", 154),
  ("SCI", 154), ("CONTROL SEQUENCE INTRODUCER", 155), ("CSI", 155), ("STRING TERMINATOR", 156),
  ("ST", 156), ("OPERATING SYSTEM COMMAND", 157), ("OSC", 157), ("PRIVACY MESSAGE", 158),
  ("PM", 158), ("APPLICATION PROGRAM COMMAND", 159), ("APC", 159), ("NBSP", 160), ("SHY", 173),
  ("LATIN CAPITAL LETTER GHA", 0x1A2), ("LATIN SMALL LETTER GHA", 0x1A3), ("CGJ", 0x34F),
  ("ALM", 0x61C), ("SYRIAC SUBLINEAR COLON SKEWED LEFT", 0x709), ("KANNADA LETTER LLLA", 0xCDE),
  ("LAO LETTER FO FON", 0xE9D), ("LAO LETTER FO FAY", 0xE9F), ("LAO LETTER RO", 0xEA3),
  ("LAO LETTER LO", 0xEA5), ("TIBETAN MARK BKA- SHOG GI MGO RGYAN", 0xFD0),
  ("HANGUL JONGSEONG YESIEUNG-KIYEOK", 0x11EC), ("HANGUL JONGSEONG YESIEUNG-SSANGKIYEOK", 0x11ED),
  ("HANGUL JONGSEONG SSANGYESIEUNG", 0x11EE), ("HANGUL JONGSEONG YESIEUNG-KHIEUKH", 0x11EF),
  ("FVS1", 0x180B), ("FVS2", 0x180C), ("FVS3", 0x180D), ("MVS", 0x180E), ("FVS4", 0x180F),
  ("ZWSP", 0x200B), ("ZWNJ", 0x200C), ("ZWJ", 0x200D), ("LRM", 0x200E), ("RLM", 0x200F),
  ("LRE", 0x202A), ("RLE", 0x202B), ("PDF", 0x202C), ("LRO", 0x202D), ("RLO", 0x202E),
  ("NNBSP", 0x202F), ("MMSP", 0x205F), ("WJ", 0x2060), ("LRI", 0x2066), ("RLI", 0x2067),
  ("FSI", 0x2068), ("PDI", 0x2069), ("WEIERSTRASS ELLIPTIC FUNCTION", 0x2118),
  ("MICR ON US SYMBOL", 0x2448), ("MICR DASH SYMBOL", 0x2449),
  ("LEFTWARDS TRIANGLE-HEADED ARROW WITH DOUBLE VERTICAL STROKE", 0x2B7A),
  ("RIGHTWARDS TRIANGLE-HEADED ARROW WITH DOUBLE VERTICAL STROKE", 0x2B7C),
  ("YI SYLLABLE ITERATION MARK", 0xA015), ("MYANMAR LETTER KHAMTI LLA", 0xAA6E),
  ("PRESENTATION FORM FOR VERTICAL RIGHT WHITE LENTICULAR BRACKET", 0xFE18),
  ("BYTE ORDER MARK", 0xFEFF), ("BOM", 0xFEFF), ("ZWNBSP", 0xFEFF),
  ("CUNEIFORM SIGN NU11 TENU", 0x122D4), ("CUNEIFORM SIGN NU11 OVER NU11 BUR OVER BUR", 0x122D5),
  ("MEDEFAIDRIN CAPITAL LETTER H", 0x16E56), ("MEDEFAIDRIN CAPITAL LETTER NG", 0x16E57),
  ("MEDEFAIDRIN SMALL LETTER H", 0x16E76), ("MEDEFAIDRIN SMALL LETTER NG", 0x16E77),
  ("HENTAIGANA LETTER E-1", 0x1B001),
  ("BYZANTINE MUSICAL SYMBOL FTHORA SKLIRON CHROMA VASIS", 0x1D0C5)]

def selectorRuns : List NamedRun := [
  ⟨0xFE00, [
    "0VS1;0VS2;0VS3;0VS4;0VS5;0VS6;0VS7;0VS8;0VS9;0VS10;0VS11;0VS12;0VS13;0VS14;0VS15;0VS16"]⟩,
  ⟨0xE0100, [
    "0VS17;0VS18;0VS19;0VS20;0VS21;0VS22;0VS23;0VS24;0VS25;0VS26;0VS27;0VS28;0VS29;0VS30;0VS31",
    "0VS32;0VS33;0VS34;0VS35;0VS36;0VS37;0VS38;0VS39;0VS40;0VS41;0VS42;0VS43;0VS44;0VS45;0VS46",
    "0VS47;0VS48;0VS49;0VS50;0VS51;0VS52;0VS53;0VS54;0VS55;0VS56;0VS57;0VS58;0VS59;0VS60;0VS61",
    "0VS62;0VS63;0VS64;0VS65;0VS66;0VS67;0VS68;0VS69;0VS70;0VS71;0VS72;0VS73;0VS74;0VS75;0VS76",
    "0VS77;0VS78;0VS79;0VS80;0VS81;0VS82;0VS83;0VS84;0VS85;0VS86;0VS87;0VS88;0VS89;0VS90;0VS91",
    "0VS92;0VS93;0VS94;0VS95;0VS96;0VS97;0VS98;0VS99;0VS100;0VS101;0VS102;0VS103;0VS104;0VS105",
    "0VS106;0VS107;0VS108;0VS109;0VS110;0VS111;0VS112;0VS113;0VS114;0VS115;0VS116;0VS117;0VS118",
    "0VS119;0VS120;0VS121;0VS122;0VS123;0VS124;0VS125;0VS126;0VS127;0VS128;0VS129;0VS130;0VS131",
    "0VS132;0VS133;0VS134;0VS135;0VS136;0VS137;0VS138;0VS139;0VS140;0VS141;0VS142;0VS143;0VS144",
    "0VS145;0VS146;0VS147;0VS148;0VS149;0VS150;0VS151;0VS152;0VS153;0VS154;0VS155;0VS156;0VS157",
    "0VS158;0VS159;0VS160;0VS161;0VS162;0VS163;0VS164;0VS165;0VS166;0VS167;0VS168;0VS169;0VS170",
    "0VS171;0VS172;0VS173;0VS174;0VS175;0VS176;0VS177;0VS178;0VS179;0VS180;0VS181;0VS182;0VS183",
    "0VS184;0VS185;0VS186;0VS187;0VS188;0VS189;0VS190;0VS191;0VS192;0VS193;0VS194;0VS195;0VS196",
    "0VS197;0VS198;0VS199;0VS200;0VS201;0VS202;0VS203;0VS204;0VS205;0VS206;0VS207;0VS208;0VS209",
    "0VS210;0VS211;0VS212;0VS213;0VS214;0VS215;0VS216;0VS217;0VS218;0VS219;0VS220;0VS221;0VS222",
    "0VS223;0VS224;0VS225;0VS226;0VS227;0VS228;0VS229;0VS230;0VS231;0VS232;0VS233;0VS234;0VS235",
    "0VS236;0VS237;0VS238;0VS239;0VS240;0VS241;0VS242;0VS243;0VS244;0VS245;0VS246;0VS247;0VS248",
    "0VS249;0VS250;0VS251;0VS252;0VS253;0VS254;0VS255;0VS256"]⟩]

def namedRuns : List NamedRun :=
  alphabetRuns ++ signRuns ++ syllableRuns ++ scriptRuns ++ notationRuns ++ selectorRuns

/-- The code point whose number ends a name, in upper-case hexadecimal. -/
def numbered? (stem : String) (width : Nat) (ranges : List (Nat × Nat)) (name : List Char) :
    Option Nat :=
  let digits := name.drop stem.length
  let digit? (c : Char) : Option Nat :=
    if c.isDigit then some (c.toNat - 48)
    else if 'A' ≤ c ∧ c ≤ 'F' then some (c.toNat - 55)
    else none
  if stem.toList.isPrefixOf name && digits.length == width then
    (digits.foldlM (fun n c => (digit? c).map (16 * n + ·)) 0).filter (inRanges ranges)
  else none

def unifiedIdeographs : List (Nat × Nat) := [
  (0x3400, 0x4DBF), (0x4E00, 0x9FFF), (0x20000, 0x2A6DF), (0x2A700, 0x2B738), (0x2B740, 0x2B81D),
  (0x2B820, 0x2CEA1), (0x2CEB0, 0x2EBE0), (0x30000, 0x3134A)]

/-- A unified ideograph; its number may be padded to five digits. -/
def unifiedIdeograph? (name : List Char) : Option Nat :=
  numbered? "CJK UNIFIED IDEOGRAPH-" 4 unifiedIdeographs name <|>
    numbered? "CJK UNIFIED IDEOGRAPH-" 5 unifiedIdeographs name

def otherIdeograph? (name : List Char) : Option Nat :=
  numbered? "CJK COMPATIBILITY IDEOGRAPH-" 4 [(0xF900, 0xFA6D), (0xFA70, 0xFAD9)] name <|>
    numbered? "CJK COMPATIBILITY IDEOGRAPH-" 5 [(0x2F800, 0x2FA1D)] name <|>
    numbered? "KHITAN SMALL SCRIPT CHARACTER-" 5 [(0x18B00, 0x18CD5)] name <|>
    numbered? "NUSHU CHARACTER-" 5 [(0x1B170, 0x1B2FB)] name

def hangulLeads : List (List Char) :=
  splitAt ';' "G;GG;N;D;DD;R;M;B;BB;S;SS;;J;JJ;C;K;T;P;H".toList

def hangulVowels : List (List Char) :=
  splitAt ';' "A;AE;YA;YAE;EO;E;YEO;YE;O;WA;WAE;OE;YO;U;WEO;WE;WI;YU;EU;YI;I".toList

def hangulTails : List (List Char) :=
  splitAt ';' ";G;GG;GS;N;NJ;NH;D;L;LG;LM;LB;LS;LT;LP;LH;M;B;BS;S;SS;NG;J;C;K;T;P;H".toList

def hangulNames : List (List Char) :=
  hangulLeads.flatMap fun lead => hangulVowels.flatMap fun vowel => hangulTails.map fun tail =>
    "HANGUL SYLLABLE ".toList ++ lead ++ vowel ++ tail

def hangulSyllable? (name : List Char) : Option Nat := (hangulNames.idxOf? name).map (0xAC00 + ·)

/-- The code point of a character by its name. The case of ASCII letters is nothing, except in the
names of Hangul syllables and unified ideographs. -/
def codeOfName? (name : String) : Option Nat :=
  let upper := name.toList.map Char.toUpper
  (namedRuns.findSome? fun r => r.find? (splitAt ' ' upper)) <|>
    otherNames.lookup (String.ofList upper) <|>
    unifiedIdeograph? name.toList <|>
    otherIdeograph? upper <|>
    hangulSyllable? name.toList

end ParamGate.Text
