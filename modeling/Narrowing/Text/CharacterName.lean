import Narrowing.Text.Decomposition
/-!
# Names of characters

The names by which an escape denotes a character, after the Unicode standard,
version 14: the scripts in common use, punctuation, symbols and pictographs, what
is named by its number, and the syllables of Hangul, whose names are made of those
of their parts. Controls and some others have names of a second list.

A line of the table gives a code point and the names of those from it on. Each
name after the first is written as the number of characters that it begins with
like the one before it, a bar, and the rest.
-/

namespace Narrowing.Text

/-- **The names of code points.** -/
def nameTable : String := "
20 SPACE;0|EXCLAMATION MARK;0|QUOTATION MARK;0|NUMBER SIGN;0|DOLLAR SIGN
25 PERCENT SIGN;0|AMPERSAND;1|POSTROPHE;0|LEFT PARENTHESIS;0|RIGHT PARENTHESIS
2A ASTERISK;0|PLUS SIGN;0|COMMA;0|HYPHEN-MINUS;0|FULL STOP;0|SOLIDUS;0|DIGIT ZERO
31 DIGIT ONE;6|TWO;7|HREE;6|FOUR;7|IVE;6|SIX;7|EVEN;6|EIGHT;6|NINE;0|COLON
3B SEMICOLON;0|LESS-THAN SIGN;0|EQUALS SIGN;0|GREATER-THAN SIGN;0|QUESTION MARK
40 COMMERCIAL AT;0|LATIN CAPITAL LETTER A;21|B;21|C;21|D;21|E;21|F;21|G;21|H;21|I
4A LATIN CAPITAL LETTER J;21|K;21|L;21|M;21|N;21|O;21|P;21|Q;21|R;21|S;21|T;21|U;21|V
57 LATIN CAPITAL LETTER W;21|X;21|Y;21|Z;1|EFT SQUARE BRACKET;0|REVERSE SOLIDUS
5D RIGHT SQUARE BRACKET;0|CIRCUMFLEX ACCENT;0|LOW LINE;0|GRAVE ACCENT
61 LATIN SMALL LETTER A;19|B;19|C;19|D;19|E;19|F;19|G;19|H;19|I;19|J;19|K;19|L;19|M
6E LATIN SMALL LETTER N;19|O;19|P;19|Q;19|R;19|S;19|T;19|U;19|V;19|W;19|X;19|Y;19|Z
7B LEFT CURLY BRACKET;0|VERTICAL LINE;0|RIGHT CURLY BRACKET;0|TILDE
A0 NO-BREAK SPACE;0|INVERTED EXCLAMATION MARK;0|CENT SIGN;0|POUND SIGN
A4 CURRENCY SIGN;0|YEN SIGN;0|BROKEN BAR;0|SECTION SIGN;0|DIAERESIS;0|COPYRIGHT SIGN
AA FEMININE ORDINAL INDICATOR;0|LEFT-POINTING DOUBLE ANGLE QUOTATION MARK;0|NOT SIGN
AD SOFT HYPHEN;0|REGISTERED SIGN;0|MACRON;0|DEGREE SIGN;0|PLUS-MINUS SIGN
B2 SUPERSCRIPT TWO;13|HREE;0|ACUTE ACCENT;0|MICRO SIGN;0|PILCROW SIGN;0|MIDDLE DOT
B8 CEDILLA;0|SUPERSCRIPT ONE;0|MASCULINE ORDINAL INDICATOR
BB RIGHT-POINTING DOUBLE ANGLE QUOTATION MARK;0|VULGAR FRACTION ONE QUARTER;20|HALF
BE VULGAR FRACTION THREE QUARTERS;0|INVERTED QUESTION MARK
C0 LATIN CAPITAL LETTER A WITH GRAVE;28|ACUTE;28|CIRCUMFLEX;28|TILDE;28|DIAERESIS
C5 LATIN CAPITAL LETTER A WITH RING ABOVE;22|E;21|C WITH CEDILLA;21|E WITH GRAVE
C9 LATIN CAPITAL LETTER E WITH ACUTE;28|CIRCUMFLEX;28|DIAERESIS;21|I WITH GRAVE
CD LATIN CAPITAL LETTER I WITH ACUTE;28|CIRCUMFLEX;28|DIAERESIS;21|ETH
D1 LATIN CAPITAL LETTER N WITH TILDE;21|O WITH GRAVE;28|ACUTE;28|CIRCUMFLEX;28|TILDE
D6 LATIN CAPITAL LETTER O WITH DIAERESIS;0|MULTIPLICATION SIGN
D8 LATIN CAPITAL LETTER O WITH STROKE;21|U WITH GRAVE;28|ACUTE;28|CIRCUMFLEX
DC LATIN CAPITAL LETTER U WITH DIAERESIS;21|Y WITH ACUTE;21|THORN
DF LATIN SMALL LETTER SHARP S;19|A WITH GRAVE;26|ACUTE;26|CIRCUMFLEX;26|TILDE
E4 LATIN SMALL LETTER A WITH DIAERESIS;26|RING ABOVE;20|E;19|C WITH CEDILLA
E8 LATIN SMALL LETTER E WITH GRAVE;26|ACUTE;26|CIRCUMFLEX;26|DIAERESIS
EC LATIN SMALL LETTER I WITH GRAVE;26|ACUTE;26|CIRCUMFLEX;26|DIAERESIS;19|ETH
F1 LATIN SMALL LETTER N WITH TILDE;19|O WITH GRAVE;26|ACUTE;26|CIRCUMFLEX;26|TILDE
F6 LATIN SMALL LETTER O WITH DIAERESIS;0|DIVISION SIGN
F8 LATIN SMALL LETTER O WITH STROKE;19|U WITH GRAVE;26|ACUTE;26|CIRCUMFLEX
FC LATIN SMALL LETTER U WITH DIAERESIS;19|Y WITH ACUTE;19|THORN;19|Y WITH DIAERESIS
100 LATIN CAPITAL LETTER A WITH MACRON;6|SMALL LETTER A WITH MACRON
102 LATIN CAPITAL LETTER A WITH BREVE;6|SMALL LETTER A WITH BREVE
104 LATIN CAPITAL LETTER A WITH OGONEK;6|SMALL LETTER A WITH OGONEK
106 LATIN CAPITAL LETTER C WITH ACUTE;6|SMALL LETTER C WITH ACUTE
108 LATIN CAPITAL LETTER C WITH CIRCUMFLEX;6|SMALL LETTER C WITH CIRCUMFLEX
10A LATIN CAPITAL LETTER C WITH DOT ABOVE;6|SMALL LETTER C WITH DOT ABOVE
10C LATIN CAPITAL LETTER C WITH CARON;6|SMALL LETTER C WITH CARON
10E LATIN CAPITAL LETTER D WITH CARON;6|SMALL LETTER D WITH CARON
110 LATIN CAPITAL LETTER D WITH STROKE;6|SMALL LETTER D WITH STROKE
112 LATIN CAPITAL LETTER E WITH MACRON;6|SMALL LETTER E WITH MACRON
114 LATIN CAPITAL LETTER E WITH BREVE;6|SMALL LETTER E WITH BREVE
116 LATIN CAPITAL LETTER E WITH DOT ABOVE;6|SMALL LETTER E WITH DOT ABOVE
118 LATIN CAPITAL LETTER E WITH OGONEK;6|SMALL LETTER E WITH OGONEK
11A LATIN CAPITAL LETTER E WITH CARON;6|SMALL LETTER E WITH CARON
11C LATIN CAPITAL LETTER G WITH CIRCUMFLEX;6|SMALL LETTER G WITH CIRCUMFLEX
11E LATIN CAPITAL LETTER G WITH BREVE;6|SMALL LETTER G WITH BREVE
120 LATIN CAPITAL LETTER G WITH DOT ABOVE;6|SMALL LETTER G WITH DOT ABOVE
122 LATIN CAPITAL LETTER G WITH CEDILLA;6|SMALL LETTER G WITH CEDILLA
124 LATIN CAPITAL LETTER H WITH CIRCUMFLEX;6|SMALL LETTER H WITH CIRCUMFLEX
126 LATIN CAPITAL LETTER H WITH STROKE;6|SMALL LETTER H WITH STROKE
128 LATIN CAPITAL LETTER I WITH TILDE;6|SMALL LETTER I WITH TILDE
12A LATIN CAPITAL LETTER I WITH MACRON;6|SMALL LETTER I WITH MACRON
12C LATIN CAPITAL LETTER I WITH BREVE;6|SMALL LETTER I WITH BREVE
12E LATIN CAPITAL LETTER I WITH OGONEK;6|SMALL LETTER I WITH OGONEK
130 LATIN CAPITAL LETTER I WITH DOT ABOVE;6|SMALL LETTER DOTLESS I
132 LATIN CAPITAL LIGATURE IJ;6|SMALL LIGATURE IJ;6|CAPITAL LETTER J WITH CIRCUMFLEX
135 LATIN SMALL LETTER J WITH CIRCUMFLEX;6|CAPITAL LETTER K WITH CEDILLA
137 LATIN SMALL LETTER K WITH CEDILLA;20|RA;6|CAPITAL LETTER L WITH ACUTE
13A LATIN SMALL LETTER L WITH ACUTE;6|CAPITAL LETTER L WITH CEDILLA
13C LATIN SMALL LETTER L WITH CEDILLA;6|CAPITAL LETTER L WITH CARON
13E LATIN SMALL LETTER L WITH CARON;6|CAPITAL LETTER L WITH MIDDLE DOT
140 LATIN SMALL LETTER L WITH MIDDLE DOT;6|CAPITAL LETTER L WITH STROKE
142 LATIN SMALL LETTER L WITH STROKE;6|CAPITAL LETTER N WITH ACUTE
144 LATIN SMALL LETTER N WITH ACUTE;6|CAPITAL LETTER N WITH CEDILLA
146 LATIN SMALL LETTER N WITH CEDILLA;6|CAPITAL LETTER N WITH CARON
148 LATIN SMALL LETTER N WITH CARON;21|PRECEDED BY APOSTROPHE;6|CAPITAL LETTER ENG
14B LATIN SMALL LETTER ENG;6|CAPITAL LETTER O WITH MACRON;6|SMALL LETTER O WITH MACRON
14E LATIN CAPITAL LETTER O WITH BREVE;6|SMALL LETTER O WITH BREVE
150 LATIN CAPITAL LETTER O WITH DOUBLE ACUTE;6|SMALL LETTER O WITH DOUBLE ACUTE
152 LATIN CAPITAL LIGATURE OE;6|SMALL LIGATURE OE;6|CAPITAL LETTER R WITH ACUTE
155 LATIN SMALL LETTER R WITH ACUTE;6|CAPITAL LETTER R WITH CEDILLA
157 LATIN SMALL LETTER R WITH CEDILLA;6|CAPITAL LETTER R WITH CARON
159 LATIN SMALL LETTER R WITH CARON;6|CAPITAL LETTER S WITH ACUTE
15B LATIN SMALL LETTER S WITH ACUTE;6|CAPITAL LETTER S WITH CIRCUMFLEX
15D LATIN SMALL LETTER S WITH CIRCUMFLEX;6|CAPITAL LETTER S WITH CEDILLA
15F LATIN SMALL LETTER S WITH CEDILLA;6|CAPITAL LETTER S WITH CARON
161 LATIN SMALL LETTER S WITH CARON;6|CAPITAL LETTER T WITH CEDILLA
163 LATIN SMALL LETTER T WITH CEDILLA;6|CAPITAL LETTER T WITH CARON
165 LATIN SMALL LETTER T WITH CARON;6|CAPITAL LETTER T WITH STROKE
167 LATIN SMALL LETTER T WITH STROKE;6|CAPITAL LETTER U WITH TILDE
169 LATIN SMALL LETTER U WITH TILDE;6|CAPITAL LETTER U WITH MACRON
16B LATIN SMALL LETTER U WITH MACRON;6|CAPITAL LETTER U WITH BREVE
16D LATIN SMALL LETTER U WITH BREVE;6|CAPITAL LETTER U WITH RING ABOVE
16F LATIN SMALL LETTER U WITH RING ABOVE;6|CAPITAL LETTER U WITH DOUBLE ACUTE
171 LATIN SMALL LETTER U WITH DOUBLE ACUTE;6|CAPITAL LETTER U WITH OGONEK
173 LATIN SMALL LETTER U WITH OGONEK;6|CAPITAL LETTER W WITH CIRCUMFLEX
175 LATIN SMALL LETTER W WITH CIRCUMFLEX;6|CAPITAL LETTER Y WITH CIRCUMFLEX
177 LATIN SMALL LETTER Y WITH CIRCUMFLEX;6|CAPITAL LETTER Y WITH DIAERESIS
179 LATIN CAPITAL LETTER Z WITH ACUTE;6|SMALL LETTER Z WITH ACUTE
17B LATIN CAPITAL LETTER Z WITH DOT ABOVE;6|SMALL LETTER Z WITH DOT ABOVE
17D LATIN CAPITAL LETTER Z WITH CARON;6|SMALL LETTER Z WITH CARON;19|LONG S
180 LATIN SMALL LETTER B WITH STROKE;6|CAPITAL LETTER B WITH HOOK;28|TOPBAR
183 LATIN SMALL LETTER B WITH TOPBAR;6|CAPITAL LETTER TONE SIX;6|SMALL LETTER TONE SIX
186 LATIN CAPITAL LETTER OPEN O;21|C WITH HOOK;6|SMALL LETTER C WITH HOOK
189 LATIN CAPITAL LETTER AFRICAN D;21|D WITH HOOK;28|TOPBAR
18C LATIN SMALL LETTER D WITH TOPBAR;19|TURNED DELTA;6|CAPITAL LETTER REVERSED E
18F LATIN CAPITAL LETTER SCHWA;21|OPEN E;21|F WITH HOOK;6|SMALL LETTER F WITH HOOK
193 LATIN CAPITAL LETTER G WITH HOOK;22|AMMA;6|SMALL LETTER HV;6|CAPITAL LETTER IOTA
197 LATIN CAPITAL LETTER I WITH STROKE;21|K WITH HOOK;6|SMALL LETTER K WITH HOOK
19A LATIN SMALL LETTER L WITH BAR;20|AMBDA WITH STROKE;6|CAPITAL LETTER TURNED M
19D LATIN CAPITAL LETTER N WITH LEFT HOOK;6|SMALL LETTER N WITH LONG RIGHT LEG
19F LATIN CAPITAL LETTER O WITH MIDDLE TILDE;28|HORN;6|SMALL LETTER O WITH HORN
1A2 LATIN CAPITAL LETTER OI;6|SMALL LETTER OI;6|CAPITAL LETTER P WITH HOOK
1A5 LATIN SMALL LETTER P WITH HOOK;6|LETTER YR;6|CAPITAL LETTER TONE TWO
1A8 LATIN SMALL LETTER TONE TWO;6|CAPITAL LETTER ESH;6|LETTER REVERSED ESH LOOP
1AB LATIN SMALL LETTER T WITH PALATAL HOOK;6|CAPITAL LETTER T WITH HOOK
1AD LATIN SMALL LETTER T WITH HOOK;6|CAPITAL LETTER T WITH RETROFLEX HOOK
1AF LATIN CAPITAL LETTER U WITH HORN;6|SMALL LETTER U WITH HORN
1B1 LATIN CAPITAL LETTER UPSILON;21|V WITH HOOK;21|Y WITH HOOK
1B4 LATIN SMALL LETTER Y WITH HOOK;6|CAPITAL LETTER Z WITH STROKE
1B6 LATIN SMALL LETTER Z WITH STROKE;6|CAPITAL LETTER EZH;24| REVERSED
1B9 LATIN SMALL LETTER EZH REVERSED;23|WITH TAIL;6|LETTER TWO WITH STROKE
1BC LATIN CAPITAL LETTER TONE FIVE;6|SMALL LETTER TONE FIVE
1BE LATIN LETTER INVERTED GLOTTAL STOP WITH STROKE;13|WYNN;13|DENTAL CLICK
1C1 LATIN LETTER LATERAL CLICK;13|ALVEOLAR CLICK;13|RETROFLEX CLICK
1C4 LATIN CAPITAL LETTER DZ WITH CARON;22| WITH SMALL LETTER Z WITH CARON
1C6 LATIN SMALL LETTER DZ WITH CARON;6|CAPITAL LETTER LJ;22| WITH SMALL LETTER J
1C9 LATIN SMALL LETTER LJ;6|CAPITAL LETTER NJ;22| WITH SMALL LETTER J
1CC LATIN SMALL LETTER NJ;6|CAPITAL LETTER A WITH CARON;6|SMALL LETTER A WITH CARON
1CF LATIN CAPITAL LETTER I WITH CARON;6|SMALL LETTER I WITH CARON
1D1 LATIN CAPITAL LETTER O WITH CARON;6|SMALL LETTER O WITH CARON
1D3 LATIN CAPITAL LETTER U WITH CARON;6|SMALL LETTER U WITH CARON
1D5 LATIN CAPITAL LETTER U WITH DIAERESIS AND MACRON
1D6 LATIN SMALL LETTER U WITH DIAERESIS AND MACRON
1D7 LATIN CAPITAL LETTER U WITH DIAERESIS AND ACUTE
1D8 LATIN SMALL LETTER U WITH DIAERESIS AND ACUTE
1D9 LATIN CAPITAL LETTER U WITH DIAERESIS AND CARON
1DA LATIN SMALL LETTER U WITH DIAERESIS AND CARON
1DB LATIN CAPITAL LETTER U WITH DIAERESIS AND GRAVE
1DC LATIN SMALL LETTER U WITH DIAERESIS AND GRAVE;19|TURNED E
1DE LATIN CAPITAL LETTER A WITH DIAERESIS AND MACRON
1DF LATIN SMALL LETTER A WITH DIAERESIS AND MACRON
1E0 LATIN CAPITAL LETTER A WITH DOT ABOVE AND MACRON
1E1 LATIN SMALL LETTER A WITH DOT ABOVE AND MACRON;6|CAPITAL LETTER AE WITH MACRON
1E3 LATIN SMALL LETTER AE WITH MACRON;6|CAPITAL LETTER G WITH STROKE
1E5 LATIN SMALL LETTER G WITH STROKE;6|CAPITAL LETTER G WITH CARON
1E7 LATIN SMALL LETTER G WITH CARON;6|CAPITAL LETTER K WITH CARON
1E9 LATIN SMALL LETTER K WITH CARON;6|CAPITAL LETTER O WITH OGONEK
1EB LATIN SMALL LETTER O WITH OGONEK;6|CAPITAL LETTER O WITH OGONEK AND MACRON
1ED LATIN SMALL LETTER O WITH OGONEK AND MACRON;6|CAPITAL LETTER EZH WITH CARON
1EF LATIN SMALL LETTER EZH WITH CARON;19|J WITH CARON;6|CAPITAL LETTER DZ
1F2 LATIN CAPITAL LETTER D WITH SMALL LETTER Z;6|SMALL LETTER DZ
1F4 LATIN CAPITAL LETTER G WITH ACUTE;6|SMALL LETTER G WITH ACUTE
1F6 LATIN CAPITAL LETTER HWAIR;21|WYNN;21|N WITH GRAVE;6|SMALL LETTER N WITH GRAVE
1FA LATIN CAPITAL LETTER A WITH RING ABOVE AND ACUTE
1FB LATIN SMALL LETTER A WITH RING ABOVE AND ACUTE;6|CAPITAL LETTER AE WITH ACUTE
1FD LATIN SMALL LETTER AE WITH ACUTE;6|CAPITAL LETTER O WITH STROKE AND ACUTE
1FF LATIN SMALL LETTER O WITH STROKE AND ACUTE;6|CAPITAL LETTER A WITH DOUBLE GRAVE
201 LATIN SMALL LETTER A WITH DOUBLE GRAVE;6|CAPITAL LETTER A WITH INVERTED BREVE
203 LATIN SMALL LETTER A WITH INVERTED BREVE;6|CAPITAL LETTER E WITH DOUBLE GRAVE
205 LATIN SMALL LETTER E WITH DOUBLE GRAVE;6|CAPITAL LETTER E WITH INVERTED BREVE
207 LATIN SMALL LETTER E WITH INVERTED BREVE;6|CAPITAL LETTER I WITH DOUBLE GRAVE
209 LATIN SMALL LETTER I WITH DOUBLE GRAVE;6|CAPITAL LETTER I WITH INVERTED BREVE
20B LATIN SMALL LETTER I WITH INVERTED BREVE;6|CAPITAL LETTER O WITH DOUBLE GRAVE
20D LATIN SMALL LETTER O WITH DOUBLE GRAVE;6|CAPITAL LETTER O WITH INVERTED BREVE
20F LATIN SMALL LETTER O WITH INVERTED BREVE;6|CAPITAL LETTER R WITH DOUBLE GRAVE
211 LATIN SMALL LETTER R WITH DOUBLE GRAVE;6|CAPITAL LETTER R WITH INVERTED BREVE
213 LATIN SMALL LETTER R WITH INVERTED BREVE;6|CAPITAL LETTER U WITH DOUBLE GRAVE
215 LATIN SMALL LETTER U WITH DOUBLE GRAVE;6|CAPITAL LETTER U WITH INVERTED BREVE
217 LATIN SMALL LETTER U WITH INVERTED BREVE;6|CAPITAL LETTER S WITH COMMA BELOW
219 LATIN SMALL LETTER S WITH COMMA BELOW;6|CAPITAL LETTER T WITH COMMA BELOW
21B LATIN SMALL LETTER T WITH COMMA BELOW;6|CAPITAL LETTER YOGH;6|SMALL LETTER YOGH
21E LATIN CAPITAL LETTER H WITH CARON;6|SMALL LETTER H WITH CARON
220 LATIN CAPITAL LETTER N WITH LONG RIGHT LEG;6|SMALL LETTER D WITH CURL
222 LATIN CAPITAL LETTER OU;6|SMALL LETTER OU;6|CAPITAL LETTER Z WITH HOOK
225 LATIN SMALL LETTER Z WITH HOOK;6|CAPITAL LETTER A WITH DOT ABOVE
227 LATIN SMALL LETTER A WITH DOT ABOVE;6|CAPITAL LETTER E WITH CEDILLA
229 LATIN SMALL LETTER E WITH CEDILLA;6|CAPITAL LETTER O WITH DIAERESIS AND MACRON
22B LATIN SMALL LETTER O WITH DIAERESIS AND MACRON
22C LATIN CAPITAL LETTER O WITH TILDE AND MACRON
22D LATIN SMALL LETTER O WITH TILDE AND MACRON;6|CAPITAL LETTER O WITH DOT ABOVE
22F LATIN SMALL LETTER O WITH DOT ABOVE;6|CAPITAL LETTER O WITH DOT ABOVE AND MACRON
231 LATIN SMALL LETTER O WITH DOT ABOVE AND MACRON;6|CAPITAL LETTER Y WITH MACRON
233 LATIN SMALL LETTER Y WITH MACRON;19|L WITH CURL;19|N WITH CURL;19|T WITH CURL
237 LATIN SMALL LETTER DOTLESS J;20|B DIGRAPH;19|QP DIGRAPH
23A LATIN CAPITAL LETTER A WITH STROKE;21|C WITH STROKE;6|SMALL LETTER C WITH STROKE
23D LATIN CAPITAL LETTER L WITH BAR;21|T WITH DIAGONAL STROKE
23F LATIN SMALL LETTER S WITH SWASH TAIL;19|Z WITH SWASH TAIL
241 LATIN CAPITAL LETTER GLOTTAL STOP;6|SMALL LETTER GLOTTAL STOP
243 LATIN CAPITAL LETTER B WITH STROKE;21|U BAR;21|TURNED V;21|E WITH STROKE
247 LATIN SMALL LETTER E WITH STROKE;6|CAPITAL LETTER J WITH STROKE
249 LATIN SMALL LETTER J WITH STROKE;6|CAPITAL LETTER SMALL Q WITH HOOK TAIL
24B LATIN SMALL LETTER Q WITH HOOK TAIL;6|CAPITAL LETTER R WITH STROKE
24D LATIN SMALL LETTER R WITH STROKE;6|CAPITAL LETTER Y WITH STROKE
24F LATIN SMALL LETTER Y WITH STROKE;19|TURNED A;19|ALPHA;19|TURNED ALPHA
253 LATIN SMALL LETTER B WITH HOOK;19|OPEN O;19|C WITH CURL;19|D WITH TAIL;26|HOOK
258 LATIN SMALL LETTER REVERSED E;19|SCHWA;24| WITH HOOK;19|OPEN E;19|REVERSED OPEN E
25D LATIN SMALL LETTER REVERSED OPEN E WITH HOOK;19|CLOSED REVERSED OPEN E
25F LATIN SMALL LETTER DOTLESS J WITH STROKE;19|G WITH HOOK;19|SCRIPT G
262 LATIN LETTER SMALL CAPITAL G;6|SMALL LETTER GAMMA;19|RAMS HORN;19|TURNED H
266 LATIN SMALL LETTER H WITH HOOK;20|ENG WITH HOOK;19|I WITH STROKE;20|OTA
26A LATIN LETTER SMALL CAPITAL I;6|SMALL LETTER L WITH MIDDLE TILDE;26|BELT
26D LATIN SMALL LETTER L WITH RETROFLEX HOOK;20|EZH;19|TURNED M;27| WITH LONG LEG
271 LATIN SMALL LETTER M WITH HOOK;19|N WITH LEFT HOOK;26|RETROFLEX HOOK
274 LATIN LETTER SMALL CAPITAL N;6|SMALL LETTER BARRED O;6|LETTER SMALL CAPITAL OE
277 LATIN SMALL LETTER CLOSED OMEGA;19|PHI;19|TURNED R;27| WITH LONG LEG;33|HOOK
27C LATIN SMALL LETTER R WITH LONG LEG;26|TAIL;26|FISHHOOK;20|EVERSED R WITH FISHHOOK
280 LATIN LETTER SMALL CAPITAL R;27|INVERTED R;6|SMALL LETTER S WITH HOOK;19|ESH
284 LATIN SMALL LETTER DOTLESS J WITH STROKE AND HOOK;19|SQUAT REVERSED ESH
286 LATIN SMALL LETTER ESH WITH CURL;19|TURNED T;20| WITH RETROFLEX HOOK;19|U BAR
28A LATIN SMALL LETTER UPSILON;19|V WITH HOOK;19|TURNED V;26|W;26|Y
28F LATIN LETTER SMALL CAPITAL Y;6|SMALL LETTER Z WITH RETROFLEX HOOK;26|CURL;19|EZH
293 LATIN SMALL LETTER EZH WITH CURL;6|LETTER GLOTTAL STOP
295 LATIN LETTER PHARYNGEAL VOICED FRICATIVE;13|INVERTED GLOTTAL STOP;13|STRETCHED C
298 LATIN LETTER BILABIAL CLICK;13|SMALL CAPITAL B;6|SMALL LETTER CLOSED OPEN E
29B LATIN LETTER SMALL CAPITAL G WITH HOOK;27|H;6|SMALL LETTER J WITH CROSSED-TAIL
29E LATIN SMALL LETTER TURNED K;6|LETTER SMALL CAPITAL L;6|SMALL LETTER Q WITH HOOK
2A1 LATIN LETTER GLOTTAL STOP WITH STROKE;13|REVERSED GLOTTAL STOP WITH STROKE
2A3 LATIN SMALL LETTER DZ DIGRAPH;20|EZH DIGRAPH;20|Z DIGRAPH WITH CURL;19|TS DIGRAPH
2A7 LATIN SMALL LETTER TESH DIGRAPH;20|C DIGRAPH WITH CURL;19|FENG DIGRAPH
2AA LATIN SMALL LETTER LS DIGRAPH;20|Z DIGRAPH;6|LETTER BILABIAL PERCUSSIVE
2AD LATIN LETTER BIDENTAL PERCUSSIVE;6|SMALL LETTER TURNED H WITH FISHHOOK
2AF LATIN SMALL LETTER TURNED H WITH FISHHOOK AND TAIL;0|MODIFIER LETTER SMALL H
2B1 MODIFIER LETTER SMALL H WITH HOOK;22|J;22|R;22|TURNED R;30| WITH HOOK
2B6 MODIFIER LETTER SMALL CAPITAL INVERTED R;22|W;22|Y;16|PRIME;16|DOUBLE PRIME
2BB MODIFIER LETTER TURNED COMMA;16|APOSTROPHE;16|REVERSED COMMA;17|IGHT HALF RING
2BF MODIFIER LETTER LEFT HALF RING;16|GLOTTAL STOP;16|REVERSED GLOTTAL STOP
2C2 MODIFIER LETTER LEFT ARROWHEAD;16|RIGHT ARROWHEAD;16|UP ARROWHEAD
2C5 MODIFIER LETTER DOWN ARROWHEAD;16|CIRCUMFLEX ACCENT;0|CARON
2C8 MODIFIER LETTER VERTICAL LINE;16|MACRON;16|ACUTE ACCENT;16|GRAVE ACCENT
2CC MODIFIER LETTER LOW VERTICAL LINE;20|MACRON;20|GRAVE ACCENT;20|ACUTE ACCENT
2D0 MODIFIER LETTER TRIANGULAR COLON;16|HALF TRIANGULAR COLON
2D2 MODIFIER LETTER CENTRED RIGHT HALF RING;24|LEFT HALF RING;16|UP TACK;16|DOWN TACK
2D6 MODIFIER LETTER PLUS SIGN;16|MINUS SIGN;0|BREVE;0|DOT ABOVE;0|RING ABOVE;0|OGONEK
2DC SMALL TILDE;0|DOUBLE ACUTE ACCENT;0|MODIFIER LETTER RHOTIC HOOK;16|CROSS ACCENT
2E0 MODIFIER LETTER SMALL GAMMA;22|L;22|S;22|X;22|REVERSED GLOTTAL STOP
2E5 MODIFIER LETTER EXTRA-HIGH TONE BAR;16|HIGH TONE BAR;16|MID TONE BAR
2E8 MODIFIER LETTER LOW TONE BAR;16|EXTRA-LOW TONE BAR;16|YIN DEPARTING TONE MARK
2EB MODIFIER LETTER YANG DEPARTING TONE MARK;16|VOICING;16|UNASPIRATED
2EE MODIFIER LETTER DOUBLE APOSTROPHE;16|LOW DOWN ARROWHEAD;20|UP ARROWHEAD
2F1 MODIFIER LETTER LOW LEFT ARROWHEAD;20|RIGHT ARROWHEAD;22|NG;16|MIDDLE GRAVE ACCENT
2F5 MODIFIER LETTER MIDDLE DOUBLE GRAVE ACCENT;30|ACUTE ACCENT;16|LOW TILDE
2F8 MODIFIER LETTER RAISED COLON;16|BEGIN HIGH TONE;16|END HIGH TONE;16|BEGIN LOW TONE
2FC MODIFIER LETTER END LOW TONE;16|SHELF;16|OPEN SHELF;16|LOW LEFT ARROW
300 COMBINING GRAVE ACCENT;10|ACUTE ACCENT;10|CIRCUMFLEX ACCENT;10|TILDE;10|MACRON
305 COMBINING OVERLINE;10|BREVE;10|DOT ABOVE;11|IAERESIS;10|HOOK ABOVE;10|RING ABOVE
30B COMBINING DOUBLE ACUTE ACCENT;10|CARON;10|VERTICAL LINE ABOVE
30E COMBINING DOUBLE VERTICAL LINE ABOVE;17|GRAVE ACCENT;10|CANDRABINDU
311 COMBINING INVERTED BREVE;10|TURNED COMMA ABOVE;10|COMMA ABOVE
314 COMBINING REVERSED COMMA ABOVE;10|COMMA ABOVE RIGHT;10|GRAVE ACCENT BELOW
317 COMBINING ACUTE ACCENT BELOW;10|LEFT TACK BELOW;10|RIGHT TACK BELOW
31A COMBINING LEFT ANGLE ABOVE;10|HORN;10|LEFT HALF RING BELOW;10|UP TACK BELOW
31E COMBINING DOWN TACK BELOW;10|PLUS SIGN BELOW;10|MINUS SIGN BELOW
321 COMBINING PALATALIZED HOOK BELOW;10|RETROFLEX HOOK BELOW;10|DOT BELOW
324 COMBINING DIAERESIS BELOW;10|RING BELOW;10|COMMA BELOW;11|EDILLA;10|OGONEK
329 COMBINING VERTICAL LINE BELOW;10|BRIDGE BELOW;10|INVERTED DOUBLE ARCH BELOW
32C COMBINING CARON BELOW;11|IRCUMFLEX ACCENT BELOW;10|BREVE BELOW
32F COMBINING INVERTED BREVE BELOW;10|TILDE BELOW;10|MACRON BELOW;10|LOW LINE
333 COMBINING DOUBLE LOW LINE;10|TILDE OVERLAY;10|SHORT STROKE OVERLAY
336 COMBINING LONG STROKE OVERLAY;10|SHORT SOLIDUS OVERLAY;10|LONG SOLIDUS OVERLAY
339 COMBINING RIGHT HALF RING BELOW;10|INVERTED BRIDGE BELOW;10|SQUARE BELOW
33C COMBINING SEAGULL BELOW;10|X ABOVE;10|VERTICAL TILDE;10|DOUBLE OVERLINE
340 COMBINING GRAVE TONE MARK;10|ACUTE TONE MARK;10|GREEK PERISPOMENI;16|KORONIS
344 COMBINING GREEK DIALYTIKA TONOS;16|YPOGEGRAMMENI;10|BRIDGE ABOVE
347 COMBINING EQUALS SIGN BELOW;10|DOUBLE VERTICAL LINE BELOW;10|LEFT ANGLE BELOW
34A COMBINING NOT TILDE ABOVE;10|HOMOTHETIC ABOVE;10|ALMOST EQUAL TO ABOVE
34D COMBINING LEFT RIGHT ARROW BELOW;10|UPWARDS ARROW BELOW;10|GRAPHEME JOINER
350 COMBINING RIGHT ARROWHEAD ABOVE;10|LEFT HALF RING ABOVE;10|FERMATA;10|X BELOW
354 COMBINING LEFT ARROWHEAD BELOW;10|RIGHT ARROWHEAD BELOW;26|AND UP ARROWHEAD BELOW
357 COMBINING RIGHT HALF RING ABOVE;10|DOT ABOVE RIGHT;10|ASTERISK BELOW
35A COMBINING DOUBLE RING BELOW;10|ZIGZAG ABOVE;10|DOUBLE BREVE BELOW;22|;17|MACRON
35F COMBINING DOUBLE MACRON BELOW;17|TILDE;17|INVERTED BREVE;17|RIGHTWARDS ARROW BELOW
363 COMBINING LATIN SMALL LETTER A;29|E;29|I;29|O;29|U;29|C;29|D;29|H;29|M;29|R;29|T
36E COMBINING LATIN SMALL LETTER V;29|X;0|GREEK CAPITAL LETTER HETA
371 GREEK SMALL LETTER HETA;6|CAPITAL LETTER ARCHAIC SAMPI
373 GREEK SMALL LETTER ARCHAIC SAMPI;6|NUMERAL SIGN;6|LOWER NUMERAL SIGN
376 GREEK CAPITAL LETTER PAMPHYLIAN DIGAMMA;6|SMALL LETTER PAMPHYLIAN DIGAMMA
37A GREEK YPOGEGRAMMENI;6|SMALL REVERSED LUNATE SIGMA SYMBOL
37C GREEK SMALL DOTTED LUNATE SIGMA SYMBOL;12|REVERSED DOTTED LUNATE SIGMA SYMBOL
37E GREEK QUESTION MARK;6|CAPITAL LETTER YOT
384 GREEK TONOS;6|DIALYTIKA TONOS;6|CAPITAL LETTER ALPHA WITH TONOS;6|ANO TELEIA
388 GREEK CAPITAL LETTER EPSILON WITH TONOS;22|TA WITH TONOS;21|IOTA WITH TONOS
38C GREEK CAPITAL LETTER OMICRON WITH TONOS
38E GREEK CAPITAL LETTER UPSILON WITH TONOS;21|OMEGA WITH TONOS
390 GREEK SMALL LETTER IOTA WITH DIALYTIKA AND TONOS;6|CAPITAL LETTER ALPHA;21|BETA
393 GREEK CAPITAL LETTER GAMMA;21|DELTA;21|EPSILON;21|ZETA;21|ETA;21|THETA;21|IOTA
39A GREEK CAPITAL LETTER KAPPA;21|LAMDA;21|MU;21|NU;21|XI;21|OMICRON;21|PI;21|RHO
3A3 GREEK CAPITAL LETTER SIGMA;21|TAU;21|UPSILON;21|PHI;21|CHI;21|PSI;21|OMEGA
3AA GREEK CAPITAL LETTER IOTA WITH DIALYTIKA;21|UPSILON WITH DIALYTIKA
3AC GREEK SMALL LETTER ALPHA WITH TONOS;19|EPSILON WITH TONOS;20|TA WITH TONOS
3AF GREEK SMALL LETTER IOTA WITH TONOS;19|UPSILON WITH DIALYTIKA AND TONOS;19|ALPHA
3B2 GREEK SMALL LETTER BETA;19|GAMMA;19|DELTA;19|EPSILON;19|ZETA;19|ETA;19|THETA
3B9 GREEK SMALL LETTER IOTA;19|KAPPA;19|LAMDA;19|MU;19|NU;19|XI;19|OMICRON;19|PI
3C1 GREEK SMALL LETTER RHO;19|FINAL SIGMA;19|SIGMA;19|TAU;19|UPSILON;19|PHI;19|CHI
3C8 GREEK SMALL LETTER PSI;19|OMEGA;19|IOTA WITH DIALYTIKA;19|UPSILON WITH DIALYTIKA
3CC GREEK SMALL LETTER OMICRON WITH TONOS;19|UPSILON WITH TONOS;19|OMEGA WITH TONOS
3CF GREEK CAPITAL KAI SYMBOL;6|BETA SYMBOL;6|THETA SYMBOL;6|UPSILON WITH HOOK SYMBOL
3D3 GREEK UPSILON WITH ACUTE AND HOOK SYMBOL;19|DIAERESIS AND HOOK SYMBOL;6|PHI SYMBOL
3D6 GREEK PI SYMBOL;6|KAI SYMBOL;6|LETTER ARCHAIC KOPPA;6|SMALL LETTER ARCHAIC KOPPA
3DA GREEK LETTER STIGMA;6|SMALL LETTER STIGMA;6|LETTER DIGAMMA;6|SMALL LETTER DIGAMMA
3DE GREEK LETTER KOPPA;6|SMALL LETTER KOPPA;6|LETTER SAMPI;6|SMALL LETTER SAMPI
3E2 COPTIC CAPITAL LETTER SHEI;7|SMALL LETTER SHEI;7|CAPITAL LETTER FEI
3E5 COPTIC SMALL LETTER FEI;7|CAPITAL LETTER KHEI;7|SMALL LETTER KHEI
3E8 COPTIC CAPITAL LETTER HORI;7|SMALL LETTER HORI;7|CAPITAL LETTER GANGIA
3EB COPTIC SMALL LETTER GANGIA;7|CAPITAL LETTER SHIMA;7|SMALL LETTER SHIMA
3EE COPTIC CAPITAL LETTER DEI;7|SMALL LETTER DEI;0|GREEK KAPPA SYMBOL;6|RHO SYMBOL
3F2 GREEK LUNATE SIGMA SYMBOL;7|ETTER YOT;6|CAPITAL THETA SYMBOL
3F5 GREEK LUNATE EPSILON SYMBOL;6|REVERSED LUNATE EPSILON SYMBOL;6|CAPITAL LETTER SHO
3F8 GREEK SMALL LETTER SHO;6|CAPITAL LUNATE SIGMA SYMBOL;15|ETTER SAN
3FB GREEK SMALL LETTER SAN;6|RHO WITH STROKE SYMBOL
3FD GREEK CAPITAL REVERSED LUNATE SIGMA SYMBOL;14|DOTTED LUNATE SIGMA SYMBOL
3FF GREEK CAPITAL REVERSED DOTTED LUNATE SIGMA SYMBOL
400 CYRILLIC CAPITAL LETTER IE WITH GRAVE;25|O;24|DJE;24|GJE;24|UKRAINIAN IE;24|DZE
406 CYRILLIC CAPITAL LETTER BYELORUSSIAN-UKRAINIAN I;24|YI;24|JE;24|LJE;24|NJE;24|TSHE
40C CYRILLIC CAPITAL LETTER KJE;24|I WITH GRAVE;24|SHORT U;24|DZHE;24|A;24|BE;24|VE
413 CYRILLIC CAPITAL LETTER GHE;24|DE;24|IE;24|ZHE;25|E;24|I;24|SHORT I;24|KA;24|EL
41C CYRILLIC CAPITAL LETTER EM;25|N;24|O;24|PE;24|ER;25|S;24|TE;24|U;24|EF;24|HA
426 CYRILLIC CAPITAL LETTER TSE;24|CHE;24|SHA;26|CHA;24|HARD SIGN;24|YERU;24|SOFT SIGN
42D CYRILLIC CAPITAL LETTER E;24|YU;25|A;9|SMALL LETTER A;22|BE;22|VE;22|GHE;22|DE
435 CYRILLIC SMALL LETTER IE;22|ZHE;23|E;22|I;22|SHORT I;22|KA;22|EL;23|M;23|N;22|O
43F CYRILLIC SMALL LETTER PE;22|ER;23|S;22|TE;22|U;22|EF;22|HA;22|TSE;22|CHE;22|SHA
449 CYRILLIC SMALL LETTER SHCHA;22|HARD SIGN;22|YERU;22|SOFT SIGN;22|E;22|YU;23|A
450 CYRILLIC SMALL LETTER IE WITH GRAVE;23|O;22|DJE;22|GJE;22|UKRAINIAN IE;22|DZE
456 CYRILLIC SMALL LETTER BYELORUSSIAN-UKRAINIAN I;22|YI;22|JE;22|LJE;22|NJE;22|TSHE
45C CYRILLIC SMALL LETTER KJE;22|I WITH GRAVE;22|SHORT U;22|DZHE
460 CYRILLIC CAPITAL LETTER OMEGA;9|SMALL LETTER OMEGA;9|CAPITAL LETTER YAT
463 CYRILLIC SMALL LETTER YAT;9|CAPITAL LETTER IOTIFIED E;9|SMALL LETTER IOTIFIED E
466 CYRILLIC CAPITAL LETTER LITTLE YUS;9|SMALL LETTER LITTLE YUS
468 CYRILLIC CAPITAL LETTER IOTIFIED LITTLE YUS;9|SMALL LETTER IOTIFIED LITTLE YUS
46A CYRILLIC CAPITAL LETTER BIG YUS;9|SMALL LETTER BIG YUS
46C CYRILLIC CAPITAL LETTER IOTIFIED BIG YUS;9|SMALL LETTER IOTIFIED BIG YUS
46E CYRILLIC CAPITAL LETTER KSI;9|SMALL LETTER KSI;9|CAPITAL LETTER PSI
471 CYRILLIC SMALL LETTER PSI;9|CAPITAL LETTER FITA;9|SMALL LETTER FITA
474 CYRILLIC CAPITAL LETTER IZHITSA;9|SMALL LETTER IZHITSA
476 CYRILLIC CAPITAL LETTER IZHITSA WITH DOUBLE GRAVE ACCENT
477 CYRILLIC SMALL LETTER IZHITSA WITH DOUBLE GRAVE ACCENT;9|CAPITAL LETTER UK
479 CYRILLIC SMALL LETTER UK;9|CAPITAL LETTER ROUND OMEGA;9|SMALL LETTER ROUND OMEGA
47C CYRILLIC CAPITAL LETTER OMEGA WITH TITLO;9|SMALL LETTER OMEGA WITH TITLO
47E CYRILLIC CAPITAL LETTER OT;9|SMALL LETTER OT;9|CAPITAL LETTER KOPPA
481 CYRILLIC SMALL LETTER KOPPA;9|THOUSANDS SIGN;1|OMBINING CYRILLIC TITLO
484 COMBINING CYRILLIC PALATALIZATION;19|DASIA PNEUMATA;19|PSILI PNEUMATA;20|OKRYTIE
488 COMBINING CYRILLIC HUNDRED THOUSANDS SIGN;19|MILLIONS SIGN
48A CYRILLIC CAPITAL LETTER SHORT I WITH TAIL;9|SMALL LETTER SHORT I WITH TAIL
48C CYRILLIC CAPITAL LETTER SEMISOFT SIGN;9|SMALL LETTER SEMISOFT SIGN
48E CYRILLIC CAPITAL LETTER ER WITH TICK;9|SMALL LETTER ER WITH TICK
490 CYRILLIC CAPITAL LETTER GHE WITH UPTURN;9|SMALL LETTER GHE WITH UPTURN
492 CYRILLIC CAPITAL LETTER GHE WITH STROKE;9|SMALL LETTER GHE WITH STROKE
494 CYRILLIC CAPITAL LETTER GHE WITH MIDDLE HOOK;9|SMALL LETTER GHE WITH MIDDLE HOOK
496 CYRILLIC CAPITAL LETTER ZHE WITH DESCENDER;9|SMALL LETTER ZHE WITH DESCENDER
498 CYRILLIC CAPITAL LETTER ZE WITH DESCENDER;9|SMALL LETTER ZE WITH DESCENDER
49A CYRILLIC CAPITAL LETTER KA WITH DESCENDER;9|SMALL LETTER KA WITH DESCENDER
49C CYRILLIC CAPITAL LETTER KA WITH VERTICAL STROKE
49D CYRILLIC SMALL LETTER KA WITH VERTICAL STROKE;9|CAPITAL LETTER KA WITH STROKE
49F CYRILLIC SMALL LETTER KA WITH STROKE;9|CAPITAL LETTER BASHKIR KA
4A1 CYRILLIC SMALL LETTER BASHKIR KA;9|CAPITAL LETTER EN WITH DESCENDER
4A3 CYRILLIC SMALL LETTER EN WITH DESCENDER;9|CAPITAL LIGATURE EN GHE
4A5 CYRILLIC SMALL LIGATURE EN GHE;9|CAPITAL LETTER PE WITH MIDDLE HOOK
4A7 CYRILLIC SMALL LETTER PE WITH MIDDLE HOOK;9|CAPITAL LETTER ABKHASIAN HA
4A9 CYRILLIC SMALL LETTER ABKHASIAN HA;9|CAPITAL LETTER ES WITH DESCENDER
4AB CYRILLIC SMALL LETTER ES WITH DESCENDER;9|CAPITAL LETTER TE WITH DESCENDER
4AD CYRILLIC SMALL LETTER TE WITH DESCENDER;9|CAPITAL LETTER STRAIGHT U
4AF CYRILLIC SMALL LETTER STRAIGHT U;9|CAPITAL LETTER STRAIGHT U WITH STROKE
4B1 CYRILLIC SMALL LETTER STRAIGHT U WITH STROKE;9|CAPITAL LETTER HA WITH DESCENDER
4B3 CYRILLIC SMALL LETTER HA WITH DESCENDER;9|CAPITAL LIGATURE TE TSE
4B5 CYRILLIC SMALL LIGATURE TE TSE;9|CAPITAL LETTER CHE WITH DESCENDER
4B7 CYRILLIC SMALL LETTER CHE WITH DESCENDER;9|CAPITAL LETTER CHE WITH VERTICAL STROKE
4B9 CYRILLIC SMALL LETTER CHE WITH VERTICAL STROKE;9|CAPITAL LETTER SHHA
4BB CYRILLIC SMALL LETTER SHHA;9|CAPITAL LETTER ABKHASIAN CHE
4BD CYRILLIC SMALL LETTER ABKHASIAN CHE;9|CAPITAL LETTER ABKHASIAN CHE WITH DESCENDER
4BF CYRILLIC SMALL LETTER ABKHASIAN CHE WITH DESCENDER;9|LETTER PALOCHKA
4C1 CYRILLIC CAPITAL LETTER ZHE WITH BREVE;9|SMALL LETTER ZHE WITH BREVE
4C3 CYRILLIC CAPITAL LETTER KA WITH HOOK;9|SMALL LETTER KA WITH HOOK
4C5 CYRILLIC CAPITAL LETTER EL WITH TAIL;9|SMALL LETTER EL WITH TAIL
4C7 CYRILLIC CAPITAL LETTER EN WITH HOOK;9|SMALL LETTER EN WITH HOOK
4C9 CYRILLIC CAPITAL LETTER EN WITH TAIL;9|SMALL LETTER EN WITH TAIL
4CB CYRILLIC CAPITAL LETTER KHAKASSIAN CHE;9|SMALL LETTER KHAKASSIAN CHE
4CD CYRILLIC CAPITAL LETTER EM WITH TAIL;9|SMALL LETTER EM WITH TAIL;22|PALOCHKA
4D0 CYRILLIC CAPITAL LETTER A WITH BREVE;9|SMALL LETTER A WITH BREVE
4D2 CYRILLIC CAPITAL LETTER A WITH DIAERESIS;9|SMALL LETTER A WITH DIAERESIS
4D4 CYRILLIC CAPITAL LIGATURE A IE;9|SMALL LIGATURE A IE
4D6 CYRILLIC CAPITAL LETTER IE WITH BREVE;9|SMALL LETTER IE WITH BREVE
4D8 CYRILLIC CAPITAL LETTER SCHWA;9|SMALL LETTER SCHWA
4DA CYRILLIC CAPITAL LETTER SCHWA WITH DIAERESIS;9|SMALL LETTER SCHWA WITH DIAERESIS
4DC CYRILLIC CAPITAL LETTER ZHE WITH DIAERESIS;9|SMALL LETTER ZHE WITH DIAERESIS
4DE CYRILLIC CAPITAL LETTER ZE WITH DIAERESIS;9|SMALL LETTER ZE WITH DIAERESIS
4E0 CYRILLIC CAPITAL LETTER ABKHASIAN DZE;9|SMALL LETTER ABKHASIAN DZE
4E2 CYRILLIC CAPITAL LETTER I WITH MACRON;9|SMALL LETTER I WITH MACRON
4E4 CYRILLIC CAPITAL LETTER I WITH DIAERESIS;9|SMALL LETTER I WITH DIAERESIS
4E6 CYRILLIC CAPITAL LETTER O WITH DIAERESIS;9|SMALL LETTER O WITH DIAERESIS
4E8 CYRILLIC CAPITAL LETTER BARRED O;9|SMALL LETTER BARRED O
4EA CYRILLIC CAPITAL LETTER BARRED O WITH DIAERESIS
4EB CYRILLIC SMALL LETTER BARRED O WITH DIAERESIS;9|CAPITAL LETTER E WITH DIAERESIS
4ED CYRILLIC SMALL LETTER E WITH DIAERESIS;9|CAPITAL LETTER U WITH MACRON
4EF CYRILLIC SMALL LETTER U WITH MACRON;9|CAPITAL LETTER U WITH DIAERESIS
4F1 CYRILLIC SMALL LETTER U WITH DIAERESIS;9|CAPITAL LETTER U WITH DOUBLE ACUTE
4F3 CYRILLIC SMALL LETTER U WITH DOUBLE ACUTE;9|CAPITAL LETTER CHE WITH DIAERESIS
4F5 CYRILLIC SMALL LETTER CHE WITH DIAERESIS;9|CAPITAL LETTER GHE WITH DESCENDER
4F7 CYRILLIC SMALL LETTER GHE WITH DESCENDER;9|CAPITAL LETTER YERU WITH DIAERESIS
4F9 CYRILLIC SMALL LETTER YERU WITH DIAERESIS
4FA CYRILLIC CAPITAL LETTER GHE WITH STROKE AND HOOK
4FB CYRILLIC SMALL LETTER GHE WITH STROKE AND HOOK;9|CAPITAL LETTER HA WITH HOOK
4FD CYRILLIC SMALL LETTER HA WITH HOOK;9|CAPITAL LETTER HA WITH STROKE
4FF CYRILLIC SMALL LETTER HA WITH STROKE;9|CAPITAL LETTER KOMI DE
501 CYRILLIC SMALL LETTER KOMI DE;9|CAPITAL LETTER KOMI DJE;9|SMALL LETTER KOMI DJE
504 CYRILLIC CAPITAL LETTER KOMI ZJE;9|SMALL LETTER KOMI ZJE
506 CYRILLIC CAPITAL LETTER KOMI DZJE;9|SMALL LETTER KOMI DZJE
508 CYRILLIC CAPITAL LETTER KOMI LJE;9|SMALL LETTER KOMI LJE;9|CAPITAL LETTER KOMI NJE
50B CYRILLIC SMALL LETTER KOMI NJE;9|CAPITAL LETTER KOMI SJE;9|SMALL LETTER KOMI SJE
50E CYRILLIC CAPITAL LETTER KOMI TJE;9|SMALL LETTER KOMI TJE
510 CYRILLIC CAPITAL LETTER REVERSED ZE;9|SMALL LETTER REVERSED ZE
512 CYRILLIC CAPITAL LETTER EL WITH HOOK;9|SMALL LETTER EL WITH HOOK
514 CYRILLIC CAPITAL LETTER LHA;9|SMALL LETTER LHA;9|CAPITAL LETTER RHA
517 CYRILLIC SMALL LETTER RHA;9|CAPITAL LETTER YAE;9|SMALL LETTER YAE
51A CYRILLIC CAPITAL LETTER QA;9|SMALL LETTER QA;9|CAPITAL LETTER WE;9|SMALL LETTER WE
51E CYRILLIC CAPITAL LETTER ALEUT KA;9|SMALL LETTER ALEUT KA
520 CYRILLIC CAPITAL LETTER EL WITH MIDDLE HOOK;9|SMALL LETTER EL WITH MIDDLE HOOK
522 CYRILLIC CAPITAL LETTER EN WITH MIDDLE HOOK;9|SMALL LETTER EN WITH MIDDLE HOOK
524 CYRILLIC CAPITAL LETTER PE WITH DESCENDER;9|SMALL LETTER PE WITH DESCENDER
526 CYRILLIC CAPITAL LETTER SHHA WITH DESCENDER;9|SMALL LETTER SHHA WITH DESCENDER
528 CYRILLIC CAPITAL LETTER EN WITH LEFT HOOK;9|SMALL LETTER EN WITH LEFT HOOK
52A CYRILLIC CAPITAL LETTER DZZHE;9|SMALL LETTER DZZHE;9|CAPITAL LETTER DCHE
52D CYRILLIC SMALL LETTER DCHE;9|CAPITAL LETTER EL WITH DESCENDER
52F CYRILLIC SMALL LETTER EL WITH DESCENDER
531 ARMENIAN CAPITAL LETTER AYB;24|BEN;24|GIM;24|DA;24|ECH;24|ZA;24|EH;25|T;24|TO
53A ARMENIAN CAPITAL LETTER ZHE;24|INI;24|LIWN;24|XEH;24|CA;24|KEN;24|HO;24|JA;24|GHAD
543 ARMENIAN CAPITAL LETTER CHEH;24|MEN;24|YI;24|NOW;24|SHA;24|VO;24|CHA;24|PEH
54B ARMENIAN CAPITAL LETTER JHEH;24|RA;24|SEH;24|VEW;24|TIWN;24|REH;24|CO;24|YIWN
553 ARMENIAN CAPITAL LETTER PIWR;24|KEH;24|OH;24|FEH
559 ARMENIAN MODIFIER LETTER LEFT HALF RING;9|APOSTROPHE;9|EMPHASIS MARK
55C ARMENIAN EXCLAMATION MARK;9|COMMA;9|QUESTION MARK;9|ABBREVIATION MARK
560 ARMENIAN SMALL LETTER TURNED AYB;22|AYB;22|BEN;22|GIM;22|DA;22|ECH;22|ZA;22|EH
568 ARMENIAN SMALL LETTER ET;22|TO;22|ZHE;22|INI;22|LIWN;22|XEH;22|CA;22|KEN;22|HO
571 ARMENIAN SMALL LETTER JA;22|GHAD;22|CHEH;22|MEN;22|YI;22|NOW;22|SHA;22|VO;22|CHA
57A ARMENIAN SMALL LETTER PEH;22|JHEH;22|RA;22|SEH;22|VEW;22|TIWN;22|REH;22|CO;22|YIWN
583 ARMENIAN SMALL LETTER PIWR;22|KEH;22|OH;22|FEH;16|IGATURE ECH YIWN
588 ARMENIAN SMALL LETTER YI WITH STROKE;9|FULL STOP;9|HYPHEN
58D RIGHT-FACING ARMENIAN ETERNITY SIGN;0|LEFT-FACING ARMENIAN ETERNITY SIGN
58F ARMENIAN DRAM SIGN
591 HEBREW ACCENT ETNAHTA;14|SEGOL;15|HALSHELET;14|ZAQEF QATAN;20|GADOL;14|TIPEHA
597 HEBREW ACCENT REVIA;14|ZARQA;14|PASHTA;14|YETIV;14|TEVIR;14|GERESH;20| MUQDAM
59E HEBREW ACCENT GERSHAYIM;14|QARNEY PARA;14|TELISHA GEDOLA;14|PAZER;14|ATNAH HAFUKH
5A3 HEBREW ACCENT MUNAH;15|AHAPAKH;15|ERKHA;20| KEFULA;14|DARGA;14|QADMA
5A9 HEBREW ACCENT TELISHA QETANA;14|YERAH BEN YOMO;14|OLE;14|ILUY;14|DEHI;14|ZINOR
5AF HEBREW MARK MASORA CIRCLE;7|POINT SHEVA;13|HATAF SEGOL;19|PATAH;19|QAMATS;14|IRIQ
5B5 HEBREW POINT TSERE;13|SEGOL;13|PATAH;13|QAMATS;13|HOLAM;18| HASER FOR VAV
5BB HEBREW POINT QUBUTS;13|DAGESH OR MAPIQ;13|METEG;8|UNCTUATION MAQAF;8|OINT RAFE
5C0 HEBREW PUNCTUATION PASEQ;8|OINT SHIN DOT;14|IN DOT;8|UNCTUATION SOF PASUQ
5C4 HEBREW MARK UPPER DOT;12|LOWER DOT;7|PUNCTUATION NUN HAFUKHA;8|OINT QAMATS QATAN
5D0 HEBREW LETTER ALEF;14|BET;14|GIMEL;14|DALET;14|HE;14|VAV;14|ZAYIN;14|HET;14|TET
5D9 HEBREW LETTER YOD;14|FINAL KAF;14|KAF;14|LAMED;14|FINAL MEM;14|MEM;14|FINAL NUN
5E0 HEBREW LETTER NUN;14|SAMEKH;14|AYIN;14|FINAL PE;14|PE;14|FINAL TSADI;14|TSADI
5E7 HEBREW LETTER QOF;14|RESH;14|SHIN;14|TAV
5EF HEBREW YOD TRIANGLE;7|LIGATURE YIDDISH DOUBLE VAV;24|VAV YOD;24|DOUBLE YOD
5F3 HEBREW PUNCTUATION GERESH;22|SHAYIM
600 ARABIC NUMBER SIGN;7|SIGN SANAH;7|FOOTNOTE MARKER;7|SIGN SAFHA;14|MVAT
605 ARABIC NUMBER MARK ABOVE;6|-INDIC CUBE ROOT;13|FOURTH ROOT;6| RAY
609 ARABIC-INDIC PER MILLE SIGN;17|TEN THOUSAND SIGN;1|FGHANI SIGN;1|RABIC COMMA
60D ARABIC DATE SEPARATOR;7|POETIC VERSE SIGN;7|SIGN MISRA
610 ARABIC SIGN SALLALLAHOU ALAYHE WASSALLAM;12|ALAYHE ASSALLAM;12|RAHMATULLAH ALAYHE
613 ARABIC SIGN RADI ALLAHOU ANHU;12|TAKHALLUS;8|MALL HIGH TAH
616 ARABIC SMALL HIGH LIGATURE ALEF WITH LAM WITH YEH;18|ZAIN;13|FATHA;13|DAMMA
61A ARABIC SMALL KASRA;8|EMICOLON;7|LETTER MARK;7|END OF TEXT MARK
61E ARABIC TRIPLE DOT PUNCTUATION MARK;7|QUESTION MARK;7|LETTER KASHMIRI YEH;14|HAMZA
622 ARABIC LETTER ALEF WITH MADDA ABOVE;24|HAMZA ABOVE;14|WAW WITH HAMZA ABOVE
625 ARABIC LETTER ALEF WITH HAMZA BELOW;14|YEH WITH HAMZA ABOVE;14|ALEF;14|BEH
629 ARABIC LETTER TEH MARBUTA;17|;15|HEH;14|JEEM;14|HAH;14|KHAH;14|DAL;14|THAL;14|REH
632 ARABIC LETTER ZAIN;14|SEEN;15|HEEN;15|AD;14|DAD;14|TAH;14|ZAH;14|AIN;14|GHAIN
63B ARABIC LETTER KEHEH WITH TWO DOTS ABOVE;26|HREE DOTS BELOW
63D ARABIC LETTER FARSI YEH WITH INVERTED V;29|TWO DOTS ABOVE;30|HREE DOTS ABOVE
640 ARABIC TATWEEL;7|LETTER FEH;14|QAF;14|KAF;14|LAM;14|MEEM;14|NOON;14|HEH;14|WAW
649 ARABIC LETTER ALEF MAKSURA;14|YEH;7|FATHATAN;7|DAMMATAN;7|KASRATAN;7|FATHA;7|DAMMA
650 ARABIC KASRA;7|SHADDA;8|UKUN;7|MADDAH ABOVE;7|HAMZA ABOVE;13|BELOW
656 ARABIC SUBSCRIPT ALEF;7|INVERTED DAMMA;7|MARK NOON GHUNNA;7|ZWARAKAY
65A ARABIC VOWEL SIGN SMALL V ABOVE;18|INVERTED SMALL V ABOVE;18|DOT BELOW
65D ARABIC REVERSED DAMMA;7|FATHA WITH TWO DOTS;7|WAVY HAMZA BELOW;6|-INDIC DIGIT ZERO
661 ARABIC-INDIC DIGIT ONE;19|TWO;20|HREE;19|FOUR;20|IVE;19|SIX;20|EVEN;19|EIGHT
669 ARABIC-INDIC DIGIT NINE;6| PERCENT SIGN;7|DECIMAL SEPARATOR;7|THOUSANDS SEPARATOR
66D ARABIC FIVE POINTED STAR;7|LETTER DOTLESS BEH;22|QAF;14|SUPERSCRIPT ALEF
671 ARABIC LETTER ALEF WASLA;20|ITH WAVY HAMZA ABOVE;35|BELOW;14|HIGH HAMZA;24| ALEF
676 ARABIC LETTER HIGH HAMZA WAW;14|U WITH HAMZA ABOVE;14|HIGH HAMZA YEH;14|TTEH;18|EH
67B ARABIC LETTER BEEH;14|TEH WITH RING;23|THREE DOTS ABOVE DOWNWARDS;14|PEH;14|TEHEH
680 ARABIC LETTER BEHEH;14|HAH WITH HAMZA ABOVE;23|TWO DOTS VERTICAL ABOVE;14|NYEH
684 ARABIC LETTER DYEH;14|HAH WITH THREE DOTS ABOVE;14|TCHEH;19|EH;14|DDAL
689 ARABIC LETTER DAL WITH RING;23|DOT BELOW;32| AND SMALL TAH;16|HAL;15|DAHAL;15|UL
68F ARABIC LETTER DAL WITH THREE DOTS ABOVE DOWNWARDS;23|FOUR DOTS ABOVE;14|RREH
692 ARABIC LETTER REH WITH SMALL V;23|RING;23|DOT BELOW;23|SMALL V BELOW
696 ARABIC LETTER REH WITH DOT BELOW AND DOT ABOVE;23|TWO DOTS ABOVE;14|JEH
699 ARABIC LETTER REH WITH FOUR DOTS ABOVE;14|SEEN WITH DOT BELOW AND DOT ABOVE
69B ARABIC LETTER SEEN WITH THREE DOTS BELOW;40| AND THREE DOTS ABOVE
69D ARABIC LETTER SAD WITH TWO DOTS BELOW;24|HREE DOTS ABOVE
69F ARABIC LETTER TAH WITH THREE DOTS ABOVE;14|AIN WITH THREE DOTS ABOVE
6A1 ARABIC LETTER DOTLESS FEH;14|FEH WITH DOT MOVED BELOW;27|BELOW;14|VEH
6A5 ARABIC LETTER FEH WITH THREE DOTS BELOW;14|PEHEH;14|QAF WITH DOT ABOVE
6A8 ARABIC LETTER QAF WITH THREE DOTS ABOVE;14|KEHEH;14|SWASH KAF;14|KAF WITH RING
6AC ARABIC LETTER KAF WITH DOT ABOVE;14|NG;14|KAF WITH THREE DOTS BELOW;14|GAF
6B0 ARABIC LETTER GAF WITH RING;14|NGOEH;14|GAF WITH TWO DOTS BELOW;15|UEH
6B4 ARABIC LETTER GAF WITH THREE DOTS ABOVE;14|LAM WITH SMALL V;23|DOT ABOVE
6B7 ARABIC LETTER LAM WITH THREE DOTS ABOVE;34|BELOW;14|NOON WITH DOT BELOW;19|GHUNNA
6BB ARABIC LETTER RNOON;14|NOON WITH RING;24|THREE DOTS ABOVE;14|HEH DOACHASHMEE
6BF ARABIC LETTER TCHEH WITH DOT ABOVE;14|HEH WITH YEH ABOVE;18|GOAL
6C2 ARABIC LETTER HEH GOAL WITH HAMZA ABOVE;14|TEH MARBUTA GOAL;14|WAW WITH RING
6C5 ARABIC LETTER KIRGHIZ OE;14|OE;14|U;14|YU;14|KIRGHIZ YU;14|WAW WITH TWO DOTS ABOVE
6CB ARABIC LETTER VE;14|FARSI YEH;14|YEH WITH TAIL;23|SMALL V;14|WAW WITH DOT ABOVE
6D0 ARABIC LETTER E;14|YEH WITH THREE DOTS BELOW;18|BARREE;24| WITH HAMZA ABOVE
6D4 ARABIC FULL STOP;7|LETTER AE;7|SMALL HIGH LIGATURE SAD WITH LAM WITH ALEF MAKSURA
6D7 ARABIC SMALL HIGH LIGATURE QAF WITH LAM WITH ALEF MAKSURA;18|MEEM INITIAL FORM
6D9 ARABIC SMALL HIGH LAM ALEF;18|JEEM;18|THREE DOTS;18|SEEN;7|END OF AYAH
6DE ARABIC START OF RUB EL HIZB;8|MALL HIGH ROUNDED ZERO;18|UPRIGHT RECTANGULAR ZERO
6E1 ARABIC SMALL HIGH DOTLESS HEAD OF KHAH;18|MEEM ISOLATED FORM;13|LOW SEEN
6E4 ARABIC SMALL HIGH MADDA;13|WAW;13|YEH;13|HIGH YEH;18|NOON;7|PLACE OF SAJDAH
6EA ARABIC EMPTY CENTRE LOW STOP;20|HIGH STOP;7|ROUNDED HIGH STOP WITH FILLED CENTRE
6ED ARABIC SMALL LOW MEEM;7|LETTER DAL WITH INVERTED V;14|REH WITH INVERTED V
6F0 EXTENDED ARABIC-INDIC DIGIT ZERO;28|ONE;28|TWO;29|HREE;28|FOUR;29|IVE;28|SIX
6F7 EXTENDED ARABIC-INDIC DIGIT SEVEN;28|EIGHT;28|NINE
6FA ARABIC LETTER SHEEN WITH DOT BELOW;14|DAD WITH DOT BELOW;14|GHAIN WITH DOT BELOW
6FD ARABIC SIGN SINDHI AMPERSAND;19|POSTPOSITION MEN;7|LETTER HEH WITH INVERTED V
900 DEVANAGARI SIGN INVERTED CANDRABINDU;16|CANDRABINDU;16|ANUSVARA;16|VISARGA
904 DEVANAGARI LETTER SHORT A;18|A;19|A;18|I;19|I;18|U;19|U;18|VOCALIC R;26|L
90D DEVANAGARI LETTER CANDRA E;18|SHORT E;18|E;18|AI;18|CANDRA O;18|SHORT O;18|O;18|AU
915 DEVANAGARI LETTER KA;19|HA;18|GA;19|HA;18|NGA;18|CA;19|HA;18|JA;19|HA;18|NYA
91F DEVANAGARI LETTER TTA;20|HA;18|DDA;20|HA;18|NNA;18|TA;19|HA;18|DA;19|HA;18|NA
929 DEVANAGARI LETTER NNNA;18|PA;19|HA;18|BA;19|HA;18|MA;18|YA;18|RA;19|RA;18|LA;19|LA
934 DEVANAGARI LETTER LLLA;18|VA;18|SHA;19|SA;19|A;18|HA;11|VOWEL SIGN OE;23|OE
93C DEVANAGARI SIGN NUKTA;16|AVAGRAHA;11|VOWEL SIGN AA;22|I;23|I;22|U;23|U
943 DEVANAGARI VOWEL SIGN VOCALIC R;31|R;22|CANDRA E;22|SHORT E;22|E;22|AI;22|CANDRA O
94A DEVANAGARI VOWEL SIGN SHORT O;22|O;22|AU;11|SIGN VIRAMA
94E DEVANAGARI VOWEL SIGN PRISHTHAMATRA E;22|AW;11|OM;11|STRESS SIGN UDATTA
952 DEVANAGARI STRESS SIGN ANUDATTA;11|GRAVE ACCENT;11|ACUTE ACCENT
955 DEVANAGARI VOWEL SIGN CANDRA LONG E;22|UE;23|UE;11|LETTER QA;18|KHHA;18|GHHA;18|ZA
95C DEVANAGARI LETTER DDDHA;18|RHA;18|FA;18|YYA;18|VOCALIC RR;26|LL
962 DEVANAGARI VOWEL SIGN VOCALIC L;31|L;11|DANDA;12|OUBLE DANDA;12|IGIT ZERO;17|ONE
968 DEVANAGARI DIGIT TWO;18|HREE;17|FOUR;18|IVE;17|SIX;18|EVEN;17|EIGHT;17|NINE
970 DEVANAGARI ABBREVIATION SIGN;11|SIGN HIGH SPACING DOT;11|LETTER CANDRA A;18|OE
974 DEVANAGARI LETTER OOE;18|AW;18|UE;19|UE;18|MARWARI DDA;18|ZHA;18|HEAVY YA;18|GGA
97C DEVANAGARI LETTER JJA;18|GLOTTAL STOP;18|DDDA;18|BBA
E01 THAI CHARACTER KO KAI;16|HO KHAI;21|UAT;21|WAI;21|ON;19|RAKHANG;15|NGO NGU
E08 THAI CHARACTER CHO CHAN;21|ING;21|ANG;15|SO SO;15|CHO CHOE;15|YO YING;15|DO CHADA
E0F THAI CHARACTER TO PATAK;16|HO THAN;19|NANGMONTHO;19|PHUTHAO;15|NO NEN;15|DO DEK
E15 THAI CHARACTER TO TAO;16|HO THUNG;21|AHAN;21|ONG;15|NO NU;15|BO BAIMAI;15|PO PLA
E1C THAI CHARACTER PHO PHUNG;15|FO FA;15|PHO PHAN;15|FO FAN;15|PHO SAMPHAO;15|MO MA
E22 THAI CHARACTER YO YAK;15|RO RUA;16|U;15|LO LING;16|U;15|WO WAEN;15|SO SALA;18|RUSI
E2A THAI CHARACTER SO SUA;15|HO HIP;15|LO CHULA;15|O ANG;15|HO NOKHUK;15|PAIYANNOI
E30 THAI CHARACTER SARA A;15|MAI HAN-AKAT;15|SARA AA;21|M;20|I;21|I;20|UE;22|E;21|
E39 THAI CHARACTER SARA UU;15|PHINTHU
E3F THAI CURRENCY SYMBOL BAHT;6|HARACTER SARA E;20|AE;20|O;20|AI MAIMUAN;27|ALAI
E45 THAI CHARACTER LAKKHANGYAO;15|MAIYAMOK;18|TAIKHU;18| EK;19|THO;20|RI;19|CHATTAWA
E4C THAI CHARACTER THANTHAKHAT;15|NIKHAHIT;15|YAMAKKAN;15|FONGMAN;5|DIGIT ZERO;11|ONE
E52 THAI DIGIT TWO;12|HREE;11|FOUR;12|IVE;11|SIX;12|EVEN;11|EIGHT;11|NINE
E5A THAI CHARACTER ANGKHANKHU;15|KHOMUT
10A0 GEORGIAN CAPITAL LETTER AN;24|BAN;24|GAN;24|DON;24|EN;24|VIN;24|ZEN;24|TAN;24|IN
10A9 GEORGIAN CAPITAL LETTER KAN;24|LAS;24|MAN;24|NAR;24|ON;24|PAR;24|ZHAR;24|RAE
10B1 GEORGIAN CAPITAL LETTER SAN;24|TAR;24|UN;24|PHAR;24|KHAR;24|GHAN;24|QAR;24|SHIN
10B9 GEORGIAN CAPITAL LETTER CHIN;25|AN;24|JIL;24|CIL;25|HAR;24|XAN;24|JHAN;24|HAE;25|E
10C2 GEORGIAN CAPITAL LETTER HIE;24|WE;24|HAR;25|OE
10C7 GEORGIAN CAPITAL LETTER YN
10CD GEORGIAN CAPITAL LETTER AEN
10D0 GEORGIAN LETTER AN;16|BAN;16|GAN;16|DON;16|EN;16|VIN;16|ZEN;16|TAN;16|IN;16|KAN
10DA GEORGIAN LETTER LAS;16|MAN;16|NAR;16|ON;16|PAR;16|ZHAR;16|RAE;16|SAN;16|TAR;16|UN
10E4 GEORGIAN LETTER PHAR;16|KHAR;16|GHAN;16|QAR;16|SHIN;16|CHIN;17|AN;16|JIL;16|CIL
10ED GEORGIAN LETTER CHAR;16|XAN;16|JHAN;16|HAE;17|E;17|IE;16|WE;16|HAR;17|OE;16|FI
10F7 GEORGIAN LETTER YN;16|ELIFI;16|TURNED GAN;16|AIN;9|PARAGRAPH SEPARATOR
10FC MODIFIER LETTER GEORGIAN NAR;0|GEORGIAN LETTER AEN;16|HARD SIGN;16|LABIAL SIGN
1D00 LATIN LETTER SMALL CAPITAL A;28|E;6|SMALL LETTER TURNED AE
1D03 LATIN LETTER SMALL CAPITAL BARRED B;27|C;27|D;27|ETH;28|
1D08 LATIN SMALL LETTER TURNED OPEN E;26|I;6|LETTER SMALL CAPITAL J;27|K
1D0C LATIN LETTER SMALL CAPITAL L WITH STROKE;27|M;27|REVERSED N;27|O;28|PEN O
1D11 LATIN SMALL LETTER SIDEWAYS O;29|PEN O;29| WITH STROKE;19|TURNED OE
1D15 LATIN LETTER SMALL CAPITAL OU;6|SMALL LETTER TOP HALF O;19|BOTTOM HALF O
1D18 LATIN LETTER SMALL CAPITAL P;27|REVERSED R;27|TURNED R;28|;27|U
1D1D LATIN SMALL LETTER SIDEWAYS U;28|DIAERESIZED U;28|TURNED M
1D20 LATIN LETTER SMALL CAPITAL V;27|W;27|Z;27|EZH;13|VOICED LARYNGEAL SPIRANT;13|AIN
1D26 GREEK LETTER SMALL CAPITAL GAMMA;27|LAMDA;27|PI;27|RHO;27|PSI
1D2B CYRILLIC LETTER SMALL CAPITAL EL;0|MODIFIER LETTER CAPITAL A;25|E;24|B;25|ARRED B
1D30 MODIFIER LETTER CAPITAL D;24|E;24|REVERSED E;24|G;24|H;24|I;24|J;24|K;24|L;24|M
1D3A MODIFIER LETTER CAPITAL N;24|REVERSED N;24|O;25|U;24|P;24|R;24|T;24|U;24|W
1D43 MODIFIER LETTER SMALL A;22|TURNED A;22|ALPHA;22|TURNED AE;22|B;22|D;22|E;22|SCHWA
1D4B MODIFIER LETTER SMALL OPEN E;22|TURNED OPEN E;22|G;22|TURNED I;22|K;22|M;22|ENG
1D52 MODIFIER LETTER SMALL O;23|PEN O;22|TOP HALF O;22|BOTTOM HALF O;22|P;22|T;22|U
1D59 MODIFIER LETTER SMALL SIDEWAYS U;22|TURNED M;22|V;22|AIN;22|BETA;22|GREEK GAMMA
1D5F MODIFIER LETTER SMALL DELTA;22|GREEK PHI;22|CHI;0|LATIN SUBSCRIPT SMALL LETTER I
1D63 LATIN SUBSCRIPT SMALL LETTER R;29|U;29|V;0|GREEK SUBSCRIPT SMALL LETTER BETA
1D67 GREEK SUBSCRIPT SMALL LETTER GAMMA;29|RHO;29|PHI;29|CHI;0|LATIN SMALL LETTER UE
1D6C LATIN SMALL LETTER B WITH MIDDLE TILDE;19|D WITH MIDDLE TILDE
1D6E LATIN SMALL LETTER F WITH MIDDLE TILDE;19|M WITH MIDDLE TILDE
1D70 LATIN SMALL LETTER N WITH MIDDLE TILDE;19|P WITH MIDDLE TILDE
1D72 LATIN SMALL LETTER R WITH MIDDLE TILDE;26|FISHHOOK AND MIDDLE TILDE
1D74 LATIN SMALL LETTER S WITH MIDDLE TILDE;19|T WITH MIDDLE TILDE
1D76 LATIN SMALL LETTER Z WITH MIDDLE TILDE;19|TURNED G;0|MODIFIER LETTER CYRILLIC EN
1D79 LATIN SMALL LETTER INSULAR G;19|TH WITH STRIKETHROUGH
1D7B LATIN SMALL CAPITAL LETTER I WITH STROKE;12|LETTER IOTA WITH STROKE
1D7D LATIN SMALL LETTER P WITH STROKE;12|CAPITAL LETTER U WITH STROKE
1D7F LATIN SMALL LETTER UPSILON WITH STROKE;19|B WITH PALATAL HOOK
1D81 LATIN SMALL LETTER D WITH PALATAL HOOK;19|F WITH PALATAL HOOK
1D83 LATIN SMALL LETTER G WITH PALATAL HOOK;19|K WITH PALATAL HOOK
1D85 LATIN SMALL LETTER L WITH PALATAL HOOK;19|M WITH PALATAL HOOK
1D87 LATIN SMALL LETTER N WITH PALATAL HOOK;19|P WITH PALATAL HOOK
1D89 LATIN SMALL LETTER R WITH PALATAL HOOK;19|S WITH PALATAL HOOK
1D8B LATIN SMALL LETTER ESH WITH PALATAL HOOK;19|V WITH PALATAL HOOK
1D8D LATIN SMALL LETTER X WITH PALATAL HOOK;19|Z WITH PALATAL HOOK
1D8F LATIN SMALL LETTER A WITH RETROFLEX HOOK;20|LPHA WITH RETROFLEX HOOK
1D91 LATIN SMALL LETTER D WITH HOOK AND TAIL;19|E WITH RETROFLEX HOOK
1D93 LATIN SMALL LETTER OPEN E WITH RETROFLEX HOOK
1D94 LATIN SMALL LETTER REVERSED OPEN E WITH RETROFLEX HOOK
1D95 LATIN SMALL LETTER SCHWA WITH RETROFLEX HOOK;19|I WITH RETROFLEX HOOK
1D97 LATIN SMALL LETTER OPEN O WITH RETROFLEX HOOK;19|ESH WITH RETROFLEX HOOK
1D99 LATIN SMALL LETTER U WITH RETROFLEX HOOK;19|EZH WITH RETROFLEX HOOK
1D9B MODIFIER LETTER SMALL TURNED ALPHA;22|C;23| WITH CURL;22|ETH;22|REVERSED OPEN E
1DA0 MODIFIER LETTER SMALL F;22|DOTLESS J WITH STROKE;22|SCRIPT G;22|TURNED H
1DA4 MODIFIER LETTER SMALL I WITH STROKE;23|OTA;22|CAPITAL I;31| WITH STROKE
1DA8 MODIFIER LETTER SMALL J WITH CROSSED-TAIL;22|L WITH RETROFLEX HOOK;29|PALATAL HOOK
1DAB MODIFIER LETTER SMALL CAPITAL L;22|M WITH HOOK;22|TURNED M WITH LONG LEG
1DAE MODIFIER LETTER SMALL N WITH LEFT HOOK;29|RETROFLEX HOOK;22|CAPITAL N;22|BARRED O
1DB2 MODIFIER LETTER SMALL PHI;22|S WITH HOOK;22|ESH;22|T WITH PALATAL HOOK;22|U BAR
1DB7 MODIFIER LETTER SMALL UPSILON;22|CAPITAL U;22|V WITH HOOK;22|TURNED V;22|Z
1DBC MODIFIER LETTER SMALL Z WITH RETROFLEX HOOK;29|CURL;22|EZH;22|THETA
1DC0 COMBINING DOTTED GRAVE ACCENT;17|ACUTE ACCENT;10|SNAKE BELOW;11|USPENSION MARK
1DC4 COMBINING MACRON-ACUTE;10|GRAVE-MACRON;10|MACRON-GRAVE;10|ACUTE-MACRON
1DC8 COMBINING GRAVE-ACUTE-GRAVE;10|ACUTE-GRAVE-ACUTE;10|LATIN SMALL LETTER R BELOW
1DCB COMBINING BREVE-MACRON;10|MACRON-BREVE;10|DOUBLE CIRCUMFLEX ABOVE;10|OGONEK ABOVE
1DCF COMBINING ZIGZAG BELOW;10|IS BELOW;10|UR ABOVE;11|S ABOVE
1DD3 COMBINING LATIN SMALL LETTER FLATTENED OPEN A ABOVE;29|AE;30|O;30|V;29|C CEDILLA
1DD8 COMBINING LATIN SMALL LETTER INSULAR D;29|ETH;29|G;16|LETTER SMALL CAPITAL G
1DDC COMBINING LATIN SMALL LETTER K;29|L;16|LETTER SMALL CAPITAL L;37|M
1DE0 COMBINING LATIN SMALL LETTER N;16|LETTER SMALL CAPITAL N;37|R
1DE3 COMBINING LATIN SMALL LETTER R ROTUNDA;29|S;29|LONG S;29|Z;29|ALPHA;29|B;30|ETA
1DEA COMBINING LATIN SMALL LETTER SCHWA;29|F;29|L WITH DOUBLE MIDDLE TILDE
1DED COMBINING LATIN SMALL LETTER O WITH LIGHT CENTRALIZATION STROKE;29|P;29|ESH
1DF0 COMBINING LATIN SMALL LETTER U WITH LIGHT CENTRALIZATION STROKE;29|W
1DF2 COMBINING LATIN SMALL LETTER A WITH DIAERESIS;29|O WITH DIAERESIS
1DF4 COMBINING LATIN SMALL LETTER U WITH DIAERESIS;10|UP TACK ABOVE
1DF6 COMBINING KAVYKA ABOVE RIGHT;23|LEFT;10|DOT ABOVE LEFT
1DF9 COMBINING WIDE INVERTED BRIDGE BELOW;10|DOT BELOW LEFT;11|ELETION MARK
1DFC COMBINING DOUBLE INVERTED BREVE BELOW;10|ALMOST EQUAL TO BELOW
1DFE COMBINING LEFT ARROWHEAD ABOVE;10|RIGHT ARROWHEAD AND DOWN ARROWHEAD BELOW
1E00 LATIN CAPITAL LETTER A WITH RING BELOW;6|SMALL LETTER A WITH RING BELOW
1E02 LATIN CAPITAL LETTER B WITH DOT ABOVE;6|SMALL LETTER B WITH DOT ABOVE
1E04 LATIN CAPITAL LETTER B WITH DOT BELOW;6|SMALL LETTER B WITH DOT BELOW
1E06 LATIN CAPITAL LETTER B WITH LINE BELOW;6|SMALL LETTER B WITH LINE BELOW
1E08 LATIN CAPITAL LETTER C WITH CEDILLA AND ACUTE
1E09 LATIN SMALL LETTER C WITH CEDILLA AND ACUTE;6|CAPITAL LETTER D WITH DOT ABOVE
1E0B LATIN SMALL LETTER D WITH DOT ABOVE;6|CAPITAL LETTER D WITH DOT BELOW
1E0D LATIN SMALL LETTER D WITH DOT BELOW;6|CAPITAL LETTER D WITH LINE BELOW
1E0F LATIN SMALL LETTER D WITH LINE BELOW;6|CAPITAL LETTER D WITH CEDILLA
1E11 LATIN SMALL LETTER D WITH CEDILLA;6|CAPITAL LETTER D WITH CIRCUMFLEX BELOW
1E13 LATIN SMALL LETTER D WITH CIRCUMFLEX BELOW
1E14 LATIN CAPITAL LETTER E WITH MACRON AND GRAVE
1E15 LATIN SMALL LETTER E WITH MACRON AND GRAVE
1E16 LATIN CAPITAL LETTER E WITH MACRON AND ACUTE
1E17 LATIN SMALL LETTER E WITH MACRON AND ACUTE
1E18 LATIN CAPITAL LETTER E WITH CIRCUMFLEX BELOW
1E19 LATIN SMALL LETTER E WITH CIRCUMFLEX BELOW;6|CAPITAL LETTER E WITH TILDE BELOW
1E1B LATIN SMALL LETTER E WITH TILDE BELOW;6|CAPITAL LETTER E WITH CEDILLA AND BREVE
1E1D LATIN SMALL LETTER E WITH CEDILLA AND BREVE;6|CAPITAL LETTER F WITH DOT ABOVE
1E1F LATIN SMALL LETTER F WITH DOT ABOVE;6|CAPITAL LETTER G WITH MACRON
1E21 LATIN SMALL LETTER G WITH MACRON;6|CAPITAL LETTER H WITH DOT ABOVE
1E23 LATIN SMALL LETTER H WITH DOT ABOVE;6|CAPITAL LETTER H WITH DOT BELOW
1E25 LATIN SMALL LETTER H WITH DOT BELOW;6|CAPITAL LETTER H WITH DIAERESIS
1E27 LATIN SMALL LETTER H WITH DIAERESIS;6|CAPITAL LETTER H WITH CEDILLA
1E29 LATIN SMALL LETTER H WITH CEDILLA;6|CAPITAL LETTER H WITH BREVE BELOW
1E2B LATIN SMALL LETTER H WITH BREVE BELOW;6|CAPITAL LETTER I WITH TILDE BELOW
1E2D LATIN SMALL LETTER I WITH TILDE BELOW;6|CAPITAL LETTER I WITH DIAERESIS AND ACUTE
1E2F LATIN SMALL LETTER I WITH DIAERESIS AND ACUTE;6|CAPITAL LETTER K WITH ACUTE
1E31 LATIN SMALL LETTER K WITH ACUTE;6|CAPITAL LETTER K WITH DOT BELOW
1E33 LATIN SMALL LETTER K WITH DOT BELOW;6|CAPITAL LETTER K WITH LINE BELOW
1E35 LATIN SMALL LETTER K WITH LINE BELOW;6|CAPITAL LETTER L WITH DOT BELOW
1E37 LATIN SMALL LETTER L WITH DOT BELOW;6|CAPITAL LETTER L WITH DOT BELOW AND MACRON
1E39 LATIN SMALL LETTER L WITH DOT BELOW AND MACRON;6|CAPITAL LETTER L WITH LINE BELOW
1E3B LATIN SMALL LETTER L WITH LINE BELOW;6|CAPITAL LETTER L WITH CIRCUMFLEX BELOW
1E3D LATIN SMALL LETTER L WITH CIRCUMFLEX BELOW;6|CAPITAL LETTER M WITH ACUTE
1E3F LATIN SMALL LETTER M WITH ACUTE;6|CAPITAL LETTER M WITH DOT ABOVE
1E41 LATIN SMALL LETTER M WITH DOT ABOVE;6|CAPITAL LETTER M WITH DOT BELOW
1E43 LATIN SMALL LETTER M WITH DOT BELOW;6|CAPITAL LETTER N WITH DOT ABOVE
1E45 LATIN SMALL LETTER N WITH DOT ABOVE;6|CAPITAL LETTER N WITH DOT BELOW
1E47 LATIN SMALL LETTER N WITH DOT BELOW;6|CAPITAL LETTER N WITH LINE BELOW
1E49 LATIN SMALL LETTER N WITH LINE BELOW;6|CAPITAL LETTER N WITH CIRCUMFLEX BELOW
1E4B LATIN SMALL LETTER N WITH CIRCUMFLEX BELOW;6|CAPITAL LETTER O WITH TILDE AND ACUTE
1E4D LATIN SMALL LETTER O WITH TILDE AND ACUTE
1E4E LATIN CAPITAL LETTER O WITH TILDE AND DIAERESIS
1E4F LATIN SMALL LETTER O WITH TILDE AND DIAERESIS
1E50 LATIN CAPITAL LETTER O WITH MACRON AND GRAVE
1E51 LATIN SMALL LETTER O WITH MACRON AND GRAVE
1E52 LATIN CAPITAL LETTER O WITH MACRON AND ACUTE
1E53 LATIN SMALL LETTER O WITH MACRON AND ACUTE;6|CAPITAL LETTER P WITH ACUTE
1E55 LATIN SMALL LETTER P WITH ACUTE;6|CAPITAL LETTER P WITH DOT ABOVE
1E57 LATIN SMALL LETTER P WITH DOT ABOVE;6|CAPITAL LETTER R WITH DOT ABOVE
1E59 LATIN SMALL LETTER R WITH DOT ABOVE;6|CAPITAL LETTER R WITH DOT BELOW
1E5B LATIN SMALL LETTER R WITH DOT BELOW;6|CAPITAL LETTER R WITH DOT BELOW AND MACRON
1E5D LATIN SMALL LETTER R WITH DOT BELOW AND MACRON;6|CAPITAL LETTER R WITH LINE BELOW
1E5F LATIN SMALL LETTER R WITH LINE BELOW;6|CAPITAL LETTER S WITH DOT ABOVE
1E61 LATIN SMALL LETTER S WITH DOT ABOVE;6|CAPITAL LETTER S WITH DOT BELOW
1E63 LATIN SMALL LETTER S WITH DOT BELOW;6|CAPITAL LETTER S WITH ACUTE AND DOT ABOVE
1E65 LATIN SMALL LETTER S WITH ACUTE AND DOT ABOVE
1E66 LATIN CAPITAL LETTER S WITH CARON AND DOT ABOVE
1E67 LATIN SMALL LETTER S WITH CARON AND DOT ABOVE
1E68 LATIN CAPITAL LETTER S WITH DOT BELOW AND DOT ABOVE
1E69 LATIN SMALL LETTER S WITH DOT BELOW AND DOT ABOVE
1E6A LATIN CAPITAL LETTER T WITH DOT ABOVE;6|SMALL LETTER T WITH DOT ABOVE
1E6C LATIN CAPITAL LETTER T WITH DOT BELOW;6|SMALL LETTER T WITH DOT BELOW
1E6E LATIN CAPITAL LETTER T WITH LINE BELOW;6|SMALL LETTER T WITH LINE BELOW
1E70 LATIN CAPITAL LETTER T WITH CIRCUMFLEX BELOW
1E71 LATIN SMALL LETTER T WITH CIRCUMFLEX BELOW;6|CAPITAL LETTER U WITH DIAERESIS BELOW
1E73 LATIN SMALL LETTER U WITH DIAERESIS BELOW;6|CAPITAL LETTER U WITH TILDE BELOW
1E75 LATIN SMALL LETTER U WITH TILDE BELOW;6|CAPITAL LETTER U WITH CIRCUMFLEX BELOW
1E77 LATIN SMALL LETTER U WITH CIRCUMFLEX BELOW;6|CAPITAL LETTER U WITH TILDE AND ACUTE
1E79 LATIN SMALL LETTER U WITH TILDE AND ACUTE
1E7A LATIN CAPITAL LETTER U WITH MACRON AND DIAERESIS
1E7B LATIN SMALL LETTER U WITH MACRON AND DIAERESIS;6|CAPITAL LETTER V WITH TILDE
1E7D LATIN SMALL LETTER V WITH TILDE;6|CAPITAL LETTER V WITH DOT BELOW
1E7F LATIN SMALL LETTER V WITH DOT BELOW;6|CAPITAL LETTER W WITH GRAVE
1E81 LATIN SMALL LETTER W WITH GRAVE;6|CAPITAL LETTER W WITH ACUTE
1E83 LATIN SMALL LETTER W WITH ACUTE;6|CAPITAL LETTER W WITH DIAERESIS
1E85 LATIN SMALL LETTER W WITH DIAERESIS;6|CAPITAL LETTER W WITH DOT ABOVE
1E87 LATIN SMALL LETTER W WITH DOT ABOVE;6|CAPITAL LETTER W WITH DOT BELOW
1E89 LATIN SMALL LETTER W WITH DOT BELOW;6|CAPITAL LETTER X WITH DOT ABOVE
1E8B LATIN SMALL LETTER X WITH DOT ABOVE;6|CAPITAL LETTER X WITH DIAERESIS
1E8D LATIN SMALL LETTER X WITH DIAERESIS;6|CAPITAL LETTER Y WITH DOT ABOVE
1E8F LATIN SMALL LETTER Y WITH DOT ABOVE;6|CAPITAL LETTER Z WITH CIRCUMFLEX
1E91 LATIN SMALL LETTER Z WITH CIRCUMFLEX;6|CAPITAL LETTER Z WITH DOT BELOW
1E93 LATIN SMALL LETTER Z WITH DOT BELOW;6|CAPITAL LETTER Z WITH LINE BELOW
1E95 LATIN SMALL LETTER Z WITH LINE BELOW;19|H WITH LINE BELOW;19|T WITH DIAERESIS
1E98 LATIN SMALL LETTER W WITH RING ABOVE;19|Y WITH RING ABOVE
1E9A LATIN SMALL LETTER A WITH RIGHT HALF RING;19|LONG S WITH DOT ABOVE
1E9C LATIN SMALL LETTER LONG S WITH DIAGONAL STROKE;31|HIGH STROKE
1E9E LATIN CAPITAL LETTER SHARP S;6|SMALL LETTER DELTA
1EA0 LATIN CAPITAL LETTER A WITH DOT BELOW;6|SMALL LETTER A WITH DOT BELOW
1EA2 LATIN CAPITAL LETTER A WITH HOOK ABOVE;6|SMALL LETTER A WITH HOOK ABOVE
1EA4 LATIN CAPITAL LETTER A WITH CIRCUMFLEX AND ACUTE
1EA5 LATIN SMALL LETTER A WITH CIRCUMFLEX AND ACUTE
1EA6 LATIN CAPITAL LETTER A WITH CIRCUMFLEX AND GRAVE
1EA7 LATIN SMALL LETTER A WITH CIRCUMFLEX AND GRAVE
1EA8 LATIN CAPITAL LETTER A WITH CIRCUMFLEX AND HOOK ABOVE
1EA9 LATIN SMALL LETTER A WITH CIRCUMFLEX AND HOOK ABOVE
1EAA LATIN CAPITAL LETTER A WITH CIRCUMFLEX AND TILDE
1EAB LATIN SMALL LETTER A WITH CIRCUMFLEX AND TILDE
1EAC LATIN CAPITAL LETTER A WITH CIRCUMFLEX AND DOT BELOW
1EAD LATIN SMALL LETTER A WITH CIRCUMFLEX AND DOT BELOW
1EAE LATIN CAPITAL LETTER A WITH BREVE AND ACUTE;6|SMALL LETTER A WITH BREVE AND ACUTE
1EB0 LATIN CAPITAL LETTER A WITH BREVE AND GRAVE;6|SMALL LETTER A WITH BREVE AND GRAVE
1EB2 LATIN CAPITAL LETTER A WITH BREVE AND HOOK ABOVE
1EB3 LATIN SMALL LETTER A WITH BREVE AND HOOK ABOVE
1EB4 LATIN CAPITAL LETTER A WITH BREVE AND TILDE;6|SMALL LETTER A WITH BREVE AND TILDE
1EB6 LATIN CAPITAL LETTER A WITH BREVE AND DOT BELOW
1EB7 LATIN SMALL LETTER A WITH BREVE AND DOT BELOW;6|CAPITAL LETTER E WITH DOT BELOW
1EB9 LATIN SMALL LETTER E WITH DOT BELOW;6|CAPITAL LETTER E WITH HOOK ABOVE
1EBB LATIN SMALL LETTER E WITH HOOK ABOVE;6|CAPITAL LETTER E WITH TILDE
1EBD LATIN SMALL LETTER E WITH TILDE;6|CAPITAL LETTER E WITH CIRCUMFLEX AND ACUTE
1EBF LATIN SMALL LETTER E WITH CIRCUMFLEX AND ACUTE
1EC0 LATIN CAPITAL LETTER E WITH CIRCUMFLEX AND GRAVE
1EC1 LATIN SMALL LETTER E WITH CIRCUMFLEX AND GRAVE
1EC2 LATIN CAPITAL LETTER E WITH CIRCUMFLEX AND HOOK ABOVE
1EC3 LATIN SMALL LETTER E WITH CIRCUMFLEX AND HOOK ABOVE
1EC4 LATIN CAPITAL LETTER E WITH CIRCUMFLEX AND TILDE
1EC5 LATIN SMALL LETTER E WITH CIRCUMFLEX AND TILDE
1EC6 LATIN CAPITAL LETTER E WITH CIRCUMFLEX AND DOT BELOW
1EC7 LATIN SMALL LETTER E WITH CIRCUMFLEX AND DOT BELOW
1EC8 LATIN CAPITAL LETTER I WITH HOOK ABOVE;6|SMALL LETTER I WITH HOOK ABOVE
1ECA LATIN CAPITAL LETTER I WITH DOT BELOW;6|SMALL LETTER I WITH DOT BELOW
1ECC LATIN CAPITAL LETTER O WITH DOT BELOW;6|SMALL LETTER O WITH DOT BELOW
1ECE LATIN CAPITAL LETTER O WITH HOOK ABOVE;6|SMALL LETTER O WITH HOOK ABOVE
1ED0 LATIN CAPITAL LETTER O WITH CIRCUMFLEX AND ACUTE
1ED1 LATIN SMALL LETTER O WITH CIRCUMFLEX AND ACUTE
1ED2 LATIN CAPITAL LETTER O WITH CIRCUMFLEX AND GRAVE
1ED3 LATIN SMALL LETTER O WITH CIRCUMFLEX AND GRAVE
1ED4 LATIN CAPITAL LETTER O WITH CIRCUMFLEX AND HOOK ABOVE
1ED5 LATIN SMALL LETTER O WITH CIRCUMFLEX AND HOOK ABOVE
1ED6 LATIN CAPITAL LETTER O WITH CIRCUMFLEX AND TILDE
1ED7 LATIN SMALL LETTER O WITH CIRCUMFLEX AND TILDE
1ED8 LATIN CAPITAL LETTER O WITH CIRCUMFLEX AND DOT BELOW
1ED9 LATIN SMALL LETTER O WITH CIRCUMFLEX AND DOT BELOW
1EDA LATIN CAPITAL LETTER O WITH HORN AND ACUTE;6|SMALL LETTER O WITH HORN AND ACUTE
1EDC LATIN CAPITAL LETTER O WITH HORN AND GRAVE;6|SMALL LETTER O WITH HORN AND GRAVE
1EDE LATIN CAPITAL LETTER O WITH HORN AND HOOK ABOVE
1EDF LATIN SMALL LETTER O WITH HORN AND HOOK ABOVE
1EE0 LATIN CAPITAL LETTER O WITH HORN AND TILDE;6|SMALL LETTER O WITH HORN AND TILDE
1EE2 LATIN CAPITAL LETTER O WITH HORN AND DOT BELOW
1EE3 LATIN SMALL LETTER O WITH HORN AND DOT BELOW;6|CAPITAL LETTER U WITH DOT BELOW
1EE5 LATIN SMALL LETTER U WITH DOT BELOW;6|CAPITAL LETTER U WITH HOOK ABOVE
1EE7 LATIN SMALL LETTER U WITH HOOK ABOVE;6|CAPITAL LETTER U WITH HORN AND ACUTE
1EE9 LATIN SMALL LETTER U WITH HORN AND ACUTE;6|CAPITAL LETTER U WITH HORN AND GRAVE
1EEB LATIN SMALL LETTER U WITH HORN AND GRAVE
1EEC LATIN CAPITAL LETTER U WITH HORN AND HOOK ABOVE
1EED LATIN SMALL LETTER U WITH HORN AND HOOK ABOVE
1EEE LATIN CAPITAL LETTER U WITH HORN AND TILDE;6|SMALL LETTER U WITH HORN AND TILDE
1EF0 LATIN CAPITAL LETTER U WITH HORN AND DOT BELOW
1EF1 LATIN SMALL LETTER U WITH HORN AND DOT BELOW;6|CAPITAL LETTER Y WITH GRAVE
1EF3 LATIN SMALL LETTER Y WITH GRAVE;6|CAPITAL LETTER Y WITH DOT BELOW
1EF5 LATIN SMALL LETTER Y WITH DOT BELOW;6|CAPITAL LETTER Y WITH HOOK ABOVE
1EF7 LATIN SMALL LETTER Y WITH HOOK ABOVE;6|CAPITAL LETTER Y WITH TILDE
1EF9 LATIN SMALL LETTER Y WITH TILDE;6|CAPITAL LETTER MIDDLE-WELSH LL
1EFB LATIN SMALL LETTER MIDDLE-WELSH LL;6|CAPITAL LETTER MIDDLE-WELSH V
1EFD LATIN SMALL LETTER MIDDLE-WELSH V;6|CAPITAL LETTER Y WITH LOOP
1EFF LATIN SMALL LETTER Y WITH LOOP;0|GREEK SMALL LETTER ALPHA WITH PSILI;30|DASIA
1F02 GREEK SMALL LETTER ALPHA WITH PSILI AND VARIA;30|DASIA AND VARIA;30|PSILI AND OXIA
1F05 GREEK SMALL LETTER ALPHA WITH DASIA AND OXIA;30|PSILI AND PERISPOMENI
1F07 GREEK SMALL LETTER ALPHA WITH DASIA AND PERISPOMENI
1F08 GREEK CAPITAL LETTER ALPHA WITH PSILI;32|DASIA;32|PSILI AND VARIA
1F0B GREEK CAPITAL LETTER ALPHA WITH DASIA AND VARIA;32|PSILI AND OXIA
1F0D GREEK CAPITAL LETTER ALPHA WITH DASIA AND OXIA;32|PSILI AND PERISPOMENI
1F0F GREEK CAPITAL LETTER ALPHA WITH DASIA AND PERISPOMENI
1F10 GREEK SMALL LETTER EPSILON WITH PSILI;32|DASIA;32|PSILI AND VARIA
1F13 GREEK SMALL LETTER EPSILON WITH DASIA AND VARIA;32|PSILI AND OXIA
1F15 GREEK SMALL LETTER EPSILON WITH DASIA AND OXIA
1F18 GREEK CAPITAL LETTER EPSILON WITH PSILI;34|DASIA;34|PSILI AND VARIA
1F1B GREEK CAPITAL LETTER EPSILON WITH DASIA AND VARIA;34|PSILI AND OXIA
1F1D GREEK CAPITAL LETTER EPSILON WITH DASIA AND OXIA
1F20 GREEK SMALL LETTER ETA WITH PSILI;28|DASIA;28|PSILI AND VARIA;28|DASIA AND VARIA
1F24 GREEK SMALL LETTER ETA WITH PSILI AND OXIA;28|DASIA AND OXIA
1F26 GREEK SMALL LETTER ETA WITH PSILI AND PERISPOMENI;28|DASIA AND PERISPOMENI
1F28 GREEK CAPITAL LETTER ETA WITH PSILI;30|DASIA;30|PSILI AND VARIA;30|DASIA AND VARIA
1F2C GREEK CAPITAL LETTER ETA WITH PSILI AND OXIA;30|DASIA AND OXIA
1F2E GREEK CAPITAL LETTER ETA WITH PSILI AND PERISPOMENI;30|DASIA AND PERISPOMENI
1F30 GREEK SMALL LETTER IOTA WITH PSILI;29|DASIA;29|PSILI AND VARIA;29|DASIA AND VARIA
1F34 GREEK SMALL LETTER IOTA WITH PSILI AND OXIA;29|DASIA AND OXIA
1F36 GREEK SMALL LETTER IOTA WITH PSILI AND PERISPOMENI;29|DASIA AND PERISPOMENI
1F38 GREEK CAPITAL LETTER IOTA WITH PSILI;31|DASIA;31|PSILI AND VARIA
1F3B GREEK CAPITAL LETTER IOTA WITH DASIA AND VARIA;31|PSILI AND OXIA;31|DASIA AND OXIA
1F3E GREEK CAPITAL LETTER IOTA WITH PSILI AND PERISPOMENI;31|DASIA AND PERISPOMENI
1F40 GREEK SMALL LETTER OMICRON WITH PSILI;32|DASIA;32|PSILI AND VARIA
1F43 GREEK SMALL LETTER OMICRON WITH DASIA AND VARIA;32|PSILI AND OXIA
1F45 GREEK SMALL LETTER OMICRON WITH DASIA AND OXIA
1F48 GREEK CAPITAL LETTER OMICRON WITH PSILI;34|DASIA;34|PSILI AND VARIA
1F4B GREEK CAPITAL LETTER OMICRON WITH DASIA AND VARIA;34|PSILI AND OXIA
1F4D GREEK CAPITAL LETTER OMICRON WITH DASIA AND OXIA
1F50 GREEK SMALL LETTER UPSILON WITH PSILI;32|DASIA;32|PSILI AND VARIA
1F53 GREEK SMALL LETTER UPSILON WITH DASIA AND VARIA;32|PSILI AND OXIA
1F55 GREEK SMALL LETTER UPSILON WITH DASIA AND OXIA;32|PSILI AND PERISPOMENI
1F57 GREEK SMALL LETTER UPSILON WITH DASIA AND PERISPOMENI
1F59 GREEK CAPITAL LETTER UPSILON WITH DASIA
1F5B GREEK CAPITAL LETTER UPSILON WITH DASIA AND VARIA
1F5D GREEK CAPITAL LETTER UPSILON WITH DASIA AND OXIA
1F5F GREEK CAPITAL LETTER UPSILON WITH DASIA AND PERISPOMENI
1F60 GREEK SMALL LETTER OMEGA WITH PSILI;30|DASIA;30|PSILI AND VARIA;30|DASIA AND VARIA
1F64 GREEK SMALL LETTER OMEGA WITH PSILI AND OXIA;30|DASIA AND OXIA
1F66 GREEK SMALL LETTER OMEGA WITH PSILI AND PERISPOMENI;30|DASIA AND PERISPOMENI
1F68 GREEK CAPITAL LETTER OMEGA WITH PSILI;32|DASIA;32|PSILI AND VARIA
1F6B GREEK CAPITAL LETTER OMEGA WITH DASIA AND VARIA;32|PSILI AND OXIA
1F6D GREEK CAPITAL LETTER OMEGA WITH DASIA AND OXIA;32|PSILI AND PERISPOMENI
1F6F GREEK CAPITAL LETTER OMEGA WITH DASIA AND PERISPOMENI
1F70 GREEK SMALL LETTER ALPHA WITH VARIA;30|OXIA;19|EPSILON WITH VARIA;32|OXIA
1F74 GREEK SMALL LETTER ETA WITH VARIA;28|OXIA;19|IOTA WITH VARIA;29|OXIA
1F78 GREEK SMALL LETTER OMICRON WITH VARIA;32|OXIA;19|UPSILON WITH VARIA;32|OXIA
1F7C GREEK SMALL LETTER OMEGA WITH VARIA;30|OXIA
1F80 GREEK SMALL LETTER ALPHA WITH PSILI AND YPOGEGRAMMENI;30|DASIA AND YPOGEGRAMMENI
1F82 GREEK SMALL LETTER ALPHA WITH PSILI AND VARIA AND YPOGEGRAMMENI
1F83 GREEK SMALL LETTER ALPHA WITH DASIA AND VARIA AND YPOGEGRAMMENI
1F84 GREEK SMALL LETTER ALPHA WITH PSILI AND OXIA AND YPOGEGRAMMENI
1F85 GREEK SMALL LETTER ALPHA WITH DASIA AND OXIA AND YPOGEGRAMMENI
1F86 GREEK SMALL LETTER ALPHA WITH PSILI AND PERISPOMENI AND YPOGEGRAMMENI
1F87 GREEK SMALL LETTER ALPHA WITH DASIA AND PERISPOMENI AND YPOGEGRAMMENI
1F88 GREEK CAPITAL LETTER ALPHA WITH PSILI AND PROSGEGRAMMENI
1F89 GREEK CAPITAL LETTER ALPHA WITH DASIA AND PROSGEGRAMMENI
1F8A GREEK CAPITAL LETTER ALPHA WITH PSILI AND VARIA AND PROSGEGRAMMENI
1F8B GREEK CAPITAL LETTER ALPHA WITH DASIA AND VARIA AND PROSGEGRAMMENI
1F8C GREEK CAPITAL LETTER ALPHA WITH PSILI AND OXIA AND PROSGEGRAMMENI
1F8D GREEK CAPITAL LETTER ALPHA WITH DASIA AND OXIA AND PROSGEGRAMMENI
1F8E GREEK CAPITAL LETTER ALPHA WITH PSILI AND PERISPOMENI AND PROSGEGRAMMENI
1F8F GREEK CAPITAL LETTER ALPHA WITH DASIA AND PERISPOMENI AND PROSGEGRAMMENI
1F90 GREEK SMALL LETTER ETA WITH PSILI AND YPOGEGRAMMENI;28|DASIA AND YPOGEGRAMMENI
1F92 GREEK SMALL LETTER ETA WITH PSILI AND VARIA AND YPOGEGRAMMENI
1F93 GREEK SMALL LETTER ETA WITH DASIA AND VARIA AND YPOGEGRAMMENI
1F94 GREEK SMALL LETTER ETA WITH PSILI AND OXIA AND YPOGEGRAMMENI
1F95 GREEK SMALL LETTER ETA WITH DASIA AND OXIA AND YPOGEGRAMMENI
1F96 GREEK SMALL LETTER ETA WITH PSILI AND PERISPOMENI AND YPOGEGRAMMENI
1F97 GREEK SMALL LETTER ETA WITH DASIA AND PERISPOMENI AND YPOGEGRAMMENI
1F98 GREEK CAPITAL LETTER ETA WITH PSILI AND PROSGEGRAMMENI;30|DASIA AND PROSGEGRAMMENI
1F9A GREEK CAPITAL LETTER ETA WITH PSILI AND VARIA AND PROSGEGRAMMENI
1F9B GREEK CAPITAL LETTER ETA WITH DASIA AND VARIA AND PROSGEGRAMMENI
1F9C GREEK CAPITAL LETTER ETA WITH PSILI AND OXIA AND PROSGEGRAMMENI
1F9D GREEK CAPITAL LETTER ETA WITH DASIA AND OXIA AND PROSGEGRAMMENI
1F9E GREEK CAPITAL LETTER ETA WITH PSILI AND PERISPOMENI AND PROSGEGRAMMENI
1F9F GREEK CAPITAL LETTER ETA WITH DASIA AND PERISPOMENI AND PROSGEGRAMMENI
1FA0 GREEK SMALL LETTER OMEGA WITH PSILI AND YPOGEGRAMMENI;30|DASIA AND YPOGEGRAMMENI
1FA2 GREEK SMALL LETTER OMEGA WITH PSILI AND VARIA AND YPOGEGRAMMENI
1FA3 GREEK SMALL LETTER OMEGA WITH DASIA AND VARIA AND YPOGEGRAMMENI
1FA4 GREEK SMALL LETTER OMEGA WITH PSILI AND OXIA AND YPOGEGRAMMENI
1FA5 GREEK SMALL LETTER OMEGA WITH DASIA AND OXIA AND YPOGEGRAMMENI
1FA6 GREEK SMALL LETTER OMEGA WITH PSILI AND PERISPOMENI AND YPOGEGRAMMENI
1FA7 GREEK SMALL LETTER OMEGA WITH DASIA AND PERISPOMENI AND YPOGEGRAMMENI
1FA8 GREEK CAPITAL LETTER OMEGA WITH PSILI AND PROSGEGRAMMENI
1FA9 GREEK CAPITAL LETTER OMEGA WITH DASIA AND PROSGEGRAMMENI
1FAA GREEK CAPITAL LETTER OMEGA WITH PSILI AND VARIA AND PROSGEGRAMMENI
1FAB GREEK CAPITAL LETTER OMEGA WITH DASIA AND VARIA AND PROSGEGRAMMENI
1FAC GREEK CAPITAL LETTER OMEGA WITH PSILI AND OXIA AND PROSGEGRAMMENI
1FAD GREEK CAPITAL LETTER OMEGA WITH DASIA AND OXIA AND PROSGEGRAMMENI
1FAE GREEK CAPITAL LETTER OMEGA WITH PSILI AND PERISPOMENI AND PROSGEGRAMMENI
1FAF GREEK CAPITAL LETTER OMEGA WITH DASIA AND PERISPOMENI AND PROSGEGRAMMENI
1FB0 GREEK SMALL LETTER ALPHA WITH VRACHY;30|MACRON;30|VARIA AND YPOGEGRAMMENI
1FB3 GREEK SMALL LETTER ALPHA WITH YPOGEGRAMMENI;30|OXIA AND YPOGEGRAMMENI
1FB6 GREEK SMALL LETTER ALPHA WITH PERISPOMENI;41| AND YPOGEGRAMMENI
1FB8 GREEK CAPITAL LETTER ALPHA WITH VRACHY;32|MACRON;32|VARIA;32|OXIA
1FBC GREEK CAPITAL LETTER ALPHA WITH PROSGEGRAMMENI;6|KORONIS;6|PROSGEGRAMMENI;7|SILI
1FC0 GREEK PERISPOMENI;6|DIALYTIKA AND PERISPOMENI
1FC2 GREEK SMALL LETTER ETA WITH VARIA AND YPOGEGRAMMENI;28|YPOGEGRAMMENI
1FC4 GREEK SMALL LETTER ETA WITH OXIA AND YPOGEGRAMMENI
1FC6 GREEK SMALL LETTER ETA WITH PERISPOMENI;39| AND YPOGEGRAMMENI
1FC8 GREEK CAPITAL LETTER EPSILON WITH VARIA;34|OXIA;22|TA WITH VARIA;30|OXIA
1FCC GREEK CAPITAL LETTER ETA WITH PROSGEGRAMMENI;6|PSILI AND VARIA;16|OXIA
1FCF GREEK PSILI AND PERISPOMENI;6|SMALL LETTER IOTA WITH VRACHY;29|MACRON
1FD2 GREEK SMALL LETTER IOTA WITH DIALYTIKA AND VARIA;43|OXIA
1FD6 GREEK SMALL LETTER IOTA WITH PERISPOMENI;29|DIALYTIKA AND PERISPOMENI
1FD8 GREEK CAPITAL LETTER IOTA WITH VRACHY;31|MACRON;31|VARIA;31|OXIA
1FDD GREEK DASIA AND VARIA;16|OXIA;16|PERISPOMENI;6|SMALL LETTER UPSILON WITH VRACHY
1FE1 GREEK SMALL LETTER UPSILON WITH MACRON;32|DIALYTIKA AND VARIA;46|OXIA
1FE4 GREEK SMALL LETTER RHO WITH PSILI;28|DASIA;19|UPSILON WITH PERISPOMENI
1FE7 GREEK SMALL LETTER UPSILON WITH DIALYTIKA AND PERISPOMENI
1FE8 GREEK CAPITAL LETTER UPSILON WITH VRACHY;34|MACRON;34|VARIA;34|OXIA
1FEC GREEK CAPITAL LETTER RHO WITH DASIA;6|DIALYTIKA AND VARIA;20|OXIA;6|VARIA
1FF2 GREEK SMALL LETTER OMEGA WITH VARIA AND YPOGEGRAMMENI;30|YPOGEGRAMMENI
1FF4 GREEK SMALL LETTER OMEGA WITH OXIA AND YPOGEGRAMMENI
1FF6 GREEK SMALL LETTER OMEGA WITH PERISPOMENI;41| AND YPOGEGRAMMENI
1FF8 GREEK CAPITAL LETTER OMICRON WITH VARIA;34|OXIA;23|EGA WITH VARIA;32|OXIA
1FFC GREEK CAPITAL LETTER OMEGA WITH PROSGEGRAMMENI;6|OXIA;6|DASIA
2000 EN QUAD;1|M QUAD;1|N SPACE;1|M SPACE;0|THREE-PER-EM SPACE;0|FOUR-PER-EM SPACE
2006 SIX-PER-EM SPACE;0|FIGURE SPACE;0|PUNCTUATION SPACE;0|THIN SPACE;0|HAIR SPACE
200B ZERO WIDTH SPACE;11|NON-JOINER;11|JOINER;0|LEFT-TO-RIGHT MARK;0|RIGHT-TO-LEFT MARK
2010 HYPHEN;0|NON-BREAKING HYPHEN;0|FIGURE DASH;0|EN DASH;1|M DASH;0|HORIZONTAL BAR
2016 DOUBLE VERTICAL LINE;7|LOW LINE;0|LEFT SINGLE QUOTATION MARK
2019 RIGHT SINGLE QUOTATION MARK;0|SINGLE LOW-9 QUOTATION MARK
201B SINGLE HIGH-REVERSED-9 QUOTATION MARK;0|LEFT DOUBLE QUOTATION MARK
201D RIGHT DOUBLE QUOTATION MARK;0|DOUBLE LOW-9 QUOTATION MARK
201F DOUBLE HIGH-REVERSED-9 QUOTATION MARK;1|AGGER;1|OUBLE DAGGER;0|BULLET
2023 TRIANGULAR BULLET;0|ONE DOT LEADER;0|TWO DOT LEADER;0|HORIZONTAL ELLIPSIS
2027 HYPHENATION POINT;0|LINE SEPARATOR;0|PARAGRAPH SEPARATOR;0|LEFT-TO-RIGHT EMBEDDING
202B RIGHT-TO-LEFT EMBEDDING;0|POP DIRECTIONAL FORMATTING;0|LEFT-TO-RIGHT OVERRIDE
202E RIGHT-TO-LEFT OVERRIDE;0|NARROW NO-BREAK SPACE;0|PER MILLE SIGN
2031 PER TEN THOUSAND SIGN;1|RIME;0|DOUBLE PRIME;0|TRIPLE PRIME;0|REVERSED PRIME
2036 REVERSED DOUBLE PRIME;9|TRIPLE PRIME;0|CARET
2039 SINGLE LEFT-POINTING ANGLE QUOTATION MARK;7|RIGHT-POINTING ANGLE QUOTATION MARK
203B REFERENCE MARK;0|DOUBLE EXCLAMATION MARK;0|INTERROBANG;0|OVERLINE;0|UNDERTIE
2040 CHARACTER TIE;1|ARET INSERTION POINT;0|ASTERISM;0|HYPHEN BULLET;0|FRACTION SLASH
2045 LEFT SQUARE BRACKET WITH QUILL;0|RIGHT SQUARE BRACKET WITH QUILL
2047 DOUBLE QUESTION MARK;0|QUESTION EXCLAMATION MARK;0|EXCLAMATION QUESTION MARK
204A TIRONIAN SIGN ET;0|REVERSED PILCROW SIGN;0|BLACK LEFTWARDS BULLET
204D BLACK RIGHTWARDS BULLET;0|LOW ASTERISK;0|REVERSED SEMICOLON;0|CLOSE UP
2051 TWO ASTERISKS ALIGNED VERTICALLY;0|COMMERCIAL MINUS SIGN;0|SWUNG DASH
2054 INVERTED UNDERTIE;0|FLOWER PUNCTUATION MARK;0|THREE DOT PUNCTUATION
2057 QUADRUPLE PRIME;0|FOUR DOT PUNCTUATION;1|IVE DOT PUNCTUATION;0|TWO DOT PUNCTUATION
205B FOUR DOT MARK;0|DOTTED CROSS;0|TRICOLON;0|VERTICAL FOUR DOTS
205F MEDIUM MATHEMATICAL SPACE;0|WORD JOINER;0|FUNCTION APPLICATION;0|INVISIBLE TIMES
2063 INVISIBLE SEPARATOR;10|PLUS
2066 LEFT-TO-RIGHT ISOLATE;0|RIGHT-TO-LEFT ISOLATE;0|FIRST STRONG ISOLATE
2069 POP DIRECTIONAL ISOLATE;0|INHIBIT SYMMETRIC SWAPPING;0|ACTIVATE SYMMETRIC SWAPPING
206C INHIBIT ARABIC FORM SHAPING;0|ACTIVATE ARABIC FORM SHAPING;0|NATIONAL DIGIT SHAPES
206F NOMINAL DIGIT SHAPES;0|SUPERSCRIPT ZERO;12|LATIN SMALL LETTER I
2074 SUPERSCRIPT FOUR;13|IVE;12|SIX;13|EVEN;12|EIGHT;12|NINE;12|PLUS SIGN;12|MINUS
207C SUPERSCRIPT EQUALS SIGN;12|LEFT PARENTHESIS;12|RIGHT PARENTHESIS
207F SUPERSCRIPT LATIN SMALL LETTER N;2|BSCRIPT ZERO;10|ONE;10|TWO;11|HREE;10|FOUR
2085 SUBSCRIPT FIVE;10|SIX;11|EVEN;10|EIGHT;10|NINE;10|PLUS SIGN;10|MINUS
208C SUBSCRIPT EQUALS SIGN;10|LEFT PARENTHESIS;10|RIGHT PARENTHESIS
2090 LATIN SUBSCRIPT SMALL LETTER A;29|E;29|O;29|X;29|SCHWA;29|H;29|K;29|L;29|M;29|N
209A LATIN SUBSCRIPT SMALL LETTER P;29|S;29|T
20A0 EURO-CURRENCY SIGN;0|COLON SIGN;1|RUZEIRO SIGN;0|FRENCH FRANC SIGN;0|LIRA SIGN
20A5 MILL SIGN;0|NAIRA SIGN;0|PESETA SIGN;0|RUPEE SIGN;0|WON SIGN;0|NEW SHEQEL SIGN
20AB DONG SIGN;0|EURO SIGN;0|KIP SIGN;0|TUGRIK SIGN;0|DRACHMA SIGN;0|GERMAN PENNY SIGN
20B1 PESO SIGN;0|GUARANI SIGN;0|AUSTRAL SIGN;0|HRYVNIA SIGN;0|CEDI SIGN
20B6 LIVRE TOURNOIS SIGN;0|SPESMILO SIGN;0|TENGE SIGN;0|INDIAN RUPEE SIGN
20BA TURKISH LIRA SIGN;0|NORDIC MARK SIGN;0|MANAT SIGN;0|RUBLE SIGN;0|LARI SIGN
20BF BITCOIN SIGN;0|SOM SIGN
20D0 COMBINING LEFT HARPOON ABOVE;10|RIGHT HARPOON ABOVE;10|LONG VERTICAL LINE OVERLAY
20D3 COMBINING SHORT VERTICAL LINE OVERLAY;10|ANTICLOCKWISE ARROW ABOVE
20D5 COMBINING CLOCKWISE ARROW ABOVE;10|LEFT ARROW ABOVE;10|RIGHT ARROW ABOVE
20D8 COMBINING RING OVERLAY;10|CLOCKWISE RING OVERLAY;10|ANTICLOCKWISE RING OVERLAY
20DB COMBINING THREE DOTS ABOVE;10|FOUR DOTS ABOVE;10|ENCLOSING CIRCLE;20|SQUARE
20DF COMBINING ENCLOSING DIAMOND;20|CIRCLE BACKSLASH;10|LEFT RIGHT ARROW ABOVE
20E2 COMBINING ENCLOSING SCREEN;20|KEYCAP;20|UPWARD POINTING TRIANGLE
20E5 COMBINING REVERSE SOLIDUS OVERLAY;10|DOUBLE VERTICAL STROKE OVERLAY
20E7 COMBINING ANNUITY SYMBOL;10|TRIPLE UNDERDOT;10|WIDE BRIDGE ABOVE
20EA COMBINING LEFTWARDS ARROW OVERLAY;11|ONG DOUBLE SOLIDUS OVERLAY
20EC COMBINING RIGHTWARDS HARPOON WITH BARB DOWNWARDS
20ED COMBINING LEFTWARDS HARPOON WITH BARB DOWNWARDS;14| ARROW BELOW
20EF COMBINING RIGHT ARROW BELOW;10|ASTERISK ABOVE
2100 ACCOUNT OF;1|DDRESSED TO THE SUBJECT;0|DOUBLE-STRUCK CAPITAL C;1|EGREE CELSIUS
2104 CENTRE LINE SYMBOL;1|ARE OF;2|DA UNA;0|EULER CONSTANT;0|SCRUPLE
2109 DEGREE FAHRENHEIT;0|SCRIPT SMALL G;7|CAPITAL H;0|BLACK-LETTER CAPITAL H
210D DOUBLE-STRUCK CAPITAL H;0|PLANCK CONSTANT;15| OVER TWO PI;0|SCRIPT CAPITAL I
2111 BLACK-LETTER CAPITAL I;0|SCRIPT CAPITAL L;7|SMALL L;0|L B BAR SYMBOL
2115 DOUBLE-STRUCK CAPITAL N;0|NUMERO SIGN;0|SOUND RECORDING COPYRIGHT
2118 SCRIPT CAPITAL P;0|DOUBLE-STRUCK CAPITAL P;22|Q;0|SCRIPT CAPITAL R
211C BLACK-LETTER CAPITAL R;0|DOUBLE-STRUCK CAPITAL R;0|PRESCRIPTION TAKE;0|RESPONSE
2120 SERVICE MARK;0|TELEPHONE SIGN;1|RADE MARK SIGN;0|VERSICLE
2124 DOUBLE-STRUCK CAPITAL Z;0|OUNCE SIGN;1|HM SIGN;0|INVERTED OHM SIGN
2128 BLACK-LETTER CAPITAL Z;0|TURNED GREEK SMALL LETTER IOTA;0|KELVIN SIGN
212B ANGSTROM SIGN;0|SCRIPT CAPITAL B;0|BLACK-LETTER CAPITAL C;0|ESTIMATED SYMBOL
212F SCRIPT SMALL E;7|CAPITAL E;15|F;0|TURNED CAPITAL F;0|SCRIPT CAPITAL M;7|SMALL O
2135 ALEF SYMBOL;0|BET SYMBOL;0|GIMEL SYMBOL;0|DALET SYMBOL;0|INFORMATION SOURCE
213A ROTATED CAPITAL Q;0|FACSIMILE SIGN;0|DOUBLE-STRUCK SMALL PI;20|GAMMA
213E DOUBLE-STRUCK CAPITAL GAMMA;22|PI;14|N-ARY SUMMATION;0|TURNED SANS-SERIF CAPITAL G
2142 TURNED SANS-SERIF CAPITAL L;0|REVERSED SANS-SERIF CAPITAL L
2144 TURNED SANS-SERIF CAPITAL Y;0|DOUBLE-STRUCK ITALIC CAPITAL D;21|SMALL D;27|E;27|I
2149 DOUBLE-STRUCK ITALIC SMALL J;0|PROPERTY LINE;0|TURNED AMPERSAND;0|PER SIGN
214D AKTIESELSKAB;0|TURNED SMALL F;0|SYMBOL FOR SAMARITAN SOURCE
2150 VULGAR FRACTION ONE SEVENTH;20|NINTH;20|TENTH;21|HIRD;16|TWO THIRDS;16|ONE FIFTH
2156 VULGAR FRACTION TWO FIFTHS;17|HREE FIFTHS;16|FOUR FIFTHS;16|ONE SIXTH
215A VULGAR FRACTION FIVE SIXTHS;16|ONE EIGHTH;16|THREE EIGHTHS;16|FIVE EIGHTHS
215E VULGAR FRACTION SEVEN EIGHTHS;0|FRACTION NUMERATOR ONE;0|ROMAN NUMERAL ONE;14|TWO
2162 ROMAN NUMERAL THREE;14|FOUR;15|IVE;14|SIX;15|EVEN;14|EIGHT;14|NINE;14|TEN
216A ROMAN NUMERAL ELEVEN;14|TWELVE;14|FIFTY;14|ONE HUNDRED;14|FIVE HUNDRED
216F ROMAN NUMERAL ONE THOUSAND;0|SMALL ROMAN NUMERAL ONE;20|TWO;21|HREE;20|FOUR;21|IVE
2175 SMALL ROMAN NUMERAL SIX;21|EVEN;20|EIGHT;20|NINE;20|TEN;20|ELEVEN;20|TWELVE
217C SMALL ROMAN NUMERAL FIFTY;20|ONE HUNDRED;20|FIVE HUNDRED;20|ONE THOUSAND
2180 ROMAN NUMERAL ONE THOUSAND C D;14|FIVE THOUSAND;14|TEN THOUSAND
2183 ROMAN NUMERAL REVERSED ONE HUNDRED;0|LATIN SMALL LETTER REVERSED C
2185 ROMAN NUMERAL SIX LATE FORM;14|FIFTY EARLY FORM;20|THOUSAND
2188 ROMAN NUMERAL ONE HUNDRED THOUSAND;0|VULGAR FRACTION ZERO THIRDS
218A TURNED DIGIT TWO;14|HREE
2190 LEFTWARDS ARROW;0|UPWARDS ARROW;0|RIGHTWARDS ARROW;0|DOWNWARDS ARROW
2194 LEFT RIGHT ARROW;0|UP DOWN ARROW;0|NORTH WEST ARROW;6|EAST ARROW
2198 SOUTH EAST ARROW;6|WEST ARROW;0|LEFTWARDS ARROW WITH STROKE
219B RIGHTWARDS ARROW WITH STROKE;0|LEFTWARDS WAVE ARROW;0|RIGHTWARDS WAVE ARROW
219E LEFTWARDS TWO HEADED ARROW;0|UPWARDS TWO HEADED ARROW
21A0 RIGHTWARDS TWO HEADED ARROW;0|DOWNWARDS TWO HEADED ARROW
21A2 LEFTWARDS ARROW WITH TAIL;0|RIGHTWARDS ARROW WITH TAIL;0|LEFTWARDS ARROW FROM BAR
21A5 UPWARDS ARROW FROM BAR;0|RIGHTWARDS ARROW FROM BAR;0|DOWNWARDS ARROW FROM BAR
21A8 UP DOWN ARROW WITH BASE;0|LEFTWARDS ARROW WITH HOOK;0|RIGHTWARDS ARROW WITH HOOK
21AB LEFTWARDS ARROW WITH LOOP;0|RIGHTWARDS ARROW WITH LOOP;0|LEFT RIGHT WAVE ARROW
21AE LEFT RIGHT ARROW WITH STROKE;0|DOWNWARDS ZIGZAG ARROW
21B0 UPWARDS ARROW WITH TIP LEFTWARDS;23|RIGHTWARDS
21B2 DOWNWARDS ARROW WITH TIP LEFTWARDS;25|RIGHTWARDS
21B4 RIGHTWARDS ARROW WITH CORNER DOWNWARDS;0|DOWNWARDS ARROW WITH CORNER LEFTWARDS
21B6 ANTICLOCKWISE TOP SEMICIRCLE ARROW;0|CLOCKWISE TOP SEMICIRCLE ARROW
21B8 NORTH WEST ARROW TO LONG BAR;0|LEFTWARDS ARROW TO BAR OVER RIGHTWARDS ARROW TO BAR
21BA ANTICLOCKWISE OPEN CIRCLE ARROW;0|CLOCKWISE OPEN CIRCLE ARROW
21BC LEFTWARDS HARPOON WITH BARB UPWARDS;28|DOWNWARDS
21BE UPWARDS HARPOON WITH BARB RIGHTWARDS;26|LEFTWARDS
21C0 RIGHTWARDS HARPOON WITH BARB UPWARDS;29|DOWNWARDS
21C2 DOWNWARDS HARPOON WITH BARB RIGHTWARDS;28|LEFTWARDS
21C4 RIGHTWARDS ARROW OVER LEFTWARDS ARROW;0|UPWARDS ARROW LEFTWARDS OF DOWNWARDS ARROW
21C6 LEFTWARDS ARROW OVER RIGHTWARDS ARROW;10|PAIRED ARROWS;0|UPWARDS PAIRED ARROWS
21C9 RIGHTWARDS PAIRED ARROWS;0|DOWNWARDS PAIRED ARROWS
21CB LEFTWARDS HARPOON OVER RIGHTWARDS HARPOON
21CC RIGHTWARDS HARPOON OVER LEFTWARDS HARPOON;0|LEFTWARDS DOUBLE ARROW WITH STROKE
21CE LEFT RIGHT DOUBLE ARROW WITH STROKE;0|RIGHTWARDS DOUBLE ARROW WITH STROKE
21D0 LEFTWARDS DOUBLE ARROW;0|UPWARDS DOUBLE ARROW;0|RIGHTWARDS DOUBLE ARROW
21D3 DOWNWARDS DOUBLE ARROW;0|LEFT RIGHT DOUBLE ARROW;0|UP DOWN DOUBLE ARROW
21D6 NORTH WEST DOUBLE ARROW;6|EAST DOUBLE ARROW;0|SOUTH EAST DOUBLE ARROW
21D9 SOUTH WEST DOUBLE ARROW;0|LEFTWARDS TRIPLE ARROW;0|RIGHTWARDS TRIPLE ARROW
21DC LEFTWARDS SQUIGGLE ARROW;0|RIGHTWARDS SQUIGGLE ARROW
21DE UPWARDS ARROW WITH DOUBLE STROKE;0|DOWNWARDS ARROW WITH DOUBLE STROKE
21E0 LEFTWARDS DASHED ARROW;0|UPWARDS DASHED ARROW;0|RIGHTWARDS DASHED ARROW
21E3 DOWNWARDS DASHED ARROW;0|LEFTWARDS ARROW TO BAR;0|RIGHTWARDS ARROW TO BAR
21E6 LEFTWARDS WHITE ARROW;0|UPWARDS WHITE ARROW;0|RIGHTWARDS WHITE ARROW
21E9 DOWNWARDS WHITE ARROW;0|UPWARDS WHITE ARROW FROM BAR;20|ON PEDESTAL
21EC UPWARDS WHITE ARROW ON PEDESTAL WITH HORIZONTAL BAR;37|VERTICAL BAR
21EE UPWARDS WHITE DOUBLE ARROW;26| ON PEDESTAL;0|RIGHTWARDS WHITE ARROW FROM WALL
21F1 NORTH WEST ARROW TO CORNER;0|SOUTH EAST ARROW TO CORNER;0|UP DOWN WHITE ARROW
21F4 RIGHT ARROW WITH SMALL CIRCLE;0|DOWNWARDS ARROW LEFTWARDS OF UPWARDS ARROW
21F6 THREE RIGHTWARDS ARROWS;0|LEFTWARDS ARROW WITH VERTICAL STROKE
21F8 RIGHTWARDS ARROW WITH VERTICAL STROKE;0|LEFT RIGHT ARROW WITH VERTICAL STROKE
21FA LEFTWARDS ARROW WITH DOUBLE VERTICAL STROKE
21FB RIGHTWARDS ARROW WITH DOUBLE VERTICAL STROKE
21FC LEFT RIGHT ARROW WITH DOUBLE VERTICAL STROKE;4|WARDS OPEN-HEADED ARROW
21FE RIGHTWARDS OPEN-HEADED ARROW;0|LEFT RIGHT OPEN-HEADED ARROW;0|FOR ALL;0|COMPLEMENT
2202 PARTIAL DIFFERENTIAL;0|THERE EXISTS;6|DOES NOT EXIST;0|EMPTY SET;0|INCREMENT
2207 NABLA;0|ELEMENT OF;0|NOT AN ELEMENT OF;0|SMALL ELEMENT OF;0|CONTAINS AS MEMBER
220C DOES NOT CONTAIN AS MEMBER;0|SMALL CONTAINS AS MEMBER;0|END OF PROOF
220F N-ARY PRODUCT;6|COPRODUCT;6|SUMMATION;0|MINUS SIGN;5|-OR-PLUS SIGN;0|DOT PLUS
2215 DIVISION SLASH;0|SET MINUS;0|ASTERISK OPERATOR;0|RING OPERATOR;0|BULLET OPERATOR
221A SQUARE ROOT;0|CUBE ROOT;0|FOURTH ROOT;0|PROPORTIONAL TO;0|INFINITY;0|RIGHT ANGLE
2220 ANGLE;0|MEASURED ANGLE;0|SPHERICAL ANGLE;0|DIVIDES;1|OES NOT DIVIDE;0|PARALLEL TO
2226 NOT PARALLEL TO;0|LOGICAL AND;8|OR;0|INTERSECTION;0|UNION;0|INTEGRAL
222C DOUBLE INTEGRAL;0|TRIPLE INTEGRAL;0|CONTOUR INTEGRAL;0|SURFACE INTEGRAL
2230 VOLUME INTEGRAL;0|CLOCKWISE INTEGRAL;10|CONTOUR INTEGRAL
2233 ANTICLOCKWISE CONTOUR INTEGRAL;0|THEREFORE;0|BECAUSE;0|RATIO;0|PROPORTION
2238 DOT MINUS;0|EXCESS;0|GEOMETRIC PROPORTION;0|HOMOTHETIC;0|TILDE OPERATOR
223D REVERSED TILDE;0|INVERTED LAZY S;0|SINE WAVE;0|WREATH PRODUCT;0|NOT TILDE
2242 MINUS TILDE;0|ASYMPTOTICALLY EQUAL TO;0|NOT ASYMPTOTICALLY EQUAL TO
2245 APPROXIMATELY EQUAL TO;14|BUT NOT ACTUALLY EQUAL TO
2247 NEITHER APPROXIMATELY NOR ACTUALLY EQUAL TO;0|ALMOST EQUAL TO
2249 NOT ALMOST EQUAL TO;0|ALMOST EQUAL OR EQUAL TO;0|TRIPLE TILDE;0|ALL EQUAL TO
224D EQUIVALENT TO;0|GEOMETRICALLY EQUIVALENT TO;0|DIFFERENCE BETWEEN
2250 APPROACHES THE LIMIT;0|GEOMETRICALLY EQUAL TO
2252 APPROXIMATELY EQUAL TO OR THE IMAGE OF;0|IMAGE OF OR APPROXIMATELY EQUAL TO
2254 COLON EQUALS;0|EQUALS COLON;0|RING IN EQUAL TO;5|EQUAL TO;0|CORRESPONDS TO
2259 ESTIMATES;1|QUIANGULAR TO;0|STAR EQUALS;0|DELTA EQUAL TO;0|EQUAL TO BY DEFINITION
225E MEASURED BY;0|QUESTIONED EQUAL TO;0|NOT EQUAL TO;0|IDENTICAL TO;0|NOT IDENTICAL TO
2263 STRICTLY EQUIVALENT TO;0|LESS-THAN OR EQUAL TO;0|GREATER-THAN OR EQUAL TO
2266 LESS-THAN OVER EQUAL TO;0|GREATER-THAN OVER EQUAL TO;0|LESS-THAN BUT NOT EQUAL TO
2269 GREATER-THAN BUT NOT EQUAL TO;0|MUCH LESS-THAN;5|GREATER-THAN;0|BETWEEN
226D NOT EQUIVALENT TO;4|LESS-THAN;4|GREATER-THAN;1|EITHER LESS-THAN NOR EQUAL TO
2271 NEITHER GREATER-THAN NOR EQUAL TO;0|LESS-THAN OR EQUIVALENT TO
2273 GREATER-THAN OR EQUIVALENT TO;0|NEITHER LESS-THAN NOR EQUIVALENT TO
2275 NEITHER GREATER-THAN NOR EQUIVALENT TO;0|LESS-THAN OR GREATER-THAN
2277 GREATER-THAN OR LESS-THAN;0|NEITHER LESS-THAN NOR GREATER-THAN
2279 NEITHER GREATER-THAN NOR LESS-THAN;0|PRECEDES;0|SUCCEEDS;0|PRECEDES OR EQUAL TO
227D SUCCEEDS OR EQUAL TO;0|PRECEDES OR EQUIVALENT TO;0|SUCCEEDS OR EQUIVALENT TO
2280 DOES NOT PRECEDE;9|SUCCEED;0|SUBSET OF;2|PERSET OF;0|NOT A SUBSET OF;8|PERSET OF
2286 SUBSET OF OR EQUAL TO;2|PERSET OF OR EQUAL TO;0|NEITHER A SUBSET OF NOR EQUAL TO
2289 NEITHER A SUPERSET OF NOR EQUAL TO;0|SUBSET OF WITH NOT EQUAL TO
228B SUPERSET OF WITH NOT EQUAL TO;0|MULTISET;8| MULTIPLICATION;9|UNION
228F SQUARE IMAGE OF;7|ORIGINAL OF;7|IMAGE OF OR EQUAL TO;7|ORIGINAL OF OR EQUAL TO
2293 SQUARE CAP;8|UP;0|CIRCLED PLUS;8|MINUS;8|TIMES;8|DIVISION SLASH;9|OT OPERATOR
229A CIRCLED RING OPERATOR;8|ASTERISK OPERATOR;8|EQUALS;8|DASH;0|SQUARED PLUS;8|MINUS
22A0 SQUARED TIMES;8|DOT OPERATOR;0|RIGHT TACK;0|LEFT TACK;0|DOWN TACK;0|UP TACK
22A6 ASSERTION;0|MODELS;0|TRUE;0|FORCES;0|TRIPLE VERTICAL BAR RIGHT TURNSTILE
22AB DOUBLE VERTICAL BAR DOUBLE RIGHT TURNSTILE;2|ES NOT PROVE;0|NOT TRUE
22AE DOES NOT FORCE;0|NEGATED DOUBLE VERTICAL BAR DOUBLE RIGHT TURNSTILE
22B0 PRECEDES UNDER RELATION;0|SUCCEEDS UNDER RELATION;0|NORMAL SUBGROUP OF
22B3 CONTAINS AS NORMAL SUBGROUP;0|NORMAL SUBGROUP OF OR EQUAL TO
22B5 CONTAINS AS NORMAL SUBGROUP OR EQUAL TO;0|ORIGINAL OF;0|IMAGE OF;0|MULTIMAP
22B9 HERMITIAN CONJUGATE MATRIX;0|INTERCALATE;0|XOR;0|NAND;1|OR;0|RIGHT ANGLE WITH ARC
22BF RIGHT TRIANGLE;0|N-ARY LOGICAL AND;14|OR;6|INTERSECTION;6|UNION;0|DIAMOND OPERATOR
22C5 DOT OPERATOR;0|STAR OPERATOR;0|DIVISION TIMES;0|BOWTIE
22C9 LEFT NORMAL FACTOR SEMIDIRECT PRODUCT;0|RIGHT NORMAL FACTOR SEMIDIRECT PRODUCT
22CB LEFT SEMIDIRECT PRODUCT;0|RIGHT SEMIDIRECT PRODUCT;1|EVERSED TILDE EQUALS
22CE CURLY LOGICAL OR;14|AND;0|DOUBLE SUBSET;9|PERSET;7|INTERSECTION;7|UNION
22D4 PITCHFORK;0|EQUAL AND PARALLEL TO;0|LESS-THAN WITH DOT;0|GREATER-THAN WITH DOT
22D8 VERY MUCH LESS-THAN;10|GREATER-THAN;0|LESS-THAN EQUAL TO OR GREATER-THAN
22DB GREATER-THAN EQUAL TO OR LESS-THAN;0|EQUAL TO OR LESS-THAN;12|GREATER-THAN
22DE EQUAL TO OR PRECEDES;12|SUCCEEDS;0|DOES NOT PRECEDE OR EQUAL;9|SUCCEED OR EQUAL
22E2 NOT SQUARE IMAGE OF OR EQUAL TO;11|ORIGINAL OF OR EQUAL TO
22E4 SQUARE IMAGE OF OR NOT EQUAL TO;7|ORIGINAL OF OR NOT EQUAL TO
22E6 LESS-THAN BUT NOT EQUIVALENT TO;0|GREATER-THAN BUT NOT EQUIVALENT TO
22E8 PRECEDES BUT NOT EQUIVALENT TO;0|SUCCEEDS BUT NOT EQUIVALENT TO
22EA NOT NORMAL SUBGROUP OF;0|DOES NOT CONTAIN AS NORMAL SUBGROUP
22EC NOT NORMAL SUBGROUP OF OR EQUAL TO;0|DOES NOT CONTAIN AS NORMAL SUBGROUP OR EQUAL
22EE VERTICAL ELLIPSIS;0|MIDLINE HORIZONTAL ELLIPSIS;0|UP RIGHT DIAGONAL ELLIPSIS
22F1 DOWN RIGHT DIAGONAL ELLIPSIS;0|ELEMENT OF WITH LONG HORIZONTAL STROKE
22F3 ELEMENT OF WITH VERTICAL BAR AT END OF HORIZONTAL STROKE
22F4 SMALL ELEMENT OF WITH VERTICAL BAR AT END OF HORIZONTAL STROKE
22F5 ELEMENT OF WITH DOT ABOVE;16|OVERBAR;0|SMALL ELEMENT OF WITH OVERBAR
22F8 ELEMENT OF WITH UNDERBAR;16|TWO HORIZONTAL STROKES
22FA CONTAINS WITH LONG HORIZONTAL STROKE;14|VERTICAL BAR AT END OF HORIZONTAL STROKE
22FC SMALL CONTAINS WITH VERTICAL BAR AT END OF HORIZONTAL STROKE
22FD CONTAINS WITH OVERBAR;0|SMALL CONTAINS WITH OVERBAR;0|Z NOTATION BAG MEMBERSHIP
2300 DIAMETER SIGN;0|ELECTRIC ARROW;0|HOUSE;0|UP ARROWHEAD;0|DOWN ARROWHEAD
2305 PROJECTIVE;1|ERSPECTIVE;0|WAVY LINE;0|LEFT CEILING;0|RIGHT CEILING;0|LEFT FLOOR
230B RIGHT FLOOR;0|BOTTOM RIGHT CROP;7|LEFT CROP;0|TOP RIGHT CROP;4|LEFT CROP
2310 REVERSED NOT SIGN;0|SQUARE LOZENGE;0|ARC;0|SEGMENT;2|CTOR;0|TELEPHONE RECORDER
2316 POSITION INDICATOR;0|VIEWDATA SQUARE;0|PLACE OF INTEREST SIGN;0|TURNED NOT SIGN
231A WATCH;0|HOURGLASS;0|TOP LEFT CORNER;4|RIGHT CORNER;0|BOTTOM LEFT CORNER
231F BOTTOM RIGHT CORNER;0|TOP HALF INTEGRAL;0|BOTTOM HALF INTEGRAL;0|FROWN;0|SMILE
2324 UP ARROWHEAD BETWEEN TWO HORIZONTAL BARS;0|OPTION KEY;0|ERASE TO THE RIGHT
2327 X IN A RECTANGLE BOX;0|KEYBOARD;0|LEFT-POINTING ANGLE BRACKET
232A RIGHT-POINTING ANGLE BRACKET;0|ERASE TO THE LEFT;0|BENZENE RING;0|CYLINDRICITY
232E ALL AROUND-PROFILE;0|SYMMETRY;0|TOTAL RUNOUT;0|DIMENSION ORIGIN;0|CONICAL TAPER
2333 SLOPE;0|COUNTERBORE;7|SINK;0|APL FUNCTIONAL SYMBOL I-BEAM;22|SQUISH QUAD
2338 APL FUNCTIONAL SYMBOL QUAD EQUAL;27|DIVIDE;29|AMOND;27|JOT;27|CIRCLE
233D APL FUNCTIONAL SYMBOL CIRCLE STILE;29|JOT;22|SLASH BAR;22|BACKSLASH BAR
2341 APL FUNCTIONAL SYMBOL QUAD SLASH;27|BACKSLASH;27|LESS-THAN;27|GREATER-THAN
2345 APL FUNCTIONAL SYMBOL LEFTWARDS VANE;22|RIGHTWARDS VANE;22|QUAD LEFTWARDS ARROW
2348 APL FUNCTIONAL SYMBOL QUAD RIGHTWARDS ARROW;22|CIRCLE BACKSLASH
234A APL FUNCTIONAL SYMBOL DOWN TACK UNDERBAR;23|ELTA STILE;22|QUAD DOWN CARET;28|ELTA
234E APL FUNCTIONAL SYMBOL DOWN TACK JOT;22|UPWARDS VANE;22|QUAD UPWARDS ARROW
2351 APL FUNCTIONAL SYMBOL UP TACK OVERBAR;22|DEL STILE;22|QUAD UP CARET;27|DEL
2355 APL FUNCTIONAL SYMBOL UP TACK JOT;22|DOWNWARDS VANE;22|QUAD DOWNWARDS ARROW
2358 APL FUNCTIONAL SYMBOL QUOTE UNDERBAR;22|DELTA UNDERBAR;23|IAMOND UNDERBAR
235B APL FUNCTIONAL SYMBOL JOT UNDERBAR;22|CIRCLE UNDERBAR;22|UP SHOE JOT;22|QUOTE QUAD
235F APL FUNCTIONAL SYMBOL CIRCLE STAR;22|QUAD COLON;22|UP TACK DIAERESIS
2362 APL FUNCTIONAL SYMBOL DEL DIAERESIS;22|STAR DIAERESIS;22|JOT DIAERESIS
2365 APL FUNCTIONAL SYMBOL CIRCLE DIAERESIS;22|DOWN SHOE STILE;22|LEFT SHOE STILE
2368 APL FUNCTIONAL SYMBOL TILDE DIAERESIS;22|GREATER-THAN DIAERESIS;22|COMMA BAR
236B APL FUNCTIONAL SYMBOL DEL TILDE;22|ZILDE;22|STILE TILDE;23|EMICOLON UNDERBAR
236F APL FUNCTIONAL SYMBOL QUAD NOT EQUAL;27|QUESTION;22|DOWN CARET TILDE
2372 APL FUNCTIONAL SYMBOL UP CARET TILDE;22|IOTA;22|RHO;22|OMEGA;22|ALPHA UNDERBAR
2377 APL FUNCTIONAL SYMBOL EPSILON UNDERBAR;22|IOTA UNDERBAR;22|OMEGA UNDERBAR;22|ALPHA
237B NOT CHECK MARK;0|RIGHT ANGLE WITH DOWNWARDS ZIGZAG ARROW;0|SHOULDERED OPEN BOX
237E BELL SYMBOL;0|VERTICAL LINE WITH MIDDLE DOT;0|INSERTION SYMBOL
2381 CONTINUOUS UNDERLINE SYMBOL;0|DISCONTINUOUS UNDERLINE SYMBOL;0|EMPHASIS SYMBOL
2384 COMPOSITION SYMBOL;0|WHITE SQUARE WITH CENTRE VERTICAL LINE;0|ENTER SYMBOL
2387 ALTERNATIVE KEY SYMBOL;0|HELM SYMBOL;0|CIRCLED HORIZONTAL BAR WITH NOTCH
238A CIRCLED TRIANGLE DOWN;0|BROKEN CIRCLE WITH NORTHWEST ARROW;0|UNDO SYMBOL
238D MONOSTABLE SYMBOL;0|HYSTERESIS SYMBOL;0|OPEN-CIRCUIT-OUTPUT H-TYPE SYMBOL
2390 OPEN-CIRCUIT-OUTPUT L-TYPE SYMBOL;0|PASSIVE-PULL-DOWN-OUTPUT SYMBOL
2392 PASSIVE-PULL-UP-OUTPUT SYMBOL;0|DIRECT CURRENT SYMBOL FORM TWO
2394 SOFTWARE-FUNCTION SYMBOL;0|APL FUNCTIONAL SYMBOL QUAD
2396 DECIMAL SEPARATOR KEY SYMBOL;0|PREVIOUS PAGE;0|NEXT PAGE;0|PRINT SCREEN SYMBOL
239A CLEAR SCREEN SYMBOL;0|LEFT PARENTHESIS UPPER HOOK;17|EXTENSION;17|LOWER HOOK
239E RIGHT PARENTHESIS UPPER HOOK;18|EXTENSION;18|LOWER HOOK
23A1 LEFT SQUARE BRACKET UPPER CORNER;20|EXTENSION;20|LOWER CORNER
23A4 RIGHT SQUARE BRACKET UPPER CORNER;21|EXTENSION;21|LOWER CORNER
23A7 LEFT CURLY BRACKET UPPER HOOK;19|MIDDLE PIECE;19|LOWER HOOK
23AA CURLY BRACKET EXTENSION;0|RIGHT CURLY BRACKET UPPER HOOK;20|MIDDLE PIECE
23AD RIGHT CURLY BRACKET LOWER HOOK;0|INTEGRAL EXTENSION;0|HORIZONTAL LINE EXTENSION
23B0 UPPER LEFT OR LOWER RIGHT CURLY BRACKET SECTION
23B1 UPPER RIGHT OR LOWER LEFT CURLY BRACKET SECTION;0|SUMMATION TOP;10|BOTTOM
23B4 TOP SQUARE BRACKET;0|BOTTOM SQUARE BRACKET;21| OVER TOP SQUARE BRACKET
23B7 RADICAL SYMBOL BOTTOM;0|LEFT VERTICAL BOX LINE;0|RIGHT VERTICAL BOX LINE
23BA HORIZONTAL SCAN LINE-1;21|3;21|7;21|9
23BE DENTISTRY SYMBOL LIGHT VERTICAL AND TOP RIGHT;36|BOTTOM RIGHT;32|WITH CIRCLE
23C1 DENTISTRY SYMBOL LIGHT DOWN AND HORIZONTAL WITH CIRCLE
23C2 DENTISTRY SYMBOL LIGHT UP AND HORIZONTAL WITH CIRCLE;23|VERTICAL WITH TRIANGLE
23C4 DENTISTRY SYMBOL LIGHT DOWN AND HORIZONTAL WITH TRIANGLE
23C5 DENTISTRY SYMBOL LIGHT UP AND HORIZONTAL WITH TRIANGLE;23|VERTICAL AND WAVE
23C7 DENTISTRY SYMBOL LIGHT DOWN AND HORIZONTAL WITH WAVE
23C8 DENTISTRY SYMBOL LIGHT UP AND HORIZONTAL WITH WAVE;23|DOWN AND HORIZONTAL
23CA DENTISTRY SYMBOL LIGHT UP AND HORIZONTAL;23|VERTICAL AND TOP LEFT;36|BOTTOM LEFT
23CD SQUARE FOOT;0|RETURN SYMBOL;0|EJECT SYMBOL;0|VERTICAL LINE EXTENSION
23D1 METRICAL BREVE;9|LONG OVER SHORT;9|SHORT OVER LONG;9|LONG OVER TWO SHORTS
23D5 METRICAL TWO SHORTS OVER LONG;20|JOINED;10|RISEME;10|ETRASEME;9|PENTASEME
23DA EARTH GROUND;0|FUSE;0|TOP PARENTHESIS;0|BOTTOM PARENTHESIS;0|TOP CURLY BRACKET
23DF BOTTOM CURLY BRACKET;0|TOP TORTOISE SHELL BRACKET;0|BOTTOM TORTOISE SHELL BRACKET
23E2 WHITE TRAPEZIUM;0|BENZENE RING WITH CIRCLE;0|STRAIGHTNESS;0|FLATNESS;0|AC CURRENT
23E7 ELECTRICAL INTERSECTION;0|DECIMAL EXPONENT SYMBOL
23E9 BLACK RIGHT-POINTING DOUBLE TRIANGLE;6|LEFT-POINTING DOUBLE TRIANGLE
23EB BLACK UP-POINTING DOUBLE TRIANGLE;6|DOWN-POINTING DOUBLE TRIANGLE
23ED BLACK RIGHT-POINTING DOUBLE TRIANGLE WITH VERTICAL BAR
23EE BLACK LEFT-POINTING DOUBLE TRIANGLE WITH VERTICAL BAR
23EF BLACK RIGHT-POINTING TRIANGLE WITH DOUBLE VERTICAL BAR;0|ALARM CLOCK;0|STOPWATCH
23F2 TIMER CLOCK;0|HOURGLASS WITH FLOWING SAND;0|BLACK MEDIUM LEFT-POINTING TRIANGLE
23F5 BLACK MEDIUM RIGHT-POINTING TRIANGLE;13|UP-POINTING TRIANGLE
23F7 BLACK MEDIUM DOWN-POINTING TRIANGLE;0|DOUBLE VERTICAL BAR;0|BLACK SQUARE FOR STOP
23FA BLACK CIRCLE FOR RECORD;0|POWER SYMBOL;6|ON-OFF SYMBOL;8| SYMBOL;6|SLEEP SYMBOL
23FF OBSERVER EYE SYMBOL;0|SYMBOL FOR NULL;11|START OF HEADING;20|TEXT;11|END OF TEXT
2404 SYMBOL FOR END OF TRANSMISSION;13|QUIRY;11|ACKNOWLEDGE;11|BELL;12|ACKSPACE
2409 SYMBOL FOR HORIZONTAL TABULATION;11|LINE FEED;11|VERTICAL TABULATION;11|FORM FEED
240D SYMBOL FOR CARRIAGE RETURN;11|SHIFT OUT;17|IN;11|DATA LINK ESCAPE
2411 SYMBOL FOR DEVICE CONTROL ONE;26|TWO;27|HREE;26|FOUR;11|NEGATIVE ACKNOWLEDGE
2416 SYMBOL FOR SYNCHRONOUS IDLE;11|END OF TRANSMISSION BLOCK;11|CANCEL
2419 SYMBOL FOR END OF MEDIUM;11|SUBSTITUTE;11|ESCAPE;11|FILE SEPARATOR
241D SYMBOL FOR GROUP SEPARATOR;11|RECORD SEPARATOR;11|UNIT SEPARATOR;11|SPACE
2421 SYMBOL FOR DELETE;0|BLANK SYMBOL;0|OPEN BOX;0|SYMBOL FOR NEWLINE
2425 SYMBOL FOR DELETE FORM TWO;11|SUBSTITUTE FORM TWO
2440 OCR HOOK;4|CHAIR;4|FORK;4|INVERTED FORK;4|BELT BUCKLE;5|OW TIE
2446 OCR BRANCH BANK IDENTIFICATION;4|AMOUNT OF CHECK;4|DASH;4|CUSTOMER ACCOUNT NUMBER
244A OCR DOUBLE BACKSLASH
2460 CIRCLED DIGIT ONE;14|TWO;15|HREE;14|FOUR;15|IVE;14|SIX;15|EVEN;14|EIGHT;14|NINE
2469 CIRCLED NUMBER TEN;15|ELEVEN;15|TWELVE;16|HIRTEEN;15|FOURTEEN;16|IFTEEN;15|SIXTEEN
2470 CIRCLED NUMBER SEVENTEEN;15|EIGHTEEN;15|NINETEEN;15|TWENTY
2474 PARENTHESIZED DIGIT ONE;20|TWO;21|HREE;20|FOUR;21|IVE;20|SIX;21|EVEN;20|EIGHT
247C PARENTHESIZED DIGIT NINE;14|NUMBER TEN;21|ELEVEN;21|TWELVE;22|HIRTEEN;21|FOURTEEN
2482 PARENTHESIZED NUMBER FIFTEEN;21|SIXTEEN;22|EVENTEEN;21|EIGHTEEN;21|NINETEEN
2487 PARENTHESIZED NUMBER TWENTY;0|DIGIT ONE FULL STOP;6|TWO FULL STOP;7|HREE FULL STOP
248B DIGIT FOUR FULL STOP;7|IVE FULL STOP;6|SIX FULL STOP;7|EVEN FULL STOP
248F DIGIT EIGHT FULL STOP;6|NINE FULL STOP;0|NUMBER TEN FULL STOP;7|ELEVEN FULL STOP
2493 NUMBER TWELVE FULL STOP;8|HIRTEEN FULL STOP;7|FOURTEEN FULL STOP
2496 NUMBER FIFTEEN FULL STOP;7|SIXTEEN FULL STOP;8|EVENTEEN FULL STOP
2499 NUMBER EIGHTEEN FULL STOP;7|NINETEEN FULL STOP;7|TWENTY FULL STOP
249C PARENTHESIZED LATIN SMALL LETTER A;33|B;33|C;33|D;33|E;33|F;33|G;33|H;33|I;33|J
24A6 PARENTHESIZED LATIN SMALL LETTER K;33|L;33|M;33|N;33|O;33|P;33|Q;33|R;33|S;33|T
24B0 PARENTHESIZED LATIN SMALL LETTER U;33|V;33|W;33|X;33|Y;33|Z
24B6 CIRCLED LATIN CAPITAL LETTER A;29|B;29|C;29|D;29|E;29|F;29|G;29|H;29|I;29|J;29|K
24C1 CIRCLED LATIN CAPITAL LETTER L;29|M;29|N;29|O;29|P;29|Q;29|R;29|S;29|T;29|U;29|V
24CC CIRCLED LATIN CAPITAL LETTER W;29|X;29|Y;29|Z;14|SMALL LETTER A;27|B;27|C;27|D
24D4 CIRCLED LATIN SMALL LETTER E;27|F;27|G;27|H;27|I;27|J;27|K;27|L;27|M;27|N;27|O
24DF CIRCLED LATIN SMALL LETTER P;27|Q;27|R;27|S;27|T;27|U;27|V;27|W;27|X;27|Y;27|Z
24EA CIRCLED DIGIT ZERO;0|NEGATIVE CIRCLED NUMBER ELEVEN;24|TWELVE;25|HIRTEEN
24EE NEGATIVE CIRCLED NUMBER FOURTEEN;25|IFTEEN;24|SIXTEEN;25|EVENTEEN;24|EIGHTEEN
24F3 NEGATIVE CIRCLED NUMBER NINETEEN;24|TWENTY;0|DOUBLE CIRCLED DIGIT ONE;21|TWO
24F7 DOUBLE CIRCLED DIGIT THREE;21|FOUR;22|IVE;21|SIX;22|EVEN;21|EIGHT;21|NINE
24FE DOUBLE CIRCLED NUMBER TEN;0|NEGATIVE CIRCLED DIGIT ZERO
2500 BOX DRAWINGS LIGHT HORIZONTAL;13|HEAVY HORIZONTAL;13|LIGHT VERTICAL
2503 BOX DRAWINGS HEAVY VERTICAL;13|LIGHT TRIPLE DASH HORIZONTAL
2505 BOX DRAWINGS HEAVY TRIPLE DASH HORIZONTAL;13|LIGHT TRIPLE DASH VERTICAL
2507 BOX DRAWINGS HEAVY TRIPLE DASH VERTICAL;13|LIGHT QUADRUPLE DASH HORIZONTAL
2509 BOX DRAWINGS HEAVY QUADRUPLE DASH HORIZONTAL;13|LIGHT QUADRUPLE DASH VERTICAL
250B BOX DRAWINGS HEAVY QUADRUPLE DASH VERTICAL;13|LIGHT DOWN AND RIGHT
250D BOX DRAWINGS DOWN LIGHT AND RIGHT HEAVY;18|HEAVY AND RIGHT LIGHT
250F BOX DRAWINGS HEAVY DOWN AND RIGHT;13|LIGHT DOWN AND LEFT
2511 BOX DRAWINGS DOWN LIGHT AND LEFT HEAVY;18|HEAVY AND LEFT LIGHT
2513 BOX DRAWINGS HEAVY DOWN AND LEFT;13|LIGHT UP AND RIGHT;13|UP LIGHT AND RIGHT HEAVY
2516 BOX DRAWINGS UP HEAVY AND RIGHT LIGHT;13|HEAVY UP AND RIGHT;13|LIGHT UP AND LEFT
2519 BOX DRAWINGS UP LIGHT AND LEFT HEAVY;16|HEAVY AND LEFT LIGHT;13|HEAVY UP AND LEFT
251C BOX DRAWINGS LIGHT VERTICAL AND RIGHT;13|VERTICAL LIGHT AND RIGHT HEAVY
251E BOX DRAWINGS UP HEAVY AND RIGHT DOWN LIGHT;13|DOWN HEAVY AND RIGHT UP LIGHT
2520 BOX DRAWINGS VERTICAL HEAVY AND RIGHT LIGHT;13|DOWN LIGHT AND RIGHT UP HEAVY
2522 BOX DRAWINGS UP LIGHT AND RIGHT DOWN HEAVY;13|HEAVY VERTICAL AND RIGHT
2524 BOX DRAWINGS LIGHT VERTICAL AND LEFT;13|VERTICAL LIGHT AND LEFT HEAVY
2526 BOX DRAWINGS UP HEAVY AND LEFT DOWN LIGHT;13|DOWN HEAVY AND LEFT UP LIGHT
2528 BOX DRAWINGS VERTICAL HEAVY AND LEFT LIGHT;13|DOWN LIGHT AND LEFT UP HEAVY
252A BOX DRAWINGS UP LIGHT AND LEFT DOWN HEAVY;13|HEAVY VERTICAL AND LEFT
252C BOX DRAWINGS LIGHT DOWN AND HORIZONTAL;14|EFT HEAVY AND RIGHT DOWN LIGHT
252E BOX DRAWINGS RIGHT HEAVY AND LEFT DOWN LIGHT;13|DOWN LIGHT AND HORIZONTAL HEAVY
2530 BOX DRAWINGS DOWN HEAVY AND HORIZONTAL LIGHT;13|RIGHT LIGHT AND LEFT DOWN HEAVY
2532 BOX DRAWINGS LEFT LIGHT AND RIGHT DOWN HEAVY;13|HEAVY DOWN AND HORIZONTAL
2534 BOX DRAWINGS LIGHT UP AND HORIZONTAL;14|EFT HEAVY AND RIGHT UP LIGHT
2536 BOX DRAWINGS RIGHT HEAVY AND LEFT UP LIGHT;13|UP LIGHT AND HORIZONTAL HEAVY
2538 BOX DRAWINGS UP HEAVY AND HORIZONTAL LIGHT;13|RIGHT LIGHT AND LEFT UP HEAVY
253A BOX DRAWINGS LEFT LIGHT AND RIGHT UP HEAVY;13|HEAVY UP AND HORIZONTAL
253C BOX DRAWINGS LIGHT VERTICAL AND HORIZONTAL;14|EFT HEAVY AND RIGHT VERTICAL LIGHT
253E BOX DRAWINGS RIGHT HEAVY AND LEFT VERTICAL LIGHT
253F BOX DRAWINGS VERTICAL LIGHT AND HORIZONTAL HEAVY
2540 BOX DRAWINGS UP HEAVY AND DOWN HORIZONTAL LIGHT
2541 BOX DRAWINGS DOWN HEAVY AND UP HORIZONTAL LIGHT
2542 BOX DRAWINGS VERTICAL HEAVY AND HORIZONTAL LIGHT
2543 BOX DRAWINGS LEFT UP HEAVY AND RIGHT DOWN LIGHT
2544 BOX DRAWINGS RIGHT UP HEAVY AND LEFT DOWN LIGHT
2545 BOX DRAWINGS LEFT DOWN HEAVY AND RIGHT UP LIGHT
2546 BOX DRAWINGS RIGHT DOWN HEAVY AND LEFT UP LIGHT
2547 BOX DRAWINGS DOWN LIGHT AND UP HORIZONTAL HEAVY
2548 BOX DRAWINGS UP LIGHT AND DOWN HORIZONTAL HEAVY
2549 BOX DRAWINGS RIGHT LIGHT AND LEFT VERTICAL HEAVY
254A BOX DRAWINGS LEFT LIGHT AND RIGHT VERTICAL HEAVY;13|HEAVY VERTICAL AND HORIZONTAL
254C BOX DRAWINGS LIGHT DOUBLE DASH HORIZONTAL;13|HEAVY DOUBLE DASH HORIZONTAL
254E BOX DRAWINGS LIGHT DOUBLE DASH VERTICAL;13|HEAVY DOUBLE DASH VERTICAL
2550 BOX DRAWINGS DOUBLE HORIZONTAL;20|VERTICAL;15|WN SINGLE AND RIGHT DOUBLE
2553 BOX DRAWINGS DOWN DOUBLE AND RIGHT SINGLE;15|UBLE DOWN AND RIGHT
2555 BOX DRAWINGS DOWN SINGLE AND LEFT DOUBLE;18|DOUBLE AND LEFT SINGLE
2557 BOX DRAWINGS DOUBLE DOWN AND LEFT;13|UP SINGLE AND RIGHT DOUBLE
2559 BOX DRAWINGS UP DOUBLE AND RIGHT SINGLE;13|DOUBLE UP AND RIGHT
255B BOX DRAWINGS UP SINGLE AND LEFT DOUBLE;16|DOUBLE AND LEFT SINGLE
255D BOX DRAWINGS DOUBLE UP AND LEFT;13|VERTICAL SINGLE AND RIGHT DOUBLE
255F BOX DRAWINGS VERTICAL DOUBLE AND RIGHT SINGLE;13|DOUBLE VERTICAL AND RIGHT
2561 BOX DRAWINGS VERTICAL SINGLE AND LEFT DOUBLE;22|DOUBLE AND LEFT SINGLE
2563 BOX DRAWINGS DOUBLE VERTICAL AND LEFT;15|WN SINGLE AND HORIZONTAL DOUBLE
2565 BOX DRAWINGS DOWN DOUBLE AND HORIZONTAL SINGLE;15|UBLE DOWN AND HORIZONTAL
2567 BOX DRAWINGS UP SINGLE AND HORIZONTAL DOUBLE;16|DOUBLE AND HORIZONTAL SINGLE
2569 BOX DRAWINGS DOUBLE UP AND HORIZONTAL;13|VERTICAL SINGLE AND HORIZONTAL DOUBLE
256B BOX DRAWINGS VERTICAL DOUBLE AND HORIZONTAL SINGLE
256C BOX DRAWINGS DOUBLE VERTICAL AND HORIZONTAL;13|LIGHT ARC DOWN AND RIGHT;32|LEFT
256F BOX DRAWINGS LIGHT ARC UP AND LEFT;30|RIGHT;19|DIAGONAL UPPER RIGHT TO LOWER LEFT
2572 BOX DRAWINGS LIGHT DIAGONAL UPPER LEFT TO LOWER RIGHT;28|CROSS;19|LEFT;19|UP
2576 BOX DRAWINGS LIGHT RIGHT;19|DOWN;13|HEAVY LEFT;19|UP;19|RIGHT;19|DOWN
257C BOX DRAWINGS LIGHT LEFT AND HEAVY RIGHT;19|UP AND HEAVY DOWN
257E BOX DRAWINGS HEAVY LEFT AND LIGHT RIGHT;19|UP AND LIGHT DOWN;0|UPPER HALF BLOCK
2581 LOWER ONE EIGHTH BLOCK;10|QUARTER BLOCK;6|THREE EIGHTHS BLOCK;6|HALF BLOCK
2585 LOWER FIVE EIGHTHS BLOCK;6|THREE QUARTERS BLOCK;6|SEVEN EIGHTHS BLOCK;0|FULL BLOCK
2589 LEFT SEVEN EIGHTHS BLOCK;5|THREE QUARTERS BLOCK;5|FIVE EIGHTHS BLOCK;5|HALF BLOCK
258D LEFT THREE EIGHTHS BLOCK;5|ONE QUARTER BLOCK;9|EIGHTH BLOCK;0|RIGHT HALF BLOCK
2591 LIGHT SHADE;0|MEDIUM SHADE;0|DARK SHADE;0|UPPER ONE EIGHTH BLOCK
2595 RIGHT ONE EIGHTH BLOCK;0|QUADRANT LOWER LEFT;15|RIGHT;9|UPPER LEFT
2599 QUADRANT UPPER LEFT AND LOWER LEFT AND LOWER RIGHT;30|RIGHT
259B QUADRANT UPPER LEFT AND UPPER RIGHT AND LOWER LEFT;46|RIGHT;15|RIGHT
259E QUADRANT UPPER RIGHT AND LOWER LEFT;35| AND LOWER RIGHT;0|BLACK SQUARE
25A1 WHITE SQUARE;12| WITH ROUNDED CORNERS;13|CONTAINING BLACK SMALL SQUARE
25A4 SQUARE WITH HORIZONTAL FILL;12|VERTICAL FILL;12|ORTHOGONAL CROSSHATCH FILL
25A7 SQUARE WITH UPPER LEFT TO LOWER RIGHT FILL;18|RIGHT TO LOWER LEFT FILL
25A9 SQUARE WITH DIAGONAL CROSSHATCH FILL;0|BLACK SMALL SQUARE;0|WHITE SMALL SQUARE
25AC BLACK RECTANGLE;0|WHITE RECTANGLE;0|BLACK VERTICAL RECTANGLE
25AF WHITE VERTICAL RECTANGLE;0|BLACK PARALLELOGRAM;0|WHITE PARALLELOGRAM
25B2 BLACK UP-POINTING TRIANGLE;0|WHITE UP-POINTING TRIANGLE
25B4 BLACK UP-POINTING SMALL TRIANGLE;0|WHITE UP-POINTING SMALL TRIANGLE
25B6 BLACK RIGHT-POINTING TRIANGLE;0|WHITE RIGHT-POINTING TRIANGLE
25B8 BLACK RIGHT-POINTING SMALL TRIANGLE;0|WHITE RIGHT-POINTING SMALL TRIANGLE
25BA BLACK RIGHT-POINTING POINTER;0|WHITE RIGHT-POINTING POINTER
25BC BLACK DOWN-POINTING TRIANGLE;0|WHITE DOWN-POINTING TRIANGLE
25BE BLACK DOWN-POINTING SMALL TRIANGLE;0|WHITE DOWN-POINTING SMALL TRIANGLE
25C0 BLACK LEFT-POINTING TRIANGLE;0|WHITE LEFT-POINTING TRIANGLE
25C2 BLACK LEFT-POINTING SMALL TRIANGLE;0|WHITE LEFT-POINTING SMALL TRIANGLE
25C4 BLACK LEFT-POINTING POINTER;0|WHITE LEFT-POINTING POINTER;0|BLACK DIAMOND
25C7 WHITE DIAMOND;13| CONTAINING BLACK SMALL DIAMOND;0|FISHEYE;0|LOZENGE
25CB WHITE CIRCLE;0|DOTTED CIRCLE;0|CIRCLE WITH VERTICAL FILL;0|BULLSEYE;1|LACK CIRCLE
25D0 CIRCLE WITH LEFT HALF BLACK;12|RIGHT HALF BLACK;12|LOWER HALF BLACK
25D3 CIRCLE WITH UPPER HALF BLACK;18|RIGHT QUADRANT BLACK
25D5 CIRCLE WITH ALL BUT UPPER LEFT QUADRANT BLACK;0|LEFT HALF BLACK CIRCLE
25D7 RIGHT HALF BLACK CIRCLE;0|INVERSE BULLET;8|WHITE CIRCLE
25DA UPPER HALF INVERSE WHITE CIRCLE;0|LOWER HALF INVERSE WHITE CIRCLE
25DC UPPER LEFT QUADRANT CIRCULAR ARC;6|RIGHT QUADRANT CIRCULAR ARC
25DE LOWER RIGHT QUADRANT CIRCULAR ARC;6|LEFT QUADRANT CIRCULAR ARC;0|UPPER HALF CIRCLE
25E1 LOWER HALF CIRCLE;0|BLACK LOWER RIGHT TRIANGLE;12|LEFT TRIANGLE
25E4 BLACK UPPER LEFT TRIANGLE;12|RIGHT TRIANGLE;0|WHITE BULLET
25E7 SQUARE WITH LEFT HALF BLACK;12|RIGHT HALF BLACK;12|UPPER LEFT DIAGONAL HALF BLACK
25EA SQUARE WITH LOWER RIGHT DIAGONAL HALF BLACK
25EB WHITE SQUARE WITH VERTICAL BISECTING LINE;6|UP-POINTING TRIANGLE WITH DOT
25ED UP-POINTING TRIANGLE WITH LEFT HALF BLACK;26|RIGHT HALF BLACK;0|LARGE CIRCLE
25F0 WHITE SQUARE WITH UPPER LEFT QUADRANT;18|LOWER LEFT QUADRANT;24|RIGHT QUADRANT
25F3 WHITE SQUARE WITH UPPER RIGHT QUADRANT;6|CIRCLE WITH UPPER LEFT QUADRANT
25F5 WHITE CIRCLE WITH LOWER LEFT QUADRANT;24|RIGHT QUADRANT;18|UPPER RIGHT QUADRANT
25F8 UPPER LEFT TRIANGLE;6|RIGHT TRIANGLE;0|LOWER LEFT TRIANGLE;0|WHITE MEDIUM SQUARE
25FC BLACK MEDIUM SQUARE;0|WHITE MEDIUM SMALL SQUARE;0|BLACK MEDIUM SMALL SQUARE
25FF LOWER RIGHT TRIANGLE;0|BLACK SUN WITH RAYS;0|CLOUD;0|UMBRELLA;0|SNOWMAN;0|COMET
2605 BLACK STAR;0|WHITE STAR;0|LIGHTNING;0|THUNDERSTORM;0|SUN;0|ASCENDING NODE
260B DESCENDING NODE;0|CONJUNCTION;0|OPPOSITION;0|BLACK TELEPHONE;0|WHITE TELEPHONE
2610 BALLOT BOX;10| WITH CHECK;16|X;0|SALTIRE;0|UMBRELLA WITH RAIN DROPS;0|HOT BEVERAGE
2616 WHITE SHOGI PIECE;0|BLACK SHOGI PIECE;0|SHAMROCK
2619 REVERSED ROTATED FLORAL HEART BULLET;0|BLACK LEFT POINTING INDEX
261B BLACK RIGHT POINTING INDEX;0|WHITE LEFT POINTING INDEX;6|UP POINTING INDEX
261E WHITE RIGHT POINTING INDEX;6|DOWN POINTING INDEX;0|SKULL AND CROSSBONES
2621 CAUTION SIGN;0|RADIOACTIVE SIGN;0|BIOHAZARD SIGN;0|CADUCEUS;0|ANKH
2626 ORTHODOX CROSS;0|CHI RHO;1|ROSS OF LORRAINE;9|JERUSALEM;0|STAR AND CRESCENT
262B FARSI SYMBOL;0|ADI SHAKTI;0|HAMMER AND SICKLE;0|PEACE SYMBOL;0|YIN YANG
2630 TRIGRAM FOR HEAVEN;12|LAKE;12|FIRE;12|THUNDER;12|WIND;13|ATER;12|MOUNTAIN;12|EARTH
2638 WHEEL OF DHARMA;2|ITE FROWNING FACE;6|SMILING FACE;0|BLACK SMILING FACE
263C WHITE SUN WITH RAYS;0|FIRST QUARTER MOON;0|LAST QUARTER MOON;0|MERCURY
2640 FEMALE SIGN;0|EARTH;0|MALE SIGN;0|JUPITER;0|SATURN;0|URANUS;0|NEPTUNE;0|PLUTO
2648 ARIES;0|TAURUS;0|GEMINI;0|CANCER;0|LEO;0|VIRGO;0|LIBRA;0|SCORPIUS;1|AGITTARIUS
2651 CAPRICORN;0|AQUARIUS;0|PISCES;0|WHITE CHESS KING;12|QUEEN;12|ROOK;12|BISHOP
2658 WHITE CHESS KNIGHT;12|PAWN;0|BLACK CHESS KING;12|QUEEN;12|ROOK;12|BISHOP;12|KNIGHT
265F BLACK CHESS PAWN;6|SPADE SUIT;0|WHITE HEART SUIT;6|DIAMOND SUIT;0|BLACK CLUB SUIT
2664 WHITE SPADE SUIT;0|BLACK HEART SUIT;6|DIAMOND SUIT;0|WHITE CLUB SUIT;0|HOT SPRINGS
2669 QUARTER NOTE;0|EIGHTH NOTE;0|BEAMED EIGHTH NOTES;7|SIXTEENTH NOTES
266D MUSIC FLAT SIGN;6|NATURAL SIGN;6|SHARP SIGN;0|WEST SYRIAC CROSS
2671 EAST SYRIAC CROSS;0|UNIVERSAL RECYCLING SYMBOL
2673 RECYCLING SYMBOL FOR TYPE-1 PLASTICS;26|2 PLASTICS;26|3 PLASTICS;26|4 PLASTICS
2677 RECYCLING SYMBOL FOR TYPE-5 PLASTICS;26|6 PLASTICS;26|7 PLASTICS
267A RECYCLING SYMBOL FOR GENERIC MATERIALS;0|BLACK UNIVERSAL RECYCLING SYMBOL
267C RECYCLED PAPER SYMBOL;0|PARTIALLY-RECYCLED PAPER SYMBOL;1|ERMANENT PAPER SIGN
267F WHEELCHAIR SYMBOL;0|DIE FACE-1;9|2;9|3;9|4;9|5;9|6;0|WHITE CIRCLE WITH DOT RIGHT
2687 WHITE CIRCLE WITH TWO DOTS;0|BLACK CIRCLE WITH WHITE DOT RIGHT;18|TWO WHITE DOTS
268A MONOGRAM FOR YANG;14|IN;0|DIGRAM FOR GREATER YANG;11|LESSER YIN;19|ANG
268F DIGRAM FOR GREATER YIN;0|WHITE FLAG;0|BLACK FLAG;0|HAMMER AND PICK;0|ANCHOR
2694 CROSSED SWORDS;0|STAFF OF AESCULAPIUS;1|CALES;0|ALEMBIC;0|FLOWER;0|GEAR
269A STAFF OF HERMES;0|ATOM SYMBOL;0|FLEUR-DE-LIS;0|OUTLINED WHITE STAR
269E THREE LINES CONVERGING RIGHT;23|LEFT;0|WARNING SIGN;0|HIGH VOLTAGE SIGN
26A2 DOUBLED FEMALE SIGN;8|MALE SIGN;0|INTERLOCKED FEMALE AND MALE SIGN
26A5 MALE AND FEMALE SIGN;5|WITH STROKE SIGN;17|AND MALE AND FEMALE SIGN
26A8 VERTICAL MALE WITH STROKE SIGN;0|HORIZONTAL MALE WITH STROKE SIGN
26AA MEDIUM WHITE CIRCLE;7|BLACK CIRCLE;7|SMALL WHITE CIRCLE;1|ARRIAGE SYMBOL
26AE DIVORCE SYMBOL;0|UNMARRIED PARTNERSHIP SYMBOL;0|COFFIN;0|FUNERAL URN;0|NEUTER
26B3 CERES;0|PALLAS;0|JUNO;0|VESTA;0|CHIRON;0|BLACK MOON LILITH;0|SEXTILE;2|MISEXTILE
26BB QUINCUNX;0|SESQUIQUADRATE;1|OCCER BALL;0|BASEBALL;0|SQUARED KEY
26C0 WHITE DRAUGHTS MAN;15|KING;0|BLACK DRAUGHTS MAN;15|KING;0|SNOWMAN WITHOUT SNOW
26C5 SUN BEHIND CLOUD;0|RAIN;0|BLACK SNOWMAN;0|THUNDER CLOUD AND RAIN
26C9 TURNED WHITE SHOGI PIECE;7|BLACK SHOGI PIECE;0|WHITE DIAMOND IN SQUARE
26CC CROSSING LANES;0|DISABLED CAR;0|OPHIUCHUS;0|PICK;0|CAR SLIDING
26D1 HELMET WITH WHITE CROSS;0|CIRCLED CROSSING LANES;1|HAINS;0|NO ENTRY
26D5 ALTERNATE ONE-WAY LEFT WAY TRAFFIC;0|BLACK TWO-WAY LEFT WAY TRAFFIC
26D7 WHITE TWO-WAY LEFT WAY TRAFFIC;0|BLACK LEFT LANE MERGE;0|WHITE LEFT LANE MERGE
26DA DRIVE SLOW SIGN;0|HEAVY WHITE DOWN-POINTING TRIANGLE;0|LEFT CLOSED ENTRY
26DD SQUARED SALTIRE;0|FALLING DIAGONAL IN WHITE CIRCLE IN BLACK SQUARE;0|BLACK TRUCK
26E0 RESTRICTED LEFT ENTRY-1;22|2;0|ASTRONOMICAL SYMBOL FOR URANUS
26E3 HEAVY CIRCLE WITH STROKE AND TWO DOTS ABOVE;0|PENTAGRAM
26E5 RIGHT-HANDED INTERLACED PENTAGRAM;0|LEFT-HANDED INTERLACED PENTAGRAM
26E7 INVERTED PENTAGRAM;0|BLACK CROSS ON SHIELD;0|SHINTO SHRINE;0|CHURCH;1|ASTLE
26EC HISTORIC SITE;0|GEAR WITHOUT HUB;9| HANDLES;0|MAP SYMBOL FOR LIGHTHOUSE;1|OUNTAIN
26F1 UMBRELLA ON GROUND;0|FOUNTAIN;1|LAG IN HOLE;1|ERRY;0|SAILBOAT;1|QUARE FOUR CORNERS
26F7 SKIER;0|ICE SKATE;0|PERSON WITH BALL;0|TENT;0|JAPANESE BANK SYMBOL
26FC HEADSTONE GRAVEYARD SYMBOL;0|FUEL PUMP;0|CUP ON BLACK SQUARE
26FF WHITE FLAG WITH HORIZONTAL MIDDLE BLACK STRIPE;0|BLACK SAFETY SCISSORS
2701 UPPER BLADE SCISSORS;0|BLACK SCISSORS;0|LOWER BLADE SCISSORS;0|WHITE SCISSORS
2705 WHITE HEAVY CHECK MARK;0|TELEPHONE LOCATION SIGN;1|APE DRIVE;0|AIRPLANE;0|ENVELOPE
270A RAISED FIST;7|HAND;0|VICTORY HAND;0|WRITING HAND;0|LOWER RIGHT PENCIL;0|PENCIL
2710 UPPER RIGHT PENCIL;0|WHITE NIB;0|BLACK NIB;0|CHECK MARK;0|HEAVY CHECK MARK
2715 MULTIPLICATION X;0|HEAVY MULTIPLICATION X;0|BALLOT X;0|HEAVY BALLOT X
2719 OUTLINED GREEK CROSS;0|HEAVY GREEK CROSS;0|OPEN CENTRE CROSS
271C HEAVY OPEN CENTRE CROSS;0|LATIN CROSS;0|SHADOWED WHITE LATIN CROSS
271F OUTLINED LATIN CROSS;0|MALTESE CROSS;0|STAR OF DAVID
2722 FOUR TEARDROP-SPOKED ASTERISK;5|BALLOON-SPOKED ASTERISK
2724 HEAVY FOUR BALLOON-SPOKED ASTERISK;0|FOUR CLUB-SPOKED ASTERISK
2726 BLACK FOUR POINTED STAR;0|WHITE FOUR POINTED STAR;0|SPARKLES
2729 STRESS OUTLINED WHITE STAR;0|CIRCLED WHITE STAR;0|OPEN CENTRE BLACK STAR
272C BLACK CENTRE WHITE STAR;0|OUTLINED BLACK STAR;0|HEAVY OUTLINED BLACK STAR
272F PINWHEEL STAR;0|SHADOWED WHITE STAR;0|HEAVY ASTERISK;0|OPEN CENTRE ASTERISK
2733 EIGHT SPOKED ASTERISK;6|POINTED BLACK STAR;14|PINWHEEL STAR
2736 SIX POINTED BLACK STAR;0|EIGHT POINTED RECTILINEAR BLACK STAR
2738 HEAVY EIGHT POINTED RECTILINEAR BLACK STAR;0|TWELVE POINTED BLACK STAR
273A SIXTEEN POINTED ASTERISK;0|TEARDROP-SPOKED ASTERISK
273C OPEN CENTRE TEARDROP-SPOKED ASTERISK;0|HEAVY TEARDROP-SPOKED ASTERISK
273E SIX PETALLED BLACK AND WHITE FLORETTE;0|BLACK FLORETTE;0|WHITE FLORETTE
2741 EIGHT PETALLED OUTLINED BLACK FLORETTE;0|CIRCLED OPEN CENTRE EIGHT POINTED STAR
2743 HEAVY TEARDROP-SPOKED PINWHEEL ASTERISK;0|SNOWFLAKE;0|TIGHT TRIFOLIATE SNOWFLAKE
2746 HEAVY CHEVRON SNOWFLAKE;0|SPARKLE;0|HEAVY SPARKLE;0|BALLOON-SPOKED ASTERISK
274A EIGHT TEARDROP-SPOKED PROPELLER ASTERISK
274B HEAVY EIGHT TEARDROP-SPOKED PROPELLER ASTERISK;0|CROSS MARK
274D SHADOWED WHITE CIRCLE;0|NEGATIVE SQUARED CROSS MARK
274F LOWER RIGHT DROP-SHADOWED WHITE SQUARE;0|UPPER RIGHT DROP-SHADOWED WHITE SQUARE
2751 LOWER RIGHT SHADOWED WHITE SQUARE;0|UPPER RIGHT SHADOWED WHITE SQUARE
2753 BLACK QUESTION MARK ORNAMENT;0|WHITE QUESTION MARK ORNAMENT
2755 WHITE EXCLAMATION MARK ORNAMENT;0|BLACK DIAMOND MINUS WHITE X
2757 HEAVY EXCLAMATION MARK SYMBOL;0|LIGHT VERTICAL BAR;0|MEDIUM VERTICAL BAR
275A HEAVY VERTICAL BAR;6|SINGLE TURNED COMMA QUOTATION MARK ORNAMENT
275C HEAVY SINGLE COMMA QUOTATION MARK ORNAMENT
275D HEAVY DOUBLE TURNED COMMA QUOTATION MARK ORNAMENT;13|COMMA QUOTATION MARK ORNAMENT
275F HEAVY LOW SINGLE COMMA QUOTATION MARK ORNAMENT
2760 HEAVY LOW DOUBLE COMMA QUOTATION MARK ORNAMENT
2761 CURVED STEM PARAGRAPH SIGN ORNAMENT;0|HEAVY EXCLAMATION MARK ORNAMENT
2763 HEAVY HEART EXCLAMATION MARK ORNAMENT;6|BLACK HEART
2765 ROTATED HEAVY BLACK HEART BULLET;0|FLORAL HEART;0|ROTATED FLORAL HEART BULLET
2768 MEDIUM LEFT PARENTHESIS ORNAMENT;7|RIGHT PARENTHESIS ORNAMENT
276A MEDIUM FLATTENED LEFT PARENTHESIS ORNAMENT;17|RIGHT PARENTHESIS ORNAMENT
276C MEDIUM LEFT-POINTING ANGLE BRACKET ORNAMENT
276D MEDIUM RIGHT-POINTING ANGLE BRACKET ORNAMENT
276E HEAVY LEFT-POINTING ANGLE QUOTATION MARK ORNAMENT
276F HEAVY RIGHT-POINTING ANGLE QUOTATION MARK ORNAMENT
2770 HEAVY LEFT-POINTING ANGLE BRACKET ORNAMENT;6|RIGHT-POINTING ANGLE BRACKET ORNAMENT
2772 LIGHT LEFT TORTOISE SHELL BRACKET ORNAMENT;6|RIGHT TORTOISE SHELL BRACKET ORNAMENT
2774 MEDIUM LEFT CURLY BRACKET ORNAMENT;7|RIGHT CURLY BRACKET ORNAMENT
2776 DINGBAT NEGATIVE CIRCLED DIGIT ONE;31|TWO;32|HREE;31|FOUR;32|IVE;31|SIX;32|EVEN
277D DINGBAT NEGATIVE CIRCLED DIGIT EIGHT;31|NINE;25|NUMBER TEN
2780 DINGBAT CIRCLED SANS-SERIF DIGIT ONE;33|TWO;34|HREE;33|FOUR;34|IVE;33|SIX;34|EVEN
2787 DINGBAT CIRCLED SANS-SERIF DIGIT EIGHT;33|NINE;27|NUMBER TEN
278A DINGBAT NEGATIVE CIRCLED SANS-SERIF DIGIT ONE;42|TWO;43|HREE;42|FOUR;43|IVE;42|SIX
2790 DINGBAT NEGATIVE CIRCLED SANS-SERIF DIGIT SEVEN;42|EIGHT;42|NINE;36|NUMBER TEN
2794 HEAVY WIDE-HEADED RIGHTWARDS ARROW;6|PLUS SIGN;6|MINUS SIGN;6|DIVISION SIGN
2798 HEAVY SOUTH EAST ARROW;6|RIGHTWARDS ARROW;6|NORTH EAST ARROW
279B DRAFTING POINT RIGHTWARDS ARROW;0|HEAVY ROUND-TIPPED RIGHTWARDS ARROW
279D TRIANGLE-HEADED RIGHTWARDS ARROW;0|HEAVY TRIANGLE-HEADED RIGHTWARDS ARROW
279F DASHED TRIANGLE-HEADED RIGHTWARDS ARROW
27A0 HEAVY DASHED TRIANGLE-HEADED RIGHTWARDS ARROW;0|BLACK RIGHTWARDS ARROW
27A2 THREE-D TOP-LIGHTED RIGHTWARDS ARROWHEAD;8|BOTTOM-LIGHTED RIGHTWARDS ARROWHEAD
27A4 BLACK RIGHTWARDS ARROWHEAD;0|HEAVY BLACK CURVED DOWNWARDS AND RIGHTWARDS ARROW
27A6 HEAVY BLACK CURVED UPWARDS AND RIGHTWARDS ARROW;0|SQUAT BLACK RIGHTWARDS ARROW
27A8 HEAVY CONCAVE-POINTED BLACK RIGHTWARDS ARROW;0|RIGHT-SHADED WHITE RIGHTWARDS ARROW
27AA LEFT-SHADED WHITE RIGHTWARDS ARROW;0|BACK-TILTED SHADOWED WHITE RIGHTWARDS ARROW
27AC FRONT-TILTED SHADOWED WHITE RIGHTWARDS ARROW
27AD HEAVY LOWER RIGHT-SHADOWED WHITE RIGHTWARDS ARROW
27AE HEAVY UPPER RIGHT-SHADOWED WHITE RIGHTWARDS ARROW
27AF NOTCHED LOWER RIGHT-SHADOWED WHITE RIGHTWARDS ARROW;0|CURLY LOOP
27B1 NOTCHED UPPER RIGHT-SHADOWED WHITE RIGHTWARDS ARROW
27B2 CIRCLED HEAVY WHITE RIGHTWARDS ARROW;0|WHITE-FEATHERED RIGHTWARDS ARROW
27B4 BLACK-FEATHERED SOUTH EAST ARROW;16|RIGHTWARDS ARROW;16|NORTH EAST ARROW
27B7 HEAVY BLACK-FEATHERED SOUTH EAST ARROW;22|RIGHTWARDS ARROW;22|NORTH EAST ARROW
27BA TEARDROP-BARBED RIGHTWARDS ARROW;0|HEAVY TEARDROP-SHANKED RIGHTWARDS ARROW
27BC WEDGE-TAILED RIGHTWARDS ARROW;0|HEAVY WEDGE-TAILED RIGHTWARDS ARROW
27BE OPEN-OUTLINED RIGHTWARDS ARROW;0|DOUBLE CURLY LOOP;0|THREE DIMENSIONAL ANGLE
27C1 WHITE TRIANGLE CONTAINING SMALL WHITE TRIANGLE;0|PERPENDICULAR;0|OPEN SUBSET
27C4 OPEN SUPERSET;0|LEFT S-SHAPED BAG DELIMITER;0|RIGHT S-SHAPED BAG DELIMITER
27C7 OR WITH DOT INSIDE;0|REVERSE SOLIDUS PRECEDING SUBSET;0|SUPERSET PRECEDING SOLIDUS
27CA VERTICAL BAR WITH HORIZONTAL STROKE;0|MATHEMATICAL RISING DIAGONAL;0|LONG DIVISION
27CD MATHEMATICAL FALLING DIAGONAL;0|SQUARED LOGICAL AND;16|OR
27D0 WHITE DIAMOND WITH CENTRED DOT;0|AND WITH DOT;0|ELEMENT OF OPENING UPWARDS
27D3 LOWER RIGHT CORNER WITH DOT;0|UPPER LEFT CORNER WITH DOT;0|LEFT OUTER JOIN
27D6 RIGHT OUTER JOIN;0|FULL OUTER JOIN;0|LARGE UP TACK;6|DOWN TACK
27DA LEFT AND RIGHT DOUBLE TURNSTILE;15|TACK;5|MULTIMAP;1|ONG RIGHT TACK;5|LEFT TACK
27DF UP TACK WITH CIRCLE ABOVE;0|LOZENGE DIVIDED BY HORIZONTAL RULE
27E1 WHITE CONCAVE-SIDED DIAMOND;27| WITH LEFTWARDS TICK;33|RIGHTWARDS TICK
27E4 WHITE SQUARE WITH LEFTWARDS TICK;18|RIGHTWARDS TICK
27E6 MATHEMATICAL LEFT WHITE SQUARE BRACKET;13|RIGHT WHITE SQUARE BRACKET
27E8 MATHEMATICAL LEFT ANGLE BRACKET;13|RIGHT ANGLE BRACKET
27EA MATHEMATICAL LEFT DOUBLE ANGLE BRACKET;13|RIGHT DOUBLE ANGLE BRACKET
27EC MATHEMATICAL LEFT WHITE TORTOISE SHELL BRACKET
27ED MATHEMATICAL RIGHT WHITE TORTOISE SHELL BRACKET;13|LEFT FLATTENED PARENTHESIS
27EF MATHEMATICAL RIGHT FLATTENED PARENTHESIS;0|UPWARDS QUADRUPLE ARROW
27F1 DOWNWARDS QUADRUPLE ARROW;0|ANTICLOCKWISE GAPPED CIRCLE ARROW
27F3 CLOCKWISE GAPPED CIRCLE ARROW;0|RIGHT ARROW WITH CIRCLED PLUS
27F5 LONG LEFTWARDS ARROW;5|RIGHTWARDS ARROW;5|LEFT RIGHT ARROW;9|WARDS DOUBLE ARROW
27F9 LONG RIGHTWARDS DOUBLE ARROW;5|LEFT RIGHT DOUBLE ARROW;9|WARDS ARROW FROM BAR
27FC LONG RIGHTWARDS ARROW FROM BAR;5|LEFTWARDS DOUBLE ARROW FROM BAR
27FE LONG RIGHTWARDS DOUBLE ARROW FROM BAR;16|SQUIGGLE ARROW
2900 RIGHTWARDS TWO-HEADED ARROW WITH VERTICAL STROKE;33|DOUBLE VERTICAL STROKE
2902 LEFTWARDS DOUBLE ARROW WITH VERTICAL STROKE
2903 RIGHTWARDS DOUBLE ARROW WITH VERTICAL STROKE
2904 LEFT RIGHT DOUBLE ARROW WITH VERTICAL STROKE
2905 RIGHTWARDS TWO-HEADED ARROW FROM BAR;0|LEFTWARDS DOUBLE ARROW FROM BAR
2907 RIGHTWARDS DOUBLE ARROW FROM BAR;0|DOWNWARDS ARROW WITH HORIZONTAL STROKE
2909 UPWARDS ARROW WITH HORIZONTAL STROKE;8|TRIPLE ARROW;0|DOWNWARDS TRIPLE ARROW
290C LEFTWARDS DOUBLE DASH ARROW;0|RIGHTWARDS DOUBLE DASH ARROW
290E LEFTWARDS TRIPLE DASH ARROW;0|RIGHTWARDS TRIPLE DASH ARROW
2910 RIGHTWARDS TWO-HEADED TRIPLE DASH ARROW;11|ARROW WITH DOTTED STEM
2912 UPWARDS ARROW TO BAR;0|DOWNWARDS ARROW TO BAR
2914 RIGHTWARDS ARROW WITH TAIL WITH VERTICAL STROKE;32|DOUBLE VERTICAL STROKE
2916 RIGHTWARDS TWO-HEADED ARROW WITH TAIL;37| WITH VERTICAL STROKE
2918 RIGHTWARDS TWO-HEADED ARROW WITH TAIL WITH DOUBLE VERTICAL STROKE
2919 LEFTWARDS ARROW-TAIL;0|RIGHTWARDS ARROW-TAIL;0|LEFTWARDS DOUBLE ARROW-TAIL
291C RIGHTWARDS DOUBLE ARROW-TAIL;0|LEFTWARDS ARROW TO BLACK DIAMOND
291E RIGHTWARDS ARROW TO BLACK DIAMOND;0|LEFTWARDS ARROW FROM BAR TO BLACK DIAMOND
2920 RIGHTWARDS ARROW FROM BAR TO BLACK DIAMOND;0|NORTH WEST AND SOUTH EAST ARROW
2922 NORTH EAST AND SOUTH WEST ARROW;6|WEST ARROW WITH HOOK;6|EAST ARROW WITH HOOK
2925 SOUTH EAST ARROW WITH HOOK;6|WEST ARROW WITH HOOK
2927 NORTH WEST ARROW AND NORTH EAST ARROW;6|EAST ARROW AND SOUTH EAST ARROW
2929 SOUTH EAST ARROW AND SOUTH WEST ARROW;6|WEST ARROW AND NORTH WEST ARROW
292B RISING DIAGONAL CROSSING FALLING DIAGONAL
292C FALLING DIAGONAL CROSSING RISING DIAGONAL
292D SOUTH EAST ARROW CROSSING NORTH EAST ARROW
292E NORTH EAST ARROW CROSSING SOUTH EAST ARROW
292F FALLING DIAGONAL CROSSING NORTH EAST ARROW
2930 RISING DIAGONAL CROSSING SOUTH EAST ARROW
2931 NORTH EAST ARROW CROSSING NORTH WEST ARROW;6|WEST ARROW CROSSING NORTH EAST ARROW
2933 WAVE ARROW POINTING DIRECTLY RIGHT
2934 ARROW POINTING RIGHTWARDS THEN CURVING UPWARDS;39|DOWNWARDS
2936 ARROW POINTING DOWNWARDS THEN CURVING LEFTWARDS;38|RIGHTWARDS
2938 RIGHT-SIDE ARC CLOCKWISE ARROW;0|LEFT-SIDE ARC ANTICLOCKWISE ARROW
293A TOP ARC ANTICLOCKWISE ARROW;0|BOTTOM ARC ANTICLOCKWISE ARROW
293C TOP ARC CLOCKWISE ARROW WITH MINUS;8|ANTICLOCKWISE ARROW WITH PLUS
293E LOWER RIGHT SEMICIRCULAR CLOCKWISE ARROW;6|LEFT SEMICIRCULAR ANTICLOCKWISE ARROW
2940 ANTICLOCKWISE CLOSED CIRCLE ARROW;0|CLOCKWISE CLOSED CIRCLE ARROW
2942 RIGHTWARDS ARROW ABOVE SHORT LEFTWARDS ARROW
2943 LEFTWARDS ARROW ABOVE SHORT RIGHTWARDS ARROW
2944 SHORT RIGHTWARDS ARROW ABOVE LEFTWARDS ARROW;0|RIGHTWARDS ARROW WITH PLUS BELOW
2946 LEFTWARDS ARROW WITH PLUS BELOW;0|RIGHTWARDS ARROW THROUGH X
2948 LEFT RIGHT ARROW THROUGH SMALL CIRCLE;0|UPWARDS TWO-HEADED ARROW FROM SMALL CIRCLE
294A LEFT BARB UP RIGHT BARB DOWN HARPOON;10|DOWN RIGHT BARB UP HARPOON
294C UP BARB RIGHT DOWN BARB LEFT HARPOON;8|LEFT DOWN BARB RIGHT HARPOON
294E LEFT BARB UP RIGHT BARB UP HARPOON;0|UP BARB RIGHT DOWN BARB RIGHT HARPOON
2950 LEFT BARB DOWN RIGHT BARB DOWN HARPOON;0|UP BARB LEFT DOWN BARB LEFT HARPOON
2952 LEFTWARDS HARPOON WITH BARB UP TO BAR;0|RIGHTWARDS HARPOON WITH BARB UP TO BAR
2954 UPWARDS HARPOON WITH BARB RIGHT TO BAR;0|DOWNWARDS HARPOON WITH BARB RIGHT TO BAR
2956 LEFTWARDS HARPOON WITH BARB DOWN TO BAR;0|RIGHTWARDS HARPOON WITH BARB DOWN TO BAR
2958 UPWARDS HARPOON WITH BARB LEFT TO BAR;0|DOWNWARDS HARPOON WITH BARB LEFT TO BAR
295A LEFTWARDS HARPOON WITH BARB UP FROM BAR;0|RIGHTWARDS HARPOON WITH BARB UP FROM BAR
295C UPWARDS HARPOON WITH BARB RIGHT FROM BAR
295D DOWNWARDS HARPOON WITH BARB RIGHT FROM BAR
295E LEFTWARDS HARPOON WITH BARB DOWN FROM BAR
295F RIGHTWARDS HARPOON WITH BARB DOWN FROM BAR
2960 UPWARDS HARPOON WITH BARB LEFT FROM BAR
2961 DOWNWARDS HARPOON WITH BARB LEFT FROM BAR
2962 LEFTWARDS HARPOON WITH BARB UP ABOVE LEFTWARDS HARPOON WITH BARB DOWN
2963 UPWARDS HARPOON WITH BARB LEFT BESIDE UPWARDS HARPOON WITH BARB RIGHT
2964 RIGHTWARDS HARPOON WITH BARB UP ABOVE RIGHTWARDS HARPOON WITH BARB DOWN
2965 DOWNWARDS HARPOON WITH BARB LEFT BESIDE DOWNWARDS HARPOON WITH BARB RIGHT
2966 LEFTWARDS HARPOON WITH BARB UP ABOVE RIGHTWARDS HARPOON WITH BARB UP
2967 LEFTWARDS HARPOON WITH BARB DOWN ABOVE RIGHTWARDS HARPOON WITH BARB DOWN
2968 RIGHTWARDS HARPOON WITH BARB UP ABOVE LEFTWARDS HARPOON WITH BARB UP
2969 RIGHTWARDS HARPOON WITH BARB DOWN ABOVE LEFTWARDS HARPOON WITH BARB DOWN
296A LEFTWARDS HARPOON WITH BARB UP ABOVE LONG DASH;28|DOWN BELOW LONG DASH
296C RIGHTWARDS HARPOON WITH BARB UP ABOVE LONG DASH;29|DOWN BELOW LONG DASH
296E UPWARDS HARPOON WITH BARB LEFT BESIDE DOWNWARDS HARPOON WITH BARB RIGHT
296F DOWNWARDS HARPOON WITH BARB LEFT BESIDE UPWARDS HARPOON WITH BARB RIGHT
2970 RIGHT DOUBLE ARROW WITH ROUNDED HEAD;0|EQUALS SIGN ABOVE RIGHTWARDS ARROW
2972 TILDE OPERATOR ABOVE RIGHTWARDS ARROW;0|LEFTWARDS ARROW ABOVE TILDE OPERATOR
2974 RIGHTWARDS ARROW ABOVE TILDE OPERATOR;23|ALMOST EQUAL TO
2976 LESS-THAN ABOVE LEFTWARDS ARROW;2|FTWARDS ARROW THROUGH LESS-THAN
2978 GREATER-THAN ABOVE RIGHTWARDS ARROW;0|SUBSET ABOVE RIGHTWARDS ARROW
297A LEFTWARDS ARROW THROUGH SUBSET;0|SUPERSET ABOVE LEFTWARDS ARROW;0|LEFT FISH TAIL
297D RIGHT FISH TAIL;0|UP FISH TAIL;0|DOWN FISH TAIL;0|TRIPLE VERTICAL BAR DELIMITER
2981 Z NOTATION SPOT;11|TYPE COLON;0|LEFT WHITE CURLY BRACKET
2984 RIGHT WHITE CURLY BRACKET;0|LEFT WHITE PARENTHESIS;0|RIGHT WHITE PARENTHESIS
2987 Z NOTATION LEFT IMAGE BRACKET;11|RIGHT IMAGE BRACKET;11|LEFT BINDING BRACKET
298A Z NOTATION RIGHT BINDING BRACKET;0|LEFT SQUARE BRACKET WITH UNDERBAR
298C RIGHT SQUARE BRACKET WITH UNDERBAR;0|LEFT SQUARE BRACKET WITH TICK IN TOP CORNER
298E RIGHT SQUARE BRACKET WITH TICK IN BOTTOM CORNER
298F LEFT SQUARE BRACKET WITH TICK IN BOTTOM CORNER
2990 RIGHT SQUARE BRACKET WITH TICK IN TOP CORNER;0|LEFT ANGLE BRACKET WITH DOT
2992 RIGHT ANGLE BRACKET WITH DOT;0|LEFT ARC LESS-THAN BRACKET
2994 RIGHT ARC GREATER-THAN BRACKET;0|DOUBLE LEFT ARC GREATER-THAN BRACKET
2996 DOUBLE RIGHT ARC LESS-THAN BRACKET;0|LEFT BLACK TORTOISE SHELL BRACKET
2998 RIGHT BLACK TORTOISE SHELL BRACKET;0|DOTTED FENCE;0|VERTICAL ZIGZAG LINE
299B MEASURED ANGLE OPENING LEFT;0|RIGHT ANGLE VARIANT WITH SQUARE
299D MEASURED RIGHT ANGLE WITH DOT;0|ANGLE WITH S INSIDE;1|CUTE ANGLE
29A0 SPHERICAL ANGLE OPENING LEFT;24|UP;0|TURNED ANGLE;0|REVERSED ANGLE
29A4 ANGLE WITH UNDERBAR;0|REVERSED ANGLE WITH UNDERBAR;0|OBLIQUE ANGLE OPENING UP
29A7 OBLIQUE ANGLE OPENING DOWN
29A8 MEASURED ANGLE WITH OPEN ARM ENDING IN ARROW POINTING UP AND RIGHT;61|LEFT
29AA MEASURED ANGLE WITH OPEN ARM ENDING IN ARROW POINTING DOWN AND RIGHT;63|LEFT
29AC MEASURED ANGLE WITH OPEN ARM ENDING IN ARROW POINTING RIGHT AND UP;54|LEFT AND UP
29AE MEASURED ANGLE WITH OPEN ARM ENDING IN ARROW POINTING RIGHT AND DOWN
29AF MEASURED ANGLE WITH OPEN ARM ENDING IN ARROW POINTING LEFT AND DOWN
29B0 REVERSED EMPTY SET;0|EMPTY SET WITH OVERBAR;15|SMALL CIRCLE ABOVE
29B3 EMPTY SET WITH RIGHT ARROW ABOVE;15|LEFT ARROW ABOVE;0|CIRCLE WITH HORIZONTAL BAR
29B6 CIRCLED VERTICAL BAR;8|PARALLEL;8|REVERSE SOLIDUS;8|PERPENDICULAR
29BA CIRCLE DIVIDED BY HORIZONTAL BAR AND TOP HALF DIVIDED BY VERTICAL BAR
29BB CIRCLE WITH SUPERIMPOSED X;6|D ANTICLOCKWISE-ROTATED DIVISION SIGN
29BD UP ARROW THROUGH CIRCLE;0|CIRCLED WHITE BULLET;8|BULLET;8|LESS-THAN;8|GREATER-THAN
29C2 CIRCLE WITH SMALL CIRCLE TO THE RIGHT;12|TWO HORIZONTAL STROKES TO THE RIGHT
29C4 SQUARED RISING DIAGONAL SLASH;8|FALLING DIAGONAL SLASH;8|ASTERISK;8|SMALL CIRCLE
29C8 SQUARED SQUARE;0|TWO JOINED SQUARES;1|RIANGLE WITH DOT ABOVE;14|UNDERBAR
29CC S IN TRIANGLE;0|TRIANGLE WITH SERIFS AT BOTTOM
29CE RIGHT TRIANGLE ABOVE LEFT TRIANGLE;0|LEFT TRIANGLE BESIDE VERTICAL BAR
29D0 VERTICAL BAR BESIDE RIGHT TRIANGLE;0|BOWTIE WITH LEFT HALF BLACK
29D2 BOWTIE WITH RIGHT HALF BLACK;1|LACK BOWTIE;0|TIMES WITH LEFT HALF BLACK
29D5 TIMES WITH RIGHT HALF BLACK;0|WHITE HOURGLASS;0|BLACK HOURGLASS
29D8 LEFT WIGGLY FENCE;0|RIGHT WIGGLY FENCE;0|LEFT DOUBLE WIGGLY FENCE
29DB RIGHT DOUBLE WIGGLY FENCE;0|INCOMPLETE INFINITY;0|TIE OVER INFINITY
29DE INFINITY NEGATED WITH VERTICAL BAR;0|DOUBLE-ENDED MULTIMAP
29E0 SQUARE WITH CONTOURED OUTLINE;0|INCREASES AS;0|SHUFFLE PRODUCT
29E3 EQUALS SIGN AND SLANTED PARALLEL;32| WITH TILDE ABOVE
29E5 IDENTICAL TO AND SLANTED PARALLEL;0|GLEICH STARK;0|THERMODYNAMIC
29E8 DOWN-POINTING TRIANGLE WITH LEFT HALF BLACK;28|RIGHT HALF BLACK
29EA BLACK DIAMOND WITH DOWN ARROW;6|LOZENGE;0|WHITE CIRCLE WITH DOWN ARROW
29ED BLACK CIRCLE WITH DOWN ARROW;0|ERROR-BARRED WHITE SQUARE;13|BLACK SQUARE
29F0 ERROR-BARRED WHITE DIAMOND;13|BLACK DIAMOND;13|WHITE CIRCLE;13|BLACK CIRCLE
29F4 RULE-DELAYED;1|EVERSE SOLIDUS OPERATOR;0|SOLIDUS WITH OVERBAR
29F7 REVERSE SOLIDUS WITH HORIZONTAL STROKE;0|BIG SOLIDUS;4|REVERSE SOLIDUS
29FA DOUBLE PLUS;0|TRIPLE PLUS;0|LEFT-POINTING CURVED ANGLE BRACKET
29FD RIGHT-POINTING CURVED ANGLE BRACKET;0|TINY;0|MINY;0|N-ARY CIRCLED DOT OPERATOR
2A01 N-ARY CIRCLED PLUS OPERATOR;14|TIMES OPERATOR;6|UNION OPERATOR WITH DOT;26|PLUS
2A05 N-ARY SQUARE INTERSECTION OPERATOR;13|UNION OPERATOR;0|TWO LOGICAL AND OPERATOR
2A08 TWO LOGICAL OR OPERATOR;0|N-ARY TIMES OPERATOR;0|MODULO TWO SUM
2A0B SUMMATION WITH INTEGRAL;0|QUADRUPLE INTEGRAL OPERATOR;0|FINITE PART INTEGRAL
2A0E INTEGRAL WITH DOUBLE STROKE;9|AVERAGE WITH SLASH;0|CIRCULATION FUNCTION
2A11 ANTICLOCKWISE INTEGRATION;0|LINE INTEGRATION WITH RECTANGULAR PATH AROUND POLE
2A13 LINE INTEGRATION WITH SEMICIRCULAR PATH AROUND POLE;17|NOT INCLUDING THE POLE
2A15 INTEGRAL AROUND A POINT OPERATOR;0|QUATERNION INTEGRAL OPERATOR
2A17 INTEGRAL WITH LEFTWARDS ARROW WITH HOOK;14|TIMES SIGN;14|INTERSECTION;14|UNION
2A1B INTEGRAL WITH OVERBAR;14|UNDERBAR;0|JOIN;0|LARGE LEFT TRIANGLE OPERATOR
2A1F Z NOTATION SCHEMA COMPOSITION;18|PIPING;19|ROJECTION
2A22 PLUS SIGN WITH SMALL CIRCLE ABOVE;15|CIRCUMFLEX ACCENT ABOVE;15|TILDE ABOVE
2A25 PLUS SIGN WITH DOT BELOW;15|TILDE BELOW;15|SUBSCRIPT TWO;15|BLACK TRIANGLE
2A29 MINUS SIGN WITH COMMA ABOVE;16|DOT BELOW;16|FALLING DOTS;16|RISING DOTS
2A2D PLUS SIGN IN LEFT HALF CIRCLE;13|RIGHT HALF CIRCLE;0|VECTOR OR CROSS PRODUCT
2A30 MULTIPLICATION SIGN WITH DOT ABOVE;25|UNDERBAR
2A32 SEMIDIRECT PRODUCT WITH BOTTOM CLOSED;1|MASH PRODUCT
2A34 MULTIPLICATION SIGN IN LEFT HALF CIRCLE;23|RIGHT HALF CIRCLE
2A36 CIRCLED MULTIPLICATION SIGN WITH CIRCUMFLEX ACCENT
2A37 MULTIPLICATION SIGN IN DOUBLE CIRCLE;0|CIRCLED DIVISION SIGN
2A39 PLUS SIGN IN TRIANGLE;0|MINUS SIGN IN TRIANGLE;1|ULTIPLICATION SIGN IN TRIANGLE
2A3C INTERIOR PRODUCT;0|RIGHTHAND INTERIOR PRODUCT;0|Z NOTATION RELATIONAL COMPOSITION
2A3F AMALGAMATION OR COPRODUCT;0|INTERSECTION WITH DOT;0|UNION WITH MINUS SIGN
2A42 UNION WITH OVERBAR;0|INTERSECTION WITH OVERBAR;18|LOGICAL AND
2A45 UNION WITH LOGICAL OR;6|ABOVE INTERSECTION;0|INTERSECTION ABOVE UNION
2A48 UNION ABOVE BAR ABOVE INTERSECTION;0|INTERSECTION ABOVE BAR ABOVE UNION
2A4A UNION BESIDE AND JOINED WITH UNION
2A4B INTERSECTION BESIDE AND JOINED WITH INTERSECTION;0|CLOSED UNION WITH SERIFS
2A4D CLOSED INTERSECTION WITH SERIFS;0|DOUBLE SQUARE INTERSECTION;14|UNION
2A50 CLOSED UNION WITH SERIFS AND SMASH PRODUCT;0|LOGICAL AND WITH DOT ABOVE
2A52 LOGICAL OR WITH DOT ABOVE;0|DOUBLE LOGICAL AND;15|OR
2A55 TWO INTERSECTING LOGICAL AND;25|OR;0|SLOPING LARGE OR;14|AND
2A59 LOGICAL OR OVERLAPPING LOGICAL AND;8|AND WITH MIDDLE STEM;8|OR WITH MIDDLE STEM
2A5C LOGICAL AND WITH HORIZONTAL DASH;8|OR WITH HORIZONTAL DASH
2A5E LOGICAL AND WITH DOUBLE OVERBAR;17|UNDERBAR;17|DOUBLE UNDERBAR
2A61 SMALL VEE WITH UNDERBAR;0|LOGICAL OR WITH DOUBLE OVERBAR;23|UNDERBAR
2A64 Z NOTATION DOMAIN ANTIRESTRICTION;11|RANGE ANTIRESTRICTION
2A66 EQUALS SIGN WITH DOT BELOW;0|IDENTICAL WITH DOT ABOVE
2A68 TRIPLE HORIZONTAL BAR WITH DOUBLE VERTICAL STROKE;27|TRIPLE VERTICAL STROKE
2A6A TILDE OPERATOR WITH DOT ABOVE;20|RISING DOTS;0|SIMILAR MINUS SIMILAR
2A6D CONGRUENT WITH DOT ABOVE;0|EQUALS WITH ASTERISK
2A6F ALMOST EQUAL TO WITH CIRCUMFLEX ACCENT;1|PPROXIMATELY EQUAL OR EQUAL TO
2A71 EQUALS SIGN ABOVE PLUS SIGN;0|PLUS SIGN ABOVE EQUALS SIGN
2A73 EQUALS SIGN ABOVE TILDE OPERATOR;0|DOUBLE COLON EQUAL
2A75 TWO CONSECUTIVE EQUALS SIGNS;1|HREE CONSECUTIVE EQUALS SIGNS
2A77 EQUALS SIGN WITH TWO DOTS ABOVE AND TWO DOTS BELOW;3|IVALENT WITH FOUR DOTS ABOVE
2A79 LESS-THAN WITH CIRCLE INSIDE;0|GREATER-THAN WITH CIRCLE INSIDE
2A7B LESS-THAN WITH QUESTION MARK ABOVE;0|GREATER-THAN WITH QUESTION MARK ABOVE
2A7D LESS-THAN OR SLANTED EQUAL TO;0|GREATER-THAN OR SLANTED EQUAL TO
2A7F LESS-THAN OR SLANTED EQUAL TO WITH DOT INSIDE
2A80 GREATER-THAN OR SLANTED EQUAL TO WITH DOT INSIDE
2A81 LESS-THAN OR SLANTED EQUAL TO WITH DOT ABOVE
2A82 GREATER-THAN OR SLANTED EQUAL TO WITH DOT ABOVE
2A83 LESS-THAN OR SLANTED EQUAL TO WITH DOT ABOVE RIGHT
2A84 GREATER-THAN OR SLANTED EQUAL TO WITH DOT ABOVE LEFT;0|LESS-THAN OR APPROXIMATE
2A86 GREATER-THAN OR APPROXIMATE;0|LESS-THAN AND SINGLE-LINE NOT EQUAL TO
2A88 GREATER-THAN AND SINGLE-LINE NOT EQUAL TO;0|LESS-THAN AND NOT APPROXIMATE
2A8A GREATER-THAN AND NOT APPROXIMATE
2A8B LESS-THAN ABOVE DOUBLE-LINE EQUAL ABOVE GREATER-THAN
2A8C GREATER-THAN ABOVE DOUBLE-LINE EQUAL ABOVE LESS-THAN
2A8D LESS-THAN ABOVE SIMILAR OR EQUAL;0|GREATER-THAN ABOVE SIMILAR OR EQUAL
2A8F LESS-THAN ABOVE SIMILAR ABOVE GREATER-THAN
2A90 GREATER-THAN ABOVE SIMILAR ABOVE LESS-THAN
2A91 LESS-THAN ABOVE GREATER-THAN ABOVE DOUBLE-LINE EQUAL
2A92 GREATER-THAN ABOVE LESS-THAN ABOVE DOUBLE-LINE EQUAL
2A93 LESS-THAN ABOVE SLANTED EQUAL ABOVE GREATER-THAN ABOVE SLANTED EQUAL
2A94 GREATER-THAN ABOVE SLANTED EQUAL ABOVE LESS-THAN ABOVE SLANTED EQUAL
2A95 SLANTED EQUAL TO OR LESS-THAN;20|GREATER-THAN;20|LESS-THAN WITH DOT INSIDE
2A98 SLANTED EQUAL TO OR GREATER-THAN WITH DOT INSIDE
2A99 DOUBLE-LINE EQUAL TO OR LESS-THAN;24|GREATER-THAN;12|SLANTED EQUAL TO OR LESS-THAN
2A9C DOUBLE-LINE SLANTED EQUAL TO OR GREATER-THAN;0|SIMILAR OR LESS-THAN
2A9E SIMILAR OR GREATER-THAN;8|ABOVE LESS-THAN ABOVE EQUALS SIGN
2AA0 SIMILAR ABOVE GREATER-THAN ABOVE EQUALS SIGN;0|DOUBLE NESTED LESS-THAN
2AA2 DOUBLE NESTED GREATER-THAN;14|LESS-THAN WITH UNDERBAR
2AA4 GREATER-THAN OVERLAPPING LESS-THAN;13|BESIDE LESS-THAN;0|LESS-THAN CLOSED BY CURVE
2AA7 GREATER-THAN CLOSED BY CURVE;0|LESS-THAN CLOSED BY CURVE ABOVE SLANTED EQUAL
2AA9 GREATER-THAN CLOSED BY CURVE ABOVE SLANTED EQUAL;0|SMALLER THAN;0|LARGER THAN
2AAC SMALLER THAN OR EQUAL TO;0|LARGER THAN OR EQUAL TO;0|EQUALS SIGN WITH BUMPY ABOVE
2AAF PRECEDES ABOVE SINGLE-LINE EQUALS SIGN;0|SUCCEEDS ABOVE SINGLE-LINE EQUALS SIGN
2AB1 PRECEDES ABOVE SINGLE-LINE NOT EQUAL TO;0|SUCCEEDS ABOVE SINGLE-LINE NOT EQUAL TO
2AB3 PRECEDES ABOVE EQUALS SIGN;0|SUCCEEDS ABOVE EQUALS SIGN
2AB5 PRECEDES ABOVE NOT EQUAL TO;0|SUCCEEDS ABOVE NOT EQUAL TO
2AB7 PRECEDES ABOVE ALMOST EQUAL TO;0|SUCCEEDS ABOVE ALMOST EQUAL TO
2AB9 PRECEDES ABOVE NOT ALMOST EQUAL TO;0|SUCCEEDS ABOVE NOT ALMOST EQUAL TO
2ABB DOUBLE PRECEDES;7|SUCCEEDS;0|SUBSET WITH DOT;2|PERSET WITH DOT
2ABF SUBSET WITH PLUS SIGN BELOW;2|PERSET WITH PLUS SIGN BELOW
2AC1 SUBSET WITH MULTIPLICATION SIGN BELOW;2|PERSET WITH MULTIPLICATION SIGN BELOW
2AC3 SUBSET OF OR EQUAL TO WITH DOT ABOVE;2|PERSET OF OR EQUAL TO WITH DOT ABOVE
2AC5 SUBSET OF ABOVE EQUALS SIGN;2|PERSET OF ABOVE EQUALS SIGN
2AC7 SUBSET OF ABOVE TILDE OPERATOR;2|PERSET OF ABOVE TILDE OPERATOR
2AC9 SUBSET OF ABOVE ALMOST EQUAL TO;2|PERSET OF ABOVE ALMOST EQUAL TO
2ACB SUBSET OF ABOVE NOT EQUAL TO;2|PERSET OF ABOVE NOT EQUAL TO
2ACD SQUARE LEFT OPEN BOX OPERATOR;7|RIGHT OPEN BOX OPERATOR;0|CLOSED SUBSET;9|PERSET
2AD1 CLOSED SUBSET OR EQUAL TO;9|PERSET OR EQUAL TO;0|SUBSET ABOVE SUPERSET
2AD4 SUPERSET ABOVE SUBSET;2|BSET ABOVE SUBSET;2|PERSET ABOVE SUPERSET;9|BESIDE SUBSET
2AD8 SUPERSET BESIDE AND JOINED BY DASH WITH SUBSET;0|ELEMENT OF OPENING DOWNWARDS
2ADA PITCHFORK WITH TEE TOP;0|TRANSVERSAL INTERSECTION;0|FORKING;0|NONFORKING
2ADE SHORT LEFT TACK;6|DOWN TACK;6|UP TACK;0|PERPENDICULAR WITH S
2AE2 VERTICAL BAR TRIPLE RIGHT TURNSTILE;0|DOUBLE VERTICAL BAR LEFT TURNSTILE
2AE4 VERTICAL BAR DOUBLE LEFT TURNSTILE;0|DOUBLE VERTICAL BAR DOUBLE LEFT TURNSTILE
2AE6 LONG DASH FROM LEFT MEMBER OF DOUBLE VERTICAL;0|SHORT DOWN TACK WITH OVERBAR
2AE8 SHORT UP TACK WITH UNDERBAR;14|ABOVE SHORT DOWN TACK;0|DOUBLE DOWN TACK;7|UP TACK
2AEC DOUBLE STROKE NOT SIGN;0|REVERSED DOUBLE STROKE NOT SIGN
2AEE DOES NOT DIVIDE WITH REVERSED NEGATION SLASH;0|VERTICAL LINE WITH CIRCLE ABOVE
2AF0 VERTICAL LINE WITH CIRCLE BELOW;0|DOWN TACK WITH CIRCLE BELOW
2AF2 PARALLEL WITH HORIZONTAL STROKE;14|TILDE OPERATOR
2AF4 TRIPLE VERTICAL BAR BINARY RELATION;20|WITH HORIZONTAL STROKE;7|COLON OPERATOR
2AF7 TRIPLE NESTED LESS-THAN;14|GREATER-THAN
2AF9 DOUBLE-LINE SLANTED LESS-THAN OR EQUAL TO;20|GREATER-THAN OR EQUAL TO
2AFB TRIPLE SOLIDUS BINARY RELATION;0|LARGE TRIPLE VERTICAL BAR OPERATOR
2AFD DOUBLE SOLIDUS OPERATOR;0|WHITE VERTICAL BAR;0|N-ARY WHITE VERTICAL BAR
2B00 NORTH EAST WHITE ARROW;6|WEST WHITE ARROW;0|SOUTH EAST WHITE ARROW
2B03 SOUTH WEST WHITE ARROW;0|LEFT RIGHT WHITE ARROW;4|WARDS BLACK ARROW
2B06 UPWARDS BLACK ARROW;0|DOWNWARDS BLACK ARROW;0|NORTH EAST BLACK ARROW
2B09 NORTH WEST BLACK ARROW;0|SOUTH EAST BLACK ARROW;6|WEST BLACK ARROW
2B0C LEFT RIGHT BLACK ARROW;0|UP DOWN BLACK ARROW;0|RIGHTWARDS ARROW WITH TIP DOWNWARDS
2B0F RIGHTWARDS ARROW WITH TIP UPWARDS;0|LEFTWARDS ARROW WITH TIP DOWNWARDS;25|UPWARDS
2B12 SQUARE WITH TOP HALF BLACK;12|BOTTOM HALF BLACK;12|UPPER RIGHT DIAGONAL HALF BLACK
2B15 SQUARE WITH LOWER LEFT DIAGONAL HALF BLACK;0|DIAMOND WITH LEFT HALF BLACK
2B17 DIAMOND WITH RIGHT HALF BLACK;13|TOP HALF BLACK;13|BOTTOM HALF BLACK
2B1A DOTTED SQUARE;0|BLACK LARGE SQUARE;0|WHITE LARGE SQUARE;0|BLACK VERY SMALL SQUARE
2B1E WHITE VERY SMALL SQUARE;0|BLACK PENTAGON;0|WHITE PENTAGON;6|HEXAGON
2B22 BLACK HEXAGON;0|HORIZONTAL BLACK HEXAGON;0|BLACK LARGE CIRCLE;6|MEDIUM DIAMOND
2B26 WHITE MEDIUM DIAMOND;0|BLACK MEDIUM LOZENGE;0|WHITE MEDIUM LOZENGE
2B29 BLACK SMALL DIAMOND;12|LOZENGE;0|WHITE SMALL LOZENGE;0|BLACK HORIZONTAL ELLIPSE
2B2D WHITE HORIZONTAL ELLIPSE;0|BLACK VERTICAL ELLIPSE;0|WHITE VERTICAL ELLIPSE
2B30 LEFT ARROW WITH SMALL CIRCLE;0|THREE LEFTWARDS ARROWS
2B32 LEFT ARROW WITH CIRCLED PLUS;1|ONG LEFTWARDS SQUIGGLE ARROW
2B34 LEFTWARDS TWO-HEADED ARROW WITH VERTICAL STROKE;32|DOUBLE VERTICAL STROKE
2B36 LEFTWARDS TWO-HEADED ARROW FROM BAR;21|TRIPLE DASH ARROW;10|ARROW WITH DOTTED STEM
2B39 LEFTWARDS ARROW WITH TAIL WITH VERTICAL STROKE;31|DOUBLE VERTICAL STROKE
2B3B LEFTWARDS TWO-HEADED ARROW WITH TAIL;36| WITH VERTICAL STROKE
2B3D LEFTWARDS TWO-HEADED ARROW WITH TAIL WITH DOUBLE VERTICAL STROKE
2B3E LEFTWARDS ARROW THROUGH X;0|WAVE ARROW POINTING DIRECTLY LEFT
2B40 EQUALS SIGN ABOVE LEFTWARDS ARROW;0|REVERSE TILDE OPERATOR ABOVE LEFTWARDS ARROW
2B42 LEFTWARDS ARROW ABOVE REVERSE ALMOST EQUAL TO
2B43 RIGHTWARDS ARROW THROUGH GREATER-THAN;25|SUPERSET;0|LEFTWARDS QUADRUPLE ARROW
2B46 RIGHTWARDS QUADRUPLE ARROW;1|EVERSE TILDE OPERATOR ABOVE RIGHTWARDS ARROW
2B48 RIGHTWARDS ARROW ABOVE REVERSE ALMOST EQUAL TO
2B49 TILDE OPERATOR ABOVE LEFTWARDS ARROW;0|LEFTWARDS ARROW ABOVE ALMOST EQUAL TO
2B4B LEFTWARDS ARROW ABOVE REVERSE TILDE OPERATOR
2B4C RIGHTWARDS ARROW ABOVE REVERSE TILDE OPERATOR
2B4D DOWNWARDS TRIANGLE-HEADED ZIGZAG ARROW;0|SHORT SLANTED NORTH ARROW
2B4F SHORT BACKSLANTED SOUTH ARROW;0|WHITE MEDIUM STAR;0|BLACK SMALL STAR
2B52 WHITE SMALL STAR;0|BLACK RIGHT-POINTING PENTAGON;0|WHITE RIGHT-POINTING PENTAGON
2B55 HEAVY LARGE CIRCLE;6|OVAL WITH OVAL INSIDE;6|CIRCLE WITH CIRCLE INSIDE;12|
2B59 HEAVY CIRCLED SALTIRE;0|SLANTED NORTH ARROW WITH HOOKED HEAD
2B5B BACKSLANTED SOUTH ARROW WITH HOOKED TAIL
2B5C SLANTED NORTH ARROW WITH HORIZONTAL TAIL
2B5D BACKSLANTED SOUTH ARROW WITH HORIZONTAL TAIL
2B5E BENT ARROW POINTING DOWNWARDS THEN NORTH EAST
2B5F SHORT BENT ARROW POINTING DOWNWARDS THEN NORTH EAST
2B60 LEFTWARDS TRIANGLE-HEADED ARROW;0|UPWARDS TRIANGLE-HEADED ARROW
2B62 RIGHTWARDS TRIANGLE-HEADED ARROW;0|DOWNWARDS TRIANGLE-HEADED ARROW
2B64 LEFT RIGHT TRIANGLE-HEADED ARROW;0|UP DOWN TRIANGLE-HEADED ARROW
2B66 NORTH WEST TRIANGLE-HEADED ARROW;6|EAST TRIANGLE-HEADED ARROW
2B68 SOUTH EAST TRIANGLE-HEADED ARROW;6|WEST TRIANGLE-HEADED ARROW
2B6A LEFTWARDS TRIANGLE-HEADED DASHED ARROW;0|UPWARDS TRIANGLE-HEADED DASHED ARROW
2B6C RIGHTWARDS TRIANGLE-HEADED DASHED ARROW;0|DOWNWARDS TRIANGLE-HEADED DASHED ARROW
2B6E CLOCKWISE TRIANGLE-HEADED OPEN CIRCLE ARROW
2B6F ANTICLOCKWISE TRIANGLE-HEADED OPEN CIRCLE ARROW
2B70 LEFTWARDS TRIANGLE-HEADED ARROW TO BAR;0|UPWARDS TRIANGLE-HEADED ARROW TO BAR
2B72 RIGHTWARDS TRIANGLE-HEADED ARROW TO BAR;0|DOWNWARDS TRIANGLE-HEADED ARROW TO BAR
2B76 NORTH WEST TRIANGLE-HEADED ARROW TO BAR;6|EAST TRIANGLE-HEADED ARROW TO BAR
2B78 SOUTH EAST TRIANGLE-HEADED ARROW TO BAR;6|WEST TRIANGLE-HEADED ARROW TO BAR
2B7A LEFTWARDS TRIANGLE-HEADED ARROW WITH DOUBLE HORIZONTAL STROKE
2B7B UPWARDS TRIANGLE-HEADED ARROW WITH DOUBLE HORIZONTAL STROKE
2B7C RIGHTWARDS TRIANGLE-HEADED ARROW WITH DOUBLE HORIZONTAL STROKE
2B7D DOWNWARDS TRIANGLE-HEADED ARROW WITH DOUBLE HORIZONTAL STROKE;0|HORIZONTAL TAB KEY
2B7F VERTICAL TAB KEY
2B80 LEFTWARDS TRIANGLE-HEADED ARROW OVER RIGHTWARDS TRIANGLE-HEADED ARROW
2B81 UPWARDS TRIANGLE-HEADED ARROW LEFTWARDS OF DOWNWARDS TRIANGLE-HEADED ARROW
2B82 RIGHTWARDS TRIANGLE-HEADED ARROW OVER LEFTWARDS TRIANGLE-HEADED ARROW
2B83 DOWNWARDS TRIANGLE-HEADED ARROW LEFTWARDS OF UPWARDS TRIANGLE-HEADED ARROW
2B84 LEFTWARDS TRIANGLE-HEADED PAIRED ARROWS;0|UPWARDS TRIANGLE-HEADED PAIRED ARROWS
2B86 RIGHTWARDS TRIANGLE-HEADED PAIRED ARROWS;0|DOWNWARDS TRIANGLE-HEADED PAIRED ARROWS
2B88 LEFTWARDS BLACK CIRCLED WHITE ARROW;0|UPWARDS BLACK CIRCLED WHITE ARROW
2B8A RIGHTWARDS BLACK CIRCLED WHITE ARROW;0|DOWNWARDS BLACK CIRCLED WHITE ARROW
2B8C ANTICLOCKWISE TRIANGLE-HEADED RIGHT U-SHAPED ARROW;30|BOTTOM U-SHAPED ARROW
2B8E ANTICLOCKWISE TRIANGLE-HEADED LEFT U-SHAPED ARROW;30|TOP U-SHAPED ARROW
2B90 RETURN LEFT;7|RIGHT;0|NEWLINE LEFT;8|RIGHT
2B94 FOUR CORNER ARROWS CIRCLING ANTICLOCKWISE;0|RIGHTWARDS BLACK ARROW
2B97 SYMBOL FOR TYPE A ELECTRONICS
2B98 THREE-D TOP-LIGHTED LEFTWARDS EQUILATERAL ARROWHEAD
2B99 THREE-D RIGHT-LIGHTED UPWARDS EQUILATERAL ARROWHEAD
2B9A THREE-D TOP-LIGHTED RIGHTWARDS EQUILATERAL ARROWHEAD
2B9B THREE-D LEFT-LIGHTED DOWNWARDS EQUILATERAL ARROWHEAD
2B9C BLACK LEFTWARDS EQUILATERAL ARROWHEAD;6|UPWARDS EQUILATERAL ARROWHEAD
2B9E BLACK RIGHTWARDS EQUILATERAL ARROWHEAD;6|DOWNWARDS EQUILATERAL ARROWHEAD
2BA0 DOWNWARDS TRIANGLE-HEADED ARROW WITH LONG TIP LEFTWARDS;46|RIGHTWARDS
2BA2 UPWARDS TRIANGLE-HEADED ARROW WITH LONG TIP LEFTWARDS;44|RIGHTWARDS
2BA4 LEFTWARDS TRIANGLE-HEADED ARROW WITH LONG TIP UPWARDS
2BA5 RIGHTWARDS TRIANGLE-HEADED ARROW WITH LONG TIP UPWARDS
2BA6 LEFTWARDS TRIANGLE-HEADED ARROW WITH LONG TIP DOWNWARDS
2BA7 RIGHTWARDS TRIANGLE-HEADED ARROW WITH LONG TIP DOWNWARDS
2BA8 BLACK CURVED DOWNWARDS AND LEFTWARDS ARROW;27|RIGHTWARDS ARROW
2BAA BLACK CURVED UPWARDS AND LEFTWARDS ARROW;25|RIGHTWARDS ARROW
2BAC BLACK CURVED LEFTWARDS AND UPWARDS ARROW;13|RIGHTWARDS AND UPWARDS ARROW
2BAE BLACK CURVED LEFTWARDS AND DOWNWARDS ARROW;13|RIGHTWARDS AND DOWNWARDS ARROW
2BB0 RIBBON ARROW DOWN LEFT;18|RIGHT;13|UP LEFT;16|RIGHT;13|LEFT UP;13|RIGHT UP
2BB6 RIBBON ARROW LEFT DOWN;13|RIGHT DOWN
2BB8 UPWARDS WHITE ARROW FROM BAR WITH HORIZONTAL BAR;2| ARROWHEAD IN A RECTANGLE BOX
2BBA OVERLAPPING WHITE SQUARES;18|AND BLACK SQUARES;12|BLACK SQUARES
2BBD BALLOT BOX WITH LIGHT X;0|CIRCLED X;8|BOLD X;0|BLACK SQUARE CENTRED
2BC1 BLACK DIAMOND CENTRED;0|TURNED BLACK PENTAGON;0|HORIZONTAL BLACK OCTAGON
2BC4 BLACK OCTAGON;6|MEDIUM UP-POINTING TRIANGLE CENTRED
2BC6 BLACK MEDIUM DOWN-POINTING TRIANGLE CENTRED;13|LEFT-POINTING TRIANGLE CENTRED
2BC8 BLACK MEDIUM RIGHT-POINTING TRIANGLE CENTRED;0|NEPTUNE FORM TWO
2BCA TOP HALF BLACK CIRCLE;0|BOTTOM HALF BLACK CIRCLE;0|LIGHT FOUR POINTED BLACK CUSP
2BCD ROTATED LIGHT FOUR POINTED BLACK CUSP;0|WHITE FOUR POINTED CUSP
2BCF ROTATED WHITE FOUR POINTED CUSP;0|SQUARE POSITION INDICATOR;0|UNCERTAINTY SIGN
2BD2 GROUP MARK;0|PLUTO FORM TWO;12|HREE;11|FOUR;12|IVE;0|TRANSPLUTO;0|PROSERPINA
2BD9 ASTRAEA;0|HYGIEA;0|PHOLUS;0|NESSUS;0|WHITE MOON SELENA;0|BLACK DIAMOND ON CROSS
2BDF TRUE LIGHT MOON ARTA;0|CUPIDO;0|HADES;0|ZEUS;0|KRONOS;0|APOLLON;1|DMETOS
2BE6 VULCANUS;0|POSEIDON;0|LEFT HALF BLACK STAR;0|RIGHT HALF BLACK STAR
2BEA STAR WITH LEFT HALF BLACK;10|RIGHT HALF BLACK
2BEC LEFTWARDS TWO-HEADED ARROW WITH TRIANGLE ARROWHEADS
2BED UPWARDS TWO-HEADED ARROW WITH TRIANGLE ARROWHEADS
2BEE RIGHTWARDS TWO-HEADED ARROW WITH TRIANGLE ARROWHEADS
2BEF DOWNWARDS TWO-HEADED ARROW WITH TRIANGLE ARROWHEADS;0|ERIS FORM ONE;10|TWO;0|SEDNA
2BF3 RUSSIAN ASTROLOGICAL SYMBOL VIGINTILE;28|NOVILE;28|QUINTILE;28|BINOVILE
2BF7 RUSSIAN ASTROLOGICAL SYMBOL SENTAGON;28|TREDECILE
2BF9 EQUALS SIGN WITH INFINITY BELOW;0|UNITED SYMBOL;0|SEPARATED SYMBOL
2BFC DOUBLED SYMBOL;0|PASSED SYMBOL;0|REVERSED RIGHT ANGLE;0|HELLSCHREIBER PAUSE SYMBOL
2E00 RIGHT ANGLE SUBSTITUTION MARKER;12|DOTTED SUBSTITUTION MARKER
2E02 LEFT SUBSTITUTION BRACKET;0|RIGHT SUBSTITUTION BRACKET
2E04 LEFT DOTTED SUBSTITUTION BRACKET;0|RIGHT DOTTED SUBSTITUTION BRACKET
2E06 RAISED INTERPOLATION MARKER;7|DOTTED INTERPOLATION MARKER
2E08 DOTTED TRANSPOSITION MARKER;0|LEFT TRANSPOSITION BRACKET
2E0A RIGHT TRANSPOSITION BRACKET;1|AISED SQUARE;0|LEFT RAISED OMISSION BRACKET
2E0D RIGHT RAISED OMISSION BRACKET;0|EDITORIAL CORONIS;0|PARAGRAPHOS
2E10 FORKED PARAGRAPHOS;0|REVERSED FORKED PARAGRAPHOS;0|HYPODIASTOLE;0|DOTTED OBELOS
2E14 DOWNWARDS ANCORA;0|UPWARDS ANCORA;0|DOTTED RIGHT-POINTING ANGLE
2E17 DOUBLE OBLIQUE HYPHEN;0|INVERTED INTERROBANG;0|PALM BRANCH;0|HYPHEN WITH DIAERESIS
2E1B TILDE WITH RING ABOVE;0|LEFT LOW PARAPHRASE BRACKET;0|RIGHT LOW PARAPHRASE BRACKET
2E1E TILDE WITH DOT ABOVE;15|BELOW;0|LEFT VERTICAL BAR WITH QUILL
2E21 RIGHT VERTICAL BAR WITH QUILL;0|TOP LEFT HALF BRACKET;4|RIGHT HALF BRACKET
2E24 BOTTOM LEFT HALF BRACKET;7|RIGHT HALF BRACKET;0|LEFT SIDEWAYS U BRACKET
2E27 RIGHT SIDEWAYS U BRACKET;0|LEFT DOUBLE PARENTHESIS;0|RIGHT DOUBLE PARENTHESIS
2E2A TWO DOTS OVER ONE DOT PUNCTUATION;0|ONE DOT OVER TWO DOTS PUNCTUATION
2E2C SQUARED FOUR DOT PUNCTUATION;0|FIVE DOT MARK;0|REVERSED QUESTION MARK
2E2F VERTICAL TILDE;0|RING POINT;0|WORD SEPARATOR MIDDLE DOT;0|TURNED COMMA
2E33 RAISED DOT;7|COMMA;0|TURNED SEMICOLON;0|DAGGER WITH LEFT GUARD;12|RIGHT GUARD
2E38 TURNED DAGGER;1|OP HALF SECTION SIGN;1|WO-EM DASH;1|HREE-EM DASH
2E3C STENOGRAPHIC FULL STOP;0|VERTICAL SIX DOTS;0|WIGGLY VERTICAL LINE;0|CAPITULUM
2E40 DOUBLE HYPHEN;0|REVERSED COMMA;0|DOUBLE LOW-REVERSED-9 QUOTATION MARK
2E43 DASH WITH LEFT UPTURN;1|OUBLE SUSPENSION MARK;0|INVERTED LOW KAVYKA
2E46 INVERTED LOW KAVYKA WITH KAVYKA ABOVE;0|LOW KAVYKA;10| WITH DOT
2E49 DOUBLE STACKED COMMA;2|TTED SOLIDUS;0|TRIPLE DAGGER;0|MEDIEVAL COMMA
2E4D PARAGRAPHUS MARK;1|UNCTUS ELEVATUS MARK;0|CORNISH VERSE DIVIDER
2E50 CROSS PATTY WITH RIGHT CROSSBAR;17|LEFT CROSSBAR;0|TIRONIAN SIGN CAPITAL ET
2E53 MEDIEVAL EXCLAMATION MARK;9|QUESTION MARK;0|LEFT SQUARE BRACKET WITH STROKE
2E56 RIGHT SQUARE BRACKET WITH STROKE;0|LEFT SQUARE BRACKET WITH DOUBLE STROKE
2E58 RIGHT SQUARE BRACKET WITH DOUBLE STROKE;0|TOP HALF LEFT PARENTHESIS
2E5A TOP HALF RIGHT PARENTHESIS;0|BOTTOM HALF LEFT PARENTHESIS;12|RIGHT PARENTHESIS
2E5D OBLIQUE HYPHEN
3000 IDEOGRAPHIC SPACE;12|COMMA;12|FULL STOP;0|DITTO MARK
3004 JAPANESE INDUSTRIAL STANDARD SYMBOL;0|IDEOGRAPHIC ITERATION MARK;12|CLOSING MARK
3007 IDEOGRAPHIC NUMBER ZERO;0|LEFT ANGLE BRACKET;0|RIGHT ANGLE BRACKET
300A LEFT DOUBLE ANGLE BRACKET;0|RIGHT DOUBLE ANGLE BRACKET;0|LEFT CORNER BRACKET
300D RIGHT CORNER BRACKET;0|LEFT WHITE CORNER BRACKET;0|RIGHT WHITE CORNER BRACKET
3010 LEFT BLACK LENTICULAR BRACKET;0|RIGHT BLACK LENTICULAR BRACKET;0|POSTAL MARK
3013 GETA MARK;0|LEFT TORTOISE SHELL BRACKET;0|RIGHT TORTOISE SHELL BRACKET
3016 LEFT WHITE LENTICULAR BRACKET;0|RIGHT WHITE LENTICULAR BRACKET
3018 LEFT WHITE TORTOISE SHELL BRACKET;0|RIGHT WHITE TORTOISE SHELL BRACKET
301A LEFT WHITE SQUARE BRACKET;0|RIGHT WHITE SQUARE BRACKET;0|WAVE DASH
301D REVERSED DOUBLE PRIME QUOTATION MARK;0|DOUBLE PRIME QUOTATION MARK
301F LOW DOUBLE PRIME QUOTATION MARK;0|POSTAL MARK FACE;0|HANGZHOU NUMERAL ONE;17|TWO
3023 HANGZHOU NUMERAL THREE;17|FOUR;18|IVE;17|SIX;18|EVEN;17|EIGHT;17|NINE
302A IDEOGRAPHIC LEVEL TONE MARK;12|RISING TONE MARK;12|DEPARTING TONE MARK
302D IDEOGRAPHIC ENTERING TONE MARK;0|HANGUL SINGLE DOT TONE MARK
302F HANGUL DOUBLE DOT TONE MARK;0|WAVY DASH;0|VERTICAL KANA REPEAT MARK
3032 VERTICAL KANA REPEAT WITH VOICED SOUND MARK;21|MARK UPPER HALF
3034 VERTICAL KANA REPEAT WITH VOICED SOUND MARK UPPER HALF;21|MARK LOWER HALF
3036 CIRCLED POSTAL MARK;0|IDEOGRAPHIC TELEGRAPH LINE FEED SEPARATOR SYMBOL
3038 HANGZHOU NUMERAL TEN;18|WENTY;18|HIRTY;0|VERTICAL IDEOGRAPHIC ITERATION MARK
303C MASU MARK;0|PART ALTERNATION MARK;0|IDEOGRAPHIC VARIATION INDICATOR
303F IDEOGRAPHIC HALF FILL SPACE
3041 HIRAGANA LETTER SMALL A;16|A;16|SMALL I;16|I;16|SMALL U;16|U;16|SMALL E;16|E
3049 HIRAGANA LETTER SMALL O;16|O;16|KA;16|GA;16|KI;16|GI;16|KU;16|GU;16|KE;16|GE;16|KO
3054 HIRAGANA LETTER GO;16|SA;16|ZA;16|SI;16|ZI;16|SU;16|ZU;16|SE;16|ZE;16|SO;16|ZO
305F HIRAGANA LETTER TA;16|DA;16|TI;16|DI;16|SMALL TU;16|TU;16|DU;16|TE;16|DE;16|TO
3069 HIRAGANA LETTER DO;16|NA;17|I;17|U;17|E;17|O;16|HA;16|BA;16|PA;16|HI;16|BI;16|PI
3075 HIRAGANA LETTER HU;16|BU;16|PU;16|HE;16|BE;16|PE;16|HO;16|BO;16|PO;16|MA;17|I;17|U
3081 HIRAGANA LETTER ME;17|O;16|SMALL YA;16|YA;16|SMALL YU;16|YU;16|SMALL YO;16|YO
3089 HIRAGANA LETTER RA;17|I;17|U;17|E;17|O;16|SMALL WA;16|WA;17|I;17|E;17|O;16|N;16|VU
3095 HIRAGANA LETTER SMALL KA;23|E
3099 COMBINING KATAKANA-HIRAGANA VOICED SOUND MARK;28|SEMI-VOICED SOUND MARK
309B KATAKANA-HIRAGANA VOICED SOUND MARK;18|SEMI-VOICED SOUND MARK
309D HIRAGANA ITERATION MARK;9|VOICED ITERATION MARK;9|DIGRAPH YORI
30A0 KATAKANA-HIRAGANA DOUBLE HYPHEN;8| LETTER SMALL A;16|A;16|SMALL I;16|I;16|SMALL U
30A6 KATAKANA LETTER U;16|SMALL E;16|E;16|SMALL O;16|O;16|KA;16|GA;16|KI;16|GI;16|KU
30B0 KATAKANA LETTER GU;16|KE;16|GE;16|KO;16|GO;16|SA;16|ZA;16|SI;16|ZI;16|SU;16|ZU
30BB KATAKANA LETTER SE;16|ZE;16|SO;16|ZO;16|TA;16|DA;16|TI;16|DI;16|SMALL TU;16|TU
30C5 KATAKANA LETTER DU;16|TE;16|DE;16|TO;16|DO;16|NA;17|I;17|U;17|E;17|O;16|HA;16|BA
30D1 KATAKANA LETTER PA;16|HI;16|BI;16|PI;16|HU;16|BU;16|PU;16|HE;16|BE;16|PE;16|HO
30DC KATAKANA LETTER BO;16|PO;16|MA;17|I;17|U;17|E;17|O;16|SMALL YA;16|YA;16|SMALL YU
30E6 KATAKANA LETTER YU;16|SMALL YO;16|YO;16|RA;17|I;17|U;17|E;17|O;16|SMALL WA;16|WA
30F0 KATAKANA LETTER WI;17|E;17|O;16|N;16|VU;16|SMALL KA;23|E;16|VA;17|I;17|E;17|O
30FB KATAKANA MIDDLE DOT;8|-HIRAGANA PROLONGED SOUND MARK;8| ITERATION MARK
30FE KATAKANA VOICED ITERATION MARK;9|DIGRAPH KOTO
3105 BOPOMOFO LETTER B;16|P;16|M;16|F;16|D;16|T;16|N;16|L;16|G;16|K;16|H;16|J;16|Q;16|X
3113 BOPOMOFO LETTER ZH;16|CH;16|SH;16|R;16|Z;16|C;16|S;16|A;16|O;16|E;17|H;16|AI;16|EI
3120 BOPOMOFO LETTER AU;16|OU;16|AN;16|EN;16|ANG;16|ENG;17|R;16|I;16|U;16|IU;16|V;16|NG
312C BOPOMOFO LETTER GN;16|IH;16|O WITH DOT ABOVE;16|NN
FB00 LATIN SMALL LIGATURE FF;22|I;22|L;22|FI;23|L;21|LONG S T;21|ST
FB13 ARMENIAN SMALL LIGATURE MEN NOW;28|ECH;28|INI;24|VEW NOW;24|MEN XEH
FB1D HEBREW LETTER YOD WITH HIRIQ;7|POINT JUDEO-SPANISH VARIKA
FB1F HEBREW LIGATURE YIDDISH YOD YOD PATAH;8|ETTER ALTERNATIVE AYIN;14|WIDE ALEF
FB22 HEBREW LETTER WIDE DALET;19|HE;19|KAF;19|LAMED;19|FINAL MEM;19|RESH;19|TAV
FB29 HEBREW LETTER ALTERNATIVE PLUS SIGN;14|SHIN WITH SHIN DOT;25|IN DOT
FB2C HEBREW LETTER SHIN WITH DAGESH AND SHIN DOT;36|IN DOT;14|ALEF WITH PATAH;24|QAMATS
FB30 HEBREW LETTER ALEF WITH MAPIQ;14|BET WITH DAGESH;14|GIMEL WITH DAGESH
FB33 HEBREW LETTER DALET WITH DAGESH;14|HE WITH MAPIQ;14|VAV WITH DAGESH
FB36 HEBREW LETTER ZAYIN WITH DAGESH
FB38 HEBREW LETTER TET WITH DAGESH;14|YOD WITH DAGESH;14|FINAL KAF WITH DAGESH
FB3B HEBREW LETTER KAF WITH DAGESH;14|LAMED WITH DAGESH
FB3E HEBREW LETTER MEM WITH DAGESH
FB40 HEBREW LETTER NUN WITH DAGESH;14|SAMEKH WITH DAGESH
FB43 HEBREW LETTER FINAL PE WITH DAGESH;14|PE WITH DAGESH
FB46 HEBREW LETTER TSADI WITH DAGESH;14|QOF WITH DAGESH;14|RESH WITH DAGESH
FB49 HEBREW LETTER SHIN WITH DAGESH;14|TAV WITH DAGESH;14|VAV WITH HOLAM
FB4C HEBREW LETTER BET WITH RAFE;14|KAF WITH RAFE;14|PE WITH RAFE;8|IGATURE ALEF LAMED
FE00 VARIATION SELECTOR-1;19|2;19|3;19|4;19|5;19|6;19|7;19|8;19|9;19|10;20|1;20|2;20|3
FE0D VARIATION SELECTOR-14;20|5;20|6;0|PRESENTATION FORM FOR VERTICAL COMMA
FE11 PRESENTATION FORM FOR VERTICAL IDEOGRAPHIC COMMA;43|FULL STOP;31|COLON
FE14 PRESENTATION FORM FOR VERTICAL SEMICOLON;31|EXCLAMATION MARK;31|QUESTION MARK
FE17 PRESENTATION FORM FOR VERTICAL LEFT WHITE LENTICULAR BRACKET
FE18 PRESENTATION FORM FOR VERTICAL RIGHT WHITE LENTICULAR BRAKCET
FE19 PRESENTATION FORM FOR VERTICAL HORIZONTAL ELLIPSIS
FE20 COMBINING LIGATURE LEFT HALF;19|RIGHT HALF;10|DOUBLE TILDE LEFT HALF;23|RIGHT HALF
FE24 COMBINING MACRON LEFT HALF;17|RIGHT HALF;10|CONJOINING MACRON
FE27 COMBINING LIGATURE LEFT HALF BELOW;19|RIGHT HALF BELOW;10|TILDE LEFT HALF BELOW
FE2A COMBINING TILDE RIGHT HALF BELOW;10|MACRON LEFT HALF BELOW;17|RIGHT HALF BELOW
FE2D COMBINING CONJOINING MACRON BELOW;11|YRILLIC TITLO LEFT HALF;25|RIGHT HALF
FE30 PRESENTATION FORM FOR VERTICAL TWO DOT LEADER;31|EM DASH;32|N DASH;31|LOW LINE
FE34 PRESENTATION FORM FOR VERTICAL WAVY LOW LINE;31|LEFT PARENTHESIS
FE36 PRESENTATION FORM FOR VERTICAL RIGHT PARENTHESIS;31|LEFT CURLY BRACKET
FE38 PRESENTATION FORM FOR VERTICAL RIGHT CURLY BRACKET;31|LEFT TORTOISE SHELL BRACKET
FE3A PRESENTATION FORM FOR VERTICAL RIGHT TORTOISE SHELL BRACKET
FE3B PRESENTATION FORM FOR VERTICAL LEFT BLACK LENTICULAR BRACKET
FE3C PRESENTATION FORM FOR VERTICAL RIGHT BLACK LENTICULAR BRACKET
FE3D PRESENTATION FORM FOR VERTICAL LEFT DOUBLE ANGLE BRACKET
FE3E PRESENTATION FORM FOR VERTICAL RIGHT DOUBLE ANGLE BRACKET;31|LEFT ANGLE BRACKET
FE40 PRESENTATION FORM FOR VERTICAL RIGHT ANGLE BRACKET;31|LEFT CORNER BRACKET
FE42 PRESENTATION FORM FOR VERTICAL RIGHT CORNER BRACKET;31|LEFT WHITE CORNER BRACKET
FE44 PRESENTATION FORM FOR VERTICAL RIGHT WHITE CORNER BRACKET;0|SESAME DOT
FE46 WHITE SESAME DOT;0|PRESENTATION FORM FOR VERTICAL LEFT SQUARE BRACKET
FE48 PRESENTATION FORM FOR VERTICAL RIGHT SQUARE BRACKET;0|DASHED OVERLINE
FE4A CENTRELINE OVERLINE;0|WAVY OVERLINE;0|DOUBLE WAVY OVERLINE;1|ASHED LOW LINE
FE4E CENTRELINE LOW LINE;0|WAVY LOW LINE;0|SMALL COMMA;6|IDEOGRAPHIC COMMA;6|FULL STOP
FE54 SMALL SEMICOLON;6|COLON;6|QUESTION MARK;6|EXCLAMATION MARK;7|M DASH
FE59 SMALL LEFT PARENTHESIS;6|RIGHT PARENTHESIS;6|LEFT CURLY BRACKET
FE5C SMALL RIGHT CURLY BRACKET;6|LEFT TORTOISE SHELL BRACKET
FE5E SMALL RIGHT TORTOISE SHELL BRACKET;6|NUMBER SIGN;6|AMPERSAND;7|STERISK;6|PLUS SIGN
FE63 SMALL HYPHEN-MINUS;6|LESS-THAN SIGN;6|GREATER-THAN SIGN;6|EQUALS SIGN
FE68 SMALL REVERSE SOLIDUS;6|DOLLAR SIGN;6|PERCENT SIGN;6|COMMERCIAL AT
FF01 FULLWIDTH EXCLAMATION MARK;10|QUOTATION MARK;10|NUMBER SIGN;10|DOLLAR SIGN
FF05 FULLWIDTH PERCENT SIGN;10|AMPERSAND;11|POSTROPHE;10|LEFT PARENTHESIS
FF09 FULLWIDTH RIGHT PARENTHESIS;10|ASTERISK;10|PLUS SIGN;10|COMMA;10|HYPHEN-MINUS
FF0E FULLWIDTH FULL STOP;10|SOLIDUS;10|DIGIT ZERO;16|ONE;16|TWO;17|HREE;16|FOUR;17|IVE
FF16 FULLWIDTH DIGIT SIX;17|EVEN;16|EIGHT;16|NINE;10|COLON;10|SEMICOLON
FF1C FULLWIDTH LESS-THAN SIGN;10|EQUALS SIGN;10|GREATER-THAN SIGN;10|QUESTION MARK
FF20 FULLWIDTH COMMERCIAL AT;10|LATIN CAPITAL LETTER A;31|B;31|C;31|D;31|E;31|F;31|G
FF28 FULLWIDTH LATIN CAPITAL LETTER H;31|I;31|J;31|K;31|L;31|M;31|N;31|O;31|P;31|Q;31|R
FF33 FULLWIDTH LATIN CAPITAL LETTER S;31|T;31|U;31|V;31|W;31|X;31|Y;31|Z
FF3B FULLWIDTH LEFT SQUARE BRACKET;10|REVERSE SOLIDUS;11|IGHT SQUARE BRACKET
FF3E FULLWIDTH CIRCUMFLEX ACCENT;10|LOW LINE;10|GRAVE ACCENT;10|LATIN SMALL LETTER A
FF42 FULLWIDTH LATIN SMALL LETTER B;29|C;29|D;29|E;29|F;29|G;29|H;29|I;29|J;29|K;29|L
FF4D FULLWIDTH LATIN SMALL LETTER M;29|N;29|O;29|P;29|Q;29|R;29|S;29|T;29|U;29|V;29|W
FF58 FULLWIDTH LATIN SMALL LETTER X;29|Y;29|Z;11|EFT CURLY BRACKET;10|VERTICAL LINE
FF5D FULLWIDTH RIGHT CURLY BRACKET;10|TILDE;10|LEFT WHITE PARENTHESIS
FF60 FULLWIDTH RIGHT WHITE PARENTHESIS;0|HALFWIDTH IDEOGRAPHIC FULL STOP
FF62 HALFWIDTH LEFT CORNER BRACKET;10|RIGHT CORNER BRACKET;10|IDEOGRAPHIC COMMA
FF65 HALFWIDTH KATAKANA MIDDLE DOT;19|LETTER WO;26|SMALL A;32|I;32|U;32|E;32|O;32|YA
FF6D HALFWIDTH KATAKANA LETTER SMALL YU;33|O;32|TU;18|-HIRAGANA PROLONGED SOUND MARK
FF71 HALFWIDTH KATAKANA LETTER A;26|I;26|U;26|E;26|O;26|KA;27|I;27|U;27|E;27|O;26|SA
FF7C HALFWIDTH KATAKANA LETTER SI;27|U;27|E;27|O;26|TA;27|I;27|U;27|E;27|O;26|NA;27|I
FF87 HALFWIDTH KATAKANA LETTER NU;27|E;27|O;26|HA;27|I;27|U;27|E;27|O;26|MA;27|I;27|U
FF92 HALFWIDTH KATAKANA LETTER ME;27|O;26|YA;27|U;27|O;26|RA;27|I;27|U;27|E;27|O;26|WA
FF9D HALFWIDTH KATAKANA LETTER N;19|VOICED SOUND MARK;19|SEMI-VOICED SOUND MARK
FFA0 HALFWIDTH HANGUL FILLER;17|LETTER KIYEOK;24|SSANGKIYEOK;24|KIYEOK-SIOS;24|NIEUN
FFA5 HALFWIDTH HANGUL LETTER NIEUN-CIEUC;30|HIEUH;24|TIKEUT;24|SSANGTIKEUT;24|RIEUL
FFAA HALFWIDTH HANGUL LETTER RIEUL-KIYEOK;30|MIEUM;30|PIEUP;30|SIOS;30|THIEUTH
FFAF HALFWIDTH HANGUL LETTER RIEUL-PHIEUPH;30|HIEUH;24|MIEUM;24|PIEUP;24|SSANGPIEUP
FFB4 HALFWIDTH HANGUL LETTER PIEUP-SIOS;24|SIOS;25|SANGSIOS;24|IEUNG;24|CIEUC
FFB9 HALFWIDTH HANGUL LETTER SSANGCIEUC;24|CHIEUCH;24|KHIEUKH;24|THIEUTH;24|PHIEUPH
FFBE HALFWIDTH HANGUL LETTER HIEUH
FFC2 HALFWIDTH HANGUL LETTER A;25|E;24|YA;26|E;24|EO;25|
FFCA HALFWIDTH HANGUL LETTER YEO;26|;24|O;24|WA;26|E;24|OE
FFD2 HALFWIDTH HANGUL LETTER YO;24|U;24|WEO;26|;25|I;24|YU
FFDA HALFWIDTH HANGUL LETTER EU;24|YI;24|I
FFE0 FULLWIDTH CENT SIGN;10|POUND SIGN;10|NOT SIGN;10|MACRON;10|BROKEN BAR;10|YEN SIGN
FFE6 FULLWIDTH WON SIGN
FFE8 HALFWIDTH FORMS LIGHT VERTICAL;10|LEFTWARDS ARROW;10|UPWARDS ARROW
FFEB HALFWIDTH RIGHTWARDS ARROW;10|DOWNWARDS ARROW;10|BLACK SQUARE;10|WHITE CIRCLE
FFF9 INTERLINEAR ANNOTATION ANCHOR;23|SEPARATOR;23|TERMINATOR
FFFC OBJECT REPLACEMENT CHARACTER;0|REPLACEMENT CHARACTER
1D400 MATHEMATICAL BOLD CAPITAL A;26|B;26|C;26|D;26|E;26|F;26|G;26|H;26|I;26|J;26|K;26|L
1D40C MATHEMATICAL BOLD CAPITAL M;26|N;26|O;26|P;26|Q;26|R;26|S;26|T;26|U;26|V;26|W;26|X
1D418 MATHEMATICAL BOLD CAPITAL Y;26|Z;18|SMALL A;24|B;24|C;24|D;24|E;24|F;24|G;24|H
1D422 MATHEMATICAL BOLD SMALL I;24|J;24|K;24|L;24|M;24|N;24|O;24|P;24|Q;24|R;24|S;24|T
1D42E MATHEMATICAL BOLD SMALL U;24|V;24|W;24|X;24|Y;24|Z;13|ITALIC CAPITAL A;28|B;28|C
1D437 MATHEMATICAL ITALIC CAPITAL D;28|E;28|F;28|G;28|H;28|I;28|J;28|K;28|L;28|M;28|N
1D442 MATHEMATICAL ITALIC CAPITAL O;28|P;28|Q;28|R;28|S;28|T;28|U;28|V;28|W;28|X;28|Y
1D44D MATHEMATICAL ITALIC CAPITAL Z;20|SMALL A;26|B;26|C;26|D;26|E;26|F;26|G
1D456 MATHEMATICAL ITALIC SMALL I;26|J;26|K;26|L;26|M;26|N;26|O;26|P;26|Q;26|R;26|S;26|T
1D462 MATHEMATICAL ITALIC SMALL U;26|V;26|W;26|X;26|Y;26|Z;13|BOLD ITALIC CAPITAL A;33|B
1D46A MATHEMATICAL BOLD ITALIC CAPITAL C;33|D;33|E;33|F;33|G;33|H;33|I;33|J;33|K;33|L
1D474 MATHEMATICAL BOLD ITALIC CAPITAL M;33|N;33|O;33|P;33|Q;33|R;33|S;33|T;33|U;33|V
1D47E MATHEMATICAL BOLD ITALIC CAPITAL W;33|X;33|Y;33|Z;25|SMALL A;31|B;31|C;31|D;31|E
1D487 MATHEMATICAL BOLD ITALIC SMALL F;31|G;31|H;31|I;31|J;31|K;31|L;31|M;31|N;31|O;31|P
1D492 MATHEMATICAL BOLD ITALIC SMALL Q;31|R;31|S;31|T;31|U;31|V;31|W;31|X;31|Y;31|Z
1D49C MATHEMATICAL SCRIPT CAPITAL A
1D49E MATHEMATICAL SCRIPT CAPITAL C;28|D
1D4A2 MATHEMATICAL SCRIPT CAPITAL G
1D4A5 MATHEMATICAL SCRIPT CAPITAL J;28|K
1D4A9 MATHEMATICAL SCRIPT CAPITAL N;28|O;28|P;28|Q
1D4AE MATHEMATICAL SCRIPT CAPITAL S;28|T;28|U;28|V;28|W;28|X;28|Y;28|Z;20|SMALL A;26|B
1D4B8 MATHEMATICAL SCRIPT SMALL C;26|D
1D4BB MATHEMATICAL SCRIPT SMALL F
1D4BD MATHEMATICAL SCRIPT SMALL H;26|I;26|J;26|K;26|L;26|M;26|N
1D4C5 MATHEMATICAL SCRIPT SMALL P;26|Q;26|R;26|S;26|T;26|U;26|V;26|W;26|X;26|Y;26|Z
1D4D0 MATHEMATICAL BOLD SCRIPT CAPITAL A;33|B;33|C;33|D;33|E;33|F;33|G;33|H;33|I;33|J
1D4DA MATHEMATICAL BOLD SCRIPT CAPITAL K;33|L;33|M;33|N;33|O;33|P;33|Q;33|R;33|S;33|T
1D4E4 MATHEMATICAL BOLD SCRIPT CAPITAL U;33|V;33|W;33|X;33|Y;33|Z;25|SMALL A;31|B;31|C
1D4ED MATHEMATICAL BOLD SCRIPT SMALL D;31|E;31|F;31|G;31|H;31|I;31|J;31|K;31|L;31|M;31|N
1D4F8 MATHEMATICAL BOLD SCRIPT SMALL O;31|P;31|Q;31|R;31|S;31|T;31|U;31|V;31|W;31|X;31|Y
1D503 MATHEMATICAL BOLD SCRIPT SMALL Z;13|FRAKTUR CAPITAL A;29|B
1D507 MATHEMATICAL FRAKTUR CAPITAL D;29|E;29|F;29|G
1D50D MATHEMATICAL FRAKTUR CAPITAL J;29|K;29|L;29|M;29|N;29|O;29|P;29|Q
1D516 MATHEMATICAL FRAKTUR CAPITAL S;29|T;29|U;29|V;29|W;29|X;29|Y
1D51E MATHEMATICAL FRAKTUR SMALL A;27|B;27|C;27|D;27|E;27|F;27|G;27|H;27|I;27|J;27|K
1D529 MATHEMATICAL FRAKTUR SMALL L;27|M;27|N;27|O;27|P;27|Q;27|R;27|S;27|T;27|U;27|V
1D534 MATHEMATICAL FRAKTUR SMALL W;27|X;27|Y;27|Z;13|DOUBLE-STRUCK CAPITAL A;35|B
1D53B MATHEMATICAL DOUBLE-STRUCK CAPITAL D;35|E;35|F;35|G
1D540 MATHEMATICAL DOUBLE-STRUCK CAPITAL I;35|J;35|K;35|L;35|M
1D546 MATHEMATICAL DOUBLE-STRUCK CAPITAL O
1D54A MATHEMATICAL DOUBLE-STRUCK CAPITAL S;35|T;35|U;35|V;35|W;35|X;35|Y
1D552 MATHEMATICAL DOUBLE-STRUCK SMALL A;33|B;33|C;33|D;33|E;33|F;33|G;33|H;33|I;33|J
1D55C MATHEMATICAL DOUBLE-STRUCK SMALL K;33|L;33|M;33|N;33|O;33|P;33|Q;33|R;33|S;33|T
1D566 MATHEMATICAL DOUBLE-STRUCK SMALL U;33|V;33|W;33|X;33|Y;33|Z
1D56C MATHEMATICAL BOLD FRAKTUR CAPITAL A;34|B;34|C;34|D;34|E;34|F;34|G;34|H;34|I;34|J
1D576 MATHEMATICAL BOLD FRAKTUR CAPITAL K;34|L;34|M;34|N;34|O;34|P;34|Q;34|R;34|S;34|T
1D580 MATHEMATICAL BOLD FRAKTUR CAPITAL U;34|V;34|W;34|X;34|Y;34|Z;26|SMALL A;32|B;32|C
1D589 MATHEMATICAL BOLD FRAKTUR SMALL D;32|E;32|F;32|G;32|H;32|I;32|J;32|K;32|L;32|M
1D593 MATHEMATICAL BOLD FRAKTUR SMALL N;32|O;32|P;32|Q;32|R;32|S;32|T;32|U;32|V;32|W
1D59D MATHEMATICAL BOLD FRAKTUR SMALL X;32|Y;32|Z;13|SANS-SERIF CAPITAL A;32|B;32|C;32|D
1D5A4 MATHEMATICAL SANS-SERIF CAPITAL E;32|F;32|G;32|H;32|I;32|J;32|K;32|L;32|M;32|N
1D5AE MATHEMATICAL SANS-SERIF CAPITAL O;32|P;32|Q;32|R;32|S;32|T;32|U;32|V;32|W;32|X
1D5B8 MATHEMATICAL SANS-SERIF CAPITAL Y;32|Z;24|SMALL A;30|B;30|C;30|D;30|E;30|F;30|G
1D5C1 MATHEMATICAL SANS-SERIF SMALL H;30|I;30|J;30|K;30|L;30|M;30|N;30|O;30|P;30|Q;30|R
1D5CC MATHEMATICAL SANS-SERIF SMALL S;30|T;30|U;30|V;30|W;30|X;30|Y;30|Z
1D5D4 MATHEMATICAL SANS-SERIF BOLD CAPITAL A;37|B;37|C;37|D;37|E;37|F;37|G;37|H;37|I
1D5DD MATHEMATICAL SANS-SERIF BOLD CAPITAL J;37|K;37|L;37|M;37|N;37|O;37|P;37|Q;37|R
1D5E6 MATHEMATICAL SANS-SERIF BOLD CAPITAL S;37|T;37|U;37|V;37|W;37|X;37|Y;37|Z
1D5EE MATHEMATICAL SANS-SERIF BOLD SMALL A;35|B;35|C;35|D;35|E;35|F;35|G;35|H;35|I;35|J
1D5F8 MATHEMATICAL SANS-SERIF BOLD SMALL K;35|L;35|M;35|N;35|O;35|P;35|Q;35|R;35|S;35|T
1D602 MATHEMATICAL SANS-SERIF BOLD SMALL U;35|V;35|W;35|X;35|Y;35|Z;24|ITALIC CAPITAL A
1D609 MATHEMATICAL SANS-SERIF ITALIC CAPITAL B;39|C;39|D;39|E;39|F;39|G;39|H;39|I;39|J
1D612 MATHEMATICAL SANS-SERIF ITALIC CAPITAL K;39|L;39|M;39|N;39|O;39|P;39|Q;39|R;39|S
1D61B MATHEMATICAL SANS-SERIF ITALIC CAPITAL T;39|U;39|V;39|W;39|X;39|Y;39|Z;31|SMALL A
1D623 MATHEMATICAL SANS-SERIF ITALIC SMALL B;37|C;37|D;37|E;37|F;37|G;37|H;37|I;37|J
1D62C MATHEMATICAL SANS-SERIF ITALIC SMALL K;37|L;37|M;37|N;37|O;37|P;37|Q;37|R;37|S
1D635 MATHEMATICAL SANS-SERIF ITALIC SMALL T;37|U;37|V;37|W;37|X;37|Y;37|Z
1D63C MATHEMATICAL SANS-SERIF BOLD ITALIC CAPITAL A;44|B;44|C;44|D;44|E;44|F;44|G;44|H
1D644 MATHEMATICAL SANS-SERIF BOLD ITALIC CAPITAL I;44|J;44|K;44|L;44|M;44|N;44|O;44|P
1D64C MATHEMATICAL SANS-SERIF BOLD ITALIC CAPITAL Q;44|R;44|S;44|T;44|U;44|V;44|W;44|X
1D654 MATHEMATICAL SANS-SERIF BOLD ITALIC CAPITAL Y;44|Z;36|SMALL A;42|B;42|C;42|D;42|E
1D65B MATHEMATICAL SANS-SERIF BOLD ITALIC SMALL F;42|G;42|H;42|I;42|J;42|K;42|L;42|M
1D663 MATHEMATICAL SANS-SERIF BOLD ITALIC SMALL N;42|O;42|P;42|Q;42|R;42|S;42|T;42|U
1D66B MATHEMATICAL SANS-SERIF BOLD ITALIC SMALL V;42|W;42|X;42|Y;42|Z
1D670 MATHEMATICAL MONOSPACE CAPITAL A;31|B;31|C;31|D;31|E;31|F;31|G;31|H;31|I;31|J;31|K
1D67B MATHEMATICAL MONOSPACE CAPITAL L;31|M;31|N;31|O;31|P;31|Q;31|R;31|S;31|T;31|U;31|V
1D686 MATHEMATICAL MONOSPACE CAPITAL W;31|X;31|Y;31|Z;23|SMALL A;29|B;29|C;29|D;29|E
1D68F MATHEMATICAL MONOSPACE SMALL F;29|G;29|H;29|I;29|J;29|K;29|L;29|M;29|N;29|O;29|P
1D69A MATHEMATICAL MONOSPACE SMALL Q;29|R;29|S;29|T;29|U;29|V;29|W;29|X;29|Y;29|Z
1D6A4 MATHEMATICAL ITALIC SMALL DOTLESS I;34|J
1D6A8 MATHEMATICAL BOLD CAPITAL ALPHA;26|BETA;26|GAMMA;26|DELTA;26|EPSILON;26|ZETA
1D6AE MATHEMATICAL BOLD CAPITAL ETA;26|THETA;26|IOTA;26|KAPPA;26|LAMDA;26|MU;26|NU;26|XI
1D6B6 MATHEMATICAL BOLD CAPITAL OMICRON;26|PI;26|RHO;26|THETA SYMBOL;26|SIGMA;26|TAU
1D6BC MATHEMATICAL BOLD CAPITAL UPSILON;26|PHI;26|CHI;26|PSI;26|OMEGA;18|NABLA
1D6C2 MATHEMATICAL BOLD SMALL ALPHA;24|BETA;24|GAMMA;24|DELTA;24|EPSILON;24|ZETA;24|ETA
1D6C9 MATHEMATICAL BOLD SMALL THETA;24|IOTA;24|KAPPA;24|LAMDA;24|MU;24|NU;24|XI
1D6D0 MATHEMATICAL BOLD SMALL OMICRON;24|PI;24|RHO;24|FINAL SIGMA;24|SIGMA;24|TAU
1D6D6 MATHEMATICAL BOLD SMALL UPSILON;24|PHI;24|CHI;24|PSI;24|OMEGA
1D6DB MATHEMATICAL BOLD PARTIAL DIFFERENTIAL;18|EPSILON SYMBOL;18|THETA SYMBOL
1D6DE MATHEMATICAL BOLD KAPPA SYMBOL;18|PHI SYMBOL;18|RHO SYMBOL;18|PI SYMBOL
1D6E2 MATHEMATICAL ITALIC CAPITAL ALPHA;28|BETA;28|GAMMA;28|DELTA;28|EPSILON;28|ZETA
1D6E8 MATHEMATICAL ITALIC CAPITAL ETA;28|THETA;28|IOTA;28|KAPPA;28|LAMDA;28|MU;28|NU
1D6EF MATHEMATICAL ITALIC CAPITAL XI;28|OMICRON;28|PI;28|RHO;28|THETA SYMBOL;28|SIGMA
1D6F5 MATHEMATICAL ITALIC CAPITAL TAU;28|UPSILON;28|PHI;28|CHI;28|PSI;28|OMEGA;20|NABLA
1D6FC MATHEMATICAL ITALIC SMALL ALPHA;26|BETA;26|GAMMA;26|DELTA;26|EPSILON;26|ZETA
1D702 MATHEMATICAL ITALIC SMALL ETA;26|THETA;26|IOTA;26|KAPPA;26|LAMDA;26|MU;26|NU;26|XI
1D70A MATHEMATICAL ITALIC SMALL OMICRON;26|PI;26|RHO;26|FINAL SIGMA;26|SIGMA;26|TAU
1D710 MATHEMATICAL ITALIC SMALL UPSILON;26|PHI;26|CHI;26|PSI;26|OMEGA
1D715 MATHEMATICAL ITALIC PARTIAL DIFFERENTIAL;20|EPSILON SYMBOL;20|THETA SYMBOL
1D718 MATHEMATICAL ITALIC KAPPA SYMBOL;20|PHI SYMBOL;20|RHO SYMBOL;20|PI SYMBOL
1D71C MATHEMATICAL BOLD ITALIC CAPITAL ALPHA;33|BETA;33|GAMMA;33|DELTA;33|EPSILON
1D721 MATHEMATICAL BOLD ITALIC CAPITAL ZETA;33|ETA;33|THETA;33|IOTA;33|KAPPA;33|LAMDA
1D727 MATHEMATICAL BOLD ITALIC CAPITAL MU;33|NU;33|XI;33|OMICRON;33|PI;33|RHO
1D72D MATHEMATICAL BOLD ITALIC CAPITAL THETA SYMBOL;33|SIGMA;33|TAU;33|UPSILON;33|PHI
1D732 MATHEMATICAL BOLD ITALIC CAPITAL CHI;33|PSI;33|OMEGA;25|NABLA;25|SMALL ALPHA
1D737 MATHEMATICAL BOLD ITALIC SMALL BETA;31|GAMMA;31|DELTA;31|EPSILON;31|ZETA;31|ETA
1D73D MATHEMATICAL BOLD ITALIC SMALL THETA;31|IOTA;31|KAPPA;31|LAMDA;31|MU;31|NU;31|XI
1D744 MATHEMATICAL BOLD ITALIC SMALL OMICRON;31|PI;31|RHO;31|FINAL SIGMA;31|SIGMA;31|TAU
1D74A MATHEMATICAL BOLD ITALIC SMALL UPSILON;31|PHI;31|CHI;31|PSI;31|OMEGA
1D74F MATHEMATICAL BOLD ITALIC PARTIAL DIFFERENTIAL;25|EPSILON SYMBOL;25|THETA SYMBOL
1D752 MATHEMATICAL BOLD ITALIC KAPPA SYMBOL;25|PHI SYMBOL;25|RHO SYMBOL;25|PI SYMBOL
1D756 MATHEMATICAL SANS-SERIF BOLD CAPITAL ALPHA;37|BETA;37|GAMMA;37|DELTA;37|EPSILON
1D75B MATHEMATICAL SANS-SERIF BOLD CAPITAL ZETA;37|ETA;37|THETA;37|IOTA;37|KAPPA
1D760 MATHEMATICAL SANS-SERIF BOLD CAPITAL LAMDA;37|MU;37|NU;37|XI;37|OMICRON;37|PI
1D766 MATHEMATICAL SANS-SERIF BOLD CAPITAL RHO;37|THETA SYMBOL;37|SIGMA;37|TAU
1D76A MATHEMATICAL SANS-SERIF BOLD CAPITAL UPSILON;37|PHI;37|CHI;37|PSI;37|OMEGA
1D76F MATHEMATICAL SANS-SERIF BOLD NABLA;29|SMALL ALPHA;35|BETA;35|GAMMA;35|DELTA
1D774 MATHEMATICAL SANS-SERIF BOLD SMALL EPSILON;35|ZETA;35|ETA;35|THETA;35|IOTA
1D779 MATHEMATICAL SANS-SERIF BOLD SMALL KAPPA;35|LAMDA;35|MU;35|NU;35|XI;35|OMICRON
1D77F MATHEMATICAL SANS-SERIF BOLD SMALL PI;35|RHO;35|FINAL SIGMA;35|SIGMA;35|TAU
1D784 MATHEMATICAL SANS-SERIF BOLD SMALL UPSILON;35|PHI;35|CHI;35|PSI;35|OMEGA
1D789 MATHEMATICAL SANS-SERIF BOLD PARTIAL DIFFERENTIAL;29|EPSILON SYMBOL
1D78B MATHEMATICAL SANS-SERIF BOLD THETA SYMBOL;29|KAPPA SYMBOL;29|PHI SYMBOL
1D78E MATHEMATICAL SANS-SERIF BOLD RHO SYMBOL;29|PI SYMBOL;29|ITALIC CAPITAL ALPHA
1D791 MATHEMATICAL SANS-SERIF BOLD ITALIC CAPITAL BETA;44|GAMMA;44|DELTA;44|EPSILON
1D795 MATHEMATICAL SANS-SERIF BOLD ITALIC CAPITAL ZETA;44|ETA;44|THETA;44|IOTA;44|KAPPA
1D79A MATHEMATICAL SANS-SERIF BOLD ITALIC CAPITAL LAMDA;44|MU;44|NU;44|XI;44|OMICRON
1D79F MATHEMATICAL SANS-SERIF BOLD ITALIC CAPITAL PI;44|RHO;44|THETA SYMBOL;44|SIGMA
1D7A3 MATHEMATICAL SANS-SERIF BOLD ITALIC CAPITAL TAU;44|UPSILON;44|PHI;44|CHI;44|PSI
1D7A8 MATHEMATICAL SANS-SERIF BOLD ITALIC CAPITAL OMEGA;36|NABLA;36|SMALL ALPHA;42|BETA
1D7AC MATHEMATICAL SANS-SERIF BOLD ITALIC SMALL GAMMA;42|DELTA;42|EPSILON;42|ZETA;42|ETA
1D7B1 MATHEMATICAL SANS-SERIF BOLD ITALIC SMALL THETA;42|IOTA;42|KAPPA;42|LAMDA;42|MU
1D7B6 MATHEMATICAL SANS-SERIF BOLD ITALIC SMALL NU;42|XI;42|OMICRON;42|PI;42|RHO
1D7BB MATHEMATICAL SANS-SERIF BOLD ITALIC SMALL FINAL SIGMA;42|SIGMA;42|TAU;42|UPSILON
1D7BF MATHEMATICAL SANS-SERIF BOLD ITALIC SMALL PHI;42|CHI;42|PSI;42|OMEGA
1D7C3 MATHEMATICAL SANS-SERIF BOLD ITALIC PARTIAL DIFFERENTIAL;36|EPSILON SYMBOL
1D7C5 MATHEMATICAL SANS-SERIF BOLD ITALIC THETA SYMBOL;36|KAPPA SYMBOL;36|PHI SYMBOL
1D7C8 MATHEMATICAL SANS-SERIF BOLD ITALIC RHO SYMBOL;36|PI SYMBOL
1D7CA MATHEMATICAL BOLD CAPITAL DIGAMMA;18|SMALL DIGAMMA
1D7CE MATHEMATICAL BOLD DIGIT ZERO;24|ONE;24|TWO;25|HREE;24|FOUR;25|IVE;24|SIX;25|EVEN
1D7D6 MATHEMATICAL BOLD DIGIT EIGHT;24|NINE;13|DOUBLE-STRUCK DIGIT ZERO;33|ONE;33|TWO
1D7DB MATHEMATICAL DOUBLE-STRUCK DIGIT THREE;33|FOUR;34|IVE;33|SIX;34|EVEN;33|EIGHT
1D7E1 MATHEMATICAL DOUBLE-STRUCK DIGIT NINE;13|SANS-SERIF DIGIT ZERO;30|ONE;30|TWO
1D7E5 MATHEMATICAL SANS-SERIF DIGIT THREE;30|FOUR;31|IVE;30|SIX;31|EVEN;30|EIGHT;30|NINE
1D7EC MATHEMATICAL SANS-SERIF BOLD DIGIT ZERO;35|ONE;35|TWO;36|HREE;35|FOUR;36|IVE
1D7F2 MATHEMATICAL SANS-SERIF BOLD DIGIT SIX;36|EVEN;35|EIGHT;35|NINE
1D7F6 MATHEMATICAL MONOSPACE DIGIT ZERO;29|ONE;29|TWO;30|HREE;29|FOUR;30|IVE;29|SIX
1D7FD MATHEMATICAL MONOSPACE DIGIT SEVEN;29|EIGHT;29|NINE
1F000 MAHJONG TILE EAST WIND;13|SOUTH WIND;13|WEST WIND;13|NORTH WIND;13|RED DRAGON
1F005 MAHJONG TILE GREEN DRAGON;13|WHITE DRAGON;13|ONE OF CHARACTERS
1F008 MAHJONG TILE TWO OF CHARACTERS;14|HREE OF CHARACTERS;13|FOUR OF CHARACTERS
1F00B MAHJONG TILE FIVE OF CHARACTERS;13|SIX OF CHARACTERS;14|EVEN OF CHARACTERS
1F00E MAHJONG TILE EIGHT OF CHARACTERS;13|NINE OF CHARACTERS;13|ONE OF BAMBOOS
1F011 MAHJONG TILE TWO OF BAMBOOS;14|HREE OF BAMBOOS;13|FOUR OF BAMBOOS
1F014 MAHJONG TILE FIVE OF BAMBOOS;13|SIX OF BAMBOOS;14|EVEN OF BAMBOOS
1F017 MAHJONG TILE EIGHT OF BAMBOOS;13|NINE OF BAMBOOS;13|ONE OF CIRCLES
1F01A MAHJONG TILE TWO OF CIRCLES;14|HREE OF CIRCLES;13|FOUR OF CIRCLES
1F01D MAHJONG TILE FIVE OF CIRCLES;13|SIX OF CIRCLES;14|EVEN OF CIRCLES
1F020 MAHJONG TILE EIGHT OF CIRCLES;13|NINE OF CIRCLES;13|PLUM;13|ORCHID;13|BAMBOO
1F025 MAHJONG TILE CHRYSANTHEMUM;13|SPRING;14|UMMER;13|AUTUMN;13|WINTER;13|JOKER;13|BACK
1F030 DOMINO TILE HORIZONTAL BACK;22|-00-00;27|1;27|2;27|3;27|4;27|5;27|6;24|1-00;27|1
1F03A DOMINO TILE HORIZONTAL-01-02;27|3;27|4;27|5;27|6;24|2-00;27|1;27|2;27|3;27|4;27|5
1F045 DOMINO TILE HORIZONTAL-02-06;24|3-00;27|1;27|2;27|3;27|4;27|5;27|6;24|4-00;27|1
1F04F DOMINO TILE HORIZONTAL-04-02;27|3;27|4;27|5;27|6;24|5-00;27|1;27|2;27|3;27|4;27|5
1F05A DOMINO TILE HORIZONTAL-05-06;24|6-00;27|1;27|2;27|3;27|4;27|5;27|6
1F062 DOMINO TILE VERTICAL BACK;20|-00-00;25|1;25|2;25|3;25|4;25|5;25|6;22|1-00;25|1
1F06C DOMINO TILE VERTICAL-01-02;25|3;25|4;25|5;25|6;22|2-00;25|1;25|2;25|3;25|4;25|5
1F077 DOMINO TILE VERTICAL-02-06;22|3-00;25|1;25|2;25|3;25|4;25|5;25|6;22|4-00;25|1;25|2
1F082 DOMINO TILE VERTICAL-04-03;25|4;25|5;25|6;22|5-00;25|1;25|2;25|3;25|4;25|5;25|6
1F08D DOMINO TILE VERTICAL-06-00;25|1;25|2;25|3;25|4;25|5;25|6
1F0A0 PLAYING CARD BACK;13|ACE OF SPADES;13|TWO OF SPADES;14|HREE OF SPADES
1F0A4 PLAYING CARD FOUR OF SPADES;14|IVE OF SPADES;13|SIX OF SPADES;14|EVEN OF SPADES
1F0A8 PLAYING CARD EIGHT OF SPADES;13|NINE OF SPADES;13|TEN OF SPADES;13|JACK OF SPADES
1F0AC PLAYING CARD KNIGHT OF SPADES;13|QUEEN OF SPADES;13|KING OF SPADES
1F0B1 PLAYING CARD ACE OF HEARTS;13|TWO OF HEARTS;14|HREE OF HEARTS;13|FOUR OF HEARTS
1F0B5 PLAYING CARD FIVE OF HEARTS;13|SIX OF HEARTS;14|EVEN OF HEARTS;13|EIGHT OF HEARTS
1F0B9 PLAYING CARD NINE OF HEARTS;13|TEN OF HEARTS;13|JACK OF HEARTS;13|KNIGHT OF HEARTS
1F0BD PLAYING CARD QUEEN OF HEARTS;13|KING OF HEARTS;13|RED JOKER
1F0C1 PLAYING CARD ACE OF DIAMONDS;13|TWO OF DIAMONDS;14|HREE OF DIAMONDS
1F0C4 PLAYING CARD FOUR OF DIAMONDS;14|IVE OF DIAMONDS;13|SIX OF DIAMONDS
1F0C7 PLAYING CARD SEVEN OF DIAMONDS;13|EIGHT OF DIAMONDS;13|NINE OF DIAMONDS
1F0CA PLAYING CARD TEN OF DIAMONDS;13|JACK OF DIAMONDS;13|KNIGHT OF DIAMONDS
1F0CD PLAYING CARD QUEEN OF DIAMONDS;13|KING OF DIAMONDS;13|BLACK JOKER
1F0D1 PLAYING CARD ACE OF CLUBS;13|TWO OF CLUBS;14|HREE OF CLUBS;13|FOUR OF CLUBS
1F0D5 PLAYING CARD FIVE OF CLUBS;13|SIX OF CLUBS;14|EVEN OF CLUBS;13|EIGHT OF CLUBS
1F0D9 PLAYING CARD NINE OF CLUBS;13|TEN OF CLUBS;13|JACK OF CLUBS;13|KNIGHT OF CLUBS
1F0DD PLAYING CARD QUEEN OF CLUBS;13|KING OF CLUBS;13|WHITE JOKER;13|FOOL;13|TRUMP-1
1F0E2 PLAYING CARD TRUMP-2;19|3;19|4;19|5;19|6;19|7;19|8;19|9;19|10;20|1;20|2;20|3;20|4
1F0EF PLAYING CARD TRUMP-15;20|6;20|7;20|8;20|9;19|20;20|1
1F100 DIGIT ZERO FULL STOP;11|COMMA;6|ONE COMMA;6|TWO COMMA;7|HREE COMMA;6|FOUR COMMA
1F106 DIGIT FIVE COMMA;6|SIX COMMA;7|EVEN COMMA;6|EIGHT COMMA;6|NINE COMMA
1F10B DINGBAT CIRCLED SANS-SERIF DIGIT ZERO;8|NEGATIVE CIRCLED SANS-SERIF DIGIT ZERO
1F10D CIRCLED ZERO WITH SLASH;8|ANTICLOCKWISE ARROW
1F10F CIRCLED DOLLAR SIGN WITH OVERLAID BACKSLASH;0|PARENTHESIZED LATIN CAPITAL LETTER A
1F111 PARENTHESIZED LATIN CAPITAL LETTER B;35|C;35|D;35|E;35|F;35|G;35|H;35|I;35|J;35|K
1F11B PARENTHESIZED LATIN CAPITAL LETTER L;35|M;35|N;35|O;35|P;35|Q;35|R;35|S;35|T;35|U
1F125 PARENTHESIZED LATIN CAPITAL LETTER V;35|W;35|X;35|Y;35|Z
1F12A TORTOISE SHELL BRACKETED LATIN CAPITAL LETTER S
1F12B CIRCLED ITALIC LATIN CAPITAL LETTER C;36|R;8|CD;8|WZ;1|OPYLEFT SYMBOL
1F130 SQUARED LATIN CAPITAL LETTER A;29|B;29|C;29|D;29|E;29|F;29|G;29|H;29|I;29|J;29|K
1F13B SQUARED LATIN CAPITAL LETTER L;29|M;29|N;29|O;29|P;29|Q;29|R;29|S;29|T;29|U;29|V
1F146 SQUARED LATIN CAPITAL LETTER W;29|X;29|Y;29|Z;8|HV;8|MV;8|SD;9|S;8|PPV;8|WC
1F150 NEGATIVE CIRCLED LATIN CAPITAL LETTER A;38|B;38|C;38|D;38|E;38|F;38|G;38|H;38|I
1F159 NEGATIVE CIRCLED LATIN CAPITAL LETTER J;38|K;38|L;38|M;38|N;38|O;38|P;38|Q;38|R
1F162 NEGATIVE CIRCLED LATIN CAPITAL LETTER S;38|T;38|U;38|V;38|W;38|X;38|Y;38|Z
1F16A RAISED MC SIGN;8|D SIGN;8|R SIGN;0|CIRCLED CC;9| WITH OVERLAID BACKSLASH
1F16F CIRCLED HUMAN FIGURE;0|NEGATIVE SQUARED LATIN CAPITAL LETTER A;38|B;38|C;38|D;38|E
1F175 NEGATIVE SQUARED LATIN CAPITAL LETTER F;38|G;38|H;38|I;38|J;38|K;38|L;38|M;38|N
1F17E NEGATIVE SQUARED LATIN CAPITAL LETTER O;38|P;38|Q;38|R;38|S;38|T;38|U;38|V;38|W
1F187 NEGATIVE SQUARED LATIN CAPITAL LETTER X;38|Y;38|Z
1F18A CROSSED NEGATIVE SQUARED LATIN CAPITAL LETTER P;0|NEGATIVE SQUARED IC;17|PA;17|SA
1F18E NEGATIVE SQUARED AB;17|WC;0|SQUARE DJ;6|D CL;9|OOL;8|FREE;8|ID;8|NEW;9|G;8|OK
1F198 SQUARED SOS;8|UP WITH EXCLAMATION MARK;8|VS;8|THREE D;8|SECOND SCREEN;8|TWO K
1F19E SQUARED FOUR K;8|EIGHT K;8|FIVE POINT ONE;8|SEVEN POINT ONE;8|TWENTY-TWO POINT TWO
1F1A3 SQUARED SIXTY P;8|ONE HUNDRED TWENTY P;8|LATIN SMALL LETTER D;8|HC;9|DR;9|I-RES
1F1A9 SQUARED LOSSLESS;8|SHV;8|UHD;8|VOD;0|MASK WORK SYMBOL
1F1E6 REGIONAL INDICATOR SYMBOL LETTER A;33|B;33|C;33|D;33|E;33|F;33|G;33|H;33|I;33|J
1F1F0 REGIONAL INDICATOR SYMBOL LETTER K;33|L;33|M;33|N;33|O;33|P;33|Q;33|R;33|S;33|T
1F1FA REGIONAL INDICATOR SYMBOL LETTER U;33|V;33|W;33|X;33|Y;33|Z;0|SQUARE HIRAGANA HOKA
1F201 SQUARED KATAKANA KOKO;17|SA
1F210 SQUARED CJK UNIFIED IDEOGRAPH-624B;30|5B57;31|3CC;8|KATAKANA DE
1F214 SQUARED CJK UNIFIED IDEOGRAPH-4E8C;30|591A;30|89E3;30|5929;30|4EA4;30|6620;30|7121
1F21B SQUARED CJK UNIFIED IDEOGRAPH-6599;30|524D;31|F8C;31|18D;30|65B0;30|521D;30|7D42
1F222 SQUARED CJK UNIFIED IDEOGRAPH-751F;30|8CA9;30|58F0;31|439;30|6F14;31|295;31|355
1F229 SQUARED CJK UNIFIED IDEOGRAPH-4E00;33|9;30|904A;30|5DE6;30|4E2D;30|53F3;30|6307
1F230 SQUARED CJK UNIFIED IDEOGRAPH-8D70;30|6253;30|7981;31|A7A;30|5408;30|6E80;31|709
1F237 SQUARED CJK UNIFIED IDEOGRAPH-6708;30|7533;30|5272;31|5B6;30|914D
1F240 TORTOISE SHELL BRACKETED CJK UNIFIED IDEOGRAPH-672C;47|4E09;49|8C;47|5B89;47|70B9
1F245 TORTOISE SHELL BRACKETED CJK UNIFIED IDEOGRAPH-6253;47|76D7;47|52DD;47|6557
1F250 CIRCLED IDEOGRAPH ADVANTAGE;19|CCEPT
1F260 ROUNDED SYMBOL FOR FU;19|LU;19|SHOU;19|XI;19|SHUANGXI;19|CAI
1F300 CYCLONE;0|FOGGY;0|CLOSED UMBRELLA;0|NIGHT WITH STARS;0|SUNRISE OVER MOUNTAINS;7|
1F306 CITYSCAPE AT DUSK;0|SUNSET OVER BUILDINGS;0|RAINBOW;0|BRIDGE AT NIGHT;0|WATER WAVE
1F30B VOLCANO;0|MILKY WAY;0|EARTH GLOBE EUROPE-AFRICA;12|AMERICAS;13|SIA-AUSTRALIA
1F310 GLOBE WITH MERIDIANS;0|NEW MOON SYMBOL;0|WAXING CRESCENT MOON SYMBOL
1F313 FIRST QUARTER MOON SYMBOL;0|WAXING GIBBOUS MOON SYMBOL;0|FULL MOON SYMBOL
1F316 WANING GIBBOUS MOON SYMBOL;0|LAST QUARTER MOON SYMBOL
1F318 WANING CRESCENT MOON SYMBOL;0|CRESCENT MOON;0|NEW MOON WITH FACE
1F31B FIRST QUARTER MOON WITH FACE;0|LAST QUARTER MOON WITH FACE;0|FULL MOON WITH FACE
1F31E SUN WITH FACE;0|GLOWING STAR;0|SHOOTING STAR;0|THERMOMETER;0|BLACK DROPLET
1F323 WHITE SUN;9| WITH SMALL CLOUD;10|BEHIND CLOUD;22| WITH RAIN;0|CLOUD WITH RAIN
1F328 CLOUD WITH SNOW;11|LIGHTNING;11|TORNADO;0|FOG;0|WIND BLOWING FACE;0|HOT DOG;0|TACO
1F32F BURRITO;0|CHESTNUT;0|SEEDLING;0|EVERGREEN TREE;0|DECIDUOUS TREE;0|PALM TREE
1F335 CACTUS;0|HOT PEPPER;0|TULIP;0|CHERRY BLOSSOM;0|ROSE;0|HIBISCUS;0|SUNFLOWER
1F33C BLOSSOM;0|EAR OF MAIZE;7|RICE;0|HERB;0|FOUR LEAF CLOVER;0|MAPLE LEAF;0|FALLEN LEAF
1F343 LEAF FLUTTERING IN WIND;0|MUSHROOM;0|TOMATO;0|AUBERGINE;0|GRAPES;0|MELON
1F349 WATERMELON;0|TANGERINE;0|LEMON;0|BANANA;0|PINEAPPLE;0|RED APPLE;0|GREEN APPLE
1F350 PEAR;3|CH;0|CHERRIES;0|STRAWBERRY;0|HAMBURGER;0|SLICE OF PIZZA;0|MEAT ON BONE
1F357 POULTRY LEG;0|RICE CRACKER;5|BALL;0|COOKED RICE;1|URRY AND RICE;0|STEAMING BOWL
1F35D SPAGHETTI;0|BREAD;0|FRENCH FRIES;0|ROASTED SWEET POTATO;0|DANGO;0|ODEN;0|SUSHI
1F364 FRIED SHRIMP;1|ISH CAKE WITH SWIRL DESIGN;0|SOFT ICE CREAM;1|HAVED ICE;0|ICE CREAM
1F369 DOUGHNUT;0|COOKIE;1|HOCOLATE BAR;1|ANDY;0|LOLLIPOP;0|CUSTARD;0|HONEY POT
1F370 SHORTCAKE;0|BENTO BOX;0|POT OF FOOD;0|COOKING;0|FORK AND KNIFE
1F375 TEACUP WITHOUT HANDLE;0|SAKE BOTTLE AND CUP;0|WINE GLASS;0|COCKTAIL GLASS
1F379 TROPICAL DRINK;0|BEER MUG;0|CLINKING BEER MUGS;0|BABY BOTTLE
1F37D FORK AND KNIFE WITH PLATE;0|BOTTLE WITH POPPING CORK;0|POPCORN;0|RIBBON
1F381 WRAPPED PRESENT;0|BIRTHDAY CAKE;0|JACK-O-LANTERN;0|CHRISTMAS TREE
1F385 FATHER CHRISTMAS;1|IREWORKS;8| SPARKLER;0|BALLOON;0|PARTY POPPER;0|CONFETTI BALL
1F38B TANABATA TREE;0|CROSSED FLAGS;0|PINE DECORATION;0|JAPANESE DOLLS;0|CARP STREAMER
1F390 WIND CHIME;0|MOON VIEWING CEREMONY;0|SCHOOL SATCHEL;0|GRADUATION CAP
1F394 HEART WITH TIP ON THE LEFT;0|BOUQUET OF FLOWERS;0|MILITARY MEDAL;0|REMINDER RIBBON
1F398 MUSICAL KEYBOARD WITH JACKS;0|STUDIO MICROPHONE;0|LEVEL SLIDER;0|CONTROL KNOBS
1F39C BEAMED ASCENDING MUSICAL NOTES;7|DESCENDING MUSICAL NOTES;0|FILM FRAMES
1F39F ADMISSION TICKETS;0|CAROUSEL HORSE;0|FERRIS WHEEL;0|ROLLER COASTER
1F3A3 FISHING POLE AND FISH;0|MICROPHONE;1|OVIE CAMERA;0|CINEMA;0|HEADPHONE
1F3A8 ARTIST PALETTE;0|TOP HAT;0|CIRCUS TENT;0|TICKET;0|CLAPPER BOARD;0|PERFORMING ARTS
1F3AE VIDEO GAME;0|DIRECT HIT;0|SLOT MACHINE;0|BILLIARDS;0|GAME DIE;0|BOWLING
1F3B4 FLOWER PLAYING CARDS;0|MUSICAL NOTE;2|LTIPLE MUSICAL NOTES;0|SAXOPHONE;0|GUITAR
1F3B9 MUSICAL KEYBOARD;0|TRUMPET;0|VIOLIN;0|MUSICAL SCORE;0|RUNNING SHIRT WITH SASH
1F3BE TENNIS RACQUET AND BALL;0|SKI AND SKI BOOT;0|BASKETBALL AND HOOP;0|CHEQUERED FLAG
1F3C2 SNOWBOARDER;0|RUNNER;0|SURFER;1|PORTS MEDAL;0|TROPHY;0|HORSE RACING
1F3C8 AMERICAN FOOTBALL;0|RUGBY FOOTBALL;0|SWIMMER;0|WEIGHT LIFTER;0|GOLFER
1F3CD RACING MOTORCYCLE;7|CAR;0|CRICKET BAT AND BALL;0|VOLLEYBALL
1F3D1 FIELD HOCKEY STICK AND BALL;0|ICE HOCKEY STICK AND PUCK
1F3D3 TABLE TENNIS PADDLE AND BALL;0|SNOW CAPPED MOUNTAIN;0|CAMPING
1F3D6 BEACH WITH UMBRELLA;1|UILDING CONSTRUCTION;0|HOUSE BUILDINGS;0|CITYSCAPE
1F3DA DERELICT HOUSE BUILDING;0|CLASSICAL BUILDING;0|DESERT;6| ISLAND;0|NATIONAL PARK
1F3DF STADIUM;0|HOUSE BUILDING;6|WITH GARDEN;0|OFFICE BUILDING;0|JAPANESE POST OFFICE
1F3E4 EUROPEAN POST OFFICE;0|HOSPITAL;0|BANK;0|AUTOMATED TELLER MACHINE;0|HOTEL
1F3E9 LOVE HOTEL;0|CONVENIENCE STORE;0|SCHOOL;0|DEPARTMENT STORE;0|FACTORY
1F3EE IZAKAYA LANTERN;0|JAPANESE CASTLE;0|EUROPEAN CASTLE;0|WHITE PENNANT
1F3F2 BLACK PENNANT;0|WAVING WHITE FLAG;7|BLACK FLAG;0|ROSETTE;0|BLACK ROSETTE;0|LABEL
1F3F8 BADMINTON RACQUET AND SHUTTLECOCK;1|OW AND ARROW;0|AMPHORA
1F3FB EMOJI MODIFIER FITZPATRICK TYPE-1-2;32|3;32|4;32|5;32|6;0|RAT;0|MOUSE;0|OX
1F403 WATER BUFFALO;0|COW;0|TIGER;0|LEOPARD;0|RABBIT;0|CAT;0|DRAGON;0|CROCODILE;0|WHALE
1F40C SNAIL;3|KE;0|HORSE;0|RAM;0|GOAT;0|SHEEP;0|MONKEY;0|ROOSTER;0|CHICKEN;0|DOG;0|PIG
1F417 BOAR;0|ELEPHANT;0|OCTOPUS;0|SPIRAL SHELL;0|BUG;0|ANT;0|HONEYBEE;0|LADY BEETLE
1F41F FISH;0|TROPICAL FISH;0|BLOWFISH;0|TURTLE;0|HATCHING CHICK;0|BABY CHICK
1F425 FRONT-FACING BABY CHICK;0|BIRD;0|PENGUIN;0|KOALA;0|POODLE;0|DROMEDARY CAMEL
1F42B BACTRIAN CAMEL;0|DOLPHIN;0|MOUSE FACE;0|COW FACE;0|TIGER FACE;0|RABBIT FACE
1F431 CAT FACE;0|DRAGON FACE;0|SPOUTING WHALE;0|HORSE FACE;0|MONKEY FACE;0|DOG FACE
1F437 PIG FACE;0|FROG FACE;0|HAMSTER FACE;0|WOLF FACE;0|BEAR FACE;0|PANDA FACE;1|IG NOSE
1F43E PAW PRINTS;0|CHIPMUNK;0|EYES;3|;1|AR;0|NOSE;0|MOUTH;0|TONGUE
1F446 WHITE UP POINTING BACKHAND INDEX;6|DOWN POINTING BACKHAND INDEX
1F448 WHITE LEFT POINTING BACKHAND INDEX;6|RIGHT POINTING BACKHAND INDEX
1F44A FISTED HAND SIGN;0|WAVING HAND SIGN;0|OK HAND SIGN;0|THUMBS UP SIGN;7|DOWN SIGN
1F44F CLAPPING HANDS SIGN;0|OPEN HANDS SIGN;0|CROWN;0|WOMANS HAT;0|EYEGLASSES;0|NECKTIE
1F455 T-SHIRT;0|JEANS;0|DRESS;0|KIMONO;0|BIKINI;0|WOMANS CLOTHES;0|PURSE;0|HANDBAG
1F45D POUCH;0|MANS SHOE;0|ATHLETIC SHOE;0|HIGH-HEELED SHOE;0|WOMANS SANDAL;7|BOOTS
1F463 FOOTPRINTS;0|BUST IN SILHOUETTE;4|S IN SILHOUETTE;1|OY;0|GIRL;0|MAN;0|WOMAN
1F46A FAMILY;0|MAN AND WOMAN HOLDING HANDS;0|TWO MEN HOLDING HANDS;4|WOMEN HOLDING HANDS
1F46E POLICE OFFICER;0|WOMAN WITH BUNNY EARS;0|BRIDE WITH VEIL;0|PERSON WITH BLOND HAIR
1F472 MAN WITH GUA PI MAO;9|TURBAN;0|OLDER MAN;6|WOMAN;0|BABY;0|CONSTRUCTION WORKER
1F478 PRINCESS;0|JAPANESE OGRE;9|GOBLIN;0|GHOST;0|BABY ANGEL;0|EXTRATERRESTRIAL ALIEN
1F47E ALIEN MONSTER;0|IMP;0|SKULL;0|INFORMATION DESK PERSON;0|GUARDSMAN;0|DANCER
1F484 LIPSTICK;0|NAIL POLISH;0|FACE MASSAGE;0|HAIRCUT;0|BARBER POLE;0|SYRINGE;0|PILL
1F48B KISS MARK;0|LOVE LETTER;0|RING;0|GEM STONE;0|KISS;0|BOUQUET;0|COUPLE WITH HEART
1F492 WEDDING;0|BEATING HEART;1|ROKEN HEART;0|TWO HEARTS;0|SPARKLING HEART
1F497 GROWING HEART;0|HEART WITH ARROW;0|BLUE HEART;0|GREEN HEART;0|YELLOW HEART
1F49C PURPLE HEART;0|HEART WITH RIBBON;0|REVOLVING HEARTS;0|HEART DECORATION
1F4A0 DIAMOND SHAPE WITH A DOT INSIDE;0|ELECTRIC LIGHT BULB;0|ANGER SYMBOL;0|BOMB
1F4A4 SLEEPING SYMBOL;0|COLLISION SYMBOL;0|SPLASHING SWEAT SYMBOL;0|DROPLET;1|ASH SYMBOL
1F4A9 PILE OF POO;0|FLEXED BICEPS;0|DIZZY SYMBOL;0|SPEECH BALLOON;0|THOUGHT BALLOON
1F4AE WHITE FLOWER;0|HUNDRED POINTS SYMBOL;0|MONEY BAG;0|CURRENCY EXCHANGE
1F4B2 HEAVY DOLLAR SIGN;0|CREDIT CARD;0|BANKNOTE WITH YEN SIGN;14|DOLLAR SIGN
1F4B6 BANKNOTE WITH EURO SIGN;14|POUND SIGN;0|MONEY WITH WINGS
1F4B9 CHART WITH UPWARDS TREND AND YEN SIGN;0|SEAT;0|PERSONAL COMPUTER;0|BRIEFCASE
1F4BD MINIDISC;0|FLOPPY DISK;0|OPTICAL DISC;0|DVD;0|FILE FOLDER;0|OPEN FILE FOLDER
1F4C3 PAGE WITH CURL;5|FACING UP;0|CALENDAR;0|TEAR-OFF CALENDAR;0|CARD INDEX
1F4C8 CHART WITH UPWARDS TREND;11|DOWNWARDS TREND;0|BAR CHART;0|CLIPBOARD;0|PUSHPIN
1F4CD ROUND PUSHPIN;0|PAPERCLIP;0|STRAIGHT RULER;0|TRIANGULAR RULER;0|BOOKMARK TABS
1F4D2 LEDGER;0|NOTEBOOK;8| WITH DECORATIVE COVER;0|CLOSED BOOK;0|OPEN BOOK;0|GREEN BOOK
1F4D8 BLUE BOOK;0|ORANGE BOOK;0|BOOKS;0|NAME BADGE;0|SCROLL;0|MEMO;0|TELEPHONE RECEIVER
1F4DF PAGER;0|FAX MACHINE;0|SATELLITE ANTENNA;0|PUBLIC ADDRESS LOUDSPEAKER
1F4E3 CHEERING MEGAPHONE;0|OUTBOX TRAY;0|INBOX TRAY;0|PACKAGE;0|E-MAIL SYMBOL
1F4E8 INCOMING ENVELOPE;0|ENVELOPE WITH DOWNWARDS ARROW ABOVE
1F4EA CLOSED MAILBOX WITH LOWERED FLAG;20|RAISED FLAG;0|OPEN MAILBOX WITH RAISED FLAG
1F4ED OPEN MAILBOX WITH LOWERED FLAG;0|POSTBOX;4|AL HORN;0|NEWSPAPER;0|MOBILE PHONE
1F4F2 MOBILE PHONE WITH RIGHTWARDS ARROW AT LEFT;0|VIBRATION MODE;0|MOBILE PHONE OFF
1F4F5 NO MOBILE PHONES;0|ANTENNA WITH BARS;0|CAMERA;6| WITH FLASH;0|VIDEO CAMERA
1F4FA TELEVISION;0|RADIO;0|VIDEOCASSETTE;0|FILM PROJECTOR;0|PORTABLE STEREO
1F4FF PRAYER BEADS;0|TWISTED RIGHTWARDS ARROWS
1F501 CLOCKWISE RIGHTWARDS AND LEFTWARDS OPEN CIRCLE ARROWS;53| WITH CIRCLED ONE OVERLAY
1F503 CLOCKWISE DOWNWARDS AND UPWARDS OPEN CIRCLE ARROWS
1F504 ANTICLOCKWISE DOWNWARDS AND UPWARDS OPEN CIRCLE ARROWS;0|LOW BRIGHTNESS SYMBOL
1F506 HIGH BRIGHTNESS SYMBOL;0|SPEAKER WITH CANCELLATION STROKE;7|
1F509 SPEAKER WITH ONE SOUND WAVE;13|THREE SOUND WAVES;0|BATTERY;0|ELECTRIC PLUG
1F50D LEFT-POINTING MAGNIFYING GLASS;0|RIGHT-POINTING MAGNIFYING GLASS
1F50F LOCK WITH INK PEN;0|CLOSED LOCK WITH KEY;0|KEY;0|LOCK;0|OPEN LOCK;0|BELL
1F515 BELL WITH CANCELLATION STROKE;1|OOKMARK;0|LINK SYMBOL;0|RADIO BUTTON
1F519 BACK WITH LEFTWARDS ARROW ABOVE;0|END WITH LEFTWARDS ARROW ABOVE
1F51B ON WITH EXCLAMATION MARK WITH LEFT RIGHT ARROW ABOVE
1F51C SOON WITH RIGHTWARDS ARROW ABOVE;0|TOP WITH UPWARDS ARROW ABOVE
1F51E NO ONE UNDER EIGHTEEN SYMBOL;0|KEYCAP TEN;0|INPUT SYMBOL FOR LATIN CAPITAL LETTERS
1F521 INPUT SYMBOL FOR LATIN SMALL LETTERS;17|NUMBERS;17|SYMBOLS;17|LATIN LETTERS;0|FIRE
1F526 ELECTRIC TORCH;0|WRENCH;0|HAMMER;0|NUT AND BOLT;0|HOCHO;0|PISTOL;0|MICROSCOPE
1F52D TELESCOPE;0|CRYSTAL BALL;0|SIX POINTED STAR WITH MIDDLE DOT
1F530 JAPANESE SYMBOL FOR BEGINNER;0|TRIDENT EMBLEM;0|BLACK SQUARE BUTTON
1F533 WHITE SQUARE BUTTON;0|LARGE RED CIRCLE;6|BLUE CIRCLE;6|ORANGE DIAMOND
1F537 LARGE BLUE DIAMOND;0|SMALL ORANGE DIAMOND;6|BLUE DIAMOND
1F53A UP-POINTING RED TRIANGLE;0|DOWN-POINTING RED TRIANGLE
1F53C UP-POINTING SMALL RED TRIANGLE;0|DOWN-POINTING SMALL RED TRIANGLE
1F53E LOWER RIGHT SHADOWED WHITE CIRCLE;0|UPPER RIGHT SHADOWED WHITE CIRCLE
1F540 CIRCLED CROSS POMMEE;1|ROSS POMMEE WITH HALF-CIRCLE BELOW;12|
1F543 NOTCHED LEFT SEMICIRCLE WITH THREE DOTS;8|RIGHT SEMICIRCLE WITH THREE DOTS
1F545 SYMBOL FOR MARKS CHAPTER;0|WHITE LATIN CROSS;0|HEAVY LATIN CROSS;0|CELTIC CROSS
1F549 OM SYMBOL;0|DOVE OF PEACE;0|KAABA;0|MOSQUE;0|SYNAGOGUE
1F54E MENORAH WITH NINE BRANCHES;0|BOWL OF HYGIEIA;0|CLOCK FACE ONE OCLOCK;11|TWO OCLOCK
1F552 CLOCK FACE THREE OCLOCK;11|FOUR OCLOCK;12|IVE OCLOCK;11|SIX OCLOCK;12|EVEN OCLOCK
1F557 CLOCK FACE EIGHT OCLOCK;11|NINE OCLOCK;11|TEN OCLOCK;11|ELEVEN OCLOCK
1F55B CLOCK FACE TWELVE OCLOCK;11|ONE-THIRTY;11|TWO-THIRTY;12|HREE-THIRTY;11|FOUR-THIRTY
1F560 CLOCK FACE FIVE-THIRTY;11|SIX-THIRTY;12|EVEN-THIRTY;11|EIGHT-THIRTY;11|NINE-THIRTY
1F565 CLOCK FACE TEN-THIRTY;11|ELEVEN-THIRTY;11|TWELVE-THIRTY;0|RIGHT SPEAKER
1F569 RIGHT SPEAKER WITH ONE SOUND WAVE;19|THREE SOUND WAVES;0|BULLHORN
1F56C BULLHORN WITH SOUND WAVES;0|RINGING BELL;0|BOOK;0|CANDLE;0|MANTELPIECE CLOCK
1F571 BLACK SKULL AND CROSSBONES;0|NO PIRACY;0|HOLE;0|MAN IN BUSINESS SUIT LEVITATING
1F575 SLEUTH OR SPY;0|DARK SUNGLASSES;0|SPIDER;6| WEB;0|JOYSTICK;0|MAN DANCING
1F57B LEFT HAND TELEPHONE RECEIVER;0|TELEPHONE RECEIVER WITH PAGE
1F57D RIGHT HAND TELEPHONE RECEIVER;0|WHITE TOUCHTONE TELEPHONE
1F57F BLACK TOUCHTONE TELEPHONE;0|TELEPHONE ON TOP OF MODEM;0|CLAMSHELL MOBILE PHONE
1F582 BACK OF ENVELOPE;0|STAMPED ENVELOPE;0|ENVELOPE WITH LIGHTNING;0|FLYING ENVELOPE
1F586 PEN OVER STAMPED ENVELOPE;0|LINKED PAPERCLIPS;0|BLACK PUSHPIN;0|LOWER LEFT PENCIL
1F58A LOWER LEFT BALLPOINT PEN;11|FOUNTAIN PEN;11|PAINTBRUSH;11|CRAYON
1F58E LEFT WRITING HAND;0|TURNED OK HAND SIGN;0|RAISED HAND WITH FINGERS SPLAYED
1F591 REVERSED RAISED HAND WITH FINGERS SPLAYED;9|THUMBS UP SIGN;16|DOWN SIGN
1F594 REVERSED VICTORY HAND;9|HAND WITH MIDDLE FINGER EXTENDED
1F596 RAISED HAND WITH PART BETWEEN MIDDLE AND RING FINGERS
1F597 WHITE DOWN POINTING LEFT HAND INDEX;0|SIDEWAYS WHITE LEFT POINTING INDEX
1F599 SIDEWAYS WHITE RIGHT POINTING INDEX;9|BLACK LEFT POINTING INDEX
1F59B SIDEWAYS BLACK RIGHT POINTING INDEX;0|BLACK LEFT POINTING BACKHAND INDEX
1F59D BLACK RIGHT POINTING BACKHAND INDEX;0|SIDEWAYS WHITE UP POINTING INDEX
1F59F SIDEWAYS WHITE DOWN POINTING INDEX;9|BLACK UP POINTING INDEX
1F5A1 SIDEWAYS BLACK DOWN POINTING INDEX;0|BLACK UP POINTING BACKHAND INDEX
1F5A3 BLACK DOWN POINTING BACKHAND INDEX;6|HEART;0|DESKTOP COMPUTER;0|KEYBOARD AND MOUSE
1F5A7 THREE NETWORKED COMPUTERS;0|PRINTER;1|OCKET CALCULATOR
1F5AA BLACK HARD SHELL FLOPPY DISK;0|WHITE HARD SHELL FLOPPY DISK
1F5AC SOFT SHELL FLOPPY DISK;0|TAPE CARTRIDGE;0|WIRED KEYBOARD;0|ONE BUTTON MOUSE
1F5B0 TWO BUTTON MOUSE;1|HREE BUTTON MOUSE;1|RACKBALL;0|OLD PERSONAL COMPUTER
1F5B4 HARD DISK;0|SCREEN;0|PRINTER ICON;0|FAX ICON;0|OPTICAL DISC ICON
1F5B9 DOCUMENT WITH TEXT;18| AND PICTURE;14|PICTURE;0|FRAME WITH PICTURE;11|TILES
1F5BE FRAME WITH AN X;0|BLACK FOLDER;0|FOLDER;0|OPEN FOLDER;0|CARD INDEX DIVIDERS
1F5C3 CARD FILE BOX;0|FILE CABINET;0|EMPTY NOTE;10| PAGE;13|D;0|NOTE;4| PAGE;7|D
1F5CB EMPTY DOCUMENT;6|PAGE;10|S;0|DOCUMENT;0|PAGE;4|S;0|WASTEBASKET;0|SPIRAL NOTE PAD
1F5D3 SPIRAL CALENDAR PAD;0|DESKTOP WINDOW;0|MINIMIZE;1|AXIMIZE;0|OVERLAP
1F5D8 CLOCKWISE RIGHT AND LEFT SEMICIRCLE ARROWS;1|ANCELLATION X
1F5DA INCREASE FONT SIZE SYMBOL;0|DECREASE FONT SIZE SYMBOL;0|COMPRESSION;0|OLD KEY
1F5DE ROLLED-UP NEWSPAPER;0|PAGE WITH CIRCLED TEXT;0|STOCK CHART;0|DAGGER KNIFE;0|LIPS
1F5E3 SPEAKING HEAD IN SILHOUETTE;0|THREE RAYS ABOVE;11|BELOW;11|LEFT;11|RIGHT
1F5E8 LEFT SPEECH BUBBLE;0|RIGHT SPEECH BUBBLE;0|TWO SPEECH BUBBLES
1F5EB THREE SPEECH BUBBLES;0|LEFT THOUGHT BUBBLE;0|RIGHT THOUGHT BUBBLE
1F5EE LEFT ANGER BUBBLE;0|RIGHT ANGER BUBBLE;0|MOOD BUBBLE;0|LIGHTNING MOOD BUBBLE;14|
1F5F3 BALLOT BOX WITH BALLOT;7|SCRIPT X;7|BOX WITH SCRIPT X;9|LD SCRIPT X
1F5F7 BALLOT BOX WITH BOLD SCRIPT X;0|LIGHT CHECK MARK;0|BALLOT BOX WITH BOLD CHECK
1F5FA WORLD MAP;0|MOUNT FUJI;0|TOKYO TOWER;0|STATUE OF LIBERTY;1|ILHOUETTE OF JAPAN
1F5FF MOYAI;0|GRINNING FACE;13| WITH SMILING EYES;0|FACE WITH TEARS OF JOY
1F603 SMILING FACE WITH OPEN MOUTH;28| AND SMILING EYES;33|COLD SWEAT
1F606 SMILING FACE WITH OPEN MOUTH AND TIGHTLY-CLOSED EYES;18|HALO;19|ORNS
1F609 WINKING FACE;0|SMILING FACE WITH SMILING EYES;0|FACE SAVOURING DELICIOUS FOOD
1F60C RELIEVED FACE;0|SMILING FACE WITH HEART-SHAPED EYES;18|SUNGLASSES;3|RKING FACE
1F610 NEUTRAL FACE;0|EXPRESSIONLESS FACE;0|UNAMUSED FACE;0|FACE WITH COLD SWEAT
1F614 PENSIVE FACE;0|CONFUSED FACE;4|OUNDED FACE;0|KISSING FACE;0|FACE THROWING A KISS
1F619 KISSING FACE WITH SMILING EYES;18|CLOSED EYES;0|FACE WITH STUCK-OUT TONGUE
1F61C FACE WITH STUCK-OUT TONGUE AND WINKING EYE;31|TIGHTLY-CLOSED EYES
1F61E DISAPPOINTED FACE;0|WORRIED FACE;0|ANGRY FACE;0|POUTING FACE;0|CRYING FACE
1F623 PERSEVERING FACE;0|FACE WITH LOOK OF TRIUMPH;0|DISAPPOINTED BUT RELIEVED FACE
1F626 FROWNING FACE WITH OPEN MOUTH;0|ANGUISHED FACE;0|FEARFUL FACE;0|WEARY FACE
1F62A SLEEPY FACE;0|TIRED FACE;0|GRIMACING FACE;0|LOUDLY CRYING FACE
1F62E FACE WITH OPEN MOUTH;0|HUSHED FACE;0|FACE WITH OPEN MOUTH AND COLD SWEAT
1F631 FACE SCREAMING IN FEAR;0|ASTONISHED FACE;0|FLUSHED FACE;0|SLEEPING FACE
1F635 DIZZY FACE;0|FACE WITHOUT MOUTH;9| MEDICAL MASK
1F638 GRINNING CAT FACE WITH SMILING EYES;0|CAT FACE WITH TEARS OF JOY
1F63A SMILING CAT FACE WITH OPEN MOUTH;22|HEART-SHAPED EYES;0|CAT FACE WITH WRY SMILE
1F63D KISSING CAT FACE WITH CLOSED EYES;0|POUTING CAT FACE;0|CRYING CAT FACE
1F640 WEARY CAT FACE;0|SLIGHTLY FROWNING FACE;9|SMILING FACE;0|UPSIDE-DOWN FACE
1F644 FACE WITH ROLLING EYES;10|NO GOOD GESTURE;10|OK GESTURE;0|PERSON BOWING DEEPLY
1F648 SEE-NO-EVIL MONKEY;0|HEAR-NO-EVIL MONKEY;0|SPEAK-NO-EVIL MONKEY
1F64B HAPPY PERSON RAISING ONE HAND;0|PERSON RAISING BOTH HANDS IN CELEBRATION
1F64D PERSON FROWNING;7|WITH POUTING FACE;12|FOLDED HANDS;0|NORTH WEST POINTING LEAF
1F651 SOUTH WEST POINTING LEAF;0|NORTH EAST POINTING LEAF;0|SOUTH EAST POINTING LEAF
1F654 TURNED NORTH WEST POINTING LEAF;7|SOUTH WEST POINTING LEAF
1F656 TURNED NORTH EAST POINTING LEAF;7|SOUTH EAST POINTING LEAF
1F658 NORTH WEST POINTING VINE LEAF;0|SOUTH WEST POINTING VINE LEAF
1F65A NORTH EAST POINTING VINE LEAF;0|SOUTH EAST POINTING VINE LEAF
1F65C HEAVY NORTH WEST POINTING VINE LEAF;6|SOUTH WEST POINTING VINE LEAF
1F65E HEAVY NORTH EAST POINTING VINE LEAF;6|SOUTH EAST POINTING VINE LEAF
1F660 NORTH WEST POINTING BUD;0|SOUTH WEST POINTING BUD;0|NORTH EAST POINTING BUD
1F663 SOUTH EAST POINTING BUD;0|HEAVY NORTH WEST POINTING BUD;6|SOUTH WEST POINTING BUD
1F666 HEAVY NORTH EAST POINTING BUD;6|SOUTH EAST POINTING BUD
1F668 HOLLOW QUILT SQUARE ORNAMENT;28| IN BLACK SQUARE;0|SOLID QUILT SQUARE ORNAMENT
1F66B SOLID QUILT SQUARE ORNAMENT IN BLACK SQUARE;0|LEFTWARDS ROCKET;0|UPWARDS ROCKET
1F66E RIGHTWARDS ROCKET;0|DOWNWARDS ROCKET;0|SCRIPT LIGATURE ET ORNAMENT
1F671 HEAVY SCRIPT LIGATURE ET ORNAMENT;0|LIGATURE OPEN ET ORNAMENT
1F673 HEAVY LIGATURE OPEN ET ORNAMENT;6|AMPERSAND ORNAMENT;0|SWASH AMPERSAND ORNAMENT
1F676 SANS-SERIF HEAVY DOUBLE TURNED COMMA QUOTATION MARK ORNAMENT
1F677 SANS-SERIF HEAVY DOUBLE COMMA QUOTATION MARK ORNAMENT
1F678 SANS-SERIF HEAVY LOW DOUBLE COMMA QUOTATION MARK ORNAMENT
1F679 HEAVY INTERROBANG ORNAMENT;0|SANS-SERIF INTERROBANG ORNAMENT
1F67B HEAVY SANS-SERIF INTERROBANG ORNAMENT;0|VERY HEAVY SOLIDUS;11|REVERSE SOLIDUS
1F67E CHECKER BOARD;0|REVERSE CHECKER BOARD;1|OCKET;0|HELICOPTER;0|STEAM LOCOMOTIVE
1F683 RAILWAY CAR;0|HIGH-SPEED TRAIN;16| WITH BULLET NOSE;0|TRAIN;0|METRO;0|LIGHT RAIL
1F689 STATION;0|TRAM;4| CAR;0|BUS;0|ONCOMING BUS;0|TROLLEYBUS;0|BUS STOP;0|MINIBUS
1F691 AMBULANCE;0|FIRE ENGINE;0|POLICE CAR;0|ONCOMING POLICE CAR;0|TAXI;0|ONCOMING TAXI
1F697 AUTOMOBILE;0|ONCOMING AUTOMOBILE;0|RECREATIONAL VEHICLE;0|DELIVERY TRUCK
1F69B ARTICULATED LORRY;0|TRACTOR;0|MONORAIL;2|UNTAIN RAILWAY;0|SUSPENSION RAILWAY
1F6A0 MOUNTAIN CABLEWAY;0|AERIAL TRAMWAY;0|SHIP;0|ROWBOAT;0|SPEEDBOAT
1F6A5 HORIZONTAL TRAFFIC LIGHT;0|VERTICAL TRAFFIC LIGHT;0|CONSTRUCTION SIGN
1F6A8 POLICE CARS REVOLVING LIGHT;0|TRIANGULAR FLAG ON POST;0|DOOR;0|NO ENTRY SIGN
1F6AC SMOKING SYMBOL;0|NO SMOKING SYMBOL;0|PUT LITTER IN ITS PLACE SYMBOL
1F6AF DO NOT LITTER SYMBOL;0|POTABLE WATER SYMBOL;0|NON-POTABLE WATER SYMBOL;0|BICYCLE
1F6B3 NO BICYCLES;0|BICYCLIST;0|MOUNTAIN BICYCLIST;0|PEDESTRIAN;0|NO PEDESTRIANS
1F6B8 CHILDREN CROSSING;0|MENS SYMBOL;0|WOMENS SYMBOL;0|RESTROOM;0|BABY SYMBOL;0|TOILET
1F6BE WATER CLOSET;0|SHOWER;0|BATH;4|TUB;0|PASSPORT CONTROL;0|CUSTOMS;0|BAGGAGE CLAIM
1F6C5 LEFT LUGGAGE;0|TRIANGLE WITH ROUNDED CORNERS;0|PROHIBITED SIGN
1F6C8 CIRCLED INFORMATION SOURCE;0|BOYS SYMBOL;0|GIRLS SYMBOL;0|COUCH AND LAMP
1F6CC SLEEPING ACCOMMODATION;1|HOPPING BAGS;0|BELLHOP BELL;2|D;0|PLACE OF WORSHIP
1F6D1 OCTAGONAL SIGN;0|SHOPPING TROLLEY;1|TUPA;0|PAGODA;0|HINDU TEMPLE;1|UT;0|ELEVATOR
1F6DD PLAYGROUND SLIDE;0|WHEEL;0|RING BUOY;0|HAMMER AND WRENCH;0|SHIELD;0|OIL DRUM
1F6E3 MOTORWAY;0|RAILWAY TRACK;0|MOTOR BOAT;0|UP-POINTING MILITARY AIRPLANE;12|AIRPLANE
1F6E8 UP-POINTING SMALL AIRPLANE;0|SMALL AIRPLANE;0|NORTHEAST-POINTING AIRPLANE
1F6EB AIRPLANE DEPARTURE;9|ARRIVING
1F6F0 SATELLITE;0|ONCOMING FIRE ENGINE;0|DIESEL LOCOMOTIVE;0|PASSENGER SHIP;0|SCOOTER
1F6F5 MOTOR SCOOTER;0|CANOE;0|SLED;0|FLYING SAUCER;0|SKATEBOARD;0|AUTO RICKSHAW
1F6FB PICKUP TRUCK;0|ROLLER SKATE
1F700 ALCHEMICAL SYMBOL FOR QUINTESSENCE;22|AIR;22|FIRE;22|EARTH;22|WATER;22|AQUAFORTIS
1F706 ALCHEMICAL SYMBOL FOR AQUA REGIA;32|-2;27|VITAE;32|-2;22|VINEGAR;29|-2;30|3
1F70D ALCHEMICAL SYMBOL FOR SULFUR;22|PHILOSOPHERS SULFUR;22|BLACK SULFUR
1F710 ALCHEMICAL SYMBOL FOR MERCURY SUBLIMATE;39|-2;40|3;22|CINNABAR;22|SALT;22|NITRE
1F716 ALCHEMICAL SYMBOL FOR VITRIOL;29|-2;22|ROCK SALT;31|-2;22|GOLD;22|SILVER
1F71C ALCHEMICAL SYMBOL FOR IRON ORE;30|-2;22|CROCUS OF IRON;22|REGULUS OF IRON
1F720 ALCHEMICAL SYMBOL FOR COPPER ORE;22|IRON-COPPER ORE;22|SUBLIMATE OF COPPER
1F723 ALCHEMICAL SYMBOL FOR CROCUS OF COPPER;38|-2;23|OPPER ANTIMONIATE
1F726 ALCHEMICAL SYMBOL FOR SALT OF COPPER ANTIMONIATE;23|UBLIMATE OF SALT OF COPPER
1F728 ALCHEMICAL SYMBOL FOR VERDIGRIS;22|TIN ORE;22|LEAD ORE;22|ANTIMONY ORE
1F72C ALCHEMICAL SYMBOL FOR SUBLIMATE OF ANTIMONY;23|ALT OF ANTIMONY
1F72E ALCHEMICAL SYMBOL FOR SUBLIMATE OF SALT OF ANTIMONY;22|VINEGAR OF ANTIMONY
1F730 ALCHEMICAL SYMBOL FOR REGULUS OF ANTIMONY;41|-2;29|;29|-2;30|3;30|4;22|ALKALI
1F737 ALCHEMICAL SYMBOL FOR ALKALI-2;22|MARCASITE;22|SAL-AMMONIAC;22|ARSENIC;22|REALGAR
1F73C ALCHEMICAL SYMBOL FOR REALGAR-2;22|AURIPIGMENT;22|BISMUTH ORE;22|TARTAR;28|-2
1F741 ALCHEMICAL SYMBOL FOR QUICK LIME;22|BORAX;27|-2;28|3;22|ALUM;22|OIL;22|SPIRIT
1F748 ALCHEMICAL SYMBOL FOR TINCTURE;22|GUM;22|WAX;22|POWDER;22|CALX;22|TUTTY
1F74E ALCHEMICAL SYMBOL FOR CAPUT MORTUUM;22|SCEPTER OF JOVE;22|CADUCEUS;22|TRIDENT
1F752 ALCHEMICAL SYMBOL FOR STARRED TRIDENT;22|LODESTONE;22|SOAP;22|URINE;22|HORSE DUNG
1F757 ALCHEMICAL SYMBOL FOR ASHES;22|POT ASHES;22|BRICK;22|POWDERED BRICK;22|AMALGAM
1F75C ALCHEMICAL SYMBOL FOR STRATUM SUPER STRATUM;43|-2;23|UBLIMATION;22|PRECIPITATE
1F760 ALCHEMICAL SYMBOL FOR DISTILL;25|SOLVE;30|-2;22|PURIFY;24|TREFACTION;22|CRUCIBLE
1F766 ALCHEMICAL SYMBOL FOR CRUCIBLE-2;31|3;31|4;31|5;22|ALEMBIC;22|BATH OF MARY
1F76C ALCHEMICAL SYMBOL FOR BATH OF VAPOURS;22|RETORT;22|HOUR;22|NIGHT;22|DAY-NIGHT
1F771 ALCHEMICAL SYMBOL FOR MONTH;22|HALF DRAM;27|OUNCE
1F780 BLACK LEFT-POINTING ISOSCELES RIGHT TRIANGLE
1F781 BLACK UP-POINTING ISOSCELES RIGHT TRIANGLE
1F782 BLACK RIGHT-POINTING ISOSCELES RIGHT TRIANGLE
1F783 BLACK DOWN-POINTING ISOSCELES RIGHT TRIANGLE;6|SLIGHTLY SMALL CIRCLE
1F785 MEDIUM BOLD WHITE CIRCLE;0|BOLD WHITE CIRCLE;0|HEAVY WHITE CIRCLE
1F788 VERY HEAVY WHITE CIRCLE;0|EXTREMELY HEAVY WHITE CIRCLE
1F78A WHITE CIRCLE CONTAINING BLACK SMALL CIRCLE;0|ROUND TARGET;0|BLACK TINY SQUARE
1F78D BLACK SLIGHTLY SMALL SQUARE;0|LIGHT WHITE SQUARE;0|MEDIUM WHITE SQUARE
1F790 BOLD WHITE SQUARE;0|HEAVY WHITE SQUARE;0|VERY HEAVY WHITE SQUARE
1F793 EXTREMELY HEAVY WHITE SQUARE;0|WHITE SQUARE CONTAINING BLACK VERY SMALL SQUARE
1F795 WHITE SQUARE CONTAINING BLACK MEDIUM SQUARE;0|SQUARE TARGET;0|BLACK TINY DIAMOND
1F798 BLACK VERY SMALL DIAMOND;6|MEDIUM SMALL DIAMOND
1F79A WHITE DIAMOND CONTAINING BLACK VERY SMALL DIAMOND;31|MEDIUM DIAMOND
1F79C DIAMOND TARGET;0|BLACK TINY LOZENGE;6|VERY SMALL LOZENGE;6|MEDIUM SMALL LOZENGE
1F7A0 WHITE LOZENGE CONTAINING BLACK SMALL LOZENGE;0|THIN GREEK CROSS
1F7A2 LIGHT GREEK CROSS;0|MEDIUM GREEK CROSS;0|BOLD GREEK CROSS;0|VERY BOLD GREEK CROSS
1F7A6 VERY HEAVY GREEK CROSS;0|EXTREMELY HEAVY GREEK CROSS;0|THIN SALTIRE
1F7A9 LIGHT SALTIRE;0|MEDIUM SALTIRE;0|BOLD SALTIRE;0|HEAVY SALTIRE;0|VERY HEAVY SALTIRE
1F7AE EXTREMELY HEAVY SALTIRE;0|LIGHT FIVE SPOKED ASTERISK;0|MEDIUM FIVE SPOKED ASTERISK
1F7B1 BOLD FIVE SPOKED ASTERISK;0|HEAVY FIVE SPOKED ASTERISK
1F7B3 VERY HEAVY FIVE SPOKED ASTERISK;0|EXTREMELY HEAVY FIVE SPOKED ASTERISK
1F7B5 LIGHT SIX SPOKED ASTERISK;0|MEDIUM SIX SPOKED ASTERISK;0|BOLD SIX SPOKED ASTERISK
1F7B8 HEAVY SIX SPOKED ASTERISK;0|VERY HEAVY SIX SPOKED ASTERISK
1F7BA EXTREMELY HEAVY SIX SPOKED ASTERISK;0|LIGHT EIGHT SPOKED ASTERISK
1F7BC MEDIUM EIGHT SPOKED ASTERISK;0|BOLD EIGHT SPOKED ASTERISK
1F7BE HEAVY EIGHT SPOKED ASTERISK;0|VERY HEAVY EIGHT SPOKED ASTERISK
1F7C0 LIGHT THREE POINTED BLACK STAR;0|MEDIUM THREE POINTED BLACK STAR
1F7C2 THREE POINTED BLACK STAR;0|MEDIUM THREE POINTED PINWHEEL STAR
1F7C4 LIGHT FOUR POINTED BLACK STAR;0|MEDIUM FOUR POINTED BLACK STAR
1F7C6 FOUR POINTED BLACK STAR;0|MEDIUM FOUR POINTED PINWHEEL STAR
1F7C8 REVERSE LIGHT FOUR POINTED PINWHEEL STAR;0|LIGHT FIVE POINTED BLACK STAR
1F7CA HEAVY FIVE POINTED BLACK STAR;0|MEDIUM SIX POINTED BLACK STAR
1F7CC HEAVY SIX POINTED BLACK STAR;0|SIX POINTED PINWHEEL STAR
1F7CE MEDIUM EIGHT POINTED BLACK STAR;0|HEAVY EIGHT POINTED BLACK STAR
1F7D0 VERY HEAVY EIGHT POINTED BLACK STAR;0|HEAVY EIGHT POINTED PINWHEEL STAR
1F7D2 LIGHT TWELVE POINTED BLACK STAR;0|HEAVY TWELVE POINTED BLACK STAR;21|PINWHEEL STAR
1F7D5 CIRCLED TRIANGLE;0|NEGATIVE CIRCLED TRIANGLE;0|CIRCLED SQUARE
1F7D8 NEGATIVE CIRCLED SQUARE
1F7E0 LARGE ORANGE CIRCLE;6|YELLOW CIRCLE;6|GREEN CIRCLE;6|PURPLE CIRCLE;6|BROWN CIRCLE
1F7E5 LARGE RED SQUARE;6|BLUE SQUARE;6|ORANGE SQUARE;6|YELLOW SQUARE;6|GREEN SQUARE
1F7EA LARGE PURPLE SQUARE;6|BROWN SQUARE
1F7F0 HEAVY EQUALS SIGN
1F800 LEFTWARDS ARROW WITH SMALL TRIANGLE ARROWHEAD
1F801 UPWARDS ARROW WITH SMALL TRIANGLE ARROWHEAD
1F802 RIGHTWARDS ARROW WITH SMALL TRIANGLE ARROWHEAD
1F803 DOWNWARDS ARROW WITH SMALL TRIANGLE ARROWHEAD
1F804 LEFTWARDS ARROW WITH MEDIUM TRIANGLE ARROWHEAD
1F805 UPWARDS ARROW WITH MEDIUM TRIANGLE ARROWHEAD
1F806 RIGHTWARDS ARROW WITH MEDIUM TRIANGLE ARROWHEAD
1F807 DOWNWARDS ARROW WITH MEDIUM TRIANGLE ARROWHEAD
1F808 LEFTWARDS ARROW WITH LARGE TRIANGLE ARROWHEAD
1F809 UPWARDS ARROW WITH LARGE TRIANGLE ARROWHEAD
1F80A RIGHTWARDS ARROW WITH LARGE TRIANGLE ARROWHEAD
1F80B DOWNWARDS ARROW WITH LARGE TRIANGLE ARROWHEAD
1F810 LEFTWARDS ARROW WITH SMALL EQUILATERAL ARROWHEAD
1F811 UPWARDS ARROW WITH SMALL EQUILATERAL ARROWHEAD
1F812 RIGHTWARDS ARROW WITH SMALL EQUILATERAL ARROWHEAD
1F813 DOWNWARDS ARROW WITH SMALL EQUILATERAL ARROWHEAD
1F814 LEFTWARDS ARROW WITH EQUILATERAL ARROWHEAD
1F815 UPWARDS ARROW WITH EQUILATERAL ARROWHEAD
1F816 RIGHTWARDS ARROW WITH EQUILATERAL ARROWHEAD
1F817 DOWNWARDS ARROW WITH EQUILATERAL ARROWHEAD
1F818 HEAVY LEFTWARDS ARROW WITH EQUILATERAL ARROWHEAD
1F819 HEAVY UPWARDS ARROW WITH EQUILATERAL ARROWHEAD
1F81A HEAVY RIGHTWARDS ARROW WITH EQUILATERAL ARROWHEAD
1F81B HEAVY DOWNWARDS ARROW WITH EQUILATERAL ARROWHEAD
1F81C HEAVY LEFTWARDS ARROW WITH LARGE EQUILATERAL ARROWHEAD
1F81D HEAVY UPWARDS ARROW WITH LARGE EQUILATERAL ARROWHEAD
1F81E HEAVY RIGHTWARDS ARROW WITH LARGE EQUILATERAL ARROWHEAD
1F81F HEAVY DOWNWARDS ARROW WITH LARGE EQUILATERAL ARROWHEAD
1F820 LEFTWARDS TRIANGLE-HEADED ARROW WITH NARROW SHAFT
1F821 UPWARDS TRIANGLE-HEADED ARROW WITH NARROW SHAFT
1F822 RIGHTWARDS TRIANGLE-HEADED ARROW WITH NARROW SHAFT
1F823 DOWNWARDS TRIANGLE-HEADED ARROW WITH NARROW SHAFT
1F824 LEFTWARDS TRIANGLE-HEADED ARROW WITH MEDIUM SHAFT
1F825 UPWARDS TRIANGLE-HEADED ARROW WITH MEDIUM SHAFT
1F826 RIGHTWARDS TRIANGLE-HEADED ARROW WITH MEDIUM SHAFT
1F827 DOWNWARDS TRIANGLE-HEADED ARROW WITH MEDIUM SHAFT
1F828 LEFTWARDS TRIANGLE-HEADED ARROW WITH BOLD SHAFT
1F829 UPWARDS TRIANGLE-HEADED ARROW WITH BOLD SHAFT
1F82A RIGHTWARDS TRIANGLE-HEADED ARROW WITH BOLD SHAFT
1F82B DOWNWARDS TRIANGLE-HEADED ARROW WITH BOLD SHAFT
1F82C LEFTWARDS TRIANGLE-HEADED ARROW WITH HEAVY SHAFT
1F82D UPWARDS TRIANGLE-HEADED ARROW WITH HEAVY SHAFT
1F82E RIGHTWARDS TRIANGLE-HEADED ARROW WITH HEAVY SHAFT
1F82F DOWNWARDS TRIANGLE-HEADED ARROW WITH HEAVY SHAFT
1F830 LEFTWARDS TRIANGLE-HEADED ARROW WITH VERY HEAVY SHAFT
1F831 UPWARDS TRIANGLE-HEADED ARROW WITH VERY HEAVY SHAFT
1F832 RIGHTWARDS TRIANGLE-HEADED ARROW WITH VERY HEAVY SHAFT
1F833 DOWNWARDS TRIANGLE-HEADED ARROW WITH VERY HEAVY SHAFT
1F834 LEFTWARDS FINGER-POST ARROW;0|UPWARDS FINGER-POST ARROW
1F836 RIGHTWARDS FINGER-POST ARROW;0|DOWNWARDS FINGER-POST ARROW
1F838 LEFTWARDS SQUARED ARROW;0|UPWARDS SQUARED ARROW;0|RIGHTWARDS SQUARED ARROW
1F83B DOWNWARDS SQUARED ARROW;0|LEFTWARDS COMPRESSED ARROW;0|UPWARDS COMPRESSED ARROW
1F83E RIGHTWARDS COMPRESSED ARROW;0|DOWNWARDS COMPRESSED ARROW
1F840 LEFTWARDS HEAVY COMPRESSED ARROW;0|UPWARDS HEAVY COMPRESSED ARROW
1F842 RIGHTWARDS HEAVY COMPRESSED ARROW;0|DOWNWARDS HEAVY COMPRESSED ARROW
1F844 LEFTWARDS HEAVY ARROW;0|UPWARDS HEAVY ARROW;0|RIGHTWARDS HEAVY ARROW
1F847 DOWNWARDS HEAVY ARROW
1F850 LEFTWARDS SANS-SERIF ARROW;0|UPWARDS SANS-SERIF ARROW
1F852 RIGHTWARDS SANS-SERIF ARROW;0|DOWNWARDS SANS-SERIF ARROW
1F854 NORTH WEST SANS-SERIF ARROW;6|EAST SANS-SERIF ARROW;0|SOUTH EAST SANS-SERIF ARROW
1F857 SOUTH WEST SANS-SERIF ARROW;0|LEFT RIGHT SANS-SERIF ARROW
1F859 UP DOWN SANS-SERIF ARROW
1F860 WIDE-HEADED LEFTWARDS LIGHT BARB ARROW;12|UPWARDS LIGHT BARB ARROW
1F862 WIDE-HEADED RIGHTWARDS LIGHT BARB ARROW;12|DOWNWARDS LIGHT BARB ARROW
1F864 WIDE-HEADED NORTH WEST LIGHT BARB ARROW;18|EAST LIGHT BARB ARROW
1F866 WIDE-HEADED SOUTH EAST LIGHT BARB ARROW;18|WEST LIGHT BARB ARROW
1F868 WIDE-HEADED LEFTWARDS BARB ARROW;12|UPWARDS BARB ARROW;12|RIGHTWARDS BARB ARROW
1F86B WIDE-HEADED DOWNWARDS BARB ARROW;12|NORTH WEST BARB ARROW;18|EAST BARB ARROW
1F86E WIDE-HEADED SOUTH EAST BARB ARROW;18|WEST BARB ARROW
1F870 WIDE-HEADED LEFTWARDS MEDIUM BARB ARROW;12|UPWARDS MEDIUM BARB ARROW
1F872 WIDE-HEADED RIGHTWARDS MEDIUM BARB ARROW;12|DOWNWARDS MEDIUM BARB ARROW
1F874 WIDE-HEADED NORTH WEST MEDIUM BARB ARROW;18|EAST MEDIUM BARB ARROW
1F876 WIDE-HEADED SOUTH EAST MEDIUM BARB ARROW;18|WEST MEDIUM BARB ARROW
1F878 WIDE-HEADED LEFTWARDS HEAVY BARB ARROW;12|UPWARDS HEAVY BARB ARROW
1F87A WIDE-HEADED RIGHTWARDS HEAVY BARB ARROW;12|DOWNWARDS HEAVY BARB ARROW
1F87C WIDE-HEADED NORTH WEST HEAVY BARB ARROW;18|EAST HEAVY BARB ARROW
1F87E WIDE-HEADED SOUTH EAST HEAVY BARB ARROW;18|WEST HEAVY BARB ARROW
1F880 WIDE-HEADED LEFTWARDS VERY HEAVY BARB ARROW;12|UPWARDS VERY HEAVY BARB ARROW
1F882 WIDE-HEADED RIGHTWARDS VERY HEAVY BARB ARROW;12|DOWNWARDS VERY HEAVY BARB ARROW
1F884 WIDE-HEADED NORTH WEST VERY HEAVY BARB ARROW;18|EAST VERY HEAVY BARB ARROW
1F886 WIDE-HEADED SOUTH EAST VERY HEAVY BARB ARROW;18|WEST VERY HEAVY BARB ARROW
1F890 LEFTWARDS TRIANGLE ARROWHEAD;0|UPWARDS TRIANGLE ARROWHEAD
1F892 RIGHTWARDS TRIANGLE ARROWHEAD;0|DOWNWARDS TRIANGLE ARROWHEAD
1F894 LEFTWARDS WHITE ARROW WITHIN TRIANGLE ARROWHEAD
1F895 UPWARDS WHITE ARROW WITHIN TRIANGLE ARROWHEAD
1F896 RIGHTWARDS WHITE ARROW WITHIN TRIANGLE ARROWHEAD
1F897 DOWNWARDS WHITE ARROW WITHIN TRIANGLE ARROWHEAD
1F898 LEFTWARDS ARROW WITH NOTCHED TAIL;0|UPWARDS ARROW WITH NOTCHED TAIL
1F89A RIGHTWARDS ARROW WITH NOTCHED TAIL;0|DOWNWARDS ARROW WITH NOTCHED TAIL
1F89C HEAVY ARROW SHAFT WIDTH ONE;24|TWO THIRDS;24|ONE HALF;28|THIRD
1F8A0 LEFTWARDS BOTTOM-SHADED WHITE ARROW;0|RIGHTWARDS BOTTOM SHADED WHITE ARROW
1F8A2 LEFTWARDS TOP SHADED WHITE ARROW;0|RIGHTWARDS TOP SHADED WHITE ARROW
1F8A4 LEFTWARDS LEFT-SHADED WHITE ARROW;0|RIGHTWARDS RIGHT-SHADED WHITE ARROW
1F8A6 LEFTWARDS RIGHT-SHADED WHITE ARROW;0|RIGHTWARDS LEFT-SHADED WHITE ARROW
1F8A8 LEFTWARDS BACK-TILTED SHADOWED WHITE ARROW
1F8A9 RIGHTWARDS BACK-TILTED SHADOWED WHITE ARROW
1F8AA LEFTWARDS FRONT-TILTED SHADOWED WHITE ARROW
1F8AB RIGHTWARDS FRONT-TILTED SHADOWED WHITE ARROW;0|WHITE ARROW SHAFT WIDTH ONE
1F8AD WHITE ARROW SHAFT WIDTH TWO THIRDS
1F8B0 ARROW POINTING UPWARDS THEN NORTH WEST;15|RIGHTWARDS THEN CURVING SOUTH WEST
1F900 CIRCLED CROSS FORMEE WITH FOUR DOTS;26|TWO DOTS;20|
1F903 LEFT HALF CIRCLE WITH FOUR DOTS;22|THREE DOTS;23|WO DOTS;22|DOT;16|
1F908 DOWNWARD FACING HOOK;16|NOTCHED HOOK;16|HOOK WITH DOT;16|NOTCHED HOOK WITH DOT
1F90C PINCHED FINGERS;0|WHITE HEART;0|BROWN HEART;0|PINCHING HAND;0|ZIPPER-MOUTH FACE
1F911 MONEY-MOUTH FACE;0|FACE WITH THERMOMETER;0|NERD FACE;0|THINKING FACE
1F915 FACE WITH HEAD-BANDAGE;0|ROBOT FACE;0|HUGGING FACE;0|SIGN OF THE HORNS
1F919 CALL ME HAND;0|RAISED BACK OF HAND;0|LEFT-FACING FIST;0|RIGHT-FACING FIST
1F91D HANDSHAKE;4| WITH INDEX AND MIDDLE FINGERS CROSSED;0|I LOVE YOU HAND SIGN
1F920 FACE WITH COWBOY HAT;0|CLOWN FACE;0|NAUSEATED FACE;0|ROLLING ON THE FLOOR LAUGHING
1F924 DROOLING FACE;0|LYING FACE;0|FACE PALM;0|SNEEZING FACE
1F928 FACE WITH ONE EYEBROW RAISED;0|GRINNING FACE WITH STAR EYES
1F92A GRINNING FACE WITH ONE LARGE AND ONE SMALL EYE
1F92B FACE WITH FINGER COVERING CLOSED LIPS;0|SERIOUS FACE WITH SYMBOLS COVERING MOUTH
1F92D SMILING FACE WITH SMILING EYES AND HAND COVERING MOUTH
1F92E FACE WITH OPEN MOUTH VOMITING;0|SHOCKED FACE WITH EXPLODING HEAD;0|PREGNANT WOMAN
1F931 BREAST-FEEDING;0|PALMS UP TOGETHER;0|SELFIE;0|PRINCE;0|MAN IN TUXEDO
1F936 MOTHER CHRISTMAS;0|SHRUG;0|PERSON DOING CARTWHEEL;0|JUGGLING;0|FENCER
1F93B MODERN PENTATHLON;0|WRESTLERS;1|ATER POLO;0|HANDBALL;0|DIVING MASK;0|WILTED FLOWER
1F941 DRUM WITH DRUMSTICKS;0|CLINKING GLASSES;0|TUMBLER GLASS;0|SPOON;0|GOAL NET;0|RIFLE
1F947 FIRST PLACE MEDAL;0|SECOND PLACE MEDAL;0|THIRD PLACE MEDAL;0|BOXING GLOVE
1F94B MARTIAL ARTS UNIFORM;0|CURLING STONE;0|LACROSSE STICK AND BALL;0|SOFTBALL
1F94F FLYING DISC;0|CROISSANT;0|AVOCADO;0|CUCUMBER;0|BACON;0|POTATO;0|CARROT
1F956 BAGUETTE BREAD;0|GREEN SALAD;0|SHALLOW PAN OF FOOD;1|TUFFED FLATBREAD;0|EGG
1F95B GLASS OF MILK;0|PEANUTS;0|KIWIFRUIT;0|PANCAKES;0|DUMPLING;0|FORTUNE COOKIE
1F961 TAKEOUT BOX;0|CHOPSTICKS;0|BOWL WITH SPOON;0|CUP WITH STRAW;1|OCONUT;0|BROCCOLI
1F967 PIE;1|RETZEL;0|CUT OF MEAT;0|SANDWICH;0|CANNED FOOD;0|LEAFY GREEN;0|MANGO
1F96E MOON CAKE;0|BAGEL;0|SMILING FACE WITH SMILING EYES AND THREE HEARTS;0|YAWNING FACE
1F972 SMILING FACE WITH TEAR;0|FACE WITH PARTY HORN AND PARTY HAT
1F974 FACE WITH UNEVEN EYES AND WAVY MOUTH;0|OVERHEATED FACE;0|FREEZING FACE;0|NINJA
1F978 DISGUISED FACE;0|FACE HOLDING BACK TEARS;5|WITH PLEADING EYES;0|SARI;0|LAB COAT
1F97D GOGGLES;0|HIKING BOOT;0|FLAT SHOE;0|CRAB;0|LION FACE;0|SCORPION;0|TURKEY
1F984 UNICORN FACE;0|EAGLE;0|DUCK;0|BAT;0|SHARK;0|OWL;0|FOX FACE;0|BUTTERFLY;0|DEER
1F98D GORILLA;0|LIZARD;0|RHINOCEROS;0|SHRIMP;1|QUID;0|GIRAFFE FACE;0|ZEBRA FACE
1F994 HEDGEHOG;0|SAUROPOD;0|T-REX;0|CRICKET;0|KANGAROO;0|LLAMA;0|PEACOCK;0|HIPPOPOTAMUS
1F99C PARROT;0|RACCOON;0|LOBSTER;0|MOSQUITO;1|ICROBE;0|BADGER;0|SWAN;0|MAMMOTH;0|DODO
1F9A5 SLOTH;0|OTTER;1|RANGUTAN;0|SKUNK;0|FLAMINGO;0|OYSTER;0|BEAVER;1|ISON;0|SEAL
1F9AE GUIDE DOG;0|PROBING CANE;0|EMOJI COMPONENT RED HAIR;16|CURLY HAIR;16|BALD
1F9B3 EMOJI COMPONENT WHITE HAIR;0|BONE;0|LEG;0|FOOT;0|TOOTH;0|SUPERHERO;5|VILLAIN
1F9BA SAFETY VEST;0|EAR WITH HEARING AID;0|MOTORIZED WHEELCHAIR;1|ANUAL WHEELCHAIR
1F9BE MECHANICAL ARM;11|LEG;0|CHEESE WEDGE;1|UPCAKE;0|SALT SHAKER;0|BEVERAGE BOX
1F9C4 GARLIC;0|ONION;0|FALAFEL;0|WAFFLE;0|BUTTER;0|MATE DRINK;0|ICE CUBE;0|BUBBLE TEA
1F9CC TROLL;0|STANDING PERSON;0|KNEELING PERSON;0|DEAF PERSON;0|FACE WITH MONOCLE
1F9D1 ADULT;0|CHILD;0|OLDER ADULT;0|BEARDED PERSON;0|PERSON WITH HEADSCARF
1F9D6 PERSON IN STEAMY ROOM;7|CLIMBING;7|IN LOTUS POSITION;0|MAGE;0|FAIRY;0|VAMPIRE
1F9DC MERPERSON;0|ELF;0|GENIE;0|ZOMBIE;0|BRAIN;0|ORANGE HEART;0|BILLED CAP;0|SCARF
1F9E4 GLOVES;0|COAT;0|SOCKS;0|RED GIFT ENVELOPE;0|FIRECRACKER;0|JIGSAW PUZZLE PIECE
1F9EA TEST TUBE;0|PETRI DISH;0|DNA DOUBLE HELIX;0|COMPASS;0|ABACUS;0|FIRE EXTINGUISHER
1F9F0 TOOLBOX;0|BRICK;0|MAGNET;0|LUGGAGE;1|OTION BOTTLE;0|SPOOL OF THREAD;0|BALL OF YARN
1F9F7 SAFETY PIN;0|TEDDY BEAR;0|BROOM;1|ASKET;0|ROLL OF PAPER;0|BAR OF SOAP;0|SPONGE
1F9FE RECEIPT;0|NAZAR AMULET;1|EUTRAL CHESS KING;14|QUEEN;14|ROOK;14|BISHOP;14|KNIGHT
1FA05 NEUTRAL CHESS PAWN;0|WHITE CHESS KNIGHT ROTATED FORTY-FIVE DEGREES
1FA07 BLACK CHESS KNIGHT ROTATED FORTY-FIVE DEGREES
1FA08 NEUTRAL CHESS KNIGHT ROTATED FORTY-FIVE DEGREES
1FA09 WHITE CHESS KING ROTATED NINETY DEGREES;12|QUEEN ROTATED NINETY DEGREES
1FA0B WHITE CHESS ROOK ROTATED NINETY DEGREES;12|BISHOP ROTATED NINETY DEGREES
1FA0D WHITE CHESS KNIGHT ROTATED NINETY DEGREES;12|PAWN ROTATED NINETY DEGREES
1FA0F BLACK CHESS KING ROTATED NINETY DEGREES;12|QUEEN ROTATED NINETY DEGREES
1FA11 BLACK CHESS ROOK ROTATED NINETY DEGREES;12|BISHOP ROTATED NINETY DEGREES
1FA13 BLACK CHESS KNIGHT ROTATED NINETY DEGREES;12|PAWN ROTATED NINETY DEGREES
1FA15 NEUTRAL CHESS KING ROTATED NINETY DEGREES;14|QUEEN ROTATED NINETY DEGREES
1FA17 NEUTRAL CHESS ROOK ROTATED NINETY DEGREES;14|BISHOP ROTATED NINETY DEGREES
1FA19 NEUTRAL CHESS KNIGHT ROTATED NINETY DEGREES;14|PAWN ROTATED NINETY DEGREES
1FA1B WHITE CHESS KNIGHT ROTATED ONE HUNDRED THIRTY-FIVE DEGREES
1FA1C BLACK CHESS KNIGHT ROTATED ONE HUNDRED THIRTY-FIVE DEGREES
1FA1D NEUTRAL CHESS KNIGHT ROTATED ONE HUNDRED THIRTY-FIVE DEGREES
1FA1E WHITE CHESS TURNED KING;19|QUEEN;19|ROOK;19|BISHOP;19|KNIGHT;19|PAWN
1FA24 BLACK CHESS TURNED KING;19|QUEEN;19|ROOK;19|BISHOP;19|KNIGHT;19|PAWN
1FA2A NEUTRAL CHESS TURNED KING;21|QUEEN;21|ROOK;21|BISHOP;21|KNIGHT;21|PAWN
1FA30 WHITE CHESS KNIGHT ROTATED TWO HUNDRED TWENTY-FIVE DEGREES
1FA31 BLACK CHESS KNIGHT ROTATED TWO HUNDRED TWENTY-FIVE DEGREES
1FA32 NEUTRAL CHESS KNIGHT ROTATED TWO HUNDRED TWENTY-FIVE DEGREES
1FA33 WHITE CHESS KING ROTATED TWO HUNDRED SEVENTY DEGREES
1FA34 WHITE CHESS QUEEN ROTATED TWO HUNDRED SEVENTY DEGREES
1FA35 WHITE CHESS ROOK ROTATED TWO HUNDRED SEVENTY DEGREES
1FA36 WHITE CHESS BISHOP ROTATED TWO HUNDRED SEVENTY DEGREES
1FA37 WHITE CHESS KNIGHT ROTATED TWO HUNDRED SEVENTY DEGREES
1FA38 WHITE CHESS PAWN ROTATED TWO HUNDRED SEVENTY DEGREES
1FA39 BLACK CHESS KING ROTATED TWO HUNDRED SEVENTY DEGREES
1FA3A BLACK CHESS QUEEN ROTATED TWO HUNDRED SEVENTY DEGREES
1FA3B BLACK CHESS ROOK ROTATED TWO HUNDRED SEVENTY DEGREES
1FA3C BLACK CHESS BISHOP ROTATED TWO HUNDRED SEVENTY DEGREES
1FA3D BLACK CHESS KNIGHT ROTATED TWO HUNDRED SEVENTY DEGREES
1FA3E BLACK CHESS PAWN ROTATED TWO HUNDRED SEVENTY DEGREES
1FA3F NEUTRAL CHESS KING ROTATED TWO HUNDRED SEVENTY DEGREES
1FA40 NEUTRAL CHESS QUEEN ROTATED TWO HUNDRED SEVENTY DEGREES
1FA41 NEUTRAL CHESS ROOK ROTATED TWO HUNDRED SEVENTY DEGREES
1FA42 NEUTRAL CHESS BISHOP ROTATED TWO HUNDRED SEVENTY DEGREES
1FA43 NEUTRAL CHESS KNIGHT ROTATED TWO HUNDRED SEVENTY DEGREES
1FA44 NEUTRAL CHESS PAWN ROTATED TWO HUNDRED SEVENTY DEGREES
1FA45 WHITE CHESS KNIGHT ROTATED THREE HUNDRED FIFTEEN DEGREES
1FA46 BLACK CHESS KNIGHT ROTATED THREE HUNDRED FIFTEEN DEGREES
1FA47 NEUTRAL CHESS KNIGHT ROTATED THREE HUNDRED FIFTEEN DEGREES
1FA48 WHITE CHESS EQUIHOPPER;0|BLACK CHESS EQUIHOPPER;0|NEUTRAL CHESS EQUIHOPPER
1FA4B WHITE CHESS EQUIHOPPER ROTATED NINETY DEGREES
1FA4C BLACK CHESS EQUIHOPPER ROTATED NINETY DEGREES
1FA4D NEUTRAL CHESS EQUIHOPPER ROTATED NINETY DEGREES;0|WHITE CHESS KNIGHT-QUEEN;19|ROOK
1FA50 WHITE CHESS KNIGHT-BISHOP;0|BLACK CHESS KNIGHT-QUEEN;19|ROOK;19|BISHOP
1FA60 XIANGQI RED GENERAL;12|MANDARIN;12|ELEPHANT;12|HORSE;12|CHARIOT;13|ANNON
1FA66 XIANGQI RED SOLDIER;8|BLACK GENERAL;14|MANDARIN;14|ELEPHANT;14|HORSE;14|CHARIOT
1FA6C XIANGQI BLACK CANNON;14|SOLDIER
1FA70 BALLET SHOES;0|ONE-PIECE SWIMSUIT;0|BRIEFS;0|SHORTS;0|THONG SANDAL
1FA78 DROP OF BLOOD;0|ADHESIVE BANDAGE;0|STETHOSCOPE;0|X-RAY;0|CRUTCH
1FA80 YO-YO;0|KITE;0|PARACHUTE;0|BOOMERANG;0|MAGIC WAND;0|PINATA;0|NESTING DOLLS
1FA90 RINGED PLANET;0|CHAIR;0|RAZOR;0|AXE;0|DIYA LAMP;0|BANJO;0|MILITARY HELMET
1FA97 ACCORDION;0|LONG DRUM;0|COIN;1|ARPENTRY SAW;0|SCREWDRIVER;0|LADDER;0|HOOK;0|MIRROR
1FA9F WINDOW;0|PLUNGER;0|SEWING NEEDLE;0|KNOT;0|BUCKET;0|MOUSE TRAP;0|TOOTHBRUSH
1FAA6 HEADSTONE;0|PLACARD;0|ROCK;0|MIRROR BALL;0|IDENTIFICATION CARD;0|LOW BATTERY
1FAAC HAMSA
1FAB0 FLY;0|WORM;0|BEETLE;0|COCKROACH;0|POTTED PLANT;0|WOOD;0|FEATHER;0|LOTUS;0|CORAL
1FAB9 EMPTY NEST;0|NEST WITH EGGS
1FAC0 ANATOMICAL HEART;0|LUNGS;0|PEOPLE HUGGING;1|REGNANT MAN;9|PERSON
1FAC5 PERSON WITH CROWN
1FAD0 BLUEBERRIES;1|ELL PEPPER;0|OLIVE;0|FLATBREAD;0|TAMALE;0|FONDUE;0|TEAPOT
1FAD7 POURING LIQUID;0|BEANS;0|JAR
1FAE0 MELTING FACE;0|SALUTING FACE;0|FACE WITH OPEN EYES AND HAND OVER MOUTH
1FAE3 FACE WITH PEEKING EYE;10|DIAGONAL MOUTH;0|DOTTED LINE FACE;0|BITING LIP;1|UBBLES
1FAF0 HAND WITH INDEX FINGER AND THUMB CROSSED;0|RIGHTWARDS HAND;0|LEFTWARDS HAND
1FAF3 PALM DOWN HAND;5|UP HAND;0|INDEX POINTING AT THE VIEWER;0|HEART HANDS
"

/-- **The second names.** -/
def secondNames : List (String × Nat) := [
  ("NULL", 0x0), ("NUL", 0x0), ("START OF HEADING", 0x1), ("SOH", 0x1), ("START OF TEXT", 0x2),
  ("STX", 0x2), ("END OF TEXT", 0x3), ("ETX", 0x3), ("END OF TRANSMISSION", 0x4), ("EOT", 0x4),
  ("ENQUIRY", 0x5), ("ENQ", 0x5), ("ACKNOWLEDGE", 0x6), ("ACK", 0x6), ("ALERT", 0x7), ("BEL",
  0x7), ("BACKSPACE", 0x8), ("BS", 0x8), ("CHARACTER TABULATION", 0x9),
  ("HORIZONTAL TABULATION", 0x9), ("HT", 0x9), ("TAB", 0x9), ("LINE FEED", 0xA), ("NEW LINE",
  0xA), ("END OF LINE", 0xA), ("LF", 0xA), ("NL", 0xA), ("EOL", 0xA), ("LINE TABULATION", 0xB),
  ("VERTICAL TABULATION", 0xB), ("VT", 0xB), ("FORM FEED", 0xC), ("FF", 0xC),
  ("CARRIAGE RETURN", 0xD), ("CR", 0xD), ("SHIFT OUT", 0xE), ("LOCKING-SHIFT ONE", 0xE), ("SO",
  0xE), ("SHIFT IN", 0xF), ("LOCKING-SHIFT ZERO", 0xF), ("SI", 0xF), ("DATA LINK ESCAPE", 0x10),
  ("DLE", 0x10), ("DEVICE CONTROL ONE", 0x11), ("DC1", 0x11), ("DEVICE CONTROL TWO", 0x12),
  ("DC2", 0x12), ("DEVICE CONTROL THREE", 0x13), ("DC3", 0x13), ("DEVICE CONTROL FOUR", 0x14),
  ("DC4", 0x14), ("NEGATIVE ACKNOWLEDGE", 0x15), ("NAK", 0x15), ("SYNCHRONOUS IDLE", 0x16),
  ("SYN", 0x16), ("END OF TRANSMISSION BLOCK", 0x17), ("ETB", 0x17), ("CANCEL", 0x18), ("CAN",
  0x18), ("END OF MEDIUM", 0x19), ("EOM", 0x19), ("SUBSTITUTE", 0x1A), ("SUB", 0x1A), ("ESCAPE",
  0x1B), ("ESC", 0x1B), ("INFORMATION SEPARATOR FOUR", 0x1C), ("FILE SEPARATOR", 0x1C), ("FS",
  0x1C), ("INFORMATION SEPARATOR THREE", 0x1D), ("GROUP SEPARATOR", 0x1D), ("GS", 0x1D),
  ("INFORMATION SEPARATOR TWO", 0x1E), ("RECORD SEPARATOR", 0x1E), ("RS", 0x1E),
  ("INFORMATION SEPARATOR ONE", 0x1F), ("UNIT SEPARATOR", 0x1F), ("US", 0x1F), ("SP", 0x20),
  ("DELETE", 0x7F), ("DEL", 0x7F), ("PADDING CHARACTER", 0x80), ("PAD", 0x80),
  ("HIGH OCTET PRESET", 0x81), ("HOP", 0x81), ("BREAK PERMITTED HERE", 0x82), ("BPH", 0x82),
  ("NO BREAK HERE", 0x83), ("NBH", 0x83), ("INDEX", 0x84), ("IND", 0x84), ("NEXT LINE", 0x85),
  ("NEL", 0x85), ("START OF SELECTED AREA", 0x86), ("SSA", 0x86), ("END OF SELECTED AREA",
  0x87), ("ESA", 0x87), ("CHARACTER TABULATION SET", 0x88), ("HORIZONTAL TABULATION SET", 0x88),
  ("HTS", 0x88), ("CHARACTER TABULATION WITH JUSTIFICATION", 0x89),
  ("HORIZONTAL TABULATION WITH JUSTIFICATION", 0x89), ("HTJ", 0x89), ("LINE TABULATION SET",
  0x8A), ("VERTICAL TABULATION SET", 0x8A), ("VTS", 0x8A), ("PARTIAL LINE FORWARD", 0x8B),
  ("PARTIAL LINE DOWN", 0x8B), ("PLD", 0x8B), ("PARTIAL LINE BACKWARD", 0x8C),
  ("PARTIAL LINE UP", 0x8C), ("PLU", 0x8C), ("REVERSE LINE FEED", 0x8D), ("REVERSE INDEX",
  0x8D), ("RI", 0x8D), ("SINGLE SHIFT TWO", 0x8E), ("SINGLE-SHIFT-2", 0x8E), ("SS2", 0x8E),
  ("SINGLE SHIFT THREE", 0x8F), ("SINGLE-SHIFT-3", 0x8F), ("SS3", 0x8F),
  ("DEVICE CONTROL STRING", 0x90), ("DCS", 0x90), ("PRIVATE USE ONE", 0x91), ("PRIVATE USE-1",
  0x91), ("PU1", 0x91), ("PRIVATE USE TWO", 0x92), ("PRIVATE USE-2", 0x92), ("PU2", 0x92),
  ("SET TRANSMIT STATE", 0x93), ("STS", 0x93), ("CANCEL CHARACTER", 0x94), ("CCH", 0x94),
  ("MESSAGE WAITING", 0x95), ("MW", 0x95), ("START OF GUARDED AREA", 0x96),
  ("START OF PROTECTED AREA", 0x96), ("SPA", 0x96), ("END OF GUARDED AREA", 0x97),
  ("END OF PROTECTED AREA", 0x97), ("EPA", 0x97), ("START OF STRING", 0x98), ("SOS", 0x98),
  ("SINGLE GRAPHIC CHARACTER INTRODUCER", 0x99), ("SGC", 0x99), ("SINGLE CHARACTER INTRODUCER",
  0x9A), ("SCI", 0x9A), ("CONTROL SEQUENCE INTRODUCER", 0x9B), ("CSI", 0x9B),
  ("STRING TERMINATOR", 0x9C), ("ST", 0x9C), ("OPERATING SYSTEM COMMAND", 0x9D), ("OSC", 0x9D),
  ("PRIVACY MESSAGE", 0x9E), ("PM", 0x9E), ("APPLICATION PROGRAM COMMAND", 0x9F), ("APC", 0x9F),
  ("NBSP", 0xA0), ("SHY", 0xAD), ("CGJ", 0x34F), ("ALM", 0x61C), ("ZWSP", 0x200B), ("ZWNJ",
  0x200C), ("ZWJ", 0x200D), ("LRM", 0x200E), ("RLM", 0x200F), ("LRE", 0x202A), ("RLE", 0x202B),
  ("PDF", 0x202C), ("LRO", 0x202D), ("RLO", 0x202E), ("NNBSP", 0x202F), ("MMSP", 0x205F), ("WJ",
  0x2060), ("LRI", 0x2066), ("RLI", 0x2067), ("FSI", 0x2068), ("PDI", 0x2069),
  ("BYTE ORDER MARK", 0xFEFF), ("BOM", 0xFEFF), ("ZWNBSP", 0xFEFF), ("LATIN CAPITAL LETTER GHA",
  0x1A2), ("LATIN SMALL LETTER GHA", 0x1A3), ("WEIERSTRASS ELLIPTIC FUNCTION", 0x2118),
  ("PRESENTATION FORM FOR VERTICAL RIGHT WHITE LENTICULAR BRACKET", 0xFE18)]

/-- The position of a name in a line, from what the line is cut into and the name
before. -/
def positionIn (name : String) : Nat → String → List String → Option Nat
  | _, _, [] => none
  | i, before, entry :: rest =>
    let current :=
      match entry.splitOn "|" with
      | [count, tail] => String.ofList (before.toList.take (count.toNat?.getD 0)) ++ tail
      | _ => entry
    if current = name then some i else positionIn name (i + 1) current rest

/-- The code point of a name in the table. -/
def tabledName? (name : String) : Option Nat :=
  (nameTable.splitOn "
").findSome? fun line =>
    match line.splitOn ";" with
    | head :: rest =>
      let (code, first) := head.toList.span fun c => c ≠ ' '
      (positionIn name 0 "" (String.ofList (first.drop 1) :: rest)).map fun i =>
        hexNumber (String.ofList code) + i
    | [] => none

/-! ## Names by rule -/

/-- The ranges of ideographs that are named by their number. -/
def ideographRanges : List (Nat × Nat) :=
  [(0x3400, 0x4DBF), (0x4E00, 0x9FFF), (0x20000, 0x2A6DF), (0x2A700, 0x2B738), (0x2B740, 0x2B81D),
    (0x2B820, 0x2CEA1), (0x2CEB0, 0x2EBE0), (0x30000, 0x3134A)]

/-- The code point of an ideograph from its number. -/
def ideographNamed? (name : String) : Option Nat :=
  match name.splitOn "CJK UNIFIED IDEOGRAPH-" with
  | ["", digits] =>
    let isHex := digits.toList.all fun c => c.isDigit || ('A' ≤ c && c ≤ 'F')
    if isHex && (digits.length = 4 || digits.length = 5) then
      let n := hexNumber digits
      if ideographRanges.any fun (lo, hi) => lo ≤ n && n ≤ hi then some n else none
    else none
  | _ => none

/-- The names of the parts of syllables: leading parts, vowels, trailing parts. -/
def hangulNames : List String × List String × List String :=
  (["G", "GG", "N", "D", "DD", "R", "M", "B", "BB", "S", "SS", "", "J", "JJ", "C", "K", "T", "P",
      "H"],
    ["A", "AE", "YA", "YAE", "EO", "E", "YEO", "YE", "O", "WA", "WAE", "OE", "YO", "U", "WEO", "WE",
      "WI", "YU", "EU", "YI", "I"],
    ["", "G", "GG", "GS", "N", "NJ", "NH", "D", "L", "LG", "LM", "LB", "LS", "LT", "LP", "LH", "M",
      "B", "BS", "S", "SS", "NG", "J", "C", "K", "T", "P", "H"])

/-- The code point of a syllable from the names of its parts. -/
def hangulNamed? (name : String) : Option Nat :=
  match name.splitOn "HANGUL SYLLABLE " with
  | ["", syllable] =>
    let (leads, vowels, tails) := hangulNames
    let spelled := leads.flatMap fun l => vowels.flatMap fun v => tails.map fun t => l ++ v ++ t
    (spelled.findIdx? fun s => s = syllable).map fun i => 0xAC00 + i
  | _ => none

/-- **The code point of a name.** What is named by rule is written in capitals, any
other name in letters of either case. -/
def characterNamed? (name : String) : Option Nat :=
  let capitals := name.toUpper
  if name.isEmpty then none
  else
    (((ideographNamed? name).or (hangulNamed? name)).or (secondNames.lookup capitals)).or
      (tabledName? capitals)

end Narrowing.Text
