import OrderDesk.Text.CombiningClass

/-!
# Composition

Many characters can be written in two ways: as one, or as another one with a mark behind it. The
composed form of a text takes all characters apart, puts the marks of one character into the order
of their classes, and then joins whatever can be joined. Texts that look the same have the same
composed form. As of Unicode 17.
-/

namespace OrderDesk.Text

/-! ### Pairs -/

/-- What a second character makes of a first one: both in turn. -/
def compositionRows : List (Char × String) :=
  [('\u0300', "AÀEÈIÌNǸOÒUÙWẀYỲaàeèiìnǹoòuùwẁyỳ¨῭ÂẦÊỀÔỒÜǛâầêềôồüǜĂẰăằĒḔēḕŌṐōṑƠỜơờƯỪưừΑᾺΕῈΗῊΙῚΟῸ"),
   ('\u0300', "ΥῪΩῺαὰεὲηὴιὶοὸυὺωὼϊῒϋῢЕЀИЍеѐиѝἀἂἁἃἈἊἉἋἐἒἑἓἘἚἙἛἠἢἡἣἨἪἩἫἰἲἱἳἸἺἹἻὀὂὁὃὈὊὉὋὐὒὑὓὙὛὠὢὡὣ"),
   ('\u0300', "ὨὪὩὫ᾿῍῾῝"),
   ('\u0301', "AÁCĆEÉGǴIÍKḰLĹMḾNŃOÓPṔRŔSŚUÚWẂYÝZŹaácćeégǵiíkḱlĺmḿnńoópṕrŕsśuúwẃyýzź¨΅ÂẤÅǺÆǼÇḈÊẾ"),
   ('\u0301', "ÏḮÔỐÕṌØǾÜǗâấåǻæǽçḉêếïḯôốõṍøǿüǘĂẮăắĒḖēḗŌṒōṓŨṸũṹƠỚơớƯỨưứΑΆΕΈΗΉΙΊΟΌΥΎΩΏαάεέηήιίοόυύ"),
   ('\u0301', "ωώϊΐϋΰϒϓГЃКЌгѓкќἀἄἁἅἈἌἉἍἐἔἑἕἘἜἙἝἠἤἡἥἨἬἩἭἰἴἱἵἸἼἹἽὀὄὁὅὈὌὉὍὐὔὑὕὙὝὠὤὡὥὨὬὩὭ᾿῎῾῞"),
   ('\u0302', "AÂCĈEÊGĜHĤIÎJĴOÔSŜUÛWŴYŶZẐaâcĉeêgĝhĥiîjĵoôsŝuûwŵyŷzẑẠẬạậẸỆẹệỌỘọộ"),
   ('\u0303', "AÃEẼIĨNÑOÕUŨVṼYỸaãeẽiĩnñoõuũvṽyỹÂẪÊỄÔỖâẫêễôỗĂẴăẵƠỠơỡƯỮưữ"),
   ('\u0304', "AĀEĒGḠIĪOŌUŪYȲaāeēgḡiīoōuūyȳÄǞÆǢÕȬÖȪÜǕäǟæǣõȭöȫüǖǪǬǫǭȦǠȧǡȮȰȯȱΑᾹΙῙΥῩαᾱιῑυῡИӢУӮиӣуӯ"),
   ('\u0304', "ḶḸḷḹṚṜṛṝ"),
   ('\u0306', "AĂEĔGĞIĬOŎUŬaăeĕgğiĭoŏuŭȨḜȩḝΑᾸΙῘΥῨαᾰιῐυῠАӐЕӖЖӁИЙУЎаӑеӗжӂийуўẠẶạặ"),
   ('\u0307', "AȦBḂCĊDḊEĖFḞGĠHḢIİMṀNṄOȮPṖRṘSṠTṪWẆXẊYẎZŻaȧbḃcċdḋeėfḟgġhḣmṁnṅoȯpṗrṙsṡtṫwẇxẋyẏzżŚṤ"),
   ('\u0307', "śṥŠṦšṧſẛṢṨṣṩ𐗒𐗉𐗚𐗤"),
   ('\u0308', "AÄEËHḦIÏOÖUÜWẄXẌYŸaäeëhḧiïoötẗuüwẅxẍyÿÕṎõṏŪṺūṻΙΪΥΫιϊυϋϒϔІЇАӒЕЁЖӜЗӞИӤОӦУӰЧӴЫӸЭӬаӓ"),
   ('\u0308', "еёжӝзӟиӥоӧуӱчӵыӹэӭіїӘӚәӛӨӪөӫ"),
   ('\u0309', "AẢEẺIỈOỎUỦYỶaảeẻiỉoỏuủyỷÂẨÊỂÔỔâẩêểôổĂẲăẳƠỞơởƯỬưử"),
   ('\u030a', "AÅUŮaåuůwẘyẙ"),
   ('\u030b', "OŐUŰoőuűУӲуӳ"),
   ('\u030c', "AǍCČDĎEĚGǦHȞIǏKǨLĽNŇOǑRŘSŠTŤUǓZŽaǎcčdďeěgǧhȟiǐjǰkǩlľnňoǒrřsštťuǔzžÜǙüǚƷǮʒǯ"),
   ('\u030f', "AȀEȄIȈOȌRȐUȔaȁeȅiȉoȍrȑuȕѴѶѵѷ"),
   ('\u0311', "AȂEȆIȊOȎRȒUȖaȃeȇiȋoȏrȓuȗ"),
   ('\u0313', "ΑἈΕἘΗἨΙἸΟὈΩὨαἀεἐηἠιἰοὀρῤυὐωὠ"),
   ('\u0314', "ΑἉΕἙΗἩΙἹΟὉΡῬΥὙΩὩαἁεἑηἡιἱοὁρῥυὑωὡ"),
   ('\u031b', "OƠUƯoơuư"),
   ('\u0323', "AẠBḄDḌEẸHḤIỊKḲLḶMṂNṆOỌRṚSṢTṬUỤVṾWẈYỴZẒaạbḅdḍeẹhḥiịkḳlḷmṃnṇoọrṛsṣtṭuụvṿwẉyỵzẓƠỢơợ"),
   ('\u0323', "ƯỰưự"),
   ('\u0324', "UṲuṳ"),
   ('\u0325', "AḀaḁ"),
   ('\u0326', "SȘTȚsștț"),
   ('\u0327', "CÇDḐEȨGĢHḨKĶLĻNŅRŖSŞTŢcçdḑeȩgģhḩkķlļnņrŗsştţ"),
   ('\u0328', "AĄEĘIĮOǪUŲaąeęiįoǫuų"),
   ('\u032d', "DḒEḘLḼNṊTṰUṶdḓeḙlḽnṋtṱuṷ"),
   ('\u032e', "HḪhḫ"),
   ('\u0330', "EḚIḬUṴeḛiḭuṵ"),
   ('\u0331', "BḆDḎKḴLḺNṈRṞTṮZẔbḇdḏhẖkḵlḻnṉrṟtṯzẕ"),
   ('\u0338', "<≮=≠>≯←↚→↛↔↮⇐⇍⇒⇏⇔⇎∃∄∈∉∋∌∣∤∥∦∼≁≃≄≅≇≈≉≍≭≡≢≤≰≥≱≲≴≳≵≶≸≷≹≺⊀≻⊁≼⋠≽⋡⊂⊄⊃⊅⊆⊈⊇⊉⊑⋢⊒⋣⊢⊬⊨⊭⊩⊮⊫⊯"),
   ('\u0338', "⊲⋪⊳⋫⊴⋬⊵⋭"),
   ('\u0342', "¨῁αᾶηῆιῖυῦωῶϊῗϋῧἀἆἁἇἈἎἉἏἠἦἡἧἨἮἩἯἰἶἱἷἸἾἹἿὐὖὑὗὙὟὠὦὡὧὨὮὩὯ᾿῏῾῟"),
   ('\u0345', "ΑᾼΗῌΩῼάᾴήῄαᾳηῃωῳώῴἀᾀἁᾁἂᾂἃᾃἄᾄἅᾅἆᾆἇᾇἈᾈἉᾉἊᾊἋᾋἌᾌἍᾍἎᾎἏᾏἠᾐἡᾑἢᾒἣᾓἤᾔἥᾕἦᾖἧᾗἨᾘἩᾙἪᾚἫᾛἬᾜἭᾝἮᾞ"),
   ('\u0345', "ἯᾟὠᾠὡᾡὢᾢὣᾣὤᾤὥᾥὦᾦὧᾧὨᾨὩᾩὪᾪὫᾫὬᾬὭᾭὮᾮὯᾯὰᾲὴῂὼῲᾶᾷῆῇῶῷ"),
   ('\u0653', "\u0627\u0622"),
   ('\u0654', "\u0627\u0623\u0648\u0624\u064a\u0626\u06c1\u06c2\u06d2\u06d3\u06d5\u06c0"),
   ('\u0655', "\u0627\u0625"),
   ('\u093c', "नऩरऱळऴ"),
   ('\u09be', "\u09c7\u09cb"),
   ('\u09d7', "\u09c7\u09cc"),
   ('\u0b3e', "\u0b47\u0b4b"),
   ('\u0b56', "\u0b47\u0b48"),
   ('\u0b57', "\u0b47\u0b4c"),
   ('\u0bbe', "\u0bc6\u0bca\u0bc7\u0bcb"),
   ('\u0bd7', "ஒஔ\u0bc6\u0bcc"),
   ('\u0c56', "\u0c46\u0c48"),
   ('\u0cc2', "\u0cc6\u0cca"),
   ('\u0cd5', "\u0cbf\u0cc0\u0cc6\u0cc7\u0cca\u0ccb"),
   ('\u0cd6', "\u0cc6\u0cc8"),
   ('\u0d3e', "\u0d46\u0d4a\u0d47\u0d4b"),
   ('\u0d57', "\u0d46\u0d4c"),
   ('\u0dca', "\u0dd9\u0dda\u0ddc\u0ddd"),
   ('\u0dcf', "\u0dd9\u0ddc"),
   ('\u0ddf', "\u0dd9\u0dde"),
   ('\u102e', "ဥဦ"),
   ('\u1b35', "ᬅᬆᬇᬈᬉᬊᬋᬌᬍᬎᬑᬒ\u1b3a\u1b3b\u1b3c\u1b3d\u1b3e\u1b40\u1b3f\u1b41\u1b42\u1b43"),
   ('\u3099', "うゔかがきぎくぐけげこごさざしじすずせぜそぞただちぢつづてでとどはばひびふぶへべほぼゝゞウヴカガキギクグケゲコゴサザシジスズセゼソゾタダチヂツヅテデトドハバヒビ"),
   ('\u3099', "フブヘベホボワヷヰヸヱヹヲヺヽヾ"),
   ('\u309a', "はぱひぴふぷへぺほぽハパヒピフプヘペホポ")]

/-- The first, the second and the composed character beyond the first plane. -/
def compositionsBeyond : List (Nat × Nat × Nat) :=
  [(69785, 69818, 69786), (69787, 69818, 69788), (69797, 69818, 69803), (69937, 69927, 69934),
   (69938, 69927, 69935), (70471, 70462, 70475), (70471, 70487, 70476), (70594, 70584, 70599),
   (70532, 70587, 70533), (70539, 70594, 70542), (70594, 70594, 70597), (70530, 70601, 70531),
   (70544, 70601, 70545), (70594, 70601, 70600), (70841, 70832, 70844), (70841, 70842, 70843),
   (70841, 70845, 70846), (71096, 71087, 71098), (71097, 71087, 71099), (71989, 71984, 71992),
   (90398, 90398, 90401), (90398, 90399, 90403), (90401, 90399, 90406), (90402, 90399, 90407),
   (90409, 90399, 90404), (90398, 90400, 90405), (90401, 90400, 90408), (90398, 90409, 90402),
   (93539, 93543, 93545), (93543, 93543, 93544), (93545, 93543, 93546)]

/-- Characters two by two. -/
def inPairs : List Char → List (Char × Char)
  | a :: b :: cs => (a, b) :: inPairs cs
  | _ => []

/-- The first, the second and the composed character of all pairs but those of Hangul. -/
def compositions : List (Char × Char × Char) :=
  (compositionRows.flatMap fun (second, row) =>
    (inPairs row.toList).map fun (first, both) => (first, second, both)) ++
  compositionsBeyond.map fun (first, second, both) =>
    (Char.ofNat first, Char.ofNat second, Char.ofNat both)

/-! ### Hangul

A syllable is a leading consonant, a vowel, and perhaps a trailing consonant, by number. -/

def leadBase : Nat := 0x1100
def vowelBase : Nat := 0x1161
def trailBase : Nat := 0x11a7
def syllableBase : Nat := 0xac00

/-- The place of a character behind another one, if it is less than a number. -/
def placeFrom? (base count : Nat) (c : Char) : Option Nat :=
  if base ≤ c.toNat && c.toNat < base + count then some (c.toNat - base) else none

def syllable? (a b : Char) : Option Char :=
  match placeFrom? leadBase 19 a, placeFrom? vowelBase 21 b with
  | some lead, some vowel => some (Char.ofNat (syllableBase + (lead * 21 + vowel) * 28))
  | _, _ =>
    match placeFrom? syllableBase 11172 a, placeFrom? (trailBase + 1) 27 b with
    | some n, some trail =>
      if n % 28 = 0 then some (Char.ofNat (syllableBase + n + trail + 1)) else none
    | _, _ => none

/-- The last part of a syllable, and what is before it. -/
def syllableParts? (c : Char) : Option (Char × Char) :=
  (placeFrom? syllableBase 11172 c).map fun n =>
    if n % 28 = 0 then
      (Char.ofNat (leadBase + n / 588), Char.ofNat (vowelBase + n % 588 / 28))
    else (Char.ofNat (syllableBase + n / 28 * 28), Char.ofNat (trailBase + n % 28))

/-! ### Composed forms -/

/-- The character that two others make. -/
def composed? (a b : Char) : Option Char :=
  ((compositions.find? fun (first, second, _) => first = a && second = b).map (·.2.2)).or
    (syllable? a b)

/-- The two characters that make a character. -/
def parts? (c : Char) : Option (Char × Char) :=
  ((compositions.find? (·.2.2 = c)).map fun (first, second, _) => (first, second)).or
    (syllableParts? c)

/-- Takes a character apart, a number of times at most. -/
def decomposed : Nat → Char → List Char
  | 0, c => [c]
  | depth + 1, c =>
    match parts? c with
    | some (a, b) => decomposed depth a ++ [b]
    | none => [c]

/-- No character is composed more than three times over. -/
def maxDepth : Nat := 3

/-- Puts a character behind a text in reverse, but a mark before the marks of higher classes. -/
def placed (c : Char) : List Char → List Char
  | [] => [c]
  | d :: ds =>
    if 0 < combiningClass c && combiningClass c < combiningClass d then d :: placed c ds
    else c :: d :: ds

/-- A text with the marks of each character in the order of their classes. -/
def ordered (cs : List Char) : List Char :=
  (cs.foldl (fun back c => placed c back) []).reverse

/-- Joins a character with those after it, given the marks between in reverse. A mark is kept from
it by another one of the same class. -/
def joinedFrom (first : Char) (marks : List Char) : List Char → List Char
  | [] => first :: marks.reverse
  | c :: cs =>
    let isFree := match marks with
      | [] => true
      | mark :: _ => combiningClass mark < combiningClass c
    match if isFree then composed? first c else none with
    | some both => joinedFrom both marks cs
    | none =>
      if combiningClass c = 0 then first :: marks.reverse ++ joinedFrom c [] cs
      else joinedFrom first (c :: marks) cs

/-- Joins all characters that can be joined. Marks at the start belong to nothing. -/
def joined : List Char → List Char
  | [] => []
  | c :: cs => if combiningClass c = 0 then joinedFrom c [] cs else c :: joined cs

/-- The composed form of a text whose characters do not stand for single other ones. -/
def composedForm (cs : List Char) : List Char :=
  joined (ordered (cs.flatMap (decomposed maxDepth)))

end OrderDesk.Text
