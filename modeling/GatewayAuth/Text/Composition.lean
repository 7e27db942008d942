import GatewayAuth.Text.Combining

/-!
# `GatewayAuth.Text.Composition` — composed characters

A character with an accent can be written as one character or as two. The composed form of a text uses one
wherever there is one, and gives marks on one character their conventional order.

## Contents
- `compositions`: which pairs of characters make up one.
- `decompose`, `ordered`: the parts of a text, marks in order.
- `composed`: the composed form.
-/

namespace GatewayAuth.Text

/-! ## Pairs -/

/-- For a second character, first characters each followed by the character that the pair makes up. -/
def compositions : List (Nat × String) := [
  (0x300, "AÀEÈIÌNǸOÒUÙWẀYỲaàeèiìnǹoòuùwẁyỳ¨῭ÂẦÊỀÔỒÜǛâầêềôồüǜĂẰăằĒḔēḕŌṐōṑƠỜơờƯỪưừΑᾺΕῈΗῊΙῚΟῸΥῪΩῺ"),
  (0x300, "αὰεὲηὴιὶοὸυὺωὼϊῒϋῢЕЀИЍеѐиѝἀἂἁἃἈἊἉἋἐἒἑἓἘἚἙἛἠἢἡἣἨἪἩἫἰἲἱἳἸἺἹἻὀὂὁὃὈὊὉὋὐὒὑὓὙὛὠὢὡὣὨὪὩὫ᾿῍῾῝"),
  (0x301, "AÁCĆEÉGǴIÍKḰLĹMḾNŃOÓPṔRŔSŚUÚWẂYÝZŹaácćeégǵiíkḱlĺmḿnńoópṕrŕsśuúwẃyýzź¨΅ÂẤÅǺÆǼÇḈÊẾÏḮÔỐ"),
  (0x301, "ÕṌØǾÜǗâấåǻæǽçḉêếïḯôốõṍøǿüǘĂẮăắĒḖēḗŌṒōṓŨṸũṹƠỚơớƯỨưứΑΆΕΈΗΉΙΊΟΌΥΎΩΏαάεέηήιίοόυύωώϊΐϋΰϒϓ"),
  (0x301, "ГЃКЌгѓкќἀἄἁἅἈἌἉἍἐἔἑἕἘἜἙἝἠἤἡἥἨἬἩἭἰἴἱἵἸἼἹἽὀὄὁὅὈὌὉὍὐὔὑὕὙὝὠὤὡὥὨὬὩὭ᾿῎῾῞"),
  (0x302, "AÂCĈEÊGĜHĤIÎJĴOÔSŜUÛWŴYŶZẐaâcĉeêgĝhĥiîjĵoôsŝuûwŵyŷzẑẠẬạậẸỆẹệỌỘọộ"),
  (0x303, "AÃEẼIĨNÑOÕUŨVṼYỸaãeẽiĩnñoõuũvṽyỹÂẪÊỄÔỖâẫêễôỗĂẴăẵƠỠơỡƯỮưữ"),
  (0x304, "AĀEĒGḠIĪOŌUŪYȲaāeēgḡiīoōuūyȳÄǞÆǢÕȬÖȪÜǕäǟæǣõȭöȫüǖǪǬǫǭȦǠȧǡȮȰȯȱΑᾹΙῙΥῩαᾱιῑυῡИӢУӮиӣуӯḶḸḷḹ"),
  (0x304, "ṚṜṛṝ"), (0x306, "AĂEĔGĞIĬOŎUŬaăeĕgğiĭoŏuŭȨḜȩḝΑᾸΙῘΥῨαᾰιῐυῠАӐЕӖЖӁИЙУЎаӑеӗжӂийуўẠẶạặ"),
  (0x307, "AȦBḂCĊDḊEĖFḞGĠHḢIİMṀNṄOȮPṖRṘSṠTṪWẆXẊYẎZŻaȧbḃcċdḋeėfḟgġhḣmṁnṅoȯpṗrṙsṡtṫwẇxẋyẏzżŚṤśṥŠṦ"),
  (0x307, "šṧſẛṢṨṣṩ"),
  (0x308, "AÄEËHḦIÏOÖUÜWẄXẌYŸaäeëhḧiïoötẗuüwẅxẍyÿÕṎõṏŪṺūṻΙΪΥΫιϊυϋϒϔІЇАӒЕЁЖӜЗӞИӤОӦУӰЧӴЫӸЭӬаӓеёжӝ"),
  (0x308, "зӟиӥоӧуӱчӵыӹэӭіїӘӚәӛӨӪөӫ"), (0x309, "AẢEẺIỈOỎUỦYỶaảeẻiỉoỏuủyỷÂẨÊỂÔỔâẩêểôổĂẲăẳƠỞơởƯỬưử"),
  (0x30A, "AÅUŮaåuůwẘyẙ"), (0x30B, "OŐUŰoőuűУӲуӳ"),
  (0x30C, "AǍCČDĎEĚGǦHȞIǏKǨLĽNŇOǑRŘSŠTŤUǓZŽaǎcčdďeěgǧhȟiǐjǰkǩlľnňoǒrřsštťuǔzžÜǙüǚƷǮʒǯ"),
  (0x30F, "AȀEȄIȈOȌRȐUȔaȁeȅiȉoȍrȑuȕѴѶѵѷ"), (0x311, "AȂEȆIȊOȎRȒUȖaȃeȇiȋoȏrȓuȗ"),
  (0x313, "ΑἈΕἘΗἨΙἸΟὈΩὨαἀεἐηἠιἰοὀρῤυὐωὠ"), (0x314, "ΑἉΕἙΗἩΙἹΟὉΡῬΥὙΩὩαἁεἑηἡιἱοὁρῥυὑωὡ"),
  (0x31B, "OƠUƯoơuư"),
  (0x323, "AẠBḄDḌEẸHḤIỊKḲLḶMṂNṆOỌRṚSṢTṬUỤVṾWẈYỴZẒaạbḅdḍeẹhḥiịkḳlḷmṃnṇoọrṛsṣtṭuụvṿwẉyỵzẓƠỢơợƯỰưự"),
  (0x324, "UṲuṳ"), (0x325, "AḀaḁ"), (0x326, "SȘTȚsștț"),
  (0x327, "CÇDḐEȨGĢHḨKĶLĻNŅRŖSŞTŢcçdḑeȩgģhḩkķlļnņrŗsştţ"), (0x328, "AĄEĘIĮOǪUŲaąeęiįoǫuų"),
  (0x32D, "DḒEḘLḼNṊTṰUṶdḓeḙlḽnṋtṱuṷ"), (0x32E, "HḪhḫ"), (0x330, "EḚIḬUṴeḛiḭuṵ"),
  (0x331, "BḆDḎKḴLḺNṈRṞTṮZẔbḇdḏhẖkḵlḻnṉrṟtṯzẕ"),
  (0x338, "<≮=≠>≯←↚→↛↔↮⇐⇍⇒⇏⇔⇎∃∄∈∉∋∌∣∤∥∦∼≁≃≄≅≇≈≉≍≭≡≢≤≰≥≱≲≴≳≵≶≸≷≹≺⊀≻⊁≼⋠≽⋡⊂⊄⊃⊅⊆⊈⊇⊉⊑⋢⊒⋣⊢⊬⊨⊭⊩⊮⊫⊯⊲⋪⊳⋫"),
  (0x338, "⊴⋬⊵⋭"), (0x342, "¨῁αᾶηῆιῖυῦωῶϊῗϋῧἀἆἁἇἈἎἉἏἠἦἡἧἨἮἩἯἰἶἱἷἸἾἹἿὐὖὑὗὙὟὠὦὡὧὨὮὩὯ᾿῏῾῟"),
  (0x345, "ΑᾼΗῌΩῼάᾴήῄαᾳηῃωῳώῴἀᾀἁᾁἂᾂἃᾃἄᾄἅᾅἆᾆἇᾇἈᾈἉᾉἊᾊἋᾋἌᾌἍᾍἎᾎἏᾏἠᾐἡᾑἢᾒἣᾓἤᾔἥᾕἦᾖἧᾗἨᾘἩᾙἪᾚἫᾛἬᾜἭᾝἮᾞἯᾟὠᾠ"),
  (0x345, "ὡᾡὢᾢὣᾣὤᾤὥᾥὦᾦὧᾧὨᾨὩᾩὪᾪὫᾫὬᾬὭᾭὮᾮὯᾯὰᾲὴῂὼῲᾶᾷῆῇῶῷ"), (0x653, "\u0627\u0622"),
  (0x654, "\u0627\u0623\u0648\u0624\u064a\u0626\u06c1\u06c2\u06d2\u06d3\u06d5\u06c0"),
  (0x655, "\u0627\u0625"), (0x93C, "नऩरऱळऴ"), (0x9BE, "\u09c7\u09cb"), (0x9D7, "\u09c7\u09cc"),
  (0xB3E, "\u0b47\u0b4b"), (0xB56, "\u0b47\u0b48"), (0xB57, "\u0b47\u0b4c"),
  (0xBBE, "\u0bc6\u0bca\u0bc7\u0bcb"), (0xBD7, "ஒஔ\u0bc6\u0bcc"), (0xC56, "\u0c46\u0c48"),
  (0xCC2, "\u0cc6\u0cca"), (0xCD5, "\u0cbf\u0cc0\u0cc6\u0cc7\u0cca\u0ccb"), (0xCD6, "\u0cc6\u0cc8"),
  (0xD3E, "\u0d46\u0d4a\u0d47\u0d4b"), (0xD57, "\u0d46\u0d4c"), (0xDCA, "\u0dd9\u0dda\u0ddc\u0ddd"),
  (0xDCF, "\u0dd9\u0ddc"), (0xDDF, "\u0dd9\u0dde"), (0x102E, "ဥဦ"),
  (0x1B35, "ᬅᬆᬇᬈᬉᬊᬋᬌᬍᬎᬑᬒ\u1b3a\u1b3b\u1b3c\u1b3d\u1b3e\u1b40\u1b3f\u1b41\u1b42\u1b43"),
  (0x3099, "うゔかがきぎくぐけげこごさざしじすずせぜそぞただちぢつづてでとどはばひびふぶへべほぼゝゞウヴカガキギクグケゲコゴサザシジスズセゼソゾタダチヂツヅテデトドハバヒビフブヘベ"),
  (0x3099, "ホボワヷヰヸヱヹヲヺヽヾ"), (0x309A, "はぱひぴふぷへぺほぽハパヒピフプヘペホポ"), (0x110BA, "𑂙𑂚𑂛𑂜𑂥𑂫"), (0x11127, "𑄱𑄮𑄲𑄯"),
  (0x1133E, "𑍇𑍋"), (0x11357, "𑍇𑍌"), (0x114B0, "𑒹𑒼"), (0x114BA, "𑒹𑒻"), (0x114BD, "𑒹𑒾"), (0x115AF, "𑖸𑖺𑖹𑖻"),
  (0x11930, "𑤵𑤸")]

/-- Pairs in a list of characters that alternates between first characters and composed ones. -/
def pairsOf : List Char → List (Char × Char)
  | first :: whole :: rest => (first, whole) :: pairsOf rest
  | _ => []

/-- All compositions: the second character, the first one, the composed one. -/
def compositionTable : List (Nat × List (Char × Char)) :=
  compositions.map fun row => (row.1, pairsOf row.2.toList)

/-! ## Syllables

A syllable of Hangul is composed by arithmetic of a lead, a vowel and perhaps a tail. -/

/-- The code point of the first syllable, and the number of syllables. -/
def syllableBase : Nat := 0xAC00

/-- The number of syllables. -/
def syllableCount : Nat := 11172

/-- The code point of the first lead. -/
def leadBase : Nat := 0x1100

/-- The code point of the first vowel. -/
def vowelBase : Nat := 0x1161

/-- The code point in front of the first tail. -/
def tailBase : Nat := 0x11A7

/-- The two parts of a syllable. -/
def syllableParts? (n : Nat) : Option (Char × Char) :=
  if syllableBase ≤ n ∧ n < syllableBase + syllableCount then
    let k := n - syllableBase
    if k % 28 = 0 then
      some (Char.ofNat (leadBase + k / 588), Char.ofNat (vowelBase + k / 28 % 21))
    else some (Char.ofNat (n - k % 28), Char.ofNat (tailBase + k % 28))
  else none

/-- The syllable that two characters make up. -/
def syllable? (first second : Nat) : Option Char :=
  if leadBase ≤ first ∧ first < leadBase + 19 ∧ vowelBase ≤ second ∧ second < vowelBase + 21 then
    some (Char.ofNat (syllableBase + ((first - leadBase) * 21 + (second - vowelBase)) * 28))
  else if syllableBase ≤ first ∧ first < syllableBase + syllableCount ∧
      (first - syllableBase) % 28 = 0 ∧ tailBase < second ∧ second < tailBase + 28 then
    some (Char.ofNat (first + (second - tailBase)))
  else none

/-! ## Taking apart and putting together -/

/-- The two parts of a composed character. -/
def parts? (c : Char) : Option (Char × Char) :=
  (syllableParts? c.toNat).or <|
    compositionTable.findSome? fun row =>
      (row.2.find? fun p => p.2 == c).map fun p => (p.1, Char.ofNat row.1)

/-- The character that two characters make up. -/
def whole? (first second : Char) : Option Char :=
  if second.toNat < 0x300 then none
  else
    (syllable? first.toNat second.toNat).or <|
      compositionTable.findSome? fun row =>
        if row.1 = second.toNat then (row.2.find? fun p => p.1 == first).map (·.2) else none

/-- The parts of a character, taken apart at most `depth` times. -/
def partsWithin : Nat → Char → List Char
  | 0, c => [c]
  | depth + 1, c =>
    match parts? c with
    | some (first, second) => partsWithin depth first ++ [second]
    | none => [c]

/-- No character has to be taken apart more often. -/
def deepest : Nat := 4

/-- All parts of a text. -/
def decompose (cs : List Char) : List Char :=
  cs.flatMap fun c => if c.toNat < 0xC0 then [c] else partsWithin deepest c

/-- Put a character behind a text in reverse: a mark goes in front of those of a higher class. -/
def placeMark (c : Char) : List Char → List Char
  | [] => [c]
  | d :: rest =>
    if combiningClass c ≠ 0 ∧ combiningClass c < combiningClass d then d :: placeMark c rest
    else c :: d :: rest

/-- A text with its marks in order. -/
def ordered (cs : List Char) : List Char := (cs.foldl (fun done c => placeMark c done) []).reverse

/-- Put characters together after `base`, to which the `marks` in reverse could not be added; the last of them
is of class `last`. A mark is added to the base only if none of its class or of a higher one is in between. -/
def composeAfter (base : Char) (marks : List Char) (last : Nat) : List Char → List Char
  | [] => base :: marks.reverse
  | c :: rest =>
    let k := combiningClass c
    match if marks.isEmpty || last < k then whole? base c else none with
    | some whole => composeAfter whole marks last rest
    | none =>
      if k = 0 then base :: marks.reverse ++ composeAfter c [] 0 rest
      else composeAfter base (c :: marks) k rest

/-- Put characters together that are taken apart and in order. -/
def compose : List Char → List Char
  | [] => []
  | c :: rest => if combiningClass c = 0 then composeAfter c [] 0 rest else c :: compose rest

/-- The composed form of a text. -/
def composed (cs : List Char) : List Char := compose (ordered (decompose cs))

end GatewayAuth.Text
