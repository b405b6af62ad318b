import SqlLens.Text.Table

/-!
Characters that are composed of two others.

The table holds the small letters and the letters without case; the syllables of Hangul follow a rule of their own.
-/

namespace SqlLens.Domain

def markedLines : List String :=
  ["300:aàeèiìoòuùüǜnǹеѐиѝēḕōṑwẁâầăằêềôồơờưừyỳἀἂἁἃἐἒἑἓἠἢἡἣἰἲἱἳὀὂὁὃὐὒὑὓὠὢὡὣαὰεὲηὴιὶοὸυὺωὼϊῒϋῢ",
    "301:aáeéiíoóuúyýcćlĺnńrŕsśzźüǘgǵåǻæǽøǿϊΐαάεέηήιίϋΰοόυύωώгѓкќçḉēḗïḯkḱmḿõṍōṓpṕũṹwẃâấăắêếôốơớưứἀἄἁἅἐἔἑἕἠἤἡἥ",
    "301:ἰἴἱἵὀὄὁὅὐὔὑὕὠὤὡὥ 302:aâeêiîoôuûcĉgĝhĥjĵsŝwŵyŷzẑạậẹệọộ 303:aãnñoõiĩuũvṽâẫăẵeẽêễôỗơỡưữyỹ",
    "304:aāeēiīoōuūüǖäǟȧǡæǣǫǭöȫõȭȯȱyȳиӣуӯgḡḷḹṛṝαᾱιῑυῡ 306:aăeĕgğiĭoŏuŭийуўжӂаӑеӗȩḝạặαᾰιῐυῠ",
    "307:cċeėgġzżaȧoȯbḃdḋfḟhḣmṁnṅpṗrṙsṡśṥšṧṣṩtṫwẇxẋyẏ 308:aäeëiïoöuüyÿιϊυϋеёіїаӓәӛжӝзӟиӥоӧөӫэӭуӱчӵыӹhḧõṏūṻwẅxẍtẗ",
    "309:aảâẩăẳeẻêểiỉoỏôổơởuủưửyỷ 30A:aåuůwẘyẙ 30B:oőuűуӳ 30C:cčdďeělľnňrřsštťzžaǎiǐoǒuǔüǚgǧkǩʒǯjǰhȟ",
    "30F:aȁeȅiȉoȍrȑuȕѵѷ 311:aȃeȇiȋoȏrȓuȗ 313:αἀεἐηἠιἰοὀυὐωὠρῤ 314:αἁεἑηἡιἱοὁυὑωὡρῥ 31B:oơuư",
    "323:bḅdḍhḥkḳlḷmṃnṇrṛsṣtṭvṿwẉzẓaạeẹiịoọơợuụưựyỵ 324:uṳ 325:aḁ 326:sștț 327:cçgģkķlļnņrŗsştţeȩdḑhḩ",
    "328:aąeęiįuųoǫ 32D:dḓeḙlḽnṋtṱuṷ 32E:hḫ 330:eḛiḭuṵ 331:bḇdḏkḵlḻnṉrṟtṯzẕhẖ",
    "338:←↚→↛↔↮⇐⇍⇔⇎⇒⇏∃∄∈∉∋∌∣∤∥∦∼≁≃≄≅≇≈≉=≠≡≢≍≭<≮>≯≤≰≥≱≲≴≳≵≶≸≷≹≺⊀≻⊁⊂⊄⊃⊅⊆⊈⊇⊉⊢⊬⊨⊭⊩⊮⊫⊯≼⋠≽⋡⊑⋢⊒⋣⊲⋪⊳⋫⊴⋬⊵⋭",
    "342:ἀἆἁἇἠἦἡἧἰἶἱἷὐὖὑὗὠὦὡὧαᾶηῆιῖϊῗυῦϋῧωῶ 93C:नऩरऱळऴ BD7:ஒஔ 102E:ဥဦ 1B35:ᬅᬆᬇᬈᬉᬊᬋᬌᬍᬎᬑᬒ",
    "3099:かがきぎくぐけげこごさざしじすずせぜそぞただちぢつづてでとどはばひびふぶへべほぼうゔゝゞカガキギクグケゲコゴサザシジスズセゼソゾタダチヂツヅテデトドハバヒビフブヘベホボウヴワヷヰヸヱヹヲヺヽヾ",
    "309A:はぱひぴふぷへぺほぽハパヒピフプヘペホポ 110BA:𑂙𑂚𑂛𑂜𑂥𑂫"]

def markedPairs (mark : Nat) : List Char → List (Nat × Nat × Nat)
  | letter :: composed :: rest => (composed.toNat, letter.toNat, mark) :: markedPairs mark rest
  | _ => []

def markedOf (entry : List Char) : List (Nat × Nat × Nat) :=
  markedPairs (Text.Table.code (entry.takeWhile (· ≠ ':'))) (entry.dropWhile (· ≠ ':')).tail

/-- Composed characters, each counted from the one before, with their two parts. -/
def compositesFrom (before : Nat) : List Nat → List (Nat × Nat × Nat)
  | distance :: first :: second :: rest => (before + distance, first, second) :: compositesFrom (before + distance) rest
  | _ => []

def composites : List (Nat × Nat × Nat) :=
  (Text.Table.entries markedLines).flatMap markedOf ++ compositesFrom 0 (Text.Table.numbers
    ["ciKciPckHBciPckIBcjWckIBciPckJBcjYckIfYcpHckICcoNckIRcpEckIbdGdsHdrYBdsHdsXoQehBehQDehBegSBehBehReWelYelQBelZe",
      "lQBelYemPeUeqWerMeQevNewJHevUewJBevUewKCevUevQBevYewJeXfaSfaKBfaTfaKBfaSfbJfMfgJffUCfgJffZBfgMffUBfgJfgPfbPkiC",
      "khXCkiEkhXDkiGkhXBkiHkhXCkiKkhXdkvEdvdYbdVbBdveGbdVehEdzlXdzlNBdzlYdzlNuUeagLeagCBeagLeahBcDeaiSealLCeaiUeakXJ",
      "eajBealEDeajGealLcAealEealECealEeakUBealEealLjJeauReauSBeauReauICeauReauVjSebeMebeDBebeNebeDbiJecmVecmQbbgBfds",
      "WfdsWBfdsWfdtHBfdsWfdsXBfdtHfdsXBfdsWfdsYBfdsZfdsXBfdtAfdsXBfdsZfdsYeqQfijVfijVBfijRfijVBfijXfijV"])

end SqlLens.Domain
