import Fixture.Unicode.CharSet

/-! Scripts of characters, and the scripts that share a character with others. -/
namespace Fixture.Unicode.Script

/-- The code of each script and the names that stand for it beside the code. -/
def names : List (String × List String) := [
  ("Adlm", ["adlam"]), ("Ahom", []), ("Hluw", ["anatolianhieroglyphs"]), ("Arab", ["arabic"]),
  ("Armn", ["armenian"]), ("Avst", ["avestan"]), ("Bali", ["balinese"]), ("Bamu", ["bamum"]),
  ("Bass", ["bassavah"]), ("Batk", ["batak"]), ("Beng", ["bengali"]), ("Bhks", ["bhaiksuki"]),
  ("Bopo", ["bopomofo"]), ("Brah", ["brahmi"]), ("Brai", ["braille"]), ("Bugi", ["buginese"]),
  ("Buhd", ["buhid"]), ("Cans", ["canadianaboriginal"]), ("Cari", ["carian"]),
  ("Aghb", ["caucasianalbanian"]), ("Cakm", ["chakma"]), ("Cham", []), ("Cher", ["cherokee"]),
  ("Chrs", ["chorasmian"]), ("Zyyy", ["common"]), ("Copt", ["coptic", "qaac"]),
  ("Xsux", ["cuneiform"]), ("Cprt", ["cypriot"]), ("Cpmn", ["cyprominoan"]),
  ("Cyrl", ["cyrillic"]), ("Dsrt", ["deseret"]), ("Deva", ["devanagari"]),
  ("Diak", ["divesakuru"]), ("Dogr", ["dogra"]), ("Dupl", ["duployan"]),
  ("Egyp", ["egyptianhieroglyphs"]), ("Elba", ["elbasan"]), ("Elym", ["elymaic"]),
  ("Ethi", ["ethiopic"]), ("Gara", ["garay"]), ("Geor", ["georgian"]), ("Glag", ["glagolitic"]),
  ("Goth", ["gothic"]), ("Gran", ["grantha"]), ("Grek", ["greek"]), ("Gujr", ["gujarati"]),
  ("Gong", ["gunjalagondi"]), ("Guru", ["gurmukhi"]), ("Gukh", ["gurungkhema"]),
  ("Hani", ["han"]), ("Hang", ["hangul"]), ("Rohg", ["hanifirohingya"]), ("Hano", ["hanunoo"]),
  ("Hatr", ["hatran"]), ("Hebr", ["hebrew"]), ("Hira", ["hiragana"]),
  ("Armi", ["imperialaramaic"]), ("Zinh", ["inherited", "qaai"]),
  ("Phli", ["inscriptionalpahlavi"]), ("Prti", ["inscriptionalparthian"]), ("Java", ["javanese"]),
  ("Kthi", ["kaithi"]), ("Knda", ["kannada"]), ("Kana", ["katakana"]), ("Kawi", []),
  ("Kali", ["kayahli"]), ("Khar", ["kharoshthi"]), ("Kits", ["khitansmallscript"]),
  ("Khmr", ["khmer"]), ("Khoj", ["khojki"]), ("Sind", ["khudawadi"]), ("Krai", ["kiratrai"]),
  ("Laoo", ["lao"]), ("Latn", ["latin"]), ("Lepc", ["lepcha"]), ("Limb", ["limbu"]),
  ("Lina", ["lineara"]), ("Linb", ["linearb"]), ("Lisu", []), ("Lyci", ["lycian"]),
  ("Lydi", ["lydian"]), ("Mahj", ["mahajani"]), ("Maka", ["makasar"]), ("Mlym", ["malayalam"]),
  ("Mand", ["mandaic"]), ("Mani", ["manichaean"]), ("Marc", ["marchen"]),
  ("Gonm", ["masaramgondi"]), ("Medf", ["medefaidrin"]), ("Mtei", ["meeteimayek"]),
  ("Mend", ["mendekikakui"]), ("Merc", ["meroiticcursive"]), ("Mero", ["meroitichieroglyphs"]),
  ("Plrd", ["miao"]), ("Modi", []), ("Mong", ["mongolian"]), ("Mroo", ["mro"]),
  ("Mult", ["multani"]), ("Mymr", ["myanmar"]), ("Nbat", ["nabataean"]), ("Nagm", ["nagmundari"]),
  ("Nand", ["nandinagari"]), ("Talu", ["newtailue"]), ("Newa", []), ("Nkoo", ["nko"]),
  ("Nshu", ["nushu"]), ("Hmnp", ["nyiakengpuachuehmong"]), ("Ogam", ["ogham"]),
  ("Olck", ["olchiki"]), ("Onao", ["olonal"]), ("Hung", ["oldhungarian"]),
  ("Ital", ["olditalic"]), ("Narb", ["oldnortharabian"]), ("Perm", ["oldpermic"]),
  ("Xpeo", ["oldpersian"]), ("Sogo", ["oldsogdian"]), ("Sarb", ["oldsoutharabian"]),
  ("Orkh", ["oldturkic"]), ("Ougr", ["olduyghur"]), ("Orya", ["oriya"]), ("Osge", ["osage"]),
  ("Osma", ["osmanya"]), ("Hmng", ["pahawhhmong"]), ("Palm", ["palmyrene"]),
  ("Pauc", ["paucinhau"]), ("Phag", ["phagspa"]), ("Phnx", ["phoenician"]),
  ("Phlp", ["psalterpahlavi"]), ("Rjng", ["rejang"]), ("Runr", ["runic"]),
  ("Samr", ["samaritan"]), ("Saur", ["saurashtra"]), ("Shrd", ["sharada"]), ("Shaw", ["shavian"]),
  ("Sidd", ["siddham"]), ("Sgnw", ["signwriting"]), ("Sinh", ["sinhala"]), ("Sogd", ["sogdian"]),
  ("Sora", ["sorasompeng"]), ("Soyo", ["soyombo"]), ("Sund", ["sundanese"]),
  ("Sunu", ["sunuwar"]), ("Sylo", ["sylotinagri"]), ("Syrc", ["syriac"]), ("Tglg", ["tagalog"]),
  ("Tagb", ["tagbanwa"]), ("Tale", ["taile"]), ("Lana", ["taitham"]), ("Tavt", ["taiviet"]),
  ("Takr", ["takri"]), ("Taml", ["tamil"]), ("Tnsa", ["tangsa"]), ("Tang", ["tangut"]),
  ("Telu", ["telugu"]), ("Thaa", ["thaana"]), ("Thai", []), ("Tibt", ["tibetan"]),
  ("Tfng", ["tifinagh"]), ("Tirh", ["tirhuta"]), ("Todr", ["todhri"]), ("Toto", []),
  ("Tutg", ["tulutigalari"]), ("Ugar", ["ugaritic"]), ("Vaii", ["vai"]), ("Vith", ["vithkuqi"]),
  ("Wcho", ["wancho"]), ("Wara", ["warangciti"]), ("Yezi", ["yezidi"]), ("Yiii", ["yi"]),
  ("Zanb", ["zanabazarsquare"])]

def table : Table := .ofLines [
  "65Zyyy26Latn6Zyyy26Latn47ZyyyLatn15ZyyyLatn5Zyyy23LatnZyyy31LatnZyyy449Latn39Zyyy5Latn5Zyyy",
  "2Bopo20Zyyy112Zinh4GrekZyyy3Grek2Zzzz4GrekZyyyGrek4ZzzzGrekZyyyGrekZyyy3GrekZzzzGrekZzzz20Grek",
  "Zzzz63Grek14Copt16Grek133Cyrl2Zinh169CyrlZzzz38Armn2Zzzz50Armn2Zzzz3ArmnZzzz55Hebr8Zzzz27Hebr",
  "4Zzzz6Hebr11Zzzz5ArabZyyy6ArabZyyy14ArabZyyy3ArabZyyy32ArabZyyy10Arab11Zinh26ArabZinh108Arab",
  "Zyyy34Arab14SyrcZzzz60Syrc2Zzzz3Syrc48Arab50Thaa14Zzzz59Nkoo2Zzzz3Nkoo46Samr2Zzzz15SamrZzzz",
  "28Mand2ZzzzMandZzzz11Syrc5Zzzz31ArabZzzz2Arab5Zzzz75ArabZyyy29Arab81Deva4Zinh15Deva2Zyyy26Deva",
  "4BengZzzz8Beng2Zzzz2Beng2Zzzz22BengZzzz7BengZzzzBeng3Zzzz4Beng2Zzzz9Beng2Zzzz2Beng2Zzzz4Beng",
  "8ZzzzBeng4Zzzz2BengZzzz5Beng2Zzzz25Beng2Zzzz3GuruZzzz6Guru4Zzzz2Guru2Zzzz22GuruZzzz7GuruZzzz",
  "2GuruZzzz2GuruZzzz2Guru2ZzzzGuruZzzz5Guru4Zzzz2Guru2Zzzz3Guru3ZzzzGuru7Zzzz4GuruZzzzGuru7Zzzz",
  "17Guru10Zzzz3GujrZzzz9GujrZzzz3GujrZzzz22GujrZzzz7GujrZzzz2GujrZzzz5Gujr2Zzzz10GujrZzzz3Gujr",
  "Zzzz3Gujr2ZzzzGujr15Zzzz4Gujr2Zzzz12Gujr7Zzzz7GujrZzzz3OryaZzzz8Orya2Zzzz2Orya2Zzzz22OryaZzzz",
  "7OryaZzzz2OryaZzzz5Orya2Zzzz9Orya2Zzzz2Orya2Zzzz3Orya7Zzzz3Orya4Zzzz2OryaZzzz5Orya2Zzzz18Orya",
  "10Zzzz2TamlZzzz6Taml3Zzzz3TamlZzzz4Taml3Zzzz2TamlZzzzTamlZzzz2Taml3Zzzz2Taml3Zzzz3Taml3Zzzz",
  "12Taml4Zzzz5Taml3Zzzz3TamlZzzz4Taml2ZzzzTaml6ZzzzTaml14Zzzz21Taml5Zzzz13TeluZzzz3TeluZzzz",
  "23TeluZzzz16Telu2Zzzz9TeluZzzz3TeluZzzz4Telu7Zzzz2TeluZzzz3Telu2ZzzzTelu2Zzzz4Telu2Zzzz10Telu",
  "7Zzzz9Telu13KndaZzzz3KndaZzzz23KndaZzzz10KndaZzzz5Knda2Zzzz9KndaZzzz3KndaZzzz4Knda7Zzzz2Knda",
  "6Zzzz2KndaZzzz4Knda2Zzzz10KndaZzzz3Knda12Zzzz13MlymZzzz3MlymZzzz51MlymZzzz3MlymZzzz6Mlym4Zzzz",
  "16Mlym2Zzzz26MlymZzzz3SinhZzzz18Sinh3Zzzz24SinhZzzz9SinhZzzzSinh2Zzzz7Sinh3ZzzzSinh4Zzzz6Sinh",
  "ZzzzSinhZzzz8Sinh6Zzzz10Sinh2Zzzz3Sinh12Zzzz58Thai4ZzzzZyyy28Thai37Zzzz2LaooZzzzLaooZzzz5Laoo",
  "Zzzz24LaooZzzzLaooZzzz23Laoo2Zzzz5LaooZzzzLaooZzzz7LaooZzzz10Laoo2Zzzz4Laoo32Zzzz72TibtZzzz",
  "36Tibt4Zzzz39TibtZzzz36TibtZzzz15TibtZzzz7Tibt4Zyyy2Tibt37Zzzz160Mymr38GeorZzzzGeor5ZzzzGeor",
  "2Zzzz43GeorZyyy4Geor256Hang73EthiZzzz4Ethi2Zzzz7EthiZzzzEthiZzzz4Ethi2Zzzz41EthiZzzz4Ethi2Zzzz",
  "33EthiZzzz4Ethi2Zzzz7EthiZzzzEthiZzzz4Ethi2Zzzz15EthiZzzz57EthiZzzz4Ethi2Zzzz67Ethi2Zzzz32Ethi",
  "3Zzzz26Ethi6Zzzz86Cher2Zzzz6Cher2Zzzz640Cans29Ogam3Zzzz75Runr3Zyyy11Runr7Zzzz22Tglg9ZzzzTglg",
  "21Hano2Zyyy9Zzzz20Buhd12Zzzz13TagbZzzz3TagbZzzz2Tagb12Zzzz94Khmr2Zzzz10Khmr6Zzzz10Khmr6Zzzz",
  "2Mong2ZyyyMongZyyy20Mong6Zzzz89Mong7Zzzz43Mong5Zzzz70Cans10Zzzz31LimbZzzz12Limb4Zzzz12Limb",
  "4ZzzzLimb3Zzzz12Limb30Tale2Zzzz5Tale11Zzzz44Talu4Zzzz26Talu6Zzzz11Talu3Zzzz2Talu32Khmr28Bugi",
  "2Zzzz2Bugi63LanaZzzz29Lana2Zzzz11Lana6Zzzz10Lana6Zzzz14Lana2Zzzz31Zinh49Zzzz77BaliZzzz50Bali",
  "64Sund52Batk8Zzzz4Batk56Lepc3Zzzz15Lepc3Zzzz3Lepc48Olck11Cyrl5Zzzz43Geor2Zzzz3Geor8Sund8Zzzz",
  "3ZinhZyyy13ZinhZyyy7Zinh4ZyyyZinh6ZyyyZinh3Zyyy2ZinhZyyy5Zzzz38Latn5GrekCyrl49Latn5Grek4Latn",
  "5Grek13LatnCyrl70LatnGrek64Zinh256Latn22Grek2Zzzz6Grek2Zzzz38Grek2Zzzz6Grek2Zzzz8GrekZzzzGrek",
  "ZzzzGrekZzzzGrekZzzz31Grek2Zzzz53GrekZzzz15GrekZzzz14Grek2Zzzz6GrekZzzz19Grek2Zzzz3GrekZzzz",
  "9GrekZzzz12Zyyy2Zinh87ZyyyZzzz11ZyyyLatn2Zzzz11ZyyyLatn15ZyyyZzzz13Latn3Zzzz33Zyyy15Zzzz33Zinh",
  "15Zzzz38ZyyyGrek3Zyyy2Latn6ZyyyLatn27ZyyyLatn17Zyyy41Latn3Zyyy4Zzzz666Zyyy22Zzzz11Zyyy21Zzzz",
  "928Zyyy256Brai628Zyyy2Zzzz32ZyyyZzzz105Zyyy96Glag32Latn116Copt5Zzzz7Copt38GeorZzzzGeor5Zzzz",
  "Geor2Zzzz56Tfng7Zzzz2Tfng14ZzzzTfng23Ethi9Zzzz7EthiZzzz7EthiZzzz7EthiZzzz7EthiZzzz7EthiZzzz",
  "7EthiZzzz7EthiZzzz7EthiZzzz32Cyrl94Zyyy34Zzzz26HaniZzzz89Hani12Zzzz214Hani26Zzzz21ZyyyHaniZyyy",
  "Hani25Zyyy9Hani4Zinh2Hang8Zyyy4Hani4ZyyyZzzz86Hira2Zzzz2Zinh2Zyyy3HiraZyyy90Kana2Zyyy3Kana",
  "5Zzzz43BopoZzzz94HangZzzz16Zyyy32Bopo38Zyyy9ZzzzZyyy16Kana31HangZzzz64Zyyy31Hang81Zyyy47Kana",
  "Zyyy88Kana168Zyyy6592Hani64Zyyy20992Hani1165Yiii3Zzzz55Yiii9Zzzz48Lisu300Vaii20Zzzz96Cyrl",
  "88Bamu8Zzzz34Zyyy102Latn3Zyyy67Latn2Zzzz2LatnZzzzLatnZzzz8Latn21Zzzz14Latn45Sylo3Zzzz10Zyyy",
  "6Zzzz56Phag8Zzzz70Saur8Zzzz12Saur6Zzzz32Deva46KaliZyyyKali36Rjng11ZzzzRjng29Hang3Zzzz78Java",
  "ZzzzZyyy10Java4Zzzz2Java31MymrZzzz55Cham9Zzzz14Cham2Zzzz10Cham2Zzzz4Cham32Mymr67Tavt24Zzzz",
  "5Tavt23Mtei10Zzzz6Ethi2Zzzz6Ethi2Zzzz6Ethi9Zzzz7EthiZzzz7EthiZzzz43LatnZyyy9LatnGrek4Latn2Zyyy",
  "4Zzzz80Cher46Mtei2Zzzz10Mtei6Zzzz11172Hang12Zzzz23Hang4Zzzz49Hang6404Zzzz366Hani2Zzzz106Hani",
  "38Zzzz7Latn12Zzzz5Armn5Zzzz26HebrZzzz5HebrZzzzHebrZzzz2HebrZzzz2HebrZzzz10Hebr115Arab16Zzzz",
  "363Arab2Zyyy80Arab2Zzzz54Arab7ZzzzArab32Zzzz16Arab16Zinh10Zyyy6Zzzz14Zinh2Cyrl35ZyyyZzzz19Zyyy",
  "Zzzz4Zyyy4Zzzz5ArabZzzz135Arab2ZzzzZyyyZzzz32Zyyy26Latn6Zyyy26Latn11Zyyy10KanaZyyy45Kana2Zyyy",
  "31Hang3Zzzz6Hang2Zzzz6Hang2Zzzz6Hang2Zzzz3Hang3Zzzz7ZyyyZzzz7Zyyy10Zzzz5Zyyy2Zzzz12LinbZzzz",
  "26LinbZzzz19LinbZzzz2LinbZzzz15Linb2Zzzz14Linb34Zzzz123Linb5Zzzz3Zyyy4Zzzz45Zyyy3Zzzz9Zyyy",
  "79GrekZzzz13Zyyy3ZzzzGrek47Zzzz45ZyyyZinh130Zzzz29Lyci3Zzzz49Cari15ZzzzZinh27Zyyy4Zzzz36Ital",
  "9Zzzz3Ital27Goth5Zzzz43Perm5Zzzz30UgarZzzzUgar36Xpeo4Zzzz14Xpeo42Zzzz80Dsrt48Shaw30Osma2Zzzz",
  "10Osma6Zzzz36Osge4Zzzz36Osge4Zzzz40Elba8Zzzz52Aghb11ZzzzAghb11VithZzzz15VithZzzz7VithZzzz2Vith",
  "Zzzz11VithZzzz15VithZzzz7VithZzzz2Vith3Zzzz52Todr12Zzzz311Lina9Zzzz22Lina10Zzzz8Lina24Zzzz",
  "6LatnZzzz42LatnZzzz9Latn69Zzzz6Cprt2ZzzzCprtZzzz44CprtZzzz2Cprt3ZzzzCprt2ZzzzCprt22ArmiZzzz",
  "9Armi32Palm31Nbat8Zzzz9Nbat48Zzzz19HatrZzzz2Hatr5Zzzz5Hatr28Phnx3ZzzzPhnx26Lydi5ZzzzLydi64Zzzz",
  "32Mero24Merc4Zzzz20Merc2Zzzz46Merc4KharZzzz2Khar5Zzzz8KharZzzz3KharZzzz29Khar2Zzzz3Khar4Zzzz",
  "10Khar7Zzzz9Khar7Zzzz32Sarb32Narb32Zzzz39Mani4Zzzz12Mani9Zzzz54Avst3Zzzz7Avst22Prti2Zzzz8Prti",
  "19Phli5Zzzz8Phli18Phlp7Zzzz4Phlp12Zzzz7Phlp80Zzzz73Orkh55Zzzz51Hung13Zzzz51Hung7Zzzz6Hung",
  "40Rohg8Zzzz10Rohg6Zzzz38Gara3Zzzz29Gara8Zzzz2Gara208Zzzz31ArabZzzz42YeziZzzz3Yezi2Zzzz2Yezi",
  "16Zzzz3Arab55Zzzz4Arab40Sogo8Zzzz42Sogd22Zzzz26Ougr38Zzzz28Chrs20Zzzz23Elym9Zzzz78Brah4Zzzz",
  "36Brah9ZzzzBrah67Kthi10ZzzzKthi2Zzzz25Sora7Zzzz10Sora6Zzzz53CakmZzzz18Cakm8Zzzz39Mahj9Zzzz",
  "96ShrdZzzz20Sinh11Zzzz18KhojZzzz47Khoj62Zzzz7MultZzzzMultZzzz4MultZzzz15MultZzzz11Mult6Zzzz",
  "59Sind5Zzzz10Sind6Zzzz4GranZzzz8Gran2Zzzz2Gran2Zzzz22GranZzzz7GranZzzz2GranZzzz5GranZzzzZinh",
  "9Gran2Zzzz2Gran2Zzzz3Gran2ZzzzGran6ZzzzGran5Zzzz7Gran2Zzzz7Gran3Zzzz5Gran11Zzzz10TutgZzzzTutg",
  "2ZzzzTutgZzzz38TutgZzzz10TutgZzzzTutg2ZzzzTutgZzzz4TutgZzzz10TutgZzzz2Tutg8Zzzz2Tutg29Zzzz",
  "92NewaZzzz5Newa30Zzzz72Tirh8Zzzz10Tirh166Zzzz54Sidd2Zzzz38Sidd34Zzzz69Modi11Zzzz10Modi6Zzzz",
  "13Mong19Zzzz58Takr6Zzzz10Takr6Zzzz20Mymr28Zzzz27Ahom2Zzzz15Ahom4Zzzz23Ahom185Zzzz60Dogr100Zzzz",
  "83Wara12ZzzzWara7Diak2ZzzzDiak2Zzzz8DiakZzzz2DiakZzzz30DiakZzzz2Diak2Zzzz12Diak9Zzzz10Diak",
  "70Zzzz8Nand2Zzzz46Nand2Zzzz11Nand27Zzzz72Zanb8Zzzz83Soyo13Zzzz16Cans57Pauc7Zzzz10Deva182Zzzz",
  "34Sunu14Zzzz10Sunu6Zzzz9BhksZzzz45BhksZzzz14Bhks10Zzzz29Bhks3Zzzz32Marc2Zzzz22MarcZzzz14Marc",
  "73Zzzz7GonmZzzz2GonmZzzz44Gonm3ZzzzGonmZzzz2GonmZzzz9Gonm8Zzzz10Gonm6Zzzz6GongZzzz2GongZzzz",
  "37GongZzzz2GongZzzz6Gong7Zzzz10Gong310Zzzz25Maka7Zzzz17KawiZzzz41Kawi3Zzzz29Kawi85ZzzzLisu",
  "15Zzzz50Taml13ZzzzTaml922Xsux102Zzzz111XsuxZzzz5Xsux11Zzzz196Xsux2636Zzzz99Cpmn13Zzzz1110Egyp",
  "10Zzzz3995Egyp5Zzzz583Hluw6841Zzzz58Gukh1734Zzzz569Bamu7Zzzz31MrooZzzz10Mroo4Zzzz2Mroo79Tnsa",
  "Zzzz10Tnsa6Zzzz30Bass2Zzzz6Bass10Zzzz70Hmng10Zzzz10HmngZzzz7HmngZzzz21Hmng5Zzzz19Hmng432Zzzz",
  "58Krai198Zzzz91Medf101Zzzz75Plrd4Zzzz57Plrd7Zzzz17Plrd64ZzzzTangNshu2HaniKits11Zzzz2Hani14Zzzz",
  "6136Tang8Zzzz768Tang470Kits41ZzzzKits9Tang8935Zzzz4KanaZzzz7KanaZzzz2KanaZzzzKana287Hira3Kana",
  "15ZzzzHira29Zzzz3Hira2ZzzzKana14Zzzz4Kana8Zzzz396Nshu2308Zzzz107Dupl5Zzzz13Dupl3Zzzz9Dupl7Zzzz",
  "10Dupl2Zzzz4Dupl4Zyyy3932Zzzz250Zyyy6Zzzz436Zyyy76Zzzz46Zinh2Zzzz23Zinh9Zzzz116Zyyy60Zzzz",
  "246Zyyy10Zzzz39Zyyy2Zzzz62Zyyy3Zinh17Zyyy8Zinh2Zyyy7Zinh30Zyyy4Zinh61Zyyy21Zzzz70Grek122Zzzz",
  "20Zyyy12Zzzz20Zyyy12Zzzz87Zyyy9Zzzz25Zyyy135Zzzz85ZyyyZzzz71ZyyyZzzz2Zyyy2ZzzzZyyy2Zzzz2Zyyy",
  "2Zzzz4ZyyyZzzz12ZyyyZzzzZyyyZzzz7ZyyyZzzz65ZyyyZzzz4Zyyy2Zzzz8ZyyyZzzz7ZyyyZzzz28ZyyyZzzz4Zyyy",
  "Zzzz5ZyyyZzzzZyyy3Zzzz7ZyyyZzzz340Zyyy2Zzzz292Zyyy2Zzzz50Zyyy652Sgnw15Zzzz5SgnwZzzz15Sgnw",
  "1104Zzzz31Latn6Zzzz6Latn213Zzzz7GlagZzzz17Glag2Zzzz7GlagZzzz2GlagZzzz5Glag5Zzzz62Cyrl33Zzzz",
  "Cyrl112Zzzz45Hmnp3Zzzz14Hmnp2Zzzz10Hmnp4Zzzz2Hmnp320Zzzz31Toto17Zzzz58Wcho5ZzzzWcho464Zzzz",
  "42Nagm214Zzzz43Onao4ZzzzOnao480Zzzz7EthiZzzz4EthiZzzz2EthiZzzz15EthiZzzz197Mend2Zzzz16Mend",
  "41Zzzz76Adlm4Zzzz10Adlm4Zzzz2Adlm785Zzzz68Zyyy76Zzzz61Zyyy194Zzzz4ArabZzzz27ArabZzzz2ArabZzzz",
  "Arab2ZzzzArabZzzz10ArabZzzz4ArabZzzzArabZzzzArab6ZzzzArab4ZzzzArabZzzzArabZzzzArabZzzz3Arab",
  "Zzzz2ArabZzzzArab2ZzzzArabZzzzArabZzzzArabZzzzArabZzzzArabZzzz2ArabZzzzArab2Zzzz4ArabZzzz7Arab",
  "Zzzz4ArabZzzz4ArabZzzzArabZzzz10ArabZzzz17Arab5Zzzz3ArabZzzz5ArabZzzz17Arab52Zzzz2Arab270Zzzz",
  "44Zyyy4Zzzz100Zyyy12Zzzz15Zyyy2Zzzz15ZyyyZzzz15ZyyyZzzz37Zyyy10Zzzz174Zyyy56Zzzz26ZyyyHira",
  "2Zyyy13Zzzz44Zyyy4Zzzz9Zyyy7Zzzz2Zyyy14Zzzz6Zyyy154Zzzz984Zyyy4Zzzz17Zyyy3Zzzz13Zyyy3Zzzz",
  "119Zyyy4Zzzz95Zyyy6Zzzz12Zyyy4ZzzzZyyy15Zzzz12Zyyy4Zzzz56Zyyy8Zzzz10Zyyy6Zzzz40Zyyy8Zzzz30Zyyy",
  "2Zzzz12Zyyy4Zzzz2Zyyy62Zzzz340Zyyy12Zzzz14Zyyy2Zzzz13Zyyy3Zzzz10Zyyy5Zzzz56Zyyy7Zzzz15Zyyy",
  "2Zzzz11Zyyy6Zzzz9Zyyy7Zzzz147ZyyyZzzz102Zyyy1030Zzzz42720Hani32Zzzz4154Hani6Zzzz222Hani2Zzzz",
  "5762Hani14Zzzz7473Hani15Zzzz622Hani2466Zzzz542Hani1506Zzzz4939Hani5Zzzz4192Hani711761ZzzzZyyy",
  "30Zzzz96Zyyy128Zzzz240Zinh196112Zzzz"]

/-- The characters that several scripts share, with the codes of these. -/
def extensions : List (List (Nat × Nat) × List String) := [
  ([(0xB7, 0xB7)], ["Avst", "Cari", "Copt", "Dupl", "Elba", "Geor", "Glag", "Goth", "Grek",
    "Gong", "Hani", "Latn", "Lydi", "Mahj", "Perm", "Shaw"]),
  ([(0x2BC, 0x2BC)], ["Beng", "Cyrl", "Deva", "Latn", "Lisu", "Thai", "Toto"]),
  ([(0x2C7, 0x2C7), (0x2C9, 0x2CB), (0x2D9, 0x2D9)], ["Bopo", "Latn"]),
  ([(0x2CD, 0x2CD)], ["Latn", "Lisu"]),
  ([(0x2D7, 0x2D7)], ["Latn", "Thai"]),
  ([(0x300, 0x300)], ["Cher", "Copt", "Cyrl", "Grek", "Latn", "Perm", "Sunu", "Tale"]),
  ([(0x301, 0x301)], ["Cher", "Cyrl", "Grek", "Latn", "Osge", "Sunu", "Tale", "Todr"]),
  ([(0x302, 0x302)], ["Cher", "Cyrl", "Latn", "Tfng"]),
  ([(0x303, 0x303)], ["Glag", "Latn", "Sunu", "Syrc", "Thai"]),
  ([(0x304, 0x304)], ["Aghb", "Cher", "Copt", "Cyrl", "Goth", "Grek", "Latn", "Osge", "Syrc",
    "Tfng", "Todr"]),
  ([(0x305, 0x305)], ["Copt", "Elba", "Glag", "Goth", "Kana", "Latn"]),
  ([(0x306, 0x306)], ["Cyrl", "Grek", "Latn", "Perm"]),
  ([(0x307, 0x307)], ["Copt", "Dupl", "Hebr", "Latn", "Perm", "Syrc", "Tale", "Tfng", "Todr"]),
  ([(0x308, 0x308)], ["Armn", "Cyrl", "Dupl", "Goth", "Grek", "Hebr", "Latn", "Perm", "Syrc",
    "Tale"]),
  ([(0x309, 0x309)], ["Latn", "Tfng"]),
  ([(0x30A, 0x30A)], ["Dupl", "Latn", "Syrc"]),
  ([(0x30B, 0x30B)], ["Cher", "Cyrl", "Latn", "Osge"]),
  ([(0x30C, 0x30C)], ["Cher", "Latn", "Tale"]),
  ([(0x30D, 0x30D), (0x310, 0x310)], ["Latn", "Sunu"]),
  ([(0x30E, 0x30E)], ["Ethi", "Latn"]),
  ([(0x311, 0x311)], ["Cyrl", "Latn", "Todr"]),
  ([(0x313, 0x313)], ["Grek", "Latn", "Perm", "Todr"]),
  ([(0x320, 0x320), (0x325, 0x325), (0x32E, 0x32E)], ["Latn", "Syrc"]),
  ([(0x323, 0x323)], ["Cher", "Dupl", "Kana", "Latn", "Syrc"]),
  ([(0x324, 0x324)], ["Cher", "Dupl", "Latn", "Syrc"]),
  ([(0x32D, 0x32D)], ["Latn", "Sunu", "Syrc"]),
  ([(0x330, 0x330)], ["Cher", "Latn", "Syrc"]),
  ([(0x331, 0x331)], ["Aghb", "Cher", "Goth", "Latn", "Sunu", "Thai"]),
  ([(0x342, 0x342), (0x345, 0x345), (0x1DC0, 0x1DC1)], ["Grek"]),
  ([(0x358, 0x358)], ["Latn", "Osge"]),
  ([(0x35E, 0x35E)], ["Aghb", "Latn", "Todr"]),
  ([(0x363, 0x36F)], ["Latn"]),
  ([(0x374, 0x375)], ["Copt", "Grek"]),
  ([(0x483, 0x483)], ["Cyrl", "Perm"]),
  ([(0x484, 0x484), (0x487, 0x487), (0x2E43, 0x2E43), (0xA66F, 0xA66F)], ["Cyrl", "Glag"]),
  ([(0x485, 0x486)], ["Cyrl", "Latn"]),
  ([(0x589, 0x589)], ["Armn", "Geor", "Glag"]),
  ([(0x60C, 0x60C), (0x61B, 0x61B)], ["Arab", "Gara", "Rohg", "Nkoo", "Syrc", "Thaa", "Yezi"]),
  ([(0x61C, 0x61C)], ["Arab", "Syrc", "Thaa"]),
  ([(0x61F, 0x61F)], ["Adlm", "Arab", "Gara", "Rohg", "Nkoo", "Syrc", "Thaa", "Yezi"]),
  ([(0x640, 0x640)], ["Adlm", "Arab", "Rohg", "Mand", "Mani", "Ougr", "Phlp", "Sogd", "Syrc"]),
  ([(0x64B, 0x655), (0x670, 0x670)], ["Arab", "Syrc"]),
  ([(0x660, 0x669)], ["Arab", "Thaa", "Yezi"]),
  ([(0x6D4, 0x6D4)], ["Arab", "Rohg"]),
  ([(0x951, 0x951)], ["Beng", "Deva", "Gran", "Gujr", "Guru", "Knda", "Latn", "Mlym", "Orya",
    "Shrd", "Taml", "Telu", "Tirh"]),
  ([(0x952, 0x952)], ["Beng", "Deva", "Gran", "Gujr", "Guru", "Knda", "Latn", "Mlym", "Orya",
    "Taml", "Telu", "Tirh"]),
  ([(0x964, 0x964)], ["Beng", "Deva", "Dogr", "Gran", "Gujr", "Gong", "Guru", "Knda", "Sind",
    "Mahj", "Mlym", "Gonm", "Nand", "Onao", "Orya", "Sinh", "Sylo", "Takr", "Taml", "Telu",
    "Tirh"]),
  ([(0x965, 0x965)], ["Beng", "Deva", "Dogr", "Gran", "Gujr", "Gong", "Guru", "Gukh", "Knda",
    "Sind", "Limb", "Mahj", "Mlym", "Gonm", "Nand", "Onao", "Orya", "Sinh", "Sylo", "Takr",
    "Taml", "Telu", "Tirh"]),
  ([(0x966, 0x96F)], ["Deva", "Dogr", "Kthi", "Mahj"]),
  ([(0x9E6, 0x9EF)], ["Beng", "Cakm", "Sylo"]),
  ([(0xA66, 0xA6F)], ["Guru", "Mult"]),
  ([(0xAE6, 0xAEF)], ["Gujr", "Khoj"]),
  ([(0xBE6, 0xBF3), (0x11301, 0x11301), (0x11303, 0x11303), (0x1133B, 0x1133C), (0x11FD0,
    0x11FD1), (0x11FD3, 0x11FD3)], ["Gran", "Taml"]),
  ([(0xCE6, 0xCEF)], ["Knda", "Nand", "Tutg"]),
  ([(0x1040, 0x1049)], ["Cakm", "Mymr", "Tale"]),
  ([(0x10FB, 0x10FB)], ["Geor", "Glag", "Latn"]),
  ([(0x16EB, 0x16ED)], ["Runr"]),
  ([(0x1735, 0x1736)], ["Buhd", "Hano", "Tglg", "Tagb"]),
  ([(0x1802, 0x1803), (0x1805, 0x1805)], ["Mong", "Phag"]),
  ([(0x1CD0, 0x1CD0), (0x1CD2, 0x1CD2)], ["Beng", "Deva", "Gran", "Knda"]),
  ([(0x1CD1, 0x1CD1), (0x1CD4, 0x1CD4), (0x1CDB, 0x1CDB), (0x1CDE, 0x1CDF), (0x1CE2, 0x1CE8),
    (0x1CEB, 0x1CEC), (0x1CEE, 0x1CF1)], ["Deva"]),
  ([(0x1CD3, 0x1CD3)], ["Deva", "Gran", "Knda"]),
  ([(0x1CD5, 0x1CD6), (0x1CD8, 0x1CD8), (0x1CE1, 0x1CE1), (0x1CEA, 0x1CEA), (0x1CED, 0x1CED),
    (0x1CF5, 0x1CF6)], ["Beng", "Deva"]),
  ([(0x1CD7, 0x1CD7), (0x1CD9, 0x1CD9), (0x1CDC, 0x1CDD), (0x1CE0, 0x1CE0)], ["Deva", "Shrd"]),
  ([(0x1CDA, 0x1CDA)], ["Deva", "Knda", "Mlym", "Orya", "Taml", "Telu"]),
  ([(0x1CE9, 0x1CE9)], ["Deva", "Nand"]),
  ([(0x1CF2, 0x1CF2)], ["Beng", "Deva", "Gran", "Knda", "Mlym", "Nand", "Orya", "Sinh",
    "Telu", "Tirh", "Tutg"]),
  ([(0x1CF3, 0x1CF3), (0x1CF8, 0x1CF9)], ["Deva", "Gran"]),
  ([(0x1CF4, 0x1CF4)], ["Deva", "Gran", "Knda", "Tutg"]),
  ([(0x1CF7, 0x1CF7)], ["Beng"]),
  ([(0x1CFA, 0x1CFA)], ["Nand"]),
  ([(0x1DF8, 0x1DF8)], ["Cyrl", "Latn", "Syrc"]),
  ([(0x1DFA, 0x1DFA)], ["Syrc"]),
  ([(0x202F, 0x202F)], ["Latn", "Mong", "Phag"]),
  ([(0x204F, 0x204F)], ["Adlm", "Arab"]),
  ([(0x205A, 0x205A)], ["Cari", "Geor", "Glag", "Lyci", "Hung", "Orkh"]),
  ([(0x205D, 0x205D)], ["Cari", "Grek", "Mero", "Hung"]),
  ([(0x20F0, 0x20F0)], ["Deva", "Gran", "Latn"]),
  ([(0x2E17, 0x2E17)], ["Copt", "Latn"]),
  ([(0x2E30, 0x2E30)], ["Avst", "Orkh"]),
  ([(0x2E31, 0x2E31)], ["Avst", "Cari", "Geor", "Kthi", "Lydi", "Hung", "Samr"]),
  ([(0x2E3C, 0x2E3C), (0x1BCA0, 0x1BCA3)], ["Dupl"]),
  ([(0x2E41, 0x2E41)], ["Adlm", "Arab", "Hung"]),
  ([(0x2FF0, 0x2FFF), (0x31EF, 0x31EF)], ["Hani", "Tang"]),
  ([(0x3001, 0x3001)], ["Bopo", "Hani", "Hang", "Hira", "Kana", "Mong", "Yiii"]),
  ([(0x3002, 0x3002)], ["Bopo", "Hani", "Hang", "Hira", "Kana", "Mong", "Phag", "Yiii"]),
  ([(0x3003, 0x3003), (0x3013, 0x3013), (0x301C, 0x301F), (0x3030, 0x3030), (0x3037, 0x3037),
    (0xFE45, 0xFE46)], ["Bopo", "Hani", "Hang", "Hira", "Kana"]),
  ([(0x3006, 0x3006), (0x303E, 0x303F), (0x3190, 0x319F), (0x31C0, 0x31E5), (0x3220, 0x3247),
    (0x3280, 0x32B0), (0x32C0, 0x32CB), (0x32FF, 0x32FF), (0x3358, 0x3370), (0x337B, 0x337F),
    (0x33E0, 0x33FE), (0x1D360, 0x1D371), (0x1F250, 0x1F251)], ["Hani"]),
  ([(0x3008, 0x3009)], ["Bopo", "Hani", "Hang", "Hira", "Kana", "Mong", "Tibt", "Yiii"]),
  ([(0x300A, 0x300B)], ["Bopo", "Hani", "Hang", "Hira", "Kana", "Lisu", "Mong", "Tibt",
    "Yiii"]),
  ([(0x300C, 0x3011), (0x3014, 0x301B), (0x30FB, 0x30FB), (0xFF61, 0xFF65)], ["Bopo", "Hani",
    "Hang", "Hira", "Kana", "Yiii"]),
  ([(0x302A, 0x302D)], ["Bopo", "Hani"]),
  ([(0x3031, 0x3035), (0x3099, 0x309C), (0x30A0, 0x30A0), (0x30FC, 0x30FC), (0xFF70, 0xFF70),
    (0xFF9E, 0xFF9F)], ["Hira", "Kana"]),
  ([(0x303C, 0x303D)], ["Hani", "Hira", "Kana"]),
  ([(0xA700, 0xA707)], ["Hani", "Latn"]),
  ([(0xA830, 0xA832)], ["Deva", "Dogr", "Gujr", "Guru", "Kthi", "Knda", "Khoj", "Sind",
    "Mahj", "Mlym", "Modi", "Nand", "Shrd", "Takr", "Tirh", "Tutg"]),
  ([(0xA833, 0xA835)], ["Deva", "Dogr", "Gujr", "Guru", "Kthi", "Knda", "Khoj", "Sind",
    "Mahj", "Modi", "Nand", "Shrd", "Takr", "Tirh", "Tutg"]),
  ([(0xA836, 0xA837), (0xA839, 0xA839)], ["Deva", "Dogr", "Gujr", "Guru", "Kthi", "Khoj",
    "Sind", "Mahj", "Modi", "Takr", "Tirh"]),
  ([(0xA838, 0xA838)], ["Deva", "Dogr", "Gujr", "Guru", "Kthi", "Khoj", "Sind", "Mahj",
    "Modi", "Shrd", "Takr", "Tirh"]),
  ([(0xA8F1, 0xA8F1)], ["Beng", "Deva", "Tutg"]),
  ([(0xA8F3, 0xA8F3)], ["Deva", "Taml"]),
  ([(0xA92E, 0xA92E)], ["Kali", "Latn", "Mymr"]),
  ([(0xA9CF, 0xA9CF)], ["Bugi", "Java"]),
  ([(0xFD3E, 0xFD3F)], ["Arab", "Nkoo"]),
  ([(0xFDF2, 0xFDF2), (0xFDFD, 0xFDFD)], ["Arab", "Thaa"]),
  ([(0x10100, 0x10101)], ["Cprt", "Cpmn", "Linb"]),
  ([(0x10102, 0x10102), (0x10137, 0x1013F)], ["Cprt", "Linb"]),
  ([(0x10107, 0x10133)], ["Cprt", "Lina", "Linb"]),
  ([(0x102E0, 0x102FB)], ["Arab", "Copt"]),
  ([(0x10AF2, 0x10AF2)], ["Mani", "Ougr"])]

/-- The code of a script from a name in small letters without separators. -/
def named? (name : String) : Option String :=
  (names.find? fun e => e.1.toLower == name || e.2.contains name).map Prod.fst

/-- The characters of the script with this code. -/
def chars (code : String) : CharSet := table.chars (· == code)

/-- The characters of the script and those that it shares. Where a character is listed as shared,
the list alone says by which scripts. -/
def extendedChars (code : String) : CharSet :=
  let shared := .unions (extensions.map fun e => .ofCodes e.1)
  let added := (extensions.filter fun e => e.2.contains code).map fun e => CharSet.ofCodes e.1
  ((chars code).diff shared).union (.unions added)

end Fixture.Unicode.Script
