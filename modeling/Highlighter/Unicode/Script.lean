import Highlighter.Unicode.Table.Script
import Highlighter.Unicode.Table.ScriptExtension

/-! The scripts of the world, with their names and characters. -/

namespace Highlighter.Unicode

/-- A script: its names in loose form, the characters that belong to it alone, and all characters in use
for it. -/
structure Script where
  names : List String
  own : CodeRanges
  inUse : CodeRanges

def scripts : List Script := [
  ⟨["adlm", "adlam"], Table.adlam, Table.adlamExtended⟩,
  ⟨["ahom"], Table.ahom, Table.ahom⟩,
  ⟨["hluw", "anatolianhieroglyphs"], Table.anatolianHieroglyphs, Table.anatolianHieroglyphs⟩,
  ⟨["arab", "arabic"], Table.arabic, Table.arabicExtended⟩,
  ⟨["armn", "armenian"], Table.armenian, Table.armenianExtended⟩,
  ⟨["avst", "avestan"], Table.avestan, Table.avestanExtended⟩,
  ⟨["bali", "balinese"], Table.balinese, Table.balinese⟩,
  ⟨["bamu", "bamum"], Table.bamum, Table.bamum⟩,
  ⟨["bass", "bassavah"], Table.bassaVah, Table.bassaVah⟩,
  ⟨["batk", "batak"], Table.batak, Table.batak⟩,
  ⟨["beng", "bengali"], Table.bengali, Table.bengaliExtended⟩,
  ⟨["berf", "beriaerfe"], Table.beriaErfe, Table.beriaErfe⟩,
  ⟨["bhks", "bhaiksuki"], Table.bhaiksuki, Table.bhaiksuki⟩,
  ⟨["bopo", "bopomofo"], Table.bopomofo, Table.bopomofoExtended⟩,
  ⟨["brah", "brahmi"], Table.brahmi, Table.brahmi⟩,
  ⟨["brai", "braille"], Table.braille, Table.braille⟩,
  ⟨["bugi", "buginese"], Table.buginese, Table.bugineseExtended⟩,
  ⟨["buhd", "buhid"], Table.buhid, Table.buhidExtended⟩,
  ⟨["cans", "canadianaboriginal"], Table.canadianAboriginal, Table.canadianAboriginal⟩,
  ⟨["cari", "carian"], Table.carian, Table.carianExtended⟩,
  ⟨["aghb", "caucasianalbanian"], Table.caucasianAlbanian, Table.caucasianAlbanianExtended⟩,
  ⟨["cakm", "chakma"], Table.chakma, Table.chakmaExtended⟩,
  ⟨["cham"], Table.cham, Table.cham⟩,
  ⟨["cher", "cherokee"], Table.cherokee, Table.cherokeeExtended⟩,
  ⟨["chrs", "chorasmian"], Table.chorasmian, Table.chorasmian⟩,
  ⟨["zyyy", "common"], Table.common, Table.commonExtended⟩,
  ⟨["copt", "coptic", "qaac"], Table.coptic, Table.copticExtended⟩,
  ⟨["xsux", "cuneiform"], Table.cuneiform, Table.cuneiform⟩,
  ⟨["cprt", "cypriot"], Table.cypriot, Table.cypriotExtended⟩,
  ⟨["cpmn", "cyprominoan"], Table.cyproMinoan, Table.cyproMinoanExtended⟩,
  ⟨["cyrl", "cyrillic"], Table.cyrillic, Table.cyrillicExtended⟩,
  ⟨["dsrt", "deseret"], Table.deseret, Table.deseret⟩,
  ⟨["deva", "devanagari"], Table.devanagari, Table.devanagariExtended⟩,
  ⟨["diak", "divesakuru"], Table.divesAkuru, Table.divesAkuru⟩,
  ⟨["dogr", "dogra"], Table.dogra, Table.dograExtended⟩,
  ⟨["dupl", "duployan"], Table.duployan, Table.duployanExtended⟩,
  ⟨["egyp", "egyptianhieroglyphs"], Table.egyptianHieroglyphs, Table.egyptianHieroglyphs⟩,
  ⟨["elba", "elbasan"], Table.elbasan, Table.elbasanExtended⟩,
  ⟨["elym", "elymaic"], Table.elymaic, Table.elymaic⟩,
  ⟨["ethi", "ethiopic"], Table.ethiopic, Table.ethiopicExtended⟩,
  ⟨["gara", "garay"], Table.garay, Table.garayExtended⟩,
  ⟨["geor", "georgian"], Table.georgian, Table.georgianExtended⟩,
  ⟨["glag", "glagolitic"], Table.glagolitic, Table.glagoliticExtended⟩,
  ⟨["goth", "gothic"], Table.gothic, Table.gothicExtended⟩,
  ⟨["gran", "grantha"], Table.grantha, Table.granthaExtended⟩,
  ⟨["grek", "greek"], Table.greek, Table.greekExtended⟩,
  ⟨["gujr", "gujarati"], Table.gujarati, Table.gujaratiExtended⟩,
  ⟨["gong", "gunjalagondi"], Table.gunjalaGondi, Table.gunjalaGondiExtended⟩,
  ⟨["guru", "gurmukhi"], Table.gurmukhi, Table.gurmukhiExtended⟩,
  ⟨["gukh", "gurungkhema"], Table.gurungKhema, Table.gurungKhemaExtended⟩,
  ⟨["hani", "han"], Table.han, Table.hanExtended⟩,
  ⟨["hang", "hangul"], Table.hangul, Table.hangulExtended⟩,
  ⟨["rohg", "hanifirohingya"], Table.hanifiRohingya, Table.hanifiRohingyaExtended⟩,
  ⟨["hano", "hanunoo"], Table.hanunoo, Table.hanunooExtended⟩,
  ⟨["hatr", "hatran"], Table.hatran, Table.hatran⟩,
  ⟨["hebr", "hebrew"], Table.hebrew, Table.hebrewExtended⟩,
  ⟨["hira", "hiragana"], Table.hiragana, Table.hiraganaExtended⟩,
  ⟨["armi", "imperialaramaic"], Table.imperialAramaic, Table.imperialAramaic⟩,
  ⟨["zinh", "inherited", "qaai"], Table.inherited, Table.inheritedExtended⟩,
  ⟨["phli", "inscriptionalpahlavi"], Table.inscriptionalPahlavi, Table.inscriptionalPahlavi⟩,
  ⟨["prti", "inscriptionalparthian"], Table.inscriptionalParthian, Table.inscriptionalParthian⟩,
  ⟨["java", "javanese"], Table.javanese, Table.javaneseExtended⟩,
  ⟨["kthi", "kaithi"], Table.kaithi, Table.kaithiExtended⟩,
  ⟨["knda", "kannada"], Table.kannada, Table.kannadaExtended⟩,
  ⟨["kana", "katakana"], Table.katakana, Table.katakanaExtended⟩,
  ⟨["kawi"], Table.kawi, Table.kawi⟩,
  ⟨["kali", "kayahli"], Table.kayahLi, Table.kayahLiExtended⟩,
  ⟨["khar", "kharoshthi"], Table.kharoshthi, Table.kharoshthi⟩,
  ⟨["kits", "khitansmallscript"], Table.khitanSmallScript, Table.khitanSmallScript⟩,
  ⟨["khmr", "khmer"], Table.khmer, Table.khmer⟩,
  ⟨["khoj", "khojki"], Table.khojki, Table.khojkiExtended⟩,
  ⟨["sind", "khudawadi"], Table.khudawadi, Table.khudawadiExtended⟩,
  ⟨["krai", "kiratrai"], Table.kiratRai, Table.kiratRai⟩,
  ⟨["laoo", "lao"], Table.lao, Table.lao⟩,
  ⟨["latn", "latin"], Table.latin, Table.latinExtended⟩,
  ⟨["lepc", "lepcha"], Table.lepcha, Table.lepcha⟩,
  ⟨["limb", "limbu"], Table.limbu, Table.limbuExtended⟩,
  ⟨["lina", "lineara"], Table.linearA, Table.linearAExtended⟩,
  ⟨["linb", "linearb"], Table.linearB, Table.linearBExtended⟩,
  ⟨["lisu"], Table.lisu, Table.lisuExtended⟩,
  ⟨["lyci", "lycian"], Table.lycian, Table.lycianExtended⟩,
  ⟨["lydi", "lydian"], Table.lydian, Table.lydianExtended⟩,
  ⟨["mahj", "mahajani"], Table.mahajani, Table.mahajaniExtended⟩,
  ⟨["maka", "makasar"], Table.makasar, Table.makasar⟩,
  ⟨["mlym", "malayalam"], Table.malayalam, Table.malayalamExtended⟩,
  ⟨["mand", "mandaic"], Table.mandaic, Table.mandaicExtended⟩,
  ⟨["mani", "manichaean"], Table.manichaean, Table.manichaeanExtended⟩,
  ⟨["marc", "marchen"], Table.marchen, Table.marchen⟩,
  ⟨["gonm", "masaramgondi"], Table.masaramGondi, Table.masaramGondiExtended⟩,
  ⟨["medf", "medefaidrin"], Table.medefaidrin, Table.medefaidrin⟩,
  ⟨["mtei", "meeteimayek"], Table.meeteiMayek, Table.meeteiMayek⟩,
  ⟨["mend", "mendekikakui"], Table.mendeKikakui, Table.mendeKikakui⟩,
  ⟨["merc", "meroiticcursive"], Table.meroiticCursive, Table.meroiticCursive⟩,
  ⟨["mero", "meroitichieroglyphs"], Table.meroiticHieroglyphs, Table.meroiticHieroglyphsExtended⟩,
  ⟨["plrd", "miao"], Table.miao, Table.miao⟩,
  ⟨["modi"], Table.modi, Table.modiExtended⟩,
  ⟨["mong", "mongolian"], Table.mongolian, Table.mongolianExtended⟩,
  ⟨["mroo", "mro"], Table.mro, Table.mro⟩,
  ⟨["mult", "multani"], Table.multani, Table.multaniExtended⟩,
  ⟨["mymr", "myanmar"], Table.myanmar, Table.myanmarExtended⟩,
  ⟨["nbat", "nabataean"], Table.nabataean, Table.nabataean⟩,
  ⟨["nagm", "nagmundari"], Table.nagMundari, Table.nagMundari⟩,
  ⟨["nand", "nandinagari"], Table.nandinagari, Table.nandinagariExtended⟩,
  ⟨["talu", "newtailue"], Table.newTaiLue, Table.newTaiLue⟩,
  ⟨["newa"], Table.newa, Table.newaExtended⟩,
  ⟨["nkoo", "nko"], Table.nko, Table.nkoExtended⟩,
  ⟨["nshu", "nushu"], Table.nushu, Table.nushu⟩,
  ⟨["hmnp", "nyiakengpuachuehmong"], Table.nyiakengPuachueHmong, Table.nyiakengPuachueHmong⟩,
  ⟨["ogam", "ogham"], Table.ogham, Table.ogham⟩,
  ⟨["olck", "olchiki"], Table.olChiki, Table.olChiki⟩,
  ⟨["onao", "olonal"], Table.olOnal, Table.olOnalExtended⟩,
  ⟨["hung", "oldhungarian"], Table.oldHungarian, Table.oldHungarianExtended⟩,
  ⟨["ital", "olditalic"], Table.oldItalic, Table.oldItalic⟩,
  ⟨["narb", "oldnortharabian"], Table.oldNorthArabian, Table.oldNorthArabian⟩,
  ⟨["perm", "oldpermic"], Table.oldPermic, Table.oldPermicExtended⟩,
  ⟨["xpeo", "oldpersian"], Table.oldPersian, Table.oldPersian⟩,
  ⟨["sogo", "oldsogdian"], Table.oldSogdian, Table.oldSogdian⟩,
  ⟨["sarb", "oldsoutharabian"], Table.oldSouthArabian, Table.oldSouthArabian⟩,
  ⟨["orkh", "oldturkic"], Table.oldTurkic, Table.oldTurkicExtended⟩,
  ⟨["ougr", "olduyghur"], Table.oldUyghur, Table.oldUyghurExtended⟩,
  ⟨["orya", "oriya"], Table.oriya, Table.oriyaExtended⟩,
  ⟨["osge", "osage"], Table.osage, Table.osageExtended⟩,
  ⟨["osma", "osmanya"], Table.osmanya, Table.osmanya⟩,
  ⟨["hmng", "pahawhhmong"], Table.pahawhHmong, Table.pahawhHmong⟩,
  ⟨["palm", "palmyrene"], Table.palmyrene, Table.palmyrene⟩,
  ⟨["pauc", "paucinhau"], Table.pauCinHau, Table.pauCinHau⟩,
  ⟨["phag", "phagspa"], Table.phagsPa, Table.phagsPaExtended⟩,
  ⟨["phnx", "phoenician"], Table.phoenician, Table.phoenician⟩,
  ⟨["phlp", "psalterpahlavi"], Table.psalterPahlavi, Table.psalterPahlaviExtended⟩,
  ⟨["rjng", "rejang"], Table.rejang, Table.rejang⟩,
  ⟨["runr", "runic"], Table.runic, Table.runicExtended⟩,
  ⟨["samr", "samaritan"], Table.samaritan, Table.samaritanExtended⟩,
  ⟨["saur", "saurashtra"], Table.saurashtra, Table.saurashtra⟩,
  ⟨["shrd", "sharada"], Table.sharada, Table.sharadaExtended⟩,
  ⟨["shaw", "shavian"], Table.shavian, Table.shavianExtended⟩,
  ⟨["sidd", "siddham"], Table.siddham, Table.siddham⟩,
  ⟨["sidt", "sidetic"], Table.sidetic, Table.sidetic⟩,
  ⟨["sgnw", "signwriting"], Table.signWriting, Table.signWriting⟩,
  ⟨["sinh", "sinhala"], Table.sinhala, Table.sinhalaExtended⟩,
  ⟨["sogd", "sogdian"], Table.sogdian, Table.sogdianExtended⟩,
  ⟨["sora", "sorasompeng"], Table.soraSompeng, Table.soraSompeng⟩,
  ⟨["soyo", "soyombo"], Table.soyombo, Table.soyombo⟩,
  ⟨["sund", "sundanese"], Table.sundanese, Table.sundanese⟩,
  ⟨["sunu", "sunuwar"], Table.sunuwar, Table.sunuwarExtended⟩,
  ⟨["sylo", "sylotinagri"], Table.sylotiNagri, Table.sylotiNagriExtended⟩,
  ⟨["syrc", "syriac"], Table.syriac, Table.syriacExtended⟩,
  ⟨["tglg", "tagalog"], Table.tagalog, Table.tagalogExtended⟩,
  ⟨["tagb", "tagbanwa"], Table.tagbanwa, Table.tagbanwaExtended⟩,
  ⟨["tale", "taile"], Table.taiLe, Table.taiLeExtended⟩,
  ⟨["lana", "taitham"], Table.taiTham, Table.taiTham⟩,
  ⟨["tavt", "taiviet"], Table.taiViet, Table.taiViet⟩,
  ⟨["tayo", "taiyo"], Table.taiYo, Table.taiYo⟩,
  ⟨["takr", "takri"], Table.takri, Table.takriExtended⟩,
  ⟨["taml", "tamil"], Table.tamil, Table.tamilExtended⟩,
  ⟨["tnsa", "tangsa"], Table.tangsa, Table.tangsa⟩,
  ⟨["tang", "tangut"], Table.tangut, Table.tangutExtended⟩,
  ⟨["telu", "telugu"], Table.telugu, Table.teluguExtended⟩,
  ⟨["thaa", "thaana"], Table.thaana, Table.thaanaExtended⟩,
  ⟨["thai"], Table.thai, Table.thaiExtended⟩,
  ⟨["tibt", "tibetan"], Table.tibetan, Table.tibetanExtended⟩,
  ⟨["tfng", "tifinagh"], Table.tifinagh, Table.tifinaghExtended⟩,
  ⟨["tirh", "tirhuta"], Table.tirhuta, Table.tirhutaExtended⟩,
  ⟨["todr", "todhri"], Table.todhri, Table.todhriExtended⟩,
  ⟨["tols", "tolongsiki"], Table.tolongSiki, Table.tolongSiki⟩,
  ⟨["toto"], Table.toto, Table.totoExtended⟩,
  ⟨["tutg", "tulutigalari"], Table.tuluTigalari, Table.tuluTigalariExtended⟩,
  ⟨["ugar", "ugaritic"], Table.ugaritic, Table.ugaritic⟩,
  ⟨["vaii", "vai"], Table.vai, Table.vai⟩,
  ⟨["vith", "vithkuqi"], Table.vithkuqi, Table.vithkuqi⟩,
  ⟨["wcho", "wancho"], Table.wancho, Table.wancho⟩,
  ⟨["wara", "warangciti"], Table.warangCiti, Table.warangCiti⟩,
  ⟨["yezi", "yezidi"], Table.yezidi, Table.yezidiExtended⟩,
  ⟨["yiii", "yi"], Table.yi, Table.yiExtended⟩,
  ⟨["zanb", "zanabazarsquare"], Table.zanabazarSquare, Table.zanabazarSquare⟩]

def Script.named? (name : String) : Option Script :=
  scripts.find? (·.names.contains name)

end Highlighter.Unicode
