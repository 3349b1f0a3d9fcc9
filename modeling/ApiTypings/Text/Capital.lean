/-!
# Capitals

The upper-case form of a character, by the case mappings of the Unicode
standard. Most characters have one capital; a few, such as `ß`, have several.
-/

namespace ApiTypings
namespace Text

/-- Characters whose capital form has several characters. -/
def longCapitals : List (Nat × String) := [
  (0x00DF, "SS"), (0x0149, "ʼN"), (0x01F0, "J\u030c"), (0x0390, "Ι\u0308\u0301"),
  (0x03B0, "Υ\u0308\u0301"), (0x0587, "ԵՒ"), (0x1E96, "H\u0331"), (0x1E97, "T\u0308"),
  (0x1E98, "W\u030a"), (0x1E99, "Y\u030a"), (0x1E9A, "Aʾ"), (0x1F50, "Υ\u0313"),
  (0x1F52, "Υ\u0313\u0300"), (0x1F54, "Υ\u0313\u0301"), (0x1F56, "Υ\u0313\u0342"),
  (0x1F80, "ἈΙ"), (0x1F81, "ἉΙ"), (0x1F82, "ἊΙ"), (0x1F83, "ἋΙ"), (0x1F84, "ἌΙ"),
  (0x1F85, "ἍΙ"), (0x1F86, "ἎΙ"), (0x1F87, "ἏΙ"), (0x1F88, "ἈΙ"), (0x1F89, "ἉΙ"),
  (0x1F8A, "ἊΙ"), (0x1F8B, "ἋΙ"), (0x1F8C, "ἌΙ"), (0x1F8D, "ἍΙ"), (0x1F8E, "ἎΙ"),
  (0x1F8F, "ἏΙ"), (0x1F90, "ἨΙ"), (0x1F91, "ἩΙ"), (0x1F92, "ἪΙ"), (0x1F93, "ἫΙ"),
  (0x1F94, "ἬΙ"), (0x1F95, "ἭΙ"), (0x1F96, "ἮΙ"), (0x1F97, "ἯΙ"), (0x1F98, "ἨΙ"),
  (0x1F99, "ἩΙ"), (0x1F9A, "ἪΙ"), (0x1F9B, "ἫΙ"), (0x1F9C, "ἬΙ"), (0x1F9D, "ἭΙ"),
  (0x1F9E, "ἮΙ"), (0x1F9F, "ἯΙ"), (0x1FA0, "ὨΙ"), (0x1FA1, "ὩΙ"), (0x1FA2, "ὪΙ"),
  (0x1FA3, "ὫΙ"), (0x1FA4, "ὬΙ"), (0x1FA5, "ὭΙ"), (0x1FA6, "ὮΙ"), (0x1FA7, "ὯΙ"),
  (0x1FA8, "ὨΙ"), (0x1FA9, "ὩΙ"), (0x1FAA, "ὪΙ"), (0x1FAB, "ὫΙ"), (0x1FAC, "ὬΙ"),
  (0x1FAD, "ὭΙ"), (0x1FAE, "ὮΙ"), (0x1FAF, "ὯΙ"), (0x1FB2, "ᾺΙ"), (0x1FB3, "ΑΙ"),
  (0x1FB4, "ΆΙ"), (0x1FB6, "Α\u0342"), (0x1FB7, "Α\u0342Ι"), (0x1FBC, "ΑΙ"),
  (0x1FC2, "ῊΙ"), (0x1FC3, "ΗΙ"), (0x1FC4, "ΉΙ"), (0x1FC6, "Η\u0342"),
  (0x1FC7, "Η\u0342Ι"), (0x1FCC, "ΗΙ"), (0x1FD2, "Ι\u0308\u0300"),
  (0x1FD3, "Ι\u0308\u0301"), (0x1FD6, "Ι\u0342"), (0x1FD7, "Ι\u0308\u0342"),
  (0x1FE2, "Υ\u0308\u0300"), (0x1FE3, "Υ\u0308\u0301"), (0x1FE4, "Ρ\u0313"),
  (0x1FE6, "Υ\u0342"), (0x1FE7, "Υ\u0308\u0342"), (0x1FF2, "ῺΙ"), (0x1FF3, "ΩΙ"),
  (0x1FF4, "ΏΙ"), (0x1FF6, "Ω\u0342"), (0x1FF7, "Ω\u0342Ι"), (0x1FFC, "ΩΙ"),
  (0xFB00, "FF"), (0xFB01, "FI"), (0xFB02, "FL"), (0xFB03, "FFI"), (0xFB04, "FFL"),
  (0xFB05, "ST"), (0xFB06, "ST"), (0xFB13, "ՄՆ"), (0xFB14, "ՄԵ"), (0xFB15, "ՄԻ"),
  (0xFB16, "ՎՆ"), (0xFB17, "ՄԽ")]

/-- Characters with one capital: the first code point of a run and the capitals
of its members in order. -/
def shortCapitals : List (Nat × String) := [
  (0x00B5, "Μ"), (0x00E0, "ÀÁÂÃÄÅÆÇÈÉÊËÌÍÎÏÐÑÒÓÔÕÖ÷ØÙÚÛÜÝÞŸĀĀĂĂĄĄĆĆ"),
  (0x0108, "ĈĈĊĊČČĎĎĐĐĒĒĔĔĖĖĘĘĚĚĜĜĞĞĠĠĢĢĤĤĦĦĨĨĪĪĬĬĮĮ"),
  (0x0130, "İIĲĲĴĴĶĶĸĹĹĻĻĽĽĿĿŁŁŃŃŅŅŇŇŉŊŊŌŌŎŎŐŐŒŒŔŔŖŖ"),
  (0x0158, "ŘŘŚŚŜŜŞŞŠŠŢŢŤŤŦŦŨŨŪŪŬŬŮŮŰŰŲŲŴŴŶŶŸŹŹŻŻŽŽS"), (0x0180, "ɃƁƂƂƄƄƆƇƇ"),
  (0x018C, "Ƌ"), (0x0192, "ƑƓƔǶ"), (0x0199, "ƘȽ"), (0x019E, "ȠƟƠƠƢƢƤƤƦƧƧ"),
  (0x01AD, "ƬƮƯƯ"), (0x01B4, "ƳƵƵƷƸƸ"), (0x01BD, "ƼƾǷ"),
  (0x01C5, "ǄǄǇǇǇǊǊǊǍǍǏǏǑǑǓǓǕǕǗǗǙǙǛǛƎǞǞǠǠǢǢǤǤǦǦǨǨǪǪǬ"), (0x01ED, "ǬǮǮǰǱǱǱǴǴ"),
  (0x01F9, "ǸǺǺǼǼǾǾȀȀȂȂȄȄȆȆȈȈȊȊȌȌȎȎȐȐȒȒȔȔȖȖȘȘȚȚȜȜȞȞ"), (0x0223, "ȢȤȤȦȦȨȨȪȪȬȬȮȮȰȰȲȲ"),
  (0x023C, "ȻȽȾⱾⱿɁɁ"), (0x0247, "ɆɈɈɊɊɌɌɎɎⱯⱭⱰƁƆɕƉƊɘƏɚƐꞫ"),
  (0x0260, "ƓꞬɢƔɤꞍꞪɧƗƖꞮⱢꞭɭɮƜɰⱮƝɳɴƟ"), (0x027D, "ⱤɾɿƦʁꟅƩ"), (0x0287, "ꞱƮɄƱƲɅ"),
  (0x0292, "Ʒ"), (0x029D, "ꞲꞰ"), (0x0345, "Ι"), (0x0371, "ͰͲͲ"), (0x0377, "Ͷ"),
  (0x037B, "ϽϾϿ"), (0x03AC, "ΆΈΉΊΰΑΒΓΔΕΖΗΘΙΚΛΜΝΞΟΠΡΣΣΤΥΦΧΨΩΪΫΌΎΏϏΒΘ"),
  (0x03D5, "ΦΠϏϘϘϚϚϜϜϞϞϠϠϢϢϤϤϦϦϨϨϪϪϬϬϮϮΚΡϹͿϴΕ϶ϷϷϹϺϺ"),
  (0x0430, "АБВГДЕЖЗИЙКЛМНОПРСТУФХЦЧШЩЪЫЬЭЮЯЀЁЂЃЄЅІЇ"),
  (0x0458, "ЈЉЊЋЌЍЎЏѠѠѢѢѤѤѦѦѨѨѪѪѬѬѮѮѰѰѲѲѴѴѶѶѸѸѺѺѼѼѾѾ"), (0x0480, "ҀҀ"),
  (0x048B, "ҊҌҌҎҎҐҐҒҒҔҔҖҖҘҘҚҚҜҜҞҞҠҠҢҢҤҤҦҦҨҨҪҪҬҬҮҮҰҰҲ"),
  (0x04B3, "ҲҴҴҶҶҸҸҺҺҼҼҾҾӀӁӁӃӃӅӅӇӇӉӉӋӋӍӍӀӐӐӒӒӔӔӖӖӘӘӚ"),
  (0x04DB, "ӚӜӜӞӞӠӠӢӢӤӤӦӦӨӨӪӪӬӬӮӮӰӰӲӲӴӴӶӶӸӸӺӺӼӼӾӾԀԀԂ"),
  (0x0503, "ԂԄԄԆԆԈԈԊԊԌԌԎԎԐԐԒԒԔԔԖԖԘԘԚԚԜԜԞԞԠԠԢԢԤԤԦԦԨԨԪ"), (0x052B, "ԪԬԬԮԮ"),
  (0x0561, "ԱԲԳԴԵԶԷԸԹԺԻԼԽԾԿՀՁՂՃՄՅՆՇՈՉՊՋՌՍՎՏՐՑՒՓՔՕՖ"),
  (0x10D0, "ᲐᲑᲒᲓᲔᲕᲖᲗᲘᲙᲚᲛᲜᲝᲞᲟᲠᲡᲢᲣᲤᲥᲦᲧᲨᲩᲪᲫᲬᲭᲮᲯᲰᲱᲲᲳᲴᲵᲶᲷ"), (0x10F8, "ᲸᲹᲺ჻ჼᲽᲾᲿ"),
  (0x13F8, "ᏰᏱᏲᏳᏴᏵ"), (0x1C80, "ВДОСТТЪѢꙊ"), (0x1D79, "Ᵹ"), (0x1D7D, "Ᵽ"), (0x1D8E, "Ᶎ"),
  (0x1E01, "ḀḂḂḄḄḆḆḈḈḊḊḌḌḎḎḐḐḒḒḔḔḖḖḘḘḚḚḜḜḞḞḠḠḢḢḤḤḦḦḨ"),
  (0x1E29, "ḨḪḪḬḬḮḮḰḰḲḲḴḴḶḶḸḸḺḺḼḼḾḾṀṀṂṂṄṄṆṆṈṈṊṊṌṌṎṎṐ"),
  (0x1E51, "ṐṒṒṔṔṖṖṘṘṚṚṜṜṞṞṠṠṢṢṤṤṦṦṨṨṪṪṬṬṮṮṰṰṲṲṴṴṶṶṸ"),
  (0x1E79, "ṸṺṺṼṼṾṾẀẀẂẂẄẄẆẆẈẈẊẊẌẌẎẎẐẐẒẒẔẔ"), (0x1E9B, "Ṡ"),
  (0x1EA1, "ẠẢẢẤẤẦẦẨẨẪẪẬẬẮẮẰẰẲẲẴẴẶẶẸẸẺẺẼẼẾẾỀỀỂỂỄỄỆỆỈ"),
  (0x1EC9, "ỈỊỊỌỌỎỎỐỐỒỒỔỔỖỖỘỘỚỚỜỜỞỞỠỠỢỢỤỤỦỦỨỨỪỪỬỬỮỮỰ"),
  (0x1EF1, "ỰỲỲỴỴỶỶỸỸỺỺỼỼỾỾἈἉἊἋἌἍἎἏ"), (0x1F10, "ἘἙἚἛἜἝ"), (0x1F20, "ἨἩἪἫἬἭἮἯ"),
  (0x1F30, "ἸἹἺἻἼἽἾἿ"), (0x1F40, "ὈὉὊὋὌὍ"), (0x1F51, "ὙὒὛὔὝὖὟ"), (0x1F60, "ὨὩὪὫὬὭὮὯ"),
  (0x1F70, "ᾺΆῈΈῊΉῚΊῸΌῪΎῺΏ"), (0x1FB0, "ᾸᾹ"), (0x1FBE, "Ι"), (0x1FD0, "ῘῙ"),
  (0x1FE0, "ῨῩ"), (0x1FE5, "Ῥ"), (0x214E, "Ⅎ"), (0x2170, "ⅠⅡⅢⅣⅤⅥⅦⅧⅨⅩⅪⅫⅬⅭⅮⅯ"),
  (0x2184, "Ↄ"), (0x24D0, "ⒶⒷⒸⒹⒺⒻⒼⒽⒾⒿⓀⓁⓂⓃⓄⓅⓆⓇⓈⓉⓊⓋⓌⓍⓎⓏ"),
  (0x2C30, "ⰀⰁⰂⰃⰄⰅⰆⰇⰈⰉⰊⰋⰌⰍⰎⰏⰐⰑⰒⰓⰔⰕⰖⰗⰘⰙⰚⰛⰜⰝⰞⰟⰠⰡⰢⰣⰤⰥⰦⰧ"), (0x2C58, "ⰨⰩⰪⰫⰬⰭⰮⰯⱠⱠ"),
  (0x2C65, "ȺȾⱧⱧⱩⱩⱫⱫ"), (0x2C73, "ⱲⱴⱵⱵ"),
  (0x2C81, "ⲀⲂⲂⲄⲄⲆⲆⲈⲈⲊⲊⲌⲌⲎⲎⲐⲐⲒⲒⲔⲔⲖⲖⲘⲘⲚⲚⲜⲜⲞⲞⲠⲠⲢⲢⲤⲤⲦⲦⲨ"),
  (0x2CA9, "ⲨⲪⲪⲬⲬⲮⲮⲰⲰⲲⲲⲴⲴⲶⲶⲸⲸⲺⲺⲼⲼⲾⲾⳀⳀⳂⳂⳄⳄⳆⳆⳈⳈⳊⳊⳌⳌⳎⳎⳐ"), (0x2CD1, "ⳐⳒⳒⳔⳔⳖⳖⳘⳘⳚⳚⳜⳜⳞⳞⳠⳠⳢⳢ"),
  (0x2CEC, "ⳫⳭⳭ"), (0x2CF3, "Ⳳ"), (0x2D00, "ႠႡႢႣႤႥႦႧႨႩႪႫႬႭႮႯႰႱႲႳႴႵႶႷႸႹႺႻႼႽႾႿჀჁჂჃჄჅ"),
  (0x2D27, "Ⴧ"), (0x2D2D, "Ⴭ"), (0xA641, "ꙀꙂꙂꙄꙄꙆꙆꙈꙈꙊꙊꙌꙌꙎꙎꙐꙐꙒꙒꙔꙔꙖꙖꙘꙘꙚꙚꙜꙜꙞꙞꙠꙠꙢꙢꙤꙤꙦꙦꙨ"),
  (0xA669, "ꙨꙪꙪꙬꙬ"), (0xA681, "ꚀꚂꚂꚄꚄꚆꚆꚈꚈꚊꚊꚌꚌꚎꚎꚐꚐꚒꚒꚔꚔꚖꚖꚘꚘꚚꚚ"), (0xA723, "ꜢꜤꜤꜦꜦꜨꜨꜪꜪꜬꜬꜮꜮ"),
  (0xA733, "ꜲꜴꜴꜶꜶꜸꜸꜺꜺꜼꜼꜾꜾꝀꝀꝂꝂꝄꝄꝆꝆꝈꝈꝊꝊꝌꝌꝎꝎꝐꝐꝒꝒꝔꝔꝖꝖꝘꝘꝚ"), (0xA75B, "ꝚꝜꝜꝞꝞꝠꝠꝢꝢꝤꝤꝦꝦꝨꝨꝪꝪꝬꝬꝮꝮ"),
  (0xA77A, "ꝹꝻꝻꝽꝾꝾꞀꞀꞂꞂꞄꞄꞆꞆ"), (0xA78C, "Ꞌ"), (0xA791, "ꞐꞒꞒꟄꞕꞖꞖꞘꞘꞚꞚꞜꞜꞞꞞꞠꞠꞢꞢꞤꞤꞦꞦꞨꞨ"),
  (0xA7B5, "ꞴꞶꞶꞸꞸꞺꞺꞼꞼꞾꞾꟀꟀꟂꟂ"), (0xA7C8, "ꟇꟉꟉ"), (0xA7D1, "Ꟑ"), (0xA7D7, "ꟖꟘꟘ"),
  (0xA7F6, "Ꟶ"), (0xAB53, "Ꭓ"), (0xAB70, "ᎠᎡᎢᎣᎤᎥᎦᎧᎨᎩᎪᎫᎬᎭᎮᎯᎰᎱᎲᎳᎴᎵᎶᎷᎸᎹᎺᎻᎼᎽᎾᎿᏀᏁᏂᏃᏄᏅᏆᏇ"),
  (0xAB98, "ᏈᏉᏊᏋᏌᏍᏎᏏᏐᏑᏒᏓᏔᏕᏖᏗᏘᏙᏚᏛᏜᏝᏞᏟᏠᏡᏢᏣᏤᏥᏦᏧᏨᏩᏪᏫᏬᏭᏮᏯ"),
  (0xFF41, "ＡＢＣＤＥＦＧＨＩＪＫＬＭＮＯＰＱＲＳＴＵＶＷＸＹＺ"),
  (0x10428, "𐐀𐐁𐐂𐐃𐐄𐐅𐐆𐐇𐐈𐐉𐐊𐐋𐐌𐐍𐐎𐐏𐐐𐐑𐐒𐐓𐐔𐐕𐐖𐐗𐐘𐐙𐐚𐐛𐐜𐐝𐐞𐐟𐐠𐐡𐐢𐐣𐐤𐐥𐐦𐐧"),
  (0x104D8, "𐒰𐒱𐒲𐒳𐒴𐒵𐒶𐒷𐒸𐒹𐒺𐒻𐒼𐒽𐒾𐒿𐓀𐓁𐓂𐓃𐓄𐓅𐓆𐓇𐓈𐓉𐓊𐓋𐓌𐓍𐓎𐓏𐓐𐓑𐓒𐓓"), (0x10597, "𐕰𐕱𐕲𐕳𐕴𐕵𐕶𐕷𐕸𐕹𐕺"),
  (0x105A3, "𐕼𐕽𐕾𐕿𐖀𐖁𐖂𐖃𐖄𐖅𐖆𐖇𐖈𐖉𐖊"), (0x105B3, "𐖌𐖍𐖎𐖏𐖐𐖑𐖒"), (0x105BB, "𐖔𐖕"),
  (0x10CC0, "𐲀𐲁𐲂𐲃𐲄𐲅𐲆𐲇𐲈𐲉𐲊𐲋𐲌𐲍𐲎𐲏𐲐𐲑𐲒𐲓𐲔𐲕𐲖𐲗𐲘𐲙𐲚𐲛𐲜𐲝𐲞𐲟𐲠𐲡𐲢𐲣𐲤𐲥𐲦𐲧"), (0x10CE8, "𐲨𐲩𐲪𐲫𐲬𐲭𐲮𐲯𐲰𐲱𐲲"),
  (0x118C0, "𑢠𑢡𑢢𑢣𑢤𑢥𑢦𑢧𑢨𑢩𑢪𑢫𑢬𑢭𑢮𑢯𑢰𑢱𑢲𑢳𑢴𑢵𑢶𑢷𑢸𑢹𑢺𑢻𑢼𑢽𑢾𑢿"),
  (0x16E60, "𖹀𖹁𖹂𖹃𖹄𖹅𖹆𖹇𖹈𖹉𖹊𖹋𖹌𖹍𖹎𖹏𖹐𖹑𖹒𖹓𖹔𖹕𖹖𖹗𖹘𖹙𖹚𖹛𖹜𖹝𖹞𖹟"),
  (0x1E922, "𞤀𞤁𞤂𞤃𞤄𞤅𞤆𞤇𞤈𞤉𞤊𞤋𞤌𞤍𞤎𞤏𞤐𞤑𞤒𞤓𞤔𞤕𞤖𞤗𞤘𞤙𞤚𞤛𞤜𞤝𞤞𞤟𞤠𞤡")]

/-- The member of a table of runs that belongs to a code point. -/
def memberOfRun (runs : List (Nat × String)) (code : Nat) : Option Char :=
  runs.findSome? fun run =>
    if run.1 ≤ code then run.2.toList[code - run.1]? else none

/-- The upper-case form of a character. -/
def capital (c : Char) : List Char :=
  if c.toNat < 0x80 then [c.toUpper]
  else
    match longCapitals.lookup c.toNat with
    | some form => form.toList
    | none => [(memberOfRun shortCapitals c.toNat).getD c]

/-- A text with its first character in upper case. -/
def capitalize : List Char → List Char
  | [] => []
  | c :: rest => capital c ++ rest

end Text
end ApiTypings
