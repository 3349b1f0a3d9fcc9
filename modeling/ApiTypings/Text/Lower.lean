import ApiTypings.Text.Capital
import ApiTypings.Text.Cased

/-!
# Lower case

The lower-case forms of characters and texts, by the case mappings of the Unicode
standard.
-/

namespace ApiTypings
namespace Text

/-- Characters with a lower-case form: the first code point of a run and the
forms of its members in order. -/
def lowerForms : List (Nat × String) := [
  (0x00C0, "àáâãäåæçèéêëìíîïðñòóôõö×øùúûüýþ"),
  (0x0100, "āāăăąąććĉĉċċččďďđđēēĕĕėėęęěěĝĝğğġġģģĥĥħħ"), (0x0128, "ĩĩīīĭĭį"),
  (0x0132, "ĳĳĵĵķķĸĺĺļļľľŀŀłłńńņņňňŉŋŋōōŏŏőőœœŕŕŗŗřř"),
  (0x015A, "śśŝŝşşššţţťťŧŧũũūūŭŭůůűűųųŵŵŷŷÿźźżżž"), (0x0181, "ɓƃƃƅƅɔƈƈɖɗƌƌƍǝəɛƒƒɠɣƕɩɨƙ"),
  (0x019C, "ɯɲƞɵơơƣƣƥƥʀƨƨʃƪƫƭƭʈưưʊʋƴƴƶƶʒƹ"), (0x01BC, "ƽ"),
  (0x01C4, "ǆǆǆǉǉǉǌǌǌǎǎǐǐǒǒǔǔǖǖǘǘǚǚǜǜǝǟǟǡǡǣǣǥǥǧǧǩǩǫǫ"),
  (0x01EC, "ǭǭǯǯǰǳǳǳǵǵƕƿǹǹǻǻǽǽǿǿȁȁȃȃȅȅȇȇȉȉȋȋȍȍȏȏȑȑȓȓ"),
  (0x0214, "ȕȕȗȗșșțțȝȝȟȟƞȡȣȣȥȥȧȧȩȩȫȫȭȭȯȯȱȱȳ"), (0x023A, "ⱥȼȼƚⱦȿɀɂɂƀʉʌɇɇɉɉɋɋɍɍɏ"),
  (0x0370, "ͱͱͳ"), (0x0376, "ͷ"), (0x037F, "ϳ"), (0x0386, "ά·έήί"), (0x038C, "ό"),
  (0x038E, "ύώΐαβγδεζηθικλμνξοπρ"), (0x03A3, "στυφχψωϊϋ"), (0x03CF, "ϗ"),
  (0x03D8, "ϙϙϛϛϝϝϟϟϡϡϣϣϥϥϧϧϩϩϫϫϭϭϯ"), (0x03F4, "θϵ϶ϸϸϲϻϻϼͻͼͽѐёђѓєѕіїјљњћќѝўџабвгдежзийкл"),
  (0x041C, "мнопрстуфхцчшщъыьэюя"), (0x0460, "ѡѡѣѣѥѥѧѧѩѩѫѫѭѭѯѯѱѱѳѳѵѵѷѷѹѹѻѻѽѽѿѿҁ"),
  (0x048A, "ҋҋҍҍҏҏґґғғҕҕҗҗҙҙққҝҝҟҟҡҡңңҥҥҧҧҩҩҫҫҭҭүүұұ"),
  (0x04B2, "ҳҳҵҵҷҷҹҹһһҽҽҿҿӏӂӂӄӄӆӆӈӈӊӊӌӌӎӎӏӑӑӓӓӕӕӗӗәә"),
  (0x04DA, "ӛӛӝӝӟӟӡӡӣӣӥӥӧӧөөӫӫӭӭӯӯӱӱӳӳӵӵӷӷӹӹӻӻӽӽӿӿԁԁ"),
  (0x0502, "ԃԃԅԅԇԇԉԉԋԋԍԍԏԏԑԑԓԓԕԕԗԗԙԙԛԛԝԝԟԟԡԡԣԣԥԥԧԧԩԩ"), (0x052A, "ԫԫԭԭԯ"),
  (0x0531, "աբգդեզէըթժիլխծկհձղճմյնշոչպջռսվտրցւփքօֆ"),
  (0x10A0, "ⴀⴁⴂⴃⴄⴅⴆⴇⴈⴉⴊⴋⴌⴍⴎⴏⴐⴑⴒⴓⴔⴕⴖⴗⴘⴙⴚⴛⴜⴝⴞⴟⴠⴡⴢⴣⴤⴥ"), (0x10C7, "ⴧ"), (0x10CD, "ⴭ"),
  (0x13A0, "ꭰꭱꭲꭳꭴꭵꭶꭷꭸꭹꭺꭻꭼꭽꭾꭿꮀꮁꮂꮃꮄꮅꮆꮇꮈꮉꮊꮋꮌꮍꮎꮏꮐꮑꮒꮓꮔꮕꮖꮗ"),
  (0x13C8, "ꮘꮙꮚꮛꮜꮝꮞꮟꮠꮡꮢꮣꮤꮥꮦꮧꮨꮩꮪꮫꮬꮭꮮꮯꮰꮱꮲꮳꮴꮵꮶꮷꮸꮹꮺꮻꮼꮽꮾꮿ"), (0x13F0, "ᏸᏹᏺᏻᏼᏽ"),
  (0x1C90, "აბგდევზთიკლმნოპჟრსტუფქღყშჩცძწჭხჯჰჱჲჳჴჵჶჷ"), (0x1CB8, "ჸჹჺ"), (0x1CBD, "ჽჾჿ"),
  (0x1E00, "ḁḁḃḃḅḅḇḇḉḉḋḋḍḍḏḏḑḑḓḓḕḕḗḗḙḙḛḛḝḝḟḟḡḡḣḣḥḥḧḧ"),
  (0x1E28, "ḩḩḫḫḭḭḯḯḱḱḳḳḵḵḷḷḹḹḻḻḽḽḿḿṁṁṃṃṅṅṇṇṉṉṋṋṍṍṏṏ"),
  (0x1E50, "ṑṑṓṓṕṕṗṗṙṙṛṛṝṝṟṟṡṡṣṣṥṥṧṧṩṩṫṫṭṭṯṯṱṱṳṳṵṵṷṷ"),
  (0x1E78, "ṹṹṻṻṽṽṿṿẁẁẃẃẅẅẇẇẉẉẋẋẍẍẏẏẑẑẓẓẕ"),
  (0x1E9E, "ßẟạạảảấấầầẩẩẫẫậậắắằằẳẳẵẵặặẹẹẻẻẽẽếếềềểểễễ"),
  (0x1EC6, "ệệỉỉịịọọỏỏốốồồổổỗỗộộớớờờởởỡỡợợụụủủứứừừửử"), (0x1EEE, "ữữựựỳỳỵỵỷỷỹỹỻỻỽỽỿ"),
  (0x1F08, "ἀἁἂἃἄἅἆἇ"), (0x1F18, "ἐἑἒἓἔἕ"), (0x1F28, "ἠἡἢἣἤἥἦἧ"), (0x1F38, "ἰἱἲἳἴἵἶἷ"),
  (0x1F48, "ὀὁὂὃὄὅ"), (0x1F59, "ὑ"), (0x1F5B, "ὓ"), (0x1F5D, "ὕ"), (0x1F5F, "ὗ"),
  (0x1F68, "ὠὡὢὣὤὥὦὧ"), (0x1F88, "ᾀᾁᾂᾃᾄᾅᾆᾇ"), (0x1F98, "ᾐᾑᾒᾓᾔᾕᾖᾗ"), (0x1FA8, "ᾠᾡᾢᾣᾤᾥᾦᾧ"),
  (0x1FB8, "ᾰᾱὰάᾳ"), (0x1FC8, "ὲέὴήῃ"), (0x1FD8, "ῐῑὶί"), (0x1FE8, "ῠῡὺύῥ"), (0x1FF8, "ὸόὼώῳ"),
  (0x2126, "ω"), (0x212A, "kå"), (0x2132, "ⅎ"), (0x2160, "ⅰⅱⅲⅳⅴⅵⅶⅷⅸⅹⅺⅻⅼⅽⅾⅿ"), (0x2183, "ↄ"),
  (0x24B6, "ⓐⓑⓒⓓⓔⓕⓖⓗⓘⓙⓚⓛⓜⓝⓞⓟⓠⓡⓢⓣⓤⓥⓦⓧⓨⓩ"), (0x2C00, "ⰰⰱⰲⰳⰴⰵⰶⰷⰸⰹⰺⰻⰼⰽⰾⰿⱀⱁⱂⱃⱄⱅⱆⱇⱈⱉⱊⱋⱌⱍⱎⱏⱐⱑⱒⱓⱔⱕⱖⱗ"),
  (0x2C28, "ⱘⱙⱚⱛⱜⱝⱞⱟ"), (0x2C60, "ⱡⱡɫᵽɽⱥⱦⱨⱨⱪⱪⱬⱬɑɱɐɒⱱⱳⱳⱴⱶ"),
  (0x2C7E, "ȿɀⲁⲁⲃⲃⲅⲅⲇⲇⲉⲉⲋⲋⲍⲍⲏⲏⲑⲑⲓⲓⲕⲕⲗⲗⲙⲙⲛⲛⲝⲝⲟⲟⲡⲡⲣⲣⲥⲥ"),
  (0x2CA6, "ⲧⲧⲩⲩⲫⲫⲭⲭⲯⲯⲱⲱⲳⲳⲵⲵⲷⲷⲹⲹⲻⲻⲽⲽⲿⲿⳁⳁⳃⳃⳅⳅⳇⳇⳉⳉⳋⳋⳍⳍ"), (0x2CCE, "ⳏⳏⳑⳑⳓⳓⳕⳕⳗⳗⳙⳙⳛⳛⳝⳝⳟⳟⳡⳡⳣ"),
  (0x2CEB, "ⳬⳬⳮ"), (0x2CF2, "ⳳ"), (0xA640, "ꙁꙁꙃꙃꙅꙅꙇꙇꙉꙉꙋꙋꙍꙍꙏꙏꙑꙑꙓꙓꙕꙕꙗꙗꙙꙙꙛꙛꙝꙝꙟꙟꙡꙡꙣꙣꙥꙥꙧꙧ"),
  (0xA668, "ꙩꙩꙫꙫꙭ"), (0xA680, "ꚁꚁꚃꚃꚅꚅꚇꚇꚉꚉꚋꚋꚍꚍꚏꚏꚑꚑꚓꚓꚕꚕꚗꚗꚙꚙꚛ"), (0xA722, "ꜣꜣꜥꜥꜧꜧꜩꜩꜫꜫꜭꜭꜯ"),
  (0xA732, "ꜳꜳꜵꜵꜷꜷꜹꜹꜻꜻꜽꜽꜿꜿꝁꝁꝃꝃꝅꝅꝇꝇꝉꝉꝋꝋꝍꝍꝏꝏꝑꝑꝓꝓꝕꝕꝗꝗꝙꝙ"), (0xA75A, "ꝛꝛꝝꝝꝟꝟꝡꝡꝣꝣꝥꝥꝧꝧꝩꝩꝫꝫꝭꝭꝯ"),
  (0xA779, "ꝺꝺꝼꝼᵹꝿꝿꞁꞁꞃꞃꞅꞅꞇ"), (0xA78B, "ꞌꞌɥꞎꞏꞑꞑꞓ"),
  (0xA796, "ꞗꞗꞙꞙꞛꞛꞝꞝꞟꞟꞡꞡꞣꞣꞥꞥꞧꞧꞩꞩɦɜɡɬɪꞯʞʇʝꭓꞵꞵꞷꞷꞹꞹꞻꞻꞽꞽ"), (0xA7BE, "ꞿꞿꟁꟁꟃꟃꞔʂᶎꟈꟈꟊ"), (0xA7D0, "ꟑ"),
  (0xA7D6, "ꟗꟗꟙ"), (0xA7F5, "ꟶ"), (0xFF21, "ａｂｃｄｅｆｇｈｉｊｋｌｍｎｏｐｑｒｓｔｕｖｗｘｙｚ"),
  (0x10400, "𐐨𐐩𐐪𐐫𐐬𐐭𐐮𐐯𐐰𐐱𐐲𐐳𐐴𐐵𐐶𐐷𐐸𐐹𐐺𐐻𐐼𐐽𐐾𐐿𐑀𐑁𐑂𐑃𐑄𐑅𐑆𐑇𐑈𐑉𐑊𐑋𐑌𐑍𐑎𐑏"),
  (0x104B0, "𐓘𐓙𐓚𐓛𐓜𐓝𐓞𐓟𐓠𐓡𐓢𐓣𐓤𐓥𐓦𐓧𐓨𐓩𐓪𐓫𐓬𐓭𐓮𐓯𐓰𐓱𐓲𐓳𐓴𐓵𐓶𐓷𐓸𐓹𐓺𐓻"), (0x10570, "𐖗𐖘𐖙𐖚𐖛𐖜𐖝𐖞𐖟𐖠𐖡"),
  (0x1057C, "𐖣𐖤𐖥𐖦𐖧𐖨𐖩𐖪𐖫𐖬𐖭𐖮𐖯𐖰𐖱"), (0x1058C, "𐖳𐖴𐖵𐖶𐖷𐖸𐖹"), (0x10594, "𐖻𐖼"),
  (0x10C80, "𐳀𐳁𐳂𐳃𐳄𐳅𐳆𐳇𐳈𐳉𐳊𐳋𐳌𐳍𐳎𐳏𐳐𐳑𐳒𐳓𐳔𐳕𐳖𐳗𐳘𐳙𐳚𐳛𐳜𐳝𐳞𐳟𐳠𐳡𐳢𐳣𐳤𐳥𐳦𐳧"), (0x10CA8, "𐳨𐳩𐳪𐳫𐳬𐳭𐳮𐳯𐳰𐳱𐳲"),
  (0x118A0, "𑣀𑣁𑣂𑣃𑣄𑣅𑣆𑣇𑣈𑣉𑣊𑣋𑣌𑣍𑣎𑣏𑣐𑣑𑣒𑣓𑣔𑣕𑣖𑣗𑣘𑣙𑣚𑣛𑣜𑣝𑣞𑣟"), (0x16E40, "𖹠𖹡𖹢𖹣𖹤𖹥𖹦𖹧𖹨𖹩𖹪𖹫𖹬𖹭𖹮𖹯𖹰𖹱𖹲𖹳𖹴𖹵𖹶𖹷𖹸𖹹𖹺𖹻𖹼𖹽𖹾𖹿"),
  (0x1E900, "𞤢𞤣𞤤𞤥𞤦𞤧𞤨𞤩𞤪𞤫𞤬𞤭𞤮𞤯𞤰𞤱𞤲𞤳𞤴𞤵𞤶𞤷𞤸𞤹𞤺𞤻𞤼𞤽𞤾𞤿𞥀𞥁𞥂𞥃")]

/-- The lower-case form of a character. The capital with a dot keeps its dot as a
mark. -/
def lower (c : Char) : List Char :=
  if c.toNat < 0x80 then [c.toLower]
  else if c.toNat = 0x130 then ['i', '\u0307']
  else [(memberOfRun lowerForms c.toNat).getD c]

/-- Whether a word ends between two texts, the first of them reversed: a character
with a case comes before, and none after. -/
def endsWord (before after : List Char) : Bool :=
  (before.dropWhile isCaseless).head?.any isCased &&
    !(after.dropWhile isCaseless).head?.any isCased

/-- A text in lower case; `before` is the reversed text before it. The Greek sigma
has a form of its own at the end of a word. -/
def lowerFrom (before : List Char) : List Char → List Char
  | [] => []
  | c :: rest =>
      (if c == 'Σ' && endsWord before rest then ['ς'] else lower c) ++
        lowerFrom (c :: before) rest

/-- A text in lower case. -/
def lowerCase (text : List Char) : List Char :=
  lowerFrom [] text

end Text
end ApiTypings
