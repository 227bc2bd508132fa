import UmlPress.Text.Blank

/-!
# Characters that are alike

Two names are alike if they are the same once every character is taken apart:
letters with marks into letters and marks, ligatures into letters, and letters
of another width or style into plain ones. Arabic ligatures are left as they are.
-/
namespace UmlPress.Text

/-- Characters that follow each other, by the first of them, and the plain character
that each stands for. -/
def plainForms : List (Nat × String) := [
  (0xaa, "a"),
  (0xb5, "μ"),
  (0xba, "o"),
  (0x17f, "s"),
  (0x2b0, "hɦjrɹɻʁwy"),
  (0x2e0, "ɣlsxʕ"),
  (0x340, "̀́͂̓"),
  (0x374, "ʹ"),
  (0x387, "·"),
  (0x3d0, "βθΥϓϔφπ"),
  (0x3f0, "κρςϳΘε"),
  (0x3f9, "Σ"),
  (0x10fc, "ნ"),
  (0x1d2c, "AÆBᴯDEƎGHIJKLMNᴻOȢPRTUWaɐɑᴂbdeəɛɜgᵎkmŋoɔ"),
  (0x1d54, "ᴖᴗptuᴝɯvᴥβγδφχiruvβγρφχ"),
  (0x1d78, "н"),
  (0x1d9b, "ɒcɕðɜfɟɡɥɨɩɪᵻʝɭᶅʟɱɰɲɳɴɵɸʂʃƫʉʊᴜʋʌzʐʑʒθ"),
  (0x1fbe, "ι"),
  (0x2071, "i"),
  (0x207f, "n"),
  (0x2090, "aeoxəhklmnpst"),
  (0x2102, "C"),
  (0x2107, "Ɛ℈℉gHHHhħIILl℔N"),
  (0x2119, "PQRRR"),
  (0x2124, "Z℥Ω℧Z℩KÅBC℮eEFℲMoאבגדi℺℻πγΓΠ"),
  (0x2145, "Ddeij"),
  (0x2160, "I"),
  (0x2164, "V"),
  (0x2169, "XⅪⅫLCDMi"),
  (0x2174, "v"),
  (0x2179, "xⅺⅻlcdm"),
  (0x2c7c, "jV"),
  (0x2d6f, "ⵡ"),
  (0x3038, "十卄卅"),
  (0x3131, "ᄀᄁᆪᄂᆬᆭᄃᄄᄅᆰᆱᆲᆳᆴᆵᄚᄆᄇᄈᄡᄉᄊᄋᄌᄍᄎᄏᄐᄑ하ᅢᅣᅤᅥᅦᅧᅨᅩᅪ"),
  (0x3159, "ᅫᅬᅭᅮᅯᅰᅱᅲᅳᅴᅵᅠᄔᄕᇇᇈᇌᇎᇓᇗᇙᄜᇝᇟᄝᄞᄠᄢᄣᄧᄩᄫᄬᄭᄮᄯᄲᄶᅀᅇ"),
  (0x3181, "ᅌᇱᇲᅗᅘᅙᆄᆅᆈᆑᆒᆔᆞᆡ"),
  (0xa69c, "ъь"),
  (0xa770, "ꝯ"),
  (0xa7f2, "CFQ"),
  (0xa7f8, "Ħœ"),
  (0xab5c, "ꜧꬷɫꭒ"),
  (0xab69, "ʍ"),
  (0xf900, "豈更車賈滑串句龜龜契金喇奈懶癩羅蘿螺裸邏樂洛烙珞落酪駱亂卵欄爛蘭鸞嵐濫藍襤拉臘蠟"),
  (0xf928, "廊朗浪狼郎來冷勞擄櫓爐盧老蘆虜路露魯鷺碌祿綠菉錄鹿論壟弄籠聾牢磊賂雷壘屢樓淚漏累"),
  (0xf950, "縷陋勒肋凜凌稜綾菱陵讀拏樂諾丹寧怒率異北磻便復不泌數索參塞省葉說殺辰沈拾若掠略亮"),
  (0xf978, "兩凉梁糧良諒量勵呂女廬旅濾礪閭驪麗黎力曆歷轢年憐戀撚漣煉璉秊練聯輦蓮連鍊列劣咽烈"),
  (0xf9a0, "裂說廉念捻殮簾獵令囹寧嶺怜玲瑩羚聆鈴零靈領例禮醴隸惡了僚寮尿料樂燎療蓼遼龍暈阮劉"),
  (0xf9c8, "杻柳流溜琉留硫紐類六戮陸倫崙淪輪律慄栗率隆利吏履易李梨泥理痢罹裏裡里離匿溺吝燐璘"),
  (0xf9f0, "藺隣鱗麟林淋臨立笠粒狀炙識什茶刺切度拓糖宅洞暴輻行降見廓兀嗀﨎﨏塚﨑晴﨓﨔凞猪益"),
  (0xfa18, "礼神祥福靖精羽﨟蘒﨡諸﨣﨤逸都"),
  (0xfa2a, "飯飼館鶴郞隷侮僧免勉勤卑喝嘆器塀墨層屮悔慨憎懲敏既暑梅海渚漢煮爫琢碑社祉祈祐祖祝"),
  (0xfa52, "禍禎穀突節練縉繁署者臭艹艹著褐視謁謹賓贈辶逸難響頻恵𤋮舘﩮﩯並况全侀充冀勇勺喝啕"),
  (0xfa7a, "喙嗢塚墳奄奔婢嬨廒廙彩徭惘慎愈憎慠懲戴揄搜摒敖晴朗望杖歹殺流滛滋漢瀞煮瞧爵犯猪瑱"),
  (0xfaa2, "甆画瘝瘟益盛直睊着磌窱節类絛練缾者荒華蝹襁覆視調諸請謁諾諭謹變贈輸遲醙鉶陼難靖韛"),
  (0xfaca, "響頋頻鬒龜𢡊𢡄𣏕㮝䀘䀹𥉉𥳐𧻓齃龎"),
  (0xfb20, "עאדהכלםרת"),
  (0xfb50, "ٱٱٻٻٻٻپپپپڀڀڀڀٺٺٺٺٿٿٿٿٹٹٹٹڤڤڤڤڦڦڦڦڄڄڄڄڃڃ"),
  (0xfb78, "ڃڃچچچچڇڇڇڇڍڍڌڌڎڎڈڈژژڑڑککککگگگگڳڳڳڳڱڱڱڱںں"),
  (0xfba0, "ڻڻڻڻﮤﮥہہہہھھھھےے"),
  (0xfbd3, "ڭڭڭڭۇۇۆۆۈۈﯝۋۋۅۅۉۉېېېېىى"),
  (0xfbfc, "یییی"),
  (0xfe33, "__"),
  (0xfe4d, "___"),
  (0xfe80, "ء"),
  (0xfe8d, "ااببببةةتتتتثثثثججججححححخخخخددذذررززسسسس"),
  (0xfeb5, "ششششصصصصضضضضططططظظظظععععغغغغففففققققكككك"),
  (0xfedd, "للللممممننننههههووىىيييي"),
  (0xff10, "0123456789"),
  (0xff21, "ABCDEFGHIJKLMNOPQRSTUVWXYZ"),
  (0xff3f, "_｀abcdefghijklmnopqrstuvwxyz"),
  (0xff66, "ヲァィゥェォャュョッーアイウエオカキクケコサシスセソタチツテトナニヌネノハヒフヘ"),
  (0xff8e, "ホマミムメモヤユヨラリルレロワン゙゚ᅠᄀᄁᆪᄂᆬᆭᄃᄄᄅᆰᆱᆲᆳᆴᆵᄚᄆᄇᄈᄡᄉ"),
  (0xffb6, "ᄊᄋᄌᄍᄎᄏᄐᄑᄒ"),
  (0xffc2, "ᅡᅢᅣᅤᅥᅦ￈￉ᅧᅨᅩᅪᅫᅬ￐￑ᅭᅮᅯᅰᅱᅲ￘￙ᅳᅴᅵ"),
  (0x10781, "ːˑæʙɓ𐞆ʣꭦʥʤɖɗᶑɘɞʩɤɢɠʛħʜɧʄʪʫɬ𝼄ꞎɮ𝼅ʎ𝼆øɶɷqɺ𝼈ɽ"),
  (0x107a9, "ɾʀʨʦꭧʧʈⱱ𐞱ʏʡʢʘǀǁǂ𝼊𝼞"),
  (0x1d400, "ABCDEFGHIJKLMNOPQRSTUVWXYZabcdefghijklmn"),
  (0x1d428, "opqrstuvwxyzABCDEFGHIJKLMNOPQRSTUVWXYZab"),
  (0x1d450, "cdefg𝑕ijklmnopqrstuvwxyzABCDEFGHIJKLMNOP"),
  (0x1d478, "QRSTUVWXYZabcdefghijklmnopqrstuvwxyzA𝒝CD"),
  (0x1d4a0, "𝒠𝒡G𝒣𝒤JK𝒧𝒨NOPQ𝒭STUVWXYZabcd𝒺f𝒼hijklmn𝓄pqr"),
  (0x1d4c8, "stuvwxyzABCDEFGHIJKLMNOPQRSTUVWXYZabcdef"),
  (0x1d4f0, "ghijklmnopqrstuvwxyzAB𝔆DEFG𝔋𝔌JKLMNOPQ𝔕ST"),
  (0x1d518, "UVWXY𝔝abcdefghijklmnopqrstuvwxyzAB𝔺DEFG𝔿"),
  (0x1d540, "IJKLM𝕅O"),
  (0x1d54a, "STUVWXY𝕑abcdefghijklmnopqrstuvwxyzABCDEF"),
  (0x1d572, "GHIJKLMNOPQRSTUVWXYZabcdefghijklmnopqrst"),
  (0x1d59a, "uvwxyzABCDEFGHIJKLMNOPQRSTUVWXYZabcdefgh"),
  (0x1d5c2, "ijklmnopqrstuvwxyzABCDEFGHIJKLMNOPQRSTUV"),
  (0x1d5ea, "WXYZabcdefghijklmnopqrstuvwxyzABCDEFGHIJ"),
  (0x1d612, "KLMNOPQRSTUVWXYZabcdefghijklmnopqrstuvwx"),
  (0x1d63a, "yzABCDEFGHIJKLMNOPQRSTUVWXYZabcdefghijkl"),
  (0x1d662, "mnopqrstuvwxyzABCDEFGHIJKLMNOPQRSTUVWXYZ"),
  (0x1d68a, "abcdefghijklmnopqrstuvwxyzıȷ𝚦𝚧ΑΒΓΔΕΖΗΘΙΚ"),
  (0x1d6b2, "ΛΜΝΞΟΠΡΘΣΤΥΦΧΨΩ𝛁αβγδεζηθικλμνξοπρςστυφχψ"),
  (0x1d6da, "ω𝛛εθκφρπΑΒΓΔΕΖΗΘΙΚΛΜΝΞΟΠΡΘΣΤΥΦΧΨΩ𝛻αβγδεζ"),
  (0x1d702, "ηθικλμνξοπρςστυφχψω𝜕εθκφρπΑΒΓΔΕΖΗΘΙΚΛΜΝΞ"),
  (0x1d72a, "ΟΠΡΘΣΤΥΦΧΨΩ𝜵αβγδεζηθικλμνξοπρςστυφχψω𝝏εθ"),
  (0x1d752, "κφρπΑΒΓΔΕΖΗΘΙΚΛΜΝΞΟΠΡΘΣΤΥΦΧΨΩ𝝯αβγδεζηθικ"),
  (0x1d77a, "λμνξοπρςστυφχψω𝞉εθκφρπΑΒΓΔΕΖΗΘΙΚΛΜΝΞΟΠΡΘ"),
  (0x1d7a2, "ΣΤΥΦΧΨΩ𝞩αβγδεζηθικλμνξοπρςστυφχψω𝟃εθκφρπ"),
  (0x1d7ca, "Ϝϝ𝟌𝟍012345678901234567890123456789012345"),
  (0x1d7f2, "67890123456789"),
  (0x1ee00, "ابجد𞸄وزحطيكلمنسعفصقرشتثخذضظغٮںڡٯ𞸠بج𞸣ه𞸥𞸦ح"),
  (0x1ee28, "𞸨يكلمنسعفصق𞸳شتثخ𞸸ض𞸺غ"),
  (0x1ee42, "ج"),
  (0x1ee47, "ح𞹈ي𞹊ل𞹌نسع𞹐صق𞹓ش𞹕𞹖خ𞹘ض𞹚غ𞹜ں𞹞ٯ𞹠بج𞹣ه𞹥𞹦حطيك𞹫منس"),
  (0x1ee6f, "عفصق𞹳شتثخ𞹸ضظغٮ𞹽ڡ𞹿ابجدهوزحطي𞺊لمنسعفصقرشتث"),
  (0x1ee97, "خذضظغ"),
  (0x1eea1, "بجد𞺤وزحطي𞺪لمنسعفصقرشتثخذضظغ"),
  (0x1fbf0, "0123456789"),
  (0x2f800, "丽丸乁𠄢你侮侻倂偺備僧像㒞𠘺免兔兤具𠔜㒹內再𠕋冗冤仌冬况𩇟凵刃㓟刻剆割剷㔕勇勉勤"),
  (0x2f828, "勺包匆北卉卑博即卽卿卿卿𠨬灰及叟𠭣叫叱吆咞吸呈周咢哶唐啓啣善善喙喫喳嗂圖嘆圗噑噴"),
  (0x2f850, "切壮城埴堍型堲報墬𡓤売壷夆多夢奢𡚨𡛪姬娛娧姘婦㛮㛼嬈嬾嬾𡧈寃寘寧寳𡬘寿将当尢㞁屠"),
  (0x2f878, "屮峀岍𡷤嵃𡷦嵮嵫嵼巡巢㠯巽帨帽幩㡢𢆃㡼庰庳庶廊𪎒廾𢌱𢌱舁弢弢㣇𣊸𦇚形彫㣣徚忍志忹"),
  (0x2f8a0, "悁㤺㤜悔𢛔惇慈慌慎慌慺憎憲憤憯懞懲懶成戛扝抱拔捐𢬌挽拼捨掃揤𢯱搢揅掩㨮摩摾撝摷㩬"),
  (0x2f8c8, "敏敬𣀊旣書晉㬙暑㬈㫤冒冕最暜肭䏙朗望朡杞杓𣏃㭉柺枅桒梅𣑭梎栟椔㮝楂榣槪檨𣚣櫛㰘次"),
  (0x2f8f0, "𣢧歔㱎歲殟殺殻𣪍𡴋𣫺汎𣲼沿泍汧洖派海流浩浸涅𣴞洴港湮㴳滋滇𣻑淹潮𣽞𣾎濆瀹瀞瀛㶖灊"),
  (0x2f918, "災灷炭𠔥煅𤉣熜𤎫爨爵牐𤘈犀犕𤜵𤠔獺王㺬玥㺸㺸瑇瑜瑱璅瓊㼛甤𤰶甾𤲒異𢆟瘐𤾡𤾸𥁄㿼䀈"),
  (0x2f940, "直𥃳𥃲𥄙𥄳眞真真睊䀹瞋䁆䂖𥐝硎碌磌䃣𥘦祖𥚚𥛅福秫䄯穀穊穏𥥼𥪧𥪧竮䈂𥮫篆築䈧𥲀糒䊠"),
  (0x2f968, "糨糣紀𥾆絣䌁緇縂繅䌴𦈨𦉇䍙𦋙罺𦌾羕翺者𦓚𦔣聠𦖨聰𣍟䏕育脃䐋脾媵𦞧𦞵𣎓𣎜舁舄辞䑫芑"),
  (0x2f990, "芋芝劳花芳芽苦𦬼若茝荣莭茣莽菧著荓菊菌菜𦰶𦵫𦳕䔫蓱蓳蔖𧏊蕤𦼬䕝䕡𦾱𧃒䕫虐虜虧虩蚩"),
  (0x2f9b8, "蚈蜎蛢蝹蜨蝫螆䗗蟡蠁䗹衠衣𧙧裗裞䘵裺㒻𧢮𧥦䚾䛇誠諭變豕𧲨貫賁贛起𧼯𠠄跋趼跰𠣞軔輸"),
  (0x2f9e0, "𨗒𨗭邔郱鄑𨜮鄛鈸鋗鋘鉼鏹鐕𨯺開䦕閷𨵷䧦雃嶲霣𩅅𩈚䩮䩶韠𩐊䪲𩒖頋頋頩𩖶飢䬳餩馧駂駾"),
  (0x2fa08, "䯎𩬰鬒鱀鳽䳎䳭鵧𪃎䳸𪄅𪈎𪊑麻䵖黹黾鼅鼏鼖鼻𪘀")]

/-- A mark, letters, and the same letters with the mark. -/
def markedForms : List (Nat × String × String) := [
  (0x300, "AEIOUaeiouÜüNnЕИеиĒēŌōWwÂâĂăÊê",
    "ÀÈÌÒÙàèìòùǛǜǸǹЀЍѐѝḔḕṐṑẀẁẦầẰằỀề"),
  (0x300, "ÔôƠơƯưYyἀἁἈἉἐἑἘἙἠἡἨἩἰἱἸἹὀὁὈὉὐὑ",
    "ỒồỜờỪừỲỳἂἃἊἋἒἓἚἛἢἣἪἫἲἳἺἻὂὃὊὋὒὓ"),
  (0x300, "ὙὠὡὨὩαεηιουωΑΕΗϊΙϋΥΟΩ",
    "ὛὢὣὪὫὰὲὴὶὸὺὼᾺῈῊῒῚῢῪῸῺ"),
  (0x301, "AEIOUYaeiouyCcLlNnRrSsZzÜüGgÅå",
    "ÁÉÍÓÚÝáéíóúýĆćĹĺŃńŔŕŚśŹźǗǘǴǵǺǻ"),
  (0x301, "ÆæØø̈ΑΕΗΙΟΥΩϊαεηιϋουωϒГКгкÇçĒē",
    "ǼǽǾǿ̈́ΆΈΉΊΌΎΏΐάέήίΰόύώϓЃЌѓќḈḉḖḗ"),
  (0x301, "ÏïKkMmÕõŌōPpŨũWwÂâĂăÊêÔôƠơƯưἀἁ",
    "ḮḯḰḱḾḿṌṍṒṓṔṕṸṹẂẃẤấẮắẾếỐốỚớỨứἄἅ"),
  (0x301, "ἈἉἐἑἘἙἠἡἨἩἰἱἸἹὀὁὈὉὐὑὙὠὡὨὩ",
    "ἌἍἔἕἜἝἤἥἬἭἴἵἼἽὄὅὌὍὔὕὝὤὥὬὭ"),
  (0x302, "AEIOUaeiouCcGgHhJjSsWwYyZzẠạẸẹ",
    "ÂÊÎÔÛâêîôûĈĉĜĝĤĥĴĵŜŝŴŵŶŷẐẑẬậỆệ"),
  (0x302, "Ọọ",
    "Ộộ"),
  (0x303, "ANOanoIiUuVvÂâĂăEeÊêÔôƠơƯưYy",
    "ÃÑÕãñõĨĩŨũṼṽẪẫẴẵẼẽỄễỖỗỠỡỮữỸỹ"),
  (0x304, "AaEeIiOoUuÜüÄäȦȧÆæǪǫÖöÕõȮȯYyИи",
    "ĀāĒēĪīŌōŪūǕǖǞǟǠǡǢǣǬǭȪȫȬȭȰȱȲȳӢӣ"),
  (0x304, "УуGgḶḷṚṛαΑιΙυΥ",
    "ӮӯḠḡḸḹṜṝᾱᾹῑῙῡῩ"),
  (0x306, "AaEeGgIiOoUuУИиуЖжАаЕеȨȩẠạαΑιΙ",
    "ĂăĔĕĞğĬĭŎŏŬŭЎЙйўӁӂӐӑӖӗḜḝẶặᾰᾸῐῘ"),
  (0x306, "υΥ",
    "ῠῨ"),
  (0x307, "CcEeGgIZzAaOoBbDdFfHhMmNnPpRrS",
    "ĊċĖėĠġİŻżȦȧȮȯḂḃḊḋḞḟḢḣṀṁṄṅṖṗṘṙṠ"),
  (0x307, "sŚśŠšṢṣTtWwXxYyſ",
    "ṡṤṥṦṧṨṩṪṫẆẇẊẋẎẏẛ"),
  (0x308, "AEIOUaeiouyYΙΥιυϒЕІеіАаӘәЖжЗзИ",
    "ÄËÏÖÜäëïöüÿŸΪΫϊϋϔЁЇёїӒӓӚӛӜӝӞӟӤ"),
  (0x308, "иОоӨөЭэУуЧчЫыHhÕõŪūWwXxt",
    "ӥӦӧӪӫӬӭӰӱӴӵӸӹḦḧṎṏṺṻẄẅẌẍẗ"),
  (0x309, "AaÂâĂăEeÊêIiOoÔôƠơUuƯưYy",
    "ẢảẨẩẲẳẺẻỂểỈỉỎỏỔổỞởỦủỬửỶỷ"),
  (0x30a, "AaUuwy",
    "ÅåŮůẘẙ"),
  (0x30b, "OoUuУу",
    "ŐőŰűӲӳ"),
  (0x30c, "CcDdEeLlNnRrSsTtZzAaIiOoUuÜüGg",
    "ČčĎďĚěĽľŇňŘřŠšŤťŽžǍǎǏǐǑǒǓǔǙǚǦǧ"),
  (0x30c, "KkƷʒjHh",
    "ǨǩǮǯǰȞȟ"),
  (0x30f, "AaEeIiOoRrUuѴѵ",
    "ȀȁȄȅȈȉȌȍȐȑȔȕѶѷ"),
  (0x311, "AaEeIiOoRrUu",
    "ȂȃȆȇȊȋȎȏȒȓȖȗ"),
  (0x313, "αΑεΕηΗιΙοΟυωΩρ",
    "ἀἈἐἘἠἨἰἸὀὈὐὠὨῤ"),
  (0x314, "αΑεΕηΗιΙοΟυΥωΩρΡ",
    "ἁἉἑἙἡἩἱἹὁὉὑὙὡὩῥῬ"),
  (0x31b, "OoUu",
    "ƠơƯư"),
  (0x323, "BbDdHhKkLlMmNnRrSsTtVvWwZzAaEe",
    "ḄḅḌḍḤḥḲḳḶḷṂṃṆṇṚṛṢṣṬṭṾṿẈẉẒẓẠạẸẹ"),
  (0x323, "IiOoƠơUuƯưYy",
    "ỊịỌọỢợỤụỰựỴỵ"),
  (0x324, "Uu",
    "Ṳṳ"),
  (0x325, "Aa",
    "Ḁḁ"),
  (0x326, "SsTt",
    "ȘșȚț"),
  (0x327, "CcGgKkLlNnRrSsTtEeDdHh",
    "ÇçĢģĶķĻļŅņŖŗŞşŢţȨȩḐḑḨḩ"),
  (0x328, "AaEeIiUuOo",
    "ĄąĘęĮįŲųǪǫ"),
  (0x32d, "DdEeLlNnTtUu",
    "ḒḓḘḙḼḽṊṋṰṱṶṷ"),
  (0x32e, "Hh",
    "Ḫḫ"),
  (0x330, "EeIiUu",
    "ḚḛḬḭṴṵ"),
  (0x331, "BbDdKkLlNnRrTtZzh",
    "ḆḇḎḏḴḵḺḻṈṉṞṟṮṯẔẕẖ"),
  (0x342, "ἀἁἈἉἠἡἨἩἰἱἸἹὐὑὙὠὡὨὩαηιϊυϋω",
    "ἆἇἎἏἦἧἮἯἶἷἾἿὖὗὟὦὧὮὯᾶῆῖῗῦῧῶ"),
  (0x345, "ἀἁἂἃἄἅἆἇἈἉἊἋἌἍἎἏἠἡἢἣἤἥἦἧἨἩἪἫἬἭ",
    "ᾀᾁᾂᾃᾄᾅᾆᾇᾈᾉᾊᾋᾌᾍᾎᾏᾐᾑᾒᾓᾔᾕᾖᾗᾘᾙᾚᾛᾜᾝ"),
  (0x345, "ἮἯὠὡὢὣὤὥὦὧὨὩὪὫὬὭὮὯὰαάᾶΑὴηήῆΗὼω",
    "ᾞᾟᾠᾡᾢᾣᾤᾥᾦᾧᾨᾩᾪᾫᾬᾭᾮᾯᾲᾳᾴᾷᾼῂῃῄῇῌῲῳ"),
  (0x345, "ώῶΩ",
    "ῴῷῼ"),
  (0x5b4, "י",
    "יִ"),
  (0x5b7, "ײא",
    "ײַאַ"),
  (0x5b8, "א",
    "אָ"),
  (0x5b9, "ו",
    "וֹ"),
  (0x5bc, "אבגדהוזטיךכלמנסףפצקרשת",
    "אּבּגּדּהּוּזּטּיּךּכּלּמּנּסּףּפּצּקּרּשּתּ"),
  (0x5bf, "בכפ",
    "בֿכֿפֿ"),
  (0x5c1, "ששּ",
    "שׁשּׁ"),
  (0x5c2, "ששּ",
    "שׂשּׂ"),
  (0x653, "ا",
    "آ"),
  (0x654, "اويەہے",
    "أؤئۀۂۓ"),
  (0x655, "ا",
    "إ"),
  (0x93c, "नरळकखगजडढफय",
    "ऩऱऴक़ख़ग़ज़ड़ढ़फ़य़"),
  (0x9bc, "ডঢয",
    "ড়ঢ়য়"),
  (0x9be, "ে",
    "ো"),
  (0x9d7, "ে",
    "ৌ"),
  (0xa3c, "ਲਸਖਗਜਫ",
    "ਲ਼ਸ਼ਖ਼ਗ਼ਜ਼ਫ਼"),
  (0xb3c, "ଡଢ",
    "ଡ଼ଢ଼"),
  (0xb3e, "େ",
    "ୋ"),
  (0xb56, "େ",
    "ୈ"),
  (0xb57, "େ",
    "ୌ"),
  (0xbbe, "ெே",
    "ொோ"),
  (0xbd7, "ஒெ",
    "ஔௌ"),
  (0xc56, "ె",
    "ై"),
  (0xcc2, "ೆ",
    "ೊ"),
  (0xcd5, "ಿೆೊ",
    "ೀೇೋ"),
  (0xcd6, "ೆ",
    "ೈ"),
  (0xd3e, "െേ",
    "ൊോ"),
  (0xd57, "െ",
    "ൌ"),
  (0xdca, "ෙො",
    "ේෝ"),
  (0xdcf, "ෙ",
    "ො"),
  (0xddf, "ෙ",
    "ෞ"),
  (0xf72, "ཱ",
    "ཱི"),
  (0xf74, "ཱ",
    "ཱུ"),
  (0xf80, "ྲླཱ",
    "ྲྀླཱྀྀ"),
  (0xfb5, "ཀྐ",
    "ཀྵྐྵ"),
  (0xfb7, "གཌདབཛྒྜྡྦྫ",
    "གྷཌྷདྷབྷཛྷྒྷྜྷྡྷྦྷྫྷ"),
  (0x102e, "ဥ",
    "ဦ"),
  (0x1b35, "ᬅᬇᬉᬋᬍᬑᬺᬼᬾᬿᭂ",
    "ᬆᬈᬊᬌᬎᬒᬻᬽᭀᭁᭃ"),
  (0x3099, "かきくけこさしすせそたちつてとはひふへほうゝカキクケコサシス",
    "がぎぐげござじずぜぞだぢづでどばびぶべぼゔゞガギグゲゴザジズ"),
  (0x3099, "セソタチツテトハヒフヘホウワヰヱヲヽ",
    "ゼゾダヂヅデドバビブベボヴヷヸヹヺヾ"),
  (0x309a, "はひふへほハヒフヘホ",
    "ぱぴぷぺぽパピプペポ"),
  (0x110ba, "𑂙𑂛𑂥",
    "𑂚𑂜𑂫"),
  (0x11127, "𑄱𑄲",
    "𑄮𑄯"),
  (0x1133e, "𑍇",
    "𑍋"),
  (0x11357, "𑍇",
    "𑍌"),
  (0x114b0, "𑒹",
    "𑒼"),
  (0x114ba, "𑒹",
    "𑒻"),
  (0x114bd, "𑒹",
    "𑒾"),
  (0x115af, "𑖸𑖹",
    "𑖺𑖻"),
  (0x11930, "𑤵",
    "𑤸")]

/-- Characters that stand for several others. -/
def groups : List (Nat × List Nat) := [
  (0x132, [0x49, 0x4a]), (0x133, [0x69, 0x6a]), (0x13f, [0x4c, 0xb7]), (0x140, [0x6c, 0xb7]),
  (0x149, [0x2bc, 0x6e]), (0x1c4, [0x44, 0x5a, 0x30c]), (0x1c5, [0x44, 0x7a, 0x30c]),
  (0x1c6, [0x64, 0x7a, 0x30c]), (0x1c7, [0x4c, 0x4a]), (0x1c8, [0x4c, 0x6a]),
  (0x1c9, [0x6c, 0x6a]), (0x1ca, [0x4e, 0x4a]), (0x1cb, [0x4e, 0x6a]), (0x1cc, [0x6e, 0x6a]),
  (0x1f1, [0x44, 0x5a]), (0x1f2, [0x44, 0x7a]), (0x1f3, [0x64, 0x7a]), (0x587, [0x565, 0x582]),
  (0x675, [0x627, 0x674]), (0x676, [0x648, 0x674]), (0x677, [0x6c7, 0x674]),
  (0x678, [0x64a, 0x674]), (0xe33, [0xe4d, 0xe32]), (0xeb3, [0xecd, 0xeb2]),
  (0xedc, [0xeab, 0xe99]), (0xedd, [0xeab, 0xea1]), (0xf77, [0xfb2, 0xf71, 0xf80]),
  (0xf79, [0xfb3, 0xf71, 0xf80]), (0x1e9a, [0x61, 0x2be]), (0x1f71, [0x3b1, 0x301]),
  (0x1f73, [0x3b5, 0x301]), (0x1f75, [0x3b7, 0x301]), (0x1f77, [0x3b9, 0x301]),
  (0x1f79, [0x3bf, 0x301]), (0x1f7b, [0x3c5, 0x301]), (0x1f7d, [0x3c9, 0x301]),
  (0x1fbb, [0x391, 0x301]), (0x1fc9, [0x395, 0x301]), (0x1fcb, [0x397, 0x301]),
  (0x1fd3, [0x3b9, 0x308, 0x301]), (0x1fdb, [0x399, 0x301]), (0x1fe3, [0x3c5, 0x308, 0x301]),
  (0x1feb, [0x3a5, 0x301]), (0x1ff9, [0x39f, 0x301]), (0x1ffb, [0x3a9, 0x301]),
  (0x212b, [0x41, 0x30a]), (0x2161, [0x49, 0x49]), (0x2162, [0x49, 0x49, 0x49]),
  (0x2163, [0x49, 0x56]), (0x2165, [0x56, 0x49]), (0x2166, [0x56, 0x49, 0x49]),
  (0x2167, [0x56, 0x49, 0x49, 0x49]), (0x2168, [0x49, 0x58]), (0x216a, [0x58, 0x49]),
  (0x216b, [0x58, 0x49, 0x49]), (0x2171, [0x69, 0x69]), (0x2172, [0x69, 0x69, 0x69]),
  (0x2173, [0x69, 0x76]), (0x2175, [0x76, 0x69]), (0x2176, [0x76, 0x69, 0x69]),
  (0x2177, [0x76, 0x69, 0x69, 0x69]), (0x2178, [0x69, 0x78]), (0x217a, [0x78, 0x69]),
  (0x217b, [0x78, 0x69, 0x69]), (0x309f, [0x3088, 0x308a]), (0x30ff, [0x30b3, 0x30c8]),
  (0xfb00, [0x66, 0x66]), (0xfb01, [0x66, 0x69]), (0xfb02, [0x66, 0x6c]),
  (0xfb03, [0x66, 0x66, 0x69]), (0xfb04, [0x66, 0x66, 0x6c]), (0xfb05, [0x73, 0x74]),
  (0xfb06, [0x73, 0x74]), (0xfb13, [0x574, 0x576]), (0xfb14, [0x574, 0x565]),
  (0xfb15, [0x574, 0x56b]), (0xfb16, [0x57e, 0x576]), (0xfb17, [0x574, 0x56d]),
  (0xfb4f, [0x5d0, 0x5dc])]

def plainForm? (c : Char) : Option (List Char) :=
  plainForms.findSome? fun r =>
    if r.1 ≤ c.toNat then (r.2.toList[c.toNat - r.1]?).bind fun d =>
      if d = c then none else some [d]
    else none

def markedForm? (c : Char) : Option (List Char) :=
  markedForms.findSome? fun (mark, letters, marked) =>
    ((marked.toList.idxOf? c).bind (letters.toList[·]?)).map fun letter => [letter, .ofNat mark]

def group? (c : Char) : Option (List Char) := (groups.lookup c.toNat).map (·.map Char.ofNat)

/-- What a character is made of, if it can be taken apart. -/
def parts? (c : Char) : Option (List Char) :=
  if c.toNat < 0x80 then none else plainForm? c <|> markedForm? c <|> group? c

/-- A text with its characters taken apart so many times. -/
def apart : Nat → List Char → List Char
  | 0, s => s
  | n + 1, s => apart n (s.flatMap fun c => (parts? c).getD [c])

/-- No character can be taken apart more often than this. -/
def depthOfParts : Nat := 4

def areAlike (s t : List Char) : Bool := apart depthOfParts s = apart depthOfParts t

end UmlPress.Text
